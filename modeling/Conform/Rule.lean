import Conform.Value.Numeric
/-!
Rules: a name, a description that is the message when the rule is broken, and a check. A check
passes or fails; it may also stop the whole validation with a message, or pass and ask a batch
of validations to stop. Typed rules see only values of one kind and fail every other value; a
number rule reads its value as a float, needs it to fit a width, and then tests it.
-/

namespace Conform

/-- What a rule's check says of a value. -/
inductive Verdict where
  | pass
  | fail
  /-- Stop validating, with a message. -/
  | abort (message : String)
  /-- Pass, and ask the batch this validation belongs to to stop. -/
  | cancel
  deriving Repr, DecidableEq, Inhabited

/-- A verdict from a yes or no. -/
def Verdict.ofBool (b : Bool) : Verdict := if b then .pass else .fail

/-- A named rule with the description shown when it is broken. -/
structure Rule where
  name : String
  description : String
  check : Value → Verdict

namespace Rule

/-- A rule from a test of any value. -/
def ofTest (name description : String) (test : Value → Bool) : Rule :=
  ⟨name, description, fun v => .ofBool (test v)⟩

/-- A rule that sees texts only. -/
def forText (name description : String) (test : String → Bool) : Rule :=
  ofTest name description fun
    | .text s => test s
    | _ => false

/-- A rule that sees flags only. -/
def forFlag (name description : String) (test : Bool → Bool) : Rule :=
  ofTest name description fun
    | .bool b => test b
    | _ => false

/-- A rule that sees lists only. -/
def forList (name description : String) (test : List Value → Bool) : Rule :=
  ofTest name description fun
    | .list items => test items
    | _ => false

/-- A rule that sees maps from texts only. -/
def forMap (name description : String) (test : List (String × Value) → Bool) : Rule :=
  ofTest name description fun
    | .map entries => test entries
    | _ => false

/-- A rule that reads its value as a float that a width holds, and then tests it. -/
def forNumber (name description : String) (width : NumberWidth) (test : Float → Bool) : Rule :=
  ofTest name description fun v =>
    match v.toFloat? with
    | some x => width.holds x && test x
    | none => false

end Rule

end Conform
