import Conform.DataType.Rules
import Conform.Failures
/-! Validation of a value by a type: an absent value fails only a required type, a present one
fails the rules it breaks, and lists and records check their children too.
-/

namespace Conform

/-- Validation steps: a rule may stop them with a message, or raise the flag that asks the
batch to stop. -/
abbrev Checking := StateT Bool (Except String)

/-- The descriptions of the rules a value breaks, in rule order. -/
def brokenRules (rules : List Rule) (v : Value) : Checking (List String) :=
  rules.filterMapM fun r =>
    match r.check v with
    | .pass => pure none
    | .fail => pure (some r.description)
    | .abort message => throw message
    | .cancel => do set true; pure none

namespace Value

/-- The items of a value that is a list; none for any other value. -/
def items : Value → List Value
  | .list items => items
  | _ => []

/-- The value of a record field under a code name: the entry of a map with that key, or the
field of a record with that name, looking through one reference; absent otherwise. -/
def fieldValue (v : Value) (codeName : String) : Value := (v.field? codeName).getD .null

end Value

namespace DataType

/-- Validate a value: none when it passes, else its failures. -/
def check : DataType → Value → Checking (Option Failures)
  | t@(.list _ item), v => do
    if v.isAbsent then
      return if t.required then some (.messages ["Required"]) else none
    let own ← brokenRules t.rules v
    let children ← v.items.zipIdx.filterMapM fun (x, i) => do
      match ← check item x with
      | some f => pure (some (toString i, some f))
      | none => pure none
    return if own.isEmpty && children.isEmpty then none else some (.nested own children)
  | .record b basedOn own, v => do
    if v.isAbsent then
      return if b.required then some (.messages ["Required"]) else none
    let ownFailures ← brokenRules (DataType.record b basedOn own).rules v
    let children ← (DataType.record b basedOn own).fields.attach.filterMapM fun ⟨f, h⟩ => do
      have := sizeOf_lt_of_mem_fields h
      match ← check f (v.fieldValue f.codeName) with
      | some e => pure (some (f.codeName, some e))
      | none => pure none
    return if ownFailures.isEmpty && children.isEmpty then none
      else some (.nested ownFailures children)
  | t, v => do
    if v.isAbsent then
      return if t.required then some (.messages ["Required"]) else none
    let broken ← brokenRules t.rules v
    return if broken.isEmpty then none else some (.messages broken)
termination_by t => t
decreasing_by
  all_goals simp_wf
  all_goals first | omega | (simp only [DataType.record.sizeOf_spec] at this; omega)

/-- Whether a value has the shape a type's kind expects: a text for text, a flag for true or
false, a moment for a date, a list for a list, a map from texts for a record; for a number any
value that reads as a finite float except a text; for a decimal a decimal, or else as for a
number; for a choice a plain scalar. -/
def admits (t : DataType) (v : Value) : Bool :=
  match t with
  | .text .. => match v with | .text _ => true | _ => false
  | .number .. =>
    match v with
    | .text _ => false
    | _ => (v.toFloat?.map Value.isFiniteFloat).getD false
  | .decimal .. =>
    match v with
    | .decimal _ | .ref (.decimal _) => true
    | .text _ => false
    | _ => (v.toFloat?.map Value.isFiniteFloat).getD false
  | .date .. => match v with | .moment _ => true | _ => false
  | .choice .. => v.isPlainScalar
  | .trueFalse _ => match v with | .bool _ => true | _ => false
  | .list .. => match v with | .list _ => true | _ => false
  | .record .. => match v with | .map _ => true | _ => false

end DataType

end Conform
