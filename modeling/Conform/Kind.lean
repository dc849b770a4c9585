import Conform.Text.Fold
import Conform.Text.Quoted
/-!
The eight kinds of data a type can describe, their names, their numeric codes and the
reading of a kind from its name, which ignores case under Unicode simple case folding.
-/

namespace Conform

/-- What sort of value a type describes. -/
inductive Kind where
  | text
  | number
  | decimal
  | date
  | choice
  | trueFalse
  | list
  | record
  deriving Repr, DecidableEq, Inhabited

namespace Kind

/-- Every kind, in the order of their codes. -/
def all : List Kind := [.text, .number, .decimal, .date, .choice, .trueFalse, .list, .record]

/-- The name of a kind. -/
def name : Kind → String
  | .text => "Text"
  | .number => "Number"
  | .decimal => "Decimal"
  | .date => "Date"
  | .choice => "Choice"
  | .trueFalse => "TrueFalse"
  | .list => "List"
  | .record => "Record"

/-- The numeric code of a kind, from 0 for text to 7 for records. -/
def code : Kind → Nat
  | .text => 0
  | .number => 1
  | .decimal => 2
  | .date => 3
  | .choice => 4
  | .trueFalse => 5
  | .list => 6
  | .record => 7

/-- The kind with a code, if there is one. -/
def ofCode? (n : Int) : Option Kind :=
  all.find? fun k => (k.code : Int) == n

/-- The name shown for a code: the kind's name, or `Kind(n)` for a code no kind has. -/
def codeName (n : Int) : String :=
  match ofCode? n with
  | some k => k.name
  | none => "Kind(" ++ toString n ++ ")"

/-- The kind whose name equals `s` under case folding. -/
def ofName? (s : String) : Option Kind :=
  all.find? fun k => Text.equalFold k.name s

/-- The message for a name that no kind has. -/
def unknownMessage (s : String) : String :=
  "unknown kind " ++ Text.quote s

end Kind

end Conform
