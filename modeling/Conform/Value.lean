import Conform.Number.Decimal
import Conform.Calendar.Text
/-!
The values that types validate: what a decoded JSON document holds (null, flags, texts, numbers
kept as their text, lists and maps) and the host values a caller may pass beside them (floats of
two widths, whole numbers, moments, decimals, bytes, references and records with named fields).
A value is absent when it is null or a reference to nothing. Every value has a display text:
texts as they are, numbers in their shortest form, collections in brackets.
-/

namespace Conform

open Conform.Number Conform.Calendar

/-- A value to validate. -/
inductive Value where
  | null
  | bool (b : Bool)
  | text (s : String)
  /-- A number as written in JSON, kept as its text. -/
  | number (text : String)
  | float (x : Float)
  | float32 (x : Float32)
  /-- A signed 64-bit whole number. -/
  | int (n : Int)
  /-- An unsigned 64-bit whole number. -/
  | uint (n : Nat)
  | moment (t : Moment)
  | decimal (d : Decimal)
  | bytes (b : List UInt8)
  /-- A reference to nothing. -/
  | nothing
  /-- A reference to a value. -/
  | ref (v : Value)
  | list (items : List Value)
  /-- A map from texts to values; each key appears once. -/
  | map (entries : List (String × Value))
  /-- A map from whole numbers to values; each key appears once. -/
  | intMap (entries : List (Int × Value))
  /-- A record with named fields, in the order of their names. -/
  | record (fields : List (String × Value))
  deriving Inhabited

namespace Value

/-- Whether a value is missing: null or a reference to nothing. -/
def isAbsent : Value → Bool
  | .null | .nothing => true
  | _ => false

/-- Whether a value is a plain scalar: a text, a flag, a number of any kind or a moment. -/
def isPlainScalar : Value → Bool
  | .text _ | .number _ | .bool _ | .float _ | .float32 _ | .int _ | .uint _ | .moment _ => true
  | _ => false

/-- Whether a value is a number held by the host: a float or a whole number. -/
def isHostNumber : Value → Bool
  | .float _ | .float32 _ | .int _ | .uint _ => true
  | _ => false

/-- The value stored under a key of a map, or a field of a record, looking through one
reference; none when it is not there or the value has no keys. -/
def field? (v : Value) (key : String) : Option Value :=
  let v := match v with
    | .ref inner => inner
    | other => other
  match v with
  | .map entries => (entries.find? (·.1 == key)).map (·.2)
  | .record fields => (fields.find? (·.1 == key)).map (·.2)
  | _ => none

/-- Insert a key into a map, replacing an earlier value of the key in its place. -/
def insertEntry (entries : List (String × Value)) (key : String) (v : Value) :
    List (String × Value) :=
  if entries.any (·.1 == key) then entries.map fun (k, old) => (k, if k == key then v else old)
  else entries ++ [(key, v)]

/-- Sort keyed texts by key. -/
def sortByKey {κ : Type} [Ord κ] (entries : List (κ × String)) : List (κ × String) :=
  entries.mergeSort fun a b => compare a.1 b.1 != .gt

/-- The display text of a value inside a collection or at the top: texts as they are, JSON
numbers as written, floats in their shortest general form, moments and decimals in their
standard text, bytes and lists in brackets separated by spaces, maps as `map[k:v ...]` sorted
by key, records as `{v ...}`. A reference shows the text of a decimal or moment it points to;
any other reference shows as an address. -/
def display : Value → String
  | .null => "<nil>"
  | .bool b => if b then "true" else "false"
  | .text s => s
  | .number s => s
  | .float x => formatFloat .general x
  | .float32 x => formatFloat32 .general x
  | .int n => toString n
  | .uint n => toString n
  | .moment t => t.display
  | .decimal d => d.toString
  | .bytes bs => "[" ++ " ".intercalate (bs.map fun b => toString b.toNat) ++ "]"
  | .nothing => "<nil>"
  | .ref (.decimal d) => d.toString
  | .ref (.moment t) => t.display
  | .ref _ => "0xc000010000"
  | .list items => "[" ++ " ".intercalate (items.attach.map fun ⟨v, _⟩ => display v) ++ "]"
  | .map entries =>
    let shown := entries.attach.map fun ⟨(k, v), _⟩ => (k, display v)
    "map[" ++ " ".intercalate ((sortByKey shown).map fun (k, t) => k ++ ":" ++ t) ++ "]"
  | .intMap entries =>
    let shown := entries.attach.map fun ⟨(k, v), _⟩ => (k, display v)
    "map[" ++ " ".intercalate ((sortByKey shown).map fun (k, t) => toString k ++ ":" ++ t) ++ "]"
  | .record fields =>
    "\x7b" ++ " ".intercalate (fields.attach.map fun ⟨(_, v), _⟩ => display v) ++ "\x7d"
termination_by v => v
decreasing_by
  all_goals simp_wf
  all_goals have := List.sizeOf_lt_of_mem ‹_ ∈ _›
  all_goals try simp at this
  all_goals omega

end Value

end Conform
