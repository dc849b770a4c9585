/-!
JSON documents as trees. Numbers keep the exact text they were written with, and objects keep
their members in the order written, repeated names included, so that a document can be read,
inspected and written back without losing anything a later stage looks at.
-/

namespace Conform

/-- A JSON document. -/
inductive JsonValue where
  | null
  | bool (b : Bool)
  /-- A number, as the text of the literal. -/
  | number (text : String)
  | string (s : String)
  | array (items : List JsonValue)
  /-- An object: its members in the order written. -/
  | object (members : List (String × JsonValue))
  deriving Inhabited, Repr

namespace JsonValue

/-- The value of the last member named `key`, which is the one a map keeps. -/
def lookup (members : List (String × JsonValue)) (key : String) : Option JsonValue :=
  members.foldl (fun found m => if m.1 == key then some m.2 else found) none

/-- The member `key` of an object; nothing for other documents. -/
def field? : JsonValue → String → Option JsonValue
  | .object members, key => lookup members key
  | _, _ => none

end JsonValue

end Conform
