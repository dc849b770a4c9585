import Conform.Rule
/-!
A catalogue of named custom rules that schemas may refer to: tests on texts, flags, lists and
maps, number rules that need a value to fit a width, and rules that always pass, never pass,
stop a batch or stop validation altogether.
-/

namespace Conform

namespace Rule

/-- Whether a map entry is the text `s`. -/
def entryIs (entries : List (String × Value)) (key s : String) : Bool :=
  match entries.find? (·.1 == key) with
  | some (_, .text t) => t == s
  | _ => false

/-- Whether a map has a present value under a key. -/
def entryPresent (entries : List (String × Value)) (key : String) : Bool :=
  match entries.find? (·.1 == key) with
  | some (_, v) => match v with | .null => false | _ => true
  | none => false

/-- Whether a float is an even whole number. -/
def isEven (x : Float) : Bool :=
  match (Number.valueOf x).toInt? with
  | some n => n % 2 == 0
  | none => false

/-- The named rules, in the order they are listed. -/
def catalogue : List (String × Rule) :=
  [ ("nonEmpty", forText "nonEmpty" "Must not be empty" fun s => !s.isEmpty),
    ("noSpaces", forText "noSpaces" "Must not contain spaces" fun s => !s.contains ' '),
    ("isTrue", forFlag "isTrue" "Must be true" id),
    ("hasItems", forList "hasItems" "Must have items" fun items => !items.isEmpty),
    ("hasId", forMap "hasId" "Must have an id" fun entries => entries.any (·.1 == "id")),
    ("ukNeedsPostcode", forMap "ukNeedsPostcode" "If country is UK postcode is required"
      fun entries => !entryIs entries "Country" "UK" || entryPresent entries "PostCode"),
    ("allInUK", forList "allInUK" "All customers must be in UK" fun items =>
      items.all fun
        | .map entries => entryIs entries "Country" "UK"
        | _ => false),
    ("even", forNumber "even" "Must be even" .int64 isEven),
    ("positive", forNumber "positive" "Must be positive" .float64 fun x => x > 0),
    ("int8", forNumber "int8" "Must fit in int8" .int8 fun _ => true),
    ("int32", forNumber "int32" "Must fit in int32" .int32 fun _ => true),
    ("uint8", forNumber "uint8" "Must fit in uint8" .uint8 fun _ => true),
    ("uint64", forNumber "uint64" "Must fit in uint64" .uint64 fun _ => true),
    ("float32Small", forNumber "float32Small" "Must be below 1000" .float32
      fun x => x.toFloat32 < 1000),
    ("isString", ofTest "isString" "Must be a string" fun
      | .text _ => true
      | _ => false),
    ("always", ofTest "always" "Always valid" fun _ => true),
    ("never", ofTest "never" "Never valid" fun _ => false),
    ("cancelBatch", ⟨"cancelBatch", "Cancels the batch", fun _ => .cancel⟩),
    ("panics", ⟨"panics", "Panics", fun _ => .abort "rule panicked"⟩) ]

/-- The rule of the catalogue with a name. -/
def named? (name : String) : Option Rule := (catalogue.find? (·.1 == name)).map (·.2)

end Rule

end Conform
