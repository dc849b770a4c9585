import Conform.Schema.Declaration
import Conform.DataType.Validate
/-! Loading a schema: a data type for each top-level declaration, in document order, with references
copied and bases looked up; the first problem met stops the loading.
-/

namespace Conform.Schema

open Conform.Number Conform.Calendar Conform.Yaml

/-- Why a schema could not be loaded. -/
inductive LoadError where
  /-- The text is not a schema document. -/
  | decoding (message : String)
  /-- A top-level declaration has no name. -/
  | unnamed
  | duplicateType (name : String)
  | unknownType (name : String)
  | circularType (name : String)
  | unknownKind (typeName kindName : String)
  | unknownRule (rule typeName : String)
  /-- A setting that does not fit its type, with what is wrong. -/
  | invalidProperty (detail : String)
  /-- A declaration written as null was used. -/
  | missingDeclaration
  /-- A decimal bound that is not a finite number. -/
  | badDecimalBound (typeName setting shown : String)
  /-- A declaration is built inside itself without end: building went deeper than the schema's
  text allows, and the program runs out of stack. -/
  | endlessNesting
  deriving Repr, Inhabited, DecidableEq

/-- The message of a loading error. -/
def LoadError.message : LoadError → String
  | .decoding m => "decoding schema: " ++ m
  | .unnamed => "invalid property: top level type without a name"
  | .duplicateType n => "duplicate type: " ++ n
  | .unknownType n => "unknown type: " ++ n
  | .circularType n => "circular type reference: " ++ n
  | .unknownKind t k => "unknown kind: type " ++ t ++ ": " ++ Kind.unknownMessage k
  | .unknownRule r t => "unknown rule: " ++ r ++ " on type " ++ t
  | .invalidProperty d => "invalid property: " ++ d
  | .missingDeclaration => "runtime error: invalid memory address or nil pointer dereference"
  | .badDecimalBound t s v => "decimal type " ++ Text.quote t ++ ": invalid " ++ s ++ " " ++ v
  | .endlessNesting => "stack overflow"

end Conform.Schema

namespace Conform

/-- A loaded schema: the top-level types by name, and their names in document order. -/
structure Schema where
  types : List (String × DataType)
  names : List String

end Conform

namespace Conform.Schema

open Conform.Number Conform.Calendar Conform.Yaml

/-- The top-level type with a name. -/
def get? (s : Schema) (name : String) : Option DataType :=
  (s.types.find? (·.1 == name)).map (·.2)

/-- What loading keeps track of: the custom rules declarations may name, the top-level
declarations, the types built so far, and the names being built. -/
structure Loader where
  rules : List (String × Rule)
  declarations : List (String × Declaration)
  built : List (String × DataType) := []
  building : List String := []

/-- Loading steps. -/
abbrev LoadM := StateT Loader (Except LoadError)

/-- Mark a name as being built, or no longer. -/
def setBuilding (name : String) (on : Bool) : LoadM Unit :=
  modify fun l => { l with
    building := if on then name :: l.building.filter (· != name) else l.building.filter (· != name) }

/-- Run a step with a name marked as being built, unmarking it afterwards; a failed step ends
the loading, so its marks no longer matter. -/
def whileBuilding (name : String) (m : LoadM α) : LoadM α := do
  setBuilding name true
  let a ← m
  setBuilding name false
  return a

/-- The copy of a referenced declaration made where a declaration `d` refers to it: with the
name, description and required flag of `d` when `d` gives them, and with the rules of both,
the referenced declaration's first. -/
def Declaration.copyAt (target d : Declaration) : Declaration :=
  { target with
    name := if d.name.isEmpty then target.name else d.name
    description := if d.description.isEmpty then target.description else d.description
    required := if d.required.isSome then d.required else target.required
    rules := target.rules ++ d.rules }

/-- The declaration a reference names, copied where it is referred to. A chain of references
is followed to its end. -/
def resolveRef : Nat → Declaration → LoadM Declaration
  | 0, _ => throw .endlessNesting
  | fuel + 1, d => do
    let l ← get
    match l.declarations.find? (·.1 == d.ref) with
    | none => throw (.unknownType d.ref)
    | some (_, target) =>
      if l.building.contains d.ref then throw (.circularType d.ref)
      let merged := target.copyAt d
      if merged.ref.isEmpty then return merged
      whileBuilding d.ref (resolveRef fuel merged)

/-- The custom rules a declaration names. -/
def customRules (d : Declaration) : LoadM (List Rule) := do
  let known := (← get).rules
  d.rules.mapM fun r =>
    match known.find? (·.1 == r) with
    | some (_, rule) => pure rule
    | none => throw (.unknownRule r d.name)

/-- A number bound: a whole number or a float. -/
def floatBound (d : Declaration) (setting : String) : Option Loose → LoadM (Option Float)
  | none | some (.scalar .null) => pure none
  | some (.scalar (.int n)) => pure (some (floatOfRational (n < 0) n.natAbs 1).1)
  | some (.scalar (.uint n)) => pure (some (floatOfRational false n 1).1)
  | some (.scalar (.float x)) => pure (some x)
  | _ => throw (.invalidProperty (setting ++ " of " ++ d.name ++ " must be a number"))

/-- A decimal bound as written: a number, or a text read as a decimal. -/
inductive DecimalBound where
  | whole (n : Int)
  | float (x : Float)
  | exact (d : Decimal)

/-- A decimal bound: a whole number, a float or a text that reads as a decimal. -/
def decimalBound (d : Declaration) (setting : String) : Option Loose → LoadM (Option DecimalBound)
  | none | some (.scalar .null) => pure none
  | some (.scalar (.int n)) => pure (some (.whole n))
  | some (.scalar (.uint n)) => pure (some (.whole n))
  | some (.scalar (.float x)) => pure (some (.float x))
  | some (.scalar (.text s)) =>
    match Decimal.ofString s with
    | .ok v => pure (some (.exact v))
    | .error e => throw (.invalidProperty (setting ++ " of " ++ d.name ++ ": " ++ e.message))
  | _ => throw (.invalidProperty (setting ++ " of " ++ d.name ++ " must be a number"))

/-- The exact decimal of a bound; a float bound must be finite. -/
def DecimalBound.toDecimal (typeName setting : String) : Option DecimalBound → LoadM (Option Decimal)
  | none => pure none
  | some (.whole n) => pure (some (Decimal.ofInt n))
  | some (.exact v) => pure (some v)
  | some (.float x) =>
    if Value.isFiniteFloat x then pure (some (Decimal.ofFloat x))
    else throw (.badDecimalBound typeName setting (formatFloat .general x))

/-- The layouts a date bound may be written in: a date alone, then a full timestamp. -/
def boundLayouts : List Layout := [Layout.dateOnly, Layout.rfc3339]

/-- A date bound: a timestamp, or a text in a bound layout. -/
def dateBound (d : Declaration) (setting : String) : Option Loose → LoadM (Option Moment)
  | none | some (.scalar .null) => pure none
  | some (.scalar (.timestamp t)) => pure (some t)
  | some (.scalar (.text s)) =>
    match readFirst? boundLayouts s with
    | some t => pure (some t)
    | none => throw (.invalidProperty (setting ++ " of " ++ d.name ++ " must be a date"))
  | _ => throw (.invalidProperty (setting ++ " of " ++ d.name ++ " must be a date"))

mutual

/-- The type of a top-level name, built once. -/
def named : Nat → String → LoadM DataType
  | 0, _ => throw .endlessNesting
  | fuel + 1, name => do
    let l ← get
    match l.built.find? (·.1 == name) with
    | some (_, t) => return t
    | none =>
      match l.declarations.find? (·.1 == name) with
      | none => throw (.unknownType name)
      | some (_, d) =>
        if l.building.contains name then throw (.circularType name)
        let t ← whileBuilding name (build fuel (some d))
        modify fun l => { l with built := l.built ++ [(name, t)] }
        return t

/-- The type of a declaration. -/
def build : Nat → Option Declaration → LoadM DataType
  | 0, _ => throw .endlessNesting
  | _, none => throw .missingDeclaration
  | fuel + 1, some d => do
    let d ← if d.ref.isEmpty then pure d else resolveRef fuel d
    let some kind := Kind.ofName? d.kind | throw (.unknownKind d.name d.kind)
    let custom ← customRules d
    let basics : Basics :=
      { name := d.name, description := d.description, required := d.required == some true,
        custom }
    match kind with
    | .text => return .text basics d.minLength d.maxLength d.format
    | .number =>
      let min ← floatBound d "min" d.min
      let max ← floatBound d "max" d.max
      return .number basics min max d.format
    | .decimal =>
      let min ← decimalBound d "min" d.min
      let max ← decimalBound d "max" d.max
      let min ← DecimalBound.toDecimal d.name "min" min
      let max ← DecimalBound.toDecimal d.name "max" max
      return .decimal basics min max d.decimalPlaces
    | .date =>
      let min ← dateBound d "min" d.min
      let max ← dateBound d "max" d.max
      return .date basics min max
    | .choice => return .choice basics d.values d.valueNames
    | .trueFalse => return .trueFalse basics
    | .list =>
      match d.itemType with
      | none => throw (.invalidProperty ("list " ++ d.name ++ " has no itemType"))
      | some item => return .list basics (← build fuel (some item))
    | .record =>
      let basedOn ← if d.basedOn.isEmpty then pure none else do
        let base ← named fuel d.basedOn
        match base with
        | .record .. => pure (some base)
        | _ => throw (.invalidProperty (d.name ++ " is based on " ++ d.basedOn ++
            " which is not a record"))
      let fields ← d.fields.mapM (build fuel)
      return .record basics basedOn fields

end

/-- Load the declarations of a schema document, with the custom rules they may name, building
nested types at most `fuel` deep. -/
def loadDocument (rules : List (String × Rule)) (fuel : Nat) (doc : Document) :
    Except LoadError Schema := do
  let mut declarations : List (String × Declaration) := []
  let mut names : List String := []
  for entry in doc.types do
    match entry with
    | none => throw .missingDeclaration
    | some d =>
      if d.name.isEmpty then throw .unnamed
      if names.contains d.name then throw (.duplicateType d.name)
      declarations := declarations ++ [(d.name, d)]
      names := names ++ [d.name]
  let build : LoadM (List (String × DataType)) := names.mapM fun n => do
    return (n, ← named fuel n)
  match build.run { rules, declarations } with
  | .ok (types, _) => pure { types, names }
  | .error e => throw e

/-- Load a schema from its text, with the custom rules its declarations may name. -/
def load (rules : List (String × Rule)) (text : String) : Except LoadError Schema := do
  let doc ← match Document.read text with
    | .ok doc => pure doc
    | .error m => throw (.decoding m)
  loadDocument rules (64 * (text.length + 8)) doc

end Conform.Schema
