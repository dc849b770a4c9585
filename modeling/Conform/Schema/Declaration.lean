import Conform.Yaml.Decode
/-!
Declarations: the written form of types in a schema document, read from YAML. A declaration
names a type and its kind, or refers to another top-level declaration, and gives the settings
of its kind; fields and item types are declarations written inline. A document is a list of
top-level declarations under `types`. Keys that no declaration setting has are ignored.
-/

namespace Conform.Schema

open Conform.Yaml

/-- The written form of a type. -/
structure Declaration where
  name : String := ""
  kind : String := ""
  ref : String := ""
  description : String := ""
  required : Option Bool := none
  minLength : Option Int := none
  maxLength : Option Int := none
  format : String := ""
  min : Option Loose := none
  max : Option Loose := none
  decimalPlaces : Option Int := none
  values : List String := []
  valueNames : List String := []
  basedOn : String := ""
  /-- The fields; a field written as null is kept as none. -/
  fields : List (Option Declaration) := []
  itemType : Option Declaration := none
  rules : List String := []
  deriving Inhabited

/-- The type name of a declaration in messages. -/
def declarationType : String := "schema.definition"

/-- The type name of a list of declarations in messages. -/
def declarationListType : String := "[]*schema.definition"

/-- Decode a node into a record of settings: problems for a scalar or a sequence, and for the
mapping's pairs the given setter, one group at a time; a key set twice in one group is a
problem. -/
def decodeRecord {σ : Type} (fuel : Nat) (typeName : String) (fieldNames : List String)
    (set : σ → String → Node → DecodeM σ) (init : σ) (n : Node) : DecodeM (Option σ) := do
  let n ← n.followAlias
  match n with
  | .scalar .. =>
    let (tag, v) ← n.scalarValue
    match v with
    | .null => return none
    | _ => mismatch n tag typeName; return none
  | .sequence .. => mismatch n "!!seq" typeName; return none
  | .alias .. => return none
  | .mapping .. =>
    match ← recordGroups fuel n none with
    | none => return none
    | some (groups, _) =>
      let mut acc := init
      for group in groups do
        let mut done : List String := []
        for (name, k, v) in group do
          if fieldNames.contains name then
            if done.contains name then
              problemAt k.line ("field " ++ name ++ " already set in type " ++ typeName)
              continue
            done := name :: done
            acc ← set acc name v
      return some acc

/-- The settings a declaration has, by key. -/
def declarationKeys : List String :=
  ["name", "kind", "ref", "description", "required", "minLength", "maxLength", "format", "min",
    "max", "decimalPlaces", "values", "valueNames", "basedOn", "fields", "itemType", "rules"]

mutual

/-- Decode a node into a declaration. -/
def decodeDeclaration : Nat → Node → DecodeM (Option Declaration)
  | 0, _ => decodeFailure "exceeded max depth"
  | fuel + 1, n => decodeRecord fuel declarationType declarationKeys (setSetting fuel) {} n

/-- Decode a node into a list of declarations, keeping nulls as none and dropping items that
do not decode. -/
def decodeDeclarations : Nat → Node → DecodeM (Option (List (Option Declaration)))
  | 0, _ => decodeFailure "exceeded max depth"
  | fuel + 1, n => do
    let n ← n.followAlias
    match n with
    | .scalar .. =>
      let (tag, v) ← n.scalarValue
      match v with
      | .null => return some []
      | _ => mismatch n tag declarationListType; return none
    | .mapping _ ps _ _ =>
      if ← uniqueKeys ps then mismatch n "!!map" declarationListType
      return none
    | .alias .. => return none
    | .sequence _ items _ _ =>
      let mut out : Array (Option Declaration) := #[]
      for i in items do
        if i.isNull then out := out.push none
        else if let some d ← decodeDeclaration fuel i then out := out.push (some d)
      return some out.toList

/-- Set one setting of a declaration from its node. -/
def setSetting : Nat → Declaration → String → Node → DecodeM Declaration
  | 0, _, _, _ => decodeFailure "exceeded max depth"
  | fuel + 1, d, key, v => do
    match key with
    | "name" => return { d with name := (← decodeText v).getD d.name }
    | "kind" => return { d with kind := (← decodeText v).getD d.kind }
    | "ref" => return { d with ref := (← decodeText v).getD d.ref }
    | "description" => return { d with description := (← decodeText v).getD d.description }
    | "format" => return { d with format := (← decodeText v).getD d.format }
    | "basedOn" => return { d with basedOn := (← decodeText v).getD d.basedOn }
    | "required" => return { d with required := ← decodeFlag v }
    | "minLength" => return { d with minLength := ← decodeInt v }
    | "maxLength" => return { d with maxLength := ← decodeInt v }
    | "decimalPlaces" => return { d with decimalPlaces := ← decodeInt v }
    | "min" => return { d with min := ← decodeLoose fuel v }
    | "max" => return { d with max := ← decodeLoose fuel v }
    | "values" => return { d with values := (← decodeTexts v).getD d.values }
    | "valueNames" => return { d with valueNames := (← decodeTexts v).getD d.valueNames }
    | "rules" => return { d with rules := (← decodeTexts v).getD d.rules }
    | "fields" => return { d with fields := (← decodeDeclarations fuel v).getD d.fields }
    | "itemType" =>
      if v.isNull then return { d with itemType := none }
      else return { d with itemType := ← decodeDeclaration fuel v }
    | _ => return d

end

/-- A schema document: its top-level declarations. -/
structure Document where
  types : List (Option Declaration) := []
  deriving Inhabited

/-- Decode the root node of a schema document. -/
def decodeDocument (fuel : Nat) (n : Node) : DecodeM Document := do
  let set (doc : Document) (key : String) (v : Node) : DecodeM Document := do
    match key with
    | "types" => return { doc with types := (← decodeDeclarations fuel v).getD doc.types }
    | _ => return doc
  return (← decodeRecord fuel "schema.document" ["types"] set {} n).getD {}

/-- Read a schema document from YAML text: its declarations, or the message of what went
wrong. Text with no document reads as an empty one. -/
def Document.read (text : String) : Except String Document :=
  match readDocument text with
  | .error fault => .error fault.message
  | .ok none => .ok {}
  | .ok (some root) => runDecode (decodeDocument (text.length + 16) root)

end Conform.Schema
