import Conform.DataType.Rules
import Conform.Json.Value
import Conform.Text.Quoted
/-! JSON Schema documents of data types, with each kind's bounds and formats and a property for
every record field; a number that is not finite, or two fields of one code name, make the
document impossible to write.
-/

namespace Conform

open Conform.Number

/-- Why a type's JSON Schema document cannot be written. -/
inductive SchemaError where
  /-- A bound or step that is not a finite number. -/
  | unsupportedNumber (x : Float)
  /-- Two fields of a record share a code name. -/
  | duplicateProperty (name : String)

/-- The message of a schema error. -/
def SchemaError.message : SchemaError → String
  | .unsupportedNumber x => "unsupported value: " ++ formatFloat .general x
  | .duplicateProperty n =>
    "property order slice cannot contain duplicate entries, found duplicate " ++ Text.quote n

/-- The keywords of a JSON Schema document that data types use. -/
structure Keywords where
  type : String
  properties : Option (List (String × JsonValue)) := none
  items : Option JsonValue := none
  title : String := ""
  description : String := ""
  enum : List String := []
  multipleOf : Option Float := none
  minimum : Option Float := none
  maximum : Option Float := none
  minLength : Option Int := none
  maxLength : Option Int := none
  required : List String := []
  format : String := ""

namespace Keywords

/-- A number keyword, present when set; only a finite number can be written. -/
def number (key : String) : Option Float → Except SchemaError (List (String × JsonValue))
  | none => pure []
  | some x =>
    if Value.isFiniteFloat x then pure [(key, .number (formatFloat .json x))]
    else throw (.unsupportedNumber x)

/-- A text keyword, present when not empty. -/
def text (key value : String) : List (String × JsonValue) :=
  if value.isEmpty then [] else [(key, .string value)]

/-- A list keyword, present when not empty. -/
def texts (key : String) (values : List String) : List (String × JsonValue) :=
  if values.isEmpty then [] else [(key, .array (values.map .string))]

/-- An integer keyword, present when set. -/
def integer (key : String) : Option Int → List (String × JsonValue)
  | none => []
  | some n => [(key, .number (toString n))]

/-- The document: `type`, `properties` and `items` first, then the other keywords in their
fixed order. -/
def toJson (k : Keywords) : Except SchemaError JsonValue := do
  let multipleOf ← number "multipleOf" k.multipleOf
  let minimum ← number "minimum" k.minimum
  let maximum ← number "maximum" k.maximum
  return .object <|
    text "type" k.type ++ (k.properties.map fun ps => ("properties", .object ps)).toList ++
      (k.items.map ("items", ·)).toList ++ text "title" k.title ++
      text "description" k.description ++ texts "enum" k.enum ++ multipleOf ++ minimum ++
      maximum ++ integer "minLength" k.minLength ++ integer "maxLength" k.maxLength ++
      texts "required" k.required ++ text "format" k.format

end Keywords

/-- The nearest float to `10^n`. -/
def nearestPowerOfTen (n : Int) : Float := Decimal.toFloat ⟨1, n⟩

/-- `10^n` as a float, built from a power of `10^32` and a power of ten below 32 with one
float multiplication or division; infinite above `10^308` and zero below `10^-323`. -/
def powerOfTen (n : Int) : Float :=
  if 0 ≤ n ∧ n ≤ 308 then nearestPowerOfTen (32 * (n / 32)) * nearestPowerOfTen (n % 32)
  else if -323 ≤ n ∧ n < 0 then
    nearestPowerOfTen (-(32 * (-n / 32))) / nearestPowerOfTen (-n % 32)
  else if n > 0 then Float.ofBits (FloatFormat.double.infinityBits false).toUInt64
  else 0

/-- The negation of a signed 64-bit number, where the least one is its own negation. -/
def negate64 (n : Int) : Int := if n == -Int.pow 2 63 then n else -n

/-- The first name in a list that an earlier one repeats. -/
def firstRepeat : List String → Option String
  | [] => none
  | n :: rest => go [n] rest
where
  go (seen : List String) : List String → Option String
    | [] => none
    | n :: rest => if seen.contains n then some n else go (n :: seen) rest

namespace DataType

/-- The JSON Schema format of a text format, empty for none. -/
def textFormat (format : String) : String :=
  if format == "email" then "email"
  else if format == "url" then "uri"
  else if format == "uuid" then "uuid"
  else ""

/-- The JSON Schema document of a type. -/
def jsonSchema : DataType → Except SchemaError JsonValue
  | .text b minLength maxLength format =>
    Keywords.toJson
      { type := "string", title := b.name, description := b.description,
        minLength := minLength, maxLength := maxLength, format := textFormat format }
  | .number b min max format =>
    Keywords.toJson
      { type := if format == "integer" then "integer" else "number",
        title := b.name, description := b.description,
        multipleOf := if format == "currency" then some (nearestPowerOfTen (-2)) else none,
        minimum := min, maximum := max }
  | .decimal b min max places =>
    Keywords.toJson
      { type := "number", title := b.name, description := b.description,
        multipleOf := places.map fun p => powerOfTen (negate64 p),
        minimum := min.map Decimal.toFloat, maximum := max.map Decimal.toFloat }
  | .date b _ _ =>
    Keywords.toJson
      { type := "string", title := b.name, description := b.description,
        format := "date" }
  | .choice b values _ =>
    Keywords.toJson
      { type := "string", title := b.name, description := b.description,
        enum := values }
  | .trueFalse b =>
    Keywords.toJson
      { type := "boolean", title := b.name, description := b.description }
  | .list b item => do
    let items ← jsonSchema item
    Keywords.toJson
      { type := "array", items := some items, title := b.name,
        description := b.description }
  | .record b basedOn own => do
    let fields := (DataType.record b basedOn own).fields
    if let some n := firstRepeat (fields.map (·.codeName)) then throw (.duplicateProperty n)
    let properties ← fields.attach.mapM fun ⟨f, h⟩ => do
      have := sizeOf_lt_of_mem_fields h
      return (f.codeName, ← jsonSchema f)
    Keywords.toJson
      { type := "object", properties := some properties, title := b.name,
        description := b.description,
        required := (fields.filter (·.required)).map (·.codeName) }
termination_by t => t
decreasing_by
  all_goals simp_wf
  all_goals first | omega | (simp only [DataType.record.sizeOf_spec] at this; omega)

end DataType

end Conform
