import Conform.Kind
import Conform.Rule
import Conform.Text.Letters
/-!
Data types: a definition of a data shape with its validation rules. Every type has a name, a
description, whether a value is required, and custom rules; each kind adds its own settings
from which its shorthand rules follow. A list has a type for its items; a record has fields,
and may be based on another record whose fields come first.
-/

namespace Conform

open Conform.Number Conform.Calendar

/-- What every type has. -/
structure Basics where
  name : String
  description : String := ""
  required : Bool := false
  custom : List Rule := []

/-- A data type. -/
inductive DataType where
  | text (basics : Basics) (minLength maxLength : Option Int) (format : String)
  | number (basics : Basics) (min max : Option Float) (format : String)
  | decimal (basics : Basics) (min max : Option Decimal) (places : Option Int)
  | date (basics : Basics) (min max : Option Moment)
  /-- A choice among values, with display names given for some of them. -/
  | choice (basics : Basics) (values names : List String)
  | trueFalse (basics : Basics)
  | list (basics : Basics) (item : DataType)
  /-- A record with the record it is based on, if any, and its own fields. -/
  | record (basics : Basics) (basedOn : Option DataType) (fields : List DataType)

namespace DataType

/-- The settings every type has. -/
def basics : DataType → Basics
  | .text b .. | .number b .. | .decimal b .. | .date b .. | .choice b .. | .trueFalse b
  | .list b .. | .record b .. => b

/-- The kind of a type. -/
def kind : DataType → Kind
  | .text .. => .text
  | .number .. => .number
  | .decimal .. => .decimal
  | .date .. => .date
  | .choice .. => .choice
  | .trueFalse .. => .trueFalse
  | .list .. => .list
  | .record .. => .record

/-- The name of a type. -/
def name (t : DataType) : String := t.basics.name

/-- The code name of a type: its name with every character dropped that is not a letter, a
digit or an underscore. It is the key of a record field. -/
def codeName (t : DataType) : String := Text.codeName t.name

/-- Whether a value of the type is required. -/
def required (t : DataType) : Bool := t.basics.required

/-- The fields of a record: those of the record it is based on, then its own. -/
def fields : DataType → List DataType
  | .record _ (some base) own => fields base ++ own
  | .record _ none own => own
  | _ => []

/-- Every field of a record is smaller than the record. -/
theorem sizeOf_lt_of_mem_fields {t f : DataType} (h : f ∈ t.fields) : sizeOf f < sizeOf t := by
  fun_induction fields t with
  | case1 b base own ih =>
    simp only [List.mem_append] at h
    rcases h with h | h
    · have := ih h
      simp
      omega
    · have := List.sizeOf_lt_of_mem h
      simp
      omega
  | case2 b own =>
    have := List.sizeOf_lt_of_mem h
    simp
    omega
  | case3 => simp at h

/-- The field of a record with a code name: the first of its fields that has it. -/
def field? (t : DataType) (codeName : String) : Option DataType :=
  t.fields.find? (·.codeName == codeName)

/-- The display names of a choice's values: the name given at the same place when there is a
nonempty one, else the value itself. -/
def choiceNames (values names : List String) : List String :=
  values.zipIdx.map fun (v, i) =>
    match names[i]? with
    | some n => if n.isEmpty then v else n
    | none => v

end DataType

end Conform
