import Mathlib
import Conform.Proofs.FailuresJson
/-! A map with distinct keys, a record value with its entries as fields in any order, and references
to either give a record type the same children, so validation treats them alike when the type's
own rules do.
-/

namespace Conform

-----------------------------------------------------------------------------------------
-- Looking a key up among distinct keys
-----------------------------------------------------------------------------------------

section Lookup

variable {α : Type} {entries entries' : List (String × α)}

/-- Among distinct keys, the entry found under a key is the one entry that has it. -/
theorem find?_key_eq_some_iff (distinct : (entries.map (·.1)).Nodup) (key : String)
    (entry : String × α)
    : entries.find? (·.1 == key) = some entry ↔ entry ∈ entries ∧ entry.1 = key := by
  constructor
  · intro found
    exact ⟨List.mem_of_find?_eq_some found, by simpa using List.find?_some found⟩
  · rintro ⟨member, rfl⟩
    obtain ⟨first, found⟩ : ∃ first, entries.find? (·.1 == entry.1) = some first := by
      apply Option.isSome_iff_exists.mp
      exact List.find?_isSome.mpr ⟨entry, member, by simp⟩
    have sameKey : first.1 = entry.1 := by simpa using List.find?_some found
    rw [found, List.inj_on_of_nodup_map distinct (List.mem_of_find?_eq_some found) member sameKey]

/-- Reordering entries with distinct keys changes no lookup. -/
theorem find?_key_of_perm (distinct : (entries.map (·.1)).Nodup) (reordered : entries'.Perm entries)
    (key : String) : entries'.find? (·.1 == key) = entries.find? (·.1 == key) := by
  have distinct' : (entries'.map (·.1)).Nodup := ((reordered.map _).nodup_iff).mpr distinct
  ext entry
  rw [find?_key_eq_some_iff distinct' key entry, find?_key_eq_some_iff distinct key entry,
    reordered.mem_iff]

end Lookup

-----------------------------------------------------------------------------------------
-- The value under a code name
-----------------------------------------------------------------------------------------

namespace Value

/-- A record value whose fields are a map's entries reads every name as the map does. -/
theorem fieldValue_record_of_perm {entries fields : List (String × Value)}
    (distinct : (entries.map (·.1)).Nodup) (sameFields : fields.Perm entries)
    : (Value.record fields).fieldValue = (Value.map entries).fieldValue := by
  funext key
  simp only [fieldValue, field?, find?_key_of_perm distinct sameFields key]

/-- The four forms of a map's entries, the map, a record of them, and a reference to either,
read every name alike. -/
theorem fieldValue_of_mem_forms {entries fields : List (String × Value)}
    (distinct : (entries.map (·.1)).Nodup) (sameFields : fields.Perm entries) {v : Value}
    (form : v ∈ [Value.map entries, .ref (.map entries), .record fields, .ref (.record fields)])
    : v.fieldValue = (Value.map entries).fieldValue := by
  simp only [List.mem_cons, List.not_mem_nil, or_false] at form
  -- a reference is looked through once, so each reference reads as what it refers to
  rcases form with rfl | rfl | rfl | rfl
  · rfl
  · rfl
  · exact fieldValue_record_of_perm distinct sameFields
  · show (Value.record fields).fieldValue = _
    exact fieldValue_record_of_perm distinct sameFields

/-- None of the four forms is absent. -/
theorem isAbsent_of_mem_forms {entries fields : List (String × Value)} {v : Value}
    (form : v ∈ [Value.map entries, .ref (.map entries), .record fields, .ref (.record fields)])
    : v.isAbsent = false := by
  simp only [List.mem_cons, List.not_mem_nil, or_false] at form
  rcases form with rfl | rfl | rfl | rfl <;> rfl

end Value

-----------------------------------------------------------------------------------------
-- Validation of the four forms
-----------------------------------------------------------------------------------------

namespace DataType

/-- The child entries of a validation result: the children of a nested node, and none for any
other result. -/
def childEntries : Option Failures → List (String × Option Failures)
  | some (.nested _ items) => items
  | _ => []

/-- A record's children are read through the value's lookup alone. -/
theorem children_record_of_fieldValue {b : Basics} {basedOn : Option DataType}
    {own : List DataType} {v w : Value} (same : v.fieldValue = w.fieldValue)
    : (DataType.record b basedOn own).children v = (DataType.record b basedOn own).children w := by
  simp only [children, same]

/-- A present record's result has its failing children as child entries, whether or not the
record fails. -/
theorem childEntries_failureTree_record {b : Basics} {basedOn : Option DataType}
    {own : List DataType} {v : Value} (present : v.isAbsent = false)
    : childEntries ((DataType.record b basedOn own).failureTree v)
      = (DataType.record b basedOn own).failingChildren v := by
  rw [failureTree_of_structured present rfl]
  split
  · -- a record that does not fail has no failing child
    rename_i quiet
    simp only [Bool.and_eq_true, List.isEmpty_iff] at quiet
    rw [quiet.2]
    rfl
  · rfl

/-- Two present values that a type's own rules judge alike and that give it the same children
are validated alike: the same verdicts and the same failure tree, so the same computation. -/
theorem check_eq_of_same_parts {t : DataType} {v w : Value} (presentV : v.isAbsent = false)
    (presentW : w.isAbsent = false) (sameRules : ∀ r ∈ t.rules, r.check v = r.check w)
    (sameChildren : t.children v = t.children w) : t.check v = t.check w := by
  have ownVerdicts : t.rules.map (·.check v) = t.rules.map (·.check w) :=
    List.map_congr_left sameRules
  have verdicts : t.verdicts v = t.verdicts w := by
    rw [verdicts_of_present presentV, verdicts_of_present presentW, ownVerdicts, sameChildren]
  have broken : t.brokenBy v = t.brokenBy w := by
    simp only [brokenBy, Rule.brokenBy]
    exact List.filterMap_congr fun r member => by rw [sameRules r member]
  have failing : t.failingChildren v = t.failingChildren w := by
    simp only [failingChildren, sameChildren]
  have tree : t.failureTree v = t.failureTree w := by
    cases structured : t.isStructured with
    | true =>
        rw [failureTree_of_structured presentV structured,
          failureTree_of_structured presentW structured, broken, failing]
    | false =>
        rw [failureTree_of_scalar presentV structured, failureTree_of_scalar presentW structured,
          broken]
  apply StateT.ext
  intro flag
  rw [check_meets t v flag, check_meets t w flag, verdicts, tree]

/-- A record type validates a map with distinct keys, a record value holding the map's entries
as fields in any order, and a reference to either with the same child entries: those of the map.
The four results differ only through the type's own rules, which see the value itself; when
those rules judge two of the forms alike, their validations are the same computation. By
`Value.fieldValue_of_mem_forms` the four forms give the record the same children; then
`check_result_eq_failureTree` and `check_eq_of_same_parts`.
-/
theorem record_entries_agree_across_forms (b : Basics) (basedOn : Option DataType)
    (own : List DataType) {entries fields : List (String × Value)}
    (distinct : (entries.map (·.1)).Nodup) (sameFields : fields.Perm entries)
    : (∀ v ∈ [Value.map entries, .ref (.map entries), .record fields, .ref (.record fields)],
        ∀ flag result raised,
          ((DataType.record b basedOn own).check v).run flag = .ok (result, raised)
          → childEntries result = (DataType.record b basedOn own).failingChildren (.map entries))
      ∧ ∀ v ∈ [Value.map entries, .ref (.map entries), .record fields, .ref (.record fields)],
        ∀ w ∈ [Value.map entries, .ref (.map entries), .record fields, .ref (.record fields)],
          (∀ r ∈ (DataType.record b basedOn own).rules, r.check v = r.check w)
          → (DataType.record b basedOn own).check v = (DataType.record b basedOn own).check w := by
  have sameChildren : ∀ v ∈ [Value.map entries, .ref (.map entries), .record fields,
      .ref (.record fields)], (DataType.record b basedOn own).children v
        = (DataType.record b basedOn own).children (.map entries) := fun v form =>
    children_record_of_fieldValue (Value.fieldValue_of_mem_forms distinct sameFields form)
  constructor
  · intro v form flag result raised validated
    rw [check_result_eq_failureTree validated,
      childEntries_failureTree_record (Value.isAbsent_of_mem_forms form)]
    simp only [failingChildren, sameChildren v form]
  · intro v formV w formW sameRules
    apply check_eq_of_same_parts (Value.isAbsent_of_mem_forms formV)
      (Value.isAbsent_of_mem_forms formW) sameRules
    rw [sameChildren v formV, sameChildren w formW]

/-- A person record with a required name and a required age. -/
def personType : DataType :=
  .record { name := "Person" } none
    [.text { name := "Name", required := true } none none "",
     .number { name := "Age", required := true } none none ""]

/-- Witness: a map with a name and a null age, and the record value with the same two fields in
the other order. -/
theorem person_map_and_record_agree
    : ([("Name", Value.text "Ada"), ("Age", Value.null)].map (·.1)).Nodup
      ∧ [("Age", Value.null), ("Name", Value.text "Ada")].Perm
          [("Name", Value.text "Ada"), ("Age", Value.null)]
      ∧ ((∀ v ∈ [Value.map [("Name", Value.text "Ada"), ("Age", Value.null)],
            .ref (.map [("Name", Value.text "Ada"), ("Age", Value.null)]),
            .record [("Age", Value.null), ("Name", Value.text "Ada")],
            .ref (.record [("Age", Value.null), ("Name", Value.text "Ada")])],
          ∀ flag result raised, (personType.check v).run flag = .ok (result, raised)
            → childEntries result
              = personType.failingChildren (.map [("Name", Value.text "Ada"), ("Age", Value.null)]))
        ∧ ∀ v ∈ [Value.map [("Name", Value.text "Ada"), ("Age", Value.null)],
            .ref (.map [("Name", Value.text "Ada"), ("Age", Value.null)]),
            .record [("Age", Value.null), ("Name", Value.text "Ada")],
            .ref (.record [("Age", Value.null), ("Name", Value.text "Ada")])],
          ∀ w ∈ [Value.map [("Name", Value.text "Ada"), ("Age", Value.null)],
            .ref (.map [("Name", Value.text "Ada"), ("Age", Value.null)]),
            .record [("Age", Value.null), ("Name", Value.text "Ada")],
            .ref (.record [("Age", Value.null), ("Name", Value.text "Ada")])],
            (∀ r ∈ personType.rules, r.check v = r.check w) → personType.check v = personType.check w) :=
  ⟨by decide, .swap _ _ _,
    record_entries_agree_across_forms _ _ _ (by decide) (.swap _ _ _)⟩

end DataType

end Conform
