import Conform.Proofs.FailureTree
import Conform.Proofs.JsonText
/-! The JSON form of every validation result reads back as the result when no field's code name is
`_self`, and no two results have the same text.
-/

namespace Conform.Failures

-----------------------------------------------------------------------------------------
-- The reading
-----------------------------------------------------------------------------------------

/-- The texts of an array whose items are all strings. -/
def textsOf : List JsonValue → Option (List String)
  | [] => some []
  | .string s :: rest => (textsOf rest).map (s :: ·)
  | _ :: _ => none

mutual

/-- Failures read from a JSON document: null as no failures, an array of strings as messages,
an object as a nested node. -/
def ofJson : JsonValue → Option (Option Failures)
  | .null => some none
  | .array items => (textsOf items).map fun ms => some (.messages ms)
  | .object members => (ofMembers members).map fun (own, items) => some (.nested own items)
  | _ => none

/-- The own failures and children of a nested node from its members: a leading `_self` member,
an array of strings, holds its own failures. -/
def ofMembers : List (String × JsonValue) → Option (List String × List (String × Option Failures))
  | [] => some ([], [])
  | (key, v) :: rest =>
    if key = selfKey then
      match v with
      | .array own => do pure (← textsOf own, ← ofItems rest)
      | _ => none
    else do pure ([], (key, ← ofJson v) :: (← ofItems rest))

/-- The children of a nested node from its members, each under its key. -/
def ofItems : List (String × JsonValue) → Option (List (String × Option Failures))
  | [] => some []
  | (key, v) :: rest => do pure ((key, ← ofJson v) :: (← ofItems rest))

end

/-- Failures read from a text: its first value, with nothing but blanks after it. -/
def read (text : String) : Option (Option Failures) :=
  match JsonValue.readPrefix text with
  | .ok (v, rest) => if JsonValue.skipBlanks rest = [] then ofJson v else none
  | .error _ => none

mutual

/-- Failures that their JSON form gives back: messages, and nested nodes with readable
children. -/
inductive Readable : Failures → Prop
  | messages (texts : List String) : Readable (.messages texts)
  | nested {own : List String} {items : List (String × Option Failures)}
    : ReadableItems items → Readable (.nested own items)

/-- Children none of which is keyed `_self`, each with no failures or readable ones. -/
inductive ReadableItems : List (String × Option Failures) → Prop
  | nil : ReadableItems []
  | absent {key : String} {rest : List (String × Option Failures)}
    : key ≠ selfKey → ReadableItems rest → ReadableItems ((key, none) :: rest)
  | present {key : String} {e : Failures} {rest : List (String × Option Failures)}
    : key ≠ selfKey → Readable e → ReadableItems rest → ReadableItems ((key, some e) :: rest)

end

/-- A result that its JSON form gives back: no failures, or readable failures. -/
def ReadableResult : Option Failures → Prop
  | none => True
  | some e => e.Readable

/-- No readable child is keyed `_self`, by recursion on the children. -/
theorem ReadableItems.key_ne : ∀ {items : List (String × Option Failures)}, ReadableItems items →
    ∀ q ∈ items, q.1 ≠ selfKey
  | _, .nil => by simp
  | _, .absent other rest => by
    intro q mem
    rcases List.mem_cons.mp mem with rfl | later
    · exact other
    · exact key_ne rest q later
  | _, .present other _ rest => by
    intro q mem
    rcases List.mem_cons.mp mem with rfl | later
    · exact other
    · exact key_ne rest q later

/-- Children with readable failures and no `_self` key are readable, by induction on the
children. -/
theorem ReadableItems.of_forall {items : List (String × Option Failures)}
    (each : ∀ q ∈ items, q.1 ≠ selfKey ∧ ∃ e, q.2 = some e ∧ e.Readable)
    : ReadableItems items := by
  induction items with
  | nil => exact .nil
  | cons q rest ih =>
    obtain ⟨other, e, found, readable⟩ := each q List.mem_cons_self
    obtain ⟨key, value⟩ := q
    simp only at found other
    subst found
    exact .present other readable (ih fun q' mem => each q' (List.mem_cons_of_mem _ mem))

-----------------------------------------------------------------------------------------
-- The form read back
-----------------------------------------------------------------------------------------

/-- A nested node's form: its own failures under `_self` when it has any, then its children. -/
theorem toJson_nested (own : List String) (items : List (String × Option Failures))
    : toJson (some (.nested own items))
      = .object ((if own.isEmpty then [] else [(selfKey, .array (own.map .string))])
          ++ items.map fun q => (q.1, toJson q.2)) := by
  rw [toJson]
  simp only [List.append_cancel_left_eq, JsonValue.object.injEq]
  exact List.attach_map_val (f := fun (q : String × Option Failures) => (q.1, toJson q.2))

/-- Messages written as strings read back as the messages, by induction on them. -/
theorem textsOf_strings (texts : List String) : textsOf (texts.map .string) = some texts := by
  induction texts with
  | nil => rfl
  | cons t rest ih => simp [textsOf, ih]

/-- Members that do not open with a `_self` member read as no own failures and the children. -/
theorem ofMembers_of_ne {key : String} {v : JsonValue} {rest : List (String × JsonValue)}
    (other : key ≠ selfKey)
    : ofMembers ((key, v) :: rest) = (ofItems ((key, v) :: rest)).map (([] : List String), ·) := by
  simp only [ofMembers, ofItems, if_neg other]
  cases ofJson v <;> cases ofItems rest <;> rfl

mutual

/-- The form of readable failures reads back as them, by recursion on readability: a node with
own failures opens with its `_self` member, one without opens with its first child, whose key
is not `_self`. -/
theorem ofJson_toJson : ∀ {e : Failures}, e.Readable → ofJson (toJson (some e)) = some (some e)
  | _, .messages texts => by simp [toJson, ofJson, textsOf_strings]
  | _, @Readable.nested own items readable => by
    rw [toJson_nested]
    by_cases empty : own = []
    · subst empty
      have members : ofMembers (items.map fun q => (q.1, toJson q.2)) = some ([], items) := by
        cases items with
        | nil => rfl
        | cons q rest =>
          have children := ofItems_toJson readable
          rw [List.map_cons] at children ⊢
          rw [ofMembers_of_ne (readable.key_ne q List.mem_cons_self), children]
          rfl
      simp [ofJson, members]
    · have items := ofItems_toJson readable
      simp [empty, ofJson, ofMembers, selfKey, textsOf_strings, items]

/-- The members of readable children read back as the children. -/
theorem ofItems_toJson : ∀ {items : List (String × Option Failures)}, ReadableItems items →
    ofItems (items.map fun q => (q.1, toJson q.2)) = some items
  | _, .nil => rfl
  | _, @ReadableItems.absent key rest other readable => by
    simp [ofItems, toJson, ofJson, ofItems_toJson readable]
  | _, @ReadableItems.present key e rest other first readable => by
    simp [ofItems, ofJson_toJson first, ofItems_toJson readable]

end

/-- The form of a readable result reads back as the result. -/
theorem ofJson_toJson_result {r : Option Failures} (readable : ReadableResult r)
    : ofJson (toJson r) = some r := by
  cases r with
  | none => simp [toJson, ofJson]
  | some e => exact ofJson_toJson readable

-----------------------------------------------------------------------------------------
-- The text of the form
-----------------------------------------------------------------------------------------

theorem itemsNumberFree_eq_all (items : List JsonValue)
    : JsonValue.itemsNumberFree items = items.all JsonValue.numberFree := by
  induction items with
  | nil => rfl
  | cons v rest ih => simp [JsonValue.itemsNumberFree, ih]

theorem membersNumberFree_eq_all (members : List (String × JsonValue))
    : JsonValue.membersNumberFree members = members.all (·.2.numberFree) := by
  induction members with
  | nil => rfl
  | cons m rest ih => simp [JsonValue.membersNumberFree, ih]

/-- The form of failures has no number in it, by recursion on the failures. -/
theorem toJson_numberFree : ∀ r : Option Failures, (toJson r).numberFree
  | none => by simp [toJson, JsonValue.numberFree]
  | some .noMessages => by simp [toJson, JsonValue.numberFree]
  | some .noNested => by simp [toJson, JsonValue.numberFree]
  | some (.messages ms) => by simp [toJson, JsonValue.numberFree, itemsNumberFree_eq_all]
  | some (.nested own items) => by
    rw [toJson_nested]
    have each : ∀ k e, (k, e) ∈ items → (toJson e).numberFree := fun k e _ => toJson_numberFree e
    cases own.isEmpty <;> simp [JsonValue.numberFree, membersNumberFree_eq_all,
      itemsNumberFree_eq_all] <;> exact each
termination_by r => r
decreasing_by
  simp_wf
  rename_i h
  have := List.sizeOf_lt_of_mem h
  simp at this
  omega

/-- Readable results with the same text are equal: the texts are the texts of equal
documents, which read back as the results. -/
theorem toJson_write_injective (style : JsonStyle) {r r' : Option Failures}
    (readable : ReadableResult r) (readable' : ReadableResult r')
    (same : (toJson r).write style = (toJson r').write style) : r = r' := by
  have json := JsonValue.write_injective style (toJson_numberFree r) (toJson_numberFree r') same
  have back := ofJson_toJson_result readable
  rw [json, ofJson_toJson_result readable'] at back
  exact (Option.some.inj back).symm

/-- The text of a readable result that nests no deeper than the reader allows reads back as
the result. -/
theorem read_write (style : JsonStyle) {r : Option Failures} (readable : ReadableResult r)
    (deep : (toJson r).nesting ≤ JsonValue.maxDepth) : read ((toJson r).write style) = some r := by
  simp [read, JsonValue.readPrefix_write style (toJson_numberFree r) deep, JsonValue.skipBlanks,
    ofJson_toJson_result readable]

/-- Looking a key up in members ends before members that do not have it. -/
theorem lookup_append_of_absent {xs ys : List (String × JsonValue)} {key : String}
    (absent : ∀ m ∈ ys, m.1 ≠ key) : JsonValue.lookup (xs ++ ys) key = JsonValue.lookup xs key := by
  unfold JsonValue.lookup
  rw [List.foldl_append]
  generalize List.foldl _ none xs = found
  induction ys generalizing found with
  | nil => rfl
  | cons m rest ih =>
    have other : (m.1 == key) = false := by simpa using absent m (by simp)
    simp only [List.foldl_cons, other]
    exact ih (fun m' mem => absent m' (by simp [mem])) found

/-- A nested node with readable children has a `_self` member exactly when it has own
failures, and the member holds them. -/
theorem toJson_field_self {own : List String} {items : List (String × Option Failures)}
    (readable : ReadableItems items)
    : (toJson (some (.nested own items))).field? selfKey
      = if own.isEmpty then none else some (.array (own.map .string)) := by
  rw [toJson_nested]
  simp only [JsonValue.field?]
  rw [lookup_append_of_absent]
  · split <;> simp [JsonValue.lookup]
  · intro m mem
    obtain ⟨q, member, rfl⟩ := List.mem_map.mp mem
    exact readable.key_ne q member

end Conform.Failures

namespace Conform.DataType

-----------------------------------------------------------------------------------------
-- Types without a `_self` field
-----------------------------------------------------------------------------------------

/-- The types a type is built from: itself, its item type, and its fields, with theirs. -/
inductive Within : DataType → DataType → Prop
  | refl (t : DataType) : Within t t
  | item {b : Basics} {item s : DataType} : Within s item → Within s (.list b item)
  | field {t f s : DataType} : f ∈ t.fields → Within s f → Within s t

/-- No record a type is built from has a field with the code name `_self`. -/
def NoSelfField (t : DataType) : Prop :=
  ∀ s : DataType, s.Within t → ∀ f ∈ s.fields, f.codeName ≠ selfKey

/-- An index is written with digits only, so it is never `_self`. -/
theorem toString_ne_selfKey (i : Nat) : toString i ≠ selfKey := by
  intro same
  have chars := congrArg String.toList same
  rw [Nat.toString_eq_ofList_toDigits, String.toList_ofList] at chars
  have underscore : '_' ∈ Nat.toDigits 10 i := by simp [chars, selfKey]
  exact Nat.underscore_not_in_toDigits underscore

/-- A child of a type without a `_self` field has none either, and is not keyed `_self`: by
the cases of the children, an item under its index or a field under its code name. -/
theorem NoSelfField.child {t : DataType} {v : Value} {p : String × DataType × Value}
    (noSelf : t.NoSelfField) (mem : p ∈ t.children v) : p.2.1.NoSelfField ∧ p.1 ≠ selfKey := by
  cases t with
  | list b item =>
    simp only [children, List.mem_map] at mem
    obtain ⟨⟨x, i⟩, _, rfl⟩ := mem
    exact ⟨fun s within => noSelf s (.item within), toString_ne_selfKey i⟩
  | record b basedOn own =>
    simp only [children, List.mem_map] at mem
    obtain ⟨f, field, rfl⟩ := mem
    exact ⟨fun s within => noSelf s (.field field within), noSelf _ (.refl _) f field⟩
  | _ => simp [children] at mem

/-- The failure tree of a type without a `_self` field is readable, by induction over the
nodes of the validation: a failing child of a node is keyed by an index or by a field's code
name, neither of which is `_self`. -/
theorem failureTree_readable (t : DataType) (v : Value) (noSelf : t.NoSelfField)
    : Failures.ReadableResult (t.failureTree v) := by
  induction t, v using children_induction with
  | step t v ih =>
    cases absent : v.isAbsent with
    | true =>
      rw [failureTree_of_absent absent]
      split <;> simp [Failures.ReadableResult, Failures.Readable.messages]
    | false =>
      cases structured : t.isStructured with
      | true =>
        rw [failureTree_of_structured absent structured]
        split
        · trivial
        · refine .nested (Failures.ReadableItems.of_forall ?_)
          intro q mem
          simp only [failingChildren, List.mem_filterMap, Option.map_eq_some_iff] at mem
          obtain ⟨p, child, e, found, rfl⟩ := mem
          obtain ⟨noSelfChild, key⟩ := noSelf.child child
          have readable := ih p child noSelfChild
          rw [found] at readable
          exact ⟨key, e, rfl, readable⟩
      | false =>
        rw [failureTree_of_scalar absent structured]
        split <;> simp [Failures.ReadableResult, Failures.Readable.messages]

/-- A validation that finishes gives the failure tree. -/
theorem check_result_eq_failureTree {t : DataType} {v : Value} {flag raised : Bool}
    {r : Option Failures} (validated : (t.check v).run flag = .ok (r, raised))
    : r = t.failureTree v := by
  have meets := check_meets t v flag
  rw [validated] at meets
  split at meets
  · cases meets
  · cases meets
    rfl

-----------------------------------------------------------------------------------------
-- Validation results and their JSON form
-----------------------------------------------------------------------------------------

/-- The JSON form of a validation result by a type without a `_self` field determines the
result: read back it gives the result, its text read back gives the result whenever the form
nests no deeper than the reader allows, no other such result has the same text, and a nested
root has a `_self` member exactly when it has own failures. By `failureTree_readable` the
result is readable; then `ofJson_toJson_result`, `read_write`, `toJson_write_injective` and
`toJson_field_self`. -/
theorem validation_json_determines_result (style : JsonStyle) (t : DataType) (v : Value)
    (flag raised : Bool) (r : Option Failures) (noSelf : t.NoSelfField)
    (validated : (t.check v).run flag = .ok (r, raised))
    : Failures.ofJson (Failures.toJson r) = some r
      ∧ ((Failures.toJson r).nesting ≤ JsonValue.maxDepth
          → Failures.read ((Failures.toJson r).write style) = some r)
      ∧ (∀ (t' : DataType) (v' : Value) (flag' raised' : Bool) (r' : Option Failures),
          t'.NoSelfField → (t'.check v').run flag' = .ok (r', raised')
          → (Failures.toJson r).write style = (Failures.toJson r').write style → r = r')
      ∧ (∀ own items, r = some (.nested own items)
          → (Failures.toJson r).field? selfKey
            = if own.isEmpty then none else some (.array (own.map .string))) := by
  have readable : Failures.ReadableResult r :=
    (check_result_eq_failureTree validated) ▸ failureTree_readable t v noSelf
  refine ⟨Failures.ofJson_toJson_result readable, Failures.read_write style readable, ?_, ?_⟩
  · intro t' v' flag' raised' r' noSelf' validated' same
    have readable' : Failures.ReadableResult r' :=
      (check_result_eq_failureTree validated') ▸ failureTree_readable t' v' noSelf'
    exact Failures.toJson_write_injective style readable readable' same
  · intro own items nested
    subst nested
    cases readable with
    | nested items => exact Failures.toJson_field_self items

/-- A list of required flags, for the run below. -/
def flagsType : DataType :=
  .list { name := "Flags" } (.trueFalse { name := "Flag", required := true })

/-- Witness: the text of the failures of a list holding one missing flag, `{"0":["Required"]}`,
reads back as those failures. -/
theorem flags_missing_json_reads_back
    : flagsType.NoSelfField
      ∧ (flagsType.check (.list [.null])).run false
        = .ok (some (.nested [] [("0", some (.messages ["Required"]))]), false)
      ∧ Failures.read ((Failures.toJson (some (.nested [] [("0", some (.messages ["Required"]))]))).write
          JsonStyle.web) = some (some (.nested [] [("0", some (.messages ["Required"]))])) := by
  -- a list of flags has no record in it, so no `_self` field
  have noSelf : flagsType.NoSelfField := by
    intro s within f field
    cases within with
    | refl => simp [flagsType, fields] at field
    | item inner =>
      cases inner with
      | refl => simp [fields] at field
      | field member _ => simp [fields] at member
    | field member _ => simp [flagsType, fields] at member
  -- the missing flag fails with `Required`, under the index `0`
  have item : ((DataType.trueFalse { name := "Flag", required := true }).check .null).run false
      = .ok (some (.messages ["Required"]), false) := by
    rw [DataType.check.eq_3 _ _ (by simp) (by simp)]
    rfl
  have validated : (flagsType.check (.list [.null])).run false
      = .ok (some (.nested [] [("0", some (.messages ["Required"]))]), false) := by
    rw [flagsType, DataType.check.eq_1]
    simp [Value.isAbsent, Value.items, rules, shorthand, basics, brokenRules, List.filterMapM_cons,
      item]
    rfl
  have shallow : (Failures.toJson (some (.nested [] [("0", some (.messages ["Required"]))]))).nesting
      ≤ JsonValue.maxDepth := by
    simp [Failures.toJson_nested, Failures.toJson, JsonValue.nesting, JsonValue.membersNesting,
      JsonValue.itemsNesting, JsonValue.maxDepth]
  exact ⟨noSelf, validated,
    (validation_json_determines_result JsonStyle.web flagsType (.list [.null]) false false _
      noSelf validated).2.1 shallow⟩

end Conform.DataType
