import Mathlib
import Conform.DataType.Validate
/-! The failure tree of a value. A node, a type with a value, fails when the value is absent
and the type required, or when the value is present and one of the type's own rules, or one
of the node's children, fails. Validation computes exactly this tree, with no empty node in
it, and runs no rule on an absent value at any depth.
-/

namespace Conform

-----------------------------------------------------------------------------------------
-- What a checking computation does
-----------------------------------------------------------------------------------------

namespace Verdict

/-- The message of the first verdict among `verdicts` that stops the validation. -/
def firstAbort (verdicts : List Verdict) : Option String :=
  verdicts.findSome? fun
    | .abort message => some message
    | _ => none

@[simp] theorem firstAbort_nil : firstAbort [] = none := rfl

/-- The first stop of two runs of verdicts is the first run's, else the second's. -/
theorem firstAbort_append (left right : List Verdict)
    : firstAbort (left ++ right) = (firstAbort left).or (firstAbort right) :=
  List.findSome?_append

end Verdict

/-- The checking computation `m` meets `verdicts` in order and gives `a`: from any flag it
stops with the message of the first stop among them, or else gives `a` with the flag raised
when one of them asks the batch to stop.
-/
def Checking.Meets {α : Type} (m : Checking α) (verdicts : List Verdict) (a : α) : Prop :=
  ∀ flag, m.run flag = match Verdict.firstAbort verdicts with
    | some message => .error message
    | none => .ok (a, flag || verdicts.contains .cancel)

namespace Checking.Meets

variable {α β : Type}

/-- Meeting is stated up to equal verdicts and results. -/
theorem of_eq {m : Checking α} {verdicts verdicts' : List Verdict} {a a' : α}
    (h : m.Meets verdicts a) (same : verdicts = verdicts') (result : a = a') : m.Meets verdicts' a' :=
  same ▸ result ▸ h

/-- A pure computation meets no verdict. -/
theorem pure (a : α) : (Pure.pure a : Checking α).Meets [] a := by
  intro flag
  simp [Verdict.firstAbort_nil]
  rfl

/-- Sequencing meets the verdicts of both parts in order, by cases on the first part's stop. -/
theorem bind {m : Checking α} {f : α → Checking β} {left right : List Verdict} {a : α} {b : β}
    (first : m.Meets left a) (next : (f a).Meets right b)
    : (m >>= f).Meets (left ++ right) b := by
  intro flag
  rw [StateT.run_bind, first flag, Verdict.firstAbort_append]
  cases Verdict.firstAbort left with
  | some message => rfl
  | none =>
      -- the first part passed: its flag is the one the second part starts from
      show (f a).run (flag || left.contains .cancel) = _
      rw [next]
      cases Verdict.firstAbort right <;> simp [Bool.or_assoc]

/-- A keyed child result meets what its check meets, and gives the key with the failures. -/
theorem keyed {m : Checking (Option Failures)} {verdicts : List Verdict} {a : Option Failures}
    (key : String) (h : m.Meets verdicts a)
    : (do
        match ← m with
        | some e => Pure.pure (some (key, some e))
        | none => Pure.pure none : Checking (Option (String × Option Failures))).Meets
      verdicts (a.map fun e => (key, some e)) := by
  have next : ∀ r : Option Failures,
      (match r with
        | some e => Pure.pure (some (key, some e))
        | none => Pure.pure none : Checking (Option (String × Option Failures))).Meets
        [] (r.map fun e => (key, some e)) := by
    intro r
    cases r <;> exact pure _
  rw [← List.append_nil verdicts]
  exact h.bind (next a)

/-- Filtering a list through checks meets every element's verdicts in list order, by
induction over the list.
-/
theorem filterMapM (verdicts : α → List Verdict) (g : α → Option β) {f : α → Checking (Option β)}
    {xs : List α} (each : ∀ x ∈ xs, (f x).Meets (verdicts x) (g x))
    : (xs.filterMapM f).Meets (xs.flatMap verdicts) (xs.filterMap g) := by
  induction xs with
  | nil => exact pure []
  | cons x rest ih =>
      have later := ih fun y member => each y (List.mem_cons_of_mem x member)
      rw [List.filterMapM_cons, List.flatMap_cons]
      apply (each x List.mem_cons_self).bind
      cases found : g x with
      | none => simpa [List.filterMap_cons, found] using later
      | some b =>
          have whole := later.bind (f := fun bs => (Pure.pure (b :: bs) : Checking _))
            (pure (b :: rest.filterMap g))
          simpa [List.filterMap_cons, found] using whole

end Checking.Meets

/-- The descriptions of the rules among `rules` that a value breaks, in rule order. -/
def Rule.brokenBy (rules : List Rule) (v : Value) : List String :=
  rules.filterMap fun r => if r.check v = .fail then some r.description else none

/-- Checking a value by rules meets each rule's verdict in order and gives the descriptions
of the broken ones; a verdict that asks the batch to stop raises the flag and passes.
-/
theorem brokenRules_meets (rules : List Rule) (v : Value)
    : (brokenRules rules v).Meets (rules.map (·.check v)) (Rule.brokenBy rules v) := by
  unfold brokenRules Rule.brokenBy
  rw [List.map_eq_flatMap]
  apply Checking.Meets.filterMapM
  intro r _ flag
  cases verdict : r.check v <;>
    simp [Verdict.firstAbort] <;> rfl

-----------------------------------------------------------------------------------------
-- The failure tree
-----------------------------------------------------------------------------------------

mutual

/-- A failure tree with no empty node in it: every list of messages holds one, every nested
node has an own failure or a child, and every child has failures.
-/
inductive Failures.Solid : Failures → Prop
  | messages {texts : List String} : texts ≠ [] → Failures.Solid (.messages texts)
  | nested {own : List String} {items : List (String × Option Failures)}
    : (own ≠ [] ∨ items ≠ []) → Failures.SolidItems items → Failures.Solid (.nested own items)

/-- Children that all have solid failures. -/
inductive Failures.SolidItems : List (String × Option Failures) → Prop
  | nil : Failures.SolidItems []
  | cons {key : String} {e : Failures} {rest : List (String × Option Failures)}
    : Failures.Solid e → Failures.SolidItems rest → Failures.SolidItems ((key, some e) :: rest)

end

/-- Children whose failures are all present and solid are solid, by induction over the
children.
-/
theorem Failures.SolidItems.of_forall {items : List (String × Option Failures)}
    (each : ∀ q ∈ items, ∃ e, q.2 = some e ∧ e.Solid)
    : Failures.SolidItems items := by
  induction items with
  | nil => exact .nil
  | cons q rest ih =>
      obtain ⟨e, found, solid⟩ := each q List.mem_cons_self
      obtain ⟨key, failures⟩ := q
      cases found
      exact .cons solid (ih fun q member => each q (List.mem_cons_of_mem _ member))

namespace DataType

/-- The children of a node: for a list each item under its index with the item type, for a
record each field under its code name with the value found there; none for other kinds.
-/
def children (t : DataType) (v : Value) : List (String × DataType × Value) :=
  match t with
  | .list _ item => v.items.zipIdx.map fun (x, i) => (toString i, item, x)
  | .record .. => t.fields.map fun f => (f.codeName, f, v.fieldValue f.codeName)
  | _ => []

/-- Every child's type is smaller than the node's, by the list item or the field lemma. -/
theorem sizeOf_lt_of_mem_children {t : DataType} {v : Value} {p : String × DataType × Value}
    (h : p ∈ t.children v) : sizeOf p.2.1 < sizeOf t := by
  unfold children at h
  split at h
  · simp only [List.mem_map] at h
    obtain ⟨_, _, rfl⟩ := h
    simp
  · simp only [List.mem_map] at h
    obtain ⟨f, member, rfl⟩ := h
    exact sizeOf_lt_of_mem_fields member
  · simp at h

/-- Whether a type's values have children: lists and records. -/
def isStructured : DataType → Bool
  | .list .. | .record .. => true
  | _ => false

/-- A node that is neither a list nor a record has no children. -/
theorem children_of_not_structured {t : DataType} (v : Value) (h : t.isStructured = false)
    : t.children v = [] := by
  cases t <;> simp_all [children, isStructured]

/-- The descriptions of the type's own rules that a present value breaks, in rule order. -/
def brokenBy (t : DataType) (v : Value) : List String := Rule.brokenBy t.rules v

/-- The verdicts of the rules that validating a value runs, in the order they run: none for
an absent value; for a present one the type's own rules, then each child's in order.
-/
def verdicts (t : DataType) (v : Value) : List Verdict :=
  if v.isAbsent then []
  else t.rules.map (·.check v) ++ (t.children v).attach.flatMap fun ⟨p, _⟩ => verdicts p.2.1 p.2.2
termination_by sizeOf t
decreasing_by exact sizeOf_lt_of_mem_children ‹_›

/-- The failure tree of a value: nothing for a node that does not fail; `Required` for an
absent failing node; the broken rules' descriptions for a present scalar; and for a present
list or record its own broken rules with its failing children, keyed and in order.
-/
def failureTree (t : DataType) (v : Value) : Option Failures :=
  if v.isAbsent then
    if t.required then some (.messages ["Required"]) else none
  else
    let items := (t.children v).attach.filterMap fun ⟨p, _⟩ =>
      (failureTree p.2.1 p.2.2).map fun e => (p.1, some e)
    if t.isStructured then
      if (t.brokenBy v).isEmpty && items.isEmpty then none else some (.nested (t.brokenBy v) items)
    else if (t.brokenBy v).isEmpty then none else some (.messages (t.brokenBy v))
termination_by sizeOf t
decreasing_by exact sizeOf_lt_of_mem_children ‹_›

@[simp] theorem verdicts_of_absent {t : DataType} {v : Value} (h : v.isAbsent = true)
    : t.verdicts v = [] := by
  rw [verdicts, if_pos h]

theorem verdicts_of_present {t : DataType} {v : Value} (h : v.isAbsent = false)
    : t.verdicts v
      = t.rules.map (·.check v) ++ (t.children v).flatMap fun p => p.2.1.verdicts p.2.2 := by
  rw [verdicts, if_neg (by simp [h]), List.flatMap_subtype (fun _ _ => rfl), List.unattach_attach]

@[simp] theorem failureTree_of_absent {t : DataType} {v : Value} (h : v.isAbsent = true)
    : t.failureTree v = if t.required then some (.messages ["Required"]) else none := by
  rw [failureTree, if_pos h]

/-- The failing children of a present node, keyed, with their failure trees. -/
def failingChildren (t : DataType) (v : Value) : List (String × Option Failures) :=
  (t.children v).filterMap fun p => (p.2.1.failureTree p.2.2).map fun e => (p.1, some e)

theorem failureTree_of_structured {t : DataType} {v : Value} (h : v.isAbsent = false)
    (structured : t.isStructured = true)
    : t.failureTree v
      = if (t.brokenBy v).isEmpty && (t.failingChildren v).isEmpty then none
        else some (.nested (t.brokenBy v) (t.failingChildren v)) := by
  rw [failureTree, if_neg (by simp [h]), List.filterMap_subtype (fun _ _ => rfl),
    List.unattach_attach, if_pos structured]
  rfl

theorem failureTree_of_scalar {t : DataType} {v : Value} (h : v.isAbsent = false)
    (scalar : t.isStructured = false)
    : t.failureTree v
      = if (t.brokenBy v).isEmpty then none else some (.messages (t.brokenBy v)) := by
  rw [failureTree, if_neg (by simp [h])]
  simp [scalar]

/-- Types other than lists and records are not structured. -/
theorem isStructured_eq_false {t : DataType} (notList : ∀ b item, t = .list b item → False)
    (notRecord : ∀ b basedOn own, t = .record b basedOn own → False)
    : t.isStructured = false := by
  cases t with
  | list b item => exact (notList b item rfl).elim
  | record b basedOn own => exact (notRecord b basedOn own rfl).elim
  | _ => rfl

/-- Validation meets exactly the verdicts of the rules it runs and gives the failure tree,
by induction along the validation's own recursion.
-/
theorem check_meets (t : DataType) (v : Value)
    : (t.check v).Meets (t.verdicts v) (t.failureTree v) := by
  induction t, v using check.induct with
  | case1 basics item v absent =>
      rw [check.eq_1, if_pos absent, verdicts_of_absent absent, failureTree_of_absent absent]
      exact Checking.Meets.pure _
  | case2 basics item v present ih =>
      have present : v.isAbsent = false := by simpa using present
      rw [check.eq_1, if_neg (by simp [present]), verdicts_of_present present,
        failureTree_of_structured present rfl]
      apply Checking.Meets.of_eq
      · exact (brokenRules_meets _ v).bind
          ((Checking.Meets.filterMapM (fun p => item.verdicts p.1)
            (fun p => (item.failureTree p.1).map fun e => (toString p.2, some e))
            fun ⟨x, i⟩ _ => .keyed (toString i) (ih x)).bind (.pure _))
      · simp [children, List.flatMap_map]
      · have items : (list basics item).failingChildren v
            = v.items.zipIdx.filterMap fun p =>
              (item.failureTree p.1).map fun e => (toString p.2, some e) := by
          simp [failingChildren, children, List.filterMap_map]
        rw [items]
        rfl
  | case3 b basedOn own v absent =>
      rw [check.eq_2, if_pos absent, verdicts_of_absent absent, failureTree_of_absent absent]
      exact Checking.Meets.pure _
  | case4 b basedOn own v present ih =>
      have present : v.isAbsent = false := by simpa using present
      rw [check.eq_2, if_neg (by simp [present]), verdicts_of_present present,
        failureTree_of_structured present rfl]
      apply Checking.Meets.of_eq
      · exact (brokenRules_meets _ v).bind
          ((Checking.Meets.filterMapM (fun f => f.1.verdicts (v.fieldValue f.1.codeName))
            (fun f => (f.1.failureTree (v.fieldValue f.1.codeName)).map
              fun e => (f.1.codeName, some e))
            fun ⟨f, member⟩ _ => .keyed f.codeName (ih f member)).bind (.pure _))
      · simp [children, List.flatMap_map]
      · simp [children, failingChildren, brokenBy, List.filterMap_map]
  | case5 t v notList notRecord absent =>
      rw [check.eq_3 _ _ notList notRecord, if_pos absent, verdicts_of_absent absent,
        failureTree_of_absent absent]
      exact Checking.Meets.pure _
  | case6 t v notList notRecord present =>
      have present : v.isAbsent = false := by simpa using present
      have scalar := isStructured_eq_false notList notRecord
      rw [check.eq_3 _ _ notList notRecord, if_neg (by simp [present]),
        verdicts_of_present present, children_of_not_structured v scalar,
        failureTree_of_scalar present scalar]
      apply Checking.Meets.of_eq
      · exact (brokenRules_meets t.rules v).bind (.pure _)
      · simp
      · simp [brokenBy]

/-- Induction over the nodes of a validation: what holds of a node whenever it holds of all
its children holds of every node, by well-founded recursion on the size of the type.
-/
theorem children_induction {motive : DataType → Value → Prop}
    (step : ∀ t v, (∀ p ∈ t.children v, motive p.2.1 p.2.2) → motive t v)
    (t : DataType) (v : Value) : motive t v :=
  step t v fun p _ => children_induction step p.2.1 p.2.2
termination_by sizeOf t
decreasing_by exact sizeOf_lt_of_mem_children ‹_›

/-- A node fails: its value is absent and its type required, or its value is present and one
of its type's own rules, or one of its children, fails.
-/
inductive Fails : DataType → Value → Prop
  | required {t : DataType} {v : Value} : v.isAbsent = true → t.required = true → Fails t v
  | rule {t : DataType} {v : Value} {r : Rule}
    : v.isAbsent = false → r ∈ t.rules → r.check v = .fail → Fails t v
  | child {t : DataType} {v : Value} {p : String × DataType × Value}
    : v.isAbsent = false → p ∈ t.children v → Fails p.2.1 p.2.2 → Fails t v

/-- An absent node fails exactly when its type is required. -/
theorem fails_of_absent {t : DataType} {v : Value} (h : v.isAbsent = true)
    : t.Fails v ↔ t.required = true := by
  constructor
  · intro fails
    cases fails with
    | required _ required => exact required
    | rule present _ _ => simp [h] at present
    | child present _ _ => simp [h] at present
  · exact Fails.required h

/-- A present node fails exactly when one of its own rules or one of its children fails. -/
theorem fails_of_present {t : DataType} {v : Value} (h : v.isAbsent = false)
    : t.Fails v
      ↔ (∃ r ∈ t.rules, r.check v = .fail) ∨ ∃ p ∈ t.children v, p.2.1.Fails p.2.2 := by
  constructor
  · intro fails
    cases fails with
    | required absent _ => simp [h] at absent
    | rule _ member broken => exact .inl ⟨_, member, broken⟩
    | child _ member below => exact .inr ⟨_, member, below⟩
  · rintro (⟨r, member, broken⟩ | ⟨p, member, below⟩)
    · exact Fails.rule h member broken
    · exact Fails.child h member below

theorem brokenBy_eq_nil_iff {t : DataType} {v : Value}
    : t.brokenBy v = [] ↔ ∀ r ∈ t.rules, r.check v ≠ .fail := by
  simp [brokenBy, Rule.brokenBy, List.filterMap_eq_nil_iff]

theorem failingChildren_eq_nil_iff {t : DataType} {v : Value}
    : t.failingChildren v = [] ↔ ∀ p ∈ t.children v, p.2.1.failureTree p.2.2 = none := by
  simp [failingChildren, List.filterMap_eq_nil_iff]

/-- The failure tree is nothing exactly when the node does not fail, by induction over the
nodes: an absent node by its required flag, a present one by its rules and children.
-/
theorem failureTree_eq_none_iff (t : DataType) (v : Value)
    : t.failureTree v = none ↔ ¬ t.Fails v := by
  induction t, v using children_induction with
  | step t v ih =>
      cases presence : v.isAbsent with
      | true => simp [failureTree_of_absent presence, fails_of_absent presence]
      | false =>
          rw [fails_of_present presence]
          cases structured : t.isStructured with
          | true =>
              have failing
                  : t.failingChildren v = [] ↔ ∀ p ∈ t.children v, ¬ p.2.1.Fails p.2.2 := by
                rw [failingChildren_eq_nil_iff]
                exact forall₂_congr fun p member => ih p member
              rw [failureTree_of_structured presence structured]
              by_cases quiet : (t.brokenBy v).isEmpty && (t.failingChildren v).isEmpty
              · -- no own rule is broken and no child fails
                rw [if_pos quiet]
                simp only [Bool.and_eq_true, List.isEmpty_iff, brokenBy_eq_nil_iff, failing]
                  at quiet
                obtain ⟨rules, kids⟩ := quiet
                simp only [true_iff]
                rintro (⟨r, member, broken⟩ | ⟨p, member, below⟩)
                · exact rules r member broken
                · exact kids p member below
              · rw [if_neg quiet]
                constructor
                · intro h
                  cases h
                · intro quietNode
                  exfalso
                  apply quiet
                  simp only [Bool.and_eq_true, List.isEmpty_iff, brokenBy_eq_nil_iff, failing]
                  exact ⟨fun r member broken => quietNode (.inl ⟨r, member, broken⟩),
                    fun p member below => quietNode (.inr ⟨p, member, below⟩)⟩
          | false =>
              rw [failureTree_of_scalar presence structured, children_of_not_structured v structured]
              simp [brokenBy_eq_nil_iff]

/-- No failure tree has an empty node, by induction over the nodes: a failing node either
lists a message or keeps a failing child, and it keeps only children with failures.
-/
theorem failureTree_solid {t : DataType} {v : Value} {e : Failures} (h : t.failureTree v = some e)
    : e.Solid := by
  induction t, v using children_induction generalizing e with
  | step t v ih =>
      cases presence : v.isAbsent with
      | true =>
          rw [failureTree_of_absent presence] at h
          split at h
          · cases h
            exact .messages (by simp)
          · cases h
      | false =>
          cases structured : t.isStructured with
          | true =>
              rw [failureTree_of_structured presence structured] at h
              split at h
              · cases h
              · rename_i nonempty
                cases h
                refine .nested ?_ (.of_forall ?_)
                · by_cases noOwn : t.brokenBy v = []
                  · exact .inr fun noItems => nonempty (by simp [noOwn, noItems])
                  · exact .inl noOwn
                · intro q member
                  simp only [failingChildren, List.mem_filterMap, Option.map_eq_some_iff] at member
                  obtain ⟨p, child, failures, tree, rfl⟩ := member
                  exact ⟨failures, rfl, ih p child tree⟩
          | false =>
              rw [failureTree_of_scalar presence structured] at h
              split at h
              · cases h
              · rename_i nonempty
                cases h
                exact .messages (by simpa using nonempty)

/-- Validation computes the failure tree of a value. From any flag it stops with the first
stop among the verdicts of the rules it runs, none of them on an absent value; otherwise it
gives the failure tree and raises the flag when one of those rules asks the batch to stop.
The tree is nothing exactly when the root does not fail, and no node of it is empty.
-/
theorem check_computes_failureTree (t : DataType) (v : Value) (flag : Bool)
    : (t.check v).run flag
        = (match Verdict.firstAbort (t.verdicts v) with
          | some message => .error message
          | none => .ok (t.failureTree v, flag || (t.verdicts v).contains .cancel))
      ∧ (t.failureTree v = none ↔ ¬ t.Fails v)
      ∧ ∀ e, t.failureTree v = some e → e.Solid :=
  ⟨check_meets t v flag, failureTree_eq_none_iff t v, fun _ => failureTree_solid⟩

end DataType

end Conform
