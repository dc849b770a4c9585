import Mathlib
import Conform.Schema.Load
/-! A list whose item type refers back to it is reported as circular when it is built under its own
name first, and is built inside itself without end when first reached through a reference:
which of the two happens depends on the order of the declarations.
-/

namespace Conform.Schema

-----------------------------------------------------------------------------------------
-- Copies made at a reference
-----------------------------------------------------------------------------------------

@[simp] theorem Declaration.copyAt_ref (target d : Declaration)
    : (target.copyAt d).ref = target.ref := rfl

@[simp] theorem Declaration.copyAt_kind (target d : Declaration)
    : (target.copyAt d).kind = target.kind := rfl

@[simp] theorem Declaration.copyAt_itemType (target d : Declaration)
    : (target.copyAt d).itemType = target.itemType := rfl

@[simp] theorem Declaration.copyAt_rules (target d : Declaration)
    : (target.copyAt d).rules = target.rules ++ d.rules := rfl

-----------------------------------------------------------------------------------------
-- One step of the loader
-----------------------------------------------------------------------------------------

/-- Looking up custom rules that are all known succeeds and leaves the loader as it was, by
induction on the names of the rules. -/
theorem customRules_known {l : Loader} {d : Declaration}
    (known : ∀ r ∈ d.rules, (l.rules.find? (·.1 == r)).isSome)
    : ∃ rs, (customRules d).run l = pure (rs, l) := by
  unfold customRules
  simp only [StateT.run_bind, StateT.run_get, pure_bind]
  generalize d.rules = names at known
  induction names with
  | nil => exact ⟨[], rfl⟩
  | cons r rest ih =>
      obtain ⟨⟨k, rule⟩, lookup⟩ := Option.isSome_iff_exists.mp (known r (by simp))
      obtain ⟨rs, later⟩ := ih (fun r' mem => known r' (by simp [mem]))
      refine ⟨rule :: rs, ?_⟩
      simp [List.mapM_cons, lookup, later]

/-- Following a reference to a declaration that refers to nothing itself and is not being
built gives its copy, and leaves the loader as it was: the declaration is not marked. -/
theorem resolveRef_of_direct {fuel : Nat} {l : Loader} {d target : Declaration} {key : String}
    (found : l.declarations.find? (·.1 == d.ref) = some (key, target))
    (unmarked : d.ref ∉ l.building) (direct : target.ref = "")
    : (resolveRef (fuel + 1) d).run l = pure (target.copyAt d, l) := by
  simp [resolveRef, found, unmarked, direct]

/-- Following a reference to a declaration that is being built is circular. -/
theorem resolveRef_of_marked {fuel : Nat} {l : Loader} {d target : Declaration} {key : String}
    (found : l.declarations.find? (·.1 == d.ref) = some (key, target))
    (marked : d.ref ∈ l.building)
    : (resolveRef (fuel + 1) d).run l = .error (.circularType d.ref) := by
  simp [resolveRef, found, marked]
  rfl

/-- A declaration that refers to another is built as the copy its reference resolves to, when
resolving reads the loader only. -/
theorem build_through_ref {fuel : Nat} {l : Loader} {d d' : Declaration} (refers : d.ref ≠ "")
    (resolved : (resolveRef fuel d).run l = pure (d', l)) (direct : d'.ref = "")
    : (build (fuel + 1) (some d)).run l = (build (fuel + 1) (some d')).run l := by
  rw [build.eq_3, build.eq_3]
  simp [refers, resolved, direct]

/-- A list whose rules are known fails as its item type fails. -/
theorem build_list_error {fuel : Nat} {l : Loader} {d item : Declaration} {e : LoadError}
    (direct : d.ref = "") (list : Kind.ofName? d.kind = some .list)
    (items : d.itemType = some item) (known : ∀ r ∈ d.rules, (l.rules.find? (·.1 == r)).isSome)
    (fails : (build fuel (some item)).run l = .error e)
    : (build (fuel + 1) (some d)).run l = .error e := by
  obtain ⟨rs, rules⟩ := customRules_known known
  rw [build.eq_3]
  simp [direct, list, rules, items, fails]

/-- A reference to a declaration that is being built is circular, once there is depth left to
follow it. -/
theorem build_of_marked_ref {fuel : Nat} {l : Loader} {d target : Declaration} {key : String}
    (refers : d.ref ≠ "") (found : l.declarations.find? (·.1 == d.ref) = some (key, target))
    (marked : d.ref ∈ l.building)
    : (build (fuel + 2) (some d)).run l = .error (.circularType d.ref) := by
  rw [build.eq_3]
  simp [refers, resolveRef_of_marked found marked]
  rfl

/-- A top-level name not built yet nor being built fails as its declaration fails to build
with the name marked. -/
theorem named_error {fuel : Nat} {l : Loader} {name : String} {d : Declaration} {key : String}
    {e : LoadError} (fresh : l.built.find? (·.1 == name) = none)
    (found : l.declarations.find? (·.1 == name) = some (key, d)) (unmarked : name ∉ l.building)
    (fails : (build fuel (some d)).run
      { l with building := name :: l.building.filter (· != name) } = .error e)
    : (named (fuel + 1) name).run l = .error e := by
  rw [named.eq_2]
  simp [fresh, found, unmarked, whileBuilding, setBuilding, fails]

-----------------------------------------------------------------------------------------
-- A list of references to itself
-----------------------------------------------------------------------------------------

/-- A reference to a list whose item type is that same reference, where the list is not being
built, never finishes building: it runs out of every depth. By recursion on the depth, two
levels at a time: the reference resolves to an unmarked copy of the list, and the copy builds
the reference again with the loader unchanged. -/
theorem build_runs_out_of_self_item {l : Loader} {item target : Declaration} {key : String}
    (refers : item.ref ≠ "")
    (found : l.declarations.find? (·.1 == item.ref) = some (key, target))
    (unmarked : item.ref ∉ l.building) (direct : target.ref = "")
    (list : Kind.ofName? target.kind = some .list) (loops : target.itemType = some item)
    (known : ∀ r ∈ target.rules ++ item.rules, (l.rules.find? (·.1 == r)).isSome)
    : ∀ fuel, (build fuel (some item)).run l = .error .endlessNesting
  | 0 => rfl
  | 1 => by simp [build, refers, resolveRef]; rfl
  | fuel + 2 => by
    rw [build_through_ref refers (resolveRef_of_direct found unmarked direct) direct]
    exact build_list_error direct list loops (by simpa using known)
      (build_runs_out_of_self_item refers found unmarked direct list loops known (fuel + 1))

/-- A list named `name` whose items are the top-level `D`. -/
def listOfD (name : String) : Declaration :=
  { name, kind := "List", itemType := some { ref := "D" } }

@[simp] theorem listOfD_name (name : String) : (listOfD name).name = name := rfl

/-- Whether a list of references to itself is reported as circular depends on the order of
the top-level declarations. With a list `C` of `D` first, `D` is reached through a reference
and built inside itself without end: loading runs out of every depth. With `D` first, `D` is
marked under its own name and its item type is circular at `D`. By `named_error` and
`build_list_error` down to the item type, then `build_runs_out_of_self_item` for the first
order and `build_of_marked_ref` for the second. -/
theorem circularType_depends_on_order (rules : List (String × Rule)) (fuel : Nat)
    : loadDocument rules fuel { types := [some (listOfD "C"), some (listOfD "D")] }
        = .error .endlessNesting
      ∧ loadDocument rules (fuel + 4) { types := [some (listOfD "D"), some (listOfD "C")] }
        = .error (.circularType "D") := by
  constructor
  · -- `C` is built first, with only `C` marked; its item type is the reference to `D`.
    have item : ∀ fuel, (build fuel (some { ref := "D" })).run
        { rules, declarations := [("C", listOfD "C"), ("D", listOfD "D")], building := ["C"] }
        = .error .endlessNesting :=
      build_runs_out_of_self_item (by decide) rfl (by simp) rfl (by decide) rfl
        (by simp [listOfD])
    have first : ∀ fuel, (named fuel "C").run
        { rules, declarations := [("C", listOfD "C"), ("D", listOfD "D")] }
        = .error .endlessNesting := by
      intro fuel
      match fuel with
      | 0 => rfl
      | 1 => rfl
      | fuel + 2 =>
          exact named_error rfl rfl (by simp)
            (build_list_error rfl (by decide) rfl (by simp [listOfD]) (item fuel))
    simp [loadDocument, first]
    rfl
  · have first : (named (fuel + 4) "D").run
        { rules, declarations := [("D", listOfD "D"), ("C", listOfD "C")] }
        = .error (.circularType "D") :=
      named_error rfl rfl (by simp)
        (build_list_error rfl (by decide) rfl (by simp [listOfD])
          (build_of_marked_ref (by decide) rfl (by simp)))
    simp [loadDocument, first]
    rfl

end Conform.Schema
