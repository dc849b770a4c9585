import Mathlib
import Conform.Proofs.FailuresJson
import Conform.Schema.Load
/-! Every type that loading builds carries, at every depth, custom rules of the registry only, so
the checker, which loads with an empty registry, has no custom rules.
-/

namespace Conform.DataType

/-- Every custom rule of a type, and of the types it is built from, is one of some rules. -/
def CustomFrom (rules : List Rule) (t : DataType) : Prop :=
  ∀ s : DataType, s.Within t → ∀ r ∈ s.basics.custom, r ∈ rules

/-- A type's custom rules come from some rules when its own do and those of its item type and
of its fields do, by the cases of what it is built from. -/
theorem CustomFrom.of_parts {rules : List Rule} {t : DataType}
    (own : ∀ r ∈ t.basics.custom, r ∈ rules)
    (item : ∀ b i, t = .list b i → i.CustomFrom rules)
    (fields : ∀ f ∈ t.fields, f.CustomFrom rules) : t.CustomFrom rules := by
  intro s within
  cases within with
  | refl => exact own
  | item inner => exact item _ _ rfl s inner
  | field member inner => exact fields _ member s inner

theorem CustomFrom.field {rules : List Rule} {t f : DataType} (h : t.CustomFrom rules)
    (member : f ∈ t.fields) : f.CustomFrom rules :=
  fun s inner => h s (.field member inner)

end Conform.DataType

namespace Conform.Schema

open Conform.DataType

variable {α β γ : Type}

-----------------------------------------------------------------------------------------
-- Running loading steps
-----------------------------------------------------------------------------------------

theorem run_bind_ok {x : LoadM α} {f : α → LoadM β} {l l' : Loader} {b : β}
    : (x >>= f).run l = .ok (b, l')
      ↔ ∃ a l₁, x.run l = .ok (a, l₁) ∧ (f a).run l₁ = .ok (b, l') := by
  simp only [StateT.run_bind]
  cases x.run l with
  | error e => simp [bind, Except.bind]
  | ok p =>
    obtain ⟨a, l₁⟩ := p
    simp [bind, Except.bind]

theorem except_bind_ok {x : Except LoadError α} {f : α → Except LoadError β} {b : β}
    : x >>= f = .ok b ↔ ∃ a, x = .ok a ∧ f a = .ok b := by
  cases x <;> simp [bind, Except.bind]

theorem ite_bind_eq {c : Prop} [Decidable c] {m₁ m₂ : LoadM α} {k : α → LoadM β}
    : ((if c then m₁ else m₂) >>= k) = if c then m₁ >>= k else m₂ >>= k := by
  split <;> rfl

-----------------------------------------------------------------------------------------
-- Steps that keep the registry
-----------------------------------------------------------------------------------------

/-- A loader with a registry whose built types take their custom rules from it. -/
structure Loader.Registered (registry : List (String × Rule)) (l : Loader) : Prop where
  rules : l.rules = registry
  built : ∀ p ∈ l.built, p.2.CustomFrom (registry.map (·.2))

/-- A loading step that, started from a loader with a registry, ends (when it ends) in a loader
with that registry, with a result that `P` holds of. -/
def KeepsRegistry (registry : List (String × Rule)) (P : α → Prop) (m : LoadM α) : Prop :=
  ∀ l a l', l.Registered registry → m.run l = .ok (a, l') → P a ∧ l'.Registered registry

namespace KeepsRegistry

variable {registry : List (String × Rule)} {P : α → Prop} {Q : β → Prop}

theorem pure {a : α} (h : P a) : KeepsRegistry registry P (Pure.pure a) := by
  intro l b l' registered run
  cases run
  exact ⟨h, registered⟩

theorem throw (e : LoadError) : KeepsRegistry registry P (MonadExcept.throw e) := by
  intro l b l' _ run
  cases run

theorem bind {m : LoadM α} {f : α → LoadM β} (first : KeepsRegistry registry P m)
    (next : ∀ a, P a → KeepsRegistry registry Q (f a)) : KeepsRegistry registry Q (m >>= f) := by
  intro l b l'' registered run
  obtain ⟨a, l₁, ran, rest⟩ := run_bind_ok.mp run
  obtain ⟨holds, registered₁⟩ := first l a l₁ registered ran
  exact next a holds l₁ b l'' registered₁ rest

theorem ite {c : Prop} [Decidable c] {m₁ m₂ : LoadM α} (yes : c → KeepsRegistry registry P m₁)
    (no : ¬ c → KeepsRegistry registry P m₂) : KeepsRegistry registry P (if c then m₁ else m₂) := by
  split
  · exact yes ‹_›
  · exact no ‹_›

theorem get : KeepsRegistry registry (Loader.Registered registry) (MonadState.get : LoadM Loader) := by
  intro l a l' registered run
  cases run
  exact ⟨registered, registered⟩

/-- Marking or unmarking a name as being built touches neither the registry nor the built
types. -/
theorem setBuilding (name : String) (on : Bool)
    : KeepsRegistry registry (fun _ => True) (Schema.setBuilding name on) := by
  intro l a l' registered run
  cases run
  exact ⟨trivial, registered.rules, registered.built⟩

theorem whileBuilding {name : String} {m : LoadM α} (h : KeepsRegistry registry P m)
    : KeepsRegistry registry P (Schema.whileBuilding name m) :=
  bind (setBuilding name true) fun _ _ => bind h fun _ holds =>
    bind (setBuilding name false) fun _ _ => pure holds

/-- Each of a list of steps in turn, by induction on the list. -/
theorem mapM {f : γ → LoadM α} {xs : List γ} (each : ∀ x ∈ xs, KeepsRegistry registry P (f x))
    : KeepsRegistry registry (fun as => ∀ a ∈ as, P a) (xs.mapM f) := by
  induction xs with
  | nil => exact pure (by simp)
  | cons x rest ih =>
    rw [List.mapM_cons]
    exact bind (each x List.mem_cons_self) fun a first =>
      bind (ih fun y member => each y (List.mem_cons_of_mem x member)) fun as later =>
        pure (by simpa [first] using later)

end KeepsRegistry

-----------------------------------------------------------------------------------------
-- What each loading function keeps
-----------------------------------------------------------------------------------------

variable {registry : List (String × Rule)}

/-- Following a chain of references marks and unmarks names only, by induction on the depth. -/
theorem resolveRef_keeps : ∀ (fuel : Nat) (d : Declaration),
    KeepsRegistry registry (fun _ => True) (resolveRef fuel d)
  | 0, _ => by
    rw [resolveRef.eq_1]
    exact .throw _
  | fuel + 1, d => by
    rw [resolveRef.eq_2]
    refine .bind .get fun l _ => ?_
    split
    · exact .throw _
    · refine .ite (fun _ => .bind (P := fun _ => True) (.throw _) fun _ _ => ?_) (fun _ => ?_) <;>
        exact .ite (fun _ => .pure trivial) (fun _ => .whileBuilding (resolveRef_keeps fuel _))

/-- The custom rules a declaration names are rules of the registry. -/
theorem customRules_keeps (d : Declaration)
    : KeepsRegistry registry (fun rs => ∀ r ∈ rs, r ∈ registry.map (·.2)) (customRules d) := by
  unfold customRules
  refine .bind .get fun l registered => ?_
  refine .mapM fun name _ => ?_
  split
  · rename_i key rule found
    refine .pure ?_
    rw [← registered.rules]
    exact List.mem_map.mpr ⟨(key, rule), List.mem_of_find?_eq_some found, rfl⟩
  · exact .throw _

/-- Reading a bound leaves the loader as it was. -/
theorem floatBound_keeps (d : Declaration) (setting : String) (bound : Option Yaml.Loose)
    : KeepsRegistry registry (fun _ => True) (floatBound d setting bound) := by
  unfold floatBound
  split <;> simp [KeepsRegistry.pure, KeepsRegistry.throw]

theorem decimalBound_keeps (d : Declaration) (setting : String) (bound : Option Yaml.Loose)
    : KeepsRegistry registry (fun _ => True) (decimalBound d setting bound) := by
  unfold decimalBound
  split
  case h_6 => split <;> simp [KeepsRegistry.pure, KeepsRegistry.throw]
  all_goals simp [KeepsRegistry.pure, KeepsRegistry.throw]

theorem toDecimal_keeps (typeName setting : String) (bound : Option DecimalBound)
    : KeepsRegistry registry (fun _ => True) (DecimalBound.toDecimal typeName setting bound) := by
  unfold DecimalBound.toDecimal
  split
  case h_4 => split <;> simp [KeepsRegistry.pure, KeepsRegistry.throw]
  all_goals simp [KeepsRegistry.pure]

theorem dateBound_keeps (d : Declaration) (setting : String) (bound : Option Yaml.Loose)
    : KeepsRegistry registry (fun _ => True) (dateBound d setting bound) := by
  unfold dateBound
  split
  case h_4 => split <;> simp [KeepsRegistry.pure, KeepsRegistry.throw]
  all_goals simp [KeepsRegistry.pure, KeepsRegistry.throw]

/-- Recording a built type whose custom rules come from the registry keeps the registry. -/
theorem addBuilt_keeps {name : String} {t : DataType} (h : t.CustomFrom (registry.map (·.2)))
    : KeepsRegistry registry (fun _ => True) (modify fun l : Loader =>
        { rules := l.rules, declarations := l.declarations, built := l.built ++ [(name, t)],
          building := l.building } : LoadM Unit) := by
  intro l a l' registered run
  cases run
  refine ⟨trivial, registered.rules, fun p member => ?_⟩
  rcases List.mem_append.mp member with old | new
  · exact registered.built p old
  · simp only [List.mem_singleton] at new
    exact new ▸ h

/-- A type with no item type and no fields takes its custom rules from the registry when its
own do. -/
theorem customFrom_of_leaf {rules : List Rule} {t : DataType} (own : ∀ r ∈ t.basics.custom, r ∈ rules)
    (notList : ∀ b i, t ≠ .list b i) (noFields : t.fields = []) : t.CustomFrom rules :=
  CustomFrom.of_parts own (fun b i same => absurd same (notList b i)) (by simp [noFields])

/-- A record on a base whose custom rules come from the registry, with fields built by steps
that keep the registry, takes its custom rules from the registry. -/
theorem record_keeps {b : Basics} {basedOn : Option DataType} {fields : List (Option Declaration)}
    {buildField : Option Declaration → LoadM DataType} (own : ∀ r ∈ b.custom, r ∈ registry.map (·.2))
    (base : ∀ t, basedOn = some t → t.CustomFrom (registry.map (·.2)))
    (each : ∀ f ∈ fields, KeepsRegistry registry (CustomFrom (registry.map (·.2))) (buildField f))
    : KeepsRegistry registry (CustomFrom (registry.map (·.2)))
        (do let built ← fields.mapM buildField; pure (DataType.record b basedOn built)) := by
  refine .bind (.mapM each) fun built fromRegistry => .pure ?_
  refine CustomFrom.of_parts own (fun _ _ same => by cases same) fun f member => ?_
  cases basedOn with
  | none => exact fromRegistry f (by simpa [DataType.fields] using member)
  | some t =>
    rcases List.mem_append.mp (by simpa [DataType.fields] using member) with inherited | declared
    · exact (base t rfl).field inherited
    · exact fromRegistry f declared

/-- The type loading builds under a name, and the type it builds from a declaration, take their
custom rules from the registry, and leave a loader with the registry: by induction on the depth,
along the steps of `named` and `build`. -/
theorem loading_keeps : ∀ fuel : Nat,
    (∀ name, KeepsRegistry registry (CustomFrom (registry.map (·.2))) (named fuel name))
    ∧ (∀ d, KeepsRegistry registry (CustomFrom (registry.map (·.2))) (build fuel d))
  | 0 => ⟨fun _ => by rw [named.eq_1]; exact .throw _, fun _ => by rw [build.eq_1]; exact .throw _⟩
  | fuel + 1 => by
    obtain ⟨namedKeeps, buildKeeps⟩ := loading_keeps fuel
    refine ⟨fun name => ?_, fun d => ?_⟩
    · rw [named.eq_2]
      refine .bind .get fun l registered => ?_
      split
      · -- a type built before comes from the loader
        rename_i key t found
        exact .pure (registered.built (key, t) (List.mem_of_find?_eq_some found))
      · split
        · exact .throw _
        · rename_i key d found
          refine .ite (fun _ => .bind (P := fun _ => True) (.throw _) fun _ _ => ?_) (fun _ => ?_) <;>
            exact .bind (.whileBuilding (buildKeeps (some d))) fun t fromRegistry =>
              .bind (addBuilt_keeps fromRegistry) fun _ _ => .pure fromRegistry
    · cases d with
      | none =>
        rw [build.eq_2 _ (by simp)]
        exact .throw _
      | some d =>
        rw [build.eq_3, ← ite_bind_eq]
        refine .bind (P := fun _ => True)
          (.ite (fun _ => .pure trivial) (fun _ => resolveRef_keeps fuel d)) fun d _ => ?_
        beta_reduce
        split
        · rename_i kind _
          refine .bind (customRules_keeps d) fun custom own => ?_
          dsimp only
          split
          · exact .pure (customFrom_of_leaf own (by simp) (by simp [fields]))
          · exact .bind (floatBound_keeps _ _ _) fun _ _ => .bind (floatBound_keeps _ _ _) fun _ _ =>
              .pure (customFrom_of_leaf own (by simp) (by simp [fields]))
          · exact .bind (decimalBound_keeps _ _ _) fun _ _ => .bind (decimalBound_keeps _ _ _) fun _ _ =>
              .bind (toDecimal_keeps _ _ _) fun _ _ => .bind (toDecimal_keeps _ _ _) fun _ _ =>
                .pure (customFrom_of_leaf own (by simp) (by simp [fields]))
          · exact .bind (dateBound_keeps _ _ _) fun _ _ => .bind (dateBound_keeps _ _ _) fun _ _ =>
              .pure (customFrom_of_leaf own (by simp) (by simp [fields]))
          · exact .pure (customFrom_of_leaf own (by simp) (by simp [fields]))
          · exact .pure (customFrom_of_leaf own (by simp) (by simp [fields]))
          · split
            · exact .throw _
            · exact .bind (buildKeeps _) fun item fromRegistry => .pure
                (CustomFrom.of_parts own (fun _ _ same => by cases same; exact fromRegistry)
                  (by simp [fields]))
          · refine .ite (fun _ => .bind (.pure (by simp)) fun basedOn base =>
                record_keeps own base fun f _ => buildKeeps f) (fun _ => ?_)
            refine .bind (namedKeeps _) fun base fromRegistry => ?_
            split
            · refine .bind (.pure (P := fun basedOn => ∀ t, basedOn = some t → _) ?_) fun basedOn h =>
                record_keeps own h fun f _ => buildKeeps f
              rintro t ⟨⟩
              exact fromRegistry
            · exact .bind (P := fun _ => False) (.throw _) fun _ never => never.elim
        · exact .throw _

/-- Every type a schema document loads to takes its custom rules, at every depth, from the
registry it is loaded with. -/
theorem loadDocument_customFrom {rules : List (String × Rule)} {fuel : Nat} {doc : Document}
    {schema : Schema} (loaded : loadDocument rules fuel doc = .ok schema)
    : ∀ p ∈ schema.types, p.2.CustomFrom (rules.map (·.2)) := by
  unfold loadDocument at loaded
  dsimp only at loaded
  obtain ⟨⟨declarations, names⟩, _, built⟩ := except_bind_ok.mp loaded
  split at built
  · rename_i types _ ran
    cases built
    have each : ∀ n ∈ names, KeepsRegistry rules (fun p => p.2.CustomFrom (rules.map (·.2)))
        (do let t ← named fuel n; pure (n, t)) :=
      fun n _ => .bind ((loading_keeps fuel).1 n) fun t fromRegistry => .pure fromRegistry
    exact (KeepsRegistry.mapM each _ _ _ ⟨rfl, by simp⟩ ran).1
  · cases built

/-- Every type of a schema loaded from text takes its custom rules, at every depth, from the
registry it is loaded with; a schema loaded with an empty registry has no custom rule anywhere. -/
theorem load_customFrom {rules : List (String × Rule)} {text : String} {schema : Schema}
    (loaded : load rules text = .ok schema) : ∀ p ∈ schema.types, p.2.CustomFrom (rules.map (·.2)) := by
  unfold load at loaded
  dsimp only at loaded
  split at loaded
  · exact loadDocument_customFrom loaded
  · cases loaded

end Conform.Schema
