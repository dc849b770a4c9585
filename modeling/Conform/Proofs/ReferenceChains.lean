import Mathlib
import Conform.Proofs.MalformedBounds
import Conform.Proofs.RegisteredRules
/-! A declaration that refers to another is built as the type of the end of its chain of
references, with the first name, description and required flag given along the chain and the
rules of the chain from its end back.
-/

namespace Conform

/-- A type with other name, description, required flag and custom rules. -/
def DataType.withBasics : DataType → Basics → DataType
  | .text _ minLength maxLength format, b => .text b minLength maxLength format
  | .number _ min max format, b => .number b min max format
  | .decimal _ min max places, b => .decimal b min max places
  | .date _ min max, b => .date b min max
  | .choice _ values names, b => .choice b values names
  | .trueFalse _, b => .trueFalse b
  | .list _ item, b => .list b item
  | .record _ basedOn fields, b => .record b basedOn fields

@[simp] theorem DataType.basics_withBasics (t : DataType) (b : Basics)
    : (t.withBasics b).basics = b := by
  cases t <;> rfl

end Conform

namespace Conform.Schema

variable {α : Type}

-----------------------------------------------------------------------------------------
-- Chains of references
-----------------------------------------------------------------------------------------

/-- The top-level declarations a reference leads through, from the one it names to the first one
that refers to nothing. -/
inductive RefChain (declarations : List (String × Declaration)) : Declaration → List Declaration → Prop
  | last {d target : Declaration} {key : String} (refers : d.ref ≠ "")
      (found : declarations.find? (·.1 == d.ref) = some (key, target)) (direct : target.ref = "")
      : RefChain declarations d [target]
  | step {d target : Declaration} {key : String} {rest : List Declaration} (refers : d.ref ≠ "")
      (found : declarations.find? (·.1 == d.ref) = some (key, target))
      (next : RefChain declarations target rest) : RefChain declarations d (target :: rest)

/-- The first text of a list that is not empty, or the empty text. -/
def firstGiven (texts : List String) : String := (texts.find? (!·.isEmpty)).getD ""

/-- The declaration a reference from `d` along `chain` resolves to: the chain's last declaration
with the first name, description and required flag given along `d` and the chain, and the rules
of the chain from its end back to `d`. -/
def Declaration.resolvedAlong (d : Declaration) (chain : List Declaration) (last : Declaration) :
    Declaration :=
  { last with
    name := firstGiven ((d :: chain).map (·.name))
    description := firstGiven ((d :: chain).map (·.description))
    required := (d :: chain).findSome? (·.required)
    rules := (d :: chain).reverse.flatMap (·.rules) }

theorem firstGiven_cons (s : String) (rest : List String)
    : firstGiven (s :: rest) = if s.isEmpty then firstGiven rest else s := by
  by_cases empty : s.isEmpty <;> simp [firstGiven, empty]

/-- A copy made at one step of a chain resolves along the rest of the chain as the declaration
it was copied for resolves along the whole chain. -/
theorem resolvedAlong_copyAt (target d last : Declaration) (chain : List Declaration)
    : (target.copyAt d).resolvedAlong chain last = d.resolvedAlong (target :: chain) last := by
  simp only [Declaration.resolvedAlong, Declaration.copyAt, List.map_cons, firstGiven_cons,
    List.findSome?_cons, List.reverse_cons, List.flatMap_append, List.flatMap_cons,
    List.flatMap_nil, List.append_nil, List.append_assoc]
  congr 1
  · by_cases given : d.name.isEmpty <;> simp [given]
  · by_cases given : d.description.isEmpty <;> simp [given]
  · cases d.required <;> rfl

/-- Of two texts the first given is the first, or the second when the first is empty (also
when the second is empty: then both are). -/
theorem firstGiven_pair (s t : String) : firstGiven [s, t] = if s.isEmpty then t else s := by
  have single : firstGiven [t] = t := by
    by_cases empty : t.isEmpty
    · simp [firstGiven, String.isEmpty_iff.mp empty]
    · simp [firstGiven, empty]
  rw [firstGiven_cons, single]

/-- A chain of one declaration resolves to the copy of that declaration. -/
theorem resolvedAlong_single (target d : Declaration)
    : d.resolvedAlong [target] target = target.copyAt d := by
  simp only [Declaration.resolvedAlong, Declaration.copyAt, List.map_cons, List.map_nil,
    firstGiven_pair, List.findSome?_cons, List.findSome?_nil,
    List.reverse_cons, List.reverse_nil, List.nil_append, List.singleton_append,
    List.flatMap_cons, List.flatMap_nil, List.append_nil]
  congr 1
  cases d.required <;> cases target.required <;> rfl

/-- A chain depends on the reference it starts from only. -/
theorem RefChain.of_ref {declarations : List (String × Declaration)} {d d' : Declaration}
    {chain : List Declaration} (h : RefChain declarations d chain) (same : d'.ref = d.ref)
    : RefChain declarations d' chain := by
  cases h with
  | last refers found direct => exact .last (same ▸ refers) (same ▸ found) direct
  | step refers found next => exact .step (same ▸ refers) (same ▸ found) next

/-- The last declaration of a chain refers to nothing. -/
theorem RefChain.getLast_direct {declarations : List (String × Declaration)} {d : Declaration}
    {chain : List Declaration} (h : RefChain declarations d chain)
    : ∃ last, chain.getLast? = some last ∧ last.ref = "" := by
  induction h with
  | last _ _ direct => exact ⟨_, rfl, direct⟩
  | @step _ target _ rest _ _ next ih =>
    obtain ⟨last, found, direct⟩ := ih
    refine ⟨last, ?_, direct⟩
    cases rest with
    | nil => cases next
    | cons x xs => simpa [List.getLast?_cons_cons] using found

/-- A reference leads through one chain only: each step is a look-up. -/
theorem RefChain.unique {declarations : List (String × Declaration)} {d : Declaration}
    {chain chain' : List Declaration} (h : RefChain declarations d chain)
    (h' : RefChain declarations d chain') : chain = chain' := by
  induction h generalizing chain' with
  | last _ found direct =>
    cases h' with
    | last _ found' _ =>
      rw [found] at found'
      cases found'
      rfl
    | step _ found' next =>
      rw [found] at found'
      cases found'
      cases next <;> contradiction
  | step _ found next ih =>
    cases h' with
    | last _ found' direct =>
      rw [found] at found'
      cases found'
      cases next <;> contradiction
    | step _ found' next' =>
      rw [found] at found'
      cases found'
      rw [ih next']

-----------------------------------------------------------------------------------------
-- Following a chain
-----------------------------------------------------------------------------------------

/-- Marking a name that is not marked and unmarking it again leaves the loader as it was. -/
theorem unmark_mark {l : Loader} {name : String} (unmarked : name ∉ l.building)
    : { l with building := name :: l.building.filter (· != name) }.building.filter (· != name)
      = l.building := by
  simp only [List.filter_cons, bne_self_eq_false, Bool.false_eq_true, if_false,
    List.filter_filter, Bool.and_self]
  exact List.filter_eq_self.mpr fun x member => by
    simp only [bne_iff_ne, ne_eq]
    rintro rfl
    exact unmarked member

/-- A step run with a name marked ends with the name unmarked in the loader it leaves. -/
theorem whileBuilding_ok {name : String} {m : LoadM α} {l l' : Loader} {a : α}
    (ran : (whileBuilding name m).run l = .ok (a, l'))
    : ∃ l₂, m.run { l with building := name :: l.building.filter (· != name) } = .ok (a, l₂)
      ∧ l' = { l₂ with building := l₂.building.filter (· != name) } := by
  unfold whileBuilding setBuilding at ran
  obtain ⟨_, l₁, marked, ran⟩ := run_bind_ok.mp ran
  cases marked
  obtain ⟨a', l₂, inner, ran⟩ := run_bind_ok.mp ran
  obtain ⟨_, l₃, unmarked, ran⟩ := run_bind_ok.mp ran
  cases unmarked
  cases ran
  exact ⟨l₂, inner, rfl⟩

/-- Following a reference that ends gives the declaration it resolves to along the chain of
top-level declarations it leads through, and leaves the loader as it was. By induction on the
depth: each step copies the declaration it reaches and follows that copy's reference with the
name marked, and the copy resolves along the rest of the chain as the start does along the
whole. -/
theorem resolveRef_along : ∀ (fuel : Nat) (d : Declaration) {l l' : Loader} {d' : Declaration},
    d.ref ≠ "" → (resolveRef fuel d).run l = .ok (d', l') →
    l' = l ∧ ∃ chain last, RefChain l.declarations d chain ∧ chain.getLast? = some last
      ∧ d' = d.resolvedAlong chain last
  | 0, _, _, _, _, _, ran => by cases ran
  | fuel + 1, d, l, l', d', refers, ran => by
    rw [resolveRef.eq_2] at ran
    simp only [StateT.run_bind, StateT.run_get, pure_bind] at ran
    cases found : l.declarations.find? (·.1 == d.ref) with
    | none =>
      simp only [found] at ran
      cases ran
    | some entry =>
      obtain ⟨key, target⟩ := entry
      simp only [found] at ran
      by_cases marked : l.building.contains d.ref = true
      · simp only [marked, if_true] at ran
        cases ran
      · simp only [marked, Bool.false_eq_true, if_false] at ran
        by_cases direct : (target.copyAt d).ref.isEmpty = true
        · -- the declaration reached refers to nothing: its copy is the result
          simp only [direct, if_true] at ran
          cases ran
          have ends : target.ref = "" := by simpa using direct
          exact ⟨rfl, [target], target, .last refers found ends, rfl,
            (resolvedAlong_single target d).symm⟩
        · -- the copy's reference is followed with the name marked
          simp only [direct, Bool.false_eq_true, if_false] at ran
          obtain ⟨l₂, inner, rfl⟩ := whileBuilding_ok ran
          have onward : (target.copyAt d).ref ≠ "" := by simpa using direct
          obtain ⟨same, chain, last, rest, ending, rfl⟩ := resolveRef_along fuel _ onward inner
          subst same
          have unmarked : d.ref ∉ l.building := by simpa using marked
          refine ⟨by rw [unmark_mark unmarked], target :: chain, last,
            .step refers found (rest.of_ref (by simp)), ?_, resolvedAlong_copyAt target d last chain⟩
          cases chain with
          | nil => cases rest
          | cons x xs => simpa [List.getLast?_cons_cons] using ending

-----------------------------------------------------------------------------------------
-- Building a copy
-----------------------------------------------------------------------------------------

variable {β : Type}

/-- Two loading steps that succeed alike: whenever the first succeeds, the second succeeds from
the same loader with the same result, leaving the same loader. -/
def SameOk (x y : LoadM α) : Prop :=
  ∀ l a l', x.run l = .ok (a, l') → y.run l = .ok (a, l')

/-- Two steps that build types alike but for the basics: whenever the first succeeds, the second
succeeds from the same loader, leaving the same loader, with a type that is the first one's
with the basics `b` in place of its own. -/
def Rebased (b : Basics) (x y : LoadM DataType) : Prop :=
  ∀ l t l', x.run l = .ok (t, l') → ∃ t', y.run l = .ok (t', l') ∧ t = t'.withBasics b

namespace SameOk

theorem refl (x : LoadM α) : SameOk x x := fun _ _ _ ran => ran

theorem throw (e : LoadError) (y : LoadM α) : SameOk (MonadExcept.throw e) y := by
  intro l a l' ran
  cases ran

theorem bind {m₁ m₂ : LoadM α} {k₁ k₂ : α → LoadM β} (first : SameOk m₁ m₂)
    (rest : ∀ a, SameOk (k₁ a) (k₂ a)) : SameOk (m₁ >>= k₁) (m₂ >>= k₂) := by
  intro l b l'' ran
  obtain ⟨a, l₁, ran₁, ran₂⟩ := run_bind_ok.mp ran
  exact run_bind_ok.mpr ⟨a, l₁, first l a l₁ ran₁, rest a l₁ b l'' ran₂⟩

end SameOk

namespace Rebased

variable {b : Basics}

theorem pure {t₁ t₂ : DataType} (h : t₁ = t₂.withBasics b) : Rebased b (Pure.pure t₁) (Pure.pure t₂) := by
  intro l t l' ran
  cases ran
  exact ⟨t₂, rfl, h⟩

theorem bind {m₁ m₂ : LoadM α} {k₁ k₂ : α → LoadM DataType} (first : SameOk m₁ m₂)
    (rest : ∀ a, Rebased b (k₁ a) (k₂ a)) : Rebased b (m₁ >>= k₁) (m₂ >>= k₂) := by
  intro l t l'' ran
  obtain ⟨a, l₁, ran₁, ran₂⟩ := run_bind_ok.mp ran
  obtain ⟨t', ran₂', rebased⟩ := rest a l₁ t l'' ran₂
  exact ⟨t', run_bind_ok.mpr ⟨a, l₁, first l a l₁ ran₁, ran₂'⟩, rebased⟩

theorem throw (e : LoadError) (y : LoadM DataType) : Rebased b (MonadExcept.throw e) y := by
  intro l t l' ran
  cases ran

theorem ite {c : Prop} [Decidable c] {x₁ x₂ y₁ y₂ : LoadM DataType} (yes : c → Rebased b x₁ x₂)
    (no : ¬ c → Rebased b y₁ y₂) : Rebased b (if c then x₁ else y₁) (if c then x₂ else y₂) := by
  split
  · exact yes ‹_›
  · exact no ‹_›

end Rebased

/-- The bounds of a declaration read alike whatever declaration they are named after. -/
theorem floatBound_sameOk (d d' : Declaration) (setting : String) (bound : Option Yaml.Loose)
    : SameOk (floatBound d setting bound) (floatBound d' setting bound) := by
  intro l a l' ran
  unfold floatBound at ran ⊢
  split at ran
  -- a bound that is no number is refused; every other one reads the same from both
  case h_6 => cases ran
  all_goals exact ran

theorem decimalBound_sameOk (d d' : Declaration) (setting : String) (bound : Option Yaml.Loose)
    : SameOk (decimalBound d setting bound) (decimalBound d' setting bound) := by
  intro l a l' ran
  unfold decimalBound at ran ⊢
  split at ran
  -- a text is read as a decimal, and refused when it is none; other bounds that are no number
  -- are refused
  case h_6 =>
    split at ran
    · exact ran
    · cases ran
  case h_7 => cases ran
  all_goals exact ran

theorem toDecimal_sameOk (typeName typeName' setting : String) (bound : Option DecimalBound)
    : SameOk (DecimalBound.toDecimal typeName setting bound)
        (DecimalBound.toDecimal typeName' setting bound) := by
  intro l a l' ran
  unfold DecimalBound.toDecimal at ran ⊢
  split at ran
  case h_4 x =>
    by_cases finite : Value.isFiniteFloat x = true
    · simpa only [finite, if_true] using ran
    · simp only [finite, Bool.false_eq_true, if_false] at ran
      cases ran
  all_goals exact ran

theorem dateBound_sameOk (d d' : Declaration) (setting : String) (bound : Option Yaml.Loose)
    : SameOk (dateBound d setting bound) (dateBound d' setting bound) := by
  intro l a l' ran
  unfold dateBound at ran ⊢
  split at ran
  -- a text is read as a date, and refused when it is none; other bounds are refused
  case h_4 =>
    split at ran
    · exact ran
    · cases ran
  case h_5 => cases ran
  all_goals exact ran

/-- The rule a registry holds under a name. -/
def ruleNamed (registry : List (String × Rule)) (name : String) : Option Rule :=
  (registry.find? (·.1 == name)).map (·.2)

/-- Looking up a declaration's custom rules succeeds exactly when the registry holds a rule under
each of their names, gives those rules, and leaves the loader as it was. By induction on the
names. -/
theorem customRules_ok {d : Declaration} {l l' : Loader} {rs : List Rule}
    : (customRules d).run l = .ok (rs, l') ↔ l' = l ∧ d.rules.mapM (ruleNamed l.rules) = some rs := by
  unfold customRules
  simp only [StateT.run_bind, StateT.run_get, pure_bind]
  generalize d.rules = names
  induction names generalizing rs l' with
  | nil =>
    simp only [List.mapM_nil]
    constructor
    · intro ran
      cases ran
      exact ⟨rfl, rfl⟩
    · rintro ⟨rfl, found⟩
      cases found
      rfl
  | cons name rest ih =>
    simp only [List.mapM_cons]
    cases found : l.rules.find? (·.1 == name) with
    | none =>
      simp only [found, ruleNamed, Option.map_none]
      constructor
      · intro ran
        cases ran
      · rintro ⟨_, missing⟩
        simp at missing
    | some entry =>
      obtain ⟨key, rule⟩ := entry
      simp only [found, ruleNamed, Option.map_some, pure_bind]
      rw [run_bind_ok]
      constructor
      · rintro ⟨rules, l₁, ran, done⟩
        cases done
        obtain ⟨rfl, later⟩ := ih.mp ran
        simp [later]
      · rintro ⟨same, looked⟩
        subst l'
        cases later : rest.mapM (ruleNamed l.rules) with
        | none => simp [later] at looked
        | some rules =>
          simp only [later, Option.pure_def, Option.bind_eq_bind, Option.bind_some,
            Option.some.injEq] at looked
          subst looked
          exact ⟨rules, l, ih.mpr ⟨rfl, later⟩, rfl⟩

theorem Rebased.run_of {b : Basics} {x y : LoadM DataType} (h : Rebased b x y) {l l' : Loader}
    {t : DataType} (ran : x.run l = .ok (t, l'))
    : ∃ t', y.run l = .ok (t', l') ∧ t = t'.withBasics b :=
  h l t l' ran

/-- Rules looked up under the names of two lists are those of the first list, then those of
the second. -/
theorem mapM_ruleNamed_append {registry : List (String × Rule)} {xs ys : List String}
    {rs : List Rule} (found : (xs ++ ys).mapM (ruleNamed registry) = some rs)
    : ∃ first, xs.mapM (ruleNamed registry) = some first
      ∧ ∃ second, ys.mapM (ruleNamed registry) = some second ∧ rs = first ++ second := by
  rw [List.mapM_append] at found
  cases first : xs.mapM (ruleNamed registry) with
  | none => simp [first] at found
  | some first =>
    cases second : ys.mapM (ruleNamed registry) with
    | none => simp [first, second] at found
    | some second =>
      simp only [first, second, Option.pure_def, Option.bind_eq_bind, Option.bind_some,
        Option.some.injEq] at found
      exact ⟨_, rfl, _, rfl, found.symm⟩

/-- A declaration that refers to nothing, copied with another name, description and required
flag and further rules after its own, builds as the declaration itself with those basics: the
kind and every setting come from the declaration, and only the basics of the type change. By the
kind, each setting read alike from both. -/
theorem build_copy {fuel : Nat} {last : Declaration} (direct : last.ref = "") (name description : String)
    (required : Option Bool) (extra : List String) {l l' : Loader} {t : DataType}
    (built : (build (fuel + 1) (some { last with
        name := name, description := description, required := required,
        rules := last.rules ++ extra })).run l = .ok (t, l'))
    : ∃ custom, (last.rules ++ extra).mapM (ruleNamed l.rules) = some custom
      ∧ ∃ tk, (build (fuel + 1) (some last)).run l = .ok (tk, l')
        ∧ t = tk.withBasics
          { name := name, description := description, required := required == some true,
            custom := custom } := by
  have empty : last.ref.isEmpty = true := by simp [direct]
  rw [build.eq_3] at built
  rw [build.eq_3]
  dsimp only at built ⊢
  simp only [empty, if_true, pure_bind] at built ⊢
  cases kindOf : Kind.ofName? last.kind with
  | none =>
    simp only [kindOf] at built
    cases built
  | some kind =>
    simp only [kindOf] at built ⊢
    obtain ⟨custom, l₁, looked, body⟩ := run_bind_ok.mp built
    obtain ⟨same, found⟩ := customRules_ok.mp looked
    subst l₁
    obtain ⟨own, ownFound, more, _, rfl⟩ := mapM_ruleNamed_append found
    have ownRun : (customRules last).run l = .ok (own, l) := customRules_ok.mpr ⟨rfl, ownFound⟩
    refine ⟨own ++ more, found, ?_⟩
    rw [run_bind_of_ok ownRun]
    refine Rebased.run_of ?_ body
    cases kind with
    | text | choice | trueFalse => exact .pure rfl
    | number =>
      exact .bind (floatBound_sameOk _ _ _ _) fun _ => .bind (floatBound_sameOk _ _ _ _) fun _ =>
        .pure rfl
    | decimal =>
      exact .bind (decimalBound_sameOk _ _ _ _) fun _ => .bind (decimalBound_sameOk _ _ _ _) fun _ =>
        .bind (toDecimal_sameOk _ _ _ _) fun _ => .bind (toDecimal_sameOk _ _ _ _) fun _ => .pure rfl
    | date =>
      exact .bind (dateBound_sameOk _ _ _ _) fun _ => .bind (dateBound_sameOk _ _ _ _) fun _ =>
        .pure rfl
    | list =>
      cases last.itemType with
      | none => exact .throw _ _
      | some item => exact .bind (.refl _) fun _ => .pure rfl
    | record =>
      refine .ite (fun _ => .bind (.refl _) fun _ => .pure rfl) fun _ => .bind (.refl _) fun base => ?_
      -- a base that is a record is kept; any other is refused
      cases base with
      | record => exact .bind (.refl _) fun _ => .pure rfl
      | _ => exact .bind (.throw _ _) fun _ => .bind (.refl _) fun _ => .pure rfl

-----------------------------------------------------------------------------------------
-- Building through a chain
-----------------------------------------------------------------------------------------

/-- A chain starts at the top-level declaration the reference names. -/
theorem RefChain.head {declarations : List (String × Declaration)} {d : Declaration}
    {chain : List Declaration} (h : RefChain declarations d chain)
    : ∃ first rest key, chain = first :: rest
      ∧ declarations.find? (·.1 == d.ref) = some (key, first) := by
  cases h with
  | last _ found _ => exact ⟨_, [], _, rfl, found⟩
  | step _ found _ => exact ⟨_, _, _, rfl, found⟩

/-- The rules gathered along a chain start with those of its last declaration. -/
theorem rules_along {d last : Declaration} {chain : List Declaration}
    (ending : chain.getLast? = some last)
    : (d :: chain).reverse.flatMap (·.rules)
      = last.rules ++ (d :: chain.dropLast).reverse.flatMap (·.rules) := by
  have split : chain = chain.dropLast ++ [last] := (List.dropLast_append_getLast? last ending).symm
  conv => lhs; rw [split]
  simp

/-- A flag given first along a list, read as a yes or no: no when none is given. -/
theorem eq_some_true_iff_getD (x : Option Bool) : (x == some true) = x.getD false := by
  rcases x with _ | _ | _ <;> rfl

/-- A declaration that refers to another is built, when it is built at all, as the last
declaration of the chain of top-level declarations its reference leads through, with only the
basics changed: the name of the declaration if it gives one, else that of the first declaration
of the chain; the first description and the first required flag given along the declaration and
the chain, not required when none is; and the custom rules named along the chain from its end
back to the declaration, each found in the registry. Every other setting of the type is that of
the last declaration of the chain, built in the same loader. By `resolveRef_along` for the copy
the reference resolves to, then `build_copy` for building that copy. -/
theorem build_through_refChain {fuel : Nat} {l l' : Loader} {d : Declaration} {t : DataType}
    (named : ∀ p ∈ l.declarations, p.2.name ≠ "") (refers : d.ref ≠ "")
    (built : (build (fuel + 1) (some d)).run l = .ok (t, l'))
    : ∃ first chain last, RefChain l.declarations d (first :: chain)
      ∧ (first :: chain).getLast? = some last
      ∧ ∃ custom, ((d :: first :: chain).reverse.flatMap (·.rules)).mapM (ruleNamed l.rules)
          = some custom
        ∧ ∃ tk, (build (fuel + 1) (some last)).run l = .ok (tk, l')
          ∧ t = tk.withBasics
            { name := if d.name.isEmpty then first.name else d.name
              description := firstGiven ((d :: first :: chain).map (·.description))
              required := ((d :: first :: chain).findSome? (·.required)).getD false
              custom := custom } := by
  -- the reference is followed first, and leaves the loader as it was
  have start := built
  rw [build.eq_3] at start
  have notEmpty : d.ref.isEmpty = false := by simpa using refers
  simp only [notEmpty, Bool.false_eq_true, if_false] at start
  obtain ⟨d', l₁, resolved, _⟩ := run_bind_ok.mp start
  obtain ⟨same, chain, last, along, ending, rfl⟩ := resolveRef_along fuel d refers resolved
  subst l₁
  obtain ⟨first, rest, key, rfl, found⟩ := along.head
  obtain ⟨last', ending', direct⟩ := along.getLast_direct
  have sameLast : last' = last := Option.some.inj (ending'.symm.trans ending)
  subst last'
  -- then the copy it resolves to is built
  rw [build_through_ref refers resolved direct] at built
  rw [Declaration.resolvedAlong, rules_along ending] at built
  obtain ⟨custom, looked, tk, ran, rebased⟩ := build_copy direct _ _ _ _ built
  have firstNamed : first.name ≠ "" := named (key, first) (List.mem_of_find?_eq_some found)
  refine ⟨first, rest, last, along, ending, custom, by rwa [rules_along ending], tk, ran, ?_⟩
  rw [rebased, eq_some_true_iff_getD]
  congr 2
  simp only [List.map_cons, firstGiven_cons]
  by_cases given : d.name.isEmpty
  · have : first.name.isEmpty = false := by simpa using firstNamed
    simp [given, this]
  · simp [given]

/-- Three custom rules on texts. -/
def codeRegistry : List (String × Rule) :=
  [("nonEmpty", Rule.forText "nonEmpty" "Must not be empty" fun s => !s.isEmpty),
   ("isString", Rule.ofTest "isString" "Must be a string" fun | .text _ => true | _ => false),
   ("noSpaces", Rule.forText "noSpaces" "Must not contain spaces" fun s => !s.contains ' ')]

/-- A text of at most eight characters, with a description and a rule. -/
def codeBase : Declaration :=
  { name := "Base", kind := "Text", description := "A code", maxLength := some 8,
    rules := ["nonEmpty"] }

/-- A required reference to `Base`, with a rule of its own. -/
def codeMid : Declaration :=
  { name := "Mid", ref := "Base", required := some true, rules := ["isString"] }

/-- A loader with the two declarations and the three rules. -/
def codeLoader : Loader :=
  { rules := codeRegistry, declarations := [("Base", codeBase), ("Mid", codeMid)] }

/-- An unnamed reference to `Mid`, with a rule of its own. -/
def codeRef : Declaration := { ref := "Mid", rules := ["noSpaces"] }

/-- The unnamed reference to `Mid` builds as the text `Base` named `Mid`, with the description
of `Base`, required as `Mid` says, and the rules of `Base`, `Mid` and the reference in that
order. -/
theorem codeRef_builds_as_base
    : ∃ tk, (build 3 (some codeBase)).run codeLoader = .ok (tk, codeLoader)
      ∧ DataType.text
          { name := "Mid", description := "A code", required := true,
            custom := codeRegistry.map (·.2) } none (some 8) ""
        = tk.withBasics
          { name := "Mid", description := "A code", required := true,
            custom := codeRegistry.map (·.2) } := by
  have built : (build 3 (some codeRef)).run codeLoader
      = .ok (.text
          { name := "Mid", description := "A code", required := true,
            custom := codeRegistry.map (·.2) } none (some 8) "", codeLoader) := rfl
  obtain ⟨first, chain, last, along, ending, custom, looked, tk, ran, rebased⟩ :=
    build_through_refChain (by decide) (by decide) built
  have known : RefChain codeLoader.declarations codeRef [codeMid, codeBase] :=
    .step (by decide) rfl (.last (by decide) rfl rfl)
  obtain ⟨rfl, rfl⟩ := List.cons.inj (along.unique known)
  cases ending
  have rules : custom = codeRegistry.map (·.2) := Option.some.inj (looked.symm.trans rfl)
  subst rules
  exact ⟨tk, ran, rebased⟩

end Conform.Schema
