import Mathlib
import Conform.Proofs.CircularReferences
/-! Loading reports every bound that does not read for its kind as an invalid property naming the
setting and the type, except a decimal bound written as a float that is not finite, on which
loading crashes.
-/

namespace Conform

/-- The kinds with a minimum and a maximum. -/
def Kind.hasBounds : Kind → Bool
  | .number | .decimal | .date => true
  | _ => false

end Conform

namespace Conform.Schema

open Conform.Number Conform.Calendar Conform.Yaml

/-- Whether a bound as written reads for a kind: absent or null; for a number a whole number or
a float; for a decimal a whole number, a float or a text that reads as a decimal; for a date a
timestamp or a text in a bound layout. -/
def boundReads : Kind → Option Loose → Bool
  | _, none | _, some (.scalar .null) => true
  | .number, some (.scalar (.int _)) | .number, some (.scalar (.uint _))
  | .number, some (.scalar (.float _)) => true
  | .decimal, some (.scalar (.int _)) | .decimal, some (.scalar (.uint _))
  | .decimal, some (.scalar (.float _)) => true
  | .decimal, some (.scalar (.text s)) => (Decimal.ofString s).toBool
  | .date, some (.scalar (.timestamp _)) => true
  | .date, some (.scalar (.text s)) => (readFirst? boundLayouts s).isSome
  | _, _ => false

example : boundReads .decimal (some (.scalar (.text "1.5"))) = true
    ∧ boundReads .decimal (some (.scalar (.text "ten"))) = false := by
  decide

/-- A bound written as a float that is not finite. -/
def nonFinite : Option Loose → Bool
  | some (.scalar (.float x)) => !Value.isFiniteFloat x
  | _ => false

/-- A decimal bound as read is finite unless it is a float that is not. -/
def DecimalBound.finite : Option DecimalBound → Bool
  | some (.float x) => Value.isFiniteFloat x
  | _ => true

variable {α β : Type}

theorem run_bind_error {x : LoadM α} {f : α → LoadM β} {l : Loader} {e : LoadError}
    (h : x.run l = .error e) : (x >>= f).run l = .error e := by
  simp [StateT.run_bind, h]
  rfl

theorem run_bind_of_ok {x : LoadM α} {f : α → LoadM β} {l l' : Loader} {a : α}
    (h : x.run l = .ok (a, l')) : (x >>= f).run l = (f a).run l' := by
  simp [StateT.run_bind, h]
  rfl

-----------------------------------------------------------------------------------------
-- Reading one bound
-----------------------------------------------------------------------------------------

/-- A step that reads a bound setting of the declaration named `name`: for a bound that reads
it leaves the loader as it was, with a value related to the bound by `R`; for one that does not
it reports the setting and the type as an invalid property. -/
structure ReadsBound (reads : Option Loose → Bool) (R : Option Loose → α → Prop) (name : String)
    (step : String → Option Loose → LoadM α) : Prop where
  ok : ∀ {setting b l}, reads b = true → ∃ x, R b x ∧ (step setting b).run l = .ok (x, l)
  unread : ∀ {setting b l}, reads b = false →
    ∃ rest, (step setting b).run l = .error (.invalidProperty (setting ++ " of " ++ name ++ rest))

/-- Reading the minimum and then the maximum reports the first that does not read, or goes on
with both values. -/
theorem ReadsBound.pair {reads : Option Loose → Bool} {R : Option Loose → α → Prop}
    {name : String} {step : String → Option Loose → LoadM α} (h : ReadsBound reads R name step)
    (min max : Option Loose) {k : α → α → LoadM β} {l : Loader}
    : (reads min = false → ∃ rest, (step "min" min >>= fun a => step "max" max >>= k a).run l
        = .error (.invalidProperty ("min of " ++ name ++ rest)))
      ∧ (reads min = true → reads max = false → ∃ rest,
          (step "min" min >>= fun a => step "max" max >>= k a).run l
            = .error (.invalidProperty ("max of " ++ name ++ rest)))
      ∧ (reads min = true → reads max = true → ∃ a b, R min a ∧ R max b
          ∧ (step "min" min >>= fun a => step "max" max >>= k a).run l = (k a b).run l) := by
  refine ⟨fun unread => ?_, fun reads unread => ?_, fun readsMin readsMax => ?_⟩
  · obtain ⟨rest, failed⟩ := h.unread unread
    exact ⟨rest, run_bind_error failed⟩
  · obtain ⟨a, -, first⟩ := h.ok reads
    obtain ⟨rest, failed⟩ := h.unread unread
    exact ⟨rest, (run_bind_of_ok first).trans (run_bind_error failed)⟩
  · obtain ⟨a, related, first⟩ := h.ok readsMin
    obtain ⟨b, related', second⟩ := h.ok readsMax
    exact ⟨a, b, related, related', by rw [run_bind_of_ok first, run_bind_of_ok second]⟩

-- Each reader is taken by the cases of the scalar written; a case that the kind does not read
-- contradicts `reads`, one that it reads contradicts `unread`.
theorem floatBound_reads (d : Declaration)
    : ReadsBound (boundReads .number) (fun _ _ => True) d.name (floatBound d) where
  ok {setting b l} reads := by
    rcases b with _ | ⟨_ | _ | _ | _ | _ | _ | _⟩ | _ | _
    all_goals first | exact ⟨_, trivial, rfl⟩ | simp [boundReads] at reads
  unread {setting b l} unread := by
    rcases b with _ | ⟨_ | _ | _ | _ | _ | _ | _⟩ | _ | _
    all_goals first | exact ⟨_, rfl⟩ | simp [boundReads] at unread

theorem dateBound_reads (d : Declaration)
    : ReadsBound (boundReads .date) (fun _ _ => True) d.name (dateBound d) where
  ok {setting b l} reads := by
    rcases b with _ | ⟨_ | _ | _ | _ | _ | s | _⟩ | _ | _
    case some.scalar.text =>
      obtain ⟨t, found⟩ := Option.isSome_iff_exists.mp reads
      exact ⟨_, trivial, by simp [dateBound, found]; rfl⟩
    all_goals first | exact ⟨_, trivial, rfl⟩ | simp [boundReads] at reads
  unread {setting b l} unread := by
    rcases b with _ | ⟨_ | _ | _ | _ | _ | s | _⟩ | _ | _
    case some.scalar.text =>
      have missing : readFirst? boundLayouts s = none := by simpa [boundReads] using unread
      exact ⟨_, by simp [dateBound, missing]; rfl⟩
    all_goals first | exact ⟨_, rfl⟩ | simp [boundReads] at unread

/-- A decimal bound that reads is finite exactly when it is not written as a non-finite float. -/
theorem decimalBound_reads (d : Declaration)
    : ReadsBound (boundReads .decimal) (fun b b' => DecimalBound.finite b' = !nonFinite b) d.name
      (decimalBound d) where
  ok {setting b l} reads := by
    rcases b with _ | ⟨_ | _ | _ | _ | _ | s | _⟩ | _ | _
    case some.scalar.text =>
      obtain ⟨v, parsed⟩ : ∃ v, Decimal.ofString s = .ok v := by
        cases h : Decimal.ofString s <;> simp_all [boundReads, Except.toBool]
      exact ⟨_, rfl, by simp [decimalBound, parsed]; rfl⟩
    case some.scalar.float x => exact ⟨_, by simp [DecimalBound.finite, nonFinite], rfl⟩
    all_goals first | exact ⟨_, rfl, rfl⟩ | simp [boundReads] at reads
  unread {setting b l} unread := by
    rcases b with _ | ⟨_ | _ | _ | _ | _ | s | _⟩ | _ | _
    case some.scalar.text =>
      obtain ⟨e, failed⟩ : ∃ e, Decimal.ofString s = .error e := by
        cases h : Decimal.ofString s <;> simp_all [boundReads, Except.toBool]
      exact ⟨": " ++ e.message, by simp [decimalBound, failed, String.append_assoc]; rfl⟩
    all_goals first | exact ⟨_, rfl⟩ | simp [boundReads] at unread

theorem toDecimal_finite (name setting : String) (l : Loader) {b : Option DecimalBound}
    (finite : DecimalBound.finite b = true)
    : ∃ v, (DecimalBound.toDecimal name setting b).run l = .ok (v, l) := by
  rcases b with _ | ⟨n | x | v⟩
  case some.float =>
    have isFinite : Value.isFiniteFloat x = true := finite
    exact ⟨_, by simp [DecimalBound.toDecimal, isFinite]; rfl⟩
  all_goals exact ⟨_, rfl⟩

theorem toDecimal_nonFinite (name setting : String) (l : Loader) {b : Option DecimalBound}
    (nonFinite : DecimalBound.finite b = false)
    : ∃ shown, (DecimalBound.toDecimal name setting b).run l
        = .error (.badDecimalBound name setting shown) := by
  rcases b with _ | ⟨n | x | v⟩
  case some.float =>
    have notFinite : Value.isFiniteFloat x = false := nonFinite
    exact ⟨_, by simp [DecimalBound.toDecimal, notFinite]; rfl⟩
  all_goals simp [DecimalBound.finite] at nonFinite

-----------------------------------------------------------------------------------------
-- The bounds of a declaration
-----------------------------------------------------------------------------------------

/-- What building a declaration of kind `k` from the loader `l` ends in, by its bounds: the
first bound that does not read is reported as an invalid property of its setting and the type;
of bounds that read, the first non-finite float of a decimal crashes; otherwise the type is
built and the loader left as it was. -/
structure BoundsReported (k : Kind) (d : Declaration) (l : Loader)
    (result : Except LoadError (DataType × Loader)) : Prop where
  min_unread : boundReads k d.min = false →
    ∃ rest, result = .error (.invalidProperty ("min of " ++ d.name ++ rest))
  max_unread : boundReads k d.min = true → boundReads k d.max = false →
    ∃ rest, result = .error (.invalidProperty ("max of " ++ d.name ++ rest))
  min_nonFinite : boundReads k d.min = true → boundReads k d.max = true → k = .decimal →
    nonFinite d.min = true → ∃ shown, result = .error (.badDecimalBound d.name "min" shown)
  max_nonFinite : boundReads k d.min = true → boundReads k d.max = true → k = .decimal →
    nonFinite d.min = false → nonFinite d.max = true →
    ∃ shown, result = .error (.badDecimalBound d.name "max" shown)
  loads : boundReads k d.min = true → boundReads k d.max = true →
    (k = .decimal → nonFinite d.min = false ∧ nonFinite d.max = false) → ∃ t, result = .ok (t, l)

/-- Every malformed bound of a declaration is reported as an invalid property naming its setting
and type, but a non-finite float bound of a decimal, which crashes loading; a declaration whose
bounds all read, and are finite for a decimal, is built. This holds of a declaration with no
reference whose kind has bounds and whose custom rules are known, from any loader and depth. -/
theorem build_reports_bounds {fuel : Nat} {l : Loader} {d : Declaration} {k : Kind}
    (noRef : d.ref = "") (kind : Kind.ofName? d.kind = some k) (bounded : k.hasBounds = true)
    (known : ∀ r ∈ d.rules, (l.rules.find? (·.1 == r)).isSome)
    : BoundsReported k d l ((build (fuel + 1) (some d)).run l) := by
  obtain ⟨rs, rules⟩ := customRules_known known
  have empty : d.ref.isEmpty = true := by rw [noRef]; rfl
  rw [build.eq_3]
  simp only [empty, ↓reduceIte, pure_bind, kind]
  rw [run_bind_of_ok rules]
  cases k
  case number =>
    obtain ⟨minUnread, maxUnread, both⟩ := (floatBound_reads d).pair d.min d.max
    refine ⟨minUnread, maxUnread, (fun _ _ no => nomatch no), (fun _ _ no => nomatch no),
      fun readsMin readsMax _ => ?_⟩
    obtain ⟨a, b, -, -, built⟩ := both readsMin readsMax
    exact ⟨_, built⟩
  case date =>
    obtain ⟨minUnread, maxUnread, both⟩ := (dateBound_reads d).pair d.min d.max
    refine ⟨minUnread, maxUnread, (fun _ _ no => nomatch no), (fun _ _ no => nomatch no),
      fun readsMin readsMax _ => ?_⟩
    obtain ⟨a, b, -, -, built⟩ := both readsMin readsMax
    exact ⟨_, built⟩
  case decimal =>
    -- both bounds are read before either is made exact, so a malformed maximum is reported
    -- even when the minimum is a non-finite float
    obtain ⟨minUnread, maxUnread, both⟩ := (decimalBound_reads d).pair d.min d.max
    refine ⟨minUnread, maxUnread, fun readsMin readsMax _ minBad => ?_,
      fun readsMin readsMax _ minGood maxBad => ?_, fun readsMin readsMax finite => ?_⟩
    · obtain ⟨a, b, minFinite, -, read⟩ := both readsMin readsMax
      obtain ⟨shown, failed⟩ := toDecimal_nonFinite d.name "min" l (by rw [minFinite, minBad]; rfl)
      exact ⟨shown, read.trans (run_bind_error failed)⟩
    · obtain ⟨a, b, minFinite, maxFinite, read⟩ := both readsMin readsMax
      obtain ⟨v, first⟩ := toDecimal_finite d.name "min" l (by rw [minFinite, minGood]; rfl)
      obtain ⟨shown, failed⟩ := toDecimal_nonFinite d.name "max" l (by rw [maxFinite, maxBad]; rfl)
      exact ⟨shown, read.trans ((run_bind_of_ok first).trans (run_bind_error failed))⟩
    · obtain ⟨minGood, maxGood⟩ := finite rfl
      obtain ⟨a, b, minFinite, maxFinite, read⟩ := both readsMin readsMax
      obtain ⟨v, first⟩ := toDecimal_finite d.name "min" l (by rw [minFinite, minGood]; rfl)
      obtain ⟨w, second⟩ := toDecimal_finite d.name "max" l (by rw [maxFinite, maxGood]; rfl)
      exact ⟨_, read.trans ((run_bind_of_ok first).trans ((run_bind_of_ok second).trans rfl))⟩
  all_goals simp [Kind.hasBounds] at bounded

/-- A decimal whose minimum is written as `.nan`. -/
def nanMinimum : Declaration :=
  { name := "A", kind := "Decimal", min := some (.scalar (.float ((0 : Float) / 0))) }

theorem nanMinimum_crashes_build
    : ∃ shown, (build 1 (some nanMinimum)).run { rules := [], declarations := [] }
        = .error (.badDecimalBound "A" "min" shown) :=
  (@build_reports_bounds 0 _ _ _ rfl (by decide) rfl (by simp [nanMinimum])).min_nonFinite
    rfl rfl rfl (by decide)

/-- A schema document of that one decimal does not load with an invalid property: loading
crashes on its minimum. -/
theorem nanMinimum_crashes_loading
    : loadDocument [] 8 { types := [some nanMinimum] }
      = .error (.badDecimalBound "A" "min" "NaN") := by
  rfl

end Conform.Schema
