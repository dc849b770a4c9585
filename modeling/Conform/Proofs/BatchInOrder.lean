import Mathlib
import Conform.Proofs.BatchOutcome
/-! A batch run with its workers one at a time follows one of its schedules, so what every
schedule returns holds of it; it ends within the moves it has, and returns every value's
result when no rule cancels and the caller has not.
-/

namespace Conform.Batch

variable {c : Call} {s s' : State}

-----------------------------------------------------------------------------------------
-- Running in order
-----------------------------------------------------------------------------------------

/-- An ended batch makes no move. -/
theorem Call.step_of_ended (ended : s.loop.running = false) (a : Actor) : c.step s a = none := by
  cases a with
  | loop =>
      cases at_ : s.loop <;> simp_all [Loop.running, Call.step, Call.loopStep]
  | worker position => simp [Call.step, ended]
  | cancel e => simp [Call.step, ended]

/-- Running in order follows a schedule of the batch, by induction on the moves. -/
theorem Call.runInOrder_schedule (c : Call) : ∀ (fuel : Nat) (s : State),
    ∃ schedule, c.run s schedule = some (c.runInOrder fuel s)
  | 0, s => ⟨[], rfl⟩
  | fuel + 1, s => by
    cases stepped : c.step s s.nextInOrder with
    | none => exact ⟨[], by simp [Call.runInOrder, stepped, Call.run]⟩
    | some s' =>
      obtain ⟨rest, ran⟩ := c.runInOrder_schedule fuel s'
      exact ⟨s.nextInOrder :: rest, by simp [Call.run, Call.runInOrder, stepped, ran]⟩

/-- A batch run in order with at least the moves it has left ends, by induction on the moves:
each move in order is possible while the batch runs, and spends one of those left. -/
theorem Call.runInOrder_ended : ∀ {fuel : Nat} {s : State}, c.Invariant s → c.weight s ≤ fuel
    → (c.runInOrder fuel s).loop.running = false
  | 0, s, _, enough => by
    cases running : s.loop.running with
    | false => exact running
    | true =>
        have left := Loop.weight_pos c.values.length running
        simp only [Call.weight, Nat.le_zero, Nat.add_eq_zero_iff] at enough
        omega
  | fuel + 1, s, inv, enough => by
    cases running : s.loop.running with
    | false => simp [Call.runInOrder, Call.step_of_ended running, running]
    | true =>
        obtain ⟨s', stepped⟩ := Option.ne_none_iff_exists'.mp (inv.nextInOrder_moves running)
        have move := Call.step_move stepped
        have fewer := move.weight_lt inv
        simp only [Call.runInOrder, stepped]
        exact Call.runInOrder_ended (move.invariant inv) (by omega)

-----------------------------------------------------------------------------------------
-- The caller's context
-----------------------------------------------------------------------------------------

/-- The loop never touches the caller's context. -/
theorem Call.loopStep_caller (h : c.loopStep s = some s') : s'.caller = s.caller := by
  unfold Call.loopStep at h
  split at h
  case h_1 => split at h <;> cases h <;> rfl
  case h_2 =>
    split at h
    · cases h
      rfl
    · cases h
  case h_3 =>
    split at h
    · split at h <;> cases h <;> rfl
    · cases h
  case h_4 => split at h <;> cases h <;> rfl
  all_goals cases h

section Settled

-- every value's validation returns without asking to cancel the batch
variable (settles : ∀ v ∈ c.values, ∃ r, (c.type.check v).run false = .ok (r, false))
include settles

/-- A worker touches the caller's context only when its value's validation asks to cancel. -/
theorem Call.workerStep_caller {position : Nat} (h : c.workerStep s position = some s')
    : s'.caller = s.caller := by
  unfold Call.workerStep at h
  split at h
  · cases h
  · split at h <;> cases h <;> rfl
  · split at h
    · cases h
    · rename_i v value
      split at h
      · rename_i r raised validated
        -- the value settles, so its validation did not ask to cancel
        obtain ⟨r', settled⟩ := settles v (List.mem_of_getElem? value)
        have calm : raised = false := by
          rw [settled] at validated
          cases validated
          rfl
        subst calm
        cases h
        rfl
      · cases h
        rfl

/-- A batch run in order keeps the caller's context, by induction on the moves. -/
theorem Call.runInOrder_caller : ∀ (fuel : Nat) (s : State),
    (c.runInOrder fuel s).caller = s.caller
  | 0, s => rfl
  | fuel + 1, s => by
    cases stepped : c.step s s.nextInOrder with
    | none => simp [Call.runInOrder, stepped]
    | some s' =>
      have kept : s'.caller = s.caller := by
        unfold State.nextInOrder at stepped
        split at stepped
        · exact Call.loopStep_caller stepped
        · simp only [Call.step] at stepped
          split at stepped
          · exact Call.workerStep_caller settles stepped
          · cases stepped
      simp only [Call.runInOrder, stepped]
      exact (Call.runInOrder_caller fuel s').trans kept

end Settled

-----------------------------------------------------------------------------------------
-- What a batch run in order returns
-----------------------------------------------------------------------------------------

/-- A batch run in order ends, from the invariant of its start. -/
theorem validateInOrder_ended (t : DataType) (values : List Value) (workers : Int)
    (cancelled : Option ContextError)
    : ((Call.of t values workers).runInOrder (4 * values.length + 4)
        ((Call.of t values workers).initial cancelled)).loop.running = false :=
  Call.runInOrder_ended (Call.initial_invariant _ cancelled)
    (Call.weight_initial_le t values workers cancelled)

/-- A batch run in order has returned or been stopped, and what it ends in is read off there. -/
theorem validateInOrder_final (t : DataType) (values : List Value) (workers : Int)
    (cancelled : Option ContextError)
    : (∃ r, ((Call.of t values workers).runInOrder (4 * values.length + 4)
          ((Call.of t values workers).initial cancelled)).loop = .returned r
        ∧ validateInOrder t values workers cancelled = .ok r)
      ∨ ∃ m, ((Call.of t values workers).runInOrder (4 * values.length + 4)
          ((Call.of t values workers).initial cancelled)).loop = .stopped m
        ∧ validateInOrder t values workers cancelled = .error m := by
  have ended := validateInOrder_ended t values workers cancelled
  dsimp only [validateInOrder]
  split
  · rename_i r final
    exact .inl ⟨r, final, rfl⟩
  · rename_i m final
    exact .inr ⟨m, final, rfl⟩
  · rename_i final _ _
    simp_all [Loop.running]

/-- What a batch run in order returns is what every schedule may return: every value's result
in its own slot, or a context error that is the caller's; a rule stops it only with the
message of a value's validation that stopped. -/
theorem validateInOrder_outcome (t : DataType) (values : List Value) (workers : Int)
    (cancelled : Option ContextError)
    : (∀ rs, validateInOrder t values workers cancelled = .ok (.ok rs)
        → List.Forall₂ (Validates t) values rs)
      ∧ (∀ m, validateInOrder t values workers cancelled = .error m
        → ∃ v ∈ values, (t.check v).run false = .error m) := by
  obtain ⟨schedule, ran⟩ := (Call.of t values workers).runInOrder_schedule
    (4 * values.length + 4) ((Call.of t values workers).initial cancelled)
  obtain ⟨-, -, returned, -, stopped⟩ := validateAll_outcome t values workers cancelled schedule _ ran
  constructor
  · intro rs result
    rcases validateInOrder_final t values workers cancelled with ⟨r, final, read⟩ | ⟨m, -, read⟩
    · rw [read] at result
      cases result
      exact (returned rs final).2
    · rw [read] at result
      cases result
  · intro m result
    rcases validateInOrder_final t values workers cancelled with ⟨r, -, read⟩ | ⟨m', final, read⟩
    · rw [read] at result
      cases result
    · rw [read] at result
      cases result
      exact stopped m final

/-- A batch whose caller's context is cancelled before the call hands out no value and
returns the caller's error: its loop finds the group cancelled, waits for no worker and looks
at the caller's context. -/
theorem validateInOrder_cancelled (t : DataType) (values : List Value) (workers : Int)
    (e : ContextError) : validateInOrder t values workers (some e) = .ok (.error e) := by
  have moves : 4 * values.length + 4 = (4 * values.length + 1) + 3 := by omega
  simp only [validateInOrder, moves]
  simp [Call.runInOrder, State.nextInOrder, Call.initial, Call.step, Call.loopStep]

/-- A batch with a live caller whose rules never cancel returns every value's result in its
own slot. -/
theorem validateInOrder_settled {t : DataType} {values : List Value}
    (settles : ∀ v ∈ values, ∃ r, (t.check v).run false = .ok (r, false)) (workers : Int)
    : ∃ rs, validateInOrder t values workers none = .ok (.ok rs)
      ∧ List.Forall₂ (Validates t) values rs := by
  obtain ⟨schedule, ran⟩ := (Call.of t values workers).runInOrder_schedule
    (4 * values.length + 4) ((Call.of t values workers).initial none)
  obtain ⟨-, -, returned, returnedError, stopped⟩ :=
    validateAll_outcome t values workers none schedule _ ran
  have live := Call.runInOrder_caller (c := Call.of t values workers) settles
    (4 * values.length + 4) ((Call.of t values workers).initial none)
  rcases validateInOrder_final t values workers none with ⟨r, final, read⟩ | ⟨m, final, -⟩
  · cases r with
    | ok rs => exact ⟨rs, read, (returned rs final).2⟩
    | error e =>
        -- the caller's context is still live, so the batch did not return its error
        have cancelled := returnedError e final
        rw [live] at cancelled
        simp [Call.initial] at cancelled
  · -- no value's validation stops
    obtain ⟨v, member, stop⟩ := stopped m final
    obtain ⟨r, settled⟩ := settles v member
    rw [settled] at stop
    cases stop

end Conform.Batch
