import Conform.Batch
import Mathlib
/-! What a batch returns, over every schedule of its loop, its workers and the caller's
cancelling. Every schedule is short, a schedule that can go no further has returned or been
stopped by a rule, and a batch returns either every value's result in its own slot with the
caller's context still live, or the caller's context error.
-/

namespace Conform.Batch

-----------------------------------------------------------------------------------------
-- The moves of a batch
-----------------------------------------------------------------------------------------

/-- The state after a worker at a position has finished validating the value at index `i`
into its slot.
-/
def State.finish (s : State) (position i : Nat) (r : Option Failures) : State :=
  { s with workers := s.workers.eraseIdx position, results := s.results.set i r }

/-- The moves a batch can make, each with the condition it needs. -/
inductive Call.Move (c : Call) : State → State → Prop
  | hand {s : State} {i : Nat} (at_ : s.loop = .next i) (more : i < c.values.length)
    (live : s.group = none) : c.Move s { s with loop := .handing i }
  | leave {s : State} {i : Nat} (at_ : s.loop = .next i)
    (done : ¬ (i < c.values.length ∧ s.group = none)) : c.Move s { s with loop := .waiting }
  | start {s : State} {i : Nat} (at_ : s.loop = .handing i) (room : s.workers.length < c.limit)
    : c.Move s { s with
        loop := .next (i + 1)
        workers := s.workers ++ [⟨i, .starting⟩]
        started := s.started + 1 }
  | waitFailed {s : State} {e : ContextError} (at_ : s.loop = .waiting) (idle : s.workers = [])
    (failed : s.firstError = some e)
    : c.Move s { s with loop := .returned (.error e), group := s.group.or (some .canceled) }
  | waitDone {s : State} (at_ : s.loop = .waiting) (idle : s.workers = [])
    (clean : s.firstError = none)
    : c.Move s { s with loop := .finishing, group := s.group.or (some .canceled) }
  | finishCancelled {s : State} {e : ContextError} (at_ : s.loop = .finishing)
    (cancelled : s.caller = some e) : c.Move s { s with loop := .returned (.error e) }
  | finishLive {s : State} (at_ : s.loop = .finishing) (live : s.caller = none)
    : c.Move s { s with loop := .returned (.ok s.results) }
  | giveUp {s : State} {position i : Nat} {e : ContextError} (running : s.loop.running = true)
    (worker : s.workers[position]? = some ⟨i, .starting⟩) (cancelled : s.group = some e)
    : c.Move s { s with
        workers := s.workers.eraseIdx position
        firstError := s.firstError.or (some e) }
  | begin {s : State} {position i : Nat} (running : s.loop.running = true)
    (worker : s.workers[position]? = some ⟨i, .starting⟩) (live : s.group = none)
    : c.Move s { s with workers := s.workers.set position ⟨i, .validating⟩ }
  | finish {s : State} {position i : Nat} {v : Value} {r : Option Failures} {raised : Bool}
    (running : s.loop.running = true) (worker : s.workers[position]? = some ⟨i, .validating⟩)
    (value : c.values[i]? = some v) (validated : (c.type.check v).run false = .ok (r, raised))
    : c.Move s (if raised then (s.finish position i r).cancel .canceled else s.finish position i r)
  | stop {s : State} {position i : Nat} {v : Value} {message : String}
    (running : s.loop.running = true) (worker : s.workers[position]? = some ⟨i, .validating⟩)
    (value : c.values[i]? = some v) (stopped : (c.type.check v).run false = .error message)
    : c.Move s { s with loop := .stopped message }
  | cancel {s : State} {e : ContextError} (running : s.loop.running = true)
    (live : s.caller = none) : c.Move s (s.cancel e)

variable {c : Call} {s s' : State}

/-- Every move of the loop is one of its listed moves, by cases on where the loop is. -/
theorem Call.loopStep_move (h : c.loopStep s = some s') : c.Move s s' := by
  unfold Call.loopStep at h
  split at h
  · rename_i i at_
    split at h
    · rename_i guard
      cases h
      exact .hand at_ guard.1 guard.2
    · rename_i done
      cases h
      exact .leave at_ done
  · rename_i i at_
    split at h
    · rename_i room
      cases h
      exact .start at_ room
    · cases h
  · rename_i at_
    split at h
    · rename_i idle
      have idle : s.workers = [] := List.isEmpty_iff.mp idle
      split at h
      · rename_i e failed
        cases h
        exact .waitFailed at_ idle failed
      · rename_i clean
        cases h
        exact .waitDone at_ idle clean
    · cases h
  · rename_i at_
    split at h
    · rename_i e cancelled
      cases h
      exact .finishCancelled at_ cancelled
    · rename_i live
      cases h
      exact .finishLive at_ live
  · cases h
  · cases h

/-- Every move of a running worker is one of its listed moves, by cases on its phase. -/
theorem Call.workerStep_move {position : Nat} (running : s.loop.running = true)
    (h : c.workerStep s position = some s') : c.Move s s' := by
  unfold Call.workerStep at h
  split at h
  · cases h
  · rename_i i worker
    split at h
    · rename_i e cancelled
      cases h
      exact .giveUp running worker cancelled
    · rename_i live
      cases h
      exact .begin running worker live
  · rename_i i worker
    split at h
    · cases h
    · rename_i v value
      split at h
      · rename_i r raised validated
        cases h
        exact .finish running worker value validated
      · rename_i message stopped
        cases h
        exact .stop running worker value stopped

/-- Every step of a batch is one of its listed moves. -/
theorem Call.step_move {a : Actor} (h : c.step s a = some s') : c.Move s s' := by
  cases a with
  | loop => exact Call.loopStep_move h
  | worker position =>
      simp only [Call.step] at h
      split at h
      · rename_i running
        exact Call.workerStep_move running h
      · cases h
  | cancel e =>
      simp only [Call.step] at h
      split at h
      · rename_i guard
        cases h
        exact .cancel guard.1 guard.2
      · cases h

-----------------------------------------------------------------------------------------
-- What every reachable state keeps
-----------------------------------------------------------------------------------------

/-- A member of a list is kept by erasing a position, or it stood at that position. -/
theorem mem_eraseIdx_or {α : Type} {l : List α} {a : α} (position : Nat) (h : a ∈ l)
    : a ∈ l.eraseIdx position ∨ l[position]? = some a := by
  obtain ⟨j, found⟩ := List.mem_iff_getElem?.mp h
  by_cases same : j = position
  · exact .inr (same ▸ found)
  · exact .inl (List.mem_eraseIdx_iff_getElem?.mpr ⟨j, same, found⟩)

/-- A member of a list is kept by setting a position, or it stood at that position. -/
theorem mem_set_or {α : Type} {l : List α} {a : α} (position : Nat) (b : α) (h : a ∈ l)
    : a ∈ l.set position b ∨ l[position]? = some a := by
  obtain ⟨j, found⟩ := List.mem_iff_getElem?.mp h
  by_cases same : position = j
  · exact .inr (same ▸ found)
  · exact .inl (List.mem_iff_getElem?.mpr ⟨j, (List.getElem?_set_ne same).trans found⟩)

/-- A running batch has not returned. -/
theorem Loop.ne_returned {l : Loop} (running : l.running = true)
    {result : Except ContextError (List (Option Failures))} : l ≠ .returned result := by
  rintro rfl
  cases running

/-- A running batch has not been stopped. -/
theorem Loop.ne_stopped {l : Loop} (running : l.running = true) {message : String}
    : l ≠ .stopped message := by
  rintro rfl
  cases running

/-- Validating `v` by `t` gives `r`, whatever the validation does to the batch's flag. -/
def Validates (t : DataType) (v : Value) (r : Option Failures) : Prop :=
  ∃ raised, (t.check v).run false = .ok (r, raised)

/-- What holds of every state a batch reaches. -/
structure Call.Invariant (c : Call) (s : State) : Prop where
  /-- There is one slot per value. -/
  slots : s.results.length = c.values.length
  startedLe : s.started ≤ c.values.length
  /-- The loop's index is the number of workers started. -/
  nextIndex : ∀ i, s.loop = .next i → i = s.started
  handingIndex : ∀ i, s.loop = .handing i → i = s.started ∧ i < c.values.length
  /-- Every running worker holds a value handed out already. -/
  workersStarted : ∀ w ∈ s.workers, w.index < s.started
  /-- The group's context is cancelled only with the caller's, until it has been waited for. -/
  groupCancelled : ∀ e, s.group = some e → s.caller = some e ∨ s.loop.waited = true
  /-- The group's first error is the error of the caller's context. -/
  firstError : ∀ e, s.firstError = some e → s.caller = some e
  /-- No worker runs once the group has been waited for. -/
  idle : s.loop.waited = true → s.workers = []
  /-- The loop stops handing out values early only when the caller's context is cancelled. -/
  handedAll : s.loop.handedOut = true → s.started = c.values.length ∨ s.caller.isSome = true
  /-- A value handed out and held by no worker has its result in its slot, unless the
  caller's context is cancelled. -/
  filled : ∀ i (h : i < c.values.length), i < s.started → (∀ w ∈ s.workers, w.index ≠ i)
    → s.caller.isSome = true ∨ ∃ r, s.results[i]? = some r ∧ Validates c.type c.values[i] r
  returnedResults : ∀ rs, s.loop = .returned (.ok rs)
    → s.caller = none ∧ List.Forall₂ (Validates c.type) c.values rs
  returnedError : ∀ e, s.loop = .returned (.error e) → s.caller = some e
  stopped : ∀ m, s.loop = .stopped m → ∃ v ∈ c.values, (c.type.check v).run false = .error m

/-- A batch starts in a state that keeps the invariant: nothing is handed out yet, and the
group's context is the caller's.
-/
theorem Call.initial_invariant (c : Call) (cancelled : Option ContextError)
    : c.Invariant (c.initial cancelled) where
  slots := List.length_replicate
  startedLe := Nat.zero_le _
  nextIndex _ h := by cases h; rfl
  handingIndex _ h := by cases h
  workersStarted _ member := by cases member
  groupCancelled _ h := .inl h
  firstError _ h := by cases h
  idle h := by cases h
  handedAll h := by cases h
  filled _ _ before := by cases before
  returnedResults _ h := by cases h
  returnedError _ h := by cases h
  stopped _ h := by cases h

/-- Cancelling the caller's context keeps the invariant of a running batch: the group's
context follows it, and every slot is excused.
-/
theorem Call.Invariant.cancel {e : ContextError} (inv : c.Invariant s)
    (running : s.loop.running = true) : c.Invariant (s.cancel e) := by
  unfold State.cancel
  split
  · exact inv
  · rename_i live
    exact { inv with
      groupCancelled := fun g h => by
        cases group : s.group with
        | none =>
            simp only [group, Option.none_or, Option.some.injEq] at h
            exact .inl (by rw [h])
        | some g' =>
            simp only [group, Option.some_or, Option.some.injEq] at h
            subst h
            exact .inr ((inv.groupCancelled g' group).resolve_left (by simp [live]))
      firstError := fun e' h => by simp [inv.firstError e' h] at live
      handedAll := fun _ => .inr rfl
      filled := fun _ _ _ _ => .inl rfl
      returnedResults := fun _ h => absurd h (Loop.ne_returned running)
      returnedError := fun _ h => absurd h (Loop.ne_returned running)
      stopped := fun _ h => absurd h (Loop.ne_stopped running) }

/-- A batch with a running worker has not been waited for. -/
theorem Call.Invariant.not_waited {position : Nat} {w : Worker} (inv : c.Invariant s)
    (worker : s.workers[position]? = some w) : s.loop.waited = false := by
  cases waited : s.loop.waited with
  | false => rfl
  | true => simp [inv.idle waited] at worker

/-- A worker that finishes validating fills its value's slot, and keeps the invariant. -/
theorem Call.Invariant.finish {position i : Nat} {v : Value} {r : Option Failures}
    {raised : Bool} (inv : c.Invariant s) (running : s.loop.running = true)
    (worker : s.workers[position]? = some ⟨i, .validating⟩) (value : c.values[i]? = some v)
    (validated : (c.type.check v).run false = .ok (r, raised))
    : c.Invariant (s.finish position i r) :=
  { inv with
    slots := by simp [State.finish, inv.slots]
    workersStarted := fun w member => inv.workersStarted w (List.mem_of_mem_eraseIdx member)
    idle := fun waited => by simp [State.finish, inv.idle waited]
    filled := fun j bound before free => by
      by_cases same : j = i
      · -- the finished worker's own slot
        subst same
        have bound' : j < s.results.length := by rw [inv.slots]; exact bound
        refine .inr ⟨r, by simp [State.finish, bound'], ?_⟩
        rw [List.getElem?_eq_getElem bound, Option.some.injEq] at value
        exact value ▸ ⟨raised, validated⟩
      · have held : ∀ w ∈ s.workers, w.index ≠ j := by
          intro w member
          rcases mem_eraseIdx_or position member with kept | here
          · exact free w kept
          · rw [worker, Option.some.injEq] at here
            rw [← here]
            exact Ne.symm same
        rcases inv.filled j bound before held with cancelled | ⟨r', slot, validates⟩
        · exact .inl cancelled
        · exact .inr ⟨r', by simp [State.finish, List.getElem?_set_ne (Ne.symm same), slot],
            validates⟩
    returnedResults := fun _ h => absurd h (Loop.ne_returned running)
    returnedError := fun _ h => absurd h (Loop.ne_returned running)
    stopped := fun _ h => absurd h (Loop.ne_stopped running) }

/-- Every move keeps the invariant, by cases on the move: each case gives the facts its move can
change, and the others carry over from the state before. -/
theorem Call.Move.invariant (move : c.Move s s') (inv : c.Invariant s) : c.Invariant s' := by
  cases move with
  | @hand i at_ more live =>
      exact { inv with
        nextIndex := fun _ h => by cases h
        handingIndex := fun _ h => by
          cases h
          exact ⟨inv.nextIndex i at_, more⟩
        groupCancelled := fun _ h => by simp [live] at h
        idle := fun h => by cases h
        handedAll := fun h => by cases h
        returnedResults := fun _ h => by cases h
        returnedError := fun _ h => by cases h
        stopped := fun _ h => by cases h }
  | @leave i at_ done =>
      have notWaited : s.loop.waited = false := by rw [at_]; rfl
      exact { inv with
        nextIndex := fun _ h => by cases h
        handingIndex := fun _ h => by cases h
        groupCancelled := fun e h => .inl ((inv.groupCancelled e h).resolve_right (by simp [notWaited]))
        idle := fun h => by cases h
        handedAll := fun _ => by
          have index := inv.nextIndex i at_
          by_cases more : i < c.values.length
          · -- the loop broke off on the group's context, cancelled with the caller's
            obtain ⟨g, cancelled⟩ := Option.ne_none_iff_exists'.mp fun live => done ⟨more, live⟩
            have caller := (inv.groupCancelled g cancelled).resolve_right (by simp [notWaited])
            exact .inr (by simp [caller])
          · have := inv.startedLe
            exact .inl (show s.started = c.values.length by omega)
        returnedResults := fun _ h => by cases h
        returnedError := fun _ h => by cases h
        stopped := fun _ h => by cases h }
  | @start i at_ room =>
      have index := inv.handingIndex i at_
      exact { inv with
        startedLe := by
          show s.started + 1 ≤ c.values.length
          omega
        nextIndex := fun _ h => by
          cases h
          show i + 1 = s.started + 1
          omega
        handingIndex := fun _ h => by cases h
        workersStarted := fun w member => by
          show w.index < s.started + 1
          rcases List.mem_append.mp member with old | new
          · have := inv.workersStarted w old
            omega
          · rw [List.mem_singleton.mp new]
            show i < s.started + 1
            omega
        groupCancelled := fun e h =>
          .inl ((inv.groupCancelled e h).resolve_right (by simp [at_, Loop.waited]))
        idle := fun h => by cases h
        handedAll := fun h => by cases h
        filled := fun j bound before free => by
          have other : j ≠ i := fun same =>
            free ⟨i, .starting⟩ (List.mem_append_right _ (List.mem_singleton_self _)) same.symm
          have before : j < s.started + 1 := before
          exact inv.filled j bound (by omega)
            fun w member => free w (List.mem_append_left _ member)
        returnedResults := fun _ h => by cases h
        returnedError := fun _ h => by cases h
        stopped := fun _ h => by cases h }
  | @waitFailed e at_ idle failed =>
      exact { inv with
        nextIndex := fun _ h => by cases h
        handingIndex := fun _ h => by cases h
        groupCancelled := fun _ _ => .inr rfl
        idle := fun _ => idle
        handedAll := fun _ => inv.handedAll (by rw [at_]; rfl)
        returnedResults := fun _ h => by cases h
        returnedError := fun _ h => by
          cases h
          exact inv.firstError e failed
        stopped := fun _ h => by cases h }
  | waitDone at_ idle clean =>
      exact { inv with
        nextIndex := fun _ h => by cases h
        handingIndex := fun _ h => by cases h
        groupCancelled := fun _ _ => .inr rfl
        idle := fun _ => idle
        handedAll := fun _ => inv.handedAll (by rw [at_]; rfl)
        returnedResults := fun _ h => by cases h
        returnedError := fun _ h => by cases h
        stopped := fun _ h => by cases h }
  | @finishCancelled e at_ cancelled =>
      exact { inv with
        nextIndex := fun _ h => by cases h
        handingIndex := fun _ h => by cases h
        groupCancelled := fun _ _ => .inr rfl
        idle := fun _ => inv.idle (by rw [at_]; rfl)
        handedAll := fun _ => inv.handedAll (by rw [at_]; rfl)
        returnedResults := fun _ h => by cases h
        returnedError := fun _ h => by
          cases h
          exact cancelled
        stopped := fun _ h => by cases h }
  | finishLive at_ live =>
      have idle := inv.idle (by rw [at_]; rfl)
      have all := (inv.handedAll (by rw [at_]; rfl)).resolve_right (by simp [live])
      exact { inv with
        nextIndex := fun _ h => by cases h
        handingIndex := fun _ h => by cases h
        groupCancelled := fun _ _ => .inr rfl
        idle := fun _ => idle
        handedAll := fun _ => .inl all
        returnedResults := fun rs h => by
          cases h
          refine ⟨live, List.forall₂_of_length_eq_of_get inv.slots.symm fun i bound bound' => ?_⟩
          -- every slot was handed out and no worker holds it any more
          rcases inv.filled i bound (by omega) (by simp [idle]) with cancelled | ⟨r, slot, valid⟩
          · simp [live] at cancelled
          · rw [List.getElem?_eq_getElem bound', Option.some.injEq] at slot
            simpa [slot] using valid
        returnedError := fun _ h => by cases h
        stopped := fun _ h => by cases h }
  | @giveUp position i e running worker cancelled =>
      have caller : s.caller = some e :=
        (inv.groupCancelled e cancelled).resolve_right (by simp [inv.not_waited worker])
      exact { inv with
        workersStarted := fun w member => inv.workersStarted w (List.mem_of_mem_eraseIdx member)
        firstError := fun e' h => by
          cases first : s.firstError with
          | none =>
              simp only [first, Option.none_or, Option.some.injEq] at h
              exact h ▸ caller
          | some e'' =>
              simp only [first, Option.some_or, Option.some.injEq] at h
              exact h ▸ inv.firstError e'' first
        idle := fun waited => by simp [inv.idle waited]
        filled := fun _ _ _ _ => .inl (by simp [caller])
        returnedResults := fun _ h => absurd h (Loop.ne_returned running)
        returnedError := fun _ h => absurd h (Loop.ne_returned running)
        stopped := fun _ h => absurd h (Loop.ne_stopped running) }
  | @begin position i running worker live =>
      have bound : position < s.workers.length := (List.getElem?_eq_some_iff.mp worker).1
      exact { inv with
        workersStarted := fun w member => by
          rcases List.mem_or_eq_of_mem_set member with old | new
          · exact inv.workersStarted w old
          · rw [new]
            exact inv.workersStarted ⟨i, .starting⟩ (List.mem_of_getElem? worker)
        idle := fun waited => by simp [inv.idle waited]
        filled := fun j bound' before free => by
          refine inv.filled j bound' before fun w member => ?_
          rcases mem_set_or position ⟨i, .validating⟩ member with kept | here
          · exact free w kept
          · rw [worker, Option.some.injEq] at here
            rw [← here]
            exact free ⟨i, .validating⟩ (List.mem_set bound _)
        stopped := inv.stopped }
  | @finish position i v r raised running worker value validated =>
      have finished := inv.finish running worker value validated
      cases raised with
      | false => exact finished
      | true => exact finished.cancel running
  | @stop position i v message running worker value stopped =>
      have notWaited := inv.not_waited worker
      exact { inv with
        nextIndex := fun _ h => by cases h
        handingIndex := fun _ h => by cases h
        groupCancelled := fun e h =>
          .inl ((inv.groupCancelled e h).resolve_right (by simp [notWaited]))
        idle := fun h => by cases h
        handedAll := fun h => by cases h
        returnedResults := fun _ h => by cases h
        returnedError := fun _ h => by cases h
        stopped := fun _ h => by
          cases h
          exact ⟨v, List.mem_of_getElem? value, stopped⟩ }
  | cancel running live => exact inv.cancel running

-----------------------------------------------------------------------------------------
-- Every schedule is short
-----------------------------------------------------------------------------------------

/-- How many moves the loop has left at most, with `n` values. -/
def Loop.weight (n : Nat) : Loop → Nat
  | .next i => 4 * (n - i) + 3
  | .handing i => 4 * (n - i) + 2
  | .waiting => 2
  | .finishing => 1
  | .returned _ | .stopped _ => 0

@[simp] theorem Loop.weight_waiting (n : Nat) : Loop.waiting.weight n = 2 := rfl
@[simp] theorem Loop.weight_finishing (n : Nat) : Loop.finishing.weight n = 1 := rfl
@[simp] theorem Loop.weight_returned (n : Nat) {result : Except ContextError (List (Option Failures))}
    : (Loop.returned result).weight n = 0 := rfl
@[simp] theorem Loop.weight_stopped (n : Nat) {message : String}
    : (Loop.stopped message).weight n = 0 := rfl

/-- A running loop has a move left. -/
theorem Loop.weight_pos {l : Loop} (n : Nat) (running : l.running = true) : 0 < l.weight n := by
  cases l <;> simp_all [Loop.weight, Loop.running]

/-- How many moves the running workers have left at most: two for a starting worker and
one for a validating one.
-/
def State.workLeft (s : State) : Nat :=
  s.workers.length + s.workers.countP (·.phase == .starting)

/-- How many moves a batch has left at most: the loop's, the workers', and one while the
caller's context is live.
-/
def Call.weight (c : Call) (s : State) : Nat :=
  s.loop.weight c.values.length + s.workLeft + (if s.caller = none then 1 else 0)

/-- Cancelling the caller's context adds no move. -/
theorem Call.weight_cancel_le (e : ContextError) : c.weight (s.cancel e) ≤ c.weight s := by
  unfold State.cancel
  split
  · exact Nat.le_refl _
  · simp [Call.weight, State.workLeft]

/-- A move that keeps the loop and the caller's context spends the moves its workers spend. -/
theorem Call.weight_lt_of_workLeft (loop : s'.loop = s.loop) (caller : s'.caller = s.caller)
    (fewer : s'.workLeft < s.workLeft) : c.weight s' < c.weight s := by
  simp only [Call.weight, loop, caller]
  omega

/-- A move of the loop alone spends the moves the loop spends. -/
theorem Call.weight_lt_of_loop (workers : s'.workers = s.workers) (caller : s'.caller = s.caller)
    (fewer : s'.loop.weight c.values.length < s.loop.weight c.values.length)
    : c.weight s' < c.weight s := by
  simp only [Call.weight, State.workLeft, workers, caller]
  omega

/-- A worker that leaves the group spends at least its last move. -/
theorem State.workLeft_eraseIdx {position : Nat} (bound : position < s.workers.length)
    : (s.workers.eraseIdx position).length + (s.workers.eraseIdx position).countP
        (·.phase == .starting) < s.workLeft := by
  have fewer := (List.eraseIdx_sublist s.workers position).countP_le (p := (·.phase == .starting))
  simp only [State.workLeft, List.length_eraseIdx_of_lt bound]
  omega

/-- Every move spends at least one of the moves left, by cases on the move. -/
theorem Call.Move.weight_lt (move : c.Move s s') (inv : c.Invariant s) : c.weight s' < c.weight s := by
  cases move with
  | @hand i at_ more live => exact Call.weight_lt_of_loop rfl rfl (by simp [Loop.weight, at_])
  | @leave i at_ done => exact Call.weight_lt_of_loop rfl rfl (by simp [Loop.weight, at_])
  | @start i at_ room =>
      have index := inv.handingIndex i at_
      simp [Call.weight, Loop.weight, State.workLeft, at_, List.countP_append]
      omega
  | waitFailed at_ => exact Call.weight_lt_of_loop rfl rfl (by simp [at_])
  | waitDone at_ => exact Call.weight_lt_of_loop rfl rfl (by simp [at_])
  | finishCancelled at_ => exact Call.weight_lt_of_loop rfl rfl (by simp [at_])
  | finishLive at_ => exact Call.weight_lt_of_loop rfl rfl (by simp [at_])
  | @giveUp position i e running worker cancelled =>
      exact Call.weight_lt_of_workLeft rfl rfl
        (State.workLeft_eraseIdx (List.getElem?_eq_some_iff.mp worker).1)
  | @begin position i running worker live =>
      have bound : position < s.workers.length := (List.getElem?_eq_some_iff.mp worker).1
      have here : s.workers[position] = ⟨i, .starting⟩ := (List.getElem?_eq_some_iff.mp worker).2
      have starting : 0 < s.workers.countP (·.phase == .starting) :=
        List.countP_pos_iff.mpr ⟨_, List.mem_of_getElem? worker, rfl⟩
      refine Call.weight_lt_of_workLeft rfl rfl ?_
      simp only [State.workLeft, List.length_set, List.countP_set bound, here]
      rw [if_pos (by decide), if_neg (by decide)]
      omega
  | @finish position i v r raised running worker value validated =>
      have finished : c.weight (s.finish position i r) < c.weight s :=
        Call.weight_lt_of_workLeft rfl rfl
          (State.workLeft_eraseIdx (List.getElem?_eq_some_iff.mp worker).1)
      cases raised with
      | false => exact finished
      | true => exact Nat.lt_of_le_of_lt (Call.weight_cancel_le _) finished
  | stop running =>
      exact Call.weight_lt_of_loop rfl rfl (by simpa using Loop.weight_pos c.values.length running)
  | @cancel e running live => simp [Call.weight, State.cancel, State.workLeft, live]

/-- A schedule keeps the invariant and is no longer than the moves left, by induction over
the schedule.
-/
theorem Call.run_invariant {schedule : List Actor} (inv : c.Invariant s)
    (ran : c.run s schedule = some s') : c.Invariant s' ∧ schedule.length ≤ c.weight s := by
  induction schedule generalizing s with
  | nil =>
      cases ran
      exact ⟨inv, Nat.zero_le _⟩
  | cons a rest ih =>
      simp only [Call.run, Option.bind_eq_some_iff] at ran
      obtain ⟨next, stepped, ran⟩ := ran
      have move := Call.step_move stepped
      obtain ⟨final, short⟩ := ih (move.invariant inv) ran
      exact ⟨final, by have := move.weight_lt inv; simp only [List.length_cons]; omega⟩

-----------------------------------------------------------------------------------------
-- A batch moves until it returns or is stopped
-----------------------------------------------------------------------------------------

/-- A running worker can always move: it looks at the group's context, or it validates a
value handed out already.
-/
theorem Call.Invariant.worker_moves {position : Nat} {w : Worker} (inv : c.Invariant s)
    (running : s.loop.running = true) (worker : s.workers[position]? = some w)
    : c.step s (.worker position) ≠ none := by
  have bound : w.index < c.values.length :=
    Nat.lt_of_lt_of_le (inv.workersStarted w (List.mem_of_getElem? worker)) inv.startedLe
  simp only [Call.step, running, if_true, Call.workerStep, worker]
  obtain ⟨i, phase⟩ := w
  cases phase with
  | starting => cases s.group <;> simp
  | validating =>
      simp only [List.getElem?_eq_getElem bound]
      split <;> simp

/-- A running batch can always move with its workers run one at a time: the worker at the
front when one runs, and otherwise the loop, since an empty group has room for a worker.
-/
theorem Call.Invariant.nextInOrder_moves (inv : c.Invariant s) (running : s.loop.running = true)
    : c.step s s.nextInOrder ≠ none := by
  unfold State.nextInOrder
  split
  case isTrue idle =>
    have idle : s.workers = [] := List.isEmpty_iff.mp idle
    cases at_ : s.loop with
    | next i =>
        simp only [Call.step, Call.loopStep, at_]
        split <;> simp
    | handing i => simp [Call.step, Call.loopStep, at_, idle, c.limit_pos]
    | waiting =>
        simp only [Call.step, Call.loopStep, at_, idle, List.isEmpty_nil, if_true]
        split <;> simp
    | finishing =>
        simp only [Call.step, Call.loopStep, at_]
        split <;> simp
    | returned => simp [at_, Loop.running] at running
    | stopped => simp [at_, Loop.running] at running
  case isFalse busy =>
    obtain ⟨w, rest, held⟩ := List.exists_cons_of_ne_nil (by simpa using busy)
    exact inv.worker_moves (w := w) running (by simp [held])

/-- A running batch can always move. -/
theorem Call.Invariant.can_move (inv : c.Invariant s) (running : s.loop.running = true)
    : ∃ a, c.step s a ≠ none :=
  ⟨s.nextInOrder, inv.nextInOrder_moves running⟩

/-- A batch starts with at most four moves per value and four more. -/
theorem Call.weight_initial_le (t : DataType) (values : List Value) (workers : Int)
    (cancelled : Option ContextError)
    : (Call.of t values workers).weight ((Call.of t values workers).initial cancelled)
      ≤ 4 * values.length + 4 := by
  simp only [Call.weight, Call.initial, Loop.weight, State.workLeft, Call.of]
  cases cancelled <;> simp

/-- What a batch does over every schedule of its loop, its workers and the caller's
cancelling, for any number of workers requested and a caller's context cancelled before the
call or not. A schedule has at most four moves per value and four more, and one that can go
no further has returned or been stopped by a rule. A batch that returns gives every value's
result in the value's own slot exactly when the caller's context is live at its last look,
and otherwise the caller's context error; a rule stops it only with the message of a value's
validation that stopped.
-/
theorem validateAll_outcome (t : DataType) (values : List Value) (workers : Int)
    (cancelled : Option ContextError) (schedule : List Actor) (s : State)
    (ran : (Call.of t values workers).run ((Call.of t values workers).initial cancelled) schedule
      = some s)
    : schedule.length ≤ 4 * values.length + 4
      ∧ ((∀ a, (Call.of t values workers).step s a = none) → s.loop.running = false)
      ∧ (∀ rs, s.loop = .returned (.ok rs)
          → s.caller = none ∧ List.Forall₂ (Validates t) values rs)
      ∧ (∀ e, s.loop = .returned (.error e) → s.caller = some e)
      ∧ (∀ m, s.loop = .stopped m → ∃ v ∈ values, (t.check v).run false = .error m) := by
  obtain ⟨inv, short⟩ := Call.run_invariant (Call.initial_invariant _ cancelled) ran
  refine ⟨?_, ?_, inv.returnedResults, inv.returnedError, inv.stopped⟩
  · have start := Call.weight_initial_le t values workers cancelled
    omega
  · intro stuck
    cases running : s.loop.running with
    | false => rfl
    | true =>
        obtain ⟨a, moves⟩ := inv.can_move running
        exact absurd (stuck a) moves

/-- A required flag, for the run below. -/
def flagType : DataType := .trueFalse { name := "Flag", required := true }

/-- Witness: one flag and one worker, with the loop handing the flag out, its worker looking at
the group's context and validating it, and the loop waiting and returning the one result.
-/
theorem validateAll_one_flag
    : (Call.of flagType [.bool true] 1).run ((Call.of flagType [.bool true] 1).initial none)
        [.loop, .loop, .worker 0, .worker 0, .loop, .loop, .loop]
        = some { loop := .returned (.ok [none]), workers := [], started := 1, results := [none],
                 caller := none, group := some .canceled, firstError := none }
      ∧ [Actor.loop, .loop, .worker 0, .worker 0, .loop, .loop, .loop].length
          ≤ 4 * [Value.bool true].length + 4
      ∧ List.Forall₂ (Validates flagType) [.bool true] [none] := by
  -- a present flag passes the flag's rules and leaves the batch's flag alone
  have flag : (flagType.check (.bool true)).run false = .ok (none, false) := by
    rw [flagType, DataType.check.eq_3 _ _ (by simp) (by simp), if_neg (by decide)]
    rfl
  have ran : (Call.of flagType [.bool true] 1).run ((Call.of flagType [.bool true] 1).initial none)
      [.loop, .loop, .worker 0, .worker 0, .loop, .loop, .loop]
      = some { loop := .returned (.ok [none]), workers := [], started := 1, results := [none],
               caller := none, group := some .canceled, firstError := none } := by
    simp [Call.run, Call.step, Call.loopStep, Call.workerStep, Call.initial, Call.of,
      Loop.running, flag]
  obtain ⟨short, -, returned, -, -⟩ := validateAll_outcome _ _ _ _ _ _ ran
  exact ⟨ran, short, (returned [none] rfl).2⟩

end Conform.Batch
