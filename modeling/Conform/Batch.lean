import Conform.DataType.Validate
/-! Validating many values at once: a loop hands the values out in order to a group of at most a
given number of workers under the caller's context, and every interleaving of the moves of the
loop, the workers and the caller is a schedule of the batch.
-/

namespace Conform.Batch

/-- Why a context was cancelled. -/
inductive ContextError where
  | canceled
  | deadlineExceeded
  deriving Repr, DecidableEq

/-- The message of a context error. -/
def ContextError.message : ContextError → String
  | .canceled => "context canceled"
  | .deadlineExceeded => "context deadline exceeded"

/-- Where a worker is: about to look at the group's context, or validating its value. -/
inductive Phase where
  | starting
  | validating
  deriving Repr, DecidableEq

/-- A running worker: the index of its value and where it is. -/
structure Worker where
  index : Nat
  phase : Phase
  deriving Repr, DecidableEq

/-- Where the batch's own loop is. -/
inductive Loop where
  /-- About to look at the group's context before handing out the value at index `i`. -/
  | next (i : Nat)
  /-- Waiting for room in the group to start the worker of the value at index `i`. -/
  | handing (i : Nat)
  /-- Waiting for every worker to finish. -/
  | waiting
  /-- The group finished without error; about to look at the caller's context. -/
  | finishing
  | returned (result : Except ContextError (List (Option Failures)))
  /-- A rule stopped the program with a message. -/
  | stopped (message : String)

/-- Whether the batch can still move: it has neither returned nor stopped. -/
def Loop.running : Loop → Bool
  | .returned _ | .stopped _ => false
  | _ => true

/-- Whether the group has been waited for. -/
def Loop.waited : Loop → Bool
  | .finishing | .returned _ => true
  | _ => false

/-- Whether the loop has stopped handing out values. -/
def Loop.handedOut : Loop → Bool
  | .waiting | .finishing | .returned _ => true
  | _ => false

/-- A state of the batch: its loop, the running workers, how many workers were started, the
slots of the results, the caller's and the group's contexts, and the group's first error.
-/
structure State where
  loop : Loop
  workers : List Worker
  started : Nat
  results : List (Option Failures)
  caller : Option ContextError
  group : Option ContextError
  firstError : Option ContextError

/-- Who moves: the loop, the running worker at a position, or the caller cancelling. -/
inductive Actor where
  | loop
  | worker (position : Nat)
  | cancel (e : ContextError)
  deriving Repr, DecidableEq

/-- The arguments of a batch: the type, the values, and how many workers may run at once,
at least one.
-/
structure Call where
  type : DataType
  values : List Value
  limit : Nat
  limit_pos : 0 < limit

/-- A batch with a requested number of workers: fewer than one means one. -/
def Call.of (type : DataType) (values : List Value) (workers : Int) : Call where
  type := type
  values := values
  limit := if workers < 1 then 1 else workers.toNat
  limit_pos := by split <;> omega

/-- The state a batch starts in, with the caller's context cancelled already or not. -/
def Call.initial (c : Call) (cancelled : Option ContextError) : State where
  loop := .next 0
  workers := []
  started := 0
  results := List.replicate c.values.length none
  caller := cancelled
  group := cancelled
  firstError := none

/-- Cancel the caller's context, and with it the group's; a context cancelled already keeps
its error.
-/
def State.cancel (s : State) (e : ContextError) : State :=
  match s.caller with
  | some _ => s
  | none => { s with caller := some e, group := s.group.or (some e) }

/-- One move of the loop. -/
def Call.loopStep (c : Call) (s : State) : Option State :=
  match s.loop with
  | .next i =>
    if i < c.values.length ∧ s.group = none then some { s with loop := .handing i }
    else some { s with loop := .waiting }
  | .handing i =>
    if s.workers.length < c.limit then
      some { s with
        loop := .next (i + 1)
        workers := s.workers ++ [⟨i, .starting⟩]
        started := s.started + 1 }
    else none
  | .waiting =>
    if s.workers.isEmpty then
      match s.firstError with
      | some e => some { s with loop := .returned (.error e), group := s.group.or (some .canceled) }
      | none => some { s with loop := .finishing, group := s.group.or (some .canceled) }
    else none
  | .finishing =>
    match s.caller with
    | some e => some { s with loop := .returned (.error e) }
    | none => some { s with loop := .returned (.ok s.results) }
  | .returned _ | .stopped _ => none

/-- One move of the running worker at a position: give up on a cancelled group, recording the
group's first error; or start validating; or finish validating into the value's slot, perhaps
cancelling the caller's context on the way, or stop the program.
-/
def Call.workerStep (c : Call) (s : State) (position : Nat) : Option State :=
  match s.workers[position]? with
  | none => none
  | some ⟨i, .starting⟩ =>
    match s.group with
    | some e =>
      some { s with workers := s.workers.eraseIdx position, firstError := s.firstError.or (some e) }
    | none => some { s with workers := s.workers.set position ⟨i, .validating⟩ }
  | some ⟨i, .validating⟩ =>
    match c.values[i]? with
    | none => none
    | some v =>
      match (c.type.check v).run false with
      | .ok (r, raised) =>
        let s := { s with workers := s.workers.eraseIdx position, results := s.results.set i r }
        some (if raised then s.cancel .canceled else s)
      | .error message => some { s with loop := .stopped message }

/-- One move of a batch; none when the actor cannot move. -/
def Call.step (c : Call) (s : State) : Actor → Option State
  | .loop => c.loopStep s
  | .worker position => if s.loop.running then c.workerStep s position else none
  | .cancel e => if s.loop.running ∧ s.caller = none then some (s.cancel e) else none

/-- The state after a schedule of moves, none when one of them cannot be made. -/
def Call.run (c : Call) : State → List Actor → Option State
  | s, [] => some s
  | s, a :: rest => (c.step s a).bind fun s' => c.run s' rest

/-- The actor that moves next when the workers run one at a time: the running worker, if there
is one, and the loop otherwise. -/
def State.nextInOrder (s : State) : Actor := if s.workers.isEmpty then .loop else .worker 0

/-- The batch after at most `fuel` moves with its workers run one at a time; it stays where it
is once no move is left. -/
def Call.runInOrder (c : Call) : Nat → State → State
  | 0, s => s
  | fuel + 1, s =>
    match c.step s s.nextInOrder with
    | some s' => c.runInOrder fuel s'
    | none => s

/-- What a batch ends in with its workers run one at a time and its caller's context cancelled
before the call or not at all: every value's result in order or the caller's context error, or
else the message of a rule that stopped the program. A batch makes at most four moves per value
and four more, so these moves end it. -/
def validateInOrder (t : DataType) (values : List Value) (workers : Int)
    (cancelled : Option ContextError)
    : Except String (Except ContextError (List (Option Failures))) :=
  let c := Call.of t values workers
  match (c.runInOrder (4 * values.length + 4) (c.initial cancelled)).loop with
  | .returned result => .ok result
  | .stopped message => .error message
  -- not reached, since the batch has ended
  | _ => .ok (.error .canceled)

end Conform.Batch
