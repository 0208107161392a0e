/-
The Runner with a history beside it.  Deliveries are numbered in the order in
which `Receive` returned them, each has a trace of what happened to it, and the
errors of the workers, of the receive loop and of the source are kept.
-/
import LinkFlow.Runner

namespace LinkFlow

namespace Runner

universe v

section Numbers

variable {D : Type u} {E : Type v} {workers : Nat}

def LoopPhase.map (f : D → E) : LoopPhase D → LoopPhase E
  | .receiving => .receiving
  | .sending delivery => .sending (f delivery)
  | .returned err => .returned err
  | .joining err => .joining err
  | .closing err => .closing err
  | .finished errs => .finished errs

def WorkerPhase.map (f : D → E) : WorkerPhase D → WorkerPhase E
  | .idle => .idle
  | .calling delivery attempt => .calling (f delivery) attempt
  | .backoff delivery attempt => .backoff (f delivery) attempt
  | .completing delivery completion => .completing (f delivery) completion
  | .failing err => .failing err
  | .cancelling => .cancelling
  | .exited => .exited

def State.map (f : D → E) (state : State D workers) : State E workers where
  cancelled := state.cancelled
  loop := state.loop.map f
  deliveries := state.deliveries.map f
  closed := state.closed
  worker := fun worker => (state.worker worker).map f
  workerErrs := state.workerErrs

def Label.map (f : D → E) : Label D workers → Label E workers
  | .cancel => .cancel
  | .received delivery => .received (delivery.map f)
  | .receiveFailed err => .receiveFailed err
  | .enqueue => .enqueue
  | .abandonSend => .abandonSend
  | .closeDeliveries => .closeDeliveries
  | .join => .join
  | .closeSource err => .closeSource err
  | .workerDone worker => .workerDone worker
  | .take worker => .take worker
  | .handlerReturns worker outcome => .handlerReturns worker outcome
  | .backoffElapsed worker => .backoffElapsed worker
  | .backoffCancelled worker => .backoffCancelled worker
  | .complete worker err => .complete worker err
  | .placeErr worker => .placeErr worker
  | .cancelAll worker => .cancelAll worker

theorem State.map_setWorker (f : D → E) (state : State D workers)
    (worker : Fin workers) (phase : WorkerPhase D) :
    (state.setWorker worker phase).map f =
      (state.map f).setWorker worker (phase.map f) := by
  unfold State.map State.setWorker
  simp only [State.mk.injEq, true_and, and_true]
  funext other
  by_cases hsame : other = worker
  · subst hsame
    simp only [Function.update_self]
  · simp only [Function.update_of_ne hsame]

theorem afterHandler_map (f : D → E) (maxRetries attempt : Nat) (delivery : D)
    (result : HandlerResult) :
    (afterHandler maxRetries delivery attempt result).map f =
      afterHandler maxRetries (f delivery) attempt result := by
  unfold afterHandler
  cases result.decision with
  | ack => rfl
  | drop => rfl
  | retry =>
      by_cases hleft : attempt < maxRetries
      · simp only [if_pos hleft, WorkerPhase.map]
      · simp only [if_neg hleft, WorkerPhase.map]
  | unknown text => cases result.err <;> rfl

/-- The Runner never looks into its deliveries. -/
theorem step_map (f : D → E) (config : Config) (state : State D workers)
    (label : Label D workers) :
    step config (state.map f) (label.map f) =
      (step config state label).map (State.map f) := by
  have hloop : (state.map f).loop = state.loop.map f := rfl
  have hworker : ∀ worker, (state.map f).worker worker =
      (state.worker worker).map f := fun _ => rfl
  have hqueue : (state.map f).deliveries = state.deliveries.map f := rfl
  have hctx : (state.map f).cancelled = state.cancelled := rfl
  have hslot : (state.map f).workerErrs = state.workerErrs := rfl
  cases label with
  | cancel => rfl
  | received delivery =>
      simp only [step, Label.map, hloop]
      cases state.loop <;> cases delivery <;> rfl
  | receiveFailed err =>
      simp only [step, Label.map, hloop, hctx]
      cases state.loop <;> cases hdone : state.cancelled <;> rfl
  | enqueue =>
      simp only [step, Label.map, hloop, hqueue, List.length_map]
      cases state.loop with
      | sending delivery =>
          by_cases hroom : state.deliveries.length < config.buffer
          · simp only [LoopPhase.map, if_pos hroom, Option.map_some,
              State.map, List.map_append, List.map_cons, List.map_nil]
          · simp only [LoopPhase.map, if_neg hroom, Option.map_none]
      | _ => rfl
  | abandonSend =>
      simp only [step, Label.map, hloop, hctx]
      cases state.loop <;> cases hdone : state.cancelled <;> rfl
  | closeDeliveries =>
      simp only [step, Label.map, hloop]
      cases state.loop <;> rfl
  | join =>
      simp only [step, Label.map, hloop, hslot]
      cases state.loop with
      | joining err =>
          simp only [LoopPhase.map]
          split_ifs with hmapped hall hall
          · rfl
          · apply absurd _ hall
            intro worker
            have hexited := hmapped worker
            rw [hworker] at hexited
            cases hphase : state.worker worker <;> simp_all [WorkerPhase.map]
          · apply absurd _ hmapped
            intro worker
            have hexited := hall worker
            rw [hworker]
            cases hphase : state.worker worker <;> simp_all [WorkerPhase.map]
          · rfl
      | _ => rfl
  | closeSource failure =>
      simp only [step, Label.map, hloop]
      cases state.loop <;> cases failure <;> rfl
  | workerDone worker =>
      simp only [step, Label.map, hworker, hctx]
      cases state.worker worker with
      | idle =>
          simp only [WorkerPhase.map]
          split
          · rw [Option.map_some, State.map_setWorker]
            rfl
          · rfl
      | _ => rfl
  | take worker =>
      simp only [step, Label.map, hworker, hqueue]
      cases state.worker worker with
      | idle =>
          cases state.deliveries with
          | nil =>
              simp only [WorkerPhase.map, List.map_nil]
              have hclosed : (state.map f).closed = state.closed := rfl
              rw [hclosed]
              split
              · rw [Option.map_some, State.map_setWorker]
                rfl
              · rfl
          | cons delivery rest =>
              simp only [WorkerPhase.map, List.map_cons, Option.map_some,
                State.map_setWorker]
              rfl
      | _ => rfl
  | handlerReturns worker outcome =>
      simp only [step, Label.map, hworker]
      cases state.worker worker with
      | calling delivery attempt =>
          rw [Option.map_some, State.map_setWorker, afterHandler_map]
          rfl
      | _ => rfl
  | backoffElapsed worker =>
      simp only [step, Label.map, hworker]
      cases state.worker worker with
      | backoff delivery attempt =>
          simp only [WorkerPhase.map, Option.map_some, State.map_setWorker]
      | _ => rfl
  | backoffCancelled worker =>
      simp only [step, Label.map, hworker, hctx]
      cases state.worker worker with
      | backoff delivery attempt =>
          simp only [WorkerPhase.map]
          split
          · rw [Option.map_some, State.map_setWorker]
            rfl
          · rfl
      | _ => rfl
  | complete worker failure =>
      simp only [step, Label.map, hworker]
      cases state.worker worker with
      | completing delivery completion =>
          cases failure <;>
            simp only [WorkerPhase.map, Option.map_some, State.map_setWorker]
      | _ => rfl
  | placeErr worker =>
      simp only [step, Label.map, hworker, hslot]
      cases state.worker worker with
      | failing err =>
          cases state.workerErrs <;>
            simp only [WorkerPhase.map, Option.map_some, State.map_setWorker]
          rfl
      | _ => rfl
  | cancelAll worker =>
      simp only [step, Label.map, hworker]
      cases state.worker worker with
      | cancelling =>
          simp only [WorkerPhase.map, Option.map_some, State.map_setWorker]
          rfl
      | _ => rfl

end Numbers

section Histories

variable (D : Type u) (workers : Nat)

/-- What happens to one delivery. -/
inductive Event where
  | taken (worker : Fin workers)
  | called
  | answered (outcome : HandlerOutcome)
  | interrupted
  | completed (completion : Completion)
deriving Repr, DecidableEq

/-- `failed` has the errors that `handle` returned, with the workers it returned
them to, and `placed` those that went into the error channel. -/
structure History where
  runner : State (ℕ × D) workers
  received : ℕ
  trace : ℕ → List (Event workers)
  failed : List (Fin workers × RunError)
  placed : List RunError
  receiveErr : Option RunError
  closeErr : Option String

variable {D workers}

/-- The delivery that a worker's step is about, with the events of the step. -/
def marks (state : State (ℕ × D) workers) :
    Label (ℕ × D) workers → Option (ℕ × List (Event workers))
  | .take worker =>
      state.deliveries.head?.map fun delivery =>
        (delivery.1, [.taken worker, .called])
  | .handlerReturns worker outcome =>
      (state.worker worker).delivery?.map fun delivery =>
        (delivery.1, [.answered outcome])
  | .backoffElapsed worker =>
      (state.worker worker).delivery?.map fun delivery =>
        (delivery.1, [.called])
  | .backoffCancelled worker =>
      (state.worker worker).delivery?.map fun delivery =>
        (delivery.1, [.interrupted])
  | .complete worker _ =>
      match state.worker worker with
      | .completing delivery completion =>
          some (delivery.1, [.completed completion])
      | _ => none
  | _ => none

def mark (trace : ℕ → List (Event workers)) :
    Option (ℕ × List (Event workers)) → ℕ → List (Event workers)
  | some (number, events) =>
      Function.update trace number (trace number ++ events)
  | none => trace

/-- The error `handle` returns in a step, with its worker. -/
def failures (next : State (ℕ × D) workers) :
    Label (ℕ × D) workers → List (Fin workers × RunError)
  | .handlerReturns worker _ | .backoffCancelled worker | .complete worker _ =>
      match next.worker worker with
      | .failing err => [(worker, err)]
      | _ => []
  | _ => []

/-- The error a step sends to the error channel, if there is room. -/
def placements (state : State (ℕ × D) workers) :
    Label (ℕ × D) workers → List RunError
  | .placeErr worker =>
      match state.worker worker, state.workerErrs with
      | .failing err, none => [err]
      | _, _ => []
  | _ => []

/-- How many deliveries `Receive` has returned. -/
def receipts (received : ℕ) : Label (ℕ × D) workers → ℕ
  | .received (some _) => received + 1
  | _ => received

def History.record (history : History D workers) (label : Label (ℕ × D) workers)
    (next : State (ℕ × D) workers) : History D workers where
  runner := next
  received := receipts history.received label
  trace := mark history.trace (marks history.runner label)
  failed := history.failed ++ failures next label
  placed := history.placed ++ placements history.runner label
  receiveErr :=
    match next.loop with
    | .returned err => some err
    | _ => history.receiveErr
  closeErr :=
    match label with
    | .closeSource failure => failure
    | _ => history.closeErr

/-- A step of the Runner over numbered deliveries. -/
def History.step (config : Config) (history : History D workers)
    (label : Label D workers) : Option (History D workers) :=
  let label := label.map (Prod.mk history.received)
  (Runner.step config history.runner label).map (history.record label)

def History.start (D : Type u) (workers : Nat) : History D workers where
  runner := Runner.start (ℕ × D) workers
  received := 0
  trace _ := []
  failed := []
  placed := []
  receiveErr := none
  closeErr := none

/-- All runs of a Runner, with their histories. -/
def system (D : Type u) (workers : Nat) (config : Config) :
    Transition.System (History D workers) (Label D workers) where
  init history := history = History.start D workers
  step := History.step config

/-- The history takes the steps of the Runner and no others. -/
theorem step_erased (config : Config) (history : History D workers)
    (label : Label D workers) :
    Runner.step config (history.runner.map Prod.snd) label =
      (history.step config label).map fun next => next.runner.map Prod.snd := by
  have hlabel : (label.map (Prod.mk history.received)).map Prod.snd =
      label := by
    cases label with
    | received delivery => cases delivery <;> rfl
    | _ => rfl
  conv_lhs => rw [← hlabel]
  rw [step_map, History.step, Option.map_map]
  rfl

end Histories

end Runner

end LinkFlow
