/-
The Runner: one receive loop and a pool of workers over a bounded delivery
channel, one shared cancellation flag and a one-slot error channel.  Every
choice of the scheduler, the source, the handler and the completion calls is a
label, so a run is a list of labels.
-/
import LinkFlow.Lib.Transition
import Mathlib.Logic.Function.Basic
import Mathlib.Data.Fintype.Basic

namespace LinkFlow

universe u

/-- How the handler asks the Runner to finish a delivery.  Go leaves the type
open: any other text is an unknown decision. -/
inductive Decision where
  | ack
  | drop
  | retry
  | unknown (text : String)
deriving Repr, DecidableEq

/-- What a handler returns for one message. -/
structure HandlerResult where
  decision : Decision
  err : Option String
deriving Repr, DecidableEq

/-- The errors `Run` can return, one constructor for each place that builds
one. -/
inductive RunError where
  | ctx
  | receiveDelivery (err : String)
  | nilDelivery
  | ackDelivery (err : String)
  | dropDelivery (err : String)
  | retryDelivery (err : String)
  | noDecision (err : String)
  | unknownDecision (text : String)
  | closeSource (err : String)
deriving Repr, DecidableEq

namespace Runner

/-- The handler either returns or panics; `handleWithRecover` turns a panic
into a retry. -/
inductive HandlerOutcome where
  | returned (result : HandlerResult)
  | panicked (value : String)
deriving Repr, DecidableEq

def handleWithRecover : HandlerOutcome → HandlerResult
  | .returned result => result
  | .panicked value => ⟨.retry, some ("handler panic: " ++ value)⟩

/-- The completion action a worker is about to call on its delivery. -/
inductive Completion where
  | ack
  | drop
  | retry
deriving Repr, DecidableEq

/-- The settings `NewRunner` keeps, after it has filled in its defaults. -/
structure Config where
  workers : Nat
  buffer : Nat
  maxRetries : Nat
deriving Repr, DecidableEq

def defaultWorkers : Nat := 4
def defaultBuffer : Nat := 128
def defaultMaxRetries : Nat := 3

/-- `NewRunner`'s reading of the options; negative retries are refused. -/
def newRunner (workers buffer maxRetries : Int) : Option Config :=
  if maxRetries < 0 then none
  else some
    { workers := if workers ≤ 0 then defaultWorkers else workers.toNat
      buffer := if buffer ≤ 0 then defaultBuffer else buffer.toNat
      maxRetries :=
        if maxRetries = 0 then defaultMaxRetries else maxRetries.toNat }

/-- Where the goroutine that called `Run` stands. -/
inductive LoopPhase (D : Type u) where
  | receiving
  | sending (delivery : D)
  | returned (err : RunError)
  | joining (err : RunError)
  | closing (err : RunError)
  | finished (errs : List RunError)
deriving Repr, DecidableEq

/-- Where one worker goroutine stands.  `attempt` counts the retries already
granted to the delivery it holds. -/
inductive WorkerPhase (D : Type u) where
  | idle
  | calling (delivery : D) (attempt : Nat)
  | backoff (delivery : D) (attempt : Nat)
  | completing (delivery : D) (completion : Completion)
  | failing (err : RunError)
  | cancelling
  | exited
deriving Repr, DecidableEq

structure State (D : Type u) (workers : Nat) where
  cancelled : Bool
  loop : LoopPhase D
  deliveries : List D
  closed : Bool
  worker : Fin workers → WorkerPhase D
  workerErrs : Option RunError

/-- The state in which `Run` has started its workers and enters `receive`. -/
def start (D : Type u) (workers : Nat) : State D workers where
  cancelled := false
  loop := .receiving
  deliveries := []
  closed := false
  worker := fun _ => .idle
  workerErrs := none

inductive Label (D : Type u) (workers : Nat) where
  | cancel
  | received (delivery : Option D)
  | receiveFailed (err : String)
  | enqueue
  | abandonSend
  | closeDeliveries
  | join
  | closeSource (err : Option String)
  | workerDone (worker : Fin workers)
  | take (worker : Fin workers)
  | handlerReturns (worker : Fin workers) (outcome : HandlerOutcome)
  | backoffElapsed (worker : Fin workers)
  | backoffCancelled (worker : Fin workers)
  | complete (worker : Fin workers) (err : Option String)
  | placeErr (worker : Fin workers)
  | cancelAll (worker : Fin workers)
deriving Repr

variable {D : Type u} {workers : Nat}

def State.setWorker (state : State D workers) (worker : Fin workers)
    (phase : WorkerPhase D) : State D workers :=
  { state with worker := Function.update state.worker worker phase }

/-- The error a completion call's failure is wrapped in. -/
def Completion.wrap : Completion → String → RunError
  | .ack, err => .ackDelivery err
  | .drop, err => .dropDelivery err
  | .retry, err => .retryDelivery err

/-- The tail of `handle` once the handler has answered: back off while retries
are left, otherwise pick the completion call; an unknown decision completes
nothing. -/
def afterHandler (maxRetries : Nat) (delivery : D) (attempt : Nat)
    (result : HandlerResult) : WorkerPhase D :=
  match result.decision with
  | .ack => .completing delivery .ack
  | .drop => .completing delivery .drop
  | .retry =>
      if attempt < maxRetries then .backoff delivery (attempt + 1)
      else .completing delivery .retry
  | .unknown text =>
      match result.err with
      | some err => .failing (.noDecision err)
      | none => .failing (.unknownDecision text)

/-- Every way the receive loop, the closing of `Run` and one worker can take
their next step. -/
def step (config : Config) (state : State D workers) :
    Label D workers → Option (State D workers)
  | .cancel => some { state with cancelled := true }
  | .received delivery =>
      match state.loop with
      | .receiving =>
          match delivery with
          | some delivery => some { state with loop := .sending delivery }
          | none => some { state with loop := .returned .nilDelivery }
      | _ => none
  | .receiveFailed err =>
      match state.loop with
      | .receiving =>
          if state.cancelled then some { state with loop := .returned .ctx }
          else some { state with loop := .returned (.receiveDelivery err) }
      | _ => none
  | .enqueue =>
      match state.loop with
      | .sending delivery =>
          if state.deliveries.length < config.buffer then
            some { state with
              loop := .receiving
              deliveries := state.deliveries ++ [delivery] }
          else none
      | _ => none
  | .abandonSend =>
      match state.loop with
      | .sending _ =>
          if state.cancelled then some { state with loop := .returned .ctx }
          else none
      | _ => none
  | .closeDeliveries =>
      match state.loop with
      | .returned err =>
          some { state with loop := .joining err, closed := true }
      | _ => none
  | .join =>
      match state.loop with
      | .joining err =>
          if ∀ worker, (state.worker worker matches .exited) then
            some { state with loop := .closing (state.workerErrs.getD err) }
          else none
      | _ => none
  | .closeSource failure =>
      match state.loop with
      | .closing err =>
          match failure with
          | some failure =>
              some { state with loop := .finished [err, .closeSource failure] }
          | none => some { state with loop := .finished [err] }
      | _ => none
  | .workerDone worker =>
      match state.worker worker with
      | .idle =>
          if state.cancelled then some (state.setWorker worker .exited)
          else none
      | _ => none
  | .take worker =>
      match state.worker worker with
      | .idle =>
          match state.deliveries with
          | delivery :: rest =>
              some ({ state with deliveries := rest }.setWorker worker
                (.calling delivery 0))
          | [] =>
              if state.closed then some (state.setWorker worker .exited)
              else none
      | _ => none
  | .handlerReturns worker outcome =>
      match state.worker worker with
      | .calling delivery attempt =>
          some (state.setWorker worker
            (afterHandler config.maxRetries delivery attempt
              (handleWithRecover outcome)))
      | _ => none
  | .backoffElapsed worker =>
      match state.worker worker with
      | .backoff delivery attempt =>
          some (state.setWorker worker (.calling delivery attempt))
      | _ => none
  | .backoffCancelled worker =>
      match state.worker worker with
      | .backoff _ _ =>
          if state.cancelled then some (state.setWorker worker (.failing .ctx))
          else none
      | _ => none
  | .complete worker failure =>
      match state.worker worker with
      | .completing _ completion =>
          match failure with
          | none => some (state.setWorker worker .idle)
          | some failure =>
              some (state.setWorker worker (.failing (completion.wrap failure)))
      | _ => none
  | .placeErr worker =>
      match state.worker worker with
      | .failing err =>
          match state.workerErrs with
          | none =>
              some ({ state with workerErrs := some err }.setWorker worker
                .cancelling)
          | some _ => some (state.setWorker worker .exited)
      | _ => none
  | .cancelAll worker =>
      match state.worker worker with
      | .cancelling =>
          some ({ state with cancelled := true }.setWorker worker .exited)
      | _ => none

/-- What each label can do, one constructor for each branch of the source.
Proofs about runs go by cases on this relation. -/
inductive Steps (config : Config) :
    State D workers → Label D workers → State D workers → Prop
  | cancel (state) : Steps config state .cancel { state with cancelled := true }
  | received {state} {delivery : D} (hloop : state.loop = .receiving) :
      Steps config state (.received (some delivery))
        { state with loop := .sending delivery }
  | receivedNil {state} (hloop : state.loop = .receiving) :
      Steps config state (.received none)
        { state with loop := .returned .nilDelivery }
  | receiveCancelled {state} (err : String) (hloop : state.loop = .receiving)
      (hctx : state.cancelled = true) :
      Steps config state (.receiveFailed err)
        { state with loop := .returned .ctx }
  | receiveFailed {state} (err : String) (hloop : state.loop = .receiving)
      (hctx : state.cancelled = false) :
      Steps config state (.receiveFailed err)
        { state with loop := .returned (.receiveDelivery err) }
  | enqueue {state} {delivery : D} (hloop : state.loop = .sending delivery)
      (hroom : state.deliveries.length < config.buffer) :
      Steps config state .enqueue
        { state with
          loop := .receiving
          deliveries := state.deliveries ++ [delivery] }
  | abandonSend {state} {delivery : D} (hloop : state.loop = .sending delivery)
      (hctx : state.cancelled = true) :
      Steps config state .abandonSend { state with loop := .returned .ctx }
  | closeDeliveries {state} {err : RunError}
      (hloop : state.loop = .returned err) :
      Steps config state .closeDeliveries
        { state with loop := .joining err, closed := true }
  | join {state} {err : RunError} (hloop : state.loop = .joining err)
      (hexited : ∀ worker, state.worker worker = .exited) :
      Steps config state .join
        { state with loop := .closing (state.workerErrs.getD err) }
  | closeSource {state} {err : RunError} (hloop : state.loop = .closing err) :
      Steps config state (.closeSource none)
        { state with loop := .finished [err] }
  | closeSourceFailed {state} {err : RunError} (failure : String)
      (hloop : state.loop = .closing err) :
      Steps config state (.closeSource (some failure))
        { state with loop := .finished [err, .closeSource failure] }
  | workerDone {state} {worker} (hphase : state.worker worker = .idle)
      (hctx : state.cancelled = true) :
      Steps config state (.workerDone worker) (state.setWorker worker .exited)
  | take {state} {worker} {delivery : D} {rest : List D}
      (hphase : state.worker worker = .idle)
      (hqueue : state.deliveries = delivery :: rest) :
      Steps config state (.take worker)
        ({ state with deliveries := rest }.setWorker worker
          (.calling delivery 0))
  | takeClosed {state} {worker} (hphase : state.worker worker = .idle)
      (hqueue : state.deliveries = []) (hclosed : state.closed = true) :
      Steps config state (.take worker) (state.setWorker worker .exited)
  | handlerReturns {state} {worker} {delivery : D} {attempt : Nat}
      (outcome : HandlerOutcome)
      (hphase : state.worker worker = .calling delivery attempt) :
      Steps config state (.handlerReturns worker outcome)
        (state.setWorker worker (afterHandler config.maxRetries delivery attempt
          (handleWithRecover outcome)))
  | backoffElapsed {state} {worker} {delivery : D} {attempt : Nat}
      (hphase : state.worker worker = .backoff delivery attempt) :
      Steps config state (.backoffElapsed worker)
        (state.setWorker worker (.calling delivery attempt))
  | backoffCancelled {state} {worker} {delivery : D} {attempt : Nat}
      (hphase : state.worker worker = .backoff delivery attempt)
      (hctx : state.cancelled = true) :
      Steps config state (.backoffCancelled worker)
        (state.setWorker worker (.failing .ctx))
  | complete {state} {worker} {delivery : D} {completion : Completion}
      (hphase : state.worker worker = .completing delivery completion) :
      Steps config state (.complete worker none) (state.setWorker worker .idle)
  | completeFailed {state} {worker} {delivery : D} {completion : Completion}
      (failure : String)
      (hphase : state.worker worker = .completing delivery completion) :
      Steps config state (.complete worker (some failure))
        (state.setWorker worker (.failing (completion.wrap failure)))
  | placeErr {state} {worker} {err : RunError}
      (hphase : state.worker worker = .failing err)
      (hslot : state.workerErrs = none) :
      Steps config state (.placeErr worker)
        ({ state with workerErrs := some err }.setWorker worker .cancelling)
  | placeErrFull {state} {worker} {err first : RunError}
      (hphase : state.worker worker = .failing err)
      (hslot : state.workerErrs = some first) :
      Steps config state (.placeErr worker) (state.setWorker worker .exited)
  | cancelAll {state} {worker} (hphase : state.worker worker = .cancelling) :
      Steps config state (.cancelAll worker)
        ({ state with cancelled := true }.setWorker worker .exited)

theorem steps_of_step {config : Config} {state next : State D workers}
    {label : Label D workers} (hstep : step config state label = some next) :
    Steps config state label next := by
  cases label with
  | cancel =>
      cases hstep
      exact .cancel state
  | received delivery =>
      simp only [step] at hstep
      split at hstep
      next hloop =>
        cases delivery <;> cases hstep
        · exact .receivedNil hloop
        · exact .received hloop
      next => cases hstep
  | receiveFailed err =>
      simp only [step] at hstep
      split at hstep
      next hloop =>
        split at hstep <;> cases hstep
        next hctx => exact .receiveCancelled err hloop hctx
        next hctx =>
          exact .receiveFailed err hloop (Bool.not_eq_true _ ▸ hctx)
      next => cases hstep
  | enqueue =>
      simp only [step] at hstep
      split at hstep
      next hloop =>
        split at hstep <;> cases hstep
        next hroom => exact .enqueue hloop hroom
      next => cases hstep
  | abandonSend =>
      simp only [step] at hstep
      split at hstep
      next hloop =>
        split at hstep <;> cases hstep
        next hctx => exact .abandonSend hloop hctx
      next => cases hstep
  | closeDeliveries =>
      simp only [step] at hstep
      split at hstep <;> cases hstep
      next hloop => exact .closeDeliveries hloop
  | join =>
      simp only [step] at hstep
      split at hstep
      next hloop =>
        split at hstep <;> cases hstep
        next hexited =>
          refine .join hloop fun worker => ?_
          have hworker := hexited worker
          revert hworker
          cases state.worker worker <;> simp
      next => cases hstep
  | closeSource failure =>
      simp only [step] at hstep
      split at hstep
      next hloop =>
        cases failure <;> cases hstep
        · exact .closeSource hloop
        · exact .closeSourceFailed _ hloop
      next => cases hstep
  | workerDone worker =>
      simp only [step] at hstep
      split at hstep
      next hphase =>
        split at hstep <;> cases hstep
        next hctx => exact .workerDone hphase hctx
      next => cases hstep
  | take worker =>
      simp only [step] at hstep
      split at hstep
      next hphase =>
        split at hstep
        next hqueue =>
          cases hstep
          exact .take hphase hqueue
        next hqueue =>
          split at hstep <;> cases hstep
          next hclosed => exact .takeClosed hphase hqueue hclosed
      next => cases hstep
  | handlerReturns worker outcome =>
      simp only [step] at hstep
      split at hstep <;> cases hstep
      next hphase => exact .handlerReturns outcome hphase
  | backoffElapsed worker =>
      simp only [step] at hstep
      split at hstep <;> cases hstep
      next hphase => exact .backoffElapsed hphase
  | backoffCancelled worker =>
      simp only [step] at hstep
      split at hstep
      next hphase =>
        split at hstep <;> cases hstep
        next hctx => exact .backoffCancelled hphase hctx
      next => cases hstep
  | complete worker failure =>
      simp only [step] at hstep
      split at hstep
      next hphase =>
        cases failure <;> cases hstep
        · exact .complete hphase
        · exact .completeFailed _ hphase
      next => cases hstep
  | placeErr worker =>
      simp only [step] at hstep
      split at hstep
      next hphase =>
        split at hstep <;> cases hstep
        next hslot => exact .placeErr hphase hslot
        next hslot => exact .placeErrFull hphase hslot
      next => cases hstep
  | cancelAll worker =>
      simp only [step] at hstep
      split at hstep <;> cases hstep
      next hphase => exact .cancelAll hphase

theorem step_of_steps {config : Config} {state next : State D workers}
    {label : Label D workers} (hsteps : Steps config state label next) :
    step config state label = some next := by
  cases hsteps <;> simp_all [step]

/-- The delivery a worker has in its hands. -/
def WorkerPhase.delivery? : WorkerPhase D → Option D
  | .calling delivery _ => some delivery
  | .backoff delivery _ => some delivery
  | .completing delivery _ => some delivery
  | _ => none

/-- A delivery is held from `Receive` until its worker leaves `handle`. -/
def State.Holds (state : State D workers) (delivery : D) : Prop :=
  state.loop = .sending delivery ∨ delivery ∈ state.deliveries ∨
    ∃ worker, (state.worker worker).delivery? = some delivery

theorem State.Holds.of_worker {state : State D workers} (worker : Fin workers)
    {delivery : D} (hphase : (state.worker worker).delivery? = some delivery) :
    state.Holds delivery :=
  Or.inr (Or.inr ⟨worker, hphase⟩)

/-- Moving one worker adds at most the delivery of its new phase. -/
theorem State.Holds.of_setWorker {state : State D workers}
    {worker : Fin workers} {phase : WorkerPhase D} {delivery : D}
    (hholds : (state.setWorker worker phase).Holds delivery) :
    state.Holds delivery ∨ phase.delivery? = some delivery := by
  rcases hholds with hloop | hqueue | ⟨other, hother⟩
  · exact Or.inl (Or.inl hloop)
  · exact Or.inl (Or.inr (Or.inl hqueue))
  · by_cases hsame : other = worker
    · subst hsame
      simp only [State.setWorker, Function.update_self] at hother
      exact Or.inr hother
    · simp only [State.setWorker, Function.update_of_ne hsame] at hother
      exact Or.inl (State.Holds.of_worker _ hother)

/-- `afterHandler` keeps the delivery it was given or lets it go. -/
theorem afterHandler_delivery? {maxRetries attempt : Nat}
    {delivery other : D} {result : HandlerResult}
    (hphase : (afterHandler maxRetries delivery attempt result).delivery? =
      some other) : other = delivery := by
  rw [afterHandler] at hphase
  split at hphase
  · exact (Option.some.inj hphase).symm
  · exact (Option.some.inj hphase).symm
  · split at hphase <;> exact (Option.some.inj hphase).symm
  · split at hphase <;> simp [WorkerPhase.delivery?] at hphase

/-- No step invents a delivery: what is held afterwards was held before or has
just been received. -/
theorem Steps.holds {config : Config} {state next : State D workers}
    {label : Label D workers} (hsteps : Steps config state label next)
    {delivery : D} (hholds : next.Holds delivery) :
    state.Holds delivery ∨ label = .received (some delivery) := by
  cases hsteps with
  | cancel => exact Or.inl hholds
  | received hloop =>
      rcases hholds with hsend | hrest
      · cases hsend
        exact Or.inr rfl
      · exact Or.inl (Or.inr hrest)
  | receivedNil | receiveCancelled | receiveFailed | abandonSend
  | closeDeliveries | join | closeSource | closeSourceFailed =>
      rcases hholds with hsend | hrest
      · cases hsend
      · exact Or.inl (Or.inr hrest)
  | enqueue hloop _ =>
      rcases hholds with hsend | hqueue | hworker
      · cases hsend
      · rcases List.mem_append.mp hqueue with hold | hlast
        · exact Or.inl (Or.inr (Or.inl hold))
        · have hsame := List.mem_singleton.mp hlast
          exact Or.inl (Or.inl (hsame ▸ hloop))
      · exact Or.inl (Or.inr (Or.inr hworker))
  | take _ hqueue =>
      rcases State.Holds.of_setWorker hholds with hold | hphase
      · rcases hold with hsend | htail | hworker
        · exact Or.inl (Or.inl hsend)
        · refine Or.inl (Or.inr (Or.inl ?_))
          exact hqueue ▸ List.mem_cons_of_mem _ htail
        · exact Or.inl (Or.inr (Or.inr hworker))
      · have hsame := Option.some.inj hphase
        exact Or.inl (Or.inr (Or.inl (by simp [hqueue, ← hsame])))
  | handlerReturns _ hworker =>
      rcases State.Holds.of_setWorker hholds with hold | hphase
      · exact Or.inl hold
      · have hsame := afterHandler_delivery? hphase
        have hheld := congrArg WorkerPhase.delivery? hworker
        exact Or.inl (State.Holds.of_worker _ (hsame ▸ hheld))
  | backoffElapsed hworker =>
      rcases State.Holds.of_setWorker hholds with hold | hphase
      · exact Or.inl hold
      · have hheld := congrArg WorkerPhase.delivery? hworker
        exact Or.inl (State.Holds.of_worker _ (hheld.trans hphase))
  | workerDone | takeClosed | backoffCancelled | complete | completeFailed
  | placeErr | placeErrFull | cancelAll =>
      rcases State.Holds.of_setWorker hholds with hold | hphase
      · exact Or.inl hold
      · cases hphase

end Runner

end LinkFlow
