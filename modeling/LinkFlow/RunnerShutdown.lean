/-
How a Runner comes to its end.  Whoever puts an error into the one-slot channel
goes on to cancel the context, so the receive loop is never left alone with a
full channel, and the error that `Run` reports is the one in the slot.
-/
import LinkFlow.RunnerHistory

namespace LinkFlow

namespace Runner

variable {D : Type u} {workers : Nat}

section Faults

/-- The receive loop waits for room that nothing will ever make. -/
def State.Stuck (config : Config) (state : State D workers) : Prop :=
  (∃ delivery, state.loop = .sending delivery) ∧
    config.buffer ≤ state.deliveries.length ∧ state.cancelled = false ∧
    ∀ worker, state.worker worker = .exited

/-- The context is cancelled, or a worker that has placed its error is about to
cancel it. -/
def State.Raised (state : State D workers) : Prop :=
  state.cancelled = true ∨ ∃ worker, state.worker worker = .cancelling

variable {config : Config} {state next : State D workers}
  {label : Label D workers}

theorem State.Raised.setWorker {worker : Fin workers} {phase : WorkerPhase D}
    (hraised : state.Raised) (hphase : state.worker worker ≠ .cancelling) :
    (state.setWorker worker phase).Raised := by
  rcases hraised with hctx | ⟨other, hother⟩
  · exact Or.inl hctx
  · have hne : other ≠ worker := fun hsame => hphase (hsame ▸ hother)
    refine Or.inr ⟨other, ?_⟩
    simp only [State.setWorker, Function.update_of_ne hne, hother]

/-- A fault that was raised stays raised. -/
theorem Steps.raised (hsteps : Steps config state label next)
    (hraised : state.Raised) : next.Raised := by
  cases hsteps with
  | cancel => exact Or.inl rfl
  | received | receivedNil | receiveCancelled | receiveFailed | enqueue
  | abandonSend | closeDeliveries | join | closeSource | closeSourceFailed =>
      exact hraised
  | workerDone hphase hctx => exact hraised.setWorker (by simp [hphase])
  | takeClosed hphase hqueue hclosed =>
      exact hraised.setWorker (by simp [hphase])
  | @take worker delivery rest hphase hqueue =>
      have hsame : State.Raised { state with deliveries := rest } := hraised
      exact hsame.setWorker (by simp [hphase])
  | handlerReturns outcome hphase =>
      exact hraised.setWorker (by simp [hphase])
  | backoffElapsed hphase => exact hraised.setWorker (by simp [hphase])
  | backoffCancelled hphase hctx =>
      exact hraised.setWorker (by simp [hphase])
  | complete hphase => exact hraised.setWorker (by simp [hphase])
  | completeFailed failure hphase =>
      exact hraised.setWorker (by simp [hphase])
  | @placeErr worker err hphase hslot =>
      exact Or.inr ⟨worker, by simp [State.setWorker]⟩
  | placeErrFull hphase hslot => exact hraised.setWorker (by simp [hphase])
  | cancelAll hphase => exact Or.inl rfl

/-- An error in the slot was there before or raises the fault. -/
theorem Steps.slot_raised (hsteps : Steps config state label next)
    (hslot : next.workerErrs.isSome = true) :
    state.workerErrs.isSome = true ∨ next.Raised := by
  cases hsteps with
  | @placeErr worker err hphase hempty =>
      exact Or.inr (Or.inr ⟨worker, by simp [State.setWorker]⟩)
  | _ => exact Or.inl hslot

/-- The worker whose step it is. -/
def Label.worker? : Label D workers → Option (Fin workers)
  | .workerDone worker | .take worker | .handlerReturns worker _
  | .backoffElapsed worker | .backoffCancelled worker | .complete worker _
  | .placeErr worker | .cancelAll worker => some worker
  | _ => none

theorem Steps.worker_other (hsteps : Steps config state label next)
    {worker : Fin workers} (hother : label.worker? ≠ some worker) :
    next.worker worker = state.worker worker := by
  cases hsteps with
  | cancel | received | receivedNil | receiveCancelled | receiveFailed | enqueue
  | abandonSend | closeDeliveries | join | closeSource | closeSourceFailed =>
      rfl
  | _ =>
      have hne : worker ≠ _ := fun hsame => hother (congrArg some hsame.symm)
      simp only [State.setWorker, Function.update_of_ne hne]

theorem afterHandler_ne_exited {maxRetries attempt : Nat} {delivery : D}
    {result : HandlerResult} :
    afterHandler maxRetries delivery attempt result ≠ .exited := by
  rw [afterHandler]
  cases result.decision with
  | ack => simp
  | drop => simp
  | retry => by_cases hleft : attempt < maxRetries <;> simp [hleft]
  | unknown text => cases result.err <;> simp

/-- Why a worker exits: the context is done, the channel is closed, or another
error is in the slot. -/
theorem Steps.exits (hsteps : Steps config state label next)
    {worker : Fin workers} (hexited : next.worker worker = .exited) :
    state.worker worker = .exited ∨ next.Raised ∨ next.closed = true ∨
      state.workerErrs.isSome = true := by
  by_cases hown : label.worker? = some worker
  · cases hsteps with
    | cancel | received | receivedNil | receiveCancelled | receiveFailed
    | enqueue | abandonSend | closeDeliveries | join | closeSource
    | closeSourceFailed => cases hown
    | workerDone hphase hctx => exact Or.inr (Or.inl (Or.inl hctx))
    | takeClosed hphase hqueue hclosed =>
        exact Or.inr (Or.inr (Or.inl hclosed))
    | handlerReturns outcome hphase =>
        cases hown
        simp only [State.setWorker, Function.update_self] at hexited
        exact absurd hexited afterHandler_ne_exited
    | placeErrFull hphase hslot =>
        exact Or.inr (Or.inr (Or.inr (by simp [hslot])))
    | cancelAll hphase => exact Or.inr (Or.inl (Or.inl rfl))
    | take | backoffElapsed | backoffCancelled | complete | completeFailed
    | placeErr =>
        cases hown
        simp [State.setWorker] at hexited
  · exact Or.inl (hsteps.worker_other hown ▸ hexited)

/-- The receive loop is done with the delivery channel. -/
def LoopPhase.left : LoopPhase D → Bool
  | .joining _ | .closing _ | .finished _ => true
  | _ => false

/-- What every fault comes with. -/
structure Alarmed (state : State D workers) : Prop where
  exits : ∀ worker, state.worker worker = .exited →
    state.Raised ∨ state.closed = true
  slot : state.workerErrs.isSome = true → state.Raised
  closes : state.closed = state.loop.left

theorem Steps.closed_mono (hsteps : Steps config state label next)
    (hclosed : state.closed = true) : next.closed = true := by
  cases hsteps with
  | closeDeliveries => rfl
  | _ => exact hclosed

theorem Alarmed.step (halarmed : Alarmed state)
    (hsteps : Steps config state label next) : Alarmed next where
  exits := by
    intro worker hexited
    rcases hsteps.exits hexited with hold | hraised | hclosed | hslot
    · rcases halarmed.exits worker hold with hraised | hclosed
      · exact Or.inl (hsteps.raised hraised)
      · exact Or.inr (hsteps.closed_mono hclosed)
    · exact Or.inl hraised
    · exact Or.inr hclosed
    · exact Or.inl (hsteps.raised (halarmed.slot hslot))
  slot := by
    intro hslot
    rcases hsteps.slot_raised hslot with hold | hraised
    · exact hsteps.raised (halarmed.slot hold)
    · exact hraised
  closes := by
    have hcloses := halarmed.closes
    cases hsteps with
    | received hloop | receivedNil hloop | receiveCancelled err hloop hctx
    | receiveFailed err hloop hctx | enqueue hloop hroom
    | abandonSend hloop hctx | join hloop hexited | closeSource hloop
    | closeSourceFailed failure hloop =>
        rw [hloop] at hcloses
        exact hcloses
    | closeDeliveries hloop => rfl
    | _ => exact hcloses

/-- A worker that exits with the channel still open has seen a fault, so the
receive loop can leave its send. -/
theorem Alarmed.not_stuck (halarmed : Alarmed state) (hworkers : 0 < workers) :
    ¬ state.Stuck config := by
  rintro ⟨⟨delivery, hloop⟩, -, hctx, hexited⟩
  have hopen : state.closed = false := by
    rw [halarmed.closes, hloop]
    rfl
  rcases halarmed.exits ⟨0, hworkers⟩ (hexited _) with hraised | hclosed
  · rcases hraised with hcancelled | ⟨worker, hworker⟩
    · rw [hctx] at hcancelled
      cases hcancelled
    · rw [hexited worker] at hworker
      cases hworker
  · rw [hopen] at hclosed
    cases hclosed

end Faults

section Errors

variable {config : Config} {state next : State (ℕ × D) workers}
  {label : Label (ℕ × D) workers} {worker : Fin workers} {err : RunError}

theorem failing_of_mem_failures (hmem : (worker, err) ∈ failures next label) :
    next.worker worker = .failing err := by
  unfold failures at hmem
  split at hmem
  · split at hmem
    next hphase =>
      cases List.mem_singleton.mp hmem
      exact hphase
    next => cases hmem
  · split at hmem
    next hphase =>
      cases List.mem_singleton.mp hmem
      exact hphase
    next => cases hmem
  · split at hmem
    next hphase =>
      cases List.mem_singleton.mp hmem
      exact hphase
    next => cases hmem
  · cases hmem

/-- A worker is about to place an error only after `handle` has returned it. -/
theorem Steps.failing (hsteps : Steps config state label next)
    (hfailing : next.worker worker = .failing err) :
    state.worker worker = .failing err ∨
      (worker, err) ∈ failures next label := by
  by_cases hown : label.worker? = some worker
  · cases hsteps with
    | cancel | received | receivedNil | receiveCancelled | receiveFailed
    | enqueue | abandonSend | closeDeliveries | join | closeSource
    | closeSourceFailed => cases hown
    | handlerReturns | backoffCancelled | complete | completeFailed =>
        cases hown
        exact Or.inr (by simp [failures, hfailing])
    | workerDone | take | takeClosed | backoffElapsed | placeErr | placeErrFull
    | cancelAll =>
        cases hown
        simp [State.setWorker] at hfailing
  · exact Or.inl (hsteps.worker_other hown ▸ hfailing)

/-- A worker keeps its error until the slot has one. -/
theorem Steps.kept (hsteps : Steps config state label next)
    (hfailing : state.worker worker = .failing err) :
    next.worker worker = .failing err ∨ next.workerErrs.isSome = true := by
  by_cases hown : label.worker? = some worker
  · cases hsteps with
    | cancel | received | receivedNil | receiveCancelled | receiveFailed
    | enqueue | abandonSend | closeDeliveries | join | closeSource
    | closeSourceFailed => cases hown
    | placeErr hphase hslot => exact Or.inr rfl
    | placeErrFull hphase hslot =>
        exact Or.inr (by simp [State.setWorker, hslot])
    | workerDone hphase | takeClosed hphase | take hphase
    | handlerReturns _ hphase | backoffElapsed hphase | backoffCancelled hphase
    | complete hphase | completeFailed _ hphase | cancelAll hphase =>
        cases hown
        rw [hphase] at hfailing
        cases hfailing
  · exact Or.inl ((hsteps.worker_other hown).trans hfailing)

theorem Steps.slot_mono (hsteps : Steps config state label next)
    (hslot : state.workerErrs.isSome = true) :
    next.workerErrs.isSome = true := by
  cases hsteps with
  | placeErr => rfl
  | _ => exact hslot

/-- The slot changes by a placement only. -/
theorem Steps.placements (hsteps : Steps config state label next) :
    next.workerErrs.toList =
      state.workerErrs.toList ++ placements state label := by
  cases hsteps with
  | placeErr hphase hslot =>
      simp [Runner.placements, hphase, hslot, State.setWorker]
  | placeErrFull hphase hslot =>
      simp [Runner.placements, hphase, hslot, State.setWorker]
  | _ => exact (List.append_nil _).symm

theorem Steps.slot_failing (hsteps : Steps config state label next)
    (hslot : next.workerErrs.isSome = true) :
    state.workerErrs.isSome = true ∨
      ∃ worker err, state.worker worker = .failing err := by
  cases hsteps with
  | placeErr hphase hempty => exact Or.inr ⟨_, _, hphase⟩
  | _ => exact Or.inl hslot

/-- The errors that `handle` has returned are on their way to the slot or have
found an error in it. -/
structure Accounted (state : State (ℕ × D) workers)
    (failed : List (Fin workers × RunError)) (placed : List RunError) :
    Prop where
  failing : ∀ worker err, state.worker worker = .failing err →
    (worker, err) ∈ failed
  kept : ∀ worker err, (worker, err) ∈ failed →
    state.worker worker = .failing err ∨ state.workerErrs.isSome = true
  placed : placed = state.workerErrs.toList
  slot : state.workerErrs.isSome = true → failed ≠ []

theorem Accounted.step {failed : List (Fin workers × RunError)}
    {placed : List RunError} (haccounted : Accounted state failed placed)
    (hsteps : Steps config state label next) :
    Accounted next (failed ++ failures next label)
      (placed ++ Runner.placements state label) where
  failing := by
    intro worker err hfailing
    rcases hsteps.failing hfailing with hold | hnew
    · exact List.mem_append_left _ (haccounted.failing worker err hold)
    · exact List.mem_append_right _ hnew
  kept := by
    intro worker err hmem
    rcases List.mem_append.mp hmem with hold | hnew
    · rcases haccounted.kept worker err hold with hfailing | hslot
      · exact hsteps.kept hfailing
      · exact Or.inr (hsteps.slot_mono hslot)
    · exact Or.inl (failing_of_mem_failures hnew)
  placed := by
    rw [haccounted.placed]
    exact hsteps.placements.symm
  slot := by
    intro hslot
    rcases hsteps.slot_failing hslot with hold | ⟨worker, err, hfailing⟩
    · exact List.append_ne_nil_of_left_ne_nil (haccounted.slot hold) _
    · refine List.append_ne_nil_of_left_ne_nil ?_ _
      exact List.ne_nil_of_mem (haccounted.failing worker err hfailing)

end Errors

section Result

variable {config : Config}

/-- What `Run` is going to return, at every stage of its way out. -/
def Reported (history : History D workers) : Prop :=
  match history.runner.loop with
  | .receiving | .sending _ => history.closeErr = none
  | .returned err | .joining err =>
      history.receiveErr = some err ∧ history.closeErr = none
  | .closing err =>
      (∀ worker, history.runner.worker worker = .exited) ∧
        (history.runner.workerErrs.or history.receiveErr) = some err ∧
        history.closeErr = none
  | .finished errs =>
      (∀ worker, history.runner.worker worker = .exited) ∧
        ∃ err, (history.runner.workerErrs.or history.receiveErr) = some err ∧
          errs = err :: (history.closeErr.map RunError.closeSource).toList

theorem Steps.not_exited {state next : State D workers}
    {label : Label D workers} (hsteps : Steps config state label next)
    {worker : Fin workers} (hown : label.worker? = some worker) :
    state.worker worker ≠ .exited := by
  cases hsteps with
  | cancel | received | receivedNil | receiveCancelled | receiveFailed | enqueue
  | abandonSend | closeDeliveries | join | closeSource | closeSourceFailed =>
      cases hown
  | workerDone hphase | takeClosed hphase | take hphase
  | handlerReturns _ hphase
  | backoffElapsed hphase | backoffCancelled hphase | complete hphase
  | completeFailed _ hphase | placeErr hphase | placeErrFull hphase
  | cancelAll hphase =>
      cases hown
      simp [hphase]

theorem Steps.loop_of_worker {state next : State D workers}
    {label : Label D workers} (hsteps : Steps config state label next)
    {worker : Fin workers} (hown : label.worker? = some worker) :
    next.loop = state.loop := by
  cases hsteps with
  | cancel | received | receivedNil | receiveCancelled | receiveFailed | enqueue
  | abandonSend | closeDeliveries | join | closeSource | closeSourceFailed =>
      cases hown
  | _ => rfl

variable {history : History D workers} {next : State (ℕ × D) workers}
  {label : Label (ℕ × D) workers}

/-- No worker moves once all of them have exited. -/
theorem Reported.worker (hreported : Reported history)
    (hsteps : Steps config history.runner label next) {worker : Fin workers}
    (hown : label.worker? = some worker) :
    Reported (history.record label next) := by
  have hloop := hsteps.loop_of_worker hown
  have hmoved := hsteps.not_exited hown
  have hclose : (history.record label next).closeErr = history.closeErr := by
    cases label with
    | closeSource => cases hown
    | _ => rfl
  have hrunner : (history.record label next).runner = next := rfl
  have hreceive : ∀ err, history.receiveErr = some err →
      (∀ other, history.runner.loop = .returned other → other = err) →
      (history.record label next).receiveErr = some err := by
    intro err herr hsame
    simp only [History.record, hloop]
    split
    next other hreturned => rw [hsame other hreturned]
    next => exact herr
  rw [Reported] at hreported ⊢
  rw [hclose, hrunner, hloop]
  cases hphase : history.runner.loop with
  | receiving | sending delivery =>
      rw [hphase] at hreported
      exact hreported
  | returned err =>
      rw [hphase] at hreported hreceive
      refine ⟨hreceive err hreported.1 fun other hother => ?_, hreported.2⟩
      cases hother
      rfl
  | joining err =>
      rw [hphase] at hreported hreceive
      refine ⟨hreceive err hreported.1 fun other hother => ?_, hreported.2⟩
      cases hother
  | closing err | finished errs =>
      rw [hphase] at hreported
      exact absurd (hreported.1 worker) hmoved

theorem Reported.step (hreported : Reported history)
    (hsteps : Steps config history.runner label next) :
    Reported (history.record label next) := by
  cases hown : label.worker? with
  | some worker => exact hreported.worker hsteps hown
  | none =>
      rw [Reported] at hreported
      cases hsteps with
      | cancel =>
          rw [Reported]
          cases hphase : history.runner.loop <;>
            simp_all [History.record]
      | received hloop | receivedNil hloop | receiveCancelled err hloop hctx
      | receiveFailed err hloop hctx | enqueue hloop hroom
      | abandonSend hloop hctx | closeDeliveries hloop =>
          rw [hloop] at hreported
          simp [Reported, History.record, hreported]
      | join hloop hexited =>
          rw [hloop] at hreported
          obtain ⟨hreceive, hclose⟩ := hreported
          refine ⟨hexited, ?_, hclose⟩
          simp only [History.record, hreceive]
          cases history.runner.workerErrs <;> rfl
      | closeSource hloop =>
          rw [hloop] at hreported
          obtain ⟨hexited, herr, -⟩ := hreported
          exact ⟨hexited, _, herr, rfl⟩
      | closeSourceFailed failure hloop =>
          rw [hloop] at hreported
          obtain ⟨hexited, herr, -⟩ := hreported
          exact ⟨hexited, _, herr, rfl⟩
      | _ => cases hown

/-- What a Runner's history shows of its errors. -/
structure Settled (history : History D workers) : Prop where
  alarmed : Alarmed history.runner
  accounted : Accounted history.runner history.failed history.placed
  reported : Reported history

theorem settled_of_reachable
    (hreach : (system D workers config).Reachable history) :
    Settled history := by
  apply hreach.invariant
  · rintro start rfl
    refine ⟨⟨?_, ?_, rfl⟩, ⟨?_, ?_, rfl, ?_⟩, rfl⟩
    all_goals simp [History.start, start]
  · intro current label next hcurrent hstep
    obtain ⟨runner, hrunner, rfl⟩ := Option.map_eq_some_iff.mp hstep
    have hsteps := steps_of_step hrunner
    exact ⟨hcurrent.alarmed.step hsteps, hcurrent.accounted.step hsteps,
      hcurrent.reported.step hsteps⟩

theorem newRunner_workers {requested buffer maxRetries : Int}
    (hnew : newRunner requested buffer maxRetries = some config) :
    0 < config.workers := by
  rw [newRunner] at hnew
  split at hnew
  · cases hnew
  · cases hnew
    change 0 < if requested ≤ 0 then defaultWorkers else requested.toNat
    split
    · decide
    · omega

/-- A Runner shuts down without deadlock and reports the first fault: its
receive loop is never stuck, a worker that exits on an error leaves the context
cancelled or about to be, and `Run` returns the first error of a worker or else
its own, joined with the one of the source. -/
theorem shutdown_reports_first_fault (D : Type u)
    {workers buffer maxRetries : Int} {config : Config}
    (hnew : newRunner workers buffer maxRetries = some config)
    {history : History D config.workers}
    (hreach : (system D config.workers config).Reachable history) :
    ¬ history.runner.Stuck config ∧
      (∀ worker err, (worker, err) ∈ history.failed →
        history.runner.worker worker = .exited → history.runner.Raised) ∧
      ∀ errs, history.runner.loop = .finished errs → ∃ err,
        errs = err :: (history.closeErr.map RunError.closeSource).toList ∧
          (history.failed ≠ [] → history.placed.head? = some err) ∧
          (history.failed = [] → history.receiveErr = some err) := by
  obtain ⟨halarmed, haccounted, hreported⟩ := settled_of_reachable hreach
  refine ⟨halarmed.not_stuck (newRunner_workers hnew), ?_, ?_⟩
  · intro worker err hfailed hexited
    rcases haccounted.kept worker err hfailed with hfailing | hslot
    · rw [hexited] at hfailing
      cases hfailing
    · exact halarmed.slot hslot
  · intro errs hloop
    rw [Reported] at hreported
    rw [hloop] at hreported
    obtain ⟨hexited, err, herr, herrs⟩ := hreported
    refine ⟨err, herrs, fun hfailed => ?_, fun hfailed => ?_⟩
    · obtain ⟨⟨worker, first⟩, hmem⟩ := List.exists_mem_of_ne_nil _ hfailed
      rcases haccounted.kept worker first hmem with hfailing | hslot
      · rw [hexited worker] at hfailing
        cases hfailing
      · obtain ⟨placed, hplaced⟩ := Option.isSome_iff_exists.mp hslot
        rw [haccounted.placed, hplaced]
        rw [hplaced] at herr
        exact herr
    · cases hslot : history.runner.workerErrs with
      | none =>
          rw [hslot] at herr
          exact herr
      | some placed =>
          exact absurd hfailed (haccounted.slot (by simp [hslot]))

/-- Two workers fail before either of them has placed its error, and the source
fails to close. -/
def failingRun : List (Label Unit 2) :=
  let first : Fin 2 := Fin.castSucc (Fin.last 0)
  let second : Fin 2 := Fin.last 1
  [.received (some ()), .enqueue, .take second, .received (some ()), .enqueue,
    .take first, .handlerReturns first (.returned ⟨.unknown "later", none⟩),
    .handlerReturns second (.returned ⟨.ack, none⟩),
    .complete second (some "gone"), .placeErr second, .placeErr first,
    .cancelAll second, .receiveFailed "stopped",
    .closeDeliveries, .join, .closeSource (some "refused")]

theorem failing_run_reports :
    ∃ history, (system Unit 2 ⟨2, 128, 3⟩).run (History.start Unit 2)
        failingRun = some history ∧
      history.failed =
        [(0, .unknownDecision "later"), (1, .ackDelivery "gone")] ∧
      history.runner.loop =
        .finished [.ackDelivery "gone", .closeSource "refused"] ∧
      ∃ err, [.ackDelivery "gone", .closeSource "refused"] =
          err :: (history.closeErr.map RunError.closeSource).toList ∧
        history.placed.head? = some err := by
  obtain ⟨history, hrun⟩ : ∃ history, (system Unit 2 ⟨2, 128, 3⟩).run
    (History.start Unit 2) failingRun = some history := ⟨_, rfl⟩
  have hfailed : ((system Unit 2 ⟨2, 128, 3⟩).run (History.start Unit 2)
      failingRun).map (fun history => history.failed) =
      some [(0, .unknownDecision "later"), (1, .ackDelivery "gone")] := rfl
  have hloop : ((system Unit 2 ⟨2, 128, 3⟩).run (History.start Unit 2)
      failingRun).map (fun history => history.runner.loop) =
      some (.finished [.ackDelivery "gone", .closeSource "refused"]) := rfl
  rw [hrun] at hfailed hloop
  have hnew : newRunner 2 0 0 = some ⟨2, 128, 3⟩ := rfl
  obtain ⟨-, -, hresult⟩ := shutdown_reports_first_fault Unit hnew
    (Transition.System.Reachable.of_run (.start rfl) hrun)
  obtain ⟨err, herrs, hfirst, -⟩ := hresult _ (Option.some.inj hloop)
  have hlog : history.failed =
      [(0, .unknownDecision "later"), (1, .ackDelivery "gone")] :=
    Option.some.inj hfailed
  refine ⟨history, hrun, hlog, Option.some.inj hloop, err, herrs, hfirst ?_⟩
  rw [hlog]
  simp

end Result

end Runner

end LinkFlow
