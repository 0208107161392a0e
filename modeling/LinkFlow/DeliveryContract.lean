/-
What the Runner does with one delivery.  Its trace follows a small automaton:
the delivery is taken, calls and answers alternate as long as the answers ask
for a retry, and at most one completion ends it.
-/
import LinkFlow.RunnerHistory
import Mathlib.Data.List.Chain

namespace LinkFlow

namespace Runner

variable {D : Type u} {workers : Nat}

section Automaton

/-- `handleWithRecover` gives Retry: the handler asked for it or panicked. -/
def HandlerOutcome.retries (outcome : HandlerOutcome) : Prop :=
  (handleWithRecover outcome).decision = .retry

/-- The completion call that a decision names. -/
def Decision.completion? : Decision → Option Completion
  | .ack => some .ack
  | .drop => some .drop
  | .retry => some .retry
  | .unknown _ => none

def HandlerOutcome.completion? (outcome : HandlerOutcome) : Option Completion :=
  Decision.completion? (handleWithRecover outcome).decision

/-- Which event may come after which. -/
def Follows : Event workers → Event workers → Prop
  | .taken _, .called => True
  | .called, .answered _ => True
  | .answered outcome, .called => outcome.retries
  | .answered outcome, .interrupted => outcome.retries
  | .answered outcome, .completed completion =>
      outcome.completion? = some completion
  | _, _ => False

/-- A trace of the automaton, with the bound on the calls. -/
structure Regular (maxRetries : Nat) (trace : List (Event workers)) : Prop where
  begins : ∀ event, trace.head? = some event → ∃ worker, event = .taken worker
  follows : trace.IsChain Follows
  calls : trace.count .called ≤ maxRetries + 1

/-- How far the trace of a delivery is while a worker has it. -/
def Owed (maxRetries : Nat) :
    WorkerPhase (ℕ × D) → List (Event workers) → Prop
  | .calling _ attempt, trace =>
      trace.getLast? = some .called ∧ trace.count .called = attempt + 1 ∧
        attempt ≤ maxRetries
  | .backoff _ attempt, trace =>
      (∃ outcome, trace.getLast? = some (.answered outcome) ∧ outcome.retries) ∧
        trace.count .called = attempt ∧ attempt ≤ maxRetries
  | .completing _ completion, trace =>
      ∃ outcome, trace.getLast? = some (.answered outcome) ∧
        outcome.completion? = some completion
  | _, _ => True

theorem isChain_concat {trace : List (Event workers)}
    {last event : Event workers} (hchain : trace.IsChain Follows)
    (hlast : trace.getLast? = some last) (hfollows : Follows last event) :
    (trace ++ [event]).IsChain Follows := by
  rw [List.isChain_append]
  refine ⟨hchain, List.isChain_singleton _, fun other hother next hnext => ?_⟩
  rw [hlast] at hother
  cases hother
  cases hnext
  exact hfollows

/-- Only the last event is not followed. -/
theorem exists_follows {front : List (Event workers)}
    {last event : Event workers} (hchain : (front ++ [last]).IsChain Follows)
    (hmem : event ∈ front) :
    ∃ next, Follows event next := by
  obtain ⟨before, after, rfl⟩ := List.append_of_mem hmem
  rw [List.append_assoc, List.isChain_append] at hchain
  cases after with
  | nil => exact ⟨last, (List.isChain_cons_cons.mp hchain.2.1).1⟩
  | cons next rest => exact ⟨next, (List.isChain_cons_cons.mp hchain.2.1).1⟩

theorem getLast?_of_final {trace : List (Event workers)} {event : Event workers}
    (hchain : trace.IsChain Follows) (hmem : event ∈ trace)
    (hfinal : ∀ next, ¬ Follows event next) : trace.getLast? = some event := by
  rcases List.eq_nil_or_concat trace with rfl | ⟨front, last, rfl⟩
  · cases hmem
  · rw [List.concat_eq_append] at hchain hmem ⊢
    rcases List.mem_append.mp hmem with hfront | hlast
    · obtain ⟨next, hnext⟩ := exists_follows hchain hfront
      exact absurd hnext (hfinal next)
    · rw [List.mem_singleton.mp hlast]
      simp

end Automaton

section Tracking

/-- The deliveries that no worker has taken yet, in their order. -/
def State.waiting (state : State D workers) : List D :=
  state.deliveries ++
    match state.loop with
    | .sending delivery => [delivery]
    | _ => []

/-- Every trace is regular, the traces of what was not taken are empty, and the
trace of what a worker has is the worker's and fits its phase. -/
structure Tracked (maxRetries : Nat) (runner : State (ℕ × D) workers)
    (received : ℕ) (trace : ℕ → List (Event workers)) : Prop where
  regular : ∀ number, Regular maxRetries (trace number)
  unreceived : ∀ number, received ≤ number → trace number = []
  numbered : (runner.waiting.map Prod.fst).Nodup
  untouched : ∀ delivery ∈ runner.waiting,
    delivery.1 < received ∧ trace delivery.1 = []
  held : ∀ worker delivery, (runner.worker worker).delivery? = some delivery →
    (trace delivery.1).head? = some (.taken worker) ∧
      Owed maxRetries (runner.worker worker) (trace delivery.1)

variable {maxRetries received : ℕ} {runner next : State (ℕ × D) workers}
  {trace : ℕ → List (Event workers)} {worker : Fin workers}

theorem regular_nil : Regular maxRetries ([] : List (Event workers)) :=
  ⟨by simp, List.isChain_nil, by simp⟩

/-- What is waiting may only leave from the channel's ends. -/
theorem Tracked.of_sublist (htracked : Tracked maxRetries runner received trace)
    (hworker : next.worker = runner.worker)
    (hwaiting : next.waiting.Sublist runner.waiting) :
    Tracked maxRetries next received trace where
  regular := htracked.regular
  unreceived := htracked.unreceived
  numbered := htracked.numbered.sublist (hwaiting.map Prod.fst)
  untouched := fun delivery hmem =>
    htracked.untouched delivery (hwaiting.subset hmem)
  held := by
    rw [hworker]
    exact htracked.held

/-- A worker without a delivery owes nothing. -/
theorem Tracked.released (htracked : Tracked maxRetries runner received trace)
    {phase : WorkerPhase (ℕ × D)} (hphase : phase.delivery? = none) :
    Tracked maxRetries (runner.setWorker worker phase) received trace where
  regular := htracked.regular
  unreceived := htracked.unreceived
  numbered := htracked.numbered
  untouched := htracked.untouched
  held := by
    intro other delivery hheld
    by_cases hsame : other = worker
    · subst hsame
      simp only [State.setWorker, Function.update_self, hphase] at hheld
      cases hheld
    · simp only [State.setWorker, Function.update_of_ne hsame] at hheld ⊢
      exact htracked.held other delivery hheld

/-- Events of a worker's own delivery, or of one it has just taken. -/
theorem Tracked.moved (htracked : Tracked maxRetries runner received trace)
    {phase : WorkerPhase (ℕ × D)} {number : ℕ} {events : List (Event workers)}
    (hwaiting : ∀ delivery ∈ runner.waiting, delivery.1 ≠ number)
    (hreceived : number < received)
    (hothers : ∀ other, other ≠ worker →
      (trace number).head? ≠ some (.taken other))
    (hregular : Regular maxRetries (trace number ++ events))
    (hphase : ∀ delivery, phase.delivery? = some delivery →
      delivery.1 = number ∧
        (trace number ++ events).head? = some (.taken worker) ∧
        Owed maxRetries phase (trace number ++ events)) :
    Tracked maxRetries (runner.setWorker worker phase) received
      (Function.update trace number (trace number ++ events)) where
  regular := by
    intro other
    by_cases hsame : other = number
    · subst hsame
      rw [Function.update_self]
      exact hregular
    · rw [Function.update_of_ne hsame]
      exact htracked.regular other
  unreceived := by
    intro other hle
    rw [Function.update_of_ne (by omega)]
    exact htracked.unreceived other hle
  numbered := htracked.numbered
  untouched := by
    intro delivery hmem
    rw [Function.update_of_ne (hwaiting delivery hmem)]
    exact htracked.untouched delivery hmem
  held := by
    intro other delivery hheld
    by_cases hsame : other = worker
    · subst hsame
      simp only [State.setWorker, Function.update_self] at hheld ⊢
      obtain ⟨hnumber, hhead, howed⟩ := hphase delivery hheld
      rw [hnumber, Function.update_self]
      exact ⟨hhead, howed⟩
    · simp only [State.setWorker, Function.update_of_ne hsame] at hheld ⊢
      obtain ⟨hhead, howed⟩ := htracked.held other delivery hheld
      have hne : delivery.1 ≠ number := fun hnumber =>
        hothers other hsame (hnumber ▸ hhead)
      rw [Function.update_of_ne hne]
      exact ⟨hhead, howed⟩

/-- One event of the delivery that a worker has. -/
theorem Tracked.marked (htracked : Tracked maxRetries runner received trace)
    {phase : WorkerPhase (ℕ × D)} {delivery : ℕ × D}
    {last event : Event workers}
    (hheld : (runner.worker worker).delivery? = some delivery)
    (hlast : (trace delivery.1).getLast? = some last)
    (hfollows : Follows last event)
    (hcalls : (trace delivery.1 ++ [event]).count .called ≤ maxRetries + 1)
    (hphase : ∀ other, phase.delivery? = some other → other = delivery ∧
      Owed maxRetries phase (trace delivery.1 ++ [event])) :
    Tracked maxRetries (runner.setWorker worker phase) received
      (Function.update trace delivery.1 (trace delivery.1 ++ [event])) := by
  obtain ⟨hhead, -⟩ := htracked.held worker delivery hheld
  have hne : trace delivery.1 ≠ [] := fun hnil => by
    rw [hnil] at hhead
    cases hhead
  have happend : (trace delivery.1 ++ [event]).head? =
      some (.taken worker) := by
    rw [List.head?_append_of_ne_nil _ hne, hhead]
  apply htracked.moved
  · intro other hmem hsame
    exact hne (hsame ▸ (htracked.untouched other hmem).2)
  · by_contra hle
    exact hne (htracked.unreceived _ (by omega))
  · intro other hother hsame
    rw [hhead] at hsame
    cases hsame
    exact hother rfl
  · refine ⟨fun first hfirst => ?_, ?_, hcalls⟩
    · rw [happend] at hfirst
      exact ⟨worker, (Option.some.inj hfirst).symm⟩
    · exact isChain_concat (htracked.regular _).follows hlast hfollows
  · intro other hother
    obtain ⟨rfl, howed⟩ := hphase other hother
    exact ⟨rfl, happend, howed⟩

end Tracking

section Runs

variable {config : Config} {received : ℕ} {state next : State (ℕ × D) workers}
  {trace : ℕ → List (Event workers)} {label : Label (ℕ × D) workers}

theorem Tracked.taken {maxRetries : ℕ} {worker : Fin workers} {delivery : ℕ × D}
    {rest : List (ℕ × D)} (htracked : Tracked maxRetries state received trace)
    (hqueue : state.deliveries = delivery :: rest) :
    Tracked maxRetries ({ state with deliveries := rest }.setWorker worker
        (.calling delivery 0)) received
      (Function.update trace delivery.1
        (trace delivery.1 ++ [.taken worker, .called])) := by
  have hwaiting : state.waiting =
      delivery :: State.waiting { state with deliveries := rest } := by
    simp [State.waiting, hqueue]
  have hnumbered := htracked.numbered
  obtain ⟨hreceived, hnil⟩ := htracked.untouched delivery
    (hwaiting ▸ List.mem_cons_self)
  rw [hwaiting, List.map_cons, List.nodup_cons] at hnumbered
  have hrest : Tracked maxRetries { state with deliveries := rest } received
      trace := by
    refine htracked.of_sublist rfl ?_
    rw [hwaiting]
    exact List.sublist_cons_self _ _
  apply hrest.moved
  · intro other hmem hsame
    exact hnumbered.1 (hsame ▸ List.mem_map_of_mem hmem)
  · exact hreceived
  · intro other _ hhead
    rw [hnil] at hhead
    cases hhead
  · rw [hnil, List.nil_append]
    refine ⟨fun event hevent => ⟨worker, ?_⟩, ?_, ?_⟩
    · exact (Option.some.inj hevent).symm
    · exact List.isChain_pair.mpr trivial
    · simp
  · intro other hother
    cases hother
    rw [hnil, List.nil_append]
    exact ⟨rfl, rfl, rfl, by simp, Nat.zero_le _⟩

/-- A completion call ends the trace of its delivery, whatever it returns. -/
theorem Tracked.completed {maxRetries : ℕ} {worker : Fin workers}
    {delivery : ℕ × D} {completion : Completion}
    (htracked : Tracked maxRetries state received trace)
    (hphase : state.worker worker = .completing delivery completion)
    (failure : Option String) {phase : WorkerPhase (ℕ × D)}
    (hnone : phase.delivery? = none) :
    Tracked maxRetries (state.setWorker worker phase) received
      (mark trace (marks state (.complete worker failure))) := by
  have hheld : (state.worker worker).delivery? = some delivery := by
    rw [hphase]
    rfl
  obtain ⟨-, howed⟩ := htracked.held worker delivery hheld
  rw [hphase] at howed
  obtain ⟨outcome, hlast, hcompletion⟩ := howed
  have hmarks : mark trace (marks state (.complete worker failure)) =
      Function.update trace delivery.1
        (trace delivery.1 ++ [.completed completion]) := by
    simp [marks, hphase, mark]
  rw [hmarks]
  refine htracked.marked hheld hlast hcompletion ?_ fun other hother => ?_
  · simpa using (htracked.regular delivery.1).calls
  · rw [hnone] at hother
    cases hother

/-- What `handle` goes on with fits the answer. -/
theorem owed_afterHandler {maxRetries attempt : ℕ} {delivery other : ℕ × D}
    {outcome : HandlerOutcome} {events : List (Event workers)}
    (hcalls : events.count .called = attempt + 1)
    (hphase : (afterHandler maxRetries delivery attempt
      (handleWithRecover outcome)).delivery? = some other) :
    Owed maxRetries (afterHandler maxRetries delivery attempt
      (handleWithRecover outcome)) (events ++ [.answered outcome]) := by
  have hlast : (events ++ [Event.answered outcome]).getLast? =
      some (.answered outcome) := by simp
  rw [afterHandler] at hphase ⊢
  cases hdecision : (handleWithRecover outcome).decision with
  | ack =>
      exact ⟨outcome, hlast, by
        rw [HandlerOutcome.completion?, hdecision]
        rfl⟩
  | drop =>
      exact ⟨outcome, hlast, by
        rw [HandlerOutcome.completion?, hdecision]
        rfl⟩
  | retry =>
      by_cases hleft : attempt < maxRetries
      · simp only [if_pos hleft]
        refine ⟨⟨outcome, hlast, hdecision⟩, ?_, hleft⟩
        simp [hcalls]
      · simp only [if_neg hleft]
        exact ⟨outcome, hlast, by
          rw [HandlerOutcome.completion?, hdecision]
          rfl⟩
  | unknown text =>
      rw [hdecision] at hphase
      cases herr : (handleWithRecover outcome).err <;>
        simp [herr, WorkerPhase.delivery?] at hphase

/-- One step of the Runner keeps every trace of the automaton. -/
theorem Tracked.step (htracked : Tracked config.maxRetries state received trace)
    (hsteps : Steps config state label next)
    (hnumber : ∀ delivery, label = .received (some delivery) →
      delivery.1 = received) :
    Tracked config.maxRetries next (receipts received label)
      (mark trace (marks state label)) := by
  cases hsteps with
  | cancel => exact htracked.of_sublist rfl (List.Sublist.refl _)
  | @received delivery hloop =>
      have hwaiting : State.waiting { state with
          loop := LoopPhase.sending delivery } =
              state.waiting ++ [delivery] := by
        simp [State.waiting, hloop]
      have hfresh := hnumber delivery rfl
      refine
        { regular := htracked.regular
          unreceived := fun number hle =>
            htracked.unreceived number (Nat.le_of_succ_le hle)
          numbered := ?_
          untouched := ?_
          held := htracked.held }
      · rw [hwaiting, List.map_append, List.nodup_append']
        refine ⟨htracked.numbered, List.nodup_singleton _, ?_⟩
        intro number hmem hlast
        obtain ⟨other, hother, rfl⟩ := List.mem_map.mp hmem
        have hlt := (htracked.untouched other hother).1
        have heq := List.mem_singleton.mp hlast
        omega
      · intro other hmem
        rw [hwaiting] at hmem
        rcases List.mem_append.mp hmem with hold | hlast
        · obtain ⟨hlt, hnil⟩ := htracked.untouched other hold
          exact ⟨Nat.lt_succ_of_lt hlt, hnil⟩
        · rw [List.mem_singleton.mp hlast, hfresh]
          exact ⟨Nat.lt_succ_self _, htracked.unreceived _ le_rfl⟩
  | receivedNil hloop | receiveCancelled _ hloop hctx
  | receiveFailed _ hloop hctx | closeDeliveries hloop | join hloop hexited
  | closeSource hloop | closeSourceFailed _ hloop =>
      refine Tracked.of_sublist htracked ?_ ?_
      · rfl
      · simp [State.waiting, hloop]
  | enqueue hloop hroom =>
      refine Tracked.of_sublist htracked ?_ ?_
      · rfl
      · simp [State.waiting, hloop]
  | abandonSend hloop hctx =>
      refine Tracked.of_sublist htracked ?_ ?_
      · rfl
      · simp [State.waiting, hloop]
  | workerDone hphase hctx => exact htracked.released rfl
  | @takeClosed worker hphase hqueue hclosed =>
      have hmarks : mark trace (marks state (.take worker)) = trace := by
        simp [marks, hqueue, mark]
      rw [hmarks]
      exact htracked.released rfl
  | @take worker delivery rest hphase hqueue =>
      have hmarks : mark trace (marks state (.take worker)) =
          Function.update trace delivery.1
            (trace delivery.1 ++ [.taken worker, .called]) := by
        simp [marks, hqueue, mark]
      rw [hmarks]
      exact htracked.taken hqueue
  | @handlerReturns worker delivery attempt outcome hphase =>
      have hheld : (state.worker worker).delivery? = some delivery := by
        rw [hphase]
        rfl
      obtain ⟨-, howed⟩ := htracked.held worker delivery hheld
      rw [hphase] at howed
      obtain ⟨hlast, hcalls, hle⟩ := howed
      have hmarks : mark trace (marks state (.handlerReturns worker outcome)) =
          Function.update trace delivery.1
            (trace delivery.1 ++ [.answered outcome]) := by
        simp [marks, hheld, mark]
      rw [hmarks]
      refine htracked.marked hheld hlast trivial ?_ fun other hother => ?_
      · simp [hcalls, hle]
      · exact ⟨afterHandler_delivery? hother, owed_afterHandler hcalls hother⟩
  | @backoffElapsed worker delivery attempt hphase =>
      have hheld : (state.worker worker).delivery? = some delivery := by
        rw [hphase]
        rfl
      obtain ⟨-, howed⟩ := htracked.held worker delivery hheld
      rw [hphase] at howed
      obtain ⟨⟨outcome, hlast, hretries⟩, hcalls, hle⟩ := howed
      have hmarks : mark trace (marks state (.backoffElapsed worker)) =
          Function.update trace delivery.1 (trace delivery.1 ++ [.called]) := by
        simp [marks, hheld, mark]
      rw [hmarks]
      refine htracked.marked hheld hlast hretries ?_ fun other hother => ?_
      · simp [hcalls, hle]
      · cases hother
        exact ⟨rfl, by simp, by simp [hcalls], hle⟩
  | @backoffCancelled worker delivery attempt hphase hctx =>
      have hheld : (state.worker worker).delivery? = some delivery := by
        rw [hphase]
        rfl
      obtain ⟨-, howed⟩ := htracked.held worker delivery hheld
      rw [hphase] at howed
      obtain ⟨⟨outcome, hlast, hretries⟩, hcalls, hle⟩ := howed
      have hmarks : mark trace (marks state (.backoffCancelled worker)) =
          Function.update trace delivery.1
            (trace delivery.1 ++ [.interrupted]) := by
        simp [marks, hheld, mark]
      rw [hmarks]
      refine htracked.marked hheld hlast hretries ?_ fun other hother => ?_
      · simpa using (htracked.regular delivery.1).calls
      · cases hother
  | @complete worker delivery completion hphase =>
      exact htracked.completed hphase none rfl
  | @completeFailed worker delivery completion failure hphase =>
      exact htracked.completed hphase (some failure) rfl
  | @placeErr worker err hphase hslot =>
      have hsame : Tracked config.maxRetries
          { state with workerErrs := some err } received trace :=
        htracked.of_sublist rfl (List.Sublist.refl _)
      exact hsame.released rfl
  | placeErrFull hphase hslot => exact htracked.released rfl
  | cancelAll hphase =>
      have hsame : Tracked config.maxRetries
          { state with cancelled := true } received trace :=
        htracked.of_sublist rfl (List.Sublist.refl _)
      exact hsame.released rfl

theorem tracked_of_reachable {history : History D workers}
    (hreach : (system D workers config).Reachable history) :
    Tracked config.maxRetries history.runner history.received
      history.trace := by
  apply hreach.invariant
  · rintro start rfl
    exact
      { regular := fun _ => regular_nil
        unreceived := fun _ _ => rfl
        numbered := List.nodup_nil
        untouched := by simp [State.waiting, History.start, start]
        held := by simp [History.start, start, WorkerPhase.delivery?] }
  · intro current label next hcurrent hstep
    obtain ⟨runner, hrunner, rfl⟩ := Option.map_eq_some_iff.mp hstep
    apply hcurrent.step (steps_of_step hrunner)
    intro delivery hlabel
    cases label with
    | received found =>
        cases found with
        | none => cases hlabel
        | some found =>
            cases hlabel
            rfl
    | _ => cases hlabel

end Runs

section Contract

def Event.outcome? : Event workers → Option HandlerOutcome
  | .answered outcome => some outcome
  | _ => none

def Event.isTaken : Event workers → Bool
  | .taken _ => true
  | _ => false

def Event.isCompleted : Event workers → Bool
  | .completed _ => true
  | _ => false

/-- The handler's last answer. -/
def lastOutcome (trace : List (Event workers)) : Option HandlerOutcome :=
  (trace.filterMap Event.outcome?).getLast?

/-- The deal that the Runner offers a delivery. -/
structure Faithful (maxRetries : Nat) (trace : List (Event workers)) :
    Prop where
  takenOnce : trace.countP Event.isTaken ≤ 1
  calls : trace.count .called ≤ maxRetries + 1
  again : ∀ before after, trace = before ++ .called :: after →
    .called ∈ before → ∃ outcome,
      before.getLast? = some (.answered outcome) ∧ outcome.retries
  completedOnce : trace.countP Event.isCompleted ≤ 1
  named : ∀ completion, .completed completion ∈ trace → ∃ outcome,
    lastOutcome trace = some outcome ∧ outcome.completion? = some completion
  unknown : ∀ outcome text, lastOutcome trace = some outcome →
    (handleWithRecover outcome).decision = .unknown text →
      ∀ completion, .completed completion ∉ trace
  interrupted : .interrupted ∈ trace → ∀ completion,
    .completed completion ∉ trace

variable {maxRetries : ℕ} {trace : List (Event workers)}

/-- The automaton never comes back to the taking of a delivery. -/
theorem not_taken_of_chain {first : Event workers} {rest : List (Event workers)}
    (hchain : (first :: rest).IsChain Follows) :
    ∀ event ∈ rest, event.isTaken = false := by
  induction rest generalizing first with
  | nil => simp
  | cons next rest ih =>
      obtain ⟨hfollows, hrest⟩ := List.isChain_cons_cons.mp hchain
      intro event hmem
      rcases List.mem_cons.mp hmem with rfl | hmem
      · cases event with
        | taken worker => cases first <;> cases hfollows
        | _ => rfl
      · exact ih hrest event hmem

/-- The one before the last event of a completed trace is the answer that named
the completion. -/
theorem completed_last {completion : Completion}
    (hregular : Regular maxRetries trace)
    (hmem : .completed completion ∈ trace) :
    ∃ before outcome,
      trace = before ++ [.answered outcome, .completed completion] ∧
      outcome.completion? = some completion := by
  have hlast := getLast?_of_final hregular.follows hmem fun next hnext => hnext
  obtain ⟨front, rfl⟩ := List.getLast?_eq_some_iff.mp hlast
  rcases List.eq_nil_or_concat front with rfl | ⟨before, previous, rfl⟩
  · obtain ⟨worker, hworker⟩ := hregular.begins _ rfl
    cases hworker
  · have hchain := hregular.follows
    rw [List.concat_eq_append, List.append_assoc, List.isChain_append] at hchain
    have hpair : Follows previous (.completed completion) :=
      (List.isChain_cons_cons.mp hchain.2.1).1
    cases previous with
    | answered outcome =>
        exact ⟨before, outcome, by simp, hpair⟩
    | _ => cases hpair

theorem Regular.faithful (hregular : Regular maxRetries trace) :
    Faithful maxRetries trace := by
  have hnamed : ∀ completion, .completed completion ∈ trace → ∃ outcome,
      lastOutcome trace = some outcome ∧
        outcome.completion? = some completion := by
    intro completion hmem
    obtain ⟨before, outcome, rfl, hcompletion⟩ := completed_last hregular hmem
    refine ⟨outcome, ?_, hcompletion⟩
    simp [lastOutcome, List.filterMap_append, List.filterMap_cons,
      Event.outcome?]
  refine
    { takenOnce := ?_
      calls := hregular.calls
      again := ?_
      completedOnce := ?_
      named := hnamed
      unknown := ?_
      interrupted := ?_ }
  · cases trace with
    | nil => simp
    | cons first rest =>
        have hrest : rest.countP Event.isTaken = 0 := by
          rw [List.countP_eq_zero]
          intro event hmem
          simp [not_taken_of_chain hregular.follows event hmem]
        rw [List.countP_cons, hrest]
        split <;> simp
  · intro before after htrace hcalled
    rcases List.eq_nil_or_concat before with rfl | ⟨front, previous, rfl⟩
    · cases hcalled
    · have hchain := hregular.follows
      rw [htrace, List.concat_eq_append, List.append_assoc,
        List.isChain_append] at hchain
      have hpair : Follows previous .called :=
        (List.isChain_cons_cons.mp hchain.2.1).1
      cases previous with
      | taken worker =>
          -- the taking is the first event, so nothing was called before it
          cases front with
          | nil => simp at hcalled
          | cons first rest =>
              have hfirst := hregular.follows
              rw [htrace] at hfirst
              have hnot := not_taken_of_chain hfirst (.taken worker) (by simp)
              cases hnot
      | answered outcome => exact ⟨outcome, by simp, hpair⟩
      | _ => cases hpair
  · by_cases hany : ∃ completion, .completed completion ∈ trace
    · obtain ⟨completion, hmem⟩ := hany
      obtain ⟨before, outcome, htrace, -⟩ := completed_last hregular hmem
      have hchain := hregular.follows
      have hfront :
          (before ++ [Event.answered outcome]).countP Event.isCompleted =
            0 := by
        rw [List.countP_eq_zero]
        intro event hevent hcompleted
        rw [htrace, List.append_cons] at hchain
        obtain ⟨next, hnext⟩ := exists_follows hchain hevent
        cases event with
        | completed other => exact hnext
        | _ => cases hcompleted
      rw [htrace, List.append_cons, List.countP_append, hfront]
      simp [Event.isCompleted]
    · have hnone : trace.countP Event.isCompleted = 0 := by
        rw [List.countP_eq_zero]
        intro event hmem hcompleted
        cases event with
        | completed completion => exact hany ⟨completion, hmem⟩
        | _ => cases hcompleted
      omega
  · intro outcome text hlast htext completion hmem
    obtain ⟨other, hother, hcompletion⟩ := hnamed completion hmem
    rw [hlast] at hother
    cases hother
    rw [HandlerOutcome.completion?, htext] at hcompletion
    cases hcompletion
  · intro hinterrupted completion hmem
    have hlast :=
      getLast?_of_final hregular.follows hmem fun next hnext => hnext
    have hother := getLast?_of_final hregular.follows hinterrupted
      fun next hnext => hnext
    rw [hlast] at hother
    cases hother

/-- In every run of a Runner, each delivery that `Receive` has returned is taken
at most once, its handler is called again only for a retry and within the bound,
and at most one completion is called on it, the one that the last decision
names. -/
theorem deliveries_handled_faithfully (D : Type u) (workers : Nat)
    (config : Config) {history : History D workers}
    (hreach : (system D workers config).Reachable history) (number : ℕ) :
    Faithful config.maxRetries (history.trace number) :=
  ((tracked_of_reachable hreach).regular number).faithful

/-- A handler that panics and then asks for a retry once more than it is given
one. -/
def panickingRun : List (Label Unit 1) :=
  [.received (some ()), .enqueue, .take 0, .handlerReturns 0 (.panicked "boom"),
    .backoffElapsed 0, .handlerReturns 0 (.returned ⟨.retry, none⟩),
    .complete 0 none]

theorem panicking_delivery_retried :
    ∃ history, (system Unit 1 ⟨1, 1, 1⟩).run (History.start Unit 1)
        panickingRun = some history ∧
      history.trace 0 = [.taken 0, .called, .answered (.panicked "boom"),
        .called, .answered (.returned ⟨.retry, none⟩), .completed .retry] ∧
      Faithful 1 (history.trace 0) := by
  obtain ⟨history, hrun⟩ : ∃ history, (system Unit 1 ⟨1, 1, 1⟩).run
    (History.start Unit 1) panickingRun = some history := ⟨_, rfl⟩
  have htrace : ((system Unit 1 ⟨1, 1, 1⟩).run (History.start Unit 1)
      panickingRun).map (fun history => history.trace 0) =
      some [.taken 0, .called, .answered (.panicked "boom"), .called,
        .answered (.returned ⟨.retry, none⟩), .completed .retry] := rfl
  rw [hrun] at htrace
  exact ⟨history, hrun, Option.some.inj htrace,
    deliveries_handled_faithfully Unit 1 ⟨1, 1, 1⟩
      (Transition.System.Reachable.of_run (.start rfl) hrun) 0⟩

end Contract

end Runner

end LinkFlow
