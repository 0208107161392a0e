/-
The devices row is a last-writer-wins register: whatever the interleaving, it
is the replay of the UPDATE statements carried out so far, and the register's
own laws give the final row.
-/
import LinkFlow.Connection
import Mathlib

namespace LinkFlow

namespace Connection

open Transition LastWriter

/-- The row as a register of statuses stamped with timestamps. -/
def Row.register (row : Row) : Register Status Int where
  value := row.connectionStatus
  stamp := match row.lastSeenAt with
    | none => ⊥
    | some seen => seen

def Event.write (event : Event) : Write Status Int :=
  ⟨event.status, timestamptz event.occurredAt⟩

theorem Row.register_injective {first second : Row}
    (hregister : first.register = second.register) : first = second := by
  obtain ⟨firstStatus, firstSeen⟩ := first
  obtain ⟨secondStatus, secondSeen⟩ := second
  simp only [Row.register, Register.mk.injEq] at hregister
  obtain ⟨rfl, hstamp⟩ := hregister
  cases firstSeen <;> cases secondSeen <;> simp_all

theorem Row.accepts_iff {row : Row} {event : Event} :
    row.accepts event = true ↔ row.register.stamp ≤ event.write.stamp := by
  rw [Row.accepts, Row.register, Event.write]
  cases row.lastSeenAt with
  | none => simp
  | some seen => simp

/-- The guarded UPDATE is the register's write. -/
theorem Row.register_updateConnectionStatus (row : Row) (event : Event) :
    (row.updateConnectionStatus event).register =
      row.register.apply event.write := by
  rw [Row.updateConnectionStatus, Register.apply]
  by_cases haccepts : row.accepts event = true
  · rw [if_pos haccepts, if_pos (Row.accepts_iff.mp haccepts)]
    rfl
  · rw [if_neg haccepts, if_neg (mt Row.accepts_iff.mpr haccepts)]

/-- The UPDATE statements of some events, one after the other. -/
def Row.replay (row : Row) (events : List Event) : Row :=
  events.foldl Row.updateConnectionStatus row

@[simp] theorem Row.replay_nil (row : Row) : row.replay [] = row :=
  rfl

@[simp] theorem Row.replay_concat (row : Row) (events : List Event)
    (event : Event) :
    row.replay (events ++ [event]) =
      (row.replay events).updateConnectionStatus event := by
  simp [Row.replay]

theorem Row.register_replay (row : Row) (events : List Event) :
    (row.replay events).register =
      row.register.applyAll (events.map Event.write) := by
  induction events using List.reverseRecOn with
  | nil => rfl
  | append_singleton events event ih =>
      rw [Row.replay_concat, Row.register_updateConnectionStatus, ih,
        List.map_append, List.map_singleton, Register.applyAll_concat]

/-- Some handling has been given the event. -/
def State.Delivered (state : State) (event : Event) : Prop :=
  ∃ number phase, state.handling number = some ⟨event, phase⟩

/-- Every handling has ended in an Ack. -/
def State.Quiet (state : State) : Prop :=
  ∀ number event phase, state.handling number = some ⟨event, phase⟩ →
    phase = .acked

theorem State.setPhase_eq_some {state : State} {number other : Nat}
    {event held : Event} {phase current : Phase}
    (hhandling : (state.setPhase number event phase).handling other =
      some ⟨held, current⟩) :
    (other = number ∧ held = event ∧ current = phase) ∨
      (other ≠ number ∧ state.handling other = some ⟨held, current⟩) := by
  by_cases hsame : other = number
  · subst hsame
    simp only [State.setPhase, Function.update_self, Option.some.injEq,
      Handling.mk.injEq] at hhandling
    exact Or.inl ⟨rfl, hhandling.1.symm, hhandling.2.symm⟩
  · simp only [State.setPhase, Function.update_of_ne hsame] at hhandling
    exact Or.inr ⟨hsame, hhandling⟩

/-- Moving a handling on keeps what has been delivered. -/
theorem State.Delivered.setPhase {state : State} {number : Nat}
    {event other : Event} (phase : Phase)
    (hsame : ∀ held, state.handling number = some held → held.event = event)
    (hdelivered : state.Delivered other) :
    (state.setPhase number event phase).Delivered other := by
  obtain ⟨slot, current, hhandling⟩ := hdelivered
  by_cases hslot : slot = number
  · subst hslot
    have hevent : other = event := hsame _ hhandling
    exact ⟨slot, phase, by simp [State.setPhase, hevent]⟩
  · exact ⟨slot, current, by simp [State.setPhase, hslot, hhandling]⟩

theorem State.delivered_setPhase_self (state : State) (number : Nat)
    (event : Event) (phase : Phase) :
    (state.setPhase number event phase).Delivered event :=
  ⟨number, phase, by simp [State.setPhase]⟩

/-- No step forgets a delivered event. -/
theorem Steps.delivered {state next : State} {label : Label}
    (hsteps : Steps state label next) {event : Event}
    (hdelivered : state.Delivered event) : next.Delivered event := by
  cases hsteps with
  | deliver other hfresh =>
      apply hdelivered.setPhase _
      intro held hheld
      rw [hfresh] at hheld
      cases hheld
  | applied hphase | ignored hphase | redisDone hphase | published hphase
  | failed _ _ hphase | again hphase =>
      refine State.Delivered.setPhase _ (fun held hheld => ?_) hdelivered
      change state.handling _ = _ at hheld
      rw [hphase] at hheld
      exact (congrArg Handling.event (Option.some.inj hheld)).symm

/-- The row is the replay of the carried-out UPDATEs; those belong to delivered
events, and a handling that is past its UPDATE is among them. -/
structure State.Replayed (row : Row) (state : State) : Prop where
  row_eq : state.row = row.replay state.updates
  delivered : ∀ event ∈ state.updates, state.Delivered event
  updated : ∀ number event phase,
    state.handling number = some ⟨event, phase⟩ → phase ≠ .update →
      phase ≠ .failed → event ∈ state.updates

theorem start_replayed (row : Row) : (start row).Replayed row where
  row_eq := rfl
  delivered event hmem := by cases hmem
  updated number event phase hhandling := by cases hhandling

theorem Steps.replayed {row : Row} {state next : State} {label : Label}
    (hsteps : Steps state label next) (hreplayed : state.Replayed row) :
    next.Replayed row := by
  have hdelivered := fun event (hmem : event ∈ state.updates) =>
    hsteps.delivered (hreplayed.delivered event hmem)
  cases hsteps with
  | deliver other hfresh =>
      refine ⟨hreplayed.row_eq, hdelivered, ?_⟩
      intro slot held current hhandling hupdate hfailed
      rcases State.setPhase_eq_some hhandling with ⟨_, _, hphase⟩ | ⟨_, hold⟩
      · exact absurd hphase hupdate
      · exact hreplayed.updated slot held current hold hupdate hfailed
  | @applied _ _ event hphase | @ignored _ _ event hphase =>
      refine ⟨?_, fun held hmem => ?_, ?_⟩
      · simp only [State.setPhase, State.execUpdate, Row.replay_concat,
          hreplayed.row_eq]
      · rcases List.mem_append.mp hmem with hold | hlast
        · exact hdelivered held hold
        · rw [List.mem_singleton.mp hlast]
          exact State.delivered_setPhase_self ..
      · intro slot held current hhandling hupdate hfailed
        apply List.mem_append.mpr
        rcases State.setPhase_eq_some hhandling with ⟨_, hheld, _⟩ | ⟨_, hold⟩
        · exact Or.inr (List.mem_singleton.mpr hheld)
        · exact Or.inl (hreplayed.updated slot held current hold
            hupdate hfailed)
  | redisDone hphase | published hphase =>
      refine ⟨hreplayed.row_eq, hdelivered, ?_⟩
      intro slot held current hhandling hupdate hfailed
      rcases State.setPhase_eq_some hhandling with ⟨_, rfl, _⟩ | ⟨_, hold⟩
      · exact hreplayed.updated _ _ _ hphase (by decide) (by decide)
      · exact hreplayed.updated slot held current hold hupdate hfailed
  | failed _ _ hphase | again hphase =>
      refine ⟨hreplayed.row_eq, hdelivered, ?_⟩
      intro slot held current hhandling hupdate hfailed
      rcases State.setPhase_eq_some hhandling with ⟨_, _, hcurrent⟩ | ⟨_, hold⟩
      · first
        | exact absurd hcurrent hfailed
        | exact absurd hcurrent hupdate
      · exact hreplayed.updated slot held current hold hupdate hfailed

theorem reachable_replayed {row : Row} {state : State}
    (hreach : (system row).Reachable state) : state.Replayed row := by
  refine hreach.invariant ?_ ?_
  · rintro _ rfl
    exact start_replayed row
  · intro state label next hreplayed hstep
    exact (steps_of_step hstep).replayed hreplayed

/-- Once everything is acknowledged, the events of the carried-out UPDATEs are
the delivered events. -/
theorem State.Quiet.mem_updates_iff {row : Row} {state : State}
    (hquiet : state.Quiet) (hreplayed : state.Replayed row) {event : Event} :
    event ∈ state.updates ↔ state.Delivered event := by
  refine ⟨hreplayed.delivered event, ?_⟩
  rintro ⟨number, phase, hhandling⟩
  have hacked := hquiet number event phase hhandling
  subst hacked
  exact hreplayed.updated number event _ hhandling (by decide) (by decide)

theorem Steps.row {state next : State} {label : Label}
    (hsteps : Steps state label next) :
    next.row = state.row ∨
      ∃ event, next.row = state.row.updateConnectionStatus event := by
  cases hsteps with
  | applied | ignored => exact Or.inr ⟨_, rfl⟩
  | _ => exact Or.inl rfl

/-- `last_seen_at` never goes back. -/
theorem Steps.lastSeenAt_le {state next : State} {label : Label}
    (hsteps : Steps state label next) {seen : Int}
    (hseen : state.row.lastSeenAt = some seen) :
    ∃ later, next.row.lastSeenAt = some later ∧ seen ≤ later := by
  rcases hsteps.row with hrow | ⟨event, hrow⟩
  · exact ⟨seen, hrow ▸ hseen, le_refl _⟩
  · by_cases haccepts : state.row.accepts event = true
    · refine ⟨timestamptz event.occurredAt, ?_, ?_⟩
      · rw [hrow, Row.updateConnectionStatus, if_pos haccepts]
      · simpa [Row.accepts, hseen] using haccepts
    · refine ⟨seen, ?_, le_refl _⟩
      rw [hrow, Row.updateConnectionStatus, if_neg haccepts, hseen]

/-- The handling has no effect on its way, and the row is already newer than
its event. -/
structure State.Stale (state : State) (number : Nat) (event : Event) :
    Prop where
  waiting : ∃ phase, state.handling number = some ⟨event, phase⟩ ∧
    (phase = .update ∨ phase = .failed ∨ phase = .acked)
  newer : ∃ seen, state.row.lastSeenAt = some seen ∧
    event.occurredAt < ofTimestamptz seen

theorem State.Stale.not_accepts {state : State} {number : Nat} {event : Event}
    (hstale : state.Stale number event) : state.row.accepts event = false := by
  obtain ⟨seen, hseen, hlt⟩ := hstale.newer
  have hstamp := timestamptz_lt_iff.mpr hlt
  simpa [Row.accepts, hseen] using hstamp

/-- What the connection events change outside the handlings. -/
def State.SameEffects (first second : State) : Prop :=
  first.row = second.row ∧ first.presence = second.presence ∧
    first.topic = second.topic

/-- A step of a stale handling changes nothing, and the handling stays stale. -/
theorem Steps.stale {state next : State} {label : Label}
    (hsteps : Steps state label next) {number : Nat} {event : Event}
    (hstale : state.Stale number event) :
    next.Stale number event ∧
      (label.number = number → next.SameEffects state) := by
  have hnewer : ∃ seen, next.row.lastSeenAt = some seen ∧
      event.occurredAt < ofTimestamptz seen := by
    obtain ⟨seen, hseen, hlt⟩ := hstale.newer
    obtain ⟨later, hlater, hle⟩ := hsteps.lastSeenAt_le hseen
    refine ⟨later, hlater, hlt.trans_le ?_⟩
    unfold ofTimestamptz
    omega
  obtain ⟨current, hwaiting, hphase⟩ := hstale.waiting
  by_cases hnumber : label.number = number
  · subst hnumber
    cases hsteps with
    | deliver other hfresh =>
        cases hfresh.symm.trans hwaiting
    | applied hhandling haccepts =>
        cases hhandling.symm.trans hwaiting
        rw [hstale.not_accepts] at haccepts
        cases haccepts
    | @ignored number outcome _ hhandling haccepts =>
        cases hhandling.symm.trans hwaiting
        refine ⟨⟨⟨_, by simp [State.setPhase, Label.number]; rfl, ?_⟩, hnewer⟩,
          fun _ => ?_⟩
        · cases outcome <;> simp [Outcome.phase]
        · refine ⟨?_, rfl, rfl⟩
          change state.row.updateConnectionStatus event = state.row
          rw [Row.updateConnectionStatus, haccepts]
          rfl
    | redisDone hhandling | published hhandling =>
        cases hhandling.symm.trans hwaiting
        simp at hphase
    | failed _ _ hhandling =>
        cases hhandling.symm.trans hwaiting
        exact ⟨⟨⟨.failed, by simp [State.setPhase], by simp⟩, hnewer⟩,
          fun _ => ⟨rfl, rfl, rfl⟩⟩
    | again hhandling =>
        cases hhandling.symm.trans hwaiting
        exact ⟨⟨⟨.update, by simp [State.setPhase, Label.number], by simp⟩,
          hnewer⟩, fun _ => ⟨rfl, rfl, rfl⟩⟩
  · refine ⟨⟨⟨current, ?_, hphase⟩, hnewer⟩, fun hsame => absurd hsame hnumber⟩
    rw [← hwaiting]
    cases hsteps <;>
      exact Function.update_of_ne (Ne.symm hnumber) ..

/-- Once stale, a handling stays without effect for the rest of the run. -/
theorem State.Stale.run {row : Row} {state final : State} {number : Nat}
    {event : Event} (hstale : state.Stale number event) {labels : List Label}
    (hrun : (system row).run state labels = some final) :
    final.Stale number event := by
  induction labels generalizing state with
  | nil =>
      cases hrun
      exact hstale
  | cons label rest ih =>
      simp only [System.run, Option.bind_eq_some_iff] at hrun
      obtain ⟨next, hstep, hrest⟩ := hrun
      exact ih ((steps_of_step hstep).stale hstale).1 hrest

/-- The row shows the latest of some events: `last_seen_at` is the greatest
`occurred_at`, both as the column stores them, and the status is that of an
event carrying it. -/
structure Row.ShowsLatest (row : Row) (events : Set Event) (seen : Int) :
    Prop where
  lastSeenAt : row.lastSeenAt = some seen
  greatest : IsGreatest
    ((fun event => timestamptz event.occurredAt) '' events) seen
  status : ∃ event ∈ events, timestamptz event.occurredAt = seen ∧
    event.status = row.connectionStatus

/-- For a device without `last_seen_at`, the replay shows the latest event. -/
theorem Row.replay_showsLatest (created : Status) {events : List Event}
    (hsome : events ≠ []) :
    ∃ seen, ((Row.mk created none).replay events).ShowsLatest
      {event | event ∈ events} seen := by
  have hregister := Row.register_replay ⟨created, none⟩ events
  rcases (Row.register ⟨created, none⟩).applyAll_settles
      (events.map Event.write) with ⟨_, hstale⟩ | ⟨write, hmem, hlatest, hvalue⟩
  · obtain ⟨event, hevent⟩ := List.exists_mem_of_ne_nil events hsome
    exact absurd bot_le (hstale _ (List.mem_map_of_mem hevent))
  · obtain ⟨event, hevent, rfl⟩ := List.mem_map.mp hmem
    rw [hvalue] at hregister
    have hrow : (Row.mk created none).replay events =
        ⟨event.status, some (timestamptz event.occurredAt)⟩ :=
      Row.register_injective hregister
    refine ⟨timestamptz event.occurredAt, ?_, ⟨⟨event, hevent, rfl⟩, ?_⟩,
      event, hevent, rfl, ?_⟩
    · rw [hrow]
    · rintro _ ⟨other, hother, rfl⟩
      exact hlatest.2 _ (List.mem_map_of_mem hother)
    · rw [hrow]

/-- At microsecond resolution the column loses nothing. -/
theorem Row.ShowsLatest.exact {row : Row} {events : Set Event} {seen : Int}
    (hshows : row.ShowsLatest events seen)
    (hmicros : ∀ event ∈ events, 1000 ∣ event.occurredAt) :
    IsGreatest (Event.occurredAt '' events) (ofTimestamptz seen) ∧
      ∃ event ∈ events, event.occurredAt = ofTimestamptz seen ∧
        event.status = row.connectionStatus := by
  have hback : ∀ event ∈ events,
      ofTimestamptz (timestamptz event.occurredAt) = event.occurredAt :=
    fun event hevent => Int.ediv_mul_cancel (hmicros event hevent)
  obtain ⟨event, hevent, hseen, hstatus⟩ := hshows.status
  have hinstant : event.occurredAt = ofTimestamptz seen := by
    rw [← hseen, hback event hevent]
  refine ⟨⟨⟨event, hevent, hinstant⟩, ?_⟩, event, hevent, hinstant, hstatus⟩
  rintro _ ⟨other, hother, rfl⟩
  have hle : timestamptz other.occurredAt ≤ seen :=
    hshows.greatest.2 ⟨other, hother, rfl⟩
  rw [← hback other hother]
  unfold ofTimestamptz
  omega

/-- A handling about to run its UPDATE can go on to its Ack undisturbed. -/
theorem exists_acked {row : Row} {state : State}
    (hreach : (system row).Reachable state) {number : Nat} {event : Event}
    (hphase : state.handling number = some ⟨event, .update⟩) :
    ∃ next, (system row).Reachable next ∧
      next.updates = state.updates ++ [event] ∧
      next.handling =
        Function.update state.handling number (some ⟨event, .acked⟩) := by
  cases haccepts : state.row.accepts event with
  | false =>
      have hstep : (system row).step state (.update number .ok) =
          some ((state.execUpdate event).setPhase number event .acked) := by
        simp [step, hphase, haccepts, Outcome.exec, Outcome.phase]
      exact ⟨_, hreach.next hstep, rfl, rfl⟩
  | true =>
      let updated := (state.execUpdate event).setPhase number event .redis
      let cached := (updated.execRedis event).setPhase number event .publish
      let acked := (cached.execPublish event).setPhase number event .acked
      have hupdate : (system row).step state (.update number .ok) =
          some updated := by
        simp [step, hphase, haccepts, Outcome.exec, Outcome.phase, updated]
      have hredis : (system row).step updated (.redis number .ok) =
          some cached := by
        simp [step, Outcome.exec, Outcome.phase, updated, cached,
          State.setPhase]
      have hpublish : (system row).step cached (.publish number .ok) =
          some acked := by
        simp [step, Outcome.exec, Outcome.phase, cached, acked, State.setPhase]
      refine ⟨acked, ((hreach.next hupdate).next hredis).next hpublish, rfl, ?_⟩
      simp [acked, cached, updated, State.setPhase, State.execUpdate,
        State.execRedis, State.execPublish]

/-- Every order of events is one a run can handle them in, each acknowledged
before the next is delivered. -/
theorem exists_replay_run (row : Row) (order : List Event) :
    ∃ state, (system row).Reachable state ∧ state.Quiet ∧
      state.updates = order ∧
      ∀ number, order.length ≤ number → state.handling number = none := by
  induction order using List.reverseRecOn with
  | nil =>
      refine ⟨start row, .start rfl, ?_, rfl, fun _ _ => rfl⟩
      intro number event phase hhandling
      cases hhandling
  | append_singleton order event ih =>
      obtain ⟨state, hreach, hquiet, hupdates, hfresh⟩ := ih
      let given := state.setPhase order.length event .update
      have hdeliver : (system row).step state (.deliver order.length event) =
          some given := by
        simp [step, hfresh, given]
      have hgiven : given.handling order.length = some ⟨event, .update⟩ :=
        Function.update_self ..
      obtain ⟨next, hnext, hdone, hhandling⟩ :=
        exists_acked (hreach.next hdeliver) hgiven
      refine ⟨next, hnext, ?_, by rw [hdone, ← hupdates]; rfl, ?_⟩
      · intro number held phase hheld
        rw [hhandling] at hheld
        by_cases hsame : number = order.length
        · subst hsame
          rw [Function.update_self] at hheld
          cases hheld
          rfl
        · simp only [given, State.setPhase,
            Function.update_of_ne hsame] at hheld
          exact hquiet number held phase hheld
      · intro number hle
        rw [List.length_append, List.length_singleton] at hle
        have hne : number ≠ order.length := by omega
        simp only [hhandling, given, State.setPhase, Function.update_of_ne hne]
        exact hfresh number (by omega)

/-- Last-writer-wins connection state over every run: `last_seen_at` never
decreases; a handling whose UPDATE finds a newer row has no effect from there
on; and once the UPDATE of every delivered event has been carried out, as it
has for every acknowledged one, the row shows the latest event. -/
theorem last_writer_wins {created : Status} {state : State}
    (hreach : (system ⟨created, none⟩).Reachable state) :
    (∀ label next seen, step state label = some next →
        state.row.lastSeenAt = some seen →
          ∃ later, next.row.lastSeenAt = some later ∧ seen ≤ later) ∧
      (∀ number event, state.Stale number event → ∀ labels final,
        (system ⟨created, none⟩).run state labels = some final →
          final.Stale number event ∧
            ∀ label next, label.number = number →
              step final label = some next → next.SameEffects final) ∧
      (∀ number event, state.handling number = some ⟨event, .acked⟩ →
        event ∈ state.updates) ∧
      ((∃ event, state.Delivered event) →
        (∀ event, state.Delivered event → event ∈ state.updates) →
          ∃ seen, state.row.ShowsLatest {event | state.Delivered event} seen ∧
            ((∀ event, state.Delivered event → 1000 ∣ event.occurredAt) →
              IsGreatest (Event.occurredAt '' {event | state.Delivered event})
                  (ofTimestamptz seen) ∧
                ∃ event, state.Delivered event ∧
                  event.occurredAt = ofTimestamptz seen ∧
                  event.status = state.row.connectionStatus)) := by
  have hreplayed := reachable_replayed hreach
  refine ⟨fun label next seen hstep hseen =>
      (steps_of_step hstep).lastSeenAt_le hseen, ?_, ?_, ?_⟩
  · intro number event hstale labels final hrun
    have hfinal := hstale.run hrun
    refine ⟨hfinal, fun label next hnumber hstep => ?_⟩
    exact ((steps_of_step hstep).stale hfinal).2 hnumber
  · intro number event hacked
    exact hreplayed.updated number event _ hacked (by decide) (by decide)
  · rintro ⟨event, hevent⟩ hhandled
    have hsome : state.updates ≠ [] :=
      List.ne_nil_of_mem (hhandled event hevent)
    have hsame : {event | state.Delivered event} =
        {event | event ∈ state.updates} :=
      Set.ext fun other => ⟨hhandled other, hreplayed.delivered other⟩
    obtain ⟨seen, hshows⟩ := Row.replay_showsLatest created hsome
    rw [← hreplayed.row_eq, ← hsame] at hshows
    exact ⟨seen, hshows, hshows.exact⟩

/-- 2023-11-14T22:13:20Z, where the runs on fixed events begin. -/
def epoch : Int := 1700000000000000000

/-- An offline event a second older than the online one, handled after it. -/
theorem last_writer_wins_reordered :
    ∃ state, (system ⟨.offline, none⟩).Reachable state ∧ state.Quiet ∧
      state.Delivered ⟨.online, epoch⟩ ∧
      state.Delivered ⟨.offline, epoch - 1000000000⟩ ∧
      ∃ seen,
        state.row.ShowsLatest {event | state.Delivered event} seen := by
  obtain ⟨state, hreach, hquiet, hupdates, _⟩ :=
    exists_replay_run ⟨.offline, none⟩
      [⟨.online, epoch⟩, ⟨.offline, epoch - 1000000000⟩]
  have hmem : ∀ event, event ∈ state.updates ↔ state.Delivered event :=
    fun event => hquiet.mem_updates_iff (reachable_replayed hreach)
  have honline : state.Delivered ⟨.online, epoch⟩ :=
    (hmem _).mp (by simp [hupdates])
  have hoffline : state.Delivered ⟨.offline, epoch - 1000000000⟩ :=
    (hmem _).mp (by simp [hupdates])
  obtain ⟨seen, hshows, _⟩ := (last_writer_wins hreach).2.2.2
    ⟨_, honline⟩ fun event => (hmem event).mpr
  exact ⟨state, hreach, hquiet, honline, hoffline, seen, hshows⟩

/-- Two runs beyond what the register promises.  Of two events in one
microsecond the later delivery wins, although it is the older one; and an event
older than the row still publishes when the row became newer after its
UPDATE. -/
theorem last_writer_wins_limits :
    (∃ state, (system ⟨.offline, none⟩).Reachable state ∧ state.Quiet ∧
        (∃ event, state.Delivered event) ∧
        ¬ ∃ event, state.Delivered event ∧
          (∀ other, state.Delivered other →
            other.occurredAt ≤ event.occurredAt) ∧
          event.status = state.row.connectionStatus) ∧
      ∃ state next number event seen,
        (system ⟨.offline, none⟩).Reachable state ∧
          state.handling number = some ⟨event, .publish⟩ ∧
          state.row.lastSeenAt = some seen ∧
          event.occurredAt < ofTimestamptz seen ∧
          step state (.publish number .ok) = some next ∧
          next.topic ≠ state.topic := by
  constructor
  · obtain ⟨state, hreach, hquiet, hupdates, _⟩ :=
      exists_replay_run ⟨.offline, none⟩
        [⟨.online, epoch + 900⟩, ⟨.offline, epoch + 100⟩]
    have hreplayed := reachable_replayed hreach
    have hmem : ∀ event, state.Delivered event ↔
        event = ⟨.online, epoch + 900⟩ ∨ event = ⟨.offline, epoch + 100⟩ := by
      intro event
      rw [← hquiet.mem_updates_iff hreplayed, hupdates]
      simp
    have hrow : state.row.connectionStatus = .offline := by
      rw [hreplayed.row_eq, hupdates]
      decide
    refine ⟨state, hreach, hquiet, ⟨_, (hmem _).mpr (Or.inl rfl)⟩, ?_⟩
    rintro ⟨event, hevent, hlatest, hstatus⟩
    have hle := hlatest _ ((hmem _).mpr (Or.inl rfl))
    rw [hrow] at hstatus
    rcases (hmem event).mp hevent with rfl | rfl
    · cases hstatus
    · exact absurd hle (by decide)
  · have hrun : (system ⟨.offline, none⟩).run (start ⟨.offline, none⟩)
        [.deliver 0 ⟨.online, epoch⟩, .update 0 .ok, .redis 0 .ok,
          .deliver 1 ⟨.offline, epoch + 1000000⟩, .update 1 .ok] = some _ := rfl
    have hstart : (system ⟨.offline, none⟩).Reachable
        (start ⟨.offline, none⟩) :=
      .start rfl
    exact ⟨_, _, 0, ⟨.online, epoch⟩, timestamptz (epoch + 1000000),
      hstart.of_run hrun, rfl, rfl, by decide, rfl, by decide⟩

/-- The rows a device can end with once exactly these events have been
delivered, in some interleaving, and all have been acknowledged. -/
def Row.EndsIn (row : Row) (events : List Event) (final : Row) : Prop :=
  ∃ state, (system row).Reachable state ∧ state.Quiet ∧
    (∀ event, state.Delivered event ↔ event ∈ events) ∧ state.row = final

/-- An event the row lets through and that no other event is later than. -/
def Row.Newest (row : Row) (events : List Event) (event : Event) : Prop :=
  row.accepts event = true ∧
    ∀ other ∈ events,
      timestamptz other.occurredAt ≤ timestamptz event.occurredAt

instance (row : Row) (events : List Event) :
    DecidablePred (row.Newest events) :=
  fun _ => inferInstanceAs (Decidable (_ ∧ _))

theorem Row.endsIn_iff {row : Row} {events : List Event} {final : Row} :
    row.EndsIn events final ↔
      ∃ order, SameMembers order events ∧ row.replay order = final := by
  constructor
  · rintro ⟨state, hreach, hquiet, hdelivered, hfinal⟩
    have hreplayed := reachable_replayed hreach
    refine ⟨state.updates, fun event => ?_, hreplayed.row_eq ▸ hfinal⟩
    rw [hquiet.mem_updates_iff hreplayed, hdelivered]
  · rintro ⟨order, hsame, hfinal⟩
    obtain ⟨state, hreach, hquiet, hupdates, _⟩ := exists_replay_run row order
    have hreplayed := reachable_replayed hreach
    refine ⟨state, hreach, hquiet, fun event => ?_, ?_⟩
    · rw [← hquiet.mem_updates_iff hreplayed, hupdates]
      exact hsame event
    · rw [hreplayed.row_eq, hupdates, hfinal]

theorem Row.newest_iff_latest {row : Row} {events : List Event}
    {event : Event} :
    row.Newest events event ↔
      Latest row.register (events.map Event.write) event.write := by
  rw [Row.Newest, Latest]
  rw [Row.accepts_iff]
  simp [Event.write]

/-- The stamp of the register is the column. -/
theorem Row.lastSeenAt_eq_of_stamp {first second : Row}
    (hstamp : first.register.stamp = second.register.stamp) :
    first.lastSeenAt = second.lastSeenAt := by
  obtain ⟨_, firstSeen⟩ := first
  obtain ⟨_, secondSeen⟩ := second
  cases firstSeen <;> cases secondSeen <;> simp_all [Row.register]

/-- Whatever the order, the repetitions and the interleaving, `last_seen_at`
ends the same; the whole row does exactly when the newest events all report one
status. -/
theorem connection_events_commute_iff (row : Row) (events : List Event) :
    (∀ first second, row.EndsIn events first → row.EndsIn events second →
        first.lastSeenAt = second.lastSeenAt) ∧
      ((∀ first second, row.EndsIn events first → row.EndsIn events second →
          first = second) ↔
        ∀ left ∈ events, ∀ right ∈ events, row.Newest events left →
          row.Newest events right → left.status = right.status) := by
  constructor
  · intro first second hfirst hsecond
    obtain ⟨firstOrder, hfirstSame, rfl⟩ := Row.endsIn_iff.mp hfirst
    obtain ⟨secondOrder, hsecondSame, rfl⟩ := Row.endsIn_iff.mp hsecond
    apply Row.lastSeenAt_eq_of_stamp
    rw [Row.register_replay, Row.register_replay]
    exact Register.stamp_applyAll_congr _
      ((hfirstSame.trans hsecondSame.symm).map Event.write)
  · simp only [Row.newest_iff_latest]
    refine Iff.trans ?_ (row.register.applyAll_agree_iff Event.write events)
    constructor
    · intro hends first second hfirst hsecond
      rw [← Row.register_replay, ← Row.register_replay,
        hends _ _ (Row.endsIn_iff.mpr ⟨first, hfirst, rfl⟩)
          (Row.endsIn_iff.mpr ⟨second, hsecond, rfl⟩)]
    · intro horders first second hfirst hsecond
      obtain ⟨firstOrder, hfirstSame, rfl⟩ := Row.endsIn_iff.mp hfirst
      obtain ⟨secondOrder, hsecondSame, rfl⟩ := Row.endsIn_iff.mp hsecond
      apply Row.register_injective
      rw [Row.register_replay, Row.register_replay]
      exact horders _ _ hfirstSame hsecondSame

/-- A device seen online and a second later offline ends offline in any
order. -/
theorem connection_events_commute_reconnect :
    ∀ first second,
      (Row.mk .offline none).EndsIn
        [⟨.online, epoch⟩, ⟨.offline, epoch + 1000000000⟩] first →
      (Row.mk .offline none).EndsIn
        [⟨.online, epoch⟩, ⟨.offline, epoch + 1000000000⟩] second →
      first = second :=
  (connection_events_commute_iff _ _).2.mpr (by decide)

/-- A session takeover reports both statuses within one millisecond, and the
device ends with the one that is delivered last. -/
theorem connection_events_same_millisecond :
    ∃ first second : Row,
      (Row.mk .offline none).EndsIn
        [⟨.online, epoch⟩, ⟨.offline, epoch⟩] first ∧
      (Row.mk .offline none).EndsIn
        [⟨.online, epoch⟩, ⟨.offline, epoch⟩] second ∧
      first.connectionStatus ≠ second.connectionStatus :=
  ⟨_, _,
    Row.endsIn_iff.mpr ⟨[⟨.online, epoch⟩, ⟨.offline, epoch⟩],
      fun _ => Iff.rfl, rfl⟩,
    Row.endsIn_iff.mpr ⟨[⟨.offline, epoch⟩, ⟨.online, epoch⟩],
      fun _ => by simp [or_comm], rfl⟩,
    by decide⟩

end Connection

end LinkFlow
