/-
What leaves the devices row: the Redis key and the state events.  Neither write
is guarded by the row it reports, so both follow the row in the runs whose
writes still find it as their own UPDATE left it.
-/
import LinkFlow.ConnectionRow

namespace LinkFlow

namespace Connection

open Transition

/-- The row carries the event's status and time. -/
def Row.Carries (row : Row) (event : Event) : Prop :=
  row.connectionStatus = event.status ∧
    row.lastSeenAt = some (timestamptz event.occurredAt)

/-- A handling that is still under way, in one of the given phases, owns the
row: it wrote the status and time the row carries. -/
def State.Owned (state : State) (allowed : Phase → Prop) : Prop :=
  ∃ number event phase, state.handling number = some ⟨event, phase⟩ ∧
    allowed phase ∧ state.row.Carries event

theorem Row.Carries.accepts {row : Row} {event : Event}
    (hcarries : row.Carries event) : row.accepts event = true := by
  simp [Row.accepts, hcarries.2]

theorem Row.carries_updateConnectionStatus {row : Row} {event : Event}
    (haccepts : row.accepts event = true) :
    (row.updateConnectionStatus event).Carries event := by
  rw [Row.updateConnectionStatus, if_pos haccepts]
  exact ⟨rfl, rfl⟩

theorem Outcome.allowed_phase {allowed : Phase → Prop} {next : Phase}
    (hnext : allowed next) (hfailed : allowed .failed) (outcome : Outcome) :
    allowed (outcome.phase next) := by
  cases outcome <;> assumption

/-- Moving one handling between allowed phases keeps the owner, whichever
handling that is. -/
theorem State.Owned.setPhase {state next : State} {allowed : Phase → Prop}
    (howned : state.Owned allowed) {number : Nat} {event : Event}
    {phase : Phase}
    (hallowed : ∀ held current, state.handling number = some ⟨held, current⟩ →
      allowed current → state.row.Carries held → held = event ∧ allowed phase)
    (hrow : next.row = state.row) (hhandling : next.handling =
      Function.update state.handling number (some ⟨event, phase⟩)) :
    next.Owned allowed := by
  obtain ⟨slot, held, current, hslot, hcurrent, hcarries⟩ := howned
  by_cases hsame : slot = number
  · subst hsame
    obtain ⟨rfl, hphase⟩ := hallowed held current hslot hcurrent hcarries
    exact ⟨slot, held, phase, by rw [hhandling, Function.update_self], hphase,
      hrow ▸ hcarries⟩
  · refine ⟨slot, held, current, ?_, hcurrent, hrow ▸ hcarries⟩
    rw [hhandling, Function.update_of_ne hsame, hslot]

/-- The step carries out the Redis command of a handling's event. -/
def State.RunsRedis (state : State) (label : Label) (event : Event) : Prop :=
  ∃ number outcome, label = .redis number outcome ∧ outcome ≠ .failed ∧
    state.handling number = some ⟨event, .redis⟩

/-- The step writes a handling's event to the state topic. -/
def State.RunsPublish (state : State) (label : Label) (event : Event) : Prop :=
  ∃ number outcome, label = .publish number outcome ∧ outcome ≠ .failed ∧
    state.handling number = some ⟨event, .publish⟩

theorem Steps.topic {state next : State} {label : Label}
    (hsteps : Steps state label next) :
    (next.topic = state.topic ∧ ∀ event, ¬ state.RunsPublish label event) ∨
      ∃ event, state.RunsPublish label event ∧
        next.topic = event :: state.topic := by
  cases hsteps with
  | published hphase hout =>
      exact Or.inr ⟨_, ⟨_, _, rfl, hout, hphase⟩, rfl⟩
  | failed _ hfailed =>
      refine Or.inl ⟨rfl, ?_⟩
      rintro _ ⟨_, _, rfl, hout, _⟩
      exact hout (Option.some.inj hfailed)
  | _ => exact Or.inl ⟨rfl, fun _ ⟨_, _, hlabel, _⟩ => nomatch hlabel⟩

theorem Steps.presence {state next : State} {label : Label}
    (hsteps : Steps state label next) :
    (next.presence = state.presence ∧ ∀ event, ¬ state.RunsRedis label event) ∨
      ∃ event, state.RunsRedis label event ∧
        next.presence = event.presence := by
  cases hsteps with
  | redisDone hphase hout =>
      exact Or.inr ⟨_, ⟨_, _, rfl, hout, hphase⟩, rfl⟩
  | failed _ hfailed =>
      refine Or.inl ⟨rfl, ?_⟩
      rintro _ ⟨_, _, rfl, hout, _⟩
      exact hout (Option.some.inj hfailed)
  | _ => exact Or.inl ⟨rfl, fun _ ⟨_, _, hlabel, _⟩ => nomatch hlabel⟩

section Owners

variable {allowed : Phase → Prop} (hredis : allowed .redis)
  (hfailed : allowed .failed)

include hredis hfailed

/-- Whoever changes the row owns it. -/
theorem Steps.row_or_owned {state next : State} {label : Label}
    (hsteps : Steps state label next) :
    next.row = state.row ∨ next.Owned allowed := by
  cases hsteps with
  | @applied number outcome event hphase haccepts hout =>
      refine Or.inr ⟨number, event, outcome.phase .redis,
        by simp [State.setPhase], outcome.allowed_phase hredis hfailed,
        Row.carries_updateConnectionStatus haccepts⟩
  | @ignored number outcome event hphase haccepts hout =>
      apply Or.inl
      change state.row.updateConnectionStatus event = state.row
      rw [Row.updateConnectionStatus, haccepts]
      rfl
  | _ => exact Or.inl rfl

/-- The owner is lost only to its own Redis command or its own state event,
where that ends the allowed phases. -/
theorem Steps.owned (hupdate : allowed .update) {state next : State}
    {label : Label} (hsteps : Steps state label next)
    (howned : state.Owned allowed) :
    next.Owned allowed ∨
      (¬ allowed .publish ∧ ∃ event, state.RunsRedis label event) ∨
      (allowed .publish ∧ ∃ event, state.RunsPublish label event) := by
  rcases hsteps.row_or_owned hredis hfailed with hrow | hnext
  case inr => exact Or.inl hnext
  cases hsteps with
  | deliver event hfresh =>
      refine Or.inl (howned.setPhase (fun held current hslot _ _ => ?_) rfl rfl)
      cases hfresh.symm.trans hslot
  | @applied number outcome event hphase haccepts hout =>
      refine Or.inl (howned.setPhase (fun held current hslot _ _ => ?_) hrow
        rfl)
      cases hphase.symm.trans hslot
      exact ⟨rfl, outcome.allowed_phase hredis hfailed⟩
  | ignored hphase haccepts hout =>
      refine Or.inl (howned.setPhase (fun held current hslot _ hcarries => ?_)
        hrow rfl)
      cases hphase.symm.trans hslot
      rw [hcarries.accepts] at haccepts
      cases haccepts
  | @redisDone number outcome event hphase hout =>
      by_cases hpublish : allowed .publish
      · refine Or.inl (howned.setPhase (fun held current hslot _ _ => ?_) rfl
          rfl)
        cases hphase.symm.trans hslot
        exact ⟨rfl, outcome.allowed_phase hpublish hfailed⟩
      · exact Or.inr (Or.inl ⟨hpublish, event, number, outcome, rfl,
          hout, hphase⟩)
  | @published number outcome event hphase hout =>
      by_cases hpublish : allowed .publish
      · exact Or.inr (Or.inr ⟨hpublish, event, number, outcome, rfl,
          hout, hphase⟩)
      · refine Or.inl (howned.setPhase
          (fun held current hslot hcurrent _ => ?_) rfl rfl)
        cases hphase.symm.trans hslot
        exact absurd hcurrent hpublish
  | failed label _ hphase hopen hnot =>
      refine Or.inl (howned.setPhase (fun held current hslot _ _ => ?_) rfl rfl)
      cases hphase.symm.trans hslot
      exact ⟨rfl, hfailed⟩
  | again hphase =>
      refine Or.inl (howned.setPhase (fun held current hslot _ _ => ?_) rfl rfl)
      cases hphase.symm.trans hslot
      exact ⟨rfl, hupdate⟩

end Owners

def Phase.Unacked (phase : Phase) : Prop := phase ≠ .acked

/-- Once all is acknowledged, the last state event shows the stored status. -/
def State.SubscribersAgree (state : State) : Prop :=
  state.Quiet → (∃ event, state.Delivered event) →
    state.topic.head?.map Event.status = some state.row.connectionStatus

/-- A state event is written only while its status is the stored one. -/
def State.PublishesCurrent (state : State) (label : Label) : Prop :=
  ∀ event, state.RunsPublish label event →
    event.status = state.row.connectionStatus

/-- The last state event shows the stored status, or the handling that stored
it has yet to publish, or nothing has been stored. -/
def State.Announced (state : State) : Prop :=
  (state.topic.head?.map Event.status = some state.row.connectionStatus ∨
    state.Owned Phase.Unacked) ∨ state.row.lastSeenAt = none

theorem Steps.announced {state next : State} {label : Label}
    (hsteps : Steps state label next)
    (hcurrent : state.PublishesCurrent label) (hannounced : state.Announced) :
    next.Announced := by
  have hredis : Phase.Unacked .redis := by simp [Phase.Unacked]
  have hupdate : Phase.Unacked .update := by simp [Phase.Unacked]
  have hfailed : Phase.Unacked .failed := by simp [Phase.Unacked]
  have hpublish : Phase.Unacked .publish := by simp [Phase.Unacked]
  rcases hsteps.row_or_owned hredis hfailed with hrow | hnext
  case inr => exact Or.inl (Or.inr hnext)
  rcases hsteps.topic with ⟨htopic, hquiet⟩ | ⟨event, hruns, htopic⟩
  · rcases hannounced with (hshown | howned) | hnone
    · exact Or.inl (Or.inl (by rw [htopic, hrow, hshown]))
    · rcases hsteps.owned hredis hfailed hupdate howned with
        hnext | ⟨hnot, _⟩ | ⟨_, event, hruns⟩
      · exact Or.inl (Or.inr hnext)
      · exact absurd hpublish hnot
      · exact absurd hruns (hquiet event)
    · exact Or.inr (by rw [hrow, hnone])
  · refine Or.inl (Or.inl ?_)
    rw [htopic, hrow, List.head?_cons, Option.map_some, hcurrent event hruns]

/-- Once its UPDATE has been carried out, an event leaves a `last_seen_at`. -/
theorem State.Replayed.lastSeenAt_ne_none {created : Status} {state : State}
    (hreplayed : state.Replayed ⟨created, none⟩) {event : Event}
    (hmem : event ∈ state.updates) : state.row.lastSeenAt ≠ none := by
  obtain ⟨seen, hshows⟩ :=
    Row.replay_showsLatest created (List.ne_nil_of_mem hmem)
  rw [hreplayed.row_eq, hshows.lastSeenAt]
  exact Option.some_ne_none seen

/-- Nobody owns the row of a quiet device. -/
theorem State.Quiet.not_owned {state : State} {allowed : Phase → Prop}
    (hquiet : state.Quiet) (hacked : ¬ allowed .acked) :
    ¬ state.Owned allowed := by
  rintro ⟨number, event, phase, hhandling, hallowed, _⟩
  exact hacked (hquiet number event phase hhandling ▸ hallowed)

/-- Subscribers end up with the stored status in every run whose state events
are written while they are current. -/
theorem subscribers_agree_of_publishes_current {created : Status}
    {state : State}
    (hreach : (system ⟨created, none⟩).ReachableVia State.PublishesCurrent
      state) :
    state.SubscribersAgree := by
  have hannounced : state.Announced := by
    refine hreach.invariant ?_ ?_
    · rintro _ rfl
      exact Or.inr rfl
    · intro state label next hannounced hcurrent hstep
      exact (steps_of_step hstep).announced hcurrent hannounced
  intro hquiet ⟨event, hevent⟩
  rcases hannounced with (hshown | howned) | hnone
  · exact hshown
  · exact absurd howned (hquiet.not_owned fun hne => hne rfl)
  · have hreplayed := reachable_replayed hreach.reachable
    have hmem := (hquiet.mem_updates_iff hreplayed).mpr hevent
    exact absurd hnone (hreplayed.lastSeenAt_ne_none hmem)

/-- One online event from its delivery to its Ack. -/
def singleEvent : List Label :=
  [.deliver 0 ⟨.online, epoch⟩, .update 0 .ok, .redis 0 .ok, .publish 0 .ok]

theorem subscribers_agree_single_event :
    ∃ state,
      (system ⟨.offline, none⟩).run (start ⟨.offline, none⟩) singleEvent =
        some state ∧ state.SubscribersAgree := by
  have halong : (system ⟨.offline, none⟩).Along
      (fun state label _ => state.PublishesCurrent label)
      (start ⟨.offline, none⟩) singleEvent := by
    refine ⟨_, rfl, ?_, _, rfl, ?_, _, rfl, ?_, _, rfl, ?_, trivial⟩
    all_goals
      rintro event ⟨number, outcome, hlabel, _, hphase⟩
      cases hlabel
    cases hphase
    rfl
  exact ⟨_, rfl, subscribers_agree_of_publishes_current
    (System.ReachableVia.of_along (.start rfl) halong rfl)⟩

/-- Two workers: the older online event is stored first and published last. -/
theorem subscribers_disagree_publish_overtaken :
    ∃ state, (system ⟨.offline, none⟩).Reachable state ∧
      ¬ state.SubscribersAgree := by
  have hrun : (system ⟨.offline, none⟩).run (start ⟨.offline, none⟩)
      [.deliver 0 ⟨.online, epoch⟩, .update 0 .ok, .redis 0 .ok,
        .deliver 1 ⟨.offline, epoch + 1000000⟩, .update 1 .ok, .redis 1 .ok,
        .publish 1 .ok, .publish 0 .ok] = some _ := rfl
  have hstart : (system ⟨.offline, none⟩).Reachable (start ⟨.offline, none⟩) :=
    .start rfl
  refine ⟨_, hstart.of_run hrun, fun hagree => ?_⟩
  refine absurd (hagree ?_ ⟨⟨.online, epoch⟩, 0, .acked, rfl⟩) (by decide)
  intro number event phase hhandling
  match number with
  | 0 | 1 =>
      cases hhandling
      rfl
  | number + 2 => cases hhandling

/-- Once all is acknowledged, the key is there exactly for an online device,
and its value is `last_seen_at`. -/
def State.PresenceAgrees (state : State) : Prop :=
  (state.presence.isSome ↔ state.row.connectionStatus = .online) ∧
    ∀ value, state.presence = some value →
      state.row.lastSeenAt.map ofTimestamptz = some value

/-- A SET is carried out only while the row is online at exactly the event's
time, a DEL only while the row is offline. -/
def State.CachesCurrent (state : State) (label : Label) : Prop :=
  ∀ event, state.RunsRedis label event →
    event.status = state.row.connectionStatus ∧
      (event.status = .online →
        state.row.lastSeenAt.map ofTimestamptz = some event.occurredAt)

/-- The phases before the Redis command is known to have succeeded. -/
def Phase.Uncached (phase : Phase) : Prop :=
  phase ≠ .publish ∧ phase ≠ .acked

/-- The key agrees with the row, or the handling that stored the row has yet to
write the key. -/
def State.Cached (state : State) : Prop :=
  state.PresenceAgrees ∨ state.Owned Phase.Uncached

theorem State.presenceAgrees_of_event {state : State} {event : Event}
    (hpresence : state.presence = event.presence)
    (hstatus : event.status = state.row.connectionStatus)
    (htime : event.status = .online →
      state.row.lastSeenAt.map ofTimestamptz = some event.occurredAt) :
    state.PresenceAgrees := by
  rw [State.PresenceAgrees]
  rw [hpresence, ← hstatus]
  rw [Event.presence]
  split
  next honline =>
    refine ⟨by simp [honline], fun value hvalue => ?_⟩
    rw [← hvalue]
    exact htime honline
  next hoffline => simp [hoffline]

theorem Steps.cached {state next : State} {label : Label}
    (hsteps : Steps state label next)
    (hcurrent : state.CachesCurrent label) (hcached : state.Cached) :
    next.Cached := by
  have hredis : Phase.Uncached .redis := by simp [Phase.Uncached]
  have hupdate : Phase.Uncached .update := by simp [Phase.Uncached]
  have hfailed : Phase.Uncached .failed := by simp [Phase.Uncached]
  have hpublish : ¬ Phase.Uncached .publish := by simp [Phase.Uncached]
  rcases hsteps.row_or_owned hredis hfailed with hrow | hnext
  case inr => exact Or.inr hnext
  rcases hsteps.presence with ⟨hpresence, hquiet⟩ | ⟨event, hruns, hpresence⟩
  · rcases hcached with hagrees | howned
    · apply Or.inl
      rw [State.PresenceAgrees]
      rw [hpresence, hrow]
      exact hagrees
    · rcases hsteps.owned hredis hfailed hupdate howned with
        hnext | ⟨_, event, hruns⟩ | ⟨hnot, _⟩
      · exact Or.inr hnext
      · exact absurd hruns (hquiet event)
      · exact absurd hnot hpublish
  · obtain ⟨hstatus, htime⟩ := hcurrent event hruns
    refine Or.inl (State.presenceAgrees_of_event hpresence ?_ ?_)
    · rw [hrow, hstatus]
    · rw [hrow]
      exact htime

/-- Redis presence agrees with Postgres in every run whose Redis commands are
carried out while they are current. -/
theorem presence_agrees_of_caches_current {state : State}
    (hreach : (system ⟨.offline, none⟩).ReachableVia State.CachesCurrent state)
    (hquiet : state.Quiet) : state.PresenceAgrees := by
  have hcached : state.Cached := by
    refine hreach.invariant ?_ ?_
    · rintro _ rfl
      exact Or.inl (by simp [State.PresenceAgrees, start])
    · intro state label next hcached hcurrent hstep
      exact (steps_of_step hstep).cached hcurrent hcached
  rcases hcached with hagrees | howned
  · exact hagrees
  · exact absurd howned (hquiet.not_owned fun huncached => huncached.2 rfl)

theorem presence_agrees_single_event :
    ∃ state,
      (system ⟨.offline, none⟩).run (start ⟨.offline, none⟩) singleEvent =
        some state ∧ state.PresenceAgrees := by
  have halong : (system ⟨.offline, none⟩).Along
      (fun state label _ => state.CachesCurrent label)
      (start ⟨.offline, none⟩) singleEvent := by
    refine ⟨_, rfl, ?_, _, rfl, ?_, _, rfl, ?_, _, rfl, ?_, trivial⟩
    all_goals
      rintro event ⟨number, outcome, hlabel, _, hphase⟩
      cases hlabel
    cases hphase
    decide
  refine ⟨_, rfl, presence_agrees_of_caches_current
    (System.ReachableVia.of_along (.start rfl) halong rfl) ?_⟩
  intro number event phase hhandling
  match number with
  | 0 =>
      cases hhandling
      rfl
  | number + 1 => cases hhandling

/-- Two workers: the older online event is stored first and cached last, so the
key stays behind for an offline device. -/
theorem presence_disagrees_set_overtaken :
    ∃ state, (system ⟨.offline, none⟩).Reachable state ∧ state.Quiet ∧
      ¬ state.PresenceAgrees := by
  have hrun : (system ⟨.offline, none⟩).run (start ⟨.offline, none⟩)
      [.deliver 0 ⟨.online, epoch⟩, .update 0 .ok,
        .deliver 1 ⟨.offline, epoch + 1000000⟩, .update 1 .ok, .redis 1 .ok,
        .redis 0 .ok, .publish 1 .ok, .publish 0 .ok] = some _ := rfl
  have hstart : (system ⟨.offline, none⟩).Reachable (start ⟨.offline, none⟩) :=
    .start rfl
  refine ⟨_, hstart.of_run hrun, ?_, fun hagree => ?_⟩
  · intro number event phase hhandling
    match number with
    | 0 | 1 =>
        cases hhandling
        rfl
    | number + 2 => cases hhandling
  · exact absurd (hagree.1.mp rfl) (by decide)

end Connection

end LinkFlow
