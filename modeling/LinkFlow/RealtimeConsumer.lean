/-
The realtime consumer of the backend: one loop that receives a state event,
broadcasts it through the registry and commits it, whatever the commit answers.
The histories of what was fetched, broadcast and passed to each connection are
kept beside the state.
-/
import LinkFlow.KafkaSource
import LinkFlow.RealtimeRegistry
import LinkFlow.Contracts
import LinkFlow.Lib.HighWater
import Mathlib.Data.Nat.SuccPred

namespace LinkFlow

namespace Realtime

universe v

section Loop

/-- The records of the topic, and the JSON value that the bytes of a record hold
if they hold one. -/
structure Topic (B : Type v) where
  value : Kafka.Message → B
  json? : B → Option Json

/-- The part of `handle` before the broadcast: no tenant where the message is to
be dropped, because its envelope is malformed or names none. -/
def Topic.tenant? {B : Type v} (topic : Topic B) (message : Kafka.Message) :
    Option String :=
  match (topic.json? (topic.value message)).bind Envelope.decode with
  | none => none
  | some envelope =>
      if envelope.tenantID = "" then none else some envelope.tenantID

/-- Where the loop of `Run` is.  A broadcast goes by its number in the hub. -/
inductive ConsumerPhase where
  | receiving
  | handling (message : Kafka.Message)
  | broadcasting (message : Kafka.Message) (number : ℕ)
  | completing (message : Kafka.Message) (completion : Runner.Completion)
  | returned (err : Option String)
deriving Repr, DecidableEq

/-- A message that `handle` has read, and the last calls for the connections at
that time. -/
structure Handled (C : Type u) where
  message : Kafka.Message
  calls : C → Option Call

/-- What was passed to the `Send` of a connection, what its writer has taken and
written, and how many were passed before the first that was not queued. -/
structure Record (B : Type v) where
  sent : List B
  taken : List B
  written : List B
  lost : Option Nat
deriving Repr, DecidableEq

def Record.start (B : Type v) : Record B := ⟨[], [], [], none⟩

/-- The backend as the consumer sees it.  `fetched`, `dropped` and `broadcast`
go over all lives of the process; `base` is where the group stood when the
present one began, and `handled` and `record` belong to it. -/
structure Backend (C : Type u) (B : Type v) where
  group : Kafka.Group
  phase : ConsumerPhase
  hub : Hub C B
  fetched : List Kafka.Message
  dropped : List Kafka.Message
  broadcast : List (Kafka.Message × Broadcast C B)
  base : Nat → Nat
  handled : List (Handled C)
  record : C → Record B

def Backend.start (C : Type u) (B : Type v) (committed : Nat → Nat) :
    Backend C B where
  group := ⟨committed, committed⟩
  phase := .receiving
  hub := Hub.start C B
  fetched := []
  dropped := []
  broadcast := []
  base := committed
  handled := []
  record _ := Record.start B

/-- `carriedOut` says whether the broker has carried out a commit that answered
with an error.  `rejoin` is a new generation of the group in a running process,
and `conns` are the steps of the connections and of the broadcast under way. -/
inductive ConsumerLabel (C : Type u) (B : Type v) where
  | received (message : Kafka.Message)
  | receiveCancelled
  | receiveFailed (err : String)
  | handle (targets : List C)
  | broadcastReturns
  | completed (failure : Option String) (carriedOut : Bool)
  | rejoin
  | restart
  | conns (label : HubLabel C B)

variable {C : Type u} {B : Type v} [DecidableEq C]

/-- `handle`, up to the snapshot of its broadcast. -/
def Backend.handle (topic : Topic B) (backend : Backend C B)
    (message : Kafka.Message) (targets : List C) : Option (Backend C B) :=
  let handled := backend.handled ++ [⟨message, backend.hub.calls⟩]
  match topic.tenant? message with
  | none =>
      some { backend with
        phase := .completing message .drop
        dropped := message :: backend.dropped
        handled := handled }
  | some tenantID =>
      (backend.hub.broadcast tenantID (topic.value message) targets).map
        fun hub =>
          { backend with
            phase := .broadcasting message backend.hub.broadcasts.length
            hub := hub
            handled := handled }

/-- What a step of the connections adds to their records. -/
def Backend.recorded (backend : Backend C B) : HubLabel C B → C → Record B
  | .send number choice =>
      match backend.hub.broadcasts[number]? with
      | none => backend.record
      | some broadcast =>
          match broadcast.targets with
          | [] => backend.record
          | target :: _ =>
              Function.update backend.record target
                { backend.record target with
                  sent := (backend.record target).sent ++ [broadcast.msg]
                  lost :=
                    match choice with
                    | .queued => (backend.record target).lost
                    | _ => (backend.record target).lost.or
                        (some (backend.record target).sent.length) }
  | .loop conn label =>
      Function.update backend.record conn
        { backend.record conn with
          taken := (backend.record conn).taken ++
            takes (backend.hub.sessions conn) label
          written := (backend.record conn).written ++
            writes (backend.hub.sessions conn) label }
  | _ => backend.record

/-- One step of the backend.  Only `handle` begins a broadcast, and its answer
to the completion call is discarded. -/
def Backend.step (topic : Topic B) (capacity : Nat)
    (tenantIDs : C → List String) (backend : Backend C B) :
    ConsumerLabel C B → Option (Backend C B)
  | .received message =>
      match backend.phase with
      | .receiving =>
          (backend.group.fetchMessage message).map fun group =>
            { backend with
              group := group
              phase := .handling message
              fetched := message :: backend.fetched }
      | _ => none
  | .receiveCancelled =>
      match backend.phase with
      | .receiving => some { backend with phase := .returned none }
      | _ => none
  | .receiveFailed err =>
      match backend.phase with
      | .receiving => some { backend with phase := .returned (some err) }
      | _ => none
  | .handle targets =>
      match backend.phase with
      | .handling message => backend.handle topic message targets
      | _ => none
  | .broadcastReturns =>
      match backend.phase with
      | .broadcasting message number =>
          match backend.hub.broadcasts[number]? with
          | none => none
          | some broadcast =>
              broadcast.result?.map fun _ =>
                { backend with
                  phase := .completing message .ack
                  broadcast := (message, broadcast) :: backend.broadcast }
      | _ => none
  | .completed failure carriedOut =>
      match backend.phase with
      | .completing message _ =>
          if failure = none ∧ carriedOut = false then none
          else
            some { backend with
              group :=
                if carriedOut then backend.group.commitMessages message
                else backend.group
              phase := .receiving }
      | _ => none
  | .rejoin => some { backend with group := backend.group.rejoin }
  | .restart =>
      some { backend with
        group := backend.group.rejoin
        phase := .receiving
        hub := Hub.start C B
        base := backend.group.committed
        handled := []
        record := fun _ => Record.start B }
  | .conns (.broadcast _ _ _) => none
  | .conns label =>
      (backend.hub.step capacity tenantIDs label).map fun hub =>
        { backend with hub := hub, record := backend.recorded label }

/-- All runs of the consumer over connections that own the given tenants, in a
group that no other process has joined. -/
def backends (topic : Topic B) (capacity : Nat) (tenantIDs : C → List String) :
    Transition.System (Backend C B) (ConsumerLabel C B) where
  init backend := ∃ committed, backend = Backend.start C B committed
  step := Backend.step topic capacity tenantIDs

/-- The consumer looks at the tenants and the bytes of the records only. -/
theorem backends_congr {first second : Topic B} {capacity : Nat}
    {tenantIDs : C → List String} (htenant : first.tenant? = second.tenant?)
    (hvalue : first.value = second.value) :
    backends first capacity tenantIDs = backends second capacity tenantIDs := by
  have hstep : Backend.step first capacity tenantIDs =
      Backend.step second capacity tenantIDs := by
    funext backend label
    cases label with
    | handle targets =>
        simp only [Backend.step, Backend.handle, htenant, hvalue]
    | conns label => cases label <;> rfl
    | _ => rfl
  simp only [backends, hstep]

end Loop

section Steps

variable {C : Type u} {B : Type v} [DecidableEq C] {topic : Topic B}
  {capacity : Nat} {tenantIDs : C → List String} {hub : Hub C B}

/-- What the select of a `Send` does to the broadcast it belongs to. -/
def Broadcast.sent (broadcast : Broadcast C B) (rest : List C) :
    SendCase → Broadcast C B
  | .queued =>
      { broadcast with
        targets := rest
        delivered := broadcast.delivered + 1 }
  | .closed => { broadcast with targets := rest }
  | .full => { broadcast with closing := SendCase.full.closing }

/-- What a step of the hub other than the beginning of a broadcast can do. -/
inductive Hub.Moves (capacity : Nat) (hub : Hub C B) :
    HubLabel C B → Hub C B → Prop
  | registers {label registry calls}
      (hlabel : (∃ conn, label = .register conn) ∨
        ∃ conn, label = .unregister conn) :
      Hub.Moves capacity hub label
        { hub with registry := registry, calls := calls }
  | sends {number : ℕ} {choice : SendCase} {broadcast : Broadcast C B}
      {target : C} {rest : List C} {conn : Conn B} {queued : List (ℕ × C)}
      (hget : hub.broadcasts[number]? = some broadcast)
      (hclosing : broadcast.closing = none)
      (htargets : broadcast.targets = target :: rest)
      (hsend : (hub.sessions target).conn.send capacity broadcast.msg choice =
        some conn) :
      Hub.Moves capacity hub (.send number choice)
        { hub with
          sessions := Function.update hub.sessions target
            { hub.sessions target with conn := conn }
          broadcasts := hub.broadcasts.set number (broadcast.sent rest choice)
          queued := queued }
  | closes {number : ℕ} {broadcast : Broadcast C B} {call : Closing}
      {target : C} {rest : List C} {conn : Conn B} {left : Option Closing}
      (hget : hub.broadcasts[number]? = some broadcast)
      (hclosing : broadcast.closing = some call)
      (htargets : broadcast.targets = target :: rest)
      (hclose : closeWithReason (hub.sessions target).conn call =
        some (conn, left)) :
      Hub.Moves capacity hub (.sendCloses number)
        { hub with
          sessions := Function.update hub.sessions target
            { hub.sessions target with conn := conn }
          broadcasts := hub.broadcasts.set number
            { broadcast with
              closing := left
              targets := if left.isNone then rest else target :: rest } }
  | loops {conn : C} {label : LoopLabel} {session : Session B}
      (hloop : (hub.sessions conn).step label = some session) :
      Hub.Moves capacity hub (.loop conn label)
        { hub with sessions := Function.update hub.sessions conn session }

theorem Hub.moves_of_step {next : Hub C B} {label : HubLabel C B}
    (hbroadcast : ∀ tenantID msg targets,
      label ≠ .broadcast tenantID msg targets)
    (hstep : hub.step capacity tenantIDs label = some next) :
    hub.Moves capacity label next := by
  cases label with
  | register conn =>
      cases conn <;> cases hstep
      · exact .registers (Or.inl ⟨_, rfl⟩)
      · exact .registers (Or.inl ⟨_, rfl⟩)
  | unregister conn =>
      cases conn <;> cases hstep
      · exact .registers (Or.inr ⟨_, rfl⟩)
      · exact .registers (Or.inr ⟨_, rfl⟩)
  | broadcast tenantID msg targets => exact absurd rfl (hbroadcast _ _ _)
  | send number choice =>
      simp only [Hub.step, Hub.send] at hstep
      split at hstep
      · cases hstep
      next broadcast hget =>
        split at hstep
        next target rest hclosing htargets =>
          obtain ⟨conn, hsend, rfl⟩ := Option.map_eq_some_iff.mp hstep
          cases choice with
          | queued => exact .sends hget hclosing htargets hsend
          | closed => exact .sends hget hclosing htargets hsend
          | full => exact .sends hget hclosing htargets hsend
        next => cases hstep
  | sendCloses number =>
      simp only [Hub.step, Hub.sendCloses] at hstep
      split at hstep
      · cases hstep
      next broadcast hget =>
        split at hstep
        next call target rest hclosing htargets =>
          obtain ⟨⟨conn, left⟩, hclose, rfl⟩ := Option.map_eq_some_iff.mp hstep
          exact .closes hget hclosing htargets hclose
        next => cases hstep
  | loop conn label =>
      simp only [Hub.step] at hstep
      obtain ⟨session, hloop, rfl⟩ := Option.map_eq_some_iff.mp hstep
      exact .loops hloop

/-- What a step can do: one constructor for each kind of step. -/
inductive Consumes (topic : Topic B) (capacity : Nat)
    (tenantIDs : C → List String) (backend : Backend C B) :
    ConsumerLabel C B → Backend C B → Prop
  | received {message : Kafka.Message} (hphase : backend.phase = .receiving)
      (hturn : message.offset = backend.group.position message.partition) :
      Consumes topic capacity tenantIDs backend (.received message)
        { backend with
          group := { backend.group with
            position := Function.update backend.group.position
              message.partition (message.offset + 1) }
          phase := .handling message
          fetched := message :: backend.fetched }
  | returns {label} (err : Option String)
      (hphase : backend.phase = .receiving) :
      Consumes topic capacity tenantIDs backend label
        { backend with phase := .returned err }
  | drops {message : Kafka.Message} {targets : List C}
      (hphase : backend.phase = .handling message)
      (htenant : topic.tenant? message = none) :
      Consumes topic capacity tenantIDs backend (.handle targets)
        { backend with
          phase := .completing message .drop
          dropped := message :: backend.dropped
          handled := backend.handled ++ [⟨message, backend.hub.calls⟩] }
  | begins {message : Kafka.Message} {targets : List C} {tenantID : String}
      {hub : Hub C B} (hphase : backend.phase = .handling message)
      (htenant : topic.tenant? message = some tenantID)
      (hhub : backend.hub.broadcast tenantID (topic.value message) targets =
        some hub) :
      Consumes topic capacity tenantIDs backend (.handle targets)
        { backend with
          phase := .broadcasting message backend.hub.broadcasts.length
          hub := hub
          handled := backend.handled ++ [⟨message, backend.hub.calls⟩] }
  | ends {message : Kafka.Message} {number : ℕ} {broadcast : Broadcast C B}
      (hphase : backend.phase = .broadcasting message number)
      (hget : backend.hub.broadcasts[number]? = some broadcast)
      (hdone : broadcast.targets = []) :
      Consumes topic capacity tenantIDs backend .broadcastReturns
        { backend with
          phase := .completing message .ack
          broadcast := (message, broadcast) :: backend.broadcast }
  | commits {message : Kafka.Message} {completion : Runner.Completion}
      {failure : Option String}
      (hphase : backend.phase = .completing message completion) :
      Consumes topic capacity tenantIDs backend (.completed failure true)
        { backend with
          group := backend.group.commitMessages message
          phase := .receiving }
  | fails {message : Kafka.Message} {completion : Runner.Completion}
      {failure : Option String}
      (hphase : backend.phase = .completing message completion) :
      Consumes topic capacity tenantIDs backend (.completed failure false)
        { backend with phase := .receiving }
  | rejoin :
      Consumes topic capacity tenantIDs backend .rejoin
        { backend with group := backend.group.rejoin }
  | restart :
      Consumes topic capacity tenantIDs backend .restart
        { backend with
          group := backend.group.rejoin
          phase := .receiving
          hub := Hub.start C B
          base := backend.group.committed
          handled := []
          record := fun _ => Record.start B }
  | conns {label : HubLabel C B} {hub : Hub C B}
      (hhub : backend.hub.step capacity tenantIDs label = some hub)
      (hmoves : backend.hub.Moves capacity label hub) :
      Consumes topic capacity tenantIDs backend (.conns label)
        { backend with hub := hub, record := backend.recorded label }

theorem consumes_of_step {backend next : Backend C B}
    {label : ConsumerLabel C B}
    (hstep : backend.step topic capacity tenantIDs label = some next) :
    Consumes topic capacity tenantIDs backend label next := by
  cases label with
  | received message =>
      simp only [Backend.step] at hstep
      split at hstep
      · obtain ⟨group, hgroup, rfl⟩ := Option.map_eq_some_iff.mp hstep
        rw [Kafka.Group.fetchMessage] at hgroup
        split at hgroup <;> cases hgroup
        next hphase hturn => exact .received hphase hturn
      · cases hstep
  | receiveCancelled | receiveFailed err =>
      simp only [Backend.step] at hstep
      split at hstep <;> cases hstep
      next hphase => exact .returns _ hphase
  | handle targets =>
      simp only [Backend.step] at hstep
      split at hstep
      next message hphase =>
        rw [Backend.handle] at hstep
        cases htenant : topic.tenant? message with
        | none =>
            rw [htenant] at hstep
            cases hstep
            exact .drops hphase htenant
        | some tenantID =>
            rw [htenant] at hstep
            obtain ⟨hub, hhub, rfl⟩ := Option.map_eq_some_iff.mp hstep
            exact .begins hphase htenant hhub
      next => cases hstep
  | broadcastReturns =>
      simp only [Backend.step] at hstep
      split at hstep
      next message number hphase =>
        split at hstep
        · cases hstep
        next broadcast hget =>
          obtain ⟨result, hresult, rfl⟩ := Option.map_eq_some_iff.mp hstep
          rw [Broadcast.result?] at hresult
          split at hresult <;> cases hresult
          next hdone => exact .ends hphase hget hdone
      next => cases hstep
  | completed failure carriedOut =>
      simp only [Backend.step] at hstep
      split at hstep
      next message completion hphase =>
        split at hstep <;> cases hstep
        cases carriedOut with
        | true => exact .commits hphase
        | false => exact .fails hphase
      next => cases hstep
  | rejoin =>
      cases hstep
      exact .rejoin
  | restart =>
      cases hstep
      exact .restart
  | conns label =>
      cases label with
      | broadcast tenantID msg targets => cases hstep
      | _ =>
          obtain ⟨hub, hhub, rfl⟩ := Option.map_eq_some_iff.mp hstep
          exact .conns hhub
            (Hub.moves_of_step (fun _ _ _ hlabel => by cases hlabel) hhub)

/-- The hub under the consumer is a hub of connections and broadcasts. -/
theorem hub_reachable {guard : Backend C B → ConsumerLabel C B → Prop}
    {backend : Backend C B}
    (hreach : (backends topic capacity tenantIDs).ReachableVia guard backend) :
    (hubs B capacity tenantIDs).Reachable backend.hub := by
  induction hreach with
  | start hinit =>
      obtain ⟨committed, rfl⟩ := hinit
      exact .start rfl
  | @next backend _ label _ _ hstep ih =>
      cases consumes_of_step hstep with
      | @begins message targets tenantID hub hphase htenant hhub =>
          have hbroadcast : (hubs B capacity tenantIDs).step backend.hub
              (.broadcast tenantID (topic.value message) targets) = some hub :=
            hhub
          exact ih.next hbroadcast
      | restart => exact .start rfl
      | conns hhub hmoves => exact ih.next hhub
      | _ => exact ih

end Steps

section Commits

variable {C : Type u} {B : Type v} {topic : Topic B}
  {capacity : Nat} {tenantIDs : C → List String}

/-- The message in the hands of the loop that is neither broadcast nor dropped
yet. -/
def ConsumerPhase.open? : ConsumerPhase → Option Kafka.Message
  | .handling message | .broadcasting message _ => some message
  | _ => none

/-- The message in the hands of the loop. -/
def ConsumerPhase.message? : ConsumerPhase → Option Kafka.Message
  | .handling message | .broadcasting message _ | .completing message _ =>
      some message
  | _ => none

/-- A dropped message names no tenant; one that was broadcast went to its own
tenant as it is, until every target had its turn. -/
def Backend.Served (topic : Topic B) (backend : Backend C B)
    (message : Kafka.Message) : Prop :=
  topic.tenant? message = none ∧ message ∈ backend.dropped ∨
    ∃ broadcast, (message, broadcast) ∈ backend.broadcast ∧
      topic.tenant? message = some broadcast.tenantID ∧
      broadcast.msg = topic.value message ∧ broadcast.targets = []

/-- The offsets of a partition that were fetched, and those that were served. -/
def Backend.issued (backend : Backend C B) (partition : Nat) : Set Nat :=
  {offset | ⟨partition, offset⟩ ∈ backend.fetched}

def Backend.done (topic : Topic B) (backend : Backend C B) (partition : Nat) :
    Set Nat :=
  {offset | backend.Served topic ⟨partition, offset⟩}

/-- The broadcast under way is that of the message in hand. -/
def Backend.Pending (topic : Topic B) (backend : Backend C B) : Prop :=
  ∀ message number, backend.phase = .broadcasting message number →
    ∀ broadcast, backend.hub.broadcasts[number]? = some broadcast →
      topic.tenant? message = some broadcast.tenantID ∧
        broadcast.msg = topic.value message

/-- Between the committed offset and the position, whichever is first, and from
the committed offset up to any fetched message everything was fetched. -/
structure Backend.Unbroken (backend : Backend C B) : Prop where
  ahead : ∀ partition offset, backend.group.committed partition ≤ offset →
    offset < backend.group.position partition →
      ⟨partition, offset⟩ ∈ backend.fetched
  behind : ∀ partition offset, backend.group.position partition ≤ offset →
    offset < backend.group.committed partition →
      ⟨partition, offset⟩ ∈ backend.fetched
  upTo : ∀ message ∈ backend.fetched, ∀ offset,
    backend.group.committed message.partition ≤ offset →
      offset ≤ message.offset →
        ⟨message.partition, offset⟩ ∈ backend.fetched
  held : ∀ message, backend.phase.message? = some message →
    message ∈ backend.fetched

/-- The committed offsets are truthful, everything fetched below the position is
served apart from what the loop has open, and everything fetched before what it
has in hand is served. -/
structure Backend.Sound (topic : Topic B) (backend : Backend C B) : Prop where
  unbroken : backend.Unbroken
  pending : backend.Pending topic
  truthful : ∀ partition, HighWater.Truthful
    (backend.group.committed partition) (backend.issued partition)
    (backend.done topic partition)
  passed : ∀ message ∈ backend.fetched,
    message.offset < backend.group.position message.partition →
      backend.phase.open? ≠ some message → backend.Served topic message
  before : ∀ current, backend.phase.message? = some current →
    ∀ message ∈ backend.fetched, message.partition = current.partition →
      message.offset < current.offset → backend.Served topic message
  closed : ∀ message completion,
    backend.phase = .completing message completion →
      backend.Served topic message

variable {backend next : Backend C B} {message : Kafka.Message}

theorem tenant?_ne_empty {tenantID : String}
    (htenant : topic.tenant? message = some tenantID) : tenantID ≠ "" := by
  rw [Topic.tenant?] at htenant
  split at htenant
  · cases htenant
  · split at htenant <;> cases htenant
    assumption

/-- What was served stays served. -/
theorem Backend.Served.mono (hserved : backend.Served topic message)
    (hdropped : backend.dropped ⊆ next.dropped)
    (hbroadcast : backend.broadcast ⊆ next.broadcast) :
    next.Served topic message := by
  rcases hserved with ⟨htenant, hmem⟩ | ⟨broadcast, hmem, hrest⟩
  · exact Or.inl ⟨htenant, hdropped hmem⟩
  · exact Or.inr ⟨broadcast, hbroadcast hmem, hrest⟩

/-- A step that fetches and commits nothing, in a phase that knows no more than
the one before. -/
theorem Backend.Sound.quiet (hsound : backend.Sound topic)
    (hgroup : next.group = backend.group)
    (hfetched : next.fetched = backend.fetched)
    (hdropped : backend.dropped ⊆ next.dropped)
    (hbroadcast : backend.broadcast ⊆ next.broadcast)
    (hpending : next.Pending topic)
    (hmessage : ∀ message, next.phase.message? = some message →
      backend.phase.message? = some message)
    (hopen : ∀ message, backend.phase.open? = some message →
      next.phase.open? = some message ∨ next.Served topic message)
    (hclosed : ∀ message completion,
      next.phase = .completing message completion →
        next.Served topic message) : next.Sound topic where
  unbroken :=
    { ahead := by
        rw [hgroup, hfetched]
        exact hsound.unbroken.ahead
      behind := by
        rw [hgroup, hfetched]
        exact hsound.unbroken.behind
      upTo := by
        rw [hgroup, hfetched]
        exact hsound.unbroken.upTo
      held := by
        rw [hfetched]
        exact fun message hheld =>
          hsound.unbroken.held message (hmessage message hheld) }
  pending := hpending
  truthful := by
    intro partition
    rw [hgroup]
    have hissued : next.issued partition = backend.issued partition := by
      unfold Backend.issued
      rw [hfetched]
    rw [hissued]
    exact (hsound.truthful partition).mono_done fun offset hdone =>
      Served.mono hdone hdropped hbroadcast
  passed := by
    rw [hgroup, hfetched]
    intro message hmem hbelow hnot
    by_cases hheld : backend.phase.open? = some message
    · rcases hopen message hheld with hstill | hserved
      · exact absurd hstill hnot
      · exact hserved
    · exact (hsound.passed message hmem hbelow hheld).mono hdropped hbroadcast
  before := by
    rw [hfetched]
    intro current hcurrent message hmem hpartition hearlier
    exact (hsound.before current (hmessage current hcurrent) message hmem
      hpartition hearlier).mono hdropped hbroadcast
  closed := hclosed

theorem Backend.Sound.received (hsound : backend.Sound topic)
    (hphase : backend.phase = .receiving)
    (hturn : message.offset = backend.group.position message.partition) :
    Backend.Sound topic { backend with
      group := { backend.group with
        position := Function.update backend.group.position message.partition
          (message.offset + 1) }
      phase := .handling message
      fetched := message :: backend.fetched } := by
  -- the loop had nothing in hand, so all that was fetched before is served
  have hbefore : ∀ earlier ∈ backend.fetched,
      earlier.partition = message.partition → earlier.offset < message.offset →
        backend.Served topic earlier := by
    intro earlier hmem hpartition hearlier
    refine hsound.passed earlier hmem ?_ ?_
    · rw [hpartition, ← hturn]
      exact hearlier
    · rw [hphase]
      exact fun hopen => by cases hopen
  refine ⟨⟨?_, ?_, ?_, ?_⟩, ?_, ?_, ?_, ?_, ?_⟩
  · intro partition offset habove hbelow
    by_cases hsame : partition = message.partition
    · subst hsame
      simp only [Function.update_self] at hbelow
      rcases (Nat.lt_succ_iff.mp hbelow).lt_or_eq with hlt | rfl
      · rw [hturn] at hlt
        exact List.mem_cons_of_mem _ (hsound.unbroken.ahead _ _ habove hlt)
      · exact List.mem_cons_self
    · simp only [Function.update_of_ne hsame] at hbelow
      exact List.mem_cons_of_mem _
        (hsound.unbroken.ahead partition offset habove hbelow)
  · intro partition offset habove hbelow
    apply List.mem_cons_of_mem
    apply hsound.unbroken.behind partition offset _ hbelow
    by_cases hsame : partition = message.partition
    · subst hsame
      simp only [Function.update_self] at habove
      omega
    · simpa only [Function.update_of_ne hsame] using habove
  · intro earlier hmem offset habove hle
    rcases List.mem_cons.mp hmem with rfl | hold
    · rcases hle.lt_or_eq with hlt | rfl
      · rw [hturn] at hlt
        exact List.mem_cons_of_mem _ (hsound.unbroken.ahead _ _ habove hlt)
      · exact List.mem_cons_self
    · exact List.mem_cons_of_mem _
        (hsound.unbroken.upTo earlier hold offset habove hle)
  · intro held hheld
    cases hheld
    exact List.mem_cons_self
  · intro held number hheld
    cases hheld
  · intro partition offset hissued hbelow
    -- a position below the mark is one that is read again
    rcases List.mem_cons.mp hissued with hnew | hold
    · apply hsound.truthful partition offset _ hbelow
      apply hsound.unbroken.behind partition offset _ hbelow
      cases hnew
      exact hturn.ge
    · exact hsound.truthful partition offset hold hbelow
  · intro earlier hmem hbelow hnot
    have hne : earlier ≠ message := fun hsame => hnot (hsame ▸ rfl)
    have hold := (List.mem_cons.mp hmem).resolve_left hne
    by_cases hsame : earlier.partition = message.partition
    · rw [hsame] at hbelow
      simp only [Function.update_self] at hbelow
      apply hbefore earlier hold hsame
      apply (Nat.lt_succ_iff.mp hbelow).lt_of_ne
      intro hoffset
      exact hne (by
        obtain ⟨partition, offset⟩ := earlier
        obtain ⟨_, _⟩ := message
        cases hsame
        cases hoffset
        rfl)
    · simp only [Function.update_of_ne hsame] at hbelow
      refine hsound.passed earlier hold hbelow ?_
      rw [hphase]
      exact fun hopen => by cases hopen
  · intro current hcurrent earlier hmem hpartition hearlier
    cases hcurrent
    rcases List.mem_cons.mp hmem with rfl | hold
    · exact absurd hearlier (lt_irrefl _)
    · exact hbefore earlier hold hpartition hearlier
  · intro held completion hheld
    cases hheld

/-- A commit raises the mark past a message before which everything fetched is
served. -/
theorem Backend.Sound.commits (hsound : backend.Sound topic)
    {completion : Runner.Completion}
    (hphase : backend.phase = .completing message completion) :
    Backend.Sound topic { backend with
      group := backend.group.commitMessages message
      phase := .receiving } := by
  have hheld : backend.phase.message? = some message := by
    rw [hphase]
    rfl
  have hmem := hsound.unbroken.held message hheld
  have hserved := hsound.closed message completion hphase
  refine ⟨⟨?_, ?_, ?_, ?_⟩, ?_, ?_, ?_, ?_, ?_⟩
  · intro partition offset habove hbelow
    refine hsound.unbroken.ahead partition offset ?_ hbelow
    simp only [Kafka.Group.commitMessages] at habove
    by_cases hsame : partition = message.partition
    · subst hsame
      simp only [Function.update_self] at habove
      omega
    · simpa only [Function.update_of_ne hsame] using habove
  · intro partition offset habove hbelow
    simp only [Kafka.Group.commitMessages] at hbelow
    by_cases hsame : partition = message.partition
    · subst hsame
      simp only [Function.update_self] at hbelow
      by_cases hold : offset < backend.group.committed message.partition
      · exact hsound.unbroken.behind _ offset habove hold
      · exact hsound.unbroken.upTo message hmem offset (by omega) (by omega)
    · simp only [Function.update_of_ne hsame] at hbelow
      exact hsound.unbroken.behind partition offset habove hbelow
  · intro earlier hearlier offset habove hle
    refine hsound.unbroken.upTo earlier hearlier offset ?_ hle
    simp only [Kafka.Group.commitMessages] at habove
    by_cases hsame : earlier.partition = message.partition
    · rw [hsame] at habove ⊢
      simp only [Function.update_self] at habove
      omega
    · simpa only [Function.update_of_ne hsame] using habove
  · intro held hnone
    cases hnone
  · intro held number hnone
    cases hnone
  · intro partition
    by_cases hsame : partition = message.partition
    · subst hsame
      simp only [Kafka.Group.commitMessages, Function.update_self]
      have hdone : insert message.offset
          (backend.done topic message.partition) =
          backend.done topic message.partition :=
        Set.insert_eq_of_mem hserved
      have hraised := (HighWater.truthful_raise_iff
        (hsound.truthful message.partition)).mpr fun earlier hissued hearlier =>
          hsound.before message hheld ⟨message.partition, earlier⟩ hissued rfl
            hearlier
      rw [hdone] at hraised
      exact hraised
    · simp only [Kafka.Group.commitMessages, Function.update_of_ne hsame]
      exact hsound.truthful partition
  · intro earlier hearlier hbelow hnot
    apply hsound.passed earlier hearlier hbelow
    rw [hphase]
    exact fun hopen => by cases hopen
  · intro current hnone
    cases hnone
  · intro held completion hnone
    cases hnone

/-- The positions go back to the committed offsets. -/
theorem Backend.Sound.rejoin (hsound : backend.Sound topic) :
    Backend.Sound topic { backend with group := backend.group.rejoin } := by
  refine ⟨⟨?_, ?_, hsound.unbroken.upTo, hsound.unbroken.held⟩, hsound.pending,
    hsound.truthful, ?_, hsound.before, hsound.closed⟩
  · intro partition offset habove hbelow
    exact absurd hbelow (not_lt.mpr habove)
  · intro partition offset habove hbelow
    exact absurd hbelow (not_lt.mpr habove)
  · intro message hmem hbelow hnot
    exact hsound.truthful message.partition message.offset hmem hbelow

variable [DecidableEq C]

theorem Hub.Moves.broadcasts {hub next : Hub C B} {label : HubLabel C B}
    (hmoves : hub.Moves capacity label next) {number : ℕ}
    {moved : Broadcast C B} (hget : next.broadcasts[number]? = some moved) :
    ∃ broadcast, hub.broadcasts[number]? = some broadcast ∧
      moved.tenantID = broadcast.tenantID ∧ moved.msg = broadcast.msg ∧
      (moved.targets ≠ [] → broadcast.targets ≠ []) := by
  cases hmoves with
  | registers hlabel => exact ⟨moved, hget, rfl, rfl, id⟩
  | loops hloop => exact ⟨moved, hget, rfl, rfl, id⟩
  | @sends other choice broadcast target rest conn queued hother hclosing
      htargets hsend =>
      simp only [List.getElem?_set] at hget
      split at hget
      next hsame =>
        split at hget <;> cases hget
        have hsome : broadcast.targets ≠ [] := by
          rw [htargets]
          exact List.cons_ne_nil _ _
        refine ⟨broadcast, hsame ▸ hother, ?_⟩
        cases choice <;> exact ⟨rfl, rfl, fun _ => hsome⟩
      next => exact ⟨moved, hget, rfl, rfl, id⟩
  | @closes other broadcast call target rest conn left hother hclosing htargets
      hclose =>
      simp only [List.getElem?_set] at hget
      split at hget
      next hsame =>
        split at hget <;> cases hget
        have hsome : broadcast.targets ≠ [] := by
          rw [htargets]
          exact List.cons_ne_nil _ _
        exact ⟨broadcast, hsame ▸ hother, rfl, rfl, fun _ => hsome⟩
      next => exact ⟨moved, hget, rfl, rfl, id⟩

theorem Hub.broadcast_broadcasts {hub next : Hub C B} {tenantID : String}
    {msg : B} {targets : List C}
    (hbroadcast : hub.broadcast tenantID msg targets = some next) :
    ∃ made : List C, next = { hub with
      broadcasts := hub.broadcasts ++
        [{ tenantID := tenantID
           msg := msg
           targets := made
           closing := none
           delivered := 0
           calls := hub.calls }] } ∧
      (tenantID ≠ "" → made.toFinset = hub.registry.conns tenantID) := by
  simp only [Hub.broadcast] at hbroadcast
  split at hbroadcast
  · cases hbroadcast
    exact ⟨[], rfl, fun hne => absurd ‹_› hne⟩
  · split at hbroadcast <;> cases hbroadcast
    next htargets => exact ⟨targets, rfl, fun _ => htargets.2⟩

theorem Backend.Sound.step (hsound : backend.Sound topic)
    {label : ConsumerLabel C B}
    (hconsumes : Consumes topic capacity tenantIDs backend label next) :
    next.Sound topic := by
  have hkept : ∀ entry ∈ backend.broadcast, entry ∈ backend.broadcast :=
    fun entry hmem => hmem
  cases hconsumes with
  | received hphase hturn => exact hsound.received hphase hturn
  | returns err hphase =>
      refine hsound.quiet rfl rfl (List.Subset.refl _) hkept ?_ ?_ ?_ ?_
      · intro message number hnone
        cases hnone
      · intro message hnone
        cases hnone
      · intro message hopen
        rw [hphase] at hopen
        cases hopen
      · intro message completion hnone
        cases hnone
  | @drops message targets hphase htenant =>
      have hserved : Backend.Served topic { backend with
          phase := .completing message .drop
          dropped := message :: backend.dropped
          handled := backend.handled ++ [⟨message, backend.hub.calls⟩] }
          message := Or.inl ⟨htenant, List.mem_cons_self⟩
      refine hsound.quiet rfl rfl (List.subset_cons_self _ _) hkept ?_ ?_ ?_ ?_
      · intro held number hnone
        cases hnone
      · intro held hheld
        cases hheld
        rw [hphase]
        rfl
      · intro held hopen
        rw [hphase] at hopen
        cases hopen
        exact Or.inr hserved
      · intro held completion hheld
        cases hheld
        exact hserved
  | @begins message targets tenantID hub hphase htenant hhub =>
      obtain ⟨made, rfl, -⟩ := Hub.broadcast_broadcasts hhub
      refine hsound.quiet rfl rfl (List.Subset.refl _) hkept ?_ ?_ ?_ ?_
      · intro held number hheld broadcast hget
        cases hheld
        simp only [List.getElem?_concat_length, Option.some.injEq] at hget
        subst hget
        exact ⟨htenant, rfl⟩
      · intro held hheld
        cases hheld
        rw [hphase]
        rfl
      · intro held hopen
        rw [hphase] at hopen
        exact Or.inl hopen
      · intro held completion hnone
        cases hnone
  | @ends message number broadcast hphase hget hdone =>
      obtain ⟨htenant, hmsg⟩ :=
        hsound.pending message number hphase broadcast hget
      have hserved : Backend.Served topic { backend with
          phase := .completing message .ack
          broadcast := (message, broadcast) :: backend.broadcast } message :=
        Or.inr ⟨broadcast, List.mem_cons_self, htenant, hmsg, hdone⟩
      refine hsound.quiet rfl rfl (List.Subset.refl _)
        (List.subset_cons_self _ _) ?_ ?_ ?_ ?_
      · intro held number hnone
        cases hnone
      · intro held hheld
        cases hheld
        rw [hphase]
        rfl
      · intro held hopen
        rw [hphase] at hopen
        cases hopen
        exact Or.inr hserved
      · intro held completion hheld
        cases hheld
        exact hserved
  | commits hphase => exact hsound.commits hphase
  | fails hphase =>
      refine hsound.quiet rfl rfl (List.Subset.refl _) hkept ?_ ?_ ?_ ?_
      · intro held number hnone
        cases hnone
      · intro held hnone
        cases hnone
      · intro held hopen
        rw [hphase] at hopen
        cases hopen
      · intro held completion hnone
        cases hnone
  | rejoin => exact hsound.rejoin
  | restart =>
      refine ⟨⟨hsound.rejoin.unbroken.ahead, hsound.rejoin.unbroken.behind,
        hsound.unbroken.upTo, ?_⟩, ?_, hsound.truthful, ?_, ?_, ?_⟩
      · intro held hnone
        cases hnone
      · intro held number hnone
        cases hnone
      · intro message hmem hbelow hnot
        exact hsound.truthful message.partition message.offset hmem hbelow
      · intro current hnone
        cases hnone
      · intro held completion hnone
        cases hnone
  | @conns label hub hhub hmoves =>
      refine hsound.quiet rfl rfl (List.Subset.refl _) hkept ?_
        (fun _ hheld => hheld) (fun _ hopen => Or.inl hopen) hsound.closed
      intro message number hphase moved hget
      obtain ⟨broadcast, hold, htenantID, hmsg, -⟩ := hmoves.broadcasts hget
      rw [htenantID, hmsg]
      exact hsound.pending message number hphase broadcast hold

theorem sound_of_reachable
    (hreach : (backends topic capacity tenantIDs).Reachable backend) :
    backend.Sound topic := by
  induction hreach with
  | start hinit =>
      obtain ⟨committed, rfl⟩ := hinit
      refine ⟨⟨?_, ?_, ?_, ?_⟩, ?_, ?_, ?_, ?_, ?_⟩
      · intro partition offset habove hbelow
        exact absurd hbelow (not_lt.mpr habove)
      · intro partition offset habove hbelow
        exact absurd hbelow (not_lt.mpr habove)
      · simp [Backend.start]
      · intro held hnone
        cases hnone
      · intro held number hnone
        cases hnone
      · intro partition offset hissued
        cases hissued
      · simp [Backend.start]
      · intro current hnone
        cases hnone
      · intro held completion hnone
        cases hnone
  | next _ _ hstep ih => exact ih.step (consumes_of_step hstep)

/-- In every run of the consumer, with commits that fail, stops in any state and
rejoins of the group, each fetched message below the committed offset was
dropped because it names no tenant, or was broadcast to its tenant as it is,
until every connection of the snapshot had its turn. -/
theorem state_events_served_before_commit
    (hreach : (backends topic capacity tenantIDs).Reachable backend) :
    ∀ message ∈ backend.fetched,
      message.offset < backend.group.committed message.partition →
        backend.Served topic message :=
  fun message hmem hbelow =>
    (sound_of_reachable hreach).truthful message.partition message.offset hmem
      hbelow

end Commits

section Sample

/-- The record of an event that names only its tenant. -/
def tenantRecord (tenantID : String) : String :=
  "\x7b\"tenant_id\":\"" ++ tenantID ++ "\"\x7d"

/-- An event of the tenant b, a malformed record, then events of the tenant
a. -/
def sampleTopic : Topic String where
  value message :=
    match message.offset with
    | 0 => tenantRecord "b"
    | 1 => "oops"
    | _ => tenantRecord "a"
  json? text :=
    if text = tenantRecord "a" then some (.obj [("tenant_id", .str "a")])
    else if text = tenantRecord "b" then some (.obj [("tenant_id", .str "b")])
    else none

/-- The commit of the first event fails and the group is rejoined, so that it is
broadcast again; the connection 1 has left by then. -/
def rejoiningRun : List (ConsumerLabel (Fin 2) String) :=
  let first : Fin 2 := Fin.castSucc (Fin.last 0)
  let second : Fin 2 := Fin.last 1
  [.conns (.register (some first)), .conns (.register (some second)),
    .received ⟨0, 0⟩, .handle [second, first], .conns (.send 0 .queued),
    .conns (.send 0 .queued), .broadcastReturns,
    .completed (some "timeout") false, .rejoin,
    .conns (.unregister (some second)), .received ⟨0, 0⟩, .handle [first],
    .conns (.send 1 .queued), .broadcastReturns, .completed none true,
    .received ⟨0, 1⟩, .handle [], .completed none true, .received ⟨0, 2⟩,
    .handle [first], .conns (.loop first .writerTakes),
    .conns (.loop first (.writeReturns true))]

def rejoined : Option (Backend (Fin 2) String) :=
  (backends sampleTopic defaultWriteBuffer twoOwners).run
    (Backend.start (Fin 2) String fun _ => 0) rejoiningRun

theorem rejoined_served : ∃ backend, rejoined = some backend ∧
    backend.fetched = [⟨0, 2⟩, ⟨0, 1⟩, ⟨0, 0⟩, ⟨0, 0⟩] ∧
    backend.group.committed 0 = 2 ∧
    backend.Served sampleTopic ⟨0, 0⟩ ∧ backend.Served sampleTopic ⟨0, 1⟩ := by
  obtain ⟨backend, hrun⟩ : ∃ backend, rejoined = some backend := ⟨_, rfl⟩
  have hserved := state_events_served_before_commit
    (Transition.System.Reachable.of_run (.start ⟨fun _ => 0, rfl⟩) hrun)
  cases hrun
  refine ⟨_, rfl, rfl, rfl, hserved _ ?_ ?_, hserved _ ?_ ?_⟩ <;> decide

end Sample

end Realtime

end LinkFlow
