/-
The services together: devices and users at the broker and the backend, the
records of the topic of device events, and the processor, which takes them in
any order and as often as it is handed them, writes to the tables that the
backend reads, and sends commands through the broker.
-/
import LinkFlow.CommandOrigins

namespace LinkFlow

/-- The broker over the registry, the other stores, and the commands that the
backend has handed to their topics, each with the user who gave it. -/
structure Deployment extends Broker.State where
  rows : Registry.EventTables
  online : String → Option Processor.OnlineKey
  stateTopic : List KafkaRecord
  downlinks : List Processor.Downlink
  caches : ThingsModel.Section → String → Option Processor.CachedDefinition
  commands : List (Uuid × KafkaRecord)

namespace Deployment

section Machine

/-- `events` of the broker and `commands` are the records of the topic.  A
commit may be lost, so one may be taken again. -/
inductive Label where
  | broker (label : Broker.Label)
  | setProperties (userID : Uuid) (deviceID : String) (properties : GoMap Json)
      (call : CommandCall)
  | callService (userID : Uuid) (deviceID serviceName : String)
      (input : Option (GoMap Json)) (call : CommandCall)
  | takeEvent (index : Nat) (out : Processor.Surroundings)
  | takeCommand (index : Nat) (out : Processor.Surroundings)

variable (deployment : Deployment)

def platform : Platform where
  registry := deployment.db
  rows := deployment.rows
  online := deployment.online
  stateTopic := deployment.stateTopic
  downlinks := deployment.downlinks
  caches := deployment.caches

/-- The topic of a message that the processor has the broker publish. -/
def downTopic? : Processor.Effect → Option String
  | .downlink message => some message.topic
  | _ => none

/-- The processor takes a message. -/
def take (formats : FormatChecker) (out : Processor.Surroundings)
    (message : Json) : Deployment :=
  let trace := (Processor.process out deployment.platform.world formats
    (some message)).2
  let platform := deployment.platform.absorb
    (deployment.platform.world.applyAll trace)
  { toState := (trace.filterMap downTopic?).foldl Broker.State.deliver
      { deployment.toState with db := platform.registry }
    rows := platform.rows
    online := platform.online
    stateTopic := platform.stateTopic
    downlinks := platform.downlinks
    caches := platform.caches
    commands := deployment.commands }

/-- A record handed to its topic may be taken from then on, also one whose
`Send` reports an error. -/
def send {β : Type} (userID : Uuid)
    (sends : DeviceService.Sends ThingsModel.DeviceError β) : Deployment :=
  { deployment with
    commands :=
      deployment.commands ++ sends.trace.map fun record => (userID, record) }

variable (handler : Registry.EMQXAuthHandler) (engine : Broker.Engine)
  (formats : FormatChecker)

/-- Nothing but the processor has the broker send messages. -/
def step : Label → Option Deployment
  | .broker (.send _) => none
  | .broker label =>
      (Broker.step handler engine deployment.toState label).map fun state =>
        { deployment with toState := state }
  | .setProperties userID deviceID properties call =>
      some (deployment.send userID (DeviceService.setPropertiesSends
        (call.surroundings Registry.findDevicePropertySetTarget userID
          deployment.db) (Uuid.text userID) deviceID properties))
  | .callService userID deviceID serviceName input call =>
      some (deployment.send userID (DeviceService.callServiceSends
        (call.surroundings Registry.findDeviceServiceCallTarget userID
          deployment.db) (Uuid.text userID) deviceID serviceName input))
  | .takeEvent index out =>
      deployment.events[index]?.map fun event =>
        deployment.take formats out event.2.value
  | .takeCommand index out =>
      deployment.commands[index]?.map fun command =>
        deployment.take formats out command.2.value.written

/-- The registry, the sessions, the tables and the topic are empty at first. -/
def system : Transition.System Deployment Label where
  init deployment :=
    (Broker.system handler engine).init deployment.toState ∧
      (∀ table, deployment.rows table = []) ∧ deployment.commands = []
  step := fun deployment => deployment.step handler engine formats

end Machine

section Steps

open Processor (EventRow Payload)

variable {handler : Registry.EMQXAuthHandler} {engine : Broker.Engine}
  {formats : FormatChecker} {deployment next : Deployment} {label : Label}

/-- Delivering changes nothing but the deliveries. -/
theorem deliver_keeps (topics : List String) (state : Broker.State) :
    (topics.foldl Broker.State.deliver state).sessions = state.sessions ∧
      (topics.foldl Broker.State.deliver state).events = state.events ∧
      (topics.foldl Broker.State.deliver state).db = state.db := by
  induction topics generalizing state with
  | nil => exact ⟨rfl, rfl, rfl⟩
  | cons topic rest ih => exact ih (state.deliver topic)

theorem delivered_cases (topics : List String) (state : Broker.State) :
    ∃ fresh, (topics.foldl Broker.State.deliver state).deliveries =
        state.deliveries ++ fresh ∧
      ∀ entry ∈ fresh, entry.2 ∈ topics ∧ ∃ filter, state.Holds entry.1 filter ∧
        TopicPath.matchesTopic filter entry.2 = true := by
  induction topics generalizing state with
  | nil => exact ⟨[], (List.append_nil _).symm, by simp⟩
  | cons topic rest ih =>
      obtain ⟨fresh, heq, hfresh⟩ := ih (state.deliver topic)
      refine ⟨_, heq.trans (List.append_assoc _ _ _), ?_⟩
      intro entry hmem
      rcases List.mem_append.mp hmem with hnow | hlater
      · obtain ⟨client, hclient, rfl⟩ := List.mem_map.mp hnow
        exact ⟨List.mem_cons_self, Broker.mem_receivers hclient⟩
      · exact ⟨List.mem_cons_of_mem _ (hfresh entry hlater).1,
          (hfresh entry hlater).2⟩

/-- What taking a message leaves: the rows of its event, and its message to the
device. -/
structure Took (formats : FormatChecker) (deployment : Deployment)
    (out : Processor.Surroundings) (message : Json) (next : Deployment) :
    Prop where
  sessions : next.sessions = deployment.sessions
  events : next.events = deployment.events
  commands : next.commands = deployment.commands
  rows : ∀ table, ∀ row ∈ next.rows table, row ∈ deployment.rows table ∨
    ∃ env payload, Processor.eventOf formats (some message) =
      some (env, payload) ∧ Processor.Records env payload table row
  stored : ∀ env payload,
    Processor.RowStored deployment.platform.world env payload →
      Processor.RowStored next.platform.world env payload
  deliveries : ∃ fresh, next.deliveries = deployment.deliveries ++ fresh ∧
    ∀ entry ∈ fresh,
      (∃ env payload, Processor.Sends out deployment.platform.world formats
          (some message) env payload entry.2 ∧
        Processor.RowStored next.platform.world env payload) ∧
      ∃ filter, deployment.Holds entry.1 filter ∧
        TopicPath.matchesTopic filter entry.2 = true

theorem took_take (out : Processor.Surroundings) (message : Json) :
    Took formats deployment out message
      (deployment.take formats out message) where
  sessions := (deliver_keeps _ _).1
  events := (deliver_keeps _ _).2.1
  commands := rfl
  rows := by
    intro table row hrow
    rcases Platform.rows_applyAll_cases hrow with hold | hinsert
    · exact Or.inl hold
    · exact Or.inr (Processor.records_of_process hinsert)
  stored := by
    intro env payload hstored table id hkey
    obtain ⟨uuid, time, huuid, htime, hrow⟩ := hstored table id hkey
    exact ⟨uuid, time, huuid, htime, Processor.World.hasRow_applyAll _ hrow⟩
  deliveries := by
    obtain ⟨fresh, heq, hfresh⟩ := delivered_cases _ _
    refine ⟨fresh, heq, fun entry hmem => ?_⟩
    obtain ⟨htopic, hfilter⟩ := hfresh entry hmem
    obtain ⟨effect, heffect, hdown⟩ := List.mem_filterMap.mp htopic
    cases effect with
    | downlink message =>
        obtain ⟨env, payload, hsends⟩ := Processor.sent_of_process heffect
        rw [Option.some.inj hdown] at hsends
        obtain ⟨_, -, hbefore⟩ := hsends.stored
        exact ⟨⟨env, payload, hsends, hbefore.stored⟩, hfilter⟩
    | _ => cases hdown

/-- What a step can do, by its label. -/
inductive Moves (handler : Registry.EMQXAuthHandler) (engine : Broker.Engine)
    (formats : FormatChecker) (deployment : Deployment) :
    Label → Deployment → Prop
  | broker {label : Broker.Label} {state : Broker.State}
      (hdoes : Broker.Does handler engine deployment.toState label state)
      (hlabel : ∀ topic, label ≠ .send topic) :
      Moves handler engine formats deployment (.broker label)
        { deployment with toState := state }
  | command {label : Label} {fresh : List (Uuid × KafkaRecord)}
      (hissued : ∀ entry ∈ fresh, Issued entry.1 entry.2 deployment.db) :
      Moves handler engine formats deployment label
        { deployment with commands := deployment.commands ++ fresh }
  | takeEvent {index : Nat} {out : Processor.Surroundings}
      {client : Broker.ClientInfo} {record : KafkaRecord} {next : Deployment}
      (hevent : deployment.events[index]? = some (client, record))
      (htook : Took formats deployment out record.value next) :
      Moves handler engine formats deployment (.takeEvent index out) next
  | takeCommand {index : Nat} {out : Processor.Surroundings} {userID : Uuid}
      {record : KafkaRecord} {next : Deployment}
      (hcommand : deployment.commands[index]? = some (userID, record))
      (htook : Took formats deployment out record.value.written next) :
      Moves handler engine formats deployment (.takeCommand index out) next

/-- What the backend hands over is issued by the user. -/
theorem moves_of_send {β : Type} {label : Label} {userID : Uuid}
    {sends : DeviceService.Sends ThingsModel.DeviceError β}
    (hissued : ∀ record ∈ sends.trace, Issued userID record deployment.db) :
    Moves handler engine formats deployment label
      (deployment.send userID sends) := by
  refine .command fun entry hmem => ?_
  obtain ⟨record, hrecord, rfl⟩ := List.mem_map.mp hmem
  exact hissued record hrecord

theorem moves_of_step
    (hstep : (system handler engine formats).step deployment label =
      some next) :
    Moves handler engine formats deployment label next := by
  change deployment.step handler engine formats label = some next at hstep
  cases label with
  | broker label =>
      cases label with
      | send topic => cases hstep
      | _ =>
          simp only [step, Option.map_eq_some_iff] at hstep
          obtain ⟨state, hstate, rfl⟩ := hstep
          exact .broker (Broker.does_of_step hstate) (by simp)
  | setProperties userID deviceID properties call =>
      cases hstep
      exact moves_of_send fun record hmem => issued_setProperties hmem
  | callService userID deviceID serviceName input call =>
      cases hstep
      exact moves_of_send fun record hmem => issued_callService hmem
  | takeEvent index out =>
      obtain ⟨event, hevent, rfl⟩ := Option.map_eq_some_iff.mp hstep
      exact .takeEvent hevent (took_take out _)
  | takeCommand index out =>
      obtain ⟨command, hcommand, rfl⟩ := Option.map_eq_some_iff.mp hstep
      exact .takeCommand hcommand (took_take out _)

theorem Moves.events_kept
    (hmoves : Moves handler engine formats deployment label next)
    {entry : Broker.ClientInfo × KafkaRecord}
    (hmem : entry ∈ deployment.events) : entry ∈ next.events := by
  cases hmoves with
  | broker hdoes _ => exact hdoes.events_kept hmem
  | command _ => exact hmem
  | takeEvent _ htook => exact htook.events ▸ hmem
  | takeCommand _ htook => exact htook.events ▸ hmem

/-- Commands stay, and new ones are issued by their users. -/
theorem Moves.commands
    (hmoves : Moves handler engine formats deployment label next) :
    ∃ fresh, next.commands = deployment.commands ++ fresh ∧
      ∀ entry ∈ fresh, Issued entry.1 entry.2 deployment.db := by
  have hnone : ∀ commands : List (Uuid × KafkaRecord),
      commands = deployment.commands → ∃ fresh,
        commands = deployment.commands ++ fresh ∧
          ∀ entry ∈ fresh, Issued entry.1 entry.2 deployment.db := by
    rintro commands rfl
    exact ⟨[], (List.append_nil _).symm, by simp⟩
  cases hmoves with
  | broker _ _ => exact hnone _ rfl
  | command hissued => exact ⟨_, rfl, hissued⟩
  | takeEvent _ htook => exact hnone _ htook.commands
  | takeCommand _ htook => exact hnone _ htook.commands

theorem Moves.command_kept
    (hmoves : Moves handler engine formats deployment label next)
    {number : Nat} {entry : Uuid × KafkaRecord}
    (hcommand : deployment.commands[number]? = some entry) :
    next.commands[number]? = some entry := by
  obtain ⟨fresh, heq, -⟩ := hmoves.commands
  obtain ⟨hbound, -⟩ := List.getElem?_eq_some_iff.mp hcommand
  rw [heq, List.getElem?_append_left hbound, hcommand]

end Steps

section Origins

open Processor (EventRow Payload)
open Registry (Tenant Product Device Database)

variable {handler : Registry.EMQXAuthHandler} {engine : Broker.Engine}
  {formats : FormatChecker} {deployment next : Deployment} {label : Label}

/-- The client is let in as a device that `claim` holds of. -/
def Admits (handler : Registry.EMQXAuthHandler) (client : Broker.ClientInfo)
    (claim : Tenant → Product → Device → Prop) (before : Deployment) : Prop :=
  ∃ tenant product device,
    Broker.AdmittedAs handler before.db client tenant product device ∧
      claim tenant product device

/-- The record a row came from, and what the processor has read in it. -/
inductive Left (formats : FormatChecker) (deployment : Deployment)
    (table : Processor.Table) (row : EventRow) : Prop
  | event {client : Broker.ClientInfo} {record : KafkaRecord} {env : Envelope}
      {payload : Payload} (hmem : (client, record) ∈ deployment.events)
      (hevent : Processor.eventOf formats (some record.value) =
        some (env, payload))
      (hrecords : Processor.Records env payload table row) :
      Left formats deployment table row
  | command {number : Nat} {userID : Uuid} {record : KafkaRecord}
      {env : Envelope} {payload : Payload}
      (hcommand : deployment.commands[number]? = some (userID, record))
      (hevent : Processor.eventOf formats (some record.value.written) =
        some (env, payload))
      (hrecords : Processor.Records env payload table row) :
      Left formats deployment table row

theorem Left.moves {table : Processor.Table} {row : EventRow}
    (hleft : Left formats deployment table row)
    (hmoves : Moves handler engine formats deployment label next) :
    Left formats next table row := by
  cases hleft with
  | event hmem hevent hrecords =>
      exact .event (hmoves.events_kept hmem) hevent hrecords
  | command hcommand hevent hrecords =>
      exact .command (hmoves.command_kept hcommand) hevent hrecords

/-- Where the clients, the events, the commands and the rows come from. -/
structure Traced (handler : Registry.EMQXAuthHandler) (engine : Broker.Engine)
    (formats : FormatChecker) (deployment : Deployment) : Prop where
  reachable : (system handler engine formats).Reachable deployment
  connected : ∀ client, deployment.Connected client →
    client.isSuperuser = false →
      (system handler engine formats).Earlier deployment
        (Admits handler client fun _ _ _ => True)
  uplink : ∀ entry ∈ deployment.events, Broker.Uplink entry.2
  events : ∀ entry ∈ deployment.events, entry.1.isSuperuser = false →
    entry.1.peerHost ≠ "127.0.0.1" →
      (system handler engine formats).Earlier deployment
        (Admits handler entry.1 fun tenant product device =>
          Broker.Names (Broker.fieldsOf tenant product device) entry.2)
  commands : (system handler engine formats).Attributed Deployment.commands
    (fun entry before _ _ => Issued entry.1 entry.2 before.db) deployment
  rows : ∀ table, ∀ row ∈ deployment.rows table,
    Left formats deployment table row

theorem Admits.enters {client : Broker.ClientInfo}
    (henters : Broker.Enters handler deployment.toState client)
    (hdevice : client.isSuperuser = false) :
    Admits handler client (fun _ _ _ => True) deployment := by
  obtain ⟨request, peerHost, out, hgrant⟩ := henters
  obtain ⟨tenant, product, device, hadmitted⟩ :=
    Broker.grant_device hgrant hdevice
  exact ⟨tenant, product, device, hadmitted, trivial⟩

theorem Traced.came (htraced : Traced handler engine formats deployment)
    {client : Broker.ClientInfo}
    (hcame : deployment.Connected client ∨
      Broker.Enters handler deployment.toState client)
    (hdevice : client.isSuperuser = false) :
    (system handler engine formats).Earlier deployment
      (Admits handler client fun _ _ _ => True) := by
  rcases hcame with hconnected | henters
  · exact htraced.connected client hconnected hdevice
  · exact .now htraced.reachable (Admits.enters henters hdevice)

theorem Moves.connected
    (hmoves : Moves handler engine formats deployment label next)
    {client : Broker.ClientInfo} (hconnected : next.Connected client) :
    deployment.Connected client ∨
      Broker.Enters handler deployment.toState client := by
  cases hmoves with
  | broker hdoes _ => exact hdoes.connected hconnected
  | command _ => exact Or.inl hconnected
  | takeEvent _ htook =>
      rw [Broker.State.Connected] at hconnected
      rw [htook.sessions] at hconnected
      exact Or.inl hconnected
  | takeCommand _ htook =>
      rw [Broker.State.Connected] at hconnected
      rw [htook.sessions] at hconnected
      exact Or.inl hconnected

theorem Moves.events
    (hmoves : Moves handler engine formats deployment label next)
    {entry : Broker.ClientInfo × KafkaRecord} (hmem : entry ∈ next.events) :
    entry ∈ deployment.events ∨
      (deployment.Connected entry.1 ∨
          Broker.Enters handler deployment.toState entry.1) ∧
        Broker.Produced engine entry.1 entry.2 := by
  cases hmoves with
  | broker hdoes _ => exact hdoes.events hmem
  | command _ => exact Or.inl hmem
  | takeEvent _ htook => exact Or.inl (htook.events ▸ hmem)
  | takeCommand _ htook => exact Or.inl (htook.events ▸ hmem)

theorem Moves.rows
    (hmoves : Moves handler engine formats deployment label next)
    {table : Processor.Table} {row : EventRow} (hrow : row ∈ next.rows table) :
    row ∈ deployment.rows table ∨ Left formats deployment table row := by
  cases hmoves with
  | broker _ _ => exact Or.inl hrow
  | command _ => exact Or.inl hrow
  | takeEvent hmem htook =>
      rcases htook.rows table row hrow with
        hold | ⟨env, payload, hevent, hrecords⟩
      · exact Or.inl hold
      · exact Or.inr (.event (List.mem_of_getElem? hmem) hevent hrecords)
  | takeCommand hcommand htook =>
      rcases htook.rows table row hrow with
        hold | ⟨env, payload, hevent, hrecords⟩
      · exact Or.inl hold
      · exact Or.inr (.command hcommand hevent hrecords)

theorem Traced.step (htraced : Traced handler engine formats deployment)
    (hstep : (system handler engine formats).step deployment label =
      some next) :
    Traced handler engine formats next where
  reachable := htraced.reachable.next hstep
  connected := by
    intro client hconnected hdevice
    exact (htraced.came ((moves_of_step hstep).connected hconnected)
      hdevice).next hstep
  uplink := by
    intro entry hmem
    rcases (moves_of_step hstep).events hmem with hold | ⟨-, hproduced⟩
    · exact htraced.uplink entry hold
    · exact hproduced.uplink
  events := by
    intro entry hmem hdevice hremote
    rcases (moves_of_step hstep).events hmem with hold | ⟨hcame, hproduced⟩
    · exact (htraced.events entry hold hdevice hremote).next hstep
    · refine ((htraced.came hcame hdevice).imp ?_).next hstep
      rintro before ⟨tenant, product, device, hadmitted, -⟩
      exact ⟨tenant, product, device, hadmitted,
        hproduced.names hdevice hremote hadmitted⟩
  commands := by
    obtain ⟨fresh, heq, hissued⟩ := (moves_of_step hstep).commands
    exact htraced.commands.next htraced.reachable hstep heq hissued
  rows := by
    intro table row hrow
    have hmoves := moves_of_step hstep
    rcases hmoves.rows hrow with hold | hleft
    · exact (htraced.rows table row hold).moves hmoves
    · exact hleft.moves hmoves

theorem traced_of_reachable
    (hreach : (system handler engine formats).Reachable deployment) :
    Traced handler engine formats deployment := by
  apply hreach.invariant (P := Traced handler engine formats)
  · rintro start ⟨hbroker, hrows, hcommands⟩
    have hinit := hbroker
    obtain ⟨-, hsessions, hevents, -⟩ := hinit
    refine ⟨.start ⟨hbroker, hrows, hcommands⟩, ?_, ?_, ?_, ?_, ?_⟩
    · rintro client ⟨session, hmem, -⟩
      rw [hsessions] at hmem
      cases hmem
    · rw [hevents]
      simp
    · rw [hevents]
      simp
    · intro number entry hcommand
      rw [hcommands] at hcommand
      cases hcommand
    · intro table row hrow
      rw [hrows table] at hrow
      cases hrow
  · exact fun state label next htraced hstep => htraced.step hstep

end Origins

end Deployment

end LinkFlow
