/-
What the deployment keeps apart: a view of a device shows what came from clients
let in as the device, or from users who had it, and a device is sent nothing but
commands of such users, which have been stored.
-/
import LinkFlow.Deployment

namespace LinkFlow

namespace Deployment

section Views

open Processor (EventRow Payload)
open Platform (View)
open Registry (Tenant Product Device DeviceScope CommandKind)

variable {handler : Registry.EMQXAuthHandler} {engine : Broker.Engine}
  {formats : FormatChecker} {deployment : Deployment} {scope : DeviceScope}
  {table : Processor.Table} {row : EventRow}

/-- The tables of the commands; the others are of reports and
acknowledgements. -/
def commandTables : List Processor.Table := [.propertySet, .serviceCall]

/-- The device goes by the tenant, the product key and the slug of the scope. -/
structure KnownAs (scope : DeviceScope) (tenant : Tenant) (product : Product)
    (device : Device) : Prop where
  tenantID : tenant.id = scope.device.tenantID
  productKey : product.productKey = scope.product.productKey
  deviceSlug : device.deviceSlug = scope.device.deviceSlug

/-- The row came from an event of this client, who, unless it is a superuser or
on the broker's own host, had been let in as a device that `claim` holds of. -/
structure ReportedBy (handler : Registry.EMQXAuthHandler)
    (engine : Broker.Engine) (formats : FormatChecker) (deployment : Deployment)
    (table : Processor.Table) (row : EventRow)
    (claim : Tenant → Product → Device → Prop) (client : Broker.ClientInfo)
    (payload : Payload) : Prop where
  record : ∃ record env, (client, record) ∈ deployment.events ∧
    Processor.eventOf formats (some record.value) = some (env, payload) ∧
    Processor.Records env payload table row
  admitted : client.isSuperuser = false → client.peerHost ≠ "127.0.0.1" →
    (system handler engine formats).Earlier deployment
      (Admits handler client claim)

/-- The step at which the user gave the command with this number found in the
registry, in a tenant of theirs, a device that `claim` holds of. -/
def Given (handler : Registry.EMQXAuthHandler) (engine : Broker.Engine)
    (formats : FormatChecker) (deployment : Deployment) (number : Nat)
    (userID : Uuid) (record : KafkaRecord)
    (claim : Tenant → Product → Device → Prop) : Prop :=
  (system handler engine formats).Taken deployment fun before _ after =>
    Transition.Adds Deployment.commands number (userID, record) before after ∧
    ∃ tenant product device,
      OwnedBy userID before.db tenant product device ∧
        claim tenant product device

/-- The row came from a command of this user, who gave it for a device of a
tenant of theirs. -/
def CommandedBy (handler : Registry.EMQXAuthHandler)
    (engine : Broker.Engine) (formats : FormatChecker) (deployment : Deployment)
    (table : Processor.Table) (row : EventRow)
    (claim : Tenant → Product → Device → Prop) (userID : Uuid) : Prop :=
  ∃ number record env payload,
    deployment.commands[number]? = some (userID, record) ∧
    Processor.eventOf formats (some record.value.written) =
      some (env, payload) ∧ Processor.Records env payload table row ∧
    Given handler engine formats deployment number userID record claim

theorem table_of_uplink {env : Envelope} {payload : Payload}
    (huplink : payload.Uplink)
    (hrecords : Processor.Records env payload table row) :
    table ∉ commandTables := by
  have htable := hrecords.table
  cases payload <;> simp [Payload.rowKey] at htable <;> subst htable <;>
    first | decide | exact huplink.elim

theorem requests_fields {fields : DeviceFields}
    {address : DeviceService.DeviceAddress} {payload : Payload}
    (hrequests : Requests fields address payload) :
    payload.fields = fields := by
  cases payload with
  | propertySetRequested payload => exact hrequests.1
  | serviceCallRequested payload => exact hrequests.1
  | _ => exact hrequests.elim

theorem table_of_requests {env : Envelope} {fields : DeviceFields}
    {address : DeviceService.DeviceAddress} {payload : Payload}
    (hrequests : Requests fields address payload)
    (hrecords : Processor.Records env payload table row) :
    table ∈ commandTables := by
  have htable := hrecords.table
  cases payload <;> simp [Payload.rowKey] at htable <;> subst htable <;>
    first | decide | exact hrequests.elim

/-- A row of the scope names the device of its event. -/
theorem knownAs_of_holds {env : Envelope} {payload : Payload} {tenant : Tenant}
    {product : Product} {device : Device}
    (hrecords : Processor.Records env payload table row)
    (hholds : scope.holds row = true)
    (htenant : env.tenantID = Uuid.text tenant.id)
    (hfields : payload.fields = Broker.fieldsOf tenant product device) :
    KnownAs scope tenant product device := by
  have hnames := Platform.names_of_records hrecords hholds
  rw [hfields] at hnames
  exact ⟨Uuid.text_injective (htenant.symm.trans hnames.tenantID),
    hnames.productKey, hnames.deviceSlug⟩

theorem Traced.reported (htraced : Traced handler engine formats deployment)
    (scope : DeviceScope)
    (hrow : row ∈ deployment.rows table) (htable : table ∉ commandTables) :
    ∃ client payload,
      ReportedBy handler engine formats deployment table row
        (fun tenant product device => scope.holds row = true →
          KnownAs scope tenant product device) client payload := by
  cases htraced.rows table row hrow with
  | command hcommand hevent hrecords =>
      obtain ⟨before, label, after, -, -, -, -, tenant, product, device, -,
        hrequests⟩ := htraced.commands _ _ hcommand
      exact absurd (table_of_requests (hrequests _ _ _ hevent).2 hrecords)
        htable
  | @event client record env payload hmem hevent hrecords =>
      refine ⟨client, payload, ⟨record, env, hmem, hevent, hrecords⟩, ?_⟩
      intro hdevice hremote
      apply (htraced.events _ hmem hdevice hremote).imp
      rintro before ⟨tenant, product, device, hadmitted, hnames⟩
      obtain ⟨-, htenant, hfields⟩ := Processor.eventOf_names hnames hevent
      exact ⟨tenant, product, device, hadmitted, fun hholds =>
        knownAs_of_holds hrecords hholds htenant hfields⟩

theorem Traced.commanded (htraced : Traced handler engine formats deployment)
    (hrow : row ∈ deployment.rows table) (htable : table ∈ commandTables)
    (hholds : scope.holds row = true) :
    ∃ userID, CommandedBy handler engine formats deployment table row
      (KnownAs scope) userID := by
  cases htraced.rows table row hrow with
  | event hmem hevent hrecords =>
      have huplink := Processor.eventOf_uplink (htraced.uplink _ hmem) hevent
      exact absurd htable (table_of_uplink huplink hrecords)
  | @command number userID record env payload hcommand hevent hrecords =>
      refine ⟨userID, number, record, env, payload, hcommand, hevent,
        hrecords, ?_⟩
      apply (htraced.commands _ _ hcommand).imp
      rintro before label after
        ⟨hadds, tenant, product, device, howned, hissued⟩
      obtain ⟨htenant, hrequests⟩ := hissued _ _ _ hevent
      exact ⟨hadds, tenant, product, device, howned,
        knownAs_of_holds hrecords hholds htenant (requests_fields hrequests)⟩

/-- In every run of the deployment, what a view shows of a device is, if it is a
report, of a client that was let in under the tenant, the product key and the
slug of the device, if it is a command, of a user in whose tenant a device went
by these three, and if it is the acknowledgement of a command, of a client that
was let in as a device and that named the command.  Superusers and clients on
the broker's own host may report and acknowledge without. -/
theorem shown_rows_have_origins
    (hreach : (system handler engine formats).Reachable deployment)
    (view : View) (hrow : row ∈ view.rows deployment.rows scope) :
    (view.table ∉ commandTables → ∃ client payload,
      ReportedBy handler engine formats deployment view.table row
        (KnownAs scope) client payload) ∧
    (view.table ∈ commandTables → ∃ userID,
      CommandedBy handler engine formats deployment view.table row
        (KnownAs scope) userID) ∧
    ∀ ack, view.ack deployment.rows row = some ack → ∃ client payload text,
      ReportedBy handler engine formats deployment view.ackTable ack
        (fun _ _ _ => True) client payload ∧
      payload.acknowledged? = some text ∧ Uuid.ofText? text = some row.id := by
  have htraced := traced_of_reachable hreach
  obtain ⟨hmem, hholds⟩ := Platform.mem_rows hrow
  refine ⟨fun htable => ?_, fun htable => htraced.commanded hmem htable hholds,
    ?_⟩
  · obtain ⟨client, payload, hrecord, hadmitted⟩ :=
      htraced.reported scope hmem htable
    refine ⟨client, payload, hrecord, fun hdevice hremote => ?_⟩
    apply (hadmitted hdevice hremote).imp
    rintro before ⟨tenant, product, device, hadmitted, hknown⟩
    exact ⟨tenant, product, device, hadmitted, hknown hholds⟩
  · intro ack hack
    cases view with
    | commandHistory kind input =>
        obtain ⟨hackmem, hacks⟩ := Registry.mem_acks_of_latest hack
        have htable : kind.ackTable ∉ commandTables := by
          cases kind <;> decide
        obtain ⟨client, payload, hrecord, hadmitted⟩ :=
          htraced.reported scope hackmem htable
        obtain ⟨record, env, hevent, hread, hrecords⟩ := hrecord
        obtain ⟨text, htext, hid⟩ :=
          Platform.acknowledged_of_records hrecords hacks
        refine ⟨client, payload, text, ⟨⟨record, env, hevent, hread, hrecords⟩,
          fun hdevice hremote => ?_⟩, htext, hid⟩
        apply (hadmitted hdevice hremote).imp
        rintro before ⟨tenant, product, device, hadmitted, -⟩
        exact ⟨tenant, product, device, hadmitted, trivial⟩
    | _ => cases hack

end Views

section Deliveries

open Processor (Payload)
open Registry (Tenant Product Device)

variable {handler : Registry.EMQXAuthHandler} {engine : Broker.Engine}
  {formats : FormatChecker} {deployment next : Deployment} {label : Label}
  {address : DeviceService.DeviceAddress} {topic : String}

/-- A topic is of one device, and of one way. -/
theorem ownTopic_unique {other : DeviceService.DeviceAddress}
    {way back : String} (hown : Broker.OwnTopic address way topic)
    (hother : Broker.OwnTopic other back topic) :
    address = other ∧ way = back := by
  obtain ⟨kind, -, name, hlevels⟩ := hown
  obtain ⟨otherKind, -, otherName, hsame⟩ := hother
  rw [hlevels] at hsame
  simp only [DeviceService.DeviceAddress.path, List.cons_append,
    List.nil_append, List.cons.injEq, true_and, and_true] at hsame
  obtain ⟨htenant, hproduct, hdevice, -, hway, -⟩ := hsame
  exact ⟨DeviceService.DeviceAddress.ext htenant hproduct hdevice, hway⟩

/-- Superusers and clients on the broker's own host, which may publish anywhere,
publish nothing on a device's way down; and sessions begin clean. -/
def Orderly (deployment : Deployment) : Label → Prop
  | .broker (.connect _ _ cleanStart _ _ _) => cleanStart = true
  | .broker (.publish clientID topic _ _) => ∀ client address,
      deployment.client? clientID = some client →
        Broker.OwnTopic address "down" topic →
          client.isSuperuser = false ∧ client.peerHost ≠ "127.0.0.1"
  | _ => True

/-- The step takes a command that its user gave for a device of a tenant of
theirs under this address, stores its row and then has it sent on this topic;
and its receiver, unless it is a superuser or on the broker's own host, has been
let in as a device under this address. -/
inductive Carries (handler : Registry.EMQXAuthHandler) (engine : Broker.Engine)
    (formats : FormatChecker) (client : Broker.ClientInfo)
    (address : DeviceService.DeviceAddress) (topic : String) (env : Envelope)
    (payload : Payload) (before : Deployment) : Label → Deployment → Prop
  | intro {number : Nat} {out : Processor.Surroundings} {userID : Uuid}
      {record : KafkaRecord} {after : Deployment}
      (hcommand : before.commands[number]? = some (userID, record))
      (hgiven : Given handler engine formats before number userID record
        fun tenant product device =>
          payload.fields = Broker.fieldsOf tenant product device ∧
            address = Broker.addressOf tenant product device)
      (hsends : Processor.Sends out before.platform.world formats
        (some record.value.written) env payload topic)
      (hreceiver : client.isSuperuser = false → client.peerHost ≠ "127.0.0.1" →
        (system handler engine formats).Earlier before
          (Admits handler client fun tenant product device =>
            address = Broker.addressOf tenant product device)) :
      Carries handler engine formats client address topic env payload before
        (.takeCommand number out) after

/-- The delivery with this number is of a command, which is stored since. -/
def CommandSent (handler : Registry.EMQXAuthHandler) (engine : Broker.Engine)
    (formats : FormatChecker) (deployment : Deployment) (number : Nat)
    (client : Broker.ClientInfo) (address : DeviceService.DeviceAddress)
    (topic : String) : Prop :=
  (system handler engine formats).Taken deployment fun before label after =>
    Transition.Adds (fun deployment => deployment.deliveries) number
      (client, topic) before after ∧
    ∃ env payload, Processor.RowStored deployment.platform.world env payload ∧
      Carries handler engine formats client address topic env payload before
        label after

theorem Moves.stored
    (hmoves : Moves handler engine formats deployment label next)
    {env : Envelope} {payload : Payload}
    (hstored : Processor.RowStored deployment.platform.world env payload) :
    Processor.RowStored next.platform.world env payload := by
  cases hmoves with
  | broker _ _ => exact hstored
  | command _ => exact hstored
  | takeEvent _ htook => exact htook.stored env payload hstored
  | takeCommand _ htook => exact htook.stored env payload hstored

/-- Nothing but a command is sent down. -/
structure Guarded (handler : Registry.EMQXAuthHandler) (engine : Broker.Engine)
    (formats : FormatChecker) (deployment : Deployment) : Prop where
  traced : Traced handler engine formats deployment
  apart : Broker.Apart deployment.toState
  sent : (system handler engine formats).Attributed
    (fun deployment => deployment.deliveries)
    (fun entry before label after => ∀ address,
      Broker.OwnTopic address "down" entry.2 → ∃ env payload,
        Processor.RowStored after.platform.world env payload ∧
        Carries handler engine formats entry.1 address entry.2 env
          payload before label after)
    deployment

theorem cleanStart_of_orderly {label : Broker.Label}
    (horderly : Orderly deployment (.broker label)) :
    Broker.CleanStart label := by
  cases label with
  | connect => exact horderly
  | _ => trivial

/-- What an orderly client publishes is not on its way down. -/
theorem Traced.publish_up (htraced : Traced handler engine formats deployment)
    {client : Broker.ClientInfo} (hconnected : deployment.Connected client)
    (hdevice : client.isSuperuser = false)
    (hremote : client.peerHost ≠ "127.0.0.1")
    (hallowed : Broker.authorize client .publish topic = true) :
    ¬ Broker.OwnTopic address "down" topic := by
  intro hown
  obtain ⟨before, -, -, tenant, product, device, hadmitted, -⟩ :=
    htraced.connected client hconnected hdevice
  have hup := (Broker.publish_authorized_iff hadmitted.carries hdevice
    hremote).mp hallowed
  exact absurd (ownTopic_unique hown hup).2 (by decide)

/-- What a step delivers on a topic is a client's message, or one that the
processor sends for a record. -/
inductive Caused (formats : FormatChecker) (deployment next : Deployment) :
    Label → String → Prop
  | published {clientID topic : String} {message : Option Json}
      {stamp : Nat → Broker.Stamp} {client : Broker.ClientInfo}
      (hclient : deployment.client? clientID = some client)
      (hallowed : Broker.authorize client .publish topic = true) :
      Caused formats deployment next
        (.broker (.publish clientID topic message stamp)) topic
  | ofEvent {index : Nat} {out : Processor.Surroundings}
      {client : Broker.ClientInfo} {record : KafkaRecord} {env : Envelope}
      {payload : Payload} {topic : String}
      (hmem : (client, record) ∈ deployment.events)
      (hsends : Processor.Sends out deployment.platform.world formats
        (some record.value) env payload topic) :
      Caused formats deployment next (.takeEvent index out) topic
  | ofCommand {number : Nat} {out : Processor.Surroundings} {userID : Uuid}
      {record : KafkaRecord} {env : Envelope} {payload : Payload}
      {topic : String}
      (hcommand : deployment.commands[number]? = some (userID, record))
      (hsends : Processor.Sends out deployment.platform.world formats
        (some record.value.written) env payload topic)
      (hstored : Processor.RowStored next.platform.world env payload) :
      Caused formats deployment next (.takeCommand number out) topic

theorem Moves.deliveries
    (hmoves : Moves handler engine formats deployment label next) :
    ∃ fresh, next.deliveries = deployment.deliveries ++ fresh ∧
      ∀ entry ∈ fresh, (∃ filter, deployment.Holds entry.1 filter ∧
          TopicPath.matchesTopic filter entry.2 = true) ∧
        Caused formats deployment next label entry.2 := by
  have hnone : ∀ deliveries : List (Broker.ClientInfo × String),
      deliveries = deployment.deliveries → ∃ fresh,
        deliveries = deployment.deliveries ++ fresh ∧
          ∀ entry ∈ fresh, (∃ filter, deployment.Holds entry.1 filter ∧
              TopicPath.matchesTopic filter entry.2 = true) ∧
            Caused formats deployment next label entry.2 := by
    rintro deliveries rfl
    exact ⟨[], (List.append_nil _).symm, by simp⟩
  cases hmoves with
  | command _ => exact hnone _ rfl
  | takeEvent hevent htook =>
      obtain ⟨fresh, heq, hfresh⟩ := htook.deliveries
      refine ⟨fresh, heq, fun entry hmem => ?_⟩
      obtain ⟨⟨env, payload, hsends, -⟩, hfilter⟩ := hfresh entry hmem
      exact ⟨hfilter, .ofEvent (List.mem_of_getElem? hevent) hsends⟩
  | takeCommand hcommand htook =>
      obtain ⟨fresh, heq, hfresh⟩ := htook.deliveries
      refine ⟨fresh, heq, fun entry hmem => ?_⟩
      obtain ⟨⟨env, payload, hsends, hstored⟩, hfilter⟩ := hfresh entry hmem
      exact ⟨hfilter, .ofCommand hcommand hsends hstored⟩
  | broker hdoes hlabel =>
      cases hdoes with
      | registry request => exact hnone _ rfl
      | connect _ _ => exact hnone _ rfl
      | subscribe _ _ => exact hnone _ rfl
      | disconnect _ => exact hnone _ rfl
      | send topic => exact absurd rfl (hlabel topic)
      | publish hclient hallowed =>
          refine ⟨_, rfl, fun entry hmem => ?_⟩
          obtain ⟨client, hreceiver, rfl⟩ := List.mem_map.mp hmem
          exact ⟨Broker.mem_receivers hreceiver, .published hclient hallowed⟩

theorem downTopic_of_uplink {payload : Payload} (huplink : payload.Uplink) :
    payload.downTopic? = none := by
  cases payload with
  | propertySetRequested payload => exact huplink.elim
  | serviceCallRequested payload => exact huplink.elim
  | _ => rfl

/-- A request is sent on a topic of its device. -/
theorem ownTopic_of_requests {fields : DeviceFields} {payload : Payload}
    (hrequests : Requests fields address payload)
    (htopic : payload.downTopic? = some topic) :
    Broker.OwnTopic address "down" topic := by
  cases payload with
  | propertySetRequested payload =>
      cases htopic
      exact hrequests.2
  | serviceCallRequested payload =>
      cases htopic
      exact hrequests.2
  | _ => exact hrequests.elim

/-- In an orderly step, what is delivered on a device's way down is a
command. -/
theorem Guarded.carries (hguarded : Guarded handler engine formats deployment)
    (horderly : Orderly deployment label) {client : Broker.ClientInfo}
    {filter : String} (hholds : deployment.Holds client filter)
    (hmatches : TopicPath.matchesTopic filter topic = true)
    (hcaused : Caused formats deployment next label topic)
    (hown : Broker.OwnTopic address "down" topic) :
    ∃ env payload, Processor.RowStored next.platform.world env payload ∧
      Carries handler engine formats client address topic env payload deployment
        label next := by
  have htraced := hguarded.traced
  cases hcaused with
  | published hclient hallowed =>
      obtain ⟨hdevice, hremote⟩ := horderly _ address hclient hown
      exact absurd hown (htraced.publish_up (Broker.client?_connected hclient)
        hdevice hremote hallowed)
  | ofEvent hmem hsends =>
      have huplink :=
        Processor.eventOf_uplink (htraced.uplink _ hmem) hsends.event
      have hasked := hsends.asked
      rw [downTopic_of_uplink huplink] at hasked
      cases hasked
  | @ofCommand _ _ userID record env payload _ hcommand hsends hstored =>
      refine ⟨env, payload, hstored, .intro hcommand ?_ hsends ?_⟩
      · apply (htraced.commands _ _ hcommand).imp
        rintro before label after
          ⟨hadds, tenant, product, device, howned, hissued⟩
        obtain ⟨-, hrequests⟩ := hissued _ _ _ hsends.event
        have hsame := ownTopic_unique hown
          (ownTopic_of_requests hrequests hsends.asked)
        exact ⟨hadds, tenant, product, device, howned,
          requests_fields hrequests, hsame.1⟩
      · intro hdevice hremote
        have hheld := hholds
        obtain ⟨session, hsession, hclient, -⟩ := hheld
        apply (htraced.connected client ⟨session, hsession, hclient⟩
          hdevice).imp
        rintro before ⟨tenant, product, device, hadmitted, -⟩
        have hbelow :=
          Broker.below_of_matches (hguarded.apart.holds client filter
          hholds hdevice hremote _ hadmitted.carries) hmatches
        obtain ⟨kind, -, name, hlevels⟩ := hown
        exact ⟨tenant, product, device, hadmitted, hbelow.unique hlevels⟩

theorem Moves.apart
    (hmoves : Moves handler engine formats deployment label next)
    (horderly : Orderly deployment label)
    (hapart : Broker.Apart deployment.toState) : Broker.Apart next.toState := by
  have htook : ∀ out message, Took formats deployment out message next →
      Broker.Apart next.toState := by
    intro out message htook
    refine ⟨?_, ?_⟩
    · rintro client filter ⟨session, hmem, hclient, hfilter⟩
      rw [htook.sessions] at hmem
      exact hapart.holds client filter ⟨session, hmem, hclient, hfilter⟩
    · intro entry hmem hdevice hremote address hcarries
      obtain ⟨fresh, heq, hfresh⟩ := htook.deliveries
      rw [heq, List.mem_append] at hmem
      rcases hmem with hold | hnew
      · exact hapart.deliveries entry hold hdevice hremote address hcarries
      · obtain ⟨-, filter, hholds, hmatches⟩ := hfresh entry hnew
        exact Broker.below_of_matches
          (hapart.holds entry.1 filter hholds hdevice
          hremote address hcarries) hmatches
  cases hmoves with
  | broker hdoes _ => exact hapart.step (cleanStart_of_orderly horderly) hdoes
  | command _ => exact hapart
  | takeEvent _ htaken => exact htook _ _ htaken
  | takeCommand _ htaken => exact htook _ _ htaken

theorem Guarded.step (hguarded : Guarded handler engine formats deployment)
    (horderly : Orderly deployment label)
    (hstep : (system handler engine formats).step deployment label =
      some next) :
    Guarded handler engine formats next where
  traced := hguarded.traced.step hstep
  apart := (moves_of_step hstep).apart horderly hguarded.apart
  sent := by
    obtain ⟨fresh, heq, hfresh⟩ := (moves_of_step hstep).deliveries
    refine hguarded.sent.next hguarded.traced.reachable hstep heq ?_
    intro entry hmem address hown
    obtain ⟨⟨filter, hholds, hmatches⟩, hcaused⟩ := hfresh entry hmem
    exact hguarded.carries horderly hholds hmatches hcaused hown

theorem guarded_of_reachable
    (hreach : (system handler engine formats).ReachableVia Orderly deployment) :
    Guarded handler engine formats deployment := by
  apply hreach.invariant (P := Guarded handler engine formats)
  · rintro start hinit
    have hbroker := hinit.1
    obtain ⟨-, hsessions, -, hdeliveries⟩ := hbroker
    refine ⟨traced_of_reachable (.start hinit), ⟨?_, ?_⟩, ?_⟩
    · rintro client filter ⟨session, hmem, -⟩
      rw [hsessions] at hmem
      cases hmem
    · rw [hdeliveries]
      simp
    · intro number entry hentry
      change start.deliveries[number]? = some entry at hentry
      rw [hdeliveries] at hentry
      cases hentry
  · exact fun state label next hguarded horderly hstep =>
      hguarded.step horderly hstep

/-- In every orderly run of the deployment, whatever is delivered on a device's
way down is a command that a user gave for a device that a tenant of theirs then
had under this address, and its row was stored before it was sent; and whoever
receives it, apart from superusers and clients on the broker's own host, had
been let in as a device under this address. -/
theorem deliveries_are_commands
    (hreach : (system handler engine formats).ReachableVia Orderly deployment)
    {number : Nat} {client : Broker.ClientInfo}
    (hdelivery : deployment.deliveries[number]? = some (client, topic))
    (hown : Broker.OwnTopic address "down" topic) :
    CommandSent handler engine formats deployment number client
      address topic := by
  obtain ⟨before, label, after, hbefore, hstep, hleads, hadds, hcarries⟩ :=
    (guarded_of_reachable hreach).sent number (client, topic) hdelivery
  obtain ⟨env, payload, hstored, hcommand⟩ := hcarries address hown
  refine ⟨before, label, after, hbefore, hstep, hleads, hadds, env, payload, ?_,
    hcommand⟩
  apply hleads.keeps (P := fun deployment =>
    Processor.RowStored deployment.platform.world env payload) _ hstored
  exact fun state label next hheld htaken => (moves_of_step htaken).stored hheld

end Deliveries

section Samples

open Registry (acmeHandler acmeTenant lampProduct lampDevice calmCall)
open Broker (plainEngine)

def emptyDeployment : Deployment where
  toState := Broker.emptyBroker
  rows _ := []
  online _ := none
  stateTopic := []
  downlinks := []
  caches _ _ := none
  commands := []

/-- The thing model of the lamp has one switch. -/
def lampModel : Registry.Request :=
  .createThingsModel (calmCall 6)
    { userID := 7
      tenantID := Uuid.text 1
      productID := Uuid.text 2
      modelVersion := 1
      modelName := "Lamp"
      description := ""
      status := "published"
      isCurrent := true
      properties := GoMap.ofMembers
        [("led", .obj [("name", .str "LED"), ("data_type", .str "bool"),
          ("required", .bool true), ("access_mode", .str "readwrite")])]
      events := GoMap.empty
      services := GoMap.empty
      hasProperties := true
      hasEvents := true
      hasServices := true }

def lampCall : CommandCall where
  store := calmCall 9
  outside :=
    { DeviceService.openSurroundings GoMap.empty with commandID := .ok 30 }
  describe _ := ""

/-- The lamp connects and goes online, its owner turns it on, and it answers. -/
def lampSwitched : List Label :=
  [.broker (.registry acmeTenant),
    .broker (.registry (lampProduct "anonymous")),
    .broker (.registry lampModel), .broker (.registry (lampDevice 4 "b")),
    .broker (.connect ⟨"acme:lamp:b", "x", "lamp-b"⟩ "10.0.0.7" true
      (calmCall 9) 60 ⟨8, 0⟩),
    .takeEvent 0 Processor.calm,
    .broker (.subscribe "lamp-b" "lf/v1/acme/lamp/b/property/down/+"),
    .setProperties 7 (Uuid.text 4) (GoMap.ofMembers [("led", .bool true)])
      lampCall,
    .takeCommand 0 Processor.calm,
    .broker (.publish "lamp-b" "lf/v1/acme/lamp/b/property/up/set_reply"
      (some (.obj [("command_id", .str (Uuid.text 30)), ("success", .bool true),
        ("code", .str "0"), ("message", .str ""),
        ("properties", .obj [("led", .bool true)])]))
      fun index => ⟨10 + index, 0⟩),
    .takeEvent 1 Processor.calm]

/-- The history of the lamp's property sets ends with one that is acknowledged,
and its topic with one delivery. -/
theorem lampSwitched_ends :
    ((system acmeHandler plainEngine FormatChecker.byShape).run emptyDeployment
      lampSwitched).any (fun deployment =>
        (((Registry.Session.actor 7).scope? 4 deployment.db).any fun scope =>
          ((Platform.lampSets (Uuid.text 4)).rows deployment.rows scope).any
            fun row => ((Platform.lampSets (Uuid.text 4)).ack deployment.rows
              row).isSome) &&
        deployment.deliveries.any fun entry => entry.1.isRemoteDevice &&
          entry.2 = "lf/v1/acme/lamp/b/property/down/set") = true := by
  decide +kernel

/-- The address of the lamp. -/
def lampAddress : DeviceService.DeviceAddress :=
  Broker.lampReboot.toDeviceAddress

theorem lamp_topics :
    Broker.OwnTopic lampAddress "up" "lf/v1/acme/lamp/b/property/up/set_reply" ∧
      Broker.OwnTopic lampAddress "down"
        "lf/v1/acme/lamp/b/property/down/set" := by
  refine ⟨⟨"property", by decide, "set_reply", ?_⟩,
    ⟨"property", by decide, "set", ?_⟩⟩ <;> decide

theorem orderly_lampSwitched :
    ∀ label ∈ lampSwitched, ∀ deployment, Orderly deployment label := by
  simp only [lampSwitched, List.forall_mem_cons, List.not_mem_nil,
    IsEmpty.forall_iff, implies_true, Orderly, and_true, true_and]
  intro deployment client address _ hown
  exact absurd (ownTopic_unique hown lamp_topics.1).2 (by decide)

theorem lampSwitched_reaches : ∃ deployment,
    (system acmeHandler plainEngine FormatChecker.byShape).run emptyDeployment
      lampSwitched = some deployment ∧
    (system acmeHandler plainEngine FormatChecker.byShape).ReachableVia Orderly
      deployment ∧
    (∃ scope row, row ∈ (Platform.lampSets (Uuid.text 4)).rows deployment.rows
        scope ∧ ∃ ack,
        (Platform.lampSets (Uuid.text 4)).ack deployment.rows row =
          some ack) ∧
    ∃ client, (client, "lf/v1/acme/lamp/b/property/down/set") ∈
        deployment.deliveries ∧
      client.isSuperuser = false ∧ client.peerHost ≠ "127.0.0.1" := by
  have hends := lampSwitched_ends
  cases hrun : (system acmeHandler plainEngine FormatChecker.byShape).run
      emptyDeployment lampSwitched with
  | none =>
      rw [hrun] at hends
      cases hends
  | some deployment =>
      rw [hrun, Option.any_some, Bool.and_eq_true, Option.any_eq_true] at hends
      obtain ⟨⟨scope, -, hrows⟩, hdeliveries⟩ := hends
      simp only [List.any_eq_true, Option.isSome_iff_exists, Bool.and_eq_true,
        decide_eq_true_eq, Broker.ClientInfo.isRemoteDevice,
        Bool.not_eq_true'] at hrows hdeliveries
      obtain ⟨row, hrow, hack⟩ := hrows
      obtain ⟨⟨client, topic⟩, hdelivery, ⟨hdevice, hremote⟩, htopic⟩ :=
        hdeliveries
      dsimp only at htopic
      subst htopic
      have hstart : (system acmeHandler plainEngine
          FormatChecker.byShape).ReachableVia Orderly emptyDeployment :=
        .start ⟨Broker.emptyBroker_init, fun _ => rfl, rfl⟩
      exact ⟨deployment, rfl, hstart.of_run orderly_lampSwitched hrun,
        ⟨scope, row, hrow, hack⟩, ⟨client, hdelivery, hdevice, hremote⟩⟩

theorem shown_rows_have_origins_switched : ∃ deployment scope row ack,
    (system acmeHandler plainEngine FormatChecker.byShape).run emptyDeployment
      lampSwitched = some deployment ∧
    row ∈ (Platform.lampSets (Uuid.text 4)).rows deployment.rows scope ∧
    (Platform.lampSets (Uuid.text 4)).ack deployment.rows row = some ack ∧
    (∃ userID,
      CommandedBy acmeHandler plainEngine FormatChecker.byShape deployment
      .propertySet row (KnownAs scope) userID) ∧
    ∃ client payload text, ReportedBy acmeHandler plainEngine
        FormatChecker.byShape deployment .propertySetAck ack (fun _ _ _ => True)
        client payload ∧
      payload.acknowledged? = some text ∧ Uuid.ofText? text = some row.id := by
  obtain ⟨deployment, hrun, hreach, ⟨scope, row, hrow, ack, hack⟩, -⟩ :=
    lampSwitched_reaches
  obtain ⟨-, hcommanded, hacked⟩ :=
    shown_rows_have_origins hreach.reachable (Platform.lampSets (Uuid.text 4))
      hrow
  exact ⟨deployment, scope, row, ack, hrun, hrow, hack,
    hcommanded (by decide), hacked ack hack⟩

theorem deliveries_are_commands_switched : ∃ deployment client,
    (system acmeHandler plainEngine FormatChecker.byShape).run emptyDeployment
      lampSwitched = some deployment ∧
    client.isSuperuser = false ∧ client.peerHost ≠ "127.0.0.1" ∧
    ∃ number,
      CommandSent acmeHandler plainEngine FormatChecker.byShape deployment
      number client lampAddress "lf/v1/acme/lamp/b/property/down/set" := by
  obtain ⟨deployment, hrun, hreach, -, client, hmem, hdevice, hremote⟩ :=
    lampSwitched_reaches
  obtain ⟨number, hdelivery⟩ := List.mem_iff_getElem?.mp hmem
  exact ⟨deployment, client, hrun, hdevice, hremote, number,
    deliveries_are_commands hreach hdelivery lamp_topics.2⟩

end Samples

end Deployment

end LinkFlow
