/-
From the broker to the tables: what the processor does with an event of a device
concerns that device alone, and never sends a command.
-/
import LinkFlow.DeviceIngress
import LinkFlow.ProcessorTenant

namespace LinkFlow

namespace Processor

open Broker

section About

/-- The six fields of a published payload. -/
def payloadFields : Json → Option DeviceFields
  | .obj members => DeviceFields.decode members
  | _ => none

/-- The effect concerns this device and nothing else: its tenant and product are
looked up, its tenant, product key and slug are in the row, its row, its Redis
key and its state events are written. -/
def Effect.About (fields : DeviceFields) : Effect → Prop
  | .lookup _ tenantID productID =>
      tenantID = fields.tenantID ∧ productID = fields.productID
  | .cache _ key _ => key = cacheKey fields.tenantID fields.productID
  | .insert _ row =>
      row.tenantID = fields.tenantID ∧
        row.columns.lookup "product_key" = some (.str fields.productKey) ∧
        row.columns.lookup "device_slug" = some (.str fields.deviceSlug)
  | .update deviceID tenantID _ _ =>
      Uuid.ofText? fields.deviceID = some deviceID ∧
        Uuid.ofText? fields.tenantID = some tenantID
  | .setOnline tenantID deviceID _ | .delOnline tenantID deviceID =>
      tenantID = fields.tenantID ∧ deviceID = fields.deviceID
  | .publish _ envelope =>
      envelope.tenantID = fields.tenantID ∧
        payloadFields envelope.payload = some fields
  | .downlink _ => False

/-- The ids of the fields have no spaces around them. -/
def Trimmed (fields : DeviceFields) : Prop :=
  trimSpace fields.tenantID = fields.tenantID ∧
    trimSpace fields.productID = fields.productID

variable {out : Surroundings} {world : World} {env : Envelope}
  {fields : DeviceFields} {effect : Effect}

theorem lookup_about {kind : ThingsModel.Section}
    (hmem : effect ∈
      (lookup out world kind fields.tenantID fields.productID).trace) :
    effect.About fields := by
  rw [lookup] at hmem
  simp only [Traced.mem_trace_bind, Traced.trace_emit, List.mem_singleton]
    at hmem
  rcases hmem with rfl | ⟨_, -, hmem⟩
  · exact ⟨rfl, rfl⟩
  · split at hmem
    · simp at hmem
    · simp only [Traced.mem_trace_bind, trace_findCurrent, List.not_mem_nil,
        false_or, Traced.trace_emit, List.mem_singleton, Traced.trace_pure,
        and_false, exists_false, or_false] at hmem
      obtain ⟨_, -, rfl⟩ := hmem
      rfl

theorem validateWith_about {kind : ThingsModel.Section}
    {refused : Option Failure} {tenantID productID : String}
    {verdict : ThingsModel.Definition → Except Failure Validated}
    (htenant : tenantID = fields.tenantID)
    (hproduct : productID = fields.productID)
    (hmem : effect ∈
      (validateWith out world kind refused tenantID productID verdict).trace) :
    effect.About fields := by
  subst htenant hproduct
  unfold validateWith at hmem
  simp only [Traced.mem_trace_bind, trace_checkCtx, List.not_mem_nil,
    false_or] at hmem
  obtain ⟨_, -, hmem⟩ := hmem
  split at hmem
  · cases hmem
  · simp only [Traced.mem_trace_bind, Traced.trace_lift, List.not_mem_nil,
      and_false, exists_false, or_false] at hmem
    exact lookup_about hmem

section Payloads

theorem decode_members {before : DeviceFields} {after : List (String × Json)}
    (hafter : ∀ name ∈ Schemas.deviceRequired, name ∉ after.map Prod.fst) :
    DeviceFields.decode (before.members ++ after) = some before := by
  rw [DeviceFields.decode]
  rw [decodeString_left (hafter "tenant_id" (by decide)),
    decodeString_left (hafter "product_id" (by decide)),
    decodeString_left (hafter "device_id" (by decide)),
    decodeString_left (hafter "tenant_slug" (by decide)),
    decodeString_left (hafter "product_key" (by decide)),
    decodeString_left (hafter "device_slug" (by decide))]
  rfl

theorem connectionChanged_fields (payload : ConnectionChangedPayload) :
    payloadFields payload.json = some payload.toDeviceFields := by
  rw [ConnectionChangedPayload.json, payloadFields]
  rw [List.append_assoc]
  apply decode_members
  by_cases hreason : payload.reason = "" <;>
    simp [omitEmpty, hreason, Schemas.deviceRequired, Schemas.deviceMembers]

theorem propertyChanged_fields (payload : PropertyChangedPayload) :
    payloadFields payload.json = some payload.toDeviceFields :=
  decode_members (by simp [Schemas.deviceRequired, Schemas.deviceMembers])

theorem eventReceived_fields (payload : EventReceivedPayload) :
    payloadFields payload.json = some payload.toDeviceFields :=
  decode_members (by simp [Schemas.deviceRequired, Schemas.deviceMembers])

end Payloads

section Bodies

/-- A new row has the envelope's tenant, and the device columns of its
statement. -/
theorem saveEvent_about {refused : List (Bool × String)} {insert : Insert}
    (htenant : env.tenantID = fields.tenantID)
    (hkey : insert.columns.lookup "product_key" = some (.str fields.productKey))
    (hslug : insert.columns.lookup "device_slug" =
      some (.str fields.deviceSlug))
    (hmem : effect ∈ (saveEvent out world env refused insert).trace) :
    effect.About fields := by
  obtain ⟨row, rfl, ⟨hrow, hcolumns⟩, -⟩ := mem_trace_saveEvent hmem
  refine ⟨hrow.trans htenant, ?_, ?_⟩
  · rw [hcolumns, hkey]
  · rw [hcolumns, hslug]

theorem publishEvent_about {eventType : EventType}
    {tenantID causationID : String} {occurredAt : Int} {payload : Json}
    (htenant : tenantID = fields.tenantID)
    (hpayload : payloadFields payload = some fields)
    (hmem : effect ∈ (publishEvent out eventType tenantID causationID occurredAt
      payload).trace) : effect.About fields := by
  obtain ⟨-, -, -, id, -, rfl⟩ := mem_trace_publishEvent.mp hmem
  exact ⟨htenant, hpayload⟩

/-- The body of a report. -/
theorem report_about {validate : Call Validated} {stop : Failure → Stop}
    {save : Validated → Call Unit} {eventType : EventType}
    {payload : Validated → Json} {saving publishing : String}
    (htenant : env.tenantID = fields.tenantID)
    (hvalidate : ∀ effect ∈ validate.trace, effect.About fields)
    (hsave : ∀ validated, ∀ effect ∈ (save validated).trace,
      effect.About fields)
    (hpayload : ∀ validated, payloadFields (payload validated) = some fields)
    (hmem : effect ∈ (reportBody out env validate stop saving save publishing
      eventType payload).trace) : effect.About fields := by
  rcases mem_trace_reportBody.mp hmem with
    hmem | ⟨validated, -, hmem | ⟨-, hmem⟩⟩
  · exact hvalidate effect hmem
  · exact hsave validated effect hmem
  · exact publishEvent_about htenant (hpayload validated) hmem

/-- The body of a connection event. -/
theorem connection_about {status : Connection.Status}
    {marking context text reason : String}
    {mark : DeviceConnectionEvent → Call Bool}
    {redis : DeviceConnectionEvent → Effect}
    (htenant : env.tenantID = fields.tenantID)
    (hmark : ∀ input, mark input =
      markConnection out world input status marking (redis input))
    (hredis : ∀ time, (redis (connectionInput fields time)).About fields)
    (hmem : effect ∈
      (connectionBody out env fields mark context text reason).trace) :
    effect.About fields := by
  obtain ⟨time, -, hmem⟩ := mem_trace_connectionBody.mp hmem
  rw [hmark] at hmem
  rcases hmem with hmem | ⟨-, hmem⟩
  · obtain ⟨-, hmem | ⟨-, -, rfl⟩⟩ := mem_trace_markConnection.mp hmem
    · obtain ⟨-, deviceID, tenant, hmatches, rfl⟩ :=
        mem_trace_updateConnectionStatus.mp hmem
      exact ⟨hmatches.1, hmatches.2.1⟩
    · exact hredis time
  · exact publishEvent_about htenant (connectionChanged_fields _) hmem

/-- The fields of a decoded payload are those of its members. -/
theorem decode_fields {eventType : EventType} {members : List (String × Json)}
    {payload : Payload}
    (hdecode : Payload.decode eventType (.obj members) = some payload) :
    DeviceFields.decode members = some payload.fields := by
  cases eventType with
  | propertyReported =>
      simp only [Payload.decode, PropertyReportedPayload.decode,
        Option.map_eq_some_iff, Option.bind_eq_bind,
        Option.bind_eq_some_iff] at hdecode
      obtain ⟨found, ⟨fields, hfields, _, -, _, -, _, -, hfound⟩, rfl⟩ :=
        hdecode
      cases hfound
      exact hfields
  | eventReported =>
      simp only [Payload.decode, EventReportedPayload.decode,
        Option.map_eq_some_iff, Option.bind_eq_bind,
        Option.bind_eq_some_iff] at hdecode
      obtain ⟨found, ⟨fields, hfields, _, -, _, -, _, -, _, -, hfound⟩, rfl⟩ :=
        hdecode
      cases hfound
      exact hfields
  | connected =>
      simp only [Payload.decode, ConnectedPayload.decode,
        Option.map_eq_some_iff, Option.bind_eq_bind,
        Option.bind_eq_some_iff] at hdecode
      obtain ⟨found, ⟨fields, hfields, _, -, _, -, hfound⟩, rfl⟩ := hdecode
      cases hfound
      exact hfields
  | disconnected =>
      simp only [Payload.decode, DisconnectedPayload.decode,
        Option.map_eq_some_iff, Option.bind_eq_bind,
        Option.bind_eq_some_iff] at hdecode
      obtain ⟨found, ⟨fields, hfields, _, -, _, -, hfound⟩, rfl⟩ := hdecode
      cases hfound
      exact hfields
  | propertySetAcknowledged =>
      simp only [Payload.decode, PropertySetAcknowledgedPayload.decode,
        Option.map_eq_some_iff, Option.bind_eq_bind,
        Option.bind_eq_some_iff] at hdecode
      obtain ⟨found, ⟨_, -, fields, hfields, _, -, _, -, _, -, _, -, _, -, _, -,
        hfound⟩, rfl⟩ := hdecode
      cases hfound
      exact hfields
  | serviceCallAcknowledged =>
      simp only [Payload.decode, ServiceCallAcknowledgedPayload.decode,
        Option.map_eq_some_iff, Option.bind_eq_bind,
        Option.bind_eq_some_iff] at hdecode
      obtain ⟨found, ⟨_, -, fields, hfields, _, -, _, -, _, -, _, -, _, -, _, -,
        _, -, hfound⟩, rfl⟩ := hdecode
      cases hfound
      exact hfields
  | propertySetRequested =>
      simp only [Payload.decode, PropertySetRequestedPayload.decode,
        Option.map_eq_some_iff, Option.bind_eq_bind,
        Option.bind_eq_some_iff] at hdecode
      obtain ⟨found, ⟨_, -, fields, hfields, _, -, _, -, _, -, _, -,
        hfound⟩, rfl⟩ := hdecode
      cases hfound
      exact hfields
  | serviceCallRequested =>
      simp only [Payload.decode, ServiceCallRequestedPayload.decode,
        Option.map_eq_some_iff, Option.bind_eq_bind,
        Option.bind_eq_some_iff] at hdecode
      obtain ⟨found, ⟨_, -, fields, hfields, _, -, _, -, _, -, _, -, _, -,
        hfound⟩, rfl⟩ := hdecode
      cases hfound
      exact hfields
  | connectionChanged => cases hdecode
  | propertyChanged => cases hdecode
  | eventReceived => cases hdecode

/-- The payloads of the types a device can cause. -/
def Payload.Uplink : Payload → Prop
  | .propertySetRequested _ | .serviceCallRequested _ => False
  | _ => True

theorem decode_uplink {eventType : EventType} (htype : eventType ∈ uplinkTypes)
    {raw : Json} {payload : Payload}
    (hdecode : Payload.decode eventType raw = some payload) :
    payload.Uplink := by
  cases eventType with
  | propertySetRequested => exact absurd htype (by decide)
  | serviceCallRequested => exact absurd htype (by decide)
  | connectionChanged => cases hdecode
  | propertyChanged => cases hdecode
  | eventReceived => cases hdecode
  | propertyReported =>
      obtain ⟨found, -, rfl⟩ := Option.map_eq_some_iff.mp hdecode
      trivial
  | eventReported =>
      obtain ⟨found, -, rfl⟩ := Option.map_eq_some_iff.mp hdecode
      trivial
  | connected =>
      obtain ⟨found, -, rfl⟩ := Option.map_eq_some_iff.mp hdecode
      trivial
  | disconnected =>
      obtain ⟨found, -, rfl⟩ := Option.map_eq_some_iff.mp hdecode
      trivial
  | propertySetAcknowledged =>
      obtain ⟨found, -, rfl⟩ := Option.map_eq_some_iff.mp hdecode
      trivial
  | serviceCallAcknowledged =>
      obtain ⟨found, -, rfl⟩ := Option.map_eq_some_iff.mp hdecode
      trivial

/-- A report, an acknowledgement or a connection event concerns the device that
its envelope and its payload name. -/
theorem body_about {payload : Payload} (huplink : payload.Uplink)
    (htenant : env.tenantID = payload.fields.tenantID)
    (htrimmed : Trimmed payload.fields)
    (hmem : effect ∈ (payload.body out world env).trace) :
    effect.About payload.fields := by
  cases payload with
  | propertyReported payload =>
      apply report_about htenant _ _ _ hmem
      · intro effect hmem
        rw [validatePropertyReport] at hmem
        exact validateWith_about htrimmed.1 htrimmed.2 hmem
      · exact fun validated effect hmem => saveEvent_about htenant rfl rfl hmem
      · exact fun validated => propertyChanged_fields _
  | eventReported payload =>
      apply report_about htenant _ _ _ hmem
      · intro effect hmem
        rw [validateEventReport] at hmem
        exact validateWith_about htrimmed.1 htrimmed.2 hmem
      · exact fun validated effect hmem => saveEvent_about htenant rfl rfl hmem
      · exact fun validated => eventReceived_fields _
  | serviceCallAcknowledged payload =>
      rcases mem_trace_serviceCallBody.mp hmem with hmem | ⟨validated, -, hmem⟩
      · rw [validateServiceCall] at hmem
        exact validateWith_about htrimmed.1 htrimmed.2 hmem
      · exact saveEvent_about htenant rfl rfl hmem
  | propertySetAcknowledged payload =>
      exact saveEvent_about htenant rfl rfl hmem
  | connected payload =>
      change effect ∈ (connectedBody out world env payload).trace at hmem
      rw [connectedBody] at hmem
      refine connection_about htenant (fun _ => rfl) ?_ hmem
      exact fun _ => ⟨rfl, rfl⟩
  | disconnected payload =>
      change effect ∈ (disconnectedBody out world env payload).trace at hmem
      rw [disconnectedBody] at hmem
      refine connection_about htenant (fun _ => rfl) ?_ hmem
      exact fun _ => ⟨rfl, rfl⟩
  | propertySetRequested payload => cases huplink
  | serviceCallRequested payload => cases huplink

end Bodies

section Records

variable {formats : FormatChecker} {record : KafkaRecord}

theorem eventType_text_injective {first second : EventType}
    (heq : first.text = second.text) : first = second := by
  cases first <;> cases second <;> first | rfl | exact absurd heq (by decide)

/-- What the validation returns is what it has read. -/
theorem validateEvent_read {raw : Json} {eventType : EventType}
    (hvalid : validateEvent formats (some raw) = .ok (env, eventType)) :
    Envelope.decode raw = some env ∧
      EventType.lookup env.eventType env.eventVersion = some eventType := by
  unfold validateEvent at hvalid
  dsimp only at hvalid
  split at hvalid
  · cases hvalid
  · split at hvalid
    · cases hvalid
    next found hfound =>
      split at hvalid
      · cases hvalid
      next foundType hlookup =>
        split at hvalid
        · cases hvalid
          exact ⟨hfound, hlookup⟩
        · cases hvalid

/-- A record of a type that a device can cause is read as one. -/
theorem validateEvent_uplink {eventType : EventType} (huplink : Uplink record)
    (hvalid : validateEvent formats (some record.value) =
      .ok (env, eventType)) :
    eventType ∈ uplinkTypes := by
  obtain ⟨members, hvalue, uplink, huplink, htype⟩ := huplink
  obtain ⟨hdecode, hlookup⟩ := validateEvent_read hvalid
  rw [hvalue] at hdecode
  simp only [Envelope.decode, htype, Option.bind_eq_bind,
    Option.bind_eq_some_iff, Option.some.injEq, exists_eq_left'] at hdecode
  obtain ⟨_, -, _, -, _, -, _, -, _, -, _, -, _, -, _, -, rfl⟩ := hdecode
  have hfound := List.find?_some hlookup
  simp only [Bool.and_eq_true, decide_eq_true_eq] at hfound
  rw [eventType_text_injective hfound.1]
  exact huplink

/-- A record that names a device is read as an event of it. -/
theorem validateEvent_names {eventType : EventType}
    (hnames : Names fields record)
    (hvalid : validateEvent formats (some record.value) =
      .ok (env, eventType)) :
    eventType ∈ uplinkTypes ∧ env.tenantID = fields.tenantID ∧
      ∃ members, env.payload = .obj members ∧
        DeviceFields.decode members = some fields := by
  obtain ⟨members, payload, hvalue, htyped, htenant, hpayload, hfields⟩ :=
    hnames.value
  have huplink := validateEvent_uplink ⟨members, hvalue, htyped⟩ hvalid
  obtain ⟨hdecode, -⟩ := validateEvent_read hvalid
  rw [hvalue] at hdecode
  simp only [Envelope.decode, htenant, Option.bind_eq_bind,
    Option.bind_eq_some_iff, Option.some.injEq, exists_eq_left'] at hdecode
  obtain ⟨_, -, _, -, _, -, _, -, _, -, _, -, _, -, _, -, rfl⟩ := hdecode
  exact ⟨huplink, rfl, payload, hpayload, hfields⟩

theorem eventOf_eq_some {message : Option Json} {payload : Payload} :
    eventOf formats message = some (env, payload) ↔
      ∃ eventType, validateEvent formats message = .ok (env, eventType) ∧
        Payload.decode eventType env.payload = some payload := by
  rw [eventOf]
  constructor
  · intro hevent
    split at hevent
    next found eventType hvalid =>
      obtain ⟨decoded, hdecode, heq⟩ := Option.map_eq_some_iff.mp hevent
      cases heq
      exact ⟨eventType, hvalid, hdecode⟩
    · cases hevent
  · rintro ⟨eventType, hvalid, hdecode⟩
    simp only [hvalid, hdecode, Option.map_some]

/-- What a device can cause is never read as a command. -/
theorem eventOf_uplink {payload : Payload} (huplink : Uplink record)
    (hevent : eventOf formats (some record.value) = some (env, payload)) :
    payload.Uplink := by
  obtain ⟨eventType, hvalid, hdecode⟩ := eventOf_eq_some.mp hevent
  exact decode_uplink (validateEvent_uplink huplink hvalid) hdecode

/-- A record that names a device is read with its fields. -/
theorem eventOf_names {payload : Payload} (hnames : Names fields record)
    (hevent : eventOf formats (some record.value) = some (env, payload)) :
    payload.Uplink ∧ env.tenantID = fields.tenantID ∧
    payload.fields = fields := by
  obtain ⟨eventType, hvalid, hdecode⟩ := eventOf_eq_some.mp hevent
  obtain ⟨huplink, htenant, members, hpayload, hfields⟩ :=
    validateEvent_names hnames hvalid
  rw [hpayload] at hdecode
  exact ⟨decode_uplink huplink hdecode, htenant,
    Option.some.inj ((decode_fields hdecode).symm.trans hfields)⟩

/-- What the processor does with a message is what the handler of its event
does. -/
theorem body_of_process {message : Option Json}
    (hmem : effect ∈ (process out world formats message).2) :
    ∃ env payload, eventOf formats message = some (env, payload) ∧
      (process out world formats message).2 =
        (payload.body out world env).trace := by
  cases hvalid : validateEvent formats message with
  | error err =>
      rw [process] at hmem
      rw [hvalid] at hmem
      split at hmem <;> cases hmem
  | ok found =>
      obtain ⟨env, eventType⟩ := found
      by_cases hbegins : Begins out
      · cases hdecode : Payload.decode eventType env.payload with
        | none =>
            rw [trace_process hvalid hbegins, hdecode] at hmem
            cases hmem
        | some payload =>
            refine ⟨env, payload, eventOf_eq_some.mpr ⟨_, hvalid, hdecode⟩, ?_⟩
            rw [trace_process hvalid hbegins, hdecode]
            rfl
      · rw [trace_process_of_not_begins hvalid hbegins] at hmem
        cases hmem

/-- Whatever the processor does with a record that names a device concerns that
device. -/
theorem process_about (hnames : Names fields record) (htrimmed : Trimmed fields)
    (hmem : effect ∈ (process out world formats (some record.value)).2) :
    effect.About fields := by
  obtain ⟨env, payload, hevent, htrace⟩ := body_of_process hmem
  obtain ⟨huplink, htenant, hfields⟩ := eventOf_names hnames hevent
  subst hfields
  rw [htrace] at hmem
  exact body_about huplink htenant htrimmed hmem

end Records

end About

end Processor

namespace Broker

open Processor

section Runs

variable {handler : Registry.EMQXAuthHandler} {engine : Engine} {state : State}
  {client : ClientInfo}

theorem trimmed_fieldsOf (tenant : Registry.Tenant) (product : Registry.Product)
    (device : Registry.Device) : Trimmed (fieldsOf tenant product device) :=
  ⟨Registry.trimSpace_text tenant.id, Registry.trimSpace_text product.id⟩

/-- In every run of the broker, whatever a client other than a superuser or one
on the broker's own host publishes, and whatever the processor, its stores and
the database do with the events that come of it, every effect concerns the
device the client was let in as: no other tenant, product or device is looked
up, written or announced, and no command is sent. -/
theorem device_events_stay_home
    (hreach : (system handler engine).Reachable state)
    {record : KafkaRecord} (hmem : (client, record) ∈ state.events)
    (hdevice : client.isSuperuser = false)
    (hremote : client.peerHost ≠ "127.0.0.1") :
    CameIn handler engine state client fun tenant product device =>
      ∀ out world formats,
        ∀ effect ∈ (process out world formats (some record.value)).2,
          effect.About (fieldsOf tenant product device) := by
  have hcame := (traced_of_reachable hreach).events _ hmem hdevice hremote
  refine hcame.imp ?_
  intro db tenant product device _ hnames out world formats effect heffect
  exact process_about hnames (trimmed_fieldsOf tenant product device) heffect

theorem device_events_stay_home_lamp : ∃ state client record,
    (system Registry.acmeHandler plainEngine).run emptyBroker lampRun =
      some state ∧
    (client, record) ∈ state.events ∧
    CameIn Registry.acmeHandler plainEngine state client
      fun tenant product device => ∀ out world formats,
        ∀ effect ∈ (process out world formats (some record.value)).2,
          effect.About (fieldsOf tenant product device) := by
  obtain ⟨state, hrun, hreach, ⟨client, record, hmem, hdevice, hremote⟩, -⟩ :=
    lampRun_reaches
  exact ⟨state, client, record, hrun, hmem,
    device_events_stay_home hreach.reachable hmem hdevice hremote⟩

end Runs

end Broker

end LinkFlow
