/-
Where commands come from.  What the backend sends asks for a device of a tenant
of the user who gave the command, and is meant for a topic of that device; the
processor has the broker send nothing else, and has stored it before.
-/
import LinkFlow.DeviceProvenance
import LinkFlow.DeviceHistory
import LinkFlow.NumberCarrying

namespace LinkFlow

namespace Processor

section Sending

variable {out : Surroundings} {world : World} {env : Envelope}
  {message : Downlink}

/-- The topic a payload asks for a message on. -/
def Payload.downTopic? : Payload → Option String
  | .propertySetRequested payload => some payload.topic
  | .serviceCallRequested payload => some payload.topic
  | _ => none

theorem not_sent_of_report {validate : Call Validated} {stop : Failure → Stop}
    {save : Validated → Call Unit} {eventType : EventType}
    {payload : Validated → Json} {saving publishing : String}
    {kind : ThingsModel.Section} {tenantID productID : String}
    (hlookups : ∀ effect ∈ validate.trace,
      effect.OfLookup kind tenantID productID)
    (hsave : ∀ validated, .downlink message ∉ (save validated).trace) :
    .downlink message ∉ (reportBody out env validate stop saving save publishing
      eventType payload).trace := by
  intro hmem
  rcases mem_trace_reportBody.mp hmem with
    hmem | ⟨validated, -, hmem | ⟨-, hmem⟩⟩
  · rcases hlookups _ hmem with heq | ⟨key, entry, heq⟩ <;> cases heq
  · exact hsave validated hmem
  · obtain ⟨-, -, -, id, -, heq⟩ := mem_trace_publishEvent.mp hmem
    cases heq

theorem not_sent_of_connection {fields : DeviceFields}
    {status : Connection.Status} {marking context text reason : String}
    {mark : DeviceConnectionEvent → Call Bool}
    {redis : DeviceConnectionEvent → Effect}
    (hmark : ∀ input, mark input =
      markConnection out world input status marking (redis input))
    (hredis : ∀ input, .downlink message ≠ redis input) :
    .downlink message ∉
      (connectionBody out env fields mark context text reason).trace := by
  intro hmem
  obtain ⟨time, -, hmem⟩ := mem_trace_connectionBody.mp hmem
  rw [hmark] at hmem
  rcases hmem with hmem | ⟨-, hmem⟩
  · obtain ⟨-, hmem | ⟨-, -, heq⟩⟩ := mem_trace_markConnection.mp hmem
    · obtain ⟨-, _, _, -, heq⟩ := mem_trace_updateConnectionStatus.mp hmem
      cases heq
    · exact hredis _ heq
  · obtain ⟨-, -, -, id, -, heq⟩ := mem_trace_publishEvent.mp hmem
    cases heq

theorem not_sent_of_save {refused : List (Bool × String)} {insert : Insert} :
    .downlink message ∉ (saveEvent out world env refused insert).trace := by
  intro hmem
  obtain ⟨_, heq, -⟩ := mem_trace_saveEvent hmem
  cases heq

/-- Among the effects of a handler the message follows the row of its event. -/
def StoredBefore (world : World) (trace : List Effect) (message : Downlink)
    (env : Envelope) (payload : Payload) : Prop :=
  ∃ early late, trace = early ++ .downlink message :: late ∧
    RowStored (world.applyAll early) env payload

theorem StoredBefore.stored {trace : List Effect} {payload : Payload}
    (hbefore : StoredBefore world trace message env payload) :
    RowStored (world.applyAll trace) env payload := by
  obtain ⟨early, late, rfl, hstored⟩ := hbefore
  intro table id hkey
  obtain ⟨uuid, time, huuid, htime, hrow⟩ := hstored table id hkey
  refine ⟨uuid, time, huuid, htime, ?_⟩
  rw [World.applyAll, List.foldl_append]
  exact World.hasRow_applyAll _ hrow

/-- Both commands store their row first. -/
theorem storedBefore_of_command {refused : List (Bool × String)}
    {insert : Insert} {saving publishing : String} {publish : Call Unit}
    {payload : Payload}
    (hkey : payload.rowKey env = some (insert.table, insert.id))
    (hstored : (saveEvent out world env refused insert).outcome = .ok ())
    (hmem : .downlink message ∈ publish.trace) :
    StoredBefore world (commandBody saving
      (saveEvent out world env refused insert)
      publishing publish).trace message env payload := by
  obtain ⟨early, late, hsplit⟩ := List.append_of_mem hmem
  refine ⟨(saveEvent out world env refused insert).trace ++ early, late, ?_, ?_⟩
  · rw [trace_commandBody_of_ok hstored, hsplit, List.append_assoc]
  · exact rowStored_of_save hkey hstored fun effect heffect =>
      List.mem_append_left _ heffect

/-- A handler sends what its payload asks for, and only after the row is
stored. -/
theorem sent_of_body {payload : Payload}
    (hmem : .downlink message ∈ (payload.body out world env).trace) :
    payload.downTopic? = some message.topic ∧
      StoredBefore world (payload.body out world env).trace message env
        payload := by
  cases payload with
  | propertySetRequested payload =>
      rcases mem_trace_commandBody.mp hmem with hsave | ⟨hstored, hpublish⟩
      · exact (not_sent_of_save hsave).elim
      · refine ⟨?_, storedBefore_of_command rfl hstored hpublish⟩
        obtain ⟨-, -, -, -, heq⟩ := mem_trace_publishPropertySet.mp hpublish
        cases heq
        rfl
  | serviceCallRequested payload =>
      rcases mem_trace_commandBody.mp hmem with hsave | ⟨hstored, hpublish⟩
      · exact (not_sent_of_save hsave).elim
      · refine ⟨?_, storedBefore_of_command rfl hstored hpublish⟩
        obtain ⟨-, -, -, heq⟩ := mem_trace_publishServiceCall.mp hpublish
        cases heq
        rfl
  | propertyReported payload =>
      exact absurd hmem (not_sent_of_report
        (fun effect hlookup => mem_trace_validatePropertyReport hlookup)
        fun validated => not_sent_of_save)
  | eventReported payload =>
      exact absurd hmem (not_sent_of_report
        (fun effect hlookup => mem_trace_validateEventReport hlookup)
        fun validated => not_sent_of_save)
  | propertySetAcknowledged payload => exact absurd hmem not_sent_of_save
  | serviceCallAcknowledged payload =>
      rcases mem_trace_serviceCallBody.mp hmem with hmem | ⟨validated, -, hsave⟩
      · rcases mem_trace_validateServiceCall hmem with heq |
          ⟨key, entry, heq⟩ <;>
          cases heq
      · exact (not_sent_of_save hsave).elim
  | connected payload =>
      exact absurd hmem (not_sent_of_connection (fun _ => rfl) (by simp))
  | disconnected payload =>
      exact absurd hmem (not_sent_of_connection (fun _ => rfl) (by simp))

/-- While it takes the record, the processor stores the row of this event and
then has the broker send a message on this topic, which the event asks for. -/
structure Sends (out : Surroundings) (world : World) (formats : FormatChecker)
    (record : Option Json) (env : Envelope) (payload : Payload)
    (topic : String) :
    Prop where
  event : eventOf formats record = some (env, payload)
  asked : payload.downTopic? = some topic
  stored : ∃ message, message.topic = topic ∧
    StoredBefore world (process out world formats record).2 message env payload

/-- Whatever the processor has the broker send, the record it has taken asks
for, and its row is stored. -/
theorem sent_of_process {formats : FormatChecker} {record : Option Json}
    (hmem : .downlink message ∈ (process out world formats record).2) :
    ∃ env payload,
      Sends out world formats record env payload message.topic := by
  obtain ⟨env, payload, hevent, htrace⟩ := body_of_process hmem
  rw [htrace] at hmem
  obtain ⟨htopic, hstored⟩ := sent_of_body hmem
  exact ⟨env, payload, hevent, htopic, message, rfl, htrace ▸ hstored⟩

end Sending

end Processor

namespace Deployment

section Written

theorem written_omitEmpty (change : ℚ → Bool → Json) (name text : String) :
    (omitEmpty name text).map (fun member =>
      (member.1, Json.mapNumbers change member.2)) = omitEmpty name text := by
  rw [omitEmpty]
  split <;> rfl

/-- Of an envelope only the payload has numbers that are written anew. -/
theorem written_json {envelope : Envelope}
    (hversion : envelope.eventVersion = 1) :
    envelope.json.written =
      Envelope.json { envelope with payload := envelope.payload.written } := by
  have hone : Binary64.shortest 1 = 1 := by decide +kernel
  have hliteral : Json.integerLiteral 1 = true := by decide +kernel
  unfold Envelope.json
  change Json.obj (Json.mapMembers _ _) = _
  rw [Json.mapMembers_eq, hversion]
  simp only [List.map_append, List.map_cons, List.map_nil, written_omitEmpty]
  simp [Json.written, Json.mapNumbers, hone, hliteral]

/-- What the processor reads of an envelope that a Go service has written. -/
theorem eventOf_written {formats : FormatChecker} {envelope env : Envelope}
    {eventType : EventType} {payload : Processor.Payload}
    (hversion : envelope.eventVersion = 1)
    (htype : envelope.eventType = eventType.text)
    (hevent : Processor.eventOf formats (some envelope.json.written) =
      some (env, payload)) :
    env.tenantID = envelope.tenantID ∧
      Processor.Payload.decode eventType envelope.payload.written =
        some payload := by
  obtain ⟨found, hvalid, hdecode⟩ := Processor.eventOf_eq_some.mp hevent
  obtain ⟨hread, hlookup⟩ := Processor.validateEvent_read hvalid
  rw [written_json hversion, Envelope.decode_json
    { envelope with payload := envelope.payload.written } hversion] at hread
  cases hread
  have hfound := List.find?_some hlookup
  simp only [Bool.and_eq_true, decide_eq_true_eq, htype] at hfound
  rw [Processor.eventType_text_injective hfound.1] at hdecode
  exact ⟨rfl, hdecode⟩

theorem eventOf_newEnvelope {formats : FormatChecker} {eventType : EventType}
    {id : Uuid} {occurredAt clock : Int}
    {producer tenantID correlationID causationID : String} {message : Json}
    {env : Envelope} {payload : Processor.Payload}
    (hevent : Processor.eventOf formats
      (some (newEnvelope eventType id occurredAt clock producer tenantID
        correlationID causationID message).json.written) =
        some (env, payload)) :
    env.tenantID = tenantID ∧
      Processor.Payload.decode eventType message.written = some payload := by
  generalize henvelope : newEnvelope eventType id occurredAt clock producer
    tenantID correlationID causationID message = envelope at hevent
  have hversion : envelope.eventVersion = 1 := by rw [← henvelope]; rfl
  have htype : envelope.eventType = eventType.text := by rw [← henvelope]; rfl
  have hread := eventOf_written hversion htype hevent
  rw [← henvelope] at hread
  exact hread

end Written

section Commands

open Registry (Tenant Product Device Database)

/-- The payload is a request for this device, to be sent on one of its
topics. -/
def Requests (fields : DeviceFields) (address : DeviceService.DeviceAddress) :
    Processor.Payload → Prop
  | .propertySetRequested payload => payload.toDeviceFields = fields ∧
      Broker.OwnTopic address "down" payload.topic
  | .serviceCallRequested payload => payload.toDeviceFields = fields ∧
      Broker.OwnTopic address "down" payload.topic
  | _ => False

/-- The device with these fields has this address. -/
def Reaches (address : DeviceService.DeviceAddress) (fields : DeviceFields) :
    Prop :=
  address.tenantSlug = fields.tenantSlug ∧
    address.productKey = fields.productKey ∧
    address.deviceSlug = fields.deviceSlug

/-- The registry has this device, in a tenant of the user. -/
structure OwnedBy (userID : Uuid) (db : Database) (tenant : Tenant)
    (product : Product) (device : Device) : Prop where
  tenantMem : tenant ∈ db.tenants
  productMem : product ∈ db.products
  deviceMem : device ∈ db.devices
  deviceTenant : device.tenantID = tenant.id
  deviceProduct : device.productID = product.id
  owner : tenant.ownerUserID = userID

/-- The processor can read this record as nothing but a request for a device
that the user has in the registry. -/
def Issued (userID : Uuid) (record : KafkaRecord) (db : Database) : Prop :=
  ∃ tenant product device, OwnedBy userID db tenant product device ∧
    ∀ formats env payload,
      Processor.eventOf formats (some record.value.written) =
          some (env, payload) →
        env.tenantID = Uuid.text tenant.id ∧
        Requests (Broker.fieldsOf tenant product device)
          (Broker.addressOf tenant product device) payload

/-- What a command meets besides the registry: the store's surroundings, the
service's own, and the text of an error that no handler looks at. -/
structure CommandCall where
  store : Registry.Surroundings
  outside : DeviceService.Surroundings
  describe : Registry.Failure → String

/-- The service reads its target from the registry, as the user sees it. -/
def CommandCall.surroundings (call : CommandCall)
    (find : Registry.Surroundings → Registry.RowInput → Registry.Database →
      Registry.Reply DeviceService.DeviceTarget)
    (userID : Uuid) (db : Registry.Database) : DeviceService.Surroundings :=
  { call.outside with
    findTarget := fun _ deviceID =>
      (find call.store ⟨userID, deviceID⟩ db).1.mapError fun err =>
        if err.is (.notFound .device) then .deviceNotFound
        else .other (call.describe err) }

variable {userID : Uuid} {db : Database} {target : DeviceService.DeviceTarget}

/-- A target is a device of a tenant of the user. -/
theorem deviceTarget_owned
    {definitions : Registry.ThingsModel → GoMap Json} {id : Uuid}
    (htarget : (Registry.Session.actor userID).deviceTarget? definitions id db =
      some target) :
    ∃ tenant product device, OwnedBy userID db tenant product device ∧
      target.toDeviceFields = Broker.fieldsOf tenant product device := by
  rw [Registry.Session.deviceTarget?] at htarget
  split at htarget
  · cases htarget
  next device hdevice =>
    split at htarget
    next tenant product htenant hproduct =>
      cases htarget
      have hseen := List.find?_some htenant
      have hof := List.find?_some hproduct
      simp only [Registry.Session.seesTenant, Registry.Session.ownsRow,
        Registry.Session.readsAll, Registry.Session.actor, Option.isSome_none,
        reduceCtorEq, decide_false, Bool.or_false, Bool.and_eq_true,
        decide_eq_true_eq, Option.some.injEq] at hseen hof
      exact ⟨tenant, product, device,
        { tenantMem := List.mem_of_find?_eq_some htenant
          productMem := List.mem_of_find?_eq_some hproduct
          deviceMem := List.mem_of_find?_eq_some hdevice
          deviceTenant := hseen.2.symm
          deviceProduct := hof.1.2.symm
          owner := hseen.1.symm }, rfl⟩
    · cases htarget

theorem findTarget_owned {call : CommandCall} {user deviceID context : String}
    {find : Registry.Surroundings → Registry.RowInput → Database →
      Registry.Reply DeviceService.DeviceTarget}
    {definitions : Registry.ThingsModel → GoMap Json}
    (hfind : find = fun out =>
      Registry.findDeviceTarget out context definitions)
    (hok : (call.surroundings find userID db).findTarget user deviceID =
      .ok target) :
    ∃ tenant product device, OwnedBy userID db tenant product device ∧
      target.toDeviceFields = Broker.fieldsOf tenant product device := by
  subst hfind
  simp only [CommandCall.surroundings, Except.mapError] at hok
  split at hok
  · cases hok
  next found hfound =>
    cases hok
    obtain ⟨next, hbody⟩ := Registry.storeCall_eq_ok hfound
    simp only [Transaction.bind_eq_ok, Registry.command_eq_ok,
      Registry.uuidParam_eq_ok, Registry.queryRow_eq_ok] at hbody
    obtain ⟨_, _, ⟨-, rfl⟩, id, _, ⟨-, rfl⟩, htarget, -⟩ := hbody
    exact deviceTarget_owned htarget

/-- A topic on the way down whose last level is a plain word. -/
theorem ownTopic_down {address : DeviceService.DeviceAddress}
    {kind name : String} (hkind : kind ∈ Broker.kinds)
    (hname : DeviceService.IsLevel name) :
    Broker.OwnTopic address "down"
      ("lf/v1/" ++ address.tenantSlug ++ "/" ++ address.productKey ++ "/" ++
        address.deviceSlug ++ ("/" ++ kind ++ "/" ++ "down" ++
          "/" ++ name)) := by
  refine ⟨kind, hkind, name, ?_⟩
  rw [DeviceService.concat_eq_ofLevels]
  apply TopicPath.levels_ofLevels (by simp [DeviceService.DeviceAddress.path])
  intro level hlevel
  refine (address.path_isLevel ?_ level hlevel).2
  have hplain : ∀ text ∈ "down" :: Broker.kinds,
      text ≠ "" ∧ '/' ∉ text.toList := by decide
  simp only [List.forall_mem_cons]
  exact ⟨hplain kind (List.mem_cons_of_mem _ hkind),
    hplain "down" List.mem_cons_self, hname, by simp⟩

/-- The two commands are the same, but for the payload. -/
theorem issued_of_value {call : CommandCall} {context deviceID : String}
    {record : KafkaRecord} {eventType : EventType} {id : Uuid}
    {occurredAt clock : Int} {user correlationID causationID : String}
    {message : Json}
    {find : Registry.Surroundings → Registry.RowInput → Database →
      Registry.Reply DeviceService.DeviceTarget}
    {definitions : Registry.ThingsModel → GoMap Json}
    (hfind : find = fun out =>
      Registry.findDeviceTarget out context definitions)
    (htarget : (call.surroundings find userID db).findTarget user deviceID =
      .ok target)
    (hvalue : record.value = (newEnvelope eventType id occurredAt clock
      DeviceService.producer target.tenantID correlationID causationID
      message).json)
    (hrequests : ∀ payload,
      Processor.Payload.decode eventType message.written = some payload →
        ∀ address, Reaches address target.toDeviceFields →
          Requests target.toDeviceFields address payload) :
    Issued userID record db := by
  obtain ⟨tenant, product, device, howned, hfields⟩ :=
    findTarget_owned hfind htarget
  refine ⟨tenant, product, device, howned, ?_⟩
  intro formats env payload hevent
  rw [hvalue] at hevent
  obtain ⟨htenant, hdecode⟩ := eventOf_newEnvelope hevent
  rw [hfields] at htenant hrequests
  exact ⟨htenant, hrequests payload hdecode _ ⟨rfl, rfl, rfl⟩⟩

theorem issued_setProperties {call : CommandCall} {user deviceID : String}
    {properties : GoMap Json} {record : KafkaRecord}
    (hmem : record ∈ (DeviceService.setPropertiesSends
      (call.surroundings Registry.findDevicePropertySetTarget userID db) user
      deviceID properties).trace) : Issued userID record db := by
  rw [DeviceService.setPropertiesSends, Traced.trace_map] at hmem
  obtain ⟨broker, result, -, target, id, eventID, htarget, -, -, -, -, rfl⟩ :=
    (DeviceService.setProperties_publishes _ _ _ _).of_mem hmem
  refine issued_of_value rfl htarget rfl ?_
  rintro payload hdecode address ⟨htenant, hproduct, hdevice⟩
  have hread := Processor.propertySetRequested_decode
    (DeviceService.propertySetMessage target id (trimSpace user) properties) rfl
  simp only [Processor.Payload.decode, hread, Option.map_some,
    Option.some.injEq] at hdecode
  subst hdecode
  refine ⟨rfl, ?_⟩
  have htopic := @ownTopic_down address "property" "set" (by decide)
    ⟨by decide, by decide⟩
  rw [htenant, hproduct, hdevice] at htopic
  exact htopic

theorem issued_callService {call : CommandCall}
    {user deviceID serviceName : String} {input : Option (GoMap Json)}
    {record : KafkaRecord}
    (hmem : record ∈ (DeviceService.callServiceSends
      (call.surroundings Registry.findDeviceServiceCallTarget userID db) user
      deviceID serviceName input).trace) : Issued userID record db := by
  rw [DeviceService.callServiceSends, Traced.trace_map] at hmem
  obtain ⟨broker, result, -, target, id, eventID, htarget, -,
    hname, -, -, rfl⟩ :=
    (DeviceService.callService_publishes _ _ _ _ _).of_mem hmem
  refine issued_of_value rfl htarget rfl ?_
  rintro payload hdecode address ⟨htenant, hproduct, hdevice⟩
  have hread := Processor.serviceCallRequested_decode
    (DeviceService.serviceCallMessage target id (trimSpace user)
      (trimSpace serviceName) (input.getD GoMap.empty)) rfl
  simp only [Processor.Payload.decode, hread, Option.map_some,
    Option.some.injEq] at hdecode
  subst hdecode
  refine ⟨rfl, ?_⟩
  have htopic := @ownTopic_down address "service" (trimSpace serviceName)
    (by decide) (DeviceService.isLevel_of_pattern rfl rfl hname)
  rw [htenant, hproduct, hdevice] at htopic
  simpa [DeviceService.serviceCallMessage, DeviceService.deviceServiceDownTopic,
    String.append_assoc] using htopic

end Commands

end Deployment

end LinkFlow
