/-
One call of `Process` as the run of one handler's body on one decoded payload,
and what each body can do.
-/
import LinkFlow.ProcessorCalls

namespace LinkFlow

namespace Processor

open ThingsModel

/-- A decoded payload of an event that has a handler. -/
inductive Payload where
  | propertyReported (payload : PropertyReportedPayload)
  | propertySetRequested (payload : PropertySetRequestedPayload)
  | propertySetAcknowledged (payload : PropertySetAcknowledgedPayload)
  | connected (payload : ConnectedPayload)
  | disconnected (payload : DisconnectedPayload)
  | eventReported (payload : EventReportedPayload)
  | serviceCallRequested (payload : ServiceCallRequestedPayload)
  | serviceCallAcknowledged (payload : ServiceCallAcknowledgedPayload)

namespace Payload

def decode : EventType → Json → Option Payload
  | .propertyReported, raw =>
      (PropertyReportedPayload.decode raw).map propertyReported
  | .propertySetRequested, raw =>
      (PropertySetRequestedPayload.decode raw).map propertySetRequested
  | .propertySetAcknowledged, raw =>
      (PropertySetAcknowledgedPayload.decode raw).map propertySetAcknowledged
  | .connected, raw => (ConnectedPayload.decode raw).map connected
  | .disconnected, raw => (DisconnectedPayload.decode raw).map disconnected
  | .eventReported, raw => (EventReportedPayload.decode raw).map eventReported
  | .serviceCallRequested, raw =>
      (ServiceCallRequestedPayload.decode raw).map serviceCallRequested
  | .serviceCallAcknowledged, raw =>
      (ServiceCallAcknowledgedPayload.decode raw).map serviceCallAcknowledged
  | .connectionChanged, _ | .propertyChanged, _ | .eventReceived, _ => none

def fields : Payload → DeviceFields
  | propertyReported payload => payload.toDeviceFields
  | propertySetRequested payload => payload.toDeviceFields
  | propertySetAcknowledged payload => payload.toDeviceFields
  | connected payload => payload.toDeviceFields
  | disconnected payload => payload.toDeviceFields
  | eventReported payload => payload.toDeviceFields
  | serviceCallRequested payload => payload.toDeviceFields
  | serviceCallAcknowledged payload => payload.toDeviceFields

/-- The body of the handler of this payload. -/
def body (out : Surroundings) (world : World) (env : Envelope) :
    Payload → Body Unit
  | propertyReported payload => propertyReportBody out world env payload
  | propertySetRequested payload =>
      propertySetRequestedBody out world env payload
  | propertySetAcknowledged payload => propertySetBody out world env payload
  | connected payload => connectedBody out world env payload
  | disconnected payload => disconnectedBody out world env payload
  | eventReported payload => eventReportBody out world env payload
  | serviceCallRequested payload =>
      serviceCallRequestedBody out world env payload
  | serviceCallAcknowledged payload => serviceCallBody out world env payload

end Payload

variable {out : Surroundings} {world : World}

section Frame

variable {α : Type} {what : String} {decode : Json → Option α}
  {fields : α → DeviceFields} {body : α → Body Unit} {env : Envelope}

theorem trace_handleWith (hctx : out.ctxErr .handler = none) :
    (handleWith out what decode fields body env).2 =
      ((decode env.payload).map fun payload => (body payload).trace).getD
        [] := by
  rw [handleWith]
  rw [hctx]
  cases decode env.payload with
  | none => rfl
  | some payload =>
      simp only [Option.map_some, Option.getD_some]
      split <;> rfl

theorem trace_handleWith_of_ctx (hctx : out.ctxErr .handler ≠ none) :
    (handleWith out what decode fields body env).2 = [] := by
  rw [handleWith]
  split
  · rfl
  next hnone => exact absurd hnone hctx

/-- A handler leaves nothing but what its body leaves. -/
theorem mem_trace_handleWith {effect : Effect}
    (hmem : effect ∈ (handleWith out what decode fields body env).2) :
    ∃ payload, decode env.payload = some payload ∧
      effect ∈ (body payload).trace := by
  by_cases hctx : out.ctxErr .handler = none
  · rw [trace_handleWith hctx] at hmem
    cases hdecode : decode env.payload with
    | none =>
        rw [hdecode] at hmem
        cases hmem
    | some payload =>
        rw [hdecode] at hmem
        exact ⟨payload, rfl, hmem⟩
  · rw [trace_handleWith_of_ctx hctx] at hmem
    cases hmem

theorem mem_trace_of_handleWith {payload : α} {effect : Effect}
    (hdecode : decode env.payload = some payload)
    (hmem : effect ∈ (handleWith out what decode fields body env).2) :
    effect ∈ (body payload).trace := by
  obtain ⟨found, hfound, hbody⟩ := mem_trace_handleWith hmem
  rw [hdecode] at hfound
  cases hfound
  exact hbody

theorem handleWith_ack_iff :
    (handleWith out what decode fields body env).1.decision = .ack ↔
      out.ctxErr .handler = none ∧ ∃ payload,
        decode env.payload = some payload ∧
        (body payload).outcome = .ok () := by
  rw [handleWith]
  split
  next err herr => simp [herr]
  next hnone =>
    simp only [hnone, true_and]
    cases hdecode : decode env.payload with
    | none => simp
    | some payload =>
        simp only [Option.some.injEq, exists_eq_left']
        cases hbody : (body payload).outcome with
        | ok value => simp
        | error stop => cases stop <;> simp [Stop.decision]

end Frame

section Bodies

variable {env : Envelope} {effect : Effect}

/-- The input of `MarkOnline` and `MarkOffline`. -/
def connectionInput (fields : DeviceFields) (occurredAt : Int) :
    DeviceConnectionEvent :=
  ⟨fields.tenantID, fields.productID, fields.deviceID, occurredAt⟩

/-- A connection event of these fields matches a devices row. -/
def UpdatesRow (world : World) (env : Envelope) (status : Connection.Status)
    (fields : DeviceFields) : Prop :=
  ∃ time deviceID tenantID, parseRFC3339Nano env.occurredAt = some time ∧
    Matches world (connectionInput fields time) status deviceID tenantID

theorem mem_trace_connectionBody {fields : DeviceFields}
    {mark : DeviceConnectionEvent → Call Bool}
    {context status reason : String} :
    effect ∈ (connectionBody out env fields mark context status reason).trace ↔
      ∃ time, parseRFC3339Nano env.occurredAt = some time ∧
        (effect ∈ (mark (connectionInput fields time)).trace ∨
          (mark (connectionInput fields time)).outcome = .ok true ∧
            effect ∈ (publishEvent out .connectionChanged env.tenantID
              env.eventID time (ConnectionChangedPayload.json
                { toDeviceFields := fields
                  status := status
                  reason := reason })).trace) := by
  unfold connectionBody connectionInput
  simp only [Traced.mem_trace_bind, Traced.trace_mapStop, trace_parseOccurredAt,
    List.not_mem_nil, false_or, Traced.outcome_mapStop_eq_ok,
    outcome_parseOccurredAt_eq_ok, trace_orRetry, outcome_orRetry_eq_ok]
  refine exists_congr fun time => and_congr_right fun _ => or_congr_right ?_
  constructor
  · rintro ⟨applied, hok, hmem⟩
    cases applied with
    | false => simp at hmem
    | true => exact ⟨hok, hmem⟩
  · rintro ⟨hok, hmem⟩
    exact ⟨true, hok, hmem⟩

/-- An acknowledged connection event has been applied and published, or it
matched no row. -/
theorem connectionBody_ok {fields : DeviceFields}
    {mark : DeviceConnectionEvent → Call Bool} {context status reason : String}
    (hok : (connectionBody out env fields mark context status reason).outcome =
      .ok ()) :
    ∃ time applied, parseRFC3339Nano env.occurredAt = some time ∧
      (mark (connectionInput fields time)).outcome = .ok applied ∧
      (applied = true →
        (publishEvent out .connectionChanged env.tenantID env.eventID time
          (ConnectionChangedPayload.json
            { toDeviceFields := fields
              status := status
              reason := reason })).outcome = .ok ()) := by
  rw [connectionBody] at hok
  simp only [Traced.outcome_bind_eq_ok, Traced.outcome_mapStop_eq_ok,
    outcome_parseOccurredAt_eq_ok, outcome_orRetry_eq_ok] at hok
  obtain ⟨time, htime, applied, hmark, hok⟩ := hok
  refine ⟨time, applied, htime, hmark, fun happlied => ?_⟩
  rw [happlied, if_pos rfl] at hok
  exact outcome_orRetry_eq_ok.mp hok

section Report

variable {validate : Call Validated} {stop : Failure → Stop}
  {save : Validated → Call Unit} {payload : Validated → Json}
  {eventType : EventType} {saving publishing : String}

/-- The state event of a report. -/
def reportEvent (out : Surroundings) (env : Envelope) (eventType : EventType)
    (payload : Json) : Call Unit :=
  publishEvent out eventType env.tenantID env.eventID (occurredAtOrZero env)
    payload

theorem mem_trace_reportBody :
    effect ∈ (reportBody out env validate stop saving save publishing eventType
        payload).trace ↔
      effect ∈ validate.trace ∨ ∃ validated, validate.outcome = .ok validated ∧
        (effect ∈ (save validated).trace ∨ (save validated).outcome = .ok () ∧
          effect ∈ (reportEvent out env eventType
            (payload validated)).trace) := by
  rw [reportBody]
  simp only [Traced.mem_trace_bind, Traced.trace_mapStop,
    Traced.outcome_mapStop_eq_ok, trace_orRetry, outcome_orRetry_eq_ok]
  apply or_congr_right
  apply exists_congr
  intro validated
  apply and_congr_right
  intro _
  apply or_congr_right
  constructor
  · rintro ⟨_, hok, hmem⟩
    exact ⟨hok, hmem⟩
  · rintro ⟨hok, hmem⟩
    exact ⟨(), hok, hmem⟩

theorem reportBody_ok
    (hok : (reportBody out env validate stop saving save publishing eventType
      payload).outcome = .ok ()) :
    ∃ validated, validate.outcome = .ok validated ∧
      (save validated).outcome = .ok () ∧
      (reportEvent out env eventType (payload validated)).outcome = .ok () := by
  rw [reportBody] at hok
  simp only [Traced.outcome_bind_eq_ok, Traced.outcome_mapStop_eq_ok,
    outcome_orRetry_eq_ok] at hok
  obtain ⟨validated, hvalidate, _, hsave, hpublish⟩ := hok
  exact ⟨validated, hvalidate, hsave, hpublish⟩

end Report

section Command

variable {saving publishing : String} {save publish : Call Unit}

theorem mem_trace_commandBody :
    effect ∈ (commandBody saving save publishing publish).trace ↔
      effect ∈ save.trace ∨ save.outcome = .ok () ∧ effect ∈ publish.trace := by
  rw [commandBody]
  simp only [Traced.mem_trace_bind, trace_orRetry, outcome_orRetry_eq_ok]
  apply or_congr_right
  constructor
  · rintro ⟨_, hok, hmem⟩
    exact ⟨hok, hmem⟩
  · rintro ⟨hok, hmem⟩
    exact ⟨(), hok, hmem⟩

theorem trace_commandBody_of_ok (hsaved : save.outcome = .ok ()) :
    (commandBody saving save publishing publish).trace =
      save.trace ++ publish.trace := by
  rw [commandBody, Traced.trace_bind_of_ok (outcome_orRetry_eq_ok.mpr hsaved),
    trace_orRetry, trace_orRetry]

theorem commandBody_ok
    (hok : (commandBody saving save publishing publish).outcome = .ok ()) :
    save.outcome = .ok () ∧ publish.outcome = .ok () := by
  rw [commandBody] at hok
  simp only [Traced.outcome_bind_eq_ok, outcome_orRetry_eq_ok] at hok
  obtain ⟨_, hsave, hpublish⟩ := hok
  exact ⟨hsave, hpublish⟩

end Command

section ServiceCall

variable {payload : ServiceCallAcknowledgedPayload}

theorem mem_trace_serviceCallBody :
    effect ∈ (serviceCallBody out world env payload).trace ↔
      effect ∈ (validateServiceCall out world payload.tenantID payload.productID
          payload.serviceName (payload.output.getD GoMap.empty)).trace ∨
        ∃ validated, (validateServiceCall out world payload.tenantID
            payload.productID payload.serviceName
            (payload.output.getD GoMap.empty)).outcome = .ok validated ∧
          effect ∈ (saveServiceCallAcknowledgement out world env
            { payload with output := some validated.accepted }).trace := by
  rw [serviceCallBody]
  simp only [Traced.mem_trace_bind, Traced.trace_mapStop,
    Traced.outcome_mapStop_eq_ok, trace_orRetry]

theorem serviceCallBody_ok
    (hok : (serviceCallBody out world env payload).outcome = .ok ()) :
    ∃ validated, (validateServiceCall out world payload.tenantID
        payload.productID payload.serviceName
        (payload.output.getD GoMap.empty)).outcome = .ok validated ∧
      (saveServiceCallAcknowledgement out world env
        { payload with output := some validated.accepted }).outcome =
        .ok () := by
  rw [serviceCallBody] at hok
  simpa only [Traced.outcome_bind_eq_ok, Traced.outcome_mapStop_eq_ok,
    outcome_orRetry_eq_ok] using hok

end ServiceCall

section Inserts

variable {table : Table} {row : EventRow}

theorem not_insert_of_ofLookup {kind : ThingsModel.Section}
    {tenantID productID : String}
    (heffect : (Effect.insert table row).OfLookup kind tenantID productID) :
    False := by
  rcases heffect with heq | ⟨key, entry, heq⟩ <;> cases heq

theorem insert_of_report {validate : Call Validated} {stop : Failure → Stop}
    {save : Validated → Call Unit} {eventType : EventType}
    {payload : Validated → Json} {saving publishing : String}
    {kind : ThingsModel.Section} {tenantID productID : String}
    (hlookups : ∀ effect ∈ validate.trace,
      effect.OfLookup kind tenantID productID)
    (hmem : .insert table row ∈ (reportBody out env validate stop saving save
      publishing eventType payload).trace) :
    ∃ validated, validate.outcome = .ok validated ∧
      .insert table row ∈ (save validated).trace := by
  rcases mem_trace_reportBody.mp hmem with
    hmem | ⟨validated, hok, hmem | ⟨-, hmem⟩⟩
  · exact (not_insert_of_ofLookup (hlookups _ hmem)).elim
  · exact ⟨validated, hok, hmem⟩
  · obtain ⟨-, -, -, id, -, heq⟩ := mem_trace_publishEvent.mp hmem
    cases heq

theorem not_insert_of_connection {fields : DeviceFields}
    {status : Connection.Status} {marking context text reason : String}
    {mark : DeviceConnectionEvent → Call Bool}
    {redis : DeviceConnectionEvent → Effect}
    (hmark : ∀ input, mark input =
      markConnection out world input status marking (redis input))
    (hredis : ∀ input, .insert table row ≠ redis input) :
    .insert table row ∉
      (connectionBody out env fields mark context text reason).trace := by
  intro hmem
  obtain ⟨time, -, hmem⟩ := mem_trace_connectionBody.mp hmem
  rw [hmark] at hmem
  rcases hmem with hmem | ⟨-, hmem⟩
  · obtain ⟨-, hmem | ⟨-, -, heq⟩⟩ := mem_trace_markConnection.mp hmem
    · obtain ⟨-, _, _, -, heq⟩ := mem_trace_updateConnectionStatus.mp hmem
      cases heq
    · exact hredis _ heq
  · obtain ⟨-, -, -, id, -, heq⟩ := mem_trace_publishEvent.mp hmem
    cases heq

end Inserts

end Bodies

section Process

variable {formats : FormatChecker} {message : Option Json} {env : Envelope}
  {eventType : EventType}

/-- The event of a message that a handler takes up. -/
def eventOf (formats : FormatChecker) (message : Option Json) :
    Option (Envelope × Payload) :=
  match validateEvent formats message with
  | .ok (env, eventType) =>
      (Payload.decode eventType env.payload).map fun payload => (env, payload)
  | .error _ => none

/-- The context is not done before the handler's body. -/
def Begins (out : Surroundings) : Prop :=
  out.ctxErr .process = none ∧ out.ctxErr .handler = none

/-- The trace of `Process` is the trace of the body. -/
theorem trace_process
    (hvalid : validateEvent formats message = .ok (env, eventType))
    (hbegins : Begins out) :
    (process out world formats message).2 =
      ((Payload.decode eventType env.payload).map fun payload =>
        (payload.body out world env).trace).getD [] := by
  rw [process]
  rw [hbegins.1, hvalid]
  cases eventType <;>
    simp only [handlerOf, propertyReportHandle, propertySetRequestedHandle,
      propertySetHandle, connectedHandle, disconnectedHandle,
      eventReportHandle, serviceCallRequestedHandle, serviceCallHandle,
      trace_handleWith hbegins.2, Payload.decode, Option.map_map,
      Option.map_none, Option.getD_none] <;>
    rfl

theorem trace_process_of_not_begins
    (hvalid : validateEvent formats message = .ok (env, eventType))
    (hnot : ¬ Begins out) : (process out world formats message).2 = [] := by
  rw [process]
  rw [hvalid]
  split
  · rfl
  next hctx =>
    have hhandler : out.ctxErr .handler ≠ none := fun hnone =>
      hnot ⟨hctx, hnone⟩
    cases eventType <;>
      simp only [handlerOf, propertyReportHandle, propertySetRequestedHandle,
        propertySetHandle, connectedHandle, disconnectedHandle,
        eventReportHandle, serviceCallRequestedHandle, serviceCallHandle,
        trace_handleWith_of_ctx hhandler]

theorem process_ack_iff
    (hvalid : validateEvent formats message = .ok (env, eventType)) :
    (process out world formats message).1.decision = .ack ↔
      Begins out ∧ ∃ payload,
        Payload.decode eventType env.payload = some payload ∧
          (payload.body out world env).outcome = .ok () := by
  rw [process, Begins]
  rw [hvalid]
  split
  next err herr => simp [herr]
  next hctx =>
    simp only [hctx, true_and]
    cases eventType <;>
        simp [handlerOf, propertyReportHandle, propertySetRequestedHandle,
          propertySetHandle, connectedHandle, disconnectedHandle,
          eventReportHandle, serviceCallRequestedHandle, serviceCallHandle,
          Result.fill, handleWith_ack_iff, Payload.decode, Payload.body]

end Process

section Samples

/-- A call that meets no fault, at noon of 5 May 2026. -/
def calm : Surroundings where
  ctxErr _ := none
  clock _ := 1777982400000000000
  outcome _ := .ok
  errText _ := ""
  newID := .ok 9
  onlineTTL := 90000000000

/-- One switch and one event without parameters. -/
def sampleModel : StoredModel where
  properties := .obj
    [("led", .obj [("name", .str "LED"), ("data_type", .str "bool"),
      ("required", .bool true), ("access_mode", .str "readwrite")])]
  events := .obj
    [("alarm", .obj [("name", .str "Alarm"), ("level", .str "info"),
      ("output", .obj [])])]
  services := .obj []

/-- One device, never seen, and one thing model for every product. -/
def sampleWorld : World where
  rows _ := []
  devices id := if id = 3 then some ⟨1, ⟨.offline, none⟩, 0⟩ else none
  online _ := none
  stateTopic := []
  downlinks := []
  models _ _ := some sampleModel
  caches _ _ := none

/-- An event of the first tenant about its device; the payload names a tenant of
its own. -/
def sampleEvent (eventType : EventType) (payloadTenantID : String)
    (members : List (String × Json)) : Envelope where
  eventID := Uuid.text 10
  eventType := eventType.text
  eventVersion := 1
  occurredAt := "2026-05-05T12:00:00Z"
  producer := "emqx"
  tenantID := Uuid.text 1
  traceID := ""
  correlationID := ""
  causationID := ""
  payload := .obj
    (DeviceFields.members ⟨payloadTenantID, Uuid.text 2, Uuid.text 3, "default",
      "esp32", "dev-1"⟩ ++ ("protocol", .str "mqtt") :: members)

/-- A report of the first tenant's device, under the given payload tenant. -/
def sampleReport (payloadTenantID : String) : Envelope :=
  sampleEvent .propertyReported payloadTenantID
    [("properties", .obj [("led", .bool true)])]

/-- The report of the tenant itself passes the schemas. -/
theorem sampleReport_valid :
    validateEvent FormatChecker.byShape
        (some (sampleReport (Uuid.text 1)).json) =
      .ok (sampleReport (Uuid.text 1), .propertyReported) := rfl

end Samples

end Processor

end LinkFlow
