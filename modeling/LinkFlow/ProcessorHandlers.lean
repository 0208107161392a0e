/-
The validators, the eight handlers and `Process`.
-/
import LinkFlow.ProcessorStores

namespace LinkFlow

namespace Processor

open ThingsModel

variable (out : Surroundings) (world : World)

section Validators

def cacheKey (tenantID productID : String) : String :=
  tenantID ++ "|" ++ productID

/-- `DefaultCacheTTL` -/
def defaultCacheTTL : Int := 30 * 1000000000

/-- `lookup`: the cached definition while it is fresh, else the current one. -/
def lookup (kind : ThingsModel.Section) (tenantID productID : String) :
    Call Definition := do
  let key := cacheKey tenantID productID
  .emit (.lookup kind tenantID productID)
  match (world.caches kind key).filter fun entry =>
      out.clock .cacheRead < entry.expiresAt with
  | some entry => return entry.definition
  | none =>
      let definition ← findCurrentByProductID out world tenantID productID
      .emit (.cache kind key
        ⟨definition, out.clock .cacheWrite + defaultCacheTTL⟩)
      return definition

structure Validated where
  accepted : GoMap Json
  dropped : List String

/-- The loop of the three validators: unknown names are dropped, a known value
that does not fit ends the loop with an error. -/
def acceptKnown (sentinel : Sentinel) (known : GoMap PropertyDefinition)
    (values : GoMap Json) : Except ValueError Validated :=
  match values.range fun name value =>
      match known.get? name with
      | none => .ok ()
      | some definition =>
          validateDefinedValue name definition value sentinel with
  | .error err => .error err
  | .ok () =>
      .ok
        { accepted := values.filter fun name _ => (known.get? name).isSome
          dropped := values.keys.filter fun name => (known.get? name).isNone }

/-- The frame of the three validators: the context, the required fields, the
lookup, the verdict. -/
def validateWith (kind : ThingsModel.Section) (refused : Option Failure)
    (tenantID productID : String)
    (verdict : Definition → Except Failure Validated) : Call Validated := do
  out.checkCtx .validator
  match refused with
  | some err => .stop err
  | none =>
      let definition ← lookup out world kind tenantID productID
      .lift (verdict definition)

def propertyVerdict (properties : GoMap Json) (definition : Definition) :
    Except Failure Validated :=
  match acceptKnown .invalidPropertyValue definition.properties properties with
  | .error err => .error (.value err)
  | .ok validated =>
      if validated.accepted.isEmpty then .error .noAcceptedProperties
      else .ok validated

/-- `PropertyReportValidator.Validate` -/
def validatePropertyReport (tenantID productID : String)
    (properties : GoMap Json) : Call Validated :=
  let tenantID := trimSpace tenantID
  let productID := trimSpace productID
  let refused : Option Failure :=
    if tenantID = "" || productID = "" then
      some (.text
        "validate property report: tenant_id and product_id are required")
    else if properties.isEmpty then some .noAcceptedProperties
    else none
  validateWith out world .properties refused tenantID productID
    (propertyVerdict properties)

/-- An event without declared output accepts nothing, and that is no error. -/
def eventVerdict (eventName : String) (params : GoMap Json)
    (definition : Definition) : Except Failure Validated :=
  match definition.events.get? eventName with
  | none => .error .eventNotFound
  | some event =>
      if event.output.isEmpty then .ok ⟨GoMap.empty, params.keys⟩
      else if params.isEmpty then .error .noAcceptedEventParams
      else
        match acceptKnown .invalidEventValue event.output params with
        | .error err => .error (.value err)
        | .ok validated =>
            if validated.accepted.isEmpty then .error .noAcceptedEventParams
            else .ok validated

/-- `EventReportValidator.Validate` -/
def validateEventReport (tenantID productID eventName : String)
    (params : GoMap Json) : Call Validated :=
  let tenantID := trimSpace tenantID
  let productID := trimSpace productID
  let eventName := trimSpace eventName
  let refused : Option Failure :=
    if tenantID = "" || productID = "" || eventName = "" then
      some (.text
        "validate event report: tenant_id, product_id and event_name are required")
    else none
  validateWith out world .events refused tenantID productID
    (eventVerdict eventName params)

/-- Unlike an event, an acknowledgement may be left with nothing accepted. -/
def serviceVerdict (serviceName : String) (output : GoMap Json)
    (definition : Definition) : Except Failure Validated :=
  match definition.services.get? serviceName with
  | none => .error .serviceNotFound
  | some service =>
      if service.output.isEmpty then .ok ⟨GoMap.empty, output.keys⟩
      else if output.isEmpty then .ok ⟨GoMap.empty, []⟩
      else
        match acceptKnown .invalidServiceOutput service.output output with
        | .error err => .error (.value err)
        | .ok validated => .ok validated

/-- `ServiceCallValidator.Validate` -/
def validateServiceCall (tenantID productID serviceName : String)
    (output : GoMap Json) : Call Validated :=
  let tenantID := trimSpace tenantID
  let productID := trimSpace productID
  let serviceName := trimSpace serviceName
  let refused : Option Failure :=
    if tenantID = "" || productID = "" || serviceName = "" then
      some (.text
        "validate service call: tenant_id, product_id and service_name are required")
    else none
  validateWith out world .services refused tenantID productID
    (serviceVerdict serviceName output)

end Validators

/-- `Result` of the processor. -/
structure Result where
  decision : Decision
  eventID : String := ""
  eventType : String := ""
  eventVersion : Int := 0
  tenantID : String := ""
  productKey : String := ""
  deviceSlug : String := ""
  err : Option Failure := none

/-- A handler that does not acknowledge drops the message or asks for a
retry. -/
inductive Stop where
  | drop (err : Failure)
  | retry (err : Failure)
deriving Repr, DecidableEq

def Stop.decision : Stop → Decision
  | .drop _ => .drop
  | .retry _ => .retry

def Stop.err : Stop → Failure
  | .drop err | .retry err => err

/-- A handler's body, which ends with an Ack unless it stops. -/
abbrev Body := Traced Effect Stop

/-- Any error of a call asks for a retry. -/
def orRetry {α : Type} (context : String) (call : Call α) : Body α :=
  call.mapStop fun err => .retry (.wrap context err)

/-- The frame of all handlers: the context, the payload, the fields of the
result. -/
def handleWith {α : Type} (what : String) (decode : Json → Option α)
    (fields : α → DeviceFields) (body : α → Body Unit) (env : Envelope) :
    Result × List Effect :=
  match out.ctxErr .handler with
  | some err => ({ decision := .retry, err := some (.text err) }, [])
  | none =>
      let result (decision : Decision) : Result :=
        { decision := decision
          eventID := env.eventID
          eventType := env.eventType
          eventVersion := env.eventVersion
          tenantID := env.tenantID }
      match decode env.payload with
      | none => ({ result .drop with err := some (.decode what) }, [])
      | some payload =>
          let result (decision : Decision) : Result :=
            { result decision with
              productKey := (fields payload).productKey
              deviceSlug := (fields payload).deviceSlug }
          let run := body payload
          match run.outcome with
          | .ok () => (result .ack, run.trace)
          | .error stop =>
              ({ result stop.decision with err := some stop.err }, run.trace)

/-- The time of the envelope, or the zero time if it cannot be parsed. -/
def occurredAtOrZero (env : Envelope) : Int :=
  (parseRFC3339Nano env.occurredAt).getD zeroTime

/-- The common part of the two report handlers: the verdict of the thing model,
the row, the state event. -/
def reportBody (env : Envelope) (validate : Call Validated)
    (stop : Failure → Stop) (saving : String) (save : Validated → Call Unit)
    (publishing : String) (eventType : EventType) (payload : Validated → Json) :
    Body Unit := do
  let validated ← validate.mapStop stop
  orRetry saving (save validated)
  orRetry publishing (publishEvent out eventType env.tenantID env.eventID
    (occurredAtOrZero env) (payload validated))

/-- The switch on the validator's error; other errors ask for a retry. -/
def propertyReportStop : Failure → Stop
  | .thingsModelNotFound => .drop .thingsModelNotFound
  | .value err => .drop (.value err)
  | .noAcceptedProperties => .drop .noAcceptedProperties
  | err => .retry (.wrap "validate property report" err)

def propertyReportBody (env : Envelope) (payload : PropertyReportedPayload) :
    Body Unit :=
  reportBody out env
    (validatePropertyReport out world payload.tenantID payload.productID
      (payload.properties.getD GoMap.empty))
    propertyReportStop "save property report"
    (fun validated => savePropertyReport out world env
      { payload with properties := some validated.accepted })
    "publish property changed" .propertyChanged
    (fun validated => PropertyChangedPayload.json
      { toDeviceFields := payload.toDeviceFields
        properties := validated.accepted })

/-- `PropertyReportHandler.Handle` -/
def propertyReportHandle : Envelope → Result × List Effect := fun env =>
  handleWith out "property reported payload" PropertyReportedPayload.decode
    PropertyReportedPayload.toDeviceFields (propertyReportBody out world env)
    env

def eventReportStop : Failure → Stop
  | .thingsModelNotFound => .drop .thingsModelNotFound
  | .eventNotFound => .drop .eventNotFound
  | .value err => .drop (.value err)
  | .noAcceptedEventParams => .drop .noAcceptedEventParams
  | err => .retry (.wrap "validate event report" err)

def eventReportBody (env : Envelope) (payload : EventReportedPayload) :
    Body Unit :=
  reportBody out env
    (validateEventReport out world payload.tenantID payload.productID
      payload.eventName (payload.params.getD GoMap.empty))
    eventReportStop "save event report"
    (fun validated => saveEventReport out world env
      { payload with params := some validated.accepted })
    "publish event received" .eventReceived
    (fun validated => EventReceivedPayload.json
      { toDeviceFields := payload.toDeviceFields
        eventName := payload.eventName
        params := validated.accepted })

/-- `EventReportHandler.Handle` -/
def eventReportHandle : Envelope → Result × List Effect := fun env =>
  handleWith out "event reported payload" EventReportedPayload.decode
    EventReportedPayload.toDeviceFields (eventReportBody out world env) env

/-- The common part of the two request handlers: the row, then the device. -/
def commandBody (saving : String) (save : Call Unit) (publishing : String)
    (publish : Call Unit) : Body Unit := do
  orRetry saving save
  orRetry publishing publish

def propertySetRequestedBody (env : Envelope)
    (payload : PropertySetRequestedPayload) : Body Unit :=
  commandBody "save property set request"
    (savePropertySetRequest out world env payload)
    "publish property set to mqtt" (publishPropertySet out payload)

/-- `PropertySetRequestedHandler.Handle` -/
def propertySetRequestedHandle : Envelope → Result × List Effect := fun env =>
  handleWith out "property set requested payload"
    PropertySetRequestedPayload.decode
    PropertySetRequestedPayload.toDeviceFields
    (propertySetRequestedBody out world env) env

def serviceCallRequestedBody (env : Envelope)
    (payload : ServiceCallRequestedPayload) : Body Unit :=
  commandBody "save service call request"
    (saveServiceCallRequest out world env payload)
    "publish service call to mqtt" (publishServiceCall out payload)

/-- `ServiceCallRequestedHandler.Handle` -/
def serviceCallRequestedHandle : Envelope → Result × List Effect := fun env =>
  handleWith out "service call requested payload"
    ServiceCallRequestedPayload.decode
    ServiceCallRequestedPayload.toDeviceFields
    (serviceCallRequestedBody out world env) env

/-- Nil maps are replaced by empty ones before the row is written. -/
def propertySetBody (env : Envelope)
    (payload : PropertySetAcknowledgedPayload) :
    Body Unit :=
  orRetry "save property set acknowledgement"
    (savePropertySetAcknowledgement out world env
      { payload with
        properties := some (payload.properties.getD GoMap.empty)
        raw := some (payload.raw.getD GoMap.empty) })

/-- `PropertySetHandler.Handle` -/
def propertySetHandle : Envelope → Result × List Effect := fun env =>
  handleWith out "property set acknowledged payload"
    PropertySetAcknowledgedPayload.decode
    PropertySetAcknowledgedPayload.toDeviceFields
    (propertySetBody out world env) env

def serviceCallStop : Failure → Stop
  | .thingsModelNotFound => .drop .thingsModelNotFound
  | .serviceNotFound => .drop .serviceNotFound
  | .value err => .drop (.value err)
  | err => .retry (.wrap "validate service call acknowledgement" err)

def serviceCallBody (env : Envelope)
    (payload : ServiceCallAcknowledgedPayload) :
    Body Unit := do
  let validated ← (validateServiceCall out world payload.tenantID
    payload.productID payload.serviceName
      (payload.output.getD GoMap.empty)).mapStop serviceCallStop
  orRetry "save service call acknowledgement"
    (saveServiceCallAcknowledgement out world env
      { payload with output := some validated.accepted })

/-- `ServiceCallHandler.Handle` -/
def serviceCallHandle : Envelope → Result × List Effect := fun env =>
  handleWith out "service call acknowledged payload"
    ServiceCallAcknowledgedPayload.decode
    ServiceCallAcknowledgedPayload.toDeviceFields
    (serviceCallBody out world env) env

/-- The common part of both connection handlers.  An event that matches no row
is acknowledged without a state event. -/
def connectionBody (env : Envelope) (fields : DeviceFields)
    (mark : DeviceConnectionEvent → Call Bool)
    (context status reason : String) :
    Body Unit := do
  let occurredAt ← (parseOccurredAt env).mapStop fun err => .drop err
  let applied ← orRetry context
    (mark ⟨fields.tenantID, fields.productID, fields.deviceID, occurredAt⟩)
  if applied then
    let changed : ConnectionChangedPayload :=
      { toDeviceFields := fields, status := status, reason := reason }
    orRetry "publish connection changed" (publishEvent out .connectionChanged
      env.tenantID env.eventID occurredAt changed.json)
  else return ()

def connectedBody (env : Envelope) (payload : ConnectedPayload) : Body Unit :=
  connectionBody out env payload.toDeviceFields (markOnline out world)
    "mark device online" "online" ""

/-- `DeviceConnectedHandler.Handle` -/
def connectedHandle : Envelope → Result × List Effect := fun env =>
  handleWith out "connected payload" ConnectedPayload.decode
    ConnectedPayload.toDeviceFields (connectedBody out world env) env

def disconnectedBody (env : Envelope) (payload : DisconnectedPayload) :
    Body Unit :=
  connectionBody out env payload.toDeviceFields (markOffline out world)
    "mark device offline" "offline" payload.reason

/-- `DeviceDisconnectedHandler.Handle` -/
def disconnectedHandle : Envelope → Result × List Effect := fun env =>
  handleWith out "disconnected payload" DisconnectedPayload.decode
    DisconnectedPayload.toDeviceFields (disconnectedBody out world env) env

/-- The handler registered for an event; the state events have none. -/
def handlerOf : EventType → Option (Envelope → Result × List Effect)
  | .propertyReported => some (propertyReportHandle out world)
  | .propertySetRequested => some (propertySetRequestedHandle out world)
  | .propertySetAcknowledged => some (propertySetHandle out world)
  | .eventReported => some (eventReportHandle out world)
  | .serviceCallRequested => some (serviceCallRequestedHandle out world)
  | .serviceCallAcknowledged => some (serviceCallHandle out world)
  | .connected => some (connectedHandle out world)
  | .disconnected => some (disconnectedHandle out world)
  | .connectionChanged | .propertyChanged | .eventReceived => none

/-- Fill the fields a handler left empty. -/
def Result.fill (result : Result) (env : Envelope) : Result :=
  { result with
    eventID := if result.eventID = "" then env.eventID else result.eventID
    eventType :=
      if result.eventType = "" then env.eventType else result.eventType
    eventVersion :=
      if result.eventVersion = 0 then env.eventVersion else result.eventVersion
    tenantID := if result.tenantID = "" then env.tenantID else result.tenantID }

/-- `EventProcessor.Process` -/
def process (formats : FormatChecker) (message : Option Json) :
    Result × List Effect :=
  match out.ctxErr .process with
  | some err => ({ decision := .retry, err := some (.text err) }, [])
  | none =>
      match validateEvent formats message with
      | .error err => ({ decision := .drop, err := some (.validation err) }, [])
      | .ok (env, eventType) =>
          match handlerOf out world eventType with
          | none =>
              ({ decision := .drop
                 eventID := env.eventID
                 eventType := env.eventType
                 eventVersion := env.eventVersion
                 tenantID := env.tenantID
                 err := some
                   (.unsupported env.eventType env.eventVersion) }, [])
          | some handler =>
              let (result, trace) := handler env
              (result.fill env, trace)

end Processor

end LinkFlow
