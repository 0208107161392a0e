/-
Device commands: the backend's checks of a request, and the command event it
publishes for a request it accepts.
-/
import LinkFlow.EventEnvelope
import LinkFlow.Lib.Traced
import LinkFlow.ValueCheck

namespace LinkFlow

namespace DeviceService

open ThingsModel

/-- A property or service that a command is sent to.  `definitions` holds the
properties in `DevicePropertySetTarget`, the services in
`DeviceServiceCallTarget`. -/
structure DeviceTarget extends DeviceFields where
  deviceStatus : String
  connectionStatus : String
  definitions : GoMap Json

/-- `tenant_slug ~ '^[a-z0-9][a-z0-9-]{1,61}[a-z0-9]$'`; product keys have the
same check. -/
def validSlug (slug : String) : Bool :=
  3 ≤ slug.length && slug.length ≤ 63 && Schemas.kebabPattern.matches slug &&
    slug.toList.getLast?.all fun char => isLowerLetter char || isDigit char

/-- `device_slug ~ '^[a-zA-Z0-9][a-zA-Z0-9._:-]{0,127}$'` -/
def deviceSlugPattern : Pattern where
  head char := isLetter char || isDigit char
  tail char := isLetter char || isDigit char || char ∈ ['.', '_', ':', '-']

def validDeviceSlug (slug : String) : Bool :=
  deviceSlugPattern.matches slug && slug.length ≤ 128

/-- What the columns behind a target guarantee. -/
structure StoredFields (fields : DeviceFields) : Prop where
  tenantID : ∃ id : Uuid, fields.tenantID = Uuid.text id
  productID : ∃ id : Uuid, fields.productID = Uuid.text id
  deviceID : ∃ id : Uuid, fields.deviceID = Uuid.text id
  tenantSlug : validSlug fields.tenantSlug = true
  productKey : validSlug fields.productKey = true
  deviceSlug : validDeviceSlug fields.deviceSlug = true

def devicePropertySetDownTopic (tenantSlug productKey deviceSlug : String) :
    String :=
  "lf/v1/" ++ tenantSlug ++ "/" ++ productKey ++ "/" ++ deviceSlug ++
    "/property/down/set"

def deviceServiceDownTopic
    (tenantSlug productKey deviceSlug serviceName : String) : String :=
  "lf/v1/" ++ tenantSlug ++ "/" ++ productKey ++ "/" ++ deviceSlug ++
    "/service/down/" ++ serviceName

/-- The accepted properties are a copy of the given ones. -/
def validateDevicePropertySetInput (propertiesDef properties : GoMap Json) :
    Except DeviceError (GoMap Json) :=
  if properties.isEmpty then .error .invalidDeviceInput
  else
    match properties.range fun name value =>
        if !validThingsModelIdentifier name then .error .invalidDeviceInput
        else
          match (propertiesDef.get? name).bind Json.object? with
          | none => .error .invalidDeviceInput
          | some definition =>
              if optionalString definition "access_mode" ∉
                  ["write", "readwrite"] then
                .error .invalidDeviceInput
              else validateDeviceServiceCallValue name definition value with
    | .error err => .error err
    | .ok () => .ok properties

def validateDeviceServiceCallInput (serviceName : String)
    (services input : GoMap Json) : Except DeviceError (GoMap Json) :=
  match services.get? serviceName with
  | none => .error .deviceServiceNotFound
  | some service =>
      match service.object?.bind fun definition =>
          (definition.get? "input").bind Json.object? with
      | none => .error .invalidDeviceInput
      | some inputDef =>
          match input.range fun name value =>
              match inputDef.get? name with
              | none => .error .invalidDeviceInput
              | some raw =>
                  if !validThingsModelIdentifier name then
                    .error .invalidDeviceInput
                  else
                    match raw.object? with
                    | none => .error .invalidDeviceInput
                    | some definition =>
                        validateDeviceServiceCallValue name
                          definition value with
          | .error err => .error err
          | .ok () =>
              match inputDef.range fun name raw =>
                  match raw.object? with
                  | none => .error .invalidDeviceInput
                  | some definition =>
                      let required :=
                        ((definition.get? "required").bind Json.bool?).getD
                          false
                      if required && (input.get? name).isNone then
                        .error .invalidDeviceInput
                      else .ok () with
              | .error err => .error err
              | .ok () => .ok input

/-- What publishing meets: the request's context, the id generator, the clock
and the broker. -/
structure Broker where
  ctxErr : Option String
  newID : Except String Uuid
  clock : Int
  send : KafkaRecord → Except String Unit

/-- `NewPropertySetPublisher` and `NewServiceCallPublisher` are given this
name. -/
def producer : String := "backend"

/-- A call with the records it hands to the broker on its way. -/
abbrev Sends := Traced KafkaRecord

/-- The record of a command, in the envelope that `NewEnvelope` makes. -/
def commandRecord (broker : Broker) (eventType : EventType) (id : Uuid)
    (commandID tenantID : String) (occurredAt : Int) (payload : Json) :
    KafkaRecord :=
  let envelope := newEnvelope eventType id occurredAt broker.clock producer
    tenantID commandID "" payload
  { topic := eventType.topic
    key := commandID
    value := envelope.json
    headers := envelope.headers ++ [("command_id", commandID)] }

/-- The common part of the two publishers, after their checks, with the record
they send.  One whose `Send` reports an error has been handed over all the
same. -/
def publishCommand (broker : Broker) (subject : String) (eventType : EventType)
    (commandID tenantID : String) (occurredAt : Int) (payload : Json) :
    Sends String KafkaRecord := do
  let id ← .lift (broker.newID.mapError fun err =>
    "create " ++ subject ++ " requested envelope: " ++ err)
  let record := commandRecord broker eventType id commandID tenantID occurredAt
    payload
  .emit record
  .lift (broker.send record)
  return record

/-- `DevicePropertySetMessage` has the fields of the payload and a time. -/
def publishPropertySet (broker : Broker) (message : PropertySetRequestedPayload)
    (occurredAt : Int) : Sends String KafkaRecord :=
  match broker.ctxErr with
  | some err => .stop err
  | none =>
      if message.commandID = "" then
        .stop "property set command_id is required"
      else if message.tenantID = "" then
        .stop "property set tenant_id is required"
      else if (message.properties.getD GoMap.empty).isEmpty then
        .stop "property set properties are required"
      else
        publishCommand broker "property set" .propertySetRequested
          message.commandID message.tenantID occurredAt message.json

def publishServiceCall (broker : Broker) (message : ServiceCallRequestedPayload)
    (occurredAt : Int) : Sends String KafkaRecord :=
  match broker.ctxErr with
  | some err => .stop err
  | none =>
      if message.commandID = "" then
        .stop "service call command_id is required"
      else if message.tenantID = "" then
        .stop "service call tenant_id is required"
      else
        let message :=
          { message with input := some (message.input.getD GoMap.empty) }
        publishCommand broker "service call" .serviceCallRequested
          message.commandID message.tenantID occurredAt message.json

/-- What a request meets: its context, the configured publisher, the store, the
random source and the clock. -/
structure Surroundings where
  ctxErr : Option String
  publisher : Option Broker
  findTarget : String → String → Except DeviceError DeviceTarget
  commandID : Except String Uuid
  clock : Int

structure DevicePropertySetResult where
  commandID : String
  topic : String
  properties : GoMap Json
  sentAt : Int

structure DeviceServiceCallResult where
  commandID : String
  topic : String
  serviceName : String
  input : GoMap Json
  sentAt : Int

/-- The lookup both requests begin with: an active device that is online. -/
def readyTarget (outside : Surroundings) (userID deviceID : String) :
    Except DeviceError DeviceTarget :=
  match outside.findTarget userID deviceID with
  | .error err => .error err
  | .ok target =>
      if target.deviceStatus ≠ "active" then .error .invalidDeviceInput
      else if target.connectionStatus ≠ "online" then .error .deviceOffline
      else .ok target

/-- The command id both requests draw after their checks. -/
def drawCommandID (outside : Surroundings) : Sends DeviceError Uuid :=
  .lift (outside.commandID.mapError fun err =>
    .other ("generate command id: " ++ err))

/-- The message `SetProperties` publishes. -/
def propertySetMessage (target : DeviceTarget) (id : Uuid) (userID : String)
    (properties : GoMap Json) : PropertySetRequestedPayload where
  toDeviceFields := target.toDeviceFields
  commandID := Uuid.text id
  protocol := "mqtt"
  topic := devicePropertySetDownTopic target.tenantSlug target.productKey
    target.deviceSlug
  properties := some properties
  requestedBy := userID

/-- The message `CallService` publishes. -/
def serviceCallMessage (target : DeviceTarget) (id : Uuid)
    (userID serviceName : String) (input : GoMap Json) :
    ServiceCallRequestedPayload where
  toDeviceFields := target.toDeviceFields
  commandID := Uuid.text id
  protocol := "mqtt"
  topic := deviceServiceDownTopic target.tenantSlug target.productKey
    target.deviceSlug serviceName
  serviceName := serviceName
  input := some input
  requestedBy := userID

/-- `SetProperties`, with what it hands to the broker and the record it
published. -/
def setPropertiesTraced (outside : Surroundings) (userID deviceID : String)
    (properties : GoMap Json) :
    Sends DeviceError (DevicePropertySetResult × KafkaRecord) :=
  match outside.ctxErr, outside.publisher with
  | some err, _ => .stop (.other err)
  | none, none => .stop .commandPublisherUnavailable
  | none, some broker =>
      let userID := trimSpace userID
      let deviceID := trimSpace deviceID
      if userID = "" || deviceID = "" || properties.isEmpty then
        .stop .invalidDeviceInput
      else do
        let target ← .lift (readyTarget outside userID deviceID)
        let accepted ←
          .lift (validateDevicePropertySetInput target.definitions properties)
        let id ← drawCommandID outside
        let message := propertySetMessage target id userID accepted
        let record ← (publishPropertySet broker message outside.clock).mapStop
          fun err =>
            .other ("publish device property set requested event: " ++ err)
        return (⟨message.commandID, message.topic, accepted, outside.clock⟩,
          record)

/-- `CallService`, with what it hands to the broker and the record it
published. -/
def callServiceTraced (outside : Surroundings)
    (userID deviceID serviceName : String) (input : Option (GoMap Json)) :
    Sends DeviceError (DeviceServiceCallResult × KafkaRecord) :=
  match outside.ctxErr, outside.publisher with
  | some err, _ => .stop (.other err)
  | none, none => .stop .commandPublisherUnavailable
  | none, some broker =>
      let userID := trimSpace userID
      let deviceID := trimSpace deviceID
      let serviceName := trimSpace serviceName
      if userID = "" || deviceID = "" || serviceName = "" ||
          !validThingsModelIdentifier serviceName then
        .stop .invalidDeviceInput
      else do
        let target ← .lift (readyTarget outside userID deviceID)
        let accepted ← .lift (validateDeviceServiceCallInput serviceName
          target.definitions (input.getD GoMap.empty))
        let id ← drawCommandID outside
        let message := serviceCallMessage target id userID serviceName accepted
        let record ← (publishServiceCall broker message outside.clock).mapStop
          fun err =>
            .other ("publish device service call requested event: " ++ err)
        return (⟨message.commandID, message.topic, serviceName, accepted,
          outside.clock⟩, record)

/-- `SetProperties`, with the record it published. -/
def setProperties (outside : Surroundings) (userID deviceID : String)
    (properties : GoMap Json) :
    Except DeviceError (DevicePropertySetResult × KafkaRecord) :=
  (setPropertiesTraced outside userID deviceID properties).outcome

/-- `SetProperties` with what it sends. -/
def setPropertiesSends (outside : Surroundings) (userID deviceID : String)
    (properties : GoMap Json) : Sends DeviceError DevicePropertySetResult :=
  Prod.fst <$> setPropertiesTraced outside userID deviceID properties

/-- `CallService`, with the record it published. -/
def callService (outside : Surroundings)
    (userID deviceID serviceName : String) (input : Option (GoMap Json)) :
    Except DeviceError (DeviceServiceCallResult × KafkaRecord) :=
  (callServiceTraced outside userID deviceID serviceName input).outcome

/-- `CallService` with what it sends. -/
def callServiceSends (outside : Surroundings)
    (userID deviceID serviceName : String) (input : Option (GoMap Json)) :
    Sends DeviceError DeviceServiceCallResult :=
  Prod.fst <$> callServiceTraced outside userID deviceID serviceName input

end DeviceService

end LinkFlow
