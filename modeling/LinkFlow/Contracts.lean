/-
The event contracts: event types, the envelope and the payloads, with the way
Go reads them from a JSON text and writes them to one.  A field read twice keeps
what the last reading leaves: null leaves a string as it was, and a map is
merged into.  Names other than the declared ones are left to the schemas, which
refuse them.
-/
import LinkFlow.Json
import Mathlib.Algebra.Group.Int.Defs

namespace LinkFlow

/-- The contracts of `event.Specs`, all of version 1. -/
inductive EventType where
  | propertyReported
  | propertySetRequested
  | propertySetAcknowledged
  | connected
  | disconnected
  | eventReported
  | serviceCallRequested
  | serviceCallAcknowledged
  | connectionChanged
  | propertyChanged
  | eventReceived
deriving Repr, DecidableEq

namespace EventType

def specs : List EventType :=
  [propertyReported, propertySetRequested, propertySetAcknowledged, connected,
    disconnected, eventReported, serviceCallRequested, serviceCallAcknowledged,
    connectionChanged, propertyChanged, eventReceived]

def text : EventType → String
  | propertyReported => "device.property.reported"
  | propertySetRequested => "device.property.set.requested"
  | propertySetAcknowledged => "device.property.set.acknowledged"
  | connected => "device.connection.connected"
  | disconnected => "device.connection.disconnected"
  | eventReported => "device.event.reported"
  | serviceCallRequested => "device.service.call.requested"
  | serviceCallAcknowledged => "device.service.call.acknowledged"
  | connectionChanged => "device.connection.changed"
  | propertyChanged => "device.property.changed"
  | eventReceived => "device.event.received"

def version : EventType → Int := fun _ => 1

/-- `TopicDeviceStateV1` for what the processor emits, `TopicDeviceEventsV1` for
what it reads. -/
def topic : EventType → String
  | connectionChanged | propertyChanged | eventReceived => "lf.v1.device.state"
  | _ => "lf.v1.device.events"

/-- `PayloadSchemaKey` -/
def key (eventType : EventType) : String :=
  eventType.text ++ ":v" ++ toString eventType.version

/-- `event.Lookup`. -/
def lookup (eventType : String) (version : Int) : Option EventType :=
  specs.find? fun spec => spec.text = eventType && spec.version = version

theorem lookup_text (eventType : EventType) :
    lookup eventType.text eventType.version = some eventType := by
  cases eventType <;> decide

end EventType

/-- Fold the readings of one name over the members of an object. -/
def decodeField {α : Type} (read : α → Json → Option α) (zero : α)
    (members : List (String × Json)) (name : String) : Option α :=
  members.foldl
    (fun held member =>
      if member.1 = name then held.bind (read · member.2) else held)
    (some zero)

def readString (held : String) : Json → Option String
  | .str value => some value
  | .null => some held
  | _ => none

/-- An integer literal that fits in 64 bits. -/
def readInt (held : Int) : Json → Option Int
  | .num value true =>
      if -2 ^ 63 ≤ value.num ∧ value.num < 2 ^ 63 then some value.num else none
  | .null => some held
  | _ => none

def readBool (held : Bool) : Json → Option Bool
  | .bool value => some value
  | .null => some held
  | _ => none

/-- A nil map is `none`. -/
def readMap (held : Option (GoMap Json)) : Json → Option (Option (GoMap Json))
  | .obj members => some (some ((held.getD GoMap.empty).setAll members))
  | .null => some none
  | _ => none

def decodeString := decodeField readString ""
def decodeInt := decodeField readInt 0
def decodeBool := decodeField readBool false
def decodeMap := decodeField readMap none

/-- A `json.RawMessage` keeps the last text. -/
def decodeRaw (members : List (String × Json)) (name : String) : Json :=
  (GoMap.lastMember members name).getD .null

/-- `json:",omitempty"` on a string. -/
def omitEmpty (name text : String) : List (String × Json) :=
  if text = "" then [] else [(name, .str text)]

/-- A marshalled map. -/
def Json.ofMap (map : GoMap Json) : Json := .obj map.entries

structure Envelope where
  eventID : String
  eventType : String
  eventVersion : Int
  occurredAt : String
  producer : String
  tenantID : String
  traceID : String
  correlationID : String
  causationID : String
  payload : Json

def Envelope.json (envelope : Envelope) : Json :=
  .obj
    ([("event_id", .str envelope.eventID),
        ("event_type", .str envelope.eventType),
        ("event_version", .num envelope.eventVersion true),
        ("occurred_at", .str envelope.occurredAt),
        ("producer", .str envelope.producer),
        ("tenant_id", .str envelope.tenantID)] ++
      omitEmpty "trace_id" envelope.traceID ++
      omitEmpty "correlation_id" envelope.correlationID ++
      omitEmpty "causation_id" envelope.causationID ++
      [("payload", envelope.payload)])

def Envelope.decode : Json → Option Envelope
  | .obj members => do
      let eventID ← decodeString members "event_id"
      let eventType ← decodeString members "event_type"
      let eventVersion ← decodeInt members "event_version"
      let occurredAt ← decodeString members "occurred_at"
      let producer ← decodeString members "producer"
      let tenantID ← decodeString members "tenant_id"
      let traceID ← decodeString members "trace_id"
      let correlationID ← decodeString members "correlation_id"
      let causationID ← decodeString members "causation_id"
      some
        { eventID := eventID
          eventType := eventType
          eventVersion := eventVersion
          occurredAt := occurredAt
          producer := producer
          tenantID := tenantID
          traceID := traceID
          correlationID := correlationID
          causationID := causationID
          payload := decodeRaw members "payload" }
  | _ => none

/-- The fields every payload begins with. -/
structure DeviceFields where
  tenantID : String
  productID : String
  deviceID : String
  tenantSlug : String
  productKey : String
  deviceSlug : String
deriving Repr, DecidableEq

def DeviceFields.decode (members : List (String × Json)) :
    Option DeviceFields := do
  let tenantID ← decodeString members "tenant_id"
  let productID ← decodeString members "product_id"
  let deviceID ← decodeString members "device_id"
  let tenantSlug ← decodeString members "tenant_slug"
  let productKey ← decodeString members "product_key"
  let deviceSlug ← decodeString members "device_slug"
  some ⟨tenantID, productID, deviceID, tenantSlug, productKey, deviceSlug⟩

def DeviceFields.members (fields : DeviceFields) : List (String × Json) :=
  [("tenant_id", .str fields.tenantID), ("product_id", .str fields.productID),
    ("device_id", .str fields.deviceID),
    ("tenant_slug", .str fields.tenantSlug),
    ("product_key", .str fields.productKey),
    ("device_slug", .str fields.deviceSlug)]

structure ConnectedPayload extends DeviceFields where
  protocol : String
  keepalive : Int

def ConnectedPayload.decode : Json → Option ConnectedPayload
  | .obj members => do
      let fields ← DeviceFields.decode members
      let protocol ← decodeString members "protocol"
      let keepalive ← decodeInt members "keepalive"
      some
        { toDeviceFields := fields, protocol := protocol,
          keepalive := keepalive }
  | _ => none

structure DisconnectedPayload extends DeviceFields where
  protocol : String
  reason : String

def DisconnectedPayload.decode : Json → Option DisconnectedPayload
  | .obj members => do
      let fields ← DeviceFields.decode members
      let protocol ← decodeString members "protocol"
      let reason ← decodeString members "reason"
      some { toDeviceFields := fields, protocol := protocol, reason := reason }
  | _ => none

structure PropertyReportedPayload extends DeviceFields where
  protocol : String
  properties : Option (GoMap Json)
  raw : Option (GoMap Json)

def PropertyReportedPayload.decode : Json → Option PropertyReportedPayload
  | .obj members => do
      let fields ← DeviceFields.decode members
      let protocol ← decodeString members "protocol"
      let properties ← decodeMap members "properties"
      let raw ← decodeMap members "raw"
      some
        { toDeviceFields := fields
          protocol := protocol
          properties := properties
          raw := raw }
  | _ => none

structure EventReportedPayload extends DeviceFields where
  protocol : String
  eventName : String
  params : Option (GoMap Json)
  raw : Option (GoMap Json)

def EventReportedPayload.decode : Json → Option EventReportedPayload
  | .obj members => do
      let fields ← DeviceFields.decode members
      let protocol ← decodeString members "protocol"
      let eventName ← decodeString members "event_name"
      let params ← decodeMap members "params"
      let raw ← decodeMap members "raw"
      some
        { toDeviceFields := fields
          protocol := protocol
          eventName := eventName
          params := params
          raw := raw }
  | _ => none

structure PropertySetRequestedPayload extends DeviceFields where
  commandID : String
  protocol : String
  topic : String
  properties : Option (GoMap Json)
  requestedBy : String

def PropertySetRequestedPayload.decode : Json →
    Option PropertySetRequestedPayload
  | .obj members => do
      let commandID ← decodeString members "command_id"
      let fields ← DeviceFields.decode members
      let protocol ← decodeString members "protocol"
      let topic ← decodeString members "topic"
      let properties ← decodeMap members "properties"
      let requestedBy ← decodeString members "requested_by"
      some
        { toDeviceFields := fields
          commandID := commandID
          protocol := protocol
          topic := topic
          properties := properties
          requestedBy := requestedBy }
  | _ => none

/-- A nil map is written as null. -/
def Json.ofMap? : Option (GoMap Json) → Json
  | some map => .ofMap map
  | none => .null

def PropertySetRequestedPayload.json (payload : PropertySetRequestedPayload) :
    Json :=
  .obj (("command_id", .str payload.commandID) :: payload.members ++
    [("protocol", .str payload.protocol), ("topic", .str payload.topic),
      ("properties", .ofMap? payload.properties),
      ("requested_by", .str payload.requestedBy)])

structure PropertySetAcknowledgedPayload extends DeviceFields where
  commandID : String
  protocol : String
  success : Bool
  code : String
  message : String
  properties : Option (GoMap Json)
  raw : Option (GoMap Json)

def PropertySetAcknowledgedPayload.decode :
    Json → Option PropertySetAcknowledgedPayload
  | .obj members => do
      let commandID ← decodeString members "command_id"
      let fields ← DeviceFields.decode members
      let protocol ← decodeString members "protocol"
      let success ← decodeBool members "success"
      let code ← decodeString members "code"
      let message ← decodeString members "message"
      let properties ← decodeMap members "properties"
      let raw ← decodeMap members "raw"
      some
        { toDeviceFields := fields
          commandID := commandID
          protocol := protocol
          success := success
          code := code
          message := message
          properties := properties
          raw := raw }
  | _ => none

structure ServiceCallRequestedPayload extends DeviceFields where
  commandID : String
  protocol : String
  topic : String
  serviceName : String
  input : Option (GoMap Json)
  requestedBy : String

def ServiceCallRequestedPayload.decode : Json →
    Option ServiceCallRequestedPayload
  | .obj members => do
      let commandID ← decodeString members "command_id"
      let fields ← DeviceFields.decode members
      let protocol ← decodeString members "protocol"
      let topic ← decodeString members "topic"
      let serviceName ← decodeString members "service_name"
      let input ← decodeMap members "input"
      let requestedBy ← decodeString members "requested_by"
      some
        { toDeviceFields := fields
          commandID := commandID
          protocol := protocol
          topic := topic
          serviceName := serviceName
          input := input
          requestedBy := requestedBy }
  | _ => none

def ServiceCallRequestedPayload.json (payload : ServiceCallRequestedPayload) :
    Json :=
  .obj (("command_id", .str payload.commandID) :: payload.members ++
    [("protocol", .str payload.protocol), ("topic", .str payload.topic),
      ("service_name", .str payload.serviceName),
      ("input", .ofMap? payload.input),
      ("requested_by", .str payload.requestedBy)])

structure ServiceCallAcknowledgedPayload extends DeviceFields where
  commandID : String
  protocol : String
  serviceName : String
  success : Bool
  code : String
  message : String
  output : Option (GoMap Json)
  raw : Option (GoMap Json)

def ServiceCallAcknowledgedPayload.decode :
    Json → Option ServiceCallAcknowledgedPayload
  | .obj members => do
      let commandID ← decodeString members "command_id"
      let fields ← DeviceFields.decode members
      let protocol ← decodeString members "protocol"
      let serviceName ← decodeString members "service_name"
      let success ← decodeBool members "success"
      let code ← decodeString members "code"
      let message ← decodeString members "message"
      let output ← decodeMap members "output"
      let raw ← decodeMap members "raw"
      some
        { toDeviceFields := fields
          commandID := commandID
          protocol := protocol
          serviceName := serviceName
          success := success
          code := code
          message := message
          output := output
          raw := raw }
  | _ => none

structure ConnectionChangedPayload extends DeviceFields where
  status : String
  reason : String

def ConnectionChangedPayload.json (payload : ConnectionChangedPayload) : Json :=
  .obj (payload.members ++ [("status", .str payload.status)] ++
    omitEmpty "reason" payload.reason)

structure PropertyChangedPayload extends DeviceFields where
  properties : GoMap Json

def PropertyChangedPayload.json (payload : PropertyChangedPayload) : Json :=
  .obj (payload.members ++ [("properties", .ofMap payload.properties)])

structure EventReceivedPayload extends DeviceFields where
  eventName : String
  params : GoMap Json

def EventReceivedPayload.json (payload : EventReceivedPayload) : Json :=
  .obj (payload.members ++ [("event_name", .str payload.eventName),
    ("params", .ofMap payload.params)])

end LinkFlow
