/-
The stores, the thing model reader and the two publishers of the processor.
-/
import LinkFlow.ProcessorWorld

namespace LinkFlow

namespace Processor

open ThingsModel

variable (out : Surroundings) (world : World)

def nullIfEmpty (text : String) : Json :=
  if text = "" then .null else .str text

def emptyMapAsNil (map : Option (GoMap Json)) : Json :=
  match map with
  | none => .null
  | some map => if map.isEmpty then .null else .ofMap map

/-- `time.Parse(time.RFC3339Nano, env.OccurredAt)` -/
def parseOccurredAt (env : Envelope) : Call Int :=
  match parseRFC3339Nano env.occurredAt with
  | some time => pure time
  | none => .stop (.parseOccurredAt env.occurredAt)

/-- The row of a key, if the table has one. -/
def World.hasRow (table : Table) (id : Uuid) (occurredAt : Int) : Bool :=
  (world.rows table).any fun row => row.id = id && row.occurredAt = occurredAt

/-- The text a nullable `uuid` column is given, if any. -/
def uuidOrNull (text : String) : List String :=
  if text = "" then [] else [text]

/-- One INSERT statement.  The texts in `uuids` go to further columns of the
type `uuid`. -/
structure Insert where
  table : Table
  context : String
  id : String
  uuids : List String
  columns : List (String × Json)

/-- `INSERT … ON CONFLICT DO NOTHING` -/
def insertRow (insert : Insert) (tenantID : String) (occurredAt : Int) :
    Call Unit :=
  match Uuid.ofText? insert.id,
      insert.uuids.all fun text => (Uuid.ofText? text).isSome with
  | some id, true =>
      let row : EventRow :=
        ⟨id, timestamptz occurredAt, tenantID, insert.columns,
          timestamptz (out.clock .save)⟩
      out.command .save insert.context
        (if world.hasRow insert.table row.id row.occurredAt then []
          else [.insert insert.table row])
  | _, _ =>
      .stop (.wrap insert.context (.text "invalid input syntax for type uuid"))

/-- The frame of the six stores: the context, the checks of the payload with the
texts of their errors, the time, the statement. -/
def saveEvent (env : Envelope) (refused : List (Bool × String))
    (insert : Insert) : Call Unit := do
  out.checkCtx .save
  match refused.find? Prod.fst with
  | some (_, text) => .stop (.text text)
  | none =>
      let occurredAt ← parseOccurredAt env
      insertRow out world insert env.tenantID occurredAt

/-- The columns every report and acknowledgement keeps of its envelope. -/
def envelopeColumns (env : Envelope) : List (String × Json) :=
  [("producer", .str env.producer), ("trace_id", nullIfEmpty env.traceID),
    ("correlation_id", nullIfEmpty env.correlationID),
    ("causation_id", nullIfEmpty env.causationID)]

def deviceColumns (fields : DeviceFields) (protocol : String) :
    List (String × Json) :=
  [("product_key", .str fields.productKey),
    ("device_slug", .str fields.deviceSlug), ("protocol", .str protocol)]

def savePropertyReport (env : Envelope) (payload : PropertyReportedPayload) :
    Call Unit :=
  saveEvent out world env
    [((payload.properties.getD GoMap.empty).isEmpty,
      "property report properties are empty")]
    { table := .propertyReport
      context := "insert device property report event"
      id := env.eventID
      uuids := uuidOrNull env.causationID
      columns := deviceColumns payload.toDeviceFields payload.protocol ++
        envelopeColumns env ++
        [("properties", .ofMap? payload.properties),
          ("raw", emptyMapAsNil payload.raw)] }

def saveEventReport (env : Envelope) (payload : EventReportedPayload) :
    Call Unit :=
  saveEvent out world env
    [(payload.eventName = "", "event report event_name is empty")]
    { table := .eventReport
      context := "insert device event report event"
      id := env.eventID
      uuids := uuidOrNull env.causationID
      columns := deviceColumns payload.toDeviceFields payload.protocol ++
        [("event_name", .str payload.eventName)] ++ envelopeColumns env ++
        [("params", .ofMap (payload.params.getD GoMap.empty)),
          ("raw", emptyMapAsNil payload.raw)] }

def savePropertySetRequest (env : Envelope)
    (payload : PropertySetRequestedPayload) : Call Unit :=
  saveEvent out world env
    [(payload.commandID = "", "property set command_id is empty"),
      ((payload.properties.getD GoMap.empty).isEmpty,
        "property set properties are empty")]
    { table := .propertySet
      context := "insert device property set event"
      id := payload.commandID
      uuids := [payload.requestedBy]
      columns := deviceColumns payload.toDeviceFields payload.protocol ++
        [("topic", .str payload.topic), ("producer", .str env.producer),
          ("requested_by", .str payload.requestedBy),
          ("properties", .ofMap? payload.properties)] }

def savePropertySetAcknowledgement (env : Envelope)
    (payload : PropertySetAcknowledgedPayload) : Call Unit :=
  saveEvent out world env []
    { table := .propertySetAck
      context := "insert device property set ack event"
      id := env.eventID
      uuids := uuidOrNull payload.commandID ++ uuidOrNull env.causationID
      columns := [("command_id", nullIfEmpty payload.commandID)] ++
        deviceColumns payload.toDeviceFields payload.protocol ++
        [("success", .bool payload.success), ("code", nullIfEmpty payload.code),
          ("message", nullIfEmpty payload.message)] ++
        envelopeColumns env ++
        [("properties", .ofMap (payload.properties.getD GoMap.empty)),
          ("raw", emptyMapAsNil payload.raw)] }

def saveServiceCallRequest (env : Envelope)
    (payload : ServiceCallRequestedPayload) : Call Unit :=
  saveEvent out world env
    [(payload.commandID = "", "service call command_id is empty"),
      (payload.serviceName = "", "service call service_name is empty")]
    { table := .serviceCall
      context := "insert device service call event"
      id := payload.commandID
      uuids := [payload.requestedBy]
      columns := deviceColumns payload.toDeviceFields payload.protocol ++
        [("service_name", .str payload.serviceName),
          ("topic", .str payload.topic), ("producer", .str env.producer),
          ("requested_by", .str payload.requestedBy),
          ("input", .ofMap (payload.input.getD GoMap.empty))] }

def saveServiceCallAcknowledgement (env : Envelope)
    (payload : ServiceCallAcknowledgedPayload) : Call Unit :=
  saveEvent out world env
    [(payload.serviceName = "", "service call service_name is empty"),
      (payload.commandID = "", "service call command_id is empty")]
    { table := .serviceCallAck
      context := "insert device service call ack event"
      id := env.eventID
      uuids := payload.commandID :: uuidOrNull env.causationID
      columns := [("command_id", .str payload.commandID)] ++
        deviceColumns payload.toDeviceFields payload.protocol ++
        [("service_name", .str payload.serviceName),
          ("success", .bool payload.success),
          ("code", nullIfEmpty payload.code),
          ("message", nullIfEmpty payload.message)] ++
        envelopeColumns env ++
        [("output", .ofMap (payload.output.getD GoMap.empty)),
          ("raw", emptyMapAsNil payload.raw)] }

/-- `DeviceConnectionEvent` -/
structure DeviceConnectionEvent where
  tenantID : String
  productID : String
  deviceID : String
  occurredAt : Int
deriving Repr, DecidableEq

/-- The devices row an UPDATE matches: the device's, of the tenant, and last
seen no later than the event. -/
def World.matchedRow (deviceID tenantID : Uuid) (event : Connection.Event) :
    Bool :=
  (world.devices deviceID).any fun row =>
    row.tenantID = tenantID && row.connection.accepts event

/-- `updateConnectionStatus`: whether a row was matched. -/
def updateConnectionStatus (input : DeviceConnectionEvent)
    (status : Connection.Status) : Call Bool := do
  let context := "update device connection_status"
  match Uuid.ofText? input.deviceID, Uuid.ofText? input.tenantID with
  | some deviceID, some tenantID =>
      let event : Connection.Event := ⟨status, input.occurredAt⟩
      let applied := world.matchedRow deviceID tenantID event
      out.command .update context
        (if applied then
          [.update deviceID tenantID event (out.clock .update)]
        else [])
      return applied
  | _, _ => .stop (.wrap context (.text "invalid input syntax for type uuid"))

/-- `MarkOnline` and `MarkOffline`, which differ in the status and in the Redis
command that follows an applied UPDATE. -/
def markConnection (input : DeviceConnectionEvent) (status : Connection.Status)
    (context : String) (redis : Effect) : Call Bool := do
  out.checkCtx .connection
  let applied ← updateConnectionStatus out world input status
  if applied then
    out.command .redis context [redis]
    return true
  else return false

def markOnline (input : DeviceConnectionEvent) : Call Bool :=
  markConnection out world input .online "set redis online key"
    (.setOnline input.tenantID input.deviceID
      ⟨formatRFC3339Nano input.occurredAt, out.onlineTTL⟩)

def markOffline (input : DeviceConnectionEvent) : Call Bool :=
  markConnection out world input .offline "delete redis online key"
    (.delOnline input.tenantID input.deviceID)

/-- The current model of a product, read with the tenant's and the product's id
cast to `uuid`. -/
def findCurrentByProductID (tenantID productID : String) : Call Definition := do
  let context := "find current thingsmodel by product_id"
  out.checkCtx .reader
  out.command .reader context []
  match Uuid.ofText? tenantID, Uuid.ofText? productID with
  | some tenant, some product =>
      match world.models tenant product with
      | none => .stop .thingsModelNotFound
      | some model =>
          .lift ((parseDefinition tenantID productID model.properties
            model.events model.services).mapError .definition)
  | _, _ => .stop (.wrap context (.text "invalid input syntax for type uuid"))

/-- `NewEventPublisher` is given this name. -/
def producer : String := "device-event-processor"

/-- `EventPublisher.Publish`.  Its three event types are among the specs. -/
def publishEvent (eventType : EventType) (tenantID causationID : String)
    (occurredAt : Int) (payload : Json) : Call Unit := do
  let context := "publish " ++ eventType.key
  out.checkCtx .publisher
  if tenantID = "" then .stop (.text (context ++ ": tenant_id is required"))
  else
    match out.newID with
    | .error err => .stop (.wrap (context ++ ": new event id") (.text err))
    | .ok id =>
        out.command .send (context ++ ": send")
          [.publish eventType.topic
            (newEnvelope eventType id occurredAt (out.clock .publisher) producer
              tenantID "" causationID payload)]

/-- The request to the EMQX API, after the publisher's own checks. -/
def callEMQX (topic : String) (payload : List (String × Json)) : Call Unit :=
  out.command .emqx "call emqx publish api"
    [.downlink ⟨topic, .obj payload, 1, false⟩]

def publishServiceCall (payload : ServiceCallRequestedPayload) : Call Unit := do
  out.checkCtx .mqtt
  if trimSpace payload.topic = "" then .stop (.text "mqtt topic is required")
  else
    callEMQX out payload.topic
      [("command_id", .str payload.commandID),
        ("service_name", .str payload.serviceName),
        ("input", .ofMap (payload.input.getD GoMap.empty))]

def publishPropertySet (payload : PropertySetRequestedPayload) : Call Unit := do
  out.checkCtx .mqtt
  if trimSpace payload.topic = "" then .stop (.text "mqtt topic is required")
  else if (payload.properties.getD GoMap.empty).isEmpty then
    .stop (.text "mqtt properties are required")
  else
    callEMQX out payload.topic
      [("command_id", .str payload.commandID),
        ("properties", .ofMap? payload.properties)]

end Processor

end LinkFlow
