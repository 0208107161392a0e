/-
The JSON schemas of the envelope and of the eleven payloads, and the validation
of a message against them.
-/
import LinkFlow.Contracts
import LinkFlow.JsonSchema

namespace LinkFlow

namespace Schemas

open JsonSchema

/-- `^[a-z0-9][a-z0-9-]*$` -/
def kebabPattern : Pattern where
  head char := isLowerLetter char || isDigit char
  tail char := isLowerLetter char || isDigit char || char = '-'

/-- `^[a-z][a-z0-9-]*$` -/
def protocolPattern : Pattern where
  head := isLowerLetter
  tail char := isLowerLetter char || isDigit char || char = '-'

/-- `^[a-z][a-z0-9_]*$` -/
def namePattern : Pattern where
  head := isLowerLetter
  tail char := isLowerLetter char || isDigit char || char = '_'

/-- `^[a-z]+(\.[a-z]+)+$` -/
def dottedPattern (text : String) : Bool :=
  let segments := text.toList.splitOn '.'
  2 ≤ segments.length &&
    segments.all fun segment => segment ≠ [] && segment.all isLowerLetter

/-- `^[0-9a-f]{32}$` -/
def traceIDPattern (text : String) : Bool :=
  text.length = 32 &&
    text.toList.all fun char => isDigit char || ('a' ≤ char && char ≤ 'f')

def text (minLength maxLength : Nat) : Member :=
  .atom (.string { minLength := minLength, maxLength := some maxLength })

def uuid : Member := .atom (.string { format := .uuid })

def slug : Member :=
  .atom (.string
    { minLength := 1, maxLength := some 128, pattern := kebabPattern.matches })

def name : Member :=
  .atom (.string
    { minLength := 1, maxLength := some 128, pattern := namePattern.matches })

def protocol : Member :=
  .atom (.string
    { minLength := 2, maxLength := some 32,
      pattern := protocolPattern.matches })

def boolean : Member := .atom .boolean

def object : Member := .atom .object

/-- The values of a property. -/
def scalars : List Atom :=
  [.number, .boolean, .string { maxLength := some 1024 }]

def propertyMap (minProperties : Nat) : Member :=
  .valueMap ⟨minProperties, namePattern, scalars⟩

def paramMap (minProperties : Nat) : Member :=
  .valueMap ⟨minProperties, namePattern, scalars ++ [.object, .array]⟩

/-- The six members all payloads share. -/
def deviceMembers : List (String × Member) :=
  [("tenant_id", text 1 64), ("product_id", text 1 64),
    ("device_id", text 1 64), ("tenant_slug", slug), ("product_key", slug),
    ("device_slug", text 1 128)]

def deviceRequired : List String := deviceMembers.map Prod.fst

/-- `envelope.schema.json` -/
def envelope : ObjectSchema where
  required := ["event_id", "event_type", "event_version", "occurred_at",
    "producer", "tenant_id", "payload"]
  properties :=
    [("event_id", uuid),
      ("event_type", .atom (.string
        { minLength := 3, maxLength := some 128, pattern := dottedPattern })),
      ("event_version", .atom (.integer 1)),
      ("occurred_at", .atom (.string { format := .dateTime })),
      ("producer", .atom (.string
        { minLength := 1, maxLength := some 64,
          pattern := kebabPattern.matches })),
      ("tenant_id", text 1 64),
      ("trace_id", .atom (.string { pattern := traceIDPattern })),
      ("correlation_id", text 1 128),
      ("causation_id", uuid),
      ("payload", object)]

def connected : ObjectSchema where
  required := deviceRequired ++ ["protocol"]
  properties := deviceMembers ++
    [("protocol", protocol), ("keepalive", .atom (.integer 0))]

def disconnected : ObjectSchema where
  required := deviceRequired ++ ["protocol"]
  properties :=
    deviceMembers ++ [("protocol", protocol), ("reason", text 0 128)]

def connectionChanged : ObjectSchema where
  required := deviceRequired ++ ["status"]
  properties := deviceMembers ++
    [("status", .atom (.string { enum := some ["online", "offline"] })),
      ("reason", text 0 128)]

def propertyReported : ObjectSchema where
  required := deviceRequired ++ ["protocol", "properties"]
  properties := deviceMembers ++
    [("protocol", protocol), ("properties", propertyMap 1), ("raw", object)]

def propertyChanged : ObjectSchema where
  required := deviceRequired ++ ["properties"]
  properties := deviceMembers ++ [("properties", propertyMap 1)]

def propertySetRequested : ObjectSchema where
  required := deviceRequired ++
    ["command_id", "protocol", "topic", "properties", "requested_by"]
  properties := deviceMembers ++
    [("command_id", uuid), ("protocol", protocol), ("topic", text 1 512),
      ("properties", propertyMap 1), ("requested_by", text 1 64)]

def propertySetAcknowledged : ObjectSchema where
  required := deviceRequired ++ ["protocol", "success"]
  properties := deviceMembers ++
    [("command_id", uuid), ("protocol", protocol), ("success", boolean),
      ("code", text 1 64), ("message", text 0 1024),
      ("properties", propertyMap 0), ("raw", object)]

def eventReported : ObjectSchema where
  required := deviceRequired ++ ["protocol", "event_name", "params"]
  properties := deviceMembers ++
    [("protocol", protocol), ("event_name", name), ("params", paramMap 0),
      ("raw", object)]

def eventReceived : ObjectSchema where
  required := deviceRequired ++ ["event_name", "params"]
  properties := deviceMembers ++ [("event_name", name), ("params", paramMap 1)]

def serviceCallRequested : ObjectSchema where
  required := deviceRequired ++
    ["command_id", "protocol", "topic", "service_name", "input", "requested_by"]
  properties := deviceMembers ++
    [("command_id", uuid), ("protocol", protocol), ("topic", text 1 512),
      ("service_name", name), ("input", paramMap 0),
      ("requested_by", text 1 64)]

def serviceCallAcknowledged : ObjectSchema where
  required := deviceRequired ++
    ["command_id", "protocol", "service_name", "success"]
  properties := deviceMembers ++
    [("command_id", uuid), ("protocol", protocol), ("service_name", name),
      ("success", boolean), ("code", text 1 64), ("message", text 0 1024),
      ("output", paramMap 0), ("raw", object)]

end Schemas

/-- `SchemaFile`: the payload schema of each contract. -/
def EventType.schema : EventType → JsonSchema.ObjectSchema
  | .propertyReported => Schemas.propertyReported
  | .propertySetRequested => Schemas.propertySetRequested
  | .propertySetAcknowledged => Schemas.propertySetAcknowledged
  | .connected => Schemas.connected
  | .disconnected => Schemas.disconnected
  | .eventReported => Schemas.eventReported
  | .serviceCallRequested => Schemas.serviceCallRequested
  | .serviceCallAcknowledged => Schemas.serviceCallAcknowledged
  | .connectionChanged => Schemas.connectionChanged
  | .propertyChanged => Schemas.propertyChanged
  | .eventReceived => Schemas.eventReceived

/-- Why `ValidateEvent` refuses a message. -/
inductive ValidationError where
  | decodeJson
  | envelopeSchema
  | decodeEnvelope
  | unknownPayloadSchema (eventType : String) (version : Int)
  | payloadSchema (eventType : EventType)
deriving Repr, DecidableEq

/-- `ValidateEvent`: the envelope schema, the envelope itself, then the payload
schema registered for its type and version.  A message that is no JSON text is
`none`. -/
def validateEvent (formats : FormatChecker) (raw : Option Json) :
    Except ValidationError (Envelope × EventType) :=
  match raw with
  | none => .error .decodeJson
  | some raw =>
      if !Schemas.envelope.accepts formats raw then .error .envelopeSchema
      else
        match Envelope.decode raw with
        | none => .error .decodeEnvelope
        | some envelope =>
            match EventType.lookup envelope.eventType envelope.eventVersion with
            | none =>
                .error (.unknownPayloadSchema envelope.eventType
                  envelope.eventVersion)
            | some eventType =>
                if eventType.schema.accepts formats envelope.payload then
                  .ok (envelope, eventType)
                else .error (.payloadSchema eventType)

end LinkFlow
