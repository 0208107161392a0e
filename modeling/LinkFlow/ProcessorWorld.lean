/-
What the event processor works on: the event tables, the devices rows, the
Redis keys, the state topic, the commands sent down to the devices, the current
thing models and the validators' caches.  Handling a message leaves a trace of
effects, and the effects change the world.
-/
import LinkFlow.Connection
import LinkFlow.EventEnvelope
import LinkFlow.Lib.Traced
import LinkFlow.Runner
import LinkFlow.ThingsModelDefinition
import LinkFlow.ValueCheck

namespace LinkFlow

namespace Processor

/-- The six tables of events. -/
inductive Table where
  | propertyReport
  | eventReport
  | propertySet
  | propertySetAck
  | serviceCall
  | serviceCallAck
deriving Repr, DecidableEq

/-- A row of an event table.  `id` is the first column of the primary key,
`command_id` for the two kinds of requests and `event_id` elsewhere, and
`occurredAt` the second; `receivedAt` is set by the database, and the remaining
columns are listed by name. -/
structure EventRow where
  id : Uuid
  occurredAt : Int
  tenantID : String
  columns : List (String × Json)
  receivedAt : Int

/-- The columns of a devices row that the processor reads or writes. -/
structure DeviceRow where
  tenantID : Uuid
  connection : Connection.Row
  updatedAt : Int

/-- A Redis value with its time to live. -/
structure OnlineKey where
  value : String
  ttl : Int
deriving Repr, DecidableEq

/-- A current thing model, as the reader selects it. -/
structure StoredModel where
  properties : Json
  events : Json
  services : Json

/-- `cachedDefinition` -/
structure CachedDefinition where
  definition : ThingsModel.Definition
  expiresAt : Int

/-- A message published through the EMQX API. -/
structure Downlink where
  topic : String
  payload : Json
  qos : Nat
  retain : Bool

/-- `stateTopic` and `downlinks` have the newest first.  Each of the three
validators has a cache of its own, named by the section it reads. -/
structure World where
  rows : Table → List EventRow
  devices : Uuid → Option DeviceRow
  online : String → Option OnlineKey
  stateTopic : List KafkaRecord
  downlinks : List Downlink
  models : Uuid → Uuid → Option StoredModel
  caches : ThingsModel.Section → String → Option CachedDefinition

def deviceOnlineKey (tenantID deviceID : String) : String :=
  "device:online:" ++ tenantID ++ ":" ++ deviceID

/-- `insert` is an INSERT that met no row of its key, `update` an UPDATE that
matched the row of the device, whose tenant it names. -/
inductive Effect where
  | lookup (kind : ThingsModel.Section) (tenantID productID : String)
  | cache (kind : ThingsModel.Section) (key : String) (entry : CachedDefinition)
  | insert (table : Table) (row : EventRow)
  | update (deviceID tenantID : Uuid) (event : Connection.Event) (now : Int)
  | setOnline (tenantID deviceID : String) (entry : OnlineKey)
  | delOnline (tenantID deviceID : String)
  | publish (topic : String) (envelope : Envelope)
  | downlink (message : Downlink)

def World.apply (world : World) : Effect → World
  | .lookup _ _ _ => world
  | .cache kind key entry =>
      { world with
        caches := Function.update world.caches kind
          (Function.update (world.caches kind) key (some entry)) }
  | .insert table row =>
      { world with
        rows := Function.update world.rows table (world.rows table ++ [row]) }
  | .update deviceID _ event now =>
      { world with
        devices := Function.update world.devices deviceID
          ((world.devices deviceID).map fun row =>
            { row with
              connection := row.connection.updateConnectionStatus event
              updatedAt := now }) }
  | .setOnline tenantID deviceID entry =>
      { world with
        online := Function.update world.online
          (deviceOnlineKey tenantID deviceID) (some entry) }
  | .delOnline tenantID deviceID =>
      { world with
        online := Function.update world.online
          (deviceOnlineKey tenantID deviceID) none }
  | .publish topic envelope =>
      { world with
        stateTopic := ⟨topic, envelope.eventID, envelope.json, envelope.headers⟩
          :: world.stateTopic }
  | .downlink message => { world with downlinks := message :: world.downlinks }

def World.applyAll (world : World) (trace : List Effect) : World :=
  trace.foldl World.apply world

/-- The points of one call of `Process` at which it meets the outside. -/
inductive Stage where
  | process
  | handler
  | validator
  | cacheRead
  | reader
  | cacheWrite
  | save
  | connection
  | update
  | redis
  | publisher
  | send
  | mqtt
  | emqx
deriving Repr, DecidableEq

/-- What one call of `Process` meets: whether the context is done when it is
asked, the clock, how each command to a store or a broker ends (a command the
other side refuses has failed), the next event id, and the configured TTL. -/
structure Surroundings where
  ctxErr : Stage → Option String
  clock : Stage → Int
  outcome : Stage → Connection.Outcome
  errText : Stage → String
  newID : Except String Uuid
  onlineTTL : Int

/-- The errors of the processor: sentinels, errors with data, other texts, and
errors wrapped with `%w`. -/
inductive Failure where
  | text (message : String)
  | validation (err : ValidationError)
  | unsupported (eventType : String) (version : Int)
  | decode (what : String)
  | parseOccurredAt (text : String)
  | thingsModelNotFound
  | noAcceptedProperties
  | eventNotFound
  | noAcceptedEventParams
  | serviceNotFound
  | value (err : ThingsModel.ValueError)
  | definition (err : ThingsModel.ParseError)
  | wrap (context : String) (err : Failure)
deriving Repr, DecidableEq

/-- A call that may fail. -/
abbrev Call := Traced Effect Failure

/-- `ctx.Err()` -/
def Surroundings.checkCtx (out : Surroundings) (stage : Stage) : Call Unit :=
  match out.ctxErr stage with
  | some err => .stop (.text err)
  | none => pure ()

/-- A command with the effects it has when it is carried out. -/
def Surroundings.command (out : Surroundings) (stage : Stage) (context : String)
    (effects : List Effect) : Call Unit :=
  let err := Failure.wrap context (.text (out.errText stage))
  match out.outcome stage with
  | .ok => ⟨effects, .ok ()⟩
  | .lost => ⟨effects, .error err⟩
  | .failed => ⟨[], .error err⟩

end Processor

end LinkFlow
