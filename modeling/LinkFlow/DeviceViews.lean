/-
The device store's five views of what devices have reported.  They read the
event tables, which have no policies: a row is taken for the device whose
tenant, product key and slug it names as text.
-/
import LinkFlow.ProcessorWorld
import LinkFlow.RegistryDevices
import Mathlib.Data.List.MinMax
import Mathlib.Data.Prod.Lex

namespace LinkFlow

/-- Times in order, named so that every view compares them in one way. -/
instance timeOrder : Preorder Int := Int.instLinearOrder.toPreorder

namespace Processor

namespace EventRow

variable (row : EventRow)

/-- A column, NULL where the row has none. -/
def column (name : String) : Json := (row.columns.lookup name).getD .null

/-- A text column, `COALESCE(…, '')`. -/
def text (name : String) : String := ((row.column name).string?).getD ""

/-- A column of the type `uuid`. -/
def uuid? (name : String) : Option Uuid :=
  (row.column name).string?.bind Uuid.ofText?

def bool? (name : String) : Option Bool := (row.column name).bool?

/-- A `jsonb` column that holds an object. -/
def object (name : String) : GoMap Json :=
  ((row.column name).object?).getD GoMap.empty

/-- `occurred_at` and then `event_id` or `command_id`: the primary key, in the
order of `ORDER BY … DESC`. -/
def recency : Int ×ₗ ℕ := toLex (row.occurredAt, row.id.toNat)

end EventRow

end Processor

namespace Registry

open Processor (EventRow)

/-- The rows of the event tables. -/
abbrev EventTables := Processor.Table → List EventRow

section Scope

/-- A device with its product, as the scope queries join them. -/
structure DeviceScope where
  device : Device
  product : Product

def Session.scope? (session : Session) (id : Uuid) (db : Database) :
    Option DeviceScope :=
  (session.device? id db).bind fun device =>
    (db.products.rows.find? fun product =>
      session.seesProduct db product && product.id = device.productID &&
        product.tenantID = device.tenantID).map (DeviceScope.mk device)

/-- `tenant_id = $1 AND product_key = $2 AND device_slug = $3` -/
def DeviceScope.holds (scope : DeviceScope) (row : EventRow) : Bool :=
  row.tenantID = Uuid.text scope.device.tenantID &&
    row.text "product_key" = scope.product.productKey &&
    row.text "device_slug" = scope.device.deviceSlug

/-- The first query of each view. -/
def findScope (out : Surroundings) (session : Session) (id : String) :
    Statement DeviceScope := do
  out.command .check
  let id ← uuidParam id
  queryRow (session.scope? id)

end Scope

variable (out : Surroundings) (tables : EventTables)

section LatestProperties

structure DeviceLatestProperties where
  id : Uuid
  tenantID : Uuid
  productID : Uuid
  productKey : String
  deviceSlug : String
  reported : Bool
  properties : GoMap Json
  occurredAt : Option Int
  receivedAt : Option Int

/-- `ORDER BY occurred_at DESC LIMIT 1` -/
def latestReport (scope : DeviceScope) : Option EventRow :=
  ((tables .propertyReport).filter scope.holds).argmax EventRow.occurredAt

def latestProperties (scope : DeviceScope) : DeviceLatestProperties :=
  let latest := latestReport tables scope
  { id := scope.device.id
    tenantID := scope.device.tenantID
    productID := scope.device.productID
    productKey := scope.product.productKey
    deviceSlug := scope.device.deviceSlug
    reported := latest.isSome
    properties := (latest.map (·.object "properties")).getD GoMap.empty
    occurredAt := latest.map EventRow.occurredAt
    receivedAt := latest.map EventRow.receivedAt }

def findDeviceLatestProperties (input : RowInput) :
    Database → Reply DeviceLatestProperties :=
  storeCall out "device" input.userID
    (findError .device "find device latest properties") fun session => do
      let scope ← findScope out session input.id
      return latestProperties tables scope

end LatestProperties

section PropertyTrend

/-- The service passes only bucket sizes that are positive. -/
structure DevicePropertyTrendInput extends RowInput where
  properties : List String
  fromTime : Int
  toTime : Int
  bucketSeconds : Nat
  aggregate : String
  bucketPositive : 0 < bucketSeconds

structure DevicePropertyTrendPoint where
  bucketAt : Int
  value : ℚ
  min : ℚ
  max : ℚ
  count : Nat
deriving DecidableEq

structure DevicePropertyTrendSeries where
  property : String
  points : List DevicePropertyTrendPoint
deriving DecidableEq

structure DevicePropertyTrend where
  scope : DeviceScope
  input : DevicePropertyTrendInput
  series : List DevicePropertyTrendSeries

/-- A row of the query's `samples`. -/
structure TrendSample where
  property : String
  bucketAt : Int
  value : ℚ
  occurredAt : Int

/-- `time_bucket`, whose buckets are counted from Monday the 3rd of January
2000. -/
def timeBucket (seconds : Nat) (micros : Int) : Int :=
  let origin := 946857600000000
  let period := (seconds : Int) * 1000000
  (micros - origin) / period * period + origin

/-- The rows whose values the query takes. -/
def trendRows (scope : DeviceScope) (input : DevicePropertyTrendInput) :
    List EventRow :=
  (tables .propertyReport).filter fun row =>
    scope.holds row && timestamptz input.fromTime ≤ row.occurredAt &&
      row.occurredAt < timestamptz input.toTime

/-- `jsonb_each` over a row, for the numbers among the properties asked for. -/
def trendSamplesOf (input : DevicePropertyTrendInput) (row : EventRow) :
    List TrendSample :=
  (row.object "properties").entries.filterMap fun (name, value) =>
    if name ∈ input.properties then
      value.number?.map fun number =>
        ⟨name, timeBucket input.bucketSeconds row.occurredAt, number,
          row.occurredAt⟩
    else none

def trendSamples (scope : DeviceScope) (input : DevicePropertyTrendInput) :
    List TrendSample :=
  (trendRows tables scope input).flatMap (trendSamplesOf input)

def trendAggregateValue (aggregate : String) (avgValue minValue maxValue
    lastValue : ℚ) : ℚ :=
  match aggregate with
  | "min" => minValue
  | "max" => maxValue
  | "last" => lastValue
  | _ => avgValue

/-- One group of `GROUP BY property, bucket_at`. -/
def trendPoint (aggregate : String) (samples : List TrendSample)
    (bucketAt : Int) : DevicePropertyTrendPoint :=
  let group := samples.filter fun sample => sample.bucketAt = bucketAt
  let values := group.map TrendSample.value
  let minValue := values.min?.getD 0
  let maxValue := values.max?.getD 0
  let lastValue :=
    ((group.argmax TrendSample.occurredAt).map TrendSample.value).getD 0
  { bucketAt := bucketAt
    value := trendAggregateValue aggregate (values.sum / values.length) minValue
      maxValue lastValue
    min := minValue
    max := maxValue
    count := values.length }

/-- The points of one property, by the time of their buckets. -/
def trendPoints (aggregate : String) (samples : List TrendSample)
    (property : String) : List DevicePropertyTrendPoint :=
  let samples := samples.filter fun sample => sample.property = property
  let buckets := (samples.map TrendSample.bucketAt).dedup.mergeSort (· ≤ ·)
  buckets.map (trendPoint aggregate samples)

/-- A series for each property asked for.  Of two for one property,
`seriesByProperty` names the last. -/
def trendSeries (points : String → List DevicePropertyTrendPoint) :
    List String → List DevicePropertyTrendSeries
  | [] => []
  | property :: rest =>
      ⟨property, if property ∈ rest then [] else points property⟩ ::
        trendSeries points rest

def findDevicePropertyTrend (input : DevicePropertyTrendInput) :
    Database → Reply DevicePropertyTrend :=
  storeCall out "device" input.userID
    (findError .device "find device property trend") fun session => do
      let scope ← findScope out session input.id
      out.command .query
      let samples := trendSamples tables scope input
      return ⟨scope, input,
        trendSeries (trendPoints input.aggregate samples) input.properties⟩

end PropertyTrend

section Histories

variable {α β : Type}

def PageResult.map (f : α → β) (page : PageResult α) : PageResult β :=
  { page with items := page.items.map f }

/-- The rows of an event table that belong to a device and pass a filter, newest
first. -/
def listScope (table : Processor.Table) (keep : EventRow → Bool)
    (input : PageInput) (scope : DeviceScope) :
    Statement (PageResult EventRow) :=
  listRows out (newestFirst EventRow.occurredAt EventRow.id) input fun _ =>
    (tables table).filter fun row => scope.holds row && keep row

/-- The scope of a device and a page of its rows. -/
def listHistory (session : Session) (id : String) (table : Processor.Table)
    (keep : EventRow → Bool) (input : PageInput) :
    Statement (DeviceScope × PageResult EventRow) := do
  let scope ← findScope out session id
  let page ← listScope out tables table keep input scope
  return (scope, page)

variable {out tables}

theorem findScope_eq_ok {session : Session} {id : String} {db next : Database}
    {scope : DeviceScope}
    (hok : findScope out session id db = .ok (scope, next)) :
    next = db ∧ ∃ deviceID, Uuid.ofText? id = some deviceID ∧
      session.scope? deviceID db = some scope := by
  simp only [findScope, Transaction.bind_eq_ok, command_eq_ok, uuidParam_eq_ok,
    queryRow_eq_ok] at hok
  obtain ⟨_, _, ⟨-, rfl⟩, deviceID, _, ⟨hid, rfl⟩, hscope, rfl⟩ := hok
  exact ⟨rfl, deviceID, hid, hscope⟩

/-- What follows the scope query need only be the same for the scope it
finds. -/
theorem findScope_bind_congr {session : Session} {id : String} {db : Database}
    {next next' : DeviceScope → Statement α}
    (hnext : ∀ scope deviceID, session.scope? deviceID db = some scope →
      next scope db = next' scope db) :
    (findScope out session id >>= next) db =
      (findScope out session id >>= next') db := by
  simp only [bind]
  cases hscope : findScope out session id db with
  | error err => rfl
  | ok found =>
      obtain ⟨scope, middle⟩ := found
      obtain ⟨rfl, deviceID, -, hfound⟩ := findScope_eq_ok hscope
      exact hnext scope deviceID hfound

/-- A history lists rows that name the device by its tenant, product key and
slug. -/
theorem listHistory_eq_ok {session : Session} {id : String}
    {table : Processor.Table} {keep : EventRow → Bool} {input : PageInput}
    {db next : Database} {scope : DeviceScope} {page : PageResult EventRow}
    (hok : listHistory out tables session id table keep input db =
      .ok ((scope, page), next)) :
    next = db ∧
      (∃ deviceID, Uuid.ofText? id = some deviceID ∧
        session.scope? deviceID db = some scope) ∧
      ∀ row ∈ page.items, row ∈ tables table ∧ scope.holds row = true ∧
        keep row = true := by
  simp only [listHistory, Transaction.bind_eq_ok, Transaction.pure_eq_ok,
    Prod.mk.injEq] at hok
  obtain ⟨found, middle, hscope, listed, last, hlist, ⟨rfl, rfl⟩, rfl⟩ := hok
  obtain ⟨rfl, hfound⟩ := findScope_eq_ok hscope
  obtain ⟨rfl, hitems⟩ := listRows_eq_ok hlist
  refine ⟨rfl, hfound, fun row hrow => ?_⟩
  obtain ⟨hmem, hkeep⟩ := List.mem_filter.mp (hitems row hrow)
  exact ⟨hmem, (Bool.and_eq_true _ _ ▸ hkeep : _ ∧ _)⟩

variable (out tables)

structure DeviceEventHistoryInput extends PageInput where
  userID : Uuid
  id : String
  eventName : String

structure DeviceEventEntry where
  eventID : Uuid
  tenantID : String
  productID : Uuid
  productKey : String
  deviceSlug : String
  eventName : String
  params : GoMap Json
  occurredAt : Int
  receivedAt : Int

def eventEntry (scope : DeviceScope) (row : EventRow) : DeviceEventEntry where
  eventID := row.id
  tenantID := row.tenantID
  productID := scope.device.productID
  productKey := row.text "product_key"
  deviceSlug := row.text "device_slug"
  eventName := row.text "event_name"
  params := row.object "params"
  occurredAt := row.occurredAt
  receivedAt := row.receivedAt

def listDeviceEventHistory (input : DeviceEventHistoryInput) :
    Database → Reply (PageResult DeviceEventEntry) :=
  storeCall out "device" input.userID
    (findError .device "list device event history") fun session => do
      let (scope, page) ← listHistory out tables session input.id .eventReport
        (fun row => input.eventName = "" ||
          row.text "event_name" = input.eventName)
        input.toPageInput
      return page.map (eventEntry scope)

/-- The two kinds of commands. -/
inductive CommandKind where
  | serviceCall
  | propertySet
deriving Repr, DecidableEq

namespace CommandKind

def table : CommandKind → Processor.Table
  | .serviceCall => .serviceCall
  | .propertySet => .propertySet

def ackTable : CommandKind → Processor.Table
  | .serviceCall => .serviceCallAck
  | .propertySet => .propertySetAck

/-- The column with what the command asks for. -/
def bodyColumn : CommandKind → String
  | .serviceCall => "input"
  | .propertySet => "properties"

/-- The column with what the device answers. -/
def resultColumn : CommandKind → String
  | .serviceCall => "output"
  | .propertySet => "properties"

/-- `$4 = '' OR service_name = $4` and `$4 = '' OR properties ? $4` -/
def filter (kind : CommandKind) (name : String) (row : EventRow) : Bool :=
  name = "" ||
    match kind with
    | .serviceCall => row.text "service_name" = name
    | .propertySet => ((row.object "properties").get? name).isSome

/-- The texts of the two methods' errors. -/
def context : CommandKind → String
  | .serviceCall => "list device service call history"
  | .propertySet => "list device property set history"

end CommandKind

/-- `DeviceServiceCallHistoryInput` and `DevicePropertySetHistoryInput`, with
the service or the property in `name`. -/
structure CommandHistoryInput extends PageInput where
  userID : Uuid
  id : String
  name : String
  ackDeadlineSeconds : Int

/-- What an entry reports of the acknowledgement. -/
structure CommandOutcome where
  ackStatus : String
  ackEventID : String
  ackSuccess : Option Bool
  ackCode : String
  ackMessage : String
  ackResult : GoMap Json
  ackOccurredAt : Option Int
  ackReceivedAt : Option Int

/-- `DeviceServiceCallHistoryEntry` and `DevicePropertySetHistoryEntry`.  A
property set has no `serviceName`, and its `body` and `ackResult` are its
properties and those acknowledged. -/
structure CommandHistoryEntry extends CommandOutcome where
  commandID : Uuid
  tenantID : String
  productID : Uuid
  productKey : String
  deviceSlug : String
  serviceName : String
  topic : String
  body : GoMap Json
  occurredAt : Int
  ackDeadlineAt : Int
  ackDeadlineSeconds : Int

variable (kind : CommandKind)

/-- `command_id = c.command_id` -/
def acknowledges (command ack : EventRow) : Bool :=
  ack.uuid? "command_id" = some command.id

/-- `ORDER BY occurred_at DESC, event_id DESC LIMIT 1` -/
def latestAck (acks : List EventRow) (command : EventRow) : Option EventRow :=
  (acks.filter (acknowledges command)).argmax EventRow.recency

def ackDeadline (command : EventRow) (seconds : Int) : Int :=
  command.occurredAt + seconds * 1000000

def ackStatus (now deadline : Int) : Option EventRow → String
  | none => if now ≤ deadline then "pending" else "failed"
  | some ack => if ack.bool? "success" = some true then "success" else "failed"

def commandOutcome (now deadline : Int) (ack : Option EventRow) :
    CommandOutcome where
  ackStatus := ackStatus now deadline ack
  ackEventID := (ack.map fun row => Uuid.text row.id).getD ""
  ackSuccess := ack.bind (·.bool? "success")
  ackCode := (ack.map (·.text "code")).getD ""
  ackMessage := (ack.map (·.text "message")).getD ""
  ackResult := (ack.map (·.object kind.resultColumn)).getD GoMap.empty
  ackOccurredAt := ack.map EventRow.occurredAt
  ackReceivedAt := ack.map EventRow.receivedAt

def commandEntry (seconds : Int) (scope : DeviceScope) (command : EventRow) :
    CommandHistoryEntry :=
  let deadline := ackDeadline command seconds
  { commandOutcome kind out.now deadline
      (latestAck (tables kind.ackTable) command) with
    commandID := command.id
    tenantID := command.tenantID
    productID := scope.device.productID
    productKey := command.text "product_key"
    deviceSlug := command.text "device_slug"
    serviceName := command.text "service_name"
    topic := command.text "topic"
    body := command.object kind.bodyColumn
    occurredAt := command.occurredAt
    ackDeadlineAt := deadline
    ackDeadlineSeconds := seconds }

def listCommandHistory (input : CommandHistoryInput) :
    Database → Reply (PageResult CommandHistoryEntry) :=
  storeCall out "device" input.userID (findError .device kind.context)
    fun session => do
      let (scope, page) ← listHistory out tables session input.id kind.table
        (kind.filter input.name) input.toPageInput
      return page.map
        (commandEntry out tables kind input.ackDeadlineSeconds scope)

def listDeviceServiceCallHistory :
    CommandHistoryInput → Database → Reply (PageResult CommandHistoryEntry) :=
  listCommandHistory out tables .serviceCall

def listDevicePropertySetHistory :
    CommandHistoryInput → Database → Reply (PageResult CommandHistoryEntry) :=
  listCommandHistory out tables .propertySet

end Histories

end Registry

end LinkFlow
