/-
Where the rows in a device's views come from.  A row names its device by tenant,
product key and slug, as its event did, and a device may be registered again
under the same three; so the views show what was ever reported under them.
-/
import LinkFlow.CommandOutcomes
import LinkFlow.Platform
import LinkFlow.ProcessorDuplicates

namespace LinkFlow

namespace Processor

section Provenance

variable {out : Surroundings} {world : World} {env : Envelope}

/-- The command that an acknowledgement names. -/
def Payload.acknowledged? : Payload → Option String
  | .propertySetAcknowledged payload => some payload.commandID
  | .serviceCallAcknowledged payload => some payload.commandID
  | _ => none

/-- A row keeps what its event says of the device and, if it acknowledges, of
the command. -/
structure Records (env : Envelope) (payload : Payload) (table : Table)
    (row : EventRow) : Prop where
  table : (payload.rowKey env).map Prod.fst = some table
  tenantID : row.tenantID = env.tenantID
  productKey : row.text "product_key" = payload.fields.productKey
  deviceSlug : row.text "device_slug" = payload.fields.deviceSlug
  commandID : ∀ text, payload.acknowledged? = some text →
    row.uuid? "command_id" = Uuid.ofText? text

theorem column_nullIfEmpty {row : EventRow} {name text : String}
    (hcolumn : row.columns.lookup name = some (nullIfEmpty text)) :
    row.uuid? name = Uuid.ofText? text := by
  rw [EventRow.uuid?, EventRow.column, nullIfEmpty] at *
  rw [hcolumn]
  by_cases hempty : text = ""
  · subst hempty
    rfl
  · rw [if_neg hempty]
    rfl

theorem records_of_save {refused : List (Bool × String)} {insert : Insert}
    {payload : Payload} {table : Table} {row : EventRow}
    (hmem : .insert table row ∈ (saveEvent out world env refused insert).trace)
    (htable : (payload.rowKey env).map Prod.fst = some insert.table)
    (hkey : insert.columns.lookup "product_key" =
      some (.str payload.fields.productKey))
    (hslug : insert.columns.lookup "device_slug" =
      some (.str payload.fields.deviceSlug))
    (hcommand : ∀ text, payload.acknowledged? = some text →
      insert.columns.lookup "command_id" = some (nullIfEmpty text) ∨
        insert.columns.lookup "command_id" = some (.str text)) :
    Records env payload table row := by
  obtain ⟨_, heq, ⟨htenant, hcolumns⟩, -⟩ := mem_trace_saveEvent hmem
  cases heq
  rw [← hcolumns] at hkey hslug hcommand
  refine ⟨htable, htenant, ?_, ?_, fun text htext => ?_⟩
  · rw [EventRow.text, EventRow.column]
    rw [hkey]
    rfl
  · rw [EventRow.text, EventRow.column]
    rw [hslug]
    rfl
  · rcases hcommand text htext with hnull | hstr
    · exact column_nullIfEmpty hnull
    · rw [EventRow.uuid?, EventRow.column]
      rw [hstr]
      rfl

/-- A handler's body writes no row but its event's. -/
theorem records_of_body {payload : Payload} {table : Table} {row : EventRow}
    (hmem : .insert table row ∈ (payload.body out world env).trace) :
    Records env payload table row := by
  cases payload with
  | propertyReported payload =>
      obtain ⟨validated, -, hsave⟩ := insert_of_report
        (fun effect hlookup => mem_trace_validatePropertyReport hlookup) hmem
      exact records_of_save hsave rfl rfl rfl (fun _ htext => by cases htext)
  | eventReported payload =>
      obtain ⟨validated, -, hsave⟩ := insert_of_report
        (fun effect hlookup => mem_trace_validateEventReport hlookup) hmem
      exact records_of_save hsave rfl rfl rfl (fun _ htext => by cases htext)
  | propertySetRequested payload =>
      rcases mem_trace_commandBody.mp hmem with hsave | ⟨-, hmem⟩
      · exact records_of_save hsave rfl rfl rfl (fun _ htext => by cases htext)
      · obtain ⟨-, -, -, -, heq⟩ := mem_trace_publishPropertySet.mp hmem
        cases heq
  | serviceCallRequested payload =>
      rcases mem_trace_commandBody.mp hmem with hsave | ⟨-, hmem⟩
      · exact records_of_save hsave rfl rfl rfl (fun _ htext => by cases htext)
      · obtain ⟨-, -, -, heq⟩ := mem_trace_publishServiceCall.mp hmem
        cases heq
  | propertySetAcknowledged payload =>
      have hsave : .insert table row ∈ (savePropertySetAcknowledgement out world
          env { payload with
            properties := some (payload.properties.getD GoMap.empty)
            raw := some (payload.raw.getD GoMap.empty) }).trace := hmem
      apply records_of_save hsave rfl rfl rfl
      intro text htext
      cases htext
      exact Or.inl rfl
  | serviceCallAcknowledged payload =>
      rcases mem_trace_serviceCallBody.mp hmem with hmem | ⟨validated, -, hsave⟩
      · exact (not_insert_of_ofLookup (mem_trace_validateServiceCall hmem)).elim
      · apply records_of_save hsave rfl rfl rfl
        intro text htext
        cases htext
        exact Or.inr rfl
  | connected payload =>
      exact absurd hmem (not_insert_of_connection (fun _ => rfl) (by simp))
  | disconnected payload =>
      exact absurd hmem (not_insert_of_connection (fun _ => rfl) (by simp))

/-- A message leaves no row but that of its event. -/
theorem records_of_process {formats : FormatChecker} {message : Option Json}
    {table : Table} {row : EventRow}
    (hmem : .insert table row ∈ (process out world formats message).2) :
    ∃ env payload, eventOf formats message = some (env, payload) ∧
      Records env payload table row := by
  cases hvalid : validateEvent formats message with
  | error err =>
      have hnone : (process out world formats message).2 = [] := by
        rw [process]
        rw [hvalid]
        split <;> rfl
      rw [hnone] at hmem
      cases hmem
  | ok found =>
      obtain ⟨env, eventType⟩ := found
      by_cases hbegins : Begins out
      · rw [trace_process hvalid hbegins] at hmem
        cases hdecode : Payload.decode eventType env.payload with
        | none =>
            rw [hdecode] at hmem
            cases hmem
        | some payload =>
            rw [hdecode, Option.map_some, Option.getD_some] at hmem
            refine ⟨env, payload, ?_, records_of_body hmem⟩
            simp only [eventOf, hvalid, hdecode, Option.map_some]
      · rw [trace_process_of_not_begins hvalid hbegins] at hmem
        cases hmem

end Provenance

end Processor

namespace Platform

open Processor (EventRow Payload Effect)
open Registry (DeviceScope CommandKind)

section Runs

/-- A message that was handed to the processor, with what it left. -/
structure Delivery where
  message : Option Json
  trace : List Effect

/-- What an event can name a device by. -/
structure Identity where
  deviceID : Uuid
  tenantID : Uuid
  productKey : String
  deviceSlug : String
deriving DecidableEq

/-- The identities of the devices in a registry. -/
def identities (db : Registry.Database) : List Identity :=
  db.devices.rows.flatMap fun device =>
    (db.products.rows.filter fun product =>
      product.id = device.productID && product.tenantID = device.tenantID).map
      fun product =>
        ⟨device.id, device.tenantID, product.productKey, device.deviceSlug⟩

/-- The platform with all messages so far, and the identities that devices have
ever had. -/
structure History where
  platform : Platform
  delivered : List Delivery
  registered : List Identity

inductive Label where
  | request (request : Registry.Request)
  | deliver (out : Processor.Surroundings) (message : Option Json)

variable (casing : Registry.Casing) (bcrypt : Registry.Bcrypt)
  (formats : FormatChecker)

def step (history : History) : Label → History
  | .request request =>
      let db := Registry.serve casing bcrypt history.platform.registry request
      { history with
        platform := { history.platform with registry := db }
        registered := identities db ++ history.registered }
  | .deliver out message =>
      let trace :=
        (Processor.process out history.platform.world formats message).2
      { history with
        platform := history.platform.deliver formats out message
        delivered := ⟨message, trace⟩ :: history.delivered }

/-- Runs start with no event, over any registry. -/
def system : Transition.System History Label where
  init history := (∀ table, history.platform.rows table = []) ∧
    history.delivered = [] ∧
    history.registered = identities history.platform.registry
  step history label := some (step casing bcrypt formats history label)

/-- The row was left by this event. -/
def History.CameFrom (history : History) (table : Processor.Table)
    (row : EventRow) (env : Envelope) (payload : Payload) : Prop :=
  ∃ delivery ∈ history.delivered, .insert table row ∈ delivery.trace ∧
    Processor.eventOf formats delivery.message = some (env, payload)

variable {casing bcrypt formats} {history : History}

theorem rows_apply_cases {world : Processor.World} {effect : Effect}
    {table : Processor.Table} {row : EventRow}
    (hmem : row ∈ (world.apply effect).rows table) :
    row ∈ world.rows table ∨ effect = .insert table row := by
  cases effect with
  | insert other inserted =>
      by_cases htable : table = other
      · subst htable
        simp only [Processor.World.apply, Function.update_self, List.mem_append,
          List.mem_singleton] at hmem
        rcases hmem with hold | hnew
        · exact Or.inl hold
        · exact Or.inr (hnew ▸ rfl)
      · simp only [Processor.World.apply, Function.update_of_ne htable] at hmem
        exact Or.inl hmem
  | _ => exact Or.inl hmem

/-- A row that handling a message has left was there, or its trace inserts
it. -/
theorem rows_applyAll_cases {world : Processor.World} {trace : List Effect}
    {table : Processor.Table} {row : EventRow}
    (hmem : row ∈ (world.applyAll trace).rows table) :
    row ∈ world.rows table ∨ .insert table row ∈ trace := by
  induction trace generalizing world with
  | nil => exact Or.inl hmem
  | cons effect rest ih =>
      rcases ih hmem with hbefore | hinsert
      · rcases rows_apply_cases hbefore with hold | hnew
        · exact Or.inl hold
        · exact Or.inr (hnew ▸ List.mem_cons_self)
      · exact Or.inr (List.mem_cons_of_mem _ hinsert)

/-- Every row came from an event that was delivered, and keeps what it said. -/
def Traced (formats : FormatChecker) (history : History) : Prop :=
  ∀ table, ∀ row ∈ history.platform.rows table, ∃ env payload,
    history.CameFrom formats table row env payload ∧
      Processor.Records env payload table row

theorem Traced.deliver (htraced : Traced formats history)
    (out : Processor.Surroundings) (message : Option Json) :
    Traced formats (step casing bcrypt formats history
      (.deliver out message)) := by
  intro table row hrow
  rcases rows_applyAll_cases hrow with hold | hinsert
  · obtain ⟨env, payload, ⟨delivery, hmem, hcame⟩, hrecords⟩ :=
      htraced table row hold
    exact ⟨env, payload, ⟨delivery, List.mem_cons_of_mem _ hmem, hcame⟩,
      hrecords⟩
  · obtain ⟨env, payload, hevent, hrecords⟩ :=
      Processor.records_of_process hinsert
    exact ⟨env, payload, ⟨_, List.mem_cons_self, hinsert, hevent⟩, hrecords⟩

theorem traced_of_reachable
    (hreach : (system casing bcrypt formats).Reachable history) :
    Traced formats history := by
  apply hreach.invariant
  · rintro start ⟨hrows, -, -⟩ table row hrow
    rw [hrows table] at hrow
    cases hrow
  · intro current label next hcurrent hstep
    cases hstep
    cases label with
    | request request => exact hcurrent
    | deliver out message => exact hcurrent.deliver out message

end Runs

section Views

/-- One call of one of the five views. -/
inductive View where
  | latestProperties (input : Registry.RowInput)
  | propertyTrend (input : Registry.DevicePropertyTrendInput)
  | eventHistory (input : Registry.DeviceEventHistoryInput)
  | commandHistory (kind : CommandKind) (input : Registry.CommandHistoryInput)

namespace View

def userID : View → Uuid
  | .latestProperties input => input.userID
  | .propertyTrend input => input.userID
  | .eventHistory input => input.userID
  | .commandHistory _ input => input.userID

def id : View → String
  | .latestProperties input => input.id
  | .propertyTrend input => input.id
  | .eventHistory input => input.id
  | .commandHistory _ input => input.id

def table : View → Processor.Table
  | .latestProperties _ | .propertyTrend _ => .propertyReport
  | .eventHistory _ => .eventReport
  | .commandHistory kind _ => kind.table

/-- The rows of its device that a view's query takes in. -/
def rows (tables : Registry.EventTables) (scope : DeviceScope) :
    View → List EventRow
  | .latestProperties _ => (Registry.latestReport tables scope).toList
  | .propertyTrend input => Registry.trendRows tables scope input
  | .eventHistory input => (tables .eventReport).filter fun row =>
      scope.holds row &&
        (input.eventName = "" || row.text "event_name" = input.eventName)
  | .commandHistory kind input => (tables kind.table).filter fun row =>
      scope.holds row && kind.filter input.name row

/-- The acknowledgement that a view joins to a row. -/
def ack (tables : Registry.EventTables) (row : EventRow) : View →
    Option EventRow
  | .commandHistory kind _ => Registry.latestAck (tables kind.ackTable) row
  | _ => none

def ackTable : View → Processor.Table
  | .commandHistory kind _ => kind.ackTable
  | view => view.table

abbrev Answer : View → Type
  | .latestProperties _ => Registry.DeviceLatestProperties
  | .propertyTrend _ => Registry.DevicePropertyTrend
  | .eventHistory _ => Registry.PageResult Registry.DeviceEventEntry
  | .commandHistory _ _ => Registry.PageResult Registry.CommandHistoryEntry

def reply (out : Registry.Surroundings) (tables : Registry.EventTables) :
    (view : View) → Registry.Database → Registry.Reply view.Answer
  | .latestProperties input =>
      Registry.findDeviceLatestProperties out tables input
  | .propertyTrend input => Registry.findDevicePropertyTrend out tables input
  | .eventHistory input => Registry.listDeviceEventHistory out tables input
  | .commandHistory kind input => kind.history out tables input

end View

variable {view : View} {scope : DeviceScope} {tables : Registry.EventTables}
  {row : EventRow}

theorem mem_rows (hrow : row ∈ view.rows tables scope) :
    row ∈ tables view.table ∧ scope.holds row = true := by
  cases view with
  | latestProperties input =>
      exact List.mem_filter.mp (List.argmax_mem (Option.mem_toList.mp hrow))
  | propertyTrend input =>
      obtain ⟨hmem, hkeep⟩ := List.mem_filter.mp hrow
      simp only [Bool.and_eq_true] at hkeep
      exact ⟨hmem, hkeep.1.1⟩
  | eventHistory input =>
      obtain ⟨hmem, hkeep⟩ := List.mem_filter.mp hrow
      exact ⟨hmem, (Bool.and_eq_true _ _ ▸ hkeep : _ ∧ _).1⟩
  | commandHistory kind input =>
      obtain ⟨hmem, hkeep⟩ := List.mem_filter.mp hrow
      exact ⟨hmem, (Bool.and_eq_true _ _ ▸ hkeep : _ ∧ _).1⟩

/-- Two states of the event tables in which a view takes in the same rows, with
the same acknowledgements, give the same reply. -/
theorem reply_congr {out : Registry.Surroundings}
    {tables tables' : Registry.EventTables} {db : Registry.Database}
    (hrows : ∀ scope, view.rows tables scope = view.rows tables' scope)
    (hacks : ∀ scope, ∀ row ∈ view.rows tables scope,
      view.ack tables row = view.ack tables' row) :
    (view.reply out tables db).1 = (view.reply out tables' db).1 := by
  cases view with
  | latestProperties input =>
      have hreply : Registry.findDeviceLatestProperties out tables input db =
          Registry.findDeviceLatestProperties out tables' input db := by
        apply Registry.storeCall_congr
        apply Registry.findScope_bind_congr
        intro scope _ _
        have hlatest : Registry.latestReport tables scope =
            Registry.latestReport tables' scope := by
          simpa only [View.rows, Option.head?_toList] using
            congrArg List.head? (hrows scope)
        simp only [Registry.latestProperties, hlatest]
      exact congrArg Prod.fst hreply
  | propertyTrend input =>
      have hreply : Registry.findDevicePropertyTrend out tables input db =
          Registry.findDevicePropertyTrend out tables' input db := by
        apply Registry.storeCall_congr
        apply Registry.findScope_bind_congr
        intro scope _ _
        have htrend : Registry.trendRows tables scope input =
            Registry.trendRows tables' scope input := hrows scope
        simp only [Registry.trendSamples, htrend]
      exact congrArg Prod.fst hreply
  | eventHistory input =>
      have hlist : ∀ scope, Registry.listScope out tables .eventReport
            (fun row => input.eventName = "" ||
              row.text "event_name" = input.eventName) input.toPageInput scope =
          Registry.listScope out tables' .eventReport
            (fun row => input.eventName = "" ||
              row.text "event_name" = input.eventName) input.toPageInput
            scope := by
        intro scope
        have hfilter := hrows scope
        simp only [View.rows] at hfilter
        simp only [Registry.listScope, hfilter]
      simp only [View.reply, Registry.listDeviceEventHistory,
        Registry.listHistory, hlist]
  | commandHistory kind input =>
      have hlist : ∀ scope, Registry.listScope out tables kind.table
            (kind.filter input.name) input.toPageInput scope =
          Registry.listScope out tables' kind.table
            (kind.filter input.name) input.toPageInput scope := by
        intro scope
        have hfilter := hrows scope
        simp only [View.rows] at hfilter
        simp only [Registry.listScope, hfilter]
      have hsame : Registry.listCommands kind out input db tables =
          Registry.listCommands kind out input db tables' := by
        simp only [Registry.listCommands, Registry.listHistory, hlist]
      change (kind.history out tables input db).1 =
        (kind.history out tables' input db).1
      rw [Registry.history_eq, Registry.history_eq, ← hsame]
      cases hlisted : (Registry.listCommands kind out input db tables).1 with
      | error err => rfl
      | ok found =>
          obtain ⟨scope, page⟩ := found
          obtain ⟨next, hbody⟩ := Registry.storeCall_eq_ok hlisted
          obtain ⟨-, -, hitems⟩ := Registry.listHistory_eq_ok hbody
          have hentries : page.items.map (Registry.commandEntry out tables kind
                input.ackDeadlineSeconds scope) =
              page.items.map (Registry.commandEntry out tables' kind
                input.ackDeadlineSeconds scope) := by
            apply List.map_congr_left
            intro command hcommand
            obtain ⟨hmem, hholds, hkeep⟩ := hitems command hcommand
            have hack := hacks scope command (List.mem_filter.mpr
              ⟨hmem, Bool.and_eq_true _ _ ▸ ⟨hholds, hkeep⟩⟩)
            simp only [View.ack] at hack
            simp only [Registry.commandEntry, hack]
          simp only [Except.map, Registry.commandEntries,
            Registry.PageResult.map, hentries]

/-- The tenant, the product key and the slug that a device is known by. -/
structure Names (scope : DeviceScope) (env : Envelope)
    (fields : DeviceFields) : Prop where
  tenantID : env.tenantID = Uuid.text scope.device.tenantID
  productKey : fields.productKey = scope.product.productKey
  deviceSlug : fields.deviceSlug = scope.device.deviceSlug

/-- The event names a device that was registered like this, by its id too. -/
def NamesRegistered (history : History) (env : Envelope)
    (fields : DeviceFields) : Prop :=
  ∃ identity ∈ history.registered,
    env.tenantID = Uuid.text identity.tenantID ∧
    fields.productKey = identity.productKey ∧
    fields.deviceSlug = identity.deviceSlug ∧
    Uuid.ofText? fields.deviceID = some identity.deviceID

/-- No other device was ever registered under the tenant, product key and slug
of this one. -/
def SoleHolder (history : History) (scope : DeviceScope) : Prop :=
  ∀ identity ∈ history.registered,
    identity.tenantID = scope.device.tenantID →
    identity.productKey = scope.product.productKey →
    identity.deviceSlug = scope.device.deviceSlug →
    identity.deviceID = scope.device.id

theorem names_of_records {env : Envelope} {payload : Payload}
    {table : Processor.Table}
    (hrecords : Processor.Records env payload table row)
    (hholds : scope.holds row = true) : Names scope env payload.fields := by
  simp only [DeviceScope.holds, Bool.and_eq_true, decide_eq_true_eq] at hholds
  obtain ⟨⟨htenant, hkey⟩, hslug⟩ := hholds
  exact ⟨hrecords.tenantID.symm.trans htenant,
    hrecords.productKey.symm.trans hkey, hrecords.deviceSlug.symm.trans hslug⟩

theorem deviceID_of_names {history : History} {env : Envelope}
    {fields : DeviceFields} (hnames : Names scope env fields)
    (hregistered : NamesRegistered history env fields)
    (hsole : SoleHolder history scope) :
    Uuid.ofText? fields.deviceID = some scope.device.id := by
  obtain ⟨identity, hmem, htenant, hkey, hslug, hid⟩ := hregistered
  have hsame := hsole identity hmem
    (Uuid.text_injective (htenant.symm.trans hnames.tenantID))
    (hkey.symm.trans hnames.productKey) (hslug.symm.trans hnames.deviceSlug)
  rw [hid, hsame]

/-- A command's acknowledgement is an acknowledgement event that names it. -/
theorem acknowledged_of_records {env : Envelope} {payload : Payload}
    {kind : CommandKind} {command ack : EventRow}
    (hrecords : Processor.Records env payload kind.ackTable ack)
    (hacks : Registry.acknowledges command ack = true) :
    ∃ text, payload.acknowledged? = some text ∧
      Uuid.ofText? text = some command.id := by
  have htext : ∃ text, payload.acknowledged? = some text := by
    have htable := hrecords.table
    cases kind <;> cases payload <;>
      simp [Payload.rowKey, CommandKind.ackTable,
        Payload.acknowledged?] at htable ⊢
  obtain ⟨text, htext⟩ := htext
  simp only [Registry.acknowledges, decide_eq_true_eq] at hacks
  exact ⟨text, htext, (hrecords.commandID text htext).symm.trans hacks⟩

/-- In every run, whatever a view of a device takes in came from events that
name the tenant, the product key and the slug of the device, and the device
itself as long as events name registered devices and no other device has had the
three. What it joins to a command came from an acknowledgement that names the
command. -/
theorem views_take_named_events (casing : Registry.Casing)
    (bcrypt : Registry.Bcrypt) (formats : FormatChecker) {history : History}
    (hreach : (system casing bcrypt formats).Reachable history) (view : View)
    {deviceID : Uuid} {scope : DeviceScope}
    (hscope : (Registry.Session.actor view.userID).scope? deviceID
      history.platform.registry = some scope) :
    (∀ row ∈ view.rows history.platform.rows scope, ∃ env payload,
      history.CameFrom formats view.table row env payload ∧
        Names scope env payload.fields ∧
        (NamesRegistered history env payload.fields → SoleHolder history scope →
          Uuid.ofText? payload.fields.deviceID = some deviceID)) ∧
      ∀ row ∈ view.rows history.platform.rows scope, ∀ ack,
        view.ack history.platform.rows row = some ack → ∃ env payload text,
          history.CameFrom formats view.ackTable ack env payload ∧
            payload.acknowledged? = some text ∧
            Uuid.ofText? text = some row.id := by
  have htraced := traced_of_reachable hreach
  have hdevice : scope.device.id = deviceID := by
    obtain ⟨device, hfound, hproduct⟩ := Option.bind_eq_some_iff.mp hscope
    obtain ⟨product, -, rfl⟩ := Option.map_eq_some_iff.mp hproduct
    have hsees := List.find?_some hfound
    rw [Bool.and_eq_true, decide_eq_true_eq] at hsees
    exact hsees.2
  constructor
  · intro row hrow
    obtain ⟨hmem, hholds⟩ := mem_rows hrow
    obtain ⟨env, payload, hcame, hrecords⟩ := htraced view.table row hmem
    have hnames := names_of_records hrecords hholds
    refine ⟨env, payload, hcame, hnames, fun hregistered hsole => ?_⟩
    rw [deviceID_of_names hnames hregistered hsole, hdevice]
  · intro row _ ack hack
    cases view with
    | commandHistory kind input =>
        obtain ⟨hmem, hacks⟩ := Registry.mem_acks_of_latest hack
        obtain ⟨env, payload, hcame, hrecords⟩ := htraced kind.ackTable ack hmem
        obtain ⟨text, htext, hid⟩ := acknowledged_of_records hrecords hacks
        exact ⟨env, payload, text, hcame, htext, hid⟩
    | _ => cases hack

end Views

section Sample

/-- The backend's request to set the switch of the device 3. -/
def switchOn : Envelope where
  eventID := Uuid.text 10
  eventType := EventType.propertySetRequested.text
  eventVersion := 1
  occurredAt := "2026-05-05T12:00:00Z"
  producer := "backend"
  tenantID := Uuid.text 1
  traceID := ""
  correlationID := ""
  causationID := ""
  payload := .obj
    (DeviceFields.members
        ⟨Uuid.text 1, Uuid.text 2, Uuid.text 3, "acme", "lamp", "b"⟩ ++
      [("protocol", .str "mqtt"), ("command_id", .str (Uuid.text 11)),
        ("topic", .str "lf/v1/acme/lamp/b/property/down/set"),
        ("properties", .obj [("led", .bool true)]),
        ("requested_by", .str (Uuid.text 7))])

/-- One device, `b`, with the id 3. -/
def lampPlatform : Platform where
  registry := Registry.lampRegistry
  rows _ := []
  online _ := none
  stateTopic := []
  downlinks := []
  caches _ _ := none

def lampStart : History := ⟨lampPlatform, [], identities lampPlatform.registry⟩

/-- The request for the device 3. -/
def commanded : List Label := [.deliver Processor.calm (some switchOn.json)]

/-- The same, and then another device takes the slug. -/
def replaced : List Label :=
  commanded ++
    [.request (.deleteDevice (Registry.calmCall 9)
      ⟨7, "00000000-0000-0000-0000-000000000003"⟩),
    .request (Registry.lampDevice 4 "b")]

def lampAfter (labels : List Label) : History :=
  labels.foldl (step Registry.asciiCasing Registry.plainBcrypt
    FormatChecker.byShape) lampStart

theorem reachable_lampAfter (labels : List Label) :
    (system Registry.asciiCasing Registry.plainBcrypt
      FormatChecker.byShape).Reachable (lampAfter labels) := by
  have hstart : (system Registry.asciiCasing Registry.plainBcrypt
      FormatChecker.byShape).Reachable lampStart := .start
      ⟨fun _ => rfl, rfl, rfl⟩
  rw [lampAfter]
  generalize lampStart = history at hstart
  induction labels generalizing history with
  | nil => exact hstart
  | cons label rest ih => exact ih _ (hstart.next rfl)

/-- The property sets of a device, for the owner of the tenant. -/
def lampSets (id : String) : View :=
  .commandHistory .propertySet ⟨⟨1, 20⟩, 7, id, "", 90⟩

/-- The scope of a device for the owner of the tenant, and what a view takes
in. -/
def lampShown (labels : List Label) (deviceID : Uuid) :
    List (Uuid × List Uuid) :=
  let history := lampAfter labels
  ((Registry.Session.actor 7).scope? deviceID
    history.platform.registry).toList.map fun scope => (scope.device.id,
      ((lampSets (Uuid.text deviceID)).rows history.platform.rows scope).map
        (·.id))

theorem of_lampShown {labels : List Label} {deviceID id : Uuid}
    (hshown : lampShown labels deviceID = [(deviceID, [id])]) :
    ∃ scope, (Registry.Session.actor 7).scope? deviceID
        (lampAfter labels).platform.registry = some scope ∧
      ∃ row, row ∈ (lampSets (Uuid.text deviceID)).rows
        (lampAfter labels).platform.rows scope := by
  simp only [lampShown] at hshown
  cases hscope : (Registry.Session.actor 7).scope? deviceID
      (lampAfter labels).platform.registry with
  | none =>
      rw [hscope] at hshown
      cases hshown
  | some scope =>
      simp only [hscope, Option.toList_some, List.map_cons, List.map_nil,
        List.cons.injEq, Prod.mk.injEq, and_true] at hshown
      obtain ⟨row, hrow, -⟩ := List.mem_map.mp
        (hshown.2 ▸ List.mem_singleton_self id)
      exact ⟨scope, rfl, row, hrow⟩

/-- The only event of the sample runs names the device 3. -/
theorem deviceID_of_cameFrom {history : History} {table : Processor.Table}
    {row : EventRow} {env : Envelope} {payload : Payload}
    (hdelivered : history.delivered.map Delivery.message = [some switchOn.json])
    (hcame : history.CameFrom FormatChecker.byShape table row env payload) :
    Uuid.ofText? payload.fields.deviceID = some 3 := by
  obtain ⟨delivery, hmem, -, hevent⟩ := hcame
  have hmessage : delivery.message ∈ history.delivered.map Delivery.message :=
    List.mem_map_of_mem hmem
  rw [hdelivered, List.mem_singleton] at hmessage
  have hids : (Processor.eventOf FormatChecker.byShape (some switchOn.json)).map
      (fun event => Uuid.ofText? event.2.fields.deviceID) = some (some 3) := by
    decide +kernel
  rw [← hmessage, hevent] at hids
  exact Option.some.inj hids

/-- The history of a device lists a command that was sent to it. -/
theorem views_take_named_events_sole_holder :
    ∃ scope row env payload,
      (Registry.Session.actor 7).scope? 3
        (lampAfter commanded).platform.registry = some scope ∧
      row ∈ (lampSets (Uuid.text 3)).rows (lampAfter commanded).platform.rows
        scope ∧
      (lampAfter commanded).CameFrom FormatChecker.byShape .propertySet row env
        payload ∧ Names scope env payload.fields := by
  obtain ⟨scope, hscope, row, hrow⟩ :=
    of_lampShown
    (by decide +kernel : lampShown commanded 3 = [(3, [11])])
  obtain ⟨env, payload, hcame, hnames, -⟩ := (views_take_named_events
    Registry.asciiCasing Registry.plainBcrypt FormatChecker.byShape
    (reachable_lampAfter commanded) (lampSets (Uuid.text 3)) hscope).1 row hrow
  exact ⟨scope, row, env, payload, hscope, hrow, hcame, hnames⟩

/-- The history of the device that took the slug lists the command that was sent
to its predecessor. -/
theorem view_takes_predecessor :
    ∃ history scope row,
      (system Registry.asciiCasing Registry.plainBcrypt
        FormatChecker.byShape).Reachable history ∧
      (Registry.Session.actor 7).scope? 4 history.platform.registry =
        some scope ∧
      row ∈ (lampSets (Uuid.text 4)).rows history.platform.rows scope ∧
      ∀ env payload, history.CameFrom FormatChecker.byShape .propertySet row env
        payload → Uuid.ofText? payload.fields.deviceID ≠ some 4 := by
  obtain ⟨scope, hscope, row, hrow⟩ :=
    of_lampShown
    (by decide +kernel : lampShown replaced 4 = [(4, [11])])
  refine ⟨lampAfter replaced, scope, row, reachable_lampAfter replaced, hscope,
    hrow, fun env payload hcame heq => ?_⟩
  have hid := deviceID_of_cameFrom rfl hcame
  rw [hid] at heq
  cases heq

end Sample

end Platform

end LinkFlow
