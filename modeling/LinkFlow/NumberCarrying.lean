/-
The numbers of reports, acknowledgements and commands on their way from the text
they arrive in to the tables, the events and the device.
-/
import LinkFlow.CommandValidation
import LinkFlow.JsonNumbers
import LinkFlow.ReportFiltering

namespace LinkFlow

namespace Processor

open ThingsModel

section Handlers

variable (out : Surroundings) (world : World)

/-- `PropertyReportHandler.Handle` on the text of a payload. -/
def propertyReportReads : Envelope → Result × List Effect := fun env =>
  handleWith out "property reported payload" PropertyReportedPayload.read
    PropertyReportedPayload.toDeviceFields (propertyReportBody out world env)
    env

/-- `EventReportHandler.Handle` on the text of a payload. -/
def eventReportReads : Envelope → Result × List Effect := fun env =>
  handleWith out "event reported payload" EventReportedPayload.read
    EventReportedPayload.toDeviceFields (eventReportBody out world env) env

/-- `ServiceCallHandler.Handle` on the text of a payload. -/
def serviceCallReads : Envelope → Result × List Effect := fun env =>
  handleWith out "service call acknowledged payload"
    ServiceCallAcknowledgedPayload.read
    ServiceCallAcknowledgedPayload.toDeviceFields
    (serviceCallBody out world env) env

/-- `PropertySetRequestedHandler.Handle` on the text of a payload. -/
def propertySetRequestedReads : Envelope → Result × List Effect := fun env =>
  handleWith out "property set requested payload"
    PropertySetRequestedPayload.read PropertySetRequestedPayload.toDeviceFields
    (propertySetRequestedBody out world env) env

/-- `ServiceCallRequestedHandler.Handle` on the text of a payload. -/
def serviceCallRequestedReads : Envelope → Result × List Effect := fun env =>
  handleWith out "service call requested payload"
    ServiceCallRequestedPayload.read ServiceCallRequestedPayload.toDeviceFields
    (serviceCallRequestedBody out world env) env

end Handlers

/-- The rows and the state events of a handler have, under `key`, the accepted
numbers of a text as they are carried.  An acknowledged message has its row. -/
structure CarriesNumbers (world : World) (env : Envelope) (table : Table)
    (key : String) (text : GoMap Json) (validate : Call Validated)
    (handled : Result × List Effect) : Prop where
  row : ∀ {written row}, .insert written row ∈ handled.2 →
    ∃ validated column, validate.outcome = .ok validated ∧ written = table ∧
      row.columns.lookup key = some column ∧
      CarriedUnder text (fun name =>
        (validated.accepted.get? name).isSome = true)
        column.written
  published : ∀ {topic state}, .publish topic state ∈ handled.2 →
    ∃ validated value, validate.outcome = .ok validated ∧
      state.payload.field? key = some value ∧
      CarriedUnder text (fun name =>
        (validated.accepted.get? name).isSome = true)
        value.written
  acked : handled.1.decision = .ack →
    Stored world env table env.eventID ∨ ∃ row, .insert table row ∈ handled.2

section Reports

variable {out : Surroundings} {world : World} {env : Envelope}
  {text memory : GoMap Json} {validate : Call Validated}

/-- A validator accepts values as they were reported. -/
def KeepsValues (report : GoMap Json) (validate : Call Validated) : Prop :=
  ∀ validated, validate.outcome = .ok validated → ∀ name value,
    validated.accepted.get? name = some value → report.get? name = some value

theorem keepsValues_of_judged {kind : ThingsModel.Section}
    {refused : Option Failure} {tenantID productID : String}
    {verdict : Definition → Except Failure Validated} {report : GoMap Json}
    (hverdict : ∀ definition validated, verdict definition = .ok validated →
      ∃ known, Partitions known report validated) :
    KeepsValues report
      (validateWith out world kind refused tenantID productID verdict) := by
  intro validated hok name value hget
  obtain ⟨-, -, -, definition, -, hverdicted⟩ :=
    outcome_validateWith_eq_ok.mp hok
  obtain ⟨known, hsplit⟩ := hverdict definition validated hverdicted
  exact ((hsplit.accepted name value).mp hget).1

theorem keepsValues_propertyReport (tenantID productID : String)
    (report : GoMap Json) :
    KeepsValues report
      (validatePropertyReport out world tenantID productID report) := by
  apply keepsValues_of_judged
  intro definition validated hok
  have hjudged := propertyVerdict_judged definition report
  rw [hok] at hjudged
  obtain ⟨known, -, hsplit⟩ := hjudged.partitions
  exact ⟨known, hsplit⟩

theorem keepsValues_eventReport (tenantID productID eventName : String)
    (report : GoMap Json) :
    KeepsValues report
      (validateEventReport out world tenantID productID eventName report) := by
  apply keepsValues_of_judged
  intro definition validated hok
  have hjudged := eventVerdict_judged (trimSpace eventName) definition report
  rw [hok] at hjudged
  obtain ⟨known, -, hsplit⟩ := hjudged.partitions
  exact ⟨known, hsplit⟩

theorem keepsValues_serviceCall (tenantID productID serviceName : String)
    (report : GoMap Json) :
    KeepsValues report
      (validateServiceCall out world tenantID productID
        serviceName report) := by
  apply keepsValues_of_judged
  intro definition validated hok
  have hjudged :=
    serviceVerdict_judged (trimSpace serviceName) definition report
  rw [hok] at hjudged
  obtain ⟨known, -, hsplit⟩ := hjudged.partitions
  exact ⟨known, hsplit⟩

theorem carriedUnder_accepted (hread : readNumbers text = some memory)
    (hkeeps : KeepsValues memory validate) {validated : Validated}
    (hok : validate.outcome = .ok validated) :
    CarriedUnder text (fun name => (validated.accepted.get? name).isSome = true)
      (Json.ofMap validated.accepted).written := by
  apply carriedUnder_written hread
  intro name value hname hmemory
  obtain ⟨held, hheld⟩ := Option.isSome_iff_exists.mp hname
  have hreported := hkeeps validated hok name held hheld
  rw [hmemory] at hreported
  cases hreported
  exact hheld

theorem carriesNumbers_of_accepted {table : Table} {key : String}
    {handled : Result × List Effect} (hread : readNumbers text = some memory)
    (hkeeps : KeepsValues memory validate)
    (haccepted : CarriesAccepted world env validate table key handled) :
    CarriesNumbers world env table key text validate handled := by
  refine ⟨?_, ?_, ?_⟩
  · intro written row hrow
    obtain ⟨validated, hok, htable, hcolumn⟩ := haccepted.row hrow
    exact ⟨validated, _, hok, htable, hcolumn,
      carriedUnder_accepted hread hkeeps hok⟩
  · intro topic state hpublish
    obtain ⟨validated, hok, hvalue⟩ := haccepted.published hpublish
    exact ⟨validated, _, hok, hvalue, carriedUnder_accepted hread hkeeps hok⟩
  · intro hack
    exact (haccepted.acked hack).1

/-- A payload that cannot be read leaves nothing. -/
theorem carriesNumbers_of_unread {α : Type} {what : String}
    {read : Json → Option α} {fields : α → DeviceFields} {body : α → Body Unit}
    {table : Table} {key : String} (hunread : read env.payload = none) :
    CarriesNumbers world env table key text validate
      (handleWith out what read fields body env) := by
  have hnothing {effect : Effect}
      (hmem : effect ∈ (handleWith out what read fields body env).2) :
      False := by
    obtain ⟨payload, hread, -⟩ := mem_trace_handleWith hmem
    rw [hunread] at hread
    cases hread
  refine ⟨fun hrow => (hnothing hrow).elim,
    fun hpublish => (hnothing hpublish).elim,
    ?_⟩
  intro hack
  obtain ⟨-, payload, hread, -⟩ := handleWith_ack_iff.mp hack
  rw [hunread] at hread
  cases hread

theorem readNumbers_getD {text? memory? : Option (GoMap Json)}
    (hread : readNumbers? text? = some memory?) :
    readNumbers (text?.getD GoMap.empty) = some (memory?.getD GoMap.empty) := by
  cases text? with
  | none =>
      cases hread
      rfl
  | some text =>
      obtain ⟨memory, hmemory, rfl⟩ := Option.map_eq_some_iff.mp hread
      exact hmemory

theorem propertyReport_carriesNumbers {payload : PropertyReportedPayload}
    (hdecode : PropertyReportedPayload.decode env.payload = some payload)
    (hread : readNumbers (payload.properties.getD GoMap.empty) = some memory) :
    CarriesNumbers world env .propertyReport "properties"
      (payload.properties.getD GoMap.empty)
      (validatePropertyReport out world payload.tenantID
        payload.productID memory)
      (propertyReportReads out world env) := by
  cases hpayload : PropertyReportedPayload.read env.payload with
  | none => exact carriesNumbers_of_unread hpayload
  | some found =>
      have hfound := hpayload
      simp only [PropertyReportedPayload.read, hdecode, Option.bind_eq_bind,
        Option.bind_some, Option.bind_eq_some_iff] at hfound
      obtain ⟨properties, hproperties, raw, -, heq⟩ := hfound
      cases heq
      have hmemory := readNumbers_getD hproperties
      rw [hread] at hmemory
      cases hmemory
      apply carriesNumbers_of_accepted hread (keepsValues_propertyReport _ _ _)
      apply carriesAccepted_of_report hpayload rfl
        (fun effect hmem => mem_trace_validatePropertyReport hmem)
      all_goals
        intro validated
        rfl

theorem eventReport_carriesNumbers {payload : EventReportedPayload}
    (hdecode : EventReportedPayload.decode env.payload = some payload)
    (hread : readNumbers (payload.params.getD GoMap.empty) = some memory) :
    CarriesNumbers world env .eventReport "params"
      (payload.params.getD GoMap.empty)
      (validateEventReport out world payload.tenantID payload.productID
        payload.eventName memory)
      (eventReportReads out world env) := by
  cases hpayload : EventReportedPayload.read env.payload with
  | none => exact carriesNumbers_of_unread hpayload
  | some found =>
      have hfound := hpayload
      simp only [EventReportedPayload.read, hdecode, Option.bind_eq_bind,
        Option.bind_some, Option.bind_eq_some_iff] at hfound
      obtain ⟨params, hparams, raw, -, heq⟩ := hfound
      cases heq
      have hmemory := readNumbers_getD hparams
      rw [hread] at hmemory
      cases hmemory
      apply carriesNumbers_of_accepted hread (keepsValues_eventReport _ _ _ _)
      apply carriesAccepted_of_report hpayload rfl
        (fun effect hmem => mem_trace_validateEventReport hmem)
      all_goals
        intro validated
        rfl

/-- An acknowledgement leaves its row and no event. -/
theorem serviceCall_carriesNumbers {payload : ServiceCallAcknowledgedPayload}
    (hdecode : ServiceCallAcknowledgedPayload.decode env.payload = some payload)
    (hread : readNumbers (payload.output.getD GoMap.empty) = some memory) :
    CarriesNumbers world env .serviceCallAck "output"
      (payload.output.getD GoMap.empty)
      (validateServiceCall out world payload.tenantID payload.productID
        payload.serviceName memory)
      (serviceCallReads out world env) := by
  cases hpayload : ServiceCallAcknowledgedPayload.read env.payload with
  | none => exact carriesNumbers_of_unread hpayload
  | some found =>
      have hfound := hpayload
      simp only [ServiceCallAcknowledgedPayload.read, hdecode,
        Option.bind_eq_bind, Option.bind_some,
        Option.bind_eq_some_iff] at hfound
      obtain ⟨output, houtput, raw, -, heq⟩ := hfound
      cases heq
      have hmemory := readNumbers_getD houtput
      rw [hread] at hmemory
      cases hmemory
      have heffect {effect : Effect}
          (hmem : effect ∈ (serviceCallReads out world env).2) :
          effect.OfLookup .services (trimSpace payload.tenantID)
              (trimSpace payload.productID) ∨ ∃ validated row,
            (validateServiceCall out world payload.tenantID payload.productID
              payload.serviceName (output.getD GoMap.empty)).outcome =
                .ok validated ∧
            effect = .insert .serviceCallAck row ∧
            row.columns.lookup "output" = some (.ofMap validated.accepted) := by
        have hbody := mem_trace_of_handleWith hpayload hmem
        rcases mem_trace_serviceCallBody.mp hbody with
          hlookup | ⟨validated, hok, hsave⟩
        · exact Or.inl (mem_trace_validateServiceCall hlookup)
        · obtain ⟨row, heq, ⟨-, hcolumns⟩, -⟩ := mem_trace_saveEvent hsave
          exact Or.inr ⟨validated, row, hok, heq, hcolumns ▸ rfl⟩
      refine ⟨?_, ?_, ?_⟩
      · intro written row hrow
        rcases heffect hrow with hlookup | ⟨validated, _, hok, heq, hcolumn⟩
        · exact (not_insert_of_ofLookup hlookup).elim
        · cases heq
          exact ⟨validated, _, hok, rfl, hcolumn, carriedUnder_accepted hread
            (keepsValues_serviceCall _ _ _ _) hok⟩
      · intro topic state hpublish
        rcases heffect hpublish with (heq | ⟨_, _, heq⟩) | ⟨_, _, -, heq, -⟩
        · cases heq
        · cases heq
        · cases heq
      · intro hack
        obtain ⟨hctx, acked, hacked, hok⟩ := handleWith_ack_iff.mp hack
        rw [hpayload] at hacked
        cases hacked
        obtain ⟨validated, hvalidate, hsave⟩ := serviceCallBody_ok hok
        rcases stored_or_inserted hsave with hstored | ⟨row, hrow⟩
        · exact Or.inl hstored
        · refine Or.inr ⟨row, ?_⟩
          rw [serviceCallReads]
          rw [trace_handleWith hctx, hpayload]
          exact mem_trace_serviceCallBody.mpr
            (Or.inr ⟨validated, hvalidate, hrow⟩)

end Reports

section Commands

/-- A record's payload, and with it the row and the message to the device that
the processor makes of the record, have the numbers of a request as they are
carried. -/
def CommandCarries (key : String) (text : GoMap Json)
    (handle : Surroundings → World → Envelope → Result × List Effect)
    (record : KafkaRecord) : Prop :=
  ∃ sent : Envelope, record.value = sent.json ∧
    (∃ value, sent.payload.field? key = some value ∧
      CarriedUnder text (fun _ => True) value.written) ∧
    ∀ out world env, env.payload = sent.payload.written →
      (∀ table row, .insert table row ∈ (handle out world env).2 →
        ∃ column, row.columns.lookup key = some column ∧
          CarriedUnder text (fun _ => True) column.written) ∧
      ∀ message, .downlink message ∈ (handle out world env).2 →
        ∃ value, message.payload.field? key = some value ∧
          CarriedUnder text (fun _ => True) value.written

variable {text memory : GoMap Json}

theorem decodeMap_json (map : GoMap Json) :
    readMap none (.ofMap map) = some (some map) := by
  change some (some (GoMap.ofMembers map.entries)) = _
  rw [GoMap.ofMembers_entries]

/-- What the backend sends is read by the processor with the properties it has
written. -/
theorem propertySetRequested_decode (message : PropertySetRequestedPayload)
    (hmessage : message.properties = some memory) :
    PropertySetRequestedPayload.decode message.json.written =
      some { message with
        properties := some (memory.mapValues fun _ => Json.written) } := by
  have hwritten : message.json.written =
      PropertySetRequestedPayload.json { message with
        properties := some (memory.mapValues fun _ => Json.written) } := by
    unfold PropertySetRequestedPayload.json
    rw [hmessage]
    change Json.obj (Json.mapMembers _ _) = _
    rw [Json.mapMembers_eq]
    simp [DeviceFields.members, Json.ofMap?, ← Json.written_ofMap, Json.written,
      Json.mapNumbers]
  rw [hwritten]
  simp [PropertySetRequestedPayload.json, PropertySetRequestedPayload.decode,
    DeviceFields.decode, DeviceFields.members, decodeString, decodeMap,
    decodeField, readString_str, Json.ofMap?, decodeMap_json]

theorem serviceCallRequested_decode (message : ServiceCallRequestedPayload)
    (hmessage : message.input = some memory) :
    ServiceCallRequestedPayload.decode message.json.written =
      some { message with
        input := some (memory.mapValues fun _ => Json.written) } := by
  have hwritten : message.json.written =
      ServiceCallRequestedPayload.json { message with
        input := some (memory.mapValues fun _ => Json.written) } := by
    unfold ServiceCallRequestedPayload.json
    rw [hmessage]
    change Json.obj (Json.mapMembers _ _) = _
    rw [Json.mapMembers_eq]
    simp [DeviceFields.members, Json.ofMap?, ← Json.written_ofMap, Json.written,
      Json.mapNumbers]
  rw [hwritten]
  simp [ServiceCallRequestedPayload.json, ServiceCallRequestedPayload.decode,
    DeviceFields.decode, DeviceFields.members, decodeString, decodeMap,
    decodeField, readString_str, Json.ofMap?, decodeMap_json]

/-- The record of a request and everything the processor makes of it, where what
it reads of the record is `again`. -/
theorem commandCarries_of_effects {key : String} {record : KafkaRecord}
    {sent : Envelope}
    {handle : Surroundings → World → Envelope → Result × List Effect}
    (hread : readNumbers text = some memory)
    (hrecord : record.value = sent.json)
    (hsent : sent.payload.field? key = some (.ofMap memory))
    (heffects : ∀ {out world env effect}, env.payload = sent.payload.written →
      effect ∈ (handle out world env).2 → ∃ again,
        readNumbers (memory.mapValues fun _ => Json.written) = some again ∧
        ((∃ table row, effect = .insert table row ∧
            row.columns.lookup key = some (.ofMap again)) ∨
          ∃ message, effect = .downlink message ∧
            message.payload.field? key = some (.ofMap again))) :
    CommandCarries key text handle record := by
  have hfirst : CarriedUnder text (fun _ => True)
      (Json.ofMap (memory.mapValues fun _ => Json.written)) := by
    rw [← Json.written_ofMap]
    exact carriedUnder_written hread fun _ _ _ hget => hget
  refine ⟨sent, hrecord, ⟨_, hsent, ?_⟩, ?_⟩
  · rw [Json.written_ofMap]
    exact hfirst
  intro out world env henv
  constructor
  · intro table row hrow
    obtain ⟨again, hagain, ⟨_, _, heq, hcolumn⟩ | ⟨_, heq, -⟩⟩ :=
      heffects henv hrow
    · cases heq
      exact ⟨_, hcolumn, hfirst.again hagain⟩
    · cases heq
  · intro message hdownlink
    obtain ⟨again, hagain, ⟨_, _, heq, -⟩ | ⟨_, heq, hvalue⟩⟩ :=
      heffects henv hdownlink
    · cases heq
    · cases heq
      exact ⟨_, hvalue, hfirst.again hagain⟩

theorem setProperties_carriesNumbers {outside : DeviceService.Surroundings}
    {broker : DeviceService.Broker} {userID deviceID : String}
    {result : DeviceService.DevicePropertySetResult} {record : KafkaRecord}
    (hread : readNumbers text = some memory)
    (hbroker : outside.publisher = some broker)
    (hok : DeviceService.setProperties outside userID deviceID memory =
      .ok (result, record)) :
    CommandCarries "properties" text propertySetRequestedReads record := by
  obtain ⟨target, id, eventID, -, -, -, -, -, rfl⟩ :=
    DeviceService.setProperties_ok hbroker hok
  refine commandCarries_of_effects hread rfl ?_ ?_
  · simp [newEnvelope, PropertySetRequestedPayload.json,
      DeviceService.propertySetMessage]
    rfl
  · intro out world env effect henv hmem
    obtain ⟨payload, hpayload, hbody⟩ := mem_trace_handleWith hmem
    have hdecode := propertySetRequested_decode
      (DeviceService.propertySetMessage target id (trimSpace userID) memory) rfl
    simp only [PropertySetRequestedPayload.read, henv, newEnvelope, hdecode,
      Option.bind_eq_bind, Option.bind_some,
      Option.bind_eq_some_iff] at hpayload
    obtain ⟨properties, hproperties, heq⟩ := hpayload
    cases heq
    obtain ⟨again, hagain, rfl⟩ := Option.map_eq_some_iff.mp hproperties
    refine ⟨again, hagain, ?_⟩
    rcases mem_trace_commandBody.mp hbody with hsave | ⟨-, hpublish⟩
    · obtain ⟨row, heq, ⟨-, hcolumns⟩, -⟩ := mem_trace_saveEvent hsave
      exact Or.inl ⟨_, row, heq, hcolumns ▸ rfl⟩
    · obtain ⟨-, -, -, -, heq⟩ := mem_trace_publishPropertySet.mp hpublish
      exact Or.inr ⟨_, heq, rfl⟩

theorem callService_carriesNumbers {outside : DeviceService.Surroundings}
    {broker : DeviceService.Broker} {userID deviceID serviceName : String}
    {input? : Option (GoMap Json)}
    {result : DeviceService.DeviceServiceCallResult}
    {record : KafkaRecord} (hread : readNumbers text = some memory)
    (hinput : input?.getD GoMap.empty = memory)
    (hbroker : outside.publisher = some broker)
    (hok : DeviceService.callService outside userID deviceID
      serviceName input? = .ok (result, record)) :
    CommandCarries "input" text serviceCallRequestedReads record := by
  obtain ⟨target, id, eventID, -, -, -, -, -, rfl⟩ :=
    DeviceService.callService_ok hbroker hok
  rw [hinput]
  refine commandCarries_of_effects hread rfl ?_ ?_
  · simp [newEnvelope, ServiceCallRequestedPayload.json,
      DeviceService.serviceCallMessage]
    rfl
  · intro out world env effect henv hmem
    obtain ⟨payload, hpayload, hbody⟩ := mem_trace_handleWith hmem
    have hdecode := serviceCallRequested_decode
      (DeviceService.serviceCallMessage target id (trimSpace userID)
        (trimSpace serviceName) memory) rfl
    simp only [ServiceCallRequestedPayload.read, henv, newEnvelope, hdecode,
      Option.bind_eq_bind, Option.bind_some,
      Option.bind_eq_some_iff] at hpayload
    obtain ⟨input, hinput, heq⟩ := hpayload
    cases heq
    obtain ⟨again, hagain, rfl⟩ := Option.map_eq_some_iff.mp hinput
    refine ⟨again, hagain, ?_⟩
    rcases mem_trace_commandBody.mp hbody with hsave | ⟨-, hpublish⟩
    · obtain ⟨row, heq, ⟨-, hcolumns⟩, -⟩ := mem_trace_saveEvent hsave
      exact Or.inl ⟨_, row, heq, hcolumns ▸ rfl⟩
    · obtain ⟨-, -, -, heq⟩ := mem_trace_publishServiceCall.mp hpublish
      exact Or.inr ⟨_, heq, rfl⟩

end Commands

section Results

/-- A number that is read and written, however often, is the shortest decimal
that reads as the float nearest to it: an integer of 53 binary digits or a
decimal of 15 digits is not changed.  So are the accepted numbers of reports and
commands carried to the tables, the events and the device. -/
theorem numbers_carried :
    (∀ x, Binary64.carried (Binary64.carried x) = Binary64.carried x) ∧
    (∀ n : ℤ, |n| < 2 ^ 53 → Binary64.carried n = n) ∧
    (∀ m q : ℤ, |m| < 10 ^ 15 → 2 ^ (-1022 : ℤ) ≤ |(m * 10 ^ q : ℚ)| →
      Binary64.carried (m * 10 ^ q) = m * 10 ^ q) ∧
    (∀ out world env payload memory,
      PropertyReportedPayload.decode env.payload = some payload →
      readNumbers (payload.properties.getD GoMap.empty) = some memory →
      CarriesNumbers world env .propertyReport "properties"
        (payload.properties.getD GoMap.empty)
        (validatePropertyReport out world payload.tenantID payload.productID
          memory) (propertyReportReads out world env)) ∧
    (∀ out world env payload memory,
      EventReportedPayload.decode env.payload = some payload →
      readNumbers (payload.params.getD GoMap.empty) = some memory →
      CarriesNumbers world env .eventReport "params"
        (payload.params.getD GoMap.empty)
        (validateEventReport out world payload.tenantID payload.productID
          payload.eventName memory) (eventReportReads out world env)) ∧
    (∀ out world env payload memory,
      ServiceCallAcknowledgedPayload.decode env.payload = some payload →
      readNumbers (payload.output.getD GoMap.empty) = some memory →
      CarriesNumbers world env .serviceCallAck "output"
        (payload.output.getD GoMap.empty)
        (validateServiceCall out world payload.tenantID payload.productID
          payload.serviceName memory) (serviceCallReads out world env)) ∧
    (∀ outside broker userID deviceID text memory result record,
      readNumbers text = some memory → outside.publisher = some broker →
      DeviceService.setProperties outside userID deviceID memory =
        .ok (result, record) →
      CommandCarries "properties" text propertySetRequestedReads record) ∧
    ∀ outside broker userID deviceID serviceName text memory result record,
      readNumbers text = some memory → outside.publisher = some broker →
      DeviceService.callService outside userID deviceID serviceName
        (some memory) = .ok (result, record) →
      CommandCarries "input" text serviceCallRequestedReads record := by
  refine ⟨Binary64.carried_carried, fun n hn => Binary64.carried_intCast hn,
    fun m q hm hnormal => Binary64.carried_decimal hm hnormal, ?_,
    ?_, ?_, ?_, ?_⟩
  · intro out world env payload memory hdecode hread
    exact propertyReport_carriesNumbers hdecode hread
  · intro out world env payload memory hdecode hread
    exact eventReport_carriesNumbers hdecode hread
  · intro out world env payload memory hdecode hread
    exact serviceCall_carriesNumbers hdecode hread
  · intro outside broker userID deviceID text memory result record
      hread hbroker hok
    exact setProperties_carriesNumbers hread hbroker hok
  · intro outside broker userID deviceID serviceName text memory result
      record hread hbroker hok
    exact callService_carriesNumbers hread rfl hbroker hok

/-- An integer without bounds. -/
def counterDefinition : Json :=
  .obj [("name", .str "Counter"), ("data_type", .str "int"),
    ("required", .bool true), ("access_mode", .str "readwrite")]

/-- Every product has a counter: as a property, as the parameter of an event,
and as the output of a service. -/
def counterWorld : World where
  rows _ := []
  devices _ := none
  online _ := none
  stateTopic := []
  downlinks := []
  models _ _ := some
    { properties := .obj [("counter", counterDefinition)]
      events := .obj
        [("counted", .obj [("name", .str "Counted"), ("level", .str "info"),
          ("output", .obj [("counter", counterDefinition)])])]
      services := .obj
        [("count", .obj [("name", .str "Count"), ("call_type", .str "sync"),
          ("input", .obj [("counter", counterDefinition)]),
          ("output", .obj [("counter", counterDefinition)])])] }
  caches _ _ := none

/-- A report of the first integer that needs 54 binary digits. -/
def counterReport : Envelope :=
  sampleEvent .propertyReported (Uuid.text 1)
    [("properties", .obj [("counter", .num 9007199254740993 true)])]

def counterEvent : Envelope :=
  sampleEvent .eventReported (Uuid.text 1)
    [("event_name", .str "counted"),
      ("params", .obj [("counter", .num 42 true)])]

def counterAck : Envelope :=
  sampleEvent .serviceCallAcknowledged (Uuid.text 1)
    [("service_name", .str "count"),
      ("output", .obj [("counter", .num 42 true)])]

/-- The properties or the input of a request. -/
def counterText : GoMap Json := GoMap.ofMembers [("counter", .num 42 true)]

/-- The device of a request, with its properties or its services. -/
def counterDevice (definitions : GoMap Json) : DeviceService.Surroundings :=
  DeviceService.openSurroundings definitions

def counterProperties : GoMap Json :=
  GoMap.ofMembers [("counter", counterDefinition)]

def counterServices : GoMap Json :=
  GoMap.ofMembers [("count", .obj [("name", .str "Count"),
    ("call_type", .str "sync"),
    ("input", .obj [("counter", counterDefinition)]),
    ("output", .obj [])])]

theorem numbers_carried_counter :
    Binary64.carried (42 : ℤ) = (42 : ℤ) ∧
    Binary64.carried ((1 : ℤ) * 10 ^ (-1 : ℤ)) = (1 : ℤ) * 10 ^ (-1 : ℤ) ∧
    (∃ payload memory,
      PropertyReportedPayload.decode counterReport.payload = some payload ∧
      CarriesNumbers counterWorld counterReport .propertyReport "properties"
        (payload.properties.getD GoMap.empty)
        (validatePropertyReport calm counterWorld payload.tenantID
          payload.productID memory)
        (propertyReportReads calm counterWorld counterReport)) ∧
    (∃ payload memory,
      EventReportedPayload.decode counterEvent.payload = some payload ∧
      CarriesNumbers counterWorld counterEvent .eventReport "params"
        (payload.params.getD GoMap.empty)
        (validateEventReport calm counterWorld payload.tenantID
          payload.productID payload.eventName memory)
        (eventReportReads calm counterWorld counterEvent)) ∧
    (∃ payload memory,
      ServiceCallAcknowledgedPayload.decode counterAck.payload = some payload ∧
      CarriesNumbers counterWorld counterAck .serviceCallAck "output"
        (payload.output.getD GoMap.empty)
        (validateServiceCall calm counterWorld payload.tenantID
          payload.productID payload.serviceName memory)
        (serviceCallReads calm counterWorld counterAck)) ∧
    (∃ record, CommandCarries "properties" counterText propertySetRequestedReads
      record) ∧
    ∃ record,
      CommandCarries "input" counterText serviceCallRequestedReads record := by
  obtain ⟨-, hinteger, hdecimal, hproperty, hevent, hack, hset, hcall⟩ :=
    numbers_carried
  have hnormal : (2 : ℚ) ^ (-1022 : ℤ) ≤ |((1 : ℤ) : ℚ) * 10 ^ (-1 : ℤ)| := by
    decide +kernel
  refine ⟨hinteger 42 (by norm_num), hdecimal 1 (-1) (by norm_num) hnormal,
    ?_, ?_, ?_, ?_, ?_⟩
  · obtain ⟨memory, hmemory⟩ := Option.isSome_iff_exists.mp (by decide +kernel :
      ((PropertyReportedPayload.decode counterReport.payload).bind
        fun payload =>
        readNumbers (payload.properties.getD GoMap.empty)).isSome = true)
    obtain ⟨payload, hpayload, hread⟩ := Option.bind_eq_some_iff.mp hmemory
    exact ⟨payload, memory, hpayload, hproperty _ _ _ _ _ hpayload hread⟩
  · obtain ⟨memory, hmemory⟩ := Option.isSome_iff_exists.mp (by decide +kernel :
      ((EventReportedPayload.decode counterEvent.payload).bind fun payload =>
        readNumbers (payload.params.getD GoMap.empty)).isSome = true)
    obtain ⟨payload, hpayload, hread⟩ := Option.bind_eq_some_iff.mp hmemory
    exact ⟨payload, memory, hpayload, hevent _ _ _ _ _ hpayload hread⟩
  · obtain ⟨memory, hmemory⟩ := Option.isSome_iff_exists.mp (by decide +kernel :
      ((ServiceCallAcknowledgedPayload.decode counterAck.payload).bind
        fun payload =>
        readNumbers (payload.output.getD GoMap.empty)).isSome = true)
    obtain ⟨payload, hpayload, hread⟩ := Option.bind_eq_some_iff.mp hmemory
    exact ⟨payload, memory, hpayload, hack _ _ _ _ _ hpayload hread⟩
  · obtain ⟨answer, hanswer⟩ := Option.isSome_iff_exists.mp
      (by decide +kernel : ((readNumbers counterText).bind fun memory =>
        (DeviceService.setProperties (counterDevice counterProperties) "user-1"
          "device-1" memory).toOption).isSome = true)
    obtain ⟨memory, hread, hsome⟩ := Option.bind_eq_some_iff.mp hanswer
    cases hok : DeviceService.setProperties (counterDevice counterProperties)
      "user-1" "device-1" memory with
    | error err =>
        rw [hok] at hsome
        cases hsome
    | ok sent => exact ⟨sent.2, hset _ _ _ _ _ _ sent.1 sent.2 hread rfl hok⟩
  · obtain ⟨answer, hanswer⟩ := Option.isSome_iff_exists.mp
      (by decide +kernel : ((readNumbers counterText).bind fun memory =>
        (DeviceService.callService (counterDevice counterServices) "user-1"
          "device-1" "count" (some memory)).toOption).isSome = true)
    obtain ⟨memory, hread, hsome⟩ := Option.bind_eq_some_iff.mp hanswer
    cases hok : DeviceService.callService (counterDevice counterServices)
      "user-1" "device-1" "count" (some memory) with
    | error err =>
        rw [hok] at hsome
        cases hsome
    | ok sent => exact ⟨sent.2, hcall _ _ _ _ _ _ _ sent.1 sent.2 hread rfl hok⟩

/-- The number under `counter` of an object that is to be written. -/
def writtenCounter (object : Json) : Option ℚ :=
  (object.written.field? "counter").bind Json.number?

/-- The report is acknowledged, and its row and its state event have the integer
before. -/
theorem numbers_rounded :
    (propertyReportReads calm counterWorld counterReport).1.decision = .ack ∧
    ((counterReport.payload.field? "properties").bind fun properties =>
        (properties.field? "counter").bind Json.number?) =
        some 9007199254740993 ∧
    (propertyReportReads calm counterWorld counterReport).2.filterMap
        (fun effect =>
          match effect with
          | .insert _ row =>
              (row.columns.lookup "properties").bind writtenCounter
          | .publish _ state =>
              (state.payload.field? "properties").bind writtenCounter
          | _ => none) = [9007199254740992, 9007199254740992] := by
  refine ⟨by decide +kernel, by decide +kernel, by decide +kernel⟩

end Results

end Processor

end LinkFlow
