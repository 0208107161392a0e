/-
What the processor publishes, against the contract it reads its own messages
with.
-/
import LinkFlow.PayloadContract
import LinkFlow.ProcessorBodies

namespace LinkFlow

namespace Processor

open JsonSchema ThingsModel

variable {formats : FormatChecker}

section Decoded

variable {schema : ObjectSchema} {members : List (String × Json)}
  {name text : String} {rule : StringRule}

theorem decodeString_concat (members : List (String × Json))
    (member : String × Json) (name : String) :
    decodeString (members ++ [member]) name =
      if member.1 = name then
        (decodeString members name).bind (readString · member.2)
      else decodeString members name := by
  simp only [decodeString, decodeField, List.foldl_append, List.foldl_cons,
    List.foldl_nil]

/-- Go keeps the string a name is given last. -/
theorem decodeString_last {last : String}
    (hlast : GoMap.lastMember members name = some (.str last))
    (hdecode : decodeString members name = some text) : text = last := by
  induction members using List.reverseRecOn generalizing text with
  | nil => cases hlast
  | append_singleton members member ih =>
      rw [GoMap.lastMember_concat] at hlast
      rw [decodeString_concat] at hdecode
      by_cases hname : member.1 = name
      · rw [if_pos hname.symm, Option.some.injEq] at hlast
        rw [if_pos hname, hlast, Option.bind_eq_some_iff] at hdecode
        obtain ⟨held, -, htext⟩ := hdecode
        cases htext
        rfl
      · rw [if_neg (Ne.symm hname)] at hlast
        rw [if_neg hname] at hdecode
        exact ih hlast hdecode

/-- A string that is absent is empty. -/
theorem decodeString_absent (habsent : GoMap.lastMember members name = none)
    (hdecode : decodeString members name = some text) : text = "" := by
  induction members using List.reverseRecOn generalizing text with
  | nil =>
      cases hdecode
      rfl
  | append_singleton members member ih =>
      rw [GoMap.lastMember_concat] at habsent
      rw [decodeString_concat] at hdecode
      by_cases hname : member.1 = name
      · rw [if_pos hname.symm] at habsent
        cases habsent
      · rw [if_neg (Ne.symm hname)] at habsent
        rw [if_neg hname] at hdecode
        exact ih habsent hdecode

/-- A decoded string obeys its rule, unless it was absent. -/
theorem decodeString_fits
    (haccepts : schema.accepts formats (.obj members) = true)
    (hrule : schema.properties.lookup name = some (.atom (.string rule)))
    (hdecode : decodeString members name = some text) :
    rule.accepts formats text = true ∨ text = "" ∧ name ∉ schema.required := by
  obtain ⟨map, hmap, hrequired, hmembers⟩ :=
    ObjectSchema.accepts_iff.mp haccepts
  cases hmap
  simp only [GoMap.get?_ofMembers] at hrequired hmembers
  cases hlast : GoMap.lastMember members name with
  | none =>
      refine Or.inr ⟨decodeString_absent hlast hdecode, fun hmem => ?_⟩
      have hpresent := hrequired name hmem
      rw [hlast] at hpresent
      cases hpresent
  | some value =>
      have hvalue := hmembers name value hlast
      simp only [ObjectSchema.acceptsMember, hrule, Member.accepts] at hvalue
      cases value with
      | str last =>
          rw [decodeString_last hlast hdecode]
          exact Or.inl hvalue
      | _ => cases hvalue

theorem decodeString_required
    (haccepts : schema.accepts formats (.obj members) = true)
    (hrule : schema.properties.lookup name = some (.atom (.string rule)))
    (hrequired : name ∈ schema.required)
    (hdecode : decodeString members name = some text) :
    rule.accepts formats text = true := by
  rcases decodeString_fits haccepts hrule hdecode with hfits | ⟨-, hnot⟩
  · exact hfits
  · exact absurd hrequired hnot

end Decoded

section Read

variable {message : Option Json} {env : Envelope} {eventType : EventType}

/-- What a message that passes `ValidateEvent` has met. -/
theorem validateEvent_ok
    (hvalid : validateEvent formats message = .ok (env, eventType)) :
    ∃ raw, Schemas.envelope.accepts formats raw = true ∧
      Envelope.decode raw = some env ∧
      eventType.schema.accepts formats env.payload = true := by
  unfold validateEvent at hvalid
  split at hvalid
  · cases hvalid
  next raw =>
    split at hvalid
    · cases hvalid
    next haccepts =>
      split at hvalid
      · cases hvalid
      next decoded hdecode =>
        split at hvalid
        · cases hvalid
        next found hlookup =>
          split at hvalid
          next hpayload =>
            cases hvalid
            exact ⟨raw, by simpa using haccepts, hdecode, hpayload⟩
          · cases hvalid

theorem envelope_fits
    (hvalid : validateEvent formats message = .ok (env, eventType)) :
    formats.uuid env.eventID = true ∧
      1 ≤ env.tenantID.length ∧ env.tenantID.length ≤ 64 := by
  obtain ⟨raw, haccepts, hdecode, -⟩ := validateEvent_ok hvalid
  cases raw with
  | obj members =>
      simp only [Envelope.decode, Option.bind_eq_bind,
        Option.bind_eq_some_iff] at hdecode
      obtain ⟨eventID, hevent, _, -, _, -, _, -, _, -, tenantID, htenant, _, -,
        _, -, _, -, henv⟩ := hdecode
      cases henv
      have heventID := decodeString_required haccepts rfl
        (by decide : "event_id" ∈ Schemas.envelope.required) hevent
      have htenantID := decodeString_required haccepts rfl
        (by decide : "tenant_id" ∈ Schemas.envelope.required) htenant
      exact ⟨uuid_accepts_iff.mp heventID, text_accepts_iff.mp htenantID⟩
  | _ => cases hdecode

/-- The six fields of a payload that fits its schema fit again. -/
theorem deviceFields_fit {required : List String}
    {properties : List (String × Member)} {members : List (String × Json)}
    {fields : DeviceFields}
    (haccepts : ObjectSchema.accepts formats
      ⟨Schemas.deviceRequired ++ required, Schemas.deviceMembers ++ properties⟩
      (.obj members) = true)
    (hdecode : DeviceFields.decode members = some fields) : fields.Fit := by
  have hrequired : ∀ name ∈ Schemas.deviceRequired,
      name ∈ Schemas.deviceRequired ++ required :=
    fun name hname => List.mem_append_left required hname
  simp only [DeviceFields.decode, Option.bind_eq_bind,
    Option.bind_eq_some_iff] at hdecode
  obtain ⟨tenantID, htenant, productID, hproduct, deviceID, hdevice, tenantSlug,
    hslug, productKey, hkey, deviceSlug, hdeviceSlug, hfields⟩ := hdecode
  cases hfields
  have htenantID := decodeString_required haccepts rfl
    (hrequired "tenant_id" (by decide)) htenant
  have hproductID := decodeString_required haccepts rfl
    (hrequired "product_id" (by decide)) hproduct
  have hdeviceID := decodeString_required haccepts rfl
    (hrequired "device_id" (by decide)) hdevice
  have htenantSlug := decodeString_required haccepts rfl
    (hrequired "tenant_slug" (by decide)) hslug
  have hproductKey := decodeString_required haccepts rfl
    (hrequired "product_key" (by decide)) hkey
  have hdeviceSlug' := decodeString_required haccepts rfl
    (hrequired "device_slug" (by decide)) hdeviceSlug
  exact ⟨text_accepts_iff.mp htenantID, text_accepts_iff.mp hproductID,
    text_accepts_iff.mp hdeviceID, slug_accepts_iff.mp htenantSlug,
    slug_accepts_iff.mp hproductKey, text_accepts_iff.mp hdeviceSlug'⟩

theorem connected_fit {raw : Json} {payload : ConnectedPayload}
    (haccepts : Schemas.connected.accepts formats raw = true)
    (hdecode : ConnectedPayload.decode raw = some payload) :
    payload.toDeviceFields.Fit := by
  cases raw with
  | obj members =>
      simp only [ConnectedPayload.decode, Option.bind_eq_bind,
        Option.bind_eq_some_iff] at hdecode
      obtain ⟨fields, hfields, _, -, _, -, hpayload⟩ := hdecode
      cases hpayload
      exact deviceFields_fit haccepts hfields
  | _ => cases hdecode

theorem disconnected_fit {raw : Json} {payload : DisconnectedPayload}
    (haccepts : Schemas.disconnected.accepts formats raw = true)
    (hdecode : DisconnectedPayload.decode raw = some payload) :
    payload.toDeviceFields.Fit ∧ payload.reason.length ≤ 128 := by
  cases raw with
  | obj members =>
      simp only [DisconnectedPayload.decode, Option.bind_eq_bind,
        Option.bind_eq_some_iff] at hdecode
      obtain ⟨fields, hfields, _, -, reason, hreason, hpayload⟩ := hdecode
      cases hpayload
      refine ⟨deviceFields_fit haccepts hfields, ?_⟩
      rcases decodeString_fits haccepts rfl hreason with hfits | ⟨hempty, -⟩
      · exact (text_accepts_iff.mp hfits).2
      · simp [hempty]
  | _ => cases hdecode

theorem propertyReported_fit {raw : Json} {payload : PropertyReportedPayload}
    (haccepts : Schemas.propertyReported.accepts formats raw = true)
    (hdecode : PropertyReportedPayload.decode raw = some payload) :
    payload.toDeviceFields.Fit := by
  cases raw with
  | obj members =>
      simp only [PropertyReportedPayload.decode, Option.bind_eq_bind,
        Option.bind_eq_some_iff] at hdecode
      obtain ⟨fields, hfields, _, -, _, -, _, -, hpayload⟩ := hdecode
      cases hpayload
      exact deviceFields_fit haccepts hfields
  | _ => cases hdecode

theorem eventReported_fit {raw : Json} {payload : EventReportedPayload}
    (haccepts : Schemas.eventReported.accepts formats raw = true)
    (hdecode : EventReportedPayload.decode raw = some payload) :
    payload.toDeviceFields.Fit ∧
      Schemas.name.accepts formats (.str payload.eventName) = true := by
  cases raw with
  | obj members =>
      simp only [EventReportedPayload.decode, Option.bind_eq_bind,
        Option.bind_eq_some_iff] at hdecode
      obtain ⟨fields, hfields, _, -, eventName, hname, _, -, _, -, hpayload⟩ :=
        hdecode
      cases hpayload
      exact ⟨deviceFields_fit haccepts hfields,
        decodeString_required haccepts rfl
          (by decide : "event_name" ∈ Schemas.eventReported.required) hname⟩
  | _ => cases hdecode

end Read

section Values

/-- A value that a definition accepts is a scalar. -/
theorem isScalar_of_validateDefinedValue {name : String}
    {definition : PropertyDefinition} {value : Json} {sentinel : Sentinel}
    (hok : validateDefinedValue name definition value sentinel = .ok ()) :
    value.IsScalar := by
  cases value with
  | bool _ | num _ _ | str _ => trivial
  | null | arr _ | obj _ =>
      unfold validateDefinedValue at hok
      split at hok <;> simp [Json.number?] at hok

/-- What the model declares of the reported values fits the schemas' grammar. -/
def DeclaredFit (known : GoMap PropertyDefinition) (values : GoMap Json) :
    Prop :=
  ∀ name value, values.get? name = some value →
    (known.get? name).isSome = true → FitsGrammar name value

section Accepted

variable {sentinel : Sentinel} {known : GoMap PropertyDefinition}
  {values : GoMap Json} {validated : Validated}

theorem accepted_isScalar
    (hok : acceptKnown sentinel known values = .ok validated)
    {name : String} {value : Json}
    (hget : validated.accepted.get? name = some value) : value.IsScalar := by
  obtain ⟨-, definition, -, hvalue⟩ := (acceptKnown_ok hok).mp hget
  exact isScalar_of_validateDefinedValue hvalue

theorem accepted_fits_iff
    (hok : acceptKnown sentinel known values = .ok validated) :
    (∀ name value, validated.accepted.get? name = some value →
      FitsGrammar name value) ↔ DeclaredFit known values := by
  simp only [acceptKnown_accepted hok, and_imp, DeclaredFit]

theorem one_le_length_iff {map : GoMap Json} :
    1 ≤ map.entries.length ↔ map.isEmpty = false := by
  rw [GoMap.isEmpty]
  cases map.entries <;> simp

theorem accepted_propertyMap_iff
    (hok : acceptKnown sentinel known values = .ok validated)
    (hsome : validated.accepted.isEmpty = false) :
    (Schemas.propertyMap 1).accepts formats (.ofMap validated.accepted) = true ↔
      DeclaredFit known values := by
  rw [propertyMap_accepts_iff fun _ _ => accepted_isScalar hok,
    accepted_fits_iff hok, one_le_length_iff]
  exact and_iff_right hsome

theorem accepted_paramMap_iff
    (hok : acceptKnown sentinel known values = .ok validated)
    (hsome : validated.accepted.isEmpty = false) :
    (Schemas.paramMap 1).accepts formats (.ofMap validated.accepted) = true ↔
      DeclaredFit known values := by
  rw [paramMap_accepts_iff fun _ _ => accepted_isScalar hok,
    accepted_fits_iff hok, one_le_length_iff]
  exact and_iff_right hsome

end Accepted

/-- An event needs a parameter. -/
theorem not_paramMap_empty :
    ¬ (Schemas.paramMap 1).accepts formats (.ofMap GoMap.empty) = true := by
  rw [paramMap_accepts_iff fun _ _ hget => by simp at hget]
  rintro ⟨hlength, -⟩
  cases hlength

end Values

section Emitted

variable {out : Surroundings} {world : World} {message : Option Json}
  {env : Envelope} {eventType : EventType} {topic : String}
  {envelope : Envelope}

theorem producer_name : ProducerName producer := by
  refine ⟨?_, ?_, rfl⟩ <;> decide

/-- A state event of a valid message is accepted exactly when its time has a
year of four digits and its payload fits its schema. -/
theorem stateEnvelope_accepted_iff
    (hvalid : validateEvent formats message = .ok (env, eventType))
    {stateType : EventType} {occurredAt : Int}
    {members : List (String × Json)} {id : Uuid} :
    (validateEvent formats (some (stateEnvelope out stateType env.tenantID
        env.eventID occurredAt (.obj members) id).json)).isOk = true ↔
      HasFourDigitYear (stampedAt occurredAt (out.clock .publisher)) ∧
        stateType.schema.accepts formats (.obj members) = true := by
  obtain ⟨huuid, htenant⟩ := envelope_fits hvalid
  exact validateEvent_newEnvelope producer_name htenant
    (fun hnot => absurd rfl hnot) fun _ => huuid

theorem not_publish_of_ofLookup {kind : ThingsModel.Section}
    {tenantID productID : String} :
    ¬ (Effect.publish topic envelope).OfLookup kind tenantID productID := by
  rintro (hlookup | ⟨key, entry, hcache⟩)
  · cases hlookup
  · cases hcache

theorem not_publish_of_save {refused : List (Bool × String)} {insert : Insert} :
    .publish topic envelope ∉
      (saveEvent out world env refused insert).trace := by
  intro hmem
  obtain ⟨row, hrow, -⟩ := mem_trace_saveEvent hmem
  cases hrow

/-- What a report publishes, once the model in use has accepted it. -/
theorem publish_report {validate : Call Validated} {stop : Failure → Stop}
    {save : Validated → Call Unit} {stateType : EventType}
    {payload : Validated → Json} {saving publishing : String}
    (hlookups : .publish topic envelope ∉ validate.trace)
    (hsaves : ∀ validated, .publish topic envelope ∉ (save validated).trace)
    (hmem : .publish topic envelope ∈ (reportBody out env validate stop saving
      save publishing stateType payload).trace) :
    ∃ validated id, validate.outcome = .ok validated ∧
      envelope = stateEnvelope out stateType env.tenantID env.eventID
        (occurredAtOrZero env) (payload validated) id := by
  rcases mem_trace_reportBody.mp hmem with
    hmem | ⟨validated, hvalidate, hmem | ⟨-, hmem⟩⟩
  · exact absurd hmem hlookups
  · exact absurd hmem (hsaves validated)
  · obtain ⟨-, -, -, id, -, hpublish⟩ := mem_trace_publishEvent.mp hmem
    cases hpublish
    exact ⟨validated, id, hvalidate, rfl⟩

/-- The time of a state event has a year of four digits. -/
def TimeFits (out : Surroundings) (env : Envelope) : Prop :=
  HasFourDigitYear (stampedAt (occurredAtOrZero env) (out.clock .publisher))

/-- The properties that the model in use declares have names and texts within
the schemas' grammar. -/
def PropertiesFit (out : Surroundings) (world : World)
    (payload : PropertyReportedPayload) : Prop :=
  ∀ definition,
    definitionInUse out world .properties (trimSpace payload.tenantID)
      (trimSpace payload.productID) = some definition →
    DeclaredFit definition.properties (payload.properties.getD GoMap.empty)

/-- The event in the model in use has parameters, and those that are reported
have names and texts within the schemas' grammar. -/
def ParamsFit (out : Surroundings) (world : World)
    (payload : EventReportedPayload) : Prop :=
  ∀ definition event,
    definitionInUse out world .events (trimSpace payload.tenantID)
      (trimSpace payload.productID) = some definition →
    definition.events.get? (trimSpace payload.eventName) = some event →
    event.output.isEmpty = false ∧
      DeclaredFit event.output (payload.params.getD GoMap.empty)

theorem propertyReport_accepted_iff {payload : PropertyReportedPayload}
    (hvalid : validateEvent formats message = .ok (env, .propertyReported))
    (hdecode : PropertyReportedPayload.decode env.payload = some payload)
    (hmem : .publish topic envelope ∈
      (propertyReportBody out world env payload).trace) :
    (validateEvent formats (some envelope.json)).isOk = true ↔
      TimeFits out env ∧ PropertiesFit out world payload := by
  obtain ⟨raw, -, -, haccepts⟩ := validateEvent_ok hvalid
  have hfit := propertyReported_fit haccepts hdecode
  obtain ⟨validated, id, hvalidate, henvelope⟩ := publish_report
    (fun hmem => not_publish_of_ofLookup
      (mem_trace_validatePropertyReport hmem))
    (fun _ => not_publish_of_save) hmem
  obtain ⟨-, -, -, definition, huse, hverdict⟩ :=
    outcome_validateWith_eq_ok.mp hvalidate
  obtain ⟨hknown, hsome⟩ := propertyVerdict_ok hverdict
  rw [henvelope]
  refine (stateEnvelope_accepted_iff hvalid).trans (and_congr_right fun _ => ?_)
  apply PropertyChangedPayload.accepts_iff.trans
  rw [accepted_propertyMap_iff hknown hsome]
  constructor
  · rintro ⟨-, hdeclared⟩ other hother
    rw [huse] at hother
    cases hother
    exact hdeclared
  · intro hproperties
    exact ⟨hfit, hproperties definition huse⟩

theorem eventReport_accepted_iff {payload : EventReportedPayload}
    (hvalid : validateEvent formats message = .ok (env, .eventReported))
    (hdecode : EventReportedPayload.decode env.payload = some payload)
    (hmem : .publish topic envelope ∈
      (eventReportBody out world env payload).trace) :
    (validateEvent formats (some envelope.json)).isOk = true ↔
      TimeFits out env ∧ ParamsFit out world payload := by
  obtain ⟨raw, -, -, haccepts⟩ := validateEvent_ok hvalid
  obtain ⟨hfit, hname⟩ := eventReported_fit haccepts hdecode
  obtain ⟨validated, id, hvalidate, henvelope⟩ := publish_report
    (fun hmem => not_publish_of_ofLookup (mem_trace_validateEventReport hmem))
    (fun _ => not_publish_of_save) hmem
  obtain ⟨-, -, -, definition, huse, hverdict⟩ :=
    outcome_validateWith_eq_ok.mp hvalidate
  obtain ⟨event, hevent, haccepted⟩ := eventVerdict_ok hverdict
  rw [henvelope]
  refine (stateEnvelope_accepted_iff hvalid).trans (and_congr_right fun _ => ?_)
  apply EventReceivedPayload.accepts_iff.trans
  have hparams : (Schemas.paramMap 1).accepts formats
      (.ofMap validated.accepted) = true ↔
      event.output.isEmpty = false ∧
        DeclaredFit event.output (payload.params.getD GoMap.empty) := by
    by_cases hempty : event.output.isEmpty = true
    · rw [if_pos hempty] at haccepted
      rw [haccepted, hempty]
      exact iff_of_false not_paramMap_empty fun hnot => by cases hnot.1
    · rw [if_neg hempty] at haccepted
      rw [accepted_paramMap_iff haccepted.1 haccepted.2]
      simp [hempty]
  rw [hparams]
  constructor
  · rintro ⟨-, -, hdeclared⟩ other found hother hfound
    rw [huse] at hother
    cases hother
    rw [hevent] at hfound
    cases hfound
    exact hdeclared
  · intro hfits
    exact ⟨hfit, hname, hfits definition event huse hevent⟩

/-- A state event about a connection is accepted as soon as its time is. -/
theorem connection_accepted_iff {fields : DeviceFields}
    {mark : DeviceConnectionEvent → Call Bool} {context status reason : String}
    (hvalid : validateEvent formats message = .ok (env, eventType))
    (hfit : fields.Fit) (hstatus : status ∈ ["online", "offline"])
    (hreason : reason.length ≤ 128)
    (hmark : ∀ input, .publish topic envelope ∉ (mark input).trace)
    (hmem : .publish topic envelope ∈
      (connectionBody out env fields mark context status reason).trace) :
    (validateEvent formats (some envelope.json)).isOk = true ↔
      TimeFits out env := by
  obtain ⟨time, htime, hmem⟩ := mem_trace_connectionBody.mp hmem
  rcases hmem with hmem | ⟨-, hmem⟩
  · exact absurd hmem (hmark _)
  · obtain ⟨-, -, -, id, -, hpublish⟩ := mem_trace_publishEvent.mp hmem
    cases hpublish
    apply (stateEnvelope_accepted_iff hvalid).trans
    have hpayload : EventType.connectionChanged.schema.accepts formats
        (ConnectionChangedPayload.json
          { toDeviceFields := fields, status := status, reason := reason }) =
        true :=
      ConnectionChangedPayload.accepts_iff.mpr ⟨hfit, hstatus, hreason⟩
    rw [TimeFits, occurredAtOrZero, htime]
    exact and_iff_left hpayload

theorem not_publish_of_mark {input : DeviceConnectionEvent}
    {status : Connection.Status} {context : String} {redis : Effect}
    (hredis : redis ≠ .publish topic envelope) :
    .publish topic envelope ∉
      (markConnection out world input status context redis).trace := by
  intro hmem
  obtain ⟨-, hmem | ⟨-, -, hmem⟩⟩ := mem_trace_markConnection.mp hmem
  · obtain ⟨-, _, _, -, hupdate⟩ := mem_trace_updateConnectionStatus.mp hmem
    cases hupdate
  · exact hredis hmem.symm

theorem connected_accepted_iff {payload : ConnectedPayload}
    (hvalid : validateEvent formats message = .ok (env, .connected))
    (hdecode : ConnectedPayload.decode env.payload = some payload)
    (hmem : .publish topic envelope ∈
      (connectedBody out world env payload).trace) :
    (validateEvent formats (some envelope.json)).isOk = true ↔
      TimeFits out env := by
  obtain ⟨raw, -, -, haccepts⟩ := validateEvent_ok hvalid
  rw [connectedBody] at hmem
  refine connection_accepted_iff hvalid ?_ ?_ ?_ ?_ hmem
  · exact connected_fit haccepts hdecode
  · simp
  · simp
  · exact fun _ => not_publish_of_mark (by simp)

theorem disconnected_accepted_iff {payload : DisconnectedPayload}
    (hvalid : validateEvent formats message = .ok (env, .disconnected))
    (hdecode : DisconnectedPayload.decode env.payload = some payload)
    (hmem : .publish topic envelope ∈
      (disconnectedBody out world env payload).trace) :
    (validateEvent formats (some envelope.json)).isOk = true ↔
      TimeFits out env := by
  obtain ⟨raw, -, -, haccepts⟩ := validateEvent_ok hvalid
  obtain ⟨hfit, hreason⟩ := disconnected_fit haccepts hdecode
  rw [disconnectedBody] at hmem
  refine connection_accepted_iff hvalid hfit ?_ hreason ?_ hmem
  · simp
  · exact fun _ => not_publish_of_mark (by simp)

/-- What a message has to meet for its state event to keep the contract. -/
def EmissionFits (out : Surroundings) (world : World) (env : Envelope)
    (payload : Payload) : Prop :=
  TimeFits out env ∧
    match payload with
    | .propertyReported payload => PropertiesFit out world payload
    | .eventReported payload => ParamsFit out world payload
    | _ => True

/-- The bodies without a state event publish nothing. -/
theorem not_publish_command {saving publishing : String}
    {save publish : Call Unit} (hsave : .publish topic envelope ∉ save.trace)
    (hpublish : .publish topic envelope ∉ publish.trace) :
    .publish topic envelope ∉
      (commandBody saving save publishing publish).trace := by
  intro hmem
  rcases mem_trace_commandBody.mp hmem with hmem | ⟨-, hmem⟩
  · exact hsave hmem
  · exact hpublish hmem

theorem body_accepted_iff {payload : Payload}
    (hvalid : validateEvent formats message = .ok (env, eventType))
    (hdecode : Payload.decode eventType env.payload = some payload)
    (hmem : .publish topic envelope ∈ (payload.body out world env).trace) :
    (validateEvent formats (some envelope.json)).isOk = true ↔
      EmissionFits out world env payload := by
  cases eventType with
  | propertyReported =>
      obtain ⟨report, hreport, rfl⟩ := Option.map_eq_some_iff.mp hdecode
      exact propertyReport_accepted_iff hvalid hreport hmem
  | eventReported =>
      obtain ⟨report, hreport, rfl⟩ := Option.map_eq_some_iff.mp hdecode
      exact eventReport_accepted_iff hvalid hreport hmem
  | connected =>
      obtain ⟨connected, hconnected, rfl⟩ := Option.map_eq_some_iff.mp hdecode
      refine Iff.trans ?_ (and_iff_left trivial).symm
      exact connected_accepted_iff hvalid hconnected hmem
  | disconnected =>
      obtain ⟨disconnected, hdisconnected, rfl⟩ :=
        Option.map_eq_some_iff.mp hdecode
      refine Iff.trans ?_ (and_iff_left trivial).symm
      exact disconnected_accepted_iff hvalid hdisconnected hmem
  | propertySetRequested =>
      obtain ⟨request, -, rfl⟩ := Option.map_eq_some_iff.mp hdecode
      refine absurd hmem (not_publish_command not_publish_of_save fun hmem =>
        ?_)
      obtain ⟨-, -, -, -, hdownlink⟩ := mem_trace_publishPropertySet.mp hmem
      cases hdownlink
  | serviceCallRequested =>
      obtain ⟨request, -, rfl⟩ := Option.map_eq_some_iff.mp hdecode
      refine absurd hmem (not_publish_command not_publish_of_save fun hmem =>
        ?_)
      obtain ⟨-, -, -, hdownlink⟩ := mem_trace_publishServiceCall.mp hmem
      cases hdownlink
  | propertySetAcknowledged =>
      obtain ⟨acknowledged, -, rfl⟩ := Option.map_eq_some_iff.mp hdecode
      exact absurd hmem not_publish_of_save
  | serviceCallAcknowledged =>
      obtain ⟨acknowledged, -, rfl⟩ := Option.map_eq_some_iff.mp hdecode
      rcases mem_trace_serviceCallBody.mp hmem with hmem | ⟨_, -, hmem⟩
      · exact absurd (mem_trace_validateServiceCall hmem)
          not_publish_of_ofLookup
      · exact absurd hmem not_publish_of_save
  | _ => cases hdecode

/-- Every state event that is published while a valid message is processed is
itself accepted by `ValidateEvent` exactly when `EmissionFits` holds of the
message and the model in use. -/
theorem emitted_accepted_iff (formats : FormatChecker)
    {message : Option Json} {env : Envelope} {eventType : EventType}
    {payload : Payload}
    (hvalid : validateEvent formats message = .ok (env, eventType))
    (hdecode : Payload.decode eventType env.payload = some payload)
    {out : Surroundings} {world : World} {topic : String} {envelope : Envelope}
    (hmem : .publish topic envelope ∈ (process out world formats message).2) :
    (validateEvent formats (some envelope.json)).isOk = true ↔
      EmissionFits out world env payload := by
  by_cases hbegins : Begins out
  · rw [trace_process hvalid hbegins, hdecode] at hmem
    exact body_accepted_iff hvalid hdecode hmem
  · rw [trace_process_of_not_begins hvalid hbegins] at hmem
    cases hmem

theorem emitted_accepted_switch :
    ∃ topic envelope, .publish topic envelope ∈ (process calm sampleWorld
        FormatChecker.byShape (some (sampleReport (Uuid.text 1)).json)).2 ∧
      (validateEvent FormatChecker.byShape (some envelope.json)).isOk =
        true := by
  obtain ⟨topic, envelope, hlast⟩ : ∃ topic envelope,
      (process calm sampleWorld FormatChecker.byShape
        (some (sampleReport (Uuid.text 1)).json)).2.getLast? =
          some (.publish topic envelope) := ⟨_, _, rfl⟩
  have hmem := List.mem_of_getLast? hlast
  refine ⟨topic, envelope, hmem,
    (emitted_accepted_iff FormatChecker.byShape sampleReport_valid rfl hmem).mpr
      ⟨?_, ?_⟩⟩
  · change HasFourDigitYear (stampedAt 1777982400000000000 1777982400000000000)
    decide
  · intro definition _ name value hget _
    rw [← GoMap.mem_entries_iff] at hget
    change (name, value) ∈ [("led", Json.bool true)] at hget
    cases List.mem_singleton.mp hget
    exact ⟨by decide, fun text htext => by cases htext⟩

/-- A report of the event without parameters. -/
def sampleAlarm : Envelope :=
  sampleEvent .eventReported (Uuid.text 1)
    [("event_name", .str "alarm"), ("params", .obj [])]

/-- The backend accepts a thing model with an event without parameters, and what
the processor publishes for that event breaks the contract. -/
theorem emitted_refused_event_without_output :
    (∃ properties events services,
      sampleModel.properties.object? = some properties ∧
      sampleModel.events.object? = some events ∧
      sampleModel.services.object? = some services ∧
      validateThingsModelDefinition properties events services = .ok ()) ∧
    validateEvent FormatChecker.byShape (some sampleAlarm.json) =
      .ok (sampleAlarm, .eventReported) ∧
    ∃ topic envelope, .publish topic envelope ∈ (process calm sampleWorld
        FormatChecker.byShape (some sampleAlarm.json)).2 ∧
      (validateEvent FormatChecker.byShape (some envelope.json)).isOk =
        false := by
  have hrefused : ((process calm sampleWorld FormatChecker.byShape
      (some sampleAlarm.json)).2.any fun effect =>
        match effect with
        | .publish _ envelope =>
            !(validateEvent FormatChecker.byShape (some envelope.json)).isOk
        | _ => false) = true := by decide +kernel
  refine ⟨⟨_, _, _, rfl, rfl, rfl, by decide +kernel⟩, rfl, ?_⟩
  obtain ⟨effect, hmem, heffect⟩ := List.any_eq_true.mp hrefused
  cases effect with
  | publish topic envelope =>
      exact ⟨topic, envelope, hmem, by simpa using heffect⟩
  | _ => cases heffect

end Emitted

end Processor

end LinkFlow
