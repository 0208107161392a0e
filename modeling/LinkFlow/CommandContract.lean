/-
Whether a command that the backend accepts passes the processor's validation.
-/
import LinkFlow.DeviceService
import LinkFlow.PayloadContract

namespace LinkFlow

namespace DeviceService

open ThingsModel

theorem bind_eq_ok {ε α β : Type} {first : Except ε α} {next : α → Except ε β}
    {result : β} :
    (first >>= next) = .ok result ↔
      ∃ value, first = .ok value ∧ next value = .ok result := by
  cases first with
  | error err => simp [bind, Except.bind]
  | ok value => simp [bind, Except.bind]

theorem validSlug_fits {slug : String} (hslug : validSlug slug = true) :
    1 ≤ slug.length ∧ slug.length ≤ 63 ∧
      Schemas.kebabPattern.matches slug = true := by
  simp only [validSlug, Bool.and_eq_true, decide_eq_true_eq] at hslug
  exact ⟨by omega, hslug.1.1.2, hslug.1.2⟩

theorem validDeviceSlug_fits {slug : String}
    (hslug : validDeviceSlug slug = true) :
    1 ≤ slug.length ∧ slug.length ≤ 128 := by
  simp only [validDeviceSlug, Bool.and_eq_true, decide_eq_true_eq] at hslug
  refine ⟨?_, hslug.2⟩
  have hmatches := hslug.1
  rw [Pattern.matches] at hmatches
  split at hmatches
  · cases hmatches
  next htext => simp [← String.length_toList, htext]

theorem uuidText_fits {text : String}
    (huuid : ∃ id : Uuid, text = Uuid.text id) :
    text.length = 36 := by
  obtain ⟨id, rfl⟩ := huuid
  exact Uuid.length_text id

/-- Stored ids and slugs satisfy the rules of every payload. -/
theorem StoredFields.fit {fields : DeviceFields}
    (hstored : StoredFields fields) :
    fields.Fit := by
  have htenant := uuidText_fits hstored.tenantID
  have hproduct := uuidText_fits hstored.productID
  have hdevice := uuidText_fits hstored.deviceID
  have hslug := validSlug_fits hstored.tenantSlug
  have hkey := validSlug_fits hstored.productKey
  exact
    { tenantID := by omega
      productID := by omega
      deviceID := by omega
      tenantSlug := ⟨hslug.1, by omega, hslug.2.2⟩
      productKey := ⟨hkey.1, by omega, hkey.2.2⟩
      deviceSlug := validDeviceSlug_fits hstored.deviceSlug }

section Topics

variable {fields : DeviceFields}

theorem propertySetTopic_fits (hstored : StoredFields fields) :
    let topic := devicePropertySetDownTopic fields.tenantSlug fields.productKey
      fields.deviceSlug
    1 ≤ topic.length ∧ topic.length ≤ 512 := by
  have hslug := validSlug_fits hstored.tenantSlug
  have hkey := validSlug_fits hstored.productKey
  have hdevice := validDeviceSlug_fits hstored.deviceSlug
  simp only [devicePropertySetDownTopic, String.length_append]
  have hinitial : "lf/v1/".length = 6 := rfl
  have hsuffix : "/property/down/set".length = 18 := rfl
  have hslash : "/".length = 1 := rfl
  omega

theorem serviceTopic_fits (hstored : StoredFields fields) {serviceName : String}
    (hname : serviceName.length ≤ 128) :
    let topic := deviceServiceDownTopic fields.tenantSlug fields.productKey
      fields.deviceSlug serviceName
    1 ≤ topic.length ∧ topic.length ≤ 512 := by
  have hslug := validSlug_fits hstored.tenantSlug
  have hkey := validSlug_fits hstored.productKey
  have hdevice := validDeviceSlug_fits hstored.deviceSlug
  simp only [deviceServiceDownTopic, String.length_append]
  have hinitial : "lf/v1/".length = 6 := rfl
  have hmiddle : "/service/down/".length = 14 := rfl
  have hslash : "/".length = 1 := rfl
  omega

end Topics

/-- Only scalars pass the value check. -/
theorem isScalar_of_validate {name : String} {definition : GoMap Json}
    {value : Json}
    (hok : validateDeviceServiceCallValue name definition value = .ok ()) :
    value.IsScalar := by
  unfold validateDeviceServiceCallValue at hok
  cases value <;> first
    | trivial
    | (exfalso; revert hok; split <;> simp [Json.number?])

theorem propertySetInput_ok {propertiesDef properties accepted : GoMap Json}
    (hok : validateDevicePropertySetInput propertiesDef properties =
      .ok accepted) :
    accepted = properties ∧ properties.isEmpty = false ∧
      ∀ name value, properties.get? name = some value → value.IsScalar := by
  rw [validateDevicePropertySetInput] at hok
  split at hok
  · cases hok
  next hempty =>
    split at hok
    · cases hok
    next hrange =>
      cases hok
      refine ⟨rfl, by simpa using hempty, fun name value hget => ?_⟩
      have hentry := GoMap.range_eq_ok_iff.mp hrange name value hget
      split at hentry
      · cases hentry
      · split at hentry
        · cases hentry
        · split at hentry
          · cases hentry
          · exact isScalar_of_validate hentry

theorem serviceCallInput_ok {serviceName : String}
    {services input accepted : GoMap Json}
    (hok : validateDeviceServiceCallInput serviceName services input =
      .ok accepted) :
    accepted = input ∧
      ∀ name value, input.get? name = some value → value.IsScalar := by
  rw [validateDeviceServiceCallInput] at hok
  split at hok
  · cases hok
  · split at hok
    · cases hok
    · split at hok
      · cases hok
      next hrange =>
        split at hok
        · cases hok
        · cases hok
          refine ⟨rfl, fun name value hget => ?_⟩
          have hentry := GoMap.range_eq_ok_iff.mp hrange name value hget
          split at hentry
          · cases hentry
          · split at hentry
            · cases hentry
            · split at hentry
              · cases hentry
              · exact isScalar_of_validate hentry

section Publishing

variable {broker : Broker} {occurredAt : Int}

/-- How a publisher ends that has handed this record to the broker. -/
def handedOver (broker : Broker) (record : KafkaRecord) :
    Sends String KafkaRecord :=
  ⟨[record], (broker.send record).map fun _ => record⟩

theorem publishCommand_cases (subject : String) (eventType : EventType)
    (commandID tenantID : String) (payload : Json) :
    (∃ err, publishCommand broker subject eventType commandID
      tenantID occurredAt payload = .stop err) ∨
    ∃ id, publishCommand broker subject eventType commandID tenantID occurredAt
      payload = handedOver broker (commandRecord broker eventType id commandID
        tenantID occurredAt payload) := by
  rw [publishCommand]
  cases broker.newID with
  | error err => exact Or.inl ⟨_, rfl⟩
  | ok id =>
      refine Or.inr ⟨id, ?_⟩
      simp only [bind, Except.mapError, Traced.lift, Traced.emit, handedOver]
      generalize commandRecord broker eventType id commandID tenantID occurredAt
        payload = record
      cases broker.send record <;> rfl

theorem publishPropertySet_cases (message : PropertySetRequestedPayload) :
    (∃ err, publishPropertySet broker message occurredAt = .stop err) ∨
    ∃ id, publishPropertySet broker message occurredAt = handedOver broker
      (commandRecord broker .propertySetRequested id message.commandID
        message.tenantID occurredAt message.json) := by
  rw [publishPropertySet]
  split
  · exact Or.inl ⟨_, rfl⟩
  · split_ifs
    · exact Or.inl ⟨_, rfl⟩
    · exact Or.inl ⟨_, rfl⟩
    · exact Or.inl ⟨_, rfl⟩
    · exact publishCommand_cases _ _ _ _ _

theorem publishServiceCall_cases (message : ServiceCallRequestedPayload)
    (hinput : message.input.isSome = true) :
    (∃ err, publishServiceCall broker message occurredAt = .stop err) ∨
    ∃ id, publishServiceCall broker message occurredAt = handedOver broker
      (commandRecord broker .serviceCallRequested id message.commandID
        message.tenantID occurredAt message.json) := by
  obtain ⟨input, hinput⟩ := Option.isSome_iff_exists.mp hinput
  have hfilled :
      { message with input := some (message.input.getD GoMap.empty) } =
        message := by
    rw [hinput, Option.getD_some, ← hinput]
  rw [publishServiceCall]
  split
  · exact Or.inl ⟨_, rfl⟩
  · split_ifs
    · exact Or.inl ⟨_, rfl⟩
    · exact Or.inl ⟨_, rfl⟩
    · simp only [hfilled]
      exact publishCommand_cases _ _ _ _ _

variable {α : Type} {outside : Surroundings}
  {about : Broker → α → KafkaRecord → Prop} {context : String → DeviceError}

/-- How a request ends: before anything is sent, or with one record handed to
the broker, which `about` tells of, and as the `Send` of it ends. -/
inductive Publishes (outside : Surroundings)
    (about : Broker → α → KafkaRecord → Prop) (context : String → DeviceError) :
    Sends DeviceError (α × KafkaRecord) → Prop
  | stopped (err : DeviceError) : Publishes outside about context (.stop err)
  | sent {broker : Broker} {value : α} {record : KafkaRecord}
      (hbroker : outside.publisher = some broker)
      (habout : about broker value record)
      (hsend : broker.send record = .ok ()) :
      Publishes outside about context ⟨[record], .ok (value, record)⟩
  | failed {broker : Broker} {value : α} {record : KafkaRecord} {text : String}
      (hbroker : outside.publisher = some broker)
      (habout : about broker value record)
      (hsend : broker.send record = .error text) :
      Publishes outside about context ⟨[record], .error (context text)⟩

theorem publishes_lift {β : Type} {checked : Except DeviceError β}
    {next : β → Sends DeviceError (α × KafkaRecord)}
    (hnext : ∀ value, checked = .ok value →
      Publishes outside about context (next value)) :
    Publishes outside about context (.lift checked >>= next) := by
  cases checked with
  | error err => exact .stopped err
  | ok value => exact hnext value rfl

/-- The end of both requests: send, then answer. -/
theorem publishes_published {published : Sends String KafkaRecord} {value : α}
    (hbroker : outside.publisher = some broker)
    (hpublished : (∃ err, published = .stop err) ∨
      ∃ record, published = handedOver broker record ∧
        about broker value record) :
    Publishes outside about context (do
      let record ← published.mapStop context
      return (value, record)) := by
  rcases hpublished with ⟨err, rfl⟩ | ⟨record, rfl, habout⟩
  · exact .stopped (context err)
  · cases hsend : broker.send record with
    | error text =>
        rw [handedOver, hsend]
        exact .failed hbroker habout hsend
    | ok _ =>
        rw [handedOver, hsend]
        exact .sent hbroker habout hsend

/-- A request that has an answer has published the record it names. -/
theorem Publishes.of_ok {call : Sends DeviceError (α × KafkaRecord)} {value : α}
    {record : KafkaRecord} (hpublishes : Publishes outside about context call)
    (hbroker : outside.publisher = some broker)
    (hok : call.outcome = .ok (value, record)) : about broker value record := by
  cases hpublishes with
  | stopped err => cases hok
  | sent hfound habout hsend =>
      cases hok
      cases hbroker.symm.trans hfound
      exact habout
  | failed _ _ _ => cases hok

/-- Whatever a request hands to the broker, `about` tells of it. -/
theorem Publishes.of_mem {call : Sends DeviceError (α × KafkaRecord)}
    {record : KafkaRecord} (hpublishes : Publishes outside about context call)
    (hmem : record ∈ call.trace) :
    ∃ broker value, outside.publisher = some broker ∧
      about broker value record := by
  cases hpublishes with
  | stopped err => cases hmem
  | sent hbroker habout _ =>
      obtain rfl := List.mem_singleton.mp hmem
      exact ⟨_, _, hbroker, habout⟩
  | failed hbroker habout _ =>
      obtain rfl := List.mem_singleton.mp hmem
      exact ⟨_, _, hbroker, habout⟩

end Publishing

section Requests

variable {outside : Surroundings} {broker : Broker} {record : KafkaRecord}
  {userID deviceID serviceName : String}

theorem readyTarget_ok {target : DeviceTarget}
    (hok : readyTarget outside userID deviceID = .ok target) :
    outside.findTarget userID deviceID = .ok target := by
  rw [readyTarget] at hok
  split at hok
  · cases hok
  · split_ifs at hok
    cases hok
    assumption

/-- What `SetProperties` has read, and the record and the command id it makes of
it. -/
def PropertySetOf (outside : Surroundings) (userID deviceID : String)
    (properties : GoMap Json) (broker : Broker)
    (result : DevicePropertySetResult) (record : KafkaRecord) : Prop :=
  ∃ target id eventID,
    outside.findTarget (trimSpace userID) (trimSpace deviceID) = .ok target ∧
    trimSpace userID ≠ "" ∧ properties.isEmpty = false ∧
    (∀ name value, properties.get? name = some value → value.IsScalar) ∧
    result.commandID = Uuid.text id ∧
    record = commandRecord broker .propertySetRequested eventID (Uuid.text id)
      target.tenantID outside.clock
      (propertySetMessage target id (trimSpace userID) properties).json

/-- What `CallService` has read, and the record and the command id it makes of
it. -/
def ServiceCallOf (outside : Surroundings)
    (userID deviceID serviceName : String) (input : Option (GoMap Json))
    (broker : Broker) (result : DeviceServiceCallResult)
    (record : KafkaRecord) : Prop :=
  ∃ target id eventID,
    outside.findTarget (trimSpace userID) (trimSpace deviceID) = .ok target ∧
    trimSpace userID ≠ "" ∧
    validThingsModelIdentifier (trimSpace serviceName) = true ∧
    (∀ name value, (input.getD GoMap.empty).get? name = some value →
      value.IsScalar) ∧
    result.commandID = Uuid.text id ∧
    record = commandRecord broker .serviceCallRequested eventID (Uuid.text id)
      target.tenantID outside.clock
      (serviceCallMessage target id (trimSpace userID) (trimSpace serviceName)
        (input.getD GoMap.empty)).json

theorem setProperties_publishes (outside : Surroundings)
    (userID deviceID : String) (properties : GoMap Json) :
    Publishes outside (PropertySetOf outside userID deviceID properties)
      (fun text =>
        .other ("publish device property set requested event: " ++ text))
      (setPropertiesTraced outside userID deviceID properties) := by
  rw [setPropertiesTraced]
  split
  · exact .stopped _
  · exact .stopped _
  next hbroker =>
    dsimp only
    split
    · exact .stopped _
    next hfilled =>
      simp only [Bool.or_eq_true, decide_eq_true_eq, not_or] at hfilled
      apply publishes_lift
      intro target htarget
      apply publishes_lift
      intro accepted haccepted
      obtain ⟨rfl, hnonempty, hscalar⟩ := propertySetInput_ok haccepted
      apply publishes_lift
      intro id _
      apply publishes_published hbroker
      apply (publishPropertySet_cases _).imp_right
      rintro ⟨eventID, hsent⟩
      exact ⟨_, hsent, target, id, eventID, readyTarget_ok htarget, hfilled.1.1,
        hnonempty, hscalar, rfl, rfl⟩

/-- What a successful `SetProperties` has read and written. -/
theorem setProperties_ok {properties : GoMap Json}
    {result : DevicePropertySetResult}
    (hbroker : outside.publisher = some broker)
    (hok : setProperties outside userID deviceID properties =
      .ok (result, record)) :
    PropertySetOf outside userID deviceID properties broker result record :=
  (setProperties_publishes outside userID deviceID properties).of_ok hbroker hok

theorem callService_publishes (outside : Surroundings)
    (userID deviceID serviceName : String) (input : Option (GoMap Json)) :
    Publishes outside (ServiceCallOf outside userID deviceID serviceName input)
      (fun text =>
        .other ("publish device service call requested event: " ++ text))
      (callServiceTraced outside userID deviceID serviceName input) := by
  rw [callServiceTraced]
  split
  · exact .stopped _
  · exact .stopped _
  next hbroker =>
    dsimp only
    split
    · exact .stopped _
    next hfilled =>
      simp only [Bool.or_eq_true, decide_eq_true_eq, not_or,
        Bool.not_eq_true', Bool.not_eq_false] at hfilled
      apply publishes_lift
      intro target htarget
      apply publishes_lift
      intro accepted haccepted
      obtain ⟨rfl, hscalar⟩ := serviceCallInput_ok haccepted
      apply publishes_lift
      intro id _
      apply publishes_published hbroker
      apply (publishServiceCall_cases _ rfl).imp_right
      rintro ⟨eventID, hsent⟩
      exact ⟨_, hsent, target, id, eventID, readyTarget_ok htarget,
        hfilled.1.1.1, hfilled.2, hscalar, rfl, rfl⟩

/-- What a successful `CallService` has read and written. -/
theorem callService_ok {input : Option (GoMap Json)}
    {result : DeviceServiceCallResult}
    (hbroker : outside.publisher = some broker)
    (hok : callService outside userID deviceID serviceName input =
      .ok (result, record)) :
    ServiceCallOf outside userID deviceID serviceName input broker result
      record :=
  (callService_publishes outside userID deviceID serviceName input).of_ok
    hbroker hok

end Requests

section Acceptance

variable {formats : FormatChecker} {target : DeviceTarget} {id eventID : Uuid}
  {userID : String} {occurredAt clock : Int}

theorem producer_name : ProducerName producer := by
  refine ⟨?_, ?_, ?_⟩ <;> decide

/-- A command envelope passes validation with a usable time and payload. -/
theorem commandEnvelope_accepted_iff {eventType : EventType}
    {payload : List (String × Json)}
    (hstored : StoredFields target.toDeviceFields) :
    (validateEvent formats (some
        (newEnvelope eventType eventID occurredAt clock producer target.tenantID
          (Uuid.text id) "" (.obj payload)).json)).isOk = true ↔
      HasFourDigitYear (stampedAt occurredAt clock) ∧
        eventType.schema.accepts formats (.obj payload) = true := by
  have hlength := Uuid.length_text id
  exact validateEvent_newEnvelope producer_name hstored.fit.tenantID
    (fun _ => ⟨by omega, by omega⟩) (fun hne => absurd rfl hne)

theorem one_le_length {text : String} (hne : text ≠ "") : 1 ≤ text.length := by
  rw [Nat.one_le_iff_ne_zero]
  exact fun hzero => hne (String.length_eq_zero_iff.mp hzero)

theorem protocol_mqtt :
    Schemas.protocol.accepts formats (.str "mqtt") = true := by
  rw [protocol_accepts_iff]
  refine ⟨?_, ?_, ?_⟩ <;> decide

theorem propertySetMessage_accepted_iff {properties : GoMap Json}
    (hstored : StoredFields target.toDeviceFields) (huser : userID ≠ "")
    (hnonempty : properties.isEmpty = false)
    (hscalar : ∀ name value, properties.get? name = some value →
      value.IsScalar) :
    Schemas.propertySetRequested.accepts formats
        (propertySetMessage target id userID properties).json = true ↔
      (∀ name value, properties.get? name = some value →
        FitsGrammar name value) ∧ userID.length ≤ 64 := by
  have hsize : 1 ≤ properties.entries.length := by
    rw [Nat.one_le_iff_ne_zero, ne_eq, List.length_eq_zero_iff]
    intro hnil
    simp [GoMap.isEmpty, hnil] at hnonempty
  rw [PropertySetRequestedPayload.accepts_iff]
  simp only [propertySetMessage, Json.ofMap?, propertyMap_accepts_iff hscalar]
  constructor
  · rintro ⟨-, -, -, -, hmap, huser⟩
    exact ⟨hmap.2, huser.2⟩
  · rintro ⟨hmap, hlength⟩
    exact ⟨hstored.fit, formats.uuid_text id, protocol_mqtt,
      propertySetTopic_fits hstored, ⟨hsize, hmap⟩,
      one_le_length huser, hlength⟩

theorem serviceCallMessage_accepted_iff {serviceName : String}
    {input : GoMap Json} (hstored : StoredFields target.toDeviceFields)
    (huser : userID ≠ "")
    (hscalar : ∀ name value, input.get? name = some value → value.IsScalar) :
    Schemas.serviceCallRequested.accepts formats
        (serviceCallMessage target id userID serviceName input).json = true ↔
      (∀ name value, input.get? name = some value → FitsGrammar name value) ∧
        (Schemas.namePattern.matches serviceName = true ∧
          serviceName.length ≤ 128) ∧ userID.length ≤ 64 := by
  rw [ServiceCallRequestedPayload.accepts_iff]
  simp only [serviceCallMessage, Json.ofMap?, paramMap_accepts_iff hscalar,
    name_accepts_iff]
  constructor
  · rintro ⟨-, -, -, -, hname, hmap, huser⟩
    exact ⟨hmap.2, ⟨hname.2.2, hname.2.1⟩, huser.2⟩
  · rintro ⟨hmap, ⟨hmatches, hshort⟩, hlength⟩
    have hne : serviceName ≠ "" := by
      rintro rfl
      exact absurd hmatches (by decide)
    exact ⟨hstored.fit, formats.uuid_text id, protocol_mqtt,
      serviceTopic_fits hstored hshort, ⟨one_le_length hne, hshort, hmatches⟩,
      ⟨Nat.zero_le _, hmap⟩, one_le_length huser, hlength⟩

end Acceptance

section Requests

variable {formats : FormatChecker} {outside : Surroundings} {broker : Broker}
  {record : KafkaRecord} {userID deviceID serviceName : String}

/-- Every target the store finds has the guarantees of its columns. -/
def FindsStored (outside : Surroundings) : Prop :=
  ∀ userID deviceID target, outside.findTarget userID deviceID = .ok target →
    StoredFields target.toDeviceFields

/-- The conditions both commands share: the clock, the parameters, the user. -/
structure CommandFits (outside : Surroundings) (broker : Broker)
    (userID : String) (params : GoMap Json) : Prop where
  clock : HasFourDigitYear (stampedAt outside.clock broker.clock)
  params : ∀ name value, params.get? name = some value → FitsGrammar name value
  requestedBy : (trimSpace userID).length ≤ 64

theorem setProperties_accepted_iff {properties : GoMap Json}
    {result : DevicePropertySetResult}
    (hbroker : outside.publisher = some broker) (hstored : FindsStored outside)
    (hok : setProperties outside userID deviceID properties =
      .ok (result, record)) :
    (validateEvent formats (some record.value)).isOk = true ↔
      CommandFits outside broker userID properties := by
  obtain ⟨target, id, eventID, hfind, huser, hnonempty, hscalar, -, rfl⟩ :=
    setProperties_ok hbroker hok
  have htarget := hstored _ _ _ hfind
  apply (commandEnvelope_accepted_iff htarget).trans
  have hmessage : Schemas.propertySetRequested.accepts formats
      (propertySetMessage target id (trimSpace userID) properties).json = true ↔
        _ :=
    propertySetMessage_accepted_iff htarget huser hnonempty hscalar
  constructor
  · rintro ⟨hclock, hpayload⟩
    have hfits := hmessage.mp hpayload
    exact ⟨hclock, hfits.1, hfits.2⟩
  · intro hfits
    exact ⟨hfits.clock, hmessage.mpr ⟨hfits.params, hfits.requestedBy⟩⟩

theorem callService_accepted_iff {input : Option (GoMap Json)}
    {result : DeviceServiceCallResult}
    (hbroker : outside.publisher = some broker) (hstored : FindsStored outside)
    (hok : callService outside userID deviceID serviceName input =
      .ok (result, record)) :
    (validateEvent formats (some record.value)).isOk = true ↔
      CommandFits outside broker userID (input.getD GoMap.empty) ∧
        Schemas.namePattern.matches (trimSpace serviceName) = true ∧
        (trimSpace serviceName).length ≤ 128 := by
  obtain ⟨target, id, eventID, hfind, huser, -, hscalar, -, rfl⟩ :=
    callService_ok hbroker hok
  have htarget := hstored _ _ _ hfind
  apply (commandEnvelope_accepted_iff htarget).trans
  have hmessage : Schemas.serviceCallRequested.accepts formats
      (serviceCallMessage target id (trimSpace userID) (trimSpace serviceName)
        (input.getD GoMap.empty)).json = true ↔ _ :=
    serviceCallMessage_accepted_iff htarget huser hscalar
  constructor
  · rintro ⟨hclock, hpayload⟩
    have hfits := hmessage.mp hpayload
    exact ⟨⟨hclock, hfits.1, hfits.2.2⟩, hfits.2.1⟩
  · rintro ⟨hfits, hname⟩
    exact ⟨hfits.clock,
      hmessage.mpr ⟨hfits.params, hname, hfits.requestedBy⟩⟩

end Requests

/-- A command that succeeded passes the processor's validation exactly when its
names and texts fit the grammar of the schemas. -/
theorem command_events_accepted_iff (formats : FormatChecker)
    {outside : Surroundings} {broker : Broker}
    (hbroker : outside.publisher = some broker)
    (hstored : FindsStored outside) :
    (∀ userID deviceID properties result record,
      setProperties outside userID deviceID properties = .ok (result, record) →
      ((validateEvent formats (some record.value)).isOk = true ↔
        CommandFits outside broker userID properties)) ∧
    ∀ userID deviceID serviceName input result record,
      callService outside userID deviceID serviceName input =
        .ok (result, record) →
      ((validateEvent formats (some record.value)).isOk = true ↔
        CommandFits outside broker userID (input.getD GoMap.empty) ∧
          Schemas.namePattern.matches (trimSpace serviceName) = true ∧
          (trimSpace serviceName).length ≤ 128) :=
  ⟨fun _ _ _ _ _ hok => setProperties_accepted_iff hbroker hstored hok,
    fun _ _ _ _ _ _ hok => callService_accepted_iff hbroker hstored hok⟩

/-- A writable number of one decimal, under the given name. -/
def oneProperty (name : String) : GoMap Json :=
  GoMap.ofMembers
    [(name, .obj [("name", .str "Temperature"), ("data_type", .str "float"),
      ("required", .bool true), ("access_mode", .str "readwrite")])]

/-- A service without parameters, under the given name. -/
def oneService (name : String) : GoMap Json :=
  GoMap.ofMembers
    [(name, .obj [("name", .str "Reboot"), ("call_type", .str "sync"),
      ("input", .obj []), ("output", .obj [])])]

/-- A device that is online, with the given definitions. -/
def onlineTarget (definitions : GoMap Json) : DeviceTarget where
  tenantID := Uuid.text 1
  productID := Uuid.text 2
  deviceID := Uuid.text 3
  tenantSlug := "default"
  productKey := "esp32"
  deviceSlug := "dev-1"
  deviceStatus := "active"
  connectionStatus := "online"
  definitions := definitions

/-- A broker at noon of 5 May 2026 that writes every record. -/
def openBroker : Broker where
  ctxErr := none
  newID := .ok 4
  clock := 1777982400000000000
  send _ := .ok ()

def openSurroundings (definitions : GoMap Json) : Surroundings where
  ctxErr := none
  publisher := some openBroker
  findTarget _ _ := .ok (onlineTarget definitions)
  commandID := .ok 5
  clock := 1777982400000000000

theorem onlineTarget_stored (definitions : GoMap Json) :
    StoredFields (onlineTarget definitions).toDeviceFields where
  tenantID := ⟨1, rfl⟩
  productID := ⟨2, rfl⟩
  deviceID := ⟨3, rfl⟩
  tenantSlug := (by decide : validSlug "default" = true)
  productKey := (by decide : validSlug "esp32" = true)
  deviceSlug := (by decide : validDeviceSlug "dev-1" = true)

theorem openSurroundings_findsStored (definitions : GoMap Json) :
    FindsStored (openSurroundings definitions) := by
  intro userID deviceID target hfind
  cases hfind
  exact onlineTarget_stored definitions

theorem openSurroundings_clock (definitions : GoMap Json) :
    HasFourDigitYear
      (stampedAt (openSurroundings definitions).clock openBroker.clock) := by
  change HasFourDigitYear (stampedAt 1777982400000000000 1777982400000000000)
  decide

/-- Lower case names pass. -/
theorem command_events_accepted_lower_case :
    (∃ result record,
      setProperties (openSurroundings (oneProperty "temp")) "user-1" "device-1"
        (GoMap.ofMembers [("temp", .num 21 true)]) = .ok (result, record) ∧
      (validateEvent FormatChecker.byShape (some record.value)).isOk = true) ∧
    ∃ result record,
      callService (openSurroundings (oneService "reboot")) "user-1" "device-1"
        "reboot" none = .ok (result, record) ∧
      (validateEvent FormatChecker.byShape (some record.value)).isOk =
        true := by
  constructor
  · obtain ⟨result, record, hok⟩ : ∃ result record,
        setProperties (openSurroundings (oneProperty "temp")) "user-1"
          "device-1" (GoMap.ofMembers [("temp", .num 21 true)]) =
            .ok (result, record) := ⟨_, _, rfl⟩
    refine ⟨result, record, hok, ((command_events_accepted_iff
      FormatChecker.byShape rfl (openSurroundings_findsStored _)).1 _ _ _ _ _
      hok).mpr ⟨openSurroundings_clock _, ?_, by decide⟩⟩
    intro name value hget
    rw [← GoMap.mem_entries_iff] at hget
    change (name, value) ∈ [("temp", Json.num 21 true)] at hget
    cases List.mem_singleton.mp hget
    exact ⟨by decide, fun text htext => by cases htext⟩
  · obtain ⟨result, record, hok⟩ : ∃ result record,
        callService (openSurroundings (oneService "reboot")) "user-1"
          "device-1" "reboot" none = .ok (result, record) := ⟨_, _, rfl⟩
    refine ⟨result, record, hok, ((command_events_accepted_iff
      FormatChecker.byShape rfl (openSurroundings_findsStored _)).2 _ _ _ _ _ _
      hok).mpr ⟨⟨openSurroundings_clock _, ?_, by decide⟩, by decide,
        by decide⟩⟩
    intro name value hget
    cases hget

/-- A property named with a capital is accepted by the backend, and its command
is refused by the processor. -/
theorem command_event_refused_upper_case :
    validateThingsModelDefinition (oneProperty "Temp") GoMap.empty GoMap.empty =
      .ok () ∧
    StoredFields (onlineTarget (oneProperty "Temp")).toDeviceFields ∧
    ∃ result record,
      setProperties (openSurroundings (oneProperty "Temp")) "user-1" "device-1"
        (GoMap.ofMembers [("Temp", .num 21 true)]) = .ok (result, record) ∧
      (validateEvent FormatChecker.byShape (some record.value)).isOk =
        false := by
  refine ⟨by rfl, onlineTarget_stored _, ?_⟩
  obtain ⟨result, record, hok⟩ : ∃ result record,
      setProperties (openSurroundings (oneProperty "Temp")) "user-1" "device-1"
        (GoMap.ofMembers [("Temp", .num 21 true)]) = .ok (result, record) :=
    ⟨_, _, rfl⟩
  refine ⟨result, record, hok, ?_⟩
  rw [← Bool.not_eq_true, setProperties_accepted_iff rfl
    (openSurroundings_findsStored _) hok]
  intro hfits
  have hname := (hfits.params "Temp" (.num 21 true) rfl).1
  exact absurd hname (by decide)

end DeviceService

end LinkFlow
