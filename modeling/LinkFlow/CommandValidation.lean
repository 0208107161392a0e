/-
What gets past the backend's checks of a command, and what has then been handed
to the broker.
-/
import LinkFlow.CommandContract
import LinkFlow.ThingsModelReading

namespace LinkFlow

namespace DeviceService

open ThingsModel

section Sending

/-- An answer that names the record it sent, and the call that sends it. -/
def Tells {R α : Type} (answer : Except R (α × KafkaRecord))
    (sends : Sends R α) : Prop :=
  match answer with
  | .ok (value, record) => sends.outcome = .ok value ∧ sends.trace = [record]
  | .error err => sends.outcome = .error err

/-- The record's envelope has a map under a key of its payload. -/
def Carries (key : String) (map : GoMap Json) (record : KafkaRecord) : Prop :=
  ∃ env : Envelope, record.value = env.json ∧
    env.payload.field? key = some (.ofMap map)

/-- A call that succeeds has sent one record, which carries what `carries` says.
One that fails has sent nothing, or its error is the broker's own. -/
def SendsOne {R α : Type} (broker : Broker) (carries : KafkaRecord → Prop)
    (context : String → R) (sends : Sends R α) : Prop :=
  match sends.outcome with
  | .ok _ => ∃ record, sends.trace = [record] ∧ carries record ∧
      broker.send record = .ok ()
  | .error err => sends.trace = [] ∨ ∃ record text, sends.trace = [record] ∧
      carries record ∧ broker.send record = .error text ∧ err = context text

variable {α : Type} {outside : Surroundings} {broker : Broker}
  {about : Broker → α → KafkaRecord → Prop} {context : String → DeviceError}
  {call : Sends DeviceError (α × KafkaRecord)}

theorem Publishes.tells (hpublishes : Publishes outside about context call) :
    Tells call.outcome (Prod.fst <$> call) := by
  cases hpublishes with
  | stopped err => rfl
  | sent _ _ _ => exact ⟨rfl, rfl⟩
  | failed _ _ _ => rfl

theorem Publishes.sendsOne (hpublishes : Publishes outside about context call)
    (hbroker : outside.publisher = some broker) {carries : KafkaRecord → Prop}
    (hcarries : ∀ value record, about broker value record → carries record) :
    SendsOne broker carries context (Prod.fst <$> call) := by
  cases hpublishes with
  | stopped err => exact Or.inl rfl
  | @sent found value record hfound habout hsend =>
      obtain rfl := Option.some.inj (hbroker.symm.trans hfound)
      exact ⟨record, rfl, hcarries value record habout, hsend⟩
  | @failed found value record text hfound habout hsend =>
      obtain rfl := Option.some.inj (hbroker.symm.trans hfound)
      exact Or.inr ⟨record, text, rfl, hcarries value record habout, hsend, rfl⟩

end Sending

section Acceptance

/-- A name declared as a property that may be written, with a value for it. -/
def Writes (definitions : GoMap Json) (name : String) (value : Json) : Prop :=
  ∃ definition, (definitions.get? name).bind Json.object? = some definition ∧
    optionalString definition "access_mode" ∈ ["write", "readwrite"] ∧
    validateDeviceServiceCallValue name definition value = .ok ()

/-- Properties that a device may be sent. -/
structure AcceptsProperties (target : DeviceTarget) (properties : GoMap Json) :
    Prop where
  active : target.deviceStatus = "active"
  online : target.connectionStatus = "online"
  nonempty : properties.isEmpty = false
  writes : ∀ name value, properties.get? name = some value →
    Writes target.definitions name value

/-- The declared input of a service. -/
def declaredInput (definitions : GoMap Json) (serviceName : String) :
    Option (GoMap Json) :=
  ((definitions.get? serviceName).bind Json.object?).bind fun service =>
    (service.get? "input").bind Json.object?

/-- A call that a device may be sent. -/
structure AcceptsCall (target : DeviceTarget) (serviceName : String)
    (input : GoMap Json) : Prop where
  active : target.deviceStatus = "active"
  online : target.connectionStatus = "online"
  declared : (target.definitions.get? serviceName).isSome = true
  valid : ∀ name value, input.get? name = some value → ∃ params definition,
    declaredInput target.definitions serviceName = some params ∧
    (params.get? name).bind Json.object? = some definition ∧
    validateDeviceServiceCallValue name definition value = .ok ()
  required : ∀ params name definition,
    declaredInput target.definitions serviceName = some params →
    (params.get? name).bind Json.object? = some definition →
    definition.get? "required" = some (.bool true) →
    (input.get? name).isSome = true

/-- Every identifier of a map is well formed. -/
def ValidIdentifiers (declared : GoMap Json) : Prop :=
  ∀ identifier, (declared.get? identifier).isSome = true →
    validThingsModelIdentifier identifier = true

/-- The three loops of the model validator test the identifier first. -/
theorem validIdentifiers_of_range {declared : GoMap Json} {invalid : String}
    {check : String → Json → Except String Unit}
    (hok : (declared.range fun identifier raw =>
      if !validThingsModelIdentifier identifier then .error invalid
      else check identifier raw) = .ok ()) : ValidIdentifiers declared := by
  intro identifier hdeclared
  obtain ⟨raw, hraw⟩ := Option.isSome_iff_exists.mp hdeclared
  have hentry := GoMap.range_eq_ok_iff.mp hok identifier raw hraw
  rw [ite_error_eq_ok_iff] at hentry
  simpa using hentry.1

variable {definitions properties input : GoMap Json} {serviceName : String}

theorem validIdentifiers_properties
    (hok : validateThingsModelProperties definitions = .ok ()) :
    ValidIdentifiers definitions :=
  validIdentifiers_of_range hok

theorem validIdentifiers_services
    (hok : validateThingsModelServices definitions = .ok ()) :
    ValidIdentifiers definitions :=
  validIdentifiers_of_range hok

/-- The input of an accepted service is a map of objects with good names. -/
theorem declaredInput_accepted
    (hok : validateThingsModelServices definitions = .ok ())
    (hdeclared : (definitions.get? serviceName).isSome = true) :
    ∃ params, declaredInput definitions serviceName = some params ∧
      AllObjects params ∧ ValidIdentifiers params := by
  have haccepted := acceptedMap_of_range hok
  obtain ⟨raw, hraw⟩ := Option.isSome_iff_exists.mp hdeclared
  obtain ⟨service, hservice⟩ := haccepted.objects serviceName raw hraw
  have hbody : (definitions.get? serviceName).bind Json.object? =
      some service := by
    rw [hraw, Option.bind_some, hservice]
  obtain ⟨identifier, hcheck⟩ := haccepted.accepted serviceName service hbody
  simp only [ite_error_eq_ok_iff] at hcheck
  obtain ⟨-, -, -, hcheck⟩ := hcheck
  split at hcheck
  · cases hcheck
  · cases hcheck
  next params output hinput houtput =>
    split at hcheck
    · cases hcheck
    next hparams =>
      have hmap := within_eq_ok_iff.mp hparams
      refine ⟨params, ?_, (validateThingModelParamMap_accepted hmap).objects,
        validIdentifiers_of_range hmap⟩
      rw [declaredInput, hbody, Option.bind_some, hinput]

theorem validateDeviceServiceCallValue_error {name : String}
    {definition : GoMap Json} {value : Json} {err : DeviceError}
    (herr : validateDeviceServiceCallValue name definition value =
      .error err) : err = .invalidDeviceInput := by
  unfold validateDeviceServiceCallValue validateDeviceServiceCallNumber at herr
  grind

theorem propertySetInput_error {err : DeviceError}
    (herr : validateDevicePropertySetInput definitions properties =
      .error err) : err = .invalidDeviceInput := by
  rw [validateDevicePropertySetInput] at herr
  split_ifs at herr with hempty
  · cases herr
    rfl
  · split at herr
    next hrange =>
      cases herr
      obtain ⟨name, value, -, hvalue⟩ := GoMap.range_eq_error hrange
      have hkind := @validateDeviceServiceCallValue_error name
      grind
    · cases herr

/-- One turn of the loop over the given properties. -/
theorem propertyEntry_ok_iff (hvalid : ValidIdentifiers definitions)
    {name : String} {value : Json} :
    (if !validThingsModelIdentifier name then .error .invalidDeviceInput
      else
        match (definitions.get? name).bind Json.object? with
        | none => .error .invalidDeviceInput
        | some definition =>
            if optionalString definition "access_mode" ∉
                ["write", "readwrite"] then
              .error .invalidDeviceInput
            else validateDeviceServiceCallValue name definition value) =
        (.ok () : Except DeviceError Unit) ↔
      Writes definitions name value := by
  rw [ite_error_eq_ok_iff]
  rw [Writes]
  cases hdefinition : (definitions.get? name).bind Json.object? with
  | none => simp
  | some definition =>
      have hdeclared : (definitions.get? name).isSome = true := by
        obtain ⟨raw, hraw, -⟩ := Option.bind_eq_some_iff.mp hdefinition
        rw [hraw]
        rfl
      simp only [hvalid name hdeclared, Bool.not_true, true_and,
        Option.some.injEq, exists_eq_left']
      split
      next hmode => simp [hmode]
      next hmode => simp only [not_not.mp hmode, true_and]

theorem propertySetInput_eq_ok_iff (hvalid : ValidIdentifiers definitions) :
    (∃ accepted, validateDevicePropertySetInput definitions properties =
        .ok accepted) ↔
      properties.isEmpty = false ∧ ∀ name value,
        properties.get? name = some value → Writes definitions name value := by
  simp only [← propertyEntry_ok_iff hvalid, ← GoMap.range_eq_ok_iff]
  rw [validateDevicePropertySetInput]
  cases properties.isEmpty with
  | true => simp
  | false =>
      simp only [Bool.false_eq_true, if_false, true_and]
      generalize properties.range _ = outcome
      cases outcome <;> simp

theorem serviceCallInput_error {err : DeviceError}
    (herr : validateDeviceServiceCallInput serviceName definitions input =
      .error err) : err = .invalidDeviceInput ∨
      err = .deviceServiceNotFound := by
  rw [validateDeviceServiceCallInput] at herr
  split at herr
  · cases herr
    exact Or.inr rfl
  · left
    split at herr
    · cases herr
      rfl
    · split at herr
      next hrange =>
        cases herr
        obtain ⟨name, value, -, hvalue⟩ := GoMap.range_eq_error hrange
        have hkind := @validateDeviceServiceCallValue_error name
        grind
      · split at herr
        next hrange =>
          cases herr
          obtain ⟨name, raw, -, hrequired⟩ := GoMap.range_eq_error hrange
          grind
        · cases herr

/-- One turn of the loop over the given input. -/
theorem inputEntry_ok_iff {params : GoMap Json} (hobjects : AllObjects params)
    (hvalid : ValidIdentifiers params) {name : String} {value : Json} :
    (match params.get? name with
      | none => .error .invalidDeviceInput
      | some raw =>
          if !validThingsModelIdentifier name then .error .invalidDeviceInput
          else
            match raw.object? with
            | none => .error .invalidDeviceInput
            | some definition =>
                validateDeviceServiceCallValue name definition value) =
        (.ok () : Except DeviceError Unit) ↔
      ∃ definition, (params.get? name).bind Json.object? = some definition ∧
        validateDeviceServiceCallValue name definition value = .ok () := by
  cases hraw : params.get? name with
  | none => simp
  | some raw =>
      obtain ⟨definition, hdefinition⟩ := hobjects name raw hraw
      have hname := hvalid name (by rw [hraw]; rfl)
      simp [hname, hdefinition]

/-- One turn of the loop over the declared input. -/
theorem requiredEntry_ok_iff {raw : Json} {definition : GoMap Json}
    (hobject : raw.object? = some definition) {name : String} :
    (match raw.object? with
      | none => .error .invalidDeviceInput
      | some definition =>
          let required :=
            ((definition.get? "required").bind Json.bool?).getD false
          if required && (input.get? name).isNone then
            .error .invalidDeviceInput
          else .ok ()) = (.ok () : Except DeviceError Unit) ↔
      (definition.get? "required" = some (.bool true) →
        (input.get? name).isSome = true) := by
  rw [hobject]
  simp only
  rw [ite_error_eq_ok_iff]
  cases definition.get? "required" with
  | none => simp
  | some required => cases required <;> simp [Json.bool?]

theorem requiredLoop_ok_iff {params : GoMap Json}
    (hobjects : AllObjects params) :
    (params.range fun name raw =>
      match raw.object? with
      | none => .error .invalidDeviceInput
      | some definition =>
          let required :=
            ((definition.get? "required").bind Json.bool?).getD false
          if required && (input.get? name).isNone then
            .error .invalidDeviceInput
          else .ok ()) = (.ok () : Except DeviceError Unit) ↔
      ∀ name definition,
        (params.get? name).bind Json.object? = some definition →
        definition.get? "required" = some (.bool true) →
        (input.get? name).isSome = true := by
  rw [GoMap.range_eq_ok_iff]
  constructor
  · intro hall name definition hdefinition
    obtain ⟨raw, hraw, hobject⟩ := Option.bind_eq_some_iff.mp hdefinition
    exact (requiredEntry_ok_iff hobject).mp (hall name raw hraw)
  · intro hall name raw hraw
    obtain ⟨definition, hobject⟩ := hobjects name raw hraw
    have hdefinition : (params.get? name).bind Json.object? =
        some definition := by
      rw [hraw, Option.bind_some, hobject]
    exact (requiredEntry_ok_iff hobject).mpr (hall name definition hdefinition)

theorem serviceCallInput_eq_ok_iff
    (hok : validateThingsModelServices definitions = .ok ()) :
    (∃ accepted, validateDeviceServiceCallInput serviceName definitions input =
        .ok accepted) ↔
      (definitions.get? serviceName).isSome = true ∧
      (∀ name value, input.get? name = some value → ∃ params definition,
        declaredInput definitions serviceName = some params ∧
        (params.get? name).bind Json.object? = some definition ∧
        validateDeviceServiceCallValue name definition value = .ok ()) ∧
      ∀ params name definition,
        declaredInput definitions serviceName = some params →
        (params.get? name).bind Json.object? = some definition →
        definition.get? "required" = some (.bool true) →
        (input.get? name).isSome = true := by
  cases hraw : definitions.get? serviceName with
  | none => simp [validateDeviceServiceCallInput, hraw]
  | some raw =>
      have hdeclared : (definitions.get? serviceName).isSome = true := by
        simp [hraw]
      obtain ⟨params, hparams, hobjects, hvalid⟩ :=
        declaredInput_accepted hok hdeclared
      have hinput : (raw.object?.bind fun service =>
          (service.get? "input").bind Json.object?) = some params := by
        rw [← hparams, declaredInput, hraw, Option.bind_some]
      have hfirst (name : String) (value : Json) :=
        @inputEntry_ok_iff params hobjects hvalid name value
      have hsecond := @requiredLoop_ok_iff input params hobjects
      simp only [Option.isSome_some, true_and, hparams, Option.some.injEq,
        exists_and_left, exists_eq_left', ← hfirst, ← GoMap.range_eq_ok_iff]
      rw [validateDeviceServiceCallInput]
      simp only [hraw, hinput]
      constructor
      · rintro ⟨accepted, hok⟩
        split at hok
        · cases hok
        next hloop =>
          refine ⟨hloop, ?_⟩
          rintro _ name definition rfl
          split at hok
          · cases hok
          next hrequired => exact hsecond.mp hrequired name definition
      · rintro ⟨hloop, hrequired⟩
        have hrest := hsecond.mpr fun name definition =>
          hrequired params name definition rfl
        split
        next err herr => cases herr.symm.trans hloop
        · split
          next err herr => cases herr.symm.trans hrest
          · exact ⟨_, rfl⟩

end Acceptance

section Requests

variable {outside : Surroundings} {broker : Broker} {target : DeviceTarget}
  {userID deviceID serviceName : String}

/-- The later steps fail with a wrapped text, the checks with a sentinel. -/
def PastValidation {α : Type} (outcome : Except DeviceError α) : Prop :=
  ∀ err, outcome = .error err → ∃ text, err = .other text

theorem past_map_iff {α β : Type} {f : α → β} {call : Sends DeviceError α} :
    PastValidation (f <$> call).outcome ↔ PastValidation call.outcome := by
  rw [Traced.outcome_map]
  cases call.outcome with
  | error err =>
      constructor
      all_goals
        intro hpast failure hfailure
        cases hfailure
        exact hpast err rfl
  | ok value =>
      apply iff_of_true
      all_goals
        intro err herr
        cases herr

/-- The end of both requests fails with wrapped texts alone. -/
theorem past_command {α : Type} {publish : Uuid → Sends String KafkaRecord}
    {context : String → String} {answer : Uuid → KafkaRecord → α} :
    PastValidation (Traced.outcome (do
      let id ← drawCommandID outside
      let record ← (publish id).mapStop fun err =>
        DeviceError.other (context err)
      return answer id record)) := by
  rw [drawCommandID]
  cases outside.commandID with
  | error err =>
      intro failure hfailure
      cases hfailure
      exact ⟨_, rfl⟩
  | ok id =>
      simp only [bind, Except.mapError, Traced.lift, pure]
      generalize publish id = published
      obtain ⟨trace, outcome⟩ := published
      cases outcome with
      | error err =>
          intro failure hfailure
          cases hfailure
          exact ⟨_, rfl⟩
      | ok _ =>
          intro failure hfailure
          cases hfailure

theorem not_past_of_error {α : Type} {outcome : Except DeviceError α}
    {err : DeviceError} (herr : outcome = .error err)
    (hsentinel : ∀ text, err ≠ .other text) : ¬ PastValidation outcome := by
  intro hpast
  obtain ⟨text, htext⟩ := hpast err herr
  exact hsentinel text htext

/-- A request that checks its target and its input, then sends. -/
theorem past_iff_checked {α : Type}
    {check : DeviceTarget → Except DeviceError (GoMap Json)}
    {rest : DeviceTarget → GoMap Json → Sends DeviceError α}
    (hfound : outside.findTarget userID deviceID = .ok target)
    (hcheck : ∀ err, check target = .error err →
      err = .invalidDeviceInput ∨ err = .deviceServiceNotFound)
    (hrest : ∀ accepted, PastValidation (rest target accepted).outcome) :
    PastValidation (Traced.outcome (do
        let target ← .lift (readyTarget outside userID deviceID)
        let accepted ← .lift (check target)
        rest target accepted)) ↔
      target.deviceStatus = "active" ∧ target.connectionStatus = "online" ∧
        ∃ accepted, check target = .ok accepted := by
  rw [readyTarget]
  rw [hfound]
  simp only
  split
  next hstatus =>
    apply iff_of_false
    · exact not_past_of_error rfl (by simp)
    · exact fun hready => hstatus hready.1
  next hstatus =>
    split
    next hoffline =>
      apply iff_of_false
      · exact not_past_of_error rfl (by simp)
      · exact fun hready => hoffline hready.2.1
    next honline =>
      rw [not_not] at hstatus honline
      simp only [hstatus, honline, true_and]
      change PastValidation
        (Traced.outcome (.lift (check target) >>= rest target)) ↔ _
      cases hinput : check target with
      | error err =>
          apply iff_of_false
          · apply not_past_of_error rfl
            rcases hcheck err hinput with rfl | rfl <;> simp
          · simp
      | ok accepted =>
          exact iff_of_true (hrest accepted) ⟨accepted, rfl⟩

variable {properties : GoMap Json} {input : Option (GoMap Json)}

theorem setProperties_past_iff (hctx : outside.ctxErr = none)
    (hbroker : outside.publisher = some broker)
    (huser : trimSpace userID ≠ "") (hdevice : trimSpace deviceID ≠ "")
    (hfound : outside.findTarget (trimSpace userID) (trimSpace deviceID) =
      .ok target)
    (haccepted : validateThingsModelProperties target.definitions = .ok ()) :
    PastValidation
        (setPropertiesSends outside userID deviceID properties).outcome ↔
      AcceptsProperties target properties := by
  have hinput := @propertySetInput_eq_ok_iff target.definitions properties
    (validIdentifiers_properties haccepted)
  rw [setPropertiesSends, past_map_iff, setPropertiesTraced, hctx, hbroker]
  simp only [huser, hdevice, decide_false, Bool.false_or]
  split
  next hempty =>
    apply iff_of_false
    · exact not_past_of_error rfl (by simp)
    · intro haccepts
      rw [haccepts.nonempty] at hempty
      cases hempty
  next hempty =>
    apply (past_iff_checked hfound (fun err herr =>
      Or.inl (propertySetInput_error herr)) fun accepted => past_command).trans
    rw [hinput]
    constructor
    · rintro ⟨hactive, honline, hnonempty, hwrites⟩
      exact ⟨hactive, honline, hnonempty, hwrites⟩
    · rintro ⟨hactive, honline, hnonempty, hwrites⟩
      exact ⟨hactive, honline, hnonempty, hwrites⟩

theorem callService_past_iff (hctx : outside.ctxErr = none)
    (hbroker : outside.publisher = some broker)
    (huser : trimSpace userID ≠ "") (hdevice : trimSpace deviceID ≠ "")
    (hfound : outside.findTarget (trimSpace userID) (trimSpace deviceID) =
      .ok target)
    (haccepted : validateThingsModelServices target.definitions = .ok ()) :
    PastValidation
        (callServiceSends outside userID deviceID serviceName input).outcome ↔
      AcceptsCall target (trimSpace serviceName) (input.getD GoMap.empty) := by
  have hinput := @serviceCallInput_eq_ok_iff target.definitions
    (input.getD GoMap.empty) (trimSpace serviceName) haccepted
  rw [callServiceSends, past_map_iff, callServiceTraced, hctx, hbroker]
  simp only [huser, hdevice, decide_false, Bool.false_or]
  split
  next hname =>
    apply iff_of_false
    · exact not_past_of_error rfl (by simp)
    · intro haccepts
      have hvalid := validIdentifiers_services haccepted _ haccepts.declared
      have hblank : trimSpace serviceName ≠ "" := by
        intro hblank
        rw [hblank] at hvalid
        cases hvalid
      simp [hvalid, hblank] at hname
  next hname =>
    apply (past_iff_checked hfound (fun err herr =>
      serviceCallInput_error herr) fun accepted => past_command).trans
    rw [hinput]
    constructor
    · rintro ⟨hactive, honline, hdeclared, hvalid, hrequired⟩
      exact ⟨hactive, honline, hdeclared, hvalid, hrequired⟩
    · rintro ⟨hactive, honline, hdeclared, hvalid, hrequired⟩
      exact ⟨hactive, honline, hdeclared, hvalid, hrequired⟩

theorem setProperties_sendsOne (hbroker : outside.publisher = some broker) :
    SendsOne broker (Carries "properties" properties)
      (fun text =>
        .other ("publish device property set requested event: " ++ text))
      (setPropertiesSends outside userID deviceID properties) := by
  apply (setProperties_publishes _ _ _ _).sendsOne hbroker
  rintro result record ⟨target, id, eventID, -, -, -, -, -, rfl⟩
  refine ⟨_, rfl, ?_⟩
  simp [newEnvelope, PropertySetRequestedPayload.json, propertySetMessage]
  rfl

theorem callService_sendsOne (hbroker : outside.publisher = some broker) :
    SendsOne broker (Carries "input" (input.getD GoMap.empty))
      (fun text =>
        .other ("publish device service call requested event: " ++ text))
      (callServiceSends outside userID deviceID serviceName input) := by
  apply (callService_publishes _ _ _ _ _).sendsOne hbroker
  rintro result record ⟨target, id, eventID, -, -, -, -, -, rfl⟩
  refine ⟨_, rfl, ?_⟩
  simp [newEnvelope, ServiceCallRequestedPayload.json, serviceCallMessage]
  rfl

/-- Both requests: what gets past their checks, and what has been sent when they
end. -/
theorem commands_validated (outside : Surroundings)
    (hctx : outside.ctxErr = none)
    (hbroker : outside.publisher = some broker)
    (huser : trimSpace userID ≠ "") (hdevice : trimSpace deviceID ≠ "") :
    (∀ target events services properties,
      outside.findTarget (trimSpace userID) (trimSpace deviceID) = .ok target →
      validateThingsModelDefinition target.definitions events services =
        .ok () →
      let sends := setPropertiesSends outside userID deviceID properties
      Tells (setProperties outside userID deviceID properties) sends ∧
        (PastValidation sends.outcome ↔ AcceptsProperties target properties) ∧
        SendsOne broker (Carries "properties" properties)
          (fun text =>
            .other ("publish device property set requested event: " ++ text))
          sends) ∧
    (∀ target properties events serviceName input,
      outside.findTarget (trimSpace userID) (trimSpace deviceID) = .ok target →
      validateThingsModelDefinition properties events target.definitions =
        .ok () →
      let sends := callServiceSends outside userID deviceID serviceName input
      Tells (callService outside userID deviceID serviceName input) sends ∧
        (PastValidation sends.outcome ↔
          AcceptsCall target (trimSpace serviceName)
            (input.getD GoMap.empty)) ∧
        SendsOne broker (Carries "input" (input.getD GoMap.empty))
          (fun text =>
            .other ("publish device service call requested event: " ++ text))
          sends) := by
  constructor
  · intro target events services properties hfound haccepted
    obtain ⟨hproperties, -⟩ :=
      validateThingsModelDefinition_eq_ok_iff.mp haccepted
    exact ⟨(setProperties_publishes _ _ _ _).tells,
      setProperties_past_iff hctx hbroker huser hdevice hfound hproperties,
      setProperties_sendsOne hbroker⟩
  · intro target properties events serviceName input hfound haccepted
    obtain ⟨-, -, hservices⟩ :=
      validateThingsModelDefinition_eq_ok_iff.mp haccepted
    exact ⟨(callService_publishes _ _ _ _ _).tells,
      callService_past_iff hctx hbroker huser hdevice hfound hservices,
      callService_sendsOne hbroker⟩

theorem carries_of_tells {R α : Type} {answer : Except R (α × KafkaRecord)}
    {sends : Sends R α} {carries : KafkaRecord → Prop} {context : String → R}
    {result : α} {record : KafkaRecord} (htells : Tells answer sends)
    (hone : SendsOne broker carries context sends)
    (hanswer : answer = .ok (result, record)) : carries record := by
  subst hanswer
  obtain ⟨houtcome, htrace⟩ := htells
  rw [SendsOne] at hone
  rw [houtcome] at hone
  obtain ⟨sent, hsent, hcarries, -⟩ := hone
  rw [htrace] at hsent
  cases hsent
  exact hcarries

/-- A property set and a service call for a device that is online. -/
theorem commands_validated_open :
    (∃ result record,
      setProperties (openSurroundings (oneProperty "temp")) "user-1" "device-1"
        (GoMap.ofMembers [("temp", .num 21 true)]) = .ok (result, record) ∧
      Carries "properties" (GoMap.ofMembers [("temp", .num 21 true)]) record) ∧
    ∃ result record,
      callService (openSurroundings (oneService "reboot")) "user-1" "device-1"
        "reboot" none = .ok (result, record) ∧
      Carries "input" GoMap.empty record := by
  have huser : trimSpace "user-1" ≠ "" := by decide +kernel
  have hdevice : trimSpace "device-1" ≠ "" := by decide +kernel
  constructor
  · obtain ⟨result, record, hok⟩ : ∃ result record,
        setProperties (openSurroundings (oneProperty "temp")) "user-1"
          "device-1" (GoMap.ofMembers [("temp", .num 21 true)]) =
            .ok (result, record) := ⟨_, _, rfl⟩
    obtain ⟨htells, -, hone⟩ := (commands_validated
      (openSurroundings (oneProperty "temp")) rfl rfl huser
        hdevice).1 (onlineTarget (oneProperty "temp")) GoMap.empty GoMap.empty
      (GoMap.ofMembers [("temp", .num 21 true)]) rfl rfl
    exact ⟨result, record, hok, carries_of_tells htells hone hok⟩
  · obtain ⟨result, record, hok⟩ : ∃ result record,
        callService (openSurroundings (oneService "reboot")) "user-1"
          "device-1" "reboot" none = .ok (result, record) := ⟨_, _, rfl⟩
    obtain ⟨htells, -, hone⟩ := (commands_validated
      (openSurroundings (oneService "reboot")) rfl rfl huser
        hdevice).2 (onlineTarget (oneService "reboot")) GoMap.empty GoMap.empty
      "reboot" none rfl rfl
    exact ⟨result, record, hok, carries_of_tells htells hone hok⟩

end Requests

end DeviceService

end LinkFlow
