/-
The output parameters that a thing model requires, and the reports and
acknowledgements that leave them out.
-/
import LinkFlow.ReportFiltering
import LinkFlow.ThingsModelReading

namespace LinkFlow

namespace Processor

open ThingsModel

/-- The body of an output parameter of an event or a service. -/
def outputParam (declared : GoMap Json) (owner name : String) :
    Option (GoMap Json) :=
  ((declared.get? owner).bind Json.object?).bind fun body =>
    ((outputObject body).get? name).bind Json.object?

/-- The thing model declares the parameter with `required` true. -/
def RequiredOutput (declared : GoMap Json) (owner name : String) : Prop :=
  ∃ param, outputParam declared owner name = some param ∧
    param.get? "required" = some (.bool true)

/-- Every required parameter is among what was accepted, with a valid value. -/
def EnforcesRequired (declared : GoMap Json) (owner : String)
    (sentinel : Sentinel) (validated : Validated) : Prop :=
  ∀ name, RequiredOutput declared owner name → ∃ param value,
    outputParam declared owner name = some param ∧
    validated.accepted.get? name = some value ∧
    validateDefinedValue name (parsePropertyDefinition param) value sentinel =
      .ok ()

/-- Every required parameter is among the reported names. -/
def NamesRequired (declared : GoMap Json) (owner : String)
    (report : GoMap Json) : Prop :=
  ∀ name, RequiredOutput declared owner name →
    (report.get? name).isSome = true

section Parsed

variable {declared : GoMap Json} {owner : String}

theorem get?_bodies (hobjects : AllObjects declared) (identifier : String) :
    (bodies declared).get? identifier =
      (declared.get? identifier).bind Json.object? := by
  rw [bodies]
  rw [GoMap.get?_mapValues]
  cases hraw : declared.get? identifier with
  | none => rfl
  | some raw =>
      obtain ⟨body, hbody⟩ := hobjects identifier raw hraw
      simp [hbody]

/-- What the processor knows of an accepted event or service. -/
theorem parsedOutput_get? (haccepted : AcceptedMap AcceptedOwner declared)
    {known : GoMap PropertyDefinition}
    (hknown : (((bodies declared).mapValues fun _ => parseOutput).get?
      owner).map OutputDefinition.output = some known) (name : String) :
    known.get? name =
      (outputParam declared owner name).map parsePropertyDefinition := by
  rw [GoMap.get?_mapValues, get?_bodies haccepted.objects] at hknown
  rw [outputParam]
  cases hbody : (declared.get? owner).bind Json.object? with
  | none => simp [hbody] at hknown
  | some body =>
      obtain ⟨output, houtput, hparams⟩ := haccepted.accepted owner body hbody
      have hobject : outputObject body = output := by
        rw [outputObject, houtput, Option.getD_some]
      simp only [hbody, Option.map_some, Option.some.injEq] at hknown
      subst hknown
      rw [Option.bind_some, parseOutput, hobject, GoMap.get?_mapValues,
        get?_bodies hparams.objects]

end Parsed

section Enforcement

variable {declared : GoMap Json} {owner : String} {sentinel : Sentinel}
  {report : GoMap Json} {validated : Validated}

/-- A validator that only filters enforces what the report itself names. -/
theorem enforcesRequired_iff_names
    (haccepted : AcceptedMap AcceptedOwner declared)
    {needsKnown : GoMap PropertyDefinition → Prop} {absent nothing : Failure}
    (hjudged : Judged
      ((((bodies declared).mapValues fun _ => parseOutput).get? owner).map
        OutputDefinition.output)
      needsKnown sentinel absent nothing report (.ok validated)) :
    EnforcesRequired declared owner sentinel validated ↔
      NamesRequired declared owner report := by
  cases hjudged with
  | @kept known _ hknown hvalid _ hsplit =>
      have hget := parsedOutput_get? haccepted hknown
      constructor
      · intro henforces name hrequired
        obtain ⟨param, value, -, hvalue, -⟩ := henforces name hrequired
        rw [((hsplit.accepted name value).mp hvalue).1]
        rfl
      · intro hnames name hrequired
        obtain ⟨param, hparam, -⟩ := id hrequired
        obtain ⟨value, hvalue⟩ :=
          Option.isSome_iff_exists.mp (hnames name hrequired)
        have hdefined : known.get? name =
            some (parsePropertyDefinition param) := by
          rw [hget name, hparam, Option.map_some]
        refine ⟨param, value, hparam, ?_, hvalid name value _ hvalue hdefined⟩
        exact (hsplit.accepted name value).mpr ⟨hvalue, by rw [hdefined]; rfl⟩

end Enforcement

section Validators

variable {out : Surroundings} {world : World} {tenantID productID : String}
  {kind : ThingsModel.Section} {definition : Definition}

/-- A validator that succeeds has judged by the definition its lookup yields. -/
theorem verdict_of_validateWith {refused : Option Failure}
    {verdict : Definition → Except Failure Validated} {validated : Validated}
    (hlookup : (lookup out world kind tenantID productID).outcome =
      .ok definition)
    (hok : (validateWith out world kind refused tenantID productID
      verdict).outcome = .ok validated) :
    verdict definition = .ok validated := by
  obtain ⟨-, -, -, used, huse, hverdict⟩ := outcome_validateWith_eq_ok.mp hok
  obtain ⟨-, hfound⟩ := outcome_lookup_eq_ok.mp hlookup
  rw [huse] at hfound
  cases hfound
  exact hverdict

variable {properties events services : ThingsModelObject}

/-- A report or acknowledgement that is accepted has its required parameters
exactly when it names them all. -/
theorem required_outputs_iff (out : Surroundings) (world : World)
    (tenantID productID : String) {modelTenantID modelProductID : String}
    (haccepted : validateThingsModelDefinition properties.entries events.entries
      services.entries = .ok ())
    (hparse : parseDefinition modelTenantID modelProductID
      (marshalThingsModelObjects properties events services).1
      (marshalThingsModelObjects properties events services).2.1
      (marshalThingsModelObjects properties events services).2.2 =
        .ok definition) :
    (∀ eventName params validated,
      (lookup out world .events (trimSpace tenantID)
        (trimSpace productID)).outcome = .ok definition →
      (validateEventReport out world tenantID productID eventName
        params).outcome = .ok validated →
      (EnforcesRequired events.entries (trimSpace eventName) .invalidEventValue
          validated ↔
        NamesRequired events.entries (trimSpace eventName) params)) ∧
    (∀ serviceName output validated,
      (lookup out world .services (trimSpace tenantID)
        (trimSpace productID)).outcome = .ok definition →
      (validateServiceCall out world tenantID productID serviceName
        output).outcome = .ok validated →
      (EnforcesRequired services.entries (trimSpace serviceName)
          .invalidServiceOutput validated ↔
        NamesRequired services.entries (trimSpace serviceName) output)) := by
  obtain ⟨-, hevents, hservices⟩ :=
    validateThingsModelDefinition_accepted haccepted
  rw [parseDefinition_accepted _ _ haccepted] at hparse
  cases hparse
  constructor
  · intro eventName params validated hlookup hok
    apply enforcesRequired_iff_names hevents
    have hverdict := verdict_of_validateWith hlookup hok
    have hjudged := eventVerdict_judged (trimSpace eventName)
      (parsedModel modelTenantID modelProductID properties.entries
        events.entries services.entries) params
    rw [hverdict] at hjudged
    exact hjudged
  · intro serviceName output validated hlookup hok
    apply enforcesRequired_iff_names hservices
    have hverdict := verdict_of_validateWith hlookup hok
    have hjudged := serviceVerdict_judged (trimSpace serviceName)
      (parsedModel modelTenantID modelProductID properties.entries
        events.entries services.entries) output
    rw [hverdict] at hjudged
    exact hjudged

theorem ok_of_isSome {verdict : Except Failure Validated}
    (hsome : verdict.toOption.isSome = true) :
    ∃ validated, verdict = .ok validated := by
  cases verdict with
  | error err => cases hsome
  | ok validated => exact ⟨validated, rfl⟩

/-- One required parameter of the event, and one of the service. -/
def alarmEvents : GoMap Json :=
  GoMap.ofMembers
    [("alarm", .obj
      [("name", .str "Alarm"), ("level", .str "warning"), ("output", .obj
        [("code", .obj [("name", .str "Code"), ("data_type", .str "int"),
            ("required", .bool true)]),
          ("note", .obj [("name", .str "Note"), ("data_type", .str "string"),
            ("required", .bool false)])])])]

def rebootServices : GoMap Json :=
  GoMap.ofMembers
    [("reboot", .obj
      [("name", .str "Reboot"), ("call_type", .str "sync"), ("input", .obj []),
        ("output", .obj
          [("accepted", .obj [("name", .str "Accepted"),
            ("data_type", .str "bool"), ("required", .bool true)])])])]

theorem alarm_accepted :
    validateThingsModelDefinition (ThingsModelObject.entries none)
      (ThingsModelObject.entries (some alarmEvents))
      (ThingsModelObject.entries (some rebootServices)) = .ok () := by
  decide +kernel

/-- The world whose products have this thing model. -/
def alarmWorld : World :=
  { sampleWorld with
    models := fun _ _ => some ⟨.null, .ofMap alarmEvents,
        .ofMap rebootServices⟩ }

/-- What the processor reads of it for the sample's product. -/
def alarmDefinition : Definition :=
  parsedModel (trimSpace (Uuid.text 1)) (trimSpace (Uuid.text 2)) GoMap.empty
    alarmEvents rebootServices

theorem alarm_lookup (kind : ThingsModel.Section) :
    (lookup calm alarmWorld kind (trimSpace (Uuid.text 1))
      (trimSpace (Uuid.text 2))).outcome = .ok alarmDefinition := by
  refine outcome_lookup_eq_ok.mpr ⟨Or.inr ⟨rfl, rfl⟩, ?_⟩
  have htenant : Uuid.ofText? (trimSpace (Uuid.text 1)) = some 1 := by
    decide +kernel
  have hproduct : Uuid.ofText? (trimSpace (Uuid.text 2)) = some 2 := by
    decide +kernel
  have hparse := parseDefinition_accepted (trimSpace (Uuid.text 1))
    (trimSpace (Uuid.text 2)) alarm_accepted
  have hcurrent : currentDefinition alarmWorld (trimSpace (Uuid.text 1))
      (trimSpace (Uuid.text 2)) = some alarmDefinition := by
    rw [currentDefinition]
    rw [htenant, hproduct]
    exact congrArg Except.toOption hparse
  exact hcurrent

/-- A report of the event with the given parameters. -/
def alarmReport (params : GoMap Json) : Except Failure Validated :=
  (validateEventReport calm alarmWorld (Uuid.text 1) (Uuid.text 2) "alarm"
    params).outcome

def rebootAcknowledgement (output : GoMap Json) : Except Failure Validated :=
  (validateServiceCall calm alarmWorld (Uuid.text 1) (Uuid.text 2) "reboot"
    output).outcome

theorem trimSpace_names :
    trimSpace "alarm" = "alarm" ∧ trimSpace "reboot" = "reboot" := by
  decide +kernel

theorem alarmReport_eq (params : GoMap Json) :
    alarmReport params = eventVerdict "alarm" params alarmDefinition := by
  have hname : trimSpace "alarm" ≠ "" := by
    rw [trimSpace_names.1]
    decide
  rw [alarmReport, outcome_validateEventReport rfl sample_ids.1 sample_ids.2
    hname (alarm_lookup .events), trimSpace_names.1]

theorem rebootAcknowledgement_eq (output : GoMap Json) :
    rebootAcknowledgement output =
      serviceVerdict "reboot" output alarmDefinition := by
  have hname : trimSpace "reboot" ≠ "" := by
    rw [trimSpace_names.2]
    decide
  rw [rebootAcknowledgement, outcome_validateServiceCall rfl sample_ids.1
    sample_ids.2 hname (alarm_lookup .services), trimSpace_names.2]

/-- The full report and the full acknowledgement are accepted, and enforced. -/
theorem required_outputs_named :
    (∃ validated, alarmReport
        (GoMap.ofMembers [("code", .num 7 true)]) = .ok validated ∧
      (EnforcesRequired alarmEvents "alarm" .invalidEventValue validated ↔
        NamesRequired alarmEvents "alarm"
          (GoMap.ofMembers [("code", .num 7 true)]))) ∧
    ∃ validated, rebootAcknowledgement
        (GoMap.ofMembers [("accepted", .bool true)]) = .ok validated ∧
      (EnforcesRequired rebootServices "reboot"
        .invalidServiceOutput validated ↔
        NamesRequired rebootServices "reboot"
          (GoMap.ofMembers [("accepted", .bool true)])) := by
  obtain ⟨hevent, hservice⟩ := required_outputs_iff calm alarmWorld
    (Uuid.text 1) (Uuid.text 2) alarm_accepted
    (parseDefinition_accepted _ _ alarm_accepted)
  have hreported : (eventVerdict "alarm"
      (GoMap.ofMembers [("code", .num 7 true)])
      alarmDefinition).toOption.isSome =
        true := by decide +kernel
  have hacknowledged : (serviceVerdict "reboot"
      (GoMap.ofMembers [("accepted", .bool true)])
        alarmDefinition).toOption.isSome = true := by decide +kernel
  obtain ⟨report, hreport⟩ := ok_of_isSome hreported
  obtain ⟨output, houtput⟩ := ok_of_isSome hacknowledged
  rw [← alarmReport_eq] at hreport
  rw [← rebootAcknowledgement_eq] at houtput
  have hfirst := hevent "alarm" _ report (alarm_lookup .events) hreport
  have hsecond := hservice "reboot" _ output (alarm_lookup .services) houtput
  rw [trimSpace_names.1] at hfirst
  rw [trimSpace_names.2] at hsecond
  exact ⟨⟨report, hreport, hfirst⟩, ⟨output, houtput, hsecond⟩⟩

/-- A report without the event's code is accepted, and an acknowledgement
without the service's answer. -/
theorem required_outputs_left_out :
    validateThingsModelDefinition (ThingsModelObject.entries none)
        (ThingsModelObject.entries (some alarmEvents))
        (ThingsModelObject.entries (some rebootServices)) = .ok () ∧
    (∃ validated, alarmReport
        (GoMap.ofMembers [("note", .str "door open")]) = .ok validated ∧
      ¬ EnforcesRequired alarmEvents "alarm" .invalidEventValue validated) ∧
    ∃ validated, rebootAcknowledgement GoMap.empty = .ok validated ∧
      ¬ EnforcesRequired rebootServices "reboot" .invalidServiceOutput
        validated := by
  refine ⟨alarm_accepted, ?_, ?_⟩
  · have hreported : (eventVerdict "alarm"
        (GoMap.ofMembers [("note", .str "door open")])
          alarmDefinition).toOption.isSome = true := by decide +kernel
    obtain ⟨validated, hverdict⟩ := ok_of_isSome hreported
    refine ⟨validated, (alarmReport_eq _).trans hverdict, ?_⟩
    intro henforces
    obtain ⟨_, value, -, hvalue, -⟩ := henforces "code" ⟨_, rfl, rfl⟩
    have hjudged := eventVerdict_judged "alarm" alarmDefinition
      (GoMap.ofMembers [("note", .str "door open")])
    rw [hverdict] at hjudged
    obtain ⟨known, -, hsplit⟩ := hjudged.partitions
    cases ((hsplit.accepted "code" value).mp hvalue).1
  · refine ⟨_, rebootAcknowledgement_eq _, ?_⟩
    intro henforces
    obtain ⟨_, value, -, hvalue, -⟩ := henforces "accepted" ⟨_, rfl, rfl⟩
    cases hvalue

end Validators

end Processor

end LinkFlow
