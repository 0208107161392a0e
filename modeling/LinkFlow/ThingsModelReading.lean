/-
The processor's reading of the thing models that the backend has accepted and
stored.  Everything declared is read back, save that a precision goes through
Go's `int`.
-/
import LinkFlow.ValueAgreement

namespace LinkFlow

namespace ThingsModel

section Storage

/-- A map of the backend; it may be nil. -/
abbrev ThingsModelObject := Option (GoMap Json)

/-- What a range over the map visits. -/
def ThingsModelObject.entries (object : ThingsModelObject) : GoMap Json :=
  object.getD GoMap.empty

/-- `json.Marshal` of a map. -/
def marshalObject : ThingsModelObject → Json
  | none => .null
  | some object => .obj object.entries

/-- The three columns of a stored thing model. -/
def marshalThingsModelObjects (properties events services : ThingsModelObject) :
    Json × Json × Json :=
  (marshalObject properties, marshalObject events, marshalObject services)

/-- Every entry of a map is an object. -/
def AllObjects (declared : GoMap Json) : Prop :=
  ∀ identifier raw, declared.get? identifier = some raw →
    ∃ body, raw.object? = some body

/-- The bodies of a map whose entries are objects. -/
def bodies (declared : GoMap Json) : GoMap (GoMap Json) :=
  declared.mapValues fun _ raw => raw.object?.getD GoMap.empty

theorem decodeBodies_marshalObject {object : ThingsModelObject}
    (hobjects : AllObjects object.entries) :
    decodeBodies (marshalObject object) = some (bodies object.entries) := by
  cases object with
  | none => rfl
  | some object =>
      have hobjects : AllObjects object := hobjects
      rw [marshalObject, decodeBodies]
      refine (if_pos ?_).trans ?_
      · rw [List.all_eq_true]
        rintro ⟨identifier, raw⟩ hmem
        obtain ⟨body, hbody⟩ :=
          hobjects identifier raw ((GoMap.mem_entries_iff _).mp hmem)
        cases raw with
        | obj members => rfl
        | _ => cases hbody
      · rw [GoMap.ofMembers_entries]
        rfl

end Storage

section Reading

/-- A number is read exactly where its key is declared, and as declared. -/
structure ReadsNumber (spec : GoMap Json) (key : String) (read : Option ℚ) :
    Prop where
  present : read.isSome = true ↔ (spec.get? key).isSome = true
  value : ∀ number ∈ read, (spec.get? key).bind Json.number? = some number

/-- A parameter is read as its body declares it. -/
structure PropertyDefinition.Reads (parsed : PropertyDefinition)
    (body : GoMap Json) : Prop where
  dataType : ∃ text, body.get? "data_type" = some (.str text) ∧
    parsed.dataType = trimSpace text
  required : body.get? "required" = some (.bool parsed.required)
  min : ReadsNumber (specObject body) "min" parsed.min
  max : ReadsNumber (specObject body) "max" parsed.max
  step : ReadsNumber (specObject body) "step" parsed.step
  precision : ReadsNumber (specObject body) "precision"
    (parsed.precision.map fun precision => (precision : ℚ))

/-- The identifiers of a map are the declared ones, and each of its values is
read from the declared body. -/
structure ReadsMap {α : Type} (reads : α → GoMap Json → Prop) (read : GoMap α)
    (declared : GoMap Json) : Prop where
  identifiers : ∀ identifier, (read.get? identifier).isSome = true ↔
    (declared.get? identifier).isSome = true
  value : ∀ identifier value, read.get? identifier = some value →
    ∃ body, (declared.get? identifier).bind Json.object? = some body ∧
      reads value body

/-- The output parameters of an event or a service. -/
def OutputDefinition.Reads (parsed : OutputDefinition) (body : GoMap Json) :
    Prop :=
  ∃ output, (body.get? "output").bind Json.object? = some output ∧
    ReadsMap PropertyDefinition.Reads parsed.output output

structure Definition.Reads (parsed : Definition)
    (properties events services : GoMap Json) : Prop where
  properties : ReadsMap PropertyDefinition.Reads parsed.properties properties
  events : ReadsMap OutputDefinition.Reads parsed.events events
  services : ReadsMap OutputDefinition.Reads parsed.services services

/-- The bodies of the parameters that a thing model declares, those of the
services' input apart, which the processor does not read. -/
def parameters (properties events services : GoMap Json) : Set (GoMap Json) :=
  { body | (∃ identifier,
      (properties.get? identifier).bind Json.object? = some body) ∨
    ∃ identifier owner output param,
      ((events.get? identifier).bind Json.object? = some owner ∨
        (services.get? identifier).bind Json.object? = some owner) ∧
      (owner.get? "output").bind Json.object? = some output ∧
      (output.get? param).bind Json.object? = some body }

/-- A declared precision fits Go's `int`. -/
def PrecisionFits (body : GoMap Json) : Prop :=
  ∀ precision, numberField (specObject body) "precision" = some precision →
    precision < 2 ^ 63

end Reading

section Parameters

theorem readsNumber_of_optionalNumber {spec : GoMap Json} {key : String}
    {number : Option ℚ} (hnumber : optionalNumber spec key = .ok number) :
    ReadsNumber spec key number := by
  rw [optionalNumber] at hnumber
  split at hnumber
  next hnone =>
    cases hnumber
    exact ⟨by simp [hnone], by simp⟩
  next hsome =>
    cases hnumber
    exact ⟨by simp [hsome], by simp [hsome, Json.number?]⟩
  next => cases hnumber

theorem string_of_optionalString {body : GoMap Json} {key : String}
    (hne : optionalString body key ≠ "") :
    ∃ text, body.get? key = some (.str text) ∧
      optionalString body key = trimSpace text := by
  rw [optionalString] at hne ⊢
  cases hraw : body.get? key with
  | none => simp [hraw] at hne
  | some raw =>
      cases raw with
      | str text => exact ⟨text, rfl, rfl⟩
      | _ => simp [hraw, Json.string?] at hne

theorem bool_of_bind {body : GoMap Json} {key : String}
    (hbool : ((body.get? key).bind Json.bool?).isNone = false) :
    body.get? key =
      some (.bool (((body.get? key).bind Json.bool?).getD false)) := by
  cases hraw : body.get? key with
  | none => simp [hraw] at hbool
  | some raw =>
      cases raw with
      | bool value => rfl
      | _ => simp [hraw, Json.bool?] at hbool

theorem required_of_accepted {body : GoMap Json} {requireAccessMode : Bool}
    (haccepted : validateThingModelParamDefinition body requireAccessMode =
      .ok ()) :
    ((body.get? "required").bind Json.bool?).isNone = false := by
  rw [validateThingModelParamDefinition] at haccepted
  split at haccepted
  · cases haccepted
  split at haccepted
  · cases haccepted
  · rw [ite_error_eq_ok_iff] at haccepted
    exact haccepted.1

/-- An accepted parameter is read as declared exactly when its precision
fits. -/
theorem parsePropertyDefinition_reads_iff {body : GoMap Json}
    {requireAccessMode : Bool}
    (haccepted : validateThingModelParamDefinition body requireAccessMode =
      .ok ()) :
    (parsePropertyDefinition body).Reads body ↔ PrecisionFits body := by
  obtain ⟨⟨dataType, hdataType⟩, numbers, hnumbers⟩ := acceptedNumbers haccepted
  obtain ⟨hmin, hmax, hstep, hprecision⟩ :=
    specNumbers_eq_ok_iff.mp hnumbers.read
  obtain ⟨hreadMin, hreadMax, hreadStep, hreadPrecision⟩ := hnumbers.parsed
  have hfield := numberField_of_optionalNumber hprecision
  have hdeclared := readsNumber_of_optionalNumber hprecision
  have hne : optionalString body "data_type" ≠ "" := by
    intro hempty
    rw [hempty] at hdataType
    cases hdataType
  have hexact : ∀ precision ∈ numbers.precision,
      ((GoMath.toInt precision : ℚ) = precision ↔ precision < 2 ^ 63) := by
    intro precision hmem
    have hinteger := hasFraction_eq_false_iff.mp
      (hnumbers.precision_integer precision hmem)
    rw [GoMath.toInt_eq_self_iff (hnumbers.precision_nonneg precision hmem),
      and_iff_right hinteger]
  constructor
  · intro hreads precision hdecl
    rw [hfield] at hdecl
    have hread : (GoMath.toInt precision : ℚ) ∈
        (parsePropertyDefinition body).precision.map
          fun precision => (precision : ℚ) := by
      rw [hreadPrecision, hdecl]
      rfl
    have hvalue := hreads.precision.value _ hread
    have hsame := hdeclared.value precision hdecl
    rw [hsame] at hvalue
    exact (hexact precision hdecl).mp (Option.some.inj hvalue).symm
  · intro hfits
    have hkept : (parsePropertyDefinition body).precision.map
        (fun precision => (precision : ℚ)) = numbers.precision := by
      rw [hreadPrecision]
      cases hdecl : numbers.precision with
      | none => rfl
      | some precision =>
          have hlt := hfits precision (hfield.trans hdecl)
          exact congrArg some ((hexact precision hdecl).mpr hlt)
    exact
      { dataType := string_of_optionalString hne
        required := bool_of_bind (required_of_accepted haccepted)
        min := hreadMin ▸ readsNumber_of_optionalNumber hmin
        max := hreadMax ▸ readsNumber_of_optionalNumber hmax
        step := hreadStep ▸ readsNumber_of_optionalNumber hstep
        precision := hkept ▸ hdeclared }

end Parameters

section Maps

variable {α : Type} {reads : α → GoMap Json → Prop} {parse : GoMap Json → α}

theorem readsMap_iff {declared : GoMap Json} (hobjects : AllObjects declared) :
    ReadsMap reads ((bodies declared).mapValues fun _ => parse) declared ↔
      ∀ identifier body,
        (declared.get? identifier).bind Json.object? = some body →
          reads (parse body) body := by
  have hget : ∀ identifier,
      ((bodies declared).mapValues fun _ => parse).get? identifier =
        (declared.get? identifier).map fun raw =>
          parse (raw.object?.getD GoMap.empty) := by
    intro identifier
    rw [GoMap.get?_mapValues, bodies, GoMap.get?_mapValues, Option.map_map]
    rfl
  constructor
  · intro hreads identifier body hbody
    obtain ⟨raw, hraw, hobject⟩ := Option.bind_eq_some_iff.mp hbody
    have hvalue : ((bodies declared).mapValues fun _ => parse).get? identifier =
        some (parse body) := by
      rw [hget, hraw, Option.map_some, hobject, Option.getD_some]
    obtain ⟨found, hfound, hread⟩ := hreads.value identifier _ hvalue
    rw [hbody] at hfound
    cases hfound
    exact hread
  · intro hall
    refine ⟨fun identifier => by rw [hget, Option.isSome_map], ?_⟩
    intro identifier value hvalue
    rw [hget] at hvalue
    obtain ⟨raw, hraw, rfl⟩ := Option.map_eq_some_iff.mp hvalue
    obtain ⟨body, hobject⟩ := hobjects identifier raw hraw
    have hbody : (declared.get? identifier).bind Json.object? = some body := by
      rw [hraw, Option.bind_some, hobject]
    refine ⟨body, hbody, ?_⟩
    rw [hobject, Option.getD_some]
    exact hall identifier body hbody

end Maps

section Acceptance

theorem within_eq_ok_iff {place : String} {result : Except String Unit} :
    within place result = .ok () ↔ result = .ok () := by
  rw [within]
  cases result <;> simp [Except.mapError]

/-- Every parameter of a map is an object that was checked. -/
structure AcceptedMap (accepts : GoMap Json → Prop) (declared : GoMap Json) :
    Prop where
  objects : AllObjects declared
  accepted : ∀ identifier body,
    (declared.get? identifier).bind Json.object? = some body → accepts body

/-- The checks are one loop: a test of the identifier, a test that the value is
an object, and a check of the object. -/
theorem range_check_iff {declared : GoMap Json}
    {valid : String → Bool} {invalid notObject : String}
    {check : String → GoMap Json → Except String Unit} :
    (declared.range fun identifier raw =>
      if !valid identifier then .error invalid
      else
        match raw.object? with
        | none => .error notObject
        | some body => check identifier body) = .ok () ↔
      ∀ identifier raw, declared.get? identifier = some raw →
        valid identifier = true ∧
          ∃ body, raw.object? = some body ∧ check identifier body = .ok () := by
  rw [GoMap.range_eq_ok_iff]
  apply forall₃_congr
  intro identifier raw _
  rw [ite_error_eq_ok_iff, Bool.not_eq_false']
  apply and_congr Iff.rfl
  cases raw.object? with
  | none => simp
  | some body => simp

theorem acceptedMap_of_range {declared : GoMap Json}
    {valid : String → Bool} {invalid notObject : String}
    {check : String → GoMap Json → Except String Unit}
    (hok : (declared.range fun identifier raw =>
      if !valid identifier then .error invalid
      else
        match raw.object? with
        | none => .error notObject
        | some body => check identifier body) = .ok ()) :
    AcceptedMap (fun body => ∃ identifier, check identifier body = .ok ())
      declared := by
  rw [range_check_iff] at hok
  constructor
  · intro identifier raw hraw
    obtain ⟨-, body, hobject, -⟩ := hok identifier raw hraw
    exact ⟨body, hobject⟩
  · intro identifier body hbody
    obtain ⟨raw, hraw, hobject⟩ := Option.bind_eq_some_iff.mp hbody
    obtain ⟨-, checked, hchecked, hcheck⟩ := hok identifier raw hraw
    cases hobject.symm.trans hchecked
    exact ⟨identifier, hcheck⟩

theorem AcceptedMap.mono {first second : GoMap Json → Prop}
    {declared : GoMap Json} (haccepted : AcceptedMap first declared)
    (himp : ∀ body, first body → second body) : AcceptedMap second declared :=
  ⟨haccepted.objects, fun identifier body hbody =>
    himp body (haccepted.accepted identifier body hbody)⟩

/-- A parameter that one of the two kinds of check accepts. -/
def AcceptedParameter (body : GoMap Json) : Prop :=
  ∃ requireAccessMode,
    validateThingModelParamDefinition body requireAccessMode = .ok ()

/-- An event or a service with an output of accepted parameters. -/
def AcceptedOwner (owner : GoMap Json) : Prop :=
  ∃ output, (owner.get? "output").bind Json.object? = some output ∧
    AcceptedMap AcceptedParameter output

theorem validateThingModelParamMap_accepted {params : GoMap Json}
    (hok : validateThingModelParamMap params = .ok ()) :
    AcceptedMap AcceptedParameter params := by
  apply (acceptedMap_of_range hok).mono
  rintro body ⟨identifier, hcheck⟩
  exact ⟨false, within_eq_ok_iff.mp hcheck⟩

theorem validateThingsModelProperties_accepted {properties : GoMap Json}
    (hok : validateThingsModelProperties properties = .ok ()) :
    AcceptedMap AcceptedParameter properties := by
  apply (acceptedMap_of_range hok).mono
  rintro body ⟨identifier, hcheck⟩
  exact ⟨true, within_eq_ok_iff.mp hcheck⟩

theorem validateThingsModelEvents_accepted {events : GoMap Json}
    (hok : validateThingsModelEvents events = .ok ()) :
    AcceptedMap AcceptedOwner events := by
  apply (acceptedMap_of_range hok).mono
  rintro body ⟨identifier, hcheck⟩
  simp only [ite_error_eq_ok_iff] at hcheck
  obtain ⟨-, -, -, hcheck⟩ := hcheck
  cases houtput : (body.get? "output").bind Json.object? with
  | none =>
      rw [houtput] at hcheck
      cases hcheck
  | some output =>
      rw [houtput] at hcheck
      exact ⟨output, houtput,
        validateThingModelParamMap_accepted (within_eq_ok_iff.mp hcheck)⟩

theorem validateThingsModelServices_accepted {services : GoMap Json}
    (hok : validateThingsModelServices services = .ok ()) :
    AcceptedMap AcceptedOwner services := by
  apply (acceptedMap_of_range hok).mono
  rintro body ⟨identifier, hcheck⟩
  simp only [ite_error_eq_ok_iff] at hcheck
  obtain ⟨-, -, -, hcheck⟩ := hcheck
  split at hcheck
  · cases hcheck
  · cases hcheck
  next input output hinput houtput =>
    split at hcheck
    · cases hcheck
    · exact ⟨output, houtput,
        validateThingModelParamMap_accepted (within_eq_ok_iff.mp hcheck)⟩

/-- An accepted definition has passed the checks of its three sections. -/
theorem validateThingsModelDefinition_eq_ok_iff
    {properties events services : GoMap Json} :
    validateThingsModelDefinition properties events services = .ok () ↔
      validateThingsModelProperties properties = .ok () ∧
        validateThingsModelEvents events = .ok () ∧
        validateThingsModelServices services = .ok () := by
  rw [validateThingsModelDefinition]
  cases validateThingsModelProperties properties with
  | error err => simp [bind, Except.bind]
  | ok _ =>
      cases validateThingsModelEvents events <;> simp [bind, Except.bind]

theorem validateThingsModelDefinition_accepted
    {properties events services : GoMap Json}
    (hok : validateThingsModelDefinition properties events services = .ok ()) :
    AcceptedMap AcceptedParameter properties ∧
      AcceptedMap AcceptedOwner events ∧
      AcceptedMap AcceptedOwner services := by
  obtain ⟨hproperties, hevents, hservices⟩ :=
    validateThingsModelDefinition_eq_ok_iff.mp hok
  exact ⟨validateThingsModelProperties_accepted hproperties,
    validateThingsModelEvents_accepted hevents,
    validateThingsModelServices_accepted hservices⟩

end Acceptance

section Definitions

/-- The declared output of an event or a service, empty where it is none. -/
def outputObject (owner : GoMap Json) : GoMap Json :=
  ((owner.get? "output").bind Json.object?).getD GoMap.empty

def parseOutput (owner : GoMap Json) : OutputDefinition :=
  ⟨(bodies (outputObject owner)).mapValues fun _ => parsePropertyDefinition⟩

theorem mapValues_bodies {α : Type} (parse : GoMap Json → α)
    (declared : GoMap Json) :
    (bodies declared).mapValues (fun _ => parse) =
      declared.mapValues fun _ raw => parse (raw.object?.getD GoMap.empty) := by
  simp [bodies, GoMap.mapValues, List.map_map, Function.comp_def]

theorem parseOutputDefinitions_accepted {object : ThingsModelObject}
    (haccepted : AcceptedMap AcceptedOwner object.entries) (kind : Section) :
    parseOutputDefinitions kind (marshalObject object) =
      .ok ((bodies object.entries).mapValues fun _ => parseOutput) := by
  have hobjects : ∀ identifier owner paramName param,
      (bodies object.entries).get? identifier = some owner →
        (outputObject owner).get? paramName = some param →
          ∃ paramMap, param.object? = some paramMap := by
    intro identifier owner paramName param howner hparam
    rw [bodies, GoMap.get?_mapValues] at howner
    obtain ⟨raw, hraw, rfl⟩ := Option.map_eq_some_iff.mp howner
    obtain ⟨body, hobject⟩ := haccepted.objects identifier raw hraw
    have hbody : (object.entries.get? identifier).bind Json.object? =
        some body := by
      rw [hraw, Option.bind_some, hobject]
    obtain ⟨output, houtput, hparams⟩ :=
      haccepted.accepted identifier body hbody
    rw [hobject, Option.getD_some, outputObject, houtput,
      Option.getD_some] at hparam
    exact hparams.objects paramName param hparam
  rw [parseOutputDefinitions]
  rw [decodeBodies_marshalObject haccepted.objects]
  simp only [parseOutput, mapValues_bodies]
  split
  next err herr =>
    obtain ⟨identifier, owner, howner, herr⟩ := GoMap.range_eq_error herr
    obtain ⟨paramName, param, hparam, herr⟩ := GoMap.range_eq_error herr
    obtain ⟨paramMap, hparamMap⟩ :=
      hobjects identifier owner paramName param howner hparam
    rw [hparamMap] at herr
    cases herr
  next => rfl

theorem parseOutput_reads_iff {owner : GoMap Json}
    (haccepted : AcceptedOwner owner) :
    (parseOutput owner).Reads owner ↔ ∀ output param body,
      (owner.get? "output").bind Json.object? = some output →
        (output.get? param).bind Json.object? = some body →
        PrecisionFits body := by
  obtain ⟨declared, hdeclared, hparams⟩ := haccepted
  have hparsed : (parseOutput owner).output =
      (bodies declared).mapValues fun _ => parsePropertyDefinition := by
    rw [parseOutput, outputObject, hdeclared, Option.getD_some]
  have hreads : ReadsMap PropertyDefinition.Reads (parseOutput owner).output
      declared ↔ ∀ param body,
        (declared.get? param).bind Json.object? = some body →
          PrecisionFits body := by
    rw [hparsed, readsMap_iff hparams.objects]
    refine forall₂_congr fun param body => forall_congr' fun hbody => ?_
    obtain ⟨requireAccessMode, hcheck⟩ := hparams.accepted param body hbody
    exact parsePropertyDefinition_reads_iff hcheck
  rw [OutputDefinition.Reads]
  rw [hdeclared]
  simp only [Option.some.injEq, exists_eq_left', hreads]
  constructor
  · rintro hall output param body rfl hbody
    exact hall param body hbody
  · intro hall param body hbody
    exact hall declared param body rfl hbody

/-- What the processor makes of an accepted thing model. -/
def parsedModel (tenantID productID : String)
    (properties events services : GoMap Json) : Definition where
  tenantID := tenantID
  productID := productID
  properties := (bodies properties).mapValues fun _ => parsePropertyDefinition
  events := (bodies events).mapValues fun _ => parseOutput
  services := (bodies services).mapValues fun _ => parseOutput

variable {properties events services : GoMap Json}

theorem parsedModel_reads_iff (tenantID productID : String)
    (hproperties : AcceptedMap AcceptedParameter properties)
    (hevents : AcceptedMap AcceptedOwner events)
    (hservices : AcceptedMap AcceptedOwner services) :
    (parsedModel tenantID productID properties events services).Reads properties
        events services ↔
      ∀ body ∈ parameters properties events services, PrecisionFits body := by
  have hread : (parsedModel tenantID productID properties events services).Reads
      properties events services ↔
      ReadsMap PropertyDefinition.Reads
          ((bodies properties).mapValues fun _ => parsePropertyDefinition)
          properties ∧
        ReadsMap OutputDefinition.Reads
          ((bodies events).mapValues fun _ => parseOutput) events ∧
        ReadsMap OutputDefinition.Reads
          ((bodies services).mapValues fun _ => parseOutput) services :=
    ⟨fun h => ⟨h.properties, h.events, h.services⟩,
      fun h => ⟨h.1, h.2.1, h.2.2⟩⟩
  rw [hread, readsMap_iff hproperties.objects, readsMap_iff hevents.objects,
    readsMap_iff hservices.objects]
  constructor
  · rintro ⟨hprops, hevs, hsvcs⟩ body hbody
    rcases hbody with ⟨identifier, hdeclared⟩ |
      ⟨identifier, owner, output, param, howner, houtput, hdeclared⟩
    · obtain ⟨requireAccessMode, hcheck⟩ :=
        hproperties.accepted identifier body hdeclared
      exact (parsePropertyDefinition_reads_iff hcheck).mp
        (hprops identifier body hdeclared)
    · rcases howner with hevent | hservice
      · exact (parseOutput_reads_iff (hevents.accepted identifier
          owner hevent)).mp (hevs identifier owner hevent) output param body
          houtput hdeclared
      · exact (parseOutput_reads_iff
          (hservices.accepted identifier owner hservice)).mp
          (hsvcs identifier owner hservice) output param body houtput hdeclared
  · intro hfits
    refine ⟨fun identifier body hdeclared => ?_,
      fun identifier owner hevent => ?_, fun identifier owner hservice => ?_⟩
    · obtain ⟨requireAccessMode, hcheck⟩ :=
        hproperties.accepted identifier body hdeclared
      exact (parsePropertyDefinition_reads_iff hcheck).mpr
        (hfits body (Or.inl ⟨identifier, hdeclared⟩))
    · apply (parseOutput_reads_iff
        (hevents.accepted identifier owner hevent)).mpr
      intro output param body houtput hdeclared
      exact hfits body (Or.inr ⟨identifier, owner, output, param, Or.inl hevent,
        houtput, hdeclared⟩)
    · apply (parseOutput_reads_iff
        (hservices.accepted identifier owner hservice)).mpr
      intro output param body houtput hdeclared
      exact hfits body (Or.inr ⟨identifier, owner, output, param,
        Or.inr hservice, houtput, hdeclared⟩)

theorem parseDefinition_accepted (tenantID productID : String)
    {properties events services : ThingsModelObject}
    (haccepted : validateThingsModelDefinition properties.entries events.entries
      services.entries = .ok ()) :
    parseDefinition tenantID productID
        (marshalThingsModelObjects properties events services).1
        (marshalThingsModelObjects properties events services).2.1
        (marshalThingsModelObjects properties events services).2.2 =
      .ok (parsedModel tenantID productID properties.entries events.entries
        services.entries) := by
  obtain ⟨hproperties, hevents, hservices⟩ :=
    validateThingsModelDefinition_accepted haccepted
  rw [parseDefinition, marshalThingsModelObjects]
  rw [decodeBodies_marshalObject hproperties.objects,
    parseOutputDefinitions_accepted hevents,
    parseOutputDefinitions_accepted hservices]
  rfl

/-- Every thing model that the backend accepts is read back without an error,
and as declared exactly when its precisions fit Go's `int`. -/
theorem accepted_model_read_iff (tenantID productID : String)
    {properties events services : ThingsModelObject}
    (haccepted : validateThingsModelDefinition properties.entries events.entries
      services.entries = .ok ()) :
    ∃ parsed, parseDefinition tenantID productID
        (marshalThingsModelObjects properties events services).1
        (marshalThingsModelObjects properties events services).2.1
        (marshalThingsModelObjects properties events services).2.2 =
        .ok parsed ∧
      (parsed.Reads properties.entries events.entries services.entries ↔
        ∀ body ∈ parameters properties.entries events.entries services.entries,
          PrecisionFits body) := by
  obtain ⟨hproperties, hevents, hservices⟩ :=
    validateThingsModelDefinition_accepted haccepted
  exact ⟨_, parseDefinition_accepted tenantID productID haccepted,
    parsedModel_reads_iff tenantID productID hproperties hevents hservices⟩

/-- A float property with a precision. -/
def levelMembers (precision : ℚ) : List (String × Json) :=
  [("name", .str "Level"), ("data_type", .str " float "),
    ("required", .bool true), ("access_mode", .str "read"),
    ("spec", .obj [("min", .num 0 true), ("precision", .num precision true)])]

def level (precision : ℚ) : GoMap Json :=
  GoMap.ofMembers [("level", .obj (levelMembers precision))]

theorem accepted_level_read :
    ∃ parsed, parseDefinition "tenant" "product" (marshalObject (level 2)) .null
        .null = .ok parsed ∧
      parsed.Reads (level 2) GoMap.empty GoMap.empty := by
  have haccepted : validateThingsModelDefinition
      (ThingsModelObject.entries (some (level 2)))
      (ThingsModelObject.entries none) (ThingsModelObject.entries none) =
      .ok () := by decide +kernel
  have hdeclared : numberField (specObject (GoMap.ofMembers (levelMembers 2)))
      "precision" = some 2 := by decide +kernel
  obtain ⟨parsed, hparsed, hreads⟩ :=
    accepted_model_read_iff "tenant" "product" haccepted
  refine ⟨parsed, hparsed, hreads.mpr ?_⟩
  rintro body (⟨identifier, hbody⟩ |
    ⟨identifier, owner, output, param, howner, -⟩)
  · obtain ⟨raw, hraw, hobject⟩ := Option.bind_eq_some_iff.mp hbody
    have hmem := (GoMap.mem_entries_iff _).mpr hraw
    have hentry : (identifier, raw) = ("level", .obj (levelMembers 2)) :=
      List.mem_singleton.mp hmem
    cases hentry
    cases hobject
    intro precision hprecision
    rw [hdeclared] at hprecision
    cases hprecision
    norm_num
  · rcases howner with hevent | hservice
    · cases hevent
    · cases hservice

/-- A precision of 2^63 is accepted and becomes the least `int`. -/
theorem accepted_level_misread :
    validateThingsModelDefinition (level (2 ^ 63)) GoMap.empty GoMap.empty =
        .ok () ∧
      ∃ parsed, parseDefinition "tenant" "product"
          (marshalObject (level (2 ^ 63))) .null .null = .ok parsed ∧
        (parsed.properties.get? "level").map PropertyDefinition.precision =
          some (some (-2 ^ 63)) ∧
        ¬ parsed.Reads (level (2 ^ 63)) GoMap.empty GoMap.empty := by
  refine ⟨by decide +kernel, _, rfl, by decide +kernel, fun hreads => ?_⟩
  obtain ⟨body, hbody, hread⟩ := hreads.properties.value "level" _ rfl
  cases hbody
  have haccepted : validateThingModelParamDefinition
      (GoMap.ofMembers (levelMembers (2 ^ 63))) true = .ok () := by
    decide +kernel
  have hdeclared : numberField
      (specObject (GoMap.ofMembers (levelMembers (2 ^ 63)))) "precision" =
      some (2 ^ 63) := by decide +kernel
  have hfits :=
    (parsePropertyDefinition_reads_iff haccepted).mp hread _ hdeclared
  exact lt_irrefl _ hfits

end Definitions

end ThingsModel

end LinkFlow
