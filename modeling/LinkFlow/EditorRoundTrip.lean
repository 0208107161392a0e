/-
A thing model that is opened in the editor and saved untouched: what the backend
makes of it, and when it is what it was.
-/
import LinkFlow.EditorDefinitions

namespace LinkFlow

namespace Editor

open ThingsModel

section Statement

/-- The sections of a thing model. -/
structure Model where
  properties : GoMap Json
  events : GoMap Json
  services : GoMap Json

/-- The backend accepts the sections. -/
def Model.Accepted (model : Model) : Prop :=
  validateThingsModelDefinition model.properties model.events model.services =
    .ok ()

instance (model : Model) : Decidable model.Accepted :=
  inferInstanceAs (Decidable (_ = Except.ok ()))

/-- The form rows of a model, turned into objects as they are. -/
def Model.save (model : Model) : Except String Model := do
  let properties ← objectFromPropertyRows
    (propertyRowsFromObject model.properties)
  let events ← objectFromEventRows (eventRowsFromObject model.events)
  let services ← objectFromServiceRows (serviceRowsFromObject model.services)
  return ⟨properties, events, services⟩

/-- The numbers of a model are `float64`. -/
structure Model.Floats (model : Model) : Prop where
  properties : Editor.Floats model.properties
  events : Editor.Floats model.events
  services : Editor.Floats model.services

/-- The same identifiers, with bodies that say the same. -/
structure SameMap (same : GoMap Json → GoMap Json → Prop)
    (before after : GoMap Json) : Prop where
  identifiers : ∀ identifier, identifier ∈ after.keys ↔ identifier ∈ before.keys
  bodies : ∀ identifier first second,
    (before.get? identifier).bind Json.object? = some first →
    (after.get? identifier).bind Json.object? = some second → same first second

structure SameEvent (before after : GoMap Json) : Prop where
  level : optionalString after "level" = optionalString before "level"
  desc : optionalString after "desc" = optionalString before "desc"
  output : SameMap SameDefinition (plainObject (before.get? "output"))
    (plainObject (after.get? "output"))

structure SameService (before after : GoMap Json) : Prop where
  callType : optionalString after "call_type" =
      optionalString before "call_type"
  desc : optionalString after "desc" = optionalString before "desc"
  input : SameMap SameDefinition (plainObject (before.get? "input"))
    (plainObject (after.get? "input"))
  output : SameMap SameDefinition (plainObject (before.get? "output"))
    (plainObject (after.get? "output"))

/-- The condition on the bodies of a map. -/
def KeepsMap (keeps : GoMap Json → Prop) (declared : GoMap Json) : Prop :=
  ∀ entry ∈ declared.entries, ∀ body ∈ entry.2.object?, keeps body

instance (keeps : GoMap Json → Prop) [DecidablePred keeps]
    (declared : GoMap Json) :
    Decidable (KeepsMap keeps declared) :=
  inferInstanceAs (Decidable (∀ entry ∈ declared.entries,
    ∀ body ∈ entry.2.object?, _))

def KeepsProperty (body : GoMap Json) : Prop :=
  KeepsDefinition body ∧ accessModes.Keeps body "access_mode"

/-- The editor has no access mode for a parameter. -/
def KeepsParam (body : GoMap Json) : Prop :=
  KeepsDefinition body ∧ optionalString body "access_mode" = ""

/-- Condition on the parameters under a name. -/
def KeepsParams (body : GoMap Json) (key : String) : Prop :=
  KeepsMap KeepsParam (plainObject (body.get? key))

def KeepsEvent (body : GoMap Json) : Prop :=
  (KeepsSome body "name" ∧ eventLevels.Keeps body "level" ∧
    KeepsText body "desc") ∧
    KeepsParams body "output"

def KeepsService (body : GoMap Json) : Prop :=
  (KeepsSome body "name" ∧ callTypes.Keeps body "call_type" ∧
    KeepsText body "desc") ∧
    KeepsParams body "input" ∧ KeepsParams body "output"

/-- Every text of the model comes back as the text it trims to. -/
def Model.Keeps (model : Model) : Prop :=
  KeepsMap KeepsProperty model.properties ∧ KeepsMap KeepsEvent model.events ∧
    KeepsMap KeepsService model.services

instance : DecidablePred KeepsParam := fun _ =>
  inferInstanceAs (Decidable (_ ∧ _))

instance (body : GoMap Json) (key : String) :
    Decidable (KeepsParams body key) :=
  inferInstanceAs (Decidable (KeepsMap _ _))

instance : DecidablePred KeepsProperty := fun _ =>
  inferInstanceAs (Decidable (_ ∧ _))

instance : DecidablePred KeepsEvent := fun _ =>
  inferInstanceAs (Decidable (_ ∧ _))

instance : DecidablePred KeepsService := fun _ =>
  inferInstanceAs (Decidable (_ ∧ _ ∧ _))

instance (model : Model) : Decidable model.Keeps :=
  inferInstanceAs (Decidable (_ ∧ _ ∧ _))

/-- The save throws nothing, and what it gives is accepted and says the same. -/
def Model.Lossless (model : Model) : Prop :=
  ∃ saved, model.save = .ok saved ∧ saved.Accepted ∧
    SameMap SameDefinition model.properties saved.properties ∧
    SameMap SameEvent model.events saved.events ∧
    SameMap SameService model.services saved.services

end Statement

section Maps

/-- What the editor makes of a map of definitions. -/
def rebuiltMap (rebuilt : GoMap Json → GoMap Json) (declared : GoMap Json) :
    GoMap Json :=
  declared.mapValues fun _ value =>
    Json.ofMap (rebuilt (plainObject (some value)))

/-- What the backend checks of a map. -/
def CheckedMap (checked : GoMap Json → Prop) (declared : GoMap Json) : Prop :=
  ∀ identifier raw, declared.get? identifier = some raw →
    validThingsModelIdentifier identifier = true ∧
      ∃ body, raw.object? = some body ∧ checked body

variable {Row : Type} {row : String → Json → Row} {identifier : Row → String}
  {definition : Row → Except String (GoMap Json)}
  {rebuilt : GoMap Json → GoMap Json} {declared : GoMap Json}
  {checked keeps : GoMap Json → Prop} {same : GoMap Json → GoMap Json → Prop}

/-- Rows that throw nothing are assigned one after the other. -/
theorem foldRows_ok {entries : List (String × Json)}
    (hrows : ∀ entry ∈ entries,
      trim (identifier (row entry.1 entry.2)) = entry.1 ∧
      entry.1 ≠ "" ∧ definition (row entry.1 entry.2) =
        .ok (rebuilt (plainObject (some entry.2)))) (result : GoMap Json) :
    (entries.map fun entry => row entry.1 entry.2).foldlM (fun result row =>
      if trim (identifier row) = "" then .ok result
      else (definition row).map fun body =>
        result.set (trim (identifier row)) (Json.ofMap body)) result =
      .ok (result.setAll (entries.map fun entry =>
        (entry.1, Json.ofMap (rebuilt (plainObject (some entry.2)))))) := by
  induction entries generalizing result with
  | nil => rfl
  | cons entry rest ih =>
      obtain ⟨hidentifier, hne, hdefinition⟩ := hrows entry List.mem_cons_self
      rw [List.map_cons, List.foldlM_cons, hidentifier, if_neg hne, hdefinition,
        List.map_cons, GoMap.setAll_cons]
      exact ih (fun other hmem => hrows other (List.mem_cons_of_mem _ hmem)) _

theorem objectFromRows_ok
    (hidentifier : ∀ key value, identifier (row key value) = key)
    (hchecked : CheckedMap checked declared)
    (hdefinition : ∀ key value, declared.get? key = some value →
      checked (plainObject (some value)) →
        definition (row key value) = .ok (rebuilt (plainObject (some value)))) :
    objectFromRows identifier definition (rowsFromObject row declared) =
      .ok (rebuiltMap rebuilt declared) := by
  have hrows : ∀ entry ∈ declared.entries,
      trim (identifier (row entry.1 entry.2)) = entry.1 ∧ entry.1 ≠ "" ∧
        definition (row entry.1 entry.2) =
          .ok (rebuilt (plainObject (some entry.2))) := by
    rintro ⟨key, value⟩ hmem
    have hget := (GoMap.mem_entries_iff _).mp hmem
    obtain ⟨hvalid, body, hobject, hbody⟩ := hchecked key value hget
    obtain ⟨htrim, hne⟩ := trim_identifier hvalid
    have hplain : plainObject (some value) = body := by
      rw [plainObject, Option.bind_some, hobject, Option.getD_some]
    refine ⟨?_, hne, hdefinition key value hget ?_⟩
    · rw [hidentifier, htrim]
    · rwa [hplain]
  have hfold := foldRows_ok hrows GoMap.empty
  rw [objectFromRows, rowsFromObject]
  rw [hfold]
  exact congrArg Except.ok
    (GoMap.ofMembers_entries (rebuiltMap rebuilt declared))

theorem get?_rebuiltMap (key : String) :
    (rebuiltMap rebuilt declared).get? key =
    (declared.get? key).map fun value =>
      Json.ofMap (rebuilt (plainObject (some value))) := by
  rw [rebuiltMap]
  rw [GoMap.get?_mapValues]

theorem body_rebuiltMap {key : String} {body : GoMap Json}
    (hbody : (declared.get? key).bind Json.object? = some body) :
    ((rebuiltMap rebuilt declared).get? key).bind Json.object? =
      some (rebuilt body) := by
  obtain ⟨raw, hraw, hobject⟩ := Option.bind_eq_some_iff.mp hbody
  rw [get?_rebuiltMap, hraw, Option.map_some, Option.bind_some,
    Json.object?_ofMap, plainObject, Option.bind_some, hobject,
    Option.getD_some]

/-- A map comes back accepted and the same exactly when each of its bodies
does. -/
theorem map_kept_iff (hchecked : CheckedMap checked declared)
    (hbody : ∀ body, checked body →
      (checked (rebuilt body) ∧ same body (rebuilt body) ↔ keeps body)) :
    CheckedMap checked (rebuiltMap rebuilt declared) ∧
        SameMap same declared (rebuiltMap rebuilt declared) ↔
      KeepsMap keeps declared := by
  constructor
  · rintro ⟨hafter, hsame⟩ ⟨key, raw⟩ hmem body hobject
    have hraw := (GoMap.mem_entries_iff _).mp hmem
    have hget : (declared.get? key).bind Json.object? = some body := by
      rw [hraw, Option.bind_some]
      exact hobject
    obtain ⟨-, before, hbefore, hcheck⟩ := hchecked key raw hraw
    cases hobject.symm.trans hbefore
    have hrebuilt := @body_rebuiltMap rebuilt declared key body hget
    obtain ⟨saved, hsaved, hsavedObject⟩ := Option.bind_eq_some_iff.mp hrebuilt
    obtain ⟨-, after, hafterObject, hcheckAfter⟩ := hafter key saved hsaved
    cases hsavedObject.symm.trans hafterObject
    exact (hbody body hcheck).mp
      ⟨hcheckAfter, hsame.bodies key body _ hget hrebuilt⟩
  · intro hkeeps
    have hkept : ∀ key raw, declared.get? key = some raw → ∃ body,
        raw.object? = some body ∧ checked (rebuilt body) ∧
        same body (rebuilt body) := by
      intro key raw hraw
      obtain ⟨-, body, hobject, hcheck⟩ := hchecked key raw hraw
      have hmem := (GoMap.mem_entries_iff _).mpr hraw
      exact ⟨body, hobject, (hbody body hcheck).mpr
        (hkeeps _ hmem body hobject)⟩
    refine ⟨?_, ?_, ?_⟩
    · intro key saved hsaved
      rw [get?_rebuiltMap] at hsaved
      obtain ⟨raw, hraw, rfl⟩ := Option.map_eq_some_iff.mp hsaved
      obtain ⟨body, hobject, hcheck, -⟩ := hkept key raw hraw
      refine ⟨(hchecked key raw hraw).1, rebuilt body, ?_, hcheck⟩
      rw [Json.object?_ofMap, plainObject, Option.bind_some, hobject,
        Option.getD_some]
    · intro key
      rw [GoMap.mem_keys_iff, GoMap.mem_keys_iff, get?_rebuiltMap,
        Option.isSome_map]
    · intro key first second hfirst hsecond
      obtain ⟨raw, hraw, hobject⟩ := Option.bind_eq_some_iff.mp hfirst
      obtain ⟨body, hbodyObject, -, hsame⟩ := hkept key raw hraw
      cases hobject.symm.trans hbodyObject
      cases hsecond.symm.trans (body_rebuiltMap hfirst)
      exact hsame

end Maps

section Params

variable {body params properties : GoMap Json}

theorem validateThingModelParamMap_ok_iff :
    validateThingModelParamMap params = .ok () ↔
      CheckedMap (fun body =>
        validateThingModelParamDefinition body false = .ok ())
        params := by
  apply range_check_iff.trans
  simp only [within_eq_ok_iff]
  rfl

theorem validateThingsModelProperties_ok_iff :
    validateThingsModelProperties properties = .ok () ↔
      CheckedMap (fun body =>
        validateThingModelParamDefinition body true = .ok ())
        properties := by
  apply range_check_iff.trans
  simp only [within_eq_ok_iff]
  rfl

theorem objectFromParamRows_ok
    (hok : validateThingModelParamMap params = .ok ())
    (hfloats : Floats params) :
    objectFromParamRows (paramRowsFromObject params) =
      .ok (rebuiltMap rebuiltParam params) := by
  apply objectFromRows_ok (fun _ _ => rfl)
    (validateThingModelParamMap_ok_iff.mp hok)
  intro key value hget hcheck
  have hvalue := floats_plainObject hfloats key
  rw [hget] at hvalue
  exact paramDefinitionFromDraft_ok hcheck hvalue

theorem objectFromPropertyRows_ok
    (hok : validateThingsModelProperties properties = .ok ())
    (hfloats : Floats properties) :
    objectFromPropertyRows (propertyRowsFromObject properties) =
      .ok (rebuiltMap rebuiltProperty properties) := by
  apply objectFromRows_ok (fun _ _ => rfl)
    (validateThingsModelProperties_ok_iff.mp hok)
  intro key value hget hcheck
  have hvalue := floats_plainObject hfloats key
  rw [hget] at hvalue
  rw [propertyDefinitionFromDraft]
  rw [paramDefinitionFromDraft_ok hcheck hvalue]
  rfl

theorem accessMode_rebuiltParam (body : GoMap Json) :
    optionalString (rebuiltParam body) "access_mode" = "" := by
  have habsent : (rebuiltParam body).get? "access_mode" = none := by
    unfold rebuiltParam
    simp only
    split_ifs
    · simp [GoMap.get?_ofMembers, GoMap.lastMember, List.lookup_cons]
    · simp [GoMap.get?_ofMembers, GoMap.lastMember, List.lookup_cons]
  rw [optionalString]
  rw [habsent]
  rfl

theorem accessMode_rebuiltProperty (body : GoMap Json) :
    optionalString (rebuiltProperty body) "access_mode" =
      accessModes.text (accessModeFromUnknown (body.get? "access_mode")) := by
  rw [← trimSpace_text]
  apply optionalString_of_get?
  rw [rebuiltProperty]
  rw [GoMap.get?_set, if_pos rfl]

theorem validPropertyAccessMode_text (mode : PropertyAccessMode) :
    validPropertyAccessMode (accessModes.text mode) = true := by
  cases mode <;> rfl

theorem param_kept_iff
    (hok : validateThingModelParamDefinition body false = .ok ()) :
    validateThingModelParamDefinition (rebuiltParam body) false = .ok () ∧
      SameDefinition body (rebuiltParam body) ↔ KeepsParam body := by
  rw [definition_kept_iff hok (rebuiltParam_rebuilds body) (by simp),
    accessMode_rebuiltParam, KeepsParam, eq_comm (a := "")]

theorem property_kept_iff
    (hok : validateThingModelParamDefinition body true = .ok ()) :
    validateThingModelParamDefinition (rebuiltProperty body) true = .ok () ∧
      SameDefinition body (rebuiltProperty body) ↔ KeepsProperty body := by
  have hmode := (validateThingModelParamDefinition_ok_iff.mp hok).accessMode rfl
  have hne : optionalString body "access_mode" ≠ "" := by
    intro hempty
    rw [hempty] at hmode
    cases hmode
  rw [definition_kept_iff hok (rebuiltProperty_rebuilds body),
    accessMode_rebuiltProperty, KeepsProperty]
  · exact and_congr Iff.rfl (accessModes.text_fromUnknown_iff hne)
  · intro _
    rw [accessMode_rebuiltProperty]
    exact validPropertyAccessMode_text _

end Params

section Owners

variable {body events services : GoMap Json} {key : String}

/-- A map of parameters that the backend has checked. -/
def CheckedParams (body : GoMap Json) (key : String) : Prop :=
  ((body.get? key).bind Json.object?).isSome = true ∧
    validateThingModelParamMap (plainObject (body.get? key)) = .ok ()

/-- What the backend checks of an event. -/
structure CheckedEvent (body : GoMap Json) : Prop where
  name : requiredString body "name" = true
  level : validEventLevel (optionalString body "level") = true
  desc : validDesc body = true
  output : CheckedParams body "output"

/-- What the backend checks of a service. -/
structure CheckedService (body : GoMap Json) : Prop where
  name : requiredString body "name" = true
  callType : validServiceCallType (optionalString body "call_type") = true
  desc : validDesc body = true
  input : CheckedParams body "input"
  output : CheckedParams body "output"

/-- What the editor makes of the parameters of an event or a service. -/
def rebuiltParams (body : GoMap Json) (key : String) : Json :=
  Json.ofMap (rebuiltMap rebuiltParam (plainObject (body.get? key)))

def rebuiltEvent (body : GoMap Json) : GoMap Json :=
  GoMap.ofMembers [("name", .str (trim (stringFromUnknown (body.get? "name")))),
    ("level", .str (eventLevels.text
      (eventLevelFromUnknown (body.get? "level")))),
    ("desc", .str (trim (stringFromUnknown (body.get? "desc")))),
    ("output", rebuiltParams body "output")]

def rebuiltService (body : GoMap Json) : GoMap Json :=
  GoMap.ofMembers [("name", .str (trim (stringFromUnknown (body.get? "name")))),
    ("call_type", .str (callTypes.text
      (callTypeFromUnknown (body.get? "call_type")))),
    ("desc", .str (trim (stringFromUnknown (body.get? "desc")))),
    ("input", rebuiltParams body "input"),
    ("output", rebuiltParams body "output")]

theorem checkedParams_iff : CheckedParams body key ↔
    ∃ params, (body.get? key).bind Json.object? = some params ∧
      validateThingModelParamMap params = .ok () := by
  rw [CheckedParams, plainObject]
  cases (body.get? key).bind Json.object? <;> simp

theorem validateThingsModelEvents_ok_iff :
    validateThingsModelEvents events = .ok () ↔
    CheckedMap CheckedEvent events := by
  apply range_check_iff.trans
  apply forall₃_congr
  intro identifier raw _
  apply and_congr Iff.rfl
  apply exists_congr
  intro body
  apply and_congr Iff.rfl
  simp only [ite_error_eq_ok_iff, Bool.not_eq_false']
  constructor
  · rintro ⟨hname, hlevel, hdesc, hok⟩
    cases houtput : (body.get? "output").bind Json.object? with
    | none => simp [houtput] at hok
    | some output =>
        rw [houtput] at hok
        exact ⟨hname, hlevel, hdesc, checkedParams_iff.mpr
          ⟨output, houtput, within_eq_ok_iff.mp hok⟩⟩
  · rintro ⟨hname, hlevel, hdesc, houtput⟩
    obtain ⟨output, houtput, hok⟩ := checkedParams_iff.mp houtput
    refine ⟨hname, hlevel, hdesc, ?_⟩
    rw [houtput]
    exact within_eq_ok_iff.mpr hok

theorem validateThingsModelServices_ok_iff :
    validateThingsModelServices services = .ok () ↔
      CheckedMap CheckedService services := by
  apply range_check_iff.trans
  apply forall₃_congr
  intro identifier raw _
  apply and_congr Iff.rfl
  apply exists_congr
  intro body
  apply and_congr Iff.rfl
  simp only [ite_error_eq_ok_iff, Bool.not_eq_false']
  constructor
  · rintro ⟨hname, hcallType, hdesc, hok⟩
    cases hinput : (body.get? "input").bind Json.object? with
    | none => simp [hinput] at hok
    | some input =>
        cases houtput : (body.get? "output").bind Json.object? with
        | none => simp [hinput, houtput] at hok
        | some output =>
            rw [hinput, houtput] at hok
            simp only at hok
            split at hok
            · cases hok
            next hparams =>
              exact ⟨hname, hcallType, hdesc,
                checkedParams_iff.mpr ⟨input, hinput,
                  within_eq_ok_iff.mp hparams⟩,
                checkedParams_iff.mpr ⟨output, houtput,
                  within_eq_ok_iff.mp hok⟩⟩
  · rintro ⟨hname, hcallType, hdesc, hinput, houtput⟩
    obtain ⟨input, hinput, hinputOk⟩ := checkedParams_iff.mp hinput
    obtain ⟨output, houtput, houtputOk⟩ := checkedParams_iff.mp houtput
    refine ⟨hname, hcallType, hdesc, ?_⟩
    rw [hinput, houtput]
    simp only [within_eq_ok_iff.mpr hinputOk]
    exact within_eq_ok_iff.mpr houtputOk

theorem objectFromEventRows_ok (hok : validateThingsModelEvents events = .ok ())
    (hfloats : Floats events) :
    objectFromEventRows (eventRowsFromObject events) =
      .ok (rebuiltMap rebuiltEvent events) := by
  apply objectFromRows_ok (fun _ _ => rfl)
    (validateThingsModelEvents_ok_iff.mp hok)
  intro key value hget hcheck
  have hvalue := floats_plainObject hfloats key
  rw [hget] at hvalue
  simp only
  rw [objectFromParamRows_ok hcheck.output.2
    (floats_plainObject hvalue "output")]
  rfl

theorem objectFromServiceRows_ok
    (hok : validateThingsModelServices services = .ok ())
    (hfloats : Floats services) :
    objectFromServiceRows (serviceRowsFromObject services) =
      .ok (rebuiltMap rebuiltService services) := by
  apply objectFromRows_ok (fun _ _ => rfl)
    (validateThingsModelServices_ok_iff.mp hok)
  intro key value hget hcheck
  have hvalue := floats_plainObject hfloats key
  rw [hget] at hvalue
  simp only
  rw [objectFromParamRows_ok hcheck.input.2 (floats_plainObject hvalue "input"),
    objectFromParamRows_ok hcheck.output.2 (floats_plainObject hvalue "output")]
  rfl

/-- The parameters under a name come back as a map of their own. -/
theorem params_kept_iff {saved : GoMap Json} (hchecked : CheckedParams body key)
    (hsaved : saved.get? key = some (rebuiltParams body key)) :
    CheckedParams saved key ∧
    SameMap SameDefinition (plainObject (body.get? key))
        (plainObject (saved.get? key)) ↔
      KeepsParams body key := by
  have hplain : plainObject (saved.get? key) =
      rebuiltMap rebuiltParam (plainObject (body.get? key)) := by
    rw [plainObject, hsaved, Option.bind_some, rebuiltParams,
      Json.object?_ofMap, Option.getD_some]
  rw [KeepsParams]
  rw [← map_kept_iff (validateThingModelParamMap_ok_iff.mp hchecked.2)
    fun _ hcheck => param_kept_iff hcheck]
  rw [CheckedParams]
  rw [hplain, hsaved, Option.bind_some, rebuiltParams, Json.object?_ofMap,
    validateThingModelParamMap_ok_iff]
  simp

theorem keepsSome_iff (hrequired : requiredString body key = true) :
    trimSpace (trim (stringFromUnknown (body.get? key))) ≠ "" ↔
    KeepsSome body key := by
  obtain ⟨raw, hraw, -⟩ :=
    string_of_optionalString (requiredString_iff.mp hrequired)
  have hread : stringFromUnknown (some (.str raw)) = raw := rfl
  rw [KeepsSome]
  rw [onText_iff hraw, hraw, hread]

theorem validDesc_of_get? {raw : String}
    (hget : body.get? "desc" = some (.str raw)) :
    validDesc body = true := by
  rw [validDesc]
  rw [hget]
  rfl

/-- The texts of an event or a service come back accepted and the same exactly
when they are kept. -/
theorem texts_kept_iff {α : Type} (choices : Choices α) {saved : GoMap Json}
    {choice : String} (hrequired : requiredString body "name" = true)
    (hne : optionalString body choice ≠ "")
    (hname : saved.get? "name" =
      some (.str (trim (stringFromUnknown (body.get? "name")))))
    (hchoice : saved.get? choice =
      some (.str (choices.text (choices.fromUnknown (body.get? choice)))))
    (hdesc : saved.get? "desc" =
      some (.str (trim (stringFromUnknown (body.get? "desc"))))) :
    requiredString saved "name" = true ∧
        optionalString saved choice = optionalString body choice ∧
        optionalString saved "desc" = optionalString body "desc" ↔
      KeepsSome body "name" ∧ choices.Keeps body choice ∧
      KeepsText body "desc" := by
  rw [requiredString_iff, optionalString_of_get? hname, keepsSome_iff hrequired,
    optionalString_of_get? hchoice, trimSpace_text,
    choices.text_fromUnknown_iff hne, optionalString_of_get? hdesc,
    keepsText_iff]

theorem event_kept_iff (hchecked : CheckedEvent body) :
    CheckedEvent (rebuiltEvent body) ∧ SameEvent body (rebuiltEvent body) ↔
      KeepsEvent body := by
  have hne : optionalString body "level" ≠ "" := by
    intro hempty
    have hvalid := hchecked.level
    rw [hempty] at hvalid
    cases hvalid
  have htexts := @texts_kept_iff body _ eventLevels (rebuiltEvent body) "level"
    hchecked.name hne rfl rfl rfl
  have houtput :=
    @params_kept_iff body "output" (rebuiltEvent body) hchecked.output rfl
  constructor
  · rintro ⟨hafter, hsame⟩
    exact ⟨htexts.mp ⟨hafter.name, hsame.level, hsame.desc⟩,
      houtput.mp ⟨hafter.output, hsame.output⟩⟩
  · rintro ⟨hkeepsTexts, hkeepsOutput⟩
    obtain ⟨hname, hlevel, hdesc⟩ := htexts.mpr hkeepsTexts
    obtain ⟨hcheckedOutput, hsameOutput⟩ := houtput.mpr hkeepsOutput
    refine ⟨⟨hname, ?_, validDesc_of_get? rfl, hcheckedOutput⟩, hlevel, hdesc,
      hsameOutput⟩
    rw [hlevel]
    exact hchecked.level

theorem service_kept_iff (hchecked : CheckedService body) :
    CheckedService (rebuiltService body) ∧
    SameService body (rebuiltService body) ↔
      KeepsService body := by
  have hne : optionalString body "call_type" ≠ "" := by
    intro hempty
    have hvalid := hchecked.callType
    rw [hempty] at hvalid
    cases hvalid
  have htexts :=
    @texts_kept_iff body _ callTypes (rebuiltService body) "call_type"
    hchecked.name hne rfl rfl rfl
  have hinput :=
    @params_kept_iff body "input" (rebuiltService body) hchecked.input rfl
  have houtput :=
    @params_kept_iff body "output" (rebuiltService body) hchecked.output rfl
  constructor
  · rintro ⟨hafter, hsame⟩
    exact ⟨htexts.mp ⟨hafter.name, hsame.callType, hsame.desc⟩,
      hinput.mp ⟨hafter.input, hsame.input⟩,
      houtput.mp ⟨hafter.output, hsame.output⟩⟩
  · rintro ⟨hkeepsTexts, hkeepsInput, hkeepsOutput⟩
    obtain ⟨hname, hcallType, hdesc⟩ := htexts.mpr hkeepsTexts
    obtain ⟨hcheckedInput, hsameInput⟩ := hinput.mpr hkeepsInput
    obtain ⟨hcheckedOutput, hsameOutput⟩ := houtput.mpr hkeepsOutput
    refine ⟨⟨hname, ?_, validDesc_of_get? rfl, hcheckedInput, hcheckedOutput⟩,
      hcallType, hdesc, hsameInput, hsameOutput⟩
    rw [hcallType]
    exact hchecked.callType

end Owners

section Results

variable {model : Model}

def Model.rebuilt (model : Model) : Model where
  properties := rebuiltMap rebuiltProperty model.properties
  events := rebuiltMap rebuiltEvent model.events
  services := rebuiltMap rebuiltService model.services

/-- The untouched save of an accepted model throws nothing. -/
theorem save_ok (haccepted : model.Accepted) (hfloats : model.Floats) :
    model.save = .ok model.rebuilt := by
  obtain ⟨hproperties, hevents, hservices⟩ :=
    validateThingsModelDefinition_eq_ok_iff.mp haccepted
  rw [Model.save]
  rw [objectFromPropertyRows_ok hproperties hfloats.properties,
    objectFromEventRows_ok hevents hfloats.events,
    objectFromServiceRows_ok hservices hfloats.services]
  rfl

/-- The untouched save of an accepted model loses nothing exactly when every
text in it is kept. -/
theorem untouched_save_lossless_iff (haccepted : model.Accepted)
    (hfloats : model.Floats) : model.Lossless ↔ model.Keeps := by
  have hsave := save_ok haccepted hfloats
  obtain ⟨hproperties, hevents, hservices⟩ :=
    validateThingsModelDefinition_eq_ok_iff.mp haccepted
  have hpropertiesKept :=
    map_kept_iff (validateThingsModelProperties_ok_iff.mp hproperties)
      fun _ hcheck => property_kept_iff hcheck
  have heventsKept := map_kept_iff (validateThingsModelEvents_ok_iff.mp hevents)
    fun _ hcheck => event_kept_iff hcheck
  have hservicesKept :=
    map_kept_iff (validateThingsModelServices_ok_iff.mp hservices)
    fun _ hcheck => service_kept_iff hcheck
  rw [← validateThingsModelProperties_ok_iff] at hpropertiesKept
  rw [← validateThingsModelEvents_ok_iff] at heventsKept
  rw [← validateThingsModelServices_ok_iff] at hservicesKept
  constructor
  · rintro ⟨saved, hsaved, hafter, hsameProperties, hsameEvents, hsameServices⟩
    cases hsave.symm.trans hsaved
    obtain ⟨hafterProperties, hafterEvents, hafterServices⟩ :=
      validateThingsModelDefinition_eq_ok_iff.mp hafter
    exact ⟨hpropertiesKept.mp ⟨hafterProperties, hsameProperties⟩,
      heventsKept.mp ⟨hafterEvents, hsameEvents⟩,
      hservicesKept.mp ⟨hafterServices, hsameServices⟩⟩
  · rintro ⟨hkeepsProperties, hkeepsEvents, hkeepsServices⟩
    obtain ⟨hafterProperties, hsameProperties⟩ :=
      hpropertiesKept.mpr hkeepsProperties
    obtain ⟨hafterEvents, hsameEvents⟩ := heventsKept.mpr hkeepsEvents
    obtain ⟨hafterServices, hsameServices⟩ := hservicesKept.mpr hkeepsServices
    exact ⟨model.rebuilt, hsave,
      validateThingsModelDefinition_eq_ok_iff.mpr
        ⟨hafterProperties, hafterEvents, hafterServices⟩,
      hsameProperties, hsameEvents, hsameServices⟩

/-- A model with a property of the given data type text, an event and a
service. -/
def sampleModel (dataType : String) : Model where
  properties := GoMap.ofMembers [("speed", .obj [("name", .str " Speed "),
    ("data_type", .str dataType), ("required", .bool true),
    ("access_mode", .str "read"), ("spec", .obj [("min", .num (-40) true),
      ("max", .num 125 true), ("unit", .str "km/h"),
      ("precision", .num 0 true)])])]
  events := GoMap.ofMembers [("overspeed", .obj [("name", .str "Overspeed"),
    ("level", .str "error"),
    ("output", .obj [("excess", .obj [("name", .str "Excess"),
      ("data_type", .str "float"), ("required", .bool false),
      ("spec", .obj [("step", .num (1 / 2) false)])])])])]
  services := GoMap.ofMembers [("reset", .obj [("name", .str "Reset"),
    ("call_type", .str " sync"), ("desc", .str "Back to zero"),
    ("input", .obj []), ("output", .obj [])])]

theorem untouched_save_lossless_sample : (sampleModel "int").Lossless :=
  (untouched_save_lossless_iff (by decide +kernel)
    ⟨by decide +kernel, by decide +kernel, by decide +kernel⟩).mpr
    (by decide +kernel)

/-- A data type with blanks around it is accepted, and comes back as a
string. -/
theorem untouched_save_retypes : (sampleModel " int ").Accepted ∧
    (sampleModel " int ").Floats ∧ ¬ (sampleModel " int ").Lossless := by
  have haccepted : (sampleModel " int ").Accepted := by decide +kernel
  have hfloats : (sampleModel " int ").Floats :=
    ⟨by decide +kernel, by decide +kernel, by decide +kernel⟩
  refine ⟨haccepted, hfloats, ?_⟩
  rintro ⟨saved, hsaved, -, hsame, -, -⟩
  cases (save_ok haccepted hfloats).symm.trans hsaved
  have hspeed := hsame.bodies "speed" _ _ rfl rfl
  exact absurd hspeed.dataType (by decide +kernel)

end Results

end Editor

end LinkFlow
