/-
One definition in the editor: what is left of its texts and its numbers when it
goes through a form row.  The backend trims what it reads and the editor
compares texts as they stand, so a text with blanks around it can come back as
another one.
-/
import LinkFlow.ModelEditor

namespace LinkFlow

namespace Editor

open ThingsModel

section Condition

/-- A condition on a field that is a text. -/
def OnText (body : GoMap Json) (key : String) (P : String → Prop) : Prop :=
  ∀ raw ∈ (body.get? key).bind Json.string?, P raw

instance (body : GoMap Json) (key : String) (P : String → Prop)
    [DecidablePred P] :
    Decidable (OnText body key P) :=
  inferInstanceAs (Decidable (∀ raw ∈ (body.get? key).bind Json.string?, P raw))

theorem onText_iff {body : GoMap Json} {key raw : String} {P : String → Prop}
    (hget : body.get? key = some (.str raw)) : OnText body key P ↔ P raw := by
  simp [OnText, hget, Json.string?]

/-- The two languages trim the text to the same. -/
def KeepsText (body : GoMap Json) (key : String) : Prop :=
  OnText body key fun raw => trimSpace (trim raw) = trimSpace raw

/-- Something is left of the text when both languages have trimmed it. -/
def KeepsSome (body : GoMap Json) (key : String) : Prop :=
  OnText body key fun raw => trimSpace (trim raw) ≠ ""

/-- The unit is dropped, or something is left of it. -/
def KeepsUnit (spec : GoMap Json) : Prop :=
  OnText spec "unit" fun raw => trim raw = "" ∨ trimSpace (trim raw) ≠ ""

/-- The text is one of the choices as it stands, or trims to the fallback. -/
def Choices.Keeps {α : Type} (choices : Choices α) (body : GoMap Json)
    (key : String) : Prop :=
  OnText body key fun raw =>
    (∃ value ∈ choices.values, choices.text value = raw) ∨
    trimSpace raw = choices.text choices.fallback

/-- The texts of a property or a parameter, the access mode apart. -/
def KeepsDefinition (body : GoMap Json) : Prop :=
  KeepsText body "name" ∧ dataTypes.Keeps body "data_type" ∧
  KeepsUnit (specObject body)

instance (body : GoMap Json) (key : String) : Decidable (KeepsText body key) :=
  inferInstanceAs (Decidable (OnText _ _ _))

instance (body : GoMap Json) (key : String) : Decidable (KeepsSome body key) :=
  inferInstanceAs (Decidable (OnText _ _ _))

instance {α : Type} (choices : Choices α) (body : GoMap Json) (key : String) :
    Decidable (choices.Keeps body key) :=
  inferInstanceAs (Decidable (OnText _ _ _))

instance (spec : GoMap Json) : Decidable (KeepsUnit spec) :=
  inferInstanceAs (Decidable (OnText _ _ _))

instance (body : GoMap Json) : Decidable (KeepsDefinition body) :=
  inferInstanceAs (Decidable (_ ∧ _ ∧ _))

def isFloat (value : ℚ) : Bool :=
  Binary64.round value = value && Binary64.InRange value

/-- The numbers of a map are `float64`, as Go and the browser hold them. -/
def Floats (declared : GoMap Json) : Prop :=
  ∀ entry ∈ declared.entries, entry.2.allNumbers isFloat = true

instance (declared : GoMap Json) : Decidable (Floats declared) :=
  inferInstanceAs (Decidable (∀ entry ∈ declared.entries, _))

/-- The definitions of a property or a parameter say the same. -/
structure SameDefinition (before after : GoMap Json) : Prop where
  name : optionalString after "name" = optionalString before "name"
  dataType : optionalString after "data_type" =
      optionalString before "data_type"
  accessMode : optionalString after "access_mode" =
    optionalString before "access_mode"
  required : (after.get? "required").bind Json.bool? =
    (before.get? "required").bind Json.bool?
  numbers : ∀ key ∈ ["min", "max", "step", "precision"],
    numberField (specObject after) key = numberField (specObject before) key

end Condition

section Texts

variable {α : Type} {body : GoMap Json} {key : String}

theorem trim_eq_self {text : String}
    (hclean : ∀ char ∈ text.toList, isJsSpace char = false) :
    trim text = text :=
  trimmed_eq_self hclean

/-- No visible character of ASCII is trimmed. -/
theorem isJsSpace_eq_false {char : Char} (hlow : 32 < char.toNat)
    (hhigh : char.toNat < 160) : isJsSpace char = false := by
  rw [Bool.eq_false_iff]
  intro hspace
  simp only [isJsSpace, Bool.or_eq_true, Bool.and_eq_true,
    decide_eq_true_eq] at hspace
  rcases hspace with hmem | hrange
  · have hcodes : char.toNat ∈
        [9, 10, 11, 12, 13, 32, 160, 5760, 8232, 8233, 8239,
        8287, 12288, 65279] :=
      List.mem_map_of_mem (f := Char.toNat) hmem
    simp only [List.mem_cons, List.not_mem_nil, or_false] at hcodes
    omega
  · have hle : 8192 ≤ char.toNat := hrange.1
    omega

theorem isJsSpace_of_isWord {char : Char} (hword : isWord char = true) :
    isJsSpace char = false := by
  simp only [isWord, isLetter, isLowerLetter, isUpperLetter, LinkFlow.isDigit,
    Bool.or_eq_true, Bool.and_eq_true, decide_eq_true_eq] at hword
  rcases hword with ((hlower | hupper) | hdigit) | rfl
  · change 97 ≤ char.toNat ∧ char.toNat ≤ 122 at hlower
    exact isJsSpace_eq_false (by omega) (by omega)
  · change 65 ≤ char.toNat ∧ char.toNat ≤ 90 at hupper
    exact isJsSpace_eq_false (by omega) (by omega)
  · change 48 ≤ char.toNat ∧ char.toNat ≤ 57 at hdigit
    exact isJsSpace_eq_false (by omega) (by omega)
  · decide

theorem isJsSpace_of_isNumeric {char : Char}
    (hnumeric : NumberText.IsNumeric char) :
    isJsSpace char = false := by
  rcases hnumeric with hdigit | hmem
  · simp only [Char.isDigit, Bool.and_eq_true, decide_eq_true_eq] at hdigit
    apply isJsSpace_of_isWord
    simp only [isWord, LinkFlow.isDigit, Bool.or_eq_true, Bool.and_eq_true,
      decide_eq_true_eq]
    exact Or.inl (Or.inr hdigit)
  · simp only [List.mem_cons, List.not_mem_nil, or_false] at hmem
    rcases hmem with rfl | rfl | rfl | rfl <;> decide

theorem trim_identifier {identifier : String}
    (hvalid : validThingsModelIdentifier identifier = true) :
    trim identifier = identifier ∧ identifier ≠ "" := by
  have hletters (char : Char) (hletter : isLetter char = true) :
      isWord char = true := by
    simp [isWord, hletter]
  obtain ⟨hne, hall⟩ :=
    Pattern.forall_of_matches hletters (fun _ hword => hword) hvalid
  exact ⟨trim_eq_self fun char hmem => isJsSpace_of_isWord (hall char hmem),
    hne⟩

theorem trim_toText (f : ℚ) : trim (NumberText.toText f) =
    NumberText.toText f :=
  trim_eq_self fun char hmem =>
    isJsSpace_of_isNumeric (NumberText.isNumeric_toText f char hmem)

theorem trimSpace_text (choices : Choices α) (value : α) :
    trimSpace (choices.text value) = choices.text value :=
  trimSpace_eq_self (by simpa using choices.clean value)

theorem Choices.fromUnknown_text (choices : Choices α) (value : α) :
    choices.fromUnknown (some (.str (choices.text value))) = value := by
  have hfound : choices.values.find? (fun other => choices.text other =
      choices.text value) = some value := by
    cases hfind : choices.values.find? fun other => choices.text other =
        choices.text value with
    | none =>
        have hnone :=
          List.find?_eq_none.mp hfind value (choices.mem_values value)
        simp at hnone
    | some other =>
        have hsame := List.find?_some hfind
        rw [choices.injective other value (by simpa using hsame)]
  change (choices.values.find? _).getD _ = _
  rw [hfound, Option.getD_some]

theorem Choices.fromUnknown_other (choices : Choices α) {raw : String}
    (hother : ¬ ∃ value, choices.text value = raw) :
    choices.fromUnknown (some (.str raw)) = choices.fallback := by
  have hnone : choices.values.find? (fun value => choices.text value = raw) =
      none := by
    rw [List.find?_eq_none]
    intro value _ hvalue
    exact hother ⟨value, by simpa using hvalue⟩
  change (choices.values.find? _).getD _ = _
  rw [hnone, Option.getD_none]

/-- A text is kept exactly when the editor reads in it what the backend does. -/
theorem Choices.text_fromUnknown_iff (choices : Choices α)
    (hne : optionalString body key ≠ "") :
    choices.text (choices.fromUnknown (body.get? key)) =
      optionalString body key ↔
      choices.Keeps body key := by
  obtain ⟨raw, hraw, htrimmed⟩ := string_of_optionalString hne
  have hkeeps : choices.Keeps body key ↔ (∃ value, choices.text value = raw) ∨
      trimSpace raw = choices.text choices.fallback := by
    rw [Choices.Keeps]
    simp only [onText_iff hraw, choices.mem_values, true_and]
  rw [htrimmed, hraw, hkeeps]
  by_cases hexact : ∃ value, choices.text value = raw
  · obtain ⟨value, rfl⟩ := hexact
    rw [choices.fromUnknown_text, trimSpace_text]
    simp
  · rw [choices.fromUnknown_other hexact, or_iff_right hexact, eq_comm]

end Texts

section Numbers

variable {declared body spec : GoMap Json} {key identifier : String}
    {number : Option ℚ}

theorem floats_body (hfloats : Floats declared)
    (hbody : (declared.get? identifier).bind Json.object? = some body) :
    Floats body := by
  obtain ⟨value, hvalue, hobject⟩ := Option.bind_eq_some_iff.mp hbody
  have hnumbers := hfloats _ ((GoMap.mem_entries_iff _).mpr hvalue)
  rintro ⟨field, inner⟩ hmem
  exact Json.allNumbers_field hnumbers hobject
    ((GoMap.mem_entries_iff _).mp hmem)

theorem floats_plainObject (hfloats : Floats body) (key : String) :
    Floats (plainObject (body.get? key)) := by
  rw [Editor.plainObject]
  cases hobject : (body.get? key).bind Json.object? with
  | none =>
      intro entry hmem
      cases hmem
  | some object => exact floats_body hfloats hobject

theorem ofText_of_floats (hfloats : Floats spec) {value : ℚ} {integer : Bool}
    (hget : spec.get? key = some (.num value integer)) :
    NumberText.ofText (NumberText.toText value) = some value := by
  have hfloat : isFloat value = true :=
    hfloats _ ((GoMap.mem_entries_iff _).mpr hget)
  simp only [isFloat, Bool.and_eq_true, decide_eq_true_eq] at hfloat
  exact NumberText.ofText_toText hfloat.1 hfloat.2

theorem numberOrUndefined_text (hfloats : Floats spec)
    (hnumber : optionalNumber spec key = .ok number) :
    numberOrUndefined (textFromUnknown (spec.get? key)) = .ok number := by
  rw [optionalNumber] at hnumber
  split at hnumber
  next hnone =>
    cases hnumber
    rw [hnone]
    rfl
  next value integer hget =>
    cases hnumber
    rw [hget]
    change numberOrUndefined (NumberText.toText value) = _
    rw [numberOrUndefined]
    simp only [trim_toText, if_neg (NumberText.toText_ne_empty value),
      ofText_of_floats hfloats hget]
  next => cases hnumber

theorem intOrUndefined_text (hfloats : Floats spec)
    (hnumber : optionalNumber spec key = .ok number)
    (hnonneg : ∀ value ∈ number, 0 ≤ value)
    (hinteger : ∀ value ∈ number, hasFraction value = false) :
    intOrUndefined (textFromUnknown (spec.get? key)) = .ok number := by
  rw [optionalNumber] at hnumber
  split at hnumber
  next hnone =>
    cases hnumber
    rw [hnone]
    rfl
  next value integer hget =>
    cases hnumber
    rw [hget]
    change intOrUndefined (NumberText.toText value) = _
    obtain ⟨n, rfl⟩ := hasFraction_eq_false_iff.mp (hinteger value rfl)
    have hle : 0 ≤ n := by exact_mod_cast hnonneg n rfl
    rw [intOrUndefined]
    simp only [trim_toText, if_neg (NumberText.toText_ne_empty _),
      ofText_of_floats hfloats hget]
    simp [hle]
  next => cases hnumber

end Numbers

section Specs

/-- A spec of the numbers that are present, and of a unit that is not empty. -/
def specOf (numbers : SpecNumbers) (unit : String) : GoMap Json :=
  let spec := putNumber "step" numbers.step
    (putNumber "max" numbers.max (putNumber "min" numbers.min GoMap.empty))
  putNumber "precision" numbers.precision
    (if unit = "" then spec else spec.set "unit" (.str unit))

theorem paramSpecFromDraft_ok {draft : ParamDraft} {numbers : SpecNumbers}
    (hmin : numberOrUndefined draft.min = .ok numbers.min)
    (hmax : numberOrUndefined draft.max = .ok numbers.max)
    (hstep : numberOrUndefined draft.step = .ok numbers.step)
    (hprecision : intOrUndefined draft.precision = .ok numbers.precision) :
    paramSpecFromDraft draft = .ok (specOf numbers (trim draft.unit)) := by
  rw [paramSpecFromDraft]
  rw [hmin, hmax, hstep, hprecision]
  rfl

/-- What the editor makes of a spec. -/
def rebuiltSpec (spec : GoMap Json) : GoMap Json :=
  specOf ⟨numberField spec "min", numberField spec "max",
    numberField spec "step", numberField spec "precision"⟩
    (trim (stringFromUnknown (spec.get? "unit")))

variable {spec : GoMap Json} {numbers : SpecNumbers} {dataType : DataType}

theorem get?_putNumber (key other : String) (number : Option ℚ)
    (spec : GoMap Json) :
    (putNumber key number spec).get? other =
      if other = key then
        (number.map fun value => .num value (Json.integerLiteral value)).or
          (spec.get? other)
      else spec.get? other := by
  cases number with
  | none => simp [putNumber]
  | some value => simp [putNumber]

theorem optionalNumber_putNumber {key : String} {number : Option ℚ}
    (hget : spec.get? key =
      number.map fun value => .num value (Json.integerLiteral value)) :
    optionalNumber spec key = .ok number := by
  rw [optionalNumber]
  rw [hget]
  cases number <;> rfl

/-- The numbers come back as they were. -/
theorem optionalNumber_rebuiltSpec (spec : GoMap Json) {key : String}
    (hkey : key ∈ ["min", "max", "step", "precision"]) :
    optionalNumber (rebuiltSpec spec) key = .ok (numberField spec key) := by
  apply optionalNumber_putNumber
  simp only [List.mem_cons, List.not_mem_nil, or_false] at hkey
  rw [rebuiltSpec, specOf]
  simp only
  rcases hkey with rfl | rfl | rfl | rfl <;> split_ifs <;> simp [get?_putNumber]

theorem validUnit_rebuiltSpec_iff (spec : GoMap Json) :
    validUnit (rebuiltSpec spec) = true ↔ KeepsUnit spec := by
  have hunit : (rebuiltSpec spec).get? "unit" =
      if trim (stringFromUnknown (spec.get? "unit")) = "" then none
      else some (.str (trim (stringFromUnknown (spec.get? "unit")))) := by
    rw [rebuiltSpec, specOf]
    simp only
    split_ifs <;> simp [get?_putNumber]
  rw [validUnit]
  rw [hunit]
  cases hraw : spec.get? "unit" with
  | none => simp [KeepsUnit, OnText, hraw, stringFromUnknown, trim]
  | some value =>
      cases value with
      | str raw =>
          have hread : stringFromUnknown (some (.str raw)) = raw := rfl
          rw [KeepsUnit]
          rw [onText_iff hraw, hread]
          by_cases hempty : trim raw = ""
          · simp [hempty]
          · simp [hempty]
      | _ =>
          simp [KeepsUnit, OnText, hraw, stringFromUnknown, Json.string?, trim]

theorem specNumbers_rebuiltSpec (hnumbers : specNumbers spec = .ok numbers) :
    specNumbers (rebuiltSpec spec) = .ok numbers := by
  obtain ⟨hmin, hmax, hstep, hprecision⟩ := specNumbers_eq_ok_iff.mp hnumbers
  apply specNumbers_eq_ok_iff.mpr
  rw [← numberField_of_optionalNumber hmin, ← numberField_of_optionalNumber
    hmax, ← numberField_of_optionalNumber hstep, ← numberField_of_optionalNumber
    hprecision]
  exact ⟨optionalNumber_rebuiltSpec spec (by simp),
    optionalNumber_rebuiltSpec spec (by simp),
    optionalNumber_rebuiltSpec spec (by simp),
    optionalNumber_rebuiltSpec spec (by simp)⟩

theorem validateThingModelSpec_empty (dataType : DataType) :
    validateThingModelSpec dataType GoMap.empty = .ok () := by
  cases dataType <;> rfl

/-- A spec with the numbers of an accepted one is accepted if its unit is. -/
theorem validateThingModelSpec_of_numbers {saved : GoMap Json}
    (hok : validateThingModelSpec dataType spec = .ok ())
    (hsaved : specNumbers saved = specNumbers spec) :
    validateThingModelSpec dataType saved = .ok () ↔
    validUnit saved = true := by
  rw [validateThingModelSpec] at hok ⊢
  rw [hsaved]
  cases hnumbers : specNumbers spec with
  | error err =>
      rw [hnumbers] at hok
      cases hok
  | ok numbers =>
      rw [hnumbers] at hok
      simp only [ite_error_eq_ok_iff, Bool.not_eq_false'] at hok ⊢
      exact and_iff_left hok.2

theorem validUnit_of_ok (hok : validateThingModelSpec dataType spec = .ok ()) :
    validUnit spec = true :=
  (validateThingModelSpec_of_numbers hok rfl).mp hok

end Specs

section Definitions

variable {body saved : GoMap Json} {requireAccessMode : Bool}

theorem optionalString_of_get? {key raw : String}
    (hget : body.get? key = some (.str raw)) :
    optionalString body key = trimSpace raw := by
  rw [optionalString]
  rw [hget]
  rfl

theorem requiredString_iff {key : String} :
    requiredString body key = true ↔ optionalString body key ≠ "" := by
  rw [requiredString, optionalString]
  split <;> simp

/-- A trimmed text is kept exactly when the backend reads the same in it. -/
theorem keepsText_iff {key : String} :
    trimSpace (trim (stringFromUnknown (body.get? key))) =
      optionalString body key ↔
      KeepsText body key := by
  rw [KeepsText, OnText, optionalString]
  cases hget : body.get? key with
  | none => simp [stringFromUnknown, trim, trimSpace]
  | some value =>
      cases value with
      | str raw => simp [stringFromUnknown, Json.string?]
      | _ => simp [stringFromUnknown, Json.string?, trim, trimSpace]

/-- What the backend checks of a definition. -/
structure Checked (definition : GoMap Json) (requireAccessMode : Bool) :
    Prop where
  name : requiredString definition "name" = true
  required : ((definition.get? "required").bind Json.bool?).isNone = false
  accessMode : requireAccessMode = true →
    validPropertyAccessMode (optionalString definition "access_mode") = true
  object : ∀ raw, definition.get? "spec" = some raw → raw.object?.isSome = true
  spec : ∃ dataType,
    DataType.ofText? (optionalString definition "data_type") = some dataType ∧
      validateThingModelSpec dataType (specObject definition) = .ok ()

theorem validateThingModelParamDefinition_ok_iff :
    validateThingModelParamDefinition body requireAccessMode = .ok () ↔
      Checked body requireAccessMode := by
  rw [validateThingModelParamDefinition]
  rw [ite_error_eq_ok_iff, Bool.not_eq_false']
  constructor
  · rintro ⟨hname, hok⟩
    split at hok
    · cases hok
    next dataType hdataType =>
      rw [ite_error_eq_ok_iff, ite_error_eq_ok_iff] at hok
      obtain ⟨hrequired, hmode, hok⟩ := hok
      have hmode : requireAccessMode = true →
          validPropertyAccessMode (optionalString body "access_mode") =
            true := by
        rintro rfl
        simpa using hmode
      cases hspec : body.get? "spec" with
      | none =>
          have hempty : specObject body = GoMap.empty := by
            rw [specObject, hspec]
            rfl
          refine ⟨hname, hrequired, hmode, by simp [hspec], dataType,
            hdataType, ?_⟩
          rw [hempty]
          exact validateThingModelSpec_empty dataType
      | some raw =>
          rw [hspec] at hok
          cases hobject : raw.object? with
          | none => simp [hobject] at hok
          | some spec =>
              have hfield : specObject body = spec := by
                rw [specObject, hspec, Option.bind_some, hobject,
                  Option.getD_some]
              refine ⟨hname, hrequired, hmode, by simp [hspec, hobject],
                dataType, hdataType, ?_⟩
              rw [hfield]
              simpa [hobject] using hok
  · rintro ⟨hname, hrequired, hmode, hobject, dataType, hdataType, hok⟩
    refine ⟨hname, ?_⟩
    have hguard : (requireAccessMode &&
        !validPropertyAccessMode (optionalString body "access_mode")) =
        false := by
      cases requireAccessMode with
      | false => rfl
      | true => simp [hmode rfl]
    rw [hdataType]
    simp only [hrequired, hguard, Bool.false_eq_true, if_false]
    cases hspec : body.get? "spec" with
    | none => rfl
    | some raw =>
        obtain ⟨spec, hraw⟩ := Option.isSome_iff_exists.mp (hobject raw hspec)
        have hfield : specObject body = spec := by
          rw [specObject, hspec, Option.bind_some, hraw, Option.getD_some]
        rw [hfield] at hok
        simp only [hraw]
        exact hok

/-- What the editor makes of a parameter. -/
def rebuiltParam (body : GoMap Json) : GoMap Json :=
  let spec := rebuiltSpec (specObject body)
  let definition := GoMap.ofMembers
    [("name", .str (trim (stringFromUnknown (body.get? "name")))),
    ("data_type", .str (dataTypes.text
      (dataTypeFromUnknown (body.get? "data_type")))),
    ("required", .bool (boolFromUnknown (body.get? "required")))]
  if spec.isEmpty then definition else definition.set "spec" (Json.ofMap spec)

/-- What the editor makes of a property. -/
def rebuiltProperty (body : GoMap Json) : GoMap Json :=
  (rebuiltParam body).set "access_mode"
    (.str (accessModes.text (accessModeFromUnknown (body.get? "access_mode"))))

/-- The fields that properties and parameters share. -/
structure Rebuilds (body saved : GoMap Json) : Prop where
  name : saved.get? "name" =
    some (.str (trim (stringFromUnknown (body.get? "name"))))
  dataType : saved.get? "data_type" =
    some (.str (dataTypes.text (dataTypeFromUnknown (body.get? "data_type"))))
  required : saved.get? "required" =
    some (.bool (boolFromUnknown (body.get? "required")))
  object : ∀ raw, saved.get? "spec" = some raw → raw.object?.isSome = true
  spec : specObject saved = rebuiltSpec (specObject body)

theorem rebuiltParam_rebuilds (body : GoMap Json) :
    Rebuilds body (rebuiltParam body) := by
  rw [rebuiltParam]
  by_cases hempty : (rebuiltSpec (specObject body)).isEmpty = true
  · simp only [if_pos hempty]
    constructor
    · simp [GoMap.get?_ofMembers, GoMap.lastMember, List.lookup_cons]
    · simp [GoMap.get?_ofMembers, GoMap.lastMember, List.lookup_cons]
    · simp [GoMap.get?_ofMembers, GoMap.lastMember]
    · simp [GoMap.get?_ofMembers, GoMap.lastMember, List.lookup_cons]
    · rw [GoMap.eq_empty_of_isEmpty hempty]
      simp [specObject, GoMap.get?_ofMembers, GoMap.lastMember,
        List.lookup_cons]
  · simp only [if_neg hempty]
    constructor
    · simp [GoMap.get?_ofMembers, GoMap.lastMember, List.lookup_cons]
    · simp [GoMap.get?_ofMembers, GoMap.lastMember, List.lookup_cons]
    · simp [GoMap.get?_ofMembers, GoMap.lastMember]
    · simp [Json.object?_ofMap]
    · simp [specObject, Json.object?_ofMap]

theorem rebuiltProperty_rebuilds (body : GoMap Json) :
    Rebuilds body (rebuiltProperty body) := by
  obtain ⟨hname, hdataType, hrequired, hobject, hspec⟩ :=
    rebuiltParam_rebuilds body
  rw [rebuiltProperty]
  constructor
  · simpa using hname
  · simpa using hdataType
  · simpa using hrequired
  · simpa using hobject
  · simpa [specObject] using hspec

theorem paramDefinitionFromDraft_ok {identifier : String} {definition : Json}
    (haccepted : validateThingModelParamDefinition
      (plainObject (some definition)) requireAccessMode = .ok ())
    (hfloats : Floats (plainObject (some definition))) :
    paramDefinitionFromDraft (draftFromParamDefinition identifier definition) =
      .ok (rebuiltParam (plainObject (some definition))) := by
  obtain ⟨-, numbers, hnumbers⟩ := acceptedNumbers haccepted
  obtain ⟨hmin, hmax, hstep, hprecision⟩ :=
    specNumbers_eq_ok_iff.mp hnumbers.read
  generalize hbody : plainObject (some definition) = body at *
  have hspec : Floats (specObject body) := floats_plainObject hfloats "spec"
  have hdraft : draftFromParamDefinition identifier definition =
      { identifier := identifier
        name := stringFromUnknown (body.get? "name")
        dataType := dataTypeFromUnknown (body.get? "data_type")
        required := boolFromUnknown (body.get? "required")
        min := textFromUnknown ((specObject body).get? "min")
        max := textFromUnknown ((specObject body).get? "max")
        step := textFromUnknown ((specObject body).get? "step")
        unit := stringFromUnknown ((specObject body).get? "unit")
        precision :=
          textFromUnknown ((specObject body).get? "precision") } := by
    rw [← hbody]
    rfl
  have hsaved :=
    @paramSpecFromDraft_ok (draftFromParamDefinition identifier definition)
    numbers (by rw [hdraft]; exact numberOrUndefined_text hspec hmin)
    (by rw [hdraft]; exact numberOrUndefined_text hspec hmax)
    (by rw [hdraft]; exact numberOrUndefined_text hspec hstep)
    (by rw [hdraft]; exact intOrUndefined_text hspec hprecision
          hnumbers.precision_nonneg hnumbers.precision_integer)
  have hrebuilt : specOf numbers
      (trim (stringFromUnknown ((specObject body).get? "unit"))) =
      rebuiltSpec (specObject body) := by
    rw [rebuiltSpec]
    rw [numberField_of_optionalNumber hmin, numberField_of_optionalNumber hmax,
      numberField_of_optionalNumber hstep,
      numberField_of_optionalNumber hprecision]
  rw [paramDefinitionFromDraft]
  rw [hsaved, hdraft, hrebuilt]
  rfl

/-- Save the access mode apart, a definition comes back as the backend reads it
exactly when its texts are kept. -/
theorem definition_kept_iff
    (haccepted : validateThingModelParamDefinition body requireAccessMode =
      .ok ())
    (hrebuilds : Rebuilds body saved)
    (hmode : requireAccessMode = true →
      validPropertyAccessMode (optionalString saved "access_mode") = true) :
    validateThingModelParamDefinition saved requireAccessMode = .ok () ∧
        SameDefinition body saved ↔
      KeepsDefinition body ∧
        optionalString saved "access_mode" =
          optionalString body "access_mode" := by
  have hchecked := validateThingModelParamDefinition_ok_iff.mp haccepted
  obtain ⟨dataType, hdataType, hspec⟩ := hchecked.spec
  obtain ⟨-, numbers, hnumbers⟩ := acceptedNumbers haccepted
  have hsaved : specNumbers (specObject saved) =
      specNumbers (specObject body) := by
    rw [hrebuilds.spec, hnumbers.read, specNumbers_rebuiltSpec hnumbers.read]
  have hname : optionalString saved "name" =
      trimSpace (trim (stringFromUnknown (body.get? "name"))) :=
    optionalString_of_get? hrebuilds.name
  have htype : optionalString saved "data_type" =
      dataTypes.text (dataTypeFromUnknown (body.get? "data_type")) := by
    rw [optionalString_of_get? hrebuilds.dataType, trimSpace_text]
  have hne : optionalString body "data_type" ≠ "" := by
    intro hempty
    rw [hempty] at hdataType
    cases hdataType
  constructor
  · rintro ⟨hok, hsame⟩
    have hafter := validateThingModelParamDefinition_ok_iff.mp hok
    obtain ⟨savedType, -, hsavedSpec⟩ := hafter.spec
    refine ⟨⟨?_, ?_, ?_⟩, hsame.accessMode⟩
    · rw [← keepsText_iff, ← hname]
      exact hsame.name
    · rw [← dataTypes.text_fromUnknown_iff hne, ← hsame.dataType, htype]
      rfl
    · apply (validUnit_rebuiltSpec_iff _).mp
      rw [← hrebuilds.spec]
      exact validUnit_of_ok hsavedSpec
  · rintro ⟨⟨hkeepsName, hkeepsType, hkeepsUnit⟩, haccess⟩
    have hsameName : optionalString saved "name" = optionalString body "name" :=
      hname.trans (keepsText_iff.mpr hkeepsName)
    have hsameType : optionalString saved "data_type" =
        optionalString body "data_type" :=
      htype.trans ((dataTypes.text_fromUnknown_iff hne).mpr hkeepsType)
    constructor
    · apply validateThingModelParamDefinition_ok_iff.mpr
      refine ⟨?_, ?_, hmode, hrebuilds.object, dataType, ?_, ?_⟩
      · rw [requiredString_iff, hsameName, ← requiredString_iff]
        exact hchecked.name
      · rw [hrebuilds.required]
        rfl
      · rw [hsameType]
        exact hdataType
      · rw [validateThingModelSpec_of_numbers hspec hsaved, hrebuilds.spec,
          validUnit_rebuiltSpec_iff]
        exact hkeepsUnit
    · refine ⟨hsameName, hsameType, haccess, ?_, ?_⟩
      · rw [hrebuilds.required, bool_of_bind hchecked.required]
        rfl
      · intro key hkey
        rw [hrebuilds.spec]
        exact numberField_of_optionalNumber (optionalNumber_rebuiltSpec _ hkey)

end Definitions

end Editor

end LinkFlow
