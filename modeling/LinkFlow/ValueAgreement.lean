/-
When the downlink check and the uplink check of a value agree.  Both refuse what
is of another type or out of range; they part on decimals beyond a precision
that is only derived, and on multiples of the step up to a tolerance.
-/
import LinkFlow.ValueCheck

namespace LinkFlow

namespace ThingsModel

theorem hasFraction_eq_false_iff {x : ℚ} :
    hasFraction x = false ↔ ∃ n : ℤ, x = n := by
  rw [hasFraction]
  rw [← GoMath.trunc_eq_self_iff]
  simp

theorem numberField_of_optionalNumber {spec : GoMap Json} {key : String}
    {number : Option ℚ} (hnumber : optionalNumber spec key = .ok number) :
    numberField spec key = number := by
  rw [optionalNumber] at hnumber
  rw [numberField]
  split at hnumber
  next hnone =>
    cases hnumber
    rw [hnone, Option.bind_none]
  next hsome =>
    cases hnumber
    rw [hsome]
    rfl
  next => cases hnumber

theorem specNumbers_eq_ok_iff {spec : GoMap Json} {numbers : SpecNumbers} :
    specNumbers spec = .ok numbers ↔
      optionalNumber spec "min" = .ok numbers.min ∧
      optionalNumber spec "max" = .ok numbers.max ∧
      optionalNumber spec "step" = .ok numbers.step ∧
      optionalNumber spec "precision" = .ok numbers.precision := by
  obtain ⟨min, max, step, precision⟩ := numbers
  rw [specNumbers]
  cases optionalNumber spec "min" <;> cases optionalNumber spec "max" <;>
    cases optionalNumber spec "step" <;>
    cases optionalNumber spec "precision" <;>
    simp [bind, Except.bind, pure, Except.pure]

/-- What the backend's check of a definition guarantees about its numbers. -/
structure AcceptedNumbers (definition : GoMap Json) (numbers : SpecNumbers) :
    Prop where
  read : specNumbers (specObject definition) = .ok numbers
  step_pos : ∀ step ∈ numbers.step, 0 < step
  precision_nonneg : ∀ precision ∈ numbers.precision, 0 ≤ precision
  precision_integer : ∀ precision ∈ numbers.precision,
    hasFraction precision = false

theorem specNumbers_empty :
    specNumbers GoMap.empty = .ok ⟨none, none, none, none⟩ :=
  rfl

theorem validateThingModelSpec_numbers {dataType : DataType}
    {spec : GoMap Json} (hok : validateThingModelSpec dataType spec = .ok ()) :
    ∃ numbers, specNumbers spec = .ok numbers ∧
      (∀ step ∈ numbers.step, 0 < step) ∧
      (∀ precision ∈ numbers.precision, 0 ≤ precision) ∧
      ∀ precision ∈ numbers.precision, hasFraction precision = false := by
  rw [validateThingModelSpec] at hok
  split at hok
  · cases hok
  next min max step precision hnumbers =>
    refine ⟨_, hnumbers, ?_, ?_, ?_⟩ <;> simp only
    all_goals
      split at hok; · cases hok
      split at hok; · cases hok
      split at hok; · cases hok
      split at hok; · cases hok
      split at hok; · cases hok
      next hstep hprecision =>
        rintro value rfl
        simp at hstep hprecision
        first
        | exact hstep
        | exact hprecision.1
        | simpa using hprecision.2

theorem acceptedNumbers {definition : GoMap Json} {requireAccessMode : Bool}
    (hok : validateThingModelParamDefinition definition requireAccessMode =
      .ok ()) :
    (∃ dataType,
      DataType.ofText? (optionalString definition "data_type") =
        some dataType) ∧
    ∃ numbers, AcceptedNumbers definition numbers := by
  rw [validateThingModelParamDefinition] at hok
  split at hok
  · cases hok
  split at hok
  · cases hok
  next dataType hdataType =>
    refine ⟨⟨dataType, hdataType⟩, ?_⟩
    split at hok
    · cases hok
    split at hok
    · cases hok
    split at hok
    next hspec =>
      refine ⟨⟨none, none, none, none⟩, ?_, ?_, ?_, ?_⟩
      · simp only [specObject, hspec, Option.bind_none, Option.getD_none]
        exact specNumbers_empty
      all_goals simp
    next spec hspec =>
      split at hok
      · cases hok
      next object hobject =>
        obtain ⟨numbers, hread, hstep, hnonneg, hinteger⟩ :=
          validateThingModelSpec_numbers hok
        refine ⟨numbers, ?_, hstep, hnonneg, hinteger⟩
        simpa only [specObject, hspec, Option.bind_some, hobject,
          Option.getD_some] using hread

/-- The processor reads the same numbers the backend has checked. -/
theorem AcceptedNumbers.parsed {definition : GoMap Json} {numbers : SpecNumbers}
    (haccepted : AcceptedNumbers definition numbers) :
    (parsePropertyDefinition definition).min = numbers.min ∧
      (parsePropertyDefinition definition).max = numbers.max ∧
      (parsePropertyDefinition definition).step = numbers.step ∧
      (parsePropertyDefinition definition).precision =
        numbers.precision.map GoMath.toInt := by
  obtain ⟨hmin, hmax, hstep, hprecision⟩ :=
    specNumbers_eq_ok_iff.mp haccepted.read
  refine ⟨numberField_of_optionalNumber hmin,
    numberField_of_optionalNumber hmax, numberField_of_optionalNumber hstep, ?_⟩
  simp only [parsePropertyDefinition, numberField_of_optionalNumber hprecision]

/-- The value lies within the declared range. -/
def PropertyDefinition.InRange (definition : PropertyDefinition) (value : ℚ) :
    Prop :=
  (∀ min ∈ definition.min, min ≤ value) ∧ ∀ max ∈ definition.max, value ≤ max

/-- The value has no more decimals than the effective precision, up to the
tolerance. -/
def PropertyDefinition.Fits (definition : PropertyDefinition) (value : ℚ) :
    Prop :=
  nearInteger (value * GoMath.pow10 (effectivePrecision definition)) = true

/-- The distance from the anchor is a multiple of the step, up to the
tolerance. -/
def PropertyDefinition.NearStep (definition : PropertyDefinition)
    (step value : ℚ) : Prop :=
  nearInteger ((value - definition.min.getD 0) / step) = true

/-- `n` in units of the last decimal of the effective precision. -/
def PropertyDefinition.units (definition : PropertyDefinition) (n : ℚ) : ℤ :=
  GoMath.round (n * GoMath.pow10 (effectivePrecision definition))

/-- In units of the last decimal, the distance from the anchor is a multiple of
the step. -/
def PropertyDefinition.OnGrid (definition : PropertyDefinition)
    (step value : ℚ) : Prop :=
  0 < definition.units step ∧
    definition.units step ∣
      definition.units value - definition.min.elim 0 definition.units

/-- An early return is passed exactly when its test fails. -/
theorem ite_error_eq_ok_iff {ε : Type*} {test : Bool} {err : ε}
    {rest : Except ε Unit} :
    (if test = true then .error err else rest) = .ok () ↔
      test = false ∧ rest = .ok () := by
  cases test <;> simp

theorem any_eq_false_iff {α : Type*} {p : α → Bool} {value : Option α} :
    value.any p = false ↔ ∀ held ∈ value, p held = false := by
  cases value <;> simp

/-- The backend's numeric check on an accepted spec. -/
theorem validateDeviceServiceCallNumber_ok_iff {definition : GoMap Json}
    {numbers : SpecNumbers} (haccepted : AcceptedNumbers definition numbers)
    {dataType : DataType} {value : ℚ}
    (hinteger : dataType = .int → hasFraction value = false) :
    validateDeviceServiceCallNumber dataType (specObject definition) value =
        .ok () ↔
      (parsePropertyDefinition definition).InRange value ∧
      ((parsePropertyDefinition definition).precision.isSome →
        (parsePropertyDefinition definition).Fits value) ∧
      ∀ step ∈ (parsePropertyDefinition definition).step,
        (parsePropertyDefinition definition).NearStep step value := by
  obtain ⟨hmin, hmax, hstep, hprecision⟩ := haccepted.parsed
  have hguard : (dataType = .int && hasFraction value) = false := by
    by_cases hint : dataType = .int <;> simp [hint, hinteger]
  rw [validateDeviceServiceCallNumber]
  rw [haccepted.read]
  simp only [ite_error_eq_ok_iff, any_eq_false_iff, hguard,
    PropertyDefinition.InRange, PropertyDefinition.Fits,
    PropertyDefinition.NearStep, effectivePrecision, hmin, hmax, hstep,
    hprecision, Option.isSome_map, Bool.or_eq_false_iff, Bool.not_eq_false',
    decide_eq_false_iff_not, not_lt, not_le, and_true]
  constructor
  · rintro ⟨hlow, hhigh, hdigits, hmultiple⟩
    refine ⟨⟨hlow, hhigh⟩, fun hsome => ?_,
      fun step hmem => (hmultiple step hmem).2⟩
    obtain ⟨precision, hdeclared⟩ := Option.isSome_iff_exists.mp hsome
    simpa only [hdeclared, Option.map_some] using
      (hdigits precision hdeclared).2
  · rintro ⟨⟨hlow, hhigh⟩, hdigits, hmultiple⟩
    refine ⟨hlow, hhigh, fun precision hdeclared => ⟨⟨?_, ?_⟩, ?_⟩,
      fun step hmem => ⟨haccepted.step_pos step hmem, hmultiple step hmem⟩⟩
    · exact haccepted.precision_nonneg precision hdeclared
    · exact haccepted.precision_integer precision hdeclared
    · have hdeclared : numbers.precision = some precision := hdeclared
      simpa only [hdeclared, Option.isSome_some, Option.map_some,
        forall_const] using hdigits

/-- An integer leaves no remainder exactly when it is divisible. -/
theorem mod_intCast_eq_zero_iff {difference step : ℤ} (hstep : 0 < step) :
    GoMath.mod difference step = 0 ↔ step ∣ difference := by
  rw [GoMath.mod_eq_zero_iff (by exact_mod_cast hstep)]
  constructor
  · rintro ⟨n, hn⟩
    exact ⟨n, by rw [mul_comm]; exact_mod_cast hn⟩
  · rintro ⟨n, rfl⟩
    exact ⟨n, by push_cast; ring⟩

/-- The last two tests of `validateNumericConstraints`. -/
theorem gridCheck_ok_iff {definition : PropertyDefinition} {step value : ℚ}
    {invalid notAligned : ValueError} :
    (if definition.units step ≤ 0 then .error invalid
      else if GoMath.mod (definition.units value -
          definition.min.elim 0 definition.units) (definition.units step) ≠ 0
        then .error notAligned
      else .ok ()) = (.ok () : Except ValueError Unit) ↔
      definition.OnGrid step value := by
  rw [PropertyDefinition.OnGrid]
  split
  next hstep =>
    simp only [reduceCtorEq, false_iff, not_and]
    intro hpos
    omega
  next hstep =>
    have hpos : 0 < definition.units step := by omega
    rw [← Int.cast_sub, and_iff_right hpos, ← mod_intCast_eq_zero_iff hpos]
    split <;> simp_all

/-- The processor's numeric check. -/
theorem validateNumericConstraints_ok_iff {name : String}
    {definition : PropertyDefinition} {value : ℚ} {sentinel : Sentinel} :
    validateNumericConstraints name definition value sentinel = .ok () ↔
      definition.InRange value ∧ definition.Fits value ∧
        ∀ step ∈ definition.step, definition.OnGrid step value := by
  rw [validateNumericConstraints]
  split
  next min hmin =>
    obtain ⟨hdeclared, hbelow⟩ := Option.filter_eq_some_iff.mp hmin
    simp only [reduceCtorEq, false_iff]
    rintro ⟨⟨hlow, _⟩, _⟩
    exact absurd (hlow min hdeclared) (not_le.mpr (of_decide_eq_true hbelow))
  next max _ hmax =>
    obtain ⟨hdeclared, habove⟩ := Option.filter_eq_some_iff.mp hmax
    simp only [reduceCtorEq, false_iff]
    rintro ⟨⟨_, hhigh⟩, _⟩
    exact absurd (hhigh max hdeclared) (not_le.mpr (of_decide_eq_true habove))
  next hmin hmax =>
    have hrange : definition.InRange value := by
      constructor
      · intro min hdeclared
        have hnot := Option.filter_eq_none_iff.mp hmin min hdeclared
        simpa using hnot
      · intro max hdeclared
        have hnot := Option.filter_eq_none_iff.mp hmax max hdeclared
        simpa using hnot
    rw [ite_error_eq_ok_iff, Bool.not_eq_false', and_iff_right hrange]
    apply and_congr Iff.rfl
    cases definition.step with
    | none => simp
    | some step =>
        simp only [Option.mem_some_iff, forall_eq']
        exact gridCheck_ok_iff

/-- What the two checks come to for a number that both let as far as its
decimals: with enough room for them the step decides, without it the
declaration of a precision does, or a step the number misses. -/
def PropertyDefinition.NumbersAgree (definition : PropertyDefinition)
    (value : ℚ) : Prop :=
  (definition.Fits value → ∀ step ∈ definition.step,
      (definition.NearStep step value ↔ definition.OnGrid step value)) ∧
    (¬ definition.Fits value → definition.precision.isSome ∨
      ∃ step ∈ definition.step, ¬ definition.NearStep step value)

/-- Only numbers of a numeric type, in range and for `int` without a fraction,
are in question. -/
def PropertyDefinition.ChecksAgree (definition : PropertyDefinition)
    (value : Json) : Prop :=
  ∀ number dataType, value.number? = some number →
    DataType.ofText? definition.dataType = some dataType →
    dataType.numeric = true → definition.InRange number →
    (dataType = .int → hasFraction number = false) →
      definition.NumbersAgree number

theorem numeric_checks_agree_iff {definition : GoMap Json}
    {numbers : SpecNumbers} (haccepted : AcceptedNumbers definition numbers)
    {dataType : DataType} {value : ℚ}
    (hinteger : dataType = .int → hasFraction value = false) (name : String)
    (sentinel : Sentinel) :
    (validateDeviceServiceCallNumber dataType (specObject definition) value =
        .ok () ↔
      validateNumericConstraints name (parsePropertyDefinition definition) value
        sentinel = .ok ()) ↔
      ((parsePropertyDefinition definition).InRange value →
        (parsePropertyDefinition definition).NumbersAgree value) := by
  rw [validateDeviceServiceCallNumber_ok_iff haccepted hinteger,
    validateNumericConstraints_ok_iff]
  generalize parsePropertyDefinition definition = parsed
  rw [PropertyDefinition.NumbersAgree]
  by_cases hrange : parsed.InRange value
  case neg => simp [hrange]
  by_cases hfits : parsed.Fits value
  · cases hstep : parsed.step <;> simp [hrange, hfits]
  · simp only [hrange, hfits, true_and, false_and, iff_false, forall_const,
      false_imp_iff, not_false_eq_true, imp_false]
    cases hstep : parsed.step <;> cases hprecision : parsed.precision <;> simp

/-- The downlink check and the uplink check accept the same values of an
accepted definition exactly where their decimals and steps agree. -/
theorem value_checks_agree_iff {definition : GoMap Json}
    {requireAccessMode : Bool}
    (haccepted : validateThingModelParamDefinition definition
      requireAccessMode = .ok ())
    (name : String) (value : Json) (sentinel : Sentinel) :
    (validateDeviceServiceCallValue name definition value = .ok () ↔
      validateDefinedValue name (parsePropertyDefinition definition) value
        sentinel = .ok ()) ↔
      (parsePropertyDefinition definition).ChecksAgree value := by
  obtain ⟨⟨dataType, hdataType⟩, numbers, hnumbers⟩ := acceptedNumbers haccepted
  have hparsed : DataType.ofText?
      (parsePropertyDefinition definition).dataType =
      some dataType := hdataType
  unfold validateDeviceServiceCallValue validateDefinedValue
    PropertyDefinition.ChecksAgree
  rw [hdataType, hparsed]
  have hagree : ∀ number, (dataType = .int → hasFraction number = false) →
      _ := fun number hinteger =>
    numeric_checks_agree_iff hnumbers hinteger name sentinel
  cases dataType with
  | bool => cases value <;> simp [DataType.numeric]
  | string => cases value <;> simp [DataType.numeric]
  | float | double =>
      cases hnumber : value.number? with
      | none => simp
      | some number => simpa [DataType.numeric] using hagree number (by simp)
  | int =>
      cases hnumber : value.number? with
      | none => simp
      | some number =>
          cases hfraction : hasFraction number with
          | true => simp [hfraction]
          | false =>
              simpa [DataType.numeric, hfraction] using
                hagree number fun _ => hfraction

/-- A float property with a maximum and nothing else. -/
def humidity : GoMap Json :=
  GoMap.ofMembers [("name", .str "Humidity"), ("data_type", .str "float"),
    ("required", .bool false), ("access_mode", .str "readwrite"),
    ("spec", .obj [("max", .num 100 true)])]

/-- For a whole number both checks go by the range. -/
theorem value_checks_agree_whole_number :
    validateDeviceServiceCallValue "humidity" humidity (.num 40 true) = .ok () ↔
      validateDefinedValue "humidity" (parsePropertyDefinition humidity)
        (.num 40 true) .invalidPropertyValue = .ok () := by
  have haccepted : validateThingModelParamDefinition humidity true =
      .ok () := by
    decide +kernel
  have hstep : (parsePropertyDefinition humidity).step = none := by
    decide +kernel
  apply (value_checks_agree_iff haccepted _ _ _).mpr
  rintro _ dataType ⟨⟩ _ _ _ _
  refine ⟨fun _ => by simp [hstep], fun hnot => absurd ?_ hnot⟩
  rw [PropertyDefinition.Fits]
  decide +kernel

/-- The backend sends 0.5 down and the processor refuses the same value when the
device reports it: the only declared number has no decimals. -/
theorem value_checks_disagree_decimals :
    validateThingModelParamDefinition humidity true = .ok () ∧
      validateDeviceServiceCallValue "humidity" humidity (.num (1 / 2) false) =
        .ok () ∧
      validateDefinedValue "humidity" (parsePropertyDefinition humidity)
        (.num (1 / 2) false) .invalidPropertyValue ≠ .ok () := by
  decide +kernel

end ThingsModel

end LinkFlow
