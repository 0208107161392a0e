/-
The processor's numeric check against the rule it stands for: the value lies in
the declared range and is a whole number of steps away from the anchor.  The
check counts in units of the last decimal, with the step and the anchor rounded
to whole units, so it keeps the rule as long as the rounding takes nothing away.
-/
import LinkFlow.ValueAgreement
import LinkFlow.Lib.StepGrid

namespace LinkFlow

namespace ThingsModel

/-- An integer multiple of the last decimal of the effective precision. -/
def PropertyDefinition.Decimal (definition : PropertyDefinition) (value : ℚ) :
    Prop :=
  ∃ n : ℤ, value = n * GoMath.pow10 (-effectivePrecision definition)

/-- A whole number of steps from the declared minimum, or else from zero. -/
def PropertyDefinition.Aligned (definition : PropertyDefinition)
    (step value : ℚ) : Prop :=
  StepGrid.Aligned (definition.min.getD 0) step value

/-- The rule of a numeric definition. -/
def PropertyDefinition.Permits (definition : PropertyDefinition) (value : ℚ) :
    Prop :=
  definition.InRange value ∧
    ∀ step ∈ definition.step, definition.Aligned step value

/-- A number in units of the last decimal. -/
def PropertyDefinition.scaled (definition : PropertyDefinition) (n : ℚ) : ℚ :=
  n * GoMath.pow10 (effectivePrecision definition)

/-- Among the decimals in range at most one is on the grid of the step or on the
rounded grid, and that one is on both. -/
def PropertyDefinition.AtMostOne (definition : PropertyDefinition) (step : ℚ) :
    Prop :=
  ∀ value other, definition.Decimal value → definition.Decimal other →
    definition.InRange value → definition.InRange other →
    (definition.Aligned step value ∨ definition.OnGrid step value) →
    (definition.Aligned step other ∨ definition.OnGrid step other) →
      value = other ∧ definition.Aligned step value ∧
      definition.OnGrid step value

/-- What the rounding must leave alone: the step and the minimum are whole
numbers of units; or the step is half a unit and the minimum a whole number of
halves, so that every decimal is aligned; or the range is too narrow to tell. -/
def PropertyDefinition.KeepsStep (definition : PropertyDefinition) (step : ℚ) :
    Prop :=
  ((∃ n : ℤ, definition.scaled step = n) ∧
      ∃ n : ℤ, definition.scaled (definition.min.getD 0) = n) ∨
    (definition.scaled step = 1 / 2 ∧
      ∃ n : ℤ, 2 * definition.scaled (definition.min.getD 0) = n) ∨
    definition.AtMostOne step

section Units

variable (definition : PropertyDefinition)

/-- The decimal with a number of units. -/
def PropertyDefinition.decimal (units : ℤ) : ℚ :=
  units * GoMath.pow10 (-effectivePrecision definition)

theorem PropertyDefinition.scale_pos :
    0 < GoMath.pow10 (effectivePrecision definition) := by
  exact zpow_pos (by norm_num) _

theorem PropertyDefinition.scaled_decimal (units : ℤ) :
    definition.scaled (definition.decimal units) = units := by
  have hne := definition.scale_pos.ne'
  unfold scaled decimal GoMath.pow10 at *
  rw [zpow_neg, mul_assoc, inv_mul_cancel₀ hne, mul_one]

theorem PropertyDefinition.units_eq (n : ℚ) :
    definition.units n = GoMath.round (definition.scaled n) :=
  rfl

theorem PropertyDefinition.units_decimal (units : ℤ) :
    definition.units (definition.decimal units) = units := by
  rw [units_eq, scaled_decimal, GoMath.round_intCast]

theorem PropertyDefinition.scaled_le_scaled {first second : ℚ} :
    definition.scaled first ≤ definition.scaled second ↔ first ≤ second :=
  mul_le_mul_iff_left₀ definition.scale_pos

theorem PropertyDefinition.aligned_scaled {step value : ℚ} :
    definition.Aligned step value ↔
      StepGrid.Aligned (definition.scaled (definition.min.getD 0))
        (definition.scaled step) (definition.scaled value) := by
  have hne := definition.scale_pos.ne'
  unfold Aligned StepGrid.Aligned scaled
  apply exists_congr
  intro n
  rw [← sub_mul, ← mul_assoc, mul_left_inj' hne]

theorem PropertyDefinition.fits_of_decimal {value : ℚ}
    (hdecimal : definition.Decimal value) : definition.Fits value := by
  obtain ⟨units, rfl⟩ := hdecimal
  have hscaled := definition.scaled_decimal units
  rw [scaled, decimal] at hscaled
  rw [Fits, nearInteger]
  rw [hscaled, GoMath.round_intCast, sub_self, abs_zero, decide_eq_true_eq]
  rw [precisionEpsilon]
  positivity

/-- The anchor that the check subtracts. -/
def PropertyDefinition.anchor : ℤ := definition.min.elim 0 definition.units

theorem PropertyDefinition.anchor_eq :
    definition.anchor =
      GoMath.round (definition.scaled (definition.min.getD 0)) := by
  rw [anchor]
  cases definition.min with
  | none =>
      have hzero : definition.scaled 0 = (0 : ℤ) := by simp [scaled]
      rw [Option.getD_none, hzero, GoMath.round_intCast]
      rfl
  | some min => rfl

theorem PropertyDefinition.onGrid_decimal {step : ℚ} (units : ℤ) :
    definition.OnGrid step (definition.decimal units) ↔
      0 < definition.units step ∧
        definition.units step ∣ units - definition.anchor := by
  rw [OnGrid]
  rw [units_decimal]
  rfl

theorem PropertyDefinition.aligned_decimal {step : ℚ} (units : ℤ) :
    definition.Aligned step (definition.decimal units) ↔
      StepGrid.Aligned (definition.scaled (definition.min.getD 0))
        (definition.scaled step) units := by
  rw [aligned_scaled, scaled_decimal]

/-- The numbers of units whose decimal is in range. -/
def PropertyDefinition.unitRange : Set ℤ :=
  { units | definition.InRange (definition.decimal units) }

theorem PropertyDefinition.decimal_mono {first second : ℤ}
    (hle : first ≤ second) :
    definition.decimal first ≤ definition.decimal second := by
  rw [← scaled_le_scaled, scaled_decimal, scaled_decimal]
  exact_mod_cast hle

instance : @Set.OrdConnected ℤ Int.instLinearOrder.toPreorder
    definition.unitRange where
  out' := by
    rintro first ⟨hlow, -⟩ second ⟨-, hhigh⟩ units ⟨hfirst, hsecond⟩
    refine ⟨fun min hmin => ?_, fun max hmax => ?_⟩
    · exact (hlow min hmin).trans (definition.decimal_mono hfirst)
    · exact (definition.decimal_mono hsecond).trans (hhigh max hmax)

end Units

section Rule

variable {definition : PropertyDefinition} {step : ℚ}

/-- Both grids have the same decimals in range. -/
def PropertyDefinition.GridsAgree (definition : PropertyDefinition) (step : ℚ) :
    Prop :=
  ∀ units ∈ definition.unitRange,
    definition.OnGrid step (definition.decimal units) ↔
      definition.Aligned step (definition.decimal units)

/-- Whole units are kept as they are. -/
theorem PropertyDefinition.gridsAgree_of_whole
    (hpos : 0 < definition.scaled step)
    (hstep : ∃ n : ℤ, definition.scaled step = n)
    (horigin : ∃ n : ℤ, definition.scaled (definition.min.getD 0) = n) :
    definition.GridsAgree step := by
  intro units _
  obtain ⟨stride, hstride⟩ := hstep
  obtain ⟨origin, horigin⟩ := horigin
  rw [onGrid_decimal, aligned_decimal, units_eq, anchor_eq, hstride, horigin,
    GoMath.round_intCast, GoMath.round_intCast]
  have hpos : 0 < stride := by
    rw [hstride] at hpos
    exact_mod_cast hpos
  rw [and_iff_right hpos]
  constructor
  · rintro ⟨n, hn⟩
    refine ⟨n, ?_⟩
    rw [mul_comm]
    exact_mod_cast hn
  · rintro ⟨n, hn⟩
    refine ⟨n, ?_⟩
    rw [mul_comm]
    exact_mod_cast hn

/-- A step of half a unit reaches every decimal from a whole number of
halves. -/
theorem PropertyDefinition.gridsAgree_of_half
    (hstep : definition.scaled step = 1 / 2)
    (horigin : ∃ n : ℤ, 2 * definition.scaled (definition.min.getD 0) = n) :
    definition.GridsAgree step := by
  intro units _
  obtain ⟨halves, hhalves⟩ := horigin
  have hround : GoMath.round (1 / 2) = 1 := by decide +kernel
  rw [onGrid_decimal, aligned_decimal, units_eq, hstep, hround]
  constructor
  · intro _
    refine ⟨2 * units - halves, ?_⟩
    push_cast
    rw [← hhalves]
    ring
  · intro _
    exact ⟨one_pos, one_dvd _⟩

/-- Where the grids agree on two decimals, the rounding has changed nothing that
matters. -/
theorem PropertyDefinition.keepsStep_of_two (hpos : 0 < definition.scaled step)
    (hagree : definition.GridsAgree step) {first second : ℤ}
    (hfirst : first ∈ definition.unitRange)
    (hsecond : second ∈ definition.unitRange) (hlt : first < second)
    (haligned : definition.Aligned step (definition.decimal first))
    (hother : definition.Aligned step (definition.decimal second)) :
    definition.KeepsStep step := by
  rw [aligned_decimal] at haligned hother
  have hgrids : ∀ units ∈ definition.unitRange,
      (0 < definition.units step ∧
        definition.units step ∣ units - definition.anchor) ↔
      StepGrid.Aligned (definition.scaled (definition.min.getD 0))
        (definition.scaled step) units := by
    intro units hunits
    rw [← onGrid_decimal, ← aligned_decimal]
    exact hagree units hunits
  have hstride : definition.units step = (definition.scaled step).num :=
    StepGrid.stride_eq_num hpos hgrids hfirst hsecond hlt haligned hother
  rw [units_eq, StepGrid.round_eq_num_iff hpos] at hstride
  obtain ⟨n, hn⟩ := haligned
  rcases hstride with ⟨stride, hstride⟩ | hhalf
  · refine Or.inl ⟨⟨stride, hstride⟩, first - n * stride, ?_⟩
    push_cast
    rw [← hstride]
    linear_combination -hn
  · refine Or.inr (Or.inl ⟨hhalf, 2 * first - n, ?_⟩)
    rw [hhalf] at hn
    push_cast
    linear_combination -2 * hn

theorem PropertyDefinition.gridsAgree_iff (hpos : 0 < step) :
    definition.GridsAgree step ↔ definition.KeepsStep step := by
  have hscaled : 0 < definition.scaled step := mul_pos hpos definition.scale_pos
  constructor
  · intro hagree
    by_contra hkeeps
    refine hkeeps (Or.inr (Or.inr ?_))
    rintro _ _ ⟨first, rfl⟩ ⟨second, rfl⟩ hfirst hsecond hone hother
    have halignedFirst : definition.Aligned step (definition.decimal first) :=
      hone.elim id (hagree first hfirst).mp
    have halignedSecond : definition.Aligned step (definition.decimal second) :=
      hother.elim id (hagree second hsecond).mp
    refine ⟨?_, halignedFirst, (hagree first hfirst).mpr halignedFirst⟩
    rcases lt_trichotomy first second with hlt | rfl | hgt
    · exact absurd (keepsStep_of_two hscaled hagree hfirst hsecond hlt
        halignedFirst halignedSecond) hkeeps
    · rfl
    · exact absurd (keepsStep_of_two hscaled hagree hsecond hfirst hgt
        halignedSecond halignedFirst) hkeeps
  · rintro (⟨hstep, horigin⟩ | ⟨hstep, horigin⟩ | hone)
    · exact gridsAgree_of_whole hscaled hstep horigin
    · exact gridsAgree_of_half hstep horigin
    · intro units hunits
      have hself := hone _ _ ⟨units, rfl⟩ ⟨units, rfl⟩ hunits hunits
      constructor
      · intro hgrid
        exact (hself (Or.inr hgrid) (Or.inr hgrid)).2.1
      · intro haligned
        exact (hself (Or.inl haligned) (Or.inl haligned)).2.2

theorem validateNumericConstraints_decimal_iff (name : String)
    (sentinel : Sentinel) (units : ℤ) :
    validateNumericConstraints name definition (definition.decimal units)
        sentinel = .ok () ↔
      units ∈ definition.unitRange ∧ ∀ step ∈ definition.step,
        definition.OnGrid step (definition.decimal units) := by
  have hfits : definition.Fits (definition.decimal units) :=
    definition.fits_of_decimal ⟨units, rfl⟩
  rw [validateNumericConstraints_ok_iff, and_iff_right hfits]
  rfl

/-- The numeric check keeps the rule for all decimals of a definition exactly
when rounding to units keeps the step. -/
theorem validateNumericConstraints_permits_iff
    (hpos : ∀ step ∈ definition.step, 0 < step) (name : String)
    (sentinel : Sentinel) :
    (∀ value, definition.Decimal value →
      (validateNumericConstraints name definition value sentinel = .ok () ↔
        definition.Permits value)) ↔
      ∀ step ∈ definition.step, definition.KeepsStep step := by
  constructor
  · intro hrule step hstep
    rw [← PropertyDefinition.gridsAgree_iff (hpos step hstep)]
    intro units hunits
    have hvalue := hrule (definition.decimal units) ⟨units, rfl⟩
    rw [validateNumericConstraints_decimal_iff, and_iff_right hunits] at hvalue
    have hpermits : definition.Permits (definition.decimal units) ↔
        ∀ step ∈ definition.step,
          definition.Aligned step (definition.decimal units) :=
      and_iff_right hunits
    rw [hpermits, hstep] at hvalue
    simpa using hvalue
  · rintro hkeeps _ ⟨units, rfl⟩
    apply (validateNumericConstraints_decimal_iff name sentinel units).trans
    apply and_congr_right
    intro hunits
    apply forall₂_congr
    intro step hstep
    exact (PropertyDefinition.gridsAgree_iff (hpos step hstep)).mpr
      (hkeeps step hstep) units hunits

/-- For every spec that the backend accepts, the processor's numeric check is
the rule of the definition exactly when rounding to units keeps the step. -/
theorem numeric_rule_iff {definition : GoMap Json} {dataType : DataType}
    (haccepted : validateThingModelSpec dataType (specObject definition) =
      .ok ())
    (name : String) (sentinel : Sentinel) :
    (∀ value, (parsePropertyDefinition definition).Decimal value →
      (validateNumericConstraints name (parsePropertyDefinition definition)
        value
          sentinel = .ok () ↔
        (parsePropertyDefinition definition).Permits value)) ↔
      ∀ step ∈ (parsePropertyDefinition definition).step,
        (parsePropertyDefinition definition).KeepsStep step := by
  obtain ⟨numbers, hread, hpos, -, -⟩ :=
    validateThingModelSpec_numbers haccepted
  refine validateNumericConstraints_permits_iff ?_ name sentinel
  have hstep : (parsePropertyDefinition definition).step = numbers.step :=
    numberField_of_optionalNumber (specNumbers_eq_ok_iff.mp hread).2.2.1
  rw [hstep]
  exact hpos

/-- A float with steps of a half from minus ten, with its one decimal
declared. -/
def temperature : GoMap Json :=
  GoMap.ofMembers [("name", .str "Temperature"), ("data_type", .str "float"),
    ("required", .bool true), ("access_mode", .str "read"),
    ("spec", .obj [("min", .num (-10) true), ("step", .num (1 / 2) false),
      ("precision", .num 1 true)])]

theorem numeric_rule_temperature :
    validateThingModelSpec .float (specObject temperature) = .ok () ∧
      ∀ value, (parsePropertyDefinition temperature).Decimal value →
        (validateNumericConstraints "temperature"
            (parsePropertyDefinition temperature) value .invalidPropertyValue =
            .ok () ↔
          (parsePropertyDefinition temperature).Permits value) := by
  have haccepted : validateThingModelSpec .float (specObject temperature) =
      .ok () := by decide +kernel
  have hdeclared : (parsePropertyDefinition temperature).step =
      some (1 / 2) := by
    decide +kernel
  refine ⟨haccepted, (numeric_rule_iff haccepted _ _).mpr fun step hstep => ?_⟩
  rw [hdeclared] at hstep
  cases hstep
  refine Or.inl ⟨⟨5, ?_⟩, -100, ?_⟩
  · decide +kernel
  · decide +kernel

/-- A float with steps of one and a half and no decimals. -/
def coarse : GoMap Json :=
  GoMap.ofMembers [("name", .str "Coarse"), ("data_type", .str "float"),
    ("required", .bool true), ("access_mode", .str "read"),
    ("spec", .obj [("step", .num (3 / 2) false), ("precision", .num 0 true)])]

/-- The step becomes 2: the aligned value 3 is refused, and 2 is let through. -/
theorem numeric_rule_coarse :
    validateThingModelParamDefinition coarse true = .ok () ∧
      (parsePropertyDefinition coarse).Decimal 3 ∧
      (parsePropertyDefinition coarse).Permits 3 ∧
      validateNumericConstraints "coarse" (parsePropertyDefinition coarse) 3
        .invalidPropertyValue ≠ .ok () ∧
      (parsePropertyDefinition coarse).Decimal 2 ∧
      ¬ (parsePropertyDefinition coarse).Permits 2 ∧
      validateNumericConstraints "coarse" (parsePropertyDefinition coarse) 2
        .invalidPropertyValue = .ok () := by
  have hdeclared : (parsePropertyDefinition coarse).step = some (3 / 2) := by
    decide +kernel
  have hmin : (parsePropertyDefinition coarse).min = none := by decide +kernel
  have hmax : (parsePropertyDefinition coarse).max = none := by decide +kernel
  have hprecision : effectivePrecision (parsePropertyDefinition coarse) =
      0 := by
    decide +kernel
  have hdecimal : ∀ n : ℤ, (parsePropertyDefinition coarse).Decimal n := by
    intro n
    refine ⟨n, ?_⟩
    rw [hprecision]
    simp [GoMath.pow10]
  refine ⟨by decide +kernel, hdecimal 3, ⟨?_, ?_⟩, by decide +kernel,
    hdecimal 2, ?_, by decide +kernel⟩
  · simp [PropertyDefinition.InRange, hmin, hmax]
  · intro step hstep
    rw [hdeclared] at hstep
    cases hstep
    exact ⟨2, by norm_num [hmin]⟩
  · rintro ⟨-, haligned⟩
    obtain ⟨n, hn⟩ := haligned (3 / 2) hdeclared
    rw [hmin, Option.getD_none] at hn
    have hthree : (4 : ℤ) = 3 * n := by
      have hcast : (4 : ℚ) = 3 * n := by linear_combination 2 * hn
      exact_mod_cast hcast
    omega

end Rule

end ThingsModel

end LinkFlow
