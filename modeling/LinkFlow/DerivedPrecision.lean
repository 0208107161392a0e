/-
The precision of a definition that declares none: it is read off the digits of
the step and the bounds, and the tolerance of the loop changes nothing.
-/
import LinkFlow.ValueAgreement
import LinkFlow.Lib.DecimalDigits

namespace LinkFlow

namespace ThingsModel

open DecimalDigits

/-- The numbers the precision is derived from. -/
def PropertyDefinition.Declares (definition : PropertyDefinition) (x : ℚ) :
    Prop :=
  x ∈ definition.step ∨ x ∈ definition.min ∨ x ∈ definition.max

/-- Every declared number has at most `k` digits after the point. -/
def PropertyDefinition.EndsBy (definition : PropertyDefinition) (k : ℕ) :
    Prop :=
  ∀ x, definition.Declares x → DecimalDigits.EndsBy x k

section Loop

/-- Behind eight digits the tolerance accepts nothing but integers. -/
theorem rounded_iff {x : ℚ} {k : ℕ} (hends : DecimalDigits.EndsBy x k)
    (hk : k ≤ 8) :
    |x - GoMath.round x| < precisionEpsilon ↔ ∃ n : ℤ, x = n := by
  constructor
  · intro hnear
    refine ⟨GoMath.round x, ?_⟩
    by_contra hne
    have hapart := (hends.mono hk).apart hne
    rw [precisionEpsilon] at hnear
    norm_num at hapart hnear
    linarith
  · rintro ⟨n, rfl⟩
    rw [GoMath.round_intCast, sub_self, abs_zero]
    rw [precisionEpsilon]
    norm_num

/-- The loop stops at the number of digits: the step is one more scale. -/
theorem decimalDigitsFrom_eq {x : ℚ} {d : ℕ} (hd : d ≤ 8)
    (hdigits : HasDigits x d) {digits fuel : ℕ} (hle : digits ≤ d)
    (hlt : d < digits + fuel) : decimalDigitsFrom x digits fuel = d := by
  induction fuel generalizing digits with
  | zero => omega
  | succ fuel ih =>
      have habs : DecimalDigits.EndsBy |x| 8 :=
        endsBy_abs_iff.mpr (hdigits.endsBy_iff.mpr hd)
      have hscale := habs.mul_pow (hle.trans hd)
      have hstop : (|(|x| * GoMath.pow10 digits) -
          GoMath.round (|x| * GoMath.pow10 digits)| < precisionEpsilon) ↔
          d ≤ digits := by
        rw [show GoMath.pow10 digits = 10 ^ digits from zpow_natCast 10 digits,
          rounded_iff hscale (Nat.sub_le 8 digits), ← hdigits.endsBy_iff,
          ← endsBy_abs_iff]
        rfl
      rw [decimalDigitsFrom]
      simp only [hstop]
      by_cases hreached : d ≤ digits
      · rw [if_pos hreached]
        omega
      · rw [if_neg hreached]
        exact ih (by omega) (by omega)

theorem decimalDigits_eq {x : ℚ} {d : ℕ} (hd : d ≤ 8)
    (hdigits : HasDigits x d) :
    decimalDigits x = d :=
  decimalDigitsFrom_eq hd hdigits (Nat.zero_le d) (by omega)

theorem decimalDigits_le_iff {x : ℚ} (hshort : DecimalDigits.EndsBy x 8)
    {k : ℕ} :
    decimalDigits x ≤ k ↔ DecimalDigits.EndsBy x k := by
  obtain ⟨d, hd, hdigits⟩ := hshort.exists_hasDigits
  rw [decimalDigits_eq hd hdigits, hdigits.endsBy_iff]

end Loop

section Definition

variable {definition : PropertyDefinition}

/-- The digits of a field, none where it is not declared. -/
theorem elim_decimalDigits_le_iff {field : Option ℚ} {k : ℕ}
    (hshort : ∀ x ∈ field, DecimalDigits.EndsBy x 8) :
    field.elim 0 decimalDigits ≤ k ↔ ∀ x ∈ field, DecimalDigits.EndsBy x k := by
  cases field with
  | none => simp
  | some x =>
      have hx := hshort x rfl
      simp only [Option.elim_some, Option.mem_def,
        Option.some.injEq, forall_eq']
      exact decimalDigits_le_iff hx

theorem PropertyDefinition.endsBy_iff {k : ℕ} : definition.EndsBy k ↔
    (∀ x ∈ definition.step, DecimalDigits.EndsBy x k) ∧
    (∀ x ∈ definition.min, DecimalDigits.EndsBy x k) ∧
    ∀ x ∈ definition.max, DecimalDigits.EndsBy x k := by
  constructor
  · intro hends
    exact ⟨fun x hx => hends x (Or.inl hx),
      fun x hx => hends x (Or.inr (Or.inl hx)),
      fun x hx => hends x (Or.inr (Or.inr hx))⟩
  · rintro ⟨hstep, hmin, hmax⟩ x (hx | hx | hx)
    · exact hstep x hx
    · exact hmin x hx
    · exact hmax x hx

/-- The derived precision is the maximum over the three fields. -/
theorem effectivePrecision_isLeast (hprecision : definition.precision = none)
    (hshort : definition.EndsBy 8) :
    ∃ k : ℕ, effectivePrecision definition = k ∧
      IsLeast { k | definition.EndsBy k } k := by
  obtain ⟨hstep, hmin, hmax⟩ := PropertyDefinition.endsBy_iff.mp hshort
  refine ⟨max (max (definition.step.elim 0 decimalDigits)
    (definition.min.elim 0 decimalDigits))
    (definition.max.elim 0 decimalDigits), ?_, ?_⟩
  · rw [effectivePrecision]
    rw [hprecision]
  · have hiff : ∀ k : ℕ, definition.EndsBy k ↔
        max (max (definition.step.elim 0 decimalDigits)
          (definition.min.elim 0 decimalDigits))
          (definition.max.elim 0 decimalDigits) ≤ k := by
      intro k
      rw [PropertyDefinition.endsBy_iff, max_le_iff, max_le_iff,
        elim_decimalDigits_le_iff hstep, elim_decimalDigits_le_iff hmin,
        elim_decimalDigits_le_iff hmax, and_assoc]
    refine ⟨(hiff _).mpr le_rfl, ?_⟩
    intro k hk
    exact (hiff k).mp hk

/-- A positive step is a positive number of units. -/
theorem round_pos_of_integer {x scale : ℚ} (hx : 0 < x) (hscale : 0 < scale)
    (hinteger : ∃ n : ℤ, x * scale = n) : 0 < GoMath.round (x * scale) := by
  obtain ⟨n, hn⟩ := hinteger
  have hpos : 0 < x * scale := mul_pos hx hscale
  rw [hn] at hpos ⊢
  rw [GoMath.round_intCast]
  exact_mod_cast hpos

/-- The step is refused only where it rounds to nothing. -/
theorem validateNumericConstraints_ne_invalidStep {name : String} {value : ℚ}
    {sentinel : Sentinel}
    (hstep : ∀ step ∈ definition.step,
      0 < GoMath.round (step * GoMath.pow10 (effectivePrecision definition)))
    (step : ℚ) :
    validateNumericConstraints name definition value sentinel ≠
      .error ⟨sentinel, name, .invalidStep step⟩ := by
  rw [validateNumericConstraints]
  split
  · simp
  · simp
  · simp only
    split
    · simp
    · split
      · simp
      next declared hdeclared =>
        have hpos := hstep declared hdeclared
        rw [if_neg (by omega)]
        split <;> simp

/-- The precision that a definition without one is checked with. -/
structure PropertyDefinition.ExactlyScaled (definition : PropertyDefinition) :
    Prop where
  integers : ∀ x, definition.Declares x →
    ∃ n : ℤ, x * GoMath.pow10 (effectivePrecision definition) = n
  steps : ∀ step ∈ definition.step, 0 < step →
    0 < GoMath.round (step * GoMath.pow10 (effectivePrecision definition))
  accepted : (∀ step ∈ definition.step, 0 < step) →
    ∀ name value sentinel step,
      validateNumericConstraints name definition value sentinel ≠
        .error ⟨sentinel, name, .invalidStep step⟩
  least : ∃ k : ℕ, effectivePrecision definition = k ∧
    IsLeast { k | definition.EndsBy k } k

/-- The digits of a number are counted exactly, and the precision they give the
definition is the least that leaves nothing behind the point. -/
theorem derived_precision :
    (∀ (x : ℚ) (d : ℕ), d ≤ 8 → HasDigits x d → decimalDigits x = d) ∧
    ∀ definition : PropertyDefinition, definition.precision = none →
      definition.EndsBy 8 → definition.ExactlyScaled := by
  refine ⟨fun x d hd hdigits => decimalDigits_eq hd hdigits, ?_⟩
  intro definition hprecision hshort
  obtain ⟨k, hk, hleast⟩ := effectivePrecision_isLeast hprecision hshort
  have hintegers : ∀ x, definition.Declares x →
      ∃ n : ℤ, x * GoMath.pow10 (effectivePrecision definition) = n := by
    intro x hx
    obtain ⟨n, hn⟩ := hleast.1 x hx
    refine ⟨n, ?_⟩
    rw [hk, GoMath.pow10, zpow_natCast]
    exact hn
  have hsteps : ∀ step ∈ definition.step, 0 < step →
      0 < GoMath.round (step *
        GoMath.pow10 (effectivePrecision definition)) := by
    intro step hstep hpos
    exact round_pos_of_integer hpos (zpow_pos (by norm_num) _)
      (hintegers step (Or.inl hstep))
  refine ⟨hintegers, hsteps, ?_, k, hk, hleast⟩
  intro hpositive name value sentinel step
  apply validateNumericConstraints_ne_invalidStep
  intro declared hdeclared
  exact hsteps declared hdeclared (hpositive declared hdeclared)

/-- Steps of a quarter from one half. -/
def quarters : PropertyDefinition where
  dataType := "float"
  required := true
  min := some (1 / 2)
  max := none
  step := some (1 / 4)
  precision := none

theorem derived_precision_quarters :
    decimalDigits (1 / 4) = 2 ∧ quarters.ExactlyScaled := by
  have hquarter : DecimalDigits.EndsBy (1 / 4) 2 := ⟨25, by norm_num⟩
  have hhalf : DecimalDigits.EndsBy (1 / 2) 1 := ⟨5, by norm_num⟩
  have hdigits : HasDigits (1 / 4) 2 := by
    obtain ⟨d, hd, hdigits⟩ := hquarter.exists_hasDigits
    have hcount := decimalDigits_eq (by omega) hdigits
    have htwo : decimalDigits (1 / 4) = 2 := by decide +kernel
    rwa [← htwo, hcount]
  refine ⟨derived_precision.1 (1 / 4) 2 (by omega) hdigits,
    derived_precision.2 quarters rfl ?_⟩
  rintro x (hx | hx | hx)
  · cases hx
    exact hquarter.mono (by omega)
  · cases hx
    exact hhalf.mono (by omega)
  · cases hx

end Definition

end ThingsModel

end LinkFlow
