/-
The integers on a grid with a rational origin and a rational step, and what it
takes that a grid with an integer origin and step has the same integers.
-/
import LinkFlow.Lib.GoMath
import Mathlib.Data.Int.ConditionallyCompleteOrder
import Mathlib.Order.Interval.Set.OrdConnected
import Mathlib.Data.Rat.Lemmas
import Mathlib.RingTheory.Coprime.Lemmas
import Mathlib.Tactic.LinearCombination

namespace StepGrid

/-- A whole number of steps away from the origin. -/
def Aligned (origin step value : ℚ) : Prop :=
  ∃ n : ℤ, value - origin = n * step

variable {origin step : ℚ}

theorem num_eq_den_mul (step : ℚ) : (step.num : ℚ) = step.den * step := by
  rw [mul_comm]
  exact (Rat.mul_den_eq_num step).symm

/-- The numerator of the step leads from one integer of the grid to another. -/
theorem Aligned.add_num {value : ℚ} (haligned : Aligned origin step value) :
    Aligned origin step (value + step.num) := by
  obtain ⟨n, hn⟩ := haligned
  refine ⟨n + step.den, ?_⟩
  rw [num_eq_den_mul]
  push_cast
  linear_combination hn

theorem num_dvd_of_eq_mul {difference n : ℤ}
    (hdifference : (difference : ℚ) = n * step) : step.num ∣ difference := by
  have hcross : difference * step.den = n * step.num := by
    have hcast : (difference : ℚ) * step.den = n * step.num := by
      rw [hdifference, num_eq_den_mul]
      ring
    exact_mod_cast hcast
  have hcoprime : IsCoprime step.num (step.den : ℤ) := by
    rw [Int.isCoprime_iff_gcd_eq_one]
    exact step.reduced
  exact hcoprime.dvd_of_dvd_mul_right (Dvd.intro_left n hcross.symm)

/-- The integers of a grid lie in one class modulo the numerator of its step. -/
theorem Aligned.num_dvd_sub {value other : ℤ}
    (hvalue : Aligned origin step value) (hother : Aligned origin step other) :
    step.num ∣ other - value := by
  obtain ⟨n, hn⟩ := hvalue
  obtain ⟨m, hm⟩ := hother
  have hdifference : ((other - value : ℤ) : ℚ) = (m - n : ℤ) * step := by
    push_cast
    linear_combination hm - hn
  exact num_dvd_of_eq_mul hdifference

/-- Two integers on both grids, and no integer between them on one grid only,
give the integer grid the numerator of the step. -/
theorem stride_eq_num {range : Set ℤ} [range.OrdConnected] {start stride : ℤ}
    (hstep : 0 < step)
    (hagree : ∀ value ∈ range, (0 < stride ∧ stride ∣ value - start) ↔
      Aligned origin step value)
    {value other : ℤ} (hvalue : value ∈ range) (hother : other ∈ range)
    (hlt : value < other) (hfirst : Aligned origin step value)
    (hsecond : Aligned origin step other) : stride = step.num := by
  have hnum : 0 < step.num := Rat.num_pos.mpr hstep
  obtain ⟨hstride, hdvd⟩ := (hagree value hvalue).mpr hfirst
  obtain ⟨-, hdvdOther⟩ := (hagree other hother).mpr hsecond
  have hbetween : ∀ gap, 0 < gap → gap ∣ other - value →
      value + gap ∈ range := by
    intro gap hpos hgap
    have hle := Int.le_of_dvd (by omega) hgap
    exact Set.OrdConnected.out ‹_› hvalue hother ⟨by omega, by omega⟩
  apply Int.dvd_antisymm hstride.le hnum.le
  · have hmem := hbetween _ hnum (hfirst.num_dvd_sub hsecond)
    have hnext : Aligned origin step ((value + step.num : ℤ) : ℚ) := by
      push_cast
      exact hfirst.add_num
    have hdvdNext := ((hagree _ hmem).mpr hnext).2
    have hsub := Int.dvd_sub hdvdNext hdvd
    rwa [show value + step.num - start - (value - start) = step.num by ring]
      at hsub
  · have hgap : stride ∣ other - value := by
      have hsub := Int.dvd_sub hdvdOther hdvd
      rwa [sub_sub_sub_cancel_right] at hsub
    have hmem := hbetween _ hstride hgap
    have hnext : Aligned origin step ((value + stride : ℤ) : ℚ) := by
      refine (hagree _ hmem).mp ⟨hstride, ?_⟩
      rw [add_sub_right_comm]
      exact Int.dvd_add hdvd (Int.dvd_refl stride)
    have hsub := hfirst.num_dvd_sub hnext
    rwa [add_sub_cancel_left] at hsub

/-- Rounding a step gives its numerator for integers and for one half only. -/
theorem round_eq_num_iff (hstep : 0 < step) :
    GoMath.round step = step.num ↔ (∃ n : ℤ, step = n) ∨ step = 1 / 2 := by
  constructor
  · intro hround
    have hnum : 0 < step.num := Rat.num_pos.mpr hstep
    have hle : (step.num : ℚ) ≤ step + 1 / 2 := by
      rw [← hround, GoMath.round, if_pos hstep.le]
      exact Int.floor_le _
    by_cases hden : step.den = 1
    · exact Or.inl ⟨step.num, by rw [num_eq_den_mul, hden]; simp⟩
    · right
      have htwo : 2 ≤ step.den := by
        have hpos := step.den_pos
        omega
      have hcast : (2 : ℚ) ≤ step.den := by exact_mod_cast htwo
      have heq := num_eq_den_mul step
      have hone : step.num = 1 := by
        have hsmall : (step.num : ℚ) < 2 := by nlinarith
        have hlt : step.num < 2 := by exact_mod_cast hsmall
        omega
      rw [hone] at heq hle
      push_cast at heq hle
      nlinarith
  · rintro (⟨n, rfl⟩ | rfl)
    · rw [GoMath.round_intCast, Rat.num_intCast]
    · decide +kernel

end StepGrid
