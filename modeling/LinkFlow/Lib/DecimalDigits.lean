/-
How many decimal digits a rational has after the point.
-/
import Mathlib.Data.Rat.Floor
import Mathlib.Order.Bounds.Basic
import Mathlib.Tactic.FieldSimp
import Mathlib.Tactic.Linarith
import Mathlib.Tactic.Positivity

namespace DecimalDigits

/-- No digit of `x` stands behind the first `k` after the point. -/
def EndsBy (x : ℚ) (k : ℕ) : Prop := ∃ n : ℤ, x * 10 ^ k = n

/-- The shortest decimal expansion of `x` has `d` digits after the point. -/
def HasDigits (x : ℚ) (d : ℕ) : Prop := IsLeast { k | EndsBy x k } d

variable {x : ℚ} {j k : ℕ}

theorem EndsBy.mono (hends : EndsBy x j) (hle : j ≤ k) : EndsBy x k := by
  obtain ⟨n, hn⟩ := hends
  obtain ⟨more, rfl⟩ := Nat.exists_eq_add_of_le hle
  refine ⟨n * 10 ^ more, ?_⟩
  rw [pow_add, ← mul_assoc, hn]
  push_cast
  rfl

theorem EndsBy.neg (hends : EndsBy x k) : EndsBy (-x) k := by
  obtain ⟨n, hn⟩ := hends
  refine ⟨-n, ?_⟩
  rw [neg_mul, hn]
  push_cast
  rfl

theorem endsBy_neg_iff : EndsBy (-x) k ↔ EndsBy x k := by
  constructor
  · intro hends
    rw [← neg_neg x]
    exact hends.neg
  · exact EndsBy.neg

/-- The sign does not count. -/
theorem endsBy_abs_iff : EndsBy |x| k ↔ EndsBy x k := by
  rcases abs_choice x with habs | habs
  · rw [habs]
  · rw [habs, endsBy_neg_iff]

/-- Scaling moves the point. -/
theorem EndsBy.mul_pow (hends : EndsBy x k) (hle : j ≤ k) :
    EndsBy (x * 10 ^ j) (k - j) := by
  obtain ⟨n, hn⟩ := hends
  refine ⟨n, ?_⟩
  rw [mul_assoc, ← pow_add, Nat.add_sub_cancel' hle, hn]

/-- A number with `k` digits after the point that is not the integer `n` is no
nearer to it than one unit of its last digit. -/
theorem EndsBy.apart (hends : EndsBy x k) {n : ℤ} (hne : x ≠ n) :
    1 / 10 ^ k ≤ |x - n| := by
  obtain ⟨m, hm⟩ := hends
  have hpos : (0 : ℚ) < 10 ^ k := by positivity
  have hdiff : (x - n) * 10 ^ k = (m - n * 10 ^ k : ℤ) := by
    push_cast
    rw [sub_mul, hm]
  have hnonzero : m - n * 10 ^ k ≠ 0 := by
    intro hzero
    rw [hzero, Int.cast_zero] at hdiff
    rcases mul_eq_zero.mp hdiff with hsub | hpow
    · exact hne (sub_eq_zero.mp hsub)
    · exact hpos.ne' hpow
  have hone : (1 : ℚ) ≤ |x - n| * 10 ^ k := by
    have hint : (1 : ℤ) ≤ |m - n * 10 ^ k| := Int.one_le_abs hnonzero
    have habs : |x - n| * 10 ^ k = |(x - n) * 10 ^ k| := by
      rw [abs_mul, abs_of_pos hpos]
    rw [habs, hdiff]
    exact_mod_cast hint
  rw [div_le_iff₀ hpos]
  exact hone

theorem HasDigits.endsBy_iff {d : ℕ} (hdigits : HasDigits x d) :
    EndsBy x k ↔ d ≤ k := by
  constructor
  · intro hends
    exact hdigits.2 hends
  · intro hle
    exact EndsBy.mono hdigits.1 hle

/-- Whoever has at most `k` digits has some number of them. -/
theorem EndsBy.exists_hasDigits (hends : EndsBy x k) :
    ∃ d ≤ k, HasDigits x d := by
  classical
  have hexists : ∃ d, EndsBy x d := ⟨k, hends⟩
  refine ⟨Nat.find hexists, Nat.find_le hends, Nat.find_spec hexists, ?_⟩
  intro d hd
  exact Nat.find_le hd

end DecimalDigits
