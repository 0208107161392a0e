/-
Go's `math` functions on exact rationals: rounding, truncation, remainder and
powers of ten.
-/
import Mathlib.Data.Rat.Floor
import Mathlib.Tactic.FieldSimp
import Mathlib.Tactic.Ring
import Mathlib.Tactic.Linarith
import Mathlib.Tactic.Positivity

namespace GoMath

/-- `math.Trunc` rounds towards zero. -/
def trunc (x : ℚ) : ℤ := if 0 ≤ x then ⌊x⌋ else ⌈x⌉

/-- `math.Round` rounds to the nearest integer and halves away from zero. -/
def round (x : ℚ) : ℤ :=
  if 0 ≤ x then ⌊x + 1 / 2⌋ else ⌈x - 1 / 2⌉

/-- `math.Mod` has the sign of its first argument. -/
def mod (x y : ℚ) : ℚ := x - y * trunc (x / y)

/-- `math.Pow10`. -/
def pow10 (n : ℤ) : ℚ := 10 ^ n

/-- `int(x)` with 64 bits.  Go leaves it to the machine what a number out of
range becomes; on amd64 it is the least `int`. -/
def toInt (x : ℚ) : ℤ :=
  if -2 ^ 63 ≤ trunc x ∧ trunc x < 2 ^ 63 then trunc x else -2 ^ 63

@[simp] theorem trunc_intCast (n : ℤ) : trunc n = n := by
  rw [trunc]
  split <;> simp

@[simp] theorem round_intCast (n : ℤ) : round n = n := by
  rw [round]
  split
  · rw [Int.floor_intCast_add]
    norm_num
  · rw [sub_eq_add_neg, Int.ceil_intCast_add]
    norm_num

theorem trunc_eq_self_iff {x : ℚ} : (trunc x : ℚ) = x ↔ ∃ n : ℤ, x = n := by
  constructor
  · intro hself
    exact ⟨trunc x, hself.symm⟩
  · rintro ⟨n, rfl⟩
    rw [trunc_intCast]

/-- A natural number survives the conversion exactly when it fits. -/
theorem toInt_eq_self_iff {x : ℚ} (hnonneg : 0 ≤ x) :
    (toInt x : ℚ) = x ↔ (∃ n : ℤ, x = n) ∧ x < 2 ^ 63 := by
  constructor
  · intro hself
    refine ⟨⟨_, hself.symm⟩, ?_⟩
    have hbound : toInt x < 2 ^ 63 := by
      rw [toInt]
      split
      next hfits => exact hfits.2
      next => norm_num
    rw [← hself]
    exact_mod_cast hbound
  · rintro ⟨⟨n, rfl⟩, hbound⟩
    have hlow : 0 ≤ n := by exact_mod_cast hnonneg
    have hhigh : n < 2 ^ 63 := by exact_mod_cast hbound
    rw [toInt, trunc_intCast, if_pos ⟨by omega, hhigh⟩]

/-- The remainder is zero exactly for the multiples. -/
theorem mod_eq_zero_iff {x y : ℚ} (hy : 0 < y) :
    mod x y = 0 ↔ ∃ n : ℤ, x = n * y := by
  have hne : y ≠ 0 := hy.ne'
  have hquotient : mod x y = 0 ↔ (trunc (x / y) : ℚ) = x / y := by
    rw [mod]
    rw [sub_eq_zero, eq_div_iff hne, mul_comm y, eq_comm]
  rw [hquotient, trunc_eq_self_iff]
  constructor
  · rintro ⟨n, hn⟩
    exact ⟨n, (div_eq_iff hne).mp hn⟩
  · rintro ⟨n, hn⟩
    exact ⟨n, (div_eq_iff hne).mpr hn⟩

end GoMath
