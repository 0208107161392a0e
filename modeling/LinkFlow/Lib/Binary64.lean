/-
The 64-bit floating-point numbers as rationals: rounding to the nearest one, and
the shortest decimal that reads back as a given one.
-/
import Mathlib.Data.Int.Log
import Mathlib.Data.Rat.Floor
import Mathlib.Algebra.Order.Field.Power
import Mathlib.Tactic.FieldSimp
import Mathlib.Tactic.Linarith
import Mathlib.Tactic.LinearCombination
import Mathlib.Tactic.NormNum
import Mathlib.Tactic.Positivity

namespace Binary64

/-- To the nearest integer, halves to the even one. -/
def roundEven (y : ℚ) : ℤ :=
  if y - ⌊y⌋ < 1 / 2 then ⌊y⌋
  else if 1 / 2 < y - ⌊y⌋ then ⌊y⌋ + 1
  else if ⌊y⌋ % 2 = 0 then ⌊y⌋
  else ⌊y⌋ + 1

/-- The exponent of the last of the 53 binary digits. -/
def exponent (x : ℚ) : ℤ := max (Int.log 2 |x| - 52) (-1074)

/-- The unit of the last digit. -/
def ulp (x : ℚ) : ℚ := 2 ^ exponent x

/-- The nearest number of 53 binary digits. -/
def round (x : ℚ) : ℚ := roundEven (x / ulp x) * ulp x

/-- Beyond this the nearest number is an infinity. -/
def InRange (x : ℚ) : Prop := |round x| < 2 ^ 1024

instance (x : ℚ) : Decidable (InRange x) :=
  inferInstanceAs (Decidable (|round x| < 2 ^ 1024))

/-- The decimals with `d + 1` digits around `f`, the nearest one first. -/
def candidates (f : ℚ) (d : ℕ) : List ℚ :=
  let unit : ℚ := 10 ^ (Int.log 10 f - d)
  [roundEven (f / unit) * unit, ⌊f / unit⌋ * unit, (⌊f / unit⌋ + 1) * unit]

/-- Try one digit more until a decimal reads back as `f`. -/
def shortestFrom (f : ℚ) (d : ℕ) : ℕ → ℚ
  | 0 => f
  | fuel + 1 =>
      match (candidates f d).find? fun c => round c = f with
      | some c => c
      | none => shortestFrom f (d + 1) fuel

/-- The shortest decimal that reads as `f`, the nearest one of that length.  One
with 17 digits always does. -/
def shortest (f : ℚ) : ℚ :=
  if f < 0 then -shortestFrom (-f) 0 17 else shortestFrom f 0 17

/-- What is left of a decimal that is read as a floating-point number and
written again. -/
def carried (x : ℚ) : ℚ := shortest (round x)

section RoundEven

variable {y : ℚ} {n : ℤ}

theorem abs_sub_roundEven_le (y : ℚ) : |y - roundEven y| ≤ 1 / 2 := by
  have hlow := Int.floor_le y
  have hhigh := Int.lt_floor_add_one y
  rw [abs_le]
  rw [roundEven]
  split_ifs <;> push_cast <;> constructor <;> linarith

/-- Two integers less than one apart are equal. -/
theorem eq_of_abs_sub_lt_one {m : ℤ} (hlt : |(m : ℚ) - n| < 1) : m = n := by
  have hcast : |m - n| < 1 := by exact_mod_cast hlt
  rw [Int.abs_lt_one_iff] at hcast
  omega

theorem roundEven_eq_of_lt (hlt : |y - n| < 1 / 2) : roundEven y = n := by
  have hround := abs_sub_roundEven_le y
  apply eq_of_abs_sub_lt_one
  calc
    |(roundEven y : ℚ) - n| ≤ |(roundEven y : ℚ) - y| + |y - n| :=
      abs_sub_le _ _ _
    _ = |y - roundEven y| + |y - n| := by rw [abs_sub_comm]
    _ < 1 := by linarith

@[simp] theorem roundEven_intCast (n : ℤ) : roundEven n = n := by
  apply roundEven_eq_of_lt
  rw [sub_self, abs_zero]
  norm_num

@[simp] theorem roundEven_zero : roundEven 0 = 0 := by
  exact_mod_cast roundEven_intCast 0

/-- A half goes to the even neighbour. -/
theorem roundEven_eq_of_half (hhalf : |y - n| = 1 / 2) (heven : n % 2 = 0) :
    roundEven y = n := by
  rcases abs_choice (y - n) with habs | habs
  · have hy : y = n + 1 / 2 := by linarith
    have hfloor : ⌊y⌋ = n := by
      rw [Int.floor_eq_iff, hy]
      constructor <;> linarith
    rw [roundEven]
    rw [hfloor, hy, if_neg (by linarith), if_neg (by linarith), if_pos heven]
  · have hy : y = n - 1 / 2 := by linarith
    have hfloor : ⌊y⌋ = n - 1 := by
      rw [Int.floor_eq_iff, hy]
      push_cast
      constructor <;> linarith
    rw [roundEven]
    rw [hfloor, hy]
    push_cast
    rw [if_neg (by linarith), if_neg (by linarith), if_neg (by omega)]
    omega

theorem roundEven_even_of_half (hhalf : |y - roundEven y| = 1 / 2) :
    roundEven y % 2 = 0 := by
  have hlow := Int.floor_le y
  have hhigh := Int.lt_floor_add_one y
  rw [roundEven] at hhalf ⊢
  split_ifs at hhalf ⊢ with hbelow habove heven
  · rw [abs_of_nonneg (by linarith)] at hhalf
    linarith
  · push_cast at hhalf
    rw [abs_of_nonpos (by linarith)] at hhalf
    linarith
  · exact heven
  · omega

theorem roundEven_neg (y : ℚ) : roundEven (-y) = -roundEven y := by
  have hdistance : |-y - (-roundEven y : ℤ)| = |y - roundEven y| := by
    push_cast
    rw [← abs_neg]
    ring_nf
  rcases (abs_sub_roundEven_le y).lt_or_eq with hlt | heq
  · apply roundEven_eq_of_lt
    rw [hdistance]
    exact hlt
  · have heven := roundEven_even_of_half heq
    apply roundEven_eq_of_half
    · rw [hdistance]
      exact heq
    · omega

theorem le_roundEven (hle : n ≤ y) : n ≤ roundEven y := by
  have hfloor : n ≤ ⌊y⌋ := Int.le_floor.mpr hle
  rw [roundEven]
  split_ifs <;> omega

theorem roundEven_le (hle : y ≤ n) : roundEven y ≤ n := by
  have hneg := le_roundEven (y := -y) (n := -n) (by push_cast; linarith)
  rw [roundEven_neg] at hneg
  omega

end RoundEven

section Round

variable {x c f : ℚ}

theorem ulp_pos (x : ℚ) : 0 < ulp x := by
  exact zpow_pos (by norm_num) _

@[simp] theorem exponent_neg (x : ℚ) : exponent (-x) = exponent x := by
  unfold exponent
  rw [abs_neg]

theorem round_neg (x : ℚ) : round (-x) = -round x := by
  unfold round ulp
  rw [exponent_neg, neg_div, roundEven_neg]
  push_cast
  ring

@[simp] theorem round_zero : round 0 = 0 := by
  rw [round]
  rw [zero_div, roundEven_zero]
  simp

/-- Half a unit of the last digit is lost at most. -/
theorem abs_sub_round_le (x : ℚ) : |x - round x| ≤ ulp x / 2 := by
  have hpos := ulp_pos x
  have hscaled : x - round x = (x / ulp x - roundEven (x / ulp x)) * ulp x := by
    rw [round]
    field_simp
  rw [hscaled, abs_mul, abs_of_pos hpos]
  have hround := abs_sub_roundEven_le (x / ulp x)
  calc
    |x / ulp x - roundEven (x / ulp x)| * ulp x ≤ 1 / 2 * ulp x :=
      mul_le_mul_of_nonneg_right hround hpos.le
    _ = ulp x / 2 := by ring

/-- A multiple of a power of two that is no finer than the last digit stays. -/
theorem round_eq_self {k e : ℤ} (hx : x = k * 2 ^ e) (he : exponent x ≤ e) :
    round x = x := by
  obtain ⟨more, hmore⟩ := Int.le.dest he
  have hpower : (2 : ℚ) ^ e = ulp x * 2 ^ more := by
    rw [ulp, ← hmore, zpow_add₀ (by norm_num), zpow_natCast]
  have hquotient : x / ulp x = (k * 2 ^ more : ℤ) := by
    rw [div_eq_iff (ulp_pos x).ne']
    push_cast
    linear_combination hx + k * hpower
  rw [round]
  rw [hquotient, roundEven_intCast, ← hquotient,
    div_mul_cancel₀ _ (ulp_pos x).ne']

theorem exponent_le {e : ℤ} (hne : x ≠ 0) (hbound : |x| < 2 ^ (e + 53))
    (he : -1074 ≤ e) : exponent x ≤ e := by
  have hlog := (Int.lt_zpow_iff_log_lt Nat.one_lt_two (abs_pos.mpr hne)).mp
    (by exact_mod_cast hbound)
  rw [exponent]
  omega

theorem lt_two_zpow (x : ℚ) : |x| < 2 ^ (exponent x + 53) := by
  have hlog : |x| < 2 ^ (Int.log 2 |x| + 1) := by
    exact_mod_cast Int.lt_zpow_succ_log_self Nat.one_lt_two |x|
  refine hlog.trans_le (zpow_le_zpow_right₀ (by norm_num) ?_)
  rw [exponent]
  omega

/-- No more than 53 binary digits are left. -/
theorem abs_roundEven_le (x : ℚ) : |roundEven (x / ulp x)| ≤ 2 ^ 53 := by
  have hpos := ulp_pos x
  have hsplit : (2 : ℚ) ^ (exponent x + 53) = 2 ^ 53 * ulp x := by
    rw [ulp, zpow_add₀ (by norm_num), mul_comm]
    norm_num
  have hquotient : |x / ulp x| ≤ 2 ^ 53 := by
    rw [abs_div, abs_of_pos hpos, div_le_iff₀ hpos, ← hsplit]
    exact (lt_two_zpow x).le
  obtain ⟨hlow, hhigh⟩ := abs_le.mp hquotient
  rw [abs_le]
  constructor
  · apply le_roundEven
    push_cast
    exact hlow
  · apply roundEven_le
    push_cast
    exact hhigh

/-- A floating-point number is rounded to itself. -/
theorem round_round (x : ℚ) : round (round x) = round x := by
  have hround : round x = roundEven (x / ulp x) * 2 ^ exponent x := rfl
  have hmin : -1074 ≤ exponent x := le_max_right _ _
  by_cases hzero : round x = 0
  · rw [hzero, round_zero]
  have hpower : (0 : ℚ) < 2 ^ exponent x := ulp_pos x
  rcases (abs_roundEven_le x).lt_or_eq with hlt | heq
  · refine round_eq_self hround (exponent_le hzero ?_ hmin)
    rw [hround, abs_mul, abs_of_pos hpower, zpow_add₀ (by norm_num), mul_comm]
    apply mul_lt_mul_of_pos_left _ hpower
    exact_mod_cast hlt
  · -- The carry out of the last digit leaves a power of two.
    have hcarry : ∃ sign : ℤ, roundEven (x / ulp x) = sign * 2 ^ 53 := by
      rcases abs_choice (roundEven (x / ulp x)) with habs | habs
      · exact ⟨1, by omega⟩
      · exact ⟨-1, by omega⟩
    obtain ⟨sign, hsign⟩ := hcarry
    have hcoarser : round x = (sign * 2 ^ 52 : ℤ) * 2 ^ (exponent x + 1) := by
      rw [hround, hsign, zpow_add₀ (by norm_num)]
      push_cast
      ring
    refine round_eq_self hcoarser (exponent_le hzero ?_ (by omega))
    rw [hround, abs_mul, abs_of_pos hpower, add_assoc, zpow_add₀ (by norm_num),
      mul_comm]
    apply mul_lt_mul_of_pos_left _ hpower
    have hcast : |(roundEven (x / ulp x) : ℚ)| = 2 ^ 53 := by exact_mod_cast heq
    rw [hcast]
    norm_num

/-- Powers of two of normal numbers are not rounded away from below. -/
theorem le_round {j : ℤ} (hj : -1022 ≤ j) (hle : 2 ^ j ≤ x) :
    2 ^ j ≤ round x := by
  have hpos : 0 < x := lt_of_lt_of_le (zpow_pos (by norm_num) j) hle
  have hlog : j ≤ Int.log 2 |x| := by
    rw [abs_of_pos hpos, ← Int.zpow_le_iff_le_log Nat.one_lt_two hpos]
    exact_mod_cast hle
  have hexponent : exponent x = Int.log 2 |x| - 52 := by
    rw [exponent]
    omega
  have hsplit : (2 : ℚ) ^ Int.log 2 |x| = 2 ^ 52 * ulp x := by
    rw [ulp, hexponent, zpow_sub₀ (by norm_num)]
    norm_num
    ring
  have hself : (2 : ℚ) ^ Int.log 2 |x| ≤ x := by
    have hlow := Int.zpow_log_le_self Nat.one_lt_two (abs_pos.mpr hpos.ne')
    rw [abs_of_pos hpos] at hlow ⊢
    exact_mod_cast hlow
  have hdigits : (2 ^ 52 : ℤ) ≤ roundEven (x / ulp x) := by
    apply le_roundEven
    rw [le_div_iff₀ (ulp_pos x)]
    exact_mod_cast hsplit ▸ hself
  calc
    (2 : ℚ) ^ j ≤ 2 ^ Int.log 2 |x| := zpow_le_zpow_right₀ (by norm_num) hlog
    _ = 2 ^ 52 * ulp x := hsplit
    _ ≤ roundEven (x / ulp x) * ulp x := by
      apply mul_le_mul_of_nonneg_right _ (ulp_pos x).le
      exact_mod_cast hdigits

/-- The relative error of rounding into the normal numbers. -/
theorem abs_sub_le_of_round (hpos : 0 < c) (hround : round c = f)
    (hnormal : 2 ^ (-1022 : ℤ) ≤ f) : |c - f| ≤ max c f / 2 ^ 53 := by
  have herror := abs_sub_round_le c
  rw [hround] at herror
  have hulp : ulp c ≤ max c f / 2 ^ 52 := by
    rw [ulp, exponent]
    rcases max_choice (Int.log 2 |c| - 52) (-1074) with hmax | hmax
    · rw [hmax, zpow_sub₀ (by norm_num)]
      have hlow := Int.zpow_log_le_self Nat.one_lt_two (abs_pos.mpr hpos.ne')
      rw [abs_of_pos hpos] at hlow ⊢
      have hself : (2 : ℚ) ^ Int.log 2 c ≤ max c f :=
        le_max_of_le_left (by exact_mod_cast hlow)
      exact div_le_div_of_nonneg_right hself (by norm_num)
    · rw [hmax]
      have hsplit : (2 : ℚ) ^ (-1074 : ℤ) = 2 ^ (-1022 : ℤ) / 2 ^ 52 :=
        zpow_sub₀ (by norm_num) (-1022) 52
      rw [hsplit]
      have hself := hnormal.trans (le_max_right c f)
      exact div_le_div_of_nonneg_right hself (by norm_num)
  linarith

end Round

section Shortest

variable {x f c : ℚ}

/-- Every answer reads back as the number itself. -/
theorem round_shortestFrom (hf : round f = f) (d fuel : ℕ) :
    round (shortestFrom f d fuel) = f := by
  induction fuel generalizing d with
  | zero => exact hf
  | succ fuel ih =>
      rw [shortestFrom]
      split
      next c hfound => simpa using List.find?_some hfound
      · exact ih (d + 1)

theorem round_shortest (hf : round f = f) : round (shortest f) = f := by
  rw [shortest]
  split
  · have hneg : round (-f) = -f := by rw [round_neg, hf]
    rw [round_neg, round_shortestFrom hneg, neg_neg]
  · exact round_shortestFrom hf 0 17

/-- What has been carried once is carried unchanged from then on. -/
theorem carried_carried (x : ℚ) : carried (carried x) = carried x := by
  unfold carried
  rw [round_shortest (round_round x)]

theorem shortestFrom_zero (fuel : ℕ) : shortestFrom 0 0 (fuel + 1) = 0 := by
  have hfound : (candidates 0 0).find? (fun c => round c = 0) = some 0 := by
    simp [candidates]
  rw [shortestFrom, hfound]

theorem shortest_neg (f : ℚ) : shortest (-f) = -shortest f := by
  unfold shortest
  rcases lt_trichotomy f 0 with hneg | rfl | hpos
  · rw [if_neg (by linarith), if_pos hneg, neg_neg]
  · simp [shortestFrom_zero]
  · rw [if_pos (by linarith), if_neg (by linarith), neg_neg]

theorem carried_neg (x : ℚ) : carried (-x) = -carried x := by
  unfold carried
  rw [round_neg, shortest_neg]

@[simp] theorem carried_zero : carried 0 = 0 := by
  rw [carried, shortest]
  rw [round_zero, if_neg (lt_irrefl 0), shortestFrom_zero]

/-- The search ends with `x` if `x` is among the candidates and no other
candidate of at most as many digits reads as `f`. -/
theorem shortestFrom_eq {n : ℕ} (hmem : x ∈ candidates f n)
    (hround : round x = f)
    (hunique : ∀ d ≤ n, ∀ c ∈ candidates f d, round c = f → c = x)
    {d fuel : ℕ} (hle : d ≤ n) (hlt : n < d + fuel) :
    shortestFrom f d fuel = x := by
  induction fuel generalizing d with
  | zero => omega
  | succ fuel ih =>
      rw [shortestFrom]
      split
      next c hfound =>
        exact hunique d hle c (List.mem_of_find?_eq_some hfound)
          (by simpa using List.find?_some hfound)
      next hnone =>
        rw [List.find?_eq_none] at hnone
        by_cases hlast : d = n
        · subst hlast
          exact absurd (by simpa using hround) (hnone x hmem)
        · exact ih (by omega) (by omega)

/-- A candidate is a number of units between nothing and the next power of
ten. -/
theorem mem_candidates (hf : 0 < f) {d : ℕ} (hmem : c ∈ candidates f d) :
    ∃ k : ℤ, 0 ≤ k ∧ k ≤ 10 ^ (d + 1) ∧ c = k * 10 ^ (Int.log 10 f - d) := by
  have hunit : (0 : ℚ) < 10 ^ (Int.log 10 f - d) := zpow_pos (by norm_num) _
  have hlog := Int.lt_zpow_succ_log_self (by norm_num : 1 < 10) f
  have hquotient : f / 10 ^ (Int.log 10 f - d) < (10 ^ (d + 1) : ℤ) := by
    rw [div_lt_iff₀ hunit]
    push_cast
    rw [← zpow_natCast, ← zpow_add₀ (by norm_num)]
    push_cast at hlog ⊢
    convert hlog using 2
    ring
  have hnonneg : (0 : ℤ) ≤ f / 10 ^ (Int.log 10 f - d) := by
    push_cast
    exact (div_pos hf hunit).le
  have hfloor := Int.floor_nonneg.mpr (by exact_mod_cast hnonneg :
    0 ≤ f / 10 ^ (Int.log 10 f - d))
  have hnext : ⌊f / 10 ^ (Int.log 10 f - d)⌋ < 10 ^ (d + 1) :=
    Int.floor_lt.mpr hquotient
  simp only [candidates, List.mem_cons, List.not_mem_nil, or_false] at hmem
  rcases hmem with rfl | rfl | rfl
  · exact ⟨_, le_roundEven hnonneg, roundEven_le hquotient.le, rfl⟩
  · exact ⟨_, hfloor, hnext.le, rfl⟩
  · exact ⟨_, by omega, hnext, by push_cast; rfl⟩

end Shortest

section Survive

variable {x f c : ℚ}

theorem carried_eq {n : ℕ} (hn : n < 17) (hpos : 0 < round x)
    (hmem : x ∈ candidates (round x) n)
    (hunique : ∀ d ≤ n, ∀ c ∈ candidates (round x) d, round c = round x →
      c = x) :
    carried x = x := by
  rw [carried, shortest]
  rw [if_neg (by linarith)]
  exact shortestFrom_eq hmem rfl hunique (Nat.zero_le n) (by omega)

/-- Different decimals of at most 15 digits are not nearer than that. -/
theorem decimals_apart {k m p q : ℤ} (hk : 0 ≤ k) (hk15 : k ≤ 10 ^ 15)
    (hm : 0 ≤ m) (hm15 : m ≤ 10 ^ 15)
    (hne : (k * 10 ^ p : ℚ) ≠ m * 10 ^ q) :
    min (k * 10 ^ p : ℚ) (m * 10 ^ q) ≤
      10 ^ 15 * |(k * 10 ^ p : ℚ) - m * 10 ^ q| := by
  wlog hle : p ≤ q generalizing k m p q
  · rw [min_comm, abs_sub_comm]
    exact this hm hm15 hk hk15 hne.symm (by omega)
  obtain ⟨more, rfl⟩ := Int.le.dest hle
  have hunit : (0 : ℚ) < 10 ^ p := zpow_pos (by norm_num) p
  have hcommon : (m * 10 ^ (p + more) : ℚ) = (m * 10 ^ more : ℤ) * 10 ^ p := by
    rw [zpow_add₀ (by norm_num), zpow_natCast]
    push_cast
    ring
  rw [hcommon] at hne ⊢
  have hdiff : (k * 10 ^ p : ℚ) - (m * 10 ^ more : ℤ) * 10 ^ p =
      (k - m * 10 ^ more : ℤ) * 10 ^ p := by
    push_cast
    ring
  have hone : (1 : ℚ) ≤ |((k - m * 10 ^ more : ℤ) : ℚ)| := by
    have hint : (1 : ℤ) ≤ |k - m * 10 ^ more| := by
      apply Int.one_le_abs
      intro hzero
      apply hne
      rw [sub_eq_zero.mp hzero]
    exact_mod_cast hint
  rw [hdiff, abs_mul, abs_of_pos hunit]
  have hcast : (k : ℚ) ≤ 10 ^ 15 := by exact_mod_cast hk15
  calc
    min (k * 10 ^ p : ℚ) ((m * 10 ^ more : ℤ) * 10 ^ p) ≤ k * 10 ^ p :=
      min_le_left _ _
    _ ≤ 10 ^ 15 * 10 ^ p := mul_le_mul_of_nonneg_right hcast hunit.le
    _ ≤ 10 ^ 15 * (|((k - m * 10 ^ more : ℤ) : ℚ)| * 10 ^ p) := by
      apply mul_le_mul_of_nonneg_left _ (by norm_num)
      exact le_mul_of_one_le_left hunit.le hone

/-- Two decimals of at most 15 digits that read as one normal number are
equal. -/
theorem decimals_eq {k m p q : ℤ} (hk : 0 < k) (hk15 : k ≤ 10 ^ 15) (hm : 0 < m)
    (hm15 : m ≤ 10 ^ 15) (hfirst : round (k * 10 ^ p) = f)
    (hsecond : round (m * 10 ^ q) = f) (hnormal : 2 ^ (-1022 : ℤ) ≤ f) :
    (k * 10 ^ p : ℚ) = m * 10 ^ q := by
  by_contra hne
  have hpos : (0 : ℚ) < k * 10 ^ p :=
    mul_pos (by exact_mod_cast hk) (zpow_pos (by norm_num) p)
  have hpos' : (0 : ℚ) < m * 10 ^ q :=
    mul_pos (by exact_mod_cast hm) (zpow_pos (by norm_num) q)
  have hapart := decimals_apart hk.le hk15 hm.le hm15 hne
  have herror := abs_sub_le_of_round hpos hfirst hnormal
  have herror' := abs_sub_le_of_round hpos' hsecond hnormal
  have htriangle := abs_sub_le (k * 10 ^ p : ℚ) f (m * 10 ^ q)
  rw [abs_sub_comm f] at htriangle
  generalize (k * 10 ^ p : ℚ) = c at *
  generalize (m * 10 ^ q : ℚ) = x at *
  have hfpos : 0 < f := lt_of_lt_of_le (zpow_pos (by norm_num) _) hnormal
  obtain ⟨hclow, hchigh⟩ := abs_le.mp herror
  obtain ⟨hxlow, hxhigh⟩ := abs_le.mp herror'
  have hcmax : max c f ≤ 2 * f := by
    rcases max_choice c f with hmax | hmax <;> rw [hmax] at hchigh ⊢ <;>
      linarith
  have hxmax : max x f ≤ 2 * f := by
    rcases max_choice x f with hmax | hmax <;> rw [hmax] at hxhigh ⊢ <;>
      linarith
  have hmin : f / 2 ≤ min c x := by
    rw [le_min_iff]
    constructor
    · rcases max_choice c f with hmax | hmax <;> rw [hmax] at hclow <;> linarith
    · rcases max_choice x f with hmax | hmax <;> rw [hmax] at hxlow <;> linarith
  have hfar : |c - x| ≤ 4 * f / 2 ^ 53 := by
    rw [le_div_iff₀ (by norm_num)]
    norm_num at herror herror' ⊢
    linarith
  have hscaled : 10 ^ 15 * |c - x| ≤ 10 ^ 15 * (4 * f / 2 ^ 53) :=
    mul_le_mul_of_nonneg_left hfar (by norm_num)
  have hless : 10 ^ 15 * (4 * f / 2 ^ 53) < f / 2 := by
    norm_num
    linarith
  linarith

/-- The decimal is among the candidates with 15 digits. -/
theorem mem_candidates_of_digits {m q : ℤ} (hm : 0 < m) (hm15 : m < 10 ^ 15)
    (hround : round (m * 10 ^ q) = f) (hnormal : 2 ^ (-1022 : ℤ) ≤ f) :
    (m * 10 ^ q : ℚ) ∈ candidates f 14 := by
  have hx : (0 : ℚ) < m * 10 ^ q :=
    mul_pos (by exact_mod_cast hm) (zpow_pos (by norm_num) q)
  have hf : 0 < f := lt_of_lt_of_le (zpow_pos (by norm_num) _) hnormal
  have herror := abs_sub_le_of_round hx hround hnormal
  have hlow : (10 : ℚ) ^ Int.log 10 f ≤ f := by
    exact_mod_cast Int.zpow_log_le_self (by norm_num : 1 < 10) hf
  have hhigh : f < 10 ^ (Int.log 10 f + 1) := by
    exact_mod_cast Int.lt_zpow_succ_log_self (by norm_num : 1 < 10) f
  obtain ⟨hbelow, habove⟩ := abs_le.mp herror
  have hmax : max (m * 10 ^ q : ℚ) f ≤ 2 * f := by
    rcases max_choice (m * 10 ^ q : ℚ) f with hmax | hmax <;>
      rw [hmax] at habove ⊢ <;> linarith
  have hq : Int.log 10 f - 14 ≤ q := by
    -- Below, the decimal would lie under the power of ten that `f` has reached.
    by_contra hlt
    have hfine : (m * 10 ^ q : ℚ) < 10 ^ Int.log 10 f := by
      calc
        (m * 10 ^ q : ℚ) < 10 ^ (15 : ℤ) * 10 ^ q := by
          apply mul_lt_mul_of_pos_right _ (zpow_pos (by norm_num) q)
          exact_mod_cast hm15
        _ = 10 ^ (15 + q) := (zpow_add₀ (by norm_num) 15 q).symm
        _ ≤ 10 ^ Int.log 10 f := zpow_le_zpow_right₀ (by norm_num) (by omega)
    have hapart := decimals_apart hm.le hm15.le one_pos.le (by norm_num)
      (p := q) (q := Int.log 10 f) (by
        rw [Int.cast_one, one_mul]
        exact hfine.ne)
    rw [Int.cast_one, one_mul, min_eq_left hfine.le, abs_sub_comm,
      abs_of_pos (by linarith)] at hapart
    rw [max_eq_right (by linarith)] at hbelow
    norm_num at hapart hbelow
    linarith
  obtain ⟨more, rfl⟩ := Int.le.dest hq
  have hunit : (0 : ℚ) < 10 ^ (Int.log 10 f - 14) := zpow_pos (by norm_num) _
  have hcommon : (m * 10 ^ (Int.log 10 f - 14 + more) : ℚ) =
      (m * 10 ^ more : ℤ) * 10 ^ (Int.log 10 f - 14) := by
    rw [zpow_add₀ (by norm_num), zpow_natCast]
    push_cast
    ring
  have hunits : f < 10 ^ 15 * 10 ^ (Int.log 10 f - 14) := by
    rw [← zpow_natCast, ← zpow_add₀ (by norm_num)]
    convert hhigh using 2
    push_cast
    ring
  have hnear : roundEven (f / 10 ^ (Int.log 10 f - 14)) = m * 10 ^ more := by
    apply roundEven_eq_of_lt
    have hscaled : f / 10 ^ (Int.log 10 f - 14) - (m * 10 ^ more : ℤ) =
        (f - (m * 10 ^ more : ℤ) * 10 ^ (Int.log 10 f - 14)) /
          10 ^ (Int.log 10 f - 14) := by
      field_simp
    rw [hscaled, abs_div, abs_of_pos hunit, div_lt_iff₀ hunit, abs_sub_comm,
      ← hcommon]
    norm_num at herror hunits ⊢
    linarith
  simp only [candidates, List.mem_cons]
  left
  rw [Nat.cast_ofNat, hnear, hcommon]

/-- A decimal of at most 15 digits, read as a normal number, survives. -/
theorem carried_decimal_pos {m q : ℤ} (hm : 0 < m) (hm15 : m < 10 ^ 15)
    (hnormal : 2 ^ (-1022 : ℤ) ≤ (m * 10 ^ q : ℚ)) :
    carried (m * 10 ^ q) = m * 10 ^ q := by
  have hx : (0 : ℚ) < m * 10 ^ q :=
    mul_pos (by exact_mod_cast hm) (zpow_pos (by norm_num) q)
  have hround : 2 ^ (-1022 : ℤ) ≤ round (m * 10 ^ q) := le_round le_rfl hnormal
  have hpos : 0 < round (m * 10 ^ q) :=
    lt_of_lt_of_le (zpow_pos (by norm_num) _) hround
  refine carried_eq (n := 14) (by omega) hpos ?_ ?_
  · exact mem_candidates_of_digits hm hm15 rfl hround
  · intro d hd c hmem hc
    obtain ⟨k, hk, hk15, rfl⟩ := mem_candidates hpos hmem
    have hpow : (10 : ℤ) ^ (d + 1) ≤ 10 ^ 15 :=
      pow_le_pow_right₀ (by norm_num) (by omega)
    have hkpos : 0 < k := by
      apply hk.lt_of_ne
      rintro rfl
      rw [Int.cast_zero, zero_mul, round_zero] at hc
      linarith
    exact decimals_eq hkpos (hk15.trans hpow) hm hm15.le hc rfl hround

theorem carried_decimal {m q : ℤ} (hm15 : |m| < 10 ^ 15)
    (hnormal : 2 ^ (-1022 : ℤ) ≤ |(m * 10 ^ q : ℚ)|) :
    carried (m * 10 ^ q) = m * 10 ^ q := by
  have hunit : (0 : ℚ) < 10 ^ q := zpow_pos (by norm_num) q
  rw [abs_mul, abs_of_pos hunit] at hnormal
  rcases lt_trichotomy m 0 with hneg | rfl | hpos
  · have hopposite : (m * 10 ^ q : ℚ) = -((-m : ℤ) * 10 ^ q) := by
      push_cast
      ring
    rw [abs_of_neg hneg] at hm15
    rw [abs_of_neg (by exact_mod_cast hneg)] at hnormal
    rw [hopposite, carried_neg, carried_decimal_pos (by omega) hm15]
    rw [Int.cast_neg]
    exact hnormal
  · simp
  · rw [abs_of_pos hpos] at hm15
    rw [abs_of_pos (by exact_mod_cast hpos)] at hnormal
    exact carried_decimal_pos hpos hm15 hnormal

theorem round_intCast {n : ℤ} (hn : |n| < 2 ^ 53) : round n = n := by
  by_cases hzero : n = 0
  · rw [hzero, Int.cast_zero, round_zero]
  have hself : (n : ℚ) = n * 2 ^ (0 : ℤ) := by simp
  refine round_eq_self hself
    (exponent_le (by exact_mod_cast hzero) ?_ (by omega))
  exact_mod_cast hn

/-- Integers of 53 binary digits survive. -/
theorem carried_intCast_pos {n : ℤ} (hpos : 0 < n) (hn : n < 2 ^ 53) :
    carried n = n := by
  have hround : round n = n := round_intCast (by rwa [abs_of_pos hpos])
  have hcast : (0 : ℚ) < n := by exact_mod_cast hpos
  have hlog : 0 ≤ Int.log 10 (n : ℚ) := by
    rw [← Int.zpow_le_iff_le_log (by norm_num) hcast, zpow_zero]
    exact_mod_cast hpos
  obtain ⟨last, hlast⟩ := Int.eq_ofNat_of_zero_le hlog
  have hdigits : last < 17 := by
    have hbound : Int.log 10 (n : ℚ) < 17 := by
      rw [← Int.lt_zpow_iff_log_lt (by norm_num) hcast]
      have hlt : (n : ℚ) < 2 ^ 53 := by exact_mod_cast hn
      refine hlt.trans ?_
      norm_num
    omega
  refine carried_eq hdigits (by rwa [hround]) ?_ ?_
  · rw [hround]
    simp [candidates, hlast]
  · intro d hd c hmem hc
    rw [hround] at hmem hc
    obtain ⟨k, hk, -, rfl⟩ := mem_candidates hcast hmem
    obtain ⟨more, rfl⟩ := Nat.exists_eq_add_of_le hd
    have hwhole : (k * 10 ^ (Int.log 10 (n : ℚ) - d) : ℚ) =
        (k * 10 ^ more : ℤ) := by
      rw [hlast]
      push_cast
      rw [add_sub_cancel_left, zpow_natCast]
    rw [hwhole] at hc ⊢
    have hnonneg : 0 ≤ k * 10 ^ more := by positivity
    by_cases hlarge : 2 ^ 53 ≤ k * 10 ^ more
    · have hgrown : (2 : ℚ) ^ (53 : ℤ) ≤ round (k * 10 ^ more : ℤ) :=
        le_round (by norm_num) (by exact_mod_cast hlarge)
      rw [hc] at hgrown
      have hcontra : (2 : ℤ) ^ 53 ≤ n := by exact_mod_cast hgrown
      omega
    · rw [round_intCast (by rw [abs_of_nonneg hnonneg]; omega)] at hc
      exact hc

theorem carried_intCast {n : ℤ} (hn : |n| < 2 ^ 53) : carried n = n := by
  rcases lt_trichotomy n 0 with hneg | rfl | hpos
  · rw [abs_of_neg hneg] at hn
    have hopposite := carried_intCast_pos (neg_pos.mpr hneg) hn
    push_cast at hopposite
    rw [carried_neg] at hopposite
    exact neg_injective hopposite
  · simp
  · rw [abs_of_pos hpos] at hn
    exact carried_intCast_pos hpos hn

/-- One more than 53 binary digits hold. -/
example : carried 9007199254740993 = 9007199254740992 := by decide +kernel

end Survive

section Seventeen

variable {f c : ℚ}

/-- Anything within a relative distance of 10^-16 / 2 reads as the number. -/
theorem round_eq_of_near (hf : round f = f) (hpos : 0 < f)
    (hnear : |c - f| ≤ f / (2 * 10 ^ 16)) : round c = f := by
  obtain ⟨hlow, hhigh⟩ := abs_le.mp hnear
  have hc : 0 < c := by
    norm_num at hlow
    linarith
  have hlarge : f < 2 ^ (exponent f + 53) := by
    have hlt := lt_two_zpow f
    rwa [abs_of_pos hpos] at hlt
  have hself : f = roundEven (f / ulp f) * ulp f := hf.symm
  have hulp := ulp_pos f
  have hexponent : exponent c ≤ exponent f := by
    -- Otherwise `c` has passed the power of two above `f`, a whole unit away.
    refine exponent_le hc.ne' ?_ (le_max_right _ _)
    rw [abs_of_pos hc]
    by_contra hover
    have htop : (2 : ℚ) ^ (exponent f + 53) = (2 ^ 53 : ℤ) * ulp f := by
      rw [ulp, zpow_add₀ (by norm_num), mul_comm]
      norm_num
    rw [not_lt, htop] at hover
    rw [htop] at hlarge
    have hscaled : roundEven (f / ulp f) * ulp f < (2 ^ 53 : ℤ) * ulp f := by
      rw [← hself]
      exact hlarge
    have hdigits : roundEven (f / ulp f) < 2 ^ 53 := by
      exact_mod_cast lt_of_mul_lt_mul_right hscaled hulp.le
    have hunit : f + ulp f ≤ (2 ^ 53 : ℤ) * ulp f := by
      calc
        f + ulp f = (roundEven (f / ulp f) + 1 : ℤ) * ulp f := by
          push_cast
          linear_combination hself
        _ ≤ (2 ^ 53 : ℤ) * ulp f := by
          apply mul_le_mul_of_nonneg_right _ hulp.le
          exact_mod_cast Int.add_one_le_of_lt hdigits
    norm_num at hlarge hhigh
    linarith
  obtain ⟨more, hmore⟩ := Int.le.dest hexponent
  have hfine := ulp_pos c
  have hpower : ulp f = ulp c * 2 ^ more := by
    rw [ulp, ulp, ← hmore, zpow_add₀ (by norm_num), zpow_natCast]
  have hwhole : f = (roundEven (f / ulp f) * 2 ^ more : ℤ) * ulp c := by
    push_cast
    linear_combination hself + roundEven (f / ulp f) * hpower
  have hround : roundEven (c / ulp c) = roundEven (f / ulp f) * 2 ^ more := by
    apply roundEven_eq_of_lt
    have hdistance : c / ulp c - (roundEven (f / ulp f) * 2 ^ more : ℤ) =
        (c - f) / ulp c := by
      rw [sub_div]
      congr 1
      rw [eq_div_iff hfine.ne']
      exact hwhole.symm
    have hbound : c < 2 ^ 53 * ulp c := by
      have hlt := lt_two_zpow c
      rw [abs_of_pos hc, zpow_add₀ (by norm_num)] at hlt
      rw [mul_comm]
      exact_mod_cast hlt
    rw [hdistance, abs_div, abs_of_pos hfine, div_lt_iff₀ hfine]
    norm_num at hlow hnear hbound ⊢
    linarith
  rw [round]
  rw [hround, ← hwhole]

theorem abs_sub_nearest_le {unit : ℚ} (hunit : 0 < unit) :
    |roundEven (f / unit) * unit - f| ≤ unit / 2 := by
  have hround := abs_sub_roundEven_le (f / unit)
  have hscaled : roundEven (f / unit) * unit - f =
      -((f / unit - roundEven (f / unit)) * unit) := by
    field_simp
    ring
  rw [hscaled, abs_neg, abs_mul, abs_of_pos hunit]
  calc
    |f / unit - roundEven (f / unit)| * unit ≤ 1 / 2 * unit :=
      mul_le_mul_of_nonneg_right hround hunit.le
    _ = unit / 2 := by ring

/-- Seventeen digits suffice. -/
theorem exists_candidate (hf : round f = f) (hpos : 0 < f) :
    ∃ c ∈ candidates f 16, round c = f := by
  have hunit : (0 : ℚ) < 10 ^ (Int.log 10 f - 16) := zpow_pos (by norm_num) _
  have hlow : (10 : ℚ) ^ Int.log 10 f ≤ f := by
    exact_mod_cast Int.zpow_log_le_self (by norm_num : 1 < 10) hpos
  have hsplit : (10 : ℚ) ^ (Int.log 10 f - 16) = 10 ^ Int.log 10 f / 10 ^ 16 :=
    zpow_sub₀ (by norm_num) _ 16
  refine ⟨_, List.mem_cons_self, round_eq_of_near hf hpos ?_⟩
  refine (abs_sub_nearest_le hunit).trans ?_
  rw [hsplit]
  norm_num
  linarith

/-- The search ends with one of its candidates. -/
theorem shortestFrom_mem {n : ℕ} (hexists : ∃ c ∈ candidates f n, round c = f)
    {d fuel : ℕ} (hle : d ≤ n) (hlt : n < d + fuel) :
    ∃ e ≤ n, shortestFrom f d fuel ∈ candidates f e := by
  induction fuel generalizing d with
  | zero => omega
  | succ fuel ih =>
      rw [shortestFrom]
      split
      next c hfound => exact ⟨d, hle, List.mem_of_find?_eq_some hfound⟩
      next hnone =>
        rw [List.find?_eq_none] at hnone
        by_cases hlast : d = n
        · subst hlast
          obtain ⟨c, hmem, hround⟩ := hexists
          exact absurd (by simpa using hround) (hnone c hmem)
        · exact ih (by omega) (by omega)

/-- The shortest decimal has 17 digits at most. -/
theorem shortest_decimal (hf : round f = f) (hpos : 0 < f) :
    ∃ k : ℤ, shortest f * 10 ^ (16 - Int.log 10 f) = k := by
  obtain ⟨d, hd, hmem⟩ := @shortestFrom_mem f 16 (exists_candidate hf hpos) 0 17
    (by omega) (by omega)
  obtain ⟨k, -, -, hk⟩ := mem_candidates hpos hmem
  obtain ⟨more, hmore⟩ := Int.eq_ofNat_of_zero_le (by omega : (0 : ℤ) ≤ 16 - d)
  refine ⟨k * 10 ^ more, ?_⟩
  rw [shortest]
  rw [if_neg hpos.not_gt, hk, mul_assoc, ← zpow_add₀ (by norm_num)]
  push_cast
  rw [← zpow_natCast, ← hmore]
  congr 2
  ring

theorem shortest_pos (hf : round f = f) (hpos : 0 < f) : 0 < shortest f := by
  obtain ⟨d, hd, hmem⟩ := @shortestFrom_mem f 16 (exists_candidate hf hpos) 0 17
    (by omega) (by omega)
  obtain ⟨k, hk, -, hvalue⟩ := mem_candidates hpos hmem
  have hread := round_shortest hf
  rw [shortest] at hread ⊢
  rw [if_neg hpos.not_gt] at hread ⊢
  rw [hvalue] at hread ⊢
  apply mul_pos _ (zpow_pos (by norm_num) _)
  have hne : k ≠ 0 := by
    rintro rfl
    rw [Int.cast_zero, zero_mul, round_zero] at hread
    exact hpos.ne hread
  exact_mod_cast lt_of_le_of_ne hk hne.symm

end Seventeen

end Binary64
