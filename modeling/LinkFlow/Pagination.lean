/-
The pages of the list endpoints: from the query strings to LIMIT and OFFSET, and
what the pages make up together.
-/
import LinkFlow.RegistryCalls

namespace LinkFlow

namespace Registry

section Query

/-- `strconv.Atoi`: an optional sign and decimal digits, in 64 bits. -/
def atoi (text : String) : Option Int :=
  let (negative, digits) :=
    match text.toList with
    | '-' :: rest => (true, rest)
    | '+' :: rest => (false, rest)
    | chars => (false, chars)
  if digits.isEmpty || !digits.all Char.isDigit then none
  else
    let magnitude : Int := Nat.ofDigitChars 10 digits 0
    let value := if negative then -magnitude else magnitude
    if -2 ^ 63 ≤ value ∧ value < 2 ^ 63 then some value else none

def parsePositiveInt (raw : String) : Int :=
  if raw = "" then 0
  else
    match atoi raw with
    | none => 0
    | some n => if n ≤ 0 then 0 else n

/-- `pageInputFromRequest`, given the two query strings. -/
def pageInputFromRequest (page pageSize : String) : PageInput :=
  ⟨parsePositiveInt page, parsePositiveInt pageSize⟩

end Query

/-- The number of a page, as it is used. -/
def PageInput.number (input : PageInput) : Int :=
  (normalizePageInput input).page

/-- The offset of a page fits in 64 bits. -/
def PageInput.InRange (input : PageInput) : Prop :=
  (input.number - 1) * input.limit < 2 ^ 63

/-- The limit is a page size, the offset the product it is meant to be, and the
page the rows between them. -/
structure PageInput.Exact (input : PageInput) : Prop where
  one_le_limit : 1 ≤ input.limit
  limit_le : input.limit ≤ 100
  offset_nonneg : 0 ≤ input.offset
  offset_eq : input.offset = (input.number - 1) * input.limit
  rows : ∀ {α : Type} (before : α → α → Bool) (rows : List α),
    pageOf before input rows = .ok
      (((rows.mergeSort before).drop
        ((input.number - 1).toNat * input.limit)).take
        input.limit)

section Bounds

theorem parsePositiveInt_bounds (raw : String) :
    0 ≤ parsePositiveInt raw ∧ parsePositiveInt raw < 2 ^ 63 := by
  rw [parsePositiveInt]
  split
  · decide
  · split
    · decide
    next n hn =>
      split
      · decide
      next hpos =>
        have hfits : n < 2 ^ 63 := by
          rw [atoi] at hn
          grind
        omega

variable {input : PageInput}

theorem limit_bounds (input : PageInput) :
    1 ≤ input.limit ∧ input.limit ≤ 100 := by
  rw [PageInput.limit, normalizePageInput]
  simp only
  split <;> split <;> omega

theorem number_pos (input : PageInput) : 1 ≤ input.number := by
  rw [PageInput.number, normalizePageInput]
  simp only
  split <;> omega

theorem offset_eq_bmod (input : PageInput) :
    input.offset = ((input.number - 1) * input.limit).bmod (2 ^ 64) := by
  have hlimit := (limit_bounds input).1
  rw [PageInput.limit] at hlimit
  rw [PageInput.offset, PageInput.number, PageInput.limit]
  rw [Int.toNat_of_nonneg (by omega)]

/-- The product is kept exactly when it fits. -/
theorem offset_eq_iff (input : PageInput) :
    input.offset = (input.number - 1) * input.limit ↔ input.InRange := by
  have hnumber := number_pos input
  have hnonneg : 0 ≤ (input.number - 1) * (input.limit : Int) :=
    Int.mul_nonneg (by omega) (by omega)
  rw [offset_eq_bmod, PageInput.InRange]
  constructor
  · intro heq
    have hlt := Int.bmod_lt (x := (input.number - 1) * input.limit)
      (m := 2 ^ 64) (by decide)
    rw [heq] at hlt
    exact hlt
  · intro hlt
    exact Int.bmod_eq_of_le (by omega) (by omega)

/-- For a page in range the statement is the slice. -/
theorem pageOf_eq {α : Type} (hrange : input.InRange) (before : α → α → Bool)
    (rows : List α) :
    pageOf before input rows = .ok
      (((rows.mergeSort before).drop
        ((input.number - 1).toNat * input.limit)).take input.limit) := by
  have hoffset := (offset_eq_iff input).mpr hrange
  have hnumber := number_pos input
  have hnat : input.offset.toNat = (input.number - 1).toNat * input.limit := by
    rw [hoffset, Int.toNat_mul (by omega) (by omega), Int.toNat_natCast]
  have hnonneg : ¬ input.offset < 0 := by
    rw [hoffset, not_lt]
    exact Int.mul_nonneg (by omega) (by omega)
  rw [pageOf, if_neg hnonneg, hnat]

theorem exact_iff (input : PageInput) : input.Exact ↔ input.InRange := by
  constructor
  · intro hexact
    exact (offset_eq_iff input).mp hexact.offset_eq
  · intro hrange
    have hoffset := (offset_eq_iff input).mpr hrange
    have hnumber := number_pos input
    refine ⟨(limit_bounds input).1, (limit_bounds input).2, ?_, hoffset,
      fun before rows => pageOf_eq hrange before rows⟩
    rw [hoffset]
    exact Int.mul_nonneg (by omega) (by omega)

end Bounds

section Tiling

/-- The request for the page after `k` others. -/
def pageRequest (pageSize : String) (k : Nat) : PageInput :=
  pageInputFromRequest (toString (k + 1)) pageSize

/-- The page after `k` others has a number and an offset of 64 bits. -/
def PageFits (pageSize : String) (k : Nat) : Prop :=
  k + 1 < 2 ^ 63 ∧ k * (pageInputFromRequest "" pageSize).limit < 2 ^ 63

/-- The rows the first `n` pages return, one page after the other. -/
def readPages {α : Type} (before : α → α → Bool) (rows : List α)
    (pageSize : String) : Nat → Except Failure (List α)
  | 0 => .ok []
  | n + 1 => do
    let earlier ← readPages before rows pageSize n
    let items ← pageOf before (pageRequest pageSize n) rows
    return earlier ++ items

theorem atoi_toString {n : Nat} (hfits : n < 2 ^ 63) :
    atoi (toString n) = some (n : Int) := by
  have htext : (toString n).toList = Nat.toDigits 10 n := Nat.toList_repr
  have hdigits : ∀ c ∈ Nat.toDigits 10 n, c.isDigit = true := by
    intro c hc
    exact Nat.isDigit_of_mem_toDigits (by decide) (by decide) hc
  have hread : Nat.ofDigitChars 10 (Nat.toDigits 10 n) 0 = n :=
    Nat.ofDigitChars_ten_toDigits
  cases hchars : Nat.toDigits 10 n with
  | nil => exact absurd hchars Nat.toDigits_ne_nil
  | cons c rest =>
    rw [hchars] at hdigits hread htext
    have hc : c.isDigit = true := hdigits c List.mem_cons_self
    have hminus : c ≠ '-' := by
      intro heq
      rw [heq] at hc
      exact absurd hc (by decide)
    have hplus : c ≠ '+' := by
      intro heq
      rw [heq] at hc
      exact absurd hc (by decide)
    have hall : (c :: rest).all Char.isDigit = true :=
      List.all_eq_true.mpr hdigits
    rw [atoi]
    rw [htext]
    split
    next negative digits hsign =>
      split at hsign
      · exact absurd (by assumption : c :: rest = '-' :: _) (by simp [hminus])
      · exact absurd (by assumption : c :: rest = '+' :: _) (by simp [hplus])
      · injection hsign with hnegative hdigits
        subst hnegative hdigits
        simp [hall, hread]
        omega

theorem parsePositiveInt_toString {n : Nat} (hpos : 0 < n)
    (hfits : n < 2 ^ 63) :
    parsePositiveInt (toString n) = n := by
  have htext : toString n ≠ "" := by
    intro heq
    have hnone := atoi_toString hfits
    rw [heq] at hnone
    exact absurd hnone (by simp [atoi])
  rw [parsePositiveInt]
  rw [if_neg htext, atoi_toString hfits]
  simp only
  rw [if_neg (by omega)]

theorem pageRequest_limit (pageSize : String) (k : Nat) :
    (pageRequest pageSize k).limit = (pageInputFromRequest "" pageSize).limit :=
      rfl

theorem pageRequest_number {pageSize : String} {k : Nat}
    (hfits : k + 1 < 2 ^ 63) :
    (pageRequest pageSize k).number = (k + 1 : Nat) := by
  have hpage := parsePositiveInt_toString (Nat.succ_pos k) hfits
  rw [PageInput.number, normalizePageInput, pageRequest, pageInputFromRequest]
  simp only
  rw [hpage, if_neg (by omega)]

/-- A page that fits is a window of the ordered rows. -/
theorem pageOf_pageRequest {α : Type} {pageSize : String} {k : Nat}
    (hfits : PageFits pageSize k) (before : α → α → Bool) (rows : List α) :
    pageOf before (pageRequest pageSize k) rows = .ok
      (((rows.mergeSort before).drop
        (k * (pageInputFromRequest "" pageSize).limit)).take
          (pageInputFromRequest "" pageSize).limit) := by
  have hnumber := @pageRequest_number pageSize k hfits.1
  have hrange : (pageRequest pageSize k).InRange := by
    rw [PageInput.InRange, hnumber, pageRequest_limit]
    have hproduct := hfits.2
    push_cast
    rw [add_sub_cancel_right]
    exact_mod_cast hproduct
  rw [pageOf_eq hrange, hnumber, pageRequest_limit]
  simp

/-- The first `n` pages are the rows up to the end of the last of them: the step
appends the next window. -/
theorem readPages_eq {α : Type} (before : α → α → Bool) (rows : List α)
    {pageSize : String} {n : Nat} (hfits : ∀ k < n, PageFits pageSize k) :
    readPages before rows pageSize n = .ok ((rows.mergeSort before).take
      (n * (pageInputFromRequest "" pageSize).limit)) := by
  induction n with
  | zero => simp [readPages]
  | succ n ih =>
      have hearlier := ih (fun k hk => hfits k (Nat.lt_succ_of_lt hk))
      have hitems :=
        pageOf_pageRequest (hfits n (Nat.lt_succ_self n)) before rows
      rw [readPages, hearlier, hitems, Nat.succ_mul, List.take_add]
      rfl

end Tiling

section Results

/-- A page is exact when its offset fits in 64 bits and then only. While the
pages fit, reading them in turn returns the ordered rows, each once, and then
nothing. -/
theorem pagination_exact_iff {α : Type} (before : α → α → Bool) (rows : List α)
    (page pageSize : String) (n : Nat) :
    ((pageInputFromRequest page pageSize).Exact ↔
      (pageInputFromRequest page pageSize).InRange) ∧
    ((∀ k < n, PageFits pageSize k) →
      readPages before rows pageSize n = .ok ((rows.mergeSort before).take
        (n * (pageInputFromRequest "" pageSize).limit)) ∧
      (rows.length ≤ n * (pageInputFromRequest "" pageSize).limit →
        readPages before rows pageSize n = .ok (rows.mergeSort before)) ∧
      ∀ k < n, rows.length ≤ k * (pageInputFromRequest "" pageSize).limit →
        pageOf before (pageRequest pageSize k) rows = .ok []) := by
  refine ⟨exact_iff _, ?_⟩
  intro hfits
  have hread := readPages_eq before rows hfits
  refine ⟨hread, ?_, ?_⟩
  · intro hlength
    rw [hread, List.take_of_length_le]
    rwa [List.length_mergeSort]
  · intro k hk hlength
    rw [pageOf_pageRequest (hfits k hk), List.drop_of_length_le, List.take_nil]
    rwa [List.length_mergeSort]

theorem pagination_exact_three :
    readPages (fun a b : Nat => decide (a ≤ b)) [1, 2, 3] "2" 3 =
      .ok [1, 2, 3] := by
  have hlimit : (pageInputFromRequest "" "2").limit = 2 := by decide +kernel
  have hpages : ∀ k < 3, PageFits "2" k := by
    intro k hk
    refine ⟨by omega, ?_⟩
    rw [hlimit]
    omega
  have hread :=
    ((pagination_exact_iff (fun a b : Nat => decide (a ≤ b)) [1, 2, 3]
    "3" "2" 3).2 hpages).2.1 (by rw [hlimit]; decide)
  rw [hread, List.mergeSort_of_pairwise (by decide)]

/-- Page 2^62 + 1 of pages of 4 is the first page once more, and with pages of 2
its offset is negative and the query fails. -/
theorem pagination_wraps :
    (pageInputFromRequest "4611686018427387905" "4").number =
      4611686018427387905 ∧
    (pageInputFromRequest "4611686018427387905" "4").limit = 4 ∧
    (pageInputFromRequest "4611686018427387905" "4").offset = 0 ∧
    pageOf (fun a b : Nat => decide (a ≤ b))
      (pageInputFromRequest "4611686018427387905" "4") [1, 2] = .ok [1, 2] ∧
    ¬ (pageInputFromRequest "4611686018427387905" "4").Exact ∧
    (pageInputFromRequest "4611686018427387905" "2").offset = -2 ^ 63 ∧
    pageOf (fun a b : Nat => decide (a ≤ b))
      (pageInputFromRequest "4611686018427387905" "2") [1, 2] =
        .error (.sql .invalidOffset) := by
  have hlimit : (pageInputFromRequest "4611686018427387905" "4").limit = 4 := by
    decide +kernel
  have hoffset : (pageInputFromRequest "4611686018427387905" "4").offset =
      0 := by
    decide +kernel
  refine ⟨by decide +kernel, hlimit, hoffset, ?_, ?_, by decide +kernel,
    by decide +kernel⟩
  · rw [pageOf, hoffset, hlimit, List.mergeSort_of_pairwise (by decide)]
    rfl
  · intro hexact
    exact absurd hexact.offset_eq (by decide +kernel)

end Results

end Registry

end LinkFlow
