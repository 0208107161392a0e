/-
Numbers as text: the literal a floating-point number is written as, and the
number a literal is read as.
-/
import LinkFlow.Lib.Binary64
import Mathlib.Data.List.TakeWhile

namespace NumberText

/-- A decimal literal: digits before and after the point, and an exponent. -/
structure Literal where
  negative : Bool
  whole : List Char
  fraction : List Char
  exponent : Option ℤ
deriving Repr, DecidableEq

/-- The number a literal denotes, its sign apart. -/
def Literal.magnitude (literal : Literal) : ℚ :=
  Nat.ofDigitChars 10 (literal.whole ++ literal.fraction) 0 *
    10 ^ (literal.exponent.getD 0 - literal.fraction.length)

def Literal.value (literal : Literal) : ℚ :=
  if literal.negative then -literal.magnitude else literal.magnitude

section Render

def renderInt (n : ℤ) : List Char :=
  if n < 0 then '-' :: Nat.toDigits 10 n.natAbs
  else '+' :: Nat.toDigits 10 n.natAbs

def renderExponent : Option ℤ → List Char
  | none => []
  | some exponent => 'e' :: renderInt exponent

/-- The point stands before the digits that follow it, if there are any. -/
def renderFraction (fraction : List Char) : List Char :=
  if fraction.isEmpty then [] else '.' :: fraction

def Literal.render (literal : Literal) : List Char :=
  (if literal.negative then ['-'] else []) ++ literal.whole ++
    renderFraction literal.fraction ++ renderExponent literal.exponent

end Render

section Parse

/-- The leading digits, and what follows. -/
def splitDigits (chars : List Char) : List Char × List Char :=
  (chars.takeWhile Char.isDigit, chars.dropWhile Char.isDigit)

/-- An optional sign, and what follows. -/
def parseSign : List Char → Bool × List Char
  | '-' :: rest => (true, rest)
  | '+' :: rest => (false, rest)
  | chars => (false, chars)

/-- Nothing, or an exponent that ends the text. -/
def parseExponent : List Char → Option (Option ℤ)
  | [] => some none
  | 'e' :: rest | 'E' :: rest =>
      let (negative, chars) := parseSign rest
      let (digits, left) := splitDigits chars
      if digits.isEmpty || !left.isEmpty then none
      else
        let magnitude : ℤ := Nat.ofDigitChars 10 digits 0
        some (some (if negative then -magnitude else magnitude))
  | _ => none

/-- The point and the digits behind it, and what follows. -/
def parseFraction : List Char → List Char × List Char
  | '.' :: rest => splitDigits rest
  | chars => ([], chars)

/-- A sign, digits with a point among them, and an exponent. -/
def parse (chars : List Char) : Option Literal :=
  let (negative, chars) := parseSign chars
  let (whole, chars) := splitDigits chars
  let (fraction, chars) := parseFraction chars
  if whole.isEmpty && fraction.isEmpty then none
  else
    (parseExponent chars).map fun exponent =>
      ⟨negative, whole, fraction, exponent⟩

end Parse

section RoundTrip

/-- There are digits before the point, and nothing but digits beside it. -/
structure Literal.WellFormed (literal : Literal) : Prop where
  nonempty : literal.whole ≠ []
  whole : ∀ char ∈ literal.whole, char.isDigit = true
  fraction : ∀ char ∈ literal.fraction, char.isDigit = true

/-- No digit follows. -/
def StopsDigits (chars : List Char) : Prop :=
  ∀ char rest, chars = char :: rest → char.isDigit = false

theorem splitDigits_append {digits chars : List Char}
    (hdigits : ∀ char ∈ digits, char.isDigit = true)
    (hstops : StopsDigits chars) :
    splitDigits (digits ++ chars) = (digits, chars) := by
  induction digits with
  | nil =>
      cases chars with
      | nil => rfl
      | cons char rest =>
          have hchar := hstops char rest rfl
          simp [splitDigits, hchar]
  | cons digit digits ih =>
      have hdigit := hdigits digit List.mem_cons_self
      have hrest :=
        ih fun char hmem => hdigits char (List.mem_cons_of_mem _ hmem)
      simp only [splitDigits, Prod.mk.injEq] at hrest
      simp [splitDigits, hdigit, hrest]

theorem parseSign_digit {char : Char} {rest : List Char}
    (hchar : char.isDigit = true) :
    parseSign (char :: rest) = (false, char :: rest) := by
  unfold parseSign
  split
  next heq =>
    cases heq
    exact absurd hchar (by decide)
  next heq =>
    cases heq
    exact absurd hchar (by decide)
  · rfl

theorem toDigits_isDigit (n : ℕ) : ∀ char ∈ Nat.toDigits 10 n,
    char.isDigit = true :=
  fun _ hmem => Nat.isDigit_of_mem_toDigits (by decide) (by decide) hmem

theorem stopsDigits_nil : StopsDigits [] := by
  intro char rest heq
  cases heq

theorem stopsDigits_cons {char : Char} {rest : List Char}
    (hchar : char.isDigit = false) :
    StopsDigits (char :: rest) := by
  rintro _ _ heq
  cases heq
  exact hchar

theorem parseExponent_render (exponent : Option ℤ) :
    parseExponent (renderExponent exponent) = some exponent := by
  cases exponent with
  | none => rfl
  | some n =>
      have hsplit :=
        splitDigits_append (toDigits_isDigit n.natAbs) stopsDigits_nil
      rw [List.append_nil] at hsplit
      have hvalue : (Nat.ofDigitChars 10 (Nat.toDigits 10 n.natAbs) 0 : ℤ) =
          n.natAbs := by
        rw [Nat.ofDigitChars_ten_toDigits]
      simp only [renderExponent, renderInt]
      split
      next hneg =>
        simp only [parseExponent, parseSign, hsplit, hvalue]
        simp [abs_of_neg hneg]
      next hnonneg =>
        simp only [parseExponent, parseSign, hsplit, hvalue]
        simp
        omega

theorem stopsDigits_exponent (exponent : Option ℤ) :
    StopsDigits (renderExponent exponent) := by
  cases exponent with
  | none => exact stopsDigits_nil
  | some n => exact stopsDigits_cons (by decide)

/-- Behind the digits before the point the rest is read as it was written. -/
theorem parseFraction_render {fraction : List Char} (exponent : Option ℤ)
    (hfraction : ∀ char ∈ fraction, char.isDigit = true) :
    parseFraction (renderFraction fraction ++ renderExponent exponent) =
      (fraction, renderExponent exponent) := by
  cases fraction with
  | nil => cases exponent <;> rfl
  | cons digit rest =>
      exact splitDigits_append hfraction (stopsDigits_exponent exponent)

theorem stopsDigits_fraction (fraction : List Char) (exponent : Option ℤ) :
    StopsDigits (renderFraction fraction ++ renderExponent exponent) := by
  cases fraction with
  | nil => exact stopsDigits_exponent exponent
  | cons digit rest => exact stopsDigits_cons (by decide)

/-- A literal is read as it was written. -/
theorem parse_render {literal : Literal} (hformed : literal.WellFormed) :
    parse literal.render = some literal := by
  obtain ⟨negative, whole, fraction, exponent⟩ := literal
  obtain ⟨hnonempty, hwhole, hfraction⟩ := hformed
  simp only at hnonempty hwhole hfraction
  have hsign : parseSign
      (Literal.render ⟨negative, whole, fraction, exponent⟩) =
      (negative, whole ++ (renderFraction fraction ++
        renderExponent exponent)) := by
    rw [Literal.render]
    cases negative with
    | true => simp [parseSign]
    | false =>
        cases whole with
        | nil => exact absurd rfl hnonempty
        | cons digit rest =>
            have hdigit := hwhole digit List.mem_cons_self
            simpa using parseSign_digit hdigit
  have hdigits :=
    splitDigits_append hwhole (stopsDigits_fraction fraction exponent)
  have hpoint := parseFraction_render exponent hfraction
  have hexponent := parseExponent_render exponent
  rw [parse]
  simp only [hsign, hdigits, hpoint, hexponent]
  simp [hnonempty]

/-- The characters of a literal. -/
def IsNumeric (char : Char) : Prop :=
  char.isDigit = true ∨ char ∈ ['-', '+', '.', 'e']

theorem isNumeric_renderExponent (exponent : Option ℤ) :
    ∀ char ∈ renderExponent exponent, IsNumeric char := by
  cases exponent with
  | none => simp [renderExponent]
  | some n =>
      have hdigits (char : Char) (hmem : char ∈ Nat.toDigits 10 n.natAbs) :
          IsNumeric char :=
        Or.inl (toDigits_isDigit _ char hmem)
      intro char hmem
      simp only [renderExponent, renderInt, List.mem_cons] at hmem
      rcases hmem with rfl | hmem
      · exact Or.inr (by simp)
      · split at hmem
        · rcases List.mem_cons.mp hmem with rfl | hmem
          · exact Or.inr (by simp)
          · exact hdigits char hmem
        · rcases List.mem_cons.mp hmem with rfl | hmem
          · exact Or.inr (by simp)
          · exact hdigits char hmem

theorem isNumeric_render {literal : Literal} (hformed : literal.WellFormed) :
    ∀ char ∈ literal.render, IsNumeric char := by
  intro char hmem
  simp only [Literal.render, List.mem_append] at hmem
  rcases hmem with ((hsign | hwhole) | hfraction) | hexponent
  · split at hsign
    · rw [List.mem_singleton] at hsign
      exact Or.inr (by simp [hsign])
    · cases hsign
  · exact Or.inl (hformed.whole char hwhole)
  · rw [renderFraction] at hfraction
    split at hfraction
    · cases hfraction
    · rcases List.mem_cons.mp hfraction with rfl | hmem
      · exact Or.inr (by simp)
      · exact Or.inl (hformed.fraction char hmem)
  · exact isNumeric_renderExponent _ char hexponent

end RoundTrip

section Layout

/-- Move the trailing zeros of a significand to the exponent. -/
def stripZeros (significand : ℕ) (exponent : ℤ) : ℕ → ℕ × ℤ
  | 0 => (significand, exponent)
  | fuel + 1 =>
      if significand % 10 = 0 then
        stripZeros (significand / 10) (exponent + 1) fuel
      else (significand, exponent)

/-- Where the point goes: among the digits or behind up to 21 of them, after
some zeros, or behind the first digit of a literal with an exponent. -/
def layout (negative : Bool) (significand : ℕ) (exponent : ℤ) : Literal :=
  let digits := Nat.toDigits 10 significand
  let point := digits.length + exponent
  if 0 ≤ exponent ∧ point ≤ 21 then
    ⟨negative, digits ++ List.replicate exponent.toNat '0', [], none⟩
  else if 0 < point ∧ point ≤ 21 then
    ⟨negative, digits.take point.toNat, digits.drop point.toNat, none⟩
  else if -6 < point ∧ point ≤ 0 then
    ⟨negative, ['0'], List.replicate (-point).toNat '0' ++ digits, none⟩
  else ⟨negative, digits.take 1, digits.drop 1, some (point - 1)⟩

variable {significand : ℕ} {exponent : ℤ}

theorem stripZeros_value (significand : ℕ) (exponent : ℤ) (fuel : ℕ) :
    ((stripZeros significand exponent fuel).1 : ℚ) *
      10 ^ (stripZeros significand exponent fuel).2 =
      significand * 10 ^ exponent := by
  induction fuel generalizing significand exponent with
  | zero => rfl
  | succ fuel ih =>
      rw [stripZeros]
      split
      next hzero =>
        rw [ih, zpow_add₀ (by norm_num)]
        have hsplit : significand = significand / 10 * 10 := by omega
        have hcast : (significand : ℚ) = (significand / 10 : ℕ) * 10 := by
          exact_mod_cast hsplit
        rw [hcast]
        ring
      · rfl

theorem layout_wellFormed (negative : Bool) (significand : ℕ) (exponent : ℤ) :
    (layout negative significand exponent).WellFormed := by
  have hdigits := toDigits_isDigit significand
  have hne : Nat.toDigits 10 significand ≠ [] := Nat.toDigits_ne_nil
  have htake (n : ℕ) : ∀ char ∈ (Nat.toDigits 10 significand).take n,
      char.isDigit = true :=
    fun char hmem => hdigits char (List.mem_of_mem_take hmem)
  have hdrop (n : ℕ) : ∀ char ∈ (Nat.toDigits 10 significand).drop n,
      char.isDigit = true :=
    fun char hmem => hdigits char (List.mem_of_mem_drop hmem)
  have hzeros (n : ℕ) : ∀ char ∈ List.replicate n '0', char.isDigit = true := by
    intro char hmem
    rw [List.eq_of_mem_replicate hmem]
    decide
  unfold layout
  simp only
  split_ifs with hwhole hamong hafter
  · refine ⟨by simp [hne], ?_, by simp⟩
    intro char hmem
    rcases List.mem_append.mp hmem with hmem | hmem
    · exact hdigits char hmem
    · exact hzeros _ char hmem
  · refine ⟨?_, htake _, hdrop _⟩
    rw [ne_eq, List.take_eq_nil_iff]
    rintro (hzero | hnil)
    · omega
    · exact hne hnil
  · refine ⟨by simp, hzeros 1, ?_⟩
    intro char hmem
    rcases List.mem_append.mp hmem with hmem | hmem
    · exact hzeros _ char hmem
    · exact hdigits char hmem
  · refine ⟨?_, htake _, hdrop _⟩
    rw [ne_eq, List.take_eq_nil_iff]
    rintro (hzero | hnil)
    · omega
    · exact hne hnil

theorem layout_negative (negative : Bool) (significand : ℕ) (exponent : ℤ) :
    (layout negative significand exponent).negative = negative := by
  unfold layout
  simp only
  split_ifs <;> rfl

/-- The digits stay what they are, wherever the point goes. -/
theorem layout_magnitude (negative : Bool) (significand : ℕ) (exponent : ℤ) :
    (layout negative significand exponent).magnitude =
      significand * 10 ^ exponent := by
  have hdigits : Nat.ofDigitChars 10 (Nat.toDigits 10 significand) 0 =
      significand :=
    Nat.ofDigitChars_ten_toDigits
  have hlength : 0 < (Nat.toDigits 10 significand).length :=
    Nat.length_toDigits_pos
  unfold layout
  simp only
  split_ifs with hwhole hamong hafter <;> rw [Literal.magnitude] <;>
    simp only [Option.getD_none, Option.getD_some, List.append_nil,
      List.take_append_drop, List.length_nil, List.length_drop]
  · rw [Nat.ofDigitChars_append, hdigits, Nat.ofDigitChars_replicate_zero]
    obtain ⟨n, rfl⟩ := Int.eq_ofNat_of_zero_le hwhole.1
    push_cast
    rw [Int.toNat_natCast, zpow_natCast]
    simp [mul_comm]
  · rw [hdigits]
    congr 2
    omega
  · have hzeros : Nat.ofDigitChars 10 (['0'] ++ (List.replicate
        (-((Nat.toDigits 10 significand).length + exponent)).toNat '0' ++
          Nat.toDigits 10 significand)) 0 = significand := by
      rw [Nat.ofDigitChars_append, Nat.ofDigitChars_append,
        Nat.ofDigitChars_replicate_zero]
      simp [Nat.ofDigitChars_cons, Nat.ofDigitChars_ten_toDigits]
    rw [hzeros, List.length_append, List.length_replicate]
    congr 2
    omega
  · rw [hdigits]
    congr 2
    omega

end Layout

section Numbers

open Binary64

/-- The digits of the shortest decimal of a positive number, and their
exponent. -/
def shortestDigits (f : ℚ) : ℕ × ℤ :=
  stripZeros (shortest f * 10 ^ (16 - Int.log 10 f)).num.toNat
    (Int.log 10 f - 16) 17

/-- The text of a finite number. -/
def toText (f : ℚ) : String :=
  if f = 0 then "0"
  else
    let (significand, exponent) := shortestDigits |f|
    String.ofList (layout (f < 0) significand exponent).render

def digitValue (char : Char) : ℕ :=
  if char.isDigit then char.toNat - 48
  else if 'a' ≤ char ∧ char ≤ 'f' then char.toNat - 87
  else if 'A' ≤ char ∧ char ≤ 'F' then char.toNat - 55
  else 16

/-- An integer in hexadecimal, octal or binary digits. -/
def parseRadix : List Char → Option ℕ
  | '0' :: mark :: digits =>
      let base :=
        if mark = 'x' ∨ mark = 'X' then 16
        else if mark = 'o' ∨ mark = 'O' then 8
        else if mark = 'b' ∨ mark = 'B' then 2
        else 0
      if digits.isEmpty || !digits.all fun char => digitValue char < base then
        none
      else
        some (digits.foldl (fun number char => base * number + digitValue char)
          0)
  | _ => none

/-- The number a text without blanks around it denotes, if it is a finite
one. -/
def ofText (text : String) : Option ℚ :=
  let denoted : Option ℚ :=
    if text = "" then some 0
    else
      match parse text.toList with
      | some literal => some literal.value
      | none => (parseRadix text.toList).map fun number => (number : ℚ)
  denoted.bind fun value =>
    if InRange value then some (Binary64.round value) else none

variable {f : ℚ}

theorem shortestDigits_value (hf : Binary64.round f = f) (hpos : 0 < f) :
    ((shortestDigits f).1 : ℚ) * 10 ^ (shortestDigits f).2 = shortest f := by
  obtain ⟨k, hk⟩ := shortest_decimal hf hpos
  have hshortest := shortest_pos hf hpos
  have hunit : (0 : ℚ) < 10 ^ (16 - Int.log 10 f) := zpow_pos (by norm_num) _
  have hnonneg : 0 ≤ k := by
    have hcast : (0 : ℚ) ≤ k := by
      rw [← hk]
      exact (mul_pos hshortest hunit).le
    exact_mod_cast hcast
  have hcount : ((shortest f * 10 ^ (16 - Int.log 10 f)).num.toNat : ℚ) =
      shortest f * 10 ^ (16 - Int.log 10 f) := by
    rw [hk, Rat.num_intCast]
    exact_mod_cast Int.toNat_of_nonneg hnonneg
  rw [shortestDigits]
  rw [stripZeros_value, hcount, mul_assoc, ← zpow_add₀ (by norm_num)]
  simp

theorem parse_toText (hne : f ≠ 0) : parse (toText f).toList =
    some (layout (f < 0) (shortestDigits |f|).1 (shortestDigits |f|).2) := by
  rw [toText]
  rw [if_neg hne]
  simp only [String.toList_ofList]
  exact parse_render (layout_wellFormed _ _ _)

theorem value_toText (hf : Binary64.round f = f) (hne : f ≠ 0) :
    (layout (f < 0) (shortestDigits |f|).1 (shortestDigits |f|).2).value =
      shortest f := by
  rw [Literal.value]
  rw [layout_negative, layout_magnitude]
  rcases hne.lt_or_gt with hneg | hpos
  · have hopposite : Binary64.round (-f) = -f := by rw [round_neg, hf]
    rw [abs_of_neg hneg, shortestDigits_value hopposite (neg_pos.mpr hneg),
      shortest_neg, neg_neg]
    simp [hneg]
  · rw [abs_of_pos hpos, shortestDigits_value hf hpos]
    simp [hpos.not_gt]

theorem toText_ne_empty (f : ℚ) : toText f ≠ "" := by
  by_cases hzero : f = 0
  · rw [hzero]
    decide
  · intro hempty
    have hparse := parse_toText hzero
    rw [hempty] at hparse
    cases hparse

theorem isNumeric_toText (f : ℚ) : ∀ char ∈ (toText f).toList,
    IsNumeric char := by
  rw [toText]
  split
  · intro char hmem
    rw [List.mem_singleton.mp hmem]
    exact Or.inl (by decide)
  · simp only [String.toList_ofList]
    exact isNumeric_render (layout_wellFormed _ _ _)

/-- A finite number is read from its text as it was. -/
theorem ofText_toText (hf : Binary64.round f = f) (hrange : InRange f) :
    ofText (toText f) = some f := by
  by_cases hzero : f = 0
  · subst hzero
    decide +kernel
  · have hvalue := value_toText hf hzero
    have hread := round_shortest hf
    have hfits : InRange (shortest f) := by
      rw [InRange] at hrange ⊢
      rwa [hread, ← hf]
    rw [ofText]
    simp only [if_neg (toText_ne_empty f), parse_toText hzero, hvalue,
      Option.bind_some, if_pos hfits, hread]

end Numbers

end NumberText
