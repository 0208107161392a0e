/-
Decimal digits of a fixed width: writing a number, and reading it back from the
front of a text.
-/
import Mathlib.Data.Nat.Basic
import Mathlib.Tactic.IntervalCases
import Mathlib.Tactic.Positivity
import Mathlib.Tactic.Ring

namespace FixedDigits

def digitChar (digit : Nat) : Char := Char.ofNat (48 + digit)

def isDigit (char : Char) : Bool := '0' ≤ char && char ≤ '9'

def digitValue (char : Char) : Nat := char.toNat - 48

/-- The lowest `width` digits of a number, the leading one first. -/
def pad : Nat → Nat → List Char
  | 0, _ => []
  | width + 1, number =>
      digitChar (number / 10 ^ width % 10) :: pad width (number % 10 ^ width)

/-- Read exactly `width` digits after the digits that gave `acc`. -/
def read : Nat → Nat → List Char → Option (Nat × List Char)
  | 0, acc, chars => some (acc, chars)
  | _ + 1, _, [] => none
  | width + 1, acc, char :: chars =>
      if isDigit char then read width (acc * 10 + digitValue char) chars
      else none

theorem isDigit_digitChar {digit : Nat} (hlt : digit < 10) :
    isDigit (digitChar digit) = true := by
  interval_cases digit <;> decide

theorem digitValue_digitChar {digit : Nat} (hlt : digit < 10) :
    digitValue (digitChar digit) = digit := by
  interval_cases digit <;> decide

/-- A number that fits the width is read back, whatever follows it. -/
theorem read_pad {width number : Nat} (hfits : number < 10 ^ width) (acc : Nat)
    (rest : List Char) :
    read width acc (pad width number ++ rest) =
      some (acc * 10 ^ width + number, rest) := by
  induction width generalizing number acc with
  | zero =>
      have hzero : number = 0 := by simpa using hfits
      simp [read, pad, hzero]
  | succ width ih =>
      have hpos : 0 < 10 ^ width := by positivity
      have hlead : number / 10 ^ width < 10 :=
        Nat.div_lt_of_lt_mul (by rwa [← pow_succ])
      have hmod : number / 10 ^ width % 10 = number / 10 ^ width :=
        Nat.mod_eq_of_lt hlead
      simp only [pad, List.cons_append, read, hmod, isDigit_digitChar hlead,
        if_true, digitValue_digitChar hlead]
      rw [ih (Nat.mod_lt _ hpos)]
      have hsplit := Nat.div_add_mod number (10 ^ width)
      congr 2
      calc (acc * 10 + number / 10 ^ width) * 10 ^ width + number % 10 ^ width
          = acc * 10 ^ (width + 1) +
              (10 ^ width * (number / 10 ^ width) + number % 10 ^ width) := by
                ring
        _ = acc * 10 ^ (width + 1) + number := by rw [hsplit]

/-- Fewer digits than were written leave the others unread. -/
theorem read_pad_longer (width more number acc : Nat) (rest : List Char) :
    ∃ value left, read width acc (pad (width + more) number ++ rest) =
      some (value, pad more left ++ rest) := by
  induction width generalizing number acc with
  | zero => exact ⟨acc, number, by simp [read]⟩
  | succ width ih =>
      have hlead : number / 10 ^ (width + more) % 10 < 10 :=
        Nat.mod_lt _ (by decide)
      rw [Nat.add_right_comm]
      simp only [pad, List.cons_append, read, isDigit_digitChar hlead, if_true]
      exact ih _ _

theorem isDigit_of_mem_pad {width number : Nat} {char : Char}
    (hmem : char ∈ pad width number) : isDigit char = true := by
  induction width generalizing number with
  | zero => cases hmem
  | succ width ih =>
      rcases List.mem_cons.mp hmem with rfl | hrest
      · exact isDigit_digitChar (Nat.mod_lt _ (by decide))
      · exact ih hrest

theorem length_pad (width number : Nat) :
    (pad width number).length = width := by
  induction width generalizing number with
  | zero => rfl
  | succ width ih => simp [pad, ih]

/-- Enough digits can always be read. -/
theorem exists_read {width : Nat} {chars : List Char} (acc : Nat)
    (hdigits : ∀ char ∈ chars, isDigit char = true)
    (hlength : width ≤ chars.length) :
    ∃ value, read width acc chars = some (value, chars.drop width) := by
  induction width generalizing acc chars with
  | zero => exact ⟨acc, rfl⟩
  | succ width ih =>
      cases chars with
      | nil => cases hlength
      | cons char rest =>
          simp only [read, hdigits char List.mem_cons_self, if_true,
            List.drop_succ_cons]
          apply ih
          · intro other hmem
            exact hdigits other (List.mem_cons_of_mem _ hmem)
          · simpa using hlength

end FixedDigits
