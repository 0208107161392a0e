/-
UUIDs: the canonical text that every generated id has, and the texts PostgreSQL
reads into a `uuid` column.
-/
import Mathlib.Data.List.Basic
import Mathlib.Data.Nat.Basic
import Mathlib.Tactic.IntervalCases
import Mathlib.Tactic.Ring

namespace LinkFlow

abbrev Uuid := BitVec 128

namespace Uuid

def isHex (char : Char) : Bool :=
  ('0' ≤ char && char ≤ '9') || ('a' ≤ char && char ≤ 'f') ||
    ('A' ≤ char && char ≤ 'F')

def hexChar (digit : Nat) : Char :=
  if digit < 10 then Char.ofNat (48 + digit) else Char.ofNat (87 + digit)

def hexValue (char : Char) : Nat :=
  if char ≤ '9' then char.toNat - 48
  else if char ≤ 'F' then char.toNat - 55
  else char.toNat - 87

/-- The lowest `width` hexadecimal digits of a number. -/
def hexPad : Nat → Nat → List Char
  | 0, _ => []
  | width + 1, number =>
      hexChar (number / 16 ^ width % 16) :: hexPad width number

/-- The 8-4-4-4-12 form, as `newDeviceCommandID` and `uuid.String` write it. -/
def text (id : Uuid) : String :=
  let number := id.toNat
  String.ofList
    (hexPad 8 (number / 16 ^ 24) ++ '-' :: hexPad 4 (number / 16 ^ 20) ++
      '-' :: hexPad 4 (number / 16 ^ 16) ++ '-' ::
      hexPad 4 (number / 16 ^ 12) ++ '-' :: hexPad 12 number)

/-- Skip the given number of hexadecimal digits. -/
def skipHex : Nat → List Char → Option (List Char)
  | 0, chars => some chars
  | _ + 1, [] => none
  | width + 1, char :: rest => if isHex char then skipHex width rest else none

/-- Groups of hexadecimal digits of the given widths, with hyphens between. -/
def hexGroups : List Nat → List Char → Bool
  | [], chars => chars.isEmpty
  | [width], chars => skipHex width chars = some []
  | width :: widths, chars =>
      match skipHex width chars with
      | some ('-' :: rest) => hexGroups widths rest
      | _ => false

/-- A text of the 8-4-4-4-12 form. -/
def hasForm (text : String) : Bool := hexGroups [8, 4, 4, 4, 12] text.toList

theorem isHex_hexChar {digit : Nat} (hlt : digit < 16) :
    isHex (hexChar digit) = true := by
  interval_cases digit <;> decide

theorem skipHex_hexPad (width number : Nat) (rest : List Char) :
    skipHex width (hexPad width number ++ rest) = some rest := by
  induction width with
  | zero => rfl
  | succ width ih =>
      have hhex : isHex (hexChar (number / 16 ^ width % 16)) = true :=
        isHex_hexChar (Nat.mod_lt _ (by decide))
      simp only [hexPad, List.cons_append, skipHex, hhex, if_true, ih]

theorem hasForm_text (id : Uuid) : hasForm (text id) = true := by
  have hlast : ∀ width number,
      skipHex width (hexPad width number) = some [] := by
    intro width number
    simpa using skipHex_hexPad width number []
  rw [hasForm, text]
  generalize id.toNat / 16 ^ 24 = first
  generalize id.toNat / 16 ^ 20 = second
  generalize id.toNat / 16 ^ 16 = third
  generalize id.toNat / 16 ^ 12 = fourth
  generalize id.toNat = fifth
  simp only [String.toList_ofList, List.append_assoc, List.cons_append,
    hexGroups, skipHex_hexPad, hlast, decide_true]

theorem mem_hexPad {width number : Nat} {char : Char}
    (hmem : char ∈ hexPad width number) :
    ∃ digit, digit < 16 ∧ char = hexChar digit := by
  induction width with
  | zero => cases hmem
  | succ width ih =>
      rcases List.mem_cons.mp hmem with rfl | hrest
      · exact ⟨_, Nat.mod_lt _ (by decide), rfl⟩
      · exact ih hrest

theorem mem_text {id : Uuid} {char : Char} (hmem : char ∈ (text id).toList) :
    (∃ digit, digit < 16 ∧ char = hexChar digit) ∨ char = '-' := by
  simp only [text, String.toList_ofList, List.mem_append, List.mem_cons] at hmem
  rcases hmem with (((hpad | hhyphen | hpad) | hhyphen | hpad) |
    hhyphen | hpad) | hhyphen | hpad
  all_goals first
    | exact Or.inl (mem_hexPad hpad)
    | exact Or.inr hhyphen

theorem length_hexPad (width number : Nat) :
    (hexPad width number).length = width := by
  induction width with
  | zero => rfl
  | succ width ih => simp [hexPad, ih]

theorem length_text (id : Uuid) : (text id).length = 36 := by
  rw [text]
  simp only [String.length_ofList, List.length_append, List.length_cons,
    length_hexPad]

theorem hexValue_hexChar {digit : Nat} (hlt : digit < 16) :
    hexValue (hexChar digit) = digit := by
  interval_cases digit <;> decide

/-- The digits determine the number below the power they stand for. -/
theorem mod_eq_of_hexPad {first second : Nat} (width : Nat)
    (hpad : hexPad width first = hexPad width second) :
    first % 16 ^ width = second % 16 ^ width := by
  induction width with
  | zero => simp [Nat.mod_one]
  | succ width ih =>
      obtain ⟨hdigit, hrest⟩ := List.cons.inj hpad
      have hvalue := congrArg hexValue hdigit
      rw [hexValue_hexChar (Nat.mod_lt _ (by decide)),
        hexValue_hexChar (Nat.mod_lt _ (by decide))] at hvalue
      rw [Nat.mod_pow_succ, Nat.mod_pow_succ, hvalue, ih hrest]

/-- Groups of one width, with what follows them, are alike only one by one. -/
theorem hexPad_append_inj {first second width : Nat} {rest rest' : List Char}
    (heq : hexPad width first ++ '-' :: rest =
      hexPad width second ++ '-' :: rest') :
    first % 16 ^ width = second % 16 ^ width ∧ rest = rest' := by
  obtain ⟨hpad, hrest⟩ := List.append_inj heq (by simp [length_hexPad])
  exact ⟨mod_eq_of_hexPad width hpad, (List.cons.inj hrest).2⟩

/-- Two ids are written alike only when they are the same. -/
theorem text_injective : Function.Injective text := by
  intro first second heq
  have hlist := String.ofList_injective heq
  simp only [List.append_assoc, List.cons_append] at hlist
  obtain ⟨hone, hlist⟩ := hexPad_append_inj hlist
  obtain ⟨htwo, hlist⟩ := hexPad_append_inj hlist
  obtain ⟨hthree, hlist⟩ := hexPad_append_inj hlist
  obtain ⟨hfour, hlist⟩ := hexPad_append_inj hlist
  have hfive := mod_eq_of_hexPad 12 hlist
  have hfirst := first.isLt
  have hsecond := second.isLt
  apply BitVec.eq_of_toNat_eq
  norm_num at hone htwo hthree hfour hfive hfirst hsecond
  omega

/-- Sixteen bytes of two digits each, with an optional hyphen after every second
byte but the last. -/
def readBytes : Nat → Nat → List Char → Option (Nat × List Char)
  | 0, acc, chars => some (acc, chars)
  | left + 1, acc, high :: low :: rest =>
      if isHex high && isHex low then
        let rest := if left % 2 = 0 && left ≠ 0 then
            match rest with
            | '-' :: after => after
            | _ => rest
          else rest
        readBytes left (acc * 256 + hexValue high * 16 + hexValue low) rest
      else none
  | _ + 1, _, _ => none

/-- PostgreSQL's `uuid` input: digits of either case, optional braces. -/
def ofText? (text : String) : Option Uuid :=
  match text.toList with
  | '{' :: chars =>
      match readBytes 16 0 chars with
      | some (number, ['}']) => some (BitVec.ofNat 128 number)
      | _ => none
  | chars =>
      match readBytes 16 0 chars with
      | some (number, []) => some (BitVec.ofNat 128 number)
      | _ => none

example : ofText? "018F56d37cb7-7f1a9b41-3f3a63fd3db5" =
    ofText? "{018f56d3-7cb7-7f1a-9b41-3f3a63fd3db5}" := by decide

section RoundTrip

/-- What is left after a byte, the hyphen dropped where one may stand. -/
def afterByte (left : Nat) (rest : List Char) : List Char :=
  if left % 2 = 0 && left ≠ 0 then
    match rest with
    | '-' :: after => after
    | _ => rest
  else rest

theorem hexChar_ne {digit : Nat} (hlt : digit < 16) :
    hexChar digit ≠ '-' ∧ hexChar digit ≠ '{' := by
  interval_cases digit <;> decide

theorem readBytes_byte {left acc high low : Nat} {rest : List Char}
    (hhigh : high < 16) (hlow : low < 16) :
    readBytes (left + 1) acc (hexChar high :: hexChar low :: rest) =
      readBytes left (acc * 256 + high * 16 + low) (afterByte left rest) := by
  change (if isHex (hexChar high) && isHex (hexChar low) then
    readBytes left (acc * 256 + hexValue (hexChar high) * 16 +
      hexValue (hexChar low)) (afterByte left rest) else none) = _
  rw [isHex_hexChar hhigh, isHex_hexChar hlow, hexValue_hexChar hhigh,
    hexValue_hexChar hlow]
  rfl

theorem afterByte_hexPad {left width number : Nat} {rest : List Char} :
    afterByte left (hexPad (width + 1) number ++ rest) =
      hexPad (width + 1) number ++ rest := by
  have hne := (hexChar_ne (Nat.mod_lt (number / 16 ^ width)
    (by decide : 0 < 16))).1
  unfold afterByte
  split
  · split
    next after heq => exact absurd (List.cons.inj heq).1 hne
    next => rfl
  · rfl

/-- The bytes of one group are read into the number. -/
theorem readBytes_group (left acc number bytes : Nat) (rest : List Char) :
    readBytes (left + (bytes + 1)) acc
        (hexPad (2 * (bytes + 1)) number ++ rest) =
      readBytes left (acc * 16 ^ (2 * (bytes + 1)) +
        number % 16 ^ (2 * (bytes + 1))) (afterByte left rest) := by
  have hdigit : ∀ value, value % 16 < 16 :=
    fun value => Nat.mod_lt _ (by decide)
  induction bytes generalizing acc with
  | zero =>
      have hvalue : acc * 256 + number / 16 % 16 * 16 + number % 16 =
          acc * 256 + number % 256 := by omega
      simp only [hexPad, List.cons_append, List.nil_append,
        readBytes_byte (hdigit _) (hdigit _), Nat.pow_zero, Nat.div_one,
        Nat.pow_one, hvalue]
      rfl
  | succ bytes ih =>
      have hpad : hexPad (2 * (bytes + 1 + 1)) number ++ rest =
          hexChar (number / 16 ^ (2 * (bytes + 1) + 1) % 16) ::
            hexChar (number / 16 ^ (2 * (bytes + 1)) % 16) ::
              (hexPad (2 * (bytes + 1)) number ++ rest) := rfl
      have hleft : left + (bytes + 1 + 1) = left + (bytes + 1) + 1 := rfl
      rw [hpad, hleft, readBytes_byte (hdigit _) (hdigit _),
        show 2 * (bytes + 1) = 2 * bytes + 1 + 1 from rfl, afterByte_hexPad,
        show 2 * bytes + 1 + 1 = 2 * (bytes + 1) from rfl, ih]
      congr 1
      rw [show 2 * (bytes + 1 + 1) = 2 * (bytes + 1) + 1 + 1 from rfl,
        Nat.mod_pow_succ (k := 2 * (bytes + 1) + 1),
        Nat.mod_pow_succ (k := 2 * (bytes + 1)), Nat.pow_succ, Nat.pow_succ]
      ring

theorem ofText?_text (id : Uuid) : ofText? (text id) = some id := by
  have hlist : (text id).toList =
      hexPad (2 * (3 + 1)) (id.toNat / 16 ^ 24) ++ '-' ::
        (hexPad (2 * (1 + 1)) (id.toNat / 16 ^ 20) ++ '-' ::
          (hexPad (2 * (1 + 1)) (id.toNat / 16 ^ 16) ++ '-' ::
            (hexPad (2 * (1 + 1)) (id.toNat / 16 ^ 12) ++ '-' ::
              (hexPad (2 * (5 + 1)) id.toNat ++ [])))) := by
    rw [text]
    simp only [String.toList_ofList, List.append_assoc, List.cons_append,
      List.append_nil]
  have hread : readBytes 16 0 (text id).toList = some (id.toNat, []) := by
    rw [hlist, show 16 = 12 + (3 + 1) from rfl, readBytes_group]
    change readBytes (10 + (1 + 1)) _ (hexPad (2 * (1 + 1)) _ ++ _) = _
    rw [readBytes_group]
    change readBytes (8 + (1 + 1)) _ (hexPad (2 * (1 + 1)) _ ++ _) = _
    rw [readBytes_group]
    change readBytes (6 + (1 + 1)) _ (hexPad (2 * (1 + 1)) _ ++ _) = _
    rw [readBytes_group]
    change readBytes (0 + (5 + 1)) _ (hexPad (2 * (5 + 1)) _ ++ _) = _
    rw [readBytes_group]
    have hlt := id.isLt
    simp only [readBytes, Option.some.injEq, Prod.mk.injEq]
    refine ⟨?_, rfl⟩
    norm_num
    omega
  have hbrace : ∀ chars, (text id).toList ≠ '{' :: chars := by
    intro chars heq
    rw [hlist] at heq
    exact (hexChar_ne (Nat.mod_lt _ (by decide))).2 (List.cons.inj heq).1
  rw [ofText?]
  split
  next chars heq => exact absurd heq (hbrace chars)
  next =>
    rw [hread]
    simp

end RoundTrip

end Uuid

end LinkFlow
