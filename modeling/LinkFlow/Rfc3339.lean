/-
Go's `time.Time` in the RFC3339Nano layout.  A time is an integer, nanoseconds
since the Unix epoch; texts are read and written in the proleptic Gregorian
calendar.
-/
import LinkFlow.Lib.FixedDigits
import Mathlib.Data.List.DropRight
import Mathlib.Data.Nat.Log

namespace LinkFlow

/-- A day of the Gregorian calendar. -/
structure CivilDate where
  year : Int
  month : Nat
  day : Nat
deriving Repr, DecidableEq

/-- The date of a day counted from the Unix epoch.  Years are counted from
March, in eras of 400 years. -/
def civilFromDays (days : Int) : CivilDate :=
  let shifted := days + 719468
  let dayOfEra := (shifted % 146097).toNat
  let yearOfEra :=
    (dayOfEra - dayOfEra / 1460 + dayOfEra / 36524 - dayOfEra / 146096) / 365
  let dayOfYear :=
    dayOfEra - (365 * yearOfEra + yearOfEra / 4 - yearOfEra / 100)
  let shiftedMonth := (5 * dayOfYear + 2) / 153
  let month := if shiftedMonth < 10 then shiftedMonth + 3 else shiftedMonth - 9
  { year := yearOfEra + shifted / 146097 * 400 + if month ≤ 2 then 1 else 0
    month := month
    day := dayOfYear - (153 * shiftedMonth + 2) / 5 + 1 }

/-- The days from the Unix epoch to a date. -/
def daysFromCivil (date : CivilDate) : Int :=
  let year := if date.month ≤ 2 then date.year - 1 else date.year
  let yearOfEra := year % 400
  let shiftedMonth := if 2 < date.month then date.month - 3 else date.month + 9
  let dayOfYear := (153 * shiftedMonth + 2) / 5 + date.day - 1
  let dayOfEra := yearOfEra * 365 + yearOfEra / 4 - yearOfEra / 100 + dayOfYear
  year / 400 * 146097 + dayOfEra - 719468

example : civilFromDays 19675 = ⟨2023, 11, 14⟩ := by decide

example : daysFromCivil ⟨2024, 2, 29⟩ = 19782 := by decide

def isLeapYear (year : Int) : Bool :=
  year % 4 = 0 && (year % 100 ≠ 0 || year % 400 = 0)

def daysIn (year : Int) (month : Nat) : Nat :=
  if month = 2 then if isLeapYear year then 29 else 28
  else if month ∈ [4, 6, 9, 11] then 30
  else 31

/-- `time.Time{}`, the first instant of year 1. -/
def zeroTime : Int := daysFromCivil ⟨1, 1, 1⟩ * 86400 * 1000000000

def daysOf (time : Int) : Int := time / 1000000000 / 86400

/-- The year of a time in UTC. -/
def yearOf (time : Int) : Int := (civilFromDays (daysOf time)).year

/-- A year of four digits, as RFC 3339 asks for. -/
def HasFourDigitYear (time : Int) : Prop := 0 ≤ yearOf time ∧ yearOf time ≤ 9999

instance (time : Int) : Decidable (HasFourDigitYear time) :=
  inferInstanceAs (Decidable (_ ∧ _))

/-- `appendInt(b, year, 4)`: at least four digits, and a sign before year 0. -/
def formatYear (year : Int) : List Char :=
  let digits := FixedDigits.pad (max 4 (Nat.log 10 year.natAbs + 1)) year.natAbs
  if year < 0 then '-' :: digits else digits

/-- The nine digits of a fraction without its trailing zeros. -/
def formatFraction (nanos : Nat) : List Char :=
  if nanos = 0 then []
  else
    '.' :: (FixedDigits.pad 9 nanos).rdropWhile (· = '0')

/-- `t.UTC().Format(time.RFC3339Nano)`. -/
def formatRFC3339Nano (time : Int) : String :=
  let date := civilFromDays (daysOf time)
  let second := (time / 1000000000 % 86400).toNat
  String.ofList
    (formatYear date.year ++ '-' :: FixedDigits.pad 2 date.month ++
      '-' :: FixedDigits.pad 2 date.day ++
      'T' :: FixedDigits.pad 2 (second / 3600) ++
      ':' :: FixedDigits.pad 2 (second / 60 % 60) ++
      ':' :: FixedDigits.pad 2 (second % 60) ++
      formatFraction (time % 1000000000).toNat ++ ['Z'])

/-- The fields of an RFC 3339 text, not yet checked against their ranges. -/
structure TimeFields where
  year : Nat
  month : Nat
  day : Nat
  hour : Nat
  minute : Nat
  second : Nat
  nanos : Nat
  offsetSign : Int
  offsetHour : Nat
  offsetMinute : Nat
deriving Repr, DecidableEq

/-- Skip one given character. -/
def expect (char : Char) : List Char → Option (List Char)
  | [] => none
  | first :: rest => if first = char then some rest else none

/-- Digits after a point; those beyond the ninth are dropped. -/
def scanFraction (chars : List Char) : Option (Nat × List Char) :=
  match chars with
  | '.' :: rest =>
      let digits := rest.takeWhile FixedDigits.isDigit
      if digits = [] then none
      else
        let nine := (digits ++ List.replicate 9 '0').take 9
        match FixedDigits.read 9 0 nine with
        | some (nanos, _) => some (nanos, rest.dropWhile FixedDigits.isDigit)
        | none => none
  | _ => some (0, chars)

/-- `Z` or a numeric offset, up to the end of the text. -/
def scanOffset : List Char → Option (Int × Nat × Nat)
  | ['Z'] => some (1, 0, 0)
  | sign :: rest => do
      let (hour, rest) ← FixedDigits.read 2 0 rest
      let rest ← expect ':' rest
      let (minute, rest) ← FixedDigits.read 2 0 rest
      if rest ≠ [] then none
      else if sign = '+' then some (1, hour, minute)
      else if sign = '-' then some (-1, hour, minute)
      else none
  | [] => none

def scanRFC3339 (text : String) : Option TimeFields := do
  let (year, rest) ← FixedDigits.read 4 0 text.toList
  let rest ← expect '-' rest
  let (month, rest) ← FixedDigits.read 2 0 rest
  let rest ← expect '-' rest
  let (day, rest) ← FixedDigits.read 2 0 rest
  let rest ← expect 'T' rest
  let (hour, rest) ← FixedDigits.read 2 0 rest
  let rest ← expect ':' rest
  let (minute, rest) ← FixedDigits.read 2 0 rest
  let rest ← expect ':' rest
  let (second, rest) ← FixedDigits.read 2 0 rest
  let (nanos, rest) ← scanFraction rest
  let (sign, offsetHour, offsetMinute) ← scanOffset rest
  some
    { year := year
      month := month
      day := day
      hour := hour
      minute := minute
      second := second
      nanos := nanos
      offsetSign := sign
      offsetHour := offsetHour
      offsetMinute := offsetMinute }

/-- Every field lies in its range; leap seconds do not. -/
def TimeFields.valid (fields : TimeFields) : Bool :=
  1 ≤ fields.month && fields.month ≤ 12 && 1 ≤ fields.day &&
    fields.day ≤ daysIn fields.year fields.month && fields.hour ≤ 23 &&
    fields.minute ≤ 59 && fields.second ≤ 59 && fields.offsetHour ≤ 23 &&
    fields.offsetMinute ≤ 59

def TimeFields.time (fields : TimeFields) : Int :=
  let days := daysFromCivil ⟨fields.year, fields.month, fields.day⟩
  let second : Int := fields.hour * 3600 + fields.minute * 60 + fields.second
  let offset := fields.offsetSign *
    ((fields.offsetHour * 3600 + fields.offsetMinute * 60 : Nat) : Int)
  (days * 86400 + second - offset) * 1000000000 + fields.nanos

/-- `time.Parse(time.RFC3339Nano, value)`, for texts the `date-time` format has
let through. -/
def parseRFC3339Nano (text : String) : Option Int :=
  match scanRFC3339 text with
  | some fields => if fields.valid then some fields.time else none
  | none => none

example : parseRFC3339Nano "2023-11-14T22:13:20.5Z" =
    some 1700000000500000000 := by decide

example : formatRFC3339Nano 1700000000500000000 = "2023-11-14T22:13:20.5Z" := by
  decide

theorem civilFromDays_bounds (days : Int) :
    (civilFromDays days).month < 100 ∧ (civilFromDays days).day < 100 := by
  have hday : ((days + 719468) % 146097).toNat < 146097 := by omega
  rw [civilFromDays]
  simp only
  generalize ((days + 719468) % 146097).toNat = dayOfEra at hday
  have hyear : dayOfEra -
      (365 * ((dayOfEra - dayOfEra / 1460 + dayOfEra / 36524 -
            dayOfEra / 146096) / 365) +
          (dayOfEra - dayOfEra / 1460 + dayOfEra / 36524 -
            dayOfEra / 146096) / 365 / 4 -
        (dayOfEra - dayOfEra / 1460 + dayOfEra / 36524 -
            dayOfEra / 146096) / 365 / 100) ≤ 400 := by
    omega
  generalize dayOfEra - _ = dayOfYear at hyear
  constructor
  · split <;> omega
  · omega

theorem formatYear_four_digits {year : Int} (hlow : 0 ≤ year)
    (hhigh : year ≤ 9999) :
    formatYear year = FixedDigits.pad 4 year.natAbs := by
  have hlog : Nat.log 10 year.natAbs < 4 := by
    apply Nat.log_lt_of_lt_pow' (by decide)
    omega
  have hwidth : max 4 (Nat.log 10 year.natAbs + 1) = 4 := by omega
  simp [formatYear, hwidth, not_lt.mpr hlow]

@[simp] theorem expect_self (char : Char) (rest : List Char) :
    expect char (char :: rest) = some rest := by
  simp [expect]

theorem expect_pad {width number : Nat} {char : Char} {rest : List Char}
    (hchar : FixedDigits.isDigit char = false) :
    expect char (FixedDigits.pad (width + 1) number ++ rest) = none := by
  have hdigit : FixedDigits.isDigit
      (FixedDigits.digitChar (number / 10 ^ width % 10)) = true :=
    FixedDigits.isDigit_digitChar (Nat.mod_lt _ (by decide))
  simp only [FixedDigits.pad, List.cons_append, expect]
  rw [if_neg]
  intro heq
  rw [heq, hchar] at hdigit
  cases hdigit

/-- No hyphen follows the first four digits of a longer year. -/
theorem expect_after_formatYear {year : Int}
    (hyear : ¬ (0 ≤ year ∧ year ≤ 9999)) {rest after : List Char} {number : Nat}
    (hread : FixedDigits.read 4 0 (formatYear year ++ rest) =
      some (number, after)) :
    expect '-' after = none := by
  by_cases hlow : 0 ≤ year
  · have hlog : 4 ≤ Nat.log 10 year.natAbs := by
      apply (Nat.le_log_iff_pow_le (by decide) (by omega)).mpr
      omega
    obtain ⟨more, hmore⟩ := Nat.exists_eq_add_of_le hlog
    have hwidth : max 4 (Nat.log 10 year.natAbs + 1) = 4 + (more + 1) := by
      omega
    have hformat : formatYear year =
        FixedDigits.pad (4 + (more + 1)) year.natAbs := by
      simp [formatYear, hwidth, not_lt.mpr hlow]
    obtain ⟨value, left, hlonger⟩ :=
      FixedDigits.read_pad_longer 4 (more + 1) year.natAbs 0 rest
    rw [hformat, hlonger] at hread
    cases hread
    exact expect_pad (by decide)
  · have hformat : ∃ digits, formatYear year = '-' :: digits :=
      ⟨_, by simp only [formatYear, if_pos (not_le.mp hlow)]; rfl⟩
    obtain ⟨digits, hdigits⟩ := hformat
    rw [hdigits] at hread
    cases hread

/-- The fraction of a second is read back up to the `Z`. -/
theorem scanFraction_formatFraction {nanos : Nat} (hlt : nanos < 10 ^ 9) :
    ∃ value, scanFraction (formatFraction nanos ++ ['Z']) =
      some (value, ['Z']) := by
  by_cases hzero : nanos = 0
  · exact ⟨0, by simp [formatFraction, hzero, scanFraction]⟩
  · let digits := (FixedDigits.pad 9 nanos).rdropWhile (· = '0')
    have hdigits : ∀ char ∈ digits, FixedDigits.isDigit char = true := by
      intro char hmem
      exact FixedDigits.isDigit_of_mem_pad
        ((List.rdropWhile_prefix _ _).subset hmem)
    have hsome : digits ≠ [] := by
      intro hnil
      have hall : ∀ char ∈ FixedDigits.pad 9 nanos, char = '0' := by
        intro char hmem
        simpa using List.rdropWhile_eq_nil_iff.mp hnil char hmem
      have hzeros : FixedDigits.pad 9 nanos = List.replicate 9 '0' :=
        List.eq_replicate_iff.mpr ⟨FixedDigits.length_pad .., hall⟩
      have hread := FixedDigits.read_pad hlt 0 []
      rw [hzeros] at hread
      have hvalue : FixedDigits.read 9 0 (List.replicate 9 '0' ++ []) =
          some (0, []) := by decide
      rw [hvalue] at hread
      simp at hread
      omega
    have hformat : formatFraction nanos = '.' :: digits := by
      simp [formatFraction, hzero, digits]
    have htake : (digits ++ ['Z']).takeWhile FixedDigits.isDigit = digits := by
      rw [List.takeWhile_append_of_pos hdigits]
      simp [FixedDigits.isDigit]
    have hdrop : (digits ++ ['Z']).dropWhile FixedDigits.isDigit = ['Z'] := by
      rw [List.dropWhile_append_of_pos hdigits]
      rfl
    have hnine : ∀ char ∈ (digits ++ List.replicate 9 '0').take 9,
        FixedDigits.isDigit char = true := by
      intro char hmem
      rcases List.mem_append.mp (List.mem_of_mem_take hmem) with hold | hfill
      · exact hdigits char hold
      · rw [(List.mem_replicate.mp hfill).2]
        rfl
    have hlength : 9 ≤ ((digits ++ List.replicate 9 '0').take 9).length := by
      simp
    obtain ⟨value, hvalue⟩ := FixedDigits.exists_read 0 hnine hlength
    refine ⟨value, ?_⟩
    rw [hformat, List.cons_append]
    simp only [scanFraction, htake, hdrop, if_neg hsome, hvalue]

section Bind

variable {β : Type} {rest : List Char}

theorem bind_expect {char : Char} {next : List Char → Option β} :
    (expect char (char :: rest) >>= next) = next rest := by
  rw [expect_self]
  rfl

theorem bind_read_pad {width number : Nat} {next : Nat × List Char → Option β}
    (hlt : number < 10 ^ width) :
    (FixedDigits.read width 0 (FixedDigits.pad width number ++ rest) >>= next) =
      next (number, rest) := by
  rw [FixedDigits.read_pad hlt, Nat.zero_mul, Nat.zero_add]
  rfl

end Bind

/-- A written time has the shape RFC 3339 asks for exactly when its year has
four digits. -/
theorem scanRFC3339_format_isSome_iff (time : Int) :
    (scanRFC3339 (formatRFC3339Nano time)).isSome = true ↔
      HasFourDigitYear time := by
  obtain ⟨hmonth, hday⟩ := civilFromDays_bounds (daysOf time)
  have hsecond : (time / 1000000000 % 86400).toNat < 86400 := by omega
  have hnanos : (time % 1000000000).toNat < 10 ^ 9 := by omega
  rw [scanRFC3339, formatRFC3339Nano, HasFourDigitYear, yearOf]
  simp only [String.toList_ofList, List.append_assoc, List.cons_append]
  generalize civilFromDays (daysOf time) = date at hmonth hday
  generalize (time / 1000000000 % 86400).toNat = second at hsecond
  generalize (time % 1000000000).toNat = nanos at hnanos
  obtain ⟨fraction, hfraction⟩ := scanFraction_formatFraction hnanos
  by_cases hyear : 0 ≤ date.year ∧ date.year ≤ 9999
  · have hfits : date.year.natAbs < 10 ^ 4 := by omega
    rw [formatYear_four_digits hyear.1 hyear.2, bind_read_pad hfits,
      bind_expect, bind_read_pad hmonth, bind_expect, bind_read_pad hday,
      bind_expect, bind_read_pad (by omega), bind_expect,
      bind_read_pad (by omega), bind_expect, bind_read_pad (by omega),
      hfraction]
    simp [scanOffset, hyear]
  · simp only [hyear, iff_false, Bool.not_eq_true, Option.isSome_eq_false_iff,
      Option.isNone_iff_eq_none]
    rw [Option.bind_eq_bind, Option.bind_eq_none_iff]
    rintro ⟨number, after⟩ hread
    have hnone := expect_after_formatYear hyear hread
    rw [hnone]
    rfl

end LinkFlow
