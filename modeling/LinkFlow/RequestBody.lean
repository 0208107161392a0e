/-
The body of an API request: one JSON value, and what may follow it.
-/
import LinkFlow.Lib.JsonStream
import LinkFlow.RegistryServices

namespace LinkFlow

namespace Handler

open JsonStream Registry

/-- Why `Decode` fails. -/
inductive DecodeError where
  | eof
  | broken
  | mismatch
deriving Repr, DecidableEq

/-- The errors of `decodeJSON`; `invalidJSON` may wrap the decoder's error. -/
inductive HTTPError where
  | contentTypeRequired
  | invalidJSON (cause : Option DecodeError)
deriving Repr, DecidableEq

/-- `decoder.Decode`: the next value, if it fits the destination, and the bytes
after it.  `into` is what the destination makes of a value's text. -/
def decodeNext {α : Type} (decoder : Decoder) (into : List UInt8 → Option α)
    (bytes : List UInt8) : Except DecodeError (α × List UInt8) :=
  match decoder.read bytes with
  | .eof => .error .eof
  | .broken => .error .broken
  | .value text rest =>
      match into text with
      | none => .error .mismatch
      | some value => .ok (value, rest)

variable {α β : Type} (casing : Casing) (decoder : Decoder)

/-- `decodeJSON`.  `into` is the destination with unknown fields disallowed,
`extra` a variable of type `any`. -/
def decodeJSON (into : List UInt8 → Option α) (extra : List UInt8 → Option β)
    (contentType : String) (body : List UInt8) : Except HTTPError α :=
  if !"application/json".toList.isPrefixOf
      (casing.toLower contentType).toList then
    .error .contentTypeRequired
  else
    match decodeNext decoder into body with
    | .error err => .error (.invalidJSON (some err))
    | .ok (value, rest) =>
        match decodeNext decoder extra rest with
        | .ok _ => .error (.invalidJSON none)
        | .error _ => .ok value

/-- What is to be decoded: the one value of the body. -/
def DecodesTo (into : List UInt8 → Option α) (body : List UInt8) (value : α) :
    Prop :=
  ∃ text, decoder.Single body text ∧ into text = some value

/-- `decodeJSON` answers a body with its one value, and any other with
`ErrInvalidJSON`. -/
def Exact (into : List UInt8 → Option α) (extra : List UInt8 → Option β)
    (contentType : String) (body : List UInt8) : Prop :=
  (∀ value, decodeJSON casing decoder into extra contentType body = .ok value ↔
    DecodesTo decoder into body value) ∧
  ∀ err, decodeJSON casing decoder into extra contentType body = .error err →
    ∃ cause, err = .invalidJSON cause

/-- After a first value that fits, there is nothing but whitespace, or a second
value that a variable of type `any` can hold. -/
def LeavesValue (into : List UInt8 → Option α) (extra : List UInt8 → Option β)
    (body : List UInt8) : Prop :=
  ∀ text rest, decoder.read body = .value text rest →
    (into text).isSome = true → Blank rest ∨
      ∃ second left, decoder.read rest = .value second left ∧
        (extra second).isSome = true

variable {casing decoder} {into : List UInt8 → Option α}
  {extra : List UInt8 → Option β} {contentType : String} {body : List UInt8}

theorem decodeNext_eq_ok_iff {value : α} {rest : List UInt8} :
    decodeNext decoder into body = .ok (value, rest) ↔
      ∃ text, decoder.read body = .value text rest ∧
        into text = some value := by
  rw [decodeNext]
  cases decoder.read body with
  | eof => simp
  | broken => simp
  | value text left =>
      cases hinto : into text <;> simp [hinto, and_comm, eq_comm]

theorem decodesTo_iff {value : α} :
    DecodesTo decoder into body value ↔
      ∃ rest, decodeNext decoder into body = .ok (value, rest) ∧
        Blank rest := by
  simp only [DecodesTo, decoder.single_iff, decodeNext_eq_ok_iff]
  constructor
  · rintro ⟨text, ⟨rest, hread, hblank⟩, hinto⟩
    exact ⟨rest, ⟨text, hread, hinto⟩, hblank⟩
  · rintro ⟨rest, ⟨text, hread, hinto⟩, hblank⟩
    exact ⟨text, ⟨rest, hread, hblank⟩, hinto⟩

/-- Blank bytes hold no further value. -/
theorem decodeNext_blank {rest : List UInt8} (hblank : Blank rest) :
    decodeNext decoder extra rest = .error .eof := by
  rw [decodeNext]
  rw [(decoder.read_eq_eof_iff rest).mpr hblank]

theorem leavesValue_iff :
    LeavesValue decoder into extra body ↔
      ∀ value rest, decodeNext decoder into body = .ok (value, rest) →
        Blank rest ∨ ∃ second, decodeNext decoder extra rest = .ok second := by
  simp only [LeavesValue, Prod.exists, decodeNext_eq_ok_iff]
  constructor
  · rintro hleaves value rest ⟨text, hread, hinto⟩
    refine (hleaves text rest hread (by simp [hinto])).imp_right ?_
    rintro ⟨second, left, hsecond, hextra⟩
    obtain ⟨held, hheld⟩ := Option.isSome_iff_exists.mp hextra
    exact ⟨held, left, second, hsecond, hheld⟩
  · intro hleaves text rest hread hfits
    obtain ⟨value, hinto⟩ := Option.isSome_iff_exists.mp hfits
    refine (hleaves value rest ⟨text, hread, hinto⟩).imp_right ?_
    rintro ⟨held, left, second, hsecond, hheld⟩
    exact ⟨second, left, hsecond, by simp [hheld]⟩

section JSON

variable (hjson : "application/json".toList.isPrefixOf
  (casing.toLower contentType).toList = true)

include hjson

theorem decodeJSON_eq_ok_iff {value : α} :
    decodeJSON casing decoder into extra contentType body = .ok value ↔
      ∃ rest, decodeNext decoder into body = .ok (value, rest) ∧
        ∀ second, decodeNext decoder extra rest ≠ .ok second := by
  rw [decodeJSON]
  rw [hjson]
  simp only [Bool.not_true, Bool.false_eq_true, if_false]
  cases decodeNext decoder into body with
  | error err => simp
  | ok first =>
      obtain ⟨held, rest⟩ := first
      cases hextra : decodeNext decoder extra rest with
      | error err => simp [hextra, and_comm]
      | ok second =>
          apply iff_of_false
          · simp [hextra]
          · rintro ⟨left, heq, hnone⟩
            cases heq
            exact hnone second hextra

theorem decodeJSON_error {err : HTTPError}
    (herr : decodeJSON casing decoder into extra contentType body =
      .error err) : ∃ cause, err = .invalidJSON cause := by
  rw [decodeJSON] at herr
  rw [hjson] at herr
  simp only [Bool.not_true, Bool.false_eq_true, if_false] at herr
  split at herr
  · cases herr
    exact ⟨_, rfl⟩
  · split at herr
    · cases herr
      exact ⟨_, rfl⟩
    · cases herr

/-- A body is answered as it should be unless the bytes after its first value
begin no value themselves. -/
theorem decodeJSON_exact_iff :
    Exact casing decoder into extra contentType body ↔
      LeavesValue decoder into extra body := by
  rw [Exact]
  rw [leavesValue_iff]
  simp only [decodeJSON_eq_ok_iff hjson, decodesTo_iff]
  constructor
  · rintro ⟨hexact, -⟩ value rest hfirst
    by_contra hneither
    rw [not_or, not_exists] at hneither
    obtain ⟨left, hleft, hblank⟩ :=
      (hexact value).mp ⟨rest, hfirst, hneither.2⟩
    rw [hfirst] at hleft
    cases hleft
    exact hneither.1 hblank
  · intro hleaves
    refine ⟨fun value => ?_, fun err herr => decodeJSON_error hjson herr⟩
    constructor
    · rintro ⟨rest, hfirst, hnone⟩
      rcases hleaves value rest hfirst with hblank | ⟨second, hsecond⟩
      · exact ⟨rest, hfirst, hblank⟩
      · exact absurd hsecond (hnone second)
    · rintro ⟨rest, hfirst, hblank⟩
      refine ⟨rest, hfirst, fun second hsecond => ?_⟩
      rw [decodeNext_blank hblank] at hsecond
      cases hsecond

end JSON

section Samples

/-- What is left of blank bytes before other bytes. -/
theorem dropWhile_blank {space rest : List UInt8} (hspace : Blank space) :
    (space ++ rest).dropWhile JsonStream.isSpace =
      rest.dropWhile JsonStream.isSpace := by
  rw [List.dropWhile_append, List.dropWhile_eq_nil_iff.mpr hspace]
  rfl

/-- A decoder for the empty object, written without a blank inside. -/
def emptyObjects : Decoder where
  IsValue text := text = [0x7b, 0x7d]
  read bytes :=
    match bytes.dropWhile JsonStream.isSpace with
    | [] => .eof
    | 0x7b :: 0x7d :: rest => .value [0x7b, 0x7d] rest
    | _ => .broken
  read_eq_eof_iff bytes := by
    rw [Blank, ← List.dropWhile_eq_nil_iff]
    split
    next hnil => simp [hnil]
    next hbraces => simp [hbraces]
    next hother _ => exact iff_of_false (by simp) hother
  bytes_of_read := by
    intro bytes text rest hread
    split at hread
    · cases hread
    next left hleft =>
      cases hread
      refine ⟨rfl, bytes.takeWhile JsonStream.isSpace,
        fun byte hbyte => List.mem_takeWhile_imp hbyte, ?_⟩
      rw [List.append_assoc]
      nth_rewrite 1 [← List.takeWhile_append_dropWhile (p := JsonStream.isSpace)
        (l := bytes)]
      rw [hleft]
      rfl
    · cases hread
  read_of_value := by
    intro space text after hspace htext _
    rw [htext, List.append_assoc, dropWhile_blank hspace]
    rfl

/-- A destination that the empty object fits, and a variable of type `any`. -/
def anything (text : List UInt8) : Option (List UInt8) := some text

/-- `{}` and `{} {}` are answered as they should be. -/
theorem decodeJSON_exact_braces :
    Exact asciiCasing emptyObjects anything anything "application/json"
        [0x7b, 0x7d] ∧
      Exact asciiCasing emptyObjects anything anything "application/json"
        [0x7b, 0x7d, 0x20, 0x7b, 0x7d] := by
  constructor
  · refine (decodeJSON_exact_iff (by decide +kernel)).mpr ?_
    intro text rest hread _
    cases hread
    exact Or.inl (by decide)
  · refine (decodeJSON_exact_iff (by decide +kernel)).mpr ?_
    intro text rest hread _
    cases hread
    exact Or.inr ⟨_, _, rfl, rfl⟩

/-- `{} x` is taken for the empty object. -/
theorem decodeJSON_trailing_letter :
    decodeJSON asciiCasing emptyObjects anything anything "application/json"
        [0x7b, 0x7d, 0x20, 0x78] = .ok [0x7b, 0x7d] ∧
      ¬ Exact asciiCasing emptyObjects anything anything "application/json"
        [0x7b, 0x7d, 0x20, 0x78] := by
  have haccepted : decodeJSON asciiCasing emptyObjects anything anything
      "application/json" [0x7b, 0x7d, 0x20, 0x78] = .ok [0x7b, 0x7d] := by
    decide +kernel
  refine ⟨haccepted, fun hexact => ?_⟩
  obtain ⟨text, hsingle, -⟩ := (hexact.1 _).mp haccepted
  obtain ⟨rest, hread, hblank⟩ := emptyObjects.single_iff.mp hsingle
  cases hread
  exact absurd (hblank 0x78 (by simp)) (by decide)

end Samples

end Handler

end LinkFlow
