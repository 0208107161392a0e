/-
A decoder that takes JSON values off a stream of bytes, one at a time.
-/
import Mathlib.Data.List.Basic

namespace JsonStream

/-- The whitespace between JSON tokens. -/
def isSpace (byte : UInt8) : Bool :=
  byte ∈ [0x20, 0x09, 0x0a, 0x0d]

def Blank (bytes : List UInt8) : Prop := ∀ byte ∈ bytes, isSpace byte = true

instance (bytes : List UInt8) : Decidable (Blank bytes) :=
  List.decidableBAll (fun byte => isSpace byte = true) bytes

/-- What one step makes of the unread bytes: nothing is left, a value and what
follows it, or bytes that begin no value. -/
inductive Read where
  | eof
  | value (text rest : List UInt8)
  | broken
deriving Repr, DecidableEq

/-- A decoder with the texts it takes for values.  It finds the end only in
blank bytes, and a value wherever one stands. -/
structure Decoder where
  IsValue : List UInt8 → Prop
  read : List UInt8 → Read
  read_eq_eof_iff : ∀ bytes, read bytes = .eof ↔ Blank bytes
  bytes_of_read : ∀ {bytes text rest}, read bytes = .value text rest →
    IsValue text ∧ ∃ space, Blank space ∧ bytes = space ++ text ++ rest
  read_of_value : ∀ {space text after}, Blank space → IsValue text →
    Blank after → read (space ++ text ++ after) = .value text after

/-- The bytes are one value, with nothing but whitespace around it. -/
def Decoder.Single (decoder : Decoder) (bytes text : List UInt8) : Prop :=
  ∃ space after, Blank space ∧ Blank after ∧ decoder.IsValue text ∧
    bytes = space ++ text ++ after

/-- One value alone is what is read with nothing but whitespace after it. -/
theorem Decoder.single_iff (decoder : Decoder) {bytes text : List UInt8} :
    decoder.Single bytes text ↔
      ∃ rest, decoder.read bytes = .value text rest ∧ Blank rest := by
  constructor
  · rintro ⟨space, after, hspace, hafter, hvalue, rfl⟩
    exact ⟨after, decoder.read_of_value hspace hvalue hafter, hafter⟩
  · rintro ⟨rest, hread, hrest⟩
    obtain ⟨hvalue, space, hspace, hbytes⟩ := decoder.bytes_of_read hread
    exact ⟨space, rest, hspace, hrest, hvalue, hbytes⟩

end JsonStream
