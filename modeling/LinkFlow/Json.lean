/-
JSON texts as both languages of the repository meet them.  Go decodes a text
into maps, where the last of several members with one name wins; the text
itself keeps them all.  A number is the rational it denotes, with a mark for
the literals that Go accepts as an integer.
-/
import LinkFlow.Lib.GoMap
import LinkFlow.Text
import Mathlib.Data.Rat.Defs

namespace LinkFlow

inductive Json where
  | null
  | bool (value : Bool)
  | num (value : ℚ) (integer : Bool)
  | str (value : String)
  | arr (items : List Json)
  | obj (members : List (String × Json))
deriving Repr

namespace Json

instance : Inhabited Json := ⟨.null⟩

/-- `value.(string)`. -/
def string? : Json → Option String
  | .str value => some value
  | _ => none

/-- `value.(bool)`. -/
def bool? : Json → Option Bool
  | .bool value => some value
  | _ => none

/-- `value.(float64)`. -/
def number? : Json → Option ℚ
  | .num value _ => some value
  | _ => none

/-- `value.(map[string]any)`. -/
def object? : Json → Option (GoMap Json)
  | .obj members => some (GoMap.ofMembers members)
  | _ => none

/-- A field of an object. -/
def field? (value : Json) (key : String) : Option Json :=
  value.object?.bind fun members => members.get? key

end Json

end LinkFlow
