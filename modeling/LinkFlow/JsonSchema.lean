/-
The part of JSON Schema the event contracts use: objects with named members and
no others, string rules, and maps whose names match one pattern and whose
values match exactly one alternative.
-/
import LinkFlow.Json
import LinkFlow.Rfc3339
import LinkFlow.Uuid

namespace LinkFlow

/-- The format assertions of the schema library, with what the contracts rely
on: canonical UUIDs are accepted, and a written time is exactly when its year
has four digits. -/
structure FormatChecker where
  uuid : String → Bool
  dateTime : String → Bool
  uuid_text : ∀ id, uuid (Uuid.text id) = true
  dateTime_format : ∀ time,
    dateTime (formatRFC3339Nano time) = true ↔ HasFourDigitYear time

/-- Both formats by their shape alone. -/
def FormatChecker.byShape : FormatChecker where
  uuid := Uuid.hasForm
  dateTime text := (scanRFC3339 text).isSome
  uuid_text := Uuid.hasForm_text
  dateTime_format := scanRFC3339_format_isSome_iff

namespace JsonSchema

inductive Format where
  | any
  | uuid
  | dateTime
deriving Repr, DecidableEq

def Format.accepts (formats : FormatChecker) : Format → String → Bool
  | .any, _ => true
  | .uuid, text => formats.uuid text
  | .dateTime, text => formats.dateTime text

/-- The keywords of a string schema.  Lengths count code points. -/
structure StringRule where
  minLength : Nat := 0
  maxLength : Option Nat := none
  pattern : String → Bool := fun _ => true
  format : Format := .any
  enum : Option (List String) := none

def StringRule.accepts (formats : FormatChecker) (rule : StringRule)
    (text : String) : Bool :=
  rule.minLength ≤ text.length && rule.maxLength.all (text.length ≤ ·) &&
    rule.pattern text && rule.format.accepts formats text &&
    rule.enum.all (text ∈ ·)

/-- A schema by type, without members of its own. -/
inductive Atom where
  | number
  | integer (minimum : Int)
  | boolean
  | string (rule : StringRule)
  | object
  | array

/-- A number is an integer by its value, however it is written. -/
def Atom.accepts (formats : FormatChecker) : Atom → Json → Bool
  | .number, .num _ _ => true
  | .integer minimum, .num value _ => value.den = 1 && minimum ≤ value.num
  | .boolean, .bool _ => true
  | .string rule, .str text => rule.accepts formats text
  | .object, .obj _ => true
  | .array, .arr _ => true
  | _, _ => false

/-- `minProperties`, `patternProperties` with one pattern and a `oneOf`, and
`additionalProperties: false`. -/
structure ValueMap where
  minProperties : Nat
  names : Pattern
  oneOf : List Atom

def ValueMap.acceptsEntry (formats : FormatChecker) (rule : ValueMap)
    (name : String) (value : Json) : Bool :=
  rule.names.matches name &&
    rule.oneOf.countP (fun choice => choice.accepts formats value) = 1

def ValueMap.accepts (formats : FormatChecker) (rule : ValueMap)
    (value : Json) : Bool :=
  match value.object? with
  | none => false
  | some map =>
      rule.minProperties ≤ map.entries.length &&
        map.entries.all fun entry => rule.acceptsEntry formats entry.1 entry.2

inductive Member where
  | atom (schema : Atom)
  | valueMap (rule : ValueMap)

def Member.accepts (formats : FormatChecker) : Member → Json → Bool
  | .atom schema, value => schema.accepts formats value
  | .valueMap rule, value => rule.accepts formats value

/-- An object schema; `additionalProperties` is false throughout. -/
structure ObjectSchema where
  required : List String
  properties : List (String × Member)

def ObjectSchema.acceptsMember (formats : FormatChecker)
    (schema : ObjectSchema) (name : String) (value : Json) : Bool :=
  match schema.properties.lookup name with
  | none => false
  | some member => member.accepts formats value

def ObjectSchema.accepts (formats : FormatChecker) (schema : ObjectSchema)
    (value : Json) : Bool :=
  match value.object? with
  | none => false
  | some map =>
      schema.required.all (fun name => (map.get? name).isSome) &&
        map.entries.all fun entry =>
          schema.acceptsMember formats entry.1 entry.2

section Lemmas

variable {formats : FormatChecker}

theorem ValueMap.accepts_iff {rule : ValueMap} {value : Json} :
    rule.accepts formats value = true ↔
      ∃ map, value.object? = some map ∧
        rule.minProperties ≤ map.entries.length ∧
        ∀ name held, map.get? name = some held →
          rule.acceptsEntry formats name held = true := by
  rw [ValueMap.accepts]
  cases value.object? with
  | none => simp
  | some map => simp [← GoMap.mem_entries_iff]

theorem ObjectSchema.accepts_iff {schema : ObjectSchema} {value : Json} :
    schema.accepts formats value = true ↔
      ∃ map, value.object? = some map ∧
        (∀ name ∈ schema.required, (map.get? name).isSome = true) ∧
        ∀ name held, map.get? name = some held →
          schema.acceptsMember formats name held = true := by
  rw [ObjectSchema.accepts]
  cases value.object? with
  | none => simp
  | some map => simp [← GoMap.mem_entries_iff]

/-- An object whose names are distinct is checked member by member. -/
theorem ObjectSchema.accepts_obj {schema : ObjectSchema}
    {members : List (String × Json)} (hnodup : (members.map Prod.fst).Nodup) :
    schema.accepts formats (.obj members) = true ↔
      (∀ name ∈ schema.required, (members.lookup name).isSome = true) ∧
        ∀ member ∈ members,
          schema.acceptsMember formats member.1 member.2 = true := by
  have hentries := GoMap.entries_ofMembers hnodup
  simp [ObjectSchema.accepts, Json.object?, GoMap.get?, hentries]

/-- A marshalled map is checked entry by entry. -/
theorem ValueMap.accepts_entries {rule : ValueMap} {map : GoMap Json} :
    rule.accepts formats (.obj map.entries) = true ↔
      rule.minProperties ≤ map.entries.length ∧
        ∀ name held, map.get? name = some held →
          rule.acceptsEntry formats name held = true := by
  rw [ValueMap.accepts_iff]
  simp [Json.object?, GoMap.ofMembers_entries]

end Lemmas

end JsonSchema

end LinkFlow
