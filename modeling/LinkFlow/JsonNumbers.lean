/-
Numbers between a JSON text and a Go program: read into a variable of type `any`
a number becomes a `float64`, and `json.Marshal` writes the shortest decimal
that reads back as it.
-/
import LinkFlow.Contracts
import LinkFlow.Lib.Binary64

namespace LinkFlow

namespace Json

mutual

/-- Replace every number in a value. -/
def mapNumbers (f : ℚ → Bool → Json) : Json → Json
  | .num value integer => f value integer
  | .arr items => .arr (mapItems f items)
  | .obj members => .obj (mapMembers f members)
  | .null => .null
  | .bool value => .bool value
  | .str value => .str value

def mapItems (f : ℚ → Bool → Json) : List Json → List Json
  | [] => []
  | item :: rest => mapNumbers f item :: mapItems f rest

def mapMembers (f : ℚ → Bool → Json) :
    List (String × Json) → List (String × Json)
  | [] => []
  | (name, value) :: rest => (name, mapNumbers f value) :: mapMembers f rest

end

mutual

/-- A test of every number in a value. -/
def allNumbers (p : ℚ → Bool) : Json → Bool
  | .num value _ => p value
  | .arr items => allItems p items
  | .obj members => allMembers p members
  | .null | .bool _ | .str _ => true

def allItems (p : ℚ → Bool) : List Json → Bool
  | [] => true
  | item :: rest => allNumbers p item && allItems p rest

def allMembers (p : ℚ → Bool) : List (String × Json) → Bool
  | [] => true
  | (_, value) :: rest => allNumbers p value && allMembers p rest

end

/-- No number overflows. -/
def inRange (text : Json) : Bool :=
  text.allNumbers fun value => Binary64.InRange value

/-- `json.Unmarshal` into `any`, where no number overflows. -/
def floats (text : Json) : Json :=
  text.mapNumbers fun value integer => .num (Binary64.round value) integer

/-- The literal of a float has neither a point nor an exponent. -/
def integerLiteral (value : ℚ) : Bool :=
  value.den = 1 && |value| < 10 ^ 21

/-- `json.Marshal` -/
def written (value : Json) : Json :=
  value.mapNumbers fun number _ =>
    .num (Binary64.shortest number) (integerLiteral number)

end Json

/-- `json.Unmarshal` into a `map[string]any`: an error if a number overflows. -/
def readNumbers (text : GoMap Json) : Option (GoMap Json) :=
  if text.entries.all fun entry => entry.2.inRange then
    some (text.mapValues fun _ => Json.floats)
  else none

/-- A map that is absent or null is nil. -/
def readNumbers? : Option (GoMap Json) → Option (Option (GoMap Json))
  | none => some none
  | some text => (readNumbers text).map some

/-- A written object has, under the names of `kept`, the numbers of a text, each
as it is carried. -/
def CarriedUnder (text : GoMap Json) (kept : String → Prop) (object : Json) :
    Prop :=
  ∀ name x literal, text.get? name = some (.num x literal) → kept name →
    ∃ literal', object.field? name = some (.num (Binary64.carried x) literal')

section Written

variable {map text memory : GoMap Json} {kept : String → Prop}

theorem Json.mapMembers_eq (f : ℚ → Bool → Json)
    (members : List (String × Json)) :
    Json.mapMembers f members =
      members.map fun member => (member.1, member.2.mapNumbers f) := by
  induction members with
  | nil => rfl
  | cons member rest ih =>
      obtain ⟨name, value⟩ := member
      rw [Json.mapMembers, ih, List.map_cons]

theorem Json.allMembers_eq (p : ℚ → Bool) (members : List (String × Json)) :
    Json.allMembers p members =
      members.all fun member => member.2.allNumbers p := by
  induction members with
  | nil => rfl
  | cons member rest ih =>
      obtain ⟨name, value⟩ := member
      rw [Json.allMembers, ih, List.all_cons]

/-- What holds of the numbers of an object holds of those of its fields. -/
theorem Json.allNumbers_field {p : ℚ → Bool} {value inner : Json}
    {body : GoMap Json} {key : String} (hall : value.allNumbers p = true)
    (hobject : value.object? = some body) (hget : body.get? key = some inner) :
    inner.allNumbers p = true := by
  cases value with
  | obj members =>
      cases hobject
      change Json.allMembers p members = true at hall
      rw [Json.allMembers_eq, List.all_eq_true] at hall
      rw [GoMap.get?_ofMembers, GoMap.lastMember,
        List.lookup_eq_some_iff] at hget
      obtain ⟨before, after, hsplit, -⟩ := hget
      have hmem : (key, inner) ∈ members.reverse := by
        rw [hsplit]
        exact List.mem_append_right _ List.mem_cons_self
      exact hall _ (List.mem_reverse.mp hmem)
  | _ => cases hobject

theorem Json.written_ofMap (map : GoMap Json) :
    (Json.ofMap map).written =
      .ofMap (map.mapValues fun _ => Json.written) := by
  change Json.obj (Json.mapMembers _ map.entries) = _
  rw [Json.mapMembers_eq]
  rfl

theorem Json.object?_ofMap (map : GoMap Json) :
    (Json.ofMap map).object? = some map := by
  change some (GoMap.ofMembers map.entries) = _
  rw [GoMap.ofMembers_entries]

theorem Json.field?_ofMap (map : GoMap Json) (key : String) :
    (Json.ofMap map).field? key = map.get? key := by
  change (GoMap.ofMembers map.entries).get? key = _
  rw [GoMap.ofMembers_entries]

theorem readNumbers_get? (hread : readNumbers text = some memory)
    (name : String) :
    memory.get? name = (text.get? name).map Json.floats := by
  rw [readNumbers] at hread
  split at hread
  · cases hread
    exact GoMap.get?_mapValues _ _ _
  · cases hread

/-- What a program keeps of what it has read is written as it is carried. -/
theorem carriedUnder_written (hread : readNumbers text = some memory)
    (hkept : ∀ name value, kept name → memory.get? name = some value →
      map.get? name = some value) :
    CarriedUnder text kept (Json.ofMap map).written := by
  intro name x literal htext hname
  have hmemory : memory.get? name = some (.num (Binary64.round x) literal) := by
    rw [readNumbers_get? hread, htext]
    rfl
  refine ⟨Json.integerLiteral (Binary64.round x), ?_⟩
  rw [Json.written_ofMap, Json.field?_ofMap, GoMap.get?_mapValues,
    hkept name _ hname hmemory]
  rfl

/-- A second program that reads what the first has written holds the same
numbers. -/
theorem CarriedUnder.again (hcarried : CarriedUnder text kept (Json.ofMap map))
    (hread : readNumbers map = some memory) :
    CarriedUnder text kept (Json.ofMap memory).written := by
  intro name x literal htext hname
  obtain ⟨literal', hfield⟩ := hcarried name x literal htext hname
  rw [Json.field?_ofMap] at hfield
  have hwritten : CarriedUnder map kept (Json.ofMap memory).written :=
    carriedUnder_written hread fun _ _ _ hget => hget
  rw [← Binary64.carried_carried]
  exact hwritten name _ literal' hfield hname

end Written

section Payloads

def PropertyReportedPayload.read (text : Json) :
    Option PropertyReportedPayload := do
  let payload ← decode text
  let properties ← readNumbers? payload.properties
  let raw ← readNumbers? payload.raw
  some { payload with properties := properties, raw := raw }

def EventReportedPayload.read (text : Json) : Option EventReportedPayload := do
  let payload ← decode text
  let params ← readNumbers? payload.params
  let raw ← readNumbers? payload.raw
  some { payload with params := params, raw := raw }

def ServiceCallAcknowledgedPayload.read (text : Json) :
    Option ServiceCallAcknowledgedPayload := do
  let payload ← decode text
  let output ← readNumbers? payload.output
  let raw ← readNumbers? payload.raw
  some { payload with output := output, raw := raw }

def PropertySetRequestedPayload.read (text : Json) :
    Option PropertySetRequestedPayload := do
  let payload ← decode text
  let properties ← readNumbers? payload.properties
  some { payload with properties := properties }

def ServiceCallRequestedPayload.read (text : Json) :
    Option ServiceCallRequestedPayload := do
  let payload ← decode text
  let input ← readNumbers? payload.input
  some { payload with input := input }

end Payloads

end LinkFlow
