/-
When a payload the two services write fits its schema, field by field.
-/
import LinkFlow.EventEnvelope

namespace LinkFlow

open JsonSchema

variable {formats : FormatChecker}

/-- The rules for the six fields every payload begins with. -/
structure DeviceFields.Fit (fields : DeviceFields) : Prop where
  tenantID : 1 ≤ fields.tenantID.length ∧ fields.tenantID.length ≤ 64
  productID : 1 ≤ fields.productID.length ∧ fields.productID.length ≤ 64
  deviceID : 1 ≤ fields.deviceID.length ∧ fields.deviceID.length ≤ 64
  tenantSlug : 1 ≤ fields.tenantSlug.length ∧ fields.tenantSlug.length ≤ 128 ∧
    Schemas.kebabPattern.matches fields.tenantSlug = true
  productKey : 1 ≤ fields.productKey.length ∧ fields.productKey.length ≤ 128 ∧
    Schemas.kebabPattern.matches fields.productKey = true
  deviceSlug : 1 ≤ fields.deviceSlug.length ∧ fields.deviceSlug.length ≤ 128

/-- The members of the six fields and their rules, in any larger payload. -/
theorem DeviceFields.members_accepted_iff {fields : DeviceFields}
    {required : List String} {properties : List (String × Member)} :
    (∀ member ∈ fields.members,
      ObjectSchema.acceptsMember formats
        ⟨required, Schemas.deviceMembers ++ properties⟩ member.1 member.2 =
          true) ↔ fields.Fit := by
  simp only [DeviceFields.members, ObjectSchema.acceptsMember,
    Schemas.deviceMembers, List.cons_append, List.nil_append,
    List.forall_mem_cons, List.lookup_cons]
  simp only [beq_self_eq_true, String.reduceBEq, text_accepts_iff,
    slug_accepts_iff]
  constructor
  · rintro ⟨htenantID, hproductID, hdeviceID, hslug, hkey, hdevice, -⟩
    exact ⟨htenantID, hproductID, hdeviceID, hslug, hkey, hdevice⟩
  · intro hfit
    exact ⟨hfit.tenantID, hfit.productID, hfit.deviceID, hfit.tenantSlug,
      hfit.productKey, hfit.deviceSlug, by simp⟩

/-- The members after the six fields are looked up behind them. -/
theorem acceptsMember_deviceMembers {required : List String}
    {properties : List (String × Member)} {name : String} {value : Json}
    (hname : name ∉ Schemas.deviceRequired) :
    ObjectSchema.acceptsMember formats
        ⟨required, Schemas.deviceMembers ++ properties⟩ name value =
      ObjectSchema.acceptsMember formats ⟨required, properties⟩ name value := by
  have hnone : Schemas.deviceMembers.lookup name = none := by
    rw [List.lookup_eq_none_iff]
    intro member hmember
    simp only [ne_eq, bne_iff_ne]
    rintro rfl
    exact hname (List.mem_map_of_mem hmember)
  simp [ObjectSchema.acceptsMember, List.lookup_append, hnone]

/-- A payload made of the six fields and others around them is checked field by
field. -/
theorem accepts_deviceMembers {required : List String}
    {properties : List (String × Member)} {fields : DeviceFields}
    {before after : List (String × Json)}
    (hbefore : (before.map Prod.fst).Nodup)
    (hafter : (after.map Prod.fst).Nodup)
    (hdisjoint : ∀ name ∈ before.map Prod.fst, name ∉ after.map Prod.fst)
    (hnames : ∀ name ∈ (before ++ after).map Prod.fst,
      name ∉ Schemas.deviceRequired) :
    ObjectSchema.accepts formats
        ⟨Schemas.deviceRequired ++ required,
          Schemas.deviceMembers ++ properties⟩
        (.obj (before ++ fields.members ++ after)) = true ↔
      fields.Fit ∧
        (∀ name ∈ required, name ∈ Schemas.deviceRequired ∨
          name ∈ (before ++ after).map Prod.fst) ∧
        ∀ member ∈ before ++ after,
          ObjectSchema.acceptsMember formats ⟨required, properties⟩ member.1
            member.2 = true := by
  have hfields : fields.members.map Prod.fst = Schemas.deviceRequired := rfl
  have hnodup : ((before ++ fields.members ++ after).map Prod.fst).Nodup := by
    simp only [List.map_append, hfields, List.nodup_append] at hnames ⊢
    refine ⟨⟨hbefore, by decide, ?_⟩, hafter, ?_⟩
    · rintro name hname _ hother rfl
      exact hnames name (List.mem_append_left _ hname) hother
    · rintro name hname _ hother rfl
      rcases List.mem_append.mp hname with hbefore' | hfields'
      · exact hdisjoint name hbefore' hother
      · exact hnames name (List.mem_append_right _ hother) hfields'
  have hpresent : ∀ name,
      (List.lookup name (before ++ fields.members ++ after)).isSome = true ↔
        name ∈ Schemas.deviceRequired ∨
          name ∈ (before ++ after).map Prod.fst := by
    intro name
    rw [Option.isSome_iff_ne_none, ne_eq, List.lookup_eq_none_iff, ← hfields]
    simp only [List.mem_append, List.map_append, bne_iff_ne, ne_eq,
      List.mem_map]
    push Not
    constructor
    · rintro ⟨member, (hmember | hmember) | hmember, rfl⟩
      · exact Or.inr (Or.inl ⟨member, hmember, rfl⟩)
      · exact Or.inl ⟨member, hmember, rfl⟩
      · exact Or.inr (Or.inr ⟨member, hmember, rfl⟩)
    · rintro (⟨member, hmember, rfl⟩ | ⟨member, hmember, rfl⟩ |
        ⟨member, hmember, rfl⟩)
      · exact ⟨member, Or.inl (Or.inr hmember), rfl⟩
      · exact ⟨member, Or.inl (Or.inl hmember), rfl⟩
      · exact ⟨member, Or.inr hmember, rfl⟩
  have hbehind : ∀ member ∈ before ++ after,
      ObjectSchema.acceptsMember formats
          ⟨Schemas.deviceRequired ++ required,
            Schemas.deviceMembers ++ properties⟩ member.1 member.2 =
        ObjectSchema.acceptsMember formats ⟨required, properties⟩ member.1
          member.2 := fun member hmember =>
    acceptsMember_deviceMembers (hnames _ (List.mem_map_of_mem hmember))
  rw [ObjectSchema.accepts_obj hnodup]
  simp only [hpresent, List.forall_mem_append,
    DeviceFields.members_accepted_iff]
  simp only [List.forall_mem_append] at hbehind
  constructor
  · rintro ⟨⟨-, hrequired⟩, ⟨hbeforeOk, hfit⟩, hafterOk⟩
    exact ⟨hfit, hrequired,
      fun member hmember => hbehind.1 member hmember ▸ hbeforeOk member hmember,
      fun member hmember => hbehind.2 member hmember ▸ hafterOk member hmember⟩
  · rintro ⟨hfit, hrequired, hbeforeOk, hafterOk⟩
    exact ⟨⟨fun name hname => Or.inl hname, hrequired⟩,
      ⟨fun member hmember =>
        (hbehind.1 member hmember).trans (hbeforeOk member hmember), hfit⟩,
      fun member hmember =>
        (hbehind.2 member hmember).trans (hafterOk member hmember)⟩

section Values

/-- The values a downlink or a numeric report can carry. -/
def Json.IsScalar : Json → Prop
  | .bool _ | .num _ _ | .str _ => True
  | _ => False

/-- A name of the schemas, and a text of at most 1024 characters. -/
def FitsGrammar (name : String) (value : Json) : Prop :=
  Schemas.namePattern.matches name = true ∧
    ∀ text, value = .str text → text.length ≤ 1024

theorem scalars_acceptsEntry_iff {minProperties : Nat} {name : String}
    {value : Json} (hscalar : value.IsScalar) :
    ValueMap.acceptsEntry formats
        ⟨minProperties, Schemas.namePattern, Schemas.scalars⟩ name value =
        true ↔ FitsGrammar name value := by
  cases value <;>
    simp_all [Json.IsScalar, FitsGrammar, ValueMap.acceptsEntry,
      Schemas.scalars, Atom.accepts, StringRule.accepts, Format.accepts,
      List.countP_cons]

theorem params_acceptsEntry_iff {minProperties : Nat} {name : String}
    {value : Json} (hscalar : value.IsScalar) :
    ValueMap.acceptsEntry formats
        ⟨minProperties, Schemas.namePattern,
          Schemas.scalars ++ [.object, .array]⟩ name value = true ↔
      FitsGrammar name value := by
  cases value <;>
    simp_all [Json.IsScalar, FitsGrammar, ValueMap.acceptsEntry,
      Schemas.scalars, Atom.accepts, StringRule.accepts, Format.accepts,
      List.countP_cons]

/-- A map of scalars fits `propertyMap` entry by entry. -/
theorem propertyMap_accepts_iff {minProperties : Nat} {map : GoMap Json}
    (hscalar : ∀ name value, map.get? name = some value → value.IsScalar) :
    (Schemas.propertyMap minProperties).accepts formats (.ofMap map) = true ↔
      minProperties ≤ map.entries.length ∧
        ∀ name value, map.get? name = some value → FitsGrammar name value := by
  refine ValueMap.accepts_entries.trans (and_congr_right fun _ => ?_)
  exact forall_congr' fun name => forall_congr' fun value =>
    forall_congr' fun hget => scalars_acceptsEntry_iff (hscalar name value hget)

theorem paramMap_accepts_iff {minProperties : Nat} {map : GoMap Json}
    (hscalar : ∀ name value, map.get? name = some value → value.IsScalar) :
    (Schemas.paramMap minProperties).accepts formats (.ofMap map) = true ↔
      minProperties ≤ map.entries.length ∧
        ∀ name value, map.get? name = some value → FitsGrammar name value := by
  refine ValueMap.accepts_entries.trans (and_congr_right fun _ => ?_)
  exact forall_congr' fun name => forall_congr' fun value =>
    forall_congr' fun hget => params_acceptsEntry_iff (hscalar name value hget)

end Values

section Payloads

theorem PropertySetRequestedPayload.accepts_iff
    {payload : PropertySetRequestedPayload} :
    Schemas.propertySetRequested.accepts formats payload.json = true ↔
      payload.toDeviceFields.Fit ∧ formats.uuid payload.commandID = true ∧
        Schemas.protocol.accepts formats (.str payload.protocol) = true ∧
        (1 ≤ payload.topic.length ∧ payload.topic.length ≤ 512) ∧
        (Schemas.propertyMap 1).accepts formats (.ofMap? payload.properties) =
          true ∧
        1 ≤ payload.requestedBy.length ∧ payload.requestedBy.length ≤ 64 := by
  refine (@accepts_deviceMembers formats _ _ payload.toDeviceFields
    [("command_id", .str payload.commandID)] _ ?_ ?_ ?_ ?_).trans ?_
  · simp
  · simp
  · simp
  · simp [Schemas.deviceRequired, Schemas.deviceMembers]
  · simp [ObjectSchema.acceptsMember, List.lookup_cons, uuid_accepts_iff,
      text_accepts_iff]

theorem ServiceCallRequestedPayload.accepts_iff
    {payload : ServiceCallRequestedPayload} :
    Schemas.serviceCallRequested.accepts formats payload.json = true ↔
      payload.toDeviceFields.Fit ∧ formats.uuid payload.commandID = true ∧
        Schemas.protocol.accepts formats (.str payload.protocol) = true ∧
        (1 ≤ payload.topic.length ∧ payload.topic.length ≤ 512) ∧
        Schemas.name.accepts formats (.str payload.serviceName) = true ∧
        (Schemas.paramMap 0).accepts formats (.ofMap? payload.input) = true ∧
        1 ≤ payload.requestedBy.length ∧ payload.requestedBy.length ≤ 64 := by
  refine (@accepts_deviceMembers formats _ _ payload.toDeviceFields
    [("command_id", .str payload.commandID)] _ ?_ ?_ ?_ ?_).trans ?_
  · simp
  · simp
  · simp
  · simp [Schemas.deviceRequired, Schemas.deviceMembers]
  · simp [ObjectSchema.acceptsMember, List.lookup_cons, uuid_accepts_iff,
      text_accepts_iff]

theorem ConnectionChangedPayload.accepts_iff
    {payload : ConnectionChangedPayload} :
    Schemas.connectionChanged.accepts formats payload.json = true ↔
      payload.toDeviceFields.Fit ∧ payload.status ∈ ["online", "offline"] ∧
        payload.reason.length ≤ 128 := by
  rw [ConnectionChangedPayload.json]
  rw [List.append_assoc]
  refine (@accepts_deviceMembers formats _ _ payload.toDeviceFields [] _
    ?_ ?_ ?_ ?_).trans ?_
  · simp
  · by_cases hreason : payload.reason = "" <;> simp [omitEmpty, hreason]
  · simp
  · by_cases hreason : payload.reason = "" <;>
      simp [omitEmpty, hreason, Schemas.deviceRequired, Schemas.deviceMembers]
  · by_cases hreason : payload.reason = "" <;>
      simp [omitEmpty, hreason, ObjectSchema.acceptsMember, List.lookup_cons,
        text_accepts_iff, string_accepts_iff, StringRule.accepts,
        Format.accepts]

theorem PropertyChangedPayload.accepts_iff {payload : PropertyChangedPayload} :
    Schemas.propertyChanged.accepts formats payload.json = true ↔
      payload.toDeviceFields.Fit ∧
        (Schemas.propertyMap 1).accepts formats (.ofMap payload.properties) =
          true := by
  refine (@accepts_deviceMembers formats _ _ payload.toDeviceFields [] _
    ?_ ?_ ?_ ?_).trans ?_
  · simp
  · simp
  · simp
  · simp [Schemas.deviceRequired, Schemas.deviceMembers]
  · simp [ObjectSchema.acceptsMember, List.lookup_cons]

theorem EventReceivedPayload.accepts_iff {payload : EventReceivedPayload} :
    Schemas.eventReceived.accepts formats payload.json = true ↔
      payload.toDeviceFields.Fit ∧
        Schemas.name.accepts formats (.str payload.eventName) = true ∧
        (Schemas.paramMap 1).accepts formats (.ofMap payload.params) =
          true := by
  refine (@accepts_deviceMembers formats _ _ payload.toDeviceFields [] _
    ?_ ?_ ?_ ?_).trans ?_
  · simp
  · simp
  · simp
  · simp [Schemas.deviceRequired, Schemas.deviceMembers]
  · simp [ObjectSchema.acceptsMember, List.lookup_cons]

end Payloads

end LinkFlow
