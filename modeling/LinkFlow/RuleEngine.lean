/-
The six rules of the broker's rule engine, which turn connections and published
messages into the events the processor reads, and what such an event says of the
device it comes from.
-/
import LinkFlow.BrokerAccess
import LinkFlow.EventEnvelope

namespace LinkFlow

namespace Broker

open DeviceService TopicPath

section Rules

/-- What the rules leave to the engine: a time as `format_date` writes it, and
an undefined column as JSON, as a key, and compared with `!= ''`. -/
structure Engine where
  formatDate : Int → String
  undefined : Json
  undefinedKey : String
  undefinedDiffers : Bool

/-- A published message.  The payload is the JSON value of its bytes, if they
are one. -/
structure Message where
  topic : String
  payload : Option Json
  client : ClientInfo

/-- `uuid_v4()` and `now_timestamp('millisecond')` in one run of a rule. -/
structure Stamp where
  id : Uuid
  now : Int
deriving Repr, DecidableEq

/-- `nth(3, tokens(topic, '/'))` and the two after it. -/
structure TopicSlugs where
  tenantSlug : Option String
  productKey : Option String
  deviceSlug : Option String

def topicSlugs (topic : String) : TopicSlugs where
  tenantSlug := nth 3 (tokens topic '/')
  productKey := nth 4 (tokens topic '/')
  deviceSlug := nth 5 (tokens topic '/')

def clientSlugs (client : ClientInfo) : TopicSlugs where
  tenantSlug := client.attr "tenant_slug"
  productKey := client.attr "product_key"
  deviceSlug := client.attr "device_slug"

/-- `payload.name` -/
def field (decoded : Json) (name : String) : Option Json :=
  decoded.object?.bind (·.get? name)

variable (engine : Engine)

def Engine.column (value : Option Json) : Json := value.getD engine.undefined

def Engine.text (value : Option String) : Json := engine.column (value.map .str)

/-- The members of `payload` that every rule selects, behind its own. -/
def Engine.payloadMembers (client : ClientInfo) (slugs : TopicSlugs)
    (own : List (String × Json)) : List (String × Json) :=
  own ++
    [("tenant_id", engine.text (client.attr "tenant_id")),
      ("product_id", engine.text (client.attr "product_id")),
      ("device_id", engine.text (client.attr "device_id")),
      ("tenant_slug", engine.text slugs.tenantSlug),
      ("product_key", engine.text slugs.productKey),
      ("device_slug", engine.text slugs.deviceSlug),
      ("protocol", .str "mqtt")]

/-- The columns every rule selects.  The action `device_events` writes them to
Kafka under the key `${.tenant_id}`. -/
def Engine.select (eventType : EventType) (stamp : Stamp) (client : ClientInfo)
    (slugs : TopicSlugs) (causation own : List (String × Json)) :
    KafkaRecord where
  topic := "lf.v1.device.events"
  key := (client.attr "tenant_id").getD engine.undefinedKey
  value := .obj
    ([("event_id", .str (Uuid.text stamp.id)),
        ("event_type", .str eventType.text), ("event_version", .num 1 true),
        ("occurred_at", .str (engine.formatDate stamp.now)),
        ("producer", .str "emqx-rule-engine")] ++ causation ++
      [("tenant_id", engine.text (client.attr "tenant_id")),
        ("payload", .obj (engine.payloadMembers client slugs own))])
  headers := []

/-- `SELECT … FROM filter` over a message with a JSON payload. -/
def Engine.messageRule (filter : String) (eventType : EventType)
    (causation own : Json → List (String × Json)) (message : Message)
    (stamp : Stamp) : Option KafkaRecord :=
  if matchesTopic filter message.topic then
    message.payload.map fun decoded =>
      engine.select eventType stamp message.client (topicSlugs message.topic)
        (causation decoded) (own decoded)
  else none

/-- `lf-device-property-reported` -/
def Engine.propertyReported : Message → Stamp → Option KafkaRecord :=
  engine.messageRule "lf/v1/+/+/+/property/up/post" .propertyReported
    (fun _ => []) fun decoded => [("properties", decoded)]

/-- `lf-device-event-reported` -/
def Engine.eventReported : Message → Stamp → Option KafkaRecord :=
  engine.messageRule "lf/v1/+/+/+/event/up/post" .eventReported (fun _ => [])
    fun decoded =>
      [("raw", decoded),
        ("event_name", engine.column (field decoded "event_name")),
        ("params", engine.column (field decoded "params"))]

/-- `lf-device-property-set-ack` -/
def Engine.propertySetAcknowledged : Message → Stamp → Option KafkaRecord :=
  engine.messageRule "lf/v1/+/+/+/property/up/set_reply"
    .propertySetAcknowledged (fun decoded =>
      [("causation_id", engine.column (field decoded "command_id"))])
    fun decoded =>
      [("raw", decoded),
        ("command_id", engine.column (field decoded "command_id")),
        ("success", engine.column (field decoded "success")),
        ("code", engine.column (field decoded "code")),
        ("message", engine.column (field decoded "message")),
        ("properties", engine.column (field decoded "properties"))]

/-- `lf-device-service-call-ack`; its WHERE fails on a level that is missing. -/
def Engine.serviceCallAcknowledged (message : Message) (stamp : Stamp) :
    Option KafkaRecord :=
  match nth 8 (tokens message.topic '/') with
  | none => none
  | some reply =>
      if matchesReply reply then
        engine.messageRule "lf/v1/+/+/+/service/up/+" .serviceCallAcknowledged
          (fun decoded =>
            [("causation_id", engine.column (field decoded "command_id"))])
          (fun decoded =>
            [("raw", decoded),
              ("command_id", engine.column (field decoded "command_id")),
              ("service_name", .str (String.ofList (removeReply reply.toList))),
              ("success", engine.column (field decoded "success")),
              ("code", engine.column (field decoded "code")),
              ("message", engine.column (field decoded "message")),
              ("output", engine.column (field decoded "output"))])
          message stamp
      else none

/-- The rules about messages, in the order their scripts are loaded. -/
def Engine.messageRules : List (Message → Stamp → Option KafkaRecord) :=
  [engine.eventReported, engine.propertyReported,
    engine.propertySetAcknowledged, engine.serviceCallAcknowledged]

/-- Every rule runs on a message by itself, with its own stamp. -/
def Engine.onMessage (message : Message) (stamp : Nat → Stamp) :
    List KafkaRecord :=
  engine.messageRules.zipIdx.filterMap fun rule =>
    rule.1 message (stamp rule.2)

/-- `client_attrs.name != ''` -/
def Engine.differsFromEmpty (client : ClientInfo) (name : String) : Bool :=
  match client.attr name with
  | none => engine.undefinedDiffers
  | some value => value ≠ ""

/-- The two rules about connections; `own` is the keepalive or the reason. -/
def Engine.connectionRule (eventType : EventType) (own : List (String × Json))
    (client : ClientInfo) (stamp : Stamp) : Option KafkaRecord :=
  if engine.differsFromEmpty client "tenant_id" &&
      engine.differsFromEmpty client "device_id" then
    some (engine.select eventType stamp client (clientSlugs client) [] own)
  else none

/-- `lf-device-connected` -/
def Engine.connected (keepalive : Int) : ClientInfo → Stamp →
    Option KafkaRecord :=
  engine.connectionRule .connected [("keepalive", .num keepalive true)]

/-- `lf-device-disconnected` -/
def Engine.disconnected (reason : String) :
    ClientInfo → Stamp → Option KafkaRecord :=
  engine.connectionRule .disconnected [("reason", .str reason)]

end Rules

section Fields

/-- The six attributes of a client. -/
structure ClientInfo.Has (client : ClientInfo) (fields : DeviceFields) :
    Prop where
  tenantID : client.attr "tenant_id" = some fields.tenantID
  productID : client.attr "product_id" = some fields.productID
  deviceID : client.attr "device_id" = some fields.deviceID
  tenantSlug : client.attr "tenant_slug" = some fields.tenantSlug
  productKey : client.attr "product_key" = some fields.productKey
  deviceSlug : client.attr "device_slug" = some fields.deviceSlug

/-- The texts of a topic are those of the device. -/
def TopicSlugs.Are (slugs : TopicSlugs) (fields : DeviceFields) : Prop :=
  slugs = ⟨some fields.tenantSlug, some fields.productKey,
    some fields.deviceSlug⟩

/-- What a device can be the cause of: reports, acknowledgements and
connections, never a command. -/
def uplinkTypes : List EventType :=
  [.connected, .disconnected, .eventReported, .propertyReported,
    .propertySetAcknowledged, .serviceCallAcknowledged]

/-- A reader of the record finds this device in it: under its key, in the
envelope and in the payload. -/
structure Names (fields : DeviceFields) (record : KafkaRecord) : Prop where
  key : record.key = fields.tenantID
  value : ∃ members payload, record.value = .obj members ∧
    (∃ eventType ∈ uplinkTypes,
      decodeString members "event_type" = some eventType.text) ∧
    decodeString members "tenant_id" = some fields.tenantID ∧
    decodeRaw members "payload" = .obj payload ∧
    DeviceFields.decode payload = some fields

/-- The record is of a type that a device can cause. -/
def Uplink (record : KafkaRecord) : Prop :=
  ∃ members, record.value = .obj members ∧
    ∃ eventType ∈ uplinkTypes,
      decodeString members "event_type" = some eventType.text

/-- Members of other names do not count. -/
theorem foldl_skip {name : String} {held : Option String}
    {members : List (String × Json)} (hskip : name ∉ members.map Prod.fst) :
    members.foldl
      (fun held member =>
        if member.1 = name then held.bind (readString · member.2) else held)
      held = held := by
  induction members with
  | nil => rfl
  | cons member rest ih =>
      rw [List.map_cons, List.mem_cons, not_or] at hskip
      rw [List.foldl_cons, if_neg (Ne.symm hskip.1)]
      exact ih hskip.2

theorem decodeString_append {name : String}
    {before after : List (String × Json)}
    (hbefore : name ∉ before.map Prod.fst) :
    decodeString (before ++ after) name = decodeString after name := by
  unfold decodeString decodeField
  rw [List.foldl_append, foldl_skip hbefore]

theorem decodeString_left {name : String} {before after : List (String × Json)}
    (hafter : name ∉ after.map Prod.fst) :
    decodeString (before ++ after) name = decodeString before name := by
  unfold decodeString decodeField
  rw [List.foldl_append, foldl_skip hafter]

variable {engine : Engine} {client : ClientInfo} {fields : DeviceFields}
  {slugs : TopicSlugs} {stamp : Stamp}

theorem payloadMembers_decode (hhas : client.Has fields)
    (hslugs : slugs.Are fields) {own : List (String × Json)}
    (hown : ∀ name ∈ Schemas.deviceRequired, name ∉ own.map Prod.fst) :
    DeviceFields.decode (engine.payloadMembers client slugs own) =
      some fields := by
  cases hslugs
  have hskip : ∀ name ∈ Schemas.deviceRequired, ∀ after,
      decodeString (own ++ after) name = decodeString after name :=
    fun name hname after => decodeString_append (hown name hname)
  simp only [Engine.payloadMembers, DeviceFields.decode, Engine.text,
    Engine.column, hhas.tenantID, hhas.productID, hhas.deviceID,
    Option.map_some, Option.getD_some]
  rw [hskip "tenant_id" (by decide), hskip "product_id" (by decide),
    hskip "device_id" (by decide), hskip "tenant_slug" (by decide),
    hskip "product_key" (by decide), hskip "device_slug" (by decide)]
  rfl

/-- The type comes before what a rule adds. -/
theorem select_uplink {eventType : EventType} (htype : eventType ∈ uplinkTypes)
    {causation own : List (String × Json)}
    (hcausation : "event_type" ∉ causation.map Prod.fst) :
    Uplink (engine.select eventType stamp client slugs causation own) := by
  refine ⟨_, rfl, eventType, htype, ?_⟩
  have hbehind : "event_type" ∉ (causation ++
      [("tenant_id", engine.text (client.attr "tenant_id")),
        ("payload", .obj (engine.payloadMembers client slugs own))]).map
          Prod.fst := by
    rw [List.map_append, List.mem_append, not_or]
    exact ⟨hcausation, by simp⟩
  rw [List.append_assoc, decodeString_left hbehind]
  simp [decodeString, decodeField, readString]

/-- What a rule selects names the client's device, whatever the rule adds. -/
theorem select_names {eventType : EventType} (htype : eventType ∈ uplinkTypes)
    (hhas : client.Has fields) (hslugs : slugs.Are fields)
    {causation own : List (String × Json)}
    (hcausation : ∀ name ∈ ["event_type", "tenant_id"],
      name ∉ causation.map Prod.fst)
    (hown : ∀ name ∈ Schemas.deviceRequired, name ∉ own.map Prod.fst) :
    Names fields (engine.select eventType stamp client slugs
      causation own) where
  key := by simp [Engine.select, hhas.tenantID]
  value := by
    have huplink :
        Uplink (engine.select eventType stamp client slugs causation own) :=
      select_uplink htype (hcausation _ (by simp))
    obtain ⟨members, hvalue, htyped⟩ := huplink
    refine ⟨members, engine.payloadMembers client slugs own, hvalue, htyped,
      ?_, ?_, payloadMembers_decode hhas hslugs hown⟩
    · cases hvalue
      rw [List.append_assoc, decodeString_append (by simp),
        decodeString_append (hcausation _ (by simp))]
      simp only [Engine.text, Engine.column, hhas.tenantID, Option.map_some,
        Option.getD_some]
      rfl
    · cases hvalue
      simp [decodeRaw, GoMap.lastMember]

theorem messageRule_eq_some {filter : String} {eventType : EventType}
    {causation own : Json → List (String × Json)} {message : Message}
    {record : KafkaRecord} :
    engine.messageRule filter eventType causation own message stamp =
        some record ↔
      matchesTopic filter message.topic = true ∧
        ∃ decoded, message.payload = some decoded ∧
          engine.select eventType stamp message.client
            (topicSlugs message.topic) (causation decoded) (own decoded) =
              record := by
  rw [Engine.messageRule]
  by_cases hmatches : matchesTopic filter message.topic = true
  · rw [if_pos hmatches, Option.map_eq_some_iff]
    simp [hmatches]
  · rw [if_neg hmatches]
    simp [hmatches]

theorem serviceCallAcknowledged_eq_some {message : Message}
    {record : KafkaRecord}
    (hsome : engine.serviceCallAcknowledged message stamp = some record) :
    ∃ name, engine.messageRule "lf/v1/+/+/+/service/up/+"
      .serviceCallAcknowledged
      (fun decoded =>
        [("causation_id", engine.column (field decoded "command_id"))])
      (fun decoded =>
        [("raw", decoded),
          ("command_id", engine.column (field decoded "command_id")),
          ("service_name", .str name),
          ("success", engine.column (field decoded "success")),
          ("code", engine.column (field decoded "code")),
          ("message", engine.column (field decoded "message")),
          ("output", engine.column (field decoded "output"))])
      message stamp = some record := by
  rw [Engine.serviceCallAcknowledged] at hsome
  cases hreply : nth 8 (tokens message.topic '/') with
  | none =>
      rw [hreply] at hsome
      cases hsome
  | some reply =>
      rw [hreply] at hsome
      dsimp only at hsome
      by_cases hmatches : matchesReply reply = true
      · rw [if_pos hmatches] at hsome
        exact ⟨_, hsome⟩
      · rw [if_neg hmatches] at hsome
        cases hsome

theorem mem_onMessage {message : Message} {stamp : Nat → Stamp}
    {record : KafkaRecord} (hmem : record ∈ engine.onMessage message stamp) :
    ∃ rule ∈ engine.messageRules, ∃ index,
      rule message (stamp index) = some record := by
  simp only [Engine.onMessage, List.mem_filterMap] at hmem
  obtain ⟨⟨rule, index⟩, hrule, hsome⟩ := hmem
  exact ⟨rule, List.fst_mem_of_mem_zipIdx hrule, index, hsome⟩

/-- A rule writes what it selects, and adds no member of its own that another
reader looks for. -/
inductive Selected (engine : Engine) (client : ClientInfo)
    (slugs : TopicSlugs) :
    KafkaRecord → Prop
  | intro {eventType : EventType} {stamp : Stamp}
      {causation own : List (String × Json)} (htype : eventType ∈ uplinkTypes)
      (hcausation : ∀ name ∈ ["event_type", "tenant_id"],
        name ∉ causation.map Prod.fst)
      (hown : ∀ name ∈ Schemas.deviceRequired, name ∉ own.map Prod.fst) :
      Selected engine client slugs
        (engine.select eventType stamp client slugs causation own)

theorem Selected.uplink {record : KafkaRecord}
    (hselected : Selected engine client slugs record) : Uplink record := by
  cases hselected with
  | intro htype hcausation _ =>
      exact select_uplink htype (hcausation _ (by simp))

theorem Selected.names {record : KafkaRecord}
    (hselected : Selected engine client slugs record)
    (hhas : client.Has fields) (hslugs : slugs.Are fields) :
    Names fields record := by
  cases hselected with
  | intro htype hcausation hown =>
      exact select_names htype hhas hslugs hcausation hown

theorem onMessage_selected {message : Message} {stamp : Nat → Stamp}
    {record : KafkaRecord} (hmem : record ∈ engine.onMessage message stamp) :
    Selected engine message.client (topicSlugs message.topic) record := by
  obtain ⟨rule, hrule, index, hsome⟩ := mem_onMessage hmem
  simp only [Engine.messageRules, List.mem_cons, List.not_mem_nil,
    or_false] at hrule
  rcases hrule with rfl | rfl | rfl | rfl
  · obtain ⟨-, decoded, -, rfl⟩ := messageRule_eq_some.mp hsome
    exact .intro (by decide) (by simp)
      (by simp [Schemas.deviceRequired, Schemas.deviceMembers])
  · obtain ⟨-, decoded, -, rfl⟩ := messageRule_eq_some.mp hsome
    exact .intro (by decide) (by simp)
      (by simp [Schemas.deviceRequired, Schemas.deviceMembers])
  · obtain ⟨-, decoded, -, rfl⟩ := messageRule_eq_some.mp hsome
    exact .intro (by decide) (by simp)
      (by simp [Schemas.deviceRequired, Schemas.deviceMembers])
  · obtain ⟨name, hsome⟩ := serviceCallAcknowledged_eq_some hsome
    obtain ⟨-, decoded, -, rfl⟩ := messageRule_eq_some.mp hsome
    exact .intro (by decide) (by simp)
      (by simp [Schemas.deviceRequired, Schemas.deviceMembers])

theorem connectionRule_selected {eventType : EventType}
    {own : List (String × Json)} {record : KafkaRecord}
    (htype : eventType ∈ uplinkTypes)
    (hown : ∀ name ∈ Schemas.deviceRequired, name ∉ own.map Prod.fst)
    (hsome : engine.connectionRule eventType own client stamp = some record) :
    Selected engine client (clientSlugs client) record := by
  rw [Engine.connectionRule] at hsome
  split at hsome
  · cases hsome
    exact .intro htype (by simp) hown
  · cases hsome

theorem clientSlugs_are (hhas : client.Has fields) :
    (clientSlugs client).Are fields := by
  simp only [clientSlugs, hhas.tenantSlug, hhas.productKey, hhas.deviceSlug]
  rfl

end Fields

section Topics

variable {engine : Engine} {message : Message} {stamp : Nat → Stamp}

/-- The texts in an own topic are those of its device. -/
theorem topicSlugs_of_ownTopic {address : DeviceAddress} {way topic : String}
    (hown : OwnTopic address way topic) :
    topicSlugs topic =
      ⟨some address.tenantSlug, some address.productKey,
        some address.deviceSlug⟩ := by
  obtain ⟨kind, -, name, hlevels⟩ := hown
  have htenant := (isLevel_slug address.tenantSlug_valid).1
  have hproduct := (isLevel_slug address.productKey_valid).1
  have hdevice := (isLevel_deviceSlug address.deviceSlug_valid).1
  rw [topicSlugs]
  rw [tokens_eq, hlevels]
  simp [DeviceAddress.path, List.filter_cons, htenant, hproduct, hdevice, nth]

/-- The levels of a topic that the FROM of a rule matches. -/
theorem levels_of_from {kind last topic : String}
    (hfilter : levels ("lf/v1/+/+/+/" ++ kind ++ "/up/" ++ last) =
      ["lf", "v1", "+", "+", "+", kind, "up", last])
    (hkind : Literal kind) (hlast : last = "+" ∨ Literal last)
    (hmatches : matchesTopic ("lf/v1/+/+/+/" ++ kind ++ "/up/" ++ last) topic =
      true) :
    ∃ tenant product device name,
      levels topic = ["lf", "v1", tenant, product, device, kind, "up", name] ∧
        (last = "+" ∨ name = last) := by
  simp only [matchesTopic, Bool.and_eq_true, matchesFilter, hfilter] at hmatches
  obtain ⟨-, hmatches⟩ := hmatches
  have hlf : ∀ text ∈ ["lf", "v1", "up"], text ≠ "+" ∧ text ≠ "#" := by decide
  obtain ⟨below, htopic, hbelow⟩ :=
    (matchesLevels_literal (hlf "lf" (by decide))).mp hmatches
  obtain ⟨slugs, rfl, hslugs⟩ :=
    (matchesLevels_literal (hlf "v1" (by decide))).mp hbelow
  obtain ⟨tenant, products, rfl, hproducts⟩ := matchesLevels_plus.mp hslugs
  obtain ⟨product, devices, rfl, hdevices⟩ := matchesLevels_plus.mp hproducts
  obtain ⟨device, own, rfl, hown⟩ := matchesLevels_plus.mp hdevices
  obtain ⟨ways, rfl, hways⟩ := (matchesLevels_literal hkind).mp hown
  obtain ⟨names, rfl, hnames⟩ :=
    (matchesLevels_literal (hlf "up" (by decide))).mp hways
  rcases hlast with rfl | hlast
  · obtain ⟨name, rest, rfl, hrest⟩ := matchesLevels_plus.mp hnames
    rw [matchesLevels_nil] at hrest
    subst hrest
    exact ⟨tenant, product, device, name, htopic, Or.inl rfl⟩
  · obtain ⟨rest, rfl, hrest⟩ := (matchesLevels_literal hlast).mp hnames
    rw [matchesLevels_nil] at hrest
    subst hrest
    exact ⟨tenant, product, device, last, htopic, Or.inr rfl⟩

/-- The end of a topic that a rule about messages runs on. -/
theorem messageRule_levels {kind last : String} {eventType : EventType}
    {causation own : Json → List (String × Json)} {stamp : Stamp}
    {record : KafkaRecord}
    (hfilter : levels ("lf/v1/+/+/+/" ++ kind ++ "/up/" ++ last) =
      ["lf", "v1", "+", "+", "+", kind, "up", last])
    (hkind : Literal kind) (hlast : last = "+" ∨ Literal last)
    (hsome : engine.messageRule ("lf/v1/+/+/+/" ++ kind ++ "/up/" ++ last)
      eventType causation own message stamp = some record) :
    ∃ name, (levels message.topic).drop 5 = [kind, "up", name] ∧
      (last = "+" ∨ name = last) := by
  obtain ⟨hmatches, -⟩ := messageRule_eq_some.mp hsome
  obtain ⟨tenant, product, device, name, hlevels, hname⟩ :=
    levels_of_from hfilter hkind hlast hmatches
  exact ⟨name, by rw [hlevels]; rfl, hname⟩

theorem length_filterMap_le_one {α β : Type} {f : α → Option β} {list : List α}
    (hapart : list.Pairwise fun first second =>
      f first = none ∨ f second = none) : (list.filterMap f).length ≤ 1 := by
  induction list with
  | nil => exact Nat.zero_le 1
  | cons first rest ih =>
      rw [List.pairwise_cons] at hapart
      cases hfirst : f first with
      | none =>
          rw [List.filterMap_cons_none hfirst]
          exact ih hapart.2
      | some value =>
          have hrest : rest.filterMap f = [] := by
            rw [List.filterMap_eq_nil_iff]
            intro other hother
            rcases hapart.1 other hother with hnone | hnone
            · rw [hfirst] at hnone
              cases hnone
            · exact hnone
          rw [List.filterMap_cons_some hfirst, hrest]
          exact le_refl 1

theorem literal_last : ∀ text ∈ ["event", "property", "service", "post",
    "set_reply"], text ≠ "+" ∧ text ≠ "#" := by decide

theorem eventReported_levels {stamp : Stamp} {record : KafkaRecord}
    (hsome : engine.eventReported message stamp = some record) :
    (levels message.topic).drop 5 = ["event", "up", "post"] := by
  obtain ⟨name, hdrop, hname⟩ := @messageRule_levels engine message "event"
    "post" _ _ _ _ _ (by decide) (literal_last _ (by decide))
    (Or.inr (literal_last _ (by decide))) hsome
  rcases hname with hplus | rfl
  · exact absurd hplus (by decide)
  · exact hdrop

theorem propertyReported_levels {stamp : Stamp} {record : KafkaRecord}
    (hsome : engine.propertyReported message stamp = some record) :
    (levels message.topic).drop 5 = ["property", "up", "post"] := by
  obtain ⟨name, hdrop, hname⟩ := @messageRule_levels engine message "property"
    "post" _ _ _ _ _ (by decide) (literal_last _ (by decide))
    (Or.inr (literal_last _ (by decide))) hsome
  rcases hname with hplus | rfl
  · exact absurd hplus (by decide)
  · exact hdrop

theorem propertySetAcknowledged_levels {stamp : Stamp} {record : KafkaRecord}
    (hsome : engine.propertySetAcknowledged message stamp = some record) :
    (levels message.topic).drop 5 = ["property", "up", "set_reply"] := by
  obtain ⟨name, hdrop, hname⟩ := @messageRule_levels engine message "property"
    "set_reply" _ _ _ _ _ (by decide) (literal_last _ (by decide))
    (Or.inr (literal_last _ (by decide))) hsome
  rcases hname with hplus | rfl
  · exact absurd hplus (by decide)
  · exact hdrop

theorem serviceCallAcknowledged_levels {stamp : Stamp} {record : KafkaRecord}
    (hsome : engine.serviceCallAcknowledged message stamp = some record) :
    ∃ name, (levels message.topic).drop 5 = ["service", "up", name] := by
  obtain ⟨service, hrule⟩ := serviceCallAcknowledged_eq_some hsome
  obtain ⟨name, hdrop, -⟩ := @messageRule_levels engine message "service" "+"
    _ _ _ _ _ (by decide) (literal_last _ (by decide)) (Or.inl rfl) hrule
  exact ⟨name, hdrop⟩

/-- Of two rules whose topics end differently one does not run. -/
theorem none_or_none {first second : Option KafkaRecord}
    (hboth : ∀ record other, first = some record →
      second = some other → False) :
    first = none ∨ second = none := by
  cases first with
  | none => exact Or.inl rfl
  | some record =>
      cases second with
      | none => exact Or.inr rfl
      | some other => exact (hboth record other rfl rfl).elim

/-- No message is turned into two events. -/
theorem onMessage_length_le_one :
    (engine.onMessage message stamp).length ≤ 1 := by
  apply length_filterMap_le_one
  change List.Pairwise _
    [(engine.eventReported, 0), (engine.propertyReported, 1),
    (engine.propertySetAcknowledged, 2), (engine.serviceCallAcknowledged, 3)]
  simp only [List.pairwise_cons, List.forall_mem_cons]
  refine ⟨⟨none_or_none ?_, none_or_none ?_, none_or_none ?_, by simp⟩,
    ⟨none_or_none ?_, none_or_none ?_, by simp⟩, ⟨none_or_none ?_, by simp⟩,
    by simp⟩
  · intro record other hfirst hsecond
    have hends := (eventReported_levels hfirst).symm.trans
      (propertyReported_levels hsecond)
    exact absurd hends (by decide)
  · intro record other hfirst hsecond
    have hends := (eventReported_levels hfirst).symm.trans
      (propertySetAcknowledged_levels hsecond)
    exact absurd hends (by decide)
  · intro record other hfirst hsecond
    obtain ⟨name, hname⟩ := serviceCallAcknowledged_levels hsecond
    have hends := (eventReported_levels hfirst).symm.trans hname
    simp at hends
  · intro record other hfirst hsecond
    have hends := (propertyReported_levels hfirst).symm.trans
      (propertySetAcknowledged_levels hsecond)
    exact absurd hends (by decide)
  · intro record other hfirst hsecond
    obtain ⟨name, hname⟩ := serviceCallAcknowledged_levels hsecond
    have hends := (propertyReported_levels hfirst).symm.trans hname
    simp at hends
  · intro record other hfirst hsecond
    obtain ⟨name, hname⟩ := serviceCallAcknowledged_levels hsecond
    have hends := (propertySetAcknowledged_levels hfirst).symm.trans hname
    simp at hends

end Topics

end Broker

end LinkFlow
