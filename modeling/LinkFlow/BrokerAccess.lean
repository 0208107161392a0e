/-
The access rules of the MQTT broker: which topics a client may publish on and
subscribe to.  A device gets its own topics and no others.
-/
import LinkFlow.ServiceTopics

namespace LinkFlow

namespace Broker

open DeviceService TopicPath

section Rules

/-- A connected client.  `clientAttrs` is what the webhook answered. -/
structure ClientInfo where
  username : String
  peerHost : String
  isSuperuser : Bool
  clientAttrs : List (String × String)
deriving Repr, DecidableEq

def ClientInfo.attr (client : ClientInfo) (name : String) : Option String :=
  client.clientAttrs.lookup name

inductive Action where
  | publish
  | subscribe
deriving Repr, DecidableEq

/-- A piece of a topic template: a text, or `${client_attrs.name}`. -/
inductive Piece where
  | text (text : String)
  | attr (name : String)
deriving Repr, DecidableEq

/-- The template with the attributes of a client, if it has them all. -/
def render (client : ClientInfo) : List Piece → Option String
  | [] => some ""
  | .text text :: rest => (render client rest).map (text ++ ·)
  | .attr name :: rest =>
      (client.attr name).bind fun value =>
        (render client rest).map (value ++ ·)

inductive TopicPattern where
  | filter (pieces : List Piece)
  | eq (text : String)

def TopicPattern.matches (client : ClientInfo) (topic : String) :
    TopicPattern → Bool
  | .filter pieces => (render client pieces).any (matchesTopic · topic)
  | .eq text => topic = text

inductive Who where
  | all
  | username (pattern : String → Bool)
  | ipaddr (host : String)

def Who.matches (client : ClientInfo) : Who → Bool
  | .all => true
  | .username pattern => pattern client.username
  | .ipaddr host => client.peerHost = host

/-- A rule without an action or without topics is about all of them. -/
structure AccessRule where
  allow : Bool
  who : Who
  action : Option Action := none
  topics : Option (List TopicPattern) := none

def AccessRule.matches (rule : AccessRule) (client : ClientInfo)
    (action : Action) (topic : String) : Bool :=
  rule.who.matches client && rule.action.all (· = action) &&
    rule.topics.all (·.any (·.matches client topic))

/-- A topic without placeholders. -/
def plain (text : String) : TopicPattern := .filter [.text text]

/-- `lf/v1/${client_attrs.tenant_slug}/${client_attrs.product_key}/` and
`${client_attrs.device_slug}`, with the rest of the topic behind it. -/
def ownTopic (below : String) : TopicPattern :=
  .filter [.text "lf/v1/", .attr "tenant_slug", .text "/", .attr "product_key",
    .text "/", .attr "device_slug", .text below]

/-- `"^dashboard$"` -/
def dashboardPattern (username : String) : Bool :=
  username = "dashboard" || username = "dashboard\n"

/-- `acl_rules`, from the first to the last. -/
def aclRules : List AccessRule :=
  [{ allow := true
     who := .username dashboardPattern
     action := some .subscribe
     topics := some [plain "$SYS/#"] },
   { allow := true
     who := .ipaddr "127.0.0.1"
     topics := some [plain "$SYS/#", plain "#"] },
   { allow := false
     who := .all
     action := some .subscribe
     topics := some [plain "$SYS/#", .eq "#", .eq "+/#"] },
   { allow := true
     who := .all
     action := some .publish
     topics := some [ownTopic "/property/up/+"] },
   { allow := true
     who := .all
     action := some .publish
     topics := some [ownTopic "/event/up/+"] },
   { allow := true
     who := .all
     action := some .publish
     topics := some [ownTopic "/service/up/+"] },
   { allow := true
     who := .all
     action := some .subscribe
     topics := some [ownTopic "/property/down/+"] },
   { allow := true
     who := .all
     action := some .subscribe
     topics := some [ownTopic "/event/down/+"] },
   { allow := true
     who := .all
     action := some .subscribe
     topics := some [ownTopic "/service/down/+"] },
   { allow := false, who := .all }]

/-- The first rule that matches decides; `no_match` is deny. -/
def verdict (client : ClientInfo) (action : Action) (topic : String) :
    List AccessRule → Bool
  | [] => false
  | rule :: rest =>
      if rule.matches client action topic then rule.allow
      else verdict client action topic rest

/-- The rules do not apply to a superuser. -/
def authorize (client : ClientInfo) (action : Action) (topic : String) : Bool :=
  client.isSuperuser || verdict client action topic aclRules

end Rules

section Devices

/-- The client has the texts of this device as attributes. -/
structure ClientInfo.Carries (client : ClientInfo) (address : DeviceAddress) :
    Prop where
  tenantSlug : client.attr "tenant_slug" = some address.tenantSlug
  productKey : client.attr "product_key" = some address.productKey
  deviceSlug : client.attr "device_slug" = some address.deviceSlug

theorem literal_of_pattern {pattern : Pattern} {text : String}
    (hplus : pattern.head '+' = false) (hhash : pattern.head '#' = false)
    (hmatches : pattern.matches text = true) : Literal text := by
  constructor
  · rintro rfl
    change (pattern.head '+' && true) = true at hmatches
    rw [hplus] at hmatches
    cases hmatches
  · rintro rfl
    change (pattern.head '#' && true) = true at hmatches
    rw [hhash] at hmatches
    cases hmatches

theorem literal_slug {slug : String} (hslug : validSlug slug = true) :
    Literal slug := by
  simp only [validSlug, Bool.and_eq_true] at hslug
  exact literal_of_pattern rfl rfl hslug.1.2

theorem literal_deviceSlug {slug : String}
    (hslug : validDeviceSlug slug = true) :
    Literal slug := by
  simp only [validDeviceSlug, Bool.and_eq_true] at hslug
  exact literal_of_pattern rfl rfl hslug.1

/-- No level of a device's topics is a wildcard. -/
theorem path_literal (address : DeviceAddress) {below : List String}
    (hbelow : ∀ level ∈ below, Literal level) :
    ∀ level ∈ address.path below, Literal level := by
  simp only [DeviceAddress.path, List.mem_append, List.mem_cons,
    List.not_mem_nil, or_false]
  rintro level ((rfl | rfl | rfl | rfl | rfl) | hlevel)
  · exact ⟨by decide, by decide⟩
  · exact ⟨by decide, by decide⟩
  · exact literal_slug address.tenantSlug_valid
  · exact literal_slug address.productKey_valid
  · exact literal_deviceSlug address.deviceSlug_valid
  · exact hbelow level hlevel

end Devices

section Access

variable {client : ClientInfo} {address : DeviceAddress} {topic : String}

theorem render_own (hcarries : client.Carries address) (below : String) :
    render client [.text "lf/v1/", .attr "tenant_slug", .text "/",
        .attr "product_key", .text "/", .attr "device_slug", .text below] =
      some ("lf/v1/" ++ address.tenantSlug ++ "/" ++
        address.productKey ++ "/" ++ address.deviceSlug ++ below) := by
  simp [render, hcarries.tenantSlug, hcarries.productKey, hcarries.deviceSlug,
    String.append_assoc]

/-- A filter that begins with a letter has no exception for `$`. -/
theorem matchesTopic_lf (rest : String) :
    matchesTopic ("lf/v1/" ++ rest) topic =
      matchesFilter ("lf/v1/" ++ rest) topic := by
  simp [matchesTopic, String.toList_append]

/-- An own topic of a device is one level below a kind and a way. -/
theorem ownTopic_matches_iff (hcarries : client.Carries address)
    {below kind way : String}
    (hbelow : below = "/" ++ kind ++ "/" ++ way ++ "/+")
    (hkind : IsLevel kind ∧ Literal kind) (hway : IsLevel way ∧ Literal way) :
    (ownTopic below).matches client topic = true ↔
      ∃ name, levels topic = address.path [kind, way, name] := by
  have hpath := concat_eq_ofLevels address kind way "+"
  have hlevels : levels (ofLevels (address.path [kind, way, "+"])) =
      address.path [kind, way, "+"] := by
    apply levels_ofLevels (by simp [DeviceAddress.path])
    intro level hlevel
    refine (address.path_isLevel ?_ level hlevel).2
    simp only [List.forall_mem_cons]
    exact ⟨hkind.1, hway.1, ⟨by decide, by decide⟩, by simp⟩
  have hfront : ∀ level ∈ address.path [kind, way], Literal level := by
    apply path_literal
    simp only [List.forall_mem_cons]
    exact ⟨hkind.2, hway.2, by simp⟩
  have hsplit : address.path [kind, way, "+"] =
      address.path [kind, way] ++ ["+"] := rfl
  have htext : "lf/v1/" ++ address.tenantSlug ++ "/" ++ address.productKey ++
      "/" ++ address.deviceSlug ++ below =
        ofLevels (address.path [kind, way, "+"]) := by
    rw [hbelow, ← hpath]
    simp [String.append_assoc]
  have hmatch : (ownTopic below).matches client topic =
      matchesFilter (ofLevels (address.path [kind, way, "+"])) topic := by
    change (render client _).any (matchesTopic · topic) = _
    rw [render_own hcarries, Option.any_some]
    simp only [String.append_assoc] at htext ⊢
    rw [matchesTopic_lf, htext]
  rw [hmatch, matchesFilter, hlevels, hsplit, matchesLevels_append hfront]
  constructor
  · rintro ⟨rest, htopic, hrest⟩
    obtain ⟨name, last, rfl, hlast⟩ := matchesLevels_plus.mp hrest
    rw [matchesLevels_nil] at hlast
    subst hlast
    exact ⟨name, htopic⟩
  · rintro ⟨name, htopic⟩
    exact ⟨[name], htopic, matchesLevels_plus.mpr ⟨name, [], rfl,
      matchesLevels_nil.mpr rfl⟩⟩

/-- The kinds of topics a device has. -/
def kinds : List String := ["property", "event", "service"]

/-- The topic is one of the device's, on its way up or down. -/
def OwnTopic (address : DeviceAddress) (way topic : String) : Prop :=
  ∃ kind ∈ kinds, ∃ name, levels topic = address.path [kind, way, name]

theorem ownTopics_match (hcarries : client.Carries address) {kind way : String}
    (hkind : kind ∈ kinds) (hway : way ∈ ["up", "down"]) :
    (ownTopic ("/" ++ kind ++ "/" ++ way ++ "/+")).matches client topic =
      true ↔ ∃ name, levels topic = address.path [kind, way, name] := by
  have hlevel : ∀ text ∈ kinds ++ ["up", "down"],
      (text ≠ "" ∧ '/' ∉ text.toList) ∧ text ≠ "+" ∧ text ≠ "#" := by decide
  exact ownTopic_matches_iff hcarries rfl
    (hlevel kind (List.mem_append_left _ hkind))
    (hlevel way (List.mem_append_right _ hway))

/-- The patterns of the rules on the way up. -/
theorem upTopic_iff (hcarries : client.Carries address) :
    OwnTopic address "up" topic ↔
      (ownTopic "/property/up/+").matches client topic = true ∨
      (ownTopic "/event/up/+").matches client topic = true ∨
      (ownTopic "/service/up/+").matches client topic = true := by
  have hmatch := @ownTopics_match client address topic hcarries
  have hproperty := @hmatch "property" "up" (by decide) (by decide)
  have hevent := @hmatch "event" "up" (by decide) (by decide)
  have hservice := @hmatch "service" "up" (by decide) (by decide)
  have htexts : "/" ++ "property" ++ "/" ++ "up" ++ "/+" = "/property/up/+" ∧
      "/" ++ "event" ++ "/" ++ "up" ++ "/+" = "/event/up/+" ∧
      "/" ++ "service" ++ "/" ++ "up" ++ "/+" = "/service/up/+" := by decide
  rw [htexts.1] at hproperty
  rw [htexts.2.1] at hevent
  rw [htexts.2.2] at hservice
  rw [hproperty, hevent, hservice]
  simp [OwnTopic, kinds]

/-- The patterns of the rules on the way down. -/
theorem downTopic_iff (hcarries : client.Carries address) :
    OwnTopic address "down" topic ↔
      (ownTopic "/property/down/+").matches client topic = true ∨
      (ownTopic "/event/down/+").matches client topic = true ∨
      (ownTopic "/service/down/+").matches client topic = true := by
  have hmatch := @ownTopics_match client address topic hcarries
  have hproperty := @hmatch "property" "down" (by decide) (by decide)
  have hevent := @hmatch "event" "down" (by decide) (by decide)
  have hservice := @hmatch "service" "down" (by decide) (by decide)
  have htexts : "/" ++ "property" ++ "/" ++ "down" ++ "/+" =
        "/property/down/+" ∧
      "/" ++ "event" ++ "/" ++ "down" ++ "/+" = "/event/down/+" ∧
      "/" ++ "service" ++ "/" ++ "down" ++ "/+" = "/service/down/+" := by decide
  rw [htexts.1] at hproperty
  rw [htexts.2.1] at hevent
  rw [htexts.2.2] at hservice
  rw [hproperty, hevent, hservice]
  simp [OwnTopic, kinds]

/-- A device that is not on the broker's own host publishes on its own topics on
the way up, and on no others. -/
theorem publish_authorized_iff (hcarries : client.Carries address)
    (hdevice : client.isSuperuser = false)
    (hremote : client.peerHost ≠ "127.0.0.1") :
    authorize client .publish topic = true ↔ OwnTopic address "up" topic := by
  rw [upTopic_iff hcarries]
  simp [authorize, verdict, aclRules, AccessRule.matches, Who.matches, hdevice,
    hremote]

/-- The dashboard's own topics begin with `$SYS`. -/
def SystemTopic (topic : String) : Prop := ∃ rest, levels topic = "$SYS" :: rest

theorem systemTopic_of_matches
    (hmatches : (plain "$SYS/#").matches client topic = true) :
    SystemTopic topic := by
  have hfilter : levels "$SYS/#" = ["$SYS", "#"] := by decide
  simp only [plain, TopicPattern.matches, render, Option.map_some,
    Option.any_some] at hmatches
  have htext : "$SYS/#" ++ "" = "$SYS/#" := by decide
  rw [htext, matchesTopic, Bool.and_eq_true, matchesFilter, hfilter] at hmatches
  obtain ⟨rest, hrest, -⟩ := (matchesLevels_literal
    (⟨by decide, by decide⟩ : Literal "$SYS")).mp hmatches.2
  exact ⟨rest, hrest⟩

/-- A device subscribes to its own topics on the way down; anything else it may
subscribe to is the broker's. -/
theorem subscribe_authorized (hcarries : client.Carries address)
    (hdevice : client.isSuperuser = false)
    (hremote : client.peerHost ≠ "127.0.0.1")
    (hallowed : authorize client .subscribe topic = true) :
    OwnTopic address "down" topic ∨ SystemTopic topic := by
  by_cases hsystem : (plain "$SYS/#").matches client topic = true
  · exact Or.inr (systemTopic_of_matches hsystem)
  · simp only [Bool.not_eq_true] at hsystem
    rw [downTopic_iff hcarries]
    simp [authorize, verdict, aclRules, AccessRule.matches, Who.matches,
      hdevice, hremote, hsystem] at hallowed
    exact Or.inl hallowed.2

/-- Every device may subscribe to its own topics on the way down. -/
theorem subscribe_own (hcarries : client.Carries address)
    (hown : OwnTopic address "down" topic) :
    authorize client .subscribe topic = true := by
  have hlevels : ∃ rest, levels topic = "lf" :: rest := by
    obtain ⟨kind, -, name, hlevels⟩ := hown
    exact ⟨_, hlevels⟩
  have hsystem : (plain "$SYS/#").matches client topic = false := by
    rw [Bool.eq_false_iff]
    intro hmatches
    obtain ⟨rest, hrest⟩ := systemTopic_of_matches hmatches
    obtain ⟨below, hbelow⟩ := hlevels
    rw [hbelow, List.cons.injEq] at hrest
    exact absurd hrest.1 (by decide)
  have hwild : topic ≠ "#" ∧ topic ≠ "+/#" := by
    obtain ⟨below, hbelow⟩ := hlevels
    constructor
    · rintro rfl
      have hfirst : levels "#" = ["#"] := by decide
      rw [hfirst, List.cons.injEq] at hbelow
      exact absurd hbelow.1 (by decide)
    · rintro rfl
      have hfirst : levels "+/#" = ["+", "#"] := by decide
      rw [hfirst, List.cons.injEq] at hbelow
      exact absurd hbelow.1 (by decide)
  rw [downTopic_iff hcarries] at hown
  simp only [TopicPattern.matches] at hown hsystem
  simp [authorize, verdict, aclRules, AccessRule.matches, Who.matches,
    TopicPattern.matches, hown, hsystem, hwild]

end Access

end Broker

end LinkFlow
