/-
The topics of service calls: where the backend sends one, and what the rule for
acknowledgements reads off the topic a device answers on.
-/
import LinkFlow.DeviceService
import LinkFlow.Lib.TopicPath

namespace LinkFlow

namespace DeviceService

open TopicPath

section Rule

/-- `lf/v1/{tenant}/{product}/{device}/service/up/{name}_reply`, where a device
answers. -/
def deviceServiceReplyTopic
    (tenantSlug productKey deviceSlug serviceName : String) : String :=
  "lf/v1/" ++ tenantSlug ++ "/" ++ productKey ++ "/" ++ deviceSlug ++
    "/service/up/" ++ serviceName ++ "_reply"

/-- `nth` of the rule engine counts from one. -/
def nth (index : Nat) (pieces : List String) : Option String :=
  pieces[index - 1]?

/-- `$` of the rule engine's patterns: the end, or a last line break. -/
def atEnd (rest : List Char) : Bool := rest = [] || rest = ['\n']

/-- `'^[a-z][a-z0-9_]*_reply$'`: the characters are read one by one until the
rest is the suffix. -/
def replyTail : List Char → Bool
  | [] => false
  | char :: rest =>
      ("_reply".toList <+: char :: rest) && atEnd ((char :: rest).drop 6) ||
        Schemas.namePattern.tail char && replyTail rest

def matchesReply (text : String) : Bool :=
  match text.toList with
  | [] => false
  | first :: rest => Schemas.namePattern.head first && replyTail rest

/-- `regex_replace(…, '_reply$', '')` -/
def removeReply : List Char → List Char
  | [] => []
  | char :: rest =>
      if "_reply".toList <+: char :: rest ∧ atEnd ((char :: rest).drop 6) then
        (char :: rest).drop 6
      else char :: removeReply rest

/-- What the rule takes from the topic. -/
structure ReplyTopic where
  tenantSlug : String
  productKey : String
  deviceSlug : String
  serviceName : String
deriving Repr, DecidableEq

/-- `RULE_SQL` of `device.service.call.acknowledged`, as far as it reads the
topic: FROM, WHERE, SELECT. -/
def acknowledgedRule (topic : String) : Option ReplyTopic :=
  let pieces := tokens topic '/'
  if matchesFilter "lf/v1/+/+/+/service/up/+" topic then
    match nth 3 pieces, nth 4 pieces, nth 5 pieces, nth 8 pieces with
    | some tenantSlug, some productKey, some deviceSlug, some reply =>
        if matchesReply reply then
          some
            { tenantSlug := tenantSlug
              productKey := productKey
              deviceSlug := deviceSlug
              serviceName := String.ofList (removeReply reply.toList) }
        else none
    | _, _, _, _ => none
  else none

end Rule

section Reply

/-- Only the last `_reply` of a text is removed. -/
theorem removeReply_append (text : List Char) :
    removeReply (text ++ "_reply".toList) = text := by
  induction text with
  | nil => rfl
  | cons char rest ih =>
      have hlast : (char :: rest ++ "_reply".toList).drop 6 ≠ [] ∧
          ∀ hne, ((char :: rest ++ "_reply".toList).drop 6).getLast hne =
            'y' := by
        refine ⟨by simp, fun hne => ?_⟩
        rw [List.getLast_drop, List.getLast_append_of_ne_nil _ (by decide)]
        rfl
      have hrest : atEnd ((char :: rest ++ "_reply".toList).drop 6) =
          false := by
        obtain ⟨hne, hy⟩ := hlast
        generalize (char :: rest ++ "_reply".toList).drop 6 = left at hne hy
        cases hleft : atEnd left with
        | false => rfl
        | true =>
            simp only [atEnd, Bool.or_eq_true, decide_eq_true_eq] at hleft
            rcases hleft with rfl | rfl
            · exact absurd rfl hne
            · cases hy hne
      rw [List.cons_append] at hrest ⊢
      have hnot : ¬ ("_reply".toList <+: char :: (rest ++ "_reply".toList) ∧
          atEnd ((char :: (rest ++ "_reply".toList)).drop 6) = true) := by
        rw [hrest]
        exact fun hboth => Bool.false_ne_true hboth.2
      rw [removeReply, if_neg hnot, ih]

theorem replyTail_append {text : List Char}
    (hname : text.all Schemas.namePattern.tail = true) :
    replyTail (text ++ "_reply".toList) = true := by
  induction text with
  | nil => rfl
  | cons char rest ih =>
      simp only [List.all_cons, Bool.and_eq_true] at hname
      rw [List.cons_append, replyTail, hname.1, ih hname.2, Bool.true_and,
        Bool.or_true]

/-- A service name with the suffix passes WHERE. -/
theorem matchesReply_append {name : String}
    (hname : Schemas.namePattern.matches name = true) :
    matchesReply (name ++ "_reply") = true := by
  rw [Pattern.matches] at hname
  rw [matchesReply]
  rw [String.toList_append]
  cases hlist : name.toList with
  | nil => simp [hlist] at hname
  | cons first rest =>
      simp only [hlist, Bool.and_eq_true] at hname
      simp only [List.cons_append, hname.1, replyTail_append hname.2,
        Bool.and_self]

end Reply

section Addresses

/-- The texts a device is reached by, with the checks of their columns. -/
@[ext] structure DeviceAddress where
  tenantSlug : String
  productKey : String
  deviceSlug : String
  tenantSlug_valid : validSlug tenantSlug = true
  productKey_valid : validSlug productKey = true
  deviceSlug_valid : validDeviceSlug deviceSlug = true

/-- A service of a device; its name matches `^[a-z][a-z0-9_]*$`. -/
@[ext] structure ServiceAddress extends DeviceAddress where
  serviceName : String
  serviceName_valid : Schemas.namePattern.matches serviceName = true

def DeviceAddress.propertySetTopic (address : DeviceAddress) : String :=
  devicePropertySetDownTopic address.tenantSlug address.productKey
    address.deviceSlug

def ServiceAddress.downTopic (address : ServiceAddress) : String :=
  deviceServiceDownTopic address.tenantSlug address.productKey
    address.deviceSlug address.serviceName

def ServiceAddress.replyTopic (address : ServiceAddress) : String :=
  deviceServiceReplyTopic address.tenantSlug address.productKey
    address.deviceSlug address.serviceName

/-- A level that a topic may be cut at. -/
def IsLevel (text : String) : Prop := text ≠ "" ∧ '/' ∉ text.toList

theorem isLevel_of_pattern {pattern : Pattern} {text : String}
    (hhead : pattern.head '/' = false) (htail : pattern.tail '/' = false)
    (hmatches : pattern.matches text = true) : IsLevel text := by
  have hchars := Pattern.forall_of_matches (P := fun char => char ≠ '/')
    (fun char hchar heq => by simp [heq, hhead] at hchar)
    (fun char hchar heq => by simp [heq, htail] at hchar) hmatches
  exact ⟨hchars.1, fun hmem => hchars.2 '/' hmem rfl⟩

theorem isLevel_slug {slug : String} (hslug : validSlug slug = true) :
    IsLevel slug := by
  simp only [validSlug, Bool.and_eq_true] at hslug
  exact isLevel_of_pattern rfl rfl hslug.1.2

theorem isLevel_deviceSlug {slug : String}
    (hslug : validDeviceSlug slug = true) :
    IsLevel slug := by
  simp only [validDeviceSlug, Bool.and_eq_true] at hslug
  exact isLevel_of_pattern rfl rfl hslug.1

theorem isLevel_serviceName {name : String}
    (hname : Schemas.namePattern.matches name = true) : IsLevel name :=
  isLevel_of_pattern rfl rfl hname

/-- The levels of all topics under a device. -/
def DeviceAddress.path (address : DeviceAddress) (below : List String) :
    List String :=
  ["lf", "v1", address.tenantSlug, address.productKey, address.deviceSlug] ++
    below

theorem DeviceAddress.path_isLevel (address : DeviceAddress)
    {below : List String} (hbelow : ∀ level ∈ below, IsLevel level) :
    ∀ level ∈ address.path below, IsLevel level := by
  simp only [DeviceAddress.path, List.mem_append, List.mem_cons,
    List.not_mem_nil, or_false]
  rintro level ((rfl | rfl | rfl | rfl | rfl) | hlevel)
  · exact ⟨by decide, by decide⟩
  · exact ⟨by decide, by decide⟩
  · exact isLevel_slug address.tenantSlug_valid
  · exact isLevel_slug address.productKey_valid
  · exact isLevel_deviceSlug address.deviceSlug_valid
  · exact hbelow level hlevel

/-- A topic written level by level. -/
theorem concat_eq_ofLevels (address : DeviceAddress) (kind way name : String) :
    "lf/v1/" ++ address.tenantSlug ++ "/" ++ address.productKey ++ "/" ++
        address.deviceSlug ++ ("/" ++ kind ++ "/" ++ way ++ "/" ++ name) =
      ofLevels (address.path [kind, way, name]) := by
  apply String.toList_inj.mp
  simp [ofLevels, DeviceAddress.path, List.intercalate_cons_cons]

theorem ServiceAddress.downTopic_eq (address : ServiceAddress) :
    address.downTopic =
      ofLevels (address.path ["service", "down", address.serviceName]) := by
  rw [← concat_eq_ofLevels]
  apply String.toList_inj.mp
  simp [ServiceAddress.downTopic, deviceServiceDownTopic]

theorem ServiceAddress.replyTopic_eq (address : ServiceAddress) :
    address.replyTopic = ofLevels
      (address.path ["service", "up", address.serviceName ++ "_reply"]) := by
  rw [← concat_eq_ofLevels]
  apply String.toList_inj.mp
  simp [ServiceAddress.replyTopic, deviceServiceReplyTopic]

theorem DeviceAddress.propertySetTopic_eq (address : DeviceAddress) :
    address.propertySetTopic =
      ofLevels (address.path ["property", "down", "set"]) := by
  rw [← concat_eq_ofLevels]
  apply String.toList_inj.mp
  simp [DeviceAddress.propertySetTopic, devicePropertySetDownTopic]

end Addresses

section RoundTrip

variable (address : ServiceAddress)

theorem down_isLevel :
    ∀ level ∈ ["service", "down", address.serviceName], IsLevel level := by
  simp only [List.mem_cons, List.not_mem_nil, or_false]
  rintro level (rfl | rfl | rfl)
  · exact ⟨by decide, by decide⟩
  · exact ⟨by decide, by decide⟩
  · exact isLevel_serviceName address.serviceName_valid

theorem reply_isLevel :
    ∀ level ∈ ["service", "up", address.serviceName ++ "_reply"],
      IsLevel level := by
  have hname := isLevel_serviceName address.serviceName_valid
  simp only [List.mem_cons, List.not_mem_nil, or_false]
  rintro level (rfl | rfl | rfl)
  · exact ⟨by decide, by decide⟩
  · exact ⟨by decide, by decide⟩
  · refine ⟨fun hempty => hname.1 (String.append_eq_empty_iff.mp hempty).1, ?_⟩
    rw [String.toList_append, List.mem_append, not_or]
    exact ⟨hname.2, by decide⟩

/-- Topics of levels tell their levels. -/
theorem path_eq_of_topic_eq {first second : DeviceAddress}
    {below other : List String} (hbelow : ∀ level ∈ below, IsLevel level)
    (hother : ∀ level ∈ other, IsLevel level)
    (heq : ofLevels (first.path below) = ofLevels (second.path other)) :
    first.path below = second.path other :=
  ofLevels_injective (by simp [DeviceAddress.path])
    (by simp [DeviceAddress.path])
    (fun level hlevel => (first.path_isLevel hbelow level hlevel).2)
    (fun level hlevel => (second.path_isLevel hother level hlevel).2) heq

theorem downTopic_injective : Function.Injective ServiceAddress.downTopic := by
  intro first second heq
  rw [ServiceAddress.downTopic_eq, ServiceAddress.downTopic_eq] at heq
  have hpath :=
    path_eq_of_topic_eq (down_isLevel first) (down_isLevel second) heq
  simp only [DeviceAddress.path, List.cons_append, List.nil_append,
    List.cons.injEq, true_and, and_true] at hpath
  exact ServiceAddress.ext hpath.1 hpath.2.1 hpath.2.2.1 hpath.2.2.2

theorem downTopic_ne_propertySetTopic (device : DeviceAddress) :
    address.downTopic ≠ device.propertySetTopic := by
  intro heq
  rw [ServiceAddress.downTopic_eq, DeviceAddress.propertySetTopic_eq] at heq
  have hset : ∀ level ∈ ["property", "down", "set"], IsLevel level := by
    simp only [List.mem_cons, List.not_mem_nil, or_false]
    rintro level (rfl | rfl | rfl) <;> exact ⟨by decide, by decide⟩
  have hpath := path_eq_of_topic_eq (down_isLevel address) hset heq
  simp [DeviceAddress.path] at hpath

theorem replyTopic_matches :
    matchesFilter "lf/v1/+/+/+/service/up/+" address.replyTopic = true := by
  have hlevels : levels address.replyTopic =
      address.path ["service", "up", address.serviceName ++ "_reply"] := by
    rw [ServiceAddress.replyTopic_eq]
    exact levels_ofLevels (by simp [DeviceAddress.path]) fun level hlevel =>
      (address.path_isLevel (reply_isLevel address) level hlevel).2
  have hfilter : levels "lf/v1/+/+/+/service/up/+" =
      ["lf", "v1", "+", "+", "+", "service", "up", "+"] := by decide
  rw [matchesFilter, hlevels, hfilter]
  simp [DeviceAddress.path, matchesLevels]

/-- Commands for different services go to different topics, none of them to a
property set topic, and the rule reads the address off the topic of the
reply. -/
theorem service_topics_round_trip :
    Function.Injective ServiceAddress.downTopic ∧
    (∀ (address : ServiceAddress) (device : DeviceAddress),
      address.downTopic ≠ device.propertySetTopic) ∧
    ∀ address : ServiceAddress,
      acknowledgedRule address.replyTopic =
        some
          { tenantSlug := address.tenantSlug
            productKey := address.productKey
            deviceSlug := address.deviceSlug
            serviceName := address.serviceName } := by
  refine ⟨downTopic_injective, downTopic_ne_propertySetTopic, fun address => ?_⟩
  have htokens : tokens address.replyTopic '/' =
      address.path ["service", "up", address.serviceName ++ "_reply"] := by
    rw [ServiceAddress.replyTopic_eq]
    exact tokens_ofLevels (by simp [DeviceAddress.path])
      (address.path_isLevel (reply_isLevel address))
  have hwhere := matchesReply_append address.serviceName_valid
  have hname : String.ofList
      (removeReply (address.serviceName ++ "_reply").toList) =
        address.serviceName := by
    rw [String.toList_append, removeReply_append, String.ofList_toList]
  rw [acknowledgedRule]
  rw [htokens, if_pos (replyTopic_matches address)]
  simp only [nth, DeviceAddress.path, List.cons_append, List.nil_append,
    Nat.add_one_sub_one, List.getElem?_cons_succ, List.getElem?_cons_zero,
    hwhere, hname]
  rfl

/-- A service whose name ends in the suffix itself. -/
example : acknowledgedRule
    (deviceServiceReplyTopic "default" "esp32" "dev-1" "read_reply") =
      some ⟨"default", "esp32", "dev-1", "read_reply"⟩ := by
  decide +kernel

end RoundTrip

end DeviceService

end LinkFlow
