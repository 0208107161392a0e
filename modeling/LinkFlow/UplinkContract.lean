/-
What a device has to publish for the processor to take it: the rules of the
broker and the contracts of the events meet in one condition on the topic and
the payload.
-/
import LinkFlow.CommandContract
import LinkFlow.DeviceIngress

namespace LinkFlow

namespace Broker

open Registry TopicPath
open DeviceService hiding Surroundings

section Contract

variable (engine : Engine) (formats : FormatChecker) (decoded : Json)

/-- `payload.name` as a rule selects it. -/
def Engine.member (name : String) : Json := engine.column (field decoded name)

/-- A reply to a command, with its result under the name `result`. -/
structure Replies (result : String) (results : JsonSchema.Member) : Prop where
  object : ∃ members, decoded = .obj members
  commandID : ∃ text, engine.member decoded "command_id" = .str text ∧
    formats.uuid text = true
  success : ∃ success, engine.member decoded "success" = .bool success
  code : ∃ text, engine.member decoded "code" = .str text ∧
    1 ≤ text.length ∧ text.length ≤ 64
  message : ∃ text, engine.member decoded "message" = .str text ∧
    text.length ≤ 1024
  result : results.accepts formats (engine.member decoded result) = true

/-- What the contracts ask of a payload, by the event it becomes and the kind
and the name of its topic.  A member that is left out counts as what the engine
writes for it. -/
inductive Meets : EventType → String → String → Prop
  | propertyReported
      (hproperties : (Schemas.propertyMap 1).accepts formats decoded = true) :
      Meets .propertyReported "property" "post"
  | eventReported (hobject : ∃ members, decoded = .obj members)
      (hname : ∃ text, engine.member decoded "event_name" = .str text ∧
        Schemas.name.accepts formats (.str text) = true)
      (hparams : (Schemas.paramMap 0).accepts formats
        (engine.member decoded "params") = true) :
      Meets .eventReported "event" "post"
  | propertySetAcknowledged
      (hreplies : Replies engine formats decoded "properties"
        (Schemas.propertyMap 0)) :
      Meets .propertySetAcknowledged "property" "set_reply"
  | serviceCallAcknowledged {service : String}
      (hservice : Schemas.name.accepts formats (.str service) = true)
      (hreplies : Replies engine formats decoded "output"
        (Schemas.paramMap 0)) :
      Meets .serviceCallAcknowledged "service" (service ++ "_reply")

end Contract

section Records

variable {engine : Engine} {formats : FormatChecker} {client : ClientInfo}
  {fields : DeviceFields} {slugs : TopicSlugs} {stamp : Stamp}

theorem payloadMembers_eq (hhas : client.Has fields) (hslugs : slugs.Are fields)
    (own : List (String × Json)) :
    engine.payloadMembers client slugs own =
      own ++ fields.members ++ [("protocol", .str "mqtt")] := by
  cases hslugs
  simp [Engine.payloadMembers, Engine.text, Engine.column, hhas.tenantID,
    hhas.productID, hhas.deviceID, DeviceFields.members]

/-- What the rules select has an envelope of its own contract, as long as the
causation is a command id. -/
theorem select_envelope_accepts {eventType : EventType}
    {causation : Option Json} {own : List (String × Json)}
    (hhas : client.Has fields) (hfit : fields.Fit)
    (htime : formats.dateTime (engine.formatDate stamp.now) = true) :
    Schemas.envelope.accepts formats (engine.select eventType stamp client slugs
        (causation.toList.map ("causation_id", ·)) own).value = true ↔
      ∀ value ∈ causation, Schemas.uuid.accepts formats value = true := by
  have hversion : JsonSchema.Member.accepts formats (.atom (.integer 1))
      (.num 1 true) = true := integer_accepts_iff.mpr (le_refl 1)
  have htype := @eventType_text_accepts formats eventType
  have hclock : JsonSchema.StringRule.accepts formats { format := .dateTime }
      (engine.formatDate stamp.now) = true := by
    simp [JsonSchema.StringRule.accepts, JsonSchema.Format.accepts, htime]
  have hproducer : JsonSchema.StringRule.accepts formats
      { minLength := 1, maxLength := some 64,
        pattern := Schemas.kebabPattern.matches } "emqx-rule-engine" =
            true := rfl
  have htenant :
      (Schemas.text 1 64).accepts formats (.str fields.tenantID) = true :=
    text_accepts_iff.mpr hfit.tenantID
  rw [Engine.select]
  rw [JsonSchema.ObjectSchema.accepts_obj (by cases causation <;> simp)]
  cases causation <;>
    simp [Schemas.envelope, JsonSchema.ObjectSchema.acceptsMember,
      List.lookup_cons, uuid_accepts_iff, formats.uuid_text, object_accepts_iff,
      string_accepts_iff, Engine.text, Engine.column, hhas.tenantID, hversion,
      htype, hclock, hproducer, htenant]

/-- What the validation reads from such an envelope. -/
theorem select_decode {eventType : EventType} {causation : Option Json}
    {own : List (String × Json)} (hhas : client.Has fields)
    (hcausation : ∀ value ∈ causation,
      Schemas.uuid.accepts formats value = true) :
    ∃ envelope, Envelope.decode (engine.select eventType stamp client slugs
        (causation.toList.map ("causation_id", ·)) own).value = some envelope ∧
      envelope.eventType = eventType.text ∧
      envelope.eventVersion = eventType.version ∧
      envelope.payload = .obj (engine.payloadMembers client slugs own) := by
  have hread : ∀ text, readString "" (.str text) = some text := fun _ => rfl
  have hone : readInt 0 (.num 1 true) = some 1 := rfl
  cases causation with
  | none =>
      simp [Engine.select, Envelope.decode, decodeString, decodeInt,
        decodeField, decodeRaw, hread, hone, Engine.text, Engine.column,
        hhas.tenantID, GoMap.lastMember, EventType.version]
  | some value =>
      obtain ⟨text, rfl⟩ : ∃ text, value = .str text := by
        have haccepts := hcausation value rfl
        cases value with
        | str text => exact ⟨text, rfl⟩
        | _ => cases haccepts
      simp [Engine.select, Envelope.decode, decodeString, decodeInt,
        decodeField, decodeRaw, hread, hone, Engine.text, Engine.column,
        hhas.tenantID, GoMap.lastMember, EventType.version]

/-- The processor takes what a rule selects as an event of its type, if the
causation and the payload are what the contract asks for. -/
theorem select_accepted_iff {eventType accepted : EventType}
    {causation : Option Json} {own : List (String × Json)}
    (hhas : client.Has fields) (hfit : fields.Fit)
    (htime : formats.dateTime (engine.formatDate stamp.now) = true) :
    (∃ envelope,
      validateEvent formats (some (engine.select eventType stamp client
        slugs (causation.toList.map ("causation_id", ·)) own).value) =
          .ok (envelope, accepted)) ↔
      accepted = eventType ∧
      (∀ value ∈ causation, Schemas.uuid.accepts formats value = true) ∧
      eventType.schema.accepts formats
        (.obj (engine.payloadMembers client slugs own)) = true := by
  have henvelope := @select_envelope_accepts engine formats client fields slugs
    stamp eventType causation own hhas hfit htime
  by_cases hcausation :
      ∀ value ∈ causation, Schemas.uuid.accepts formats value = true
  · obtain ⟨envelope, hdecode, htype, hversion, heq⟩ :=
      @select_decode engine formats client fields slugs stamp
        eventType causation own hhas hcausation
    simp only [validateEvent, henvelope.mpr hcausation, Bool.not_true,
      Bool.false_eq_true, if_false, hdecode, htype, hversion,
      EventType.lookup_text, heq]
    by_cases hpayload : eventType.schema.accepts formats
        (.obj (engine.payloadMembers client slugs own)) = true
    · rw [if_pos hpayload]
      constructor
      · rintro ⟨_, hok⟩
        cases hok
        exact ⟨rfl, hcausation, hpayload⟩
      · rintro ⟨rfl, -, -⟩
        exact ⟨envelope, rfl⟩
    · rw [if_neg hpayload]
      constructor
      · rintro ⟨_, hok⟩
        cases hok
      · exact fun hmeets => absurd hmeets.2.2 hpayload
  · have hrefused := mt henvelope.mp hcausation
    simp only [validateEvent, hrefused, Bool.not_false, if_true]
    constructor
    · rintro ⟨_, hok⟩
      cases hok
    · exact fun hmeets => absurd hmeets.2.1 hcausation

end Records

section Payloads

variable {engine : Engine} {formats : FormatChecker} {client : ClientInfo}
  {fields : DeviceFields} {slugs : TopicSlugs} {decoded value : Json}

theorem text_accepted_iff {minLength maxLength : Nat} :
    (Schemas.text minLength maxLength).accepts formats value = true ↔
      ∃ text, value = .str text ∧ minLength ≤ text.length ∧
        text.length ≤ maxLength := by
  cases value with
  | str text => simp [text_accepts_iff]
  | _ => simp [Schemas.text, JsonSchema.Member.accepts, JsonSchema.Atom.accepts]

theorem uuid_accepted_iff :
    Schemas.uuid.accepts formats value = true ↔
      ∃ text, value = .str text ∧ formats.uuid text = true := by
  cases value with
  | str text => simp [uuid_accepts_iff]
  | _ => simp [Schemas.uuid, JsonSchema.Member.accepts, JsonSchema.Atom.accepts]

theorem name_accepted_iff :
    Schemas.name.accepts formats value = true ↔
      ∃ text, value = .str text ∧
        Schemas.name.accepts formats (.str text) = true := by
  cases value with
  | str text => simp
  | _ => simp [Schemas.name, JsonSchema.Member.accepts, JsonSchema.Atom.accepts]

theorem boolean_accepted_iff :
    Schemas.boolean.accepts formats value = true ↔
      ∃ success, value = .bool success := by
  cases value <;>
    simp [Schemas.boolean, JsonSchema.Member.accepts, JsonSchema.Atom.accepts]

/-- A reply by the schemas of its members. -/
theorem replies_iff {result : String} {results : JsonSchema.Member} :
    Replies engine formats decoded result results ↔
      Schemas.object.accepts formats decoded = true ∧
      Schemas.uuid.accepts formats (engine.member decoded "command_id") = true ∧
      Schemas.boolean.accepts formats (engine.member decoded "success") = true ∧
      (Schemas.text 1 64).accepts formats (engine.member decoded "code") =
        true ∧
      (Schemas.text 0 1024).accepts formats (engine.member decoded "message") =
        true ∧
      results.accepts formats (engine.member decoded result) = true := by
  rw [object_accepts_iff, uuid_accepted_iff, boolean_accepted_iff,
    text_accepted_iff, text_accepted_iff]
  constructor
  · rintro ⟨hobject, hcommand, hsuccess, hcode, ⟨text, htext, hlength⟩, hresult⟩
    exact ⟨hobject, hcommand, hsuccess, hcode,
      ⟨text, htext, Nat.zero_le _, hlength⟩, hresult⟩
  · rintro ⟨hobject, hcommand, hsuccess, hcode, ⟨text, htext, -, hlength⟩,
      hresult⟩
    exact ⟨hobject, hcommand, hsuccess, hcode, ⟨text, htext, hlength⟩, hresult⟩

/-- The schema of a reply does not require its result, but what the engine
writes for one that is left out is refused, unless it is an object. -/
theorem Replies.result_sent {result : String} {rule : JsonSchema.ValueMap}
    (hundefined : engine.undefined.object? = none)
    (hreplies : Replies engine formats decoded result (.valueMap rule)) :
    (field decoded result).isSome = true := by
  obtain ⟨map, hobject, -⟩ := JsonSchema.ValueMap.accepts_iff.mp hreplies.result
  cases hfield : field decoded result with
  | some value => rfl
  | none =>
      rw [Engine.member, hfield, Engine.column, Option.getD_none,
        hundefined] at hobject
      cases hobject

/-- The members that a rule adds are checked by themselves: the device's own and
the protocol always fit. -/
theorem selected_accepts_iff {required : List String}
    {properties : List (String × JsonSchema.Member)}
    {own : List (String × Json)} (hhas : client.Has fields)
    (hslugs : slugs.Are fields) (hfit : fields.Fit)
    (hnodup : ("protocol" :: own.map Prod.fst).Nodup)
    (hnames : ∀ name ∈ "protocol" :: own.map Prod.fst,
      name ∉ Schemas.deviceRequired)
    (hrequired : ∀ name ∈ required, name ∈ "protocol" :: own.map Prod.fst)
    (hprotocol : properties.lookup "protocol" = some Schemas.protocol) :
    JsonSchema.ObjectSchema.accepts formats
        ⟨Schemas.deviceRequired ++ required,
          Schemas.deviceMembers ++ properties⟩
        (.obj (engine.payloadMembers client slugs own)) = true ↔
      ∀ member ∈ own, JsonSchema.ObjectSchema.acceptsMember formats
        ⟨required, properties⟩ member.1 member.2 = true := by
  have hmqtt : Schemas.protocol.accepts formats (.str "mqtt") = true := rfl
  have hpermuted : ∀ name, name ∈ (own ++ [("protocol", Json.str "mqtt")]).map
      Prod.fst ↔ name ∈ "protocol" :: own.map Prod.fst := by
    simp [or_comm]
  rw [List.nodup_cons] at hnodup
  rw [payloadMembers_eq hhas hslugs]
  refine (accepts_deviceMembers hnodup.2 (by simp) ?_ ?_).trans ?_
  · simp only [List.map_cons, List.map_nil, List.mem_singleton]
    rintro name hname rfl
    exact hnodup.1 hname
  · exact fun name hname => hnames name ((hpermuted name).mp hname)
  · constructor
    · rintro ⟨-, -, haccepts⟩ member hmember
      exact haccepts member (List.mem_append_left _ hmember)
    · intro haccepts
      refine ⟨hfit, fun name hname =>
        Or.inr ((hpermuted name).mpr (hrequired name hname)), ?_⟩
      intro member hmember
      rw [List.mem_append, List.mem_singleton] at hmember
      rcases hmember with hown | rfl
      · exact haccepts member hown
      · simp only [JsonSchema.ObjectSchema.acceptsMember, hprotocol]
        exact hmqtt

theorem propertyReported_accepts_iff (hhas : client.Has fields)
    (hslugs : slugs.Are fields) (hfit : fields.Fit) :
    Schemas.propertyReported.accepts formats (.obj (engine.payloadMembers client
        slugs [("properties", decoded)])) = true ↔
      (Schemas.propertyMap 1).accepts formats decoded = true := by
  refine (selected_accepts_iff hhas hslugs hfit (by simp) ?_ (by simp)
    rfl).trans ?_
  · simp [Schemas.deviceRequired, Schemas.deviceMembers]
  · simp [JsonSchema.ObjectSchema.acceptsMember, List.lookup_cons]

theorem eventReported_accepts_iff (hhas : client.Has fields)
    (hslugs : slugs.Are fields) (hfit : fields.Fit) :
    Schemas.eventReported.accepts formats (.obj (engine.payloadMembers client
        slugs [("raw", decoded),
          ("event_name", engine.member decoded "event_name"),
          ("params", engine.member decoded "params")])) = true ↔
      Schemas.object.accepts formats decoded = true ∧
      Schemas.name.accepts formats (engine.member decoded "event_name") = true ∧
      (Schemas.paramMap 0).accepts formats (engine.member decoded "params") =
        true := by
  refine (selected_accepts_iff hhas hslugs hfit (by simp) ?_ (by simp)
    rfl).trans ?_
  · simp [Schemas.deviceRequired, Schemas.deviceMembers]
  · simp [JsonSchema.ObjectSchema.acceptsMember, List.lookup_cons]

theorem propertySetAcknowledged_accepts_iff (hhas : client.Has fields)
    (hslugs : slugs.Are fields) (hfit : fields.Fit) :
    Schemas.propertySetAcknowledged.accepts formats (.obj (engine.payloadMembers
        client slugs [("raw", decoded),
          ("command_id", engine.member decoded "command_id"),
          ("success", engine.member decoded "success"),
          ("code", engine.member decoded "code"),
          ("message", engine.member decoded "message"),
          ("properties", engine.member decoded "properties")])) = true ↔
      Replies engine formats decoded "properties" (Schemas.propertyMap 0) := by
  rw [replies_iff]
  refine (selected_accepts_iff hhas hslugs hfit (by simp) ?_ (by simp)
    rfl).trans ?_
  · simp [Schemas.deviceRequired, Schemas.deviceMembers]
  · simp [JsonSchema.ObjectSchema.acceptsMember, List.lookup_cons]

theorem serviceCallAcknowledged_accepts_iff (hhas : client.Has fields)
    (hslugs : slugs.Are fields) (hfit : fields.Fit) {service : String} :
    Schemas.serviceCallAcknowledged.accepts formats (.obj (engine.payloadMembers
        client slugs [("raw", decoded),
          ("command_id", engine.member decoded "command_id"),
          ("service_name", .str service),
          ("success", engine.member decoded "success"),
          ("code", engine.member decoded "code"),
          ("message", engine.member decoded "message"),
          ("output", engine.member decoded "output")])) = true ↔
      Schemas.name.accepts formats (.str service) = true ∧
        Replies engine formats decoded "output" (Schemas.paramMap 0) := by
  rw [replies_iff]
  refine (selected_accepts_iff hhas hslugs hfit (by simp) ?_ (by simp)
    rfl).trans ?_
  · simp [Schemas.deviceRequired, Schemas.deviceMembers]
  · simp only [List.forall_mem_cons, JsonSchema.ObjectSchema.acceptsMember,
      List.lookup_cons]
    simp
    tauto

end Payloads

section ReplyTopics

variable {formats : FormatChecker}

/-- A text that the pattern takes is cut at its suffix. -/
theorem replyTail_split {text : List Char} (hreply : replyTail text = true) :
    ∃ front last, text = front ++ "_reply".toList ++ last ∧ atEnd last = true ∧
      removeReply text = front ++ last := by
  induction text with
  | nil => cases hreply
  | cons char rest ih =>
      rw [removeReply]
      by_cases hsuffix : "_reply".toList <+: char :: rest ∧
          atEnd ((char :: rest).drop 6) = true
      · rw [if_pos hsuffix]
        obtain ⟨⟨last, hlast⟩, hend⟩ := hsuffix
        have hdrop : (char :: rest).drop 6 = last := by
          rw [← hlast]
          rfl
        rw [hdrop] at hend ⊢
        exact ⟨[], last, hlast.symm, hend, rfl⟩
      · rw [if_neg hsuffix]
        simp only [replyTail, Bool.or_eq_true, Bool.and_eq_true,
          decide_eq_true_eq] at hreply
        rcases hreply with hhere | ⟨-, hlater⟩
        · exact absurd hhere hsuffix
        · obtain ⟨front, last, hrest, hend, hremoved⟩ := ih hlater
          refine ⟨char :: front, last, ?_, hend, ?_⟩
          · rw [hrest]
            rfl
          · rw [hremoved]
            rfl

/-- Behind a service name the pattern of the rule allows a line break, which the
contract does not. -/
theorem reply_accepted_iff {reply : String} :
    matchesReply reply = true ∧ Schemas.name.accepts formats
        (.str (String.ofList (removeReply reply.toList))) = true ↔
      ∃ service, Schemas.name.accepts formats (.str service) = true ∧
        reply = service ++ "_reply" := by
  constructor
  · rintro ⟨hmatches, hname⟩
    rw [matchesReply] at hmatches
    cases hlist : reply.toList with
    | nil =>
        rw [hlist] at hmatches
        cases hmatches
    | cons first rest =>
        rw [hlist] at hmatches hname
        simp only [Bool.and_eq_true] at hmatches
        obtain ⟨front, last, hrest, hend, hremoved⟩ :=
          replyTail_split hmatches.2
        have hkept : removeReply (first :: rest) =
            first :: (front ++ last) := by
          rw [removeReply, if_neg, hremoved]
          rintro ⟨⟨after, hafter⟩, -⟩
          obtain rfl : first = '_' := (List.cons.inj hafter).1.symm
          exact absurd hmatches.1 (by decide)
        rw [hkept] at hname
        have hclean := (Pattern.forall_of_matches (P := fun char => char ≠ '\n')
          (by rintro char hchar rfl; exact absurd hchar (by decide))
          (by rintro char hchar rfl; exact absurd hchar (by decide))
          (name_accepts_iff.mp hname).2.2).2
        obtain rfl : last = [] := by
          simp only [atEnd, Bool.or_eq_true, decide_eq_true_eq] at hend
          rcases hend with hnone | hbreak
          · exact hnone
          · exact absurd rfl (hclean '\n' (by simp [hbreak]))
        rw [List.append_nil] at hname hrest
        refine ⟨_, hname, ?_⟩
        rw [← String.toList_inj, hlist, hrest]
        simp
  · rintro ⟨service, hname, rfl⟩
    refine ⟨matchesReply_append (name_accepts_iff.mp hname).2.2, ?_⟩
    rw [String.toList_append, removeReply_append, String.ofList_toList]
    exact hname

end ReplyTopics

section Routes

variable {engine : Engine} {address : DeviceAddress} {kind name : String}
  {stamp : Stamp} {record : KafkaRecord}

/-- Which of the device's own topics the FROM of a rule matches. -/
theorem from_matches_iff {topic wanted last : String}
    (hfilter : levels ("lf/v1/+/+/+/" ++ wanted ++ "/up/" ++ last) =
      ["lf", "v1", "+", "+", "+", wanted, "up", last])
    (hwanted : Literal wanted) (hlast : last = "+" ∨ Literal last)
    (hlevels : levels topic = address.path [kind, "up", name]) :
    matchesTopic ("lf/v1/+/+/+/" ++ wanted ++ "/up/" ++ last) topic = true ↔
      kind = wanted ∧ (last = "+" ∨ name = last) := by
  constructor
  · intro hmatches
    obtain ⟨tenant, product, device, found, hfound, hname⟩ :=
      levels_of_from hfilter hwanted hlast hmatches
    rw [hlevels] at hfound
    simp only [DeviceAddress.path, List.cons_append, List.nil_append,
      List.cons.injEq, and_true, true_and] at hfound
    obtain ⟨-, -, -, rfl, rfl⟩ := hfound
    exact ⟨rfl, hname⟩
  · rintro ⟨rfl, hname⟩
    have hlf : ∀ text ∈ ["lf", "v1", "up"], text ≠ "+" ∧ text ≠ "#" := by decide
    have hend : matchesLevels [last] [name] = true := by
      rcases hname with rfl | rfl
      · exact matchesLevels_plus.mpr ⟨name, [], rfl, rfl⟩
      · rcases hlast with hplus | hliteral
        · rw [hplus]
          rfl
        · exact (matchesLevels_literal hliteral).mpr ⟨[], rfl, rfl⟩
    have hfront : "lf/v1/+/+/+/" ++ kind ++ "/up/" ++ last =
        "lf/v1/" ++ ("+/+/+/" ++ kind ++ "/up/" ++ last) := by
      simp [← String.append_assoc]
    rw [hfront, matchesTopic_lf, ← hfront, matchesFilter, hfilter, hlevels]
    refine (matchesLevels_literal (hlf "lf" (by decide))).mpr ⟨_, rfl, ?_⟩
    refine (matchesLevels_literal (hlf "v1" (by decide))).mpr ⟨_, rfl, ?_⟩
    refine matchesLevels_plus.mpr ⟨_, _, rfl, ?_⟩
    refine matchesLevels_plus.mpr ⟨_, _, rfl, ?_⟩
    refine matchesLevels_plus.mpr ⟨_, _, rfl, ?_⟩
    refine (matchesLevels_literal hwanted).mpr ⟨_, rfl, ?_⟩
    exact (matchesLevels_literal (hlf "up" (by decide))).mpr ⟨_, rfl, hend⟩

variable {formats : FormatChecker} {client : ClientInfo} {fields : DeviceFields}
  {topic : String} {payload : Option Json} {accepted : EventType}

/-- The processor takes the record as an event of this type. -/
def Taken (formats : FormatChecker) (accepted : EventType)
    (record : KafkaRecord) : Prop :=
  ∃ envelope,
    validateEvent formats (some record.value) = .ok (envelope, accepted)

/-- A client of a device and one of the device's topics on the way up. -/
structure OnOwnTopic (client : ClientInfo) (fields : DeviceFields)
    (address : DeviceAddress) (topic kind name : String) : Prop where
  kind_mem : kind ∈ kinds
  levels : levels topic = address.path [kind, "up", name]
  slugs : (topicSlugs topic).Are fields
  has : client.Has fields
  fit : fields.Fit

/-- A rule that runs on a topic of the device, and what it selects. -/
theorem messageRule_taken_iff {wanted last : String} {eventType : EventType}
    {cause : Json → Option Json} {own : Json → List (String × Json)}
    (hfilter : levels ("lf/v1/+/+/+/" ++ wanted ++ "/up/" ++ last) =
      ["lf", "v1", "+", "+", "+", wanted, "up", last])
    (hwanted : Literal wanted) (hlast : last = "+" ∨ Literal last)
    (hown : OnOwnTopic client fields address topic kind name)
    (htime : formats.dateTime (engine.formatDate stamp.now) = true) :
    (∃ record, engine.messageRule ("lf/v1/+/+/+/" ++ wanted ++ "/up/" ++ last)
        eventType (fun decoded =>
          (cause decoded).toList.map ("causation_id", ·))
        own ⟨topic, payload, client⟩ stamp = some record ∧
        Taken formats accepted record) ↔
      accepted = eventType ∧ (kind = wanted ∧ (last = "+" ∨ name = last)) ∧
      ∃ decoded, payload = some decoded ∧
        (∀ value ∈ cause decoded, Schemas.uuid.accepts formats value = true) ∧
        eventType.schema.accepts formats (.obj (engine.payloadMembers client
          (topicSlugs topic) (own decoded))) = true := by
  have hmatches := @from_matches_iff address kind name topic wanted last hfilter
    hwanted hlast hown.levels
  have htaken :=
    fun decoded => @select_accepted_iff engine formats client fields
    (topicSlugs topic) stamp eventType accepted (cause decoded) (own decoded)
    hown.has hown.fit htime
  constructor
  · rintro ⟨record, hsome, hrecord⟩
    obtain ⟨hfrom, decoded, hpayload, rfl⟩ := messageRule_eq_some.mp hsome
    obtain ⟨rfl, hcause, hschema⟩ := (htaken decoded).mp hrecord
    exact ⟨rfl, hmatches.mp hfrom, decoded, hpayload, hcause, hschema⟩
  · rintro ⟨rfl, hroute, decoded, hpayload, hcause, hschema⟩
    exact ⟨_, messageRule_eq_some.mpr ⟨hmatches.mpr hroute, decoded, hpayload,
      rfl⟩, (htaken decoded).mpr ⟨rfl, hcause, hschema⟩⟩

theorem mem_onMessage_iff {message : Message} {stamp : Nat → Stamp} :
    record ∈ engine.onMessage message stamp ↔
      engine.eventReported message (stamp 0) = some record ∨
      engine.propertyReported message (stamp 1) = some record ∨
      engine.propertySetAcknowledged message (stamp 2) = some record ∨
      engine.serviceCallAcknowledged message (stamp 3) = some record := by
  simp [Engine.onMessage, Engine.messageRules]

theorem propertyReported_taken_iff
    (hown : OnOwnTopic client fields address topic kind name)
    (htime : formats.dateTime (engine.formatDate stamp.now) = true) :
    (∃ record, engine.propertyReported ⟨topic, payload, client⟩ stamp =
        some record ∧ Taken formats accepted record) ↔
      accepted = .propertyReported ∧ (kind = "property" ∧ name = "post") ∧
      ∃ decoded, payload = some decoded ∧
        (Schemas.propertyMap 1).accepts formats decoded = true := by
  have hrule := @messageRule_taken_iff engine address kind name stamp formats
    client fields topic payload accepted "property" "post" .propertyReported
    (fun _ => none) (fun decoded => [("properties", decoded)]) (by decide)
    (literal_last _ (by decide)) (Or.inr (literal_last _ (by decide))) hown
    htime
  refine hrule.trans ?_
  have hplus : ¬ "post" = "+" := by decide
  simp only [EventType.schema, propertyReported_accepts_iff hown.has hown.slugs
    hown.fit, hplus, false_or, Option.not_mem_none, false_implies,
    implies_true, true_and]

theorem eventReported_taken_iff
    (hown : OnOwnTopic client fields address topic kind name)
    (htime : formats.dateTime (engine.formatDate stamp.now) = true) :
    (∃ record, engine.eventReported ⟨topic, payload, client⟩ stamp =
        some record ∧ Taken formats accepted record) ↔
      accepted = .eventReported ∧ (kind = "event" ∧ name = "post") ∧
      ∃ decoded, payload = some decoded ∧
        Schemas.object.accepts formats decoded = true ∧
        Schemas.name.accepts formats (engine.member decoded "event_name") =
          true ∧
        (Schemas.paramMap 0).accepts formats (engine.member decoded "params") =
          true := by
  have hrule := @messageRule_taken_iff engine address kind name stamp formats
    client fields topic payload accepted "event" "post" .eventReported
    (fun _ => none) (fun decoded => [("raw", decoded),
      ("event_name", engine.member decoded "event_name"),
      ("params", engine.member decoded "params")]) (by decide)
    (literal_last _ (by decide)) (Or.inr (literal_last _ (by decide))) hown
    htime
  refine hrule.trans ?_
  have hplus : ¬ "post" = "+" := by decide
  simp only [EventType.schema, eventReported_accepts_iff hown.has hown.slugs
    hown.fit, hplus, false_or, Option.not_mem_none, false_implies,
    implies_true, true_and]

theorem propertySetAcknowledged_taken_iff
    (hown : OnOwnTopic client fields address topic kind name)
    (htime : formats.dateTime (engine.formatDate stamp.now) = true) :
    (∃ record, engine.propertySetAcknowledged ⟨topic, payload, client⟩ stamp =
        some record ∧ Taken formats accepted record) ↔
      accepted = .propertySetAcknowledged ∧
      (kind = "property" ∧ name = "set_reply") ∧
      ∃ decoded, payload = some decoded ∧
        Replies engine formats decoded "properties"
          (Schemas.propertyMap 0) := by
  have hrule := @messageRule_taken_iff engine address kind name stamp formats
    client fields topic payload accepted "property" "set_reply"
    .propertySetAcknowledged
    (fun decoded => some (engine.member decoded "command_id"))
    (fun decoded => [("raw", decoded),
      ("command_id", engine.member decoded "command_id"),
      ("success", engine.member decoded "success"),
      ("code", engine.member decoded "code"),
      ("message", engine.member decoded "message"),
      ("properties", engine.member decoded "properties")]) (by decide)
    (literal_last _ (by decide)) (Or.inr (literal_last _ (by decide))) hown
    htime
  refine hrule.trans ?_
  have hplus : ¬ "set_reply" = "+" := by decide
  have hcause : ∀ decoded, (∀ value ∈ some (engine.member decoded "command_id"),
      Schemas.uuid.accepts formats value = true) ∧
        Replies engine formats decoded "properties" (Schemas.propertyMap 0) ↔
      Replies engine formats decoded "properties" (Schemas.propertyMap 0) := by
    intro decoded
    rw [and_iff_right_iff_imp]
    rintro hreplies value ⟨⟩
    exact (replies_iff.mp hreplies).2.1
  simp only [EventType.schema, propertySetAcknowledged_accepts_iff hown.has
    hown.slugs hown.fit, hplus, false_or, hcause]

/-- The level that the WHERE of the rule about service calls looks at. -/
theorem nth_of_own (hown : OnOwnTopic client fields address topic kind name) :
    nth 8 (tokens topic '/') = if name = "" then none else some name := by
  have hlevel : ∀ text ∈ kinds, text ≠ "" := by decide
  have hkind := hlevel kind hown.kind_mem
  have htenant := (isLevel_slug address.tenantSlug_valid).1
  have hproduct := (isLevel_slug address.productKey_valid).1
  have hdevice := (isLevel_deviceSlug address.deviceSlug_valid).1
  rw [tokens_eq, hown.levels]
  by_cases hname : name = "" <;>
    simp [DeviceAddress.path, htenant, hproduct, hdevice, hkind, hname, nth]

theorem serviceCallAcknowledged_taken_iff
    (hown : OnOwnTopic client fields address topic kind name)
    (htime : formats.dateTime (engine.formatDate stamp.now) = true) :
    (∃ record, engine.serviceCallAcknowledged ⟨topic, payload, client⟩ stamp =
        some record ∧ Taken formats accepted record) ↔
      accepted = .serviceCallAcknowledged ∧
      (kind = "service" ∧ ∃ service, name = service ++ "_reply" ∧
        Schemas.name.accepts formats (.str service) = true) ∧
      ∃ decoded, payload = some decoded ∧
        Replies engine formats decoded "output" (Schemas.paramMap 0) := by
  have hrule := @messageRule_taken_iff engine address kind name stamp formats
    client fields topic payload accepted "service" "+" .serviceCallAcknowledged
    (fun decoded => some (engine.member decoded "command_id"))
    (fun decoded => [("raw", decoded),
      ("command_id", engine.member decoded "command_id"),
      ("service_name", .str (String.ofList (removeReply name.toList))),
      ("success", engine.member decoded "success"),
      ("code", engine.member decoded "code"),
      ("message", engine.member decoded "message"),
      ("output", engine.member decoded "output")]) (by decide)
    (literal_last _ (by decide)) (Or.inl rfl) hown htime
  have hrun : ∀ record, engine.serviceCallAcknowledged ⟨topic, payload, client⟩
      stamp = some record ↔ matchesReply name = true ∧
        engine.messageRule "lf/v1/+/+/+/service/up/+" .serviceCallAcknowledged
          (fun decoded => [("causation_id",
            engine.member decoded "command_id")])
          (fun decoded => [("raw", decoded),
            ("command_id", engine.member decoded "command_id"),
            ("service_name", .str (String.ofList (removeReply name.toList))),
            ("success", engine.member decoded "success"),
            ("code", engine.member decoded "code"),
            ("message", engine.member decoded "message"),
            ("output", engine.member decoded "output")])
          ⟨topic, payload, client⟩ stamp = some record := by
    intro record
    rw [Engine.serviceCallAcknowledged]
    simp only [nth_of_own hown]
    by_cases hname : name = ""
    · subst hname
      simp [matchesReply]
    · rw [if_neg hname]
      by_cases hmatches : matchesReply name = true
      · simp only [hmatches, if_true, true_and]
        rfl
      · simp [hmatches]
  have hschema := fun decoded => @serviceCallAcknowledged_accepts_iff engine
    formats client fields (topicSlugs topic) decoded hown.has
    hown.slugs hown.fit (String.ofList (removeReply name.toList))
  constructor
  · rintro ⟨record, hsome, htaken⟩
    obtain ⟨hmatches, hselected⟩ := (hrun record).mp hsome
    obtain ⟨rfl, ⟨hkind, -⟩, decoded, hpayload, -, haccepts⟩ :=
      hrule.mp ⟨record, hselected, htaken⟩
    obtain ⟨hservice, hreplies⟩ := (hschema decoded).mp haccepts
    obtain ⟨service, hname, heq⟩ := reply_accepted_iff.mp ⟨hmatches, hservice⟩
    exact ⟨rfl, ⟨hkind, service, heq, hname⟩, decoded, hpayload, hreplies⟩
  · rintro ⟨rfl, ⟨hkind, service, heq, hname⟩, decoded, hpayload, hreplies⟩
    obtain ⟨hmatches, hservice⟩ := reply_accepted_iff.mpr ⟨service, hname, heq⟩
    have hcause : ∀ value ∈ some (engine.member decoded "command_id"),
        Schemas.uuid.accepts formats value = true := by
      rintro value ⟨⟩
      exact (replies_iff.mp hreplies).2.1
    obtain ⟨record, hselected, htaken⟩ := hrule.mpr ⟨rfl, ⟨hkind, Or.inl rfl⟩,
      decoded, hpayload, hcause, (hschema decoded).mpr ⟨hservice, hreplies⟩⟩
    exact ⟨record, (hrun record).mpr ⟨hmatches, hselected⟩, htaken⟩

end Routes

section Results

variable {handler : EMQXAuthHandler} {engine : Engine} {formats : FormatChecker}
  {state : State} {client : ClientInfo} {fields : DeviceFields}
  {address : DeviceAddress} {topic kind name : String} {payload : Option Json}
  {accepted : EventType} {stamp : Nat → Stamp}

/-- What comes of a message on one of the device's topics. -/
theorem onMessage_taken_iff
    (hown : OnOwnTopic client fields address topic kind name)
    (htime : ∀ index,
      formats.dateTime (engine.formatDate (stamp index).now) = true) :
    (∃ record ∈ engine.onMessage ⟨topic, payload, client⟩ stamp,
        Taken formats accepted record) ↔
      ∃ decoded, payload = some decoded ∧
        Meets engine formats decoded accepted kind name := by
  have hevent := @eventReported_taken_iff engine address kind name (stamp 0)
    formats client fields topic payload accepted hown (htime 0)
  have hproperty :=
    @propertyReported_taken_iff engine address kind name (stamp 1)
    formats client fields topic payload accepted hown (htime 1)
  have hset :=
    @propertySetAcknowledged_taken_iff engine address kind name (stamp 2)
    formats client fields topic payload accepted hown (htime 2)
  have hcall := @serviceCallAcknowledged_taken_iff engine address kind name
    (stamp 3) formats client fields topic payload accepted hown (htime 3)
  simp only [mem_onMessage_iff, or_and_right, exists_or, hevent, hproperty,
    hset, hcall]
  constructor
  · rintro (⟨rfl, ⟨rfl, rfl⟩, decoded, hpayload, hobject, hname, hparams⟩ |
      ⟨rfl, ⟨rfl, rfl⟩, decoded, hpayload, hproperties⟩ |
      ⟨rfl, ⟨rfl, rfl⟩, decoded, hpayload, hreplies⟩ |
      ⟨rfl, ⟨rfl, service, rfl, hservice⟩, decoded, hpayload, hreplies⟩)
    · exact ⟨decoded, hpayload, .eventReported (object_accepts_iff.mp hobject)
        (name_accepted_iff.mp hname) hparams⟩
    · exact ⟨decoded, hpayload, .propertyReported hproperties⟩
    · exact ⟨decoded, hpayload, .propertySetAcknowledged hreplies⟩
    · exact ⟨decoded, hpayload, .serviceCallAcknowledged hservice hreplies⟩
  · rintro ⟨decoded, hpayload, hmeets⟩
    cases hmeets with
    | eventReported hobject hname hparams =>
        exact Or.inl ⟨rfl, ⟨rfl, rfl⟩, decoded, hpayload,
          object_accepts_iff.mpr hobject, name_accepted_iff.mpr hname, hparams⟩
    | propertyReported hproperties =>
        exact Or.inr (Or.inl ⟨rfl, ⟨rfl, rfl⟩, decoded, hpayload, hproperties⟩)
    | propertySetAcknowledged hreplies =>
        exact Or.inr (Or.inr (Or.inl ⟨rfl, ⟨rfl, rfl⟩, decoded, hpayload,
          hreplies⟩))
    | serviceCallAcknowledged hservice hreplies =>
        exact Or.inr (Or.inr (Or.inr ⟨rfl, ⟨rfl, _, rfl, hservice⟩, decoded,
          hpayload, hreplies⟩))

theorem fieldsOf_stored (tenant : Registry.Tenant) (product : Registry.Product)
    (device : Registry.Device) :
    StoredFields (fieldsOf tenant product device) where
  tenantID := ⟨tenant.id, rfl⟩
  productID := ⟨product.id, rfl⟩
  deviceID := ⟨device.id, rfl⟩
  tenantSlug := tenant.slugFormat
  productKey := product.keyFormat
  deviceSlug := device.slugFormat

/-- The rules about connections run on every client of a device. -/
theorem connectionRule_of_device {eventType : EventType}
    {own : List (String × Json)} {time : Stamp} (hhas : client.Has fields)
    (hfit : fields.Fit) :
    engine.connectionRule eventType own client time =
      some (engine.select eventType time client
        (clientSlugs client) [] own) := by
  have hdiffers : ∀ {name text}, client.attr name = some text →
      1 ≤ text.length → engine.differsFromEmpty client name = true := by
    intro name text hattr hlength
    have hne : text ≠ "" := by
      rintro rfl
      exact absurd hlength (by decide)
    simp [Engine.differsFromEmpty, hattr, hne]
  rw [Engine.connectionRule, hdiffers hhas.tenantID hfit.tenantID.1,
    hdiffers hhas.deviceID hfit.deviceID.1]
  rfl

/-- The beginning and the end of a device's connection are always reported, and
taken within the bounds of their contracts. -/
theorem connections_taken_iff (hreach : (system handler engine).Reachable state)
    (hconnected : state.Connected client) (hdevice : client.isSuperuser = false)
    {time : Stamp}
    (htime : formats.dateTime (engine.formatDate time.now) = true)
    (keepalive : Int) (reason : String) :
    ((∃ record, engine.connected keepalive client time = some record ∧
        Taken formats accepted record) ↔ accepted = .connected ∧
        0 ≤ keepalive) ∧
      ((∃ record, engine.disconnected reason client time = some record ∧
        Taken formats accepted record) ↔
          accepted = .disconnected ∧ reason.length ≤ 128) := by
  obtain ⟨before, -, -, tenant, product, device, hadmitted, -⟩ :=
    (traced_of_reachable hreach).connected client hconnected hdevice
  have hhas := hadmitted.has
  have hfit := (fieldsOf_stored tenant product device).fit
  have hslugs := clientSlugs_are hhas
  have htaken :=
    fun eventType own => @select_accepted_iff engine formats client _
    (clientSlugs client) time eventType accepted none own hhas hfit htime
  constructor
  · simp only [Engine.connected, connectionRule_of_device hhas hfit,
      Option.some.injEq, exists_eq_left']
    refine (htaken .connected _).trans ?_
    have haccepts : Schemas.connected.accepts formats
        (.obj (engine.payloadMembers client (clientSlugs client)
          [("keepalive", .num keepalive true)])) = true ↔
          0 ≤ keepalive := by
      refine (selected_accepts_iff hhas hslugs hfit (by simp) ?_
        (by simp) rfl).trans ?_
      · simp [Schemas.deviceRequired, Schemas.deviceMembers]
      · simp [JsonSchema.ObjectSchema.acceptsMember, List.lookup_cons,
          integer_accepts_iff]
    simp [EventType.schema, haccepts]
  · simp only [Engine.disconnected, connectionRule_of_device hhas hfit,
      Option.some.injEq, exists_eq_left']
    refine (htaken .disconnected _).trans ?_
    have haccepts : Schemas.disconnected.accepts formats (.obj
        (engine.payloadMembers client (clientSlugs client)
          [("reason", .str reason)])) = true ↔ reason.length ≤ 128 := by
      refine (selected_accepts_iff hhas hslugs hfit (by simp) ?_
        (by simp) rfl).trans ?_
      · simp [Schemas.deviceRequired, Schemas.deviceMembers]
      · simp [JsonSchema.ObjectSchema.acceptsMember, List.lookup_cons,
          text_accepts_iff]
    simp [EventType.schema, haccepts]

/-- In every run, what a connected device publishes where the broker lets it
becomes an event that the processor takes if and only if the payload is JSON and
meets the contract of its topic; an event of another type never comes of it. -/
theorem uplink_taken_iff (hreach : (system handler engine).Reachable state)
    (hconnected : state.Connected client) (hdevice : client.isSuperuser = false)
    (hremote : client.peerHost ≠ "127.0.0.1")
    (hallowed : authorize client .publish topic = true)
    (htime : ∀ index,
      formats.dateTime (engine.formatDate (stamp index).now) = true) :
    (∃ record ∈ engine.onMessage ⟨topic, payload, client⟩ stamp,
        Taken formats accepted record) ↔
      ∃ decoded kind name, payload = some decoded ∧
        (levels topic).drop 5 = [kind, "up", name] ∧
        Meets engine formats decoded accepted kind name := by
  obtain ⟨before, -, -, tenant, product, device, hadmitted, -⟩ :=
    (traced_of_reachable hreach).connected client hconnected hdevice
  obtain ⟨kind, hkind, name, hlevels⟩ :=
    (publish_authorized_iff hadmitted.carries hdevice hremote).mp hallowed
  have hown : OnOwnTopic client (fieldsOf tenant product device)
      (addressOf tenant product device) topic kind name :=
    { kind_mem := hkind
      levels := hlevels
      slugs := topicSlugs_of_ownTopic ⟨kind, hkind, name, hlevels⟩
      has := hadmitted.has
      fit := (fieldsOf_stored tenant product device).fit }
  have hdrop : (levels topic).drop 5 = [kind, "up", name] := by
    rw [hlevels]
    rfl
  rw [onMessage_taken_iff hown htime]
  constructor
  · rintro ⟨decoded, hpayload, hmeets⟩
    exact ⟨decoded, kind, name, hpayload, hdrop, hmeets⟩
  · rintro ⟨decoded, kind', name', hpayload, hdrop', hmeets⟩
    rw [hdrop] at hdrop'
    cases hdrop'
    exact ⟨decoded, hpayload, hmeets⟩

end Results

section Sample

/-- The device of the run is connected and may report an event. -/
theorem lampRun_connects : ∃ state client,
    (system acmeHandler plainEngine).run emptyBroker lampRun = some state ∧
    state.Connected client ∧ client.isSuperuser = false ∧
    client.peerHost ≠ "127.0.0.1" ∧
    authorize client .publish "lf/v1/acme/lamp/b/event/up/post" = true := by
  have hends : ((system acmeHandler plainEngine).run emptyBroker lampRun).any
      (fun state => (state.client? "lamp-b").any fun client =>
        client.isRemoteDevice &&
          authorize client .publish "lf/v1/acme/lamp/b/event/up/post") =
          true := by
    decide +kernel
  rw [Option.any_eq_true] at hends
  obtain ⟨state, hrun, hends⟩ := hends
  rw [Option.any_eq_true] at hends
  obtain ⟨client, hclient, hends⟩ := hends
  simp only [Bool.and_eq_true, ClientInfo.isRemoteDevice, decide_eq_true_eq,
    Bool.not_eq_true'] at hends
  exact ⟨state, client, hrun, client?_connected hclient, hends.1.1, hends.1.2,
    hends.2⟩

/-- An event of the shape that the rule's script describes. -/
def overheat : Json :=
  .obj [("event_name", .str "overheat"),
    ("params", .obj [("temperature", .num 85 true)])]

theorem uplink_taken_iff_overheat : ∃ state client,
    (system acmeHandler plainEngine).run emptyBroker lampRun = some state ∧
    state.Connected client ∧
    ∃ record ∈ plainEngine.onMessage
        ⟨"lf/v1/acme/lamp/b/event/up/post", some overheat, client⟩
        (fun _ => ⟨8, 0⟩),
      Taken FormatChecker.byShape .eventReported record := by
  obtain ⟨state, client, hrun, hconnected, hdevice, hremote, hallowed⟩ :=
    lampRun_connects
  have hreach : (system acmeHandler plainEngine).Reachable state :=
    Transition.System.Reachable.of_run (.start emptyBroker_init) hrun
  refine ⟨state, client, hrun, hconnected, (uplink_taken_iff hreach hconnected
    hdevice hremote hallowed fun _ => ?_).mpr
    ⟨overheat, "event", "post", rfl, ?_,
      .eventReported ⟨_, rfl⟩ ⟨"overheat", rfl, ?_⟩ ?_⟩⟩ <;> decide

theorem connections_taken_iff_lamp : ∃ state client,
    (system acmeHandler plainEngine).run emptyBroker lampRun = some state ∧
    state.Connected client ∧
    (∃ record, plainEngine.connected 60 client ⟨8, 0⟩ = some record ∧
      Taken FormatChecker.byShape .connected record) ∧
    ∃ record, plainEngine.disconnected "normal" client ⟨8, 0⟩ = some record ∧
      Taken FormatChecker.byShape .disconnected record := by
  obtain ⟨state, client, hrun, hconnected, hdevice, -, -⟩ := lampRun_connects
  have hreach : (system acmeHandler plainEngine).Reachable state :=
    Transition.System.Reachable.of_run (.start emptyBroker_init) hrun
  have htime : FormatChecker.byShape.dateTime (plainEngine.formatDate 8) =
      true := by
    decide
  refine ⟨state, client, hrun, hconnected, ?_, ?_⟩
  · exact (connections_taken_iff hreach hconnected hdevice htime 60 "").1.mpr
      ⟨rfl, by decide⟩
  · exact (connections_taken_iff hreach hconnected hdevice htime 0
      "normal").2.mpr ⟨rfl, by decide⟩

end Sample

end Broker

end LinkFlow
