/-
Envelopes as both producers build them, and when such an envelope passes its own
contract.
-/
import LinkFlow.Schemas

namespace LinkFlow

/-- A time that is not set is replaced by the clock. -/
def stampedAt (occurredAt clock : Int) : Int :=
  if occurredAt = zeroTime then clock else occurredAt

/-- The fields `EnvelopeFactory.New` and `EventPublisher.Publish` fill alike.
The backend sets the correlation id afterwards, the processor the causation
id. -/
def newEnvelope (eventType : EventType) (id : Uuid) (occurredAt clock : Int)
    (producer tenantID correlationID causationID : String) (payload : Json) :
    Envelope where
  eventID := Uuid.text id
  eventType := eventType.text
  eventVersion := eventType.version
  occurredAt := formatRFC3339Nano (stampedAt occurredAt clock)
  producer := producer
  tenantID := tenantID
  traceID := ""
  correlationID := correlationID
  causationID := causationID
  payload := payload

/-- A record of a topic.  The value is the text of an envelope. -/
structure KafkaRecord where
  topic : String
  key : String
  value : Json
  headers : List (String × String)

/-- The headers both producers set. -/
def Envelope.headers (envelope : Envelope) : List (String × String) :=
  [("event_type", envelope.eventType),
    ("event_version", toString envelope.eventVersion),
    ("producer", envelope.producer), ("tenant_id", envelope.tenantID)]

section Omit

variable {name field text : String}

/-- A text that was omitted is read as the empty one. -/
theorem foldl_omitEmpty_self :
    (omitEmpty name text).foldl
      (fun held member =>
        if member.1 = name then held.bind (readString · member.2) else held)
      (some "") = some text := by
  rw [omitEmpty]
  by_cases htext : text = "" <;> simp [htext, readString]

theorem foldl_omitEmpty_other {α : Type} {read : α → Json → Option α}
    {held : Option α} (hne : field ≠ name) :
    (omitEmpty field text).foldl
      (fun held member =>
        if member.1 = name then held.bind (read · member.2) else held)
      held = held := by
  rw [omitEmpty]
  by_cases htext : text = "" <;> simp [htext, hne]

theorem readString_str (held text : String) :
    readString held (.str text) = some text := rfl

theorem readInt_one (held : Int) : readInt held (.num 1 true) = some 1 := rfl

end Omit

/-- A marshalled envelope is read back as it was. -/
theorem Envelope.decode_json (envelope : Envelope)
    (hversion : envelope.eventVersion = 1) :
    Envelope.decode envelope.json = some envelope := by
  obtain ⟨eventID, eventType, eventVersion, occurredAt, producer, tenantID,
    traceID, correlationID, causationID, payload⟩ := envelope
  cases hversion
  simp [Envelope.json, Envelope.decode, decodeString, decodeInt, decodeField,
    decodeRaw, readString_str, readInt_one, List.foldl_append,
    foldl_omitEmpty_self, foldl_omitEmpty_other, GoMap.lastMember]

theorem forall_mem_omitEmpty {P : String × Json → Prop} {name text : String} :
    (∀ member ∈ omitEmpty name text, P member) ↔
      (text ≠ "" → P (name, .str text)) := by
  rw [omitEmpty]
  split <;> simp_all

theorem omitEmpty_names_sublist (name text : String) :
    ((omitEmpty name text).map Prod.fst).Sublist [name] := by
  rw [omitEmpty]
  split <;> simp

/-- The names of a marshalled envelope are distinct. -/
theorem Envelope.json_names_nodup (envelope : Envelope) :
    ∃ members, envelope.json = .obj members ∧
      (members.map Prod.fst).Nodup := by
  refine ⟨_, rfl, ?_⟩
  have hfull : ["event_id", "event_type", "event_version", "occurred_at",
      "producer", "tenant_id", "trace_id", "correlation_id", "causation_id",
      "payload"].Nodup := by decide
  refine hfull.sublist ?_
  simp only [List.map_append, List.map_cons, List.map_nil]
  exact ((((List.Sublist.refl _).append (omitEmpty_names_sublist _ _)).append
    (omitEmpty_names_sublist _ _)).append (omitEmpty_names_sublist _ _)).append
    (List.Sublist.refl _)

section Contract

open JsonSchema

variable {formats : FormatChecker}

theorem eventType_text_accepts (eventType : EventType) :
    (StringRule.accepts formats
      { minLength := 3, maxLength := some 128,
        pattern := Schemas.dottedPattern }
      eventType.text) = true := by
  cases eventType <;> rfl

/-- The rule for the names of producers. -/
def ProducerName (producer : String) : Prop :=
  1 ≤ producer.length ∧ producer.length ≤ 64 ∧
    Schemas.kebabPattern.matches producer = true

section Members

variable {minLength maxLength : Nat} {text : String}

theorem string_accepts_iff {rule : StringRule} :
    Member.accepts formats (.atom (.string rule)) (.str text) =
      rule.accepts formats text := rfl

theorem text_accepts_iff :
    (Schemas.text minLength maxLength).accepts formats (.str text) = true ↔
      minLength ≤ text.length ∧ text.length ≤ maxLength := by
  simp [Schemas.text, string_accepts_iff, StringRule.accepts, Format.accepts]

theorem uuid_accepts_iff :
    Schemas.uuid.accepts formats (.str text) = true ↔
      formats.uuid text = true := by
  simp [Schemas.uuid, string_accepts_iff, StringRule.accepts, Format.accepts]

theorem slug_accepts_iff :
    Schemas.slug.accepts formats (.str text) = true ↔
      1 ≤ text.length ∧ text.length ≤ 128 ∧
        Schemas.kebabPattern.matches text = true := by
  simp [Schemas.slug, string_accepts_iff, StringRule.accepts, Format.accepts,
    and_assoc]

theorem name_accepts_iff :
    Schemas.name.accepts formats (.str text) = true ↔
      1 ≤ text.length ∧ text.length ≤ 128 ∧
        Schemas.namePattern.matches text = true := by
  simp [Schemas.name, string_accepts_iff, StringRule.accepts, Format.accepts,
    and_assoc]

theorem protocol_accepts_iff :
    Schemas.protocol.accepts formats (.str text) = true ↔
      2 ≤ text.length ∧ text.length ≤ 32 ∧
        Schemas.protocolPattern.matches text = true := by
  simp [Schemas.protocol, string_accepts_iff, StringRule.accepts,
    Format.accepts, and_assoc]

theorem object_accepts_iff {value : Json} :
    Schemas.object.accepts formats value = true ↔
      ∃ members, value = .obj members := by
  cases value <;> simp [Schemas.object, Member.accepts, Atom.accepts]

theorem integer_accepts_iff {minimum number : Int} :
    Member.accepts formats (.atom (.integer minimum)) (.num number true) =
      true ↔ minimum ≤ number := by
  simp only [Member.accepts, Atom.accepts, Rat.den_intCast, Rat.num_intCast,
    decide_true, Bool.true_and]
  exact ⟨of_decide_eq_true, fun hle => decide_eq_true hle⟩

end Members

/-- A marshalled envelope is checked field by field. -/
theorem Envelope.accepts_iff {envelope : Envelope} :
    Schemas.envelope.accepts formats envelope.json = true ↔
      formats.uuid envelope.eventID = true ∧
      StringRule.accepts formats
        { minLength := 3, maxLength := some 128,
          pattern := Schemas.dottedPattern }
        envelope.eventType = true ∧
      1 ≤ envelope.eventVersion ∧
      formats.dateTime envelope.occurredAt = true ∧
      ProducerName envelope.producer ∧
      (1 ≤ envelope.tenantID.length ∧ envelope.tenantID.length ≤ 64) ∧
      (envelope.traceID ≠ "" → Schemas.traceIDPattern envelope.traceID = true) ∧
      (envelope.correlationID ≠ "" →
        1 ≤ envelope.correlationID.length ∧
          envelope.correlationID.length ≤ 128) ∧
      (envelope.causationID ≠ "" →
        formats.uuid envelope.causationID = true) ∧
      ∃ members, envelope.payload = .obj members := by
  obtain ⟨members, hjson, hnodup⟩ := envelope.json_names_nodup
  rw [hjson, ObjectSchema.accepts_obj hnodup]
  cases hjson
  clear hnodup
  simp only [List.forall_mem_append, forall_mem_omitEmpty, List.forall_mem_cons]
  simp [Schemas.envelope, ObjectSchema.acceptsMember, List.lookup_append,
    List.lookup_cons, uuid_accepts_iff, text_accepts_iff, object_accepts_iff,
    integer_accepts_iff, string_accepts_iff]
  simp [StringRule.accepts, Format.accepts, ProducerName, and_assoc]

/-- A produced envelope fits the envelope schema exactly when its time has a
year of four digits. -/
theorem newEnvelope_accepts_iff {eventType : EventType} {id : Uuid}
    {occurredAt clock : Int} {producer tenantID correlationID
      causationID : String} {payload : List (String × Json)}
    (hproducer : ProducerName producer)
    (htenant : 1 ≤ tenantID.length ∧ tenantID.length ≤ 64)
    (hcorrelation : correlationID ≠ "" →
      1 ≤ correlationID.length ∧ correlationID.length ≤ 128)
    (hcausation : causationID ≠ "" → formats.uuid causationID = true) :
    Schemas.envelope.accepts formats
        (newEnvelope eventType id occurredAt clock producer tenantID
          correlationID causationID (.obj payload)).json = true ↔
      HasFourDigitYear (stampedAt occurredAt clock) := by
  rw [Envelope.accepts_iff, ← formats.dateTime_format]
  constructor
  · intro haccepts
    exact haccepts.2.2.2.1
  · intro htime
    exact ⟨formats.uuid_text id, eventType_text_accepts eventType,
      le_refl 1, htime, hproducer, htenant, fun hnot => absurd rfl hnot,
      hcorrelation, hcausation, payload, rfl⟩

/-- A produced message is accepted exactly when its time has a year of four
digits and its payload fits the schema of its type. -/
theorem validateEvent_newEnvelope {eventType : EventType} {id : Uuid}
    {occurredAt clock : Int} {producer tenantID correlationID
      causationID : String} {payload : List (String × Json)}
    (hproducer : ProducerName producer)
    (htenant : 1 ≤ tenantID.length ∧ tenantID.length ≤ 64)
    (hcorrelation : correlationID ≠ "" →
      1 ≤ correlationID.length ∧ correlationID.length ≤ 128)
    (hcausation : causationID ≠ "" → formats.uuid causationID = true) :
    (validateEvent formats (some
        (newEnvelope eventType id occurredAt clock producer tenantID
          correlationID causationID (.obj payload)).json)).isOk = true ↔
      HasFourDigitYear (stampedAt occurredAt clock) ∧
        eventType.schema.accepts formats (.obj payload) = true := by
  have henvelope_accepts :
      Schemas.envelope.accepts formats
          (newEnvelope eventType id occurredAt clock producer tenantID
            correlationID causationID (.obj payload)).json = true ↔
        HasFourDigitYear (stampedAt occurredAt clock) :=
    newEnvelope_accepts_iff hproducer htenant hcorrelation hcausation
  rw [← henvelope_accepts]
  generalize henvelope : newEnvelope eventType id occurredAt clock producer
    tenantID correlationID causationID (.obj payload) = envelope
  have hdecode : Envelope.decode envelope.json = some envelope :=
    envelope.decode_json (by rw [← henvelope]; rfl)
  have hlookup :
      EventType.lookup envelope.eventType envelope.eventVersion =
        some eventType := by
    rw [← henvelope]
    exact EventType.lookup_text eventType
  have hpayload : envelope.payload = .obj payload := by rw [← henvelope]; rfl
  simp only [validateEvent, hdecode, hlookup, hpayload]
  cases Schemas.envelope.accepts formats envelope.json <;>
    cases eventType.schema.accepts formats (.obj payload) <;>
    simp [Except.isOk, Except.toBool]

end Contract

end LinkFlow
