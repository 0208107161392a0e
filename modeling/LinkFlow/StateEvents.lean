/-
What a page makes of the state events that the processor publishes.  The
processor writes three types of them and the page has three callbacks; nothing
but the texts of the envelopes ties them together.
-/
import LinkFlow.DeviceProvenance
import LinkFlow.EventInbox
import LinkFlow.ProcessorContract

namespace LinkFlow

namespace EventInbox

open Processor

section Published

variable {out : Surroundings} {world : World} {env envelope : Envelope}
  {topic : String}

/-- The type of the state event that is published about a message. -/
def stateType? : Payload → Option EventType
  | .propertyReported _ => some .propertyChanged
  | .eventReported _ => some .eventReceived
  | .connected _ | .disconnected _ => some .connectionChanged
  | _ => none

theorem connection_publishes {fields : DeviceFields}
    {mark : DeviceConnectionEvent → Call Bool} {context status reason : String}
    (hmark : ∀ input, .publish topic envelope ∉ (mark input).trace)
    (hmem : .publish topic envelope ∈
      (connectionBody out env fields mark context status reason).trace) :
    ∃ time body id, envelope = stateEnvelope out .connectionChanged env.tenantID
      env.eventID time body id := by
  obtain ⟨time, -, hmem⟩ := mem_trace_connectionBody.mp hmem
  rcases hmem with hmem | ⟨-, hmem⟩
  · exact absurd hmem (hmark _)
  · obtain ⟨-, -, -, id, -, hpublish⟩ := mem_trace_publishEvent.mp hmem
    cases hpublish
    exact ⟨_, _, id, rfl⟩

/-- Each message has at most one type of state event, and the others publish
nothing. -/
theorem body_publishes {payload : Payload}
    (hmem : .publish topic envelope ∈ (payload.body out world env).trace) :
    ∃ stateType time body id, stateType? payload = some stateType ∧
      envelope = stateEnvelope out stateType env.tenantID env.eventID time body
        id := by
  cases payload with
  | propertyReported report =>
      obtain ⟨validated, id, -, henvelope⟩ := publish_report
        (fun hmem => not_publish_of_ofLookup
          (mem_trace_validatePropertyReport hmem))
        (fun _ => not_publish_of_save) hmem
      exact ⟨_, _, _, id, rfl, henvelope⟩
  | eventReported report =>
      obtain ⟨validated, id, -, henvelope⟩ := publish_report
        (fun hmem => not_publish_of_ofLookup
          (mem_trace_validateEventReport hmem))
        (fun _ => not_publish_of_save) hmem
      exact ⟨_, _, _, id, rfl, henvelope⟩
  | connected payload =>
      change _ ∈ (connectedBody out world env payload).trace at hmem
      rw [connectedBody] at hmem
      obtain ⟨time, body, id, henvelope⟩ := connection_publishes
        (fun _ => not_publish_of_mark (by simp)) hmem
      exact ⟨_, time, body, id, rfl, henvelope⟩
  | disconnected payload =>
      change _ ∈ (disconnectedBody out world env payload).trace at hmem
      rw [disconnectedBody] at hmem
      obtain ⟨time, body, id, henvelope⟩ := connection_publishes
        (fun _ => not_publish_of_mark (by simp)) hmem
      exact ⟨_, time, body, id, rfl, henvelope⟩
  | propertySetRequested request =>
      refine absurd hmem (not_publish_command not_publish_of_save fun hmem =>
        ?_)
      obtain ⟨-, -, -, -, hdownlink⟩ := mem_trace_publishPropertySet.mp hmem
      cases hdownlink
  | serviceCallRequested request =>
      refine absurd hmem (not_publish_command not_publish_of_save fun hmem =>
        ?_)
      obtain ⟨-, -, -, hdownlink⟩ := mem_trace_publishServiceCall.mp hmem
      cases hdownlink
  | propertySetAcknowledged acknowledged =>
      exact absurd hmem not_publish_of_save
  | serviceCallAcknowledged acknowledged =>
      rcases mem_trace_serviceCallBody.mp hmem with hmem | ⟨_, -, hmem⟩
      · exact absurd (mem_trace_validateServiceCall hmem)
          not_publish_of_ofLookup
      · exact absurd hmem not_publish_of_save

end Published

section Understood

universe v

variable {B : Type v} {json? : B → Option Json} {raw : B} {envelope : Envelope}

/-- The callback for the events of a type. -/
def callback? : EventType → Option (Option Json → EnvelopeInfo → Callback)
  | .connectionChanged => some .connectionChanged
  | .propertyChanged => some .propertyChanged
  | .eventReceived => some .eventReceived
  | _ => none

/-- `meta` of an envelope whose members are texts. -/
def infoOf (envelope : Envelope) : EnvelopeInfo where
  eventID := some (.str envelope.eventID)
  occurredAt := some (.str envelope.occurredAt)
  tenantID := some (.str envelope.tenantID)

theorem lookup_omitEmpty {name text key : String} (hne : key ≠ name) :
    (omitEmpty name text).reverse.lookup key = none := by
  have hbeq : (key == name) = false := by simp [hne]
  rw [omitEmpty]
  by_cases htext : text = ""
  · simp [htext]
  · simp [htext, List.lookup_cons, hbeq]

/-- The members that the page reads. -/
theorem field?_json (envelope : Envelope) :
    envelope.json.field? "event_id" = some (.str envelope.eventID) ∧
      envelope.json.field? "event_type" = some (.str envelope.eventType) ∧
      envelope.json.field? "occurred_at" = some (.str envelope.occurredAt) ∧
      envelope.json.field? "tenant_id" = some (.str envelope.tenantID) ∧
      envelope.json.field? "payload" = some envelope.payload := by
  simp only [Json.field?, Envelope.json, Json.object?, Option.bind_some,
    GoMap.get?_ofMembers, GoMap.lastMember, List.reverse_append,
    List.lookup_append]
  simp [lookup_omitEmpty, List.lookup_cons]

/-- A state event leads to the callback of its type. -/
theorem handleMessage_of_json {stateType : EventType}
    {callback : Option Json → EnvelopeInfo → Callback}
    (hcallback : callback? stateType = some callback)
    (htype : envelope.eventType = stateType.text)
    (hraw : json? raw = some envelope.json) :
    handleMessage json? raw =
      some (callback (some envelope.payload) (infoOf envelope)) := by
  obtain ⟨heventID, heventType, hoccurredAt, htenantID, hpayload⟩ :=
    field?_json envelope
  simp only [handleMessage, hraw, heventID, heventType, hoccurredAt, htenantID,
    hpayload, htype]
  cases stateType with
  | connectionChanged => cases hcallback; rfl
  | propertyChanged => cases hcallback; rfl
  | eventReceived => cases hcallback; rfl
  | _ => cases hcallback

/-- Every type of state event has a callback. -/
theorem callback?_of_stateType? {payload : Payload} {stateType : EventType}
    (hstate : stateType? payload = some stateType) :
    ∃ callback, callback? stateType = some callback := by
  cases payload <;> cases hstate <;> exact ⟨_, rfl⟩

end Understood

section Devices

universe v

variable {B : Type v} {handler : Registry.EMQXAuthHandler}
    {engine : Broker.Engine}
  {state : Broker.State} {client : Broker.ClientInfo}

/-- In every run of the broker, whatever a client other than a superuser or one
on the broker's own host publishes, and whatever the processor, its stores and
the database do with it: each state event that comes of it leads a page to the
callback of its type, with a payload that names the device the client was let in
as. -/
theorem callbacks_name_their_device (json? : B → Option Json)
    (hreach : (Broker.system handler engine).Reachable state)
    {record : KafkaRecord} (hmem : (client, record) ∈ state.events)
    (hdevice : client.isSuperuser = false)
    (hremote : client.peerHost ≠ "127.0.0.1") :
    Broker.CameIn handler engine state client fun tenant product device =>
      ∀ out world formats topic envelope,
        .publish topic envelope ∈
          (process out world formats (some record.value)).2 →
        ∀ raw, json? raw = some envelope.json →
          ∃ stateType callback, callback? stateType = some callback ∧
            envelope.eventType = stateType.text ∧
            handleMessage json? raw =
              some (callback (some envelope.payload) (infoOf envelope)) ∧
            envelope.tenantID = (Broker.fieldsOf tenant product
              device).tenantID ∧
            payloadFields envelope.payload =
              some (Broker.fieldsOf tenant product device) := by
  have hcame :=
    (Broker.traced_of_reachable hreach).events _ hmem hdevice hremote
  refine hcame.imp ?_
  intro db tenant product device _ hnames out world formats topic
    envelope heffect raw hraw
  have habout := process_about hnames
    (Broker.trimmed_fieldsOf tenant product device) heffect
  obtain ⟨env, payload, -, htrace⟩ := body_of_process heffect
  rw [htrace] at heffect
  obtain ⟨stateType, time, body, id, hstate, rfl⟩ := body_publishes heffect
  obtain ⟨callback, hcallback⟩ := callback?_of_stateType? hstate
  exact ⟨stateType, callback, hcallback, rfl,
    handleMessage_of_json hcallback rfl hraw, habout⟩

end Devices

section Sample

open Broker

def isPublish : Effect → Bool
  | .publish _ _ => true
  | _ => false

/-- What the device of the run reports becomes a state event. -/
theorem lampRun_publishes : ∃ state client record topic envelope,
    (system Registry.acmeHandler plainEngine).run emptyBroker lampRun =
      some state ∧
    (client, record) ∈ state.events ∧ client.isSuperuser = false ∧
    client.peerHost ≠ "127.0.0.1" ∧
    .publish topic envelope ∈ (process calm sampleWorld FormatChecker.byShape
      (some record.value)).2 := by
  have hends : ((system Registry.acmeHandler plainEngine).run emptyBroker
      lampRun).any (fun state => state.events.any fun entry =>
        entry.1.isRemoteDevice &&
        (process calm sampleWorld FormatChecker.byShape
          (some entry.2.value)).2.any isPublish) = true := by
    decide +kernel
  rw [Option.any_eq_true] at hends
  obtain ⟨state, hrun, hends⟩ := hends
  simp only [List.any_eq_true, Bool.and_eq_true, ClientInfo.isRemoteDevice,
    Bool.not_eq_true', decide_eq_true_eq] at hends
  obtain ⟨⟨client, record⟩, hmem, ⟨hdevice, hremote⟩, effect, heffect,
    hpublish⟩ := hends
  cases effect with
  | publish topic envelope =>
      exact ⟨state, client, record, topic, envelope, hrun, hmem, hdevice,
        hremote, heffect⟩
  | _ => cases hpublish

theorem callbacks_name_their_device_lamp : ∃ state client record topic envelope,
    (system Registry.acmeHandler plainEngine).run emptyBroker lampRun =
      some state ∧
    (client, record) ∈ state.events ∧
    .publish topic envelope ∈ (process calm sampleWorld FormatChecker.byShape
      (some record.value)).2 ∧
    CameIn Registry.acmeHandler plainEngine state client
      fun tenant product device =>
        ∃ callback : Option Json → EnvelopeInfo → Callback,
        handleMessage some envelope.json =
          some (callback (some envelope.payload) (infoOf envelope)) ∧
        payloadFields envelope.payload =
          some (fieldsOf tenant product device) := by
  obtain ⟨state, client, record, topic, envelope, hrun, hmem, hdevice, hremote,
    heffect⟩ := lampRun_publishes
  have hreach : (system Registry.acmeHandler plainEngine).Reachable state :=
    Transition.System.Reachable.of_run (.start emptyBroker_init) hrun
  refine ⟨state, client, record, topic, envelope, hrun, hmem, heffect, ?_⟩
  refine (callbacks_name_their_device some hreach hmem hdevice hremote).imp ?_
  intro db tenant product device _ hnames
  obtain ⟨_, callback, -, -, hcallback, -, hfields⟩ :=
    hnames calm sampleWorld _ topic envelope heffect envelope.json rfl
  exact ⟨callback, hcallback, hfields⟩

end Sample

end EventInbox

end LinkFlow
