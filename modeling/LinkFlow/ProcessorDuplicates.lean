/-
What processing a message again does, after it has been acknowledged once and
anything else has happened in between.
-/
import LinkFlow.Lib.Transition
import LinkFlow.ProcessorBodies

namespace LinkFlow

namespace Processor

variable {out : Surroundings} {world : World} {env : Envelope}

/-- The effects that change no row and no key and send nothing. -/
def Effect.Quiet : Effect → Prop
  | .lookup _ _ _ | .cache _ _ _ => True
  | .insert _ _ | .update _ _ _ _ | .setOnline _ _ _ | .delOnline _ _
  | .publish _ _ | .downlink _ => False

def NoOp (trace : List Effect) : Prop :=
  ∀ effect ∈ trace, effect.Quiet

/-- Two worlds with the same rows, keys, state events and downlinks. -/
structure SameOutside (first second : World) : Prop where
  rows : first.rows = second.rows
  devices : first.devices = second.devices
  online : first.online = second.online
  stateTopic : first.stateTopic = second.stateTopic
  downlinks : first.downlinks = second.downlinks

theorem NoOp.sameOutside {trace : List Effect} (hnoop : NoOp trace) :
    SameOutside (world.applyAll trace) world := by
  induction trace generalizing world with
  | nil => exact ⟨rfl, rfl, rfl, rfl, rfl⟩
  | cons effect rest ih =>
      have hrest : SameOutside ((world.apply effect).applyAll rest)
          (world.apply effect) :=
        ih fun other hmem => hnoop other (List.mem_cons_of_mem effect hmem)
      have hquiet := hnoop effect List.mem_cons_self
      rw [World.applyAll_cons]
      cases effect with
      | lookup kind tenantID productID => exact hrest
      | cache kind key entry =>
          exact ⟨hrest.rows, hrest.devices, hrest.online, hrest.stateTopic,
            hrest.downlinks⟩
      | _ => exact hquiet.elim

theorem quiet_of_ofLookup {kind : ThingsModel.Section}
    {tenantID productID : String} {effect : Effect}
    (heffect : effect.OfLookup kind tenantID productID) : effect.Quiet := by
  rcases heffect with rfl | ⟨key, entry, rfl⟩ <;> trivial

section Runs

/-- What happens to the world: the processor handles a message, the backend
writes a devices row or a thing model, or a Redis key expires. -/
inductive Label where
  | process (message : Option Json) (out : Surroundings)
  | setDevice (deviceID : Uuid) (row : Option DeviceRow)
  | setModel (tenantID productID : Uuid) (model : Option StoredModel)
  | expire (key : String)

/-- The world, and the messages acknowledged so far. -/
structure History where
  world : World
  acked : List (Option Json)

def step (formats : FormatChecker) (history : History) : Label → Option History
  | .process message out =>
      let (result, trace) := process out history.world formats message
      some
        { world := history.world.applyAll trace
          acked := if result.decision = .ack then message :: history.acked
            else history.acked }
  | .setDevice deviceID row =>
      some { history with
        world := { history.world with
          devices := Function.update history.world.devices deviceID row } }
  | .setModel tenantID productID model =>
      some { history with
        world := { history.world with
          models := Function.update history.world.models tenantID
            (Function.update (history.world.models tenantID)
              productID model) } }
  | .expire key =>
      some { history with
        world := { history.world with
          online := Function.update history.world.online key none } }

def system (formats : FormatChecker) : Transition.System History Label where
  init history := history.acked = []
  step := step formats

end Runs

section Remembered

/-- The table and the id of the row that a payload's handler inserts. -/
def Payload.rowKey (env : Envelope) : Payload → Option (Table × String)
  | .propertyReported _ => some (.propertyReport, env.eventID)
  | .eventReported _ => some (.eventReport, env.eventID)
  | .propertySetRequested payload => some (.propertySet, payload.commandID)
  | .propertySetAcknowledged _ => some (.propertySetAck, env.eventID)
  | .serviceCallRequested payload => some (.serviceCall, payload.commandID)
  | .serviceCallAcknowledged _ => some (.serviceCallAck, env.eventID)
  | .connected _ | .disconnected _ => none

/-- The row of a payload is in its table. -/
def RowStored (world : World) (env : Envelope) (payload : Payload) : Prop :=
  ∀ table id, payload.rowKey env = some (table, id) → Stored world env table id

theorem rowStored_of_save {refused : List (Bool × String)} {insert : Insert}
    {payload : Payload} {trace : List Effect}
    (hkey : payload.rowKey env = some (insert.table, insert.id))
    (hok : (saveEvent out world env refused insert).outcome = .ok ())
    (hsubset : ∀ effect ∈ (saveEvent out world env refused insert).trace,
      effect ∈ trace) : RowStored (world.applyAll trace) env payload := by
  intro table id hother
  rw [hkey] at hother
  cases hother
  exact stored_after_save hok hsubset

/-- An acknowledged body has left its row. -/
theorem rowStored_of_ok {payload : Payload}
    (hok : (payload.body out world env).outcome = .ok ()) :
    RowStored (world.applyAll (payload.body out world env).trace) env
      payload := by
  cases payload with
  | propertyReported payload =>
      obtain ⟨validated, hvalidate, hsave, -⟩ := reportBody_ok hok
      exact rowStored_of_save rfl hsave fun effect hmem =>
        mem_trace_reportBody.mpr (Or.inr ⟨validated, hvalidate, Or.inl hmem⟩)
  | eventReported payload =>
      obtain ⟨validated, hvalidate, hsave, -⟩ := reportBody_ok hok
      exact rowStored_of_save rfl hsave fun effect hmem =>
        mem_trace_reportBody.mpr (Or.inr ⟨validated, hvalidate, Or.inl hmem⟩)
  | propertySetRequested payload =>
      obtain ⟨hsave, -⟩ := commandBody_ok hok
      exact rowStored_of_save rfl hsave fun effect hmem =>
        mem_trace_commandBody.mpr (Or.inl hmem)
  | serviceCallRequested payload =>
      obtain ⟨hsave, -⟩ := commandBody_ok hok
      exact rowStored_of_save rfl hsave fun effect hmem =>
        mem_trace_commandBody.mpr (Or.inl hmem)
  | propertySetAcknowledged payload =>
      have hsave := outcome_orRetry_eq_ok.mp hok
      exact rowStored_of_save rfl hsave fun effect hmem => hmem
  | serviceCallAcknowledged payload =>
      obtain ⟨validated, hvalidate, hsave⟩ := serviceCallBody_ok hok
      exact rowStored_of_save rfl hsave fun effect hmem =>
        mem_trace_serviceCallBody.mpr (Or.inr ⟨validated, hvalidate, hmem⟩)
  | connected payload => exact fun _ _ hkey => by cases hkey
  | disconnected payload => exact fun _ _ hkey => by cases hkey

/-- Rows stay, whatever happens to the world. -/
theorem RowStored.step {formats : FormatChecker} {history next : History}
    {label : Label} {payload : Payload}
    (hstored : RowStored history.world env payload)
    (hstep : step formats history label = some next) :
    RowStored next.world env payload := by
  intro table id hkey
  obtain ⟨uuid, time, huuid, htime, hrow⟩ := hstored table id hkey
  refine ⟨uuid, time, huuid, htime, ?_⟩
  cases label with
  | process message out =>
      cases hstep
      exact World.hasRow_applyAll _ hrow
  | setDevice deviceID row =>
      cases hstep
      exact hrow
  | setModel tenantID productID model =>
      cases hstep
      exact hrow
  | expire key =>
      cases hstep
      exact hrow

/-- What is known of a message that was acknowledged: its handler's body has
succeeded once, and its row is there. -/
def Remembered (formats : FormatChecker) (world : World)
    (message : Option Json) : Prop :=
  ∃ env eventType payload,
    validateEvent formats message = .ok (env, eventType) ∧
    Payload.decode eventType env.payload = some payload ∧
    RowStored world env payload ∧
    ∃ out world, (payload.body out world env).outcome = .ok ()

theorem process_ack_valid {formats : FormatChecker} {message : Option Json}
    (hack : (process out world formats message).1.decision = .ack) :
    ∃ env eventType, validateEvent formats message = .ok (env, eventType) := by
  rw [process] at hack
  split at hack
  · cases hack
  · split at hack
    · cases hack
    next env eventType hvalid => exact ⟨env, eventType, hvalid⟩

def AllRemembered (formats : FormatChecker) (history : History) : Prop :=
  ∀ message ∈ history.acked, Remembered formats history.world message

/-- Every acknowledged message is remembered, in every reachable state. -/
theorem allRemembered {formats : FormatChecker} {history : History}
    (hreach : (system formats).Reachable history) :
    AllRemembered formats history := by
  apply Transition.System.Reachable.invariant _ _ hreach
  · intro start hinit message hmem
    rw [hinit] at hmem
    cases hmem
  · intro history label next hall hstep message hmem
    have hkept : ∀ message ∈ history.acked,
        Remembered formats next.world message := by
      intro message hmem
      obtain ⟨env, eventType, payload, hvalid, hdecode, hstored, hok⟩ :=
        hall message hmem
      exact ⟨env, eventType, payload, hvalid, hdecode, hstored.step hstep, hok⟩
    cases label with
    | process handled out =>
        by_cases hack :
            (process out history.world formats handled).1.decision = .ack
        · simp only [system, step, if_pos hack, Option.some.injEq] at hstep
          subst hstep
          rcases List.mem_cons.mp hmem with hhead | htail
          · subst hhead
            obtain ⟨env, eventType, hvalid⟩ := process_ack_valid hack
            obtain ⟨hbegins, payload, hdecode, hok⟩ :=
              (process_ack_iff hvalid).mp hack
            refine ⟨env, eventType, payload, hvalid, hdecode, ?_, _, _, hok⟩
            rw [trace_process hvalid hbegins, hdecode]
            exact rowStored_of_ok hok
          · exact hkept message htail
        · simp only [system, step, if_neg hack, Option.some.injEq] at hstep
          subst hstep
          exact hkept message hmem
    | setDevice deviceID row =>
        cases hstep
        exact hkept message hmem
    | setModel tenantID productID model =>
        cases hstep
        exact hkept message hmem
    | expire key =>
        cases hstep
        exact hkept message hmem

end Remembered

section Again

/-- The row's statement is reached and carried out. -/
def SavesRow (out : Surroundings) : Prop :=
  out.ctxErr .save = none ∧ out.outcome .save = .ok

/-- The state event is reached and written. -/
def PublishesState (out : Surroundings) : Prop :=
  out.ctxErr .publisher = none ∧ out.outcome .send ≠ .failed ∧
    ∃ id, out.newID = .ok id

/-- The message to the device is reached and sent. -/
def ReachesDevice (out : Surroundings) : Prop :=
  out.ctxErr .mqtt = none ∧ out.outcome .emqx ≠ .failed

/-- The UPDATE is reached and carried out. -/
def ReachesDevices (out : Surroundings) : Prop :=
  out.ctxErr .connection = none ∧ out.outcome .update ≠ .failed

/-- Handling the payload once more gets as far as an effect that its row does
not guard: the state event of a report that the model in use accepts, the
message to the device, the UPDATE of a row that is no newer. -/
def ActsAgain (out : Surroundings) (world : World) (env : Envelope) :
    Payload → Prop
  | .propertyReported payload =>
      ModelAccepts out world .properties (trimSpace payload.tenantID)
          (trimSpace payload.productID)
          (propertyVerdict (payload.properties.getD GoMap.empty)) ∧
        SavesRow out ∧ PublishesState out
  | .eventReported payload =>
      ModelAccepts out world .events (trimSpace payload.tenantID)
          (trimSpace payload.productID)
          (eventVerdict (trimSpace payload.eventName)
            (payload.params.getD GoMap.empty)) ∧
        SavesRow out ∧ PublishesState out
  | .propertySetRequested _ | .serviceCallRequested _ =>
      SavesRow out ∧ ReachesDevice out
  | .propertySetAcknowledged _ | .serviceCallAcknowledged _ => False
  | .connected payload =>
      ReachesDevices out ∧ UpdatesRow world env .online payload.toDeviceFields
  | .disconnected payload =>
      ReachesDevices out ∧ UpdatesRow world env .offline payload.toDeviceFields

theorem tenant_of_publish {eventType : EventType} {payload : Json}
    (hok : (reportEvent out env eventType payload).outcome = .ok ()) :
    env.tenantID ≠ "" := by
  obtain ⟨id, hmem⟩ := publishEvent_ok hok
  exact (mem_trace_publishEvent.mp hmem).2.1

theorem noOp_reportEvent_iff {eventType : EventType} {payload : Json}
    (htenant : env.tenantID ≠ "") :
    NoOp (reportEvent out env eventType payload).trace ↔
      ¬ PublishesState out := by
  constructor
  · rintro hnoop ⟨hctx, hsend, id, hid⟩
    exact hnoop _ (mem_trace_publishEvent.mpr
      ⟨hctx, htenant, hsend, id, hid, rfl⟩)
  · intro hnot effect hmem
    obtain ⟨hctx, -, hsend, id, hid, -⟩ := mem_trace_publishEvent.mp hmem
    exact absurd ⟨hctx, hsend, id, hid⟩ hnot

/-- A report whose row is stored is quiet unless its state event is reached. -/
theorem noOp_reportBody_iff {accepts : Prop} {validate : Call Validated}
    {stop : Failure → Stop} {save : Validated → Call Unit}
    {eventType : EventType} {payload : Validated → Json}
    {saving publishing : String}
    (hlookups : ∀ effect ∈ validate.trace, effect.Quiet)
    (haccepts : (∃ validated, validate.outcome = .ok validated) ↔ accepts)
    (hstored : ∀ validated, (save validated).trace = [])
    (hsaves : ∀ validated, validate.outcome = .ok validated →
      ((save validated).outcome = .ok () ↔ SavesRow out))
    (htenant : env.tenantID ≠ "") :
    NoOp (reportBody out env validate stop saving save publishing eventType
        payload).trace ↔
      ¬ (accepts ∧ SavesRow out ∧ PublishesState out) := by
  rw [← haccepts]
  constructor
  · rintro hnoop ⟨⟨validated, hvalidate⟩, hsave, hpublish⟩
    have hquiet : NoOp
        (reportEvent out env eventType (payload validated)).trace :=
      fun effect hmem => hnoop effect (mem_trace_reportBody.mpr (Or.inr
        ⟨validated, hvalidate, Or.inr
          ⟨(hsaves validated hvalidate).mpr hsave, hmem⟩⟩))
    exact (noOp_reportEvent_iff htenant).mp hquiet hpublish
  · intro hnot effect hmem
    rcases mem_trace_reportBody.mp hmem with
      hmem | ⟨validated, hvalidate, hmem | ⟨hsave, hmem⟩⟩
    · exact hlookups effect hmem
    · rw [hstored validated] at hmem
      cases hmem
    · refine (noOp_reportEvent_iff htenant).mpr ?_ effect hmem
      exact fun hpublish => hnot ⟨⟨validated, hvalidate⟩,
        (hsaves validated hvalidate).mp hsave, hpublish⟩

/-- A command whose row is stored is quiet unless the device is reached. -/
theorem noOp_commandBody_iff {saving publishing : String}
    {save publish : Call Unit} (hstored : save.trace = [])
    (hsaves : save.outcome = .ok () ↔ SavesRow out)
    (hpublish : NoOp publish.trace ↔ ¬ ReachesDevice out) :
    NoOp (commandBody saving save publishing publish).trace ↔
      ¬ (SavesRow out ∧ ReachesDevice out) := by
  constructor
  · rintro hnoop ⟨hsave, hreach⟩
    refine hpublish.mp (fun effect hmem => ?_) hreach
    exact hnoop effect
      (mem_trace_commandBody.mpr (Or.inr ⟨hsaves.mpr hsave, hmem⟩))
  · intro hnot effect hmem
    rcases mem_trace_commandBody.mp hmem with hmem | ⟨hsave, hmem⟩
    · rw [hstored] at hmem
      cases hmem
    · exact hpublish.mpr (fun hreach => hnot ⟨hsaves.mp hsave, hreach⟩) effect
        hmem

/-- A connection event is quiet unless its UPDATE matches a row. -/
theorem noOp_connectionBody_iff {fields : DeviceFields}
    {status : Connection.Status} {marking context text reason : String}
    {mark : DeviceConnectionEvent → Call Bool}
    {redis : DeviceConnectionEvent → Effect}
    (hmark : ∀ input, mark input =
      markConnection out world input status marking (redis input)) :
    NoOp (connectionBody out env fields mark context text reason).trace ↔
      ¬ (ReachesDevices out ∧ UpdatesRow world env status fields) := by
  constructor
  · rintro hnoop ⟨⟨hctx, hupdate⟩, time, deviceID, tenantID, htime, hmatches⟩
    refine hnoop (.update deviceID tenantID ⟨status, time⟩ (out.clock .update))
      (mem_trace_connectionBody.mpr ⟨time, htime, Or.inl ?_⟩)
    rw [hmark]
    exact mem_trace_markConnection.mpr ⟨hctx, Or.inl
      (mem_trace_updateConnectionStatus.mpr
        ⟨hupdate, deviceID, tenantID, hmatches, rfl⟩)⟩
  · intro hnot effect hmem
    exfalso
    obtain ⟨time, htime, hmem⟩ := mem_trace_connectionBody.mp hmem
    have hdone : ∀ applied,
        (updateConnectionStatus out world (connectionInput fields time)
          status).outcome = .ok applied → applied = true →
        out.ctxErr .connection = none → False := by
      intro applied hok happlied hctx
      obtain ⟨hcarried, hrow⟩ := updateConnectionStatus_ok hok
      obtain ⟨deviceID, tenantID, hmatches⟩ := hrow.mp happlied
      exact hnot ⟨⟨hctx, by simp [hcarried]⟩, time, deviceID, tenantID, htime,
        hmatches⟩
    rw [hmark] at hmem
    rcases hmem with hmem | ⟨hmarked, -⟩
    · obtain ⟨hctx, hmem⟩ := mem_trace_markConnection.mp hmem
      rcases hmem with hmem | ⟨hok, -, -⟩
      · obtain ⟨hupdate, deviceID, tenantID, hmatches, -⟩ :=
          mem_trace_updateConnectionStatus.mp hmem
        exact hnot ⟨⟨hctx, hupdate⟩, time, deviceID, tenantID, htime, hmatches⟩
      · exact hdone true hok rfl hctx
    · obtain ⟨hctx, hok, -⟩ := markConnection_ok hmarked
      exact hdone true hok rfl hctx

/-- What made a statement savable once makes it savable again. -/
theorem save_ok_iff {refused : List (Bool × String)} {insert : Insert}
    (hsavable : Savable env refused insert) :
    (saveEvent out world env refused insert).outcome = .ok () ↔
      SavesRow out := by
  rw [outcome_saveEvent_eq_ok]
  exact ⟨fun hok => ⟨hok.1, hok.2.1⟩, fun hsave => ⟨hsave.1, hsave.2, hsavable⟩⟩

section Once

variable {once : Surroundings} {first : World}

theorem noOp_propertyReport_iff {payload : PropertyReportedPayload}
    (hstored : RowStored world env (.propertyReported payload))
    (hok : (propertyReportBody once first env payload).outcome = .ok ()) :
    NoOp (propertyReportBody out world env payload).trace ↔
      ¬ ActsAgain out world env (.propertyReported payload) := by
  obtain ⟨done, hdone, hsaved, hpublished⟩ := reportBody_ok hok
  have hrefused := (outcome_validateWith_eq_ok.mp hdone).2.1
  have hsavable := (outcome_saveEvent_eq_ok.mp hsaved).2.2
  rw [propertyReportBody]
  apply noOp_reportBody_iff
  · exact fun effect hmem =>
      quiet_of_ofLookup (mem_trace_validatePropertyReport hmem)
  · exact validateWith_accepts_iff hrefused
  · exact fun validated => trace_saveEvent_of_stored (hstored _ _ rfl)
  · intro validated hvalidate
    obtain ⟨-, -, -, definition, -, hverdict⟩ :=
      outcome_validateWith_eq_ok.mp hvalidate
    have hnonempty := (propertyVerdict_ok hverdict).2
    exact save_ok_iff ⟨by simp [hnonempty], hsavable.2⟩
  · exact tenant_of_publish hpublished

theorem noOp_eventReport_iff {payload : EventReportedPayload}
    (hstored : RowStored world env (.eventReported payload))
    (hok : (eventReportBody once first env payload).outcome = .ok ()) :
    NoOp (eventReportBody out world env payload).trace ↔
      ¬ ActsAgain out world env (.eventReported payload) := by
  obtain ⟨done, hdone, hsaved, hpublished⟩ := reportBody_ok hok
  have hrefused := (outcome_validateWith_eq_ok.mp hdone).2.1
  have hsavable := (outcome_saveEvent_eq_ok.mp hsaved).2.2
  rw [eventReportBody]
  apply noOp_reportBody_iff
  · exact fun effect hmem =>
      quiet_of_ofLookup (mem_trace_validateEventReport hmem)
  · exact validateWith_accepts_iff hrefused
  · exact fun validated => trace_saveEvent_of_stored (hstored _ _ rfl)
  · exact fun validated _ => save_ok_iff hsavable
  · exact tenant_of_publish hpublished

theorem noOp_propertySetRequested_iff {payload : PropertySetRequestedPayload}
    (hstored : RowStored world env (.propertySetRequested payload))
    (hok : (propertySetRequestedBody once first env payload).outcome = .ok ()) :
    NoOp (propertySetRequestedBody out world env payload).trace ↔
      ¬ ActsAgain out world env (.propertySetRequested payload) := by
  obtain ⟨hsaved, hpublished⟩ := commandBody_ok hok
  have hsavable := (outcome_saveEvent_eq_ok.mp hsaved).2.2
  obtain ⟨htopic, hproperties⟩ := publishPropertySet_ok hpublished
  rw [propertySetRequestedBody]
  apply noOp_commandBody_iff
  · exact trace_saveEvent_of_stored (hstored _ _ rfl)
  · exact save_ok_iff hsavable
  · constructor
    · rintro hnoop ⟨hctx, hsent⟩
      exact hnoop _ (mem_trace_publishPropertySet.mpr
        ⟨hctx, hsent, htopic, hproperties, rfl⟩)
    · intro hnot effect hmem
      obtain ⟨hctx, hsent, -⟩ := mem_trace_publishPropertySet.mp hmem
      exact absurd ⟨hctx, hsent⟩ hnot

theorem noOp_serviceCallRequested_iff {payload : ServiceCallRequestedPayload}
    (hstored : RowStored world env (.serviceCallRequested payload))
    (hok : (serviceCallRequestedBody once first env payload).outcome = .ok ()) :
    NoOp (serviceCallRequestedBody out world env payload).trace ↔
      ¬ ActsAgain out world env (.serviceCallRequested payload) := by
  obtain ⟨hsaved, hpublished⟩ := commandBody_ok hok
  have hsavable := (outcome_saveEvent_eq_ok.mp hsaved).2.2
  have htopic := publishServiceCall_ok hpublished
  rw [serviceCallRequestedBody]
  apply noOp_commandBody_iff
  · exact trace_saveEvent_of_stored (hstored _ _ rfl)
  · exact save_ok_iff hsavable
  · constructor
    · rintro hnoop ⟨hctx, hsent⟩
      exact hnoop _ (mem_trace_publishServiceCall.mpr
        ⟨hctx, hsent, htopic, rfl⟩)
    · intro hnot effect hmem
      obtain ⟨hctx, hsent, -⟩ := mem_trace_publishServiceCall.mp hmem
      exact absurd ⟨hctx, hsent⟩ hnot

/-- An acknowledgement whose row is stored is quiet. -/
theorem noOp_serviceCall {payload : ServiceCallAcknowledgedPayload}
    (hstored : RowStored world env (.serviceCallAcknowledged payload)) :
    NoOp (serviceCallBody out world env payload).trace := by
  intro effect hmem
  rcases mem_trace_serviceCallBody.mp hmem with hmem | ⟨validated, -, hmem⟩
  · exact quiet_of_ofLookup (mem_trace_validateServiceCall hmem)
  · have hquiet : (saveServiceCallAcknowledgement out world env
        { payload with output := some validated.accepted }).trace = [] :=
      trace_saveEvent_of_stored (hstored _ _ rfl)
    rw [hquiet] at hmem
    cases hmem

/-- A body that has succeeded once and whose row is there does nothing, unless
it reaches an effect that the row does not guard. -/
theorem noOp_body_iff {payload : Payload}
    (hstored : RowStored world env payload)
    (hok : (payload.body once first env).outcome = .ok ()) :
    NoOp (payload.body out world env).trace ↔
      ¬ ActsAgain out world env payload := by
  cases payload with
  | propertyReported payload => exact noOp_propertyReport_iff hstored hok
  | eventReported payload => exact noOp_eventReport_iff hstored hok
  | propertySetRequested payload =>
      exact noOp_propertySetRequested_iff hstored hok
  | serviceCallRequested payload =>
      exact noOp_serviceCallRequested_iff hstored hok
  | propertySetAcknowledged payload =>
      refine iff_of_true (fun effect hmem => ?_) not_false
      have hquiet : (Payload.body out world env
          (.propertySetAcknowledged payload)).trace = [] :=
        trace_saveEvent_of_stored (hstored _ _ rfl)
      rw [hquiet] at hmem
      cases hmem
  | serviceCallAcknowledged payload =>
      exact iff_of_true (noOp_serviceCall hstored) not_false
  | connected payload => exact noOp_connectionBody_iff fun _ => rfl
  | disconnected payload => exact noOp_connectionBody_iff fun _ => rfl

end Once

end Again

/-- Processing a message again, in any state reached after it was acknowledged,
does nothing exactly when its handling is stopped before an effect that no row
guards. -/
theorem duplicate_no_op_iff (formats : FormatChecker) {history : History}
    (hreach : (system formats).Reachable history) {message : Option Json}
    (hacked : message ∈ history.acked) (out : Surroundings) :
    (NoOp (process out history.world formats message).2 ∧
      SameOutside (history.world.applyAll
        (process out history.world formats message).2) history.world) ↔
      ∀ env eventType payload,
        validateEvent formats message = .ok (env, eventType) →
        Payload.decode eventType env.payload = some payload →
        ¬ (Begins out ∧ ActsAgain out history.world env payload) := by
  have hnoop : (NoOp (process out history.world formats message).2 ∧
      SameOutside (history.world.applyAll
        (process out history.world formats message).2) history.world) ↔
      NoOp (process out history.world formats message).2 :=
    and_iff_left_of_imp NoOp.sameOutside
  rw [hnoop]
  obtain ⟨env, eventType, payload, hvalid, hdecode, hstored,
    once, first, hok⟩ :=
    allRemembered hreach message hacked
  have hcondition : (∀ env eventType payload,
      validateEvent formats message = .ok (env, eventType) →
      Payload.decode eventType env.payload = some payload →
      ¬ (Begins out ∧ ActsAgain out history.world env payload)) ↔
      ¬ (Begins out ∧ ActsAgain out history.world env payload) := by
    constructor
    · intro hall
      exact hall env eventType payload hvalid hdecode
    · intro hnot env' eventType' payload' hvalid' hdecode'
      rw [hvalid] at hvalid'
      cases hvalid'
      rw [hdecode] at hdecode'
      cases hdecode'
      exact hnot
  rw [hcondition]
  by_cases hbegins : Begins out
  · rw [trace_process hvalid hbegins, hdecode]
    simp only [Option.map_some, Option.getD_some, hbegins, true_and]
    exact noOp_body_iff hstored hok
  · rw [trace_process_of_not_begins hvalid hbegins]
    exact iff_of_true (fun effect hmem => by cases hmem)
      fun hacts => hbegins hacts.1

/-- The world after a first, calm processing of a message. -/
def afterOnce (message : Option Json) : History where
  world := sampleWorld.applyAll
    (process calm sampleWorld FormatChecker.byShape message).2
  acked := [message]

theorem reachable_afterOnce {message : Option Json}
    (hack : (process calm sampleWorld FormatChecker.byShape
      message).1.decision = .ack) :
    (system FormatChecker.byShape).Reachable (afterOnce message) := by
  have hstart : (system FormatChecker.byShape).Reachable ⟨sampleWorld, []⟩ :=
    .start rfl
  have hstep : (system FormatChecker.byShape).step ⟨sampleWorld, []⟩
      (.process message calm) = some (afterOnce message) := by
    simp only [system, step, if_pos hack, afterOnce]
  exact hstart.next hstep

/-- The answer of a device to a command. -/
def sampleAcknowledgement : Envelope :=
  sampleEvent .propertySetAcknowledged (Uuid.text 1) [("success", .bool true)]

theorem duplicate_no_op_acknowledgement :
    NoOp (process calm (afterOnce (some sampleAcknowledgement.json)).world
      FormatChecker.byShape (some sampleAcknowledgement.json)).2 := by
  have hreach : (system FormatChecker.byShape).Reachable
      (afterOnce (some sampleAcknowledgement.json)) := reachable_afterOnce rfl
  refine ((duplicate_no_op_iff FormatChecker.byShape hreach
    (List.mem_singleton_self _) calm).mpr ?_).1
  intro env eventType payload hvalid hdecode hacts
  have hsample : validateEvent FormatChecker.byShape
      (some sampleAcknowledgement.json) =
        .ok (sampleAcknowledgement, .propertySetAcknowledged) := rfl
  rw [hsample] at hvalid
  cases hvalid
  cases hdecode
  exact hacts.2

/-- A request of the backend that sets the switch. -/
def sampleRequest : Envelope :=
  sampleEvent .propertySetRequested (Uuid.text 1)
    [("command_id", .str (Uuid.text 11)), ("topic", .str "t"),
      ("properties", .obj [("led", .bool true)]),
      ("requested_by", .str (Uuid.text 12))]

/-- Delivered twice, a request reaches the device twice. -/
theorem duplicate_request_sent_again :
    (system FormatChecker.byShape).Reachable
        (afterOnce (some sampleRequest.json)) ∧
      some sampleRequest.json ∈ (afterOnce (some sampleRequest.json)).acked ∧
      ¬ NoOp (process calm (afterOnce (some sampleRequest.json)).world
        FormatChecker.byShape (some sampleRequest.json)).2 := by
  refine ⟨reachable_afterOnce rfl, List.mem_singleton_self _, fun hnoop => ?_⟩
  exact hnoop (.downlink ⟨"t", .obj [("command_id", .str (Uuid.text 11)),
    ("properties", .obj [("led", .bool true)])], 1, false⟩)
    (List.mem_of_mem_head? rfl)

end Processor

end LinkFlow
