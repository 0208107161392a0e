/-
Which messages are asked for again while everything answers.  A handler drops
the errors on its list and retries every other one, whether or not it would come
back.
-/
import LinkFlow.ProcessorContract

namespace LinkFlow

mutual

/-- A text of the value, or a name in it, has the character NUL, which a `jsonb`
column refuses. -/
def Json.hasNul : Json → Bool
  | .str value => '\u0000' ∈ value.toList
  | .arr items => Json.anyNul items
  | .obj members => Json.anyMemberNul members
  | .null | .bool _ | .num _ _ => false

def Json.anyNul : List Json → Bool
  | [] => false
  | item :: rest => item.hasNul || Json.anyNul rest

def Json.anyMemberNul : List (String × Json) → Bool
  | [] => false
  | (name, value) :: rest =>
      '\u0000' ∈ name.toList || value.hasNul || Json.anyMemberNul rest

end

namespace Processor

open ThingsModel

section Retries

variable {α β : Type}

/-- The body asks for a retry. -/
def Retries (body : Body α) : Prop := ∃ err, body.outcome = .error (.retry err)

/-- The call ends with an error. -/
def Fails (call : Call α) : Prop := ∃ err, call.outcome = .error err

theorem not_fails_iff {call : Call α} :
    ¬ Fails call ↔ ∃ value, call.outcome = .ok value := by
  rw [Fails]
  cases call.outcome <;> simp

theorem retries_bind {first : Body α} {next : α → Body β} :
    Retries (first >>= next) ↔
      Retries first ∨ ∃ value, first.outcome = .ok value ∧
      Retries (next value) := by
  unfold Retries
  obtain ⟨trace, outcome⟩ := first
  cases outcome with
  | error stop => simp [bind]
  | ok value => simp [bind]

theorem retries_bind_of_not {first : Body α} {next : α → Body β}
    (hnext : ∀ value, ¬ Retries (next value)) :
    Retries (first >>= next) ↔ Retries first := by
  rw [retries_bind]
  exact or_iff_left fun ⟨value, _, hretries⟩ => hnext value hretries

@[simp] theorem not_retries_pure {value : α} :
    ¬ Retries (pure value : Body α) := by
  rintro ⟨err, herr⟩
  cases herr

/-- An error wrapped for a retry, whatever it was. -/
theorem retries_orRetry {context : String} {call : Call α} :
    Retries (orRetry context call) ↔ Fails call := by
  rw [Retries, Fails]
  change (∃ err,
    call.outcome.mapError (fun err => Stop.retry (.wrap context err)) =
    .error (.retry err)) ↔ _
  cases call.outcome <;> simp [Except.mapError]

/-- A switch on an error asks for a retry on those it has no case for. -/
theorem retries_mapStop {stop : Failure → Stop} {call : Call α} :
    Retries (call.mapStop stop) ↔
      ∃ err, call.outcome = .error err ∧ (stop err).decision = .retry := by
  rw [Retries]
  change (∃ err, call.outcome.mapError stop = .error (.retry err)) ↔ _
  cases call.outcome with
  | ok value => simp [Except.mapError]
  | error err =>
      cases hstop : stop err <;> simp [Except.mapError, hstop, Stop.decision]

/-- A call whose errors are retried, and what follows it. -/
theorem retries_orRetry_bind {context : String} {call : Call Unit}
    {next : Body β} :
    Retries (orRetry context call >>= fun _ => next) ↔
      Fails call ∨ Retries next := by
  rw [retries_bind, retries_orRetry]
  by_cases hfails : Fails call
  · simp only [hfails, true_or]
  · obtain ⟨value, hvalue⟩ := not_fails_iff.mp hfails
    have hok : (orRetry context call).outcome = .ok value :=
      outcome_orRetry_eq_ok.mpr hvalue
    simp only [hfails, hok, false_or, exists_const, true_and]

theorem fails_bind {first : Call α} {next : α → Call β} :
    Fails (first >>= next) ↔
      Fails first ∨ ∃ value, first.outcome = .ok value ∧
      Fails (next value) := by
  unfold Fails
  obtain ⟨trace, outcome⟩ := first
  cases outcome <;> simp [bind]

end Retries

variable {out : Surroundings} {world : World} {jsonb : List Json}

/-- The context is live and nothing is down: Postgres, Redis, Kafka and EMQX
answer, and a statement is refused exactly when a value of a `jsonb` column has
a NUL. -/
structure Answers (out : Surroundings) (jsonb : List Json) : Prop where
  live : ∀ stage, out.ctxErr stage = none
  newID : ∃ id, out.newID = .ok id
  up : ∀ stage, stage ≠ .save → out.outcome stage = .ok
  save : out.outcome .save = if jsonb.any Json.hasNul then .failed else .ok

section Calls

variable {stage : Stage} {stop : Failure → Stop}

theorem Answers.checkCtx (hanswers : Answers out jsonb) :
    out.checkCtx stage = pure () := by
  rw [Surroundings.checkCtx]
  rw [hanswers.live]

theorem Answers.command (hanswers : Answers out jsonb) (hstage : stage ≠ .save)
    {context : String} {effects : List Effect} :
    out.command stage context effects = ⟨effects, .ok ()⟩ := by
  rw [Surroundings.command]
  rw [hanswers.up stage hstage]

theorem Answers.save_ok_iff (hanswers : Answers out jsonb) :
    out.outcome .save = .ok ↔ jsonb.any Json.hasNul = false := by
  rw [hanswers.save]
  cases jsonb.any Json.hasNul <;> simp

theorem fails_saveEvent (hanswers : Answers out jsonb) {env : Envelope}
    {refused : List (Bool × String)} {insert : Insert} :
    Fails (saveEvent out world env refused insert) ↔
      ¬ (Savable env refused insert ∧ jsonb.any Json.hasNul = false) := by
  rw [← not_iff_not, not_not, not_fails_iff, Unique.exists_iff]
  exact outcome_saveEvent_eq_ok.trans (by
    rw [hanswers.live, hanswers.save_ok_iff]
    simp only [true_and, and_comm])

theorem fails_publishEvent (hanswers : Answers out jsonb)
    {eventType : EventType} {tenantID causationID : String} {occurredAt : Int}
    {payload : Json} :
    Fails (publishEvent out eventType tenantID causationID occurredAt payload) ↔
      tenantID = "" := by
  obtain ⟨id, hid⟩ := hanswers.newID
  rw [publishEvent]
  rw [hanswers.checkCtx, fails_bind]
  by_cases htenant : tenantID = ""
  · simp [Fails, htenant]
  · simp [Fails, htenant, hid, hanswers.command]

theorem fails_publishPropertySet (hanswers : Answers out jsonb)
    {payload : PropertySetRequestedPayload} :
    Fails (publishPropertySet out payload) ↔
      trimSpace payload.topic = "" ∨
        (payload.properties.getD GoMap.empty).isEmpty = true := by
  rw [publishPropertySet, callEMQX]
  rw [hanswers.checkCtx, hanswers.command (by decide), fails_bind]
  by_cases htopic : trimSpace payload.topic = ""
  · simp [Fails, htopic]
  · cases (payload.properties.getD GoMap.empty).isEmpty <;>
      simp [Fails, htopic]

theorem fails_publishServiceCall (hanswers : Answers out jsonb)
    {payload : ServiceCallRequestedPayload} :
    Fails (publishServiceCall out payload) ↔ trimSpace payload.topic = "" := by
  rw [publishServiceCall, callEMQX]
  rw [hanswers.checkCtx, hanswers.command (by decide), fails_bind]
  by_cases htopic : trimSpace payload.topic = "" <;> simp [Fails, htopic]

theorem fails_markConnection (hanswers : Answers out jsonb)
    {input : DeviceConnectionEvent} {status : Connection.Status}
    {context : String} {redis : Effect} :
    Fails (markConnection out world input status context redis) ↔
      ¬ ((Uuid.ofText? input.deviceID).isSome = true ∧
        (Uuid.ofText? input.tenantID).isSome = true) := by
  rw [markConnection, updateConnectionStatus]
  rw [hanswers.checkCtx, hanswers.command (by decide : Stage.redis ≠ .save)]
  simp only [fails_bind, hanswers.command (by decide : Stage.update ≠ .save)]
  cases Uuid.ofText? input.deviceID with
  | none => simp [Fails]
  | some deviceID =>
      cases Uuid.ofText? input.tenantID with
      | none => simp [Fails]
      | some tenantID =>
          cases hmatched : world.matchedRow deviceID tenantID
            ⟨status, input.occurredAt⟩ <;> simp [Fails, hmatched, bind]

end Calls

section Validators

variable {kind : ThingsModel.Section} {tenantID productID : String}
  {stop : Failure → Stop} {verdict : Definition → Except Failure Validated}

/-- The reader finds a model it can read, or finds none. -/
def ModelSettles (world : World) (tenantID productID : String) : Prop :=
  ∃ tenant product, Uuid.ofText? tenantID = some tenant ∧
    Uuid.ofText? productID = some product ∧
    ∀ model, world.models tenant product = some model →
      ∃ definition, parseDefinition tenantID productID model.properties
        model.events model.services = .ok definition

/-- A fresh definition is cached, or the reader is not asked in vain. -/
def LookupSettles (out : Surroundings) (world : World)
    (kind : ThingsModel.Section) (tenantID productID : String) : Prop :=
  (freshEntry out world kind tenantID productID).isSome = true ∨
    ModelSettles world tenantID productID

/-- What a validator keeps, where the definition in use accepts the values. -/
def kept (out : Surroundings) (world : World) (kind : ThingsModel.Section)
    (tenantID productID : String)
    (verdict : Definition → Except Failure Validated) : Option Validated :=
  (definitionInUse out world kind tenantID productID).bind fun definition =>
    (verdict definition).toOption

/-- A handler's switch on the error of its validator: a model that is not there
and what the verdict refuses are dropped, everything else is asked for again. -/
structure Sorts (stop : Failure → Stop)
    (verdict : Definition → Except Failure Validated) : Prop where
  notFound : (stop .thingsModelNotFound).decision = .drop
  text : ∀ message, (stop (.text message)).decision = .retry
  wrap : ∀ context err, (stop (.wrap context err)).decision = .retry
  definition : ∀ err, (stop (.definition err)).decision = .retry
  refused : ∀ definition err, verdict definition = .error err →
    (stop err).decision = .drop

theorem retries_findCurrent (hanswers : Answers out jsonb)
    (hsorts : Sorts stop verdict) :
    Retries ((findCurrentByProductID out world tenantID productID).mapStop
        stop) ↔ ¬ ModelSettles world tenantID productID := by
  rw [findCurrentByProductID, ModelSettles]
  simp only [retries_mapStop, hanswers.checkCtx,
    hanswers.command (by decide : Stage.reader ≠ .save)]
  cases Uuid.ofText? tenantID with
  | none => simp [bind, hsorts.wrap]
  | some tenant =>
      cases Uuid.ofText? productID with
      | none => simp [bind, hsorts.wrap]
      | some product =>
          cases hmodel : world.models tenant product with
          | none => simp [bind, hmodel, hsorts.notFound]
          | some model =>
              cases hparse : parseDefinition tenantID productID model.properties
                model.events model.services with
              | ok definition =>
                  simp [bind, hmodel, hparse, Except.mapError]
              | error err =>
                  simp [bind, hmodel, hparse, Except.mapError,
                    hsorts.definition]

theorem retries_lookup (hanswers : Answers out jsonb)
    (hsorts : Sorts stop verdict) :
    Retries ((lookup out world kind tenantID productID).mapStop stop) ↔
      ¬ LookupSettles out world kind tenantID productID := by
  rw [lookup, LookupSettles, freshEntry]
  simp only [Traced.mapStop_bind, retries_bind]
  cases ((world.caches kind (cacheKey tenantID productID)).filter fun entry =>
      out.clock .cacheRead < entry.expiresAt) with
  | some entry => simp [retries_mapStop]
  | none =>
      simp only [Traced.mapStop_bind, retries_bind,
        retries_findCurrent hanswers hsorts]
      simp [retries_mapStop]

theorem retries_validateWith (hanswers : Answers out jsonb)
    (hsorts : Sorts stop verdict) {refused : Option Failure} :
    Retries ((validateWith out world kind refused tenantID productID
        verdict).mapStop stop) ↔
      (∃ err, refused = some err ∧ (stop err).decision = .retry) ∨
        refused = none ∧ ¬ LookupSettles out world kind tenantID productID := by
  unfold validateWith
  simp only [Traced.mapStop_bind, retries_bind, hanswers.checkCtx]
  cases refused with
  | some err => simp [retries_mapStop]
  | none =>
      have hverdict : ∀ definition, ¬ Retries
          ((Traced.lift (verdict definition) : Call Validated).mapStop
            stop) := by
        intro definition hretries
        obtain ⟨err, herr, hretry⟩ := retries_mapStop.mp hretries
        rw [hsorts.refused definition err herr] at hretry
        cases hretry
      simp [Traced.mapStop_bind, retries_bind, hverdict, retries_mapStop,
        ← retries_lookup hanswers hsorts]

theorem outcome_validateWith_eq_kept (hanswers : Answers out jsonb)
    {refused : Option Failure} {validated : Validated} :
    (validateWith out world kind refused tenantID productID verdict).outcome =
        .ok validated ↔
      refused = none ∧
        kept out world kind tenantID productID verdict = some validated := by
  have hreads : ReadsModel out world kind tenantID productID :=
    Or.inr ⟨hanswers.live .reader, hanswers.up .reader (by decide)⟩
  rw [outcome_validateWith_eq_ok]
  simp only [hanswers.live, hreads, true_and, kept, Option.bind_eq_some_iff]
  refine and_congr_right fun _ => exists_congr fun definition =>
    and_congr_right fun _ => ?_
  cases verdict definition <;> simp [Except.toOption]

end Validators

section Bodies

variable {env : Envelope}

/-- Every text is left with something once trimmed. -/
def Named (texts : List String) : Prop := ∀ text ∈ texts, trimSpace text ≠ ""

/-- The time of the event and these ids can be read. -/
def Storable (env : Envelope) (ids : List String) : Prop :=
  (parseRFC3339Nano env.occurredAt).isSome = true ∧
    ∀ id ∈ ids, (Uuid.ofText? id).isSome = true

/-- The two ids an UPDATE casts. -/
def DeviceNamed (fields : DeviceFields) : Prop :=
  (Uuid.ofText? fields.deviceID).isSome = true ∧
    (Uuid.ofText? fields.tenantID).isSome = true

def keptProperties (out : Surroundings) (world : World)
    (payload : PropertyReportedPayload) : Option Validated :=
  kept out world .properties (trimSpace payload.tenantID)
    (trimSpace payload.productID)
    (propertyVerdict (payload.properties.getD GoMap.empty))

def keptParams (out : Surroundings) (world : World)
    (payload : EventReportedPayload) : Option Validated :=
  kept out world .events (trimSpace payload.tenantID)
    (trimSpace payload.productID)
    (eventVerdict (trimSpace payload.eventName)
      (payload.params.getD GoMap.empty))

def keptOutput (out : Surroundings) (world : World)
    (payload : ServiceCallAcknowledgedPayload) : Option Validated :=
  kept out world .services (trimSpace payload.tenantID)
    (trimSpace payload.productID)
    (serviceVerdict (trimSpace payload.serviceName)
      (payload.output.getD GoMap.empty))

namespace Payload

/-- The values for the `jsonb` columns of the statement of this payload. -/
def jsonbValues (out : Surroundings) (world : World) : Payload → List Json
  | propertyReported payload =>
      (keptProperties out world payload).elim [] fun validated =>
        [.ofMap validated.accepted, emptyMapAsNil payload.raw]
  | propertySetRequested payload => [.ofMap? payload.properties]
  | propertySetAcknowledged payload =>
      [.ofMap (payload.properties.getD GoMap.empty),
        emptyMapAsNil (some (payload.raw.getD GoMap.empty))]
  | connected _ | disconnected _ => []
  | eventReported payload =>
      (keptParams out world payload).elim [] fun validated =>
        [.ofMap validated.accepted, emptyMapAsNil payload.raw]
  | serviceCallRequested payload =>
      [.ofMap (payload.input.getD GoMap.empty)]
  | serviceCallAcknowledged payload =>
      (keptOutput out world payload).elim [] fun validated =>
        [.ofMap validated.accepted, emptyMapAsNil payload.raw]

/-- Nothing about the payload fails that its handler does not drop. -/
def Settles (out : Surroundings) (world : World) (env : Envelope) :
    Payload → Prop
  | propertyReported payload =>
      Named [payload.tenantID, payload.productID] ∧
        ((payload.properties.getD GoMap.empty).isEmpty = true ∨
          LookupSettles out world .properties (trimSpace payload.tenantID)
            (trimSpace payload.productID)) ∧
        ((keptProperties out world payload).isSome = true →
          Storable env (env.eventID :: uuidOrNull env.causationID))
  | propertySetRequested payload =>
      (payload.properties.getD GoMap.empty).isEmpty = false ∧
        Storable env [payload.commandID, payload.requestedBy] ∧
        Named [payload.topic]
  | propertySetAcknowledged payload =>
      Storable env (env.eventID ::
        (uuidOrNull payload.commandID ++ uuidOrNull env.causationID))
  | connected payload =>
      (parseRFC3339Nano env.occurredAt).isSome = true →
        DeviceNamed payload.toDeviceFields
  | disconnected payload =>
      (parseRFC3339Nano env.occurredAt).isSome = true →
        DeviceNamed payload.toDeviceFields
  | eventReported payload =>
      Named [payload.tenantID, payload.productID, payload.eventName] ∧
        LookupSettles out world .events (trimSpace payload.tenantID)
          (trimSpace payload.productID) ∧
        ((keptParams out world payload).isSome = true →
          Storable env (env.eventID :: uuidOrNull env.causationID))
  | serviceCallRequested payload =>
      payload.serviceName ≠ "" ∧
        Storable env [payload.commandID, payload.requestedBy] ∧
        Named [payload.topic]
  | serviceCallAcknowledged payload =>
      Named [payload.tenantID, payload.productID, payload.serviceName] ∧
        LookupSettles out world .services (trimSpace payload.tenantID)
          (trimSpace payload.productID) ∧
        ((keptOutput out world payload).isSome = true →
          Storable env
            (env.eventID :: payload.commandID :: uuidOrNull env.causationID))

end Payload

theorem savable_iff {refused : List (Bool × String)} {insert : Insert} :
    Savable env refused insert ↔
      refused.find? Prod.fst = none ∧
        Storable env (insert.id :: insert.uuids) := by
  simp [Savable, Storable]

theorem not_fails_saveEvent (hanswers : Answers out jsonb)
    {refused : List (Bool × String)} {insert : Insert}
    (hrefused : Storable env (insert.id :: insert.uuids) →
      refused.find? Prod.fst = none) :
    ¬ Fails (saveEvent out world env refused insert) ↔
      Storable env (insert.id :: insert.uuids) ∧
        jsonb.any Json.hasNul = false := by
  rw [fails_saveEvent hanswers, not_not, savable_iff,
    and_iff_right_of_imp hrefused]

theorem ne_empty_of_named {text : String} (hnamed : trimSpace text ≠ "") :
    text ≠ "" := by
  rintro rfl
  exact hnamed rfl

theorem ne_empty_of_isSome {text : String}
    (hsome : (Uuid.ofText? text).isSome = true) : text ≠ "" := by
  rintro rfl
  exact absurd hsome (by decide)

/-- The payload is settled, and Postgres takes what its statement stores. -/
def Payload.Passes (out : Surroundings) (world : World) (env : Envelope)
    (payload : Payload) : Prop :=
  payload.Settles out world env ∧
    (payload.jsonbValues out world).any Json.hasNul = false

section Requests

theorem passes_propertySetRequested {payload : PropertySetRequestedPayload}
    (hanswers : Answers out
      ((Payload.propertySetRequested payload).jsonbValues out world)) :
    ¬ Retries (propertySetRequestedBody out world env payload) ↔
      (Payload.propertySetRequested payload).Passes out world env := by
  rw [propertySetRequestedBody, commandBody, savePropertySetRequest]
  rw [retries_orRetry_bind, retries_orRetry, fails_saveEvent hanswers,
    fails_publishPropertySet hanswers, savable_iff]
  simp only [not_or, not_not, Payload.Passes, Payload.Settles, Named,
    List.forall_mem_singleton, Bool.not_eq_true]
  constructor
  · rintro ⟨⟨⟨-, hstorable⟩, hnul⟩, htopic, hempty⟩
    exact ⟨⟨hempty, hstorable, htopic⟩, hnul⟩
  · rintro ⟨⟨hempty, hstorable, htopic⟩, hnul⟩
    have hcommand := ne_empty_of_isSome (hstorable.2 _ List.mem_cons_self)
    exact ⟨⟨⟨by simp [hcommand, hempty], hstorable⟩, hnul⟩, htopic, hempty⟩

theorem passes_serviceCallRequested {payload : ServiceCallRequestedPayload}
    (hanswers : Answers out
      ((Payload.serviceCallRequested payload).jsonbValues out world)) :
    ¬ Retries (serviceCallRequestedBody out world env payload) ↔
      (Payload.serviceCallRequested payload).Passes out world env := by
  rw [serviceCallRequestedBody, commandBody, saveServiceCallRequest]
  rw [retries_orRetry_bind, retries_orRetry, fails_saveEvent hanswers,
    fails_publishServiceCall hanswers, savable_iff]
  simp only [not_or, not_not, Payload.Passes, Payload.Settles, Named,
    List.forall_mem_singleton]
  constructor
  · rintro ⟨⟨⟨hrefused, hstorable⟩, hnul⟩, htopic⟩
    have hcommand := ne_empty_of_isSome (hstorable.2 _ List.mem_cons_self)
    refine ⟨⟨?_, hstorable, htopic⟩, hnul⟩
    intro hservice
    simp [hcommand, hservice] at hrefused
  · rintro ⟨⟨hservice, hstorable, htopic⟩, hnul⟩
    have hcommand := ne_empty_of_isSome (hstorable.2 _ List.mem_cons_self)
    exact ⟨⟨⟨by simp [hcommand, hservice], hstorable⟩, hnul⟩, htopic⟩

theorem passes_propertySetAcknowledged
    {payload : PropertySetAcknowledgedPayload}
    (hanswers : Answers out
      ((Payload.propertySetAcknowledged payload).jsonbValues out world)) :
    ¬ Retries (propertySetBody out world env payload) ↔
      (Payload.propertySetAcknowledged payload).Passes out world env := by
  rw [propertySetBody, savePropertySetAcknowledgement]
  rw [retries_orRetry, fails_saveEvent hanswers, savable_iff, not_not]
  simp only [List.find?_nil, true_and, Payload.Passes, Payload.Settles]

end Requests

section Connections

variable {fields : DeviceFields}

/-- A time that cannot be read is dropped before the rows are asked. -/
theorem settles_connectionBody (hanswers : Answers out jsonb)
    (htenant : env.tenantID ≠ "") {mark : DeviceConnectionEvent → Call Bool}
    (hmark : ∀ input, Fails (mark input) ↔
      ¬ ((Uuid.ofText? input.deviceID).isSome = true ∧
        (Uuid.ofText? input.tenantID).isSome = true))
    {context status reason : String} :
    ¬ Retries (connectionBody out env fields mark context status reason) ↔
      ((parseRFC3339Nano env.occurredAt).isSome = true →
        DeviceNamed fields) := by
  rw [connectionBody, parseOccurredAt]
  cases parseRFC3339Nano env.occurredAt with
  | none => simp [retries_bind, retries_mapStop, Stop.decision]
  | some occurredAt =>
      have hpublish : ∀ payload, ¬ Fails (publishEvent out .connectionChanged
          env.tenantID env.eventID occurredAt payload) := by
        intro payload hfails
        exact htenant ((fails_publishEvent hanswers).mp hfails)
      have hmapped : Traced.mapStop (fun err => Stop.drop err)
          (pure occurredAt : Call Int) = pure occurredAt := rfl
      rw [hmapped, retries_bind]
      simp only [not_retries_pure, false_or, Traced.outcome_pure,
        Except.ok.injEq, exists_eq_left']
      rw [retries_bind_of_not, retries_orRetry, hmark]
      · simp only [not_not, Option.isSome_some, forall_const, DeviceNamed]
      · intro applied
        cases applied with
        | false => exact not_retries_pure
        | true => exact fun hretries => hpublish _ (retries_orRetry.mp hretries)

theorem passes_connected {payload : ConnectedPayload}
    (hanswers : Answers out jsonb) (htenant : env.tenantID ≠ "") :
    ¬ Retries (connectedBody out world env payload) ↔
      (Payload.connected payload).Passes out world env := by
  have hmark : ∀ input, Fails (markOnline out world input) ↔
      ¬ ((Uuid.ofText? input.deviceID).isSome = true ∧
        (Uuid.ofText? input.tenantID).isSome = true) :=
    fun input => fails_markConnection hanswers
  rw [connectedBody, Payload.Passes]
  rw [settles_connectionBody hanswers htenant hmark]
  exact (and_iff_left rfl).symm

theorem passes_disconnected {payload : DisconnectedPayload}
    (hanswers : Answers out jsonb) (htenant : env.tenantID ≠ "") :
    ¬ Retries (disconnectedBody out world env payload) ↔
      (Payload.disconnected payload).Passes out world env := by
  have hmark : ∀ input, Fails (markOffline out world input) ↔
      ¬ ((Uuid.ofText? input.deviceID).isSome = true ∧
        (Uuid.ofText? input.tenantID).isSome = true) :=
    fun input => fails_markConnection hanswers
  rw [disconnectedBody, Payload.Passes]
  rw [settles_connectionBody hanswers htenant hmark]
  exact (and_iff_left rfl).symm

end Connections

section Reports

theorem sorts_propertyReport {properties : GoMap Json} :
    Sorts propertyReportStop (propertyVerdict properties) where
  notFound := rfl
  text _ := rfl
  wrap _ _ := rfl
  definition _ := rfl
  refused definition err hrefused := by
    rw [propertyVerdict] at hrefused
    split at hrefused
    · cases hrefused
      rfl
    · split at hrefused
      · cases hrefused
        rfl
      · cases hrefused

theorem sorts_eventReport {eventName : String} {params : GoMap Json} :
    Sorts eventReportStop (eventVerdict eventName params) where
  notFound := rfl
  text _ := rfl
  wrap _ _ := rfl
  definition _ := rfl
  refused definition err hrefused := by
    rw [eventVerdict] at hrefused
    repeat' split at hrefused
    all_goals
      cases hrefused
      try rfl

theorem sorts_serviceCall {serviceName : String} {output : GoMap Json} :
    Sorts serviceCallStop (serviceVerdict serviceName output) where
  notFound := rfl
  text _ := rfl
  wrap _ _ := rfl
  definition _ := rfl
  refused definition err hrefused := by
    rw [serviceVerdict] at hrefused
    repeat' split at hrefused
    all_goals
      cases hrefused
      try rfl

/-- A body that stores what its validator keeps. -/
theorem passes_kept {validate : Call Validated} {stop : Failure → Stop}
    {rest : Validated → Body Unit} {keeps : Option Validated}
    {settles named stores : Prop}
    (hvalidate : ¬ Retries (validate.mapStop stop) ↔ settles)
    (hkept : ∀ validated, validate.outcome = .ok validated ↔
      named ∧ keeps = some validated)
    (hnamed : ∀ validated, keeps = some validated → settles → named)
    (hnone : keeps = none → jsonb = [])
    (hrest : ∀ validated, keeps = some validated → named →
      (¬ Retries (rest validated) ↔
        stores ∧ jsonb.any Json.hasNul = false)) :
    ¬ Retries (validate.mapStop stop >>= rest) ↔
      (settles ∧ (keeps.isSome = true → stores)) ∧
        jsonb.any Json.hasNul = false := by
  rw [retries_bind, not_or, hvalidate]
  cases hkeeps : keeps with
  | none => simp [hkept, hkeeps, hnone hkeeps]
  | some validated =>
      have hnamed := hnamed validated hkeeps
      have hrest := hrest validated hkeeps
      simp only [Traced.outcome_mapStop_eq_ok, hkept, hkeeps, Option.some.injEq,
        Option.isSome_some, forall_const]
      constructor
      · rintro ⟨hsettles, hnot⟩
        have hpasses := (hrest (hnamed hsettles)).mp fun hretries =>
          hnot ⟨validated, ⟨hnamed hsettles, rfl⟩, hretries⟩
        exact ⟨⟨hsettles, hpasses.1⟩, hpasses.2⟩
      · rintro ⟨⟨hsettles, hstores⟩, hnul⟩
        refine ⟨hsettles, ?_⟩
        rintro ⟨_, ⟨hname, rfl⟩, hretries⟩
        exact (hrest hname).mpr ⟨hstores, hnul⟩ hretries

/-- The rest of a report is its row; the state event can be sent. -/
theorem not_retries_saved (hanswers : Answers out jsonb)
    (htenant : env.tenantID ≠ "") {saving publishing : String}
    {save : Call Unit} {eventType : EventType} {occurredAt : Int}
    {payload : Json} :
    ¬ Retries (orRetry saving save >>= fun _ => orRetry publishing
        (publishEvent out eventType env.tenantID env.eventID occurredAt
          payload)) ↔ ¬ Fails save := by
  rw [retries_orRetry_bind, retries_orRetry, fails_publishEvent hanswers]
  simp only [htenant, or_false]

theorem exists_verdict_of_kept {kind : ThingsModel.Section}
    {tenantID productID : String}
    {verdict : Definition → Except Failure Validated} {validated : Validated}
    (hkept : kept out world kind tenantID productID verdict = some validated) :
    ∃ definition, verdict definition = .ok validated := by
  obtain ⟨definition, -, hverdict⟩ := Option.bind_eq_some_iff.mp hkept
  refine ⟨definition, ?_⟩
  cases hcase : verdict definition with
  | error err => simp [hcase, Except.toOption] at hverdict
  | ok found => simpa [hcase, Except.toOption] using hverdict

/-- Something of the properties is left, so there were some. -/
theorem keptProperties_nonempty {payload : PropertyReportedPayload}
    {validated : Validated}
    (hkept : keptProperties out world payload = some validated) :
    validated.accepted.isEmpty = false ∧
      (payload.properties.getD GoMap.empty).isEmpty = false := by
  obtain ⟨definition, hverdict⟩ := exists_verdict_of_kept hkept
  obtain ⟨haccept, hnonempty⟩ := propertyVerdict_ok hverdict
  refine ⟨hnonempty, ?_⟩
  rw [← Bool.not_eq_true] at hnonempty ⊢
  intro hempty
  apply hnonempty
  rw [GoMap.isEmpty_iff] at hempty ⊢
  intro name
  apply Option.eq_none_iff_forall_ne_some.mpr
  intro value hvalue
  obtain ⟨hvalue, -⟩ := (acceptKnown_accepted haccept).mp hvalue
  rw [hempty name] at hvalue
  cases hvalue

section Validate

variable {tenantID productID name : String} {values : GoMap Json}
  {validated : Validated}

theorem settles_validatePropertyReport (hanswers : Answers out jsonb) :
    ¬ Retries ((validatePropertyReport out world tenantID productID
        values).mapStop propertyReportStop) ↔
      Named [tenantID, productID] ∧ (values.isEmpty = true ∨
        LookupSettles out world .properties (trimSpace tenantID)
          (trimSpace productID)) := by
  rw [validatePropertyReport]
  simp only [retries_validateWith hanswers sorts_propertyReport, Named,
    List.forall_mem_cons]
  by_cases htenant : trimSpace tenantID = "" <;>
    by_cases hproduct : trimSpace productID = "" <;>
    cases values.isEmpty <;>
    simp [htenant, hproduct, propertyReportStop, Stop.decision]

theorem settles_validateEventReport (hanswers : Answers out jsonb) :
    ¬ Retries ((validateEventReport out world tenantID productID name
        values).mapStop eventReportStop) ↔
      Named [tenantID, productID, name] ∧
        LookupSettles out world .events (trimSpace tenantID)
          (trimSpace productID) := by
  rw [validateEventReport]
  simp only [retries_validateWith hanswers sorts_eventReport, Named,
    List.forall_mem_cons]
  by_cases htenant : trimSpace tenantID = "" <;>
    by_cases hproduct : trimSpace productID = "" <;>
    by_cases hname : trimSpace name = "" <;>
    simp [htenant, hproduct, hname, eventReportStop, Stop.decision]

theorem settles_validateServiceCall (hanswers : Answers out jsonb) :
    ¬ Retries ((validateServiceCall out world tenantID productID name
        values).mapStop serviceCallStop) ↔
      Named [tenantID, productID, name] ∧
        LookupSettles out world .services (trimSpace tenantID)
          (trimSpace productID) := by
  rw [validateServiceCall]
  simp only [retries_validateWith hanswers sorts_serviceCall, Named,
    List.forall_mem_cons]
  by_cases htenant : trimSpace tenantID = "" <;>
    by_cases hproduct : trimSpace productID = "" <;>
    by_cases hname : trimSpace name = "" <;>
    simp [htenant, hproduct, hname, serviceCallStop, Stop.decision]

theorem outcome_validatePropertyReport_eq_ok (hanswers : Answers out jsonb) :
    (validatePropertyReport out world tenantID productID values).outcome =
        .ok validated ↔
      (Named [tenantID, productID] ∧ values.isEmpty = false) ∧
        kept out world .properties (trimSpace tenantID) (trimSpace productID)
          (propertyVerdict values) = some validated := by
  rw [validatePropertyReport]
  simp only [outcome_validateWith_eq_kept hanswers, Named,
    List.forall_mem_cons]
  apply and_congr_left
  intro _
  by_cases htenant : trimSpace tenantID = "" <;>
    by_cases hproduct : trimSpace productID = "" <;>
    cases values.isEmpty <;> simp [htenant, hproduct]

theorem outcome_validateEventReport_eq_ok (hanswers : Answers out jsonb) :
    (validateEventReport out world tenantID productID name values).outcome =
        .ok validated ↔
      Named [tenantID, productID, name] ∧
        kept out world .events (trimSpace tenantID) (trimSpace productID)
          (eventVerdict (trimSpace name) values) = some validated := by
  rw [validateEventReport]
  simp only [outcome_validateWith_eq_kept hanswers, Named,
    List.forall_mem_cons]
  apply and_congr_left
  intro _
  by_cases htenant : trimSpace tenantID = "" <;>
    by_cases hproduct : trimSpace productID = "" <;>
    by_cases hname : trimSpace name = "" <;> simp [htenant, hproduct, hname]

theorem outcome_validateServiceCall_eq_ok (hanswers : Answers out jsonb) :
    (validateServiceCall out world tenantID productID name values).outcome =
        .ok validated ↔
      Named [tenantID, productID, name] ∧
        kept out world .services (trimSpace tenantID) (trimSpace productID)
          (serviceVerdict (trimSpace name) values) = some validated := by
  rw [validateServiceCall]
  simp only [outcome_validateWith_eq_kept hanswers, Named,
    List.forall_mem_cons]
  apply and_congr_left
  intro _
  by_cases htenant : trimSpace tenantID = "" <;>
    by_cases hproduct : trimSpace productID = "" <;>
    by_cases hname : trimSpace name = "" <;> simp [htenant, hproduct, hname]

end Validate

theorem passes_propertyReported {payload : PropertyReportedPayload}
    (hanswers : Answers out
      ((Payload.propertyReported payload).jsonbValues out world))
    (htenant : env.tenantID ≠ "") :
    ¬ Retries (propertyReportBody out world env payload) ↔
      (Payload.propertyReported payload).Passes out world env := by
  rw [Payload.Passes]
  change _ ↔ (_ ∧ _ ∧ _) ∧ _
  rw [← and_assoc (c := _ → _)]
  refine passes_kept (settles_validatePropertyReport hanswers)
    (fun validated => outcome_validatePropertyReport_eq_ok hanswers) ?_ ?_ ?_
  · intro validated hkept hsettles
    exact ⟨hsettles.1, (keptProperties_nonempty hkept).2⟩
  · intro hnone
    exact congrArg (fun keeps : Option Validated => keeps.elim [] _) hnone
  · intro validated hkept _
    rw [not_retries_saved hanswers htenant]
    apply not_fails_saveEvent hanswers
    intro _
    simpa using (keptProperties_nonempty hkept).1

theorem passes_eventReported {payload : EventReportedPayload}
    (hanswers : Answers out
      ((Payload.eventReported payload).jsonbValues out world))
    (htenant : env.tenantID ≠ "") :
    ¬ Retries (eventReportBody out world env payload) ↔
      (Payload.eventReported payload).Passes out world env := by
  rw [Payload.Passes]
  change _ ↔ (_ ∧ _ ∧ _) ∧ _
  rw [← and_assoc (c := _ → _)]
  refine passes_kept (settles_validateEventReport hanswers)
    (fun validated => outcome_validateEventReport_eq_ok hanswers) ?_ ?_ ?_
  · intro validated _ hsettles
    exact hsettles.1
  · intro hnone
    exact congrArg (fun keeps : Option Validated => keeps.elim [] _) hnone
  · intro validated _ hnamed
    rw [not_retries_saved hanswers htenant]
    apply not_fails_saveEvent hanswers
    intro _
    have hname := ne_empty_of_named (hnamed payload.eventName (by simp))
    simp [hname]

theorem passes_serviceCallAcknowledged
    {payload : ServiceCallAcknowledgedPayload}
    (hanswers : Answers out
      ((Payload.serviceCallAcknowledged payload).jsonbValues out world)) :
    ¬ Retries (serviceCallBody out world env payload) ↔
      (Payload.serviceCallAcknowledged payload).Passes out world env := by
  rw [Payload.Passes]
  change _ ↔ (_ ∧ _ ∧ _) ∧ _
  rw [← and_assoc (c := _ → _)]
  refine passes_kept (settles_validateServiceCall hanswers)
    (fun validated => outcome_validateServiceCall_eq_ok hanswers) ?_ ?_ ?_
  · intro validated _ hsettles
    exact hsettles.1
  · intro hnone
    exact congrArg (fun keeps : Option Validated => keeps.elim [] _) hnone
  · intro validated _ hnamed
    rw [retries_orRetry]
    apply not_fails_saveEvent hanswers
    intro hstorable
    have hname := ne_empty_of_named (hnamed payload.serviceName (by simp))
    have hcommand :=
      ne_empty_of_isSome (hstorable.2 payload.commandID (by simp))
    simp [hname, hcommand]

end Reports

theorem passes_body {payload : Payload}
    (hanswers : Answers out (payload.jsonbValues out world))
    (htenant : env.tenantID ≠ "") :
    ¬ Retries (payload.body out world env) ↔ payload.Passes out world env := by
  cases payload with
  | propertyReported payload => exact passes_propertyReported hanswers htenant
  | propertySetRequested payload => exact passes_propertySetRequested hanswers
  | propertySetAcknowledged payload =>
      exact passes_propertySetAcknowledged hanswers
  | connected payload => exact passes_connected hanswers htenant
  | disconnected payload => exact passes_disconnected hanswers htenant
  | eventReported payload => exact passes_eventReported hanswers htenant
  | serviceCallRequested payload => exact passes_serviceCallRequested hanswers
  | serviceCallAcknowledged payload =>
      exact passes_serviceCallAcknowledged hanswers

section Columns

variable {table : Table} {row : EventRow}

/-- The values in the columns of the type `jsonb`. -/
def jsonbCells (columns : List (String × Json)) : List Json :=
  (columns.filter fun column =>
    column.1 ∈ ["properties", "params", "input", "output", "raw"]).map Prod.snd

theorem columns_of_insert {refused : List (Bool × String)} {insert : Insert}
    (hmem : .insert table row ∈
      (saveEvent out world env refused insert).trace) :
    row.columns = insert.columns := by
  obtain ⟨_, heq, ⟨-, hcolumns⟩, -⟩ := mem_trace_saveEvent hmem
  cases heq
  exact hcolumns

theorem kept_of_outcome {kind : ThingsModel.Section} {refused : Option Failure}
    {tenantID productID : String}
    {verdict : Definition → Except Failure Validated} {validated : Validated}
    (hok : (validateWith out world kind refused tenantID productID
      verdict).outcome = .ok validated) :
    kept out world kind tenantID productID verdict = some validated := by
  obtain ⟨-, -, -, definition, huse, hverdict⟩ :=
    outcome_validateWith_eq_ok.mp hok
  rw [kept]
  rw [huse, Option.bind_some, hverdict]
  rfl

/-- What a row has in its `jsonb` columns is what the condition on NUL looks
at. -/
theorem jsonbCells_of_insert {payload : Payload}
    (hmem : .insert table row ∈ (payload.body out world env).trace) :
    jsonbCells row.columns = payload.jsonbValues out world := by
  cases payload with
  | propertyReported payload =>
      obtain ⟨validated, hok, hsave⟩ := insert_of_report
        (fun effect hlookup => mem_trace_validatePropertyReport hlookup) hmem
      have hkept : keptProperties out world payload = some validated :=
        kept_of_outcome hok
      simp only [Payload.jsonbValues, hkept, columns_of_insert hsave]
      rfl
  | eventReported payload =>
      obtain ⟨validated, hok, hsave⟩ := insert_of_report
        (fun effect hlookup => mem_trace_validateEventReport hlookup) hmem
      have hkept : keptParams out world payload = some validated :=
        kept_of_outcome hok
      simp only [Payload.jsonbValues, hkept, columns_of_insert hsave]
      rfl
  | propertySetRequested payload =>
      rcases mem_trace_commandBody.mp hmem with hsave | ⟨-, hmem⟩
      · rw [columns_of_insert hsave]
        rfl
      · obtain ⟨-, -, -, -, heq⟩ := mem_trace_publishPropertySet.mp hmem
        cases heq
  | serviceCallRequested payload =>
      rcases mem_trace_commandBody.mp hmem with hsave | ⟨-, hmem⟩
      · rw [columns_of_insert hsave]
        rfl
      · obtain ⟨-, -, -, heq⟩ := mem_trace_publishServiceCall.mp hmem
        cases heq
  | propertySetAcknowledged payload =>
      rw [columns_of_insert hmem]
      rfl
  | serviceCallAcknowledged payload =>
      rcases mem_trace_serviceCallBody.mp hmem with hmem |
        ⟨validated, hok, hsave⟩
      · exact (not_insert_of_ofLookup (mem_trace_validateServiceCall hmem)).elim
      · have hkept : keptOutput out world payload = some validated :=
          kept_of_outcome hok
        simp only [Payload.jsonbValues, hkept, columns_of_insert hsave]
        rfl
  | connected payload =>
      exact absurd hmem (not_insert_of_connection (fun _ => rfl) (by simp))
  | disconnected payload =>
      exact absurd hmem (not_insert_of_connection (fun _ => rfl) (by simp))

end Columns

end Bodies

section Process

variable {formats : FormatChecker} {message : Option Json} {env : Envelope}
  {eventType : EventType}

theorem handleWith_retry_iff {α : Type} {what : String}
    {decode : Json → Option α} {fields : α → DeviceFields}
    {body : α → Body Unit} (hctx : out.ctxErr .handler = none) :
    (handleWith out what decode fields body env).1.decision = .retry ↔
      ∃ payload, decode env.payload = some payload ∧
        Retries (body payload) := by
  unfold handleWith Retries
  rw [hctx]
  cases hdecode : decode env.payload with
  | none => simp
  | some payload =>
      simp only [Option.some.injEq, exists_eq_left']
      cases hbody : (body payload).outcome with
      | ok value => simp
      | error stop => cases stop <;> simp [Stop.decision]

theorem process_retry_iff
    (hvalid : validateEvent formats message = .ok (env, eventType))
    (hbegins : Begins out) :
    (process out world formats message).1.decision = .retry ↔
      ∃ payload, Payload.decode eventType env.payload = some payload ∧
        Retries (payload.body out world env) := by
  rw [process]
  rw [hbegins.1, hvalid]
  cases eventType <;>
    simp [handlerOf, propertyReportHandle, propertySetRequestedHandle,
      propertySetHandle, connectedHandle, disconnectedHandle,
      eventReportHandle, serviceCallRequestedHandle, serviceCallHandle,
      Result.fill, handleWith_retry_iff hbegins.2, Payload.decode, Payload.body]

/-- The values for the `jsonb` columns of the statement of a message. -/
def jsonbOf (formats : FormatChecker) (out : Surroundings) (world : World)
    (message : Option Json) : List Json :=
  (eventOf formats message).elim [] fun event => event.2.jsonbValues out world

end Process

end Processor

end LinkFlow
