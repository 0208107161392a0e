/-
What each call of the processor can do: when it succeeds and which effects it
leaves behind.
-/
import LinkFlow.ProcessorHandlers

namespace LinkFlow

namespace Processor

open ThingsModel

variable {out : Surroundings} {world : World}

section Commands

variable {stage : Stage} {context : String} {effects : List Effect}

@[simp] theorem trace_checkCtx : (out.checkCtx stage).trace = [] := by
  rw [Surroundings.checkCtx]
  split <;> rfl

@[simp] theorem outcome_checkCtx_eq_ok {value : Unit} :
    (out.checkCtx stage).outcome = .ok value ↔ out.ctxErr stage = none := by
  rw [Surroundings.checkCtx]
  split
  next err herr => simp [herr]
  next hnone => simp [hnone]

theorem outcome_command_eq_ok {value : Unit} :
    (out.command stage context effects).outcome = .ok value ↔
      out.outcome stage = .ok := by
  rw [Surroundings.command]
  cases out.outcome stage <;> simp

theorem mem_trace_command {effect : Effect} :
    effect ∈ (out.command stage context effects).trace ↔
      out.outcome stage ≠ .failed ∧ effect ∈ effects := by
  rw [Surroundings.command]
  cases out.outcome stage <;> simp

end Commands

@[simp] theorem trace_parseOccurredAt (env : Envelope) :
    (parseOccurredAt env).trace = [] := by
  rw [parseOccurredAt]
  split <;> rfl

@[simp] theorem outcome_parseOccurredAt_eq_ok {env : Envelope} {time : Int} :
    (parseOccurredAt env).outcome = .ok time ↔
      parseRFC3339Nano env.occurredAt = some time := by
  rw [parseOccurredAt]
  split <;> simp [*]

@[simp] theorem trace_orRetry {α : Type} (context : String) (call : Call α) :
    (orRetry context call).trace = call.trace := rfl

@[simp] theorem outcome_orRetry_eq_ok {α : Type} {context : String}
    {call : Call α} {value : α} :
    (orRetry context call).outcome = .ok value ↔ call.outcome = .ok value :=
  Traced.outcome_mapStop_eq_ok

section Stores

variable {env : Envelope} {refused : List (Bool × String)} {insert : Insert}

/-- A table has the row that a statement of this envelope would insert. -/
def Stored (world : World) (env : Envelope) (table : Table) (idText : String) :
    Prop :=
  ∃ id time, Uuid.ofText? idText = some id ∧
    parseRFC3339Nano env.occurredAt = some time ∧
    world.hasRow table id (timestamptz time) = true

/-- A store leaves at most one new row, of the envelope's tenant and with the
columns of its statement. -/
theorem mem_trace_saveEvent {effect : Effect}
    (hmem : effect ∈ (saveEvent out world env refused insert).trace) :
    ∃ row, effect = .insert insert.table row ∧
      (row.tenantID = env.tenantID ∧ row.columns = insert.columns) ∧
      ¬ Stored world env insert.table insert.id := by
  rw [saveEvent] at hmem
  simp only [Traced.mem_trace_bind, trace_checkCtx, List.not_mem_nil,
    false_or] at hmem
  obtain ⟨_, -, hmem⟩ := hmem
  split at hmem
  · simp at hmem
  · simp only [Traced.mem_trace_bind, trace_parseOccurredAt, List.not_mem_nil,
      false_or, outcome_parseOccurredAt_eq_ok] at hmem
    obtain ⟨time, htime, hmem⟩ := hmem
    rw [insertRow] at hmem
    split at hmem
    next id hid _ =>
      simp only [mem_trace_command] at hmem
      obtain ⟨-, hmem⟩ := hmem
      split at hmem
      · cases hmem
      next hfresh =>
        refine ⟨_, List.mem_singleton.mp hmem, ⟨rfl, rfl⟩, ?_⟩
        rintro ⟨stored, at_, hstored, hat, hrow⟩
        rw [hid] at hstored
        rw [htime] at hat
        cases hstored
        cases hat
        exact hfresh hrow
    · simp at hmem

/-- Once the row is there, saving the event again leaves nothing. -/
theorem trace_saveEvent_of_stored
    (hstored : Stored world env insert.table insert.id) :
    (saveEvent out world env refused insert).trace = [] := by
  apply List.eq_nil_iff_forall_not_mem.mpr
  intro effect hmem
  obtain ⟨row, -, -, hnot⟩ := mem_trace_saveEvent hmem
  exact hnot hstored

/-- The part of a successful save that depends on the event alone. -/
def Savable (env : Envelope) (refused : List (Bool × String))
    (insert : Insert) : Prop :=
  refused.find? Prod.fst = none ∧
    (parseRFC3339Nano env.occurredAt).isSome = true ∧
    (Uuid.ofText? insert.id).isSome = true ∧
    (insert.uuids.all fun text => (Uuid.ofText? text).isSome) = true

theorem outcome_saveEvent_eq_ok :
    (saveEvent out world env refused insert).outcome = .ok () ↔
      out.ctxErr .save = none ∧ out.outcome .save = .ok ∧
        Savable env refused insert := by
  rw [saveEvent, Savable]
  simp only [Traced.outcome_bind_eq_ok, outcome_checkCtx_eq_ok]
  cases hrefused : refused.find? Prod.fst with
  | some refusal => simp
  | none =>
      simp only [Traced.outcome_bind_eq_ok, outcome_parseOccurredAt_eq_ok,
        insertRow]
      cases parseRFC3339Nano env.occurredAt with
      | none => simp
      | some time =>
          cases Uuid.ofText? insert.id with
          | none => simp
          | some id =>
              cases insert.uuids.all fun text => (Uuid.ofText? text).isSome <;>
                simp [outcome_command_eq_ok]

/-- What a successful save has met, and its trace. -/
theorem saveEvent_ok
    (hok : (saveEvent out world env refused insert).outcome = .ok ()) :
    ∃ id time, Uuid.ofText? insert.id = some id ∧
      parseRFC3339Nano env.occurredAt = some time ∧
      (saveEvent out world env refused insert).trace =
        if world.hasRow insert.table id (timestamptz time) then []
        else [.insert insert.table
          ⟨id, timestamptz time, env.tenantID, insert.columns,
            timestamptz (out.clock .save)⟩] := by
  rw [saveEvent] at hok ⊢
  rw [Traced.outcome_bind_eq_ok] at hok
  obtain ⟨_, hctx, hok⟩ := hok
  rw [Traced.trace_bind_of_ok hctx, trace_checkCtx, List.nil_append]
  split at hok
  · cases hok
  · rw [Traced.outcome_bind_eq_ok] at hok
    obtain ⟨time, htime, hok⟩ := hok
    rw [Traced.trace_bind_of_ok htime, trace_parseOccurredAt, List.nil_append]
    rw [outcome_parseOccurredAt_eq_ok] at htime
    rw [insertRow] at hok ⊢
    split at hok
    next id hid huuids =>
      have hsave := outcome_command_eq_ok.mp hok
      refine ⟨id, time, hid, htime, ?_⟩
      simp only [Surroundings.command, hsave]
    · cases hok

end Stores

section World

theorem World.applyAll_cons (world : World) (effect : Effect)
    (trace : List Effect) :
    world.applyAll (effect :: trace) = (world.apply effect).applyAll trace :=
      rfl

/-- Rows are never removed. -/
theorem World.hasRow_apply {table : Table} {id : Uuid} {occurredAt : Int}
    (effect : Effect) (hrow : world.hasRow table id occurredAt = true) :
    (world.apply effect).hasRow table id occurredAt = true := by
  cases effect with
  | insert other row =>
      rw [World.hasRow, World.apply] at *
      by_cases htable : table = other
      · subst htable
        simp only [Function.update_self, List.any_append, hrow, Bool.true_or]
      · simpa only [Function.update_of_ne htable] using hrow
  | _ => exact hrow

theorem World.hasRow_applyAll {table : Table} {id : Uuid} {occurredAt : Int}
    (trace : List Effect) (hrow : world.hasRow table id occurredAt = true) :
    (world.applyAll trace).hasRow table id occurredAt = true := by
  induction trace generalizing world with
  | nil => exact hrow
  | cons effect rest ih => exact ih (World.hasRow_apply effect hrow)

theorem World.hasRow_of_insert {table : Table} {row : EventRow}
    {trace : List Effect} (hmem : .insert table row ∈ trace) :
    (world.applyAll trace).hasRow table row.id row.occurredAt = true := by
  induction trace generalizing world with
  | nil => cases hmem
  | cons effect rest ih =>
      rw [World.applyAll_cons]
      rcases List.mem_cons.mp hmem with hhead | htail
      · apply World.hasRow_applyAll
        subst hhead
        simp [World.hasRow, World.apply]
      · exact ih htail

/-- After a successful save the table has the row. -/
theorem stored_after_save {env : Envelope} {refused : List (Bool × String)}
    {insert : Insert} {trace : List Effect}
    (hok : (saveEvent out world env refused insert).outcome = .ok ())
    (hsubset : ∀ effect ∈ (saveEvent out world env refused insert).trace,
      effect ∈ trace) :
    Stored (world.applyAll trace) env insert.table insert.id := by
  obtain ⟨id, time, hid, htime, htrace⟩ := saveEvent_ok hok
  refine ⟨id, time, hid, htime, ?_⟩
  by_cases hrow : world.hasRow insert.table id (timestamptz time) = true
  · exact World.hasRow_applyAll trace hrow
  · rw [htrace, if_neg hrow] at hsubset
    exact World.hasRow_of_insert (hsubset _ (List.mem_singleton_self _))

end World

section Validators

variable {kind : ThingsModel.Section} {tenantID productID : String}

/-- The cached definition of a key, while it is fresh. -/
def freshEntry (out : Surroundings) (world : World)
    (kind : ThingsModel.Section) (tenantID productID : String) :
    Option CachedDefinition :=
  (world.caches kind (cacheKey tenantID productID)).filter fun entry =>
    out.clock .cacheRead < entry.expiresAt

/-- The current definition of a product. -/
def currentDefinition (world : World) (tenantID productID : String) :
    Option Definition :=
  match Uuid.ofText? tenantID, Uuid.ofText? productID with
  | some tenant, some product =>
      (world.models tenant product).bind fun model =>
        (parseDefinition tenantID productID model.properties model.events
          model.services).toOption
  | _, _ => none

/-- The definition a validator works with. -/
def definitionInUse (out : Surroundings) (world : World)
    (kind : ThingsModel.Section) (tenantID productID : String) :
    Option Definition :=
  match freshEntry out world kind tenantID productID with
  | some entry => some entry.definition
  | none => currentDefinition world tenantID productID

/-- The lookup meets no fault: the definition is cached, or the reader works. -/
def ReadsModel (out : Surroundings) (world : World)
    (kind : ThingsModel.Section) (tenantID productID : String) : Prop :=
  (freshEntry out world kind tenantID productID).isSome = true ∨
    out.ctxErr .reader = none ∧ out.outcome .reader = .ok

theorem trace_findCurrent :
    (findCurrentByProductID out world tenantID productID).trace = [] := by
  apply List.eq_nil_iff_forall_not_mem.mpr
  intro effect
  rw [findCurrentByProductID]
  simp only [Traced.mem_trace_bind, trace_checkCtx, mem_trace_command,
    List.not_mem_nil, and_false, false_or]
  rintro ⟨_, -, _, -, hmem⟩
  revert hmem
  split
  · split <;> simp
  · simp

theorem outcome_findCurrent_eq_ok {definition : Definition} :
    (findCurrentByProductID out world tenantID productID).outcome =
        .ok definition ↔
      (out.ctxErr .reader = none ∧ out.outcome .reader = .ok) ∧
        currentDefinition world tenantID productID = some definition := by
  rw [findCurrentByProductID, currentDefinition]
  simp only [Traced.outcome_bind_eq_ok, outcome_checkCtx_eq_ok,
    outcome_command_eq_ok, exists_const, and_assoc]
  refine and_congr_right fun _ => and_congr_right fun _ => ?_
  cases Uuid.ofText? tenantID with
  | none => simp
  | some tenant =>
      cases Uuid.ofText? productID with
      | none => simp
      | some product =>
          simp only
          cases world.models tenant product with
          | none => simp
          | some model =>
              simp only [Traced.outcome_lift, Option.bind_some]
              cases parseDefinition tenantID productID model.properties
                model.events model.services <;>
                  simp [Except.mapError, Except.toOption]

/-- A lookup names its tenant, and beside that only fills the cache. -/
theorem mem_trace_lookup {effect : Effect}
    (hmem : effect ∈ (lookup out world kind tenantID productID).trace) :
    effect = .lookup kind tenantID productID ∨
      ∃ key entry, effect = .cache kind key entry := by
  rw [lookup] at hmem
  simp only [Traced.mem_trace_bind, Traced.trace_emit,
    List.mem_singleton] at hmem
  rcases hmem with hlookup | ⟨_, -, hmem⟩
  · exact Or.inl hlookup
  · right
    split at hmem
    · simp at hmem
    · simp only [Traced.mem_trace_bind, trace_findCurrent, List.not_mem_nil,
        Traced.trace_emit, List.mem_singleton, Traced.trace_pure, false_or,
        and_false, exists_false, or_false] at hmem
      obtain ⟨definition, -, hmem⟩ := hmem
      exact ⟨_, _, hmem⟩

theorem lookup_mem_trace :
    .lookup kind tenantID productID ∈
      (lookup out world kind tenantID productID).trace := by
  rw [lookup]
  simp only [Traced.mem_trace_bind, Traced.trace_emit, List.mem_singleton,
    true_or]

theorem outcome_lookup_eq_ok {definition : Definition} :
    (lookup out world kind tenantID productID).outcome = .ok definition ↔
      ReadsModel out world kind tenantID productID ∧
        definitionInUse out world kind tenantID productID =
          some definition := by
  rw [lookup, ReadsModel, definitionInUse]
  change (Traced.outcome (_ >>= fun _ =>
    match freshEntry out world kind tenantID productID with
    | some entry => _
    | none => _) = _) ↔ _
  simp only [Traced.outcome_bind_eq_ok, Traced.outcome_emit, exists_const]
  cases freshEntry out world kind tenantID productID with
  | some entry => simp
  | none =>
      simp [Traced.outcome_bind_eq_ok, outcome_findCurrent_eq_ok, and_assoc]

/-- The effects of a validator: a lookup of one model, and its cache entry. -/
def Effect.OfLookup (kind : ThingsModel.Section) (tenantID productID : String)
    (effect : Effect) : Prop :=
  effect = .lookup kind tenantID productID ∨
    ∃ key entry, effect = .cache kind key entry

theorem mem_trace_validateWith {refused : Option Failure}
    {verdict : Definition → Except Failure Validated} {effect : Effect}
    (hmem : effect ∈
      (validateWith out world kind refused tenantID productID verdict).trace) :
    effect.OfLookup kind tenantID productID := by
  unfold validateWith at hmem
  simp only [Traced.mem_trace_bind, trace_checkCtx, List.not_mem_nil,
    false_or] at hmem
  obtain ⟨_, -, hmem⟩ := hmem
  split at hmem
  · cases hmem
  · simp only [Traced.mem_trace_bind, Traced.trace_lift, List.not_mem_nil,
      and_false, exists_false, or_false] at hmem
    exact mem_trace_lookup hmem

section Kinds

variable {name : String} {values : GoMap Json} {effect : Effect}

theorem mem_trace_validatePropertyReport
    (hmem : effect ∈
      (validatePropertyReport out world tenantID productID values).trace) :
    effect.OfLookup .properties (trimSpace tenantID) (trimSpace productID) := by
  rw [validatePropertyReport] at hmem
  exact mem_trace_validateWith hmem

theorem mem_trace_validateEventReport
    (hmem : effect ∈
      (validateEventReport out world tenantID productID name values).trace) :
    effect.OfLookup .events (trimSpace tenantID) (trimSpace productID) := by
  rw [validateEventReport] at hmem
  exact mem_trace_validateWith hmem

theorem mem_trace_validateServiceCall
    (hmem : effect ∈
      (validateServiceCall out world tenantID productID name values).trace) :
    effect.OfLookup .services (trimSpace tenantID) (trimSpace productID) := by
  rw [validateServiceCall] at hmem
  exact mem_trace_validateWith hmem

end Kinds

/-- The model in use is read, and the verdict of the validator is good. -/
def ModelAccepts (out : Surroundings) (world : World)
    (kind : ThingsModel.Section) (tenantID productID : String)
    (verdict : Definition → Except Failure Validated) : Prop :=
  out.ctxErr .validator = none ∧
    ReadsModel out world kind tenantID productID ∧
    ∃ definition validated,
      definitionInUse out world kind tenantID productID = some definition ∧
      verdict definition = .ok validated

theorem outcome_validateWith_eq_ok {refused : Option Failure}
    {verdict : Definition → Except Failure Validated} {validated : Validated} :
    (validateWith out world kind refused tenantID productID verdict).outcome =
        .ok validated ↔
      out.ctxErr .validator = none ∧ refused = none ∧
        ReadsModel out world kind tenantID productID ∧
        ∃ definition,
          definitionInUse out world kind tenantID productID = some definition ∧
          verdict definition = .ok validated := by
  unfold validateWith
  simp only [Traced.outcome_bind_eq_ok, outcome_checkCtx_eq_ok, exists_const]
  apply and_congr_right
  intro _
  cases refused with
  | some err => simp
  | none =>
      simp [Traced.outcome_bind_eq_ok, outcome_lookup_eq_ok, and_assoc]

theorem validateWith_accepts_iff {refused : Option Failure}
    {verdict : Definition → Except Failure Validated}
    (hrefused : refused = none) :
    (∃ validated, (validateWith out world kind refused tenantID productID
        verdict).outcome = .ok validated) ↔
      ModelAccepts out world kind tenantID productID verdict := by
  simp only [outcome_validateWith_eq_ok, hrefused, ModelAccepts, true_and]
  constructor
  · rintro ⟨validated, hctx, hreads, definition, huse, hverdict⟩
    exact ⟨hctx, hreads, definition, validated, huse, hverdict⟩
  · rintro ⟨hctx, hreads, definition, validated, huse, hverdict⟩
    exact ⟨validated, hctx, hreads, definition, huse, hverdict⟩

/-- A validator that succeeds has looked its model up. -/
theorem lookup_mem_validateWith {refused : Option Failure}
    {verdict : Definition → Except Failure Validated} {validated : Validated}
    (hok : (validateWith out world kind refused tenantID productID
      verdict).outcome = .ok validated) :
    .lookup kind tenantID productID ∈
      (validateWith out world kind refused tenantID productID
        verdict).trace := by
  obtain ⟨hctx, rfl, -⟩ := outcome_validateWith_eq_ok.mp hok
  rw [validateWith]
  have hchecked : (out.checkCtx .validator).outcome = .ok () :=
    outcome_checkCtx_eq_ok.mpr hctx
  rw [Traced.trace_bind_of_ok hchecked]
  refine List.mem_append_right _ (Traced.mem_trace_bind.mpr (Or.inl ?_))
  exact lookup_mem_trace

theorem acceptKnown_ok {sentinel : Sentinel} {known : GoMap PropertyDefinition}
    {values : GoMap Json} {validated : Validated}
    (hok : acceptKnown sentinel known values = .ok validated) {name : String}
    {value : Json} :
    validated.accepted.get? name = some value ↔
      values.get? name = some value ∧ ∃ definition,
        known.get? name = some definition ∧
        validateDefinedValue name definition value sentinel = .ok () := by
  rw [acceptKnown] at hok
  split at hok
  · cases hok
  next hrange =>
    cases hok
    rw [GoMap.range_eq_ok_iff] at hrange
    rw [GoMap.get?_filter_eq_some]
    apply and_congr_right
    intro hget
    have hvalue := hrange name value hget
    cases hknown : known.get? name with
    | none => simp
    | some definition =>
        simp only [hknown] at hvalue
        simp [hvalue]

/-- What is kept of the values is what the model declares of them. -/
theorem acceptKnown_accepted {sentinel : Sentinel}
    {known : GoMap PropertyDefinition} {values : GoMap Json}
    {validated : Validated}
    (hok : acceptKnown sentinel known values = .ok validated) {name : String}
    {value : Json} :
    validated.accepted.get? name = some value ↔
      values.get? name = some value ∧ (known.get? name).isSome = true := by
  rw [acceptKnown] at hok
  split at hok
  · cases hok
  · cases hok
    exact GoMap.get?_filter_eq_some

theorem propertyVerdict_ok {properties : GoMap Json} {definition : Definition}
    {validated : Validated}
    (hok : propertyVerdict properties definition = .ok validated) :
    acceptKnown .invalidPropertyValue definition.properties properties =
        .ok validated ∧ validated.accepted.isEmpty = false := by
  rw [propertyVerdict] at hok
  split at hok
  · cases hok
  next found hfound =>
    split at hok
    · cases hok
    next hempty =>
      cases hok
      exact ⟨hfound, by simpa using hempty⟩

theorem eventVerdict_ok {eventName : String} {params : GoMap Json}
    {definition : Definition} {validated : Validated}
    (hok : eventVerdict eventName params definition = .ok validated) :
    ∃ event, definition.events.get? eventName = some event ∧
      if event.output.isEmpty then validated.accepted = GoMap.empty
      else acceptKnown .invalidEventValue event.output params = .ok validated ∧
        validated.accepted.isEmpty = false := by
  rw [eventVerdict] at hok
  split at hok
  · cases hok
  next event hevent =>
    refine ⟨event, hevent, ?_⟩
    split at hok
    next hempty =>
      cases hok
      rw [if_pos hempty]
    next hempty =>
      rw [if_neg hempty]
      split at hok
      · cases hok
      · split at hok
        · cases hok
        next found hfound =>
          split at hok
          · cases hok
          next hsome =>
            cases hok
            exact ⟨hfound, by simpa using hsome⟩

end Validators

section Connection

variable {input : DeviceConnectionEvent} {status : Connection.Status}
  {context : String} {redis : Effect}

/-- The ids of an event name a devices row that its UPDATE matches. -/
def Matches (world : World) (input : DeviceConnectionEvent)
    (status : Connection.Status) (deviceID tenantID : Uuid) : Prop :=
  Uuid.ofText? input.deviceID = some deviceID ∧
    Uuid.ofText? input.tenantID = some tenantID ∧
    world.matchedRow deviceID tenantID ⟨status, input.occurredAt⟩ = true

theorem mem_trace_updateConnectionStatus {effect : Effect} :
    effect ∈ (updateConnectionStatus out world input status).trace ↔
      out.outcome .update ≠ .failed ∧ ∃ deviceID tenantID,
        Matches world input status deviceID tenantID ∧
        effect = .update deviceID tenantID ⟨status, input.occurredAt⟩
          (out.clock .update) := by
  unfold updateConnectionStatus Matches
  cases hdevice : Uuid.ofText? input.deviceID with
  | none => simp
  | some deviceID =>
      cases htenant : Uuid.ofText? input.tenantID with
      | none => simp
      | some tenantID =>
          cases hmatched : world.matchedRow deviceID tenantID
            ⟨status, input.occurredAt⟩ <;>
              simp [Traced.mem_trace_bind, mem_trace_command, hmatched]

theorem updateConnectionStatus_ok {applied : Bool}
    (hok : (updateConnectionStatus out world input status).outcome =
      .ok applied) :
    out.outcome .update = .ok ∧
      (applied = true ↔ ∃ deviceID tenantID,
        Matches world input status deviceID tenantID) := by
  rw [updateConnectionStatus] at hok
  split at hok
  next deviceID tenantID hdevice htenant =>
    rw [Traced.outcome_bind_eq_ok] at hok
    obtain ⟨_, hcommand, hok⟩ := hok
    cases hok
    refine ⟨outcome_command_eq_ok.mp hcommand, ?_⟩
    simp [Matches, hdevice, htenant]
  · cases hok

theorem mem_trace_markConnection {effect : Effect} :
    effect ∈ (markConnection out world input status context redis).trace ↔
      out.ctxErr .connection = none ∧
        (effect ∈ (updateConnectionStatus out world input status).trace ∨
          (updateConnectionStatus out world input status).outcome = .ok true ∧
            out.outcome .redis ≠ .failed ∧ effect = redis) := by
  rw [markConnection]
  simp only [Traced.mem_trace_bind, trace_checkCtx, List.not_mem_nil, false_or,
    outcome_checkCtx_eq_ok]
  constructor
  · rintro ⟨_, hctx, hupdate | ⟨applied, hok, hmem⟩⟩
    · exact ⟨hctx, Or.inl hupdate⟩
    · cases applied with
      | false => simp at hmem
      | true =>
          simp only [if_true, Traced.mem_trace_bind, mem_trace_command,
            List.mem_singleton, Traced.trace_pure, List.not_mem_nil, and_false,
            exists_false, or_false] at hmem
          exact ⟨hctx, Or.inr ⟨hok, hmem⟩⟩
  · rintro ⟨hctx, hupdate | ⟨hok, hredis⟩⟩
    · exact ⟨(), hctx, Or.inl hupdate⟩
    · refine ⟨(), hctx, Or.inr ⟨true, hok, ?_⟩⟩
      simp only [if_true, Traced.mem_trace_bind, mem_trace_command,
        List.mem_singleton]
      exact Or.inl hredis

theorem markConnection_ok {applied : Bool}
    (hok : (markConnection out world input status context redis).outcome =
      .ok applied) :
    out.ctxErr .connection = none ∧
      (updateConnectionStatus out world input status).outcome = .ok applied ∧
      (applied = true → out.outcome .redis = .ok) := by
  rw [markConnection] at hok
  simp only [Traced.outcome_bind_eq_ok, outcome_checkCtx_eq_ok] at hok
  obtain ⟨_, hctx, updated, hupdate, hok⟩ := hok
  cases updated with
  | false =>
      cases hok
      exact ⟨hctx, hupdate, fun hfalse => by cases hfalse⟩
  | true =>
      simp only [if_true, Traced.outcome_bind_eq_ok, outcome_command_eq_ok]
        at hok
      obtain ⟨_, hredis, hok⟩ := hok
      cases hok
      exact ⟨hctx, hupdate, fun _ => hredis⟩

end Connection

section Publishers

variable {eventType : EventType} {tenantID causationID : String}
  {occurredAt : Int} {payload : Json}

/-- The envelope `EventPublisher.Publish` writes. -/
def stateEnvelope (out : Surroundings) (eventType : EventType)
    (tenantID causationID : String) (occurredAt : Int) (payload : Json)
    (id : Uuid) : Envelope :=
  newEnvelope eventType id occurredAt (out.clock .publisher)
    producer tenantID "" causationID payload

theorem mem_trace_publishEvent {effect : Effect} :
    effect ∈ (publishEvent out eventType tenantID causationID occurredAt
        payload).trace ↔
      out.ctxErr .publisher = none ∧ tenantID ≠ "" ∧
        out.outcome .send ≠ .failed ∧ ∃ id, out.newID = .ok id ∧
          effect = .publish eventType.topic
            (stateEnvelope out eventType tenantID causationID
              occurredAt payload id) := by
  rw [publishEvent]
  simp only [Traced.mem_trace_bind, trace_checkCtx, List.not_mem_nil, false_or,
    outcome_checkCtx_eq_ok]
  by_cases htenant : tenantID = ""
  · simp [htenant]
  · simp only [ne_eq, htenant, not_false_eq_true, true_and]
    cases hid : out.newID with
    | error err => simp
    | ok id => simp [mem_trace_command, stateEnvelope]

theorem publishEvent_ok
    (hok : (publishEvent out eventType tenantID causationID occurredAt
      payload).outcome = .ok ()) :
    ∃ id, .publish eventType.topic (stateEnvelope out eventType tenantID
      causationID occurredAt payload id) ∈
        (publishEvent out eventType tenantID causationID occurredAt
          payload).trace := by
  rw [publishEvent] at hok
  simp only [Traced.outcome_bind_eq_ok, outcome_checkCtx_eq_ok] at hok
  obtain ⟨_, hctx, hok⟩ := hok
  split at hok
  · cases hok
  next htenant =>
    split at hok
    · cases hok
    next id hid =>
      have hsend := outcome_command_eq_ok.mp hok
      exact ⟨id, mem_trace_publishEvent.mpr
        ⟨hctx, htenant, by simp [hsend], id, hid, rfl⟩⟩

theorem mem_trace_callEMQX {topic : String} {members : List (String × Json)}
    {effect : Effect} :
    effect ∈ (callEMQX out topic members).trace ↔
      out.outcome .emqx ≠ .failed ∧
        effect = .downlink ⟨topic, .obj members, 1, false⟩ := by
  rw [callEMQX]
  rw [mem_trace_command, List.mem_singleton]

/-- A command that passes the publisher's checks reaches EMQX, as long as the
context lasts and the call does. -/
theorem mem_trace_publishPropertySet {payload : PropertySetRequestedPayload}
    {effect : Effect} :
    effect ∈ (publishPropertySet out payload).trace ↔
      out.ctxErr .mqtt = none ∧ out.outcome .emqx ≠ .failed ∧
        trimSpace payload.topic ≠ "" ∧
        (payload.properties.getD GoMap.empty).isEmpty = false ∧
        effect = .downlink ⟨payload.topic,
          .obj [("command_id", .str payload.commandID),
            ("properties", .ofMap? payload.properties)], 1, false⟩ := by
  rw [publishPropertySet]
  simp only [Traced.mem_trace_bind, trace_checkCtx, List.not_mem_nil, false_or,
    outcome_checkCtx_eq_ok]
  by_cases htopic : trimSpace payload.topic = ""
  · simp [htopic]
  · cases hempty : (payload.properties.getD GoMap.empty).isEmpty <;>
      simp [htopic, mem_trace_callEMQX]

theorem publishPropertySet_ok {payload : PropertySetRequestedPayload}
    (hok : (publishPropertySet out payload).outcome = .ok ()) :
    trimSpace payload.topic ≠ "" ∧
      (payload.properties.getD GoMap.empty).isEmpty = false := by
  rw [publishPropertySet] at hok
  rw [Traced.outcome_bind_eq_ok] at hok
  obtain ⟨_, -, hok⟩ := hok
  split at hok
  · cases hok
  next htopic =>
    split at hok
    · cases hok
    next hempty => exact ⟨htopic, by simpa using hempty⟩

theorem mem_trace_publishServiceCall {payload : ServiceCallRequestedPayload}
    {effect : Effect} :
    effect ∈ (publishServiceCall out payload).trace ↔
      out.ctxErr .mqtt = none ∧ out.outcome .emqx ≠ .failed ∧
        trimSpace payload.topic ≠ "" ∧
        effect = .downlink ⟨payload.topic,
          .obj [("command_id", .str payload.commandID),
            ("service_name", .str payload.serviceName),
            ("input", .ofMap (payload.input.getD GoMap.empty))], 1, false⟩ := by
  rw [publishServiceCall]
  simp only [Traced.mem_trace_bind, trace_checkCtx, List.not_mem_nil, false_or,
    outcome_checkCtx_eq_ok]
  by_cases htopic : trimSpace payload.topic = "" <;>
    simp [htopic, mem_trace_callEMQX]

theorem publishServiceCall_ok {payload : ServiceCallRequestedPayload}
    (hok : (publishServiceCall out payload).outcome = .ok ()) :
    trimSpace payload.topic ≠ "" := by
  rw [publishServiceCall] at hok
  rw [Traced.outcome_bind_eq_ok] at hok
  obtain ⟨_, -, hok⟩ := hok
  split at hok
  · cases hok
  next htopic => exact htopic

end Publishers

end Processor

end LinkFlow
