/-
What the three validators keep of a report, in whatever order Go ranges over it,
and what the two report handlers store and publish of it.
-/
import LinkFlow.ProcessorBodies

namespace LinkFlow

namespace Processor

open ThingsModel

/-- What `errors.Is` tells of a validator's error: the sentinel of a refused
value, any other error by itself. -/
def Failure.refusal : Failure → Sentinel ⊕ Failure
  | .value err => .inl err.sentinel
  | err => .inr err

/-- What a validator refuses a report with, if it does. -/
def refusalOf : Except Failure Validated → Option (Sentinel ⊕ Failure)
  | .ok _ => none
  | .error err => some err.refusal

/-- The reported names are divided into those the definition knows, kept with
their values, and the others. -/
structure Partitions (known : GoMap PropertyDefinition) (report : GoMap Json)
    (validated : Validated) : Prop where
  accepted : ∀ name value, validated.accepted.get? name = some value ↔
    report.get? name = some value ∧ (known.get? name).isSome = true
  dropped : ∀ name, name ∈ validated.dropped ↔
    (report.get? name).isSome = true ∧ known.get? name = none
  names : (validated.accepted.keys ++ validated.dropped).Perm report.keys

/-- Every value whose name is known fits its definition. -/
def KnownValid (sentinel : Sentinel) (known : GoMap PropertyDefinition)
    (report : GoMap Json) : Prop :=
  ∀ name value definition, report.get? name = some value →
    known.get? name = some definition →
    validateDefinedValue name definition value sentinel = .ok ()

/-- Some reported name is known. -/
def SomeKnown (known : GoMap PropertyDefinition) (report : GoMap Json) : Prop :=
  ∃ name, (report.get? name).isSome = true ∧ (known.get? name).isSome = true

/-- The outcomes of a validator, told by conditions that no order enters. -/
inductive Judged (declared : Option (GoMap PropertyDefinition))
    (needsKnown : GoMap PropertyDefinition → Prop) (sentinel : Sentinel)
    (absent nothing : Failure) (report : GoMap Json) :
    Except Failure Validated → Prop where
  | absent (hnone : declared = none) : Judged _ _ _ _ _ _ (.error absent)
  | invalid {known : GoMap PropertyDefinition} {err : ValueError}
      (hknown : declared = some known)
      (hinvalid : ¬ KnownValid sentinel known report)
      (hsentinel : err.sentinel = sentinel) :
      Judged _ _ _ _ _ _ (.error (.value err))
  | nothing {known : GoMap PropertyDefinition} (hknown : declared = some known)
      (hvalid : KnownValid sentinel known report) (hneeds : needsKnown known)
      (hnone : ¬ SomeKnown known report) : Judged _ _ _ _ _ _ (.error nothing)
  | kept {known : GoMap PropertyDefinition} {validated : Validated}
      (hknown : declared = some known)
      (hvalid : KnownValid sentinel known report)
      (hsome : needsKnown known → SomeKnown known report)
      (hsplit : Partitions known report validated) :
      Judged _ _ _ _ _ _ (.ok validated)

/-- How a validator treats reports: `declared` is what the definition declares
for the event or service, if it has it, and some name has to be known where
`needsKnown` holds. -/
structure Filters (declared : Option (GoMap PropertyDefinition))
    (needsKnown : GoMap PropertyDefinition → Prop) (sentinel : Sentinel)
    (validate : GoMap Json → Except Failure Validated) : Prop where
  order_free : ∀ {report other}, report.Reordered other →
    refusalOf (validate report) = refusalOf (validate other)
  succeeds_iff : ∀ report, (∃ validated, validate report = .ok validated) ↔
    ∃ known, declared = some known ∧ KnownValid sentinel known report ∧
      (needsKnown known → SomeKnown known report)
  partitions : ∀ {report validated}, validate report = .ok validated →
    ∃ known, declared = some known ∧ Partitions known report validated

section Loop

variable {sentinel : Sentinel} {known : GoMap PropertyDefinition}
  {report other : GoMap Json} {validated : Validated}

/-- The loop ends with an error, whichever value it meets first, unless every
known value is valid. -/
theorem acceptKnown_cases (sentinel : Sentinel)
    (known : GoMap PropertyDefinition) (report : GoMap Json) :
    (KnownValid sentinel known report ∧ acceptKnown sentinel known report =
        .ok
          { accepted := report.filter fun name _ => (known.get? name).isSome
            dropped := report.keys.filter fun name =>
              (known.get? name).isNone }) ∨
      ¬ KnownValid sentinel known report ∧ ∃ err,
        acceptKnown sentinel known report = .error err ∧
        err.sentinel = sentinel := by
  rw [acceptKnown]
  split
  next err hrange =>
    obtain ⟨name, value, hget, herr⟩ := GoMap.range_eq_error hrange
    split at herr
    · cases herr
    next definition hknown =>
      right
      refine ⟨?_, err, rfl, validateDefinedValue_sentinel herr⟩
      intro hvalid
      rw [hvalid name value definition hget hknown] at herr
      cases herr
  next hrange =>
    left
    refine ⟨?_, rfl⟩
    intro name value definition hget hknown
    have hvalue := GoMap.range_eq_ok_iff.mp hrange name value hget
    simpa only [hknown] using hvalue

theorem KnownValid.reordered (hsame : report.Reordered other) :
    KnownValid sentinel known report ↔ KnownValid sentinel known other := by
  simp only [KnownValid, hsame.get?_eq]

theorem SomeKnown.reordered (hsame : report.Reordered other) :
    SomeKnown known report ↔ SomeKnown known other := by
  simp only [SomeKnown, hsame.get?_eq]

/-- Lists of names without repetition that are told apart by membership. -/
theorem partitions_of_mem (haccepted : ∀ name value,
      validated.accepted.get? name = some value ↔
        report.get? name = some value ∧ (known.get? name).isSome = true)
    (hdropped : ∀ name, name ∈ validated.dropped ↔
      (report.get? name).isSome = true ∧ known.get? name = none)
    (hnodup : validated.dropped.Nodup) : Partitions known report validated := by
  refine ⟨haccepted, hdropped, ?_⟩
  have hkept (name : String) : name ∈ validated.accepted.keys ↔
      (report.get? name).isSome = true ∧ (known.get? name).isSome = true := by
    rw [GoMap.mem_keys_iff]
    simp only [Option.isSome_iff_exists, haccepted, exists_and_right]
  rw [List.perm_ext_iff_of_nodup _ report.nodup_keys]
  · intro name
    rw [List.mem_append, hkept, hdropped, GoMap.mem_keys_iff]
    cases known.get? name <;> simp
  · rw [List.nodup_append]
    refine ⟨validated.accepted.nodup_keys, hnodup, ?_⟩
    rintro name hname other hother rfl
    rw [hkept] at hname
    rw [hdropped] at hother
    simp [hother.2] at hname

theorem acceptKnown_partitions
    (hok : acceptKnown sentinel known report = .ok validated) :
    Partitions known report validated := by
  apply partitions_of_mem
  · intro name value
    exact acceptKnown_accepted hok
  all_goals
    rw [acceptKnown] at hok
    split at hok
    · cases hok
    cases hok
  · intro name
    simp [← GoMap.mem_keys_iff]
  · exact report.nodup_keys.filter _

theorem Partitions.isEmpty_iff (hsplit : Partitions known report validated) :
    validated.accepted.isEmpty = true ↔ ¬ SomeKnown known report := by
  rw [GoMap.isEmpty_iff]
  simp only [SomeKnown, Option.eq_none_iff_forall_not_mem, Option.mem_def,
    hsplit.accepted, not_exists, not_and]
  constructor
  · intro hnone name hreported hknown
    obtain ⟨value, hvalue⟩ := Option.isSome_iff_exists.mp hreported
    exact hnone name value hvalue hknown
  · intro hnone name value hvalue
    exact hnone name (by simp [hvalue])

end Loop

section Judgements

variable {declared : Option (GoMap PropertyDefinition)}
  {needsKnown : GoMap PropertyDefinition → Prop} {sentinel : Sentinel}
  {absent nothing : Failure} {validate : GoMap Json → Except Failure Validated}

/-- The same judgement for two orders of one report refuses with one
sentinel. -/
theorem Judged.refusal_eq {report other : GoMap Json}
    {verdict verdict' : Except Failure Validated}
    (hsame : report.Reordered other)
    (hjudged : Judged declared needsKnown sentinel absent nothing
      report verdict)
    (hother : Judged declared needsKnown sentinel absent nothing
      other verdict') :
    refusalOf verdict = refusalOf verdict' := by
  have hvalidity (known : GoMap PropertyDefinition) :=
    @KnownValid.reordered sentinel known report other hsame
  have hsomething (known : GoMap PropertyDefinition) :=
    @SomeKnown.reordered known report other hsame
  cases hjudged <;> cases hother <;>
    simp_all [refusalOf, Failure.refusal]

theorem Judged.succeeds_iff {report : GoMap Json}
    {verdict : Except Failure Validated}
    (hjudged : Judged declared needsKnown sentinel absent nothing report
      verdict) :
    (∃ validated, verdict = .ok validated) ↔
      ∃ known, declared = some known ∧ KnownValid sentinel known report ∧
        (needsKnown known → SomeKnown known report) := by
  cases hjudged <;> simp_all

theorem Judged.partitions {report : GoMap Json} {validated : Validated}
    (hjudged : Judged declared needsKnown sentinel absent nothing report
      (.ok validated)) :
    ∃ known, declared = some known ∧ Partitions known report validated := by
  cases hjudged with
  | kept hknown _ _ hsplit => exact ⟨_, hknown, hsplit⟩

theorem filters_of_judged (hjudged : ∀ report,
      Judged declared needsKnown sentinel absent nothing report
        (validate report)) :
    Filters declared needsKnown sentinel validate where
  order_free hsame := (hjudged _).refusal_eq hsame (hjudged _)
  succeeds_iff report := (hjudged report).succeeds_iff
  partitions {report validated} hok := by
    have hreport := hjudged report
    rw [hok] at hreport
    exact hreport.partitions

end Judgements

section Verdicts

variable {sentinel : Sentinel} {known : GoMap PropertyDefinition}
  {report : GoMap Json}

theorem knownValid_of_unknown
    (hnone : ∀ name, (report.get? name).isSome = true →
      known.get? name = none) :
    KnownValid sentinel known report := by
  intro name value definition hget hknown
  rw [hnone name (by simp [hget])] at hknown
  cases hknown

theorem partitions_of_unknown {dropped : List String}
    (hnone : ∀ name, (report.get? name).isSome = true → known.get? name = none)
    (hdropped : dropped = report.keys) :
    Partitions known report ⟨GoMap.empty, dropped⟩ := by
  apply partitions_of_mem
  · intro name value
    simp only [GoMap.get?_empty, reduceCtorEq, false_iff, not_and]
    intro hget
    simp [hnone name (by simp [hget])]
  · intro name
    rw [hdropped, GoMap.mem_keys_iff]
    exact ⟨fun hreported => ⟨hreported, hnone name hreported⟩, And.left⟩
  · rw [hdropped]
    exact report.nodup_keys

/-- A loop whose empty result is an error where `needsKnown` holds. -/
theorem judged_acceptKnown {declared : Option (GoMap PropertyDefinition)}
    {needsKnown : GoMap PropertyDefinition → Prop} {absent nothing : Failure}
    {verdict : Except Failure Validated} (hknown : declared = some known)
    (hinvalid : ∀ err, acceptKnown sentinel known report = .error err →
      verdict = .error (.value err))
    (hvalid : ∀ validated, acceptKnown sentinel known report = .ok validated →
      needsKnown known ∧ validated.accepted.isEmpty = true ∧
          verdict = .error nothing ∨
        (needsKnown known → validated.accepted.isEmpty = false) ∧
          verdict = .ok validated) :
    Judged declared needsKnown sentinel absent nothing report verdict := by
  rcases acceptKnown_cases sentinel known report with
    ⟨hall, hok⟩ | ⟨hnot, err, herr, hsentinel⟩
  · have hsplit := acceptKnown_partitions hok
    rcases hvalid _ hok with ⟨hneeds, hempty, rfl⟩ | ⟨hsome, rfl⟩
    · exact .nothing hknown hall hneeds (hsplit.isEmpty_iff.mp hempty)
    · refine .kept hknown hall (fun hneeds => ?_) hsplit
      by_contra hnone
      have hempty := hsplit.isEmpty_iff.mpr hnone
      rw [hsome hneeds] at hempty
      cases hempty
  · rw [hinvalid err herr]
    exact .invalid hknown hnot hsentinel

theorem propertyVerdict_judged (definition : Definition) (report : GoMap Json) :
    Judged (some definition.properties) (fun _ => True) .invalidPropertyValue
      .noAcceptedProperties .noAcceptedProperties report
      (propertyVerdict report definition) := by
  apply judged_acceptKnown rfl
  · intro err herr
    simp only [propertyVerdict, herr]
  · intro validated hok
    simp only [propertyVerdict, hok]
    cases validated.accepted.isEmpty <;> simp

theorem eventVerdict_judged (eventName : String) (definition : Definition)
    (report : GoMap Json) :
    Judged ((definition.events.get? eventName).map OutputDefinition.output)
      (fun known => known.isEmpty = false) .invalidEventValue .eventNotFound
      .noAcceptedEventParams report
      (eventVerdict eventName report definition) := by
  rw [eventVerdict]
  cases definition.events.get? eventName with
  | none => exact .absent rfl
  | some event =>
      simp only [Option.map_some]
      split
      next hempty =>
        have hnone (name : String) (_ : (report.get? name).isSome = true) :=
          event.output.isEmpty_iff.mp hempty name
        exact .kept rfl (knownValid_of_unknown hnone) (by simp [hempty])
          (partitions_of_unknown hnone rfl)
      next hdeclared =>
        split
        next hempty =>
          have hreport := report.isEmpty_iff.mp hempty
          refine .nothing rfl (knownValid_of_unknown fun name hname => ?_)
            (by simpa using hdeclared) (by simp [SomeKnown, hreport])
          simp [hreport] at hname
        · apply judged_acceptKnown rfl
          · intro err herr
            simp only [herr]
          · intro validated hok
            simp only [hok]
            cases validated.accepted.isEmpty <;> simp_all

theorem serviceVerdict_judged (serviceName : String) (definition : Definition)
    (report : GoMap Json) :
    Judged ((definition.services.get? serviceName).map OutputDefinition.output)
      (fun _ => False) .invalidServiceOutput .serviceNotFound .serviceNotFound
      report (serviceVerdict serviceName report definition) := by
  rw [serviceVerdict]
  cases definition.services.get? serviceName with
  | none => exact .absent rfl
  | some service =>
      simp only [Option.map_some]
      split
      next hempty =>
        have hnone (name : String) (_ : (report.get? name).isSome = true) :=
          service.output.isEmpty_iff.mp hempty name
        exact .kept rfl (knownValid_of_unknown hnone) False.elim
          (partitions_of_unknown hnone rfl)
      next hdeclared =>
        split
        next hempty =>
          have hreport := report.isEmpty_iff.mp hempty
          have hnone (name : String)
              (hname : (report.get? name).isSome = true) :
              service.output.get? name = none := by
            simp [hreport] at hname
          have hkeys : report.keys = [] := by
            simpa [GoMap.keys] using List.isEmpty_iff.mp hempty
          exact .kept rfl (knownValid_of_unknown hnone) False.elim
            (partitions_of_unknown hnone hkeys.symm)
        · apply judged_acceptKnown rfl
          · intro err herr
            simp only [herr]
          · intro validated hok
            simp only [hok]
            simp

end Verdicts

section Validators

variable {out : Surroundings} {world : World} {tenantID productID : String}
  {definition : Definition}

theorem outcome_validateWith {kind : ThingsModel.Section}
    {refused : Option Failure}
    {verdict : Definition → Except Failure Validated}
    (hctx : out.ctxErr .validator = none)
    (hlookup : (lookup out world kind tenantID productID).outcome =
      .ok definition) :
    (validateWith out world kind refused tenantID productID verdict).outcome =
      match refused with
      | some err => .error err
      | none => verdict definition := by
  unfold validateWith
  simp only [bind, Surroundings.checkCtx, hctx, pure]
  cases refused with
  | some err => rfl
  | none => simp only [hlookup, Traced.outcome_lift]

/-- The early return for an empty report is the verdict on it. -/
theorem outcome_validatePropertyReport (hctx : out.ctxErr .validator = none)
    (htenant : trimSpace tenantID ≠ "") (hproduct : trimSpace productID ≠ "")
    (hlookup : (lookup out world .properties (trimSpace tenantID)
      (trimSpace productID)).outcome = .ok definition) (report : GoMap Json) :
    (validatePropertyReport out world tenantID productID report).outcome =
      propertyVerdict report definition := by
  rw [validatePropertyReport]
  rw [outcome_validateWith hctx hlookup]
  cases hempty : report.isEmpty with
  | false => simp [htenant, hproduct]
  | true =>
      have hnil : report.entries = [] := List.isEmpty_iff.mp hempty
      simp [htenant, hproduct, propertyVerdict, acceptKnown, GoMap.range,
        GoMap.visit, GoMap.filter, GoMap.isEmpty, hnil]

theorem outcome_validateEventReport {eventName : String}
    (hctx : out.ctxErr .validator = none) (htenant : trimSpace tenantID ≠ "")
    (hproduct : trimSpace productID ≠ "") (hname : trimSpace eventName ≠ "")
    (hlookup : (lookup out world .events (trimSpace tenantID)
      (trimSpace productID)).outcome = .ok definition) (report : GoMap Json) :
    (validateEventReport out world tenantID productID eventName
      report).outcome = eventVerdict (trimSpace eventName)
      report definition := by
  rw [validateEventReport]
  rw [outcome_validateWith hctx hlookup]
  simp [htenant, hproduct, hname]

theorem outcome_validateServiceCall {serviceName : String}
    (hctx : out.ctxErr .validator = none) (htenant : trimSpace tenantID ≠ "")
    (hproduct : trimSpace productID ≠ "") (hname : trimSpace serviceName ≠ "")
    (hlookup : (lookup out world .services (trimSpace tenantID)
      (trimSpace productID)).outcome = .ok definition) (report : GoMap Json) :
    (validateServiceCall out world tenantID productID serviceName
        report).outcome =
      serviceVerdict (trimSpace serviceName) report definition := by
  rw [validateServiceCall]
  rw [outcome_validateWith hctx hlookup]
  simp [htenant, hproduct, hname]

end Validators

section Handlers

variable {out : Surroundings} {world : World} {env : Envelope}

/-- Under `key`, the row of a report and its state event hold what the validator
accepted.  A report that is acknowledged has its row, and its state event. -/
structure CarriesAccepted (world : World) (env : Envelope)
    (validate : Call Validated) (table : Table) (key : String)
    (handled : Result × List Effect) : Prop where
  row : ∀ {written row}, .insert written row ∈ handled.2 →
    ∃ validated, validate.outcome = .ok validated ∧ written = table ∧
      row.columns.lookup key = some (.ofMap validated.accepted)
  published : ∀ {topic state}, .publish topic state ∈ handled.2 →
    ∃ validated, validate.outcome = .ok validated ∧
      state.payload.field? key = some (.ofMap validated.accepted)
  acked : handled.1.decision = .ack →
    (Stored world env table env.eventID ∨
      ∃ row, .insert table row ∈ handled.2) ∧
    ∃ topic state, .publish topic state ∈ handled.2

theorem stored_or_inserted {refused : List (Bool × String)} {insert : Insert}
    (hok : (saveEvent out world env refused insert).outcome = .ok ()) :
    Stored world env insert.table insert.id ∨ ∃ row,
      .insert insert.table row ∈
        (saveEvent out world env refused insert).trace := by
  obtain ⟨id, time, hid, htime, htrace⟩ := saveEvent_ok hok
  rw [htrace]
  split
  next hrow => exact Or.inl ⟨id, time, hid, htime, hrow⟩
  · exact Or.inr ⟨_, List.mem_singleton_self _⟩

/-- The frame of the report handlers: one validator, one store, one state
event. -/
theorem carriesAccepted_of_report {α : Type} {what : String}
    {decode : Json → Option α} {fields : α → DeviceFields} {payload : α}
    {body : α → Body Unit} {validate : Call Validated} {stop : Failure → Stop}
    {refused : Validated → List (Bool × String)} {insert : Validated → Insert}
    {state : Validated → Json} {eventType : EventType}
    {saving publishing : String} {kind : ThingsModel.Section}
    {tenantID productID : String} {table : Table} {key : String}
    (hdecode : decode env.payload = some payload)
    (hbody : body payload = reportBody out env validate stop saving
      (fun validated =>
        saveEvent out world env (refused validated) (insert validated))
      publishing eventType state)
    (hlookups : ∀ effect ∈ validate.trace,
      effect.OfLookup kind tenantID productID)
    (htable : ∀ validated, (insert validated).table = table)
    (hid : ∀ validated, (insert validated).id = env.eventID)
    (hcolumn : ∀ validated, (insert validated).columns.lookup key =
      some (.ofMap validated.accepted))
    (hstate : ∀ validated, (state validated).field? key =
      some (.ofMap validated.accepted)) :
    CarriesAccepted world env validate table key
      (handleWith out what decode fields body env) := by
  refine ⟨?_, ?_, ?_⟩
  · intro written row hmem
    have hrow := mem_trace_of_handleWith hdecode hmem
    rw [hbody] at hrow
    obtain ⟨validated, hok, hsave⟩ := insert_of_report hlookups hrow
    obtain ⟨_, heq, ⟨-, hcolumns⟩, -⟩ := mem_trace_saveEvent hsave
    cases heq
    exact ⟨validated, hok, htable validated, hcolumns ▸ hcolumn validated⟩
  · intro topic written hmem
    have hpublish := mem_trace_of_handleWith hdecode hmem
    rw [hbody] at hpublish
    rcases mem_trace_reportBody.mp hpublish with
      hmem | ⟨validated, hok, hmem | ⟨-, hmem⟩⟩
    · rcases hlookups _ hmem with heq | ⟨_, _, heq⟩ <;> cases heq
    · obtain ⟨_, heq, -⟩ := mem_trace_saveEvent hmem
      cases heq
    · obtain ⟨-, -, -, id, -, heq⟩ := mem_trace_publishEvent.mp hmem
      cases heq
      exact ⟨validated, hok, hstate validated⟩
  · intro hack
    obtain ⟨hctx, found, hfound, hok⟩ := handleWith_ack_iff.mp hack
    rw [hdecode] at hfound
    cases hfound
    rw [trace_handleWith hctx, hdecode, Option.map_some, Option.getD_some]
    rw [hbody] at hok ⊢
    obtain ⟨validated, hvalidate, hsave, hpublish⟩ := reportBody_ok hok
    constructor
    · rcases stored_or_inserted hsave with hstored | ⟨row, hrow⟩
      · rw [htable, hid] at hstored
        exact Or.inl hstored
      · rw [htable] at hrow
        exact Or.inr ⟨row, mem_trace_reportBody.mpr
          (Or.inr ⟨validated, hvalidate, Or.inl hrow⟩)⟩
    · obtain ⟨id, hid⟩ := publishEvent_ok hpublish
      exact ⟨_, _, mem_trace_reportBody.mpr
        (Or.inr ⟨validated, hvalidate, Or.inr ⟨hsave, hid⟩⟩)⟩

theorem propertyReport_carriesAccepted {payload : PropertyReportedPayload}
    (hdecode : PropertyReportedPayload.decode env.payload = some payload) :
    CarriesAccepted world env (validatePropertyReport out world payload.tenantID
        payload.productID (payload.properties.getD GoMap.empty))
      .propertyReport "properties" (propertyReportHandle out world env) := by
  apply carriesAccepted_of_report hdecode rfl
    (fun effect hmem => mem_trace_validatePropertyReport hmem)
  all_goals
    intro validated
    rfl

theorem eventReport_carriesAccepted {payload : EventReportedPayload}
    (hdecode : EventReportedPayload.decode env.payload = some payload) :
    CarriesAccepted world env (validateEventReport out world payload.tenantID
        payload.productID payload.eventName (payload.params.getD GoMap.empty))
      .eventReport "params" (eventReportHandle out world env) := by
  apply carriesAccepted_of_report hdecode rfl
    (fun effect hmem => mem_trace_validateEventReport hmem)
  all_goals
    intro validated
    rfl

end Handlers

section Filtering

/-- A validator whose lookup yields a definition keeps what the definition knows
of a report, in any order, and the handlers store and publish that. -/
theorem report_filtering (out : Surroundings) (world : World)
    (tenantID productID : String) (hctx : out.ctxErr .validator = none)
    (htenant : trimSpace tenantID ≠ "") (hproduct : trimSpace productID ≠ "") :
    (∀ definition, (lookup out world .properties (trimSpace tenantID)
        (trimSpace productID)).outcome = .ok definition →
      Filters (some definition.properties) (fun _ => True) .invalidPropertyValue
        fun report =>
          (validatePropertyReport out world tenantID productID
            report).outcome) ∧
    (∀ eventName definition, trimSpace eventName ≠ "" →
      (lookup out world .events (trimSpace tenantID)
        (trimSpace productID)).outcome = .ok definition →
      Filters
        ((definition.events.get? (trimSpace eventName)).map
          OutputDefinition.output)
        (fun known => known.isEmpty = false) .invalidEventValue fun report =>
          (validateEventReport out world tenantID productID eventName
            report).outcome) ∧
    (∀ serviceName definition, trimSpace serviceName ≠ "" →
      (lookup out world .services (trimSpace tenantID)
        (trimSpace productID)).outcome = .ok definition →
      Filters
        ((definition.services.get? (trimSpace serviceName)).map
          OutputDefinition.output)
        (fun _ => False) .invalidServiceOutput fun report =>
          (validateServiceCall out world tenantID productID serviceName
            report).outcome) ∧
    (∀ env payload, PropertyReportedPayload.decode env.payload = some payload →
      CarriesAccepted world env
        (validatePropertyReport out world payload.tenantID payload.productID
          (payload.properties.getD GoMap.empty))
        .propertyReport "properties" (propertyReportHandle out world env)) ∧
    (∀ env payload, EventReportedPayload.decode env.payload = some payload →
      CarriesAccepted world env
        (validateEventReport out world payload.tenantID payload.productID
          payload.eventName (payload.params.getD GoMap.empty))
        .eventReport "params" (eventReportHandle out world env)) := by
  refine ⟨?_, ?_, ?_, ?_, ?_⟩
  · intro definition hlookup
    apply filters_of_judged
    intro report
    rw [outcome_validatePropertyReport hctx htenant hproduct hlookup]
    exact propertyVerdict_judged definition report
  · intro eventName definition hname hlookup
    apply filters_of_judged
    intro report
    rw [outcome_validateEventReport hctx htenant hproduct hname hlookup]
    exact eventVerdict_judged _ definition report
  · intro serviceName definition hname hlookup
    apply filters_of_judged
    intro report
    rw [outcome_validateServiceCall hctx htenant hproduct hname hlookup]
    exact serviceVerdict_judged _ definition report
  · intro env payload hdecode
    exact propertyReport_carriesAccepted hdecode
  · intro env payload hdecode
    exact eventReport_carriesAccepted hdecode

theorem sample_ids :
    trimSpace (Uuid.text 1) ≠ "" ∧ trimSpace (Uuid.text 2) ≠ "" := by
  decide +kernel

/-- The lookups of the sample's product yield its definition. -/
theorem sample_lookup (kind : ThingsModel.Section) :
    ∃ definition, (lookup calm sampleWorld kind (trimSpace (Uuid.text 1))
      (trimSpace (Uuid.text 2))).outcome = .ok definition := by
  have hread : (currentDefinition sampleWorld (trimSpace (Uuid.text 1))
      (trimSpace (Uuid.text 2))).isSome = true := by decide +kernel
  obtain ⟨definition, hdefinition⟩ := Option.isSome_iff_exists.mp hread
  refine ⟨definition, outcome_lookup_eq_ok.mpr ⟨Or.inr ⟨rfl, rfl⟩, ?_⟩⟩
  exact hdefinition

theorem report_filtering_sample :
    (∃ definition, (lookup calm sampleWorld .properties
        (trimSpace (Uuid.text 1)) (trimSpace (Uuid.text 2))).outcome =
          .ok definition ∧
      Filters (some definition.properties) (fun _ => True) .invalidPropertyValue
        fun report => (validatePropertyReport calm sampleWorld (Uuid.text 1)
          (Uuid.text 2) report).outcome) ∧
    (∃ definition, (lookup calm sampleWorld .events (trimSpace (Uuid.text 1))
        (trimSpace (Uuid.text 2))).outcome = .ok definition ∧
      Filters
        ((definition.events.get? (trimSpace "alarm")).map
          OutputDefinition.output)
        (fun known => known.isEmpty = false) .invalidEventValue fun report =>
          (validateEventReport calm sampleWorld (Uuid.text 1) (Uuid.text 2)
            "alarm" report).outcome) := by
  have hfiltering := report_filtering calm sampleWorld (Uuid.text 1)
    (Uuid.text 2) rfl sample_ids.1 sample_ids.2
  obtain ⟨definition, hproperties⟩ := sample_lookup .properties
  obtain ⟨other, hevents⟩ := sample_lookup .events
  exact ⟨⟨definition, hproperties, hfiltering.1 definition hproperties⟩,
    ⟨other, hevents,
      hfiltering.2.1 "alarm" other (by decide +kernel) hevents⟩⟩

end Filtering

end Processor

end LinkFlow
