/-
Which tenant each effect of an acknowledged message belongs to.
-/
import LinkFlow.ProcessorBodies

namespace LinkFlow

namespace Processor

variable {out : Surroundings} {world : World} {env : Envelope}

/-- The `tenant_id` member of a payload. -/
def payloadTenant (payload : Json) : Option String :=
  (payload.object?.bind (·.get? "tenant_id")).bind Json.string?

/-- The tenant of a lookup, a new row, an updated row, a Redis key, and both
tenants of a published event. -/
def Effect.InTenant (tenantID : String) : Effect → Prop
  | .lookup _ tenant _ => tenant = tenantID
  | .cache _ _ _ => True
  | .insert _ row => row.tenantID = tenantID
  | .update _ tenant _ _ => Uuid.ofText? tenantID = some tenant
  | .setOnline tenant _ _ | .delOnline tenant _ => tenant = tenantID
  | .publish _ envelope =>
      envelope.tenantID = tenantID ∧
        payloadTenant envelope.payload = some tenantID
  | .downlink _ => True

/-- When all tenants of a message agree, by the kind of its payload. -/
def TenantsAgree (world : World) (env : Envelope) : Payload → Prop
  | .propertyReported payload =>
      payload.tenantID = env.tenantID ∧ trimSpace env.tenantID = env.tenantID
  | .eventReported payload =>
      payload.tenantID = env.tenantID ∧ trimSpace env.tenantID = env.tenantID
  | .serviceCallAcknowledged payload =>
      trimSpace payload.tenantID = env.tenantID
  | .connected payload =>
      payload.tenantID = env.tenantID ∨
        ¬ UpdatesRow world env .online payload.toDeviceFields
  | .disconnected payload =>
      payload.tenantID = env.tenantID ∨
        ¬ UpdatesRow world env .offline payload.toDeviceFields
  | .propertySetRequested _ | .propertySetAcknowledged _
  | .serviceCallRequested _ => True

section Payloads

theorem payloadTenant_members {fields : DeviceFields}
    {members : List (String × Json)}
    (hnone : "tenant_id" ∉ members.map Prod.fst) :
    payloadTenant (.obj (fields.members ++ members)) =
      some fields.tenantID := by
  have hrest : members.reverse.lookup "tenant_id" = none := by
    rw [List.lookup_eq_none_iff]
    intro member hmember
    simp only [ne_eq, bne_iff_ne]
    intro hname
    exact hnone (hname ▸ List.mem_map_of_mem (List.mem_reverse.mp hmember))
  simp [payloadTenant, Json.object?, GoMap.get?_ofMembers, GoMap.lastMember,
    List.lookup_append, hrest, DeviceFields.members, List.lookup_cons,
    Json.string?]

theorem connectionChanged_tenant (payload : ConnectionChangedPayload) :
    payloadTenant payload.json = some payload.tenantID := by
  rw [ConnectionChangedPayload.json]
  rw [List.append_assoc]
  apply payloadTenant_members
  by_cases hreason : payload.reason = "" <;> simp [omitEmpty, hreason]

theorem propertyChanged_tenant (payload : PropertyChangedPayload) :
    payloadTenant payload.json = some payload.tenantID :=
  payloadTenant_members (by simp)

theorem eventReceived_tenant (payload : EventReceivedPayload) :
    payloadTenant payload.json = some payload.tenantID :=
  payloadTenant_members (by simp)

end Payloads

section Calls

variable {tenantID : String}

theorem inTenant_of_ofLookup {kind : ThingsModel.Section}
    {tenant product : String} {effect : Effect}
    (heffect : effect.OfLookup kind tenant product)
    (htenant : tenant = tenantID) :
    effect.InTenant tenantID := by
  rcases heffect with rfl | ⟨key, entry, rfl⟩
  · exact htenant
  · trivial

/-- Every row is written with the envelope's tenant. -/
theorem saveEvent_inTenant {refused : List (Bool × String)} {insert : Insert}
    {effect : Effect}
    (hmem : effect ∈ (saveEvent out world env refused insert).trace) :
    effect.InTenant env.tenantID := by
  obtain ⟨row, rfl, ⟨hrow, -⟩, -⟩ := mem_trace_saveEvent hmem
  exact hrow

/-- A report's effects agree on the tenant exactly when the tenant it looks up
and the tenant it publishes are the envelope's. -/
theorem report_inTenant_iff {validate : Call Validated} {stop : Failure → Stop}
    {kind : ThingsModel.Section} {tenant product payloadTenantID : String}
    {save : Validated → Call Unit} {eventType : EventType}
    {payload : Validated → Json} {saving publishing : String}
    (hlookups : ∀ effect ∈ validate.trace, effect.OfLookup kind tenant product)
    (hlooked : ∀ validated, validate.outcome = .ok validated →
      .lookup kind tenant product ∈ validate.trace)
    (hsaves : ∀ validated, ∀ effect ∈ (save validated).trace,
      effect.InTenant env.tenantID)
    (hpayload : ∀ validated,
      payloadTenant (payload validated) = some payloadTenantID)
    (hok : (reportBody out env validate stop saving save publishing eventType
      payload).outcome = .ok ()) :
    (∀ effect ∈ (reportBody out env validate stop saving save publishing
      eventType payload).trace, effect.InTenant env.tenantID) ↔
      payloadTenantID = env.tenantID ∧ tenant = env.tenantID := by
  obtain ⟨validated, hvalidate, hsave, hpublish⟩ := reportBody_ok hok
  constructor
  · intro hall
    have hlookup := hall _ (mem_trace_reportBody.mpr
      (Or.inl (hlooked validated hvalidate)))
    obtain ⟨id, hpublished⟩ := publishEvent_ok hpublish
    have hstate := hall _ (mem_trace_reportBody.mpr
      (Or.inr ⟨validated, hvalidate, Or.inr ⟨hsave, hpublished⟩⟩))
    have hboth := hstate.2
    change payloadTenant (payload validated) = _ at hboth
    rw [hpayload, Option.some.injEq] at hboth
    exact ⟨hboth, hlookup⟩
  · rintro ⟨hsame, htenant⟩ effect hmem
    rcases mem_trace_reportBody.mp hmem with
      hmem | ⟨validated, -, hmem | ⟨-, hmem⟩⟩
    · exact inTenant_of_ofLookup (hlookups effect hmem) htenant
    · exact hsaves validated effect hmem
    · obtain ⟨-, -, -, id, -, rfl⟩ := mem_trace_publishEvent.mp hmem
      refine ⟨rfl, ?_⟩
      change payloadTenant (payload validated) = _
      rw [hpayload, hsame]

/-- The body of a connection event, with the Redis command of its status. -/
theorem connection_inTenant_iff {fields : DeviceFields}
    {status : Connection.Status} {marking context text reason : String}
    {mark : DeviceConnectionEvent → Call Bool}
    {redis : DeviceConnectionEvent → Effect}
    (hmark : ∀ input, mark input =
      markConnection out world input status marking (redis input))
    (hredis : ∀ input tenantID, (redis input).InTenant tenantID ↔
      input.tenantID = tenantID)
    (hok : (connectionBody out env fields mark context text reason).outcome =
      .ok ()) :
    (∀ effect ∈ (connectionBody out env fields mark context text reason).trace,
      effect.InTenant env.tenantID) ↔
      fields.tenantID = env.tenantID ∨
      ¬ UpdatesRow world env status fields := by
  obtain ⟨time, applied, htime, hmarked, -⟩ := connectionBody_ok hok
  rw [hmark] at hmarked
  obtain ⟨hctx, hupdate, hset⟩ := markConnection_ok hmarked
  obtain ⟨hcarried, happlied⟩ := updateConnectionStatus_ok hupdate
  constructor
  · intro hall
    by_cases hupdates : UpdatesRow world env status fields
    · left
      obtain ⟨other, deviceID, tenant, hother, hmatches⟩ := hupdates
      rw [htime] at hother
      cases hother
      have htrue : applied = true := happlied.mpr ⟨deviceID, tenant, hmatches⟩
      subst htrue
      have hmem := hall (redis (connectionInput fields time))
        (mem_trace_connectionBody.mpr ⟨time, htime, Or.inl (by
          rw [hmark]
          exact mem_trace_markConnection.mpr
            ⟨hctx, Or.inr ⟨hupdate, by simp [hset rfl], rfl⟩⟩)⟩)
      exact (hredis _ _).mp hmem
    · exact Or.inr hupdates
  · intro hagree effect hmem
    obtain ⟨other, hother, hmem⟩ := mem_trace_connectionBody.mp hmem
    rw [hmark] at hmem
    rcases hmem with hmem | ⟨hmarked, hmem⟩
    · obtain ⟨-, hmem⟩ := mem_trace_markConnection.mp hmem
      rcases hmem with hmem | ⟨hdone, -, rfl⟩
      · obtain ⟨-, deviceID, tenant, hmatches, rfl⟩ :=
          mem_trace_updateConnectionStatus.mp hmem
        have hsame := hagree.resolve_right fun hnot =>
          hnot ⟨other, deviceID, tenant, hother, hmatches⟩
        change Uuid.ofText? env.tenantID = some tenant
        rw [← hsame]
        exact hmatches.2.1
      · obtain ⟨-, hrow⟩ := updateConnectionStatus_ok hdone
        obtain ⟨deviceID, tenant, hmatches⟩ := hrow.mp rfl
        have hsame := hagree.resolve_right fun hnot =>
          hnot ⟨other, deviceID, tenant, hother, hmatches⟩
        exact (hredis _ _).mpr hsame
    · obtain ⟨-, hdone, -⟩ := markConnection_ok hmarked
      obtain ⟨-, hrow⟩ := updateConnectionStatus_ok hdone
      obtain ⟨deviceID, tenant, hmatches⟩ := hrow.mp rfl
      have hsame := hagree.resolve_right fun hnot =>
        hnot ⟨other, deviceID, tenant, hother, hmatches⟩
      obtain ⟨-, -, -, id, -, rfl⟩ := mem_trace_publishEvent.mp hmem
      refine ⟨rfl, ?_⟩
      change payloadTenant (ConnectionChangedPayload.json _) = _
      rw [connectionChanged_tenant, hsame]

end Calls

section Bodies

theorem propertyReport_inTenant_iff {payload : PropertyReportedPayload}
    (hok : (propertyReportBody out world env payload).outcome = .ok ()) :
    (∀ effect ∈ (propertyReportBody out world env payload).trace,
      effect.InTenant env.tenantID) ↔
      payload.tenantID = env.tenantID ∧
        trimSpace payload.tenantID = env.tenantID := by
  rw [propertyReportBody] at hok ⊢
  apply report_inTenant_iff
  · exact fun effect hmem => mem_trace_validatePropertyReport hmem
  · exact fun validated hvalidate => lookup_mem_validateWith hvalidate
  · exact fun validated effect hmem => saveEvent_inTenant hmem
  · exact fun validated => propertyChanged_tenant _
  · exact hok

theorem eventReport_inTenant_iff {payload : EventReportedPayload}
    (hok : (eventReportBody out world env payload).outcome = .ok ()) :
    (∀ effect ∈ (eventReportBody out world env payload).trace,
      effect.InTenant env.tenantID) ↔
      payload.tenantID = env.tenantID ∧
        trimSpace payload.tenantID = env.tenantID := by
  rw [eventReportBody] at hok ⊢
  apply report_inTenant_iff
  · exact fun effect hmem => mem_trace_validateEventReport hmem
  · exact fun validated hvalidate => lookup_mem_validateWith hvalidate
  · exact fun validated effect hmem => saveEvent_inTenant hmem
  · exact fun validated => eventReceived_tenant _
  · exact hok

/-- An acknowledged call is looked up with the payload's tenant. -/
theorem serviceCall_inTenant_iff {payload : ServiceCallAcknowledgedPayload}
    (hok : (serviceCallBody out world env payload).outcome = .ok ()) :
    (∀ effect ∈ (serviceCallBody out world env payload).trace,
      effect.InTenant env.tenantID) ↔
      trimSpace payload.tenantID = env.tenantID := by
  obtain ⟨validated, hvalidate, -⟩ := serviceCallBody_ok hok
  constructor
  · intro hall
    exact hall _ (mem_trace_serviceCallBody.mpr
      (Or.inl (lookup_mem_validateWith hvalidate)))
  · intro htenant effect hmem
    rcases mem_trace_serviceCallBody.mp hmem with hmem | ⟨_, -, hmem⟩
    · exact inTenant_of_ofLookup (mem_trace_validateServiceCall hmem) htenant
    · exact saveEvent_inTenant hmem

/-- A message to a device carries no tenant of its own. -/
theorem propertySetRequested_inTenant {payload : PropertySetRequestedPayload} :
    ∀ effect ∈ (propertySetRequestedBody out world env payload).trace,
      effect.InTenant env.tenantID := by
  intro effect hmem
  rcases mem_trace_commandBody.mp hmem with hmem | ⟨-, hmem⟩
  · exact saveEvent_inTenant hmem
  · obtain ⟨-, -, -, -, rfl⟩ := mem_trace_publishPropertySet.mp hmem
    trivial

theorem serviceCallRequested_inTenant {payload : ServiceCallRequestedPayload} :
    ∀ effect ∈ (serviceCallRequestedBody out world env payload).trace,
      effect.InTenant env.tenantID := by
  intro effect hmem
  rcases mem_trace_commandBody.mp hmem with hmem | ⟨-, hmem⟩
  · exact saveEvent_inTenant hmem
  · obtain ⟨-, -, -, rfl⟩ := mem_trace_publishServiceCall.mp hmem
    trivial

/-- The effects of an acknowledged body agree on the tenant exactly when the
tenants in the message do. -/
theorem body_inTenant_iff {payload : Payload}
    (hok : (payload.body out world env).outcome = .ok ()) :
    (∀ effect ∈ (payload.body out world env).trace,
      effect.InTenant env.tenantID) ↔ TenantsAgree world env payload := by
  cases payload with
  | propertyReported payload =>
      rw [show TenantsAgree world env (.propertyReported payload) ↔
        payload.tenantID = env.tenantID ∧
          trimSpace payload.tenantID = env.tenantID from
        and_congr_right fun hsame => by rw [hsame]]
      exact propertyReport_inTenant_iff hok
  | eventReported payload =>
      rw [show TenantsAgree world env (.eventReported payload) ↔
        payload.tenantID = env.tenantID ∧
          trimSpace payload.tenantID = env.tenantID from
        and_congr_right fun hsame => by rw [hsame]]
      exact eventReport_inTenant_iff hok
  | serviceCallAcknowledged payload => exact serviceCall_inTenant_iff hok
  | propertySetRequested payload =>
      exact iff_of_true propertySetRequested_inTenant trivial
  | serviceCallRequested payload =>
      exact iff_of_true serviceCallRequested_inTenant trivial
  | propertySetAcknowledged payload =>
      exact iff_of_true (fun effect hmem => saveEvent_inTenant hmem) trivial
  | connected payload =>
      exact connection_inTenant_iff (fun _ => rfl) (fun _ _ => Iff.rfl) hok
  | disconnected payload =>
      exact connection_inTenant_iff (fun _ => rfl) (fun _ _ => Iff.rfl) hok

end Bodies

/-- For every message that is acknowledged, every tenant that its handling uses
is the envelope's exactly when the tenants in the message agree. -/
theorem one_tenant_iff (formats : FormatChecker) {message : Option Json}
    {eventType : EventType}
    (hvalid : validateEvent formats message = .ok (env, eventType))
    (hack : (process out world formats message).1.decision = .ack) :
    (∀ effect ∈ (process out world formats message).2,
      effect.InTenant env.tenantID) ↔
      ∀ payload, Payload.decode eventType env.payload = some payload →
        TenantsAgree world env payload := by
  obtain ⟨hbegins, payload, hdecode, hok⟩ := (process_ack_iff hvalid).mp hack
  rw [trace_process hvalid hbegins, hdecode]
  simp only [Option.map_some, Option.getD_some, Option.some.injEq,
    forall_eq']
  exact body_inTenant_iff hok

theorem one_tenant_same_tenant :
    (process calm sampleWorld FormatChecker.byShape
      (some (sampleReport (Uuid.text 1)).json)).1.decision = .ack ∧
    ∀ effect ∈ (process calm sampleWorld FormatChecker.byShape
      (some (sampleReport (Uuid.text 1)).json)).2,
      effect.InTenant (Uuid.text 1) := by
  have hack : (process calm sampleWorld FormatChecker.byShape
      (some (sampleReport (Uuid.text 1)).json)).1.decision = .ack := by
    decide +kernel
  refine ⟨hack, (one_tenant_iff FormatChecker.byShape sampleReport_valid
    hack).mpr ?_⟩
  intro payload hdecode
  cases hdecode
  exact ⟨rfl, (by decide : trimSpace (Uuid.text 1) = Uuid.text 1)⟩

/-- A report whose payload names another tenant is acknowledged, after a lookup
in the model of that tenant. -/
theorem one_tenant_fails_other_tenant :
    validateEvent FormatChecker.byShape
        (some (sampleReport (Uuid.text 7)).json) =
      .ok (sampleReport (Uuid.text 7), .propertyReported) ∧
    (process calm sampleWorld FormatChecker.byShape
      (some (sampleReport (Uuid.text 7)).json)).1.decision = .ack ∧
    ∃ effect ∈ (process calm sampleWorld FormatChecker.byShape
      (some (sampleReport (Uuid.text 7)).json)).2,
      ¬ effect.InTenant (sampleReport (Uuid.text 7)).tenantID := by
  have hlookup : ((process calm sampleWorld FormatChecker.byShape
      (some (sampleReport (Uuid.text 7)).json)).2.any fun effect =>
        match effect with
        | .lookup _ tenantID _ => tenantID ≠ Uuid.text 1
        | _ => false) = true := by decide +kernel
  refine ⟨rfl, by decide +kernel, ?_⟩
  obtain ⟨effect, hmem, heffect⟩ := List.any_eq_true.mp hlookup
  refine ⟨effect, hmem, ?_⟩
  cases effect with
  | lookup kind tenantID productID =>
      exact fun hsame : tenantID = Uuid.text 1 =>
        of_decide_eq_true heffect hsame
  | _ => cases heffect

end Processor

end LinkFlow
