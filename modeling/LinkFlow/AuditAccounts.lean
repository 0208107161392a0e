/-
What the entry of a request accounts for: each handler that changes something
records, in the end, exactly what its service has done.
-/
import LinkFlow.BusinessHandlers
import LinkFlow.RegistryDeeds

namespace LinkFlow

namespace Audit

open Registry

section Accounts

/-- The entry is of a request for a command of this record's kind. -/
def AuditEntry.Orders (entry : AuditEntry) (record : KafkaRecord) : Prop :=
  entry.action = "device.property.set" ∧
      record.topic = EventType.propertySetRequested.topic ∨
    entry.action = "device.service.call" ∧
      record.topic = EventType.serviceCallRequested.topic

/-- What an entry says of the request it is about: that it was refused and
changed nothing, that its user has done one thing to one row, that it sent the
record of one command, or that it failed to, and the record is in its topic all
the same. -/
inductive Accounts (userID : Uuid) (entry : AuditEntry) (held : Holdings) :
    Holdings → Prop
  | refused (hresult : entry.result = .failure)
      (hstatus : 400 ≤ entry.statusCode) : Accounts userID entry held held
  | performed {verb : Verb} {kind : Aggregate} {id : Uuid} {next : Database}
      (hresult : entry.result = .success)
      (haction : entry.action = kind.text ++ "." ++ verb.text)
      (htype : entry.resourceType = kind.text)
      (hid : Uuid.ofText? entry.resourceID = some id)
      (hperformed : Performed userID verb kind id held.db next) :
      Accounts userID entry held { held with db := next }
  | dispatched {record : KafkaRecord} (hresult : entry.result = .success)
      (haction : entry.Orders record)
      (hcommand : entry.metadata.get? "command_id" = some (.str record.key)) :
      Accounts userID entry held { held with sent := held.sent ++ [record] }
  | lost {record : KafkaRecord} (hresult : entry.result = .failure)
      (hstatus : entry.statusCode = errInternal.httpStatus)
      (hcode : entry.errorCode = errInternal.code)
      (haction : entry.Orders record) :
      Accounts userID entry held { held with sent := held.sent ++ [record] }

/-- What a handler has recorded accounts for what it has changed; if it recorded
nothing, it changed nothing. -/
def Accounted (http : HTTPRequest) (principal : Principal) (durationMS : Nat)
    (held : Holdings) (result : Served × Holdings) : Prop :=
  match auditEntry http principal result.1.response.status durationMS
      result.1.recorder with
  | none => result.2 = held
  | some entry => Accounts principal.userID entry.trimmed held result.2

end Accounts

section Services

variable {α : Type} {casing : Casing} {bcrypt : Bcrypt}
  {out : Registry.Surroundings} {db : Database}

/-- A call of the registry reports an error and leaves the database, or succeeds
and makes a change of this kind. -/
def Serves (post : α → Database → Prop) (db : Database) (reply : Reply α) :
    Prop :=
  (∃ err, reply = (.error err, db)) ∨
    ∃ value next, reply = (.ok value, next) ∧ post value next

theorem serviceCall_serves {refused : Bool} {err : Failure} {scope : String}
    {userID : Uuid} {translate : Failure → Failure}
    {body : Session → Statement α} {post : α → Database → Prop}
    (hbody : ∀ value next, body (.actor userID) db = .ok (value, next) →
      post value next) :
    Serves post db (serviceCall out refused err
      (storeCall out scope userID translate body) db) := by
  rw [serviceCall]
  split
  · exact Or.inl ⟨_, rfl⟩
  · split
    · exact Or.inl ⟨_, rfl⟩
    · rcases storeCall_cases out scope userID translate body db with
        hfailed | ⟨value, next, hok, hcall⟩
      · exact Or.inl hfailed
      · exact Or.inr ⟨value, next, hcall, hbody value next hok⟩

/-- What the services do for a user: one deed to a new row, or to the row whose
id the input has after trimming. -/
def Creates (db : Database) (reply : Reply α) (userID : Uuid) (kind : Aggregate)
    (id : α → Uuid) : Prop :=
  Serves (fun value next => Performed userID .create kind (id value) db next) db
    reply

def Changes (db : Database) (reply : Reply α) (userID : Uuid) (verb : Verb)
    (kind : Aggregate) (text : String) : Prop :=
  Serves (fun _ next => ∃ id, Uuid.ofText? (trimSpace text) = some id ∧
    Performed userID verb kind id db next) db reply

theorem createTenant_creates {input : TenantCreateInput} :
    Creates db (TenantService.create casing out input db) input.userID
      .tenant Tenant.id :=
  serviceCall_serves fun _ _ hok => insertTenant_performed hok

theorem updateTenant_changes {input : TenantUpdateInput} :
    Changes db (TenantService.update out input db) input.userID
      .update .tenant input.tenantID :=
  serviceCall_serves fun _ _ hok => (updateTenantRow_performed hok :)

theorem deleteTenant_changes {input : RowInput} :
    Changes db (TenantService.delete out input db) input.userID
      .delete .tenant input.id :=
  serviceCall_serves fun _ _ hok => (deleteTenantRow_performed hok :)

theorem createProduct_creates {input : ProductCreateInput} :
    Creates db (ProductService.create casing out input db) input.userID
      .product Product.id :=
  serviceCall_serves fun _ _ hok => insertProduct_performed hok

theorem updateProduct_changes {input : ProductUpdateInput} :
    Changes db (ProductService.update out input db) input.userID
      .update .product input.productID :=
  serviceCall_serves fun _ _ hok => (updateProductRow_performed hok :)

theorem deleteProduct_changes {input : RowInput} :
    Changes db (ProductService.delete out input db) input.userID
      .delete .product input.id :=
  serviceCall_serves fun _ _ hok => (deleteProductRow_performed hok :)

theorem createThingsModel_creates {input : ThingsModelService.CreateInput} :
    Creates db (ThingsModelService.create out input db) input.userID
      .thingsModel ThingsModel.id :=
  serviceCall_serves fun _ _ hok => insertThingsModel_performed hok

theorem updateThingsModel_changes {input : ThingsModelService.UpdateInput} :
    Changes db (ThingsModelService.update out input db) input.userID
      .update .thingsModel input.thingsModelID :=
  serviceCall_serves fun _ _ hok => (updateThingsModelRow_performed hok :)

theorem deleteThingsModel_changes {input : RowInput} :
    Changes db (ThingsModelService.delete out input db) input.userID
      .delete .thingsModel input.id :=
  serviceCall_serves fun _ _ hok => (deleteThingsModelRow_performed hok :)

theorem updateDevice_changes {input : DeviceUpdateInput} :
    Changes db (DeviceCalls.update out input db) input.userID
      .update .device input.deviceID :=
  serviceCall_serves fun _ _ hok => (updateDeviceRow_performed hok :)

theorem deleteDevice_changes {input : RowInput} :
    Changes db (DeviceCalls.delete out input db) input.userID
      .delete .device input.id :=
  serviceCall_serves fun _ _ hok => (deleteDeviceRow_performed hok :)

theorem createDevice_creates {lookup : Registry.Surroundings}
    {source : SecretSource} {input : DeviceCreateInput} :
    Creates db (DeviceCalls.create casing bcrypt lookup out source input db)
      input.userID .device fun result => result.device.id := by
  rcases @create_cases casing bcrypt ⟨out, input.userID, .nothing, none, true⟩
    db
      lookup source input rfl with
    hfailed | ⟨device, secret, hash, devices, credentials, hcall, -, howned, -,
      -, hadds, hcredential⟩
  · exact Or.inl hfailed
  · exact Or.inr ⟨_, _, hcall, device_created howned hadds hcredential⟩

end Services

section Handlers

variable {α β ε : Type} {http : HTTPRequest} {principal : Principal}
  {durationMS : Nat} {held : Holdings} {body : Except Handler.HTTPError α}
  {mark : α → AuditRecorder → AuditRecorder} {mapErr : ε → HTTPError}
  {finish : β → AuditRecorder → AuditRecorder} {reply : β → Response}

/-- A handler that has named an action leaves an entry with what it recorded. -/
theorem accounted_of_named {result : Served × Holdings}
    (haction : result.1.recorder.action ≠ "")
    (htype : result.1.recorder.resourceType ≠ "")
    (haccounts : ∀ entry : AuditEntry,
      entry.action = result.1.recorder.action →
      entry.resourceType = result.1.recorder.resourceType →
      entry.resourceID = result.1.recorder.resourceID →
      entry.metadata = result.1.recorder.metadata →
      entry.statusCode = result.1.response.status →
      entry.result = (if 400 ≤ result.1.response.status then .failure
        else .success) →
      (result.1.recorder.errorCode ≠ "" →
        entry.errorCode = result.1.recorder.errorCode) →
      Accounts principal.userID entry.trimmed held result.2) :
    Accounted http principal durationMS held result := by
  rw [Accounted, auditEntry]
  rw [if_neg (by simp [haction, htype])]
  refine haccounts _ rfl rfl rfl rfl rfl rfl fun hcode => ?_
  exact if_neg (by simp [hcode])

/-- A handler accounts for its request if its service either reports an error or
does what the recorder then says, and in both cases the entry tells of it. -/
theorem businessHandler_accounted
    {call : Principal → α → Holdings → Except ε β × Holdings}
    (hmark : ∀ req, (mark req .blank).action ≠ "" ∧
      (mark req .blank).resourceType ≠ "")
    (hfinish : ∀ value recorder,
      (finish value recorder).action = recorder.action ∧
      (finish value recorder).resourceType = recorder.resourceType)
    (herror : ∀ err, 400 ≤ (mapErr err).httpStatus)
    (hreply : ∀ value, (reply value).status < 400)
    (hcall : ∀ req,
      (∃ err next, call principal req held = (.error err, next) ∧
        ∀ entry : AuditEntry, entry.result = .failure →
          entry.action = (mark req .blank).action →
          entry.statusCode = (mapErr err).httpStatus →
          ((mapErr err).code ≠ "" → entry.errorCode = (mapErr err).code) →
          Accounts principal.userID entry.trimmed held next) ∨
      ∃ value next, call principal req held = (.ok value, next) ∧
        ∀ entry : AuditEntry, entry.result = .success →
          entry.action = (mark req .blank).action →
          entry.resourceType = (mark req .blank).resourceType →
          entry.resourceID = (finish value (mark req .blank)).resourceID →
          entry.metadata = (finish value (mark req .blank)).metadata →
          Accounts principal.userID entry.trimmed held next) :
    Accounted http principal durationMS held
      (businessHandler (some principal) body mark call mapErr
        finish reply held) := by
  cases body with
  | error err => rfl
  | ok req =>
      unfold businessHandler
      dsimp only
      obtain ⟨haction, htype⟩ := hmark req
      rcases hcall req with ⟨err, next, hfailed, haccounts⟩ |
        ⟨value, next, hdone, haccounts⟩
      · rw [hfailed]
        apply accounted_of_named haction htype
        intro entry hentry _ _ _ hstatus hresult hcode
        exact haccounts entry (hresult.trans (if_pos (herror err)))
          hentry hstatus hcode
      · rw [hdone]
        obtain ⟨hsame, hsame'⟩ := hfinish value (mark req .blank)
        apply accounted_of_named
        · exact hsame ▸ haction
        · exact hsame' ▸ htype
        · intro entry hentry hkind hid hmetadata _ hresult _
          refine haccounts entry ?_ (hentry.trans hsame)
            (hkind.trans hsame') hid hmetadata
          exact hresult.trans (if_neg (Nat.not_le.mpr (hreply value)))

theorem mapError_status {aggregate : Aggregate} {exists_ : HTTPError}
    (hexists : 400 ≤ exists_.httpStatus) (err : Failure) :
    400 ≤ (mapError aggregate exists_ err).httpStatus := by
  rw [mapError]
  split
  · decide
  · split
    · exact hexists
    · split <;> decide

theorem mapCommandError_status (err : LinkFlow.ThingsModel.DeviceError) :
    400 ≤ (mapCommandError err).httpStatus := by
  unfold mapCommandError
  split <;> decide

/-- The handlers of the registry: the row that the recorder names in the end is
the one the service has created, updated or deleted. -/
theorem registryHandler_accounted {call : Principal → α → Database → Reply β}
    {action resourceType resourceID : String} {mapErr : Failure → HTTPError}
    {metadata : α → List (String × Json)} {verb : Verb} {kind : Aggregate}
    {msg : String} {status : Nat} {data : β → ResponseData}
    (haction : trimSpace action = kind.text ++ "." ++ verb.text)
    (htype : trimSpace resourceType = kind.text)
    (hfinish : ∀ value recorder,
      (finish value recorder).action = recorder.action ∧
      (finish value recorder).resourceType = recorder.resourceType)
    (herror : ∀ err, 400 ≤ (mapErr err).httpStatus)
    (hstatus : status < 400)
    (hserves : ∀ req, Serves (fun value next => ∃ id,
        Uuid.ofText? (trimSpace
          (finish value (AuditRecorder.set action resourceType
          resourceID (metadata req) .blank)).resourceID) = some id ∧
        Performed principal.userID verb kind id held.db next)
      held.db (call principal req held.db)) :
    Accounted http principal durationMS held
      (businessHandler (some principal) body
        (fun req => .set action resourceType resourceID (metadata req))
        (fun principal req => onRegistry (call principal req)) mapErr finish
        (fun value => successData msg status (data value)) held) := by
  have hnamed : action ≠ "" ∧ resourceType ≠ "" := by
    constructor
    · rintro rfl
      cases kind <;> cases verb <;> revert haction <;> decide
    · rintro rfl
      cases kind <;> revert htype <;> decide
  refine businessHandler_accounted (fun _ => hnamed) hfinish herror
    (fun _ => hstatus) ?_
  intro req
  rw [onRegistry]
  rcases hserves req with ⟨err, hfailed⟩ |
    ⟨value, next, hdone, id, hid, hperformed⟩
  · refine Or.inl ⟨err, held, by rw [hfailed], ?_⟩
    intro entry hresult _ hfailure _
    exact .refused hresult (hfailure ▸ herror err)
  · refine Or.inr ⟨value, { held with db := next }, by rw [hdone], ?_⟩
    intro entry hresult hentry hkind hnamed' _
    refine .performed hresult ?_ ?_ ?_ hperformed
    · exact (congrArg trimSpace hentry).trans haction
    · exact (congrArg trimSpace hkind).trans htype
    · change Uuid.ofText? (trimSpace entry.resourceID) = some id
      rw [hnamed']
      exact hid

/-- A new row is named by the text of its id. -/
theorem createHandler_accounted {call : Principal → α → Database → Reply β}
    {action resourceType : String} {mapErr : Failure → HTTPError}
    {metadata : α → List (String × Json)} {kind : Aggregate} {id : β → Uuid}
    {msg : String} {status : Nat} {data : β → ResponseData}
    (hcreates : ∀ req, Creates held.db (call principal req held.db)
      principal.userID kind id)
    (haction : trimSpace action = kind.text ++ "." ++ Verb.create.text)
    (htype : trimSpace resourceType = kind.text)
    (herror : ∀ err, 400 ≤ (mapErr err).httpStatus) (hstatus : status < 400) :
    Accounted http principal durationMS held
      (businessHandler (some principal) body
        (fun req => .set action resourceType "" (metadata req))
        (fun principal req => onRegistry (call principal req)) mapErr
        (fun value => .setResourceID (Uuid.text (id value)))
        (fun value => successData msg status (data value)) held) := by
  refine registryHandler_accounted haction htype (fun _ _ => ⟨rfl, rfl⟩) herror
    hstatus fun req => (hcreates req).imp_right ?_
  rintro ⟨value, next, hdone, hperformed⟩
  refine ⟨value, next, hdone, id value, ?_, hperformed⟩
  change Uuid.ofText? (trimSpace (Uuid.text (id value))) = _
  rw [trimSpace_text, Uuid.ofText?_text]

/-- A row that is updated or deleted is named by the path. -/
theorem changeHandler_accounted {call : Principal → α → Database → Reply β}
    {action resourceType resourceID : String} {mapErr : Failure → HTTPError}
    {metadata : α → List (String × Json)} {verb : Verb} {kind : Aggregate}
    {msg : String} {status : Nat} {data : β → ResponseData}
    (hchanges : ∀ req, Changes held.db (call principal req held.db)
      principal.userID verb kind resourceID)
    (haction : trimSpace action = kind.text ++ "." ++ verb.text)
    (htype : trimSpace resourceType = kind.text)
    (hfinish : ∀ value recorder,
      (finish value recorder).action = recorder.action ∧
      (finish value recorder).resourceType = recorder.resourceType ∧
      (finish value recorder).resourceID = recorder.resourceID)
    (herror : ∀ err, 400 ≤ (mapErr err).httpStatus) (hstatus : status < 400) :
    Accounted http principal durationMS held
      (businessHandler (some principal) body
        (fun req => .set action resourceType resourceID (metadata req))
        (fun principal req => onRegistry (call principal req)) mapErr finish
        (fun value => successData msg status (data value)) held) := by
  refine registryHandler_accounted haction htype
    (fun value recorder =>
      ⟨(hfinish value recorder).1, (hfinish value recorder).2.1⟩)
    herror hstatus fun req => (hchanges req).imp_right ?_
  rintro ⟨value, next, hdone, id, hid, hperformed⟩
  refine ⟨value, next, hdone, id, ?_, hperformed⟩
  rw [(hfinish value _).2.2]
  exact hid

/-- The handlers of commands: the record that was sent carries the command id
that the recorder names, and where `Send` reports an error, the entry does. -/
theorem commandHandler_accounted {action resourceID : String}
    {eventType : EventType} {outside : DeviceService.Surroundings}
    {about : α → DeviceService.Broker → β → KafkaRecord → Prop}
    {context : String → LinkFlow.ThingsModel.DeviceError} {written : Bool}
    {call : Principal → α → DeviceService.Sends LinkFlow.ThingsModel.DeviceError
      (β × KafkaRecord)}
    {commandID topic : β → String} {metadata : α → List (String × Json)}
    {msg : String} {status : Nat} {data : β → ResponseData}
    (hnamed : action ≠ "")
    (haction : trimSpace action = "device.property.set" ∧
        eventType = .propertySetRequested ∨
      trimSpace action = "device.service.call" ∧
        eventType = .serviceCallRequested)
    (hstatus : status < 400)
    (hinternal : ∀ text, mapCommandError (context text) = errInternal)
    (hcall : ∀ req, DeviceService.Publishes outside (about req) context
      (call principal req))
    (habout : ∀ req broker value record, about req broker value record →
      record.topic = eventType.topic ∧ record.key = commandID value) :
    Accounted http principal durationMS held
      (businessHandler (some principal) body
        (fun req => .set action "device" resourceID (metadata req))
        (fun principal req => onBus written (Prod.fst <$> call principal req))
        mapCommandError
        (fun value => .addMetadata [("command_id", .str (commandID value)),
          ("topic", .str (topic value))])
        (fun value => successData msg status (data value)) held) := by
  have hdevice : "device" ≠ "" := by decide
  have horders : ∀ (entry : AuditEntry) (record : KafkaRecord),
      entry.action = action → record.topic = eventType.topic →
        entry.trimmed.Orders record := by
    intro entry record hentry htopic
    have htrimmed := congrArg trimSpace hentry
    rcases haction with ⟨hset, rfl⟩ | ⟨hservice, rfl⟩
    · exact Or.inl ⟨htrimmed.trans hset, htopic⟩
    · exact Or.inr ⟨htrimmed.trans hservice, htopic⟩
  refine businessHandler_accounted (fun _ => ⟨hnamed, hdevice⟩)
    (fun _ _ => ⟨rfl, rfl⟩) mapCommandError_status (fun _ => hstatus) ?_
  intro req
  have hends := hcall req
  generalize call principal req = sends at hends
  cases hends with
  | stopped err =>
      refine Or.inl ⟨err, held, ?_, ?_⟩
      · cases written with
        | false => rfl
        | true => simp [onBus, Except.map]
      · intro entry hresult _ hfailure _
        exact .refused hresult (hfailure ▸ mapCommandError_status err)
  | @sent broker value record _ hsent _ =>
      obtain ⟨htopic, hkey⟩ := habout req broker value record hsent
      refine Or.inr ⟨value, _, rfl, ?_⟩
      intro entry hresult hentry _ _ hmetadata
      refine .dispatched hresult (horders entry record hentry htopic) ?_
      change entry.metadata.get? "command_id" = _
      rw [hmetadata, hkey]
      simp [AuditRecorder.addMetadata]
  | @failed broker value record text _ hsent _ =>
      obtain ⟨htopic, -⟩ := habout req broker value record hsent
      refine Or.inl ⟨_, _, rfl, ?_⟩
      rw [hinternal text]
      intro entry hresult hentry hfailure hcode
      cases written with
      | false => exact .refused hresult (hfailure ▸ by decide)
      | true =>
          refine .lost hresult hfailure ?_ (horders entry record hentry htopic)
          change trimSpace entry.errorCode = _
          rw [hcode (by decide)]
          decide

/-- Whatever a request meets, its handler accounts for it. -/
theorem handle_accounted (casing : Casing) (bcrypt : Bcrypt)
    (operation : Operation) :
    Accounted http principal durationMS held
      (operation.handle casing bcrypt (some principal) held) := by
  cases operation with
  | createTenant out body =>
      exact createHandler_accounted (fun _ => createTenant_creates) (by decide)
        (by decide) (mapError_status (by decide)) (by decide)
  | updateTenant out tenantID body =>
      exact changeHandler_accounted (fun _ => updateTenant_changes) (by decide)
        (by decide) (fun _ _ => ⟨rfl, rfl, rfl⟩) (mapError_status (by decide))
        (by decide)
  | deleteTenant out tenantID =>
      exact changeHandler_accounted (fun _ => deleteTenant_changes) (by decide)
        (by decide) (fun _ _ => ⟨rfl, rfl, rfl⟩) (mapError_status (by decide))
        (by decide)
  | createProduct out body =>
      exact createHandler_accounted (fun _ => createProduct_creates) (by decide)
        (by decide) (mapError_status (by decide)) (by decide)
  | updateProduct out productID body =>
      exact changeHandler_accounted (fun _ => updateProduct_changes) (by decide)
        (by decide) (fun _ _ => ⟨rfl, rfl, rfl⟩) (mapError_status (by decide))
        (by decide)
  | deleteProduct out productID =>
      exact changeHandler_accounted (fun _ => deleteProduct_changes) (by decide)
        (by decide) (fun _ _ => ⟨rfl, rfl, rfl⟩) (mapError_status (by decide))
        (by decide)
  | createThingsModel out body =>
      exact createHandler_accounted (fun _ => createThingsModel_creates)
        (by decide) (by decide) (mapError_status (by decide)) (by decide)
  | updateThingsModel out thingsModelID body =>
      exact changeHandler_accounted (fun _ => updateThingsModel_changes)
        (by decide) (by decide) (fun _ _ => ⟨rfl, rfl, rfl⟩)
        (mapError_status (by decide)) (by decide)
  | deleteThingsModel out thingsModelID =>
      exact changeHandler_accounted (fun _ => deleteThingsModel_changes)
        (by decide) (by decide) (fun _ _ => ⟨rfl, rfl, rfl⟩)
        (mapError_status (by decide)) (by decide)
  | createDevice lookup out source body =>
      exact createHandler_accounted (fun _ => createDevice_creates) (by decide)
        (by decide) (mapError_status (by decide)) (by decide)
  | updateDevice out deviceID body =>
      exact changeHandler_accounted (fun _ => updateDevice_changes) (by decide)
        (by decide) (fun _ _ => ⟨rfl, rfl, rfl⟩) (mapError_status (by decide))
        (by decide)
  | deleteDevice out deviceID =>
      exact changeHandler_accounted (fun _ => deleteDevice_changes) (by decide)
        (by decide) (fun _ _ => ⟨rfl, rfl, rfl⟩) (mapError_status (by decide))
        (by decide)
  | setProperties outside written deviceID body =>
      refine commandHandler_accounted (by decide) (Or.inl ⟨by decide, rfl⟩)
        (by decide) (fun _ => rfl) (fun req =>
          DeviceService.setProperties_publishes outside
            (Uuid.text principal.userID) deviceID
            (req.properties.getD GoMap.empty)) ?_
      rintro req broker result record
        ⟨target, id, eventID, -, -, -, -, hid, rfl⟩
      exact ⟨rfl, hid.symm⟩
  | callService outside written deviceID serviceName body =>
      refine commandHandler_accounted (by decide) (Or.inr ⟨by decide, rfl⟩)
        (by decide) (fun _ => rfl) (fun req =>
          DeviceService.callService_publishes outside
            (Uuid.text principal.userID) deviceID serviceName req.input) ?_
      rintro req broker result record
        ⟨target, id, eventID, -, -, -, -, hid, rfl⟩
      exact ⟨rfl, hid.symm⟩

end Handlers

section Requests

variable {casing : Casing} {bcrypt : Bcrypt} {exchange : Exchange}
  {held next : Holdings} {response : Response}

/-- A request without an entry changes nothing; an entry names the principal of
its request and accounts for what the request has changed. -/
theorem serve_accounted {noted : Option AuditEntry}
    (hserve : exchange.serve casing bcrypt held = (response, noted, next)) :
    noted = none ∧ next = held ∨
      ∃ principal entry, exchange.principal = some principal ∧
        noted = some entry ∧
        entry.actorUserID = Uuid.text principal.userID ∧
        Accounts principal.userID entry.trimmed held next := by
  rw [Exchange.serve] at hserve
  split at hserve
  · cases hserve
    exact Or.inl ⟨rfl, rfl⟩
  next principal hprincipal =>
    cases hserve
    have haccounted := @handle_accounted exchange.http principal
      exchange.durationMS held casing bcrypt exchange.operation
    rw [Accounted] at haccounted
    split at haccounted
    next hnone => exact Or.inl ⟨hnone, haccounted⟩
    next entry hentry =>
      refine Or.inr ⟨principal, entry, hprincipal, hentry, ?_, haccounted⟩
      rw [auditEntry] at hentry
      split at hentry
      · cases hentry
      · cases hentry
        rfl

end Requests

end Audit

end LinkFlow
