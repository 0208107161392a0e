/-
The audit log of the backend: what the handlers record while they serve a
request, the entry the middleware makes of it, and the row the service and the
store write.
-/
import LinkFlow.CommandContract
import LinkFlow.Pagination
import LinkFlow.RequestBody
import LinkFlow.RegistryWrites

namespace LinkFlow

namespace Audit

open Registry

section Errors

/-- `httperror.Error`, without the error it may wrap. -/
structure HTTPError where
  httpStatus : Nat
  code : String
  msg : String
deriving Repr, DecidableEq

def errUnauthorized : HTTPError := ⟨401, "unauthorized", "unauthorized"⟩
def errNotFound : HTTPError := ⟨404, "not_found", "not found"⟩
def errInternal : HTTPError := ⟨500, "internal_error", "internal server error"⟩
def errServiceUnavailable : HTTPError :=
  ⟨503, "service_unavailable", "service unavailable"⟩
def errInvalidJSON : HTTPError := ⟨400, "invalid_json", "invalid json body"⟩
def errInvalidRequest : HTTPError := ⟨400, "invalid_request", "invalid request"⟩
def errTenantAlreadyExists : HTTPError :=
  ⟨409, "tenant_already_exists", "tenant already exists"⟩
def errProductAlreadyExists : HTTPError :=
  ⟨409, "product_already_exists", "product already exists"⟩
def errThingsModelAlreadyExists : HTTPError :=
  ⟨409, "thingsmodel_already_exists", "thingsmodel already exists"⟩
def errDeviceAlreadyExists : HTTPError :=
  ⟨409, "device_already_exists", "device already exists"⟩
def errContentTypeRequired : HTTPError :=
  ⟨415, "content_type_required", "content type must be application/json"⟩

/-- The error behind what `decodeJSON` reports. -/
def decodeError : Handler.HTTPError → HTTPError
  | .contentTypeRequired => errContentTypeRequired
  | .invalidJSON _ => errInvalidJSON

/-- The mappings of the handlers, which differ in the aggregate.  No failure of
the registry is an HTTP error, so `From` wraps what is left as internal. -/
def mapError (aggregate : Aggregate) (exists_ : HTTPError) (err : Failure) :
    HTTPError :=
  if err.is (.invalidInput aggregate) then errInvalidRequest
  else if err.is (.alreadyExists aggregate) then exists_
  else if err.is (.notFound aggregate) then errNotFound
  else errInternal

def mapTenantError : Failure → HTTPError :=
  mapError .tenant errTenantAlreadyExists

def mapProductError : Failure → HTTPError :=
  mapError .product errProductAlreadyExists

def mapThingsModelError : Failure → HTTPError :=
  mapError .thingsModel errThingsModelAlreadyExists

/-- The registry's part of `mapDeviceError`. -/
def mapDeviceError : Failure → HTTPError :=
  mapError .device errDeviceAlreadyExists

/-- The rest of it: the failures of commands. -/
def mapCommandError : LinkFlow.ThingsModel.DeviceError → HTTPError
  | .invalidDeviceInput => errInvalidRequest
  | .deviceNotFound => errNotFound
  | .deviceServiceNotFound => errNotFound
  | .deviceOffline => errServiceUnavailable
  | .commandPublisherUnavailable => errServiceUnavailable
  | .other _ => errInternal

end Errors

section Recording

/-- The principal of a session, whose user is a row of `users`. -/
structure Principal where
  userID : Uuid
  role : String
deriving Repr, DecidableEq

/-- `AuditRecorder`, which travels in the context of a request. -/
structure AuditRecorder where
  action : String
  resourceType : String
  resourceID : String
  errorCode : String
  metadata : GoMap Json

namespace AuditRecorder

def blank : AuditRecorder := ⟨"", "", "", "", GoMap.empty⟩

def set (action resourceType resourceID : String)
    (metadata : List (String × Json)) (recorder : AuditRecorder) :
    AuditRecorder :=
  { recorder with
    action := action
    resourceType := resourceType
    resourceID := resourceID
    metadata := recorder.metadata.setAll metadata }

def setResourceID (resourceID : String) (recorder : AuditRecorder) :
    AuditRecorder :=
  { recorder with resourceID := resourceID }

def setErrorCode (code : String) (recorder : AuditRecorder) : AuditRecorder :=
  { recorder with errorCode := code }

def addMetadata (metadata : List (String × Json)) (recorder : AuditRecorder) :
    AuditRecorder :=
  { recorder with metadata := recorder.metadata.setAll metadata }

end AuditRecorder

/-- `AuditResultSuccess` and `AuditResultFailure` -/
inductive AuditResult where
  | success
  | failure
deriving Repr, DecidableEq

/-- `AuditEntry`, without what the table fills in. -/
structure AuditEntry where
  actorUserID : String
  actorRole : String
  action : String
  resourceType : String
  resourceID : String
  result : AuditResult
  errorCode : String
  method : String
  path : String
  statusCode : Nat
  durationMS : Nat
  ip : String
  userAgent : String
  requestID : String
  traceID : String
  operationID : String
  metadata : GoMap Json

/-- What the middleware reads of a request.  `header` answers `Header.Get`, and
`remoteHost` is the host `net.SplitHostPort` finds in the address. -/
structure HTTPRequest where
  method : String
  path : String
  header : String → String
  userAgent : String
  remoteAddr : String
  remoteHost : Option String

def clientIP (request : HTTPRequest) : String :=
  if request.header "X-Forwarded-For" ≠ "" then request.header "X-Forwarded-For"
  else if request.header "X-Real-Ip" ≠ "" then request.header "X-Real-Ip"
  else request.remoteHost.getD request.remoteAddr

/-- `AuditRecorder.entry` and what `Audit` adds to it once the handler has
answered.  A request whose handler named no action leaves no entry. -/
def auditEntry (request : HTTPRequest) (principal : Principal)
    (statusCode durationMS : Nat) (recorder : AuditRecorder) :
    Option AuditEntry :=
  if recorder.action = "" || recorder.resourceType = "" then none
  else
    some
      { actorUserID := Uuid.text principal.userID
        actorRole := principal.role
        action := recorder.action
        resourceType := recorder.resourceType
        resourceID := recorder.resourceID
        result := if 400 ≤ statusCode then .failure else .success
        errorCode :=
          if 400 ≤ statusCode && recorder.errorCode = "" then
            toString statusCode
          else recorder.errorCode
        method := request.method
        path := request.path
        statusCode := statusCode
        durationMS := durationMS
        ip := clientIP request
        userAgent := request.userAgent
        requestID := request.header "X-Request-Id"
        traceID := request.header "Traceparent"
        operationID := request.header "X-Operation-Id"
        metadata := recorder.metadata }

end Recording

section Writing

/-- The texts of an entry as `AuditService.Write` trims them. -/
def AuditEntry.trimmed (entry : AuditEntry) : AuditEntry :=
  { entry with
    actorUserID := trimSpace entry.actorUserID
    actorRole := trimSpace entry.actorRole
    action := trimSpace entry.action
    resourceType := trimSpace entry.resourceType
    resourceID := trimSpace entry.resourceID
    errorCode := trimSpace entry.errorCode
    method := trimSpace entry.method
    path := trimSpace entry.path
    ip := trimSpace entry.ip
    userAgent := trimSpace entry.userAgent
    requestID := trimSpace entry.requestID
    traceID := trimSpace entry.traceID
    operationID := trimSpace entry.operationID }

/-- A row of `audit_logs`. -/
structure AuditLog where
  id : Uuid
  actorUserID : Option Uuid
  actorRole : Option String
  action : String
  resourceType : String
  resourceID : Option String
  result : AuditResult
  errorCode : Option String
  method : String
  path : String
  statusCode : Nat
  durationMS : Nat
  ip : Option String
  userAgent : Option String
  requestID : Option String
  traceID : Option String
  operationID : Option String
  metadata : GoMap Json
  createdAt : Int
  actionNotBlank : notBlank action = true
  resourceTypeNotBlank : notBlank resourceType = true

/-- The table has no index but its key. -/
def auditSchema : TableSchema AuditLog ℕ where
  key log := log.id.toNat
  conflict _ _ := false
  conflict_comm _ _ := rfl

def nullIfEmpty (text : String) : Option String :=
  if text = "" then none else some text

/-- `COALESCE(…, '')` -/
def coalesce (text : Option String) : String := text.getD ""

/-- A row as `ListAuditLogs` reads it. -/
def AuditLog.entry (log : AuditLog) : AuditEntry where
  actorUserID := coalesce (log.actorUserID.map Uuid.text)
  actorRole := coalesce log.actorRole
  action := log.action
  resourceType := log.resourceType
  resourceID := coalesce log.resourceID
  result := log.result
  errorCode := coalesce log.errorCode
  method := log.method
  path := log.path
  statusCode := log.statusCode
  durationMS := log.durationMS
  ip := coalesce log.ip
  userAgent := coalesce log.userAgent
  requestID := coalesce log.requestID
  traceID := coalesce log.traceID
  operationID := coalesce log.operationID
  metadata := log.metadata

variable (out : Registry.Surroundings)

/-- The row an INSERT makes of an entry.  The two numbers are columns of 32
bits. -/
def newAuditLog (actor : Option Uuid) (entry : AuditEntry) :
    Except Failure AuditLog :=
  if 2147483647 < entry.statusCode || 2147483647 < entry.durationMS then
    .error (.sql .numericRange)
  else if hcheck : notBlank entry.action = true ∧
      notBlank entry.resourceType = true then
    .ok
      { id := out.newID
        actorUserID := actor
        actorRole := nullIfEmpty entry.actorRole
        action := entry.action
        resourceType := entry.resourceType
        resourceID := nullIfEmpty entry.resourceID
        result := entry.result
        errorCode := nullIfEmpty entry.errorCode
        method := entry.method
        path := entry.path
        statusCode := entry.statusCode
        durationMS := entry.durationMS
        ip := nullIfEmpty entry.ip
        userAgent := nullIfEmpty entry.userAgent
        requestID := nullIfEmpty entry.requestID
        traceID := nullIfEmpty entry.traceID
        operationID := nullIfEmpty entry.operationID
        metadata := entry.metadata
        createdAt := out.now
        actionNotBlank := hcheck.1
        resourceTypeNotBlank := hcheck.2 }
  else .error (.sql .checkViolation)

/-- `nullIfEmpty`, given to the column of the actor. -/
def actorParam (text : String) : Except Failure (Option Uuid) :=
  if text = "" then .ok none
  else
    match Uuid.ofText? text with
    | some id => .ok (some id)
    | none => .error (.sql .invalidText)

/-- The INSERT of `WriteAuditLog`.  Its policy wants the actor to be the user of
the session, so a row without an actor is refused. -/
def insertAuditLog (users : List Uuid) (entry : AuditEntry)
    (logs : Table auditSchema) : Except Failure (Table auditSchema) := do
  let actor ← actorParam entry.actorUserID
  let log ← newAuditLog out actor entry
  match actor with
  | none => .error (.sql .rowSecurity)
  | some userID =>
      match logs.insert? log with
      | none => .error (.sql .uniqueViolation)
      | some next =>
          if users.contains userID then .ok next
          else .error (.sql .foreignKeyViolation)

/-- How the database answers a command. -/
def answer (stage : Stage) : Except Failure Unit :=
  (out.outcome stage).mapError .text

/-- `withAuditUser`: the actor's transaction around a statement, which is rolled
back where its COMMIT reports an error. -/
def withAuditUser {α : Type} (body : Except Failure α) : Except Failure α := do
  (answer out .begin).mapError (.wrap "begin audit transaction")
  (answer out .setActor).mapError (.wrap "set audit rls actor")
  let value ← body
  (answer out .commit).mapError (.wrap "commit audit transaction")
  return value

/-- `WriteAuditLog` -/
def writeAuditLog (users : List Uuid) (entry : AuditEntry)
    (logs : Table auditSchema) : Except Failure (Table auditSchema) :=
  match out.ctxErr .store with
  | some err => .error (.text err)
  | none =>
      (withAuditUser out do
        answer out .write
        insertAuditLog out users entry logs).mapError (.wrap "insert audit log")

/-- `AuditService.Write` -/
def AuditService.write (users : List Uuid) (entry : AuditEntry)
    (logs : Table auditSchema) : Except Failure (Table auditSchema) :=
  match out.ctxErr .service with
  | some err => .error (.text err)
  | none =>
      let entry := entry.trimmed
      if entry.action = "" || entry.resourceType = "" then
        .error (.text "audit action and resource type are required")
      else if entry.method = "" || entry.path = "" then
        .error (.text "audit method and path are required")
      else writeAuditLog out users entry logs

end Writing

section Listing

/-- A page of the rows whose actor is the user of the session. -/
def listAuditLogs (out : Registry.Surroundings) (userID : Uuid)
    (page : PageInput) (logs : Table auditSchema) :
    Except Failure (PageResult AuditEntry) :=
  match out.ctxErr .store with
  | some err => .error (.text err)
  | none =>
      let rows := logs.rows.filter fun log => log.actorUserID = some userID
      (withAuditUser out do
        answer out .count
        answer out .query
        let items ← pageOf (newestFirst AuditLog.createdAt AuditLog.id) page
          rows
        return newPageResult (items.map AuditLog.entry) rows.length
          page).mapError (.wrap "list audit logs")

/-- `AuditService.List` -/
def AuditService.list (out : Registry.Surroundings) (userID : Uuid)
    (page : PageInput) (logs : Table auditSchema) :
    Except Failure (PageResult AuditEntry) :=
  match out.ctxErr .service with
  | some err => .error (.text err)
  | none => listAuditLogs out userID page logs

end Listing

section Results

variable {out : Registry.Surroundings} {users : List Uuid} {entry : AuditEntry}
  {logs next : Table auditSchema}

@[simp] theorem coalesce_nullIfEmpty (text : String) :
    coalesce (nullIfEmpty text) = text := by
  rw [nullIfEmpty]
  split
  next hempty => exact hempty.symm
  · rfl

theorem text_ne_empty (id : Uuid) : Uuid.text id ≠ "" := by
  intro hempty
  have hread := Uuid.ofText?_text id
  have hnone : Uuid.ofText? "" = none := by decide
  rw [hempty, hnone] at hread
  cases hread

/-- A row is read back as the entry it was made of. -/
theorem newAuditLog_eq_ok {actor : Option Uuid} {log : AuditLog}
    (hactor : coalesce (actor.map Uuid.text) = entry.actorUserID)
    (hok : newAuditLog out actor entry = .ok log) :
    log.entry = entry ∧ log.actorUserID = actor ∧ log.id = out.newID := by
  rw [newAuditLog] at hok
  split at hok
  · cases hok
  · split at hok
    · cases hok
      simp only [AuditLog.entry, coalesce_nullIfEmpty, hactor, and_self]
    · cases hok

theorem withAuditUser_eq_ok {α : Type} {body : Except Failure α} {value : α}
    (hok : withAuditUser out body = .ok value) : body = .ok value := by
  simp only [withAuditUser, DeviceService.bind_eq_ok] at hok
  obtain ⟨_, _, _, _, found, hbody, _, _, hreturn⟩ := hok
  cases hreturn
  exact hbody

theorem mapError_eq_ok {α : Type} {f : Failure → Failure}
    {outcome : Except Failure α} {value : α}
    (hok : outcome.mapError f = .ok value) : outcome = .ok value := by
  cases outcome with
  | error err => cases hok
  | ok found =>
      cases hok
      rfl

theorem insertAuditLog_eq_ok {userID : Uuid}
    (hactor : entry.actorUserID = Uuid.text userID)
    (hok : insertAuditLog out users entry logs = .ok next) :
    ∃ log, log.entry = entry ∧ log.actorUserID = some userID ∧
      logs.Adds log next := by
  have hparam : actorParam entry.actorUserID = .ok (some userID) := by
    rw [hactor, actorParam, if_neg (text_ne_empty userID), Uuid.ofText?_text]
  simp only [insertAuditLog, DeviceService.bind_eq_ok, hparam,
    Except.ok.injEq] at hok
  obtain ⟨_, rfl, log, hlog, hstored⟩ := hok
  have hback : coalesce ((some userID).map Uuid.text) = entry.actorUserID :=
    hactor.symm
  obtain ⟨hentry, hof, -⟩ := newAuditLog_eq_ok hback hlog
  refine ⟨log, hentry, hof, ?_⟩
  dsimp only at hstored
  split at hstored
  · cases hstored
  next stored hinsert =>
    split at hstored
    · cases hstored
      exact Table.adds_of_insert? hinsert
    · cases hstored

/-- A successful write adds one row, which is read back as the trimmed entry. -/
theorem AuditService.write_eq_ok {userID : Uuid}
    (hactor : entry.actorUserID = Uuid.text userID)
    (hok : AuditService.write out users entry logs = .ok next) :
    ∃ log, log.entry = entry.trimmed ∧ log.actorUserID = some userID ∧
      logs.Adds log next := by
  have htrimmed : entry.trimmed.actorUserID = Uuid.text userID := by
    change trimSpace entry.actorUserID = _
    rw [hactor, trimSpace_text]
  rw [AuditService.write] at hok
  split at hok
  · cases hok
  · dsimp only at hok
    split at hok
    · cases hok
    · split at hok
      · cases hok
      · rw [writeAuditLog] at hok
        split at hok
        · cases hok
        · have hbody := withAuditUser_eq_ok (mapError_eq_ok hok)
          rw [DeviceService.bind_eq_ok] at hbody
          obtain ⟨_, _, hinsert⟩ := hbody
          exact insertAuditLog_eq_ok htrimmed hinsert

/-- A user is shown rows of its own and no others, as they were written. -/
theorem AuditService.list_eq_ok {userID : Uuid} {page : PageInput}
    {result : PageResult AuditEntry}
    (hok : AuditService.list out userID page logs = .ok result) :
    result.total = (logs.rows.filter fun log =>
        log.actorUserID = some userID).length ∧
      ∀ entry ∈ result.items, ∃ log ∈ logs, log.actorUserID = some userID ∧
        log.entry = entry := by
  rw [AuditService.list, listAuditLogs] at hok
  split at hok
  · cases hok
  · split at hok
    · cases hok
    · have hbody := withAuditUser_eq_ok (mapError_eq_ok hok)
      simp only [DeviceService.bind_eq_ok] at hbody
      obtain ⟨_, _, _, _, items, hitems, hreturn⟩ := hbody
      cases hreturn
      refine ⟨rfl, fun found hfound => ?_⟩
      obtain ⟨log, hlog, rfl⟩ := List.mem_map.mp hfound
      have hrow : log ∈ logs.rows.filter fun log =>
          log.actorUserID = some userID := by
        rw [pageOf] at hitems
        split at hitems
        · cases hitems
        · cases hitems
          have hsorted := List.mem_of_mem_drop (List.mem_of_mem_take hlog)
          exact List.mem_mergeSort.mp hsorted
      obtain ⟨hmem, howner⟩ := List.mem_filter.mp hrow
      exact ⟨log, hmem, by simpa using howner, rfl⟩

end Results

end Audit

end LinkFlow
