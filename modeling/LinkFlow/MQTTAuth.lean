/-
MQTT authentication: the EMQX webhook, its reading of a client's identity, the
lookup of the device, and the check of its secret.
-/
import LinkFlow.RegistryServices

namespace LinkFlow

namespace Registry

section Lookup

structure MQTTAuthInput where
  tenantSlug : String
  productKey : String
  deviceSlug : String
  password : String
deriving Repr, DecidableEq

structure MQTTAuthResult where
  tenantID : String
  productID : String
  deviceID : String
  tenantSlug : String
  productKey : String
  deviceSlug : String
deriving Repr, DecidableEq

structure MQTTDeviceCredential extends MQTTAuthResult where
  productAuthType : String
  tenantStatus : String
  productStatus : String
  deviceStatus : String
  credentialStatus : String
  secretHash : String
deriving Repr, DecidableEq

/-- The attributes of a device. -/
def attributesOf (tenant : Tenant) (product : Product) (device : Device) :
    MQTTAuthResult where
  tenantID := Uuid.text tenant.id
  productID := Uuid.text product.id
  deviceID := Uuid.text device.id
  tenantSlug := tenant.tenantSlug
  productKey := product.productKey
  deviceSlug := device.deviceSlug

/-- The columns the query selects. -/
def credentialColumns (tenant : Tenant) (product : Product) (device : Device)
    (credential : Option Credential) : MQTTDeviceCredential where
  toMQTTAuthResult := attributesOf tenant product device
  productAuthType := product.authType.text
  tenantStatus := tenant.status.text
  productStatus := product.status.text
  deviceStatus := device.status.text
  credentialStatus := (credential.map fun found => found.status.text).getD ""
  secretHash := (credential.map Credential.secretHash).getD ""

variable (session : Session) (db : Database) (input : MQTTAuthInput)

/-- The join of tenants, products and devices, and the WHERE clause. -/
def joins (tenant : Tenant) (product : Product) (device : Device) : Bool :=
  session.seesTenant tenant && session.seesProduct db product &&
    session.seesDevice db device && product.tenantID = tenant.id &&
    device.tenantID = tenant.id && device.productID = product.id &&
    lower tenant.tenantSlug = input.tenantSlug &&
    (input.productKey = "" || lower product.productKey = input.productKey) &&
    lower device.deviceSlug = input.deviceSlug

/-- The left join with the active credentials of a device. -/
def activeCredentials (tenant : Tenant) (device : Device) :
    List (Option Credential) :=
  match db.credentials.rows.filter fun credential =>
      session.sees db credential.tenantID && credential.tenantID = tenant.id &&
        credential.deviceID = device.id && credential.status = .active with
  | [] => [none]
  | found => found.map some

/-- The rows of the query, in one of the orders they may come in. -/
def mqttRows : List MQTTDeviceCredential :=
  db.tenants.rows.flatMap fun tenant =>
    db.products.rows.flatMap fun product =>
      db.devices.rows.flatMap fun device =>
        if joins session db input tenant product device then
          (activeCredentials session db tenant device).map
            (credentialColumns tenant product device)
        else []

/-- `FindMQTTDeviceCredential`: the first row. -/
def findMQTTDeviceCredential (out : Surroundings) (input : MQTTAuthInput)
    (db : Database) : Except Failure MQTTDeviceCredential :=
  match out.ctxErr .store with
  | some err => .error (.text err)
  | none =>
      (withSession out "device internal" "service"
        (do
          out.command .query
          queryRow fun db => (mqttRows (.internal "backend") db input).head?)
        db).1.mapError (findError .device "find mqtt device credential")

end Lookup

section Authenticate

inductive MQTTFailure where
  | invalidAuthInput
  | invalidAuth
  | other (err : Failure)
deriving Repr, DecidableEq

variable (casing : Casing) (bcrypt : Bcrypt) (out : Surroundings)

/-- The input as it is looked up. -/
def MQTTAuthInput.normalized (input : MQTTAuthInput) : MQTTAuthInput where
  tenantSlug := normalizeTenantSlug casing input.tenantSlug
  productKey := normalizeProductKey casing input.productKey
  deviceSlug := normalizeDeviceSlug casing input.deviceSlug
  password := trimSpace input.password

/-- The checks of what was found. -/
def checkCredential (found : MQTTDeviceCredential) (password : String) :
    Except MQTTFailure MQTTAuthResult :=
  if found.tenantStatus ≠ "active" || found.productStatus ≠ "active" ||
      found.deviceStatus ≠ "active" then .error .invalidAuth
  else if found.productAuthType = "secret" then
    if password = "" || found.credentialStatus ≠ "active" then
      .error .invalidAuth
    else if !compareSecret bcrypt found.secretHash password then
      .error .invalidAuth
    else .ok found.toMQTTAuthResult
  else if found.productAuthType = "anonymous" then .ok found.toMQTTAuthResult
  else .error .invalidAuth

/-- `MQTTAuthService.Authenticate` -/
def mqttAuthenticate (input : MQTTAuthInput) (db : Database) :
    Except MQTTFailure MQTTAuthResult :=
  match out.ctxErr .service with
  | some err => .error (.other (.text err))
  | none =>
      let input := input.normalized casing
      if input.tenantSlug = "" || input.deviceSlug = "" then
        .error .invalidAuthInput
      else
        match findMQTTDeviceCredential out input db with
        | .error err =>
            if err.is (.notFound .device) then .error .invalidAuth
            else .error (.other err)
        | .ok found => checkCredential bcrypt found input.password

end Authenticate

section Webhook

/-- `emqxAuthRequest` -/
structure EMQXAuthRequest where
  username : String
  password : String
  clientID : String
deriving Repr, DecidableEq

/-- `emqxAuthResponse` -/
structure EMQXAuthResponse where
  result : String
  isSuperuser : Bool
  clientAttrs : List (String × String)
deriving Repr, DecidableEq

/-- The answer to a request: a response, or an internal error. -/
inductive EMQXAnswer where
  | response (body : EMQXAuthResponse)
  | internalError
deriving Repr, DecidableEq

/-- An HTTP request: the first JSON value of its body, if it starts with one,
and whether another one follows. -/
structure HTTPRequest where
  contentType : String
  body : Option Json
  extra : Bool

/-- The service client and the parts of the handler that stay fixed.  The
configured texts are trimmed and not empty. -/
structure EMQXAuthHandler where
  casing : Casing
  bcrypt : Bcrypt
  serviceUsername : String
  servicePassword : String

/-- The long s is the only other character that folds with a letter of the
field names. -/
def foldName (name : String) : String :=
  name.map fun char => if char = 'ſ' then 's' else char.toLower

/-- Set one field of the request from a member of the object. -/
def setField (request : EMQXAuthRequest) (member : String × Json) :
    Option EMQXAuthRequest :=
  match foldName member.1, member.2 with
  | "username", .str text => some { request with username := text }
  | "password", .str text => some { request with password := text }
  | "clientid", .str text => some { request with clientID := text }
  | "username", .null | "password", .null | "clientid", .null => some request
  | _, _ => none

/-- `decodeJSON` into an `emqxAuthRequest`, unknown fields refused. -/
def decodeEMQXRequest (casing : Casing) (request : HTTPRequest) :
    Option EMQXAuthRequest :=
  if !"application/json".toList.isPrefixOf
      (casing.toLower request.contentType).toList then none
  else
    let decoded :=
      match request.body with
      | some (.obj members) => members.foldlM setField ⟨"", "", ""⟩
      | some .null => some ⟨"", "", ""⟩
      | _ => none
    if request.extra then none else decoded

/-- `splitIdentity`: the trimmed parts, none if one of them is blank. -/
def splitIdentity (value : String) : List String :=
  let parts := (value.toList.splitOn ':').map fun part =>
    trimSpace (String.ofList part)
  if parts.any (· = "") then [] else parts

/-- `mqttAuthInputFromEMQX` -/
def mqttAuthInputFromEMQX (request : EMQXAuthRequest) : Option MQTTAuthInput :=
  let username := trimSpace request.username
  let clientID := trimSpace request.clientID
  let password := trimSpace request.password
  if username = "" || clientID = "" || password = "" then none
  else
    match splitIdentity username with
    | [tenantSlug] =>
        match splitIdentity clientID with
        | [deviceSlug] => some ⟨tenantSlug, "", deviceSlug, password⟩
        | [productKey, deviceSlug] =>
            some ⟨tenantSlug, productKey, deviceSlug, password⟩
        | _ => none
    | [tenantSlug, productKey, deviceSlug] =>
        some ⟨tenantSlug, productKey, deviceSlug, password⟩
    | _ => none

variable (handler : EMQXAuthHandler) (out : Surroundings)

def EMQXAuthHandler.authenticateServiceClient (request : EMQXAuthRequest) :
    Bool :=
  trimSpace request.username = handler.serviceUsername &&
    trimSpace request.password = handler.servicePassword

def denyResponse : EMQXAuthResponse := ⟨"deny", false, []⟩

def allowResponse (result : MQTTAuthResult) : EMQXAuthResponse where
  result := "allow"
  isSuperuser := false
  clientAttrs :=
    [("tenant_id", result.tenantID), ("product_id", result.productID),
      ("device_id", result.deviceID), ("tenant_slug", result.tenantSlug),
      ("product_key", result.productKey), ("device_slug", result.deviceSlug)]

/-- The answer to a decoded request. -/
def EMQXAuthHandler.answer (request : EMQXAuthRequest) (db : Database) :
    EMQXAnswer :=
  if handler.authenticateServiceClient request then
    .response ⟨"allow", true, []⟩
  else
    match mqttAuthInputFromEMQX request with
    | none => .response denyResponse
    | some input =>
        match mqttAuthenticate handler.casing handler.bcrypt out input db with
        | .ok result => .response (allowResponse result)
        | .error .invalidAuthInput => .response denyResponse
        | .error .invalidAuth => .response denyResponse
        | .error (.other _) => .internalError

/-- `EMQXAuthHandler.authenticate` -/
def EMQXAuthHandler.authenticate (request : HTTPRequest) (db : Database) :
    EMQXAnswer :=
  match decodeEMQXRequest handler.casing request with
  | none => .response denyResponse
  | some request => handler.answer out request db

end Webhook

end Registry

end LinkFlow
