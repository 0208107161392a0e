/-
The registry of the backend: tenants, products, thing models, devices and their
credentials.  A row carries the CHECK constraints of its table, a table its
primary key and its unique indexes, and a statement sees and changes the rows
that the policies of the session allow.
-/
import LinkFlow.Connection
import LinkFlow.DeviceService
import LinkFlow.Lib.Table
import LinkFlow.Lib.Transaction

namespace LinkFlow

namespace Registry

section Columns

/-- `activeTenantStatus`, `disabledTenantStatus`, and those of products and
devices. -/
inductive Status where
  | active
  | disabled
deriving Repr, DecidableEq

def Status.text : Status → String
  | .active => "active"
  | .disabled => "disabled"

def Status.ofText? : String → Option Status
  | "active" => some .active
  | "disabled" => some .disabled
  | _ => none

inductive NodeType where
  | direct
  | gateway
  | subDevice
deriving Repr, DecidableEq

def NodeType.ofText? : String → Option NodeType
  | "direct" => some .direct
  | "gateway" => some .gateway
  | "sub_device" => some .subDevice
  | _ => none

inductive AuthType where
  | secret
  | certificate
  | anonymous
deriving Repr, DecidableEq

def AuthType.text : AuthType → String
  | .secret => "secret"
  | .certificate => "certificate"
  | .anonymous => "anonymous"

def AuthType.ofText? : String → Option AuthType
  | "secret" => some .secret
  | "certificate" => some .certificate
  | "anonymous" => some .anonymous
  | _ => none

inductive ProtocolType where
  | mqtt
  | http
  | coap
  | modbus
  | opcua
  | lora
deriving Repr, DecidableEq

def ProtocolType.ofText? : String → Option ProtocolType
  | "mqtt" => some .mqtt
  | "http" => some .http
  | "coap" => some .coap
  | "modbus" => some .modbus
  | "opcua" => some .opcua
  | "lora" => some .lora
  | _ => none

inductive ModelStatus where
  | draft
  | published
  | deprecated
deriving Repr, DecidableEq

def ModelStatus.ofText? : String → Option ModelStatus
  | "draft" => some .draft
  | "published" => some .published
  | "deprecated" => some .deprecated
  | _ => none

inductive CredentialStatus where
  | active
  | rotating
  | revoked
deriving Repr, DecidableEq

def CredentialStatus.text : CredentialStatus → String
  | .active => "active"
  | .rotating => "rotating"
  | .revoked => "revoked"

/-- `length(trim(text)) > 0` -/
def notBlank (text : String) : Bool := text.toList.any (· ≠ ' ')

/-- `lower(text)`, on the texts the slug columns can hold. -/
def lower (text : String) : String := text.map Char.toLower

end Columns

section Rows

structure Tenant where
  id : Uuid
  ownerUserID : Uuid
  tenantSlug : String
  tenantName : String
  status : Status
  createdAt : Int
  updatedAt : Int
  slugFormat : DeviceService.validSlug tenantSlug = true
  nameNotBlank : notBlank tenantName = true
deriving DecidableEq

structure Product where
  id : Uuid
  tenantID : Uuid
  productKey : String
  productName : String
  description : String
  nodeType : NodeType
  authType : AuthType
  protocolType : ProtocolType
  status : Status
  createdAt : Int
  updatedAt : Int
  keyFormat : DeviceService.validSlug productKey = true
  nameNotBlank : notBlank productName = true
deriving DecidableEq

structure ThingsModel where
  id : Uuid
  tenantID : Uuid
  productID : Uuid
  modelVersion : Int
  modelName : String
  description : String
  status : ModelStatus
  isCurrent : Bool
  properties : GoMap Json
  events : GoMap Json
  services : GoMap Json
  publishedAt : Option Int
  createdAt : Int
  updatedAt : Int
  versionPositive : 0 < modelVersion
  currentRequiresPublished : isCurrent = true → status = .published
  publishedAtMatchesStatus : status = .published → publishedAt.isSome = true

structure Device where
  id : Uuid
  tenantID : Uuid
  productID : Uuid
  deviceSlug : String
  deviceName : String
  description : String
  status : Status
  connection : Connection.Row
  gatewayDeviceID : Option Uuid
  firmwareVersion : Option String
  ipAddress : Option String
  createdAt : Int
  updatedAt : Int
  slugFormat : DeviceService.validDeviceSlug deviceSlug = true
  nameNotBlank : notBlank deviceName = true
deriving DecidableEq

structure Credential where
  id : Uuid
  tenantID : Uuid
  deviceID : Uuid
  secretHash : String
  status : CredentialStatus
deriving Repr, DecidableEq

end Rows

section Database

/-- `idx_tenants_slug_unique` -/
def tenantSchema : TableSchema Tenant ℕ where
  key tenant := tenant.id.toNat
  conflict first second := lower first.tenantSlug = lower second.tenantSlug
  conflict_comm first second := by simp [eq_comm]

/-- `idx_products_tenant_key_unique` -/
def productSchema : TableSchema Product ℕ where
  key product := product.id.toNat
  conflict first second :=
    first.tenantID = second.tenantID &&
      lower first.productKey = lower second.productKey
  conflict_comm first second := by simp [eq_comm]

/-- `idx_thingsmodel_product_version_unique` and
`idx_thingsmodel_product_current_unique` -/
def modelSchema : TableSchema ThingsModel ℕ where
  key model := model.id.toNat
  conflict first second :=
    first.tenantID = second.tenantID && first.productID = second.productID &&
      (first.modelVersion = second.modelVersion ||
        (first.isCurrent && second.isCurrent))
  conflict_comm first second := by
    simp [eq_comm, Bool.and_comm]

/-- `idx_devices_tenant_slug_unique` -/
def deviceSchema : TableSchema Device ℕ where
  key device := device.id.toNat
  conflict first second :=
    first.tenantID = second.tenantID &&
      lower first.deviceSlug = lower second.deviceSlug
  conflict_comm first second := by simp [eq_comm]

/-- `idx_device_credentials_one_active` -/
def credentialSchema : TableSchema Credential ℕ where
  key credential := credential.id.toNat
  conflict first second :=
    first.deviceID = second.deviceID &&
      (first.status = .active && second.status = .active)
  conflict_comm first second := by
    simp [eq_comm, Bool.and_comm]

/-- `users` has the ids of the users rows, which `owner_user_id` refers to. -/
structure Database where
  users : List Uuid
  tenants : Table tenantSchema
  products : Table productSchema
  models : Table modelSchema
  devices : Table deviceSchema
  credentials : Table credentialSchema

/-- The settings the policies read. -/
structure Session where
  userID : Option Uuid
  internalService : Option String
  adminService : Option String

variable (session : Session) (db : Database)

/-- A tenant of the session's user exists under this id. -/
def Session.owns (tenantID : Uuid) : Bool :=
  db.tenants.rows.any fun tenant =>
    tenant.id = tenantID && session.userID = some tenant.ownerUserID

def Session.ownsRow (tenant : Tenant) : Bool :=
  session.userID = some tenant.ownerUserID

/-- The services that may read every tenant's rows. -/
def Session.readsAll : Bool :=
  session.internalService = some "backend" || session.adminService.isSome

def Session.seesTenant (tenant : Tenant) : Bool :=
  session.ownsRow tenant || session.readsAll

/-- The policies of products, devices and credentials FOR SELECT. -/
def Session.sees (tenantID : Uuid) : Bool :=
  session.owns db tenantID || session.readsAll

/-- Thing models have no policy for internal services. -/
def Session.seesModel (model : ThingsModel) : Bool :=
  session.owns db model.tenantID || session.adminService.isSome

def Session.seesProduct (product : Product) : Bool :=
  session.sees db product.tenantID

def Session.seesDevice (device : Device) : Bool :=
  session.sees db device.tenantID

end Database

end Registry

end LinkFlow
