/-
The services over the registry's stores: they trim and default what a caller
gives, check it, and generate the secrets of devices.
-/
import LinkFlow.RegistryDevices

namespace LinkFlow

namespace Registry

section Texts

/-- `unicode.ToLower`.  Only its values on ASCII are fixed here. -/
structure Casing where
  lowerRune : Char → Char
  lowerRune_ascii : ∀ char : Char, char.toNat < 128 →
    lowerRune char = char.toLower

/-- Letters as they are lowered in ASCII. -/
def asciiCasing : Casing := ⟨Char.toLower, fun _ _ => rfl⟩

/-- `strings.ToLower` -/
def Casing.toLower (casing : Casing) (text : String) : String :=
  text.map casing.lowerRune

variable (casing : Casing)

def normalizeTenantSlug (slug : String) : String :=
  casing.toLower (trimSpace slug)

def normalizeProductKey (key : String) : String :=
  casing.toLower (trimSpace key)

def normalizeDeviceSlug (slug : String) : String :=
  casing.toLower (trimSpace slug)

/-- The normalizers of a status or type: trimmed, or the default. -/
def normalizeChoice (default text : String) : String :=
  if trimSpace text = "" then default else trimSpace text

def normalizeProductNodeType : String → String := normalizeChoice "direct"
def normalizeProductAuthType : String → String := normalizeChoice "secret"
def normalizeProductProtocolType : String → String := normalizeChoice "mqtt"
def normalizeProductStatus : String → String := normalizeChoice "active"
def normalizeThingsModelStatus : String → String := normalizeChoice "draft"
def normalizeDeviceStatus : String → String := normalizeChoice "active"

def validProductNodeType (text : String) : Bool :=
  (NodeType.ofText? text).isSome

def validProductAuthType (text : String) : Bool :=
  (AuthType.ofText? text).isSome

def validProductProtocolType (text : String) : Bool :=
  (ProtocolType.ofText? text).isSome

def validProductStatus (text : String) : Bool := (Status.ofText? text).isSome

def validThingsModelStatus (text : String) : Bool :=
  (ModelStatus.ofText? text).isSome

def validDeviceStatus (text : String) : Bool := (Status.ofText? text).isSome

end Texts

section Calls

variable {α : Type} (casing : Casing) (out : Surroundings)

/-- A method of a service: the context, the check of its input, the store. -/
def serviceCall (refused : Bool) (err : Failure) (call : Database → Reply α)
    (db : Database) : Reply α :=
  match out.ctxErr .service with
  | some text => (.error (.text text), db)
  | none => if refused then (.error err, db) else call db

namespace TenantService

def create (input : TenantCreateInput) : Database → Reply Tenant :=
  let input : TenantCreateInput :=
    { input with
      tenantSlug := normalizeTenantSlug casing input.tenantSlug
      tenantName := trimSpace input.tenantName }
  serviceCall out (input.tenantSlug = "" || input.tenantName = "")
    (.invalidInput .tenant) (createTenant out input)

def update (input : TenantUpdateInput) : Database → Reply Tenant :=
  let input : TenantUpdateInput :=
    { input with
      tenantID := trimSpace input.tenantID
      tenantName := trimSpace input.tenantName
      status := trimSpace input.status }
  let status := if input.status = "" then "active" else input.status
  serviceCall out
    (input.tenantID = "" || input.tenantName = "" ||
      (status ≠ "active" && status ≠ "disabled"))
    (.invalidInput .tenant) (updateTenant out { input with status := status })

def delete (input : RowInput) : Database → Reply Unit :=
  serviceCall out (trimSpace input.id = "") (.invalidInput .tenant)
    (deleteTenant out { input with id := trimSpace input.id })

end TenantService

namespace ProductService

def create (input : ProductCreateInput) : Database → Reply Product :=
  let input : ProductCreateInput :=
    { input with
      tenantID := trimSpace input.tenantID
      productKey := normalizeProductKey casing input.productKey
      productName := trimSpace input.productName
      description := trimSpace input.description
      nodeType := normalizeProductNodeType input.nodeType
      authType := normalizeProductAuthType input.authType
      protocolType := normalizeProductProtocolType input.protocolType }
  serviceCall out
    (input.tenantID = "" || input.productKey = "" || input.productName = "" ||
      !validProductNodeType input.nodeType ||
      !validProductAuthType input.authType ||
      !validProductProtocolType input.protocolType)
    (.invalidInput .product) (createProduct out input)

def update (input : ProductUpdateInput) : Database → Reply Product :=
  let input : ProductUpdateInput :=
    { input with
      productID := trimSpace input.productID
      productName := trimSpace input.productName
      description := trimSpace input.description
      nodeType := normalizeProductNodeType input.nodeType
      authType := normalizeProductAuthType input.authType
      protocolType := normalizeProductProtocolType input.protocolType
      status := normalizeProductStatus input.status }
  serviceCall out
    (input.productID = "" || input.productName = "" ||
      !validProductNodeType input.nodeType ||
      !validProductAuthType input.authType ||
      !validProductProtocolType input.protocolType ||
      !validProductStatus input.status)
    (.invalidInput .product) (updateProduct out input)

def delete (input : RowInput) : Database → Reply Unit :=
  serviceCall out (trimSpace input.id = "") (.invalidInput .product)
    (deleteProduct out { input with id := trimSpace input.id })

end ProductService

namespace ThingsModelService

/-- `Create`, whose three objects may be absent. -/
structure CreateInput extends ThingsModelCreateInput where
  hasProperties : Bool
  hasEvents : Bool
  hasServices : Bool

/-- `Update`, likewise. -/
structure UpdateInput extends ThingsModelUpdateInput where
  hasProperties : Bool
  hasEvents : Bool
  hasServices : Bool

def normalizeThingsModelObject (present : Bool) (value : GoMap Json) :
    GoMap Json :=
  if present then value else GoMap.empty

/-- The input `Create` gives the store. -/
def CreateInput.normalized (input : CreateInput) : ThingsModelCreateInput :=
  { input.toThingsModelCreateInput with
    tenantID := trimSpace input.tenantID
    productID := trimSpace input.productID
    modelName := trimSpace input.modelName
    description := trimSpace input.description
    status := normalizeThingsModelStatus input.status
    properties :=
      normalizeThingsModelObject input.hasProperties input.properties
    events := normalizeThingsModelObject input.hasEvents input.events
    services := normalizeThingsModelObject input.hasServices input.services }

def UpdateInput.normalized (input : UpdateInput) : ThingsModelUpdateInput :=
  { input.toThingsModelUpdateInput with
    thingsModelID := trimSpace input.thingsModelID
    modelName := trimSpace input.modelName
    description := trimSpace input.description
    status := normalizeThingsModelStatus input.status
    properties :=
      normalizeThingsModelObject input.hasProperties input.properties
    events := normalizeThingsModelObject input.hasEvents input.events
    services := normalizeThingsModelObject input.hasServices input.services }

/-- The checks of status and definition that both methods make. -/
def refuses (status : String) (isCurrent : Bool)
    (properties events services : GoMap Json) : Bool :=
  !validThingsModelStatus status || (isCurrent && status ≠ "published") ||
    match ThingsModel.validateThingsModelDefinition properties events
      services with
    | .ok () => false
    | .error _ => true

/-- What `Create` refuses. -/
def refusesCreate (input : ThingsModelCreateInput) : Bool :=
  input.tenantID = "" || input.productID = "" || input.modelName = "" ||
    input.modelVersion ≤ 0 ||
    refuses input.status input.isCurrent input.properties input.events
      input.services

/-- What `Update` refuses. -/
def refusesUpdate (input : ThingsModelUpdateInput) : Bool :=
  input.thingsModelID = "" || input.modelName = "" ||
    refuses input.status input.isCurrent input.properties input.events
      input.services

def create (input : CreateInput) : Database → Reply ThingsModel :=
  serviceCall out (refusesCreate input.normalized) (.invalidInput .thingsModel)
    (createThingsModel out input.normalized)

def update (input : UpdateInput) : Database → Reply ThingsModel :=
  serviceCall out (refusesUpdate input.normalized) (.invalidInput .thingsModel)
    (updateThingsModel out input.normalized)

def delete (input : RowInput) : Database → Reply Unit :=
  serviceCall out (trimSpace input.id = "") (.invalidInput .thingsModel)
    (deleteThingsModel out { input with id := trimSpace input.id })

end ThingsModelService

end Calls

section Secrets

/-- bcrypt: a hash compares with the password it was made of. -/
structure Bcrypt where
  generateFromPassword : Nat → String → String
  compareHashAndPassword : String → String → Bool
  generate_ne_empty : ∀ salt password,
    generateFromPassword salt password ≠ ""
  compare_generate : ∀ salt password,
    compareHashAndPassword (generateFromPassword salt password) password = true

/-- The alphabet of `base64.RawURLEncoding`. -/
def base64Char (digit : Nat) : Char :=
  if digit < 26 then Char.ofNat (65 + digit)
  else if digit < 52 then Char.ofNat (71 + digit)
  else if digit < 62 then Char.ofNat (digit - 4)
  else if digit = 62 then '-'
  else '_'

/-- The lowest `width` digits of a number in base 64. -/
def base64Digits : Nat → Nat → List Char
  | 0, _ => []
  | width + 1, number =>
      base64Char (number / 64 ^ width % 64) :: base64Digits width number

/-- `SecretManager.Generate` of 32 random bytes: 43 digits, the last of four
bits. -/
def generateSecret (bytes : BitVec 256) : String :=
  String.ofList (base64Digits 43 (bytes.toNat * 4))

/-- What `DeviceService.Create` meets beside its two calls of the store. -/
structure SecretSource where
  random : Except String (BitVec 256)
  salt : Except String Nat

variable (bcrypt : Bcrypt)

/-- `SecretManager.Hash` -/
def hashSecret (salt : Except String Nat) (secret : String) :
    Except Failure String :=
  if secret = "" then .error (.text "device secret is required")
  else
    match salt with
    | .error err => .error (.wrap "hash device secret" (.text err))
    | .ok salt => .ok (bcrypt.generateFromPassword salt secret)

/-- `SecretManager.Compare` succeeds. -/
def compareSecret (hash secret : String) : Bool :=
  hash ≠ "" && secret ≠ "" && bcrypt.compareHashAndPassword hash secret

end Secrets

namespace DeviceCalls

structure DeviceCreateResult where
  device : Device
  deviceSecret : String

variable (casing : Casing) (bcrypt : Bcrypt)

/-- The secret and its hash for a product of this kind, both empty for an
anonymous one. -/
def newSecret (source : SecretSource) (authType : AuthType) :
    Except Failure (String × String) :=
  match authType with
  | .secret =>
      match source.random with
      | .error err => .error (.wrap "generate device secret" (.text err))
      | .ok bytes =>
          match hashSecret bcrypt source.salt (generateSecret bytes) with
          | .error err => .error err
          | .ok hash => .ok (generateSecret bytes, hash)
  | .anonymous => .ok ("", "")
  | .certificate => .error (.invalidInput .device)

/-- The input `Create` gives the store, but for the hash. -/
def normalizedCreate (input : DeviceCreateInput) : DeviceCreateInput :=
  { input with
    tenantID := trimSpace input.tenantID
    productID := trimSpace input.productID
    deviceSlug := normalizeDeviceSlug casing input.deviceSlug
    deviceName := trimSpace input.deviceName
    description := trimSpace input.description
    gatewayDeviceID := trimSpace input.gatewayDeviceID
    deviceSecretHash := "" }

/-- `DeviceService.Create`: a lookup of the product, then the insertion, each a
transaction of its own. -/
def create (lookup out : Surroundings) (source : SecretSource)
    (input : DeviceCreateInput) : Database → Reply DeviceCreateResult :=
  let input := normalizedCreate casing input
  serviceCall out
    (input.tenantID = "" || input.productID = "" || input.deviceSlug = "" ||
      input.deviceName = "")
    (.invalidInput .device) fun db =>
      match (findDeviceProductAuthType lookup
          ⟨input.userID, input.tenantID, input.productID⟩ db).1 with
      | .error err => (.error err, db)
      | .ok authType =>
          match newSecret bcrypt source authType with
          | .error err => (.error err, db)
          | .ok (secret, hash) =>
              let (result, next) :=
                createDevice out { input with deviceSecretHash := hash } db
              (result.map fun device => ⟨device, secret⟩, next)

def update (out : Surroundings) (input : DeviceUpdateInput) :
    Database → Reply Device :=
  let input : DeviceUpdateInput :=
    { input with
      deviceID := trimSpace input.deviceID
      deviceName := trimSpace input.deviceName
      description := trimSpace input.description
      status := normalizeDeviceStatus input.status
      gatewayDeviceID := trimSpace input.gatewayDeviceID }
  serviceCall out
    (input.deviceID = "" || input.deviceName = "" ||
      (input.gatewayDeviceID ≠ "" && input.gatewayDeviceID = input.deviceID) ||
      !validDeviceStatus input.status)
    (.invalidInput .device) (updateDevice out input)

def delete (out : Surroundings) (input : RowInput) : Database → Reply Unit :=
  serviceCall out (trimSpace input.id = "") (.invalidInput .device)
    (deleteDevice out { input with id := trimSpace input.id })

end DeviceCalls

section Runs

/-- A call of one of the registry's services that may write. -/
inductive Request where
  | createTenant (out : Surroundings) (input : TenantCreateInput)
  | updateTenant (out : Surroundings) (input : TenantUpdateInput)
  | deleteTenant (out : Surroundings) (input : RowInput)
  | createProduct (out : Surroundings) (input : ProductCreateInput)
  | updateProduct (out : Surroundings) (input : ProductUpdateInput)
  | deleteProduct (out : Surroundings) (input : RowInput)
  | createThingsModel (out : Surroundings)
      (input : ThingsModelService.CreateInput)
  | updateThingsModel (out : Surroundings)
      (input : ThingsModelService.UpdateInput)
  | deleteThingsModel (out : Surroundings) (input : RowInput)
  | createDevice (lookup out : Surroundings) (source : SecretSource)
      (input : DeviceCreateInput)
  | updateDevice (out : Surroundings) (input : DeviceUpdateInput)
  | deleteDevice (out : Surroundings) (input : RowInput)

/-- The row a call asks to delete. -/
inductive Deletes where
  | nothing
  | tenant (id : Uuid)
  | product (id : Uuid)
  | model (id : Uuid)
  | device (id : Uuid)

def Deletes.named (kind : Uuid → Deletes) (input : RowInput) : Deletes :=
  match Uuid.ofText? (trimSpace input.id) with
  | some id => kind id
  | none => .nothing

/-- What a request brings to the database: the surroundings of its store call,
its actor, the row it deletes, the kind of authentication it gives a product,
and whether it may register a device. -/
structure Call where
  out : Surroundings
  userID : Uuid
  deletes : Deletes
  authType : Option (Uuid × AuthType)
  registers : Bool

def Request.call : Request → Call
  | .createTenant out input => ⟨out, input.userID, .nothing, none, false⟩
  | .updateTenant out input => ⟨out, input.userID, .nothing, none, false⟩
  | .deleteTenant out input =>
      ⟨out, input.userID, .named .tenant input, none, false⟩
  | .createProduct out input => ⟨out, input.userID, .nothing, none, false⟩
  | .updateProduct out input =>
      ⟨out, input.userID, .nothing,
        (Uuid.ofText? (trimSpace input.productID)).bind fun id =>
          (AuthType.ofText? (normalizeProductAuthType input.authType)).map
            (id, ·), false⟩
  | .deleteProduct out input =>
      ⟨out, input.userID, .named .product input, none, false⟩
  | .createThingsModel out input => ⟨out, input.userID, .nothing, none, false⟩
  | .updateThingsModel out input => ⟨out, input.userID, .nothing, none, false⟩
  | .deleteThingsModel out input =>
      ⟨out, input.userID, .named .model input, none, false⟩
  | .createDevice _ out _ input => ⟨out, input.userID, .nothing, none, true⟩
  | .updateDevice out input => ⟨out, input.userID, .nothing, none, false⟩
  | .deleteDevice out input =>
      ⟨out, input.userID, .named .device input, none, false⟩

/-- The database after a call, whatever it reported. -/
def serve (casing : Casing) (bcrypt : Bcrypt) (db : Database) :
    Request → Database
  | .createTenant out input => (TenantService.create casing out input db).2
  | .updateTenant out input => (TenantService.update out input db).2
  | .deleteTenant out input => (TenantService.delete out input db).2
  | .createProduct out input => (ProductService.create casing out input db).2
  | .updateProduct out input => (ProductService.update out input db).2
  | .deleteProduct out input => (ProductService.delete out input db).2
  | .createThingsModel out input => (ThingsModelService.create out input db).2
  | .updateThingsModel out input => (ThingsModelService.update out input db).2
  | .deleteThingsModel out input => (ThingsModelService.delete out input db).2
  | .createDevice lookup out source input =>
      (DeviceCalls.create casing bcrypt lookup out source input db).2
  | .updateDevice out input => (DeviceCalls.update out input db).2
  | .deleteDevice out input => (DeviceCalls.delete out input db).2

end Runs

end Registry

end LinkFlow
