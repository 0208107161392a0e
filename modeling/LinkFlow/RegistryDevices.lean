/-
The store of devices and credentials, less its views of reported data.
-/
import LinkFlow.RegistryStores

namespace LinkFlow

namespace Registry

open DeviceService

structure DeviceCreateInput where
  userID : Uuid
  tenantID : String
  productID : String
  deviceSlug : String
  deviceName : String
  description : String
  gatewayDeviceID : String
  deviceSecretHash : String

structure DeviceUpdateInput where
  userID : Uuid
  deviceID : String
  deviceName : String
  description : String
  status : String
  gatewayDeviceID : String

structure DeviceProductAuthInput where
  userID : Uuid
  tenantID : String
  productID : String

structure DeviceListInput extends PageInput where
  userID : Uuid
  tenantID : String
  productID : String

variable (out : Surroundings) (session : Session)

/-- The error of a failed `FindDeviceProductAuthType`. -/
def findDeviceProductAuthTypeError (err : Failure) : Failure :=
  if err.is .noRows then .invalidInput .device
  else .wrap "find device product auth type" err

def findDeviceProductAuthType (input : DeviceProductAuthInput) :
    Database → Reply AuthType :=
  storeCall out "device" input.userID findDeviceProductAuthTypeError
    fun session => do
      out.command .query
      let id ← uuidParam input.productID
      let tenantID ← uuidParam input.tenantID
      queryRow fun db =>
        (db.products.rows.find? fun product =>
          session.seesProduct db product && product.id = id &&
            product.tenantID = tenantID).map Product.authType

def Session.device? (id : Uuid) (db : Database) : Option Device :=
  db.devices.rows.find? fun device => session.seesDevice db device &&
    device.id = id

def deviceBelongsToTenant (deviceID : String) (tenantID : Uuid) :
    Statement Bool :=
  Transaction.mapError (.wrap "check tenant device") do
    out.command .gateway
    let id ← uuidParam deviceID
    Transaction.read fun db => db.devices.rows.any fun device =>
      session.seesDevice db device && device.id = id &&
      device.tenantID = tenantID

/-- `nullIfEmpty`, given to a column of the type `uuid`. -/
def uuidOrNull (text : String) : Statement (Option Uuid) :=
  if text = "" then pure none
  else do
    let id ← uuidParam text
    return some id

def newDevice (tenantID productID : Uuid) (gateway : Option Uuid)
    (input : DeviceCreateInput) : Except Failure Device :=
  if hcheck : validDeviceSlug input.deviceSlug = true ∧
      notBlank input.deviceName = true then
    .ok
      { id := out.newID
        tenantID := tenantID
        productID := productID
        deviceSlug := input.deviceSlug
        deviceName := input.deviceName
        description := input.description
        status := .active
        connection := ⟨.offline, none⟩
        gatewayDeviceID := gateway
        firmwareVersion := none
        ipAddress := none
        createdAt := out.now
        updatedAt := out.now
        slugFormat := hcheck.1
        nameNotBlank := hcheck.2 }
  else .error (.sql .checkViolation)

/-- The credential that is stored with a device. -/
def activeCredential (device : Device) (secretHash : String) : Credential :=
  ⟨out.newCredentialID, device.tenantID, device.id, secretHash, .active⟩

def insertActiveDeviceCredential (device : Device) (secretHash : String) :
    Statement Unit :=
  Transaction.mapError (.wrap "insert device credential") do
    out.command .credential
    require (.sql .rowSecurity) fun db => session.owns db device.tenantID
    storeRows (fun db => db.credentials.insert?
      (activeCredential out device secretHash))
      fun db credentials => { db with credentials := credentials }

/-- A device with a secret gets its credential in the same transaction. -/
def saveSecret (device : Device) (secretHash : String) : Statement Unit :=
  if secretHash = "" then pure ()
  else insertActiveDeviceCredential out session device secretHash

/-- The gateway of a new device is one of its tenant's. -/
def checkGateway (input : DeviceCreateInput) : Statement Unit :=
  if input.gatewayDeviceID = "" then pure ()
  else do
    let tenantID ← uuidParam input.tenantID
    let ok ← deviceBelongsToTenant out session input.gatewayDeviceID tenantID
    if ok then pure () else .fail (.invalidInput .device)

def insertDevice (input : DeviceCreateInput) : Statement Device := do
  let ok ← productBelongsToTenant out session input.productID input.tenantID
  if !ok then .fail (.invalidInput .device)
  else
    checkGateway out session input
    out.command .write
    let tenantID ← uuidParam input.tenantID
    let productID ← uuidParam input.productID
    let gateway ← uuidOrNull input.gatewayDeviceID
    let device ← .lift (newDevice out tenantID productID gateway input)
    require (.sql .rowSecurity) fun db => session.owns db device.tenantID
    storeRows (fun db => db.devices.insert? device) fun db devices =>
      { db with devices := devices }
    saveSecret out session device input.deviceSecretHash
    return device

def createDevice (input : DeviceCreateInput) : Database → Reply Device :=
  storeCall out "device" input.userID (createError .device "insert device")
    fun session => insertDevice out session input

/-- The product filter compares texts. -/
def listDevices (input : DeviceListInput) :
    Database → Reply (PageResult Device) :=
  storeCall out "device" input.userID (.wrap "list devices") fun session => do
    let tenantID ← uuidParam input.tenantID
    listRows out (newestFirst Device.createdAt Device.id) input.toPageInput
      fun db => db.devices.rows.filter fun device =>
        session.seesDevice db device && device.tenantID = tenantID &&
          (input.productID = "" || Uuid.text device.productID = input.productID)

def findDeviceByID (input : RowInput) : Database → Reply Device :=
  storeCall out "device" input.userID (findError .device "find device by id")
    fun session => do
      out.command .query
      let id ← uuidParam input.id
      queryRow (session.device? id)

/-- A device with its tenant, its product and one section of its current thing
model, joined as the session sees them. -/
def Session.deviceTarget? (definitions : ThingsModel → GoMap Json) (id : Uuid)
    (db : Database) : Option DeviceTarget :=
  match session.device? id db with
  | none => none
  | some device =>
      match session.tenant? device.tenantID db,
          db.products.rows.find? fun product =>
            session.seesProduct db product && product.id = device.productID &&
              product.tenantID = device.tenantID with
      | some tenant, some product =>
          let model := db.models.rows.find? fun model =>
            session.seesModel db model && model.tenantID = device.tenantID &&
              model.productID = device.productID && model.isCurrent
          some
            { tenantID := Uuid.text tenant.id
              productID := Uuid.text product.id
              deviceID := Uuid.text device.id
              tenantSlug := tenant.tenantSlug
              productKey := product.productKey
              deviceSlug := device.deviceSlug
              deviceStatus := device.status.text
              connectionStatus :=
                match device.connection.connectionStatus with
                | .online => "online"
                | .offline => "offline"
              definitions := (model.map definitions).getD GoMap.empty }
      | _, _ => none

def findDeviceTarget (context : String) (definitions : ThingsModel → GoMap Json)
    (input : RowInput) : Database → Reply DeviceTarget :=
  storeCall out "device" input.userID (findError .device context)
    fun session => do
      out.command .query
      let id ← uuidParam input.id
      queryRow (session.deviceTarget? definitions id)

def findDeviceServiceCallTarget : RowInput → Database → Reply DeviceTarget :=
  findDeviceTarget out "find device service call target" ThingsModel.services

def findDevicePropertySetTarget : RowInput → Database → Reply DeviceTarget :=
  findDeviceTarget out "find device property set target" ThingsModel.properties

def gatewayBelongsToDeviceTenant (gatewayDeviceID deviceID : String) :
    Statement Bool :=
  Transaction.mapError (.wrap "check device gateway") do
    out.command .gateway
    let id ← uuidParam deviceID
    let gatewayID ← uuidParam gatewayDeviceID
    Transaction.read fun db => db.devices.rows.any fun device =>
      db.devices.rows.any fun gateway =>
        session.seesDevice db device && session.seesDevice db gateway &&
          gateway.tenantID = device.tenantID && device.id = id &&
          gateway.id = gatewayID

def Device.updated (device : Device) (gateway : Option Uuid)
    (input : DeviceUpdateInput) : Except Failure Device :=
  match Status.ofText? input.status with
  | none => .error (.sql .checkViolation)
  | some status =>
      if hname : notBlank input.deviceName = true then
        .ok
          { device with
            deviceName := input.deviceName
            description := input.description
            status := status
            gatewayDeviceID := gateway
            updatedAt := out.now
            nameNotBlank := hname }
      else .error (.sql .checkViolation)

def Session.ownDevice? (id : Uuid) (db : Database) : Option Device :=
  db.devices.rows.find? fun device =>
    session.owns db device.tenantID && device.id = id

/-- The gateway of an updated device is one of its tenant's. -/
def checkNewGateway (input : DeviceUpdateInput) : Statement Unit :=
  if input.gatewayDeviceID = "" then pure ()
  else do
    let ok ← gatewayBelongsToDeviceTenant out session input.gatewayDeviceID
      input.deviceID
    if ok then pure () else .fail (.invalidInput .device)

def updateDeviceRow (input : DeviceUpdateInput) : Statement Device := do
  checkNewGateway out session input
  out.command .write
  let id ← uuidParam input.deviceID
  let gateway ← uuidOrNull input.gatewayDeviceID
  let old ← queryRow (session.ownDevice? id)
  let device ← .lift (old.updated out gateway input)
  storeRows (fun db => db.devices.replace? device) fun db devices =>
    { db with devices := devices }
  return device

def updateDevice (input : DeviceUpdateInput) : Database → Reply Device :=
  storeCall out "device" input.userID (findError .device "update device")
    fun session => updateDeviceRow out session input

def deviceHasSubDevices (deviceID : String) : Statement Bool :=
  Transaction.mapError (.wrap "check sub devices") do
    out.command .check
    let id ← uuidParam deviceID
    Transaction.read fun db => db.devices.rows.any fun device =>
      session.seesDevice db device && device.gatewayDeviceID = some id

def deleteDeviceRow (id : String) : Statement Unit := do
  let inUse ← deviceHasSubDevices out session id
  if inUse then .fail (.invalidInput .device)
  else
    out.command .write
    let id ← uuidParam id
    require (.notFound .device) fun db => (session.ownDevice? id db).isSome
    deleteRows fun db =>
      { db with
        devices := db.devices.delete fun device =>
          session.owns db device.tenantID && device.id = id }

def deleteDevice (input : RowInput) : Database → Reply Unit :=
  storeCall out "device" input.userID (deleteError .device "delete device")
    fun session => deleteDeviceRow out session input.id

end Registry

end LinkFlow
