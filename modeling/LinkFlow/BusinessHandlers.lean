/-
The handlers of the API that change something: each reads its request, names the
action for the audit log, calls its service and answers.  They stand behind the
authentication and the audit middleware.
-/
import LinkFlow.AuditLog

namespace LinkFlow

namespace Audit

open Registry

section Requests

structure TenantCreateRequest where
  tenantSlug : String
  tenantName : String

structure TenantUpdateRequest where
  tenantName : String
  status : String

structure ProductCreateRequest where
  tenantID : String
  productKey : String
  productName : String
  description : String
  nodeType : String
  authType : String
  protocolType : String

structure ProductUpdateRequest where
  productName : String
  description : String
  nodeType : String
  authType : String
  protocolType : String
  status : String

structure ThingsModelCreateRequest where
  tenantID : String
  productID : String
  modelVersion : Int
  modelName : String
  description : String
  status : String
  isCurrent : Bool
  properties : Option (GoMap Json)
  events : Option (GoMap Json)
  services : Option (GoMap Json)

structure ThingsModelUpdateRequest where
  modelName : String
  description : String
  status : String
  isCurrent : Bool
  properties : Option (GoMap Json)
  events : Option (GoMap Json)
  services : Option (GoMap Json)

structure DeviceCreateRequest where
  tenantID : String
  productID : String
  deviceSlug : String
  deviceName : String
  description : String
  gatewayDeviceID : String

structure DeviceUpdateRequest where
  deviceName : String
  description : String
  status : String
  gatewayDeviceID : String

structure DevicePropertySetRequest where
  properties : Option (GoMap Json)

structure DeviceServiceCallRequest where
  input : Option (GoMap Json)

end Requests

section Responses

/-- The data of a response. -/
inductive ResponseData where
  | absent
  | deleted
  | tenant (tenant : Tenant)
  | product (product : Product)
  | thingsModel (model : ThingsModel)
  | created (result : DeviceCalls.DeviceCreateResult)
  | device (device : Device)
  | propertySet (result : DeviceService.DevicePropertySetResult)
  | serviceCall (result : DeviceService.DeviceServiceCallResult)

/-- A response, whose body repeats the status as its code. -/
structure Response where
  status : Nat
  msg : String
  data : ResponseData

/-- `writeJSON` of `response.SuccessData`. -/
def successData (msg : String) (status : Nat) (data : ResponseData) :
    Response :=
  ⟨status, msg, data⟩

def writeHTTPError (err : HTTPError) : Response :=
  ⟨err.httpStatus, err.msg, .absent⟩

end Responses

section Handlers

/-- What the handlers change: the registry, and the records of commands that are
in their topics. -/
structure Holdings where
  db : Database
  sent : List KafkaRecord

/-- A call of one of the registry's services. -/
def onRegistry {β : Type} (call : Database → Reply β) (held : Holdings) :
    Except Failure β × Holdings :=
  let (result, next) := call held.db
  (result, { held with db := next })

/-- A command, which sends a record when it succeeds.  A record whose `Send`
reports an error may be in its topic or not: `written` says whether it is. -/
def onBus {β : Type} (written : Bool)
    (sends : DeviceService.Sends LinkFlow.ThingsModel.DeviceError β)
    (held : Holdings) : Except LinkFlow.ThingsModel.DeviceError β × Holdings :=
  (sends.outcome,
    if sends.outcome.isOk || written then
      { held with sent := held.sent ++ sends.trace }
    else held)

/-- What a handler has answered and recorded. -/
structure Served where
  response : Response
  recorder : AuditRecorder

/-- The course all these handlers take.  They differ in what they record of the
request, the service they call, the errors it reports, and what they record and
answer when it succeeds. -/
def businessHandler {α β ε : Type} (principal : Option Principal)
    (body : Except Handler.HTTPError α)
    (mark : α → AuditRecorder → AuditRecorder)
    (call : Principal → α → Holdings → Except ε β × Holdings)
    (mapErr : ε → HTTPError) (finish : β → AuditRecorder → AuditRecorder)
    (reply : β → Response) (held : Holdings) : Served × Holdings :=
  match principal, body with
  | none, _ => (⟨writeHTTPError errUnauthorized, .blank⟩, held)
  | some _, .error err => (⟨writeHTTPError (decodeError err), .blank⟩, held)
  | some principal, .ok req =>
      match call principal req held with
      | (.error err, next) =>
          (⟨writeHTTPError (mapErr err),
            (mark req .blank).setErrorCode (mapErr err).code⟩, next)
      | (.ok value, next) =>
          (⟨reply value, finish value (mark req .blank)⟩, next)

variable (casing : Casing) (bcrypt : Bcrypt) (principal : Option Principal)

namespace TenantHandler

def create (out : Registry.Surroundings)
    (body : Except Handler.HTTPError TenantCreateRequest) :
    Holdings → Served × Holdings :=
  businessHandler principal body
    (fun req => .set "tenant.create" "tenant" ""
      [("tenant_slug", .str req.tenantSlug),
        ("tenant_name", .str req.tenantName)])
    (fun principal req => onRegistry <| TenantService.create casing out
      { userID := principal.userID
        tenantSlug := req.tenantSlug
        tenantName := req.tenantName })
    mapTenantError
    (fun tenant => .setResourceID (Uuid.text tenant.id))
    (fun tenant => successData "tenant created" 201 (.tenant tenant))

def update (out : Registry.Surroundings) (tenantID : String)
    (body : Except Handler.HTTPError TenantUpdateRequest) :
    Holdings → Served × Holdings :=
  businessHandler principal body
    (fun req => .set "tenant.update" "tenant" tenantID
      [("tenant_name", .str req.tenantName), ("status", .str req.status)])
    (fun principal req => onRegistry <| TenantService.update out
      { userID := principal.userID
        tenantID := tenantID
        tenantName := req.tenantName
        status := req.status })
    mapTenantError
    (fun tenant => .addMetadata [("tenant_slug", .str tenant.tenantSlug)])
    (fun tenant => successData "tenant updated" 200 (.tenant tenant))

def delete (out : Registry.Surroundings) (tenantID : String) :
    Holdings → Served × Holdings :=
  businessHandler principal (.ok ())
    (fun _ => .set "tenant.delete" "tenant" tenantID [])
    (fun principal _ => onRegistry <| TenantService.delete out
      { userID := principal.userID, id := tenantID })
    mapTenantError
    (fun _ recorder => recorder)
    (fun _ => successData "tenant deleted" 200 .deleted)

end TenantHandler

namespace ProductHandler

def create (out : Registry.Surroundings)
    (body : Except Handler.HTTPError ProductCreateRequest) :
    Holdings → Served × Holdings :=
  businessHandler principal body
    (fun req => .set "product.create" "product" ""
      [("tenant_id", .str req.tenantID), ("product_key", .str req.productKey),
        ("product_name", .str req.productName),
        ("node_type", .str req.nodeType), ("auth_type", .str req.authType)])
    (fun principal req => onRegistry <| ProductService.create casing out
      { userID := principal.userID
        tenantID := req.tenantID
        productKey := req.productKey
        productName := req.productName
        description := req.description
        nodeType := req.nodeType
        authType := req.authType
        protocolType := req.protocolType })
    mapProductError
    (fun product => .setResourceID (Uuid.text product.id))
    (fun product => successData "product created" 201 (.product product))

def update (out : Registry.Surroundings) (productID : String)
    (body : Except Handler.HTTPError ProductUpdateRequest) :
    Holdings → Served × Holdings :=
  businessHandler principal body
    (fun req => .set "product.update" "product" productID
      [("product_name", .str req.productName), ("node_type", .str req.nodeType),
        ("auth_type", .str req.authType),
        ("protocol_type", .str req.protocolType), ("status", .str req.status)])
    (fun principal req => onRegistry <| ProductService.update out
      { userID := principal.userID
        productID := productID
        productName := req.productName
        description := req.description
        nodeType := req.nodeType
        authType := req.authType
        protocolType := req.protocolType
        status := req.status })
    mapProductError
    (fun product => .addMetadata
      [("tenant_id", .str (Uuid.text product.tenantID)),
        ("product_key", .str product.productKey)])
    (fun product => successData "product updated" 200 (.product product))

def delete (out : Registry.Surroundings) (productID : String) :
    Holdings → Served × Holdings :=
  businessHandler principal (.ok ())
    (fun _ => .set "product.delete" "product" productID [])
    (fun principal _ => onRegistry <| ProductService.delete out
      { userID := principal.userID, id := productID })
    mapProductError
    (fun _ recorder => recorder)
    (fun _ => successData "product deleted" 200 .deleted)

end ProductHandler

namespace ThingsModelHandler

def create (out : Registry.Surroundings)
    (body : Except Handler.HTTPError ThingsModelCreateRequest) :
    Holdings → Served × Holdings :=
  businessHandler principal body
    (fun req => .set "thingsmodel.create" "thingsmodel" ""
      [("tenant_id", .str req.tenantID), ("product_id", .str req.productID),
        ("model_version", .num req.modelVersion true),
        ("model_name", .str req.modelName), ("status", .str req.status),
        ("is_current", .bool req.isCurrent)])
    (fun principal req => onRegistry <| ThingsModelService.create out
      { userID := principal.userID
        tenantID := req.tenantID
        productID := req.productID
        modelVersion := req.modelVersion
        modelName := req.modelName
        description := req.description
        status := req.status
        isCurrent := req.isCurrent
        properties := req.properties.getD GoMap.empty
        events := req.events.getD GoMap.empty
        services := req.services.getD GoMap.empty
        hasProperties := req.properties.isSome
        hasEvents := req.events.isSome
        hasServices := req.services.isSome })
    mapThingsModelError
    (fun model => .setResourceID (Uuid.text model.id))
    (fun model => successData "thingsmodel created" 201 (.thingsModel model))

def update (out : Registry.Surroundings) (thingsModelID : String)
    (body : Except Handler.HTTPError ThingsModelUpdateRequest) :
    Holdings → Served × Holdings :=
  businessHandler principal body
    (fun req => .set "thingsmodel.update" "thingsmodel" thingsModelID
      [("model_name", .str req.modelName), ("status", .str req.status),
        ("is_current", .bool req.isCurrent)])
    (fun principal req => onRegistry <| ThingsModelService.update out
      { userID := principal.userID
        thingsModelID := thingsModelID
        modelName := req.modelName
        description := req.description
        status := req.status
        isCurrent := req.isCurrent
        properties := req.properties.getD GoMap.empty
        events := req.events.getD GoMap.empty
        services := req.services.getD GoMap.empty
        hasProperties := req.properties.isSome
        hasEvents := req.events.isSome
        hasServices := req.services.isSome })
    mapThingsModelError
    (fun model => .addMetadata
      [("tenant_id", .str (Uuid.text model.tenantID)),
        ("product_id", .str (Uuid.text model.productID)),
        ("model_version", .num model.modelVersion true)])
    (fun model => successData "thingsmodel updated" 200 (.thingsModel model))

def delete (out : Registry.Surroundings) (thingsModelID : String) :
    Holdings → Served × Holdings :=
  businessHandler principal (.ok ())
    (fun _ => .set "thingsmodel.delete" "thingsmodel" thingsModelID [])
    (fun principal _ => onRegistry <| ThingsModelService.delete out
      { userID := principal.userID, id := thingsModelID })
    mapThingsModelError
    (fun _ recorder => recorder)
    (fun _ => successData "thingsmodel deleted" 200 .deleted)

end ThingsModelHandler

namespace DeviceHandler

def create (lookup out : Registry.Surroundings) (source : SecretSource)
    (body : Except Handler.HTTPError DeviceCreateRequest) :
    Holdings → Served × Holdings :=
  businessHandler principal body
    (fun req => .set "device.create" "device" ""
      [("tenant_id", .str req.tenantID), ("product_id", .str req.productID),
        ("device_slug", .str req.deviceSlug),
        ("device_name", .str req.deviceName),
        ("gateway_device_id", .str req.gatewayDeviceID)])
    (fun principal req => onRegistry <|
      DeviceCalls.create casing bcrypt lookup out source
        { userID := principal.userID
          tenantID := req.tenantID
          productID := req.productID
          deviceSlug := req.deviceSlug
          deviceName := req.deviceName
          description := req.description
          gatewayDeviceID := req.gatewayDeviceID
          deviceSecretHash := "" })
    mapDeviceError
    (fun result => .setResourceID (Uuid.text result.device.id))
    (fun result => successData "device created" 201 (.created result))

def update (out : Registry.Surroundings) (deviceID : String)
    (body : Except Handler.HTTPError DeviceUpdateRequest) :
    Holdings → Served × Holdings :=
  businessHandler principal body
    (fun req => .set "device.update" "device" deviceID
      [("device_name", .str req.deviceName), ("status", .str req.status),
        ("gateway_device_id", .str req.gatewayDeviceID)])
    (fun principal req => onRegistry <| DeviceCalls.update out
      { userID := principal.userID
        deviceID := deviceID
        deviceName := req.deviceName
        description := req.description
        status := req.status
        gatewayDeviceID := req.gatewayDeviceID })
    mapDeviceError
    (fun device => .addMetadata
      [("tenant_id", .str (Uuid.text device.tenantID)),
        ("product_id", .str (Uuid.text device.productID)),
        ("device_slug", .str device.deviceSlug),
        ("device_name", .str device.deviceName),
        ("gateway_id", .str (coalesce (device.gatewayDeviceID.map Uuid.text)))])
    (fun device => successData "device updated" 200 (.device device))

def delete (out : Registry.Surroundings) (deviceID : String) :
    Holdings → Served × Holdings :=
  businessHandler principal (.ok ())
    (fun _ => .set "device.delete" "device" deviceID [])
    (fun principal _ => onRegistry <| DeviceCalls.delete out
      { userID := principal.userID, id := deviceID })
    mapDeviceError
    (fun _ recorder => recorder)
    (fun _ => successData "device deleted" 200 .deleted)

/-- `propertyNames`, in the order of the range. -/
def propertyNames (properties : GoMap Json) : Json :=
  .arr (properties.keys.map Json.str)

def setProperties (outside : DeviceService.Surroundings) (written : Bool)
    (deviceID : String)
    (body : Except Handler.HTTPError DevicePropertySetRequest) :
    Holdings → Served × Holdings :=
  businessHandler principal body
    (fun req => .set "device.property.set" "device" deviceID
      [("properties", propertyNames (req.properties.getD GoMap.empty))])
    (fun principal req => onBus written <| DeviceService.setPropertiesSends
      outside (Uuid.text principal.userID) deviceID
      (req.properties.getD GoMap.empty))
    mapCommandError
    (fun result => .addMetadata
      [("command_id", .str result.commandID), ("topic", .str result.topic)])
    (fun result => successData "property set dispatched" 202
      (.propertySet result))

def callService (outside : DeviceService.Surroundings) (written : Bool)
    (deviceID serviceName : String)
    (body : Except Handler.HTTPError DeviceServiceCallRequest) :
    Holdings → Served × Holdings :=
  businessHandler principal body
    (fun _ => .set "device.service.call" "device" deviceID
      [("service_name", .str serviceName)])
    (fun principal req => onBus written <| DeviceService.callServiceSends
      outside (Uuid.text principal.userID) deviceID serviceName req.input)
    mapCommandError
    (fun result => .addMetadata
      [("command_id", .str result.commandID), ("topic", .str result.topic)])
    (fun result => successData "service call dispatched" 202
      (.serviceCall result))

end DeviceHandler

end Handlers

section Chain

/-- A request that reaches one of these handlers, with what its service meets,
what `decodeJSON` makes of its body and, for a command, what becomes of its
record where `Send` reports an error. -/
inductive Operation where
  | createTenant (out : Registry.Surroundings)
      (body : Except Handler.HTTPError TenantCreateRequest)
  | updateTenant (out : Registry.Surroundings) (tenantID : String)
      (body : Except Handler.HTTPError TenantUpdateRequest)
  | deleteTenant (out : Registry.Surroundings) (tenantID : String)
  | createProduct (out : Registry.Surroundings)
      (body : Except Handler.HTTPError ProductCreateRequest)
  | updateProduct (out : Registry.Surroundings) (productID : String)
      (body : Except Handler.HTTPError ProductUpdateRequest)
  | deleteProduct (out : Registry.Surroundings) (productID : String)
  | createThingsModel (out : Registry.Surroundings)
      (body : Except Handler.HTTPError ThingsModelCreateRequest)
  | updateThingsModel (out : Registry.Surroundings) (thingsModelID : String)
      (body : Except Handler.HTTPError ThingsModelUpdateRequest)
  | deleteThingsModel (out : Registry.Surroundings) (thingsModelID : String)
  | createDevice (lookup out : Registry.Surroundings) (source : SecretSource)
      (body : Except Handler.HTTPError DeviceCreateRequest)
  | updateDevice (out : Registry.Surroundings) (deviceID : String)
      (body : Except Handler.HTTPError DeviceUpdateRequest)
  | deleteDevice (out : Registry.Surroundings) (deviceID : String)
  | setProperties (outside : DeviceService.Surroundings) (written : Bool)
      (deviceID : String)
      (body : Except Handler.HTTPError DevicePropertySetRequest)
  | callService (outside : DeviceService.Surroundings) (written : Bool)
      (deviceID serviceName : String)
      (body : Except Handler.HTTPError DeviceServiceCallRequest)

variable (casing : Casing) (bcrypt : Bcrypt) (principal : Option Principal)

/-- The routes to the handlers. -/
def Operation.handle : Operation → Holdings → Served × Holdings
  | .createTenant out body => TenantHandler.create casing principal out body
  | .updateTenant out id body => TenantHandler.update principal out id body
  | .deleteTenant out id => TenantHandler.delete principal out id
  | .createProduct out body => ProductHandler.create casing principal out body
  | .updateProduct out id body => ProductHandler.update principal out id body
  | .deleteProduct out id => ProductHandler.delete principal out id
  | .createThingsModel out body => ThingsModelHandler.create principal out body
  | .updateThingsModel out id body =>
      ThingsModelHandler.update principal out id body
  | .deleteThingsModel out id => ThingsModelHandler.delete principal out id
  | .createDevice lookup out source body =>
      DeviceHandler.create casing bcrypt principal lookup out source body
  | .updateDevice out id body => DeviceHandler.update principal out id body
  | .deleteDevice out id => DeviceHandler.delete principal out id
  | .setProperties outside written id body =>
      DeviceHandler.setProperties principal outside written id body
  | .callService outside written id service body =>
      DeviceHandler.callService principal outside written id service body

/-- A request with the principal its token stands for, and the time it takes. -/
structure Exchange where
  http : HTTPRequest
  principal : Option Principal
  operation : Operation
  durationMS : Nat

/-- `authenticatedBusinessHandler`: `Authenticate` around `Audit` around the
handler.  The entry is what `Audit` gives to its writer. -/
def Exchange.serve (exchange : Exchange) (held : Holdings) :
    Response × Option AuditEntry × Holdings :=
  match exchange.principal with
  | none => (writeHTTPError errUnauthorized, none, held)
  | some principal =>
      let (served, next) :=
        exchange.operation.handle casing bcrypt (some principal) held
      (served.response,
        auditEntry exchange.http principal served.response.status
          exchange.durationMS served.recorder, next)

end Chain

end Audit

end LinkFlow
