/-
The stores of the registry: what each method sends to the database, and how the
policies, the CHECK constraints and the indexes answer.
-/
import LinkFlow.RegistryCalls

namespace LinkFlow

namespace Registry

open DeviceService

section Tenants

structure TenantCreateInput where
  userID : Uuid
  tenantSlug : String
  tenantName : String

structure TenantUpdateInput where
  userID : Uuid
  tenantID : String
  tenantName : String
  status : String

/-- The inputs that name one row, and those of the lists. -/
structure RowInput where
  userID : Uuid
  id : String

structure ListInput extends PageInput where
  userID : Uuid

variable (out : Surroundings) (session : Session)

/-- A row of `tenants` that the constraints admit. -/
def newTenant (ownerUserID : Uuid) (slug name : String) :
    Except Failure Tenant :=
  if hcheck : validSlug slug = true ∧ notBlank name = true then
    .ok
      { id := out.newID
        ownerUserID := ownerUserID
        tenantSlug := slug
        tenantName := name
        status := .active
        createdAt := out.now
        updatedAt := out.now
        slugFormat := hcheck.1
        nameNotBlank := hcheck.2 }
  else .error (.sql .checkViolation)

def insertTenant (input : TenantCreateInput) : Statement Tenant := do
  out.command .write
  let tenant ← .lift (newTenant out input.userID input.tenantSlug
    input.tenantName)
  require (.sql .rowSecurity) fun _ => session.ownsRow tenant
  storeRows (fun db => db.tenants.insert? tenant) fun db tenants =>
    { db with tenants := tenants }
  require (.sql .foreignKeyViolation) fun db => input.userID ∈ db.users
  return tenant

def createTenant (input : TenantCreateInput) : Database → Reply Tenant :=
  storeCall out "tenant" input.userID (createError .tenant "insert tenant")
    fun session => insertTenant out session input

def listTenants (input : ListInput) : Database → Reply (PageResult Tenant) :=
  storeCall out "tenant" input.userID (.wrap "list tenants") fun session =>
    listRows out (newestFirst Tenant.createdAt Tenant.id) input.toPageInput
      fun db => db.tenants.rows.filter session.seesTenant

/-- The tenant a statement finds by its id. -/
def Session.tenant? (id : Uuid) (db : Database) : Option Tenant :=
  db.tenants.rows.find? fun tenant => session.seesTenant tenant &&
    tenant.id = id

def findTenantByID (input : RowInput) : Database → Reply Tenant :=
  storeCall out "tenant" input.userID (findError .tenant "find tenant by id")
    fun session => do
      out.command .query
      let id ← uuidParam input.id
      queryRow (session.tenant? id)

def Tenant.updated (tenant : Tenant) (name status : String) :
    Except Failure Tenant :=
  match Status.ofText? status with
  | none => .error (.sql .checkViolation)
  | some status =>
      if hname : notBlank name = true then
        .ok
          { tenant with
            tenantName := name
            status := status
            updatedAt := out.now
            nameNotBlank := hname }
      else .error (.sql .checkViolation)

/-- The owner's policies let a statement write the rows it owns. -/
def Session.ownTenant? (id : Uuid) (db : Database) : Option Tenant :=
  db.tenants.rows.find? fun tenant => session.ownsRow tenant && tenant.id = id

def updateTenantRow (input : TenantUpdateInput) : Statement Tenant := do
  out.command .write
  let id ← uuidParam input.tenantID
  let old ← queryRow (session.ownTenant? id)
  let tenant ← .lift (old.updated out input.tenantName input.status)
  storeRows (fun db => db.tenants.replace? tenant) fun db tenants =>
    { db with tenants := tenants }
  return tenant

def updateTenant (input : TenantUpdateInput) : Database → Reply Tenant :=
  storeCall out "tenant" input.userID (findError .tenant "update tenant")
    fun session => updateTenantRow out session input

def deleteTenantRow (id : String) : Statement Unit := do
  out.command .write
  let id ← uuidParam id
  require (.notFound .tenant) fun db => (session.ownTenant? id db).isSome
  deleteRows fun db =>
    { db with
      tenants := db.tenants.delete fun tenant =>
        session.ownsRow tenant && tenant.id = id }

def deleteTenant (input : RowInput) : Database → Reply Unit :=
  storeCall out "tenant" input.userID (deleteError .tenant "delete tenant")
    fun session => deleteTenantRow out session input.id

def listTenantIDsByOwner (userID : Uuid) : Database → Reply (List Uuid) :=
  storeCall out "tenant" userID (.wrap "list tenant ids by owner")
    fun session => do
      out.command .query
      Transaction.read fun db =>
        (db.tenants.rows.filter fun tenant =>
          session.seesTenant tenant && tenant.ownerUserID = userID).map
          Tenant.id

end Tenants

section Products

structure ProductCreateInput where
  userID : Uuid
  tenantID : String
  productKey : String
  productName : String
  description : String
  nodeType : String
  authType : String
  protocolType : String

structure ProductUpdateInput where
  userID : Uuid
  productID : String
  productName : String
  description : String
  nodeType : String
  authType : String
  protocolType : String
  status : String

structure TenantListInput extends PageInput where
  userID : Uuid
  tenantID : String

variable (out : Surroundings) (session : Session)

def tenantExists (tenantID : String) : Statement Bool :=
  Transaction.mapError (.wrap "check tenant") do
    out.command .check
    let id ← uuidParam tenantID
    Transaction.read fun db => (session.tenant? id db).isSome

def newProduct (tenantID : Uuid) (input : ProductCreateInput) :
    Except Failure Product :=
  match NodeType.ofText? input.nodeType, AuthType.ofText? input.authType,
      ProtocolType.ofText? input.protocolType with
  | some nodeType, some authType, some protocolType =>
      if hcheck : validSlug input.productKey = true ∧
          notBlank input.productName = true then
        .ok
          { id := out.newID
            tenantID := tenantID
            productKey := input.productKey
            productName := input.productName
            description := input.description
            nodeType := nodeType
            authType := authType
            protocolType := protocolType
            status := .active
            createdAt := out.now
            updatedAt := out.now
            keyFormat := hcheck.1
            nameNotBlank := hcheck.2 }
      else .error (.sql .checkViolation)
  | _, _, _ => .error (.sql .checkViolation)

def insertProduct (input : ProductCreateInput) : Statement Product := do
  let ok ← tenantExists out session input.tenantID
  if !ok then .fail (.invalidInput .product)
  else
    out.command .write
    let tenantID ← uuidParam input.tenantID
    let product ← .lift (newProduct out tenantID input)
    require (.sql .rowSecurity) fun db => session.owns db product.tenantID
    storeRows (fun db => db.products.insert? product) fun db products =>
      { db with products := products }
    return product

def createProduct (input : ProductCreateInput) : Database → Reply Product :=
  storeCall out "product" input.userID (createError .product "insert product")
    fun session => insertProduct out session input

def listProducts (input : TenantListInput) :
    Database → Reply (PageResult Product) :=
  storeCall out "product" input.userID (.wrap "list products")
    fun session => do
      let tenantID ← uuidParam input.tenantID
      listRows out (newestFirst Product.createdAt Product.id) input.toPageInput
        fun db => db.products.rows.filter fun product =>
          session.seesProduct db product && product.tenantID = tenantID

def Session.product? (id : Uuid) (db : Database) : Option Product :=
  db.products.rows.find? fun product =>
    session.seesProduct db product && product.id = id

def findProductByID (input : RowInput) : Database → Reply Product :=
  storeCall out "product" input.userID (findError .product "find product by id")
    fun session => do
      out.command .query
      let id ← uuidParam input.id
      queryRow (session.product? id)

def Product.updated (product : Product) (input : ProductUpdateInput) :
    Except Failure Product :=
  match NodeType.ofText? input.nodeType, AuthType.ofText? input.authType,
      ProtocolType.ofText? input.protocolType, Status.ofText? input.status with
  | some nodeType, some authType, some protocolType, some status =>
      if hname : notBlank input.productName = true then
        .ok
          { product with
            productName := input.productName
            description := input.description
            nodeType := nodeType
            authType := authType
            protocolType := protocolType
            status := status
            updatedAt := out.now
            nameNotBlank := hname }
      else .error (.sql .checkViolation)
  | _, _, _, _ => .error (.sql .checkViolation)

def Session.ownProduct? (id : Uuid) (db : Database) : Option Product :=
  db.products.rows.find? fun product =>
    session.owns db product.tenantID && product.id = id

def updateProductRow (input : ProductUpdateInput) : Statement Product := do
  out.command .write
  let id ← uuidParam input.productID
  let old ← queryRow (session.ownProduct? id)
  let product ← .lift (old.updated out input)
  storeRows (fun db => db.products.replace? product) fun db products =>
    { db with products := products }
  return product

def updateProduct (input : ProductUpdateInput) : Database → Reply Product :=
  storeCall out "product" input.userID (findError .product "update product")
    fun session => updateProductRow out session input

def productHasDevices (productID : String) : Statement Bool :=
  Transaction.mapError (.wrap "check product devices") do
    out.command .check
    let id ← uuidParam productID
    Transaction.read fun db => db.devices.rows.any fun device =>
      session.seesDevice db device && device.productID = id

def deleteProductRow (id : String) : Statement Unit := do
  let inUse ← productHasDevices out session id
  if inUse then .fail (.invalidInput .product)
  else
    out.command .write
    let id ← uuidParam id
    require (.notFound .product) fun db => (session.ownProduct? id db).isSome
    deleteRows fun db =>
      { db with
        products := db.products.delete fun product =>
          session.owns db product.tenantID && product.id = id }

def deleteProduct (input : RowInput) : Database → Reply Unit :=
  storeCall out "product" input.userID (deleteError .product "delete product")
    fun session => deleteProductRow out session input.id

end Products

section ThingsModels

structure ThingsModelCreateInput where
  userID : Uuid
  tenantID : String
  productID : String
  modelVersion : Int
  modelName : String
  description : String
  status : String
  isCurrent : Bool
  properties : GoMap Json
  events : GoMap Json
  services : GoMap Json

structure ThingsModelUpdateInput where
  userID : Uuid
  thingsModelID : String
  modelName : String
  description : String
  status : String
  isCurrent : Bool
  properties : GoMap Json
  events : GoMap Json
  services : GoMap Json

structure ThingsModelListInput extends PageInput where
  userID : Uuid
  tenantID : String
  productID : String

variable (out : Surroundings) (session : Session)

def productBelongsToTenant (productID tenantID : String) : Statement Bool :=
  Transaction.mapError (.wrap "check device product") do
    out.command .check
    let id ← uuidParam productID
    let tenantID ← uuidParam tenantID
    Transaction.read fun db => db.products.rows.any fun product =>
      session.seesProduct db product && product.id = id &&
        product.tenantID = tenantID

/-- The policies FOR UPDATE and INSERT: the user owns the tenant, and the
product is one of the tenant's. -/
def Session.mayWriteModel (db : Database) (model : ThingsModel) : Bool :=
  session.owns db model.tenantID &&
    db.products.rows.any fun product =>
      session.seesProduct db product && product.id = model.productID &&
        product.tenantID = model.tenantID

/-- `CASE WHEN … = 'published' THEN … ELSE NULL END` -/
def publishedAtFor (status : ModelStatus) (time : Int) : Option Int :=
  if status = .published then some time else none

theorem isSome_publishedAtFor {status : ModelStatus} {time : Int} :
    (publishedAtFor status time).isSome = true ↔ status = .published := by
  rw [publishedAtFor]
  split <;> simp_all

/-- `clearCurrentThingsModel`: what its UPDATE makes of a row. -/
def ThingsModel.cleared (model : ThingsModel) : ThingsModel :=
  { model with
    isCurrent := false
    updatedAt := out.now
    currentRequiresPublished := fun hcurrent => by cases hcurrent }

/-- The rows of its WHERE clause. -/
def clearsModel (tenantID productID : Uuid) (exceptID : Option Uuid)
    (model : ThingsModel) : Bool :=
  model.tenantID = tenantID && model.productID = productID && model.isCurrent &&
    exceptID ≠ some model.id

def clearCurrentThingsModel (tenantID productID : Uuid)
    (exceptID : Option Uuid) : Statement Unit :=
  Transaction.mapError (.wrap "clear current thingsmodel") do
    out.command .clear
    let clears ← Transaction.read fun db model =>
      session.owns db model.tenantID &&
      clearsModel tenantID productID exceptID model
    require (.sql .rowSecurity) fun db => db.models.rows.all fun model =>
      !clears model || session.mayWriteModel db model
    storeRows
      (fun db => db.models.map?
        (fun model => if clears model then model.cleared out else model)
        fun model => by cases clears model <;> rfl)
      fun db models => { db with models := models }

/-- What both methods do first for a model that is to be the current one. -/
def replaceCurrent (isCurrent : Bool) (tenantID productID : Uuid)
    (exceptID : Option Uuid) : Statement Unit :=
  if isCurrent then
    clearCurrentThingsModel out session tenantID productID exceptID
  else pure ()

def newThingsModel (tenantID productID : Uuid)
    (input : ThingsModelCreateInput) : Except Failure ThingsModel :=
  if 2147483647 < input.modelVersion || input.modelVersion < -2147483648 then
    .error (.sql .numericRange)
  else
    match ModelStatus.ofText? input.status with
    | none => .error (.sql .checkViolation)
    | some status =>
        if hcheck : 0 < input.modelVersion ∧
            (input.isCurrent = true → status = .published) then
          .ok
            { id := out.newID
              tenantID := tenantID
              productID := productID
              modelVersion := input.modelVersion
              modelName := input.modelName
              description := input.description
              status := status
              isCurrent := input.isCurrent
              properties := input.properties
              events := input.events
              services := input.services
              publishedAt := publishedAtFor status out.now
              createdAt := out.now
              updatedAt := out.now
              versionPositive := hcheck.1
              currentRequiresPublished := hcheck.2
              publishedAtMatchesStatus := isSome_publishedAtFor.mpr }
        else .error (.sql .checkViolation)

def insertThingsModel (input : ThingsModelCreateInput) :
    Statement ThingsModel := do
  let ok ← productBelongsToTenant out session input.productID input.tenantID
  if !ok then .fail (.invalidInput .thingsModel)
  else
    let tenantID ← uuidParam input.tenantID
    let productID ← uuidParam input.productID
    replaceCurrent out session input.isCurrent tenantID productID none
    out.command .write
    let model ← .lift (newThingsModel out tenantID productID input)
    require (.sql .rowSecurity) fun db => session.mayWriteModel db model
    storeRows (fun db => db.models.insert? model) fun db models =>
      { db with models := models }
    return model

/-- The error of a failed `CreateThingsModel`. -/
def createThingsModelError (err : Failure) : Failure :=
  if err.isUniqueViolation then .alreadyExists .thingsModel
  else if err.is (.invalidInput .thingsModel) then err
  else .wrap "insert thingsmodel" err

def createThingsModel (input : ThingsModelCreateInput) :
    Database → Reply ThingsModel :=
  storeCall out "thingsmodel" input.userID createThingsModelError
    fun session => insertThingsModel out session input

/-- The error of a failed `ListThingsModels`. -/
def listThingsModelsError (err : Failure) : Failure :=
  if err.is (.invalidInput .thingsModel) then err
  else .wrap "list thingsmodels" err

def listThingsModels (input : ThingsModelListInput) :
    Database → Reply (PageResult ThingsModel) :=
  storeCall out "thingsmodel" input.userID listThingsModelsError
    fun session =>
      if input.productID = "" then do
        let tenantID ← uuidParam input.tenantID
        listRows out (newestFirst ThingsModel.updatedAt ThingsModel.id)
          input.toPageInput fun db => db.models.rows.filter fun model =>
            session.seesModel db model && model.tenantID = tenantID
      else do
        let ok ← productBelongsToTenant out session input.productID
          input.tenantID
        if !ok then .fail (.invalidInput .thingsModel)
        else
          let tenantID ← uuidParam input.tenantID
          let productID ← uuidParam input.productID
          listRows out (newestFirst ThingsModel.updatedAt ThingsModel.id)
            input.toPageInput fun db => db.models.rows.filter fun model =>
              session.seesModel db model && model.tenantID = tenantID &&
                model.productID = productID

def Session.model? (id : Uuid) (db : Database) : Option ThingsModel :=
  db.models.rows.find? fun model => session.seesModel db model && model.id = id

def findThingsModelByID (input : RowInput) : Database → Reply ThingsModel :=
  storeCall out "thingsmodel" input.userID
    (findError .thingsModel "find thingsmodel by id") fun session => do
      out.command .query
      let id ← uuidParam input.id
      queryRow (session.model? id)

def ThingsModel.updated (model : ThingsModel) (input : ThingsModelUpdateInput) :
    Except Failure ThingsModel :=
  match ModelStatus.ofText? input.status with
  | none => .error (.sql .checkViolation)
  | some status =>
      if hcurrent : input.isCurrent = true → status = .published then
        .ok
          { model with
            modelName := input.modelName
            description := input.description
            status := status
            isCurrent := input.isCurrent
            properties := input.properties
            events := input.events
            services := input.services
            publishedAt :=
              publishedAtFor status (model.publishedAt.getD out.now)
            updatedAt := out.now
            currentRequiresPublished := hcurrent
            publishedAtMatchesStatus := isSome_publishedAtFor.mpr }
      else .error (.sql .checkViolation)

def Session.ownModel? (id : Uuid) (db : Database) : Option ThingsModel :=
  db.models.rows.find? fun model =>
    session.owns db model.tenantID && model.id = id

def updateThingsModelRow (input : ThingsModelUpdateInput) :
    Statement ThingsModel := do
  out.command .query
  let id ← uuidParam input.thingsModelID
  let scope ← queryRow (session.model? id)
  replaceCurrent out session input.isCurrent scope.tenantID scope.productID
    (some id)
  out.command .write
  let old ← queryRow (session.ownModel? id)
  let model ← .lift (old.updated out input)
  require (.sql .rowSecurity) fun db => session.mayWriteModel db model
  storeRows (fun db => db.models.replace? model) fun db models =>
    { db with models := models }
  return model

/-- The error of a failed `UpdateThingsModel`. -/
def updateThingsModelError (err : Failure) : Failure :=
  if err.is .noRows then .notFound .thingsModel
  else if err.isUniqueViolation then .alreadyExists .thingsModel
  else .wrap "update thingsmodel" err

def updateThingsModel (input : ThingsModelUpdateInput) :
    Database → Reply ThingsModel :=
  storeCall out "thingsmodel" input.userID updateThingsModelError
    fun session => updateThingsModelRow out session input

def deleteThingsModelRow (id : String) : Statement Unit := do
  out.command .write
  let id ← uuidParam id
  require (.notFound .thingsModel) fun db => (session.ownModel? id db).isSome
  deleteRows fun db =>
    { db with
      models := db.models.delete fun model =>
        session.owns db model.tenantID && model.id = id }

def deleteThingsModel (input : RowInput) : Database → Reply Unit :=
  storeCall out "thingsmodel" input.userID
    (deleteError .thingsModel "delete thingsmodel")
    fun session => deleteThingsModelRow out session input.id

end ThingsModels

end Registry

end LinkFlow
