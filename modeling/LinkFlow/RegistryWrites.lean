/-
What each call of the registry can do to the database, guards included.
-/
import LinkFlow.RegistryServices

namespace LinkFlow

namespace Registry

/-- A written id has no spaces around it. -/
theorem trimSpace_text (id : Uuid) : trimSpace (Uuid.text id) =
    Uuid.text id := by
  apply trimSpace_eq_self
  intro char hmem
  rcases Uuid.mem_text hmem with ⟨digit, hlt, rfl⟩ | rfl
  · interval_cases digit <;> decide
  · decide

section Actor

variable {userID : Uuid} {db : Database}

/-- The tenant exists and is the user's. -/
def Owned (userID : Uuid) (db : Database) (tenantID : Uuid) : Prop :=
  ∃ tenant ∈ db.tenants, tenant.id = tenantID ∧ tenant.ownerUserID = userID

@[simp] theorem owns_actor {tenantID : Uuid} :
    (Session.actor userID).owns db tenantID = true ↔
    Owned userID db tenantID := by
  simp only [Session.owns, Session.actor, List.any_eq_true, Bool.and_eq_true,
    decide_eq_true_eq, Option.some.injEq]
  constructor
  · rintro ⟨tenant, hmem, hid, howner⟩
    exact ⟨tenant, hmem, hid, howner.symm⟩
  · rintro ⟨tenant, hmem, hid, howner⟩
    exact ⟨tenant, hmem, hid, howner.symm⟩

@[simp] theorem readsAll_actor : (Session.actor userID).readsAll = false := by
  simp [Session.readsAll, Session.actor]

@[simp] theorem ownsRow_actor {tenant : Tenant} :
    (Session.actor userID).ownsRow tenant = true ↔
    tenant.ownerUserID = userID := by
  simp [Session.ownsRow, Session.actor, eq_comm]

/-- An actor sees the rows of its own tenants and no others. -/
@[simp] theorem sees_actor {tenantID : Uuid} :
    (Session.actor userID).sees db tenantID =
      (Session.actor userID).owns db tenantID := by
  simp [Session.sees]

@[simp] theorem seesTenant_actor {tenant : Tenant} :
    (Session.actor userID).seesTenant tenant =
      (Session.actor userID).ownsRow tenant := by
  simp [Session.seesTenant]

@[simp] theorem seesModel_actor {model : ThingsModel} :
    (Session.actor userID).seesModel db model =
      (Session.actor userID).owns db model.tenantID := by
  simp [Session.seesModel, Session.actor]

@[simp] theorem seesProduct_actor {product : Product} :
    (Session.actor userID).seesProduct db product =
      (Session.actor userID).owns db product.tenantID := by
  simp [Session.seesProduct]

@[simp] theorem seesDevice_actor {device : Device} :
    (Session.actor userID).seesDevice db device =
      (Session.actor userID).owns db device.tenantID := by
  simp [Session.seesDevice]

end Actor

section Changes

/-- The table in which the rows of the WHERE clause are no longer current. -/
def Clears (out : Surroundings) (tenantID productID : Uuid)
    (exceptID : Option Uuid) (models next : Table modelSchema) : Prop :=
  ∀ model, model ∈ next ↔ ∃ old ∈ models,
    (if clearsModel tenantID productID exceptID old then old.cleared out
      else old) = model

/-- What a call for an actor can do to the database. -/
inductive Wrote (bcrypt : Bcrypt) (call : Call) (db : Database) :
    Database → Prop
  | nothing : Wrote bcrypt call db db
  | tenantCreated {tenant : Tenant} {tenants : Table tenantSchema}
      (hid : tenant.id = call.out.newID)
      (howner : tenant.ownerUserID = call.userID)
      (huser : call.userID ∈ db.users)
      (hadds : db.tenants.Adds tenant tenants) :
      Wrote bcrypt call db { db with tenants := tenants }
  | tenantUpdated {old tenant : Tenant} {tenants : Table tenantSchema}
      (howner : old.ownerUserID = call.userID)
      (hsame : tenant.id = old.id ∧ tenant.ownerUserID = old.ownerUserID ∧
        tenant.tenantSlug = old.tenantSlug)
      (hreplaces : db.tenants.Replaces old tenant tenants) :
      Wrote bcrypt call db { db with tenants := tenants }
  | tenantDeleted {old : Tenant} {tenants : Table tenantSchema}
      (hdeletes : call.deletes = .tenant old.id)
      (howner : old.ownerUserID = call.userID)
      (hremoves : db.tenants.Removes old tenants) :
      Wrote bcrypt call db { db with tenants := tenants }
  | productCreated {product : Product} {products : Table productSchema}
      (hid : product.id = call.out.newID)
      (howned : Owned call.userID db product.tenantID)
      (hadds : db.products.Adds product products) :
      Wrote bcrypt call db { db with products := products }
  | productUpdated {old product : Product} {products : Table productSchema}
      (howned : Owned call.userID db old.tenantID)
      (hsame : product.id = old.id ∧ product.tenantID = old.tenantID ∧
        product.productKey = old.productKey)
      (hauth : call.authType = some (old.id, product.authType))
      (hreplaces : db.products.Replaces old product products) :
      Wrote bcrypt call db { db with products := products }
  | productDeleted {old : Product} {products : Table productSchema}
      (hdeletes : call.deletes = .product old.id)
      (howned : Owned call.userID db old.tenantID)
      (hunused : ∀ device ∈ db.devices, Owned call.userID db device.tenantID →
        device.productID ≠ old.id)
      (hremoves : db.products.Removes old products) :
      Wrote bcrypt call db { db with products := products }
  | modelCreated {model : ThingsModel} {cleared models : Table modelSchema}
      (hid : model.id = call.out.newID)
      (howned : Owned call.userID db model.tenantID)
      (hproduct : ∃ product ∈ db.products,
        product.id = model.productID ∧ product.tenantID = model.tenantID)
      (hcleared : if model.isCurrent then
          Clears call.out model.tenantID model.productID none db.models cleared
        else cleared = db.models)
      (hpublished : model.publishedAt.isSome = true → model.status = .published)
      (hadds : cleared.Adds model models) :
      Wrote bcrypt call db { db with models := models }
  | modelUpdated {old model : ThingsModel} {cleared models : Table modelSchema}
      (howned : Owned call.userID db old.tenantID)
      (hproduct : ∃ product ∈ db.products,
        product.id = model.productID ∧ product.tenantID = model.tenantID)
      (hsame : model.id = old.id ∧ model.tenantID = old.tenantID ∧
        model.productID = old.productID ∧ model.modelVersion = old.modelVersion)
      (hcleared : if model.isCurrent then
          Clears call.out old.tenantID old.productID (some old.id)
            db.models cleared
        else cleared = db.models)
      (hpublished : model.publishedAt.isSome = true → model.status = .published)
      (hreplaces : cleared.Replaces old model models) :
      Wrote bcrypt call db { db with models := models }
  | modelDeleted {old : ThingsModel} {models : Table modelSchema}
      (hdeletes : call.deletes = .model old.id)
      (howned : Owned call.userID db old.tenantID)
      (hremoves : db.models.Removes old models) :
      Wrote bcrypt call db { db with models := models }
  | deviceCreated {device : Device} {devices : Table deviceSchema}
      {hash : String} {credentials : Table credentialSchema}
      (hregisters : call.registers = true) (hid : device.id = call.out.newID)
      (howned : Owned call.userID db device.tenantID)
      (hstatus : device.status = .active)
      (hproduct : ∃ product ∈ db.products, product.id = device.productID ∧
        product.tenantID = device.tenantID ∧
        (product.authType = .anonymous ∧ hash = "" ∨
          product.authType = .secret ∧ ∃ salt bytes,
            hash = bcrypt.generateFromPassword salt (generateSecret bytes)))
      (hgateway : ∀ id, device.gatewayDeviceID = some id →
        ∃ gateway ∈ db.devices, gateway.id = id ∧
          gateway.tenantID = device.tenantID)
      (hadds : db.devices.Adds device devices)
      (hcredential : if hash = "" then credentials = db.credentials
        else
          db.credentials.Adds (activeCredential call.out device hash)
            credentials) :
      Wrote bcrypt call db
        { db with devices := devices, credentials := credentials }
  | deviceUpdated {old device : Device} {devices : Table deviceSchema}
      (howned : Owned call.userID db old.tenantID)
      (hsame : device.id = old.id ∧ device.tenantID = old.tenantID ∧
        device.productID = old.productID ∧ device.deviceSlug = old.deviceSlug)
      (hgateway : ∀ id, device.gatewayDeviceID = some id →
        ∃ gateway ∈ db.devices, gateway.id = id ∧
          gateway.tenantID = device.tenantID)
      (hreplaces : db.devices.Replaces old device devices) :
      Wrote bcrypt call db { db with devices := devices }
  | deviceDeleted {old : Device} {devices : Table deviceSchema}
      (hdeletes : call.deletes = .device old.id)
      (howned : Owned call.userID db old.tenantID)
      (hunused : ∀ device ∈ db.devices, Owned call.userID db device.tenantID →
        device.gatewayDeviceID ≠ some old.id)
      (hremoves : db.devices.Removes old devices) :
      Wrote bcrypt call db { db with devices := devices }

end Changes

section Found

variable {userID id : Uuid} {db : Database}

@[simp] theorem ownTenant?_eq_some {tenant : Tenant} :
    (Session.actor userID).ownTenant? id db = some tenant ↔
      tenant ∈ db.tenants ∧ tenant.ownerUserID = userID ∧ tenant.id = id := by
  rw [Session.ownTenant?]
  rw [@Table.find?_eq_some Tenant ℕ _ tenantSchema]
  · simp
  · intro first second hfirst hsecond
    simp only [Bool.and_eq_true, decide_eq_true_eq] at hfirst hsecond
    simp [tenantSchema, hfirst.2, hsecond.2]

@[simp] theorem tenant?_actor :
    (Session.actor userID).tenant? id db =
      (Session.actor userID).ownTenant? id db := by
  simp [Session.tenant?, Session.ownTenant?]

@[simp] theorem ownProduct?_eq_some {product : Product} :
    (Session.actor userID).ownProduct? id db = some product ↔
      product ∈ db.products ∧ Owned userID db product.tenantID ∧
        product.id = id := by
  rw [Session.ownProduct?]
  rw [Table.find?_eq_some]
  · simp
  · intro first second hfirst hsecond
    simp only [Bool.and_eq_true, decide_eq_true_eq] at hfirst hsecond
    simp [productSchema, hfirst.2, hsecond.2]

@[simp] theorem ownModel?_eq_some {model : ThingsModel} :
    (Session.actor userID).ownModel? id db = some model ↔
      model ∈ db.models ∧ Owned userID db model.tenantID ∧ model.id = id := by
  rw [Session.ownModel?]
  rw [Table.find?_eq_some]
  · simp
  · intro first second hfirst hsecond
    simp only [Bool.and_eq_true, decide_eq_true_eq] at hfirst hsecond
    simp [modelSchema, hfirst.2, hsecond.2]

@[simp] theorem model?_actor :
    (Session.actor userID).model? id db =
      (Session.actor userID).ownModel? id db := by
  simp [Session.model?, Session.ownModel?]

@[simp] theorem ownDevice?_eq_some {device : Device} :
    (Session.actor userID).ownDevice? id db = some device ↔
      device ∈ db.devices ∧ Owned userID db device.tenantID ∧
      device.id = id := by
  rw [Session.ownDevice?]
  rw [Table.find?_eq_some]
  · simp
  · intro first second hfirst hsecond
    simp only [Bool.and_eq_true, decide_eq_true_eq] at hfirst hsecond
    simp [deviceSchema, hfirst.2, hsecond.2]

end Found

section Rows

variable {out : Surroundings}

theorem newTenant_eq_ok {ownerUserID : Uuid} {slug name : String}
    {tenant : Tenant} (hok : newTenant out ownerUserID slug name = .ok tenant) :
    tenant.id = out.newID ∧ tenant.ownerUserID = ownerUserID ∧
      tenant.tenantSlug = slug := by
  rw [newTenant] at hok
  split at hok
  · cases hok
    exact ⟨rfl, rfl, rfl⟩
  · cases hok

theorem Tenant.updated_eq_ok {old tenant : Tenant} {name status : String}
    (hok : old.updated out name status = .ok tenant) :
    tenant.id = old.id ∧ tenant.ownerUserID = old.ownerUserID ∧
      tenant.tenantSlug = old.tenantSlug := by
  rw [Tenant.updated] at hok
  split at hok
  · cases hok
  · split at hok
    · cases hok
      exact ⟨rfl, rfl, rfl⟩
    · cases hok

theorem newProduct_eq_ok {tenantID : Uuid} {input : ProductCreateInput}
    {product : Product} (hok : newProduct out tenantID input = .ok product) :
    product.id = out.newID ∧ product.tenantID = tenantID := by
  rw [newProduct] at hok
  split at hok
  · split at hok
    · cases hok
      exact ⟨rfl, rfl⟩
    · cases hok
  · cases hok

theorem Product.updated_eq_ok {old product : Product}
    {input : ProductUpdateInput} (hok : old.updated out input = .ok product) :
    (product.id = old.id ∧ product.tenantID = old.tenantID ∧
      product.productKey = old.productKey) ∧
      AuthType.ofText? input.authType = some product.authType := by
  rw [Product.updated] at hok
  split at hok
  next hauth _ _ =>
    split at hok
    · cases hok
      exact ⟨⟨rfl, rfl, rfl⟩, hauth⟩
    · cases hok
  · cases hok

theorem newThingsModel_eq_ok {tenantID productID : Uuid}
    {input : ThingsModelCreateInput} {model : ThingsModel}
    (hok : newThingsModel out tenantID productID input = .ok model) :
    model.id = out.newID ∧ model.tenantID = tenantID ∧
      model.productID = productID ∧ model.isCurrent = input.isCurrent ∧
      (model.publishedAt.isSome = true → model.status = .published) := by
  rw [newThingsModel] at hok
  split at hok
  · cases hok
  · split at hok
    · cases hok
    · split at hok
      · cases hok
        exact ⟨rfl, rfl, rfl, rfl, isSome_publishedAtFor.mp⟩
      · cases hok

theorem ThingsModel.updated_eq_ok {old model : ThingsModel}
    {input : ThingsModelUpdateInput} (hok : old.updated out input = .ok model) :
    (model.id = old.id ∧ model.tenantID = old.tenantID ∧
      model.productID = old.productID ∧ model.modelVersion = old.modelVersion) ∧
      model.isCurrent = input.isCurrent ∧
      (model.publishedAt.isSome = true → model.status = .published) := by
  rw [ThingsModel.updated] at hok
  split at hok
  · cases hok
  · split at hok
    · cases hok
      exact ⟨⟨rfl, rfl, rfl, rfl⟩, rfl, isSome_publishedAtFor.mp⟩
    · cases hok

theorem newDevice_eq_ok {tenantID productID : Uuid} {gateway : Option Uuid}
    {input : DeviceCreateInput} {device : Device}
    (hok : newDevice out tenantID productID gateway input = .ok device) :
    device.id = out.newID ∧ device.tenantID = tenantID ∧
      device.productID = productID ∧ device.gatewayDeviceID = gateway ∧
      device.status = .active := by
  rw [newDevice] at hok
  split at hok
  · cases hok
    exact ⟨rfl, rfl, rfl, rfl, rfl⟩
  · cases hok

theorem Device.updated_eq_ok {old device : Device} {gateway : Option Uuid}
    {input : DeviceUpdateInput}
    (hok : old.updated out gateway input = .ok device) :
    (device.id = old.id ∧ device.tenantID = old.tenantID ∧
      device.productID = old.productID ∧ device.deviceSlug = old.deviceSlug) ∧
      device.gatewayDeviceID = gateway := by
  rw [Device.updated] at hok
  split at hok
  · cases hok
  · split at hok
    · cases hok
      exact ⟨⟨rfl, rfl, rfl, rfl⟩, rfl⟩
    · cases hok

end Rows

section Statements

variable {bcrypt : Bcrypt} {call : Call} {out : Surroundings} {userID : Uuid}
  {db next : Database}

theorem insertTenant_wrote {input : TenantCreateInput} {tenant : Tenant}
    (huserID : input.userID = call.userID)
    (hok : insertTenant call.out (.actor call.userID) input db =
      .ok (tenant, next)) :
    Wrote bcrypt call db next := by
  simp only [insertTenant, Transaction.bind_eq_ok, command_eq_ok,
    Transaction.lift_eq_ok, require_eq_ok, storeRows_eq_ok, ownsRow_actor,
    Transaction.pure_eq_ok, decide_eq_true_eq] at hok
  obtain ⟨_, _, ⟨-, rfl⟩, row, _, ⟨hrow, rfl⟩, _, _, ⟨howner, rfl⟩, _, _,
    ⟨tenants, hinsert, rfl⟩, _, _, ⟨huser, rfl⟩, heq⟩ := hok
  cases heq
  exact .tenantCreated (newTenant_eq_ok hrow).1 howner (huserID ▸ huser)
    (Table.adds_of_insert? hinsert)

theorem updateTenantRow_wrote {input : TenantUpdateInput} {tenant : Tenant}
    (hok : updateTenantRow call.out (.actor call.userID) input db =
      .ok (tenant, next)) :
    Wrote bcrypt call db next := by
  simp only [updateTenantRow, Transaction.bind_eq_ok, command_eq_ok,
    uuidParam_eq_ok, queryRow_eq_ok, Transaction.lift_eq_ok, storeRows_eq_ok,
    ownTenant?_eq_some, Transaction.pure_eq_ok] at hok
  obtain ⟨_, _, ⟨-, rfl⟩, id, _, ⟨-, rfl⟩, old, _, ⟨⟨hold, howner, -⟩, rfl⟩,
    row, _, ⟨hrow, rfl⟩, _, _, ⟨tenants, hreplace, rfl⟩, heq⟩ := hok
  cases heq
  have hsame := Tenant.updated_eq_ok hrow
  exact .tenantUpdated howner hsame
    (Table.replaces_of_replace? hreplace hold (congrArg BitVec.toNat hsame.1))

theorem deleteTenantRow_wrote {id : String}
    (hdeletes : ∀ found, Uuid.ofText? id = some found →
      call.deletes = .tenant found)
    (hok : deleteTenantRow call.out (.actor call.userID) id db =
      .ok ((), next)) :
    Wrote bcrypt call db next := by
  simp only [deleteTenantRow, Transaction.bind_eq_ok, command_eq_ok,
    uuidParam_eq_ok, require_eq_ok, Option.isSome_iff_exists,
    ownTenant?_eq_some, deleteRows_eq_ok] at hok
  obtain ⟨_, _, ⟨-, rfl⟩, id, _, ⟨hparse, rfl⟩, _, _,
    ⟨⟨old, hold, howner, hid⟩, rfl⟩, heq⟩ := hok
  cases heq
  refine .tenantDeleted (hid ▸ hdeletes id hparse) howner
    (Table.removes_of_delete hold ?_ ?_)
  · simp [howner, hid]
  · intro other hother
    simp only [Bool.and_eq_true, decide_eq_true_eq] at hother
    exact congrArg BitVec.toNat (hother.2.trans hid.symm)

theorem tenantExists_eq_ok {tenantID : String} {ok : Bool}
    (hok : tenantExists out (.actor userID) tenantID db = .ok (ok, next)) :
    next = db ∧ (ok = true → ∃ id, Uuid.ofText? tenantID = some id ∧
      Owned userID db id) := by
  simp only [tenantExists, Transaction.mapError_eq_ok, Transaction.bind_eq_ok,
    command_eq_ok, uuidParam_eq_ok, Transaction.read_eq_ok,
    tenant?_actor] at hok
  obtain ⟨_, _, ⟨-, rfl⟩, id, _, ⟨hid, rfl⟩, heq⟩ := hok
  cases heq
  refine ⟨rfl, fun hsome => ⟨id, hid, ?_⟩⟩
  obtain ⟨tenant, htenant⟩ := Option.isSome_iff_exists.mp hsome
  obtain ⟨hmem, howner, hkey⟩ := ownTenant?_eq_some.mp htenant
  exact ⟨tenant, hmem, hkey, howner⟩

theorem insertProduct_wrote {input : ProductCreateInput} {product : Product}
    (hok : insertProduct call.out (.actor call.userID) input db =
      .ok (product, next)) :
    Wrote bcrypt call db next := by
  rw [insertProduct, Transaction.bind_eq_ok] at hok
  obtain ⟨ok, middle, hexists, hok⟩ := hok
  obtain ⟨rfl, -⟩ := tenantExists_eq_ok hexists
  cases ok with
  | false => simp at hok
  | true =>
      simp only [Bool.not_true, Bool.false_eq_true, if_false,
        Transaction.bind_eq_ok, command_eq_ok, uuidParam_eq_ok,
        Transaction.lift_eq_ok, require_eq_ok, storeRows_eq_ok, owns_actor,
        Transaction.pure_eq_ok] at hok
      obtain ⟨_, _, ⟨-, rfl⟩, tenantID, _, ⟨-, rfl⟩, row, _, ⟨hrow, rfl⟩, _, _,
        ⟨howned, rfl⟩, _, _, ⟨products, hinsert, rfl⟩, heq⟩ := hok
      cases heq
      exact .productCreated (newProduct_eq_ok hrow).1 howned
        (Table.adds_of_insert? hinsert)

theorem updateProductRow_wrote {input : ProductUpdateInput} {product : Product}
    (hok : updateProductRow call.out (.actor call.userID) input db =
      .ok (product, next))
    (hauth : call.authType = (Uuid.ofText? input.productID).bind fun id =>
      (AuthType.ofText? input.authType).map (id, ·)) :
    Wrote bcrypt call db next := by
  simp only [updateProductRow, Transaction.bind_eq_ok, command_eq_ok,
    uuidParam_eq_ok, queryRow_eq_ok, Transaction.lift_eq_ok, storeRows_eq_ok,
    ownProduct?_eq_some, Transaction.pure_eq_ok] at hok
  obtain ⟨_, _, ⟨-, rfl⟩, id, _, ⟨hid, rfl⟩, old, _,
    ⟨⟨hold, howned, hkey⟩, rfl⟩, row, _, ⟨hrow, rfl⟩, _, _,
    ⟨products, hreplace, rfl⟩, heq⟩ := hok
  cases heq
  obtain ⟨hsame, hkind⟩ := Product.updated_eq_ok hrow
  rw [hid, hkind] at hauth
  exact .productUpdated howned hsame (hkey ▸ hauth)
    (Table.replaces_of_replace? hreplace hold (congrArg BitVec.toNat hsame.1))

theorem deleteProductRow_wrote {id : String}
    (hdeletes : ∀ found, Uuid.ofText? id = some found →
      call.deletes = .product found)
    (hok : deleteProductRow call.out (.actor call.userID) id db =
      .ok ((), next)) :
    Wrote bcrypt call db next := by
  simp only [deleteProductRow, productHasDevices, Transaction.bind_eq_ok,
    Transaction.mapError_eq_ok, command_eq_ok, uuidParam_eq_ok,
    Transaction.read_eq_ok] at hok
  obtain ⟨inUse, _, ⟨_, _, ⟨-, rfl⟩, id', _, ⟨hparse, rfl⟩, hread⟩, hok⟩ := hok
  cases hread
  split at hok
  · simp at hok
  next hfree =>
    simp only [Transaction.bind_eq_ok, command_eq_ok, uuidParam_eq_ok,
      require_eq_ok, Option.isSome_iff_exists, ownProduct?_eq_some,
      deleteRows_eq_ok] at hok
    obtain ⟨_, _, ⟨-, rfl⟩, id'', _, ⟨hparse', rfl⟩, _, _,
      ⟨⟨old, hold, howned, hid⟩, rfl⟩, heq⟩ := hok
    cases heq
    have hsame : id'' = id' := Option.some.inj (hparse'.symm.trans hparse)
    refine .productDeleted (hid ▸ hdeletes id'' hparse') howned ?_
      (Table.removes_of_delete hold ?_ ?_)
    · intro device hdevice howner heq
      apply hfree
      rw [List.any_eq_true]
      exact ⟨device, hdevice, by simp [howner, heq, hid, hsame]⟩
    · simp [howned, hid]
    · intro other hother
      simp only [Bool.and_eq_true, decide_eq_true_eq] at hother
      exact congrArg BitVec.toNat (hother.2.trans hid.symm)

theorem productBelongsToTenant_eq_ok {productID tenantID : String} {ok : Bool}
    (hok : productBelongsToTenant out (.actor userID) productID tenantID db =
      .ok (ok, next)) :
    next = db ∧ (ok = true → ∃ id tenant, Uuid.ofText? productID = some id ∧
      Uuid.ofText? tenantID = some tenant ∧ Owned userID db tenant ∧
      ∃ product ∈ db.products, product.id = id ∧
        product.tenantID = tenant) := by
  simp only [productBelongsToTenant, Transaction.mapError_eq_ok,
    Transaction.bind_eq_ok, command_eq_ok, uuidParam_eq_ok,
    Transaction.read_eq_ok] at hok
  obtain ⟨_, _, ⟨-, rfl⟩, id, _, ⟨hid, rfl⟩, tenant, _, ⟨htenant, rfl⟩, heq⟩ :=
    hok
  cases heq
  refine ⟨rfl, fun hany => ⟨id, tenant, hid, htenant, ?_⟩⟩
  obtain ⟨product, hmem, hproduct⟩ := List.any_eq_true.mp hany
  simp only [seesProduct_actor, Bool.and_eq_true, owns_actor,
    decide_eq_true_eq] at hproduct
  obtain ⟨⟨howned, hkey⟩, hin⟩ := hproduct
  exact ⟨hin ▸ howned, product, hmem, hkey, hin⟩

/-- In a tenant of the user every row of the WHERE clause is cleared. -/
theorem clearCurrentThingsModel_eq_ok {tenantID productID : Uuid}
    {exceptID : Option Uuid} (howned : Owned userID db tenantID)
    (hok : clearCurrentThingsModel out (.actor userID) tenantID
      productID exceptID db = .ok ((), next)) :
    ∃ cleared, Clears out tenantID productID exceptID db.models cleared ∧
      next = { db with models := cleared } := by
  simp only [clearCurrentThingsModel, Transaction.mapError_eq_ok,
    Transaction.bind_eq_ok, command_eq_ok, Transaction.read_eq_ok,
    require_eq_ok, storeRows_eq_ok] at hok
  obtain ⟨_, _, ⟨-, rfl⟩, clears, _, heq, _, _, ⟨-, rfl⟩, cleared, hmap, rfl⟩ :=
    hok
  cases heq
  refine ⟨cleared, fun model => ?_, rfl⟩
  rw [Table.map?_eq_some hmap]
  refine exists_congr fun old => and_congr_right fun _ => ?_
  have hsame : ((Session.actor userID).owns db old.tenantID &&
      clearsModel tenantID productID exceptID old) =
        clearsModel tenantID productID exceptID old := by
    cases hclears : clearsModel tenantID productID exceptID old with
    | false => rw [Bool.and_false]
    | true =>
        have hin : old.tenantID = tenantID := by
          simp only [clearsModel, Bool.and_eq_true,
            decide_eq_true_eq] at hclears
          exact hclears.1.1.1
        rw [Bool.and_true, owns_actor, hin]
        exact howned
  simp only [hsame]

theorem mayWriteModel_actor {model : ThingsModel}
    (hmay : (Session.actor userID).mayWriteModel db model = true) :
    Owned userID db model.tenantID ∧ ∃ product ∈ db.products,
      product.id = model.productID ∧ product.tenantID = model.tenantID := by
  simp only [Session.mayWriteModel, Bool.and_eq_true, owns_actor,
    List.any_eq_true, seesProduct_actor, decide_eq_true_eq] at hmay
  obtain ⟨howned, product, hmem, ⟨-, hid⟩, hin⟩ := hmay
  exact ⟨howned, product, hmem, hid, hin⟩

/-- The models after the clearing statement, if there is one. -/
theorem replaceCurrent_eq_ok {isCurrent : Bool} {tenantID productID : Uuid}
    {exceptID : Option Uuid} (howned : Owned userID db tenantID)
    (hok : replaceCurrent out (.actor userID) isCurrent tenantID
      productID exceptID db = .ok ((), next)) :
    ∃ cleared, (if isCurrent then
        Clears out tenantID productID exceptID db.models cleared
      else cleared = db.models) ∧ next = { db with models := cleared } := by
  rw [replaceCurrent] at hok
  cases isCurrent with
  | false =>
      simp only [Bool.false_eq_true, if_false, Transaction.pure_eq_ok] at hok
      cases hok
      exact ⟨db.models, rfl, rfl⟩
  | true => exact clearCurrentThingsModel_eq_ok howned hok

/-- The row that a clearing statement leaves out is found as it was. -/
theorem mem_models_of_cleared {isCurrent : Bool} {tenantID productID id : Uuid}
    {models cleared : Table modelSchema} {model : ThingsModel}
    (hcleared : if isCurrent then
        Clears out tenantID productID (some id) models cleared
      else cleared = models)
    (hmem : model ∈ cleared) (hid : model.id = id) : model ∈ models := by
  split at hcleared
  · obtain ⟨old, hold, rfl⟩ := (hcleared model).mp hmem
    split
    next hclear =>
      rw [if_pos hclear] at hid
      have hsame : old.id = id := hid
      simp [clearsModel, hsame] at hclear
    · exact hold
  · rwa [hcleared] at hmem

theorem insertThingsModel_wrote {input : ThingsModelCreateInput}
    {model : ThingsModel}
    (hok : insertThingsModel call.out (.actor call.userID) input db =
      .ok (model, next)) :
    Wrote bcrypt call db next := by
  rw [insertThingsModel, Transaction.bind_eq_ok] at hok
  obtain ⟨ok, middle, hbelongs, hok⟩ := hok
  obtain ⟨rfl, hproduct⟩ := productBelongsToTenant_eq_ok hbelongs
  cases ok with
  | false => simp at hok
  | true =>
      obtain ⟨id, tenant, -, htenant, howned, -⟩ := hproduct rfl
      simp only [Bool.not_true, Bool.false_eq_true, if_false,
        Transaction.bind_eq_ok, uuidParam_eq_ok, command_eq_ok,
        Transaction.lift_eq_ok, require_eq_ok, storeRows_eq_ok,
        Transaction.pure_eq_ok] at hok
      obtain ⟨tenantID, _, ⟨htext, rfl⟩, productID, _, ⟨-, rfl⟩, _, _, hreplace,
        _, _, ⟨-, rfl⟩, row, _, ⟨hrow, rfl⟩, _, _, ⟨hmay, rfl⟩, _, _,
        ⟨models, hinsert, rfl⟩, heq⟩ := hok
      cases heq
      have hsame : tenantID = tenant :=
        Option.some.inj (htext.symm.trans htenant)
      subst hsame
      obtain ⟨cleared, hcleared, rfl⟩ := replaceCurrent_eq_ok howned hreplace
      obtain ⟨hid, htenantID, hproductID, hcurrent, hpublished⟩ :=
        newThingsModel_eq_ok hrow
      obtain ⟨hin, hfound⟩ := mayWriteModel_actor hmay
      rw [← hcurrent, ← htenantID, ← hproductID] at hcleared
      exact .modelCreated hid hin hfound hcleared hpublished
        (Table.adds_of_insert? hinsert)

theorem updateThingsModelRow_wrote {input : ThingsModelUpdateInput}
    {model : ThingsModel}
    (hok : updateThingsModelRow call.out (.actor call.userID) input db =
      .ok (model, next)) :
    Wrote bcrypt call db next := by
  simp only [updateThingsModelRow, Transaction.bind_eq_ok, command_eq_ok,
    uuidParam_eq_ok, queryRow_eq_ok, model?_actor, ownModel?_eq_some,
    Transaction.lift_eq_ok, require_eq_ok, storeRows_eq_ok,
    Transaction.pure_eq_ok] at hok
  obtain ⟨_, _, ⟨-, rfl⟩, id, _, ⟨-, rfl⟩, scope, _,
    ⟨⟨hscope, howned, hid⟩, rfl⟩, _, _, hclear, _, _, ⟨-, rfl⟩, old, _,
    ⟨⟨hold, -, hkey⟩, rfl⟩, row, _, ⟨hrow, rfl⟩, _, _, ⟨hmay, rfl⟩, _, _,
    ⟨models, hreplace, rfl⟩, heq⟩ := hok
  cases heq
  obtain ⟨cleared, hcleared, rfl⟩ := replaceCurrent_eq_ok howned hclear
  have hsame : old = scope :=
    Table.eq_of_key (mem_models_of_cleared hcleared hold hkey) hscope
      (congrArg BitVec.toNat (hkey.trans hid.symm))
  subst hsame
  obtain ⟨hfields, hcurrent, hpublished⟩ := ThingsModel.updated_eq_ok hrow
  obtain ⟨-, hfound⟩ := mayWriteModel_actor hmay
  rw [← hcurrent, ← hid] at hcleared
  exact .modelUpdated howned hfound hfields hcleared hpublished
    (Table.replaces_of_replace? hreplace hold (congrArg BitVec.toNat hfields.1))

theorem deleteThingsModelRow_wrote {id : String}
    (hdeletes : ∀ found, Uuid.ofText? id = some found →
      call.deletes = .model found)
    (hok : deleteThingsModelRow call.out (.actor call.userID) id db =
      .ok ((), next)) :
    Wrote bcrypt call db next := by
  simp only [deleteThingsModelRow, Transaction.bind_eq_ok, command_eq_ok,
    uuidParam_eq_ok, require_eq_ok, Option.isSome_iff_exists,
    ownModel?_eq_some, deleteRows_eq_ok] at hok
  obtain ⟨_, _, ⟨-, rfl⟩, id, _, ⟨hparse, rfl⟩, _, _,
    ⟨⟨old, hold, howned, hid⟩, rfl⟩, heq⟩ := hok
  cases heq
  refine .modelDeleted (hid ▸ hdeletes id hparse) howned
    (Table.removes_of_delete hold ?_ ?_)
  · simp [howned, hid]
  · intro other hother
    simp only [Bool.and_eq_true, decide_eq_true_eq] at hother
    exact congrArg BitVec.toNat (hother.2.trans hid.symm)

theorem uuidOrNull_eq_ok {text : String} {id : Option Uuid}
    (hok : uuidOrNull text db = .ok (id, next)) :
    next = db ∧ (text = "" ∧ id = none ∨
      ∃ found, Uuid.ofText? text = some found ∧ id = some found) := by
  rw [uuidOrNull] at hok
  split at hok
  next hempty =>
    rw [Transaction.pure_eq_ok] at hok
    cases hok
    exact ⟨rfl, Or.inl ⟨hempty, rfl⟩⟩
  · simp only [Transaction.bind_eq_ok, uuidParam_eq_ok,
      Transaction.pure_eq_ok] at hok
    obtain ⟨found, _, ⟨hparse, rfl⟩, heq⟩ := hok
    cases heq
    exact ⟨rfl, Or.inr ⟨found, hparse, rfl⟩⟩

theorem checkGateway_eq_ok {input : DeviceCreateInput} {tenantID : Uuid}
    (htenant : Uuid.ofText? input.tenantID = some tenantID)
    (hok : checkGateway out (.actor userID) input db = .ok ((), next)) :
    next = db ∧ (input.gatewayDeviceID = "" ∨
      ∃ gateway ∈ db.devices,
        Uuid.ofText? input.gatewayDeviceID = some gateway.id ∧
        gateway.tenantID = tenantID) := by
  rw [checkGateway] at hok
  split at hok
  next hempty =>
    rw [Transaction.pure_eq_ok] at hok
    cases hok
    exact ⟨rfl, Or.inl hempty⟩
  · simp only [deviceBelongsToTenant, Transaction.mapError_eq_ok,
      Transaction.bind_eq_ok, command_eq_ok, uuidParam_eq_ok,
      Transaction.read_eq_ok] at hok
    obtain ⟨tenant, _, ⟨hparse, rfl⟩, ok, _, ⟨_, _, ⟨-, rfl⟩, id, _,
      ⟨hid, rfl⟩, heq⟩, hok⟩ := hok
    cases heq
    split at hok
    next hany =>
      rw [Transaction.pure_eq_ok] at hok
      cases hok
      obtain ⟨gateway, hmem, hgateway⟩ := List.any_eq_true.mp hany
      simp only [Bool.and_eq_true, decide_eq_true_eq] at hgateway
      obtain ⟨⟨-, hkey⟩, hin⟩ := hgateway
      refine ⟨rfl, Or.inr ⟨gateway, hmem, hkey ▸ hid, ?_⟩⟩
      exact hin.trans (Option.some.inj (hparse.symm.trans htenant))
    · simp at hok

theorem saveSecret_eq_ok {device : Device} {hash : String}
    (hok : saveSecret out (.actor userID) device hash db = .ok ((), next)) :
    ∃ credentials, (if hash = "" then credentials = db.credentials
        else
          db.credentials.Adds (activeCredential out device hash) credentials) ∧
      next = { db with credentials := credentials } := by
  rw [saveSecret] at hok
  split at hok
  next hempty =>
    rw [Transaction.pure_eq_ok] at hok
    cases hok
    exact ⟨db.credentials, by rw [if_pos hempty], rfl⟩
  next hsecret =>
    simp only [insertActiveDeviceCredential, Transaction.mapError_eq_ok,
      Transaction.bind_eq_ok, command_eq_ok, require_eq_ok,
      storeRows_eq_ok] at hok
    obtain ⟨_, _, ⟨-, rfl⟩, _, _, ⟨-, rfl⟩, credentials, hinsert, rfl⟩ := hok
    refine ⟨credentials, ?_, rfl⟩
    rw [if_neg hsecret]
    exact Table.adds_of_insert? hinsert

/-- What a stored device is, before its credential. -/
theorem insertDevice_eq_ok {input : DeviceCreateInput} {device : Device}
    (hok : insertDevice out (.actor userID) input db = .ok (device, next)) :
    ∃ tenantID productID devices credentials,
      Uuid.ofText? input.tenantID = some tenantID ∧
      Uuid.ofText? input.productID = some productID ∧
      (device.id = out.newID ∧ device.tenantID = tenantID ∧
        device.productID = productID ∧ device.status = .active) ∧
      Owned userID db device.tenantID ∧
      (∀ id, device.gatewayDeviceID = some id →
        ∃ gateway ∈ db.devices, gateway.id = id ∧
          gateway.tenantID = device.tenantID) ∧
      db.devices.Adds device devices ∧
      (if input.deviceSecretHash = "" then credentials = db.credentials
        else db.credentials.Adds
          (activeCredential out device input.deviceSecretHash) credentials) ∧
      next = { db with devices := devices, credentials := credentials } := by
  rw [insertDevice, Transaction.bind_eq_ok] at hok
  obtain ⟨ok, middle, hbelongs, hok⟩ := hok
  obtain ⟨rfl, hproduct⟩ := productBelongsToTenant_eq_ok hbelongs
  cases ok with
  | false => simp at hok
  | true =>
      simp only [Bool.not_true, Bool.false_eq_true, if_false,
        Transaction.bind_eq_ok, command_eq_ok, uuidParam_eq_ok,
        Transaction.lift_eq_ok, require_eq_ok, storeRows_eq_ok, owns_actor,
        Transaction.pure_eq_ok] at hok
      obtain ⟨_, _, hcheck, _, _, ⟨-, rfl⟩, tenantID, _, ⟨htenant, rfl⟩,
        productID, _, ⟨hproductID, rfl⟩, gateway, _, hnull, row, _, ⟨hrow, rfl⟩,
        _, _, ⟨howned, rfl⟩, _, _, ⟨devices, hinsert, rfl⟩, _, _, hsave, heq⟩ :=
        hok
      cases heq
      obtain ⟨rfl, hgateway⟩ := checkGateway_eq_ok htenant hcheck
      obtain ⟨rfl, hid⟩ := uuidOrNull_eq_ok hnull
      obtain ⟨credentials, hcredential, rfl⟩ := saveSecret_eq_ok hsave
      obtain ⟨hkey, htenantID, hin, hlink, hstatus⟩ := newDevice_eq_ok hrow
      refine ⟨tenantID, productID, devices, credentials, htenant, hproductID,
        ⟨hkey, htenantID, hin, hstatus⟩, howned, ?_,
        Table.adds_of_insert? hinsert, hcredential, rfl⟩
      intro id hsome
      rw [hlink] at hsome
      rcases hid with ⟨-, hnone⟩ | ⟨found, hfound, hsome'⟩
      · rw [hnone] at hsome
        cases hsome
      · rw [hsome'] at hsome
        cases hsome
        rcases hgateway with hempty | ⟨gateway, hmem, hparse, hsame⟩
        · rw [hempty] at hfound
          cases hfound
        · exact ⟨gateway, hmem, Option.some.inj (hparse.symm.trans hfound),
            hsame.trans htenantID.symm⟩

theorem checkNewGateway_eq_ok {input : DeviceUpdateInput}
    (hok : checkNewGateway out (.actor userID) input db = .ok ((), next)) :
    next = db ∧ (input.gatewayDeviceID = "" ∨
      ∃ device ∈ db.devices, ∃ gateway ∈ db.devices,
        Uuid.ofText? input.deviceID = some device.id ∧
        Uuid.ofText? input.gatewayDeviceID = some gateway.id ∧
        gateway.tenantID = device.tenantID) := by
  rw [checkNewGateway] at hok
  split at hok
  next hempty =>
    rw [Transaction.pure_eq_ok] at hok
    cases hok
    exact ⟨rfl, Or.inl hempty⟩
  · simp only [gatewayBelongsToDeviceTenant, Transaction.mapError_eq_ok,
      Transaction.bind_eq_ok, command_eq_ok, uuidParam_eq_ok,
      Transaction.read_eq_ok] at hok
    obtain ⟨ok, _, ⟨_, _, ⟨-, rfl⟩, id, _, ⟨hid, rfl⟩, gatewayID, _,
      ⟨hgatewayID, rfl⟩, heq⟩, hok⟩ := hok
    cases heq
    split at hok
    next hany =>
      rw [Transaction.pure_eq_ok] at hok
      cases hok
      obtain ⟨device, hdevice, hany⟩ := List.any_eq_true.mp hany
      obtain ⟨gateway, hgateway, hboth⟩ := List.any_eq_true.mp hany
      simp only [Bool.and_eq_true, decide_eq_true_eq] at hboth
      obtain ⟨⟨⟨-, hsame⟩, hkey⟩, hkey'⟩ := hboth
      exact ⟨rfl, Or.inr ⟨device, hdevice, gateway, hgateway, hkey ▸ hid,
        hkey' ▸ hgatewayID, hsame⟩⟩
    · simp at hok

/-- An update replaces the actor's row of the given id, whose new gateway is the
given one, a device of the tenant. -/
theorem updateDeviceRow_eq_ok {input : DeviceUpdateInput} {device : Device}
    (hok : updateDeviceRow out (.actor userID) input db = .ok (device, next)) :
    ∃ old devices, Owned userID db old.tenantID ∧
      Uuid.ofText? input.deviceID = some old.id ∧
      (device.id = old.id ∧ device.tenantID = old.tenantID ∧
        device.productID = old.productID ∧ device.deviceSlug = old.deviceSlug) ∧
      (∀ id, device.gatewayDeviceID = some id →
        Uuid.ofText? input.gatewayDeviceID = some id ∧
        ∃ gateway ∈ db.devices, gateway.id = id ∧
          gateway.tenantID = device.tenantID) ∧
      db.devices.Replaces old device devices ∧
      next = { db with devices := devices } := by
  simp only [updateDeviceRow, Transaction.bind_eq_ok, command_eq_ok,
    uuidParam_eq_ok, queryRow_eq_ok, ownDevice?_eq_some, Transaction.lift_eq_ok,
    storeRows_eq_ok, Transaction.pure_eq_ok] at hok
  obtain ⟨_, _, hcheck, _, _, ⟨-, rfl⟩, id, _, ⟨hid, rfl⟩, gateway, _, hnull,
    old, _, ⟨⟨hold, howned, hkey⟩, rfl⟩, row, _, ⟨hrow, rfl⟩, _, _,
    ⟨devices, hreplace, rfl⟩, heq⟩ := hok
  cases heq
  obtain ⟨rfl, hgateway⟩ := checkNewGateway_eq_ok hcheck
  obtain ⟨rfl, hlink⟩ := uuidOrNull_eq_ok hnull
  obtain ⟨hsame, hlinked⟩ := Device.updated_eq_ok hrow
  refine ⟨old, devices, howned, hkey ▸ hid, hsame, ?_,
    Table.replaces_of_replace? hreplace hold (congrArg BitVec.toNat hsame.1),
    rfl⟩
  intro found hsome
  rw [hlinked] at hsome
  rcases hlink with ⟨-, hnone⟩ | ⟨parsed, hparsed, hsome'⟩
  · rw [hnone] at hsome
    cases hsome
  · rw [hsome'] at hsome
    cases hsome
    rcases hgateway with hempty |
      ⟨self, hself, gateway, hmem, hselfID, hparse, hin⟩
    · rw [hempty] at hparsed
      cases hparsed
    · have heq : self = old := by
        apply Table.eq_of_key hself hold
        have hsame' := Option.some.inj (hselfID.symm.trans hid)
        exact congrArg BitVec.toNat (hsame'.trans hkey.symm)
      exact ⟨hparsed, gateway, hmem,
        Option.some.inj (hparse.symm.trans hparsed),
        by rw [hin, heq, hsame.2.1]⟩

theorem updateDeviceRow_wrote {input : DeviceUpdateInput} {device : Device}
    (hok : updateDeviceRow call.out (.actor call.userID) input db =
      .ok (device, next)) :
    Wrote bcrypt call db next := by
  obtain ⟨old, devices, howned, -, hsame, hgateway, hreplaces, rfl⟩ :=
    updateDeviceRow_eq_ok hok
  exact .deviceUpdated howned hsame (fun id hlink => (hgateway id hlink).2)
    hreplaces

/-- The rows that deleting a device leaves. -/
def withoutDevice (userID id : Uuid) (db : Database) : Database :=
  { db with
    devices := db.devices.delete fun device =>
      (Session.actor userID).owns db device.tenantID && device.id = id }

theorem removes_withoutDevice {old : Device} (hold : old ∈ db.devices)
    (howned : Owned userID db old.tenantID) :
    db.devices.Removes old (withoutDevice userID old.id db).devices := by
  apply Table.removes_of_delete hold (by simp [howned])
  intro other hother
  simp only [Bool.and_eq_true, decide_eq_true_eq] at hother
  exact congrArg BitVec.toNat hother.2

/-- A deletion is carried out on the actor's row of the given id, unless a
device in the actor's sight has it for a gateway. -/
theorem deleteDeviceRow_eq_ok {id : String} :
    deleteDeviceRow out (.actor userID) id db = .ok ((), next) ↔
      (out.outcome .check = .ok () ∧ out.outcome .write = .ok ()) ∧
      ∃ old ∈ db.devices, Owned userID db old.tenantID ∧
        Uuid.ofText? id = some old.id ∧
        (∀ device ∈ db.devices, Owned userID db device.tenantID →
          device.gatewayDeviceID ≠ some old.id) ∧
        next = withoutDevice userID old.id db := by
  simp only [deleteDeviceRow, deviceHasSubDevices, Transaction.bind_eq_ok,
    Transaction.mapError_eq_ok, command_eq_ok, uuidParam_eq_ok,
    Transaction.read_eq_ok]
  constructor
  · rintro ⟨inUse, _, ⟨_, _, ⟨hcheck, rfl⟩, id', _, ⟨hparse, rfl⟩, hread⟩, hok⟩
    cases hread
    split at hok
    · simp at hok
    next hfree =>
      simp only [Transaction.bind_eq_ok, command_eq_ok, uuidParam_eq_ok,
        require_eq_ok, Option.isSome_iff_exists, ownDevice?_eq_some,
        deleteRows_eq_ok] at hok
      obtain ⟨_, _, ⟨hwrite, rfl⟩, id'', _, ⟨hparse', rfl⟩, _, _,
        ⟨⟨old, hold, howned, hid⟩, rfl⟩, heq⟩ := hok
      cases heq
      have hsame : id'' = id' := Option.some.inj (hparse'.symm.trans hparse)
      subst hid
      refine ⟨⟨hcheck, hwrite⟩, old, hold, howned, hparse', ?_, rfl⟩
      intro device hdevice howner heq
      apply hfree
      rw [List.any_eq_true]
      exact ⟨device, hdevice, by simp [howner, heq, hsame]⟩
  · rintro ⟨⟨hcheck, hwrite⟩, old, hold, howned, hparse, hfree, rfl⟩
    refine ⟨false, db, ⟨(), db, ⟨hcheck, rfl⟩, old.id, db, ⟨hparse, rfl⟩, ?_⟩,
      ?_⟩
    · have hnone : db.devices.rows.any (fun device =>
          (Session.actor userID).seesDevice db device &&
            device.gatewayDeviceID = some old.id) = false := by
        rw [List.any_eq_false]
        intro device hdevice hboth
        simp only [Bool.and_eq_true, decide_eq_true_eq, seesDevice_actor,
          owns_actor] at hboth
        exact hfree device hdevice hboth.1 hboth.2
      rw [hnone]
    · simp only [Bool.false_eq_true, if_false, Transaction.bind_eq_ok,
        command_eq_ok, uuidParam_eq_ok, require_eq_ok, Option.isSome_iff_exists,
        ownDevice?_eq_some, deleteRows_eq_ok]
      exact ⟨(), db, ⟨hwrite, rfl⟩, old.id, db, ⟨hparse, rfl⟩, (), db,
        ⟨⟨old, hold, howned, rfl⟩, rfl⟩, rfl⟩

theorem deleteDeviceRow_wrote {id : String}
    (hdeletes : ∀ found, Uuid.ofText? id = some found →
      call.deletes = .device found)
    (hok : deleteDeviceRow call.out (.actor call.userID) id db =
      .ok ((), next)) :
    Wrote bcrypt call db next := by
  obtain ⟨-, old, hold, howned, hparse, hunused, rfl⟩ :=
    deleteDeviceRow_eq_ok.mp hok
  exact .deviceDeleted (hdeletes old.id hparse) howned hunused
    (removes_withoutDevice hold howned)

end Statements

section Calls

variable {α : Type} {casing : Casing} {bcrypt : Bcrypt} {call : Call}
  {db : Database}

theorem storeCall_wrote {scope : String} {translate : Failure → Failure}
    {body : Session → Statement α}
    (hbody : ∀ value next, body (.actor call.userID) db = .ok (value, next) →
      Wrote bcrypt call db next) :
    Wrote bcrypt call db
      (storeCall call.out scope call.userID translate body db).2 := by
  rcases storeCall_cases _ scope call.userID translate body db with
    ⟨err, hcall⟩ | ⟨value, next, hok, hcall⟩
  · rw [hcall]
    exact .nothing
  · rw [hcall]
    exact hbody value next hok

theorem serviceCall_wrote {refused : Bool} {err : Failure}
    {store : Database → Reply α} (hstore : Wrote bcrypt call db (store db).2) :
    Wrote bcrypt call db (serviceCall call.out refused err store db).2 := by
  rw [serviceCall]
  split
  · exact .nothing
  · split
    · exact .nothing
    · exact hstore

theorem findDeviceProductAuthType_eq_ok {lookup : Surroundings}
    {input : DeviceProductAuthInput} {authType : AuthType}
    (hok : (findDeviceProductAuthType lookup input db).1 = .ok authType) :
    ∃ product ∈ db.products, Uuid.ofText? input.productID = some product.id ∧
      Uuid.ofText? input.tenantID = some product.tenantID ∧
      product.authType = authType := by
  rw [findDeviceProductAuthType] at hok
  rcases storeCall_cases _ "device" input.userID
    findDeviceProductAuthTypeError _ db with ⟨err, hcall⟩ |
    ⟨value, next, hbody, hcall⟩
  · rw [hcall] at hok
    cases hok
  · rw [hcall] at hok
    cases hok
    simp only [Transaction.bind_eq_ok, command_eq_ok, uuidParam_eq_ok,
      queryRow_eq_ok, Option.map_eq_some_iff] at hbody
    obtain ⟨_, _, ⟨-, rfl⟩, id, _, ⟨hid, rfl⟩, tenant, _, ⟨htenant, rfl⟩,
      ⟨product, hfind, hauth⟩, -⟩ := hbody
    have hfound := List.find?_some hfind
    simp only [Bool.and_eq_true, decide_eq_true_eq] at hfound
    exact ⟨product, List.mem_of_find?_eq_some hfind, hfound.1.2 ▸ hid,
      hfound.2 ▸ htenant, hauth⟩

theorem newSecret_eq_ok {source : SecretSource} {authType : AuthType}
    {secret hash : String}
    (hok : DeviceCalls.newSecret bcrypt source authType = .ok (secret, hash)) :
    authType = .anonymous ∧ secret = "" ∧ hash = "" ∨
      authType = .secret ∧ ∃ salt bytes, secret = generateSecret bytes ∧
        hash = bcrypt.generateFromPassword salt secret := by
  cases authType with
  | anonymous =>
      cases hok
      exact Or.inl ⟨rfl, rfl, rfl⟩
  | certificate => cases hok
  | secret =>
      simp only [DeviceCalls.newSecret, hashSecret] at hok
      split at hok
      · cases hok
      next bytes _ =>
        split at hok
        · cases hok
        next found hfound =>
          cases hok
          split at hfound
          · cases hfound
          · split at hfound
            · cases hfound
            next salt _ =>
              cases hfound
              exact Or.inr ⟨rfl, salt, bytes, rfl, rfl⟩

/-- What creating a device reports and stores: nothing, or the device with the
secret that its credential was made of. -/
theorem create_cases {lookup : Surroundings} {source : SecretSource}
    {input : DeviceCreateInput} (huserID : input.userID = call.userID) :
    (∃ err, DeviceCalls.create casing bcrypt lookup call.out source input db =
      (.error err, db)) ∨
    ∃ device secret hash devices credentials,
      DeviceCalls.create casing bcrypt lookup call.out source input db =
        (.ok ⟨device, secret⟩,
          { db with devices := devices, credentials := credentials }) ∧
      (device.id = call.out.newID ∧ device.status = .active) ∧
      Owned call.userID db device.tenantID ∧
      (∃ product ∈ db.products, product.id = device.productID ∧
        product.tenantID = device.tenantID ∧
        (product.authType = .anonymous ∧ secret = "" ∧ hash = "" ∨
          product.authType = .secret ∧ ∃ salt bytes,
            secret = generateSecret bytes ∧
            hash = bcrypt.generateFromPassword salt secret)) ∧
      (∀ id, device.gatewayDeviceID = some id →
        ∃ gateway ∈ db.devices, gateway.id = id ∧
          gateway.tenantID = device.tenantID) ∧
      db.devices.Adds device devices ∧
      (if hash = "" then credentials = db.credentials
        else db.credentials.Adds (activeCredential call.out device hash)
          credentials) := by
  rw [DeviceCalls.create, serviceCall]
  split
  · exact Or.inl ⟨_, rfl⟩
  · split
    · exact Or.inl ⟨_, rfl⟩
    · dsimp only
      split
      next err _ => exact Or.inl ⟨err, rfl⟩
      next authType hlookup =>
        split
        next err _ => exact Or.inl ⟨err, rfl⟩
        next secret hash hsecret =>
          rw [createDevice]
          dsimp only [DeviceCalls.normalizedCreate]
          rw [huserID]
          rcases storeCall_cases _ "device" call.userID
              (createError .device "insert device") _ db with
            ⟨err, hcall⟩ | ⟨device, next, hok, hcall⟩
          · rw [hcall]
            exact Or.inl ⟨err, rfl⟩
          · obtain ⟨product, hmem, hid, htenant, hauth⟩ :=
              findDeviceProductAuthType_eq_ok hlookup
            obtain ⟨tenantID, productID, devices, credentials, htenantID,
              hproductID, ⟨hkey, hin, hof, hstatus⟩, howned, hgateway, hadds,
              hcredential, rfl⟩ := insertDevice_eq_ok hok
            rw [hcall]
            refine Or.inr ⟨device, secret, hash, devices, credentials, rfl,
              ⟨hkey, hstatus⟩, howned, ?_, hgateway, hadds, hcredential⟩
            refine ⟨product, hmem, ?_, ?_, ?_⟩
            · rw [hof]
              exact Option.some.inj (hid.symm.trans hproductID)
            · rw [hin]
              exact Option.some.inj (htenant.symm.trans htenantID)
            · rw [hauth]
              exact newSecret_eq_ok hsecret

theorem createDevice_wrote {lookup : Surroundings} {source : SecretSource}
    {input : DeviceCreateInput} (huserID : input.userID = call.userID)
    (hregisters : call.registers = true) :
    Wrote bcrypt call db
      (DeviceCalls.create casing bcrypt lookup call.out source input db).2 := by
  rcases create_cases huserID with ⟨err, hcall⟩ |
    ⟨device, secret, hash, devices, credentials, hcall, ⟨hid, hstatus⟩, howned,
      hproduct, hgateway, hadds,
    hcredential⟩
  · rw [hcall]
    exact .nothing
  · rw [hcall]
    refine .deviceCreated hregisters hid howned hstatus ?_ hgateway hadds
      hcredential
    obtain ⟨product, hmem, hof, hin, hkind⟩ := hproduct
    refine ⟨product, hmem, hof, hin, ?_⟩
    rcases hkind with ⟨hauth, -, hempty⟩ | ⟨hauth, salt, bytes, rfl, hhash⟩
    · exact Or.inl ⟨hauth, hempty⟩
    · exact Or.inr ⟨hauth, salt, bytes, hhash⟩

theorem deletes_named {kind : Uuid → Deletes} {input : RowInput} {id : Uuid}
    (hparse : Uuid.ofText? (trimSpace input.id) = some id) :
    Deletes.named kind input = kind id := by
  rw [Deletes.named, hparse]

/-- Whatever a call meets and reports, it has made one of these changes. -/
theorem serve_wrote (request : Request) :
    Wrote bcrypt request.call db (serve casing bcrypt db request) := by
  cases request with
  | createTenant out input =>
      exact serviceCall_wrote (storeCall_wrote fun _ _ hok =>
        insertTenant_wrote (by rfl) hok)
  | updateTenant out input =>
      exact serviceCall_wrote (storeCall_wrote fun _ _ hok =>
        updateTenantRow_wrote hok)
  | deleteTenant out input =>
      have hnamed : ∀ id, Uuid.ofText? (trimSpace input.id) = some id →
          (Request.deleteTenant out input).call.deletes = .tenant id := by
        intro id hparse
        simp only [Request.call]
        exact deletes_named hparse
      exact serviceCall_wrote (storeCall_wrote fun _ _ hok =>
        deleteTenantRow_wrote hnamed hok)
  | createProduct out input =>
      exact serviceCall_wrote (storeCall_wrote fun _ _ hok =>
        insertProduct_wrote hok)
  | updateProduct out input =>
      exact serviceCall_wrote (storeCall_wrote fun _ _ hok =>
        updateProductRow_wrote hok (by simp only [Request.call]))
  | deleteProduct out input =>
      have hnamed : ∀ id, Uuid.ofText? (trimSpace input.id) = some id →
          (Request.deleteProduct out input).call.deletes = .product id := by
        intro id hparse
        simp only [Request.call]
        exact deletes_named hparse
      exact serviceCall_wrote (storeCall_wrote fun _ _ hok =>
        deleteProductRow_wrote hnamed hok)
  | createThingsModel out input =>
      exact serviceCall_wrote (storeCall_wrote fun _ _ hok =>
        insertThingsModel_wrote hok)
  | updateThingsModel out input =>
      exact serviceCall_wrote (storeCall_wrote fun _ _ hok =>
        updateThingsModelRow_wrote hok)
  | deleteThingsModel out input =>
      have hnamed : ∀ id, Uuid.ofText? (trimSpace input.id) = some id →
          (Request.deleteThingsModel out input).call.deletes = .model id := by
        intro id hparse
        simp only [Request.call]
        exact deletes_named hparse
      exact serviceCall_wrote (storeCall_wrote fun _ _ hok =>
        deleteThingsModelRow_wrote hnamed hok)
  | createDevice lookup out source input =>
      exact createDevice_wrote rfl rfl
  | updateDevice out input =>
      exact serviceCall_wrote (storeCall_wrote fun _ _ hok =>
        updateDeviceRow_wrote hok)
  | deleteDevice out input =>
      have hnamed : ∀ id, Uuid.ofText? (trimSpace input.id) = some id →
          (Request.deleteDevice out input).call.deletes = .device id := by
        intro id hparse
        simp only [Request.call]
        exact deletes_named hparse
      exact serviceCall_wrote (storeCall_wrote fun _ _ hok =>
        deleteDeviceRow_wrote hnamed hok)

end Calls

end Registry

end LinkFlow
