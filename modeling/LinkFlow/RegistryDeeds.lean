/-
What a statement of the registry has done when it succeeds: it created, updated
or deleted the one row its caller named, for the owner of that row's tenant, and
left every other row alone.
-/
import LinkFlow.RegistryWrites

namespace LinkFlow

namespace Registry

section Deeds

/-- The resource types of the API. -/
def Aggregate.text : Aggregate → String
  | .tenant => "tenant"
  | .product => "product"
  | .thingsModel => "thingsmodel"
  | .device => "device"

inductive Verb where
  | create
  | update
  | delete
deriving Repr, DecidableEq

def Verb.text : Verb → String
  | .create => "create"
  | .update => "update"
  | .delete => "delete"

/-- A row of this kind has the id. -/
def Database.Has (db : Database) : Aggregate → Uuid → Prop
  | .tenant, id => ∃ tenant ∈ db.tenants, tenant.id = id
  | .product, id => ∃ product ∈ db.products, product.id = id
  | .thingsModel, id => ∃ model ∈ db.models, model.id = id
  | .device, id => ∃ device ∈ db.devices, device.id = id

/-- A row of this kind has the id and belongs to a tenant of the user. -/
def Database.Holds (userID : Uuid) (db : Database) : Aggregate → Uuid → Prop
  | .tenant, id => Owned userID db id
  | .product, id => ∃ product ∈ db.products,
      product.id = id ∧ Owned userID db product.tenantID
  | .thingsModel, id => ∃ model ∈ db.models,
      model.id = id ∧ Owned userID db model.tenantID
  | .device, id => ∃ device ∈ db.devices,
      device.id = id ∧ Owned userID db device.tenantID

/-- The same model, which may have ceased to be the current one. -/
def ThingsModel.Kept (old model : ThingsModel) : Prop :=
  old = model ∨ ∃ out, old.cleared out = model

/-- Outside the named rows nothing differs, but for models that are no longer
current.  A credential goes with its device. -/
structure Spared (named : Aggregate → Uuid → Prop) (db next : Database) :
    Prop where
  tenants : db.tenants.KeptOutside (fun tenant => named .tenant tenant.id) Eq
    next.tenants
  products : db.products.KeptOutside (fun product => named .product product.id)
    Eq next.products
  models : db.models.KeptOutside (fun model => named .thingsModel model.id)
    ThingsModel.Kept next.models
  devices : db.devices.KeptOutside (fun device => named .device device.id) Eq
    next.devices
  credentials : db.credentials.KeptOutside
    (fun credential => named .device credential.deviceID) Eq next.credentials
  users : next.users = db.users

/-- The rows of the id before and after the deed. -/
def Verb.Did (userID : Uuid) (kind : Aggregate) (id : Uuid)
    (db next : Database) : Verb → Prop
  | .create => ¬ db.Has kind id ∧ next.Holds userID kind id
  | .update => db.Holds userID kind id ∧ next.Holds userID kind id
  | .delete => db.Holds userID kind id ∧ ¬ next.Has kind id

/-- The user has done this to this row and nothing else. -/
structure Performed (userID : Uuid) (verb : Verb) (kind : Aggregate) (id : Uuid)
    (db next : Database) : Prop where
  did : verb.Did userID kind id db next
  rest : Spared (fun aggregate row => aggregate = kind ∧ row = id) db next

end Deeds

section Spared

variable {named named' : Aggregate → Uuid → Prop} {db middle next : Database}

theorem ThingsModel.Kept.refl (model : ThingsModel) : model.Kept model :=
  Or.inl rfl

theorem ThingsModel.Kept.trans (first second third : ThingsModel)
    (hfirst : first.Kept second) (hsecond : second.Kept third) :
    first.Kept third := by
  rcases hsecond with rfl | ⟨out, rfl⟩
  · exact hfirst
  · rcases hfirst with rfl | ⟨earlier, rfl⟩
    · exact Or.inr ⟨out, rfl⟩
    · exact Or.inr ⟨out, rfl⟩

theorem ThingsModel.Kept.id_eq {old model : ThingsModel}
    (hkept : old.Kept model) : model.id = old.id := by
  rcases hkept with rfl | ⟨out, rfl⟩
  · rfl
  · rfl

theorem Spared.refl (named : Aggregate → Uuid → Prop) (db : Database) :
    Spared named db db where
  tenants := .refl (fun _ => rfl) _
  products := .refl (fun _ => rfl) _
  models := .refl ThingsModel.Kept.refl _
  devices := .refl (fun _ => rfl) _
  credentials := .refl (fun _ => rfl) _
  users := rfl

theorem Spared.mono (hspared : Spared named db next)
    (himp : ∀ kind id, named kind id → named' kind id) :
    Spared named' db next where
  tenants := hspared.tenants.mono (fun _ => himp _ _) fun _ _ h => h
  products := hspared.products.mono (fun _ => himp _ _) fun _ _ h => h
  models := hspared.models.mono (fun _ => himp _ _) fun _ _ h => h
  devices := hspared.devices.mono (fun _ => himp _ _) fun _ _ h => h
  credentials := hspared.credentials.mono (fun _ => himp _ _) fun _ _ h => h
  users := hspared.users

theorem Spared.trans (hfirst : Spared named db middle)
    (hsecond : Spared named middle next) : Spared named db next where
  tenants := hfirst.tenants.trans (fun _ _ _ => Eq.trans)
    (fun _ _ heq => by rw [heq]) hsecond.tenants
  products := hfirst.products.trans (fun _ _ _ => Eq.trans)
    (fun _ _ heq => by rw [heq]) hsecond.products
  models := hfirst.models.trans ThingsModel.Kept.trans
    (fun _ _ hkept => by rw [hkept.id_eq]) hsecond.models
  devices := hfirst.devices.trans (fun _ _ _ => Eq.trans)
    (fun _ _ heq => by rw [heq]) hsecond.devices
  credentials := hfirst.credentials.trans (fun _ _ _ => Eq.trans)
    (fun _ _ heq => by rw [heq]) hsecond.credentials
  users := hsecond.users.trans hfirst.users

/-- A change of one table leaves the others alone. -/
theorem spared_tenants {tenants : Table tenantSchema}
    (hkept : db.tenants.KeptOutside (fun tenant => named .tenant tenant.id) Eq
      tenants) :
    Spared named db { db with tenants := tenants } :=
  { Spared.refl named db with tenants := hkept }

theorem spared_products {products : Table productSchema}
    (hkept : db.products.KeptOutside (fun product => named .product product.id)
      Eq products) :
    Spared named db { db with products := products } :=
  { Spared.refl named db with products := hkept }

theorem spared_models {models : Table modelSchema}
    (hkept : db.models.KeptOutside (fun model => named .thingsModel model.id)
      ThingsModel.Kept models) :
    Spared named db { db with models := models } :=
  { Spared.refl named db with models := hkept }

theorem spared_devices {devices : Table deviceSchema}
    {credentials : Table credentialSchema}
    (hkept : db.devices.KeptOutside (fun device => named .device device.id) Eq
      devices)
    (hcredentials : db.credentials.KeptOutside
      (fun credential => named .device credential.deviceID) Eq credentials) :
    Spared named db
      { db with devices := devices, credentials := credentials } :=
  { Spared.refl named db with
    devices := hkept
    credentials := hcredentials }

end Spared

section Statements

variable {out : Surroundings} {userID : Uuid} {db next : Database}

theorem insertTenant_performed {input : TenantCreateInput} {tenant : Tenant}
    (hok : insertTenant out (.actor userID) input db = .ok (tenant, next)) :
    Performed userID .create .tenant tenant.id db next := by
  simp only [insertTenant, Transaction.bind_eq_ok, command_eq_ok,
    Transaction.lift_eq_ok, require_eq_ok, storeRows_eq_ok, ownsRow_actor,
    Transaction.pure_eq_ok, decide_eq_true_eq] at hok
  obtain ⟨_, _, ⟨-, rfl⟩, row, _, ⟨-, rfl⟩, _, _, ⟨howner, rfl⟩, _, _,
    ⟨tenants, hinsert, rfl⟩, _, _, ⟨-, rfl⟩, heq⟩ := hok
  cases heq
  have hadds := Table.adds_of_insert? hinsert
  refine ⟨⟨?_, ?_⟩, spared_tenants (hadds.keptOutside ⟨rfl, rfl⟩)⟩
  · rintro ⟨other, hother, hid⟩
    exact (hadds.fresh hother).1 (congrArg BitVec.toNat hid)
  · exact ⟨tenant, (hadds.2 tenant).mpr (Or.inl rfl), rfl, howner⟩

theorem updateTenantRow_performed {input : TenantUpdateInput} {tenant : Tenant}
    (hok : updateTenantRow out (.actor userID) input db = .ok (tenant, next)) :
    ∃ id, Uuid.ofText? input.tenantID = some id ∧
      Performed userID .update .tenant id db next := by
  simp only [updateTenantRow, Transaction.bind_eq_ok, command_eq_ok,
    uuidParam_eq_ok, queryRow_eq_ok, Transaction.lift_eq_ok, storeRows_eq_ok,
    ownTenant?_eq_some, Transaction.pure_eq_ok] at hok
  obtain ⟨_, _, ⟨-, rfl⟩, id, _, ⟨hparse, rfl⟩, old, _,
    ⟨⟨hold, howner, hid⟩, rfl⟩, row, _, ⟨hrow, rfl⟩, _, _,
    ⟨tenants, hreplace, rfl⟩, heq⟩ := hok
  cases heq
  obtain ⟨hsame, howner', -⟩ := Tenant.updated_eq_ok hrow
  have hreplaces := Table.replaces_of_replace? hreplace hold
    (congrArg BitVec.toNat hsame)
  refine ⟨id, hparse, ⟨⟨old, hold, hid, howner⟩, ?_⟩, spared_tenants
    (hreplaces.keptOutside ⟨rfl, hid⟩ ⟨rfl, hsame.trans hid⟩)⟩
  exact ⟨tenant, (hreplaces.2.2 tenant).mpr (Or.inl rfl), hsame.trans hid,
    howner'.trans howner⟩

theorem deleteTenantRow_performed {text : String}
    (hok : deleteTenantRow out (.actor userID) text db = .ok ((), next)) :
    ∃ id, Uuid.ofText? text = some id ∧
      Performed userID .delete .tenant id db next := by
  simp only [deleteTenantRow, Transaction.bind_eq_ok, command_eq_ok,
    uuidParam_eq_ok, require_eq_ok, Option.isSome_iff_exists,
    ownTenant?_eq_some, deleteRows_eq_ok] at hok
  obtain ⟨_, _, ⟨-, rfl⟩, id, _, ⟨hparse, rfl⟩, _, _,
    ⟨⟨old, hold, howner, hid⟩, rfl⟩, heq⟩ := hok
  cases heq
  have hremoves : db.tenants.Removes old (db.tenants.delete fun tenant =>
      (Session.actor userID).ownsRow tenant && tenant.id = id) := by
    refine Table.removes_of_delete hold (by simp [howner, hid]) ?_
    intro other hother
    simp only [Bool.and_eq_true, decide_eq_true_eq] at hother
    exact congrArg BitVec.toNat (hother.2.trans hid.symm)
  refine ⟨id, hparse, ⟨⟨old, hold, hid, howner⟩, ?_⟩,
    spared_tenants (hremoves.keptOutside ⟨rfl, hid⟩)⟩
  rintro ⟨other, hother, heq⟩
  exact hremoves.gone hother (congrArg BitVec.toNat (heq.trans hid.symm))

theorem insertProduct_performed {input : ProductCreateInput} {product : Product}
    (hok : insertProduct out (.actor userID) input db = .ok (product, next)) :
    Performed userID .create .product product.id db next := by
  rw [insertProduct, Transaction.bind_eq_ok] at hok
  obtain ⟨ok, middle, hexists, hok⟩ := hok
  obtain ⟨rfl, -⟩ := tenantExists_eq_ok hexists
  cases ok with
  | false => simp at hok
  | true =>
      simp only [Bool.not_true, Bool.false_eq_true, if_false,
        Transaction.bind_eq_ok, command_eq_ok, uuidParam_eq_ok,
        Transaction.lift_eq_ok, require_eq_ok, storeRows_eq_ok, owns_actor,
        Transaction.pure_eq_ok] at hok
      obtain ⟨_, _, ⟨-, rfl⟩, tenantID, _, ⟨-, rfl⟩, row, _, ⟨-, rfl⟩, _, _,
        ⟨howned, rfl⟩, _, _, ⟨products, hinsert, rfl⟩, heq⟩ := hok
      cases heq
      have hadds := Table.adds_of_insert? hinsert
      refine ⟨⟨?_, ?_⟩, spared_products (hadds.keptOutside ⟨rfl, rfl⟩)⟩
      · rintro ⟨other, hother, hid⟩
        exact (hadds.fresh hother).1 (congrArg BitVec.toNat hid)
      · exact ⟨product, (hadds.2 product).mpr (Or.inl rfl), rfl, howned⟩

theorem updateProductRow_performed {input : ProductUpdateInput}
    {product : Product}
    (hok : updateProductRow out (.actor userID) input db =
      .ok (product, next)) :
    ∃ id, Uuid.ofText? input.productID = some id ∧
      Performed userID .update .product id db next := by
  simp only [updateProductRow, Transaction.bind_eq_ok, command_eq_ok,
    uuidParam_eq_ok, queryRow_eq_ok, Transaction.lift_eq_ok, storeRows_eq_ok,
    ownProduct?_eq_some, Transaction.pure_eq_ok] at hok
  obtain ⟨_, _, ⟨-, rfl⟩, id, _, ⟨hparse, rfl⟩, old, _,
    ⟨⟨hold, howned, hid⟩, rfl⟩, row, _, ⟨hrow, rfl⟩, _, _,
    ⟨products, hreplace, rfl⟩, heq⟩ := hok
  cases heq
  obtain ⟨⟨hsame, htenant, -⟩, -⟩ := Product.updated_eq_ok hrow
  have hreplaces := Table.replaces_of_replace? hreplace hold
    (congrArg BitVec.toNat hsame)
  refine ⟨id, hparse, ⟨⟨old, hold, hid, howned⟩, ?_⟩, spared_products
    (hreplaces.keptOutside ⟨rfl, hid⟩ ⟨rfl, hsame.trans hid⟩)⟩
  exact ⟨product, (hreplaces.2.2 product).mpr (Or.inl rfl), hsame.trans hid,
    htenant ▸ howned⟩

theorem deleteProductRow_performed {text : String}
    (hok : deleteProductRow out (.actor userID) text db = .ok ((), next)) :
    ∃ id, Uuid.ofText? text = some id ∧
      Performed userID .delete .product id db next := by
  simp only [deleteProductRow, productHasDevices, Transaction.bind_eq_ok,
    Transaction.mapError_eq_ok, command_eq_ok, uuidParam_eq_ok,
    Transaction.read_eq_ok] at hok
  obtain ⟨inUse, _, ⟨_, _, ⟨-, rfl⟩, _, _, ⟨-, rfl⟩, hread⟩, hok⟩ := hok
  cases hread
  split at hok
  · simp at hok
  · simp only [Transaction.bind_eq_ok, command_eq_ok, uuidParam_eq_ok,
      require_eq_ok, Option.isSome_iff_exists, ownProduct?_eq_some,
      deleteRows_eq_ok] at hok
    obtain ⟨_, _, ⟨-, rfl⟩, id, _, ⟨hparse, rfl⟩, _, _,
      ⟨⟨old, hold, howned, hid⟩, rfl⟩, heq⟩ := hok
    cases heq
    have hremoves : db.products.Removes old (db.products.delete fun product =>
        (Session.actor userID).owns db product.tenantID &&
        product.id = id) := by
      refine Table.removes_of_delete hold (by simp [howned, hid]) ?_
      intro other hother
      simp only [Bool.and_eq_true, decide_eq_true_eq] at hother
      exact congrArg BitVec.toNat (hother.2.trans hid.symm)
    refine ⟨id, hparse, ⟨⟨old, hold, hid, howned⟩, ?_⟩,
      spared_products (hremoves.keptOutside ⟨rfl, hid⟩)⟩
    rintro ⟨other, hother, heq⟩
    exact hremoves.gone hother (congrArg BitVec.toNat (heq.trans hid.symm))

/-- Clearing names no row: every model is still there. -/
theorem Clears.keptOutside {named : ThingsModel → Prop}
    {tenantID productID : Uuid} {exceptID : Option Uuid}
    {models cleared : Table modelSchema}
    (hclears : Clears out tenantID productID exceptID models cleared) :
    models.KeptOutside named ThingsModel.Kept cleared := by
  constructor
  · intro old hold _
    refine ⟨_, (hclears _).mpr ⟨old, hold, rfl⟩, ?_⟩
    split
    · exact Or.inr ⟨out, rfl⟩
    · exact Or.inl rfl
  · intro model hmodel _
    obtain ⟨old, hold, heq⟩ := (hclears model).mp hmodel
    refine ⟨old, hold, ?_⟩
    split at heq
    · exact Or.inr ⟨out, heq⟩
    · exact Or.inl heq

theorem cleared_keptOutside {named : ThingsModel → Prop} {isCurrent : Bool}
    {tenantID productID : Uuid} {exceptID : Option Uuid}
    {models cleared : Table modelSchema}
    (hcleared : if isCurrent then
        Clears out tenantID productID exceptID models cleared
      else cleared = models) :
    models.KeptOutside named ThingsModel.Kept cleared := by
  split at hcleared
  · exact hcleared.keptOutside
  · rw [hcleared]
    exact .refl ThingsModel.Kept.refl _

/-- A change of the row of one id in the cleared table is one of the table. -/
theorem models_keptOutside {isCurrent : Bool} {tenantID productID id : Uuid}
    {exceptID : Option Uuid} {models cleared last : Table modelSchema}
    (hcleared : if isCurrent then
        Clears out tenantID productID exceptID models cleared
      else cleared = models)
    (hchanged : cleared.KeptOutside (fun model =>
      Aggregate.thingsModel = .thingsModel ∧ model.id = id) Eq last) :
    models.KeptOutside (fun model =>
      Aggregate.thingsModel = .thingsModel ∧ model.id = id) ThingsModel.Kept
      last :=
  (cleared_keptOutside hcleared).trans ThingsModel.Kept.trans
    (fun _ _ hkept => by rw [hkept.id_eq])
    (hchanged.mono (fun _ h => h) fun _ _ heq => Or.inl heq)

theorem insertThingsModel_performed {input : ThingsModelCreateInput}
    {model : ThingsModel}
    (hok : insertThingsModel out (.actor userID) input db = .ok (model, next)) :
    Performed userID .create .thingsModel model.id db next := by
  rw [insertThingsModel, Transaction.bind_eq_ok] at hok
  obtain ⟨ok, middle, hbelongs, hok⟩ := hok
  obtain ⟨rfl, hproduct⟩ := productBelongsToTenant_eq_ok hbelongs
  cases ok with
  | false => simp at hok
  | true =>
      obtain ⟨_, tenant, -, htenant, howned, -⟩ := hproduct rfl
      simp only [Bool.not_true, Bool.false_eq_true, if_false,
        Transaction.bind_eq_ok, uuidParam_eq_ok, command_eq_ok,
        Transaction.lift_eq_ok, require_eq_ok, storeRows_eq_ok,
        Transaction.pure_eq_ok] at hok
      obtain ⟨tenantID, _, ⟨htext, rfl⟩, productID, _, ⟨-, rfl⟩, _, _, hreplace,
        _, _, ⟨-, rfl⟩, row, _, ⟨-, rfl⟩, _, _, ⟨hmay, rfl⟩, _, _,
        ⟨models, hinsert, rfl⟩, heq⟩ := hok
      cases heq
      have hsame : tenantID = tenant :=
        Option.some.inj (htext.symm.trans htenant)
      subst hsame
      obtain ⟨cleared, hcleared, rfl⟩ := replaceCurrent_eq_ok howned hreplace
      have hadds := Table.adds_of_insert? hinsert
      have hstill : middle.models.KeptOutside (fun _ => False) ThingsModel.Kept
          cleared := cleared_keptOutside hcleared
      refine ⟨⟨?_, ?_⟩, spared_models (models_keptOutside hcleared
        (hadds.keptOutside ⟨rfl, rfl⟩))⟩
      · rintro ⟨other, hother, hid⟩
        obtain ⟨kept, hkept, hfrom⟩ := hstill.stays other hother not_false
        exact (hadds.fresh hkept).1
          (congrArg BitVec.toNat (hfrom.id_eq.trans hid))
      · exact ⟨model, (hadds.2 model).mpr (Or.inl rfl), rfl,
          (mayWriteModel_actor hmay).1⟩

theorem updateThingsModelRow_performed {input : ThingsModelUpdateInput}
    {model : ThingsModel}
    (hok : updateThingsModelRow out (.actor userID) input db =
      .ok (model, next)) :
    ∃ id, Uuid.ofText? input.thingsModelID = some id ∧
      Performed userID .update .thingsModel id db next := by
  simp only [updateThingsModelRow, Transaction.bind_eq_ok, command_eq_ok,
    uuidParam_eq_ok, queryRow_eq_ok, model?_actor, ownModel?_eq_some,
    Transaction.lift_eq_ok, require_eq_ok, storeRows_eq_ok,
    Transaction.pure_eq_ok] at hok
  obtain ⟨_, _, ⟨-, rfl⟩, id, _, ⟨hparse, rfl⟩, scope, _,
    ⟨⟨hscope, howned, hid⟩, rfl⟩, _, _, hclear, _, _, ⟨-, rfl⟩, old, _,
    ⟨⟨hold, -, hkey⟩, rfl⟩, row, _, ⟨hrow, rfl⟩, _, _, ⟨hmay, rfl⟩, _, _,
    ⟨models, hreplace, rfl⟩, heq⟩ := hok
  cases heq
  obtain ⟨cleared, hcleared, rfl⟩ := replaceCurrent_eq_ok howned hclear
  obtain ⟨⟨hsame, -⟩, -⟩ := ThingsModel.updated_eq_ok hrow
  have hreplaces := Table.replaces_of_replace? hreplace hold
    (congrArg BitVec.toNat hsame)
  refine ⟨id, hparse, ⟨⟨scope, hscope, hid, howned⟩, ?_⟩, spared_models
    (models_keptOutside hcleared
      (hreplaces.keptOutside ⟨rfl, hkey⟩ ⟨rfl, hsame.trans hkey⟩))⟩
  exact ⟨model, (hreplaces.2.2 model).mpr (Or.inl rfl), hsame.trans hkey,
    (mayWriteModel_actor hmay).1⟩

theorem deleteThingsModelRow_performed {text : String}
    (hok : deleteThingsModelRow out (.actor userID) text db = .ok ((), next)) :
    ∃ id, Uuid.ofText? text = some id ∧
      Performed userID .delete .thingsModel id db next := by
  simp only [deleteThingsModelRow, Transaction.bind_eq_ok, command_eq_ok,
    uuidParam_eq_ok, require_eq_ok, Option.isSome_iff_exists,
    ownModel?_eq_some, deleteRows_eq_ok] at hok
  obtain ⟨_, _, ⟨-, rfl⟩, id, _, ⟨hparse, rfl⟩, _, _,
    ⟨⟨old, hold, howned, hid⟩, rfl⟩, heq⟩ := hok
  cases heq
  have hremoves : db.models.Removes old (db.models.delete fun model =>
      (Session.actor userID).owns db model.tenantID && model.id = id) := by
    refine Table.removes_of_delete hold (by simp [howned, hid]) ?_
    intro other hother
    simp only [Bool.and_eq_true, decide_eq_true_eq] at hother
    exact congrArg BitVec.toNat (hother.2.trans hid.symm)
  refine ⟨id, hparse, ⟨⟨old, hold, hid, howned⟩, ?_⟩, spared_models
    ((hremoves.keptOutside ⟨rfl, hid⟩).mono (fun _ h => h)
      fun _ _ heq => Or.inl heq)⟩
  rintro ⟨other, hother, heq⟩
  exact hremoves.gone hother (congrArg BitVec.toNat (heq.trans hid.symm))

/-- A device comes with its credential, if it has one. -/
theorem device_created {device : Device} {devices : Table deviceSchema}
    {hash : String} {credentials : Table credentialSchema}
    (howned : Owned userID db device.tenantID)
    (hadds : db.devices.Adds device devices)
    (hcredential : if hash = "" then credentials = db.credentials
      else db.credentials.Adds (activeCredential out device hash) credentials) :
    Performed userID .create .device device.id db
      { db with devices := devices, credentials := credentials } := by
  refine ⟨⟨?_, ?_⟩, spared_devices (hadds.keptOutside ⟨rfl, rfl⟩) ?_⟩
  · rintro ⟨other, hother, hid⟩
    exact (hadds.fresh hother).1 (congrArg BitVec.toNat hid)
  · exact ⟨device, (hadds.2 device).mpr (Or.inl rfl), rfl, howned⟩
  · split at hcredential
    · rw [hcredential]
      exact .refl (fun _ => rfl) _
    · exact hcredential.keptOutside ⟨rfl, rfl⟩

theorem updateDeviceRow_performed {input : DeviceUpdateInput} {device : Device}
    (hok : updateDeviceRow out (.actor userID) input db = .ok (device, next)) :
    ∃ id, Uuid.ofText? input.deviceID = some id ∧
      Performed userID .update .device id db next := by
  obtain ⟨old, devices, howned, hparse, ⟨hsame, htenant, -⟩, -,
    hreplaces, rfl⟩ :=
    updateDeviceRow_eq_ok hok
  refine ⟨old.id, hparse, ⟨⟨old, hreplaces.1, rfl, howned⟩, ?_⟩,
    spared_devices (hreplaces.keptOutside ⟨rfl, rfl⟩ ⟨rfl, hsame⟩)
      (.refl (fun _ => rfl) _)⟩
  exact ⟨device, (hreplaces.2.2 device).mpr (Or.inl rfl), hsame,
    htenant ▸ howned⟩

theorem deleteDeviceRow_performed {text : String}
    (hok : deleteDeviceRow out (.actor userID) text db = .ok ((), next)) :
    ∃ id, Uuid.ofText? text = some id ∧
      Performed userID .delete .device id db next := by
  obtain ⟨-, old, hold, howned, hparse, -, rfl⟩ := deleteDeviceRow_eq_ok.mp hok
  have hremoves := removes_withoutDevice hold howned
  refine ⟨old.id, hparse, ⟨⟨old, hold, rfl, howned⟩, ?_⟩,
    spared_devices (hremoves.keptOutside ⟨rfl, rfl⟩) (.refl (fun _ => rfl) _)⟩
  rintro ⟨other, hother, heq⟩
  exact hremoves.gone hother (congrArg BitVec.toNat heq)

end Statements

end Registry

end LinkFlow
