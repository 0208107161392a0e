/-
The references between the tables of the registry, which no foreign key holds.
The existence checks of the stores keep them, except where a parent row is
deleted that still has products, thing models or a credential.
-/
import LinkFlow.Lib.Transition
import LinkFlow.RegistryWrites

namespace LinkFlow

namespace Registry

section Integrity

/-- The columns that name a tenant, a product and a device. -/
def ofTenant (tenantID : R → Uuid) (row : R) (tenant : Tenant) : Prop :=
  tenant.id = tenantID row

def ofProduct (productID tenantID : R → Uuid) (row : R) (product : Product) :
    Prop :=
  product.id = productID row ∧ product.tenantID = tenantID row

def ofDevice (credential : Credential) (device : Device) : Prop :=
  device.id = credential.deviceID ∧ device.tenantID = credential.tenantID

/-- The gateway of every device is a device of its tenant. -/
def GatewaysExist (db : Database) : Prop :=
  ∀ device ∈ db.devices, ∀ id, device.gatewayDeviceID = some id →
    ∃ gateway ∈ db.devices, gateway.id = id ∧ gateway.tenantID = device.tenantID

/-- Every reference names a row of the same tenant. -/
structure Integral (db : Database) : Prop where
  productTenant : db.products.References (ofTenant Product.tenantID) db.tenants
  modelProduct : db.models.References
    (ofProduct ThingsModel.productID ThingsModel.tenantID) db.products
  deviceTenant : db.devices.References (ofTenant Device.tenantID) db.tenants
  deviceProduct : db.devices.References
    (ofProduct Device.productID Device.tenantID) db.products
  credentialDevice : db.credentials.References ofDevice db.devices
  deviceGateway : GatewaysExist db

/-- What the three deletions do not check: a tenant has no products, a product
no thing models, a device no credentials. -/
def LeavesNoOrphan (db : Database) (call : Call) : Prop :=
  match call.deletes with
  | .nothing | .model _ => True
  | .tenant id => ∀ tenant ∈ db.tenants, tenant.id = id →
      tenant.ownerUserID = call.userID →
        ∀ product ∈ db.products, product.tenantID ≠ id
  | .product id => ∀ product ∈ db.products, product.id = id →
      Owned call.userID db product.tenantID →
        ∀ model ∈ db.models, model.productID ≠ id
  | .device id => ∀ device ∈ db.devices, device.id = id →
      Owned call.userID db device.tenantID →
        ∀ credential ∈ db.credentials, credential.deviceID ≠ id

end Integrity

section Steps

variable {bcrypt : Bcrypt} {call : Call} {db next : Database}

/-- Every call keeps the product of a device: one that still has devices in the
sight of its owner is not deleted. -/
theorem deviceProduct_wrote
    (hrefs : db.devices.References
      (ofProduct Device.productID Device.tenantID) db.products)
    (hwrote : Wrote bcrypt call db next) :
    next.devices.References
      (ofProduct Device.productID Device.tenantID) next.products := by
  cases hwrote with
  | nothing => exact hrefs
  | tenantCreated hid howner huser hadds => exact hrefs
  | tenantUpdated howner hsame hreplaces => exact hrefs
  | tenantDeleted hdeletes howner hremoves => exact hrefs
  | productCreated hid howned hadds => exact hrefs.adds_target hadds
  | productUpdated howned hsame hauth hreplaces =>
      exact hrefs.replaces_target hreplaces
        fun _ hlink => ⟨hsame.1.trans hlink.1, hsame.2.1.trans hlink.2⟩
  | productDeleted hdeletes howned hunused hremoves =>
      apply hrefs.removes_target hremoves
      intro device hdevice hlink
      exact hunused device hdevice (hlink.2 ▸ howned) hlink.1.symm
  | modelCreated hid howned hproduct hcleared hpublished hadds => exact hrefs
  | modelUpdated howned hproduct hsame hcleared hpublished hreplaces =>
      exact hrefs
  | modelDeleted hdeletes howned hremoves => exact hrefs
  | deviceCreated hregisters hid howned hstatus hproduct hgateway hadds
      hcredential =>
      obtain ⟨product, hmem, hof, hin, -⟩ := hproduct
      exact hrefs.adds hadds hmem ⟨hof, hin⟩
  | deviceUpdated howned hsame hgateway hreplaces =>
      exact hrefs.replaces hreplaces
        fun _ hlink => ⟨hlink.1.trans hsame.2.2.1.symm,
          hlink.2.trans hsame.2.1.symm⟩
  | deviceDeleted hdeletes howned hunused hremoves =>
      exact hrefs.removes hremoves

/-- Every call keeps the gateways: one that has sub-devices in the sight of its
owner is not deleted. -/
theorem gatewaysExist_wrote (hgateways : GatewaysExist db)
    (hwrote : Wrote bcrypt call db next) : GatewaysExist next := by
  cases hwrote with
  | @deviceCreated device devices hash credentials hregisters hid howned hstatus
      hproduct hgateway hadds hcredential =>
      intro other hother id hlink
      rcases (hadds.2 other).mp hother with hnew | hold
      · obtain ⟨gateway, hfound, hsame⟩ := hgateway id (hnew ▸ hlink)
        exact ⟨gateway, (hadds.2 gateway).mpr (Or.inr hfound), hnew ▸ hsame⟩
      · obtain ⟨gateway, hfound, hsame⟩ := hgateways other hold id hlink
        exact ⟨gateway, (hadds.2 gateway).mpr (Or.inr hfound), hsame⟩
  | @deviceUpdated old device devices howned hsame hgateway hreplaces =>
      -- a gateway that was replaced has kept its id and its tenant
      have hkept : ∀ gateway ∈ db.devices, ∃ found ∈ devices,
          found.id = gateway.id ∧ found.tenantID = gateway.tenantID := by
        intro gateway hgateway
        by_cases heq : gateway = old
        · exact ⟨device, (hreplaces.2.2 device).mpr (Or.inl rfl),
            heq ▸ hsame.1, heq ▸ hsame.2.1⟩
        · exact ⟨gateway, (hreplaces.2.2 gateway).mpr (Or.inr ⟨hgateway, heq⟩),
            rfl, rfl⟩
      intro other hother id hlink
      have hbefore : ∃ gateway ∈ db.devices, gateway.id = id ∧
          gateway.tenantID = other.tenantID := by
        rcases (hreplaces.2.2 other).mp hother with hnew | ⟨hold, -⟩
        · exact hnew ▸ hgateway id (hnew ▸ hlink)
        · exact hgateways other hold id hlink
      obtain ⟨gateway, hmem, hid, hin⟩ := hbefore
      obtain ⟨found, hfound, hid', hin'⟩ := hkept gateway hmem
      exact ⟨found, hfound, hid'.trans hid, hin'.trans hin⟩
  | @deviceDeleted old devices hdeletes howned hunused hremoves =>
      intro other hother id hlink
      have hmem := ((hremoves.2 other).mp hother).1
      obtain ⟨gateway, hfound, hid, hin⟩ := hgateways other hmem id hlink
      have hkept : gateway ≠ old := by
        intro heq
        rw [heq] at hid hin
        exact hunused other hmem (hin ▸ howned) (hid ▸ hlink)
      exact ⟨gateway, (hremoves.2 gateway).mpr ⟨hfound, hkept⟩, hid, hin⟩
  | _ => exact hgateways

/-- The models of a product after some of them were cleared. -/
theorem references_cleared {out : Surroundings} {isCurrent : Bool}
    {tenantID productID : Uuid} {exceptID : Option Uuid}
    {models cleared : Table modelSchema} {products : Table productSchema}
    (hcleared : if isCurrent then
        Clears out tenantID productID exceptID models cleared
      else cleared = models)
    (hrefs : models.References
      (ofProduct ThingsModel.productID ThingsModel.tenantID) products) :
    cleared.References
      (ofProduct ThingsModel.productID ThingsModel.tenantID) products := by
  split at hcleared
  · intro model hmodel
    obtain ⟨old, hold, rfl⟩ := (hcleared model).mp hmodel
    obtain ⟨product, hproduct, hlink⟩ := hrefs old hold
    refine ⟨product, hproduct, ?_⟩
    split
    · exact hlink
    · exact hlink
  · rw [hcleared]
    exact hrefs

/-- One call keeps the references, unless it deletes a row that is still
used. -/
theorem Integral.wrote (hintegral : Integral db)
    (hwrote : Wrote bcrypt call db next) (hguard : LeavesNoOrphan db call) :
    Integral next := by
  have hdevices := deviceProduct_wrote hintegral.deviceProduct hwrote
  have hgateways := gatewaysExist_wrote hintegral.deviceGateway hwrote
  cases hwrote with
  | nothing => exact hintegral
  | tenantCreated hid howner huser hadds =>
      exact { hintegral with
        productTenant := hintegral.productTenant.adds_target hadds
        deviceTenant := hintegral.deviceTenant.adds_target hadds }
  | tenantUpdated howner hsame hreplaces =>
      exact { hintegral with
        productTenant := hintegral.productTenant.replaces_target hreplaces
          fun _ hlink => hsame.1.trans hlink
        deviceTenant := hintegral.deviceTenant.replaces_target hreplaces
          fun _ hlink => hsame.1.trans hlink }
  | @tenantDeleted old tenants hdeletes howner hremoves =>
      have hunused : ∀ product ∈ db.products, product.tenantID ≠ old.id := by
        rw [LeavesNoOrphan, hdeletes] at hguard
        exact hguard old hremoves.1 rfl howner
      refine { hintegral with
        productTenant := hintegral.productTenant.removes_target hremoves ?_
        deviceTenant := hintegral.deviceTenant.removes_target hremoves ?_ }
      · intro product hproduct hlink
        exact hunused product hproduct hlink.symm
      · intro device hdevice hlink
        obtain ⟨product, hproduct, -, hin⟩ :=
          hintegral.deviceProduct device hdevice
        exact hunused product hproduct (hin.trans hlink.symm)
  | productCreated hid howned hadds =>
      obtain ⟨tenant, htenant, hkey, -⟩ := howned
      exact { hintegral with
        productTenant := hintegral.productTenant.adds hadds htenant hkey
        modelProduct := hintegral.modelProduct.adds_target hadds
        deviceProduct := hdevices }
  | productUpdated howned hsame hauth hreplaces =>
      exact { hintegral with
        productTenant := hintegral.productTenant.replaces hreplaces
          fun _ hlink => hlink.trans hsame.2.1.symm
        modelProduct := hintegral.modelProduct.replaces_target hreplaces
          fun _ hlink => ⟨hsame.1.trans hlink.1, hsame.2.1.trans hlink.2⟩
        deviceProduct := hdevices }
  | @productDeleted old products hdeletes howned hunused hremoves =>
      have hmodels : ∀ model ∈ db.models, model.productID ≠ old.id := by
        rw [LeavesNoOrphan, hdeletes] at hguard
        exact hguard old hremoves.1 rfl howned
      exact { hintegral with
        productTenant := hintegral.productTenant.removes hremoves
        modelProduct := hintegral.modelProduct.removes_target hremoves
          fun model hmodel hlink => hmodels model hmodel hlink.1.symm
        deviceProduct := hdevices }
  | modelCreated hid howned hproduct hcleared hpublished hadds =>
      obtain ⟨product, hmem, hlink⟩ := hproduct
      exact { hintegral with
        modelProduct := (references_cleared hcleared
          hintegral.modelProduct).adds hadds hmem hlink }
  | modelUpdated howned hproduct hsame hcleared hpublished hreplaces =>
      exact { hintegral with
        modelProduct := (references_cleared hcleared
          hintegral.modelProduct).replaces hreplaces
            fun _ hlink => ⟨hlink.1.trans hsame.2.2.1.symm,
              hlink.2.trans hsame.2.1.symm⟩ }
  | modelDeleted hdeletes howned hremoves =>
      exact { hintegral with
        modelProduct := hintegral.modelProduct.removes hremoves }
  | @deviceCreated device devices hash credentials hregisters hid howned hstatus
      hproduct hgateway hadds hcredential =>
      obtain ⟨tenant, htenant, hkey, -⟩ := howned
      have hcredentials := hintegral.credentialDevice.adds_target hadds
      refine { hintegral with
        deviceTenant := hintegral.deviceTenant.adds hadds htenant hkey
        deviceProduct := hdevices
        credentialDevice := ?_
        deviceGateway := hgateways }
      split at hcredential
      · rw [hcredential]
        exact hcredentials
      · exact hcredentials.adds hcredential ((hadds.2 device).mpr (Or.inl rfl))
          ⟨rfl, rfl⟩
  | deviceUpdated howned hsame hgateway hreplaces =>
      exact { hintegral with
        deviceTenant := hintegral.deviceTenant.replaces hreplaces
          fun _ hlink => hlink.trans hsame.2.1.symm
        deviceProduct := hdevices
        credentialDevice := hintegral.credentialDevice.replaces_target hreplaces
          fun _ hlink => ⟨hsame.1.trans hlink.1, hsame.2.1.trans hlink.2⟩
        deviceGateway := hgateways }
  | @deviceDeleted old devices hdeletes howned hunused hremoves =>
      have hcredentials : ∀ credential ∈ db.credentials,
          credential.deviceID ≠ old.id := by
        rw [LeavesNoOrphan, hdeletes] at hguard
        exact hguard old hremoves.1 rfl howned
      exact { hintegral with
        deviceTenant := hintegral.deviceTenant.removes hremoves
        deviceProduct := hdevices
        credentialDevice := hintegral.credentialDevice.removes_target hremoves
          fun credential hcredential hlink =>
            hcredentials credential hcredential hlink.1.symm
        deviceGateway := hgateways }

end Steps

section Runs

/-- The registry as its services run it, from empty tables. -/
def system (casing : Casing) (bcrypt : Bcrypt) :
    Transition.System Database Request where
  init db := (∀ tenant, tenant ∉ db.tenants) ∧
  (∀ product, product ∉ db.products) ∧
    (∀ model, model ∉ db.models) ∧ (∀ device, device ∉ db.devices) ∧
    ∀ credential, credential ∉ db.credentials
  step db request := some (serve casing bcrypt db request)

/-- In every reachable registry the product of a device is there, in the tenant
of the device. -/
theorem deviceProduct_of_reachable {casing : Casing} {bcrypt : Bcrypt}
    {db : Database} (hreach : (system casing bcrypt).Reachable db) :
    db.devices.References (ofProduct Device.productID Device.tenantID)
      db.products := by
  apply hreach.invariant
  · rintro start ⟨-, -, -, hdevices, -⟩ device hmem
    exact absurd hmem (hdevices device)
  · intro current request next hcurrent hstep
    cases hstep
    exact deviceProduct_wrote hcurrent (serve_wrote request)

/-- Along every run that deletes no tenant with products, no product with thing
models and no device with credentials, all references hold. -/
theorem integral_of_reachable (casing : Casing) (bcrypt : Bcrypt)
    {db : Database}
    (hreach : (system casing bcrypt).ReachableVia
      (fun db request => LeavesNoOrphan db request.call) db) :
    Integral db := by
  apply hreach.invariant
  · rintro start ⟨-, hproducts, hmodels, hdevices, hcredentials⟩
    exact
      { productTenant := fun product hmem => absurd hmem (hproducts product)
        modelProduct := fun model hmem => absurd hmem (hmodels model)
        deviceTenant := fun device hmem => absurd hmem (hdevices device)
        deviceProduct := fun device hmem => absurd hmem (hdevices device)
        credentialDevice := fun credential hmem =>
          absurd hmem (hcredentials credential)
        deviceGateway := fun device hmem => absurd hmem (hdevices device) }
  · intro current request next hcurrent hguard hstep
    cases hstep
    exact hcurrent.wrote (serve_wrote request) hguard

end Runs

section Sample

/-- A hash that keeps the password behind a mark. -/
def plainBcrypt : Bcrypt where
  generateFromPassword _ password := "$" ++ password
  compareHashAndPassword hash password := hash = "$" ++ password
  generate_ne_empty _ password := by
    intro heq
    have hlist := congrArg String.toList heq
    simp at hlist
  compare_generate _ _ := by simp

/-- A call in which everything answers. -/
def calmCall (id : Nat) : Surroundings where
  ctxErr _ := none
  outcome _ := .ok ()
  now := 0
  newID := BitVec.ofNat 128 id
  newCredentialID := BitVec.ofNat 128 (id + 1000)

/-- One user, and empty tables. -/
def emptyRegistry : Database :=
  ⟨[7], Table.empty, Table.empty, Table.empty, Table.empty, Table.empty⟩

def acmeTenant : Request := .createTenant (calmCall 1) ⟨7, "acme", "Acme"⟩

/-- A product of the tenant, with this kind of authentication. -/
def lampProduct (authType : String) : Request :=
  .createProduct (calmCall 2)
    ⟨7, "00000000-0000-0000-0000-000000000001", "lamp", "Lamp", "", "",
      authType, ""⟩

/-- A device of the sample product. -/
def lampDevice (id : Nat) (slug : String) : Request :=
  .createDevice (calmCall id) (calmCall id) ⟨.ok 0, .ok 0⟩
    ⟨7, "00000000-0000-0000-0000-000000000001",
      "00000000-0000-0000-0000-000000000002", slug, "Lamp", "", "", ""⟩

def dropLamp : Request :=
  .deleteProduct (calmCall 3) ⟨7, "00000000-0000-0000-0000-000000000002"⟩

def dropAcme : Request :=
  .deleteTenant (calmCall 3) ⟨7, "00000000-0000-0000-0000-000000000001"⟩

/-- The registry after these calls. -/
def registryAfter (requests : List Request) : Database :=
  requests.foldl (serve asciiCasing plainBcrypt) emptyRegistry

theorem reachable_registryAfter (requests : List Request) :
    (system asciiCasing plainBcrypt).Reachable (registryAfter requests) := by
  have hstart : (system asciiCasing plainBcrypt).Reachable emptyRegistry :=
    .start ⟨Table.not_mem_empty, Table.not_mem_empty, Table.not_mem_empty,
      Table.not_mem_empty, Table.not_mem_empty⟩
  rw [registryAfter]
  generalize emptyRegistry = db at hstart
  induction requests generalizing db with
  | nil => exact hstart
  | cons request rest ih => exact ih _ (hstart.next rfl)

/-- The product of the sample has no thing models. -/
theorem leavesNoOrphan_dropLamp :
    LeavesNoOrphan (registryAfter [acmeTenant, lampProduct ""])
      dropLamp.call := by
  have hdeletes : dropLamp.call.deletes = .product 2 := rfl
  have hnone : ∀ model ∈ (registryAfter [acmeTenant, lampProduct ""]).models,
      model.productID ≠ 2 := by decide +kernel
  rw [LeavesNoOrphan, hdeletes]
  exact fun _ _ _ _ => hnone

theorem reachableVia_created :
    (system asciiCasing plainBcrypt).ReachableVia
      (fun db request => LeavesNoOrphan db request.call)
      (registryAfter [acmeTenant, lampProduct "", dropLamp,
        lampProduct ""]) := by
  have hstart : (system asciiCasing plainBcrypt).ReachableVia
      (fun db request => LeavesNoOrphan db request.call) emptyRegistry :=
    .start ⟨Table.not_mem_empty, Table.not_mem_empty, Table.not_mem_empty,
      Table.not_mem_empty, Table.not_mem_empty⟩
  have hguard : ∀ db, LeavesNoOrphan db acmeTenant.call ∧
      LeavesNoOrphan db (lampProduct "").call := fun _ => ⟨trivial, trivial⟩
  have hcreated := (hstart.next (hguard _).1 rfl).next (hguard _).2 rfl
  have hdropped := hcreated.next leavesNoOrphan_dropLamp rfl
  exact hdropped.next (hguard _).2 rfl

/-- After a tenant and a product were created, and the product was deleted and
created anew, there is one of each. -/
theorem integral_created :
    (registryAfter [acmeTenant, lampProduct "",
      dropLamp]).products.rows.length =
        0 ∧
      (registryAfter [acmeTenant, lampProduct "", dropLamp,
        lampProduct ""]).products.rows.length = 1 ∧
      Integral (registryAfter [acmeTenant, lampProduct "", dropLamp,
        lampProduct ""]) :=
  ⟨by decide +kernel, by decide +kernel,
    integral_of_reachable asciiCasing plainBcrypt reachableVia_created⟩

/-- Deleting the tenant then leaves the product without one. -/
theorem tenant_deleted_with_product :
    ∃ db, (system asciiCasing plainBcrypt).Reachable db ∧ ¬ Integral db := by
  refine ⟨_, reachable_registryAfter [acmeTenant, lampProduct "", dropAcme], ?_⟩
  intro hintegral
  have horphan : (registryAfter [acmeTenant, lampProduct "",
      dropAcme]).products.rows.any (fun product =>
        (registryAfter [acmeTenant, lampProduct "", dropAcme]).tenants.rows.all
          fun tenant => tenant.id ≠ product.tenantID) =
          true := by decide +kernel
  obtain ⟨product, hproduct, hall⟩ := List.any_eq_true.mp horphan
  obtain ⟨tenant, htenant, hlink⟩ := hintegral.productTenant product hproduct
  have hne := List.all_eq_true.mp hall tenant htenant
  simp only [decide_eq_true_eq] at hne
  exact hne hlink

end Sample

end Registry

end LinkFlow
