/-
The statements of the management stores over two registries that agree on what
the actor owns: they fail alike, or return the same and leave registries that
agree again.
-/
import LinkFlow.TenantAgreement

namespace LinkFlow

namespace Registry

open Transaction (Twins)

section Checks

variable {out : Surroundings} {userID : Uuid} {pre : Database → Database → Prop}
  (hpre : ∀ first second, pre first second → Agree userID first second)
include hpre

theorem twins_tenantExists (tenantID : String) :
    Twins pre (tenantExists out (.actor userID) tenantID) fun _ => pre := by
  apply Twins.mapError
  apply (twins_command .check).bind
  intro _
  refine (twins_uuidParam tenantID).bind fun id => Twins.of_and fun _ => ?_
  refine (Twins.read fun first second hrel => ?_).left
  rw [tenant?_actor, tenant?_actor, (hpre first second hrel).ownTenant?_eq]

theorem twins_productHasDevices (productID : String) :
    Twins pre (productHasDevices out (.actor userID) productID) fun _ =>
      pre := by
  apply Twins.mapError
  apply (twins_command .check).bind
  intro _
  refine (twins_uuidParam productID).bind fun id => Twins.of_and fun _ => ?_
  refine (Twins.read fun first second hrel => ?_).left
  exact Table.any_congr ((hpre first second hrel).devices_where fun device =>
    device.productID = id)

theorem twins_productBelongsToTenant (productID tenantID : String) :
    Twins pre (productBelongsToTenant out (.actor userID) productID tenantID)
      fun _ => pre := by
  apply Twins.mapError
  apply (twins_command .check).bind
  intro _
  refine (twins_uuidParam productID).bind fun id => Twins.of_and fun _ => ?_
  refine (twins_uuidParam tenantID).bind fun tenant => Twins.of_and fun _ => ?_
  refine (Twins.read fun first second hrel => ?_).left
  exact Table.any_congr ((hpre first second hrel).productIn_where id tenant)

theorem twins_deviceBelongsToTenant (deviceID : String) (tenantID : Uuid) :
    Twins pre (deviceBelongsToTenant out (.actor userID) deviceID tenantID)
      fun _ => pre := by
  apply Twins.mapError
  apply (twins_command .gateway).bind
  intro _
  refine (twins_uuidParam deviceID).bind fun id => Twins.of_and fun _ => ?_
  refine (Twins.read fun first second hrel => ?_).left
  simp only [Bool.and_assoc]
  exact Table.any_congr ((hpre first second hrel).devices_where fun device =>
    device.id = id && device.tenantID = tenantID)

theorem twins_checkGateway (input : DeviceCreateInput) :
    Twins pre (checkGateway out (.actor userID) input) fun _ => pre := by
  rw [checkGateway]
  split
  · exact Twins.pure fun _ _ hrel => hrel
  · refine (twins_uuidParam input.tenantID).bind fun id =>
      Twins.of_and fun _ => ?_
    apply (twins_deviceBelongsToTenant hpre input.gatewayDeviceID id).bind
    intro ok
    cases ok with
    | false => exact Twins.fail _
    | true => exact Twins.pure fun _ _ hrel => hrel

theorem twins_checkNewGateway (input : DeviceUpdateInput) :
    Twins pre (checkNewGateway out (.actor userID) input) fun _ => pre := by
  rw [checkNewGateway, gatewayBelongsToDeviceTenant]
  split
  · exact Twins.pure fun _ _ hrel => hrel
  · refine Twins.bind (Twins.mapError ?_ : Twins _ _ fun _ => pre) fun ok => ?_
    · apply (twins_command .gateway).bind
      intro _
      refine (twins_uuidParam _).bind fun id => Twins.of_and fun _ => ?_
      refine (twins_uuidParam _).bind fun gatewayID => Twins.of_and fun _ => ?_
      exact (Twins.read fun first second hrel =>
        (hpre first second hrel).gatewayPair_eq id gatewayID).left
    · cases ok with
      | false => exact Twins.fail _
      | true => exact Twins.pure fun _ _ hrel => hrel

theorem twins_deviceHasSubDevices (deviceID : String) :
    Twins pre (deviceHasSubDevices out (.actor userID) deviceID) fun _ =>
      pre := by
  apply Twins.mapError
  apply (twins_command .check).bind
  intro _
  refine (twins_uuidParam deviceID).bind fun id => Twins.of_and fun _ => ?_
  refine (Twins.read fun first second hrel => ?_).left
  exact Table.any_congr ((hpre first second hrel).devices_where fun device =>
    device.gatewayDeviceID = some id)

omit hpre in
theorem twins_uuidOrNull (text : String) :
    Twins pre (uuidOrNull text) fun _ => pre := by
  rw [uuidOrNull]
  split
  · exact Twins.pure fun _ _ hrel => hrel
  · apply (twins_uuidParam text).bind
    intro id
    exact Twins.pure fun _ _ hrel => hrel.1

end Checks

section Tenants

variable {out : Surroundings} {userID : Uuid} {first second : Database}

/-- The ids that the database generates for a call are new. -/
structure Fresh (out : Surroundings) (db : Database) : Prop where
  tenants : ∀ tenant ∈ db.tenants, tenant.id ≠ out.newID
  products : ∀ product ∈ db.products, product.id ≠ out.newID
  models : ∀ model ∈ db.models, model.id ≠ out.newID
  devices : ∀ device ∈ db.devices, device.id ≠ out.newID
  credentials : ∀ credential ∈ db.credentials,
    credential.id ≠ out.newCredentialID ∧ credential.deviceID ≠ out.newID
  unused : Unused out.newID db

/-- Two registries that agree, and in which a call's ids are new. -/
structure Start (userID : Uuid) (out : Surroundings)
    (first second : Database) : Prop where
  agree : Agree userID first second
  fresh : Fresh out first
  fresh' : Fresh out second

theorem Agree.add_tenant (hstart : Start userID out first second)
    {tenant : Tenant} {tenants tenants' : Table tenantSchema}
    (hid : tenant.id = out.newID) (hadds : first.tenants.Adds tenant tenants)
    (hadds' : second.tenants.Adds tenant tenants') :
    Agree userID { first with tenants := tenants }
      { second with tenants := tenants' } := by
  apply hstart.agree.put_tenants
  · intro other howner
    rw [hadds.2, hadds'.2, hstart.agree.tenants other howner]
  · intro other hmem howner
    rcases (hadds.2 other).mp hmem with rfl | hother
    · exact Or.inr ⟨hid ▸ hstart.fresh.unused, hid ▸ hstart.fresh'.unused⟩
    · exact Or.inl ⟨other, hother, rfl, howner⟩

/-- Creating a tenant ends alike unless one of the runs meets a slug that is
taken. -/
theorem insertTenant_alike (hstart : Start userID out first second)
    (input : TenantCreateInput) (huser : input.userID = userID) :
    Transaction.Alike (fun _ => Agree userID)
        (insertTenant out (.actor userID) input first)
        (insertTenant out (.actor userID) input second) ∨
      insertTenant out (.actor userID) input first =
        .error (.sql .uniqueViolation) ∨
      insertTenant out (.actor userID) input second =
        .error (.sql .uniqueViolation) := by
  have husers : (input.userID ∈ first.users) = (input.userID ∈ second.users) :=
    propext (huser ▸ hstart.agree.users)
  simp only [insertTenant, bind, pure, Surroundings.command, Transaction.lift,
    require, storeRows]
  cases out.outcome .write with
  | error err => exact Or.inl (.error _)
  | ok _ =>
      cases hnew : newTenant out input.userID input.tenantSlug
        input.tenantName with
      | error err => exact Or.inl (.error _)
      | ok tenant =>
          simp only [Except.mapError, Except.map]
          cases (Session.actor userID).ownsRow tenant with
          | false => exact Or.inl (.error _)
          | true =>
              simp only [if_true]
              cases hinsert : first.tenants.insert? tenant with
              | none => exact Or.inr (Or.inl rfl)
              | some tenants =>
                  cases hinsert' : second.tenants.insert? tenant with
                  | none => exact Or.inr (Or.inr rfl)
                  | some tenants' =>
                      apply Or.inl
                      simp only [husers]
                      by_cases huser' : input.userID ∈ second.users
                      · simp only [huser', decide_true, if_true]
                        exact .ok tenant (Agree.add_tenant hstart
                          (newTenant_eq_ok hnew).1
                          (Table.adds_of_insert? hinsert)
                          (Table.adds_of_insert? hinsert'))
                      · simp only [huser', decide_false,
                          Bool.false_eq_true, if_false]
                        exact .error _

theorem Agree.replace_tenant (hagree : Agree userID first second)
    {old tenant : Tenant} {tenants tenants' : Table tenantSchema}
    (hid : tenant.id = old.id) (howner : old.ownerUserID = userID)
    (hreplaces : first.tenants.Replaces old tenant tenants)
    (hreplaces' : second.tenants.Replaces old tenant tenants') :
    Agree userID { first with tenants := tenants }
      { second with tenants := tenants' } := by
  apply hagree.put_tenants
  · intro other hother
    rw [hreplaces.2.2, hreplaces'.2.2, hagree.tenants other hother]
  · intro other hmem hother
    rcases (hreplaces.2.2 other).mp hmem with rfl | ⟨hold, -⟩
    · exact Or.inl ⟨old, hreplaces.1, hid.symm, howner⟩
    · exact Or.inl ⟨other, hold, rfl, hother⟩

theorem twins_updateTenantRow (input : TenantUpdateInput) :
    Twins (Agree userID) (updateTenantRow out (.actor userID) input)
      fun _ => Agree userID := by
  apply (twins_command .write).bind
  intro _
  refine (twins_uuidParam input.tenantID).bind fun id =>
    Twins.of_and fun _ => ?_
  refine (twins_queryRow fun first second hagree =>
    hagree.ownTenant?_eq id).bind fun old => ?_
  refine (Twins.lift _).bind fun tenant => Twins.of_and fun hupdated => ?_
  obtain ⟨hid, howner, hslug⟩ := Tenant.updated_eq_ok hupdated
  have hkey : tenantSchema.key old = tenantSchema.key tenant :=
    congrArg BitVec.toNat hid.symm
  -- The slug stays, so no index can refuse the row.
  have hsome : ∀ db, (Session.actor userID).ownTenant? id db = some old →
      (db.tenants.replace? tenant).isSome = true := fun db hfound =>
    Table.isSome_replace?_of_conflict (ownTenant?_eq_some.mp hfound).1 hkey
      fun found => by simp only [tenantSchema, hslug]
  refine Twins.bind (twins_storeRows ?_ ?_ : Twins _ _ fun _ => Agree userID)
    fun _ => Twins.pure fun _ _ hagree => hagree
  · rintro first second ⟨-, hfound, hfound'⟩
    rw [hsome first hfound, hsome second hfound']
  · rintro first second tenants tenants' ⟨hagree, hfound, hfound'⟩
      hreplace hreplace'
    obtain ⟨hmem, hown, -⟩ := ownTenant?_eq_some.mp hfound
    obtain ⟨hmem', -, -⟩ := ownTenant?_eq_some.mp hfound'
    exact hagree.replace_tenant hid hown
      (Table.replaces_of_replace? hreplace hmem hkey.symm)
      (Table.replaces_of_replace? hreplace' hmem' hkey.symm)

theorem twins_deleteTenantRow (id : String) :
    Twins (Agree userID) (deleteTenantRow out (.actor userID) id)
      fun _ => Agree userID := by
  apply (twins_command .write).bind
  intro _
  refine (twins_uuidParam id).bind fun id => Twins.of_and fun _ => ?_
  refine (twins_require fun first second hagree => ?_).left.bind fun _ =>
    twins_deleteRows fun first second hagree => ?_
  · rw [hagree.ownTenant?_eq]
  · apply hagree.put_tenants
    · intro other howner
      rw [Table.mem_delete, Table.mem_delete, hagree.tenants other howner]
    · intro other hmem howner
      exact Or.inl ⟨other, (Table.mem_delete.mp hmem).1, rfl, howner⟩

end Tenants

section Products

variable {out : Surroundings} {userID : Uuid} {first second : Database}

theorem Agree.put_products (hagree : Agree userID first second)
    {products products' : Table productSchema}
    (hsame : SameOwned userID first Product.tenantID products products') :
    Agree userID { first with products := products }
      { second with products := products' } :=
  ⟨hagree.users, hagree.tenants, hsame, hagree.models, hagree.devices,
    hagree.credentials⟩

theorem twins_insertProduct (input : ProductCreateInput) :
    Twins (Start userID out) (insertProduct out (.actor userID) input)
      fun _ => Agree userID := by
  refine (twins_tenantExists (fun _ _ hstart => hstart.agree) _).bind fun ok =>
    ?_
  cases ok with
  | false => exact Twins.fail _
  | true =>
      apply (twins_command .write).bind
      intro _
      refine (twins_uuidParam _).bind fun tenantID => Twins.of_and fun _ => ?_
      refine (Twins.lift _).bind fun product => Twins.of_and fun hnew => ?_
      have hid := (newProduct_eq_ok hnew).1
      refine (twins_require fun first second hstart =>
        hstart.agree.owns_eq _).bind fun _ => ?_
      refine Twins.bind (twins_storeRows ?_ ?_ : Twins _ _ fun _ =>
        Agree userID) fun _ => Twins.pure fun _ _ hagree => hagree
      · rintro first second ⟨hstart, howned, -⟩
        refine hstart.agree.products.admits_eq (owns_actor.mp howned) ?_ ?_ ?_
        · intro found hclash
          simp only [productSchema, Bool.and_eq_true,
            decide_eq_true_eq] at hclash
          exact hclash.1
        · intro found hmem hkey
          exact hstart.fresh.products found hmem
            ((BitVec.eq_of_toNat_eq hkey).trans hid)
        · intro found hmem hkey
          exact hstart.fresh'.products found hmem
            ((BitVec.eq_of_toNat_eq hkey).trans hid)
      · rintro first second products products' ⟨hstart, -⟩ hinsert hinsert'
        exact hstart.agree.put_products (hstart.agree.products.adds
          (Table.adds_of_insert? hinsert) (Table.adds_of_insert? hinsert'))

theorem twins_updateProductRow (input : ProductUpdateInput) :
    Twins (Agree userID) (updateProductRow out (.actor userID) input)
      fun _ => Agree userID := by
  apply (twins_command .write).bind
  intro _
  refine (twins_uuidParam input.productID).bind fun id =>
    Twins.of_and fun _ => ?_
  refine (twins_queryRow fun first second hagree =>
    hagree.ownProduct?_eq id).bind fun old => ?_
  refine (Twins.lift _).bind fun product => Twins.of_and fun hupdated => ?_
  obtain ⟨⟨hid, htenant, hproductKey⟩, -⟩ := Product.updated_eq_ok hupdated
  have hkey : productSchema.key old = productSchema.key product :=
    congrArg BitVec.toNat hid.symm
  have hsome : ∀ db, (Session.actor userID).ownProduct? id db = some old →
      (db.products.replace? product).isSome = true := fun db hfound =>
    Table.isSome_replace?_of_conflict (ownProduct?_eq_some.mp hfound).1 hkey
      fun found => by simp only [productSchema, htenant, hproductKey]
  refine Twins.bind (twins_storeRows ?_ ?_ : Twins _ _ fun _ => Agree userID)
    fun _ => Twins.pure fun _ _ hagree => hagree
  · rintro first second ⟨-, hfound, hfound'⟩
    rw [hsome first hfound, hsome second hfound']
  · rintro first second products products' ⟨hagree, hfound, hfound'⟩ hreplace
      hreplace'
    exact hagree.put_products (hagree.products.replaces
      (Table.replaces_of_replace? hreplace (ownProduct?_eq_some.mp hfound).1
        hkey.symm)
      (Table.replaces_of_replace? hreplace' (ownProduct?_eq_some.mp hfound').1
        hkey.symm))

theorem twins_deleteProductRow (id : String) :
    Twins (Agree userID) (deleteProductRow out (.actor userID) id)
      fun _ => Agree userID := by
  refine (twins_productHasDevices (fun _ _ hagree => hagree) id).bind
    fun inUse => ?_
  cases inUse with
  | true => exact Twins.fail _
  | false =>
      apply (twins_command .write).bind
      intro _
      refine (twins_uuidParam id).bind fun id => Twins.of_and fun _ => ?_
      refine (twins_require fun first second hagree => ?_).left.bind fun _ =>
        twins_deleteRows fun first second hagree => ?_
      · rw [hagree.ownProduct?_eq]
      · exact hagree.put_products (hagree.products.delete fun product => by
          rw [hagree.owns_eq])

end Products

section ThingsModels

variable {out : Surroundings} {userID : Uuid} {first second : Database}

theorem Agree.put_models (hagree : Agree userID first second)
    {models models' : Table modelSchema}
    (hsame : SameOwned userID first ThingsModel.tenantID models models') :
    Agree userID { first with models := models }
      { second with models := models' } :=
  ⟨hagree.users, hagree.tenants, hagree.products, hsame, hagree.devices,
    hagree.credentials⟩

/-- Clearing brings no two rows into conflict. -/
theorem conflict_of_clear (clears : ThingsModel → Bool)
    {model other : ThingsModel} (hclash : modelSchema.conflict
      (if clears model then model.cleared out else model)
      (if clears other then other.cleared out else other) = true) :
    modelSchema.conflict model other = true := by
  have hsame : ∀ row : ThingsModel,
      (if clears row then row.cleared out else row).tenantID = row.tenantID ∧
      (if clears row then row.cleared out else row).productID = row.productID ∧
      (if clears row then row.cleared out else row).modelVersion =
        row.modelVersion ∧
      ((if clears row then row.cleared out else row).isCurrent = true →
        row.isCurrent = true) := by
    intro row
    cases clears row with
    | false => exact ⟨rfl, rfl, rfl, fun hcurrent => hcurrent⟩
    | true => exact ⟨rfl, rfl, rfl, fun hcurrent => nomatch hcurrent⟩
  obtain ⟨htenant, hproduct, hversion, hcurrent⟩ := hsame model
  obtain ⟨htenant', hproduct', hversion', hcurrent'⟩ := hsame other
  simp only [modelSchema, htenant, hproduct, hversion, htenant', hproduct',
    hversion', Bool.and_eq_true, Bool.or_eq_true, decide_eq_true_eq] at hclash ⊢
  exact ⟨hclash.1, hclash.2.imp_right fun hboth =>
    ⟨hcurrent hboth.1, hcurrent' hboth.2⟩⟩

/-- Both runs clear the same rows. -/
theorem twins_clearCurrentThingsModel (tenantID productID : Uuid)
    (exceptID : Option Uuid) :
    Twins (Agree userID)
      (clearCurrentThingsModel out (.actor userID) tenantID productID exceptID)
      fun _ => Agree userID := by
  apply Twins.mapError
  apply (twins_command .clear).bind
  intro _
  refine (Twins.read fun first second hagree => ?_).bind fun clears => ?_
  · funext model
    rw [hagree.owns_eq]
  refine (twins_require ?_).left.bind fun _ => twins_storeRows ?_ ?_
  · rintro first second ⟨hagree, rfl, -⟩
    rw [Bool.eq_iff_iff, List.all_eq_true, List.all_eq_true]
    apply forall_congr'
    intro model
    cases hclears : (Session.actor userID).owns first model.tenantID with
    | false => simp [hclears]
    | true =>
        have hmem := hagree.models model (owns_actor.mp hclears)
        rw [hagree.mayWriteModel_eq]
        exact imp_congr_left hmem
  · rintro first second -
    rw [Table.isSome_map? fun _ _ => conflict_of_clear clears,
      Table.isSome_map? fun _ _ => conflict_of_clear clears]
  · rintro first second models models' ⟨hagree, -⟩ hmap hmap'
    refine hagree.put_models (hagree.models.map (fun model => ?_) hmap hmap')
    cases clears model <;> rfl

theorem twins_replaceCurrent (isCurrent : Bool) (tenantID productID : Uuid)
    (exceptID : Option Uuid) :
    Twins (Agree userID)
      (replaceCurrent out (.actor userID) isCurrent tenantID productID exceptID)
      fun _ => Agree userID := by
  cases isCurrent with
  | false => exact Twins.pure fun _ _ hagree => hagree
  | true => exact twins_clearCurrentThingsModel tenantID productID exceptID

/-- Clearing keeps the ids of the models. -/
theorem replaceCurrent_keeps_fresh (session : Session) (isCurrent : Bool)
    (tenantID productID : Uuid) (exceptID : Option Uuid) (id : Uuid) :
    Transaction.Keeps
      (fun db next : Database => (∀ model ∈ db.models, model.id ≠ id) →
        ∀ model ∈ next.models, model.id ≠ id)
      (replaceCurrent out session isCurrent tenantID productID exceptID) := by
  intro db value next hok hfresh
  cases isCurrent with
  | false =>
      cases Transaction.pure_eq_ok.mp hok
      exact hfresh
  | true =>
      simp only [replaceCurrent, if_true, clearCurrentThingsModel,
        Transaction.mapError_eq_ok, Transaction.bind_eq_ok, command_eq_ok,
        Transaction.read_eq_ok, require_eq_ok, storeRows_eq_ok] at hok
      obtain ⟨_, _, ⟨-, rfl⟩, clears, _, heq, _, _, ⟨-, rfl⟩, models,
        hmap, rfl⟩ := hok
      cases heq
      intro model hmodel
      obtain ⟨old, hold, rfl⟩ := (Table.map?_eq_some hmap model).mp hmodel
      have hid := hfresh old hold
      split
      · exact hid
      · exact hid

theorem conflict_model_tenant {found model : ThingsModel}
    (hclash : modelSchema.conflict found model = true) :
    found.tenantID = model.tenantID := by
  simp only [modelSchema, Bool.and_eq_true, decide_eq_true_eq] at hclash
  exact hclash.1.1

theorem twins_insertThingsModel (input : ThingsModelCreateInput) :
    Twins (Start userID out) (insertThingsModel out (.actor userID) input)
      fun _ => Agree userID := by
  refine (twins_productBelongsToTenant (fun _ _ hstart => hstart.agree) _
    _).bind fun ok => ?_
  cases ok with
  | false => exact Twins.fail _
  | true =>
      refine (twins_uuidParam _).bind fun tenantID => Twins.of_and fun _ => ?_
      refine (twins_uuidParam _).bind fun productID => Twins.of_and fun _ => ?_
      have hcurrent : Twins (Agree userID) (replaceCurrent out (.actor userID)
          input.isCurrent tenantID productID none) fun _ => Agree userID :=
        twins_replaceCurrent _ _ _ _
      have hclear := hcurrent.and_keeps
        (replaceCurrent_keeps_fresh _ _ _ _ _ out.newID)
      refine (hclear.weaken (fun first second hstart => ⟨hstart.agree,
        hstart.fresh.models, hstart.fresh'.models⟩) fun _ _ _ hpost =>
        hpost).bind fun _ => ?_
      apply (twins_command .write).bind
      intro _
      refine (Twins.lift _).bind fun model => Twins.of_and fun hnew => ?_
      have hid := (newThingsModel_eq_ok hnew).1
      refine (twins_require fun first second hrel =>
        hrel.1.mayWriteModel_eq model).bind fun _ => ?_
      refine Twins.bind (twins_storeRows ?_ ?_ : Twins _ _ fun _ =>
        Agree userID) fun _ => Twins.pure fun _ _ hagree => hagree
      · rintro first second ⟨⟨hagree, hfresh, hfresh'⟩, hmay, -⟩
        exact hagree.models.admits_eq (mayWriteModel_actor hmay).1
          (fun _ => conflict_model_tenant)
          (fun found hmem hkey =>
            hfresh found hmem ((BitVec.eq_of_toNat_eq hkey).trans hid))
          fun found hmem hkey =>
            hfresh' found hmem ((BitVec.eq_of_toNat_eq hkey).trans hid)
      · rintro first second models models' ⟨⟨hagree, -⟩, -⟩ hinsert hinsert'
        exact hagree.put_models (hagree.models.adds
          (Table.adds_of_insert? hinsert) (Table.adds_of_insert? hinsert'))

theorem twins_updateThingsModelRow (input : ThingsModelUpdateInput) :
    Twins (Agree userID) (updateThingsModelRow out (.actor userID) input)
      fun _ => Agree userID := by
  apply (twins_command .query).bind
  intro _
  refine (twins_uuidParam _).bind fun id => Twins.of_and fun _ => ?_
  refine (twins_queryRow fun first second hagree => ?_).left.bind fun scope =>
    ?_
  · rw [model?_actor, model?_actor, hagree.ownModel?_eq]
  apply (twins_replaceCurrent _ _ _ _).bind
  intro _
  apply (twins_command .write).bind
  intro _
  refine (twins_queryRow fun first second hagree =>
    hagree.ownModel?_eq id).bind fun old => ?_
  refine (Twins.lift _).bind fun model => Twins.of_and fun hupdated => ?_
  obtain ⟨⟨hid, htenant, -⟩, -⟩ := ThingsModel.updated_eq_ok hupdated
  have hkey : modelSchema.key old = modelSchema.key model :=
    congrArg BitVec.toNat hid.symm
  refine (twins_require fun first second hrel =>
    hrel.1.mayWriteModel_eq model).bind fun _ => ?_
  refine Twins.bind (twins_storeRows ?_ ?_ : Twins _ _ fun _ => Agree userID)
    fun _ => Twins.pure fun _ _ hagree => hagree
  · rintro first second ⟨⟨hagree, hfound, -⟩, hmay, -⟩
    exact hagree.models.replace_eq (mayWriteModel_actor hmay).1
      (ownModel?_eq_some.mp hfound).1 hkey htenant.symm
      fun _ => conflict_model_tenant
  · rintro first second models models' ⟨⟨hagree, hfound, hfound'⟩, -⟩ hreplace
      hreplace'
    exact hagree.put_models (hagree.models.replaces
      (Table.replaces_of_replace? hreplace (ownModel?_eq_some.mp hfound).1
        hkey.symm)
      (Table.replaces_of_replace? hreplace' (ownModel?_eq_some.mp hfound').1
        hkey.symm))

theorem twins_deleteThingsModelRow (id : String) :
    Twins (Agree userID) (deleteThingsModelRow out (.actor userID) id)
      fun _ => Agree userID := by
  apply (twins_command .write).bind
  intro _
  refine (twins_uuidParam id).bind fun id => Twins.of_and fun _ => ?_
  refine (twins_require fun first second hagree => ?_).left.bind fun _ =>
    twins_deleteRows fun first second hagree => ?_
  · rw [hagree.ownModel?_eq]
  · exact hagree.put_models (hagree.models.delete fun model => by
      rw [hagree.owns_eq])

end ThingsModels

section Devices

variable {out : Surroundings} {userID : Uuid} {first second : Database}

theorem Agree.put_devices (hagree : Agree userID first second)
    {devices devices' : Table deviceSchema}
    (hsame : SameOwned userID first Device.tenantID devices devices') :
    Agree userID { first with devices := devices }
      { second with devices := devices' } :=
  ⟨hagree.users, hagree.tenants, hagree.products, hagree.models, hsame,
    hagree.credentials⟩

theorem Agree.put_credentials (hagree : Agree userID first second)
    {credentials credentials' : Table credentialSchema}
    (hsame : SameOwned userID first Credential.tenantID credentials
      credentials') :
    Agree userID { first with credentials := credentials }
      { second with credentials := credentials' } :=
  ⟨hagree.users, hagree.tenants, hagree.products, hagree.models, hagree.devices,
    hsame⟩

/-- No credential has the id that a call is given, or is of the device it
creates. -/
def FreshCredential (out : Surroundings) (db : Database) : Prop :=
  ∀ credential ∈ db.credentials,
    credential.id ≠ out.newCredentialID ∧ credential.deviceID ≠ out.newID

theorem twins_saveSecret {device : Device} (hid : device.id = out.newID)
    (hash : String) :
    Twins (fun first second => Agree userID first second ∧
        FreshCredential out first ∧ FreshCredential out second)
      (saveSecret out (.actor userID) device hash) fun _ => Agree userID := by
  rw [saveSecret]
  split
  · exact Twins.pure fun _ _ hrel => hrel.1
  · apply Twins.mapError
    apply (twins_command .credential).bind
    intro _
    refine (twins_require fun first second hrel => hrel.1.owns_eq _).bind
      fun _ => twins_storeRows ?_ ?_
    · rintro first second ⟨⟨hagree, hfresh, hfresh'⟩, -⟩
      rw [Table.isSome_insert?, Table.isSome_insert?]
      apply Table.admits_congr
      have hnone : ∀ db, FreshCredential out db → ∀ found,
          credentialSchema.key found =
              credentialSchema.key (activeCredential out device hash) ∨
            credentialSchema.conflict found
              (activeCredential out device hash) = true →
          found ∉ db.credentials := by
        rintro db hnew found (hkey | hclash) hmem
        · exact (hnew found hmem).1 (BitVec.eq_of_toNat_eq hkey)
        · simp only [credentialSchema, activeCredential, hid, Bool.and_eq_true,
            decide_eq_true_eq] at hclash
          exact (hnew found hmem).2 hclash.1
      intro found hclose
      exact ⟨fun hmem => absurd hmem (hnone first hfresh found hclose),
        fun hmem => absurd hmem (hnone second hfresh' found hclose)⟩
    · rintro first second credentials credentials' ⟨⟨hagree, -⟩, -⟩
        hinsert hinsert'
      exact hagree.put_credentials (hagree.credentials.adds
        (Table.adds_of_insert? hinsert) (Table.adds_of_insert? hinsert'))

theorem conflict_device_tenant {found device : Device}
    (hclash : deviceSchema.conflict found device = true) :
    found.tenantID = device.tenantID := by
  simp only [deviceSchema, Bool.and_eq_true, decide_eq_true_eq] at hclash
  exact hclash.1

theorem twins_insertDevice (input : DeviceCreateInput) :
    Twins (Start userID out) (insertDevice out (.actor userID) input)
      fun _ => Agree userID := by
  have hagree : ∀ first second, Start userID out first second →
      Agree userID first second := fun _ _ hstart => hstart.agree
  apply (twins_productBelongsToTenant hagree _ _).bind
  intro ok
  cases ok with
  | false => exact Twins.fail _
  | true =>
      apply (twins_checkGateway hagree input).bind
      intro _
      apply (twins_command .write).bind
      intro _
      refine (twins_uuidParam _).bind fun tenantID => Twins.of_and fun _ => ?_
      refine (twins_uuidParam _).bind fun productID => Twins.of_and fun _ => ?_
      apply (twins_uuidOrNull _).bind
      intro gateway
      refine (Twins.lift _).bind fun device => Twins.of_and fun hnew => ?_
      have hid := (newDevice_eq_ok hnew).1
      refine (twins_require fun first second hstart =>
        hstart.agree.owns_eq _).bind fun _ => ?_
      refine Twins.bind (twins_storeRows ?_ ?_ : Twins _ _ fun _ first second =>
        Agree userID first second ∧ FreshCredential out first ∧
          FreshCredential out second) fun _ =>
          (twins_saveSecret hid _).bind fun _ =>
          Twins.pure fun _ _ hrel => hrel
      · rintro first second ⟨hstart, howned, -⟩
        exact hstart.agree.devices.admits_eq (owns_actor.mp howned)
          (fun _ => conflict_device_tenant)
          (fun found hmem hkey => hstart.fresh.devices found hmem
            ((BitVec.eq_of_toNat_eq hkey).trans hid))
          fun found hmem hkey => hstart.fresh'.devices found hmem
            ((BitVec.eq_of_toNat_eq hkey).trans hid)
      · rintro first second devices devices' ⟨hstart, -⟩ hinsert hinsert'
        exact ⟨hstart.agree.put_devices (hstart.agree.devices.adds
          (Table.adds_of_insert? hinsert) (Table.adds_of_insert? hinsert')),
          hstart.fresh.credentials, hstart.fresh'.credentials⟩

theorem twins_updateDeviceRow (input : DeviceUpdateInput) :
    Twins (Agree userID) (updateDeviceRow out (.actor userID) input)
      fun _ => Agree userID := by
  refine (twins_checkNewGateway (fun _ _ hagree => hagree) input).bind fun _ =>
    ?_
  apply (twins_command .write).bind
  intro _
  refine (twins_uuidParam _).bind fun id => Twins.of_and fun _ => ?_
  apply (twins_uuidOrNull _).bind
  intro gateway
  refine (twins_queryRow fun first second hagree =>
    hagree.ownDevice?_eq id).bind fun old => ?_
  refine (Twins.lift _).bind fun device => Twins.of_and fun hupdated => ?_
  obtain ⟨⟨hid, htenant, -, hslug⟩, -⟩ := Device.updated_eq_ok hupdated
  have hkey : deviceSchema.key old = deviceSchema.key device :=
    congrArg BitVec.toNat hid.symm
  have hsome : ∀ db, (Session.actor userID).ownDevice? id db = some old →
      (db.devices.replace? device).isSome = true := fun db hfound =>
    Table.isSome_replace?_of_conflict (ownDevice?_eq_some.mp hfound).1 hkey
      fun found => by simp only [deviceSchema, htenant, hslug]
  refine Twins.bind (twins_storeRows ?_ ?_ : Twins _ _ fun _ => Agree userID)
    fun _ => Twins.pure fun _ _ hagree => hagree
  · rintro first second ⟨-, hfound, hfound'⟩
    rw [hsome first hfound, hsome second hfound']
  · rintro first second devices devices' ⟨hagree, hfound, hfound'⟩
      hreplace hreplace'
    exact hagree.put_devices (hagree.devices.replaces
      (Table.replaces_of_replace? hreplace (ownDevice?_eq_some.mp hfound).1
        hkey.symm)
      (Table.replaces_of_replace? hreplace' (ownDevice?_eq_some.mp hfound').1
        hkey.symm))

theorem twins_deleteDeviceRow (id : String) :
    Twins (Agree userID) (deleteDeviceRow out (.actor userID) id)
      fun _ => Agree userID := by
  refine (twins_deviceHasSubDevices (fun _ _ hagree => hagree) id).bind
    fun inUse => ?_
  cases inUse with
  | true => exact Twins.fail _
  | false =>
      apply (twins_command .write).bind
      intro _
      refine (twins_uuidParam id).bind fun id => Twins.of_and fun _ => ?_
      refine (twins_require fun first second hagree => ?_).left.bind fun _ =>
        twins_deleteRows fun first second hagree => ?_
      · rw [hagree.ownDevice?_eq]
      · exact hagree.put_devices (hagree.devices.delete fun device => by
          rw [hagree.owns_eq])

end Devices

end Registry

end LinkFlow
