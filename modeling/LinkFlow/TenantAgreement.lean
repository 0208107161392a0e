/-
Two registries that agree on what one user owns.  A query of the user's sessions
finds the same rows in both.
-/
import LinkFlow.DeviceViews
import LinkFlow.RegistryWrites

namespace LinkFlow

namespace Registry

section Agreement

variable {R : Type} {schema : TableSchema R ℕ}

/-- The two tables have the same rows of the tenants a user owns. -/
def SameOwned (userID : Uuid) (db : Database) (tenantOf : R → Uuid)
    (table table' : Table schema) : Prop :=
  ∀ row, Owned userID db (tenantOf row) → (row ∈ table ↔ row ∈ table')

/-- The two registries have the same tenants of a user, and the same products,
models, devices and credentials of these tenants. -/
structure Agree (userID : Uuid) (first second : Database) : Prop where
  users : userID ∈ first.users ↔ userID ∈ second.users
  tenants : ∀ tenant : Tenant, tenant.ownerUserID = userID →
    (tenant ∈ first.tenants ↔ tenant ∈ second.tenants)
  products : SameOwned userID first Product.tenantID first.products
      second.products
  models : SameOwned userID first ThingsModel.tenantID first.models
      second.models
  devices : SameOwned userID first Device.tenantID first.devices second.devices
  credentials : SameOwned userID first Credential.tenantID first.credentials
    second.credentials

variable {userID : Uuid} {first second : Database}

theorem Agree.refl (db : Database) : Agree userID db db :=
  ⟨Iff.rfl, fun _ _ => Iff.rfl, fun _ _ => Iff.rfl, fun _ _ => Iff.rfl,
    fun _ _ => Iff.rfl, fun _ _ => Iff.rfl⟩

theorem Agree.owned_iff (hagree : Agree userID first second) {tenantID : Uuid} :
    Owned userID first tenantID ↔ Owned userID second tenantID := by
  constructor
  · rintro ⟨tenant, hmem, hid, howner⟩
    exact ⟨tenant, (hagree.tenants tenant howner).mp hmem, hid, howner⟩
  · rintro ⟨tenant, hmem, hid, howner⟩
    exact ⟨tenant, (hagree.tenants tenant howner).mpr hmem, hid, howner⟩

theorem Agree.owns_eq (hagree : Agree userID first second) (tenantID : Uuid) :
    (Session.actor userID).owns first tenantID =
      (Session.actor userID).owns second tenantID := by
  rw [Bool.eq_iff_iff, owns_actor, owns_actor]
  exact hagree.owned_iff

/-- A condition on the rows the user owns holds of the same rows. -/
theorem SameOwned.where_iff {tenantOf : R → Uuid} {table table' : Table schema}
    (hsame : SameOwned userID first tenantOf table table')
    (hagree : Agree userID first second) (keep : R → Bool) (row : R) :
    row ∈ table ∧ ((Session.actor userID).owns first (tenantOf row) &&
        keep row) = true ↔
      row ∈ table' ∧ ((Session.actor userID).owns second (tenantOf row) &&
        keep row) = true := by
  rw [← hagree.owns_eq, Bool.and_eq_true, owns_actor]
  constructor
  · rintro ⟨hmem, howned, hkeep⟩
    exact ⟨(hsame row howned).mp hmem, howned, hkeep⟩
  · rintro ⟨hmem, howned, hkeep⟩
    exact ⟨(hsame row howned).mpr hmem, howned, hkeep⟩

end Agreement

section Queries

variable {userID : Uuid} {first second : Database}
  (hagree : Agree userID first second)
include hagree

theorem Agree.tenants_where (keep : Tenant → Bool) (tenant : Tenant) :
    tenant ∈ first.tenants ∧ ((Session.actor userID).ownsRow tenant &&
        keep tenant) = true ↔
      tenant ∈ second.tenants ∧ ((Session.actor userID).ownsRow tenant &&
        keep tenant) = true := by
  rw [Bool.and_eq_true, ownsRow_actor]
  constructor
  · rintro ⟨hmem, howner, hkeep⟩
    exact ⟨(hagree.tenants tenant howner).mp hmem, howner, hkeep⟩
  · rintro ⟨hmem, howner, hkeep⟩
    exact ⟨(hagree.tenants tenant howner).mpr hmem, howner, hkeep⟩

theorem Agree.tenants_filter (keep : Tenant → Bool) :
    (first.tenants.rows.filter fun tenant =>
        (Session.actor userID).ownsRow tenant && keep tenant) =
      second.tenants.rows.filter fun tenant =>
        (Session.actor userID).ownsRow tenant && keep tenant :=
  Table.filter_congr (hagree.tenants_where keep)

theorem Agree.ownTenant?_eq (id : Uuid) :
    (Session.actor userID).ownTenant? id first =
      (Session.actor userID).ownTenant? id second :=
  Table.find?_congr (hagree.tenants_where fun tenant => tenant.id = id)

theorem Agree.ownProduct?_eq (id : Uuid) :
    (Session.actor userID).ownProduct? id first =
      (Session.actor userID).ownProduct? id second :=
  Table.find?_congr
    (hagree.products.where_iff hagree fun product => product.id = id)

theorem Agree.ownModel?_eq (id : Uuid) :
    (Session.actor userID).ownModel? id first =
      (Session.actor userID).ownModel? id second :=
  Table.find?_congr (hagree.models.where_iff hagree fun model => model.id = id)

theorem Agree.ownDevice?_eq (id : Uuid) :
    (Session.actor userID).ownDevice? id first =
      (Session.actor userID).ownDevice? id second :=
  Table.find?_congr (hagree.devices.where_iff hagree fun device =>
    device.id = id)

/-- The product a query names by its id and its tenant. -/
theorem Agree.productIn_where (id tenantID : Uuid) (product : Product) :
    product ∈ first.products ∧
    ((Session.actor userID).seesProduct first product &&
        product.id = id && product.tenantID = tenantID) = true ↔
      product ∈ second.products ∧
        ((Session.actor userID).seesProduct second product &&
        product.id = id && product.tenantID = tenantID) = true := by
  simp only [seesProduct_actor, Bool.and_assoc]
  exact hagree.products.where_iff hagree
    (fun product => product.id = id && product.tenantID = tenantID) product

theorem Agree.mayWriteModel_eq (model : ThingsModel) :
    (Session.actor userID).mayWriteModel first model =
      (Session.actor userID).mayWriteModel second model := by
  unfold Session.mayWriteModel
  rw [hagree.owns_eq, Table.any_congr (hagree.productIn_where _ _)]

/-- The devices of a condition. -/
theorem Agree.devices_where (keep : Device → Bool) (device : Device) :
    device ∈ first.devices ∧ ((Session.actor userID).seesDevice first device &&
        keep device) = true ↔
      device ∈ second.devices ∧
        ((Session.actor userID).seesDevice second device &&
        keep device) = true := by
  simp only [seesDevice_actor]
  exact hagree.devices.where_iff hagree keep device

theorem Agree.device?_eq (id : Uuid) :
    (Session.actor userID).device? id first =
      (Session.actor userID).device? id second :=
  Table.find?_congr (hagree.devices_where fun device => device.id = id)

theorem Agree.scope?_eq (id : Uuid) :
    (Session.actor userID).scope? id first =
      (Session.actor userID).scope? id second := by
  rw [Session.scope?]
  rw [hagree.device?_eq]
  refine congrArg _ (funext fun device => ?_)
  rw [Table.find?_congr (hagree.productIn_where _ _)]

theorem Agree.deviceTarget?_eq (definitions : ThingsModel → GoMap Json)
    (id : Uuid) :
    (Session.actor userID).deviceTarget? definitions id first =
      (Session.actor userID).deviceTarget? definitions id second := by
  have hmodel : ∀ device : Device,
      (first.models.rows.find? fun model =>
        (Session.actor userID).seesModel first model &&
          model.tenantID = device.tenantID &&
          model.productID = device.productID && model.isCurrent) =
      second.models.rows.find? fun model =>
        (Session.actor userID).seesModel second model &&
          model.tenantID = device.tenantID &&
          model.productID = device.productID && model.isCurrent := by
    intro device
    simp only [seesModel_actor, Bool.and_assoc]
    exact Table.find?_congr (hagree.models.where_iff hagree fun model =>
      model.tenantID = device.tenantID &&
        (model.productID = device.productID && model.isCurrent))
  unfold Session.deviceTarget?
  rw [hagree.device?_eq]
  cases (Session.actor userID).device? id second with
  | none => rfl
  | some device =>
      simp only [tenant?_actor, hagree.ownTenant?_eq, hmodel,
        Table.find?_congr (hagree.productIn_where device.productID
          device.tenantID)]

/-- The check of a gateway looks for a pair of the user's devices. -/
theorem Agree.gatewayPair_eq (id gatewayID : Uuid) :
    (first.devices.rows.any fun device => first.devices.rows.any fun gateway =>
        (Session.actor userID).seesDevice first device &&
          (Session.actor userID).seesDevice first gateway &&
          gateway.tenantID = device.tenantID && device.id = id &&
          gateway.id = gatewayID) =
      second.devices.rows.any fun device =>
        second.devices.rows.any fun gateway =>
        (Session.actor userID).seesDevice second device &&
          (Session.actor userID).seesDevice second gateway &&
          gateway.tenantID = device.tenantID && device.id = id &&
          gateway.id = gatewayID := by
  have hinner : ∀ device : Device,
      (first.devices.rows.any fun gateway =>
        (Session.actor userID).seesDevice first gateway &&
          (gateway.tenantID = device.tenantID && gateway.id = gatewayID)) =
      second.devices.rows.any fun gateway =>
        (Session.actor userID).seesDevice second gateway &&
          (gateway.tenantID = device.tenantID && gateway.id = gatewayID) :=
    fun device => Table.any_congr (hagree.devices_where fun gateway =>
      gateway.tenantID = device.tenantID && gateway.id = gatewayID)
  have houter : ∀ db : Database,
      (db.devices.rows.any fun device => db.devices.rows.any fun gateway =>
        (Session.actor userID).seesDevice db device &&
          (Session.actor userID).seesDevice db gateway &&
          gateway.tenantID = device.tenantID && device.id = id &&
          gateway.id = gatewayID) =
      db.devices.rows.any fun device =>
        (Session.actor userID).seesDevice db device &&
          (device.id = id && db.devices.rows.any fun gateway =>
            (Session.actor userID).seesDevice db gateway &&
              (gateway.tenantID = device.tenantID &&
                gateway.id = gatewayID)) := by
    intro db
    refine congrArg _ (funext fun device => ?_)
    rw [Bool.eq_iff_iff]
    simp only [List.any_eq_true, Bool.and_eq_true]
    constructor
    · rintro ⟨gateway, hmem, ⟨⟨⟨hdevice, hgateway⟩, htenant⟩, hid⟩, hkey⟩
      exact ⟨hdevice, hid, gateway, hmem, hgateway, htenant, hkey⟩
    · rintro ⟨hdevice, hid, gateway, hmem, hgateway, htenant, hkey⟩
      exact ⟨gateway, hmem, ⟨⟨⟨hdevice, hgateway⟩, htenant⟩, hid⟩, hkey⟩
  rw [houter first, houter second]
  simp only [hinner]
  exact Table.any_congr (hagree.devices_where fun device =>
    device.id = id && second.devices.rows.any fun gateway =>
      (Session.actor userID).seesDevice second gateway &&
        (gateway.tenantID = device.tenantID && gateway.id = gatewayID))

end Queries

section Changes

variable {R : Type} {schema : TableSchema R ℕ} {userID : Uuid}
  {first second : Database} {tenantOf : R → Uuid}
  {table table' next next' : Table schema} {row old : R}

theorem SameOwned.adds (hsame : SameOwned userID first tenantOf table table')
    (hadds : table.Adds row next) (hadds' : table'.Adds row next') :
    SameOwned userID first tenantOf next next' := by
  intro other howned
  rw [hadds.2, hadds'.2, hsame other howned]

theorem SameOwned.replaces
    (hsame : SameOwned userID first tenantOf table table')
    (hreplaces : table.Replaces old row next)
    (hreplaces' : table'.Replaces old row next') :
    SameOwned userID first tenantOf next next' := by
  intro other howned
  rw [hreplaces.2.2, hreplaces'.2.2, hsame other howned]

theorem SameOwned.delete (hsame : SameOwned userID first tenantOf table table')
    {where_ where' : R → Bool} (hwhere : ∀ row, where_ row = where' row) :
    SameOwned userID first tenantOf (table.delete where_)
      (table'.delete where') := by
  intro other howned
  rw [Table.mem_delete, Table.mem_delete, hsame other howned, hwhere]

theorem SameOwned.map (hsame : SameOwned userID first tenantOf table table')
    {f : R → R} {hkey : ∀ row, schema.key (f row) = schema.key row}
    (htenant : ∀ row, tenantOf (f row) = tenantOf row)
    (hmap : table.map? f hkey = some next)
    (hmap' : table'.map? f hkey = some next') :
    SameOwned userID first tenantOf next next' := by
  intro other howned
  rw [Table.map?_eq_some hmap, Table.map?_eq_some hmap']
  apply exists_congr
  intro old
  constructor
  · rintro ⟨hmem, rfl⟩
    exact ⟨(hsame old (htenant old ▸ howned)).mp hmem, rfl⟩
  · rintro ⟨hmem, rfl⟩
    exact ⟨(hsame old (htenant old ▸ howned)).mpr hmem, rfl⟩

/-- A new row is admitted by both tables or by neither. -/
theorem SameOwned.admits_eq
    (hsame : SameOwned userID first tenantOf table table')
    (howned : Owned userID first (tenantOf row))
    (hconflict : ∀ found, schema.conflict found row = true →
      tenantOf found = tenantOf row)
    (hfresh : ∀ found ∈ table, schema.key found ≠ schema.key row)
    (hfresh' : ∀ found ∈ table', schema.key found ≠ schema.key row) :
    (table.insert? row).isSome = (table'.insert? row).isSome := by
  rw [Table.isSome_insert?, Table.isSome_insert?]
  apply Table.admits_congr
  rintro found (hkey | hclash)
  · exact ⟨fun hmem => absurd hkey (hfresh found hmem),
      fun hmem => absurd hkey (hfresh' found hmem)⟩
  · exact hsame found (hconflict found hclash ▸ howned)

/-- A row can be put in the place of one of the user's in both tables or in
neither. -/
theorem SameOwned.replace_eq
    (hsame : SameOwned userID first tenantOf table table')
    (howned : Owned userID first (tenantOf row)) (hold : old ∈ table)
    (hkey : schema.key old = schema.key row)
    (htenant : tenantOf old = tenantOf row)
    (hconflict : ∀ found, schema.conflict found row = true →
      tenantOf found = tenantOf row) :
    (table.replace? row).isSome = (table'.replace? row).isSome :=
  Table.isSome_replace?_congr hold ((hsame old (htenant ▸ howned)).mp hold) hkey
    fun found hclash => hsame found (hconflict found hclash ▸ howned)

/-- No row names this tenant. -/
structure Unused (tenantID : Uuid) (db : Database) : Prop where
  products : ∀ product ∈ db.products, product.tenantID ≠ tenantID
  models : ∀ model ∈ db.models, model.tenantID ≠ tenantID
  devices : ∀ device ∈ db.devices, device.tenantID ≠ tenantID
  credentials : ∀ credential ∈ db.credentials, credential.tenantID ≠ tenantID

/-- The rows of a tenant that came to be owned are the same, if there were
none. -/
theorem SameOwned.of_tenants
    (hsame : SameOwned userID first tenantOf table table')
    {tenants : Table tenantSchema}
    (hold : ∀ tenant ∈ tenants, tenant.ownerUserID = userID →
      Owned userID first tenant.id ∨
        (∀ row ∈ table, tenantOf row ≠ tenant.id) ∧
          ∀ row ∈ table', tenantOf row ≠ tenant.id) :
    SameOwned userID { first with tenants := tenants } tenantOf
      table table' := by
  rintro row ⟨tenant, hmem, hid, howner⟩
  rcases hold tenant hmem howner with howned | ⟨hnone, hnone'⟩
  · exact hsame row (hid ▸ howned)
  · exact ⟨fun hrow => absurd hid.symm (hnone row hrow),
      fun hrow => absurd hid.symm (hnone' row hrow)⟩

theorem Agree.put_tenants (hagree : Agree userID first second)
    {tenants tenants' : Table tenantSchema}
    (hsame : ∀ tenant : Tenant, tenant.ownerUserID = userID →
      (tenant ∈ tenants ↔ tenant ∈ tenants'))
    (hold : ∀ tenant ∈ tenants, tenant.ownerUserID = userID →
      Owned userID first tenant.id ∨
        Unused tenant.id first ∧ Unused tenant.id second) :
    Agree userID { first with tenants := tenants }
      { second with tenants := tenants' } where
  users := hagree.users
  tenants := hsame
  products := hagree.products.of_tenants fun tenant hmem howner =>
    (hold tenant hmem howner).imp_right fun hunused =>
      ⟨hunused.1.products, hunused.2.products⟩
  models := hagree.models.of_tenants fun tenant hmem howner =>
    (hold tenant hmem howner).imp_right fun hunused =>
      ⟨hunused.1.models, hunused.2.models⟩
  devices := hagree.devices.of_tenants fun tenant hmem howner =>
    (hold tenant hmem howner).imp_right fun hunused =>
      ⟨hunused.1.devices, hunused.2.devices⟩
  credentials := hagree.credentials.of_tenants fun tenant hmem howner =>
    (hold tenant hmem howner).imp_right fun hunused =>
      ⟨hunused.1.credentials, hunused.2.credentials⟩

end Changes

end Registry

end LinkFlow
