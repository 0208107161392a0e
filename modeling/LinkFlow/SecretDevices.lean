/-
The devices of secret products: each has one active credential, of the secret
its creation returned, as long as no product is switched to secrets while one of
its devices has no credential.
-/
import LinkFlow.MQTTSoundness

namespace LinkFlow

namespace Registry

section Secrets

open DeviceService

theorem base64Char_tail {digit : Nat} (hdigit : digit < 64) :
    deviceSlugPattern.tail (base64Char digit) = true := by
  have hall : ∀ digit < 64,
      deviceSlugPattern.tail (base64Char digit) = true := by
    decide +kernel
  exact hall digit hdigit

theorem base64Digits_tail (width number : Nat) :
    ∀ char ∈ base64Digits width number, deviceSlugPattern.tail char = true := by
  induction width with
  | zero => simp [base64Digits]
  | succ width ih =>
      intro char hchar
      rcases List.mem_cons.mp hchar with rfl | hrest
      · exact base64Char_tail (Nat.mod_lt _ (by decide))
      · exact ih char hrest

/-- A generated secret has no space to trim. -/
theorem trimSpace_generateSecret (bytes : BitVec 256) :
    trimSpace (generateSecret bytes) = generateSecret bytes := by
  apply trimSpace_eq_self
  intro char hchar
  rw [generateSecret, String.toList_ofList] at hchar
  exact (deviceSlugPattern_tail (base64Digits_tail _ _ char hchar)).2

theorem generateSecret_ne_empty (bytes : BitVec 256) :
    generateSecret bytes ≠ "" := by
  intro hempty
  have hlist := congrArg String.toList hempty
  rw [generateSecret, String.toList_ofList] at hlist
  cases hlist

theorem compareSecret_generate (bcrypt : Bcrypt) (salt : Nat)
    (bytes : BitVec 256) :
    compareSecret bcrypt
      (bcrypt.generateFromPassword salt (generateSecret bytes))
      (generateSecret bytes) = true := by
  simp [compareSecret, bcrypt.generate_ne_empty, generateSecret_ne_empty,
    bcrypt.compare_generate]

end Secrets

section Provisioning

/-- The registry, and the secret that was last returned for a device id. -/
structure Provisioning where
  db : Database
  handed : Uuid → Option String

variable (casing : Casing) (bcrypt : Bcrypt)

/-- Keep the secret of a successful creation. -/
def remember (handed : Uuid → Option String)
    (result : Except Failure DeviceCalls.DeviceCreateResult) :
    Uuid → Option String :=
  match result with
  | .ok created =>
      if created.deviceSecret = "" then handed
      else Function.update handed created.device.id (some created.deviceSecret)
  | .error _ => handed

/-- One call, and the secret it returned. -/
def Provisioning.serve (state : Provisioning) (request : Request) :
    Provisioning where
  db := Registry.serve casing bcrypt state.db request
  handed :=
    match request with
    | .createDevice lookup out source input =>
        remember state.handed
          (DeviceCalls.create casing bcrypt lookup out source input state.db).1
    | _ => state.handed

def provisioning : Transition.System Provisioning Request where
  init state :=
    (system casing bcrypt).init state.db ∧ ∀ id, state.handed id = none
  step state request := some (state.serve casing bcrypt request)

/-- A call sets a product to secrets only when each of its devices has an active
credential. -/
def KeepsSecrets (state : Provisioning) (request : Request) : Prop :=
  ∀ id, request.call.authType = some (id, .secret) →
    ∀ device ∈ state.db.devices, device.productID = id →
      ∃ credential, ActiveCredential state.db device credential

/-- Active credentials are of the secrets that were returned, and the devices of
secret products have one. -/
structure Provisioned (bcrypt : Bcrypt) (state : Provisioning) : Prop where
  deviceProduct : state.db.devices.References
    (ofProduct Device.productID Device.tenantID) state.db.products
  handed : ∀ credential ∈ state.db.credentials, credential.status = .active →
    ∃ bytes, state.handed credential.deviceID = some (generateSecret bytes) ∧
      compareSecret bcrypt credential.secretHash (generateSecret bytes) = true
  credential : ∀ device ∈ state.db.devices, ∀ product ∈ state.db.products,
    product.id = device.productID → product.authType = .secret →
      ∃ credential, ActiveCredential state.db device credential

end Provisioning

section Steps

variable {casing : Casing} {bcrypt : Bcrypt} {state : Provisioning}

/-- A device keeps its credential while the credentials stay. -/
theorem ActiveCredential.of_credentials {db next : Database}
    {device kept : Device} {credential : Credential}
    (hactive : ActiveCredential db device credential)
    (hcredentials : ∀ credential ∈ db.credentials,
      credential ∈ next.credentials)
    (hid : kept.id = device.id) (hin : kept.tenantID = device.tenantID) :
    ActiveCredential next kept credential :=
  ⟨hcredentials _ hactive.1, hactive.2.1.trans hin.symm,
    hactive.2.2.1.trans hid.symm, hactive.2.2.2⟩

/-- A call that registers no device. -/
theorem Provisioned.wrote {call : Call} {next : Database}
    (hprov : Provisioned bcrypt state)
    (hwrote : Wrote bcrypt call state.db next) (hnew : call.registers = false)
    (hguard : ∀ id, call.authType = some (id, .secret) →
      ∀ device ∈ state.db.devices, device.productID = id →
        ∃ credential, ActiveCredential state.db device credential) :
    Provisioned bcrypt ⟨next, state.handed⟩ := by
  have hdevices := deviceProduct_wrote hprov.deviceProduct hwrote
  cases hwrote with
  | nothing => exact ⟨hdevices, hprov.handed, hprov.credential⟩
  | tenantCreated hid howner huser hadds =>
      exact ⟨hdevices, hprov.handed, hprov.credential⟩
  | tenantUpdated howner hsame hreplaces =>
      exact ⟨hdevices, hprov.handed, hprov.credential⟩
  | tenantDeleted hdeletes howner hremoves =>
      exact ⟨hdevices, hprov.handed, hprov.credential⟩
  | @productCreated product products hid howned hadds =>
      refine ⟨hdevices, hprov.handed, ?_⟩
      intro device hdevice other hother hof hauth
      rcases (hadds.2 other).mp hother with rfl | hold
      · -- no device has the id of a product that was not there
        obtain ⟨found, hfound, hlink, -⟩ := hprov.deviceProduct device hdevice
        exact absurd (congrArg BitVec.toNat (hlink.trans hof.symm))
          (hadds.fresh hfound).1
      · exact hprov.credential device hdevice other hold hof hauth
  | @productUpdated old product products howned hsame hauthType hreplaces =>
      refine ⟨hdevices, hprov.handed, ?_⟩
      intro device hdevice other hother hof hauth
      rcases (hreplaces.2.2 other).mp hother with rfl | ⟨hold, -⟩
      · rw [hauth] at hauthType
        exact hguard old.id hauthType device hdevice (hof.symm.trans hsame.1)
      · exact hprov.credential device hdevice other hold hof hauth
  | productDeleted hdeletes howned hunused hremoves =>
      refine ⟨hdevices, hprov.handed, ?_⟩
      intro device hdevice other hother hof hauth
      exact hprov.credential device hdevice other
        ((hremoves.2 other).mp hother).1 hof hauth
  | modelCreated hid howned hproduct hcleared hpublished hadds =>
      exact ⟨hdevices, hprov.handed, hprov.credential⟩
  | modelUpdated howned hproduct hsame hcleared hpublished hreplaces =>
      exact ⟨hdevices, hprov.handed, hprov.credential⟩
  | modelDeleted hdeletes howned hremoves =>
      exact ⟨hdevices, hprov.handed, hprov.credential⟩
  | deviceCreated hregisters =>
      rw [hnew] at hregisters
      cases hregisters
  | @deviceUpdated old device devices howned hsame hgateway hreplaces =>
      refine ⟨hdevices, hprov.handed, ?_⟩
      intro other hother product hproduct hof hauth
      rcases (hreplaces.2.2 other).mp hother with rfl | ⟨hold, -⟩
      · obtain ⟨credential, hactive⟩ := hprov.credential old hreplaces.1 product
          hproduct (hof.trans hsame.2.2.1) hauth
        exact ⟨credential, hactive.of_credentials (fun _ hmem => hmem)
          hsame.1 hsame.2.1⟩
      · exact hprov.credential other hold product hproduct hof hauth
  | deviceDeleted hdeletes howned hunused hremoves =>
      refine ⟨hdevices, hprov.handed, ?_⟩
      intro other hother product hproduct hof hauth
      exact hprov.credential other ((hremoves.2 other).mp hother).1 product
        hproduct hof hauth

/-- A device that is created for a secret product gets the credential of its
secret, and none of an anonymous product gets one. -/
theorem Provisioned.created (hprov : Provisioned bcrypt state)
    {lookup out : Surroundings} {source : SecretSource}
    {input : DeviceCreateInput} :
    Provisioned bcrypt
      (state.serve casing bcrypt (.createDevice lookup out source input)) := by
  rcases @create_cases casing bcrypt ⟨out, input.userID, .nothing, none, true⟩
      state.db lookup source input rfl with ⟨err, hcall⟩ |
    ⟨device, secret, hash, devices, credentials, hcall, ⟨hid, -⟩, -, hproduct,
      -, hadds, hcredential⟩
  · simp only [Provisioning.serve, serve, hcall, remember]
    exact ⟨hprov.deviceProduct, hprov.handed, hprov.credential⟩
  · simp only [Provisioning.serve, serve, hcall, remember]
    obtain ⟨product, hmem, hof, hin, hkind⟩ := hproduct
    have hdevices := hprov.deviceProduct.adds hadds hmem ⟨hof, hin⟩
    have honly : ∀ other ∈ state.db.products, other.id = device.productID →
        other = product := fun other hother hlink =>
      Table.eq_of_key hother hmem (congrArg BitVec.toNat (hlink.trans hof.symm))
    rcases hkind with ⟨hauth, rfl, rfl⟩ | ⟨hauth, salt, bytes, rfl, rfl⟩
    · rw [if_pos rfl] at hcredential ⊢
      refine ⟨hdevices, ?_, ?_⟩
      · rw [hcredential]
        exact hprov.handed
      · intro other hother found hfound hlink hsecret
        rcases (hadds.2 other).mp hother with rfl | hold
        · rw [honly found hfound hlink, hauth] at hsecret
          cases hsecret
        · obtain ⟨credential, hactive⟩ :=
            hprov.credential other hold found hfound hlink hsecret
          refine ⟨credential, hactive.of_credentials (fun _ hmem => ?_) rfl rfl⟩
          rw [hcredential]
          exact hmem
    · rw [if_neg (bcrypt.generate_ne_empty _ _)] at hcredential
      rw [if_neg (generateSecret_ne_empty bytes)]
      have hkept : ∀ credential ∈ state.db.credentials,
          credential ∈ credentials := fun credential hold =>
        (hcredential.2 credential).mpr (Or.inr hold)
      refine ⟨hdevices, ?_, ?_⟩
      · intro credential hmem hactive
        rcases (hcredential.2 credential).mp hmem with rfl | hold
        · exact ⟨bytes, Function.update_self _ _ _,
            compareSecret_generate bcrypt salt bytes⟩
        · -- an older active credential is another device's
          have hother : credential.deviceID ≠ device.id := by
            intro heq
            have hclear := (hcredential.fresh hold).2
            simp [credentialSchema, activeCredential, heq, hactive] at hclear
          obtain ⟨old, hhanded, hcompare⟩ :=
            hprov.handed credential hold hactive
          exact ⟨old, (Function.update_of_ne hother _ _).trans hhanded,
            hcompare⟩
      · intro other hother found hfound hlink hsecret
        rcases (hadds.2 other).mp hother with rfl | hold
        · exact ⟨_, (hcredential.2 _).mpr (Or.inl rfl), rfl, rfl, rfl⟩
        · obtain ⟨credential, hactive⟩ :=
            hprov.credential other hold found hfound hlink hsecret
          exact ⟨credential, hactive.of_credentials hkept rfl rfl⟩

theorem Provisioned.step (hprov : Provisioned bcrypt state) {request : Request}
    (hguard : KeepsSecrets state request) :
    Provisioned bcrypt (state.serve casing bcrypt request) := by
  have hwrote := @serve_wrote casing bcrypt state.db request
  cases request with
  | createDevice lookup out source input => exact hprov.created
  | createTenant out input => exact hprov.wrote hwrote rfl hguard
  | updateTenant out input => exact hprov.wrote hwrote rfl hguard
  | deleteTenant out input => exact hprov.wrote hwrote rfl hguard
  | createProduct out input => exact hprov.wrote hwrote rfl hguard
  | updateProduct out input => exact hprov.wrote hwrote rfl hguard
  | deleteProduct out input => exact hprov.wrote hwrote rfl hguard
  | createThingsModel out input => exact hprov.wrote hwrote rfl hguard
  | updateThingsModel out input => exact hprov.wrote hwrote rfl hguard
  | deleteThingsModel out input => exact hprov.wrote hwrote rfl hguard
  | updateDevice out input => exact hprov.wrote hwrote rfl hguard
  | deleteDevice out input => exact hprov.wrote hwrote rfl hguard

end Steps

section Runs

variable {casing : Casing} {bcrypt : Bcrypt} {state : Provisioning}

theorem provisioned_of_reachable
    (hreach : (provisioning casing bcrypt).ReachableVia KeepsSecrets state) :
    Provisioned bcrypt state := by
  apply hreach.invariant
  · rintro start ⟨⟨-, -, -, hdevices, hcredentials⟩, -⟩
    exact
      { deviceProduct := fun device hmem => absurd hmem (hdevices device)
        handed := fun credential hmem => absurd hmem (hcredentials credential)
        credential := fun device hmem => absurd hmem (hdevices device) }
  · intro current request next hcurrent hguard hstep
    cases hstep
    exact hcurrent.step hguard

/-- Along every run whose calls set a product to secrets only when each of its
devices has an active credential, a device of a secret product has exactly one,
its hash compares with the secret that was returned for the device, and while
tenant, product and device are active that secret lets the device in. -/
theorem secret_devices_provisioned
    (hreach : (provisioning casing bcrypt).ReachableVia KeepsSecrets state)
    {device : Device} (hdevice : device ∈ state.db.devices) {product : Product}
    (hproduct : product ∈ state.db.products)
    (hof : product.id = device.productID) (hauth : product.authType = .secret) :
    ∃ credential secret,
      (ActiveCredential state.db device credential ∧
        ∀ other ∈ state.db.credentials, other.deviceID = device.id →
          other.status = .active → other = credential) ∧
      state.handed device.id = some secret ∧
      compareSecret bcrypt credential.secretHash secret = true ∧
      ∀ tenant ∈ state.db.tenants, tenant.id = device.tenantID →
        tenant.status = .active → product.status = .active →
        device.status = .active → ∀ out : Surroundings, out.Answers →
        ∀ key, key = "" ∨ key = product.productKey →
          mqttAuthenticate casing bcrypt out
              ⟨tenant.tenantSlug, key, device.deviceSlug, secret⟩ state.db =
            .ok (attributesOf tenant product device) := by
  have hprov := provisioned_of_reachable hreach
  obtain ⟨credential, hactive⟩ :=
    hprov.credential device hdevice product hproduct hof hauth
  obtain ⟨bytes, hhanded, hcompare⟩ :=
    hprov.handed credential hactive.1 hactive.2.2.2
  rw [hactive.2.2.1] at hhanded
  refine ⟨credential, generateSecret bytes, ⟨hactive, ?_⟩, hhanded,
    hcompare, ?_⟩
  · intro other hother hlink hstatus
    apply Table.eq_of_conflict hother hactive.1
    simp [credentialSchema, hlink, hstatus, hactive.2.2]
  · intro tenant htenant hin hlive hlive' hlive'' out hanswers key hkey
    apply mqttAuthenticate_complete hanswers
      (joined_stored casing hdevice ⟨htenant, hin⟩ ⟨hproduct, hof⟩
        hprov.deviceProduct hkey _)
    rw [trimSpace_generateSecret]
    exact ⟨hlive, hlive', hlive'',
      Or.inr ⟨hauth, credential, hactive, hcompare⟩⟩

end Runs

section Sample

/-- Switch the sample product to secrets. -/
def secretLamp : Request :=
  .updateProduct (calmCall 8)
    ⟨7, "00000000-0000-0000-0000-000000000002", "Lamp", "", "",
      "secret", "", ""⟩

def provisioningAfter (requests : List Request) : Provisioning :=
  requests.foldl (Provisioning.serve asciiCasing plainBcrypt)
    ⟨emptyRegistry, fun _ => none⟩

theorem provisioning_start :
    (provisioning asciiCasing plainBcrypt).init
      ⟨emptyRegistry, fun _ => none⟩ :=
  ⟨⟨Table.not_mem_empty, Table.not_mem_empty, Table.not_mem_empty,
    Table.not_mem_empty, Table.not_mem_empty⟩, fun _ => rfl⟩

theorem run_provisioning (requests : List Request) :
    (provisioning asciiCasing plainBcrypt).run ⟨emptyRegistry, fun _ => none⟩
      requests = some (provisioningAfter requests) := by
  rw [provisioningAfter]
  generalize (⟨emptyRegistry, fun _ => none⟩ : Provisioning) = state
  induction requests generalizing state with
  | nil => rfl
  | cons request rest ih => exact ih _

theorem keepsSecrets_of_none {state : Provisioning} {request : Request}
    (hnone : request.call.authType = none) : KeepsSecrets state request := by
  intro id hauth
  rw [hnone] at hauth
  cases hauth

/-- The sample device has the credential it was registered with. -/
theorem keepsSecrets_secretLamp :
    KeepsSecrets (provisioningAfter
      [acmeTenant, lampProduct "", lampDevice 3 "b"]) secretLamp := by
  have hheld : ∀ device ∈ (provisioningAfter
        [acmeTenant, lampProduct "", lampDevice 3 "b"]).db.devices,
      ∃ credential ∈ (provisioningAfter
        [acmeTenant, lampProduct "", lampDevice 3 "b"]).db.credentials,
      credential.tenantID = device.tenantID ∧ credential.deviceID = device.id ∧
        credential.status = .active := by
    decide +kernel
  intro id _ device hdevice _
  exact hheld device hdevice

/-- A tenant, a product with secrets, a device of it, and an update of the
product, which keeps the secrets. -/
def secretRun : List Request :=
  [acmeTenant, lampProduct "", lampDevice 3 "b", secretLamp]

/-- A device of a secret product, registered and found with its secret. -/
theorem secret_device_registered :
    secretLamp.call.authType = some (2, .secret) ∧
    ∃ device secret, device ∈ (provisioningAfter secretRun).db.devices ∧
      device.productID = 2 ∧
      (provisioningAfter secretRun).handed device.id = some secret := by
  have halong : (provisioning asciiCasing plainBcrypt).Along
      (fun state request _ => KeepsSecrets state request)
      ⟨emptyRegistry, fun _ => none⟩ secretRun :=
    ⟨_, rfl, keepsSecrets_of_none rfl, _, rfl, keepsSecrets_of_none rfl, _, rfl,
      keepsSecrets_of_none rfl, _, rfl, keepsSecrets_secretLamp, trivial⟩
  have hreach := Transition.System.ReachableVia.of_along
    (.start provisioning_start) halong (run_provisioning _)
  have hrows : ∃ device ∈ (provisioningAfter secretRun).db.devices,
      ∃ product ∈ (provisioningAfter secretRun).db.products,
      product.id = device.productID ∧ product.authType = .secret ∧
        device.productID = 2 := by
    decide +kernel
  obtain ⟨device, hdevice, product, hproduct, hof, hauth, hlamp⟩ := hrows
  obtain ⟨_, secret, -, hhanded, -⟩ :=
    secret_devices_provisioned hreach hdevice hproduct hof hauth
  exact ⟨by decide, device, secret, hdevice, hlamp, hhanded⟩

/-- A product that is switched to secrets after its device was registered leaves
the device without a credential. -/
theorem secret_device_without_credential :
    ∃ state, (provisioning asciiCasing plainBcrypt).Reachable state ∧
      ∃ device ∈ state.db.devices, ∃ product ∈ state.db.products,
        product.id = device.productID ∧ product.authType = .secret ∧
        ∀ credential ∈ state.db.credentials.rows,
          credential.deviceID ≠ device.id := by
  have hreach : (provisioning asciiCasing plainBcrypt).Reachable
      (provisioningAfter
        [acmeTenant, lampProduct "anonymous", lampDevice 3 "b", secretLamp]) :=
    Transition.System.Reachable.of_run (.start provisioning_start)
      (run_provisioning _)
  exact ⟨_, hreach, by decide +kernel⟩

end Sample

end Registry

end LinkFlow
