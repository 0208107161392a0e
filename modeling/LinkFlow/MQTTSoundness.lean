/-
What the EMQX webhook answers: a client it lets in is one active device with its
secret, or the service client; and a device is let in with its own identity.
-/
import LinkFlow.MQTTIdentity
import LinkFlow.ReferentialIntegrity

namespace LinkFlow

namespace Registry

section Parsing

theorem splitIdentity_trimmed {value : String} {parts : List String}
    (hsplit : splitIdentity value = parts) :
    ∀ part ∈ parts, trimSpace part = part := by
  intro part hpart
  rw [← hsplit] at hpart
  unfold splitIdentity at hpart
  dsimp only at hpart
  split at hpart
  · cases hpart
  · obtain ⟨raw, -, rfl⟩ := List.mem_map.mp hpart
    exact trimSpace_trimSpace _

/-- Every part of a parsed identity is trimmed. -/
theorem mqttAuthInputFromEMQX_trimmed {request : EMQXAuthRequest}
    {input : MQTTAuthInput}
    (hparsed : mqttAuthInputFromEMQX request = some input) :
    trimSpace input.tenantSlug = input.tenantSlug ∧
      trimSpace input.productKey = input.productKey ∧
      trimSpace input.deviceSlug = input.deviceSlug ∧
      input.password = trimSpace request.password := by
  unfold mqttAuthInputFromEMQX at hparsed
  dsimp only at hparsed
  split at hparsed
  · cases hparsed
  · split at hparsed
    next tenantSlug husername =>
      have htenant := splitIdentity_trimmed husername tenantSlug (by simp)
      split at hparsed
      next deviceSlug hclient =>
        have hdevice := splitIdentity_trimmed hclient deviceSlug (by simp)
        have hempty : trimSpace "" = "" := by decide
        cases hparsed
        exact ⟨htenant, hempty, hdevice, rfl⟩
      next productKey deviceSlug hclient =>
        have hparts := splitIdentity_trimmed hclient
        cases hparsed
        exact ⟨htenant, hparts productKey (by simp),
          hparts deviceSlug (by simp), rfl⟩
      · cases hparsed
    next tenantSlug productKey deviceSlug husername =>
      have hparts := splitIdentity_trimmed husername
      cases hparsed
      exact ⟨hparts tenantSlug (by simp), hparts productKey (by simp),
        hparts deviceSlug (by simp), rfl⟩
    · cases hparsed

end Parsing

section Soundness

variable (casing : Casing) (db : Database)

/-- A device of the tenant, and of the product if one is given, that an identity
names in any case. -/
structure Named (input : MQTTAuthInput) (device : Device) : Prop where
  deviceMem : device ∈ db.devices
  tenantSlug : ∃ tenant ∈ db.tenants, tenant.id = device.tenantID ∧
    casing.toLower tenant.tenantSlug = casing.toLower input.tenantSlug
  productKey : input.productKey = "" ∨ ∃ product ∈ db.products,
    product.id = device.productID ∧
      casing.toLower product.productKey = casing.toLower input.productKey
  deviceSlug : casing.toLower device.deviceSlug =
      casing.toLower input.deviceSlug

/-- The unique indexes leave one device for an identity. -/
theorem Named.unique {casing : Casing} {db : Database} {input : MQTTAuthInput}
    {first second : Device} (hfirst : Named casing db input first)
    (hsecond : Named casing db input second) : first = second := by
  obtain ⟨tenant, htenant, hin, hslug⟩ := hfirst.tenantSlug
  obtain ⟨tenant', htenant', hin', hslug'⟩ := hsecond.tenantSlug
  have hsame : tenant = tenant' := by
    apply Table.eq_of_conflict htenant htenant'
    simp only [tenantSchema, decide_eq_true_eq]
    rw [← toLower_slug casing tenant.slugFormat, hslug,
      ← toLower_slug casing tenant'.slugFormat, hslug']
  apply Table.eq_of_conflict hfirst.deviceMem hsecond.deviceMem
  simp only [deviceSchema, Bool.and_eq_true, decide_eq_true_eq]
  constructor
  · rw [← hin, ← hin', hsame]
  · rw [← toLower_deviceSlug casing first.slugFormat, hfirst.deviceSlug,
      ← toLower_deviceSlug casing second.slugFormat, hsecond.deviceSlug]

/-- What may be answered to a request: a superuser is the service client,
another client one device that its identity names and its password lets in. -/
inductive SoundAnswer (handler : EMQXAuthHandler) (db : Database)
    (request : EMQXAuthRequest) : EMQXAnswer → Prop
  | superuser
      (husername : trimSpace request.username = handler.serviceUsername)
      (hpassword : trimSpace request.password = handler.servicePassword) :
      SoundAnswer handler db request (.response ⟨"allow", true, []⟩)
  | device {input : MQTTAuthInput} {tenant : Tenant} {product : Product}
      {device : Device} (hparsed : mqttAuthInputFromEMQX request = some input)
      (hnamed : Named handler.casing db input device)
      (honly : ∀ other, Named handler.casing db input other → other = device)
      (htenant : tenant ∈ db.tenants ∧ tenant.id = device.tenantID)
      (hproduct : product ∈ db.products ∧ product.id = device.productID)
      (hadmitted : Admitted handler.bcrypt db tenant product device
        (trimSpace request.password)) :
      SoundAnswer handler db request
        (.response (allowResponse (attributesOf tenant product device)))
  | denied : SoundAnswer handler db request (.response denyResponse)
  | failed : SoundAnswer handler db request .internalError

theorem Casing.toLower_eq_empty {casing : Casing} {text : String} :
    casing.toLower text = "" ↔ text = "" := by
  rw [← String.toList_inj, ← String.toList_inj, Casing.toLower,
    String.toList_map]
  simp

/-- The device that is looked up is one the identity names. -/
theorem named_of_joined {input : MQTTAuthInput} {tenant : Tenant}
    {product : Product} {device : Device}
    (htenant : trimSpace input.tenantSlug = input.tenantSlug)
    (hkey : trimSpace input.productKey = input.productKey)
    (hdevice : trimSpace input.deviceSlug = input.deviceSlug)
    (hjoined : Joined db (input.normalized casing) tenant product device) :
    Named casing db input device where
  deviceMem := hjoined.deviceMem
  tenantSlug := by
    refine ⟨tenant, hjoined.tenantMem, hjoined.deviceTenant.symm, ?_⟩
    rw [toLower_slug casing tenant.slugFormat, hjoined.tenantSlug,
      MQTTAuthInput.normalized, normalizeTenantSlug, htenant]
  productKey := by
    by_cases hempty : input.productKey = ""
    · exact Or.inl hempty
    · have hkept : (input.normalized casing).productKey =
          casing.toLower input.productKey := by
        rw [MQTTAuthInput.normalized, normalizeProductKey, hkey]
      refine Or.inr ⟨product, hjoined.productMem, hjoined.deviceProduct.symm,
        ?_⟩
      rcases hjoined.productKey with hblank | hequal
      · rw [hkept] at hblank
        exact absurd (Casing.toLower_eq_empty.mp hblank) hempty
      · rw [toLower_slug casing product.keyFormat, hequal, hkept]
  deviceSlug := by
    rw [toLower_deviceSlug casing device.slugFormat, hjoined.deviceSlug,
      MQTTAuthInput.normalized, normalizeDeviceSlug, hdevice]

/-- Whatever the registry holds and however the database answers, a request is
answered soundly; one that is no JSON object of the three fields is denied. -/
theorem authenticate_sound (handler : EMQXAuthHandler) (out : Surroundings)
    (http : HTTPRequest) (db : Database) :
    handler.authenticate out http db = .response denyResponse ∨
      ∃ request, decodeEMQXRequest handler.casing http = some request ∧
        SoundAnswer handler db request (handler.authenticate out http db) := by
  rw [EMQXAuthHandler.authenticate]
  cases hdecode : decodeEMQXRequest handler.casing http with
  | none => exact Or.inl rfl
  | some request =>
      refine Or.inr ⟨request, rfl, ?_⟩
      dsimp only
      rw [EMQXAuthHandler.answer]
      split
      next hservice =>
        simp only [EMQXAuthHandler.authenticateServiceClient, Bool.and_eq_true,
          decide_eq_true_eq] at hservice
        exact .superuser hservice.1 hservice.2
      · split
        · exact .denied
        next input hparsed =>
          obtain ⟨htenant, hkey, hdevice, hpassword⟩ :=
            mqttAuthInputFromEMQX_trimmed hparsed
          split
          next result hok =>
            obtain ⟨tenant, product, device, hjoined, hadmitted, rfl⟩ :=
              mqttAuthenticate_sound hok
            have hnamed :=
              named_of_joined handler.casing db htenant hkey hdevice
              hjoined
            rw [hpassword, trimSpace_trimSpace] at hadmitted
            exact .device hparsed hnamed
              (fun other hother => hother.unique hnamed)
              ⟨hjoined.tenantMem, hjoined.deviceTenant.symm⟩
              ⟨hjoined.productMem, hjoined.deviceProduct.symm⟩ hadmitted
          · exact .denied
          · exact .denied
          · exact .failed

end Soundness

section Login

/-- The three ways a device gives its identity. -/
inductive OwnIdentity (tenantSlug productKey deviceSlug : String)
    (request : EMQXAuthRequest) : Prop
  | full
      (husername : request.username =
        tenantSlug ++ ":" ++ productKey ++ ":" ++ deviceSlug)
      (hclient : trimSpace request.clientID ≠ "")
  | device (husername : request.username = tenantSlug)
      (hclient : request.clientID = deviceSlug)
  | productDevice (husername : request.username = tenantSlug)
      (hclient : request.clientID = productKey ++ ":" ++ deviceSlug)

variable {tenantSlug productKey deviceSlug : String} {request : EMQXAuthRequest}

theorem Plain.unspaced {text : String} (hplain : Plain text) :
    ∀ char ∈ text.toList, isSpace char = false :=
  fun char hchar => (deviceSlugPattern_tail (hplain.2 char hchar).1).2

/-- Texts with a colon between them are trimmed when they are. -/
theorem trimSpace_join {first second : String}
    (hfirst : ∀ char ∈ first.toList, isSpace char = false)
    (hsecond : ∀ char ∈ second.toList, isSpace char = false) :
    ∀ char ∈ (first ++ ":" ++ second).toList, isSpace char = false := by
  intro char hchar
  simp only [String.toList_append, List.mem_append] at hchar
  rcases hchar with (hleft | hcolon) | hright
  · exact hfirst char hleft
  · have heq : char = ':' := by simpa using hcolon
    rw [heq]
    decide
  · exact hsecond char hright

/-- A device's identity is read back, whichever way it is given. -/
theorem mqttAuthInputFromEMQX_own (htenant : Plain tenantSlug)
    (hproduct : Plain productKey) (hdevice : Plain deviceSlug)
    (hpassword : trimSpace request.password ≠ "")
    (hown : OwnIdentity tenantSlug productKey deviceSlug request) :
    ∃ key, (key = "" ∨ key = productKey) ∧ mqttAuthInputFromEMQX request =
      some ⟨tenantSlug, key, deviceSlug, trimSpace request.password⟩ := by
  cases hown with
  | full husername hclient =>
      have htrim : trimSpace request.username = request.username := by
        rw [husername]
        exact trimSpace_eq_self (trimSpace_join
          (trimSpace_join htenant.unspaced hproduct.unspaced) hdevice.unspaced)
      have hsplit : splitIdentity request.username =
          [tenantSlug, productKey, deviceSlug] := by
        rw [husername, splitIdentity_three htenant hproduct hdevice]
      have hne : request.username ≠ "" := by
        intro hempty
        rw [hempty] at hsplit
        cases hsplit
      refine ⟨productKey, Or.inr rfl, ?_⟩
      simp only [mqttAuthInputFromEMQX, htrim, hsplit, hne, hclient, hpassword,
        decide_false, Bool.or_false, Bool.false_eq_true, if_false]
  | device husername hclient =>
      refine ⟨"", Or.inl rfl, ?_⟩
      simp only [mqttAuthInputFromEMQX, husername, hclient, htenant.trimSpace,
        hdevice.trimSpace, splitIdentity_one htenant, splitIdentity_one hdevice,
        htenant.1, hdevice.1, hpassword, decide_false, Bool.or_false,
        Bool.false_eq_true, if_false]
  | productDevice husername hclient =>
      have htrim : trimSpace request.clientID = request.clientID := by
        rw [hclient]
        exact trimSpace_eq_self
          (trimSpace_join hproduct.unspaced hdevice.unspaced)
      have hsplit : splitIdentity request.clientID =
          [productKey, deviceSlug] := by
        rw [hclient, splitIdentity_two hproduct hdevice]
      have hne : request.clientID ≠ "" := by
        intro hempty
        rw [hempty] at hsplit
        cases hsplit
      refine ⟨productKey, Or.inr rfl, ?_⟩
      simp only [mqttAuthInputFromEMQX, husername, htrim, htenant.trimSpace,
        splitIdentity_one htenant, hsplit, htenant.1, hne, hpassword,
        decide_false, Bool.or_false, Bool.false_eq_true, if_false]

/-- Stored slugs and keys find their own rows.  The product of the device is in
its tenant, as no other product has its id. -/
theorem joined_stored (casing : Casing) {db : Database} {tenant : Tenant}
    {product : Product} {device : Device} (hdevice : device ∈ db.devices)
    (htenant : tenant ∈ db.tenants ∧ tenant.id = device.tenantID)
    (hproduct : product ∈ db.products ∧ product.id = device.productID)
    (hrefs : db.devices.References
      (ofProduct Device.productID Device.tenantID) db.products)
    {key : String} (hkey : key = "" ∨ key = product.productKey)
    (password : String) :
    Joined db
      (MQTTAuthInput.normalized casing
        ⟨tenant.tenantSlug, key, device.deviceSlug, password⟩)
      tenant product device where
  tenantMem := htenant.1
  productMem := hproduct.1
  deviceMem := hdevice
  productTenant := by
    obtain ⟨found, hfound, hid, hin⟩ := hrefs device hdevice
    have hsame : found = product := Table.eq_of_key hfound hproduct.1
      (congrArg BitVec.toNat (hid.trans hproduct.2.symm))
    rw [← hsame, hin, htenant.2]
  deviceTenant := htenant.2.symm
  deviceProduct := hproduct.2.symm
  tenantSlug := by
    simp only [MQTTAuthInput.normalized, normalizeTenantSlug,
      (Plain.of_validSlug tenant.slugFormat).trimSpace,
      toLower_slug casing tenant.slugFormat]
  productKey := by
    rcases hkey with rfl | rfl
    · apply Or.inl
      simp only [MQTTAuthInput.normalized, normalizeProductKey]
      exact Casing.toLower_eq_empty.mpr (by decide)
    · apply Or.inr
      simp only [MQTTAuthInput.normalized, normalizeProductKey,
        (Plain.of_validSlug product.keyFormat).trimSpace,
        toLower_slug casing product.keyFormat]
  deviceSlug := by
    simp only [MQTTAuthInput.normalized, normalizeDeviceSlug,
      trimSpace_deviceSlug device.slugFormat,
      toLower_deviceSlug casing device.slugFormat]

/-- In a reachable registry a device that is let in with a password, and whose
slug has no colon, is let in as itself whichever way it gives its identity,
unless the password is blank or the service client's. -/
theorem device_logs_in (handler : EMQXAuthHandler) (out : Surroundings)
    (http : HTTPRequest) {db : Database}
    (hreach : (system handler.casing handler.bcrypt).Reachable db)
    (hanswers : out.Answers) {tenant : Tenant} {product : Product}
    {device : Device} (hdevice : device ∈ db.devices)
    (htenant : tenant ∈ db.tenants ∧ tenant.id = device.tenantID)
    (hproduct : product ∈ db.products ∧ product.id = device.productID)
    (hdecode : decodeEMQXRequest handler.casing http = some request)
    (hown : OwnIdentity tenant.tenantSlug product.productKey device.deviceSlug
      request)
    (hadmitted : Admitted handler.bcrypt db tenant product device
      (trimSpace request.password))
    (hcolon : ':' ∉ device.deviceSlug.toList)
    (hpassword : trimSpace request.password ≠ "")
    (hservice : handler.authenticateServiceClient request = false) :
    handler.authenticate out http db =
      .response (allowResponse (attributesOf tenant product device)) := by
  have htenantPlain := Plain.of_validSlug tenant.slugFormat
  have hproductPlain := Plain.of_validSlug product.keyFormat
  have hdevicePlain := Plain.of_validDeviceSlug device.slugFormat hcolon
  obtain ⟨key, hkey, hparsed⟩ := mqttAuthInputFromEMQX_own htenantPlain
    hproductPlain hdevicePlain hpassword hown
  have hjoined := joined_stored handler.casing hdevice htenant hproduct
    (deviceProduct_of_reachable hreach) hkey (trimSpace request.password)
  have hok := mqttAuthenticate_complete hanswers hjoined
    (by rw [trimSpace_trimSpace]; exact hadmitted)
  simp only [EMQXAuthHandler.authenticate, hdecode, EMQXAuthHandler.answer,
    hservice, hparsed, hok, Bool.false_eq_true, if_false]

end Login

section Sample

/-- The service client shares the name of the sample tenant. -/
def acmeHandler : EMQXAuthHandler := ⟨asciiCasing, plainBcrypt, "acme", "key"⟩

def authRequest (username password clientID : String) : HTTPRequest where
  contentType := "application/json"
  body := some (.obj [("username", .str username), ("password", .str password),
    ("clientid", .str clientID)])
  extra := false

theorem decode_authRequest (username password clientID : String) :
    decodeEMQXRequest asciiCasing (authRequest username password clientID) =
      some ⟨username, password, clientID⟩ := by
  have husername : foldName "username" = "username" := by decide +kernel
  have hpassword : foldName "password" = "password" := by decide +kernel
  have hclient : foldName "clientid" = "clientid" := by decide +kernel
  have hjson : "application/json".toList.isPrefixOf
      (asciiCasing.toLower "application/json").toList = true := by
    decide +kernel
  simp only [decodeEMQXRequest, authRequest, hjson, List.foldlM_cons,
    List.foldlM_nil, setField, husername, hpassword, hclient, Bool.not_true,
    Bool.false_eq_true, if_false]
  rfl

def secretRegistry : Database :=
  registryAfter [acmeTenant, lampProduct "", lampDevice 3 "b"]

/-- The device of a secret product, with the secret it was given. -/
theorem device_logs_in_secret :
    ∃ tenant product device, device.deviceSlug = "b" ∧
      acmeHandler.authenticate (calmCall 9)
          (authRequest "acme:lamp:b" (generateSecret 0) "any") secretRegistry =
        .response (allowResponse (attributesOf tenant product device)) := by
  have hrows : ∃ tenant ∈ secretRegistry.tenants,
      ∃ product ∈ secretRegistry.products, ∃ device ∈ secretRegistry.devices,
      (tenant.id = device.tenantID ∧ product.id = device.productID ∧
        tenant.tenantSlug = "acme" ∧ product.productKey = "lamp" ∧
        device.deviceSlug = "b") ∧
      (tenant.status = .active ∧ product.status = .active ∧
        device.status = .active ∧ product.authType = .secret) ∧
      ∃ credential ∈ secretRegistry.credentials,
        (credential.tenantID = device.tenantID ∧
          credential.deviceID = device.id ∧
          credential.status = .active) ∧
        compareSecret plainBcrypt credential.secretHash
          (trimSpace (generateSecret 0)) = true := by decide +kernel
  obtain ⟨tenant, htenant, product, hproduct, device, hdevice,
    ⟨hin, hof, hslug, hkey, hname⟩, ⟨hlive, hlive', hlive'', hauth⟩,
    credential, hcredential, hactive, hcompare⟩ := hrows
  refine ⟨tenant, product, device, hname, ?_⟩
  apply device_logs_in acmeHandler (calmCall 9) _
    (reachable_registryAfter _) ⟨fun _ => rfl, fun _ => rfl⟩ hdevice
    ⟨htenant, hin⟩ ⟨hproduct, hof⟩ (decode_authRequest _ _ _)
  · exact .full (by rw [hslug, hkey, hname]; rfl) (by decide)
  · exact ⟨hlive, hlive', hlive'', Or.inr ⟨hauth, credential,
      ⟨hcredential, hactive⟩, hcompare⟩⟩
  · rw [hname]
    decide
  · decide +kernel
  · decide +kernel

def openRegistry : Database :=
  registryAfter
    [acmeTenant, lampProduct "anonymous", lampDevice 3 "lamp:b",
      lampDevice 4 "b"]

/-- An active device of an active product that asks for no secret. -/
def OpenDevice (tenant : Tenant) (product : Product) (device : Device) : Prop :=
  (tenant.id = device.tenantID ∧ product.id = device.productID) ∧
    tenant.status = .active ∧ product.status = .active ∧
    device.status = .active ∧ product.authType = .anonymous

instance (tenant : Tenant) (product : Product) (device : Device) :
    Decidable (OpenDevice tenant product device) := by
  rw [OpenDevice]
  infer_instance

/-- The device `lamp:b` is denied under its full username and gets in as the
device `b` under its product and slug.  The device `b` is denied with a blank
password or a blank client id, and becomes a superuser with the service client's
password. -/
theorem own_identity_refused :
    (system asciiCasing plainBcrypt).Reachable openRegistry ∧
      ∃ tenant ∈ openRegistry.tenants, ∃ product ∈ openRegistry.products,
      ∃ colon ∈ openRegistry.devices, ∃ plain ∈ openRegistry.devices,
        (OpenDevice tenant product colon ∧ OpenDevice tenant product plain ∧
          tenant.tenantSlug = "acme" ∧ product.productKey = "lamp" ∧
          colon.deviceSlug = "lamp:b" ∧ plain.deviceSlug = "b") ∧
        acmeHandler.answer (calmCall 9) ⟨"acme:lamp:lamp:b", "x", "any"⟩
            openRegistry = .response denyResponse ∧
        acmeHandler.answer (calmCall 9) ⟨"acme", "x", "lamp:b"⟩ openRegistry =
          .response (allowResponse (attributesOf tenant product plain)) ∧
        acmeHandler.answer (calmCall 9) ⟨"acme:lamp:b", "", "any"⟩
          openRegistry = .response denyResponse ∧
        acmeHandler.answer (calmCall 9) ⟨"acme:lamp:b", "x", ""⟩ openRegistry =
          .response denyResponse ∧
        acmeHandler.answer (calmCall 9) ⟨"acme", "key", "b"⟩ openRegistry =
          .response ⟨"allow", true, []⟩ :=
  ⟨reachable_registryAfter _, by decide +kernel⟩

end Sample

end Registry

end LinkFlow
