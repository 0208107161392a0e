/-
The identities of MQTT clients: what the webhook reads back from the slugs and
keys that the registry can hold, and the one row its lookup can find.
-/
import LinkFlow.MQTTAuth

namespace LinkFlow

namespace Registry

section Slugs

open DeviceService

/-- The characters of slugs and keys are ASCII and not spaces. -/
theorem deviceSlugPattern_tail {char : Char}
    (hchar : deviceSlugPattern.tail char = true) :
    char.toNat < 128 ∧ isSpace char = false := by
  have hascii : char.toNat < 128 := by
    simp only [deviceSlugPattern, isLetter, isLowerLetter, isUpperLetter,
      isDigit, Bool.or_eq_true, Bool.and_eq_true, decide_eq_true_eq,
      Char.le_def, UInt32.le_iff_toNat_le, List.mem_cons, List.not_mem_nil,
      or_false] at hchar
    rcases hchar with ((⟨-, hle⟩ | ⟨-, hle⟩) | ⟨-, hle⟩) | rfl | rfl | rfl | rfl
    · exact lt_of_le_of_lt hle (by decide)
    · exact lt_of_le_of_lt hle (by decide)
    · exact lt_of_le_of_lt hle (by decide)
    all_goals decide
  refine ⟨hascii, ?_⟩
  have hall : ∀ code < 128, deviceSlugPattern.tail (Char.ofNat code) = true →
      isSpace (Char.ofNat code) = false := by decide
  have hclean := hall char.toNat hascii
  rw [Char.ofNat_toNat] at hclean
  exact hclean hchar

/-- What the parts of an identity are made of: the characters of slugs, less the
colon. -/
def Plain (text : String) : Prop :=
  text ≠ "" ∧ ∀ char ∈ text.toList,
    deviceSlugPattern.tail char = true ∧ char ≠ ':'

theorem deviceSlug_chars {slug : String}
    (hvalid : validDeviceSlug slug = true) :
    slug ≠ "" ∧ ∀ char ∈ slug.toList, deviceSlugPattern.tail char = true := by
  simp only [validDeviceSlug, Bool.and_eq_true] at hvalid
  apply Pattern.forall_of_matches _ (fun _ htail => htail) hvalid.1
  intro char hhead
  simp only [deviceSlugPattern] at hhead ⊢
  rw [hhead, Bool.true_or]

theorem trimSpace_deviceSlug {slug : String}
    (hvalid : validDeviceSlug slug = true) : trimSpace slug = slug :=
  trimSpace_eq_self fun char hchar =>
    (deviceSlugPattern_tail ((deviceSlug_chars hvalid).2 char hchar)).2

theorem Plain.of_validDeviceSlug {slug : String}
    (hvalid : validDeviceSlug slug = true) (hcolon : ':' ∉ slug.toList) :
    Plain slug := by
  obtain ⟨hne, hchars⟩ := deviceSlug_chars hvalid
  exact ⟨hne, fun char hchar =>
    ⟨hchars char hchar, fun heq => hcolon (heq ▸ hchar)⟩⟩

theorem kebab_plain {char : Char}
    (hchar : (isLowerLetter char || isDigit char || char = '-') = true) :
    deviceSlugPattern.tail char = true ∧ char ≠ ':' := by
  constructor
  · simp only [Bool.or_eq_true, decide_eq_true_eq] at hchar
    rcases hchar with (hlower | hdigit) | rfl
    · simp [deviceSlugPattern, isLetter, hlower]
    · simp [deviceSlugPattern, hdigit]
    · decide
  · rintro rfl
    revert hchar
    decide

theorem Plain.of_validSlug {slug : String} (hvalid : validSlug slug = true) :
    Plain slug := by
  simp only [validSlug, Bool.and_eq_true] at hvalid
  apply Pattern.forall_of_matches _ (fun _ htail => kebab_plain htail)
    hvalid.1.2
  intro char hhead
  apply kebab_plain
  simp only [Schemas.kebabPattern] at hhead
  rw [hhead, Bool.true_or]

theorem Plain.trimSpace {text : String} (hplain : Plain text) :
    trimSpace text = text :=
  trimSpace_eq_self fun char hchar =>
    (deviceSlugPattern_tail (hplain.2 char hchar).1).2

/-- On ASCII the two ways to lower a text agree. -/
theorem toLower_eq_lower (casing : Casing) {text : String}
    (hascii : ∀ char ∈ text.toList, char.toNat < 128) :
    casing.toLower text = lower text := by
  apply String.toList_inj.mp
  rw [Casing.toLower, lower, String.toList_map, String.toList_map]
  exact List.map_congr_left fun char hchar =>
    casing.lowerRune_ascii char (hascii char hchar)

theorem toLower_deviceSlug (casing : Casing) {slug : String}
    (hvalid : validDeviceSlug slug = true) : casing.toLower slug = lower slug :=
  toLower_eq_lower casing fun char hchar =>
    (deviceSlugPattern_tail ((deviceSlug_chars hvalid).2 char hchar)).1

theorem toLower_slug (casing : Casing) {slug : String}
    (hvalid : validSlug slug = true) : casing.toLower slug = lower slug :=
  toLower_eq_lower casing fun char hchar =>
    (deviceSlugPattern_tail ((Plain.of_validSlug hvalid).2 char hchar).1).1

/-- Plain parts between colons are read back. -/
theorem splitIdentity_of_parts {value : String} {parts : List String}
    (hparts : ∀ part ∈ parts, Plain part)
    (hvalue : value.toList.splitOn ':' = parts.map String.toList) :
    splitIdentity value = parts := by
  have htrimmed : (parts.map String.toList).map
      (fun part => LinkFlow.trimSpace (String.ofList part)) = parts := by
    rw [List.map_map]
    conv_rhs => rw [← List.map_id parts]
    apply List.map_congr_left
    intro part hpart
    simp [(hparts part hpart).trimSpace]
  have hnone : parts.any (· = "") = false := by
    rw [List.any_eq_false]
    intro part hpart
    simp [(hparts part hpart).1]
  rw [splitIdentity]
  simp only [hvalue, htrimmed, hnone, Bool.false_eq_true, if_false]

variable {first second third : String}

theorem splitIdentity_one (hfirst : Plain first) :
    splitIdentity first = [first] := by
  apply splitIdentity_of_parts
  · simpa using hfirst
  · exact List.splitOn_eq_singleton fun hmem => (hfirst.2 _ hmem).2 rfl

theorem splitIdentity_two (hfirst : Plain first) (hsecond : Plain second) :
    splitIdentity (first ++ ":" ++ second) = [first, second] := by
  apply splitIdentity_of_parts
  · simp [hfirst, hsecond]
  · have hlist : (first ++ ":" ++ second).toList =
        first.toList ++ ':' :: second.toList := by simp
    rw [hlist, List.splitOn_append_cons_self_of_not_mem
        fun hmem => (hfirst.2 _ hmem).2 rfl,
      List.splitOn_eq_singleton fun hmem => (hsecond.2 _ hmem).2 rfl]
    rfl

theorem splitIdentity_three (hfirst : Plain first) (hsecond : Plain second)
    (hthird : Plain third) :
    splitIdentity (first ++ ":" ++ second ++ ":" ++ third) =
      [first, second, third] := by
  apply splitIdentity_of_parts
  · simp [hfirst, hsecond, hthird]
  · have hlist : (first ++ ":" ++ second ++ ":" ++ third).toList =
        first.toList ++ ':' :: (second.toList ++ ':' :: third.toList) := by simp
    rw [hlist, List.splitOn_append_cons_self_of_not_mem
        fun hmem => (hfirst.2 _ hmem).2 rfl,
      List.splitOn_append_cons_self_of_not_mem
        fun hmem => (hsecond.2 _ hmem).2 rfl,
      List.splitOn_eq_singleton fun hmem => (hthird.2 _ hmem).2 rfl]
    rfl

end Slugs

section Lookup

variable {db : Database} {input : MQTTAuthInput}

/-- A tenant, a product and a device that the lookup joins. -/
structure Joined (db : Database) (input : MQTTAuthInput) (tenant : Tenant)
    (product : Product) (device : Device) : Prop where
  tenantMem : tenant ∈ db.tenants
  productMem : product ∈ db.products
  deviceMem : device ∈ db.devices
  productTenant : product.tenantID = tenant.id
  deviceTenant : device.tenantID = tenant.id
  deviceProduct : device.productID = product.id
  tenantSlug : lower tenant.tenantSlug = input.tenantSlug
  productKey : input.productKey = "" ∨
    lower product.productKey = input.productKey
  deviceSlug : lower device.deviceSlug = input.deviceSlug

/-- The active credential of a device. -/
def ActiveCredential (db : Database) (device : Device)
    (credential : Credential) : Prop :=
  credential ∈ db.credentials ∧ credential.tenantID = device.tenantID ∧
    credential.deviceID = device.id ∧ credential.status = .active

theorem ActiveCredential.unique {device : Device}
    {first second : Credential} (hfirst : ActiveCredential db device first)
    (hsecond : ActiveCredential db device second) : first = second := by
  apply Table.eq_of_conflict hfirst.1 hsecond.1
  simp [credentialSchema, hfirst.2, hsecond.2]

variable {tenant : Tenant} {product : Product} {device : Device}

/-- The backend reads every row. -/
theorem joins_backend :
    (tenant ∈ db.tenants ∧ product ∈ db.products ∧ device ∈ db.devices ∧
      joins (.internal "backend") db input tenant product device = true) ↔
      Joined db input tenant product device := by
  simp only [joins, Session.seesTenant, Session.seesProduct, Session.seesDevice,
    Session.sees, Session.readsAll, Session.internal, Bool.and_eq_true,
    Bool.or_eq_true, decide_eq_true_eq, true_or, or_true, true_and]
  constructor
  · rintro ⟨htenant, hproduct, hdevice, ⟨⟨⟨⟨hof, hin⟩, hmade⟩, hslug⟩, hkey⟩,
      hname⟩
    exact ⟨htenant, hproduct, hdevice, hof, hin, hmade, hslug, hkey, hname⟩
  · rintro ⟨htenant, hproduct, hdevice, hof, hin, hmade, hslug, hkey, hname⟩
    exact ⟨htenant, hproduct, hdevice, ⟨⟨⟨⟨hof, hin⟩, hmade⟩, hslug⟩, hkey⟩,
      hname⟩

/-- The left join finds the active credential, or nothing if there is none. -/
theorem mem_activeCredentials (hin : device.tenantID = tenant.id)
    {found : Option Credential} :
    found ∈ activeCredentials (.internal "backend") db tenant device ↔
      (∃ credential, found = some credential ∧
        ActiveCredential db device credential) ∨
      found = none ∧ ∀ credential, ¬ ActiveCredential db device credential := by
  have hrows : ∀ credential,
      credential ∈ db.credentials.rows.filter (fun credential =>
      (Session.internal "backend").sees db credential.tenantID &&
        credential.tenantID = tenant.id && credential.deviceID = device.id &&
        credential.status = .active) ↔
        ActiveCredential db device credential := by
    intro credential
    simp [ActiveCredential, Session.sees, Session.readsAll, Session.internal,
      hin, and_assoc]
  rw [activeCredentials]
  split
  next hnone =>
    have hempty : ∀ credential, ¬ ActiveCredential db device credential := by
      intro credential hactive
      have hmem := (hrows credential).mpr hactive
      rw [hnone] at hmem
      cases hmem
    constructor
    · intro hfound
      exact Or.inr ⟨List.mem_singleton.mp hfound, hempty⟩
    · rintro (⟨credential, -, hactive⟩ | ⟨hnone, -⟩)
      · exact absurd hactive (hempty credential)
      · exact List.mem_singleton.mpr hnone
  next rows hne =>
    constructor
    · intro hfound
      obtain ⟨credential, hmem, rfl⟩ := List.mem_map.mp hfound
      exact Or.inl ⟨credential, rfl, (hrows credential).mp hmem⟩
    · rintro (⟨credential, rfl, hactive⟩ | ⟨-, hempty⟩)
      · exact List.mem_map_of_mem ((hrows credential).mpr hactive)
      · exact absurd (List.eq_nil_iff_forall_not_mem.mpr fun credential hmem =>
          hempty credential ((hrows credential).mp hmem)) hne

theorem mem_mqttRows {found : MQTTDeviceCredential} :
    found ∈ mqttRows (.internal "backend") db input ↔
      ∃ tenant product device credential,
        Joined db input tenant product device ∧
        credential ∈ activeCredentials (.internal "backend") db tenant device ∧
        found = credentialColumns tenant product device credential := by
  simp only [mqttRows, List.mem_flatMap, Table.mem_rows]
  constructor
  · rintro ⟨tenant, htenant, product, hproduct, device, hdevice, hrow⟩
    split at hrow
    next hjoins =>
      obtain ⟨credential, hmem, rfl⟩ := List.mem_map.mp hrow
      exact ⟨tenant, product, device, credential,
        joins_backend.mp ⟨htenant, hproduct, hdevice, hjoins⟩, hmem, rfl⟩
    · cases hrow
  · rintro ⟨tenant, product, device, credential, hjoined, hmem, rfl⟩
    obtain ⟨htenant, hproduct, hdevice, hjoins⟩ := joins_backend.mpr hjoined
    refine ⟨tenant, htenant, product, hproduct, device, hdevice, ?_⟩
    rw [if_pos hjoins]
    exact List.mem_map_of_mem hmem

/-- The tenant of a slug. -/
theorem Joined.tenant_unique {tenant' : Tenant} {product' : Product}
    {device' : Device} (hfirst : Joined db input tenant product device)
    (hsecond : Joined db input tenant' product' device') :
    tenant = tenant' := by
  apply Table.eq_of_conflict hfirst.tenantMem hsecond.tenantMem
  simp [tenantSchema, hfirst.tenantSlug, hsecond.tenantSlug]

/-- The unique indexes leave one device, and with it one product. -/
theorem Joined.unique {tenant' : Tenant} {product' : Product} {device' : Device}
    (hfirst : Joined db input tenant product device)
    (hsecond : Joined db input tenant' product' device') :
    tenant = tenant' ∧ product = product' ∧ device = device' := by
  have htenant := hfirst.tenant_unique hsecond
  have hdevice : device = device' := by
    apply Table.eq_of_conflict hfirst.deviceMem hsecond.deviceMem
    simp [deviceSchema, hfirst.deviceTenant, hsecond.deviceTenant, htenant,
      hfirst.deviceSlug, hsecond.deviceSlug]
  have hproduct : product = product' := by
    apply Table.eq_of_key hfirst.productMem hsecond.productMem
    change product.id.toNat = product'.id.toNat
    rw [← hfirst.deviceProduct, ← hsecond.deviceProduct, hdevice]
  exact ⟨htenant, hproduct, hdevice⟩

/-- The lookup has at most one row. -/
theorem mqttRows_unique {first second : MQTTDeviceCredential}
    (hfirst : first ∈ mqttRows (.internal "backend") db input)
    (hsecond : second ∈ mqttRows (.internal "backend") db input) :
    first = second := by
  obtain ⟨tenant, product, device, credential, hjoined, hcredential, rfl⟩ :=
    mem_mqttRows.mp hfirst
  obtain ⟨tenant', product', device', credential', hjoined',
    hcredential', rfl⟩ :=
    mem_mqttRows.mp hsecond
  obtain ⟨rfl, rfl, rfl⟩ := hjoined.unique hjoined'
  rw [mem_activeCredentials hjoined.deviceTenant] at hcredential hcredential'
  have hsame : credential = credential' := by
    rcases hcredential with ⟨_, rfl, hactive⟩ | ⟨rfl, hnone⟩
    · rcases hcredential' with ⟨_, rfl, hactive'⟩ | ⟨rfl, hnone⟩
      · rw [hactive.unique hactive']
      · exact absurd hactive (hnone _)
    · rcases hcredential' with ⟨_, rfl, hactive'⟩ | ⟨rfl, -⟩
      · exact absurd hactive' (hnone _)
      · rfl
  rw [hsame]

variable {out : Surroundings}

theorem findMQTTDeviceCredential_mem {found : MQTTDeviceCredential}
    (hfind : findMQTTDeviceCredential out input db = .ok found) :
    found ∈ mqttRows (.internal "backend") db input := by
  rw [findMQTTDeviceCredential] at hfind
  split at hfind
  · cases hfind
  · rcases @withSession_cases _ out "device internal" "service" (do
        out.command .query
        queryRow fun db => (mqttRows (.internal "backend") db input).head?)
        db with
      ⟨err, hrun⟩ | ⟨value, next, hbody, hrun⟩
    · rw [hrun] at hfind
      cases hfind
    · rw [hrun] at hfind
      cases hfind
      simp only [Transaction.bind_eq_ok, command_eq_ok, queryRow_eq_ok] at hbody
      obtain ⟨_, _, ⟨-, rfl⟩, hhead, -⟩ := hbody
      exact List.mem_of_head? hhead

/-- Nothing is done with and every command is carried out. -/
def Surroundings.Answers (out : Surroundings) : Prop :=
  (∀ stage, out.ctxErr stage = none) ∧ ∀ stage, out.outcome stage = .ok ()

theorem findMQTTDeviceCredential_of_mem (hanswers : out.Answers)
    {found : MQTTDeviceCredential}
    (hfound : found ∈ mqttRows (.internal "backend") db input) :
    findMQTTDeviceCredential out input db = .ok found := by
  have hhead : (mqttRows (.internal "backend") db input).head? =
      some found := by
    cases hrows : mqttRows (.internal "backend") db input with
    | nil =>
        rw [hrows] at hfound
        cases hfound
    | cons first rest =>
        have hfirst : first ∈ mqttRows (.internal "backend") db input := by
          rw [hrows]
          exact List.mem_cons_self
        rw [mqttRows_unique hfirst hfound]
        rfl
  have hcommand : ∀ stage db, out.command stage db = .ok ((), db) :=
    fun stage db =>
    command_eq_ok.mpr ⟨hanswers.2 stage, rfl⟩
  have hquery : queryRow
      (fun db => (mqttRows (.internal "backend") db input).head?)
      db = .ok (found, db) := queryRow_eq_ok.mpr ⟨hhead, rfl⟩
  rw [findMQTTDeviceCredential]
  rw [hanswers.1]
  simp only [withSession, Transaction.run, Transaction.mapError, bind, hcommand,
    hquery, Except.mapError, pure]

end Lookup

section Check

variable {bcrypt : Bcrypt} {db : Database} {tenant : Tenant} {product : Product}
  {device : Device} {password : String}

/-- What a device needs to be let in with a password. -/
structure Admitted (bcrypt : Bcrypt) (db : Database) (tenant : Tenant)
    (product : Product) (device : Device) (password : String) : Prop where
  tenantActive : tenant.status = .active
  productActive : product.status = .active
  deviceActive : device.status = .active
  secret : product.authType = .anonymous ∨ product.authType = .secret ∧
    ∃ credential, ActiveCredential db device credential ∧
      compareSecret bcrypt credential.secretHash password = true

@[simp] theorem text_eq_active {status : Status} :
    status.text = "active" ↔ status = .active := by
  cases status <;> simp [Status.text]

@[simp] theorem text_eq_secret {authType : AuthType} :
    authType.text = "secret" ↔ authType = .secret := by
  cases authType <;> simp [AuthType.text]

@[simp] theorem text_eq_anonymous {authType : AuthType} :
    authType.text = "anonymous" ↔ authType = .anonymous := by
  cases authType <;> simp [AuthType.text]

/-- The hash in a row compares with a password exactly when the hash of the
active credential does. -/
theorem compareSecret_columns (hin : device.tenantID = tenant.id)
    {found : Option Credential}
    (hfound : found ∈ activeCredentials (.internal "backend") db
      tenant device) :
    (password ≠ "" ∧ (found.map fun credential => credential.status.text).getD
      "" =
        "active" ∧
      compareSecret bcrypt ((found.map Credential.secretHash).getD "")
        password = true) ↔
      ∃ credential, ActiveCredential db device credential ∧
        compareSecret bcrypt credential.secretHash password = true := by
  rcases (mem_activeCredentials hin).mp hfound with
    ⟨credential, rfl, hactive⟩ | ⟨rfl, hnone⟩
  · constructor
    · rintro ⟨-, -, hcompare⟩
      exact ⟨credential, hactive, hcompare⟩
    · rintro ⟨other, hother, hcompare⟩
      have hne : password ≠ "" := by
        rintro rfl
        simp [compareSecret] at hcompare
      rw [hother.unique hactive] at hcompare
      refine ⟨hne, ?_, hcompare⟩
      simp [hactive.2.2.2, CredentialStatus.text]
  · simp [hnone]

theorem checkCredential_iff {found : MQTTDeviceCredential}
    {result : MQTTAuthResult} :
    checkCredential bcrypt found password = .ok result ↔
      (found.tenantStatus = "active" ∧ found.productStatus = "active" ∧
        found.deviceStatus = "active" ∧
        (found.productAuthType = "anonymous" ∨
          found.productAuthType = "secret" ∧ password ≠ "" ∧
            found.credentialStatus = "active" ∧
            compareSecret bcrypt found.secretHash password = true)) ∧
        found.toMQTTAuthResult = result := by
  rw [checkCredential]
  by_cases htenant : found.tenantStatus = "active"
  · by_cases hproduct : found.productStatus = "active"
    · by_cases hdevice : found.deviceStatus = "active"
      · by_cases hsecret : found.productAuthType = "secret"
        · by_cases hpassword : password = ""
          · simp [hsecret, hpassword, htenant, hproduct, hdevice]
          · by_cases hactive : found.credentialStatus = "active"
            · cases hcompare : compareSecret bcrypt found.secretHash
                password <;>
                simp [hsecret, hpassword, htenant, hproduct, hdevice, hactive]
            · simp [hsecret, htenant, hproduct, hdevice, hactive]
        · by_cases hanonymous : found.productAuthType = "anonymous"
          · simp [hanonymous, htenant, hproduct, hdevice]
          · simp [hsecret, hanonymous, htenant, hproduct, hdevice]
      · simp [hdevice]
    · simp [hproduct]
  · simp [htenant]

/-- The checks accept the row of a device exactly when it is admitted. -/
theorem checkCredential_eq_ok (hin : device.tenantID = tenant.id)
    {found : Option Credential} {result : MQTTAuthResult}
    (hfound : found ∈ activeCredentials (.internal "backend") db
      tenant device) :
    checkCredential bcrypt (credentialColumns tenant product device found)
        password = .ok result ↔
      Admitted bcrypt db tenant product device password ∧
        attributesOf tenant product device = result := by
  rw [checkCredential_iff]
  simp only [credentialColumns, text_eq_active, text_eq_secret,
    text_eq_anonymous, compareSecret_columns hin hfound]
  constructor
  · rintro ⟨⟨htenant, hproduct, hdevice, hopen⟩, hresult⟩
    exact ⟨⟨htenant, hproduct, hdevice, hopen⟩, hresult⟩
  · rintro ⟨⟨htenant, hproduct, hdevice, hopen⟩, hresult⟩
    exact ⟨⟨htenant, hproduct, hdevice, hopen⟩, hresult⟩

variable {casing : Casing} {out : Surroundings} {input : MQTTAuthInput}

/-- Whoever is let in is a joined device that is admitted. -/
theorem mqttAuthenticate_sound {result : MQTTAuthResult}
    (hok : mqttAuthenticate casing bcrypt out input db = .ok result) :
    ∃ tenant product device,
      Joined db (input.normalized casing) tenant product device ∧
        Admitted bcrypt db tenant product device
          (LinkFlow.trimSpace input.password) ∧
        attributesOf tenant product device = result := by
  rw [mqttAuthenticate] at hok
  split at hok
  · cases hok
  · dsimp only at hok
    split at hok
    · cases hok
    · split at hok
      · split at hok <;> cases hok
      next found hfind =>
        obtain ⟨tenant, product, device, credential, hjoined,
          hcredential, rfl⟩ :=
          mem_mqttRows.mp (findMQTTDeviceCredential_mem hfind)
        obtain ⟨hadmitted, hresult⟩ :=
          (checkCredential_eq_ok hjoined.deviceTenant hcredential).mp hok
        exact ⟨tenant, product, device, hjoined, hadmitted, hresult⟩

theorem lower_ne_empty {text : String} (hne : text ≠ "") : lower text ≠ "" := by
  intro heq
  have hlist := congrArg String.toList heq
  rw [lower, String.toList_map] at hlist
  simp at hlist
  exact hne hlist

/-- A joined device that is admitted is let in, as itself. -/
theorem mqttAuthenticate_complete (hanswers : out.Answers)
    (hjoined : Joined db (input.normalized casing) tenant product device)
    (hadmitted : Admitted bcrypt db tenant product device
      (LinkFlow.trimSpace input.password)) :
    mqttAuthenticate casing bcrypt out input db =
      .ok (attributesOf tenant product device) := by
  have htenant : (input.normalized casing).tenantSlug ≠ "" := by
    rw [← hjoined.tenantSlug]
    exact lower_ne_empty (Plain.of_validSlug tenant.slugFormat).1
  have hdevice : (input.normalized casing).deviceSlug ≠ "" := by
    rw [← hjoined.deviceSlug]
    exact lower_ne_empty (deviceSlug_chars device.slugFormat).1
  obtain ⟨credential, hcredential⟩ : ∃ credential, credential ∈
      activeCredentials (.internal "backend") db tenant device := by
    by_cases hactive : ∃ credential, ActiveCredential db device credential
    · obtain ⟨credential, hactive⟩ := hactive
      exact ⟨some credential, (mem_activeCredentials hjoined.deviceTenant).mpr
        (Or.inl ⟨credential, rfl, hactive⟩)⟩
    · exact ⟨none, (mem_activeCredentials hjoined.deviceTenant).mpr
        (Or.inr ⟨rfl, fun credential hmem => hactive ⟨credential, hmem⟩⟩)⟩
  have hfind := findMQTTDeviceCredential_of_mem hanswers
    (mem_mqttRows.mpr ⟨tenant, product, device, credential, hjoined,
      hcredential, rfl⟩)
  have hcheck : checkCredential bcrypt
      (credentialColumns tenant product device credential)
      (LinkFlow.trimSpace input.password) =
        .ok (attributesOf tenant product device) :=
    (checkCredential_eq_ok hjoined.deviceTenant hcredential).mpr
      ⟨hadmitted, rfl⟩
  rw [mqttAuthenticate]
  rw [hanswers.1]
  simp only [htenant, hdevice, decide_false, Bool.or_false, Bool.false_eq_true,
    if_false, hfind]
  exact hcheck

end Check

end Registry

end LinkFlow
