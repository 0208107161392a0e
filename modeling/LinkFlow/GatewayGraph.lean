/-
The graph of the gateways.  An update asks that a new gateway is a device of the
tenant and that the two ids are not the same text, and no more.  While no update
closes a cycle, the devices can be deleted one by one.
-/
import LinkFlow.Lib.LinkGraph
import LinkFlow.ReferentialIntegrity

namespace LinkFlow

namespace Registry

open LinkGraph Relation

variable {casing : Casing} {bcrypt : Bcrypt} {call : Call} {db next : Database}

section Graph

/-- A device has this gateway. -/
def Linked (db : Database) (child parent : Uuid) : Prop :=
  ∃ device ∈ db.devices, device.id = child ∧
    device.gatewayDeviceID = some parent

/-- The gateway that an update gives a device does not lead back to the device.
Two ids of the same text are refused. -/
def LinksApart (db : Database) : Request → Prop
  | .updateDevice _ input =>
      trimSpace input.gatewayDeviceID ≠ trimSpace input.deviceID →
      ∀ gateway device, Uuid.ofText? (trimSpace input.gatewayDeviceID) =
        some gateway →
        Uuid.ofText? (trimSpace input.deviceID) = some device →
        ¬ ReflTransGen (Linked db) gateway device
  | _ => True

/-- The device calls, from a registry without devices on. -/
def deviceCalls (casing : Casing) (bcrypt : Bcrypt) :
    Transition.System Database Request where
  init db := ∀ device, device ∉ db.devices
  step db request :=
    match request with
    | .createDevice _ _ _ _ | .updateDevice _ _ | .deleteDevice _ _ =>
        some (serve casing bcrypt db request)
    | _ => none

/-- The links of one new or changed row close no cycle when its gateway does not
lead to it. -/
theorem acyclic_of_row (hacyclic : Acyclic (Linked db)) {device : Device}
    (hrows : ∀ other ∈ next.devices, other = device ∨ other ∈ db.devices)
    (hapart : ∀ gateway, device.gatewayDeviceID = some gateway →
      ¬ ReflTransGen (Linked db) gateway device.id) :
    Acyclic (Linked next) := by
  cases hgateway : device.gatewayDeviceID with
  | none =>
      apply hacyclic.mono
      intro child parent hlink
      obtain ⟨other, hother, hchild, hparent⟩ := hlink
      rcases hrows other hother with rfl | hold
      · rw [hgateway] at hparent
        cases hparent
      · exact ⟨other, hold, hchild, hparent⟩
  | some gateway =>
      refine hacyclic.add (fun child parent hlink => ?_)
        (hapart gateway hgateway)
      obtain ⟨other, hother, hchild, hparent⟩ := hlink
      rcases hrows other hother with rfl | hold
      · rw [hgateway] at hparent
        exact Or.inr ⟨hchild.symm, (Option.some.inj hparent).symm⟩
      · exact Or.inl ⟨other, hold, hchild, hparent⟩

/-- Nothing leads to the id of a row that is not there. -/
theorem not_leads_to_fresh (hgateways : GatewaysExist db) {gateway : Device}
    {id : Uuid} (hgateway : gateway ∈ db.devices)
    (hfresh : ∀ device ∈ db.devices, device.id ≠ id) :
    ¬ ReflTransGen (Linked db) gateway.id id := by
  intro hpath
  rcases ReflTransGen.cases_tail hpath with heq |
    ⟨_, -, device, hdevice, -, hlink⟩
  · exact hfresh gateway hgateway heq.symm
  · obtain ⟨found, hfound, hid, -⟩ := hgateways device hdevice id hlink
    exact hfresh found hfound hid

end Graph

section Steps

/-- What an update of a device does: nothing, or a row for another, whose
gateway is the given one. -/
theorem update_cases (out : Surroundings) (input : DeviceUpdateInput) :
    (DeviceCalls.update out input db).2 = db ∨
      ∃ old device devices, db.devices.Replaces old device devices ∧
        trimSpace input.gatewayDeviceID ≠ trimSpace input.deviceID ∧
        Uuid.ofText? (trimSpace input.deviceID) = some device.id ∧
        (∀ id, device.gatewayDeviceID = some id →
          Uuid.ofText? (trimSpace input.gatewayDeviceID) = some id) ∧
        (DeviceCalls.update out input db).2 =
          { db with devices := devices } := by
  rw [DeviceCalls.update, serviceCall]
  split
  · exact Or.inl rfl
  split
  · exact Or.inl rfl
  next hvalid =>
    rcases storeCall_cases out "device" input.userID
        (findError .device "update device")
        (fun session => updateDeviceRow out session _) db with
      ⟨err, hcall⟩ | ⟨device, after, hok, hcall⟩
    · exact Or.inl (congrArg Prod.snd hcall)
    · obtain ⟨old, devices, -, hid, hsame, hgateway, hreplaces, rfl⟩ :=
        updateDeviceRow_eq_ok hok
      refine Or.inr ⟨old, device, devices, hreplaces, ?_, hsame.1 ▸ hid,
        fun id hlink => (hgateway id hlink).1, congrArg Prod.snd hcall⟩
      intro heq
      simp [heq] at hvalid
      exact hvalid.1.1.1 hvalid.1.2

theorem delete_cases (out : Surroundings) (input : RowInput) :
    (DeviceCalls.delete out input db).2 = db ∨
      ∃ old ∈ db.devices, Owned input.userID db old.tenantID ∧
        (DeviceCalls.delete out input db).2 =
          withoutDevice input.userID old.id db := by
  rw [DeviceCalls.delete, serviceCall]
  split
  · exact Or.inl rfl
  split
  · exact Or.inl rfl
  · rcases storeCall_cases out "device" input.userID
        (deleteError .device "delete device")
        (fun session => deleteDeviceRow out session (trimSpace input.id))
        db with
      ⟨err, hcall⟩ | ⟨value, after, hok, hcall⟩
    · exact Or.inl (congrArg Prod.snd hcall)
    · obtain ⟨-, old, hold, howned, -, -, rfl⟩ := deleteDeviceRow_eq_ok.mp hok
      exact Or.inr ⟨old, hold, howned, congrArg Prod.snd hcall⟩

/-- The links form no cycle, and lead to devices; every device has its
tenant. -/
structure Safe (db : Database) : Prop where
  acyclic : Acyclic (Linked db)
  gateways : GatewaysExist db
  tenants : db.devices.References (ofTenant Device.tenantID) db.tenants

theorem linked_withoutDevice {userID id child parent : Uuid}
    (hlink : Linked (withoutDevice userID id db) child parent) :
    Linked db child parent := by
  obtain ⟨device, hdevice, hboth⟩ := hlink
  exact ⟨device, (Table.mem_delete.mp hdevice).1, hboth⟩

theorem acyclic_create (hacyclic : Acyclic (Linked db))
    (hgateways : GatewaysExist db) (lookup out : Surroundings)
    (source : SecretSource) (input : DeviceCreateInput) :
    Acyclic (Linked
      (DeviceCalls.create casing bcrypt lookup out source input db).2) := by
  have hcases := @create_cases casing bcrypt
    (Request.createDevice lookup out source input).call db lookup
    source input rfl
  rcases hcases with ⟨err, hcall⟩ | ⟨device, secret, hash, devices, credentials,
    hcall, -, -, -, hgateway, hadds, -⟩
  · exact (congrArg Prod.snd hcall : _ = db) ▸ hacyclic
  · change DeviceCalls.create casing bcrypt lookup out source input db =
      _ at hcall
    rw [hcall]
    refine acyclic_of_row hacyclic (fun other => (hadds.2 other).mp) ?_
    intro id hlink
    obtain ⟨gateway, hmem, rfl, -⟩ := hgateway id hlink
    apply not_leads_to_fresh hgateways hmem
    intro other hother heq
    exact (hadds.fresh hother).1 (congrArg BitVec.toNat heq)

theorem acyclic_update (hacyclic : Acyclic (Linked db)) (out : Surroundings)
    (input : DeviceUpdateInput)
    (hguard : LinksApart db (.updateDevice out input)) :
    Acyclic (Linked (DeviceCalls.update out input db).2) := by
  rcases update_cases out input with hsame |
    ⟨old, device, devices, hreplaces, hne, hid, hgateway, hnext⟩
  · rw [hsame]
    exact hacyclic
  · rw [hnext]
    refine acyclic_of_row hacyclic (fun other hother => ?_)
      fun gateway hlink => hguard hne gateway device.id
      (hgateway gateway hlink) hid
    exact ((hreplaces.2.2 other).mp hother).imp_right And.left

theorem acyclic_delete (hacyclic : Acyclic (Linked db)) (out : Surroundings)
    (input : RowInput) :
    Acyclic (Linked (DeviceCalls.delete out input db).2) := by
  rcases delete_cases out input with hsame | ⟨old, -, -, hnext⟩
  · rw [hsame]
    exact hacyclic
  · rw [hnext]
    exact hacyclic.mono fun child parent => linked_withoutDevice

/-- The tenants of the devices stay while none is deleted. -/
theorem deviceTenant_wrote
    (hrefs : db.devices.References (ofTenant Device.tenantID) db.tenants)
    (hkeeps : ∀ id, call.deletes ≠ .tenant id)
    (hwrote : Wrote bcrypt call db next) :
    next.devices.References (ofTenant Device.tenantID) next.tenants := by
  cases hwrote with
  | tenantCreated hid howner huser hadds => exact hrefs.adds_target hadds
  | tenantUpdated howner hsame hreplaces =>
      exact hrefs.replaces_target hreplaces fun _ hlink => hsame.1.trans hlink
  | tenantDeleted hdeletes howner hremoves => exact absurd hdeletes (hkeeps _)
  | deviceCreated hregisters hid howned hstatus hproduct hgateway hadds
      hcredential =>
      obtain ⟨tenant, htenant, hkey, -⟩ := howned
      exact hrefs.adds hadds htenant hkey
  | deviceUpdated howned hsame hgateway hreplaces =>
      exact hrefs.replaces hreplaces fun _ hlink => hlink.trans hsame.2.1.symm
  | deviceDeleted hdeletes howned hunused hremoves =>
      exact hrefs.removes hremoves
  | _ => exact hrefs

/-- A device call keeps the links safe, unless it is an update that closes a
cycle. -/
theorem Safe.step (hsafe : Safe db) {request : Request}
    (hguard : LinksApart db request)
    (hstep : (deviceCalls casing bcrypt).step db request = some next) :
    Safe next := by
  have hwrote : Wrote bcrypt request.call db (serve casing bcrypt db request) :=
    serve_wrote request
  cases request with
  | createDevice lookup out source input =>
      cases hstep
      exact
        { acyclic := acyclic_create hsafe.acyclic hsafe.gateways lookup
            out source input
          gateways := gatewaysExist_wrote hsafe.gateways hwrote
          tenants := deviceTenant_wrote hsafe.tenants (by rintro _ ⟨⟩) hwrote }
  | updateDevice out input =>
      cases hstep
      exact
        { acyclic := acyclic_update hsafe.acyclic out input hguard
          gateways := gatewaysExist_wrote hsafe.gateways hwrote
          tenants := deviceTenant_wrote hsafe.tenants (by rintro _ ⟨⟩) hwrote }
  | deleteDevice out input =>
      cases hstep
      refine
        { acyclic := acyclic_delete hsafe.acyclic out input
          gateways := gatewaysExist_wrote hsafe.gateways hwrote
          tenants := deviceTenant_wrote hsafe.tenants
              (fun id heq => ?_) hwrote }
      simp only [Request.call, Deletes.named] at heq
      split at heq <;> cases heq
  | _ => cases hstep

end Steps

section Removal

variable {userID : Uuid}

theorem text_ne_empty (id : Uuid) : Uuid.text id ≠ "" := by
  intro heq
  have hlength := Uuid.length_text id
  rw [heq] at hlength
  cases hlength

theorem serviceCall_of_ok {α : Type} {out : Surroundings} {refused : Bool}
    {err : Failure} {store : Database → Reply α}
    (hctx : out.ctxErr .service = none) (hvalid : refused = false) :
    serviceCall out refused err store db = store db := by
  rw [serviceCall]
  rw [hctx, hvalid]
  rfl

/-- A device that is no gateway can be deleted by the owner of its tenant. -/
theorem delete_leaf {device : Device} (hdevice : device ∈ db.devices)
    (howned : Owned userID db device.tenantID)
    (hleaf : ∀ child, ¬ Linked db child device.id) :
    (DeviceCalls.delete (calmCall 0) ⟨userID, Uuid.text device.id⟩ db).2 =
      withoutDevice userID device.id db := by
  have hok : deleteDeviceRow (calmCall 0) (.actor userID)
      (trimSpace (Uuid.text device.id)) db =
      .ok ((), withoutDevice userID device.id db) := by
    rw [deleteDeviceRow_eq_ok, trimSpace_text]
    refine ⟨⟨rfl, rfl⟩, device, hdevice, howned, Uuid.ofText?_text _, ?_, rfl⟩
    intro other hother _ hlink
    exact hleaf other.id ⟨other, hother, rfl, hlink⟩
  have hnamed : trimSpace (Uuid.text device.id) ≠ "" := by
    rw [trimSpace_text]
    exact text_ne_empty _
  have hcall : deleteDevice (calmCall 0)
      ⟨userID, trimSpace (Uuid.text device.id)⟩ db =
      (.ok (), withoutDevice userID device.id db) :=
    storeCall_of_ok rfl (fun _ => rfl) hok
  rw [DeviceCalls.delete]
  rw [serviceCall_of_ok rfl (decide_eq_false hnamed), hcall]

/-- A call asks to delete this device. -/
def DeletesDevice (id : Uuid) (request : Request) : Prop :=
  ∃ out input, request = .deleteDevice out input ∧
    Uuid.ofText? (trimSpace input.id) = some id

/-- Devices listed so that none is the gateway of a later one can be deleted in
that order. -/
theorem exists_deletions {order : List Uuid} (hnodup : order.Nodup)
    (horder : order.Pairwise fun id later => ¬ Linked db later id)
    (hirrefl : ∀ id, ¬ Linked db id id)
    (hlisted : ∀ device ∈ db.devices, device.id ∈ order)
    (hthere : ∀ id ∈ order, ∃ device ∈ db.devices, device.id = id)
    (htenants : db.devices.References (ofTenant Device.tenantID) db.tenants) :
    ∃ requests finish, List.Forall₂ DeletesDevice order requests ∧
      (deviceCalls casing bcrypt).run db requests = some finish ∧
      ∀ device, device ∉ finish.devices := by
  induction order generalizing db with
  | nil =>
      exact ⟨[], db, .nil, rfl, fun device hdevice =>
        List.not_mem_nil (hlisted device hdevice)⟩
  | cons id rest ih =>
      obtain ⟨hnew, hrest⟩ := List.nodup_cons.mp hnodup
      obtain ⟨hfirst, hothers⟩ := List.pairwise_cons.mp horder
      obtain ⟨device, hdevice, rfl⟩ := hthere id List.mem_cons_self
      obtain ⟨tenant, htenant, hof⟩ := htenants device hdevice
      have howned : Owned tenant.ownerUserID db device.tenantID :=
        ⟨tenant, htenant, hof, rfl⟩
      have hleaf : ∀ child, ¬ Linked db child device.id := by
        intro child hlink
        have hmem : child ∈ device.id :: rest := by
          obtain ⟨other, hother, rfl, -⟩ := hlink
          exact hlisted other hother
        rcases List.mem_cons.mp hmem with rfl | hlater
        · exact hirrefl _ hlink
        · exact hfirst child hlater hlink
      have hremoves := removes_withoutDevice hdevice howned
      obtain ⟨requests, finish, hdeletes, hrun, hempty⟩ :=
        @ih (withoutDevice tenant.ownerUserID device.id db) hrest
          (hothers.imp fun hfree hlink => hfree (linked_withoutDevice hlink))
          (fun other hlink => hirrefl other (linked_withoutDevice hlink))
          (fun other hother => by
            obtain ⟨hmem, hne⟩ := (hremoves.2 other).mp hother
            apply (List.mem_cons.mp (hlisted other hmem)).resolve_left
            intro heq
            exact hne (Table.eq_of_key hmem hdevice
              (congrArg BitVec.toNat heq)))
          (fun other hother => by
            obtain ⟨found, hfound, rfl⟩ :=
              hthere other (List.mem_cons_of_mem _ hother)
            refine ⟨found, (hremoves.2 found).mpr ⟨hfound, ?_⟩, rfl⟩
            rintro rfl
            exact hnew hother)
          (fun other hother => htenants other ((hremoves.2 other).mp hother).1)
      refine ⟨.deleteDevice (calmCall 0)
          ⟨tenant.ownerUserID, Uuid.text device.id⟩ :: requests, finish,
        .cons ⟨_, _, rfl, ?_⟩ hdeletes, ?_, hempty⟩
      · rw [trimSpace_text]
        exact Uuid.ofText?_text _
      · have hserve : serve casing bcrypt db (.deleteDevice (calmCall 0)
            ⟨tenant.ownerUserID, Uuid.text device.id⟩) = _ :=
          delete_leaf hdevice howned hleaf
        simp only [Transition.System.run, deviceCalls, Option.bind_some, hserve]
        exact hrun

end Removal

section Runs

theorem safe_of_reachable
    (hreach : (deviceCalls casing bcrypt).ReachableVia LinksApart db) :
    Safe db := by
  refine hreach.invariant ?_ fun state request next hsafe hguard hstep =>
    hsafe.step hguard hstep
  intro start hstart
  exact
    { acyclic := by
        intro id hcycle
        obtain ⟨_, ⟨device, hdevice, -⟩, -⟩ := TransGen.head'_iff.mp hcycle
        exact hstart device hdevice
      gateways := fun device hdevice => absurd hdevice (hstart device)
      tenants := fun device hdevice => absurd hdevice (hstart device) }

/-- In every run of device calls from a registry without devices, in which no
update gives a device a gateway that leads back to it, the links form no cycle,
and the devices can be deleted in some order, one call for each. -/
theorem gateways_acyclic
    (hreach : (deviceCalls casing bcrypt).ReachableVia LinksApart db) :
    Acyclic (Linked db) ∧
      ∃ order requests finish, order.Perm (db.devices.rows.map Device.id) ∧
        List.Forall₂ DeletesDevice order requests ∧
        (deviceCalls casing bcrypt).run db requests = some finish ∧
        ∀ device, device ∉ finish.devices := by
  have hsafe := safe_of_reachable hreach
  obtain ⟨order, hperm, horder⟩ :=
    hsafe.acyclic.exists_order (db.devices.rows.map Device.id)
  have hmem : ∀ id, id ∈ order ↔ ∃ device ∈ db.devices, device.id = id := by
    intro id
    rw [hperm.mem_iff, List.mem_map]
    rfl
  have hnodup : (db.devices.rows.map Device.id).Nodup :=
    List.Nodup.of_map BitVec.toNat (by
      rw [List.map_map]
      exact db.devices.nodup_keys)
  obtain ⟨requests, finish, hdeletes, hrun, hempty⟩ :=
    exists_deletions (hperm.nodup_iff.mpr hnodup) horder hsafe.acyclic.irrefl
      (fun device hdevice => (hmem _).mpr ⟨device, hdevice, rfl⟩)
      (fun id => (hmem id).mp) hsafe.tenants
  exact ⟨hsafe.acyclic, order, requests, finish, hperm, hdeletes, hrun, hempty⟩

/-- The sample registry with its product, after these calls. -/
def lampsAfter (requests : List Request) : Database :=
  requests.foldl (serve asciiCasing plainBcrypt)
    (registryAfter [acmeTenant, lampProduct ""])

/-- An update of a device of the sample that gives it a gateway. -/
def giveGateway (device gateway : String) : Request :=
  .updateDevice (calmCall 5) ⟨7, device, "Lamp", "", "", gateway⟩

def firstUnderSecond : Request :=
  giveGateway "00000000-0000-0000-0000-000000000003"
    "00000000-0000-0000-0000-000000000004"

def secondUnderFirst : Request :=
  giveGateway "00000000-0000-0000-0000-000000000004"
    "00000000-0000-0000-0000-000000000003"

theorem init_lamps :
    (deviceCalls asciiCasing plainBcrypt).init (lampsAfter []) := by
  have hrows : (lampsAfter []).devices.rows = [] := by decide +kernel
  intro device hdevice
  rw [← Table.mem_rows, hrows] at hdevice
  cases hdevice

/-- The devices of the sample with their gateways. -/
def linkRows (requests : List Request) : List (Uuid × Option Uuid) :=
  (lampsAfter requests).devices.rows.map fun device =>
    (device.id, device.gatewayDeviceID)

theorem linked_lampsAfter {requests : List Request} {child parent : Uuid} :
    Linked (lampsAfter requests) child parent ↔
      (child, some parent) ∈ linkRows requests := by
  rw [linkRows]
  simp only [List.mem_map, Prod.ext_iff, Linked, ← Table.mem_rows]

theorem next_lampsAfter {guard : Database → Request → Prop}
    {requests : List Request} {request : Request}
    (hreach : (deviceCalls asciiCasing plainBcrypt).ReachableVia guard
      (lampsAfter requests))
    (hguard : guard (lampsAfter requests) request)
    (hcall : ∀ db, (deviceCalls asciiCasing plainBcrypt).step db request =
      some (serve asciiCasing plainBcrypt db request)) :
    (deviceCalls asciiCasing plainBcrypt).ReachableVia guard
      (lampsAfter (requests ++ [request])) := by
  refine hreach.next hguard ((hcall _).trans ?_)
  simp [lampsAfter]

theorem gateways_acyclic_lamps :
    Linked (lampsAfter [lampDevice 3 "a", lampDevice 4 "b", firstUnderSecond]) 3
      4 ∧
      Acyclic (Linked
        (lampsAfter [lampDevice 3 "a", lampDevice 4 "b",
          firstUnderSecond])) := by
  have hbefore : linkRows [lampDevice 3 "a", lampDevice 4 "b"] =
      [(3, none), (4, none)] := by decide +kernel
  have hafter : linkRows [lampDevice 3 "a", lampDevice 4 "b",
      firstUnderSecond] = [(3, some 4), (4, none)] := by decide +kernel
  have hapart : LinksApart (lampsAfter [lampDevice 3 "a", lampDevice 4 "b"])
      firstUnderSecond := by
    intro _ gateway device hgateway hdevice hpath
    have hne : gateway ≠ device := by
      rintro rfl
      exact absurd (hgateway.trans hdevice.symm) (by decide +kernel)
    obtain ⟨_, hlink, -⟩ := (ReflTransGen.cases_head hpath).resolve_left hne
    rw [linked_lampsAfter, hbefore] at hlink
    simp at hlink
  have hreach := next_lampsAfter (next_lampsAfter (next_lampsAfter
    (.start init_lamps) trivial fun _ => rfl) trivial fun _ => rfl)
    hapart fun _ => rfl
  refine ⟨linked_lampsAfter.mpr ?_, (gateways_acyclic hreach).1⟩
  rw [hafter]
  exact List.mem_cons_self

/-- Two updates make two devices the gateways of each other. -/
theorem gateways_cycle :
    ∃ db, (deviceCalls asciiCasing plainBcrypt).Reachable db ∧
      ¬ Acyclic (Linked db) := by
  have hone := @next_lampsAfter (fun _ _ => True) [] (lampDevice 3 "a")
    (.start init_lamps) trivial fun _ => rfl
  have htwo := @next_lampsAfter _ _ (lampDevice 4 "b") hone trivial fun _ => rfl
  have hthree := @next_lampsAfter _ _ firstUnderSecond htwo trivial fun _ => rfl
  have hreach :=
    @next_lampsAfter _ _ secondUnderFirst hthree trivial fun _ => rfl
  have hrows : linkRows [lampDevice 3 "a", lampDevice 4 "b", firstUnderSecond,
      secondUnderFirst] = [(3, some 4), (4, some 3)] := by decide +kernel
  have hfirst : Linked (lampsAfter [lampDevice 3 "a", lampDevice 4 "b",
      firstUnderSecond, secondUnderFirst]) 3 4 := by
    rw [linked_lampsAfter, hrows]
    exact List.mem_cons_self
  have hsecond : Linked (lampsAfter [lampDevice 3 "a", lampDevice 4 "b",
      firstUnderSecond, secondUnderFirst]) 4 3 := by
    rw [linked_lampsAfter, hrows]
    exact List.mem_cons_of_mem _ List.mem_cons_self
  exact ⟨_, hreach, fun hacyclic => hacyclic 3 (.tail (.single hfirst) hsecond)⟩

end Runs

end Registry

end LinkFlow
