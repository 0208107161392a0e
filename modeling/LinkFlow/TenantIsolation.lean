/-
Tenant isolation of the management stores: a call for an actor changes rows of
the actor's tenants only, and over two states of the database that agree on what
the actor owns it reports the same.
-/
import LinkFlow.CommandOutcomes
import LinkFlow.TenantTwins

namespace LinkFlow

namespace Registry

open Processor (EventRow)
open Transaction (Keeps Twins)

section Calls

/-- A call of one of the four stores' methods that run as an actor, with the
type of its result. -/
inductive StoreCall : Type → Type where
  | createTenant (input : TenantCreateInput) : StoreCall Tenant
  | listTenants (input : ListInput) : StoreCall (PageResult Tenant)
  | findTenantByID (input : RowInput) : StoreCall Tenant
  | updateTenant (input : TenantUpdateInput) : StoreCall Tenant
  | deleteTenant (input : RowInput) : StoreCall Unit
  | listTenantIDsByOwner (userID : Uuid) : StoreCall (List Uuid)
  | createProduct (input : ProductCreateInput) : StoreCall Product
  | listProducts (input : TenantListInput) : StoreCall (PageResult Product)
  | findProductByID (input : RowInput) : StoreCall Product
  | updateProduct (input : ProductUpdateInput) : StoreCall Product
  | deleteProduct (input : RowInput) : StoreCall Unit
  | createThingsModel (input : ThingsModelCreateInput) : StoreCall ThingsModel
  | listThingsModels (input : ThingsModelListInput) :
      StoreCall (PageResult ThingsModel)
  | findThingsModelByID (input : RowInput) : StoreCall ThingsModel
  | updateThingsModel (input : ThingsModelUpdateInput) : StoreCall ThingsModel
  | deleteThingsModel (input : RowInput) : StoreCall Unit
  | findDeviceProductAuthType (input : DeviceProductAuthInput) :
      StoreCall AuthType
  | createDevice (input : DeviceCreateInput) : StoreCall Device
  | listDevices (input : DeviceListInput) : StoreCall (PageResult Device)
  | findDeviceByID (input : RowInput) : StoreCall Device
  | findDeviceServiceCallTarget (input : RowInput) :
      StoreCall DeviceService.DeviceTarget
  | findDevicePropertySetTarget (input : RowInput) :
      StoreCall DeviceService.DeviceTarget
  | updateDevice (input : DeviceUpdateInput) : StoreCall Device
  | deleteDevice (input : RowInput) : StoreCall Unit
  | findDeviceLatestProperties (input : RowInput) :
      StoreCall DeviceLatestProperties
  | findDevicePropertyTrend (input : DevicePropertyTrendInput) :
      StoreCall DevicePropertyTrend
  | listDeviceEventHistory (input : DeviceEventHistoryInput) :
      StoreCall (PageResult DeviceEventEntry)
  | listDeviceServiceCallHistory (input : CommandHistoryInput) :
      StoreCall (PageResult CommandHistoryEntry)
  | listDevicePropertySetHistory (input : CommandHistoryInput) :
      StoreCall (PageResult CommandHistoryEntry)

namespace StoreCall

variable {α : Type}

def actor : StoreCall α → Uuid
  | .createTenant input => input.userID
  | .listTenants input => input.userID
  | .findTenantByID input => input.userID
  | .updateTenant input => input.userID
  | .deleteTenant input => input.userID
  | .listTenantIDsByOwner userID => userID
  | .createProduct input => input.userID
  | .listProducts input => input.userID
  | .findProductByID input => input.userID
  | .updateProduct input => input.userID
  | .deleteProduct input => input.userID
  | .createThingsModel input => input.userID
  | .listThingsModels input => input.userID
  | .findThingsModelByID input => input.userID
  | .updateThingsModel input => input.userID
  | .deleteThingsModel input => input.userID
  | .findDeviceProductAuthType input => input.userID
  | .createDevice input => input.userID
  | .listDevices input => input.userID
  | .findDeviceByID input => input.userID
  | .findDeviceServiceCallTarget input => input.userID
  | .findDevicePropertySetTarget input => input.userID
  | .updateDevice input => input.userID
  | .deleteDevice input => input.userID
  | .findDeviceLatestProperties input => input.userID
  | .findDevicePropertyTrend input => input.userID
  | .listDeviceEventHistory input => input.userID
  | .listDeviceServiceCallHistory input => input.userID
  | .listDevicePropertySetHistory input => input.userID

def run (out : Surroundings) (tables : EventTables) :
    StoreCall α → Database → Reply α
  | .createTenant input => Registry.createTenant out input
  | .listTenants input => Registry.listTenants out input
  | .findTenantByID input => Registry.findTenantByID out input
  | .updateTenant input => Registry.updateTenant out input
  | .deleteTenant input => Registry.deleteTenant out input
  | .listTenantIDsByOwner userID => Registry.listTenantIDsByOwner out userID
  | .createProduct input => Registry.createProduct out input
  | .listProducts input => Registry.listProducts out input
  | .findProductByID input => Registry.findProductByID out input
  | .updateProduct input => Registry.updateProduct out input
  | .deleteProduct input => Registry.deleteProduct out input
  | .createThingsModel input => Registry.createThingsModel out input
  | .listThingsModels input => Registry.listThingsModels out input
  | .findThingsModelByID input => Registry.findThingsModelByID out input
  | .updateThingsModel input => Registry.updateThingsModel out input
  | .deleteThingsModel input => Registry.deleteThingsModel out input
  | .findDeviceProductAuthType input =>
      Registry.findDeviceProductAuthType out input
  | .createDevice input => Registry.createDevice out input
  | .listDevices input => Registry.listDevices out input
  | .findDeviceByID input => Registry.findDeviceByID out input
  | .findDeviceServiceCallTarget input =>
      Registry.findDeviceServiceCallTarget out input
  | .findDevicePropertySetTarget input =>
      Registry.findDevicePropertySetTarget out input
  | .updateDevice input => Registry.updateDevice out input
  | .deleteDevice input => Registry.deleteDevice out input
  | .findDeviceLatestProperties input =>
      Registry.findDeviceLatestProperties out tables input
  | .findDevicePropertyTrend input =>
      Registry.findDevicePropertyTrend out tables input
  | .listDeviceEventHistory input =>
      Registry.listDeviceEventHistory out tables input
  | .listDeviceServiceCallHistory input =>
      Registry.listDeviceServiceCallHistory out tables input
  | .listDevicePropertySetHistory input =>
      Registry.listDevicePropertySetHistory out tables input

end StoreCall

end Calls

section Events

/-- The two states of the event tables have the same rows of the tenants a user
owns, and the same acknowledgements of these tenants' commands. -/
structure AgreeOnEvents (userID : Uuid) (db : Database)
    (tables tables' : EventTables) : Prop where
  rows : ∀ table tenantID, Owned userID db tenantID →
    ((tables table).filter fun row => row.tenantID = Uuid.text tenantID) =
      (tables' table).filter fun row => row.tenantID = Uuid.text tenantID
  acks : ∀ kind tenantID, Owned userID db tenantID →
    ∀ command ∈ tables (CommandKind.table kind),
    command.tenantID = Uuid.text tenantID →
    (tables kind.ackTable).filter (acknowledges command) =
      (tables' kind.ackTable).filter (acknowledges command)

variable {userID : Uuid} {db : Database} {tables tables' : EventTables}
  {out : Surroundings}

/-- Lists with the same elements of a condition have the same elements of a
stronger one. -/
theorem filter_eq_of_imp {α : Type} {weak strong : α → Bool}
    {items others : List α} (hsame : items.filter weak = others.filter weak)
    (himp : ∀ item, strong item = true → weak item = true) :
    items.filter strong = others.filter strong := by
  have hboth : ∀ list : List α, list.filter strong =
      (list.filter weak).filter strong := by
    intro list
    rw [List.filter_filter]
    apply List.filter_congr
    intro item _
    cases hstrong : strong item with
    | false => rfl
    | true => rw [himp item hstrong]; rfl
  rw [hboth items, hboth others, hsame]

/-- The scope an actor finds is in one of the actor's tenants. -/
theorem owned_of_scope? {id : Uuid} {scope : DeviceScope}
    (hscope : (Session.actor userID).scope? id db = some scope) :
    Owned userID db scope.device.tenantID := by
  rw [Session.scope?] at hscope
  obtain ⟨device, hdevice, hproduct⟩ := Option.bind_eq_some_iff.mp hscope
  obtain ⟨product, -, rfl⟩ := Option.map_eq_some_iff.mp hproduct
  have hsees := List.find?_some hdevice
  rw [Bool.and_eq_true, seesDevice_actor, owns_actor] at hsees
  exact hsees.1

/-- A view of the rows of a device that an actor finds shows the same over both
states of the event tables. -/
theorem AgreeOnEvents.filter_scope
    (hevents : AgreeOnEvents userID db tables tables')
    {scope : DeviceScope} (howned : Owned userID db scope.device.tenantID)
    (table : Processor.Table) {keep : EventRow → Bool}
    (hkeep : ∀ row, keep row = true → scope.holds row = true) :
    (tables table).filter keep = (tables' table).filter keep := by
  apply filter_eq_of_imp (hevents.rows table _ howned)
  intro row hrow
  have hholds := hkeep row hrow
  simp only [DeviceScope.holds, Bool.and_eq_true] at hholds
  exact hholds.1.1

/-- The scope an actor finds is in one of the actor's tenants, and what follows
need only be the same for such a scope. -/
theorem ownScope_bind_congr {α : Type} {id : String}
    {next next' : DeviceScope → Statement α}
    (hnext : ∀ scope, Owned userID db scope.device.tenantID →
      next scope db = next' scope db) :
    (findScope out (.actor userID) id >>= next) db =
      (findScope out (.actor userID) id >>= next') db :=
  findScope_bind_congr fun scope _ hscope =>
    hnext scope (owned_of_scope? hscope)

variable (hevents : AgreeOnEvents userID db tables tables')
include hevents

theorem AgreeOnEvents.latestProperties_eq {scope : DeviceScope}
    (howned : Owned userID db scope.device.tenantID) :
    latestProperties tables scope = latestProperties tables' scope := by
  have hlatest : latestReport tables scope = latestReport tables' scope := by
    unfold latestReport
    rw [hevents.filter_scope howned _ fun _ hrow => hrow]
  unfold latestProperties
  rw [hlatest]

theorem AgreeOnEvents.trendSamples_eq {scope : DeviceScope}
    (howned : Owned userID db scope.device.tenantID)
    (input : DevicePropertyTrendInput) :
    trendSamples tables scope input = trendSamples tables' scope input := by
  unfold trendSamples trendRows
  rw [hevents.filter_scope howned _ fun row hrow => ?_]
  simp only [Bool.and_eq_true] at hrow
  exact hrow.1.1

theorem AgreeOnEvents.listScope_eq {scope : DeviceScope}
    (howned : Owned userID db scope.device.tenantID) (table : Processor.Table)
    (keep : EventRow → Bool) (input : PageInput) :
    listScope out tables table keep input scope =
      listScope out tables' table keep input scope := by
  unfold listScope
  rw [hevents.filter_scope howned table fun row hrow => ?_]
  exact (Bool.and_eq_true _ _ ▸ hrow : _ ∧ _).1

theorem AgreeOnEvents.latestAck_eq {kind : CommandKind} {command : EventRow}
    {tenantID : Uuid} (howned : Owned userID db tenantID)
    (hcommand : command ∈ tables kind.table)
    (htenant : command.tenantID = Uuid.text tenantID) :
    latestAck (tables kind.ackTable) command =
      latestAck (tables' kind.ackTable) command := by
  unfold latestAck
  rw [hevents.acks kind tenantID howned command hcommand htenant]

theorem AgreeOnEvents.findDeviceLatestProperties_eq (input : RowInput)
    (huser : input.userID = userID) :
    findDeviceLatestProperties out tables input db =
      findDeviceLatestProperties out tables' input db := by
  subst huser
  apply storeCall_congr
  apply ownScope_bind_congr
  intro scope howned
  rw [hevents.latestProperties_eq howned]

theorem AgreeOnEvents.findDevicePropertyTrend_eq
    (input : DevicePropertyTrendInput) (huser : input.userID = userID) :
    findDevicePropertyTrend out tables input db =
      findDevicePropertyTrend out tables' input db := by
  subst huser
  apply storeCall_congr
  apply ownScope_bind_congr
  intro scope howned
  rw [hevents.trendSamples_eq howned]

theorem AgreeOnEvents.listHistory_eq (id : String) (table : Processor.Table)
    (keep : EventRow → Bool) (input : PageInput) :
    listHistory out tables (.actor userID) id table keep input db =
      listHistory out tables' (.actor userID) id table keep input db := by
  apply ownScope_bind_congr
  intro scope howned
  rw [hevents.listScope_eq howned]

theorem AgreeOnEvents.listDeviceEventHistory_eq
    (input : DeviceEventHistoryInput) (huser : input.userID = userID) :
    listDeviceEventHistory out tables input db =
      listDeviceEventHistory out tables' input db := by
  subst huser
  have hmap := fun tables => storeCall_map out "device" input.userID
    (findError .device "list device event history")
    (fun session => listHistory out tables session input.id .eventReport
      (fun row => input.eventName = "" ||
        row.text "event_name" = input.eventName)
      input.toPageInput)
    (fun found => found.2.map (eventEntry found.1)) db
  refine (hmap tables).trans (Eq.trans ?_ (hmap tables').symm)
  refine congrArg (Prod.map _ id) (storeCall_congr ?_)
  exact hevents.listHistory_eq _ _ _ _

/-- The commands of the page are of the actor's tenant, so their outcomes are
the same. -/
theorem AgreeOnEvents.history_eq (kind : CommandKind)
    (input : CommandHistoryInput) (huser : input.userID = userID) :
    (kind.history out tables input db).1 =
      (kind.history out tables' input db).1 := by
  subst huser
  have hlist : listCommands kind out input db tables =
      listCommands kind out input db tables' :=
    storeCall_congr (hevents.listHistory_eq _ _ _ _)
  rw [Registry.history_eq, Registry.history_eq, ← hlist]
  cases hlisted : (listCommands kind out input db tables).1 with
  | error err => rfl
  | ok found =>
      obtain ⟨scope, page⟩ := found
      obtain ⟨next, hbody⟩ := storeCall_eq_ok hlisted
      obtain ⟨-, ⟨deviceID, -, hscope⟩, hitems⟩ := listHistory_eq_ok hbody
      have hentries : page.items.map
            (commandEntry out tables kind input.ackDeadlineSeconds scope) =
          page.items.map
            (commandEntry out tables' kind input.ackDeadlineSeconds scope) := by
        apply List.map_congr_left
        intro command hcommand
        obtain ⟨hmem, hholds, -⟩ := hitems command hcommand
        simp only [DeviceScope.holds, Bool.and_eq_true,
          decide_eq_true_eq] at hholds
        unfold commandEntry
        rw [hevents.latestAck_eq (owned_of_scope? hscope) hmem hholds.1.1]
      simp only [Except.map, commandEntries, PageResult.map, hentries]

end Events

section Confinement

variable {R : Type} {schema : TableSchema R ℕ} {userID : Uuid}
    {db next : Database}
  {tenantOf : R → Uuid} {table after : Table schema} {row old : R}

/-- The rows of other tenants are as they were. -/
def Untouched (userID : Uuid) (db : Database) (tenantOf : R → Uuid)
    (table after : Table schema) : Prop :=
  ∀ row, ¬ Owned userID db (tenantOf row) → (row ∈ after ↔ row ∈ table)

/-- Only tenants of the user and rows of tenants the user owns have changed. -/
structure Confined (userID : Uuid) (db next : Database) : Prop where
  users : next.users = db.users
  tenants : ∀ tenant : Tenant, tenant.ownerUserID ≠ userID →
    (tenant ∈ next.tenants ↔ tenant ∈ db.tenants)
  products : Untouched userID db Product.tenantID db.products next.products
  models : Untouched userID db ThingsModel.tenantID db.models next.models
  devices : Untouched userID db Device.tenantID db.devices next.devices
  credentials : Untouched userID db Credential.tenantID db.credentials
    next.credentials

theorem Untouched.refl : Untouched userID db tenantOf table table :=
  fun _ _ => Iff.rfl

theorem Confined.refl : Confined userID db db :=
  ⟨rfl, fun _ _ => Iff.rfl, .refl, .refl, .refl, .refl⟩

theorem Untouched.adds (howned : Owned userID db (tenantOf row))
    (hadds : table.Adds row after) :
    Untouched userID db tenantOf table after := by
  intro other hother
  have hne : other ≠ row := fun heq => hother (heq ▸ howned)
  rw [hadds.2, or_iff_right hne]

theorem Untouched.removes (howned : Owned userID db (tenantOf old))
    (hremoves : table.Removes old after) :
    Untouched userID db tenantOf table after := by
  intro other hother
  have hne : other ≠ old := fun heq => hother (heq ▸ howned)
  rw [hremoves.2, and_iff_left hne]

theorem Untouched.replaces (howned : Owned userID db (tenantOf old))
    (htenant : tenantOf row = tenantOf old)
    (hreplaces : table.Replaces old row after) :
    Untouched userID db tenantOf table after := by
  intro other hother
  have hne : other ≠ old := fun heq => hother (heq ▸ howned)
  have hne' : other ≠ row := fun heq => hother (heq ▸ htenant ▸ howned)
  rw [hreplaces.2.2, or_iff_right hne', and_iff_left hne]

theorem Untouched.trans {middle : Table schema}
    (hfirst : Untouched userID db tenantOf table middle)
    (hsecond : Untouched userID db tenantOf middle after) :
    Untouched userID db tenantOf table after :=
  fun row hrow => (hsecond row hrow).trans (hfirst row hrow)

/-- Clearing the current model of a product keeps to the product's tenant. -/
theorem Untouched.clears {out : Surroundings} {tenantID productID : Uuid}
    {exceptID : Option Uuid} {isCurrent : Bool}
    {models cleared : Table modelSchema} (howned : Owned userID db tenantID)
    (hcleared : if isCurrent then
        Clears out tenantID productID exceptID models cleared
      else cleared = models) :
    Untouched userID db ThingsModel.tenantID models cleared := by
  cases isCurrent with
  | false =>
      cases hcleared
      exact .refl
  | true =>
      intro model hmodel
      rw [hcleared model]
      have hkept : ∀ old : ThingsModel, old.tenantID = model.tenantID →
          clearsModel tenantID productID exceptID old = false := by
        intro old hsame
        cases hclears : clearsModel tenantID productID exceptID old with
        | false => rfl
        | true =>
            simp only [clearsModel, Bool.and_eq_true,
              decide_eq_true_eq] at hclears
            exact absurd (hsame ▸ hclears.1.1.1 ▸ howned) hmodel
      constructor
      · rintro ⟨old, hold, rfl⟩
        have hsame : old.tenantID =
            (if clearsModel tenantID productID exceptID old
            then old.cleared out else old).tenantID := by split <;> rfl
        rw [hkept old hsame]
        exact hold
      · intro hmem
        exact ⟨model, hmem, by rw [hkept model rfl]; rfl⟩

theorem Wrote.confined {bcrypt : Bcrypt} {call : Call}
    (hwrote : Wrote bcrypt call db next) : Confined call.userID db next := by
  cases hwrote with
  | nothing => exact .refl
  | @tenantCreated tenant _ hid howner huser hadds =>
      refine ⟨rfl, fun other hother => ?_, .refl, .refl, .refl, .refl⟩
      have hne : other ≠ tenant := fun heq => hother (heq ▸ howner)
      rw [hadds.2, or_iff_right hne]
  | @tenantUpdated old tenant _ howner hsame hreplaces =>
      refine ⟨rfl, fun other hother => ?_, .refl, .refl, .refl, .refl⟩
      have hne : other ≠ old := fun heq => hother (heq ▸ howner)
      have hne' : other ≠ tenant := fun heq =>
        hother (heq ▸ hsame.2.1.trans howner)
      rw [hreplaces.2.2, or_iff_right hne', and_iff_left hne]
  | @tenantDeleted old _ hdeletes howner hremoves =>
      refine ⟨rfl, fun other hother => ?_, .refl, .refl, .refl, .refl⟩
      have hne : other ≠ old := fun heq => hother (heq ▸ howner)
      rw [hremoves.2, and_iff_left hne]
  | productCreated hid howned hadds =>
      exact { Confined.refl with products := .adds howned hadds }
  | productUpdated howned hsame hauth hreplaces =>
      exact { Confined.refl with
        products := .replaces howned hsame.2.1 hreplaces }
  | productDeleted hdeletes howned hunused hremoves =>
      exact { Confined.refl with products := .removes howned hremoves }
  | modelCreated hid howned hproduct hcleared hpublished hadds =>
      exact { Confined.refl with
        models := (Untouched.clears howned hcleared).trans
            (.adds howned hadds) }
  | modelUpdated howned hproduct hsame hcleared hpublished hreplaces =>
      exact { Confined.refl with
        models := (Untouched.clears howned hcleared).trans
          (.replaces howned hsame.2.1 hreplaces) }
  | modelDeleted hdeletes howned hremoves =>
      exact { Confined.refl with models := .removes howned hremoves }
  | deviceCreated hregisters hid howned hstatus hproduct hgateway hadds
      hcredential =>
      refine { Confined.refl with
        devices := .adds howned hadds, credentials := ?_ }
      split at hcredential
      · cases hcredential
        exact .refl
      · exact .adds howned hcredential
  | deviceUpdated howned hsame hgateway hreplaces =>
      exact { Confined.refl with
        devices := .replaces howned hsame.2.1 hreplaces }
  | deviceDeleted hdeletes howned hunused hremoves =>
      exact { Confined.refl with devices := .removes howned hremoves }

end Confinement

section Reads

variable {α β : Type} {out : Surroundings} {userID : Uuid} {db : Database}
  {tables : EventTables}

/-- The statements leave the database as it is. -/
def Reads (tx : Statement α) : Prop := Keeps (fun db next => next = db) tx

theorem Reads.bind {first : Statement α} {next : α → Statement β}
    (hfirst : Reads first) (hnext : ∀ value, Reads (next value)) :
    Reads (first >>= next) :=
  Keeps.bind (fun _ _ _ hone htwo => htwo.trans hone) hfirst hnext

theorem Reads.pure (value : α) : Reads (Pure.pure value) :=
  fun _ _ _ hok => congrArg Prod.snd (Transaction.pure_eq_ok.mp hok)

theorem reads_command (stage : Stage) : Reads (out.command stage) :=
  fun _ _ _ hok => (command_eq_ok.mp hok).2.symm

theorem reads_uuidParam (text : String) : Reads (uuidParam text) :=
  fun _ _ _ hok => (uuidParam_eq_ok.mp hok).2.symm

theorem reads_read (f : Database → α) : Reads (Transaction.read f) :=
  fun _ _ _ hok => congrArg Prod.snd (Transaction.read_eq_ok.mp hok)

theorem reads_queryRow (row : Database → Option α) : Reads (queryRow row) :=
  fun _ _ _ hok => (queryRow_eq_ok.mp hok).2.symm

theorem reads_listRows (before : α → α → Bool) (input : PageInput)
    (rows : Database → List α) : Reads (listRows out before input rows) :=
  fun _ _ _ hok => (listRows_eq_ok hok).1

theorem reads_findScope (session : Session) (id : String) :
    Reads (findScope out session id) :=
  fun _ _ _ hok => (findScope_eq_ok hok).1

theorem reads_listHistory (session : Session) (id : String)
    (table : Processor.Table) (keep : EventRow → Bool) (input : PageInput) :
    Reads (listHistory out tables session id table keep input) :=
  fun _ _ _ hok => (listHistory_eq_ok hok).1

/-- A query for one row by its id. -/
theorem reads_findRow (id : String) (row : Uuid → Database → Option α) :
    Reads (do
      out.command .query
      let id ← uuidParam id
      queryRow (row id)) :=
  (reads_command .query).bind fun _ => (reads_uuidParam id).bind fun found =>
    reads_queryRow (row found)

theorem Reads.storeCall {scope : String} {translate : Failure → Failure}
    {body : Session → Statement α} (hreads : Reads (body (.actor userID))) :
    (storeCall out scope userID translate body db).2 = db := by
  rcases storeCall_cases out scope userID translate body db with
    ⟨err, hcall⟩ | ⟨value, next, hbody, hcall⟩
  · rw [hcall]
  · rw [hcall]
    exact hreads _ _ _ hbody

/-- A call that fails leaves the database as it is. -/
theorem storeCall_failed {scope : String} {translate : Failure → Failure}
    {body : Session → Statement α} {err : Failure}
    (hfailed : (storeCall out scope userID translate body db).1 = .error err) :
    (storeCall out scope userID translate body db).2 = db := by
  rcases storeCall_cases out scope userID translate body db with
    ⟨_, hcall⟩ | ⟨value, next, hbody, hcall⟩
  · rw [hcall]
  · rw [hcall] at hfailed
    cases hfailed

theorem storeCall_confined {scope : String} {translate : Failure → Failure}
    {body : Session → Statement α}
    (hbody : ∀ value next, body (.actor userID) db = .ok (value, next) →
      Confined userID db next) :
    Confined userID db (storeCall out scope userID translate body db).2 := by
  rcases storeCall_cases out scope userID translate body db with
    ⟨_, hcall⟩ | ⟨value, next, hok, hcall⟩
  · rw [hcall]
    exact .refl
  · rw [hcall]
    exact hbody value next hok

theorem Reads.confined {scope : String} {translate : Failure → Failure}
    {body : Session → Statement α} (hreads : Reads (body (.actor userID))) :
    Confined userID db (Registry.storeCall out scope userID
      translate body db).2 := by
  rw [hreads.storeCall]
  exact .refl

end Reads

section Isolation

variable {α : Type}

/-- What a write of one row is described by. -/
def writing (out : Surroundings) (userID : Uuid) (deletes : Deletes)
    (authType : Option (Uuid × AuthType)) : Call :=
  ⟨out, userID, deletes, authType, false⟩

/-- The row that the store deletes, if the text is an id. -/
def Deletes.row (kind : Uuid → Deletes) (id : String) : Deletes :=
  ((Uuid.ofText? id).map kind).getD .nothing

theorem deletes_row {kind : Uuid → Deletes} {id : String} (found : Uuid)
    (hparse : Uuid.ofText? id = some found) :
    Deletes.row kind id = kind found := by
  rw [Deletes.row, hparse]
  rfl

theorem confined_of_wrote {out : Surroundings} {userID : Uuid}
    {db next : Database} (deletes : Deletes)
    (authType : Option (Uuid × AuthType))
    (hwrote : Wrote plainBcrypt (writing out userID deletes authType) db next) :
    Confined userID db next :=
  hwrote.confined

theorem insertDevice_confined {out : Surroundings} {userID : Uuid}
    {db next : Database} {input : DeviceCreateInput} {device : Device}
    (hok : insertDevice out (.actor userID) input db = .ok (device, next)) :
    Confined userID db next := by
  obtain ⟨tenantID, productID, devices, credentials, -, -, -, howned, -, hadds,
    hcredential, rfl⟩ := insertDevice_eq_ok hok
  refine ⟨rfl, fun _ _ => Iff.rfl, .refl, .refl, .adds howned hadds, ?_⟩
  split at hcredential
  · cases hcredential
    exact .refl
  · exact .adds howned hcredential

theorem listThingsModels_confined (out : Surroundings)
    (input : ThingsModelListInput) (db : Database) :
    Confined input.userID db (listThingsModels out input db).2 := by
  apply Reads.confined
  split
  · exact (reads_uuidParam _).bind fun _ => reads_listRows _ _ _
  · refine Reads.bind (fun _ _ _ hok => (productBelongsToTenant_eq_ok hok).1)
      fun ok => ?_
    cases ok with
    | false => exact Keeps.fail _
    | true =>
        exact (reads_uuidParam _).bind fun _ =>
          (reads_uuidParam _).bind fun _ =>
          reads_listRows _ _ _

/-- A call changes nothing outside of what its actor owns. -/
theorem StoreCall.run_confined (call : StoreCall α) (out : Surroundings)
    (tables : EventTables) (db : Database) :
    Confined call.actor db (call.run out tables db).2 := by
  cases call <;> simp only [StoreCall.run]
  case createTenant input =>
    exact storeCall_confined fun _ _ hok => confined_of_wrote
      .nothing none (insertTenant_wrote rfl hok)
  case updateTenant input =>
    exact storeCall_confined fun _ _ hok => confined_of_wrote
      .nothing none (updateTenantRow_wrote hok)
  case deleteTenant input =>
    exact storeCall_confined fun _ _ hok => confined_of_wrote
      _ none (deleteTenantRow_wrote deletes_row hok)
  case createProduct input =>
    exact storeCall_confined fun _ _ hok => confined_of_wrote
      .nothing none (insertProduct_wrote hok)
  case updateProduct input =>
    exact storeCall_confined fun _ _ hok => confined_of_wrote
      .nothing _ (updateProductRow_wrote hok rfl)
  case deleteProduct input =>
    exact storeCall_confined fun _ _ hok => confined_of_wrote
      _ none (deleteProductRow_wrote deletes_row hok)
  case createThingsModel input =>
    exact storeCall_confined fun _ _ hok => confined_of_wrote
      .nothing none (insertThingsModel_wrote hok)
  case updateThingsModel input =>
    exact storeCall_confined fun _ _ hok => confined_of_wrote
      .nothing none (updateThingsModelRow_wrote hok)
  case deleteThingsModel input =>
    exact storeCall_confined fun _ _ hok => confined_of_wrote
      _ none (deleteThingsModelRow_wrote deletes_row hok)
  case createDevice input =>
    exact storeCall_confined fun _ _ hok => insertDevice_confined hok
  case updateDevice input =>
    exact storeCall_confined fun _ _ hok => confined_of_wrote
      .nothing none (updateDeviceRow_wrote hok)
  case deleteDevice input =>
    exact storeCall_confined fun _ _ hok => confined_of_wrote
      _ none (deleteDeviceRow_wrote deletes_row hok)
  case listTenants input => exact (reads_listRows _ _ _).confined
  case findTenantByID input => exact (reads_findRow _ _).confined
  case listTenantIDsByOwner userID =>
    exact ((reads_command _).bind fun _ => reads_read _).confined
  case listProducts input =>
    exact ((reads_uuidParam _).bind fun _ => reads_listRows _ _ _).confined
  case findProductByID input => exact (reads_findRow _ _).confined
  case listThingsModels input => exact listThingsModels_confined out input db
  case findThingsModelByID input => exact (reads_findRow _ _).confined
  case findDeviceProductAuthType input =>
    exact ((reads_command _).bind fun _ => (reads_uuidParam _).bind fun _ =>
      (reads_uuidParam _).bind fun _ => reads_queryRow _).confined
  case listDevices input =>
    exact ((reads_uuidParam _).bind fun _ => reads_listRows _ _ _).confined
  case findDeviceByID input => exact (reads_findRow _ _).confined
  case findDeviceServiceCallTarget input => exact (reads_findRow _ _).confined
  case findDevicePropertySetTarget input => exact (reads_findRow _ _).confined
  case findDeviceLatestProperties input =>
    exact ((reads_findScope _ _).bind fun _ => .pure _).confined
  case findDevicePropertyTrend input =>
    exact ((reads_findScope _ _).bind fun _ => (reads_command _).bind fun _ =>
      .pure _).confined
  case listDeviceEventHistory input =>
    exact ((reads_listHistory _ _ _ _ _).bind fun _ => .pure _).confined
  case listDeviceServiceCallHistory input =>
    exact ((reads_listHistory _ _ _ _ _).bind fun _ => .pure _).confined
  case listDevicePropertySetHistory input =>
    exact ((reads_listHistory _ _ _ _ _).bind fun _ => .pure _).confined

theorem StoreCall.run_failed (call : StoreCall α) (out : Surroundings)
    (tables : EventTables) (db : Database) {err : Failure}
    (hfailed : (call.run out tables db).1 = .error err) :
    (call.run out tables db).2 = db := by
  cases call <;> simp only [StoreCall.run] at hfailed ⊢ <;>
    exact storeCall_failed hfailed

/-- The body fails, or the call fails alike on every database before it. -/
theorem storeCall_error {out : Surroundings} {scope : String} {userID : Uuid}
    {translate : Failure → Failure} (body : Session → Statement α)
    {db : Database} {err : Failure}
    (hbody : body (.actor userID) db = .error err)
    (other : Database) :
    (storeCall out scope userID translate body db).1 = .error (translate err) ∨
      (storeCall out scope userID translate body db).1 =
        (storeCall out scope userID translate body other).1 := by
  simp only [storeCall, withSession, Transaction.run, Transaction.mapError,
    Surroundings.command, Transaction.lift, bind, pure]
  cases out.ctxErr .store with
  | some err => exact Or.inr rfl
  | none =>
      cases out.outcome .begin with
      | error err => exact Or.inr rfl
      | ok _ =>
          cases out.outcome .setActor with
          | error err => exact Or.inr rfl
          | ok _ =>
              simp only [Except.mapError, Except.map, hbody]
              exact Or.inl trivial

/-- Creating a tenant reports the same unless one of the runs meets a slug that
is taken. -/
theorem createTenant_same {out : Surroundings} {db db' : Database}
    (input : TenantCreateInput) (hstart : Start input.userID out db db') :
    (createTenant out input db).1 = (createTenant out input db').1 ∨
      (createTenant out input db).1 = .error (.alreadyExists .tenant) ∨
      (createTenant out input db').1 = .error (.alreadyExists .tenant) := by
  have htranslate : createError .tenant "insert tenant"
      (.sql .uniqueViolation) = .alreadyExists .tenant := rfl
  rcases insertTenant_alike hstart input rfl with halike | hfirst | hsecond
  · have htwins : Twins (fun first second => first = db ∧ second = db')
        (insertTenant out (.actor input.userID) input)
        fun _ => Agree input.userID := by
      rintro _ _ ⟨rfl, rfl⟩
      exact halike
    exact Or.inl (storeCall_twins htwins ⟨rfl, rfl⟩)
  · rcases storeCall_error (insertTenant out · input) hfirst db' with herr |
      hsame
    · exact Or.inr (Or.inl (herr.trans (congrArg _ htranslate)))
    · exact Or.inl hsame
  · rcases storeCall_error (insertTenant out · input) hsecond db with herr |
      hsame
    · exact Or.inr (Or.inr (herr.trans (congrArg _ htranslate)))
    · exact Or.inl hsame.symm

theorem twins_findRow {out : Surroundings} {pre : Database → Database → Prop}
    {id : String} {row : Uuid → Database → Option α}
    (hsame : ∀ first second, pre first second → ∀ id,
      row id first = row id second) :
    Twins pre (do
      out.command .query
      let id ← uuidParam id
      queryRow (row id)) fun _ => pre := by
  apply (twins_command .query).bind
  intro _
  refine (twins_uuidParam id).bind fun found => Twins.of_and fun _ => ?_
  exact (twins_queryRow fun first second hrel =>
    hsame first second hrel found).left

theorem Agree.seesTenant_filter {userID : Uuid} {first second : Database}
    (hagree : Agree userID first second) :
    first.tenants.rows.filter (Session.actor userID).seesTenant =
      second.tenants.rows.filter (Session.actor userID).seesTenant := by
  have hsees : (Session.actor userID).seesTenant = fun tenant =>
      (Session.actor userID).ownsRow tenant && true := by
    funext tenant
    rw [seesTenant_actor, Bool.and_true]
  rw [hsees]
  exact hagree.tenants_filter fun _ => true

theorem twins_findAuthType {out : Surroundings} {userID : Uuid}
    (input : DeviceProductAuthInput) :
    Twins (Agree userID) (do
      out.command .query
      let id ← uuidParam input.productID
      let tenantID ← uuidParam input.tenantID
      queryRow fun db =>
        (db.products.rows.find? fun product =>
          (Session.actor userID).seesProduct db product && product.id = id &&
            product.tenantID = tenantID).map Product.authType)
      fun _ => Agree userID := by
  apply (twins_command .query).bind
  intro _
  refine (twins_uuidParam _).bind fun id => Twins.of_and fun _ => ?_
  refine (twins_uuidParam _).bind fun tenantID => Twins.of_and fun _ => ?_
  refine (twins_queryRow fun first second hrel => ?_).left
  rw [Table.find?_congr (hrel.productIn_where id tenantID)]

theorem twins_findScope {out : Surroundings} {userID : Uuid}
    {pre : Database → Database → Prop}
    (hpre : ∀ first second, pre first second → Agree userID first second)
    (id : String) :
    Twins pre (findScope out (.actor userID) id) fun _ => pre := by
  apply (twins_command .check).bind
  intro _
  refine (twins_uuidParam id).bind fun found => Twins.of_and fun _ => ?_
  exact (twins_queryRow fun first second hrel =>
    (hpre first second hrel).scope?_eq found).left

theorem twins_latestProperties {out : Surroundings} {userID : Uuid}
    {tables : EventTables} (input : RowInput) :
    Twins (Agree userID) (do
      let scope ← findScope out (.actor userID) input.id
      return latestProperties tables scope) fun _ => Agree userID := by
  refine (twins_findScope (fun _ _ hrel => hrel) input.id).bind fun scope => ?_
  exact Twins.pure fun _ _ hrel => hrel

theorem twins_propertyTrend {out : Surroundings} {userID : Uuid}
    {tables : EventTables} (input : DevicePropertyTrendInput) :
    Twins (Agree userID) (do
      let scope ← findScope out (.actor userID) input.id
      out.command .query
      let samples := trendSamples tables scope input
      return (⟨scope, input,
        trendSeries (trendPoints input.aggregate samples) input.properties⟩ :
          DevicePropertyTrend))
      fun _ => Agree userID := by
  refine (twins_findScope (fun _ _ hrel => hrel) input.id).bind fun scope => ?_
  apply (twins_command .query).bind
  intro _
  exact Twins.pure fun _ _ hrel => hrel

/-- A history's page, through a function of the page. -/
theorem twins_listHistory {out : Surroundings} {userID : Uuid}
    {tables : EventTables} (id : String) (table : Processor.Table)
    (keep : EventRow → Bool) (input : PageInput)
    (f : DeviceScope × PageResult EventRow → α) :
    Twins (Agree userID)
      (listHistory out tables (.actor userID) id table keep input >>=
        fun found => pure (f found)) fun _ => Agree userID := by
  refine Twins.bind (?_ : Twins _ _ fun _ => Agree userID)
    fun _ => Twins.pure fun _ _ hrel => hrel
  refine (twins_findScope (fun _ _ hrel => hrel) id).bind fun scope => ?_
  refine (twins_listRows fun first second _ => rfl).bind fun page => ?_
  exact Twins.pure fun _ _ hrel => hrel

theorem twins_listThingsModels {out : Surroundings} {userID : Uuid}
    (input : ThingsModelListInput) :
    Twins (Agree userID) (
      if input.productID = "" then do
        let tenantID ← uuidParam input.tenantID
        listRows out (newestFirst ThingsModel.updatedAt ThingsModel.id)
          input.toPageInput fun db => db.models.rows.filter fun model =>
            (Session.actor userID).seesModel db model &&
            model.tenantID = tenantID
      else do
        let ok ← productBelongsToTenant out (.actor userID) input.productID
          input.tenantID
        if !ok then .fail (.invalidInput .thingsModel)
        else
          let tenantID ← uuidParam input.tenantID
          let productID ← uuidParam input.productID
          listRows out (newestFirst ThingsModel.updatedAt ThingsModel.id)
            input.toPageInput fun db => db.models.rows.filter fun model =>
              (Session.actor userID).seesModel db model &&
                model.tenantID = tenantID && model.productID = productID)
      fun _ => Agree userID := by
  split
  · refine (twins_uuidParam _).bind fun tenantID => Twins.of_and fun _ => ?_
    apply twins_listRows
    intro first second hrel
    simp only [seesModel_actor]
    exact Table.filter_congr (hrel.models.where_iff hrel fun model =>
      model.tenantID = tenantID)
  · refine (twins_productBelongsToTenant (fun _ _ hrel => hrel) _ _).bind
      fun ok => ?_
    cases ok with
    | false => exact Twins.fail _
    | true =>
        refine (twins_uuidParam _).bind fun tenantID => Twins.of_and fun _ => ?_
        refine (twins_uuidParam _).bind fun productID =>
          Twins.of_and fun _ => ?_
        apply twins_listRows
        intro first second hrel
        simp only [seesModel_actor, Bool.and_assoc]
        exact Table.filter_congr (hrel.models.where_iff hrel fun model =>
          model.tenantID = tenantID && model.productID = productID)

def StoreCall.createsTenant : StoreCall α → Bool
  | .createTenant _ => true
  | _ => false

/-- Over two registries that agree and the same event tables every other call
reports the same. -/
theorem StoreCall.run_same (call : StoreCall α) {out : Surroundings}
    {tables : EventTables} {db db' : Database}
    (hstart : Start call.actor out db db')
    (hother : call.createsTenant = false) :
    (call.run out tables db).1 = (call.run out tables db').1 := by
  have hagree := hstart.agree
  cases call <;> simp only [StoreCall.run]
  case createTenant input => cases hother
  case updateTenant input =>
    exact storeCall_twins (twins_updateTenantRow input) hagree
  case deleteTenant input =>
    exact storeCall_twins (twins_deleteTenantRow input.id) hagree
  case createProduct input =>
    exact storeCall_twins (twins_insertProduct input) hstart
  case updateProduct input =>
    exact storeCall_twins (twins_updateProductRow input) hagree
  case deleteProduct input =>
    exact storeCall_twins (twins_deleteProductRow input.id) hagree
  case createThingsModel input =>
    exact storeCall_twins (twins_insertThingsModel input) hstart
  case updateThingsModel input =>
    exact storeCall_twins (twins_updateThingsModelRow input) hagree
  case deleteThingsModel input =>
    exact storeCall_twins (twins_deleteThingsModelRow input.id) hagree
  case createDevice input =>
    exact storeCall_twins (twins_insertDevice input) hstart
  case updateDevice input =>
    exact storeCall_twins (twins_updateDeviceRow input) hagree
  case deleteDevice input =>
    exact storeCall_twins (twins_deleteDeviceRow input.id) hagree
  case listTenants input =>
    exact storeCall_twins (twins_listRows fun first second hrel =>
      hrel.seesTenant_filter) hagree
  case findTenantByID input =>
    refine storeCall_twins (twins_findRow fun first second hrel id => ?_) hagree
    rw [tenant?_actor, tenant?_actor]
    exact hrel.ownTenant?_eq id
  case listTenantIDsByOwner userID =>
    refine storeCall_twins ((twins_command .query).bind fun _ =>
      Twins.read fun first second hrel => ?_) hagree
    simp only [seesTenant_actor]
    exact congrArg (List.map Tenant.id)
      (hrel.tenants_filter fun tenant => tenant.ownerUserID = userID)
  case listProducts input =>
    refine storeCall_twins ((twins_uuidParam _).bind fun tenantID =>
      Twins.of_and fun _ => twins_listRows fun first second hrel => ?_) hagree
    simp only [seesProduct_actor]
    exact Table.filter_congr (hrel.products.where_iff hrel fun product =>
      product.tenantID = tenantID)
  case findProductByID input =>
    refine storeCall_twins (twins_findRow fun first second hrel id => ?_) hagree
    simp only [Session.product?, seesProduct_actor]
    exact hrel.ownProduct?_eq id
  case listThingsModels input =>
    exact storeCall_twins (twins_listThingsModels input) hagree
  case findThingsModelByID input =>
    refine storeCall_twins (twins_findRow fun first second hrel id => ?_) hagree
    rw [model?_actor, model?_actor]
    exact hrel.ownModel?_eq id
  case findDeviceProductAuthType input =>
    exact storeCall_twins (twins_findAuthType input) hagree
  case listDevices input =>
    refine storeCall_twins ((twins_uuidParam _).bind fun tenantID =>
      Twins.of_and fun _ => twins_listRows fun first second hrel => ?_) hagree
    simp only [Bool.and_assoc]
    exact Table.filter_congr (hrel.devices_where fun device =>
      device.tenantID = tenantID && (input.productID = "" ||
        Uuid.text device.productID = input.productID))
  case findDeviceByID input =>
    exact storeCall_twins (twins_findRow fun first second hrel id =>
      hrel.device?_eq id) hagree
  case findDeviceServiceCallTarget input =>
    exact storeCall_twins (twins_findRow fun first second hrel id =>
      hrel.deviceTarget?_eq _ id) hagree
  case findDevicePropertySetTarget input =>
    exact storeCall_twins (twins_findRow fun first second hrel id =>
      hrel.deviceTarget?_eq _ id) hagree
  case findDeviceLatestProperties input =>
    exact storeCall_twins (twins_latestProperties input) hagree
  case findDevicePropertyTrend input =>
    exact storeCall_twins (twins_propertyTrend input) hagree
  case listDeviceEventHistory input =>
    exact storeCall_twins (twins_listHistory _ _ _ _ _) hagree
  case listDeviceServiceCallHistory input =>
    exact storeCall_twins (twins_listHistory _ _ _ _ _) hagree
  case listDevicePropertySetHistory input =>
    exact storeCall_twins (twins_listHistory _ _ _ _ _) hagree

/-- Over two states of the event tables that agree every call reports the
same. -/
theorem StoreCall.run_events (call : StoreCall α) {out : Surroundings}
    {tables tables' : EventTables} {db : Database}
    (hevents : AgreeOnEvents call.actor db tables tables') :
    (call.run out tables db).1 = (call.run out tables' db).1 := by
  cases call with
  | findDeviceLatestProperties input =>
      exact congrArg Prod.fst (hevents.findDeviceLatestProperties_eq input rfl)
  | findDevicePropertyTrend input =>
      exact congrArg Prod.fst (hevents.findDevicePropertyTrend_eq input rfl)
  | listDeviceEventHistory input =>
      exact congrArg Prod.fst (hevents.listDeviceEventHistory_eq input rfl)
  | listDeviceServiceCallHistory input =>
      exact hevents.history_eq .serviceCall input rfl
  | listDevicePropertySetHistory input =>
      exact hevents.history_eq .propertySet input rfl
  | _ => rfl

/-- A call changes only what its actor owns, and nothing when it fails.  Over
two states of the database that agree on what the actor owns, on its users row
and on the events of its tenants, it reports the same, but for the creation of a
tenant whose slug is taken. -/
theorem tenant_isolation (call : StoreCall α) (out : Surroundings)
    (tables : EventTables) (db : Database) :
    Confined call.actor db (call.run out tables db).2 ∧
      (∀ err, (call.run out tables db).1 = .error err →
        (call.run out tables db).2 = db) ∧
      ∀ db' tables', Agree call.actor db db' →
        AgreeOnEvents call.actor db tables tables' →
        Fresh out db → Fresh out db' →
        (call.run out tables db).1 = (call.run out tables' db').1 ∨
          call.createsTenant = true ∧
            ((call.run out tables db).1 = .error (.alreadyExists .tenant) ∨
              (call.run out tables' db').1 =
                .error (.alreadyExists .tenant)) := by
  refine ⟨call.run_confined out tables db,
    fun err => call.run_failed out tables db,
    fun db' tables' hagree hevents hfresh hfresh' => ?_⟩
  have hstart : Start call.actor out db db' := ⟨hagree, hfresh, hfresh'⟩
  cases hcreates : call.createsTenant with
  | false =>
      left
      have hagreeEvents : AgreeOnEvents call.actor db' tables tables' :=
        ⟨fun table tenantID howned =>
            hevents.rows table tenantID (hagree.owned_iff.mpr howned),
          fun kind tenantID howned =>
            hevents.acks kind tenantID (hagree.owned_iff.mpr howned)⟩
      rw [call.run_same hstart hcreates]
      exact call.run_events hagreeEvents
  | true =>
      cases call with
      | createTenant input =>
          exact (createTenant_same input hstart).imp_right fun htaken =>
            ⟨rfl, htaken⟩
      | _ => cases hcreates

end Isolation

section Unwinding

variable {userID actor : Uuid} {db next : Database}

/-- A tenant has one owner. -/
theorem Owned.unique {tenantID : Uuid} (howned : Owned userID db tenantID)
    (howned' : Owned actor db tenantID) : userID = actor := by
  obtain ⟨tenant, hmem, hid, howner⟩ := howned
  obtain ⟨tenant', hmem', hid', howner'⟩ := howned'
  have hsame : tenant = tenant' :=
    Table.eq_of_key hmem hmem' (congrArg BitVec.toNat (hid.trans hid'.symm))
  rw [← howner, ← howner', hsame]

/-- What one actor does leaves a registry that agrees with the old one on what
another user owns. -/
theorem Confined.agree (hconfined : Confined actor db next)
    (hne : userID ≠ actor) : Agree userID db next := by
  have hother : ∀ tenantID, Owned userID db tenantID →
      ¬ Owned actor db tenantID :=
    fun _ howned howned' => hne (howned.unique howned')
  exact
    { users := by rw [hconfined.users]
      tenants := fun tenant howner =>
        (hconfined.tenants tenant fun heq => hne (howner ▸ heq)).symm
      products := fun row howned =>
          (hconfined.products row (hother _ howned)).symm
      models := fun row howned => (hconfined.models row (hother _ howned)).symm
      devices := fun row howned =>
          (hconfined.devices row (hother _ howned)).symm
      credentials := fun row howned =>
        (hconfined.credentials row (hother _ howned)).symm }

theorem AgreeOnEvents.refl (tables : EventTables) :
    AgreeOnEvents userID db tables tables :=
  ⟨fun _ _ _ => rfl, fun _ _ _ _ _ _ => rfl⟩

end Unwinding

section Sample

instance (tenantID : Uuid) (db : Database) : Decidable (Unused tenantID db) :=
  decidable_of_iff
    ((∀ product ∈ db.products, product.tenantID ≠ tenantID) ∧
      (∀ model ∈ db.models, model.tenantID ≠ tenantID) ∧
      (∀ device ∈ db.devices, device.tenantID ≠ tenantID) ∧
      ∀ credential ∈ db.credentials, credential.tenantID ≠ tenantID)
    ⟨fun hall => ⟨hall.1, hall.2.1, hall.2.2.1, hall.2.2.2⟩,
      fun hunused => ⟨hunused.products, hunused.models, hunused.devices,
        hunused.credentials⟩⟩

instance (out : Surroundings) (db : Database) : Decidable (Fresh out db) :=
  decidable_of_iff
    ((∀ tenant ∈ db.tenants, tenant.id ≠ out.newID) ∧
      (∀ product ∈ db.products, product.id ≠ out.newID) ∧
      (∀ model ∈ db.models, model.id ≠ out.newID) ∧
      (∀ device ∈ db.devices, device.id ≠ out.newID) ∧
      (∀ credential ∈ db.credentials,
        credential.id ≠ out.newCredentialID ∧ credential.deviceID ≠ out.newID) ∧
      Unused out.newID db)
    ⟨fun hall => ⟨hall.1, hall.2.1, hall.2.2.1, hall.2.2.2.1, hall.2.2.2.2.1,
        hall.2.2.2.2.2⟩,
      fun hfresh => ⟨hfresh.tenants, hfresh.products, hfresh.models,
        hfresh.devices, hfresh.credentials, hfresh.unused⟩⟩

/-- The sample registry after a second user has created a tenant. -/
def twoTenants : Database :=
  ((StoreCall.createTenant ⟨8, "globex", "Globex"⟩).run (calmCall 4)
    (switchTables []) lampRegistry).2

/-- The first user finds a device as before. -/
theorem tenant_isolation_second_tenant :
    twoTenants.tenants.rows.length = 2 ∧
      ((StoreCall.findDeviceByID
        ⟨7, "00000000-0000-0000-0000-000000000003"⟩).run
          (calmCall 9) (switchTables []) lampRegistry).1 =
        ((StoreCall.findDeviceByID
            ⟨7, "00000000-0000-0000-0000-000000000003"⟩).run
          (calmCall 9) (switchTables []) twoTenants).1 := by
  refine ⟨by decide +kernel, ?_⟩
  have hconfined := StoreCall.run_confined
    (StoreCall.createTenant ⟨8, "globex", "Globex"⟩) (calmCall 4)
    (switchTables []) lampRegistry
  rcases (tenant_isolation
      (StoreCall.findDeviceByID ⟨7, "00000000-0000-0000-0000-000000000003"⟩)
      (calmCall 9) (switchTables []) lampRegistry).2.2 twoTenants
      (switchTables []) (hconfined.agree (by decide)) (.refl _)
      (by decide +kernel) (by decide +kernel) with hsame | ⟨hcreates, -⟩
  · exact hsame
  · cases hcreates

/-- An event of the device `b` of the sample product. -/
def alarmRow : EventRow where
  id := 11
  occurredAt := 5
  tenantID := "00000000-0000-0000-0000-000000000001"
  columns :=
    [("product_key", .str "lamp"), ("device_slug", .str "b"),
      ("event_name", .str "alarm"), ("protocol", .str "mqtt"),
      ("producer", .str "device-service"), ("trace_id", .null),
      ("correlation_id", .null), ("causation_id", .null), ("params", .obj []),
      ("raw", .null)]
  receivedAt := 5

def alarmTables (rows : List EventRow) : EventTables
  | .eventReport => rows
  | _ => []

/-- The events that a history of the sample device counts. -/
def countedEvents (rows : List EventRow) : Nat :=
  match ((StoreCall.listDeviceEventHistory
      ⟨⟨1, 20⟩, 7, "00000000-0000-0000-0000-000000000003", ""⟩).run (calmCall 9)
      (alarmTables rows) lampRegistry).1 with
  | .ok page => page.total
  | .error _ => 0

/-- Two states of the database that agree on tenants, products, models, devices
and credentials differ in what a device has reported. -/
theorem event_history_differs :
    Agree 7 lampRegistry lampRegistry ∧
      countedEvents [] = 0 ∧ countedEvents [alarmRow] = 1 :=
  ⟨.refl _, by decide +kernel, by decide +kernel⟩

end Sample

end Registry

end LinkFlow
