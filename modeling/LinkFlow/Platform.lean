/-
The backend and the event processor over one database: requests change the
registry, messages change the event tables and the connections of the devices,
and the processor reads the thing models that the registry has.
-/
import LinkFlow.DeviceViews
import LinkFlow.Lib.Transition
import LinkFlow.ProcessorBodies
import LinkFlow.RegistryServices

namespace LinkFlow

section Reports

/-- What the processor reads of a devices row. -/
def Registry.Device.reported (device : Registry.Device) : Processor.DeviceRow :=
  ⟨device.tenantID, device.connection, device.updatedAt⟩

variable (db : Registry.Database) (rows : Uuid → Option Processor.DeviceRow)

/-- A devices row after the processor has written its columns. -/
def Registry.Device.report (device : Registry.Device) : Registry.Device :=
  match rows device.id with
  | some row =>
      { device with connection := row.connection, updatedAt := row.updatedAt }
  | none => device

variable {rows}

/-- The columns it writes are in no index. -/
theorem report_keeps (device : Registry.Device) :
    (device.report rows).id = device.id ∧
      (device.report rows).tenantID = device.tenantID ∧
      (device.report rows).productID = device.productID ∧
      (device.report rows).deviceSlug = device.deviceSlug := by
  rw [Registry.Device.report]
  cases rows device.id <;> exact ⟨rfl, rfl, rfl, rfl⟩

theorem key_report (device : Registry.Device) :
    Registry.deviceSchema.key (device.report rows) =
      Registry.deviceSchema.key device := by
  simp only [Registry.deviceSchema, report_keeps]

variable (rows)

/-- The registry after the processor has written. -/
def Registry.Database.report : Registry.Database :=
  { db with
    devices :=
      (db.devices.map? (·.report rows) key_report).getD db.devices }

variable {db rows}

theorem mem_report {device : Registry.Device} :
    device ∈ (db.report rows).devices ↔
      ∃ old ∈ db.devices, old.report rows = device := by
  have hsome : (db.devices.map? (·.report rows) key_report).isSome = true :=
    Table.isSome_map? fun first second hconflict => by
      simpa only [Registry.deviceSchema, report_keeps] using hconflict
  obtain ⟨devices, hdevices⟩ := Option.isSome_iff_exists.mp hsome
  simp only [Registry.Database.report, hdevices, Option.getD_some]
  exact Table.map?_eq_some hdevices device

theorem reported_report {device : Registry.Device} {row : Processor.DeviceRow}
    (hrow : rows device.id = some row)
    (htenant : row.tenantID = device.tenantID) :
    (device.report rows).reported = row := by
  simp only [Registry.Device.report, hrow, Registry.Device.reported, ← htenant]

end Reports

/-- The stores of both services. -/
structure Platform where
  registry : Registry.Database
  rows : Registry.EventTables
  online : String → Option Processor.OnlineKey
  stateTopic : List KafkaRecord
  downlinks : List Processor.Downlink
  caches : ThingsModel.Section → String → Option Processor.CachedDefinition

namespace Platform

variable (platform : Platform)

/-- The processor's part.  Its sessions are an admin service's, which the
policies let read every row. -/
def world : Processor.World where
  rows := platform.rows
  devices id := (platform.registry.devices.rows.find? fun device =>
    device.id = id).map Registry.Device.reported
  online := platform.online
  stateTopic := platform.stateTopic
  downlinks := platform.downlinks
  models tenantID productID := (platform.registry.models.rows.find? fun model =>
    model.tenantID = tenantID && model.productID = productID &&
      model.isCurrent).map fun model =>
    ⟨.ofMap model.properties, .ofMap model.events, .ofMap model.services⟩
  caches := platform.caches

/-- The stores after the processor has left its part like this. -/
def absorb (world : Processor.World) : Platform where
  registry := platform.registry.report world.devices
  rows := world.rows
  online := world.online
  stateTopic := world.stateTopic
  downlinks := world.downlinks
  caches := world.caches

variable {platform}

theorem world_devices_eq_some {id : Uuid} {row : Processor.DeviceRow} :
    platform.world.devices id = some row ↔
      ∃ device ∈ platform.registry.devices, device.id = id ∧
        device.reported = row := by
  rw [world]
  rw [Option.map_eq_some_iff]
  apply exists_congr
  intro device
  rw [Table.find?_eq_some, decide_eq_true_eq, and_assoc]
  intro first second hfirst hsecond
  simp only [decide_eq_true_eq] at hfirst hsecond
  simp only [Registry.deviceSchema, hfirst, hsecond]

/-- The processor's part has devices of the same tenants and the same thing
models. -/
structure Keeps (world : Processor.World) (next : Processor.World) : Prop where
  devices : ∀ id, (next.devices id).map Processor.DeviceRow.tenantID =
    (world.devices id).map Processor.DeviceRow.tenantID
  models : next.models = world.models

theorem Keeps.apply {world next : Processor.World} (hkeeps : Keeps world next)
    (effect : Processor.Effect) : Keeps world (next.apply effect) := by
  cases effect with
  | update deviceID tenantID event now =>
      refine ⟨fun id => ?_, hkeeps.models⟩
      rw [← hkeeps.devices id]
      by_cases hid : id = deviceID
      · subst hid
        simp only [Processor.World.apply, Function.update_self, Option.map_map]
        rfl
      · simp only [Processor.World.apply, Function.update_of_ne hid]
  | _ => exact ⟨hkeeps.devices, hkeeps.models⟩

theorem Keeps.applyAll {world next : Processor.World}
    (hkeeps : Keeps world next) (trace : List Processor.Effect) :
    Keeps world (next.applyAll trace) := by
  induction trace generalizing next with
  | nil => exact hkeeps
  | cons effect rest ih => exact ih (hkeeps.apply effect)

/-- The processor finds its part as it left it. -/
theorem world_absorb {world : Processor.World}
    (hkeeps : Keeps platform.world world) :
    (platform.absorb world).world = world := by
  have hdevices : (platform.absorb world).world.devices = world.devices := by
    funext id
    ext row
    rw [world_devices_eq_some]
    have htenant := hkeeps.devices id
    constructor
    · rintro ⟨device, hdevice, rfl, rfl⟩
      obtain ⟨old, hold, rfl⟩ := mem_report.mp hdevice
      rw [(report_keeps old).1] at htenant ⊢
      rw [world_devices_eq_some.mpr ⟨old, hold, rfl, rfl⟩, Option.map_some,
        Option.map_eq_some_iff] at htenant
      obtain ⟨found, hfound, hsame⟩ := htenant
      rw [reported_report hfound hsame, hfound]
    · intro hrow
      rw [hrow, Option.map_some, eq_comm, Option.map_eq_some_iff] at htenant
      obtain ⟨found, hfound, hsame⟩ := htenant
      obtain ⟨old, hold, rfl, rfl⟩ := world_devices_eq_some.mp hfound
      exact ⟨old.report world.devices, mem_report.mpr ⟨old, hold, rfl⟩,
        (report_keeps old).1, reported_report hrow hsame.symm⟩
  calc
    (platform.absorb world).world =
        { world with
          devices := (platform.absorb world).world.devices
          models := platform.world.models } := rfl
    _ = world := by rw [hdevices, ← hkeeps.models]

/-- The stores after one call of `Process`. -/
def deliver (formats : FormatChecker) (platform : Platform)
    (out : Processor.Surroundings) (message : Option Json) : Platform :=
  platform.absorb (platform.world.applyAll
    (Processor.process out platform.world formats message).2)

/-- Handling a message on the platform is handling it in the processor's
world. -/
theorem world_deliver (formats : FormatChecker) (out : Processor.Surroundings)
    (message : Option Json) :
    (platform.deliver formats out message).world =
      platform.world.applyAll
        (Processor.process out platform.world formats message).2 :=
  world_absorb (Keeps.applyAll ⟨fun _ => rfl, rfl⟩ _)

end Platform

end LinkFlow
