/-
What the outcome reported for a command depends on.  The latest acknowledgement
is looked up by the command's id alone, so another device's acknowledgement that
names the id counts as well, unless one that stands is newer.
-/
import LinkFlow.DeviceViews
import LinkFlow.ReferentialIntegrity

namespace LinkFlow

namespace Registry

open Processor (EventRow)

section Latest

/-- The primary key of an event table. -/
def PrimaryKey (rows : List EventRow) : Prop :=
  ∀ first ∈ rows, ∀ second ∈ rows, first.recency = second.recency →
    first = second

theorem primaryKey_of_nodup {rows : List EventRow}
    (hnodup : (rows.map EventRow.recency).Nodup) : PrimaryKey rows :=
  fun _ hfirst _ hsecond => List.inj_on_of_nodup_map hnodup hfirst hsecond

/-- The two rows give an entry the same acknowledgement. -/
structure SameReport (kind : CommandKind) (first second : EventRow) : Prop where
  id : first.id = second.id
  occurredAt : first.occurredAt = second.occurredAt
  receivedAt : first.receivedAt = second.receivedAt
  success : first.bool? "success" = second.bool? "success"
  code : first.text "code" = second.text "code"
  message : first.text "message" = second.text "message"
  result : first.object kind.resultColumn = second.object kind.resultColumn

variable {kind : CommandKind} {acks acks' : List EventRow}
  {command first second : EventRow} {now deadline : Int}

theorem SameReport.refl (row : EventRow) : SameReport kind row row :=
  ⟨rfl, rfl, rfl, rfl, rfl, rfl, rfl⟩

theorem SameReport.recency (hsame : SameReport kind first second) :
    first.recency = second.recency := by
  unfold EventRow.recency
  rw [hsame.id, hsame.occurredAt]

theorem commandOutcome_eq_iff :
    commandOutcome kind now deadline (some first) =
        commandOutcome kind now deadline (some second) ↔
      SameReport kind first second := by
  constructor
  · intro heq
    simp only [commandOutcome, CommandOutcome.mk.injEq, Option.map_some,
      Option.getD_some, Option.bind_some, Option.some.injEq] at heq
    obtain ⟨-, hid, hsuccess, hcode, hmessage, hresult, hoccurred, hreceived⟩ :=
      heq
    exact ⟨Uuid.text_injective hid, hoccurred, hreceived, hsuccess, hcode,
      hmessage, hresult⟩
  · intro hsame
    simp only [commandOutcome, ackStatus, Option.map_some, Option.getD_some,
      Option.bind_some, hsame.id, hsame.success, hsame.code, hsame.message,
      hsame.result, hsame.occurredAt, hsame.receivedAt]

/-- An acknowledged command reports the time of the acknowledgement. -/
theorem commandOutcome_some_ne_none :
    commandOutcome kind now deadline (some first) ≠
      commandOutcome kind now deadline none := by
  intro heq
  have hoccurred := congrArg CommandOutcome.ackOccurredAt heq
  simp [commandOutcome] at hoccurred

theorem mem_acks_of_latest {ack : EventRow}
    (hlatest : latestAck acks command = some ack) :
    ack ∈ acks ∧ acknowledges command ack = true :=
  List.mem_filter.mp (List.argmax_mem hlatest)

theorem recency_le_latest {ack other : EventRow}
    (hlatest : latestAck acks command = some ack) (hother : other ∈ acks)
    (hacks : acknowledges command other = true) :
    other.recency ≤ ack.recency :=
  List.le_of_mem_argmax (List.mem_filter.mpr ⟨hother, hacks⟩) hlatest

theorem latestAck_eq_none_iff :
    latestAck acks command = none ↔
      ∀ ack ∈ acks, acknowledges command ack = false := by
  rw [latestAck]
  rw [List.argmax_eq_none, List.filter_eq_nil_iff]
  simp

/-- Under the primary key the latest acknowledgement is the one that no other is
newer than. -/
theorem latestAck_eq_some {ack : EventRow} (hkey : PrimaryKey acks)
    (hmem : ack ∈ acks) (hacks : acknowledges command ack = true)
    (hnewest : ∀ other ∈ acks, acknowledges command other = true →
      other.recency ≤ ack.recency) :
    latestAck acks command = some ack := by
  cases hlatest : latestAck acks command with
  | none =>
      rw [latestAck_eq_none_iff.mp hlatest ack hmem] at hacks
      cases hacks
  | some found =>
      obtain ⟨hfound, hfoundAcks⟩ := mem_acks_of_latest hlatest
      have hle := hnewest found hfound hfoundAcks
      have hge := recency_le_latest hlatest hmem hacks
      rw [hkey found hfound ack hmem (le_antisymm hle hge)]

end Latest

section Foreign

/-- The acknowledgement is of the device the command went to, and of its
service. -/
def Addressed (kind : CommandKind) (command ack : EventRow) : Prop :=
  ack.tenantID = command.tenantID ∧
    ack.text "product_key" = command.text "product_key" ∧
    ack.text "device_slug" = command.text "device_slug" ∧
    (kind = .serviceCall →
      ack.text "service_name" = command.text "service_name")

/-- Two tables with the same acknowledgements of the addressed device. -/
def AgreeOnAddressed (kind : CommandKind) (command : EventRow)
    (acks acks' : List EventRow) : Prop :=
  ∀ ack, Addressed kind command ack → (ack ∈ acks ↔ ack ∈ acks')

/-- Every foreign acknowledgement of the command's id is no newer than one of
that id that both tables report alike. -/
def Outranked (kind : CommandKind) (command : EventRow)
    (acks acks' : List EventRow) : Prop :=
  ∀ ack ∈ acks, ¬ Addressed kind command ack → acknowledges command ack = true →
    ∃ held ∈ acks, acknowledges command held = true ∧
      ack.recency ≤ held.recency ∧
      ∃ twin ∈ acks', acknowledges command twin = true ∧
        SameReport kind held twin

variable {kind : CommandKind} {acks acks' : List EventRow} {command : EventRow}
  {now deadline : Int}

/-- Where the foreign acknowledgements are outranked, the other table reports
the latest one too. -/
theorem Outranked.twin_of_latest (hout : Outranked kind command acks acks')
    (hkey : PrimaryKey acks) (hagree : AgreeOnAddressed kind command acks acks')
    {ack : EventRow} (hlatest : latestAck acks command = some ack) :
    ∃ twin ∈ acks', acknowledges command twin = true ∧
      SameReport kind ack twin := by
  obtain ⟨hmem, hacks⟩ := mem_acks_of_latest hlatest
  by_cases haddressed : Addressed kind command ack
  · exact ⟨ack, (hagree ack haddressed).mp hmem, hacks, .refl ack⟩
  · obtain ⟨held, hheld, hheldAcks, hle, htwin⟩ :=
      hout ack hmem haddressed hacks
    have hge := recency_le_latest hlatest hheld hheldAcks
    rw [hkey ack hmem held hheld (le_antisymm hle hge)]
    exact htwin

/-- A latest acknowledgement that the other table reports too outranks every
foreign one. -/
theorem Outranked.of_latest {ack twin : EventRow}
    (hlatest : latestAck acks command = some ack)
    (htwin : latestAck acks' command = some twin)
    (hsame : SameReport kind ack twin) : Outranked kind command acks acks' := by
  intro other hother _ hacks
  obtain ⟨hmem, hackAcks⟩ := mem_acks_of_latest hlatest
  obtain ⟨htwinMem, htwinAcks⟩ := mem_acks_of_latest htwin
  exact ⟨ack, hmem, hackAcks, recency_le_latest hlatest hother hacks, twin,
    htwinMem, htwinAcks, hsame⟩

theorem Outranked.of_none (hlatest : latestAck acks command = none) :
    Outranked kind command acks acks' := by
  intro ack hmem _ hacks
  rw [latestAck_eq_none_iff.mp hlatest ack hmem] at hacks
  cases hacks

/-- The outcome is the same over two tables that agree on the addressed device
exactly when in neither a foreign acknowledgement decides it. -/
theorem latest_outcome_eq_iff (hkey : PrimaryKey acks)
    (hkey' : PrimaryKey acks')
    (hagree : AgreeOnAddressed kind command acks acks') :
    commandOutcome kind now deadline (latestAck acks command) =
        commandOutcome kind now deadline (latestAck acks' command) ↔
      Outranked kind command acks acks' ∧
      Outranked kind command acks' acks := by
  have hagree' : AgreeOnAddressed kind command acks' acks :=
    fun ack haddressed =>
    (hagree ack haddressed).symm
  constructor
  · intro heq
    cases hlatest : latestAck acks command with
    | none =>
        cases hlatest' : latestAck acks' command with
        | none => exact ⟨.of_none hlatest, .of_none hlatest'⟩
        | some twin =>
            rw [hlatest, hlatest'] at heq
            exact absurd heq.symm commandOutcome_some_ne_none
    | some ack =>
        cases hlatest' : latestAck acks' command with
        | none =>
            rw [hlatest, hlatest'] at heq
            exact absurd heq commandOutcome_some_ne_none
        | some twin =>
            rw [hlatest, hlatest'] at heq
            exact ⟨.of_latest hlatest hlatest' (commandOutcome_eq_iff.mp heq),
              .of_latest hlatest' hlatest (commandOutcome_eq_iff.mp heq.symm)⟩
  · rintro ⟨hout, hout'⟩
    cases hlatest : latestAck acks command with
    | none =>
        have hnone : latestAck acks' command = none := by
          cases hlatest' : latestAck acks' command with
          | none => rfl
          | some twin =>
              obtain ⟨held, hheld, hacks, -⟩ :=
                hout'.twin_of_latest hkey' hagree' hlatest'
              rw [latestAck_eq_none_iff.mp hlatest held hheld] at hacks
              cases hacks
        rw [hnone]
    | some ack =>
        obtain ⟨hmem, hackAcks⟩ := mem_acks_of_latest hlatest
        obtain ⟨twin, htwin, htwinAcks, hsame⟩ :=
          hout.twin_of_latest hkey hagree hlatest
        have hnewest : ∀ other ∈ acks', acknowledges command other = true →
            other.recency ≤ twin.recency := by
          intro other hother hotherAcks
          cases hlatest' : latestAck acks' command with
          | none =>
              rw [latestAck_eq_none_iff.mp hlatest' other hother] at hotherAcks
              cases hotherAcks
          | some newest =>
              obtain ⟨held, hheld, hheldAcks, hreport⟩ :=
                hout'.twin_of_latest hkey' hagree' hlatest'
              calc other.recency
                  ≤ newest.recency :=
                    recency_le_latest hlatest' hother hotherAcks
                _ = held.recency := hreport.recency
                _ ≤ ack.recency := recency_le_latest hlatest hheld hheldAcks
                _ = twin.recency := hsame.recency
        rw [latestAck_eq_some hkey' htwin htwinAcks hnewest]
        exact commandOutcome_eq_iff.mpr hsame

end Foreign

section Histories

/-- The history method of a kind of commands. -/
def CommandKind.history (kind : CommandKind) (out : Surroundings)
    (tables : EventTables) :
    CommandHistoryInput → Database → Reply (PageResult CommandHistoryEntry) :=
  match kind with
  | .serviceCall => listDeviceServiceCallHistory out tables
  | .propertySet => listDevicePropertySetHistory out tables

/-- The entries of a page of commands. -/
def commandEntries (kind : CommandKind) (out : Surroundings)
    (tables : EventTables) (input : CommandHistoryInput)
    (found : DeviceScope × PageResult EventRow) :
    PageResult CommandHistoryEntry :=
  found.2.map (commandEntry out tables kind input.ackDeadlineSeconds found.1)

variable (kind : CommandKind) (out : Surroundings) (input : CommandHistoryInput)
  (db : Database)

/-- The commands a history lists, before the acknowledgements are looked up. -/
def listCommands (tables : EventTables) :
    Reply (DeviceScope × PageResult EventRow) :=
  storeCall out "device" input.userID (findError .device kind.context)
    (fun session => listHistory out tables session input.id kind.table
      (kind.filter input.name) input.toPageInput) db

theorem history_eq (tables : EventTables) :
    (kind.history out tables input db).1 =
      (listCommands kind out input db tables).1.map
        (commandEntries kind out tables input) := by
  have hmap := storeCall_map out "device" input.userID
    (findError .device kind.context)
    (fun session => listHistory out tables session input.id kind.table
      (kind.filter input.name) input.toPageInput)
    (commandEntries kind out tables input) db
  cases kind with
  | serviceCall => exact congrArg Prod.fst hmap
  | propertySet => exact congrArg Prod.fst hmap

/-- Only the table of the commands decides which are listed. -/
theorem listCommands_congr {tables tables' : EventTables}
    (hsame : tables kind.table = tables' kind.table) :
    listCommands kind out input db tables =
      listCommands kind out input db tables' := by
  unfold listCommands listHistory listScope
  rw [hsame]

/-- Over two states of the acknowledgement table both calls list the same
commands, and a command whose device's acknowledgements are in both has the same
outcome exactly when no foreign one decides it. -/
theorem command_outcome_unchanged_iff {tables tables' : EventTables}
    (hothers : ∀ table, table ≠ kind.ackTable → tables table = tables' table)
    (hkey : PrimaryKey (tables kind.ackTable))
    (hkey' : PrimaryKey (tables' kind.ackTable)) :
    (kind.history out tables input db).1 =
        (listCommands kind out input db tables).1.map
          (commandEntries kind out tables input) ∧
      (kind.history out tables' input db).1 =
        (listCommands kind out input db tables).1.map
          (commandEntries kind out tables' input) ∧
      ∀ scope page, (listCommands kind out input db tables).1 =
        .ok (scope, page) →
        ∀ command ∈ page.items,
        AgreeOnAddressed kind command (tables kind.ackTable)
          (tables' kind.ackTable) →
        ((commandEntry out tables kind input.ackDeadlineSeconds scope
              command).toCommandOutcome =
            (commandEntry out tables' kind input.ackDeadlineSeconds scope
              command).toCommandOutcome ↔
          Outranked kind command (tables kind.ackTable)
            (tables' kind.ackTable) ∧
            Outranked kind command (tables' kind.ackTable)
              (tables kind.ackTable)) := by
  have hne : kind.table ≠ kind.ackTable := by cases kind <;> decide
  have hsame := listCommands_congr kind out input db (hothers kind.table hne)
  refine ⟨history_eq kind out input db tables, ?_, ?_⟩
  · rw [hsame]
    exact history_eq kind out input db tables'
  · intro scope page _ command _ hagree
    exact latest_outcome_eq_iff hkey hkey' hagree

end Histories

section Sample

/-- A call of the service `switch` on the device `b` of the sample product. -/
def switchCall : EventRow where
  id := 5
  occurredAt := 0
  tenantID := "00000000-0000-0000-0000-000000000001"
  columns :=
    [("product_key", .str "lamp"), ("device_slug", .str "b"),
      ("protocol", .str "mqtt"), ("service_name", .str "switch"),
      ("topic", .str "lf/v1/acme/lamp/b/service/down/switch"),
      ("producer", .str "backend"),
      ("requested_by", .str "00000000-0000-0000-0000-000000000007"),
      ("input", .obj [])]
  receivedAt := 0

/-- An acknowledgement of this command by a device of the given tenant and
product. -/
def switchAck (id : Uuid) (occurredAt : Int) (tenantID productKey : String)
    (success : Bool) : EventRow where
  id := id
  occurredAt := occurredAt
  tenantID := tenantID
  columns :=
    [("command_id", .str "00000000-0000-0000-0000-000000000005"),
      ("product_key", .str productKey), ("device_slug", .str "b"),
      ("protocol", .str "mqtt"), ("service_name", .str "switch"),
      ("success", .bool success), ("code", .null), ("message", .null),
      ("producer", .str "device-service"), ("trace_id", .null),
      ("correlation_id", .null), ("causation_id", .null), ("output", .obj []),
      ("raw", .null)]
  receivedAt := occurredAt

def ownAck : EventRow :=
  switchAck 6 2 "00000000-0000-0000-0000-000000000001" "lamp" false

def strangerAck : EventRow :=
  switchAck 8 1 "00000000-0000-0000-0000-000000000099" "fan" true

def switchTables (acks : List EventRow) : EventTables
  | .serviceCall => [switchCall]
  | .serviceCallAck => acks
  | _ => []

def switchHistory : CommandHistoryInput :=
  ⟨⟨1, 20⟩, 7, "00000000-0000-0000-0000-000000000003", "", 90⟩

def acmeRow : Tenant where
  id := 1
  ownerUserID := 7
  tenantSlug := "acme"
  tenantName := "Acme"
  status := .active
  createdAt := 0
  updatedAt := 0
  slugFormat := by decide
  nameNotBlank := by decide

def lampRow : Product where
  id := 2
  tenantID := 1
  productKey := "lamp"
  productName := "Lamp"
  description := ""
  nodeType := .direct
  authType := .secret
  protocolType := .mqtt
  status := .active
  createdAt := 0
  updatedAt := 0
  keyFormat := by decide
  nameNotBlank := by decide

/-- The device `b` of the product, with its row's id. -/
def deviceRow (id : Uuid) : Device where
  id := id
  tenantID := 1
  productID := 2
  deviceSlug := "b"
  deviceName := "Lamp"
  description := ""
  status := .active
  connection := ⟨.offline, none⟩
  gatewayDeviceID := none
  firmwareVersion := none
  ipAddress := none
  createdAt := 0
  updatedAt := 0
  slugFormat := by decide
  nameNotBlank := by decide

def lampRegistry : Database where
  users := [7, 8]
  tenants := .single acmeRow
  products := .single lampRow
  models := .empty
  devices := .single (deviceRow 3)
  credentials := .empty

/-- The statuses a history reports. -/
def reportedStatuses (acks : List EventRow) : List String :=
  match (listDeviceServiceCallHistory (calmCall 9) (switchTables acks)
    switchHistory lampRegistry).1 with
  | .ok page => page.items.map (·.ackStatus)
  | .error _ => []

theorem not_addressed_strangerAck :
    ¬ Addressed .serviceCall switchCall strangerAck := by
  rintro ⟨htenant, -⟩
  revert htenant
  decide

theorem agree_with_strangerAck (acks : List EventRow) :
    AgreeOnAddressed .serviceCall switchCall acks (acks ++ [strangerAck]) := by
  intro ack haddressed
  rw [List.mem_append]
  constructor
  · exact Or.inl
  · rintro (hmem | hmem)
    · exact hmem
    · rw [List.mem_singleton.mp hmem] at haddressed
      exact absurd haddressed not_addressed_strangerAck

theorem switchTables_others {acks acks' : List EventRow}
    (table : Processor.Table) (hne : table ≠ CommandKind.serviceCall.ackTable) :
    switchTables acks table = switchTables acks' table := by
  cases table with
  | serviceCallAck => exact absurd rfl hne
  | _ => rfl

/-- The page of the sample history. -/
theorem switchCall_listed :
    ∃ scope page, (listCommands .serviceCall (calmCall 9) switchHistory
        lampRegistry (switchTables [ownAck])).1 = .ok (scope, page) ∧
      switchCall ∈ page.items := by
  have hcount : (match (listCommands .serviceCall (calmCall 9) switchHistory
      lampRegistry (switchTables [ownAck])).1 with
      | .ok found => found.2.items.length
      | .error _ => 0) = 1 := by decide +kernel
  cases hlisted : (listCommands .serviceCall (calmCall 9) switchHistory
      lampRegistry (switchTables [ownAck])).1 with
  | error err =>
      rw [hlisted] at hcount
      cases hcount
  | ok found =>
      obtain ⟨scope, page⟩ := found
      rw [hlisted] at hcount
      obtain ⟨next, hbody⟩ := storeCall_eq_ok hlisted
      obtain ⟨-, -, hitems⟩ := listHistory_eq_ok hbody
      obtain ⟨row, hpage⟩ := List.length_eq_one_iff.mp hcount
      have hmem : row ∈ page.items := hpage ▸ List.mem_singleton_self row
      have hrow : row = switchCall := List.mem_singleton.mp (hitems row hmem).1
      exact ⟨scope, page, rfl, hrow ▸ hmem⟩

/-- The stranger's acknowledgement is older than the device's own. -/
theorem command_outcome_unchanged_outranked :
    ∃ scope page, (listCommands .serviceCall (calmCall 9) switchHistory
        lampRegistry (switchTables [ownAck])).1 = .ok (scope, page) ∧
      switchCall ∈ page.items ∧
      (commandEntry (calmCall 9) (switchTables [ownAck]) .serviceCall 90 scope
          switchCall).toCommandOutcome =
        (commandEntry (calmCall 9) (switchTables [ownAck, strangerAck])
          .serviceCall 90 scope switchCall).toCommandOutcome := by
  obtain ⟨scope, page, hlisted, hmem⟩ := switchCall_listed
  have hout : ∀ acks acks', ownAck ∈ acks → ownAck ∈ acks' →
      (∀ ack ∈ acks, ack.recency ≤ ownAck.recency) →
      Outranked .serviceCall switchCall acks acks' := by
    intro acks acks' hown hown' hle ack hack _ _
    exact ⟨ownAck, hown, by decide, hle ack hack, ownAck, hown', by decide,
      .refl ownAck⟩
  have hiff := (@command_outcome_unchanged_iff .serviceCall (calmCall 9)
    switchHistory lampRegistry (switchTables [ownAck])
    (switchTables [ownAck, strangerAck]) switchTables_others
    (primaryKey_of_nodup (by decide)) (primaryKey_of_nodup (by decide))).2.2
    scope page hlisted switchCall hmem (agree_with_strangerAck [ownAck])
  exact ⟨scope, page, hlisted, hmem, hiff.mpr
    ⟨hout [ownAck] [ownAck, strangerAck] (by simp) (by simp) (by decide),
      hout [ownAck, strangerAck] [ownAck] (by simp) (by simp) (by decide)⟩⟩

/-- A device of another tenant answers the pending command: the history reports
that it has succeeded. -/
theorem foreign_acknowledgement_reported :
    (∀ table, table ≠ CommandKind.serviceCall.ackTable →
        switchTables [] table = switchTables [strangerAck] table) ∧
      AgreeOnAddressed .serviceCall switchCall [] [strangerAck] ∧
      reportedStatuses [] = ["pending"] ∧
      reportedStatuses [strangerAck] = ["success"] :=
  ⟨switchTables_others, agree_with_strangerAck [], by decide +kernel,
    by decide +kernel⟩

end Sample

end Registry

end LinkFlow
