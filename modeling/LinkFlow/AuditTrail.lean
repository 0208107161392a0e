/-
The audit trail over runs of the backend.  Requests change the registry and send
commands; the entry of a request waits to be written and becomes a row of the
log, or is lost.  Every row tells what its request has done, and no change goes
without a row.
-/
import LinkFlow.AuditAccounts
import LinkFlow.ReferentialIntegrity

namespace LinkFlow

namespace Audit

open Registry Transition

section Runs

/-- The registry and the commands in their topics, the audit log, and the
entries that the middleware has handed to its writer. -/
structure Trail extends Holdings where
  logs : Table auditSchema
  pending : List AuditEntry

/-- Requests are served side by side, so the entry of one is written some time
after its handler is done, or is lost when the process stops. -/
inductive TrailLabel where
  | request (exchange : Exchange)
  | write (index : Nat) (out : Registry.Surroundings)
  | stop

/-- A failed write is logged and forgotten. -/
def Trail.written (trail : Trail) (out : Registry.Surroundings)
    (entry : AuditEntry) : Table auditSchema :=
  match AuditService.write out trail.db.users entry trail.logs with
  | .ok next => next
  | .error _ => trail.logs

def Trail.step (casing : Casing) (bcrypt : Bcrypt) (trail : Trail) :
    TrailLabel → Option Trail
  | .request exchange =>
      let (_, noted, held) := exchange.serve casing bcrypt trail.toHoldings
      some
        { toHoldings := held
          logs := trail.logs
          pending := trail.pending ++ noted.toList }
  | .write index out =>
      trail.pending[index]?.map fun entry =>
        { trail with
          logs := trail.written out entry
          pending := trail.pending.eraseIdx index }
  | .stop => some { trail with pending := [] }

/-- The runs from one state. -/
def trails (casing : Casing) (bcrypt : Bcrypt) (first : Trail) :
    System Trail TrailLabel where
  init trail := trail = first
  step := Trail.step casing bcrypt

/-- Entries are written, and the process goes on. -/
def Written (trail : Trail) : TrailLabel → Prop
  | .request _ => True
  | .write index out => ∀ entry ∈ trail.pending[index]?,
      (AuditService.write out trail.db.users entry trail.logs).isOk = true
  | .stop => False

instance : (trail : Trail) → (label : TrailLabel) →
    Decidable (Written trail label)
  | _, .request _ => inferInstanceAs (Decidable True)
  | trail, .write index out =>
      inferInstanceAs (Decidable (∀ entry ∈ trail.pending[index]?,
        (AuditService.write out trail.db.users entry trail.logs).isOk = true))
  | _, .stop => inferInstanceAs (Decidable False)

end Runs

section Records

variable {casing : Casing} {bcrypt : Bcrypt} {first trail next last : Trail}

/-- A trimmed entry is a row that `first` did not have, or waits to be one. -/
def Recorded (first last : Trail) (entry : AuditEntry) : Prop :=
  (∃ log ∈ last.logs, log ∉ first.logs ∧ log.entry = entry) ∨
    ∃ waiting ∈ last.pending, waiting.trimmed = entry

/-- The entry reports something done to this row. -/
def AuditEntry.Names (entry : AuditEntry) (kind : Aggregate) (id : Uuid) :
    Prop :=
  entry.result = .success ∧ entry.resourceType = kind.text ∧
    Uuid.ofText? entry.resourceID = some id

/-- The entry reports that this record was sent. -/
def AuditEntry.Sends (entry : AuditEntry) (record : KafkaRecord) : Prop :=
  entry.result = .success ∧ entry.Orders record ∧
    entry.metadata.get? "command_id" = some (.str record.key)

/-- The entry reports that a record of this kind could not be sent. -/
def AuditEntry.Loses (entry : AuditEntry) (record : KafkaRecord) : Prop :=
  entry.result = .failure ∧ entry.Orders record ∧
    entry.statusCode = errInternal.httpStatus

/-- The step of a request, by what its entry accounts for. -/
theorem request_cases {exchange : Exchange}
    (hstep : trail.step casing bcrypt (.request exchange) = some next) :
    next = trail ∨ ∃ principal entry, exchange.principal = some principal ∧
      entry.actorUserID = Uuid.text principal.userID ∧
      Accounts principal.userID entry.trimmed trail.toHoldings next.toHoldings ∧
      next.logs = trail.logs ∧ next.pending = trail.pending ++ [entry] := by
  cases hserve : exchange.serve casing bcrypt trail.toHoldings with
  | mk response rest =>
    obtain ⟨noted, held⟩ := rest
    simp only [Trail.step, hserve, Option.some.injEq] at hstep
    rcases serve_accounted hserve with ⟨rfl, rfl⟩ |
      ⟨principal, entry, hprincipal, rfl, hactor, haccounts⟩
    · refine Or.inl ?_
      rw [← hstep, Option.toList_none, List.append_nil]
    · subst hstep
      exact Or.inr ⟨principal, entry, hprincipal, hactor, haccounts, rfl, rfl⟩

/-- The step that writes an entry, or fails to. -/
theorem write_cases {index : Nat} {out : Registry.Surroundings}
    (hstep : trail.step casing bcrypt (.write index out) = some next) :
    ∃ entry, trail.pending[index]? = some entry ∧
      next = { trail with
        logs := trail.written out entry
        pending := trail.pending.eraseIdx index } := by
  simp only [Trail.step, Option.map_eq_some_iff] at hstep
  obtain ⟨entry, hentry, rfl⟩ := hstep
  exact ⟨entry, hentry, rfl⟩

/-- A write adds the row of its entry, or nothing. -/
theorem written_cases {out : Registry.Surroundings} {entry : AuditEntry}
    {userID : Uuid} (hactor : entry.actorUserID = Uuid.text userID) :
    (∃ err, AuditService.write out trail.db.users entry trail.logs =
      .error err ∧
      trail.written out entry = trail.logs) ∨
    ∃ log, log.entry = entry.trimmed ∧ log.actorUserID = some userID ∧
      trail.logs.Adds log (trail.written out entry) := by
  rw [Trail.written]
  cases hwrite : AuditService.write out trail.db.users entry trail.logs with
  | error err => exact Or.inl ⟨err, rfl, rfl⟩
  | ok logs => exact Or.inr (AuditService.write_eq_ok hactor hwrite)

/-- Every waiting entry names a user. -/
def Signed (trail : Trail) : Prop :=
  ∀ entry ∈ trail.pending, ∃ userID, entry.actorUserID = Uuid.text userID

/-- Rows of the log stay. -/
def Grows (first last : Trail) : Prop := ∀ log ∈ first.logs, log ∈ last.logs

theorem signed_step {label : TrailLabel} (hsigned : Signed trail)
    (hstep : trail.step casing bcrypt label = some next) : Signed next := by
  cases label with
  | request exchange =>
      rcases request_cases hstep with rfl | ⟨principal, entry, -, hactor, -, -,
        hpending⟩
      · exact hsigned
      · intro waiting hwaiting
        rw [hpending, List.mem_append, List.mem_singleton] at hwaiting
        rcases hwaiting with hold | rfl
        · exact hsigned waiting hold
        · exact ⟨principal.userID, hactor⟩
  | write index out =>
      obtain ⟨entry, -, rfl⟩ := write_cases hstep
      exact fun waiting hwaiting =>
        hsigned waiting (List.mem_of_mem_eraseIdx hwaiting)
  | stop =>
      cases hstep
      intro waiting hwaiting
      cases hwaiting

theorem grows_step {label : TrailLabel} (hsigned : Signed trail)
    (hstep : trail.step casing bcrypt label = some next) :
    Grows trail next := by
  cases label with
  | request exchange =>
      rcases request_cases hstep with rfl | ⟨_, _, _, _, _, hlogs, _⟩
      · exact fun log hlog => hlog
      · exact fun log hlog => hlogs ▸ hlog
  | write index out =>
      obtain ⟨entry, hentry, rfl⟩ := write_cases hstep
      obtain ⟨userID, hactor⟩ := hsigned entry (List.mem_of_getElem? hentry)
      intro log hlog
      rcases @written_cases trail out entry userID hactor with
        ⟨err, -, hsame⟩ | ⟨added, -, -, hadds⟩
      · change log ∈ trail.written out entry
        rw [hsame]
        exact hlog
      · exact (hadds.2 log).mpr (Or.inr hlog)
  | stop =>
      cases hstep
      exact fun log hlog => hlog

/-- What is recorded stays recorded while entries are written: one that waits is
written, waits on, or is the one that becomes a row. -/
theorem recorded_step {label : TrailLabel} {entry : AuditEntry}
    (hgrows : Grows first trail) (hsigned : Signed trail)
    (hwritten : Written trail label)
    (hstep : trail.step casing bcrypt label = some next)
    (hrecorded : Recorded first trail entry) : Recorded first next entry := by
  rcases hrecorded with ⟨log, hlog, hfresh, hentry⟩ | ⟨waiting, hwaiting, rfl⟩
  · exact Or.inl ⟨log, grows_step hsigned hstep log hlog, hfresh, hentry⟩
  · cases label with
    | request exchange =>
        rcases request_cases hstep with rfl | ⟨_, _, _, _, _, _, hpending⟩
        · exact Or.inr ⟨waiting, hwaiting, rfl⟩
        · refine Or.inr ⟨waiting, ?_, rfl⟩
          rw [hpending]
          exact List.mem_append_left _ hwaiting
    | write index out =>
        obtain ⟨taken, htaken, rfl⟩ := write_cases hstep
        obtain ⟨number, hnumber⟩ := List.mem_iff_getElem?.mp hwaiting
        by_cases hsame : number = index
        · subst hsame
          obtain rfl := Option.some.inj (htaken.symm.trans hnumber)
          obtain ⟨userID, hactor⟩ := hsigned taken hwaiting
          rcases @written_cases trail out taken userID hactor with
            ⟨err, hfailed, -⟩ | ⟨added, hadded, -, hadds⟩
          · have hok := hwritten taken htaken
            rw [hfailed] at hok
            cases hok
          · refine Or.inl ⟨added, (hadds.2 added).mpr (Or.inl rfl), ?_, hadded⟩
            intro hold
            exact (hadds.fresh (hgrows added hold)).1 rfl
        · refine Or.inr ⟨waiting, ?_, rfl⟩
          exact List.mem_eraseIdx_iff_getElem?.mpr ⟨number, hsame, hnumber⟩
    | stop => exact absurd hwritten not_false

/-- The step serves a request that leaves this entry, which accounts for what
the request changed. -/
inductive Entered (entry : AuditEntry) (before : Trail) :
    TrailLabel → Trail → Prop
  | intro {exchange : Exchange} {principal : Principal} {waiting : AuditEntry}
      {after : Trail} (hprincipal : exchange.principal = some principal)
      (hpending : after.pending = before.pending ++ [waiting])
      (hwaiting : waiting.trimmed = entry)
      (hactor : entry.actorUserID = Uuid.text principal.userID)
      (haccounts : Accounts principal.userID entry before.toHoldings
        after.toHoldings) :
      Entered entry before (.request exchange) after

/-- A request of the run has this entry, and the entry is true of it. -/
def Told (casing : Casing) (bcrypt : Bcrypt) (first last : Trail)
    (entry : AuditEntry) : Prop :=
  (trails casing bcrypt first).Taken last (Entered entry)

/-- The request of this entry sent the record with this number, and the entry
says so, or says that it failed to. -/
def SentBy (casing : Casing) (bcrypt : Bcrypt) (first last : Trail)
    (entry : AuditEntry) (number : Nat) (record : KafkaRecord) : Prop :=
  (trails casing bcrypt first).Taken last fun before label after =>
    Adds (fun trail => trail.sent) number record before after ∧
    Entered entry before label after ∧
    (entry.Sends record ∨ entry.Loses record)

/-- Every record sent since is recorded with the request that sent it. -/
structure Sent (casing : Casing) (bcrypt : Bcrypt) (first last : Trail) :
    Prop where
  kept : first.sent <+: last.sent
  recorded : ∀ number record, last.sent[number]? = some record →
    first.sent.length ≤ number → ∃ entry, Recorded first last entry ∧
      SentBy casing bcrypt first last entry number record

/-- A step sends nothing, or a record that its entry tells of. -/
theorem Sent.step {label : TrailLabel} (hsent : Sent casing bcrypt first trail)
    (hreach : (trails casing bcrypt first).Reachable trail)
    (hrecorded : ∀ entry, Recorded first trail entry →
      Recorded first next entry)
    (hstep : trail.step casing bcrypt label = some next)
    (hsends : next.sent = trail.sent ∨ ∃ record entry,
      next.sent = trail.sent ++ [record] ∧ Recorded first next entry ∧
        Entered entry trail label next ∧
        (entry.Sends record ∨ entry.Loses record)) :
    Sent casing bcrypt first next := by
  have hkept : ∀ number record, trail.sent[number]? = some record →
      first.sent.length ≤ number → ∃ entry, Recorded first next entry ∧
        SentBy casing bcrypt first next entry number record := by
    intro number record hrecord hsince
    obtain ⟨entry, hheld, hby⟩ := hsent.recorded number record hrecord hsince
    exact ⟨entry, hrecorded entry hheld, hby.next hstep⟩
  rcases hsends with hsame | ⟨record, entry, hnew, hheld, hentered⟩
  · exact ⟨hsame ▸ hsent.kept, fun number record hrecord =>
      hkept number record (hsame ▸ hrecord)⟩
  · refine ⟨hnew ▸ hsent.kept.trans (List.prefix_append _ _), ?_⟩
    intro number other hother hsince
    have hsplit := hother
    rw [hnew] at hsplit
    rcases getElem?_append_cases hsplit with hold | ⟨hlate, hmem⟩
    · exact hkept number other hold hsince
    · obtain rfl := List.mem_singleton.mp hmem
      exact ⟨entry, hheld, .now hreach hstep ⟨⟨hlate, hother⟩, hentered⟩⟩

/-- What holds from `first` to `last` while entries are written. -/
structure Followed (casing : Casing) (bcrypt : Bcrypt) (first last : Trail) :
    Prop where
  reached : (trails casing bcrypt first).Reachable last
  signed : Signed last
  grows : Grows first last
  spared : Spared (fun kind id =>
    ∃ entry, Recorded first last entry ∧ entry.Names kind id) first.db last.db
  sent : Sent casing bcrypt first last

theorem followed_step {label : TrailLabel}
    (hfollowed : Followed casing bcrypt first trail)
    (hwritten : Written trail label)
    (hstep : trail.step casing bcrypt label = some next) :
    Followed casing bcrypt first next := by
  have hreached : (trails casing bcrypt first).Reachable next :=
    System.ReachableVia.next hfollowed.reached trivial hstep
  have hsigned := signed_step hfollowed.signed hstep
  have hgrows : Grows first next := fun log hlog =>
    grows_step hfollowed.signed hstep log (hfollowed.grows log hlog)
  have hrecorded := fun entry => @recorded_step casing bcrypt first trail next
    label entry hfollowed.grows hfollowed.signed hwritten hstep
  have hspared : Spared (fun kind id => ∃ entry, Recorded first next entry ∧
      entry.Names kind id) first.db trail.db :=
    hfollowed.spared.mono fun _ _ ⟨entry, hheld, hnames⟩ =>
      ⟨entry, hrecorded entry hheld, hnames⟩
  have hkept : next.db = trail.db → next.sent = trail.sent ∨
      (∃ record entry, next.sent = trail.sent ++ [record] ∧
        Recorded first next entry ∧ Entered entry trail label next ∧
        (entry.Sends record ∨ entry.Loses record)) →
      Followed casing bcrypt first next := by
    intro hdb hsends
    refine ⟨hreached, hsigned, hgrows, ?_,
      hfollowed.sent.step hfollowed.reached hrecorded hstep hsends⟩
    rw [hdb]
    exact hspared
  cases label with
  | stop => exact absurd hwritten not_false
  | write index out =>
      obtain ⟨entry, -, rfl⟩ := write_cases hstep
      exact hkept rfl (Or.inl rfl)
  | request exchange =>
      rcases request_cases hstep with rfl |
        ⟨principal, entry, hprincipal, hactor, haccounts, hlogs, hpending⟩
      · exact hfollowed
      · -- The new entry is recorded, and it accounts for the step.
        have hnew : Recorded first next entry.trimmed := by
          refine Or.inr ⟨entry, ?_, rfl⟩
          rw [hpending]
          exact List.mem_append_right _ (List.mem_singleton.mpr rfl)
        have hentered : Entered entry.trimmed trail (.request exchange) next :=
          .intro hprincipal hpending rfl
            ((congrArg trimSpace hactor).trans (trimSpace_text _)) haccounts
        generalize hheld : next.toHoldings = held at haccounts
        cases haccounts with
        | refused _ _ => exact hkept (by rw [hheld]) (Or.inl (by rw [hheld]))
        | performed hresult haction htype hid hperformed =>
            refine ⟨hreached, hsigned, hgrows, ?_,
              hfollowed.sent.step hfollowed.reached hrecorded hstep
                (Or.inl (by rw [hheld]))⟩
            have hdb : next.db = _ := congrArg Holdings.db hheld
            rw [hdb]
            refine hspared.trans (hperformed.rest.mono ?_)
            rintro _ _ ⟨rfl, rfl⟩
            exact ⟨entry.trimmed, hnew, hresult, htype, hid⟩
        | @dispatched record hresult haction hcommand =>
            exact hkept (by rw [hheld])
              (Or.inr ⟨record, entry.trimmed, by rw [hheld], hnew, hentered,
                Or.inl ⟨hresult, haction, hcommand⟩⟩)
        | @lost record hresult hstatus hcode haction =>
            exact hkept (by rw [hheld])
              (Or.inr ⟨record, entry.trimmed, by rw [hheld], hnew, hentered,
                Or.inr ⟨hresult, haction, hstatus⟩⟩)

/-- Entries come from requests, and rows from entries. -/
theorem told_step {label : TrailLabel}
    (hreach : (trails casing bcrypt first).Reachable trail)
    (hsigned : Signed trail)
    (htold : ∀ entry, Recorded first trail entry →
      Told casing bcrypt first trail entry)
    (hstep : trail.step casing bcrypt label = some next) :
    ∀ entry, Recorded first next entry →
      Told casing bcrypt first next entry := by
  intro entry hrecorded
  have hlater : Recorded first trail entry →
      Told casing bcrypt first next entry :=
    fun hold => (htold entry hold).next hstep
  have hnow : Entered entry trail label next →
      Told casing bcrypt first next entry :=
    .now hreach hstep
  cases label with
  | stop =>
      cases hstep
      rcases hrecorded with hrow | ⟨waiting, hwaiting, -⟩
      · exact hlater (Or.inl hrow)
      · cases hwaiting
  | write index out =>
      obtain ⟨taken, htaken, rfl⟩ := write_cases hstep
      obtain ⟨userID, hactor⟩ := hsigned taken (List.mem_of_getElem? htaken)
      apply hlater
      rcases hrecorded with ⟨log, hlog, hfresh, hentry⟩ |
        ⟨waiting, hwaiting, heq⟩
      · rcases @written_cases trail out taken userID hactor with
          ⟨err, -, hsame⟩ | ⟨added, hadded, -, hadds⟩
        · change log ∈ trail.written out taken at hlog
          rw [hsame] at hlog
          exact Or.inl ⟨log, hlog, hfresh, hentry⟩
        · rcases (hadds.2 log).mp hlog with rfl | hold
          · exact Or.inr ⟨taken, List.mem_of_getElem? htaken,
              hadded.symm.trans hentry⟩
          · exact Or.inl ⟨log, hold, hfresh, hentry⟩
      · exact Or.inr ⟨waiting, List.mem_of_mem_eraseIdx hwaiting, heq⟩
  | request exchange =>
      rcases request_cases hstep with rfl |
        ⟨principal, made, hprincipal, hactor, haccounts, hlogs, hpending⟩
      · exact htold entry hrecorded
      · rcases hrecorded with ⟨log, hlog, hfresh, hentry⟩ |
          ⟨waiting, hwaiting, heq⟩
        · rw [hlogs] at hlog
          exact hlater (Or.inl ⟨log, hlog, hfresh, hentry⟩)
        · rw [hpending, List.mem_append, List.mem_singleton] at hwaiting
          rcases hwaiting with hold | rfl
          · exact hlater (Or.inr ⟨waiting, hold, heq⟩)
          · subst heq
            exact hnow (.intro hprincipal hpending rfl
              ((congrArg trimSpace hactor).trans (trimSpace_text _)) haccounts)

/-- Nothing waits at first, so only requests of the run are recorded. -/
theorem told_of_reachable (hquiet : first.pending = [])
    (hreach : (trails casing bcrypt first).Reachable last) :
    Signed last ∧ Grows first last ∧
      ∀ entry, Recorded first last entry →
        Told casing bcrypt first last entry := by
  induction hreach with
  | start hinit =>
      cases hinit
      refine ⟨?_, fun log hlog => hlog, ?_⟩
      · intro entry hentry
        rw [hquiet] at hentry
        cases hentry
      · rintro entry (⟨log, hlog, hfresh, -⟩ | ⟨waiting, hwaiting, -⟩)
        · exact absurd hlog hfresh
        · rw [hquiet] at hwaiting
          cases hwaiting
  | next hreach _ hstep ih =>
      obtain ⟨hsigned, hgrows, htold⟩ := ih
      exact ⟨signed_step hsigned hstep,
        fun log hlog => grows_step hsigned hstep log (hgrows log hlog),
        told_step hreach hsigned htold hstep⟩

end Records

section Sample

def quietTrail : Trail := ⟨⟨emptyRegistry, []⟩, Table.empty, []⟩

/-- A request of the one user of the sample registry. -/
def userExchange (method path : String) (operation : Operation) : Exchange where
  http := ⟨method, path, fun _ => "", "curl/8.5.0", "10.0.0.9:41000",
    some "10.0.0.9"⟩
  principal := some ⟨7, "user"⟩
  operation := operation
  durationMS := 4

/-- The broker has the record of a command, whose request is cancelled before it
hears of it. -/
def cancelledSurroundings : DeviceService.Surroundings :=
  { DeviceService.openSurroundings (DeviceService.oneProperty "temp") with
    publisher := some
      { DeviceService.openBroker with
        send := fun _ => .error "context canceled" } }

/-- A tenant is created, another that is not there is to be deleted, a command
is lost, and the entries are written, not in this order. -/
def acmeRun : List TrailLabel :=
  [.request (userExchange "POST" "/api/v1/tenants"
      (.createTenant (calmCall 1) (.ok ⟨"acme", "Acme"⟩))),
    .request (userExchange "DELETE"
      "/api/v1/tenants/00000000-0000-0000-0000-000000000002"
      (.deleteTenant (calmCall 2) "00000000-0000-0000-0000-000000000002")),
    .request (userExchange "POST" "/api/v1/devices/device-1/property/set"
      (.setProperties cancelledSurroundings true "device-1"
        (.ok ⟨some (GoMap.ofMembers [("temp", .num 21 true)])⟩))),
    .write 1 (calmCall 11), .write 0 (calmCall 12), .write 0 (calmCall 13)]

def acmeTrail : Trail :=
  ((trails asciiCasing plainBcrypt quietTrail).run quietTrail acmeRun).getD
    quietTrail

theorem acmeRun_leads :
    (trails asciiCasing plainBcrypt quietTrail).run quietTrail acmeRun =
      some acmeTrail := by
  have hsome : ((trails asciiCasing plainBcrypt quietTrail).run quietTrail
      acmeRun).isSome = true := by decide +kernel
  obtain ⟨last, hlast⟩ := Option.isSome_iff_exists.mp hsome
  rw [acmeTrail, hlast, Option.getD_some]

end Sample

section Results

variable {casing : Casing} {bcrypt : Bcrypt} {first last : Trail}

/-- While entries are written and the process goes on, no row of the registry is
created, updated or deleted without an entry that reports it, no command is sent
without the entry of its request, which reports that it was sent or that it
could not be, each of these entries is, or will be, a new row of the log, and
rows of the log stay. -/
theorem changes_are_recorded (hquiet : first.pending = [])
    (hreach : (trails casing bcrypt first).ReachableVia Written last) :
    (∀ log ∈ first.logs, log ∈ last.logs) ∧
    Spared (fun kind id => ∃ entry, Recorded first last entry ∧
      entry.Names kind id) first.db last.db ∧
    Sent casing bcrypt first last := by
  have hfollowed : Followed casing bcrypt first last := by
    induction hreach with
    | start hinit =>
        refine ⟨.start hinit, ?_, ?_, ?_, ?_, ?_⟩
        all_goals cases hinit
        · intro entry hentry
          rw [hquiet] at hentry
          cases hentry
        · exact fun log hlog => hlog
        · exact .refl _ _
        · exact List.prefix_refl _
        · intro number record hrecord hsince
          obtain ⟨hbound, -⟩ := List.getElem?_eq_some_iff.mp hrecord
          exact absurd hbound (Nat.not_lt.mpr hsince)
    | next _ hwritten hstep ih => exact followed_step ih hwritten hstep
  exact ⟨hfollowed.grows, hfollowed.spared, hfollowed.sent⟩

theorem changes_are_recorded_acme :
    acmeTrail.logs.rows.map (fun log => (log.action, log.result)) =
      [("tenant.delete", .failure), ("tenant.create", .success),
        ("device.property.set", .failure)] ∧
    Spared (fun kind id => ∃ entry, Recorded quietTrail acmeTrail entry ∧
      entry.Names kind id) quietTrail.db acmeTrail.db ∧
    acmeTrail.sent.length = 1 ∧
    Sent asciiCasing plainBcrypt quietTrail acmeTrail := by
  have hwritten : (trails asciiCasing plainBcrypt quietTrail).Along
      (fun trail label _ => Written trail label) quietTrail acmeRun := by
    decide +kernel
  have hreach :=
    System.ReachableVia.of_along (.start rfl) hwritten acmeRun_leads
  obtain ⟨-, hspared, hsent⟩ := changes_are_recorded rfl hreach
  exact ⟨by decide +kernel, hspared, by decide +kernel, hsent⟩

/-- Whatever fails, is lost or runs side by side, the log only grows, every new
row is true of a request of the run, and what a user is shown are rows of before
or true of a request of that user. -/
theorem rows_are_true (hquiet : first.pending = [])
    (hreach : (trails casing bcrypt first).Reachable last) :
    (∀ log ∈ first.logs, log ∈ last.logs) ∧
    (∀ log ∈ last.logs, log ∉ first.logs →
      Told casing bcrypt first last log.entry) ∧
    ∀ out userID page result,
      AuditService.list out userID page last.logs = .ok result →
      ∀ entry ∈ result.items, entry.actorUserID = Uuid.text userID ∧
        ((∃ log ∈ first.logs, log.entry = entry) ∨
          Told casing bcrypt first last entry) := by
  obtain ⟨-, hgrows, htold⟩ := told_of_reachable hquiet hreach
  have hrow : ∀ log ∈ last.logs, log ∉ first.logs →
      Told casing bcrypt first last log.entry :=
    fun log hlog hfresh => htold _ (Or.inl ⟨log, hlog, hfresh, rfl⟩)
  refine ⟨hgrows, hrow, ?_⟩
  intro out userID page result hlist entry hentry
  obtain ⟨log, hlog, howner, rfl⟩ :=
    (AuditService.list_eq_ok hlist).2 entry hentry
  constructor
  · simp only [AuditLog.entry, howner]
    rfl
  · by_cases hold : log ∈ first.logs
    · exact Or.inl ⟨log, hold, rfl⟩
    · exact Or.inr (hrow log hlog hold)

theorem rows_are_true_acme :
    acmeTrail.logs.rows.length = 3 ∧
    ∀ log ∈ acmeTrail.logs, log ∉ quietTrail.logs →
      Told asciiCasing plainBcrypt quietTrail acmeTrail log.entry := by
  have hreach : (trails asciiCasing plainBcrypt quietTrail).Reachable
      acmeTrail :=
    System.Reachable.of_run (.start rfl) acmeRun_leads
  exact ⟨by decide +kernel, (rows_are_true rfl hreach).2.1⟩

end Results

end Audit

end LinkFlow
