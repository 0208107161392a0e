/-
The registry of realtime connections and the broadcasts through it.  `Register`,
`Unregister` and the snapshot of a broadcast each hold the lock; the `Send`s of
a broadcast come after its snapshot and overlap with everything else.
-/
import LinkFlow.RealtimeConn
import LinkFlow.Lib.GoMap
import Mathlib.Data.Finset.Basic
import Mathlib.Data.Finset.Dedup

namespace LinkFlow

namespace Realtime

universe v

section Map

variable {C : Type u} [DecidableEq C]

/-- `map[string]map[*Conn]struct{}`. -/
structure Registry (C : Type u) where
  byTenant : GoMap (Finset C)

def newRegistry (C : Type u) : Registry C := ⟨GoMap.empty⟩

/-- The connections of a tenant; a missing entry reads as the empty map. -/
def Registry.conns (registry : Registry C) (tenantID : String) : Finset C :=
  (registry.byTenant.get? tenantID).getD ∅

/-- One round of `Register`'s loop. -/
def Registry.add (conn : C) (registry : Registry C) (tenantID : String) :
    Registry C :=
  ⟨registry.byTenant.set tenantID (insert conn (registry.conns tenantID))⟩

/-- `Register`. -/
def Registry.register (registry : Registry C) (conn : C)
    (tenantIDs : List String) : Registry C :=
  tenantIDs.foldl (Registry.add conn) registry

/-- One round of `Unregister`'s loop. -/
def Registry.remove (conn : C) (registry : Registry C) (tenantID : String) :
    Registry C :=
  match registry.byTenant.get? tenantID with
  | none => registry
  | some conns =>
      if conns.erase conn = ∅ then ⟨registry.byTenant.delete tenantID⟩
      else ⟨registry.byTenant.set tenantID (conns.erase conn)⟩

/-- `Unregister`. -/
def Registry.unregister (registry : Registry C) (conn : C)
    (tenantIDs : List String) : Registry C :=
  tenantIDs.foldl (Registry.remove conn) registry

/-- No tenant has an empty inner map. -/
def Registry.NoEmpty (registry : Registry C) : Prop :=
  ∀ tenantID conns, registry.byTenant.get? tenantID = some conns →
    conns.Nonempty

variable {registry : Registry C} {conn other : C} {tenantID : String}

theorem Registry.conns_add {first : String} :
    (registry.add conn first).conns tenantID =
      if tenantID = first then insert conn (registry.conns tenantID)
      else registry.conns tenantID := by
  rw [add, conns]
  rw [GoMap.get?_set]
  split
  next hsame => rw [hsame, Option.getD_some]
  next => rfl

theorem Registry.conns_remove {first : String} :
    (registry.remove conn first).conns tenantID =
      if tenantID = first then (registry.conns tenantID).erase conn
      else registry.conns tenantID := by
  unfold remove conns
  cases hfirst : registry.byTenant.get? first with
  | none =>
      simp only
      split
      next hsame => simp [hsame, hfirst]
      next => rfl
  | some conns =>
      simp only
      split
      next hempty =>
        rw [GoMap.get?_delete]
        split
        next hsame => simp [hsame, hfirst, hempty]
        next => rfl
      next hrest =>
        rw [GoMap.get?_set]
        split
        next hsame => simp [hsame, hfirst]
        next => rfl

theorem Registry.noEmpty_add (hne : registry.NoEmpty) {first : String} :
    (registry.add conn first).NoEmpty := by
  intro tenantID conns hget
  rw [add] at hget
  rw [GoMap.get?_set] at hget
  split at hget
  · cases hget
    exact ⟨conn, Finset.mem_insert_self _ _⟩
  · exact hne tenantID conns hget

theorem Registry.noEmpty_remove (hne : registry.NoEmpty) {first : String} :
    (registry.remove conn first).NoEmpty := by
  intro tenantID conns hget
  rw [remove] at hget
  split at hget
  · exact hne tenantID conns hget
  · split at hget
    · rw [GoMap.get?_delete] at hget
      split at hget
      · cases hget
      · exact hne tenantID conns hget
    next hrest =>
      rw [GoMap.get?_set] at hget
      split at hget
      · cases hget
        exact Finset.nonempty_iff_ne_empty.mpr hrest
      · exact hne tenantID conns hget

/-- `Register` adds the connection under each of its tenants. -/
theorem Registry.mem_register {tenantIDs : List String} :
    other ∈ (registry.register conn tenantIDs).conns tenantID ↔
      other ∈ registry.conns tenantID ∨
        other = conn ∧ tenantID ∈ tenantIDs := by
  induction tenantIDs generalizing registry with
  | nil => simp [register]
  | cons first rest ih =>
      have hfold : registry.register conn (first :: rest) =
          (registry.add conn first).register conn rest := rfl
      rw [hfold, ih, conns_add]
      by_cases hsame : tenantID = first
      · rw [if_pos hsame]
        simp only [Finset.mem_insert, hsame, List.mem_cons_self, and_true]
        tauto
      · rw [if_neg hsame]
        simp only [List.mem_cons, hsame, false_or]

/-- `Unregister` takes the connection out under each of its tenants. -/
theorem Registry.mem_unregister {tenantIDs : List String} :
    other ∈ (registry.unregister conn tenantIDs).conns tenantID ↔
      other ∈ registry.conns tenantID ∧
        ¬ (other = conn ∧ tenantID ∈ tenantIDs) := by
  induction tenantIDs generalizing registry with
  | nil => simp [unregister]
  | cons first rest ih =>
      have hfold : registry.unregister conn (first :: rest) =
          (registry.remove conn first).unregister conn rest := rfl
      rw [hfold, ih, conns_remove]
      by_cases hsame : tenantID = first
      · rw [if_pos hsame]
        simp only [Finset.mem_erase, hsame, List.mem_cons_self, and_true]
        tauto
      · rw [if_neg hsame]
        simp only [List.mem_cons, hsame, false_or]

theorem Registry.noEmpty_register (hne : registry.NoEmpty)
    (tenantIDs : List String) : (registry.register conn tenantIDs).NoEmpty := by
  induction tenantIDs generalizing registry with
  | nil => exact hne
  | cons first rest ih => exact ih (noEmpty_add hne)

theorem Registry.noEmpty_unregister (hne : registry.NoEmpty)
    (tenantIDs : List String) :
    (registry.unregister conn tenantIDs).NoEmpty := by
  induction tenantIDs generalizing registry with
  | nil => exact hne
  | cons first rest ih => exact ih (noEmpty_remove hne)

end Map

section Broadcasts

variable (C : Type u) (M : Type v)

/-- The last call for a connection. -/
inductive Call where
  | register
  | unregister
deriving Repr, DecidableEq

/-- A `Broadcast` after its snapshot.  `closing` is the `Send` to the first
target on its way out, and `calls` are the last calls at the snapshot. -/
structure Broadcast where
  tenantID : String
  msg : M
  targets : List C
  closing : Option Closing
  delivered : Nat
  calls : C → Option Call

/-- The registry with the connections, the broadcasts made so far, the last call
for every connection, and a record of which broadcast queued its message on
which connection. -/
structure Hub where
  registry : Registry C
  sessions : C → Session M
  broadcasts : List (Broadcast C M)
  calls : C → Option Call
  queued : List (ℕ × C)

def Hub.start : Hub C M where
  registry := newRegistry C
  sessions _ := Session.start M
  broadcasts := []
  calls _ := none
  queued := []

/-- `targets` is the order in which the snapshot happens to range over the map.
The `none` of the first two is the nil pointer. -/
inductive HubLabel where
  | register (conn : Option C)
  | unregister (conn : Option C)
  | broadcast (tenantID : String) (msg : M) (targets : List C)
  | send (number : ℕ) (choice : SendCase)
  | sendCloses (number : ℕ)
  | loop (conn : C) (label : LoopLabel)
deriving Repr

variable {C : Type u} {M : Type v} [DecidableEq C]

/-- What `Broadcast` returns once it has gone through its targets. -/
def Broadcast.result? (broadcast : Broadcast C M) : Option Nat :=
  match broadcast.targets with
  | [] => some broadcast.delivered
  | _ :: _ => none

/-- A broadcast without a tenant returns 0 before its snapshot. -/
def Hub.broadcast (hub : Hub C M) (tenantID : String) (msg : M)
    (targets : List C) : Option (Hub C M) :=
  let made (targets : List C) : Hub C M :=
    { hub with
      broadcasts := hub.broadcasts ++
        [{ tenantID := tenantID
           msg := msg
           targets := targets
           closing := none
           delivered := 0
           calls := hub.calls }] }
  if tenantID = "" then some (made [])
  else if targets.Nodup ∧ targets.toFinset = hub.registry.conns tenantID then
    some (made targets)
  else none

/-- The select of the `Send` to the first target. -/
def Hub.send (capacity : Nat) (hub : Hub C M) (number : ℕ)
    (choice : SendCase) : Option (Hub C M) :=
  match hub.broadcasts[number]? with
  | none => none
  | some broadcast =>
      match broadcast.closing, broadcast.targets with
      | none, target :: rest =>
          ((hub.sessions target).conn.send capacity broadcast.msg choice).map
            fun conn =>
              { hub with
                sessions := Function.update hub.sessions target
                  { hub.sessions target with conn := conn }
                broadcasts := hub.broadcasts.set number
                  (match choice with
                  | .queued =>
                      { broadcast with
                        targets := rest
                        delivered := broadcast.delivered + 1 }
                  | .closed => { broadcast with targets := rest }
                  | .full => { broadcast with closing := choice.closing })
                queued :=
                  match choice with
                  | .queued => hub.queued ++ [(number, target)]
                  | _ => hub.queued }
      | _, _ => none

/-- The `Send` that found a full buffer closes its connection and returns. -/
def Hub.sendCloses (hub : Hub C M) (number : ℕ) : Option (Hub C M) :=
  match hub.broadcasts[number]? with
  | none => none
  | some broadcast =>
      match broadcast.closing, broadcast.targets with
      | some call, target :: rest =>
          (closeWithReason (hub.sessions target).conn call).map
            fun (conn, left) =>
              { hub with
                sessions := Function.update hub.sessions target
                  { hub.sessions target with conn := conn }
                broadcasts := hub.broadcasts.set number
                  { broadcast with
                    closing := left
                    targets := if left.isNone then rest else target :: rest } }
      | _, _ => none

def Hub.step (capacity : Nat) (tenantIDs : C → List String) (hub : Hub C M) :
    HubLabel C M → Option (Hub C M)
  | .register none | .unregister none => some hub
  | .register (some conn) =>
      some { hub with
        registry := hub.registry.register conn (tenantIDs conn)
        calls := Function.update hub.calls conn (some .register) }
  | .unregister (some conn) =>
      some { hub with
        registry := hub.registry.unregister conn (tenantIDs conn)
        calls := Function.update hub.calls conn (some .unregister) }
  | .broadcast tenantID msg targets => hub.broadcast tenantID msg targets
  | .send number choice => hub.send capacity number choice
  | .sendCloses number => hub.sendCloses number
  | .loop conn label =>
      ((hub.sessions conn).step label).map fun session =>
        { hub with sessions := Function.update hub.sessions conn session }

/-- All runs of a registry over connections that own the given tenants. -/
def hubs (M : Type v) (capacity : Nat) (tenantIDs : C → List String) :
    Transition.System (Hub C M) (HubLabel C M) where
  init hub := hub = Hub.start C M
  step := Hub.step capacity tenantIDs

/-- A broadcast queues its message on owners of its tenant that were registered
at its snapshot, once on each, and counts them. -/
structure Fair (tenantIDs : C → List String) (queued : List (ℕ × C))
    (number : ℕ) (broadcast : Broadcast C M) : Prop where
  targets : broadcast.targets.Nodup
  waiting : ∀ conn ∈ broadcast.targets, broadcast.tenantID ∈ tenantIDs conn ∧
    broadcast.calls conn = some .register ∧ (number, conn) ∉ queued
  reached : ∀ conn, (number, conn) ∈ queued →
    broadcast.tenantID ∈ tenantIDs conn ∧ broadcast.calls conn = some .register
  once : ∀ conn, queued.count (number, conn) ≤ 1
  delivered : broadcast.delivered = queued.countP (·.1 = number)

variable {tenantIDs : C → List String} {queued : List (ℕ × C)} {number : ℕ}
  {broadcast : Broadcast C M} {target : C} {rest : List C}

/-- What another broadcast queues does not matter. -/
theorem Fair.of_other (hfair : Fair tenantIDs queued number broadcast)
    {other : ℕ} (hne : other ≠ number) :
    Fair tenantIDs (queued ++ [(other, target)]) number broadcast where
  targets := hfair.targets
  waiting := by
    intro conn hmem
    obtain ⟨howns, hcall, hnot⟩ := hfair.waiting conn hmem
    refine ⟨howns, hcall, ?_⟩
    simp [hnot, hne.symm]
  reached := by
    intro conn hmem
    rcases List.mem_append.mp hmem with hold | hnew
    · exact hfair.reached conn hold
    · cases List.mem_singleton.mp hnew
      exact absurd rfl hne
  once := by
    intro conn
    have hfresh : ((other, target) == (number, conn)) = false := by simp [hne]
    rw [List.count_append, List.count_singleton, hfresh]
    exact hfair.once conn
  delivered := by
    rw [List.countP_append, hfair.delivered]
    simp [hne]

/-- A target that the message could not be queued on is passed over. -/
theorem Fair.skipped (hfair : Fair tenantIDs queued number broadcast)
    (htargets : broadcast.targets = target :: rest) (closing : Option Closing) :
    Fair tenantIDs queued number
      { broadcast with targets := rest, closing := closing } where
  targets := by
    have hnodup := hfair.targets
    rw [htargets, List.nodup_cons] at hnodup
    exact hnodup.2
  waiting := fun conn hmem =>
    hfair.waiting conn (htargets ▸ List.mem_cons_of_mem _ hmem)
  reached := hfair.reached
  once := hfair.once
  delivered := hfair.delivered

theorem Fair.delivers (hfair : Fair tenantIDs queued number broadcast)
    (htargets : broadcast.targets = target :: rest) :
    Fair tenantIDs (queued ++ [(number, target)]) number
      { broadcast with
        targets := rest
        delivered := broadcast.delivered + 1 } where
  targets := (hfair.skipped htargets none).targets
  waiting := by
    intro conn hmem
    have hin : conn ∈ broadcast.targets :=
      htargets ▸ List.mem_cons_of_mem _ hmem
    obtain ⟨howns, hcall, hnot⟩ := hfair.waiting conn hin
    have hnodup := hfair.targets
    rw [htargets, List.nodup_cons] at hnodup
    have hne : conn ≠ target := fun hsame => hnodup.1 (hsame ▸ hmem)
    exact ⟨howns, hcall, by simp [hnot, hne]⟩
  reached := by
    intro conn hmem
    rcases List.mem_append.mp hmem with hold | hnew
    · exact hfair.reached conn hold
    · cases List.mem_singleton.mp hnew
      have hin : target ∈ broadcast.targets := htargets ▸ List.mem_cons_self
      exact ⟨(hfair.waiting target hin).1, (hfair.waiting target hin).2.1⟩
  once := by
    intro conn
    rw [List.count_append, List.count_singleton]
    by_cases hsame : conn = target
    · subst hsame
      have hin : conn ∈ broadcast.targets := htargets ▸ List.mem_cons_self
      have hzero := List.count_eq_zero_of_not_mem (hfair.waiting conn hin).2.2
      rw [hzero]
      split <;> omega
    · have hfresh : ((number, target) == (number, conn)) = false := by
        simp [Ne.symm hsame]
      rw [hfresh]
      exact hfair.once conn
  delivered := by
    rw [List.countP_append, ← hfair.delivered]
    simp

/-- What holds of a hub at any time. -/
structure Isolated (tenantIDs : C → List String) (hub : Hub C M) : Prop where
  noEmpty : hub.registry.NoEmpty
  owned : ∀ tenantID conn, conn ∈ hub.registry.conns tenantID ↔
    tenantID ∈ tenantIDs conn ∧ hub.calls conn = some .register
  numbered : ∀ number conn, (number, conn) ∈ hub.queued →
    number < hub.broadcasts.length
  fair : ∀ number broadcast, hub.broadcasts[number]? = some broadcast →
    Fair tenantIDs hub.queued number broadcast

variable {hub next : Hub C M} {capacity : Nat}

theorem Isolated.register (hisolated : Isolated tenantIDs hub) (conn : C) :
    Isolated tenantIDs { hub with
      registry := hub.registry.register conn (tenantIDs conn)
      calls := Function.update hub.calls conn (some .register) } where
  noEmpty := Registry.noEmpty_register hisolated.noEmpty _
  owned := by
    intro tenantID other
    rw [Registry.mem_register, hisolated.owned]
    by_cases hsame : other = conn
    · subst hsame
      simp only [Function.update_self, and_true, true_and]
      tauto
    · simp only [Function.update_of_ne hsame, hsame, false_and, or_false]
  numbered := hisolated.numbered
  fair := hisolated.fair

theorem Isolated.unregister (hisolated : Isolated tenantIDs hub) (conn : C) :
    Isolated tenantIDs { hub with
      registry := hub.registry.unregister conn (tenantIDs conn)
      calls := Function.update hub.calls conn (some .unregister) } where
  noEmpty := Registry.noEmpty_unregister hisolated.noEmpty _
  owned := by
    intro tenantID other
    rw [Registry.mem_unregister, hisolated.owned]
    by_cases hsame : other = conn
    · subst hsame
      simp only [Function.update_self, true_and]
      constructor
      · rintro ⟨⟨howns, -⟩, hnot⟩
        exact absurd howns hnot
      · rintro ⟨-, hcall⟩
        cases hcall
    · simp only [Function.update_of_ne hsame, hsame, false_and, not_false_iff,
        and_true]
  numbered := hisolated.numbered
  fair := hisolated.fair

/-- A broadcast that has queued nothing yet, over targets of the registry. -/
theorem Isolated.made (hisolated : Isolated tenantIDs hub) {tenantID : String}
    {msg : M} {targets : List C} (hnodup : targets.Nodup)
    (htargets : ∀ conn ∈ targets, conn ∈ hub.registry.conns tenantID) :
    Isolated tenantIDs { hub with
      broadcasts := hub.broadcasts ++
        [{ tenantID := tenantID
           msg := msg
           targets := targets
           closing := none
           delivered := 0
           calls := hub.calls }] } where
  noEmpty := hisolated.noEmpty
  owned := hisolated.owned
  numbered := by
    intro number conn hmem
    have hlt := hisolated.numbered number conn hmem
    simp only [List.length_append]
    omega
  fair := by
    intro number broadcast hget
    simp only [List.getElem?_append] at hget
    split at hget
    · exact hisolated.fair number broadcast hget
    next hge =>
      have hnew : ∀ conn, (number, conn) ∉ hub.queued := fun conn hmem =>
        hge (hisolated.numbered number conn hmem)
      rw [List.getElem?_singleton] at hget
      split at hget <;> cases hget
      refine ⟨hnodup, fun conn hmem => ?_, fun conn hmem => ?_,
        fun conn => ?_, ?_⟩
      · obtain ⟨howns, hcall⟩ :=
          (hisolated.owned tenantID conn).mp (htargets conn hmem)
        exact ⟨howns, hcall, hnew conn⟩
      · exact absurd hmem (hnew conn)
      · rw [List.count_eq_zero_of_not_mem (hnew conn)]
        exact Nat.zero_le _
      · refine (List.countP_eq_zero.mpr ?_).symm
        rintro ⟨other, conn⟩ hmem hsame
        simp only [decide_eq_true_eq] at hsame
        exact hnew conn (hsame ▸ hmem)

/-- A step of one broadcast. -/
theorem Isolated.updated (hisolated : Isolated tenantIDs hub) {number : ℕ}
    {moved : Broadcast C M} {sessions : C → Session M}
    {queued : List (ℕ × C)} (hlt : number < hub.broadcasts.length)
    (hqueued : queued = hub.queued ∨
      ∃ target, queued = hub.queued ++ [(number, target)])
    (hmoved : Fair tenantIDs queued number moved) :
    Isolated tenantIDs { hub with
      sessions := sessions
      broadcasts := hub.broadcasts.set number moved
      queued := queued } where
  noEmpty := hisolated.noEmpty
  owned := hisolated.owned
  numbered := by
    intro other conn hmem
    simp only [List.length_set]
    rcases hqueued with rfl | ⟨target, rfl⟩
    · exact hisolated.numbered other conn hmem
    · rcases List.mem_append.mp hmem with hold | hnew
      · exact hisolated.numbered other conn hold
      · cases List.mem_singleton.mp hnew
        exact hlt
  fair := by
    intro other broadcast hget
    simp only [List.getElem?_set] at hget
    split at hget
    next hsame =>
      cases hget
      exact hsame ▸ hmoved
    next hne =>
      have hold := hisolated.fair other broadcast hget
      rcases hqueued with rfl | ⟨target, rfl⟩
      · exact hold
      · exact hold.of_other hne

theorem Isolated.send (hisolated : Isolated tenantIDs hub) {number : ℕ}
    {choice : SendCase} (hstep : hub.send capacity number choice = some next) :
    Isolated tenantIDs next := by
  simp only [Hub.send] at hstep
  split at hstep
  · cases hstep
  next broadcast hget =>
    obtain ⟨hlt, -⟩ := List.getElem?_eq_some_iff.mp hget
    have hfair := hisolated.fair number broadcast hget
    split at hstep
    next target rest hclosing htargets =>
      obtain ⟨conn, -, rfl⟩ := Option.map_eq_some_iff.mp hstep
      cases choice with
      | queued =>
          exact hisolated.updated hlt (Or.inr ⟨target, rfl⟩)
            (hfair.delivers htargets)
      | closed =>
          exact hisolated.updated hlt (Or.inl rfl)
            (hfair.skipped htargets broadcast.closing)
      | full =>
          apply hisolated.updated hlt (Or.inl rfl)
          exact ⟨hfair.targets, hfair.waiting, hfair.reached, hfair.once,
            hfair.delivered⟩
    · cases hstep

theorem Isolated.sendCloses (hisolated : Isolated tenantIDs hub) {number : ℕ}
    (hstep : hub.sendCloses number = some next) : Isolated tenantIDs next := by
  simp only [Hub.sendCloses] at hstep
  split at hstep
  · cases hstep
  next broadcast hget =>
    obtain ⟨hlt, -⟩ := List.getElem?_eq_some_iff.mp hget
    have hfair := hisolated.fair number broadcast hget
    split at hstep
    next call target rest hclosing htargets =>
      obtain ⟨⟨conn, left⟩, -, rfl⟩ := Option.map_eq_some_iff.mp hstep
      apply hisolated.updated hlt (Or.inl rfl)
      cases left with
      | none => exact hfair.skipped htargets none
      | some call =>
          refine ⟨?_, ?_, hfair.reached, hfair.once, hfair.delivered⟩
          · exact htargets ▸ hfair.targets
          · exact htargets ▸ hfair.waiting
    · cases hstep

theorem Isolated.step (hisolated : Isolated tenantIDs hub)
    {label : HubLabel C M}
    (hstep : hub.step capacity tenantIDs label = some next) :
    Isolated tenantIDs next := by
  cases label with
  | register conn =>
      cases conn with
      | none =>
          cases hstep
          exact hisolated
      | some conn =>
          cases hstep
          exact hisolated.register conn
  | unregister conn =>
      cases conn with
      | none =>
          cases hstep
          exact hisolated
      | some conn =>
          cases hstep
          exact hisolated.unregister conn
  | broadcast tenantID msg targets =>
      simp only [Hub.step, Hub.broadcast] at hstep
      split at hstep
      · cases hstep
        exact hisolated.made List.nodup_nil (by simp)
      · split at hstep <;> cases hstep
        next htargets =>
          obtain ⟨hnodup, hconns⟩ := htargets
          apply hisolated.made hnodup
          intro conn hmem
          rw [← hconns, List.mem_toFinset]
          exact hmem
  | send number choice => exact hisolated.send hstep
  | sendCloses number => exact hisolated.sendCloses hstep
  | loop conn label =>
      simp only [Hub.step] at hstep
      obtain ⟨session, -, rfl⟩ := Option.map_eq_some_iff.mp hstep
      exact ⟨hisolated.noEmpty, hisolated.owned, hisolated.numbered,
        hisolated.fair⟩

theorem isolated_of_reachable
    (hreach : (hubs M capacity tenantIDs).Reachable hub) :
    Isolated tenantIDs hub := by
  refine hreach.invariant ?_ ?_
  · rintro start rfl
    refine ⟨?_, ?_, ?_, ?_⟩
    · intro tenantID conns hget
      cases hget
    · intro tenantID conn
      simp [Hub.start, newRegistry, Registry.conns]
    · simp [Hub.start]
    · simp [Hub.start]
  · intro current label next hcurrent hstep
    exact hcurrent.step hstep

/-- In every run, the registry has exactly the connections whose last call was
`Register`, under each of their tenants and without empty entries; and a
broadcast queues its message at most once on a connection, only on those that
own its tenant and were registered at its snapshot, and returns how many it was
queued on. -/
theorem broadcasts_isolated (M : Type v) (capacity : Nat)
    (tenantIDs : C → List String) {hub : Hub C M}
    (hreach : (hubs M capacity tenantIDs).Reachable hub) :
    (∀ tenantID conn, conn ∈ hub.registry.conns tenantID ↔
        tenantID ∈ tenantIDs conn ∧ hub.calls conn = some .register) ∧
      (∀ tenantID conns, hub.registry.byTenant.get? tenantID = some conns →
        conns.Nonempty) ∧
      ∀ number broadcast, hub.broadcasts[number]? = some broadcast →
        (∀ conn, hub.queued.count (number, conn) ≤ 1) ∧
        (∀ conn, (number, conn) ∈ hub.queued →
          broadcast.tenantID ∈ tenantIDs conn ∧
            broadcast.calls conn = some .register) ∧
        ∀ result, broadcast.result? = some result →
          result = hub.queued.countP (·.1 = number) := by
  have hisolated := isolated_of_reachable hreach
  refine ⟨hisolated.owned, hisolated.noEmpty, fun number broadcast hget => ?_⟩
  have hfair := hisolated.fair number broadcast hget
  refine ⟨hfair.once, hfair.reached, fun result hresult => ?_⟩
  rw [Broadcast.result?] at hresult
  split at hresult <;> cases hresult
  exact hfair.delivered

/-- The connection 0 owns two tenants and the connection 1 one of them. -/
def twoOwners : Fin 2 → List String
  | 0 => ["a", "b"]
  | 1 => ["b"]

/-- The connection 1 goes between the snapshot and its `Send`, and its buffer
takes the message nevertheless; the broadcast after it reaches the other one
only. -/
def departingRun : List (HubLabel (Fin 2) Nat) :=
  [.register (some 0), .register (some 1), .broadcast "b" 7 [1, 0],
    .send 0 .queued, .unregister (some 1), .send 0 .queued,
    .broadcast "b" 8 [0], .send 1 .queued]

theorem departing_run_isolated :
    ∃ hub, (hubs Nat 64 twoOwners).run (Hub.start (Fin 2) Nat) departingRun =
        some hub ∧
      hub.queued = [(0, 1), (0, 0), (1, 0)] ∧
      (1 : Fin 2) ∉ hub.registry.conns "b" ∧
      ∃ broadcast, hub.broadcasts[0]? = some broadcast ∧
        broadcast.result? = some (hub.queued.countP (·.1 = 0)) := by
  obtain ⟨hub, hrun⟩ : ∃ hub, (hubs Nat 64 twoOwners).run
    (Hub.start (Fin 2) Nat) departingRun = some hub := ⟨_, rfl⟩
  obtain ⟨howned, -, hfair⟩ := broadcasts_isolated Nat 64 twoOwners
    (Transition.System.Reachable.of_run (.start rfl) hrun)
  cases hrun
  refine ⟨_, rfl, rfl, ?_, _, rfl, ?_⟩
  · rw [howned]
    rintro ⟨-, hcall⟩
    cases hcall
  · have hresult := (hfair 0 _ rfl).2.2 2 rfl
    rw [← hresult]
    rfl

end Broadcasts

end Realtime

end LinkFlow
