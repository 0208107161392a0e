/-
What reaches the realtime connections.  Each connection sees the `Send`s of the
consumer loop in the order of the broadcasts, so its socket carries the events
of its tenants as the loop handles them, and the loop handles them without gaps.
-/
import LinkFlow.RealtimeConsumer

namespace LinkFlow

namespace Realtime

universe v

section Streams

variable {C : Type u} {B : Type v} [DecidableEq C]

/-- The broadcast that the loop is in. -/
def Backend.current? (backend : Backend C B) : Option (Broadcast C B) :=
  match backend.phase with
  | .broadcasting _ number => backend.hub.broadcasts[number]?
  | _ => none

/-- The closing of this connection that the `Send` under way has left to do. -/
def Broadcast.sender (broadcast : Broadcast C B) (conn : C) : Option Closing :=
  match broadcast.closing, broadcast.targets with
  | some call, target :: _ => if target = conn then some call else none
  | _, _ => none

/-- The targets whose `Send` has not begun. -/
def Broadcast.unsent (broadcast : Broadcast C B) : List C :=
  if broadcast.closing.isSome then broadcast.targets.tail else broadcast.targets

/-- What the broadcast under way is still to pass to this connection. -/
def Backend.due (backend : Backend C B) (conn : C) : List B :=
  match backend.current? with
  | none => []
  | some broadcast =>
      if conn ∈ broadcast.unsent then [broadcast.msg] else []

/-- The connection alone, as one that a consumer loop sends to. -/
def Backend.delivery (backend : Backend C B) (conn : C) : Delivery B where
  session := backend.hub.sessions conn
  sender := backend.current?.bind (·.sender conn)
  sent := (backend.record conn).sent
  taken := (backend.record conn).taken
  written := (backend.record conn).written
  lost := (backend.record conn).lost

/-- The connection was registered for the tenant of the message when the loop
handled it. -/
def Handled.Reaches (topic : Topic B) (tenantIDs : C → List String) (conn : C)
    (handled : Handled C) : Prop :=
  ∃ tenantID ∈ tenantIDs conn,
    topic.tenant? handled.message = some tenantID ∧
      handled.calls conn = some .register

instance (topic : Topic B) (tenantIDs : C → List String) (conn : C)
    (handled : Handled C) : Decidable (handled.Reaches topic tenantIDs conn) :=
  inferInstanceAs (Decidable (∃ tenantID ∈ tenantIDs conn, _))

/-- The events of this life that concern a connection, in the order in which the
loop handled them. -/
def Backend.stream (topic : Topic B) (tenantIDs : C → List String)
    (backend : Backend C B) (conn : C) : List B :=
  (backend.handled.filter (·.Reaches topic tenantIDs conn)).map
    fun handled => topic.value handled.message

/-- The `Send`s to this connection queue nothing after their first failure. -/
def InOrderTo (conn : C) (backend : Backend C B) : ConsumerLabel C B → Prop
  | .conns (.send number .queued) =>
      ∀ broadcast, backend.hub.broadcasts[number]? = some broadcast →
        broadcast.targets.head? = some conn → (backend.record conn).lost = none
  | _ => True

variable {topic : Topic B} {capacity : Nat} {tenantIDs : C → List String}
  {backend next : Backend C B} {broadcast : Broadcast C B} {conn : C}

/-- Only the broadcast that the loop is in has targets left. -/
def Backend.Alone (backend : Backend C B) : Prop :=
  ∀ number broadcast, backend.hub.broadcasts[number]? = some broadcast →
    broadcast.targets ≠ [] →
      ∃ message, backend.phase = .broadcasting message number

theorem sender_of_open (hclosing : broadcast.closing = none) :
    broadcast.sender conn = none := by
  rw [Broadcast.sender]
  rw [hclosing]

theorem sender_of_done (hdone : broadcast.targets = []) :
    broadcast.sender conn = none := by
  rw [Broadcast.sender]
  rw [hdone]
  cases broadcast.closing <;> rfl

theorem sender_head {call : Closing} {target : C} {rest : List C}
    (hclosing : broadcast.closing = some call)
    (htargets : broadcast.targets = target :: rest) :
    broadcast.sender conn = if target = conn then some call else none := by
  rw [Broadcast.sender]
  rw [hclosing, htargets]

omit [DecidableEq C] in
theorem current?_of_phase {message : Kafka.Message} {number : ℕ}
    (hphase : backend.phase = .broadcasting message number) :
    backend.current? = backend.hub.broadcasts[number]? := by
  rw [Backend.current?]
  rw [hphase]

/-- The sender of a connection after the select of a `Send` to the target. -/
theorem sent_sender {target : C} {rest : List C} {choice : SendCase}
    (hclosing : broadcast.closing = none)
    (htargets : broadcast.targets = target :: rest) :
    (broadcast.sent rest choice).sender conn =
      if target = conn then choice.closing else none := by
  cases choice with
  | queued | closed =>
      refine (sender_of_open ?_).trans ?_
      · exact hclosing
      · simp [SendCase.closing]
  | full => exact sender_head rfl htargets

/-- What a move of the hub is to one connection. -/
theorem Hub.Moves.delivery {label : HubLabel C B} {hub : Hub C B}
    (halone : backend.Alone) (hmoves : backend.hub.Moves capacity label hub)
    (hnext : next =
      { backend with hub := hub, record := backend.recorded label }) :
    next.delivery conn = backend.delivery conn ∨
      ∃ step, (backend.delivery conn).step capacity step =
          some (next.delivery conn) ∧
        (InOrderTo conn backend (.conns label) →
          QueuesInOrder (backend.delivery conn) step) := by
  cases hmoves with
  | registers hlabel =>
      subst hnext
      rcases hlabel with ⟨_, rfl⟩ | ⟨_, rfl⟩
      · exact Or.inl rfl
      · exact Or.inl rfl
  | @sends number choice broadcast target rest closed queued hget hclosing
      htargets hsend =>
      obtain ⟨message, hphase⟩ := halone number broadcast hget
        (by rw [htargets]; exact List.cons_ne_nil _ _)
      have hnow : backend.current? = some broadcast := by
        rw [current?_of_phase hphase, hget]
      have hlt := (List.getElem?_eq_some_iff.mp hget).1
      have hthen : next.current? = some (broadcast.sent rest choice) := by
        rw [current?_of_phase (by rw [hnext]; exact hphase), hnext]
        exact List.getElem?_set_self hlt
      by_cases hsame : target = conn
      · subst hsame
        refine Or.inr ⟨.send broadcast.msg choice, ?_, ?_⟩
        · simp only [Delivery.step, Backend.delivery, hnow, hthen,
            Option.bind_some, sender_of_open hclosing,
            sent_sender hclosing htargets, if_true, hsend, Option.map_some]
          subst hnext
          cases choice <;>
            simp [Backend.recorded, hget, htargets, Function.update_self]
        · intro hguard
          cases choice with
          | queued => exact hguard broadcast hget (by rw [htargets]; rfl)
          | closed => trivial
          | full => trivial
      · refine Or.inl ?_
        simp only [Backend.delivery, hnow, hthen, Option.bind_some,
          sender_of_open hclosing, sent_sender hclosing htargets,
          if_neg hsame]
        subst hnext
        simp only [Backend.recorded, hget, htargets,
          Function.update_of_ne (Ne.symm hsame)]
  | @closes number broadcast call target rest closed left hget hclosing htargets
      hclose =>
      obtain ⟨message, hphase⟩ := halone number broadcast hget
        (by rw [htargets]; exact List.cons_ne_nil _ _)
      have hnow : backend.current? = some broadcast := by
        rw [current?_of_phase hphase, hget]
      have hlt := (List.getElem?_eq_some_iff.mp hget).1
      have hthen : next.current? = some { broadcast with
          closing := left
          targets := if left.isNone then rest else target :: rest } := by
        rw [current?_of_phase (by rw [hnext]; exact hphase), hnext]
        exact List.getElem?_set_self hlt
      have hleft : Broadcast.sender { broadcast with
          closing := left
          targets := if left.isNone then rest else target :: rest } conn =
          if target = conn then left else none := by
        cases left with
        | none =>
            rw [sender_of_open rfl]
            simp
        | some call => exact sender_head rfl rfl
      by_cases hsame : target = conn
      · subst hsame
        refine Or.inr ⟨.senderCloses, ?_, fun _ => trivial⟩
        simp only [Delivery.step, Backend.delivery, hnow, hthen,
          Option.bind_some, sender_head hclosing htargets, hleft, if_true,
          hclose, Option.map_some]
        subst hnext
        simp only [Backend.recorded, Function.update_self]
      · refine Or.inl ?_
        simp only [Backend.delivery, hnow, hthen, Option.bind_some,
          sender_head hclosing htargets, hleft, if_neg hsame]
        subst hnext
        simp only [Backend.recorded, Function.update_of_ne (Ne.symm hsame)]
  | @loops looping label session hloop =>
      have hcurrent : next.current? = backend.current? := by
        subst hnext
        rfl
      by_cases hsame : looping = conn
      · subst hsame
        refine Or.inr ⟨.loop label, ?_, fun _ => trivial⟩
        simp only [Delivery.step, Backend.delivery, hcurrent, hloop,
          Option.map_some]
        subst hnext
        simp only [Backend.recorded, Function.update_self]
      · refine Or.inl ?_
        simp only [Backend.delivery, hcurrent]
        subst hnext
        simp only [Backend.recorded, Function.update_of_ne (Ne.symm hsame)]

/-- A step outside the connections is nothing to one connection, or starts it
anew with the process. -/
theorem Consumes.delivery {label : ConsumerLabel C B} (halone : backend.Alone)
    (hconsumes : Consumes topic capacity tenantIDs backend label next)
    (conn : C) :
    next.delivery conn = backend.delivery conn ∨
      next.delivery conn = Delivery.start B ∨
      ∃ step, (backend.delivery conn).step capacity step =
          some (next.delivery conn) ∧
        (InOrderTo conn backend label →
          QueuesInOrder (backend.delivery conn) step) := by
  cases hconsumes with
  | received hphase hturn | returns err hphase | drops hphase htenant
  | commits hphase | fails hphase =>
      refine Or.inl ?_
      simp only [Backend.delivery, Backend.current?, hphase]
  | begins hphase htenant hhub =>
      obtain ⟨made, rfl, -⟩ := Hub.broadcast_broadcasts hhub
      refine Or.inl ?_
      simp only [Backend.delivery, Backend.current?, hphase,
        List.getElem?_concat_length, Option.bind_some, Option.bind_none]
      rw [sender_of_open rfl]
  | ends hphase hget hdone =>
      refine Or.inl ?_
      simp only [Backend.delivery, Backend.current?, hphase, hget,
        Option.bind_some, Option.bind_none, sender_of_done hdone]
  | rejoin => exact Or.inl rfl
  | restart => exact Or.inr (Or.inl rfl)
  | conns hhub hmoves =>
      rcases hmoves.delivery halone rfl with hsame | hstep
      · exact Or.inl hsame
      · exact Or.inr (Or.inr hstep)

theorem Backend.Alone.step {label : ConsumerLabel C B} (halone : backend.Alone)
    (hconsumes : Consumes topic capacity tenantIDs backend label next) :
    next.Alone := by
  cases hconsumes with
  | received hphase hturn | returns err hphase | drops hphase htenant
  | commits hphase | fails hphase =>
      intro number broadcast hget hleft
      obtain ⟨message, hother⟩ := halone number broadcast hget hleft
      rw [hphase] at hother
      cases hother
  | begins hphase htenant hhub =>
      obtain ⟨made, rfl, -⟩ := Hub.broadcast_broadcasts hhub
      intro number broadcast hget hleft
      simp only [List.getElem?_append] at hget
      split at hget
      · obtain ⟨message, hother⟩ := halone number broadcast hget hleft
        rw [hphase] at hother
        cases hother
      next hge =>
        rw [List.getElem?_singleton] at hget
        split at hget <;> cases hget
        next hzero =>
          have hlast : number = backend.hub.broadcasts.length := by omega
          exact ⟨_, by rw [hlast]⟩
  | ends hphase hget hdone =>
      intro number broadcast hother hleft
      obtain ⟨message, hsame⟩ := halone number broadcast hother hleft
      rw [hphase] at hsame
      cases hsame
      rw [hget] at hother
      cases hother
      exact absurd hdone hleft
  | rejoin => exact halone
  | restart =>
      intro number broadcast hget
      cases hget
  | conns hhub hmoves =>
      intro number moved hget hleft
      obtain ⟨broadcast, hold, -, -, hsome⟩ := hmoves.broadcasts hget
      exact halone number broadcast hold (hsome hleft)

theorem due_of_current (hnow : backend.current? = some broadcast) :
    backend.due conn =
      if conn ∈ broadcast.unsent then [broadcast.msg] else [] := by
  rw [Backend.due]
  rw [hnow]

theorem due_of_none (hnow : backend.current? = none) :
    backend.due conn = [] := by
  rw [Backend.due]
  rw [hnow]

omit [DecidableEq C] in
theorem unsent_of_open (hclosing : broadcast.closing = none) :
    broadcast.unsent = broadcast.targets := by
  rw [Broadcast.unsent]
  rw [hclosing]
  rfl

omit [DecidableEq C] in
theorem unsent_of_closing {call : Closing}
    (hclosing : broadcast.closing = some call) :
    broadcast.unsent = broadcast.targets.tail := by
  rw [Broadcast.unsent]
  rw [hclosing]
  rfl

omit [DecidableEq C] in
theorem unsent_sent {target : C} {rest : List C} {choice : SendCase}
    (hclosing : broadcast.closing = none)
    (htargets : broadcast.targets = target :: rest) :
    (broadcast.sent rest choice).unsent = rest := by
  cases choice with
  | queued | closed => exact unsent_of_open hclosing
  | full =>
      have hclosed : (broadcast.sent rest .full).closing =
          some (.entering .writeBufferFull) := rfl
      rw [unsent_of_closing hclosed]
      change broadcast.targets.tail = rest
      rw [htargets]
      rfl

omit [DecidableEq C] in
theorem sent_msg {rest : List C} {choice : SendCase} :
    (broadcast.sent rest choice).msg = broadcast.msg := by
  cases choice <;> rfl

/-- A move of the hub passes on what is due, and nothing else. -/
theorem Hub.Moves.passed {label : HubLabel C B} {hub : Hub C B}
    (halone : backend.Alone)
    (hisolated : Isolated tenantIDs backend.hub)
    (hmoves : backend.hub.Moves capacity label hub)
    (hnext : next =
      { backend with hub := hub, record := backend.recorded label }) :
    (next.record conn).sent ++ next.due conn =
      (backend.record conn).sent ++ backend.due conn := by
  cases hmoves with
  | registers hlabel =>
      subst hnext
      rcases hlabel with ⟨_, rfl⟩ | ⟨_, rfl⟩
      · rfl
      · rfl
  | @sends number choice broadcast target rest closed queued hget hclosing
      htargets hsend =>
      obtain ⟨message, hphase⟩ := halone number broadcast hget
        (by rw [htargets]; exact List.cons_ne_nil _ _)
      have hnow : backend.current? = some broadcast := by
        rw [current?_of_phase hphase, hget]
      have hlt := (List.getElem?_eq_some_iff.mp hget).1
      have hthen : next.current? = some (broadcast.sent rest choice) := by
        rw [current?_of_phase (by rw [hnext]; exact hphase), hnext]
        exact List.getElem?_set_self hlt
      have hfresh : target ∉ rest := by
        have hall := (hisolated.fair number broadcast hget).targets
        rw [htargets, List.nodup_cons] at hall
        exact hall.1
      rw [due_of_current hnow, due_of_current hthen,
        unsent_sent hclosing htargets, unsent_of_open hclosing, htargets,
        sent_msg]
      subst hnext
      simp only [Backend.recorded, hget, htargets]
      by_cases hsame : conn = target
      · subst hsame
        rw [Function.update_self, if_neg hfresh, if_pos List.mem_cons_self,
          List.append_nil]
      · rw [Function.update_of_ne hsame]
        simp only [List.mem_cons, hsame, false_or]
  | @closes number broadcast call target rest closed left hget hclosing htargets
      hclose =>
      obtain ⟨message, hphase⟩ := halone number broadcast hget
        (by rw [htargets]; exact List.cons_ne_nil _ _)
      have hnow : backend.current? = some broadcast := by
        rw [current?_of_phase hphase, hget]
      have hlt := (List.getElem?_eq_some_iff.mp hget).1
      have hthen : next.current? = some { broadcast with
          closing := left
          targets := if left.isNone then rest else target :: rest } := by
        rw [current?_of_phase (by rw [hnext]; exact hphase), hnext]
        exact List.getElem?_set_self hlt
      have hleft : Broadcast.unsent { broadcast with
          closing := left
          targets := if left.isNone then rest else target :: rest } = rest := by
        cases left with
        | none => exact unsent_of_open rfl
        | some call =>
            rw [Broadcast.unsent]
            rfl
      rw [due_of_current hnow, due_of_current hthen, hleft,
        unsent_of_closing hclosing, htargets]
      subst hnext
      rfl
  | @loops looping label session hloop =>
      have hdue : next.due conn = backend.due conn := by
        subst hnext
        rfl
      rw [hdue]
      subst hnext
      by_cases hsame : conn = looping
      · subst hsame
        simp only [Backend.recorded, Function.update_self]
      · simp only [Backend.recorded, Function.update_of_ne hsame]

/-- What was passed to a connection, with what is still due, is its stream. -/
def Backend.Offered (topic : Topic B) (tenantIDs : C → List String)
    (backend : Backend C B) : Prop :=
  ∀ conn, (backend.record conn).sent ++ backend.due conn =
    backend.stream topic tenantIDs conn

/-- The snapshot of a broadcast has the connections that the message reaches. -/
theorem mem_snapshot (hisolated : Isolated tenantIDs backend.hub)
    {message : Kafka.Message} {tenantID : String} {made : List C}
    (htenant : topic.tenant? message = some tenantID)
    (hmade : made.toFinset = backend.hub.registry.conns tenantID) :
    conn ∈ made ↔ Handled.Reaches topic tenantIDs conn
      ⟨message, backend.hub.calls⟩ := by
  rw [← List.mem_toFinset, hmade, hisolated.owned]
  constructor
  · rintro ⟨howns, hcall⟩
    exact ⟨tenantID, howns, htenant, hcall⟩
  · rintro ⟨other, howns, hother, hcall⟩
    rw [htenant] at hother
    cases hother
    exact ⟨howns, hcall⟩

omit [DecidableEq C] in
theorem stream_handled {entry : Handled C}
    (hnext : next.handled = backend.handled ++ [entry]) :
    next.stream topic tenantIDs conn =
      backend.stream topic tenantIDs conn ++
        if entry.Reaches topic tenantIDs conn then [topic.value entry.message]
        else [] := by
  unfold Backend.stream
  rw [hnext, List.filter_append, List.map_append]
  by_cases hreaches : entry.Reaches topic tenantIDs conn
  · simp [hreaches]
  · simp [hreaches]

theorem Backend.Offered.step {label : ConsumerLabel C B}
    (hoffered : backend.Offered topic tenantIDs) (halone : backend.Alone)
    (hisolated : Isolated tenantIDs backend.hub)
    (hconsumes : Consumes topic capacity tenantIDs backend label next) :
    next.Offered topic tenantIDs := by
  intro conn
  have hconn := hoffered conn
  cases hconsumes with
  | received hphase hturn | returns err hphase | commits hphase
  | fails hphase =>
      have hnow : backend.current? = none := by
        rw [Backend.current?]
        rw [hphase]
      rw [due_of_none hnow] at hconn
      rw [due_of_none rfl]
      exact hconn
  | drops hphase htenant =>
      have hnow : backend.current? = none := by
        rw [Backend.current?]
        rw [hphase]
      rw [due_of_none hnow] at hconn
      rw [due_of_none rfl, stream_handled rfl, if_neg]
      · simpa only [List.append_nil] using hconn
      · rintro ⟨tenantID, -, hsome, -⟩
        rw [htenant] at hsome
        cases hsome
  | @begins message targets tenantID hub hphase htenant hhub =>
      obtain ⟨made, rfl, hmade⟩ := Hub.broadcast_broadcasts hhub
      have hnow : backend.current? = none := by
        rw [Backend.current?]
        rw [hphase]
      rw [due_of_none hnow, List.append_nil] at hconn
      rw [due_of_current (List.getElem?_concat_length), unsent_of_open rfl,
        stream_handled rfl, ← hconn]
      simp only [mem_snapshot hisolated htenant
        (hmade (tenant?_ne_empty htenant))]
  | @ends message number broadcast hphase hget hdone =>
      have hnow := (current?_of_phase hphase).trans hget
      have hnil : conn ∉ broadcast.unsent := by
        rw [Broadcast.unsent]
        rw [hdone]
        split <;> simp
      rw [due_of_current hnow, if_neg hnil] at hconn
      rw [due_of_none rfl]
      exact hconn
  | rejoin => exact hconn
  | restart => rfl
  | conns hhub hmoves =>
      rw [hmoves.passed halone hisolated rfl]
      exact hconn

end Streams

section Gaps

variable {C : Type u} {B : Type v} {backend next : Backend C B}

/-- The messages that this life has handled, in their order. -/
def Backend.read (backend : Backend C B) : List Kafka.Message :=
  backend.handled.map (·.message)

/-- From where the group stood when this life began, a partition is handled
without gaps: up to the position, up to the committed offset, and before every
message handled. -/
structure Backend.Gapless (backend : Backend C B) : Prop where
  reached : ∀ partition offset, backend.base partition ≤ offset →
    offset < backend.group.position partition →
      ⟨partition, offset⟩ ∈ backend.read ∨
        backend.phase = .handling ⟨partition, offset⟩
  committed : ∀ partition offset, backend.base partition ≤ offset →
    offset < backend.group.committed partition →
      ⟨partition, offset⟩ ∈ backend.read
  ordered : ∀ before entry after, backend.handled = before ++ entry :: after →
    ∀ offset, backend.base entry.message.partition ≤ offset →
      offset < entry.message.offset →
        ⟨entry.message.partition, offset⟩ ∈ before.map (·.message)
  handling : ∀ message, backend.phase = .handling message →
    ∀ offset, backend.base message.partition ≤ offset →
      offset < message.offset → ⟨message.partition, offset⟩ ∈ backend.read
  handled : ∀ message, backend.phase.message? = some message →
    message ∈ backend.read ∨ backend.phase = .handling message

/-- A step that leaves the group and the handled messages alone. -/
theorem Backend.Gapless.quiet (hgapless : backend.Gapless)
    (hgroup : next.group = backend.group) (hbase : next.base = backend.base)
    (hhandled : next.handled = backend.handled)
    (hphase : ∀ message, backend.phase ≠ .handling message)
    (hnext : ∀ message, next.phase ≠ .handling message)
    (hmessage : ∀ message, next.phase.message? = some message →
      backend.phase.message? = some message) : next.Gapless := by
  have hread : next.read = backend.read := by
    unfold Backend.read
    rw [hhandled]
  refine ⟨?_, ?_, ?_, ?_, ?_⟩
  · rw [hgroup, hbase, hread]
    intro partition offset habove hbelow
    rcases hgapless.reached partition offset habove hbelow with hmem | hheld
    · exact Or.inl hmem
    · exact absurd hheld (hphase _)
  · rw [hgroup, hbase, hread]
    exact hgapless.committed
  · rw [hbase, hhandled]
    exact hgapless.ordered
  · intro message hheld
    exact absurd hheld (hnext message)
  · rw [hread]
    intro message hheld
    rcases hgapless.handled message (hmessage message hheld) with hmem | hold
    · exact Or.inl hmem
    · exact absurd hold (hphase message)

/-- The message in hand is handled next. -/
theorem Backend.Gapless.handles (hgapless : backend.Gapless)
    {message : Kafka.Message} {calls : C → Option Call}
    (hphase : backend.phase = .handling message)
    (hgroup : next.group = backend.group) (hbase : next.base = backend.base)
    (hhandled : next.handled = backend.handled ++ [⟨message, calls⟩])
    (hnext : ∀ other, next.phase ≠ .handling other)
    (hmessage : next.phase.message? = some message) : next.Gapless := by
  have hread : next.read = backend.read ++ [message] := by
    rw [Backend.read]
    rw [hhandled, List.map_append]
    rfl
  refine ⟨?_, ?_, ?_, ?_, ?_⟩
  · rw [hgroup, hbase, hread]
    intro partition offset habove hbelow
    refine Or.inl (List.mem_append.mpr ?_)
    rcases hgapless.reached partition offset habove hbelow with hmem | hheld
    · exact Or.inl hmem
    · rw [hphase] at hheld
      cases hheld
      exact Or.inr (List.mem_singleton_self _)
  · rw [hgroup, hbase, hread]
    intro partition offset habove hbelow
    exact List.mem_append_left _
      (hgapless.committed partition offset habove hbelow)
  · rw [hbase, hhandled]
    intro before entry after hsplit
    rcases List.eq_nil_or_concat after with rfl | ⟨rest, last, rfl⟩
    · obtain ⟨rfl, hlast⟩ := List.append_inj' hsplit rfl
      cases hlast
      exact hgapless.handling message hphase
    · rw [List.concat_eq_append, ← List.cons_append, ← List.append_assoc]
        at hsplit
      obtain ⟨hold, -⟩ := List.append_inj' hsplit rfl
      exact hgapless.ordered before entry rest hold
  · intro other hheld
    exact absurd hheld (hnext other)
  · rw [hread]
    intro other hheld
    rw [hmessage] at hheld
    cases hheld
    exact Or.inl (List.mem_append_right _ (List.mem_singleton_self _))

/-- Below a handled message everything is handled. -/
theorem Backend.Gapless.below (hgapless : backend.Gapless)
    {message : Kafka.Message} (hmem : message ∈ backend.read) {offset : Nat}
    (habove : backend.base message.partition ≤ offset)
    (hle : offset ≤ message.offset) :
    ⟨message.partition, offset⟩ ∈ backend.read := by
  obtain ⟨entry, hentry, rfl⟩ := List.mem_map.mp hmem
  rcases hle.lt_or_eq with hlt | rfl
  · obtain ⟨before, after, hsplit⟩ := List.append_of_mem hentry
    have hbefore := hgapless.ordered before entry after hsplit offset habove hlt
    rw [Backend.read]
    rw [hsplit, List.map_append]
    exact List.mem_append_left _ hbefore
  · exact hmem

variable [DecidableEq C] {topic : Topic B} {capacity : Nat}
  {tenantIDs : C → List String}

theorem Backend.Gapless.step {label : ConsumerLabel C B}
    (hgapless : backend.Gapless)
    (hconsumes : Consumes topic capacity tenantIDs backend label next) :
    next.Gapless := by
  cases hconsumes with
  | @received message hphase hturn =>
      have hread : ∀ partition offset, backend.base partition ≤ offset →
          offset < backend.group.position partition →
            ⟨partition, offset⟩ ∈ backend.read := by
        intro partition offset habove hbelow
        rcases hgapless.reached partition offset habove hbelow with hmem | hheld
        · exact hmem
        · rw [hphase] at hheld
          cases hheld
      refine ⟨?_, hgapless.committed, hgapless.ordered, ?_, ?_⟩
      · intro partition offset habove hbelow
        by_cases hsame : partition = message.partition
        · subst hsame
          simp only [Function.update_self] at hbelow
          rcases (Nat.lt_succ_iff.mp hbelow).lt_or_eq with hlt | rfl
          · rw [hturn] at hlt
            exact Or.inl (hread _ offset habove hlt)
          · exact Or.inr rfl
        · simp only [Function.update_of_ne hsame] at hbelow
          exact Or.inl (hread partition offset habove hbelow)
      · intro held hheld offset habove hbelow
        cases hheld
        rw [hturn] at hbelow
        exact hread message.partition offset habove hbelow
      · intro held hheld
        cases hheld
        exact Or.inr rfl
  | returns err hphase =>
      refine hgapless.quiet rfl rfl rfl ?_ ?_ ?_
      · intro message hheld
        rw [hphase] at hheld
        cases hheld
      · intro message hheld
        cases hheld
      · intro message hheld
        cases hheld
  | drops hphase htenant =>
      refine hgapless.handles hphase rfl rfl rfl ?_ rfl
      intro other hheld
      cases hheld
  | begins hphase htenant hhub =>
      refine hgapless.handles hphase rfl rfl rfl ?_ rfl
      intro other hheld
      cases hheld
  | ends hphase hget hdone =>
      refine hgapless.quiet rfl rfl rfl ?_ ?_ ?_
      · intro message hheld
        rw [hphase] at hheld
        cases hheld
      · intro message hheld
        cases hheld
      · intro message hheld
        rw [hphase]
        exact hheld
  | @commits message completion failure hphase =>
      have hmem : message ∈ backend.read := by
        rcases hgapless.handled message (by rw [hphase]; rfl) with hmem | hheld
        · exact hmem
        · rw [hphase] at hheld
          cases hheld
      refine ⟨?_, ?_, hgapless.ordered, ?_, ?_⟩
      · intro partition offset habove hbelow
        rcases hgapless.reached partition offset habove hbelow with hold | hheld
        · exact Or.inl hold
        · rw [hphase] at hheld
          cases hheld
      · intro partition offset habove hbelow
        simp only [Kafka.Group.commitMessages] at hbelow
        by_cases hsame : partition = message.partition
        · subst hsame
          simp only [Function.update_self] at hbelow
          rcases lt_max_iff.mp hbelow with hold | hnew
          · exact hgapless.committed _ offset habove hold
          · exact hgapless.below hmem habove (Nat.lt_succ_iff.mp hnew)
        · simp only [Function.update_of_ne hsame] at hbelow
          exact hgapless.committed partition offset habove hbelow
      · intro held hheld
        cases hheld
      · intro held hheld
        cases hheld
  | fails hphase =>
      refine hgapless.quiet rfl rfl rfl ?_ ?_ ?_
      · intro message hheld
        rw [hphase] at hheld
        cases hheld
      · intro message hheld
        cases hheld
      · intro message hheld
        cases hheld
  | rejoin =>
      refine ⟨?_, hgapless.committed, hgapless.ordered, hgapless.handling,
        hgapless.handled⟩
      intro partition offset habove hbelow
      exact Or.inl (hgapless.committed partition offset habove hbelow)
  | restart =>
      refine ⟨?_, ?_, ?_, ?_, ?_⟩
      · intro partition offset habove hbelow
        exact absurd hbelow (not_lt.mpr habove)
      · intro partition offset habove hbelow
        exact absurd hbelow (not_lt.mpr habove)
      · intro before entry after hsplit
        cases before <;> cases hsplit
      · intro held hheld
        cases hheld
      · intro held hheld
        cases hheld
  | conns hhub hmoves =>
      exact ⟨hgapless.reached, hgapless.committed, hgapless.ordered,
        hgapless.handling, hgapless.handled⟩

/-- What holds along a run whose `Send`s to one connection queue nothing after
their first failure. -/
structure Backend.Follows (topic : Topic B) (tenantIDs : C → List String)
    (conn : C) (backend : Backend C B) : Prop where
  alone : backend.Alone
  offered : backend.Offered topic tenantIDs
  inOrder : InOrder (backend.delivery conn)
  gapless : backend.Gapless

variable {conn : C}

theorem inOrder_start : InOrder (Delivery.start B) :=
  ⟨rfl, by simp [Delivery.start], List.nil_prefix, fun _ => rfl⟩

theorem follows_of_reachable
    (hreach : (backends topic capacity tenantIDs).ReachableVia (InOrderTo conn)
      backend) : backend.Follows topic tenantIDs conn := by
  induction hreach with
  | start hinit =>
      obtain ⟨committed, rfl⟩ := hinit
      refine ⟨?_, fun _ => rfl, inOrder_start, ?_, ?_, ?_, ?_, ?_⟩
      · intro number broadcast hget
        cases hget
      · intro partition offset habove hbelow
        exact absurd hbelow (not_lt.mpr habove)
      · intro partition offset habove hbelow
        exact absurd hbelow (not_lt.mpr habove)
      · intro before entry after hsplit
        cases before <;> cases hsplit
      · intro held hheld
        cases hheld
      · intro held hheld
        cases hheld
  | @next backend last label hreach hguard hstep ih =>
      have hconsumes := consumes_of_step hstep
      have hisolated := isolated_of_reachable (hub_reachable hreach)
      refine ⟨ih.alone.step hconsumes,
        ih.offered.step ih.alone hisolated hconsumes, ?_,
        ih.gapless.step hconsumes⟩
      rcases hconsumes.delivery ih.alone conn with
        hsame | hstart | ⟨step, hdelivery, horder⟩
      · rw [hsame]
        exact ih.inOrder
      · rw [hstart]
        exact inOrder_start
      · exact ih.inOrder.step (horder hguard) hdelivery

theorem Backend.Follows.queued
    (hfollows : backend.Follows topic tenantIDs conn) :
    (backend.record conn).written <+: (backend.record conn).sent.take
      ((backend.record conn).lost.getD (backend.record conn).sent.length) :=
  hfollows.inOrder.written.trans ⟨_, hfollows.inOrder.queued⟩

/-- What is on the socket of a connection is a prefix of its events. -/
theorem Backend.Follows.written
    (hfollows : backend.Follows topic tenantIDs conn) :
    (backend.record conn).written <+: backend.stream topic tenantIDs conn :=
  (hfollows.queued.trans (List.take_prefix _ _)).trans
    ⟨_, hfollows.offered conn⟩

/-- In every run in which the `Send`s to a connection queue nothing after their
first failure, what is on its socket is a prefix of the events that the loop has
handled since the process began and that concern the connection, as they are, in
that order; nothing else is missing as long as no `Send` failed and the writer
is in its loop; and the loop handles each partition without gaps. -/
theorem connections_follow_the_topic
    (hreach : (backends topic capacity tenantIDs).ReachableVia (InOrderTo conn)
      backend) :
    (backend.record conn).written <+: backend.stream topic tenantIDs conn ∧
      (∀ n, (backend.record conn).lost = some n →
        (backend.record conn).written <+:
          (backend.stream topic tenantIDs conn).take n) ∧
      ((backend.record conn).lost = none →
        (backend.hub.sessions conn).writer.looping = true →
          (backend.record conn).written ++
              (backend.hub.sessions conn).writer.message?.toList ++
              (backend.hub.sessions conn).conn.write ++ backend.due conn =
            backend.stream topic tenantIDs conn) ∧
      ∀ before entry after, backend.handled = before ++ entry :: after →
        ∀ offset, backend.base entry.message.partition ≤ offset →
          offset < entry.message.offset →
            ⟨entry.message.partition, offset⟩ ∈ before.map (·.message) := by
  have hfollows := follows_of_reachable hreach
  have hstream := hfollows.offered conn
  have horder := hfollows.inOrder
  refine ⟨hfollows.written, ?_, ?_, hfollows.gapless.ordered⟩
  · intro n hlost
    have hle : n ≤ (backend.record conn).sent.length := horder.bounded n hlost
    have hwritten := hfollows.queued
    rw [hlost, Option.getD_some] at hwritten
    rw [← hstream, List.take_append_of_le_length hle]
    exact hwritten
  · intro hlost hlooping
    have htaken : (backend.record conn).written ++
        (backend.hub.sessions conn).writer.message?.toList =
          (backend.record conn).taken := horder.looping hlooping
    have hqueued : (backend.record conn).taken ++
        (backend.hub.sessions conn).conn.write =
        (backend.record conn).sent := by
      have hall := horder.queued
      change (backend.record conn).taken ++
        (backend.hub.sessions conn).conn.write =
          (backend.record conn).sent.take ((backend.record conn).lost.getD
            (backend.record conn).sent.length) at hall
      rwa [hlost, Option.getD_none, List.take_length] at hall
    rw [htaken, hqueued]
    exact hstream

end Gaps

section Sample

/-- No `Send` of the run fails. -/
theorem rejoiningRun_inOrder :
    (backends sampleTopic defaultWriteBuffer twoOwners).Along
      (fun backend label _ => InOrderTo 0 backend label)
      (Backend.start (Fin 2) String fun _ => 0) rejoiningRun :=
  ⟨_, rfl, trivial, _, rfl, trivial, _, rfl, trivial, _, rfl, trivial,
    _, rfl, fun _ _ _ => rfl, _, rfl, fun _ _ _ => rfl, _, rfl, trivial,
    _, rfl, trivial, _, rfl, trivial, _, rfl, trivial, _, rfl, trivial,
    _, rfl, trivial, _, rfl, fun _ _ _ => rfl, _, rfl, trivial,
    _, rfl, trivial, _, rfl, trivial, _, rfl, trivial, _, rfl, trivial,
    _, rfl, trivial, _, rfl, trivial, _, rfl, trivial, _, rfl, trivial,
    trivial⟩

theorem rejoined_follows : ∃ backend, rejoined = some backend ∧
    (backend.record 0).written = [tenantRecord "b"] ∧
    backend.stream sampleTopic twoOwners 0 =
      [tenantRecord "b", tenantRecord "b", tenantRecord "a"] ∧
    (backend.record 0).written <+: backend.stream sampleTopic twoOwners 0 := by
  obtain ⟨backend, hrun⟩ : ∃ backend, rejoined = some backend := ⟨_, rfl⟩
  have hreach : (backends sampleTopic defaultWriteBuffer twoOwners).ReachableVia
      (InOrderTo 0) backend :=
    .of_along (.start ⟨fun _ => 0, rfl⟩) rejoiningRun_inOrder hrun
  have hfollows := connections_follow_the_topic hreach
  cases hrun
  exact ⟨_, rfl, rfl, by decide, hfollows.1⟩

end Sample

end Realtime

end LinkFlow
