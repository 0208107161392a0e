/-
One realtime connection of the backend: the write buffer that `Send` fills and
`writeLoop` empties, and the closing of the connection, which closes the channel
`closed` first and the socket after it.
-/
import LinkFlow.Lib.Transition
import Mathlib.Data.List.Infix

namespace LinkFlow

namespace Realtime

universe u

section Connections

/-- The calls of `closeWithReason`. -/
inductive CloseReason where
  | writeBufferFull
  | readEnded
  | serverShutdown
  | writeFailed
  | pingFailed
deriving Repr, DecidableEq

/-- The status code that the close frame carries. -/
def CloseReason.code : CloseReason → Nat
  | .writeBufferFull => 1008
  | .readEnded => 1000
  | .serverShutdown => 1001
  | .writeFailed => 1011
  | .pingFailed => 1011

def defaultWriteBuffer : Nat := 64

/-- A `sync.Once`.  While its function runs, other callers wait. -/
inductive Once where
  | fresh
  | running
  | done
deriving Repr, DecidableEq

/-- What the goroutines of a connection share.  `ws` is how the socket was
closed. -/
structure Conn (M : Type u) where
  write : List M
  closed : Bool
  closeOnce : Once
  ws : Option CloseReason
deriving Repr, DecidableEq

def newConn (M : Type u) : Conn M where
  write := []
  closed := false
  closeOnce := .fresh
  ws := none

/-- A goroutine inside `closeWithReason`: about to enter the `Once`, or between
the closing of the channel and the closing of the socket. -/
inductive Closing where
  | entering (reason : CloseReason)
  | holding (reason : CloseReason)
deriving Repr, DecidableEq

variable {M : Type u}

/-- The next step of a `closeWithReason`, and what is left of the call. -/
def closeWithReason (conn : Conn M) : Closing → Option (Conn M × Option Closing)
  | .entering reason =>
      match conn.closeOnce with
      | .fresh =>
          some ({ conn with closed := true, closeOnce := .running },
            some (.holding reason))
      | .running => none
      | .done => some (conn, none)
  | .holding reason =>
      some ({ conn with closeOnce := .done, ws := some reason }, none)

/-- The cases of the select in `Send`. -/
inductive SendCase where
  | closed
  | queued
  | full
deriving Repr, DecidableEq

/-- `Send`'s select.  Any case that is ready may be taken, the default only when
none is. -/
def Conn.send (capacity : Nat) (conn : Conn M) (msg : M) :
    SendCase → Option (Conn M)
  | .closed => if conn.closed then some conn else none
  | .queued =>
      if conn.write.length < capacity then
        some { conn with write := conn.write ++ [msg] }
      else none
  | .full =>
      if !conn.closed && capacity ≤ conn.write.length then some conn else none

/-- Where `Send` goes after its select: it returns, or closes the connection. -/
def SendCase.closing : SendCase → Option Closing
  | .closed | .queued => none
  | .full => some (.entering .writeBufferFull)

inductive ReadPhase where
  | reading
  | closing (call : Closing)
  | done
deriving Repr, DecidableEq

inductive WritePhase (M : Type u) where
  | selecting
  | writing (msg : M)
  | pinging
  | closing (call : Closing)
  | done
deriving Repr, DecidableEq

/-- A connection with the two goroutines that `Run` starts. -/
structure Session (M : Type u) where
  conn : Conn M
  cancelled : Bool
  reader : ReadPhase
  writer : WritePhase M
deriving Repr, DecidableEq

def Session.start (M : Type u) : Session M where
  conn := newConn M
  cancelled := false
  reader := .reading
  writer := .selecting

/-- The steps of `readLoop` and `writeLoop`, and the end of their context. -/
inductive LoopLabel where
  | cancel
  | readFails
  | readerCloses
  | writerCancelled
  | writerClosed
  | writerTakes
  | writeReturns (ok : Bool)
  | ticks
  | pingReturns (ok : Bool)
  | writerCloses
deriving Repr, DecidableEq

/-- A write or a ping succeeds only while the socket is open. -/
def Session.step (session : Session M) : LoopLabel → Option (Session M)
  | .cancel => some { session with cancelled := true }
  | .readFails =>
      match session.reader with
      | .reading =>
          some { session with reader := .closing (.entering .readEnded) }
      | _ => none
  | .readerCloses =>
      match session.reader with
      | .closing call =>
          (closeWithReason session.conn call).map fun (conn, rest) =>
            { session with
              conn := conn
              reader := rest.elim .done .closing }
      | _ => none
  | .writerCancelled =>
      match session.writer with
      | .selecting =>
          if session.cancelled then
            some { session with writer := .closing (.entering .serverShutdown) }
          else none
      | _ => none
  | .writerClosed =>
      match session.writer with
      | .selecting =>
          if session.conn.closed then some { session with writer := .done }
          else none
      | _ => none
  | .writerTakes =>
      match session.writer, session.conn.write with
      | .selecting, msg :: rest =>
          some { session with
            conn := { session.conn with write := rest }
            writer := .writing msg }
      | _, _ => none
  | .writeReturns ok =>
      match session.writer with
      | .writing _ =>
          if !ok then
            some { session with writer := .closing (.entering .writeFailed) }
          else if session.conn.ws.isNone then
            some { session with writer := .selecting }
          else none
      | _ => none
  | .ticks =>
      match session.writer with
      | .selecting => some { session with writer := .pinging }
      | _ => none
  | .pingReturns ok =>
      match session.writer with
      | .pinging =>
          if !ok then
            some { session with writer := .closing (.entering .pingFailed) }
          else if session.conn.ws.isNone then
            some { session with writer := .selecting }
          else none
      | _ => none
  | .writerCloses =>
      match session.writer with
      | .closing call =>
          (closeWithReason session.conn call).map fun (conn, rest) =>
            { session with
              conn := conn
              writer := rest.elim .done .closing }
      | _ => none

end Connections

section Channel

variable {M : Type u}

/-- Closing leaves the buffer alone. -/
theorem closeWithReason_write {conn next : Conn M} {call : Closing}
    {rest : Option Closing}
    (hclose : closeWithReason conn call = some (next, rest)) :
    next.write = conn.write := by
  cases call with
  | entering reason =>
      simp only [closeWithReason] at hclose
      cases honce : conn.closeOnce <;> rw [honce] at hclose <;> cases hclose <;>
        rfl
  | holding reason =>
      cases hclose
      rfl

/-- What the writer has in its hands. -/
def WritePhase.message? : WritePhase M → Option M
  | .writing msg => some msg
  | _ => none

/-- The writer is still in its loop. -/
def WritePhase.looping : WritePhase M → Bool
  | .selecting | .writing _ | .pinging => true
  | .closing _ | .done => false

/-- The message that a step of the loops writes to the socket. -/
def writes (session : Session M) : LoopLabel → List M
  | .writeReturns true => session.writer.message?.toList
  | _ => []

/-- The message that a step of the loops takes from the buffer. -/
def takes (session : Session M) : LoopLabel → List M
  | .writerTakes => session.conn.write.head?.toList
  | _ => []

variable {session next : Session M} {label : LoopLabel}

/-- The buffer only loses what the writer takes from its front. -/
theorem Session.step_write (hstep : session.step label = some next) :
    takes session label ++ next.conn.write = session.conn.write := by
  cases label with
  | cancel =>
      cases hstep
      rfl
  | readFails | ticks =>
      simp only [Session.step] at hstep
      split at hstep <;> cases hstep
      rfl
  | readerCloses | writerCloses =>
      simp only [Session.step] at hstep
      split at hstep
      · obtain ⟨⟨conn, rest⟩, hclose, rfl⟩ := Option.map_eq_some_iff.mp hstep
        exact closeWithReason_write hclose
      · cases hstep
  | writerCancelled | writerClosed =>
      simp only [Session.step] at hstep
      split at hstep
      · split at hstep <;> cases hstep
        rfl
      · cases hstep
  | writerTakes =>
      simp only [Session.step] at hstep
      split at hstep
      next msg rest hwriter hwrite =>
        cases hstep
        simp [takes, hwrite]
      next => cases hstep
  | writeReturns ok | pingReturns ok =>
      simp only [Session.step] at hstep
      split at hstep
      · split at hstep
        · cases hstep
          simp_all [takes]
        · split at hstep <;> cases hstep
          rfl
      · cases hstep

/-- What the writer has taken and not yet written is in its hands as long as it
loops, and once it leaves its loop it takes and writes nothing. -/
theorem Session.step_writer (hstep : session.step label = some next) :
    (next.writer.looping = true → session.writer.looping = true ∧
      session.writer.message?.toList ++ takes session label =
        writes session label ++ next.writer.message?.toList) ∧
    (next.writer.looping = false →
      takes session label = [] ∧ writes session label = []) := by
  cases label with
  | cancel =>
      cases hstep
      simp [takes, writes]
  | readFails =>
      simp only [Session.step] at hstep
      split at hstep <;> cases hstep
      simp [takes, writes]
  | readerCloses =>
      simp only [Session.step] at hstep
      split at hstep
      · obtain ⟨⟨conn, rest⟩, hclose, rfl⟩ := Option.map_eq_some_iff.mp hstep
        simp [takes, writes]
      · cases hstep
  | writerCloses =>
      simp only [Session.step] at hstep
      split at hstep
      · obtain ⟨⟨conn, rest⟩, hclose, rfl⟩ := Option.map_eq_some_iff.mp hstep
        cases rest <;> simp [takes, writes, WritePhase.looping]
      · cases hstep
  | writerCancelled | writerClosed =>
      simp only [Session.step] at hstep
      split at hstep
      · split at hstep <;> cases hstep
        simp [takes, writes, WritePhase.looping]
      · cases hstep
  | writerTakes =>
      simp only [Session.step] at hstep
      split at hstep
      next msg rest hwriter hwrite =>
        cases hstep
        simp [takes, writes, hwriter, hwrite, WritePhase.message?,
          WritePhase.looping]
      next => cases hstep
  | ticks =>
      simp only [Session.step] at hstep
      split at hstep
      next hwriter =>
        cases hstep
        simp [takes, writes, hwriter, WritePhase.message?, WritePhase.looping]
      next => cases hstep
  | writeReturns ok | pingReturns ok =>
      simp only [Session.step] at hstep
      split at hstep
      next hwriter =>
        cases ok with
        | false =>
            cases hstep
            simp [takes, writes, WritePhase.looping]
        | true =>
            rw [if_neg (by simp)] at hstep
            split at hstep <;> cases hstep
            simp [takes, writes, hwriter, WritePhase.message?,
              WritePhase.looping]
      next => cases hstep

end Channel

section Deliveries

variable (M : Type u)

/-- A connection with the consumer loop that calls its `Send`, and a record: the
messages passed to `Send`, those the writer has taken, those it has written, and
how many were passed before the first that `Send` did not queue. -/
structure Delivery where
  session : Session M
  sender : Option Closing
  sent : List M
  taken : List M
  written : List M
  lost : Option Nat
deriving Repr, DecidableEq

def Delivery.start : Delivery M where
  session := Session.start M
  sender := none
  sent := []
  taken := []
  written := []
  lost := none

inductive DeliveryLabel where
  | send (msg : M) (choice : SendCase)
  | senderCloses
  | loop (label : LoopLabel)
deriving Repr, DecidableEq

variable {M}

def Delivery.step (capacity : Nat) (delivery : Delivery M) :
    DeliveryLabel M → Option (Delivery M)
  | .send msg choice =>
      match delivery.sender with
      | some _ => none
      | none =>
          (delivery.session.conn.send capacity msg choice).map fun conn =>
            { delivery with
              session := { delivery.session with conn := conn }
              sender := choice.closing
              sent := delivery.sent ++ [msg]
              lost :=
                match choice with
                | .queued => delivery.lost
                | _ => delivery.lost.or (some delivery.sent.length) }
  | .senderCloses =>
      match delivery.sender with
      | none => none
      | some call =>
          (closeWithReason delivery.session.conn call).map fun (conn, rest) =>
            { delivery with
              session := { delivery.session with conn := conn }
              sender := rest }
  | .loop label =>
      (delivery.session.step label).map fun session =>
        { delivery with
          session := session
          taken := delivery.taken ++ takes delivery.session label
          written := delivery.written ++ writes delivery.session label }

/-- All runs of one connection. -/
def deliveries (M : Type u) (capacity : Nat) :
    Transition.System (Delivery M) (DeliveryLabel M) where
  init delivery := delivery = Delivery.start M
  step := Delivery.step capacity

/-- `Send` queues nothing once it has failed to queue a message. -/
def QueuesInOrder (delivery : Delivery M) : DeliveryLabel M → Prop
  | .send _ .queued => delivery.lost = none
  | _ => True

/-- What was passed to `Send` up to its first failure is written, taken or in
the buffer, in this order. -/
structure InOrder (delivery : Delivery M) : Prop where
  queued : delivery.taken ++ delivery.session.conn.write =
    delivery.sent.take (delivery.lost.getD delivery.sent.length)
  bounded : ∀ n ∈ delivery.lost, n ≤ delivery.sent.length
  written : delivery.written <+: delivery.taken
  looping : delivery.session.writer.looping = true →
    delivery.written ++ delivery.session.writer.message?.toList = delivery.taken

variable {capacity : Nat} {delivery next : Delivery M}

theorem InOrder.send (horder : InOrder delivery) {msg : M} {choice : SendCase}
    (hguard : QueuesInOrder delivery (.send msg choice))
    (hstep : delivery.step capacity (.send msg choice) = some next) :
    InOrder next := by
  simp only [Delivery.step] at hstep
  split at hstep
  · cases hstep
  obtain ⟨conn, hsend, rfl⟩ := Option.map_eq_some_iff.mp hstep
  obtain ⟨hqueued, hbounded, hwritten, hlooping⟩ := horder
  cases choice with
  | queued =>
      have hlost : delivery.lost = none := hguard
      simp only [Conn.send] at hsend
      split at hsend <;> cases hsend
      refine ⟨?_, ?_, hwritten, hlooping⟩
      · rw [hlost, Option.getD_none, List.take_length] at hqueued
        simp only [hlost, Option.getD_none, List.take_length]
        rw [← List.append_assoc, hqueued]
      · simp [hlost]
  | closed | full =>
      have hconn : conn = delivery.session.conn := by
        simp only [Conn.send] at hsend
        split at hsend <;> cases hsend
        rfl
      subst hconn
      have hle : delivery.lost.getD delivery.sent.length ≤
          delivery.sent.length := by
        cases hlost : delivery.lost with
        | none => exact le_rfl
        | some n => exact hbounded n hlost
      have hfirst : (delivery.lost.or (some delivery.sent.length)).getD
          (delivery.sent ++ [msg]).length =
          delivery.lost.getD delivery.sent.length := by
        cases delivery.lost <;> rfl
      refine ⟨?_, ?_, hwritten, hlooping⟩
      · simp only [hfirst]
        rw [hqueued, List.take_append_of_le_length hle]
      · intro n hn
        have hfound : delivery.lost.or (some delivery.sent.length) = some n :=
          hn
        rw [hfound, Option.getD_some] at hfirst
        simp only [List.length_append]
        omega

theorem InOrder.step (horder : InOrder delivery) {label : DeliveryLabel M}
    (hguard : QueuesInOrder delivery label)
    (hstep : delivery.step capacity label = some next) : InOrder next := by
  cases label with
  | send msg choice => exact horder.send hguard hstep
  | senderCloses =>
      simp only [Delivery.step] at hstep
      split at hstep
      · cases hstep
      obtain ⟨⟨conn, rest⟩, hclose, rfl⟩ := Option.map_eq_some_iff.mp hstep
      refine ⟨?_, horder.bounded, horder.written, horder.looping⟩
      simp only [closeWithReason_write hclose]
      exact horder.queued
  | loop label =>
      simp only [Delivery.step] at hstep
      obtain ⟨session, hsession, rfl⟩ := Option.map_eq_some_iff.mp hstep
      obtain ⟨hqueued, hbounded, hwritten, hlooping⟩ := horder
      obtain ⟨hloops, hleaves⟩ := Session.step_writer hsession
      have hon : session.writer.looping = true →
          delivery.written ++ writes delivery.session label ++
              session.writer.message?.toList =
            delivery.taken ++ takes delivery.session label := by
        intro hnext
        obtain ⟨hnow, hsplit⟩ := hloops hnext
        rw [List.append_assoc, ← hsplit, ← List.append_assoc, hlooping hnow]
      refine ⟨?_, hbounded, ?_, hon⟩
      · rw [List.append_assoc, Session.step_write hsession]
        exact hqueued
      · cases hnext : session.writer.looping with
        | true => exact ⟨_, hon hnext⟩
        | false =>
            obtain ⟨htakes, hwrites⟩ := hleaves hnext
            simpa only [htakes, hwrites, List.append_nil] using hwritten

/-- In every run of a connection in which `Send` queues nothing after its first
failure, what reaches the socket is a prefix of what was passed to `Send`, and
of what was passed before that failure. -/
theorem written_prefix_of_sent (M : Type u) (capacity : Nat)
    {delivery : Delivery M}
    (hreach : (deliveries M capacity).ReachableVia QueuesInOrder delivery) :
    delivery.written <+: delivery.sent ∧
      ∀ n, delivery.lost = some n →
        delivery.written <+: delivery.sent.take n := by
  have horder : InOrder delivery := by
    refine hreach.invariant ?_ ?_
    · rintro start rfl
      exact ⟨rfl, by simp [Delivery.start], List.nil_prefix, fun _ => rfl⟩
    · intro current label next hcurrent hguard hstep
      exact hcurrent.step hguard hstep
  have hinitial : delivery.written <+:
      delivery.sent.take (delivery.lost.getD delivery.sent.length) := by
    rw [← horder.queued]
    exact horder.written.trans (List.prefix_append _ _)
  refine ⟨hinitial.trans (List.take_prefix _ _), fun n hlost => ?_⟩
  rw [hlost] at hinitial
  exact hinitial

/-- A full buffer: the second of two messages is lost, and the connection is
closed while the writer still writes the first. -/
def overflowRun : List (DeliveryLabel Nat) :=
  [.send 1 .queued, .send 2 .full, .loop .writerTakes, .senderCloses,
    .loop (.writeReturns true), .senderCloses, .send 3 .closed]

theorem overflow_run_written :
    ∃ delivery, (deliveries Nat 1).run (Delivery.start Nat) overflowRun =
        some delivery ∧
      delivery.sent = [1, 2, 3] ∧ delivery.written = [1] ∧
      delivery.lost = some 1 ∧
      delivery.written <+: delivery.sent.take 1 := by
  have halong : (deliveries Nat 1).Along
      (fun delivery label _ => QueuesInOrder delivery label)
      (Delivery.start Nat) overflowRun :=
    ⟨_, rfl, rfl, _, rfl, trivial, _, rfl, trivial, _, rfl, trivial, _, rfl,
      trivial, _, rfl, trivial, _, rfl, trivial, trivial⟩
  refine ⟨_, rfl, rfl, rfl, rfl, ?_⟩
  exact (written_prefix_of_sent Nat 1
    (Transition.System.ReachableVia.of_along (.start rfl) halong rfl)).2 1 rfl

/-- The client is gone and the channel closed, but not yet the socket: one
message is lost, and the next one is queued, taken and written all the same. -/
theorem written_after_lost :
    ∃ delivery, (deliveries Nat defaultWriteBuffer).run (Delivery.start Nat)
        [.loop .readFails, .loop .readerCloses, .send 1 .closed,
          .send 2 .queued, .loop .writerTakes, .loop (.writeReturns true)] =
          some delivery ∧
      delivery.sent = [1, 2] ∧ delivery.lost = some 0 ∧
      ¬ delivery.written <+: delivery.sent :=
  ⟨_, rfl, rfl, rfl, by decide⟩

end Deliveries

end Realtime

end LinkFlow
