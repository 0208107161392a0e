/-
Connection state of one device.  A connected or disconnected event is handled
in three separate steps, the guarded UPDATE of the devices row, the Redis key
and the state event, and any number of handlings interleave.  Each step may
also fail, or take effect and still report an error; the handler then asks for
a retry and starts over.
-/
import LinkFlow.Lib.LastWriter
import LinkFlow.Lib.Transition

namespace LinkFlow

/-- A Go `time.Time` is kept as nanoseconds since the Unix epoch.  The driver
writes a `timestamptz` in whole microseconds, rounding down. -/
def timestamptz (instant : Int) : Int := instant / 1000

/-- The instant a `timestamptz` stands for. -/
def ofTimestamptz (micros : Int) : Int := micros * 1000

theorem timestamptz_lt_iff {instant micros : Int} :
    timestamptz instant < micros ↔ instant < ofTimestamptz micros := by
  rw [timestamptz, ofTimestamptz]
  omega

namespace Connection

/-- `connectionStatusOnline` and `connectionStatusOffline`. -/
inductive Status where
  | online
  | offline
deriving Repr, DecidableEq

/-- The two columns of a devices row that the connection events write. -/
structure Row where
  connectionStatus : Status
  lastSeenAt : Option Int
deriving Repr, DecidableEq

/-- What the handlers read of a connected or disconnected event. -/
structure Event where
  status : Status
  occurredAt : Int
deriving Repr, DecidableEq

/-- The WHERE clause of the UPDATE: `last_seen_at IS NULL OR last_seen_at <=
$2`. -/
def Row.accepts (row : Row) (event : Event) : Bool :=
  match row.lastSeenAt with
  | none => true
  | some seen => seen ≤ timestamptz event.occurredAt

def Row.updateConnectionStatus (row : Row) (event : Event) : Row :=
  if row.accepts event then
    ⟨event.status, some (timestamptz event.occurredAt)⟩
  else row

/-- What Redis holds after the event's own command: `MarkOnline` sets the key to
the event's time, `MarkOffline` deletes it. -/
def Event.presence (event : Event) : Option Int :=
  match event.status with
  | .online => some event.occurredAt
  | .offline => none

inductive Phase where
  | update
  | redis
  | publish
  | failed
  | acked
deriving Repr, DecidableEq

/-- One call of the handler, or several when it is retried. -/
structure Handling where
  event : Event
  phase : Phase
deriving Repr, DecidableEq

/-- How a command to a store or broker ends.  A `lost` one took effect but the
caller was told it failed. -/
inductive Outcome where
  | ok
  | lost
  | failed
deriving Repr, DecidableEq

/-- Any error makes the handler give up with a retry. -/
def Outcome.phase (outcome : Outcome) (next : Phase) : Phase :=
  match outcome with
  | .ok => next
  | .lost | .failed => .failed

/-- `topic` has the newest state event first; `updates` is the history of the
UPDATE statements that were carried out, newest last. -/
structure State where
  row : Row
  presence : Option Int
  topic : List Event
  updates : List Event
  handling : Nat → Option Handling

def start (row : Row) : State where
  row := row
  presence := none
  topic := []
  updates := []
  handling := fun _ => none

inductive Label where
  | deliver (number : Nat) (event : Event)
  | update (number : Nat) (outcome : Outcome)
  | redis (number : Nat) (outcome : Outcome)
  | publish (number : Nat) (outcome : Outcome)
  | again (number : Nat)
deriving Repr, DecidableEq

/-- The delivery a label is about. -/
def Label.number : Label → Nat
  | .deliver number _ | .update number _ | .redis number _
  | .publish number _ | .again number => number

/-- How the command of a label ends, for the labels that are commands. -/
def Label.outcome? : Label → Option Outcome
  | .update _ outcome | .redis _ outcome | .publish _ outcome => some outcome
  | .deliver _ _ | .again _ => none

def State.setPhase (state : State) (number : Nat) (event : Event)
    (phase : Phase) : State :=
  { state with
    handling := Function.update state.handling number (some ⟨event, phase⟩) }

/-- The UPDATE statement, as one atomic transaction. -/
def State.execUpdate (state : State) (event : Event) : State :=
  { state with
    row := state.row.updateConnectionStatus event
    updates := state.updates ++ [event] }

/-- The SET or DEL that follows an applied UPDATE. -/
def State.execRedis (state : State) (event : Event) : State :=
  { state with presence := event.presence }

/-- The `device.connection.changed` event reaches the state topic. -/
def State.execPublish (state : State) (event : Event) : State :=
  { state with topic := event :: state.topic }

/-- Carry a command out unless it failed before taking effect. -/
def Outcome.exec (outcome : Outcome) (state : State) (next : State) : State :=
  if outcome = .failed then state else next

/-- An UPDATE that matches no row ends the handling with an Ack; otherwise the
Redis command and the state event follow. -/
def step (state : State) : Label → Option State
  | .deliver number event =>
      match state.handling number with
      | none => some (state.setPhase number event .update)
      | some _ => none
  | .update number outcome =>
      match state.handling number with
      | some ⟨event, .update⟩ =>
          let next := if state.row.accepts event then .redis else .acked
          some ((outcome.exec state (state.execUpdate event)).setPhase
            number event (outcome.phase next))
      | _ => none
  | .redis number outcome =>
      match state.handling number with
      | some ⟨event, .redis⟩ =>
          some ((outcome.exec state (state.execRedis event)).setPhase
            number event (outcome.phase .publish))
      | _ => none
  | .publish number outcome =>
      match state.handling number with
      | some ⟨event, .publish⟩ =>
          some ((outcome.exec state (state.execPublish event)).setPhase
            number event (outcome.phase .acked))
      | _ => none
  | .again number =>
      match state.handling number with
      | some ⟨event, .failed⟩ => some (state.setPhase number event .update)
      | _ => none

/-- The connection events of one device, from a given devices row. -/
def system (row : Row) : Transition.System State Label where
  init := (· = start row)
  step := step

@[simp] theorem system_step (row : Row) : (system row).step = step :=
  rfl

/-- What each label can do.  `applied`, `redisDone` and `published` are the
steps with an effect outside the handling; `ignored` met a newer row. -/
inductive Steps : State → Label → State → Prop
  | deliver {state number} (event : Event)
      (hfresh : state.handling number = none) :
      Steps state (.deliver number event) (state.setPhase number event .update)
  | applied {state number outcome event}
      (hphase : state.handling number = some ⟨event, .update⟩)
      (haccepts : state.row.accepts event = true) (hout : outcome ≠ .failed) :
      Steps state (.update number outcome)
        ((state.execUpdate event).setPhase number event (outcome.phase .redis))
  | ignored {state number outcome event}
      (hphase : state.handling number = some ⟨event, .update⟩)
      (haccepts : state.row.accepts event = false) (hout : outcome ≠ .failed) :
      Steps state (.update number outcome)
        ((state.execUpdate event).setPhase number event (outcome.phase .acked))
  | redisDone {state number outcome event}
      (hphase : state.handling number = some ⟨event, .redis⟩)
      (hout : outcome ≠ .failed) :
      Steps state (.redis number outcome)
        ((state.execRedis event).setPhase number event (outcome.phase .publish))
  | published {state number outcome event}
      (hphase : state.handling number = some ⟨event, .publish⟩)
      (hout : outcome ≠ .failed) :
      Steps state (.publish number outcome)
        ((state.execPublish event).setPhase number event (outcome.phase .acked))
  | failed {state event phase} (label : Label)
      (hout : label.outcome? = some .failed)
      (hphase : state.handling label.number = some ⟨event, phase⟩)
      (hopen : phase ≠ .acked) (hnot : phase ≠ .failed) :
      Steps state label (state.setPhase label.number event .failed)
  | again {state number event}
      (hphase : state.handling number = some ⟨event, .failed⟩) :
      Steps state (.again number) (state.setPhase number event .update)

theorem steps_of_step {state next : State} {label : Label}
    (hstep : step state label = some next) : Steps state label next := by
  cases label with
  | deliver number event =>
      simp only [step] at hstep
      split at hstep <;> cases hstep
      next hfresh => exact .deliver event hfresh
  | update number outcome =>
      simp only [step] at hstep
      split at hstep <;> cases hstep
      next event hphase =>
        by_cases hout : outcome = .failed
        · subst hout
          exact .failed (.update number .failed) rfl hphase (by decide)
            (by decide)
        · rw [Outcome.exec, if_neg hout]
          cases haccepts : state.row.accepts event with
          | true => exact .applied hphase haccepts hout
          | false => exact .ignored hphase haccepts hout
  | redis number outcome =>
      simp only [step] at hstep
      split at hstep <;> cases hstep
      next event hphase =>
        by_cases hout : outcome = .failed
        · subst hout
          exact .failed (.redis number .failed) rfl hphase (by decide)
            (by decide)
        · rw [Outcome.exec, if_neg hout]
          exact .redisDone hphase hout
  | publish number outcome =>
      simp only [step] at hstep
      split at hstep <;> cases hstep
      next event hphase =>
        by_cases hout : outcome = .failed
        · subst hout
          exact .failed (.publish number .failed) rfl hphase (by decide)
            (by decide)
        · rw [Outcome.exec, if_neg hout]
          exact .published hphase hout
  | again number =>
      simp only [step] at hstep
      split at hstep <;> cases hstep
      next event hphase => exact .again hphase

end Connection

end LinkFlow
