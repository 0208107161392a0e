/-
The Kafka source under the Runner.  A group keeps one committed offset for
each partition, a commit can only raise it, and a restarted consumer reads on
from there.  The histories of what was fetched and completed are kept beside
the state, for the delivery guarantee to be about.
-/
import LinkFlow.Lib.HighWater
import LinkFlow.Runner

namespace LinkFlow

namespace Kafka

/-- The coordinates of one message in the topic. -/
structure Message where
  partition : Nat
  offset : Nat
deriving Repr, DecidableEq

/-- What the broker and the reader remember for the consumer group. -/
structure Group where
  position : Nat → Nat
  committed : Nat → Nat

/-- `FetchMessage`: each partition is read in offset order. -/
def Group.fetchMessage (group : Group) (message : Message) : Option Group :=
  if message.offset = group.position message.partition then
    some { group with
      position := Function.update group.position message.partition
        (message.offset + 1) }
  else none

/-- `CommitMessages`: the committed offset never goes back. -/
def Group.commitMessages (group : Group) (message : Message) : Group :=
  { group with
    committed := Function.update group.committed message.partition
      (max (group.committed message.partition) (message.offset + 1)) }

/-- A new reader of the group starts at the committed offsets. -/
def Group.rejoin (group : Group) : Group :=
  { group with position := group.committed }

/-- A Runner over the Kafka source, with the history of its messages. -/
structure Consumer (workers : Nat) where
  runner : Runner.State Message workers
  group : Group
  fetched : List Message
  completed : List Message

/-- `lateCommit` is a commit the broker carried out although the call gave up
with `err`, as it does when its context ends while it waits. -/
inductive Label (workers : Nat) where
  | runner (label : Runner.Label Message workers)
  | lateCommit (worker : Fin workers) (err : String)
  | restart

variable {workers : Nat}

/-- `Delivery.commit` once the broker has carried it out. -/
def Consumer.commit (state : Consumer workers) (message : Message) :
    Consumer workers :=
  { state with
    group := state.group.commitMessages message
    completed := message :: state.completed }

/-- `Delivery.Ack`, `Drop` and `Retry`, given what the commit call answered.
`Ack` and `Drop` commit; `Retry` commits nothing and answers `ctx.Err()`. -/
def Consumer.finish (state : Consumer workers) (message : Message)
    (completion : Runner.Completion) (failure : Option String) :
    Option (Consumer workers) :=
  match completion, failure with
  | .ack, none | .drop, none => some (state.commit message)
  | .ack, some _ | .drop, some _ => some state
  | .retry, failure =>
      if failure.isSome = state.runner.cancelled then some state else none

/-- One step of the consumer.  The process may stop in any state; what it held
is then lost and the next one rejoins the group. -/
def step (config : Runner.Config) (state : Consumer workers) :
    Label workers → Option (Consumer workers)
  | .restart =>
      some { state with
        runner := Runner.start Message workers
        group := state.group.rejoin }
  | .lateCommit worker err =>
      match state.runner.worker worker,
          Runner.step config state.runner (.complete worker (some err)) with
      | .completing message .ack, some next
      | .completing message .drop, some next =>
          some { state.commit message with runner := next }
      | _, _ => none
  | .runner label =>
      match Runner.step config state.runner label with
      | none => none
      | some next =>
          match label with
          | .received (some message) =>
              match state.group.fetchMessage message with
              | some group =>
                  some { state with
                    runner := next
                    group := group
                    fetched := message :: state.fetched }
              | none => none
          -- `Source.Receive` wraps every message it returns
          | .received none => none
          | .complete worker failure =>
              match state.runner.worker worker with
              | .completing message completion =>
                  (state.finish message completion failure).map
                    ({ · with runner := next })
              | _ => none
          | _ => some { state with runner := next }

/-- A Runner that holds nothing, in a group that has committed what an earlier
life of it had read. -/
def start (workers : Nat) (committed : Nat → Nat) : Consumer workers where
  runner := Runner.start Message workers
  group := ⟨committed, committed⟩
  fetched := []
  completed := []

def system (config : Runner.Config) :
    Transition.System (Consumer config.workers) (Label config.workers) where
  init := fun state => ∃ committed, state = start config.workers committed
  step := step config

/-- The message whose commit this step carries out. -/
def Consumer.committing (state : Consumer workers) :
    Label workers → Option Message
  | .runner (.complete worker none) | .lateCommit worker _ =>
      match state.runner.worker worker with
      | .completing message .ack | .completing message .drop => some message
      | _ => none
  | _ => none

/-- What a step can do to the group and to the histories: one constructor for
each kind of step. -/
inductive Steps (config : Runner.Config) :
    Consumer workers → Label workers → Consumer workers → Prop
  | restart (state) : Steps config state .restart
      { state with
        runner := Runner.start Message workers
        group := state.group.rejoin }
  | fetch {state next} {message : Message}
      (hrun : Runner.Steps config state.runner (.received (some message)) next)
      (hturn : message.offset = state.group.position message.partition) :
      Steps config state (.runner (.received (some message)))
        { state with
          runner := next
          group := { state.group with
            position := Function.update state.group.position message.partition
              (message.offset + 1) }
          fetched := message :: state.fetched }
  | commit {state next label worker failure} {message : Message}
      (hrun : Runner.Steps config state.runner (.complete worker failure) next)
      (hheld : state.runner.Holds message)
      (hcommit : state.committing label = some message) :
      Steps config state label { state.commit message with runner := next }
  | quiet {state next label}
      (hrun : Runner.Steps config state.runner label next)
      (hfetch : ∀ message, label ≠ .received message)
      (hcommit : state.committing (.runner label) = none) :
      Steps config state (.runner label) { state with runner := next }

theorem Consumer.finish_eq_some {state next : Consumer workers}
    {message : Message} {completion : Runner.Completion}
    {failure : Option String}
    (hfinish : state.finish message completion failure = some next) :
    (completion ≠ .retry ∧ failure = none ∧ next = state.commit message) ∨
      ((completion = .retry ∨ failure ≠ none) ∧ next = state) := by
  unfold Consumer.finish at hfinish
  split at hfinish
  case h_5 =>
    split at hfinish
    · exact Or.inr ⟨Or.inl rfl, (Option.some.inj hfinish).symm⟩
    · cases hfinish
  all_goals cases hfinish; simp

theorem steps_of_step {config : Runner.Config} {state next : Consumer workers}
    {label : Label workers} (hstep : step config state label = some next) :
    Steps config state label next := by
  cases label with
  | restart =>
      cases hstep
      exact .restart state
  | lateCommit worker err =>
      simp only [step] at hstep
      split at hstep
      case h_3 => cases hstep
      all_goals
        next hphase hrunner =>
          cases hstep
          refine .commit (Runner.steps_of_step hrunner)
            (Runner.State.Holds.of_worker worker ?_) ?_
          · rw [hphase]; rfl
          · simp only [Consumer.committing, hphase]
  | runner label =>
      simp only [step] at hstep
      split at hstep
      next => cases hstep
      next hrunner =>
        have hrun := Runner.steps_of_step hrunner
        cases label with
        | received delivery =>
            cases delivery with
            | none => cases hstep
            | some message =>
                simp only [Group.fetchMessage] at hstep
                split at hstep
                next hturn =>
                  split at hturn <;> cases hturn
                  cases hstep
                  next hturn => exact .fetch hrun hturn
                next => cases hstep
        | complete worker failure =>
            simp only at hstep
            split at hstep
            next message completion hphase =>
              rw [Option.map_eq_some_iff] at hstep
              obtain ⟨finished, hfinish, rfl⟩ := hstep
              rcases Consumer.finish_eq_some hfinish with
                ⟨hcompletion, rfl, rfl⟩ | ⟨hnone, rfl⟩
              · refine .commit hrun
                  (Runner.State.Holds.of_worker worker ?_) ?_
                · rw [hphase]; rfl
                · cases completion <;>
                    simp_all [Consumer.committing]
              · refine .quiet hrun (fun _ hlabel => by cases hlabel) ?_
                cases failure <;> cases completion <;>
                  simp_all [Consumer.committing]
            next => cases hstep
        | _ =>
            cases hstep
            exact .quiet hrun (fun _ hlabel => by cases hlabel) rfl

end Kafka

end LinkFlow
