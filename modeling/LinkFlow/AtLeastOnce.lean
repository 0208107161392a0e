/-
At-least-once delivery of the Runner over Kafka.  The commit is a high-water
mark for each partition while workers finish in any order, so the guarantee
holds in exactly the runs that finish every partition in offset order.
-/
import LinkFlow.KafkaSource
import Mathlib.Data.Nat.SuccPred

namespace LinkFlow

namespace Kafka

open Transition

variable {workers : Nat}

/-- Every fetched message below the committed offset has been completed by an
`Ack` or a `Drop` of its own. -/
def Consumer.AtLeastOnce (state : Consumer workers) : Prop :=
  ∀ message ∈ state.fetched,
    message.offset < state.group.committed message.partition →
      message ∈ state.completed

/-- A commit is in order when the messages fetched before it from the same
partition are all completed.  Other steps are always in order. -/
def Consumer.InOrder (state : Consumer workers) (label : Label workers) :
    Prop :=
  ∀ message, state.committing label = some message →
    ∀ earlier ∈ state.fetched, earlier.partition = message.partition →
      earlier.offset < message.offset → earlier ∈ state.completed

/-- The offsets of one partition among some messages. -/
def offsets (messages : List Message) (partition : Nat) : Set Nat :=
  {offset | ⟨partition, offset⟩ ∈ messages}

theorem offsets_cons_self (message : Message) (messages : List Message) :
    offsets (message :: messages) message.partition =
      insert message.offset (offsets messages message.partition) := by
  ext offset
  cases message
  simp [offsets]

theorem offsets_cons_of_ne {message : Message} {partition : Nat}
    (messages : List Message) (hne : partition ≠ message.partition) :
    offsets (message :: messages) partition = offsets messages partition := by
  ext offset
  cases message
  simp_all [offsets]

/-- At-least-once is the truthfulness of each partition's committed offset. -/
theorem Consumer.atLeastOnce_iff_truthful {state : Consumer workers} :
    state.AtLeastOnce ↔ ∀ partition,
      HighWater.Truthful (state.group.committed partition)
        (offsets state.fetched partition)
        (offsets state.completed partition) :=
  ⟨fun hsafe partition offset hfetched hbelow =>
      hsafe ⟨partition, offset⟩ hfetched hbelow,
    fun htrue message hfetched hbelow =>
      htrue message.partition message.offset hfetched hbelow⟩

/-- What every step keeps, in order or not: nothing is committed or held that
has not been read. -/
structure Consumer.Tracked (state : Consumer workers) : Prop where
  committed_le : ∀ partition,
    state.group.committed partition ≤ state.group.position partition
  held_lt : ∀ message, state.runner.Holds message →
    message.offset < state.group.position message.partition
  held_fetched : ∀ message, state.runner.Holds message →
    message ∈ state.fetched

theorem start_holds_nothing (message : Message) :
    ¬ (Runner.start Message workers).Holds message := by
  rintro (hloop | hqueue | ⟨worker, hworker⟩)
  · cases hloop
  · cases hqueue
  · cases hworker

theorem start_tracked (committed : Nat → Nat) :
    (start workers committed).Tracked where
  committed_le _ := Nat.le_refl _
  held_lt message hheld := absurd hheld (start_holds_nothing message)
  held_fetched message hheld := absurd hheld (start_holds_nothing message)

theorem start_atLeastOnce (committed : Nat → Nat) :
    (start workers committed).AtLeastOnce := by
  intro message hfetched
  cases hfetched

theorem Steps.tracked {config : Runner.Config} {state next : Consumer workers}
    {label : Label workers} (hsteps : Steps config state label next)
    (htracked : state.Tracked) : next.Tracked := by
  cases hsteps with
  | restart =>
      refine ⟨fun _ => Nat.le_refl _, ?_, ?_⟩
      · intro message hheld
        exact absurd hheld (start_holds_nothing message)
      · intro message hheld
        exact absurd hheld (start_holds_nothing message)
  | @fetch _ message hrun hturn =>
      refine ⟨fun partition => ?_, fun other hheld => ?_, fun other hheld => ?_⟩
      · have hle := htracked.committed_le partition
        by_cases hsame : partition = message.partition
        · subst hsame
          simp only [Function.update_self]
          omega
        · simpa only [Function.update_of_ne hsame] using hle
      · rcases hrun.holds hheld with hold | hnew
        · have hlt := htracked.held_lt other hold
          by_cases hsame : other.partition = message.partition
          · simp only [hsame, Function.update_self] at hlt ⊢
            omega
          · simpa only [Function.update_of_ne hsame] using hlt
        · cases hnew
          simp
      · rcases hrun.holds hheld with hold | hnew
        · exact List.mem_cons_of_mem _ (htracked.held_fetched other hold)
        · cases hnew
          exact List.mem_cons_self
  | @commit _ _ _ _ message hrun hheld _ =>
      have hkeep : ∀ other, Runner.State.Holds _ other →
          state.runner.Holds other := fun other hother =>
        (hrun.holds hother).resolve_right fun hlabel => by cases hlabel
      refine ⟨fun partition => ?_, fun other hother => ?_,
        fun other hother => ?_⟩
      · by_cases hsame : partition = message.partition
        · subst hsame
          simp only [Consumer.commit, Group.commitMessages,
            Function.update_self]
          exact max_le (htracked.committed_le _) (htracked.held_lt _ hheld)
        · simpa only [Consumer.commit, Group.commitMessages,
            Function.update_of_ne hsame] using htracked.committed_le partition
      · exact htracked.held_lt other (hkeep other hother)
      · exact htracked.held_fetched other (hkeep other hother)
  | quiet hrun hfetch _ =>
      have hkeep : ∀ other, Runner.State.Holds _ other →
          state.runner.Holds other := fun other hother =>
        (hrun.holds hother).resolve_right (hfetch _)
      exact ⟨htracked.committed_le,
        fun other hother => htracked.held_lt other (hkeep other hother),
        fun other hother => htracked.held_fetched other (hkeep other hother)⟩

/-- A step keeps the guarantee exactly when it is in order. -/
theorem Steps.atLeastOnce_iff {config : Runner.Config}
    {state next : Consumer workers} {label : Label workers}
    (hsteps : Steps config state label next) (htracked : state.Tracked)
    (hsafe : state.AtLeastOnce) :
    next.AtLeastOnce ↔ state.InOrder label := by
  have htrue := Consumer.atLeastOnce_iff_truthful.mp hsafe
  cases hsteps with
  | restart =>
      exact ⟨fun _ message hcommit => (nomatch hcommit), fun _ => hsafe⟩
  | @fetch _ message hrun hturn =>
      refine ⟨fun _ message hcommit => (nomatch hcommit), fun _ => ?_⟩
      apply Consumer.atLeastOnce_iff_truthful.mpr
      intro partition
      by_cases hsame : partition = message.partition
      · subst hsame
        have habove : state.group.committed message.partition ≤
            message.offset :=
          hturn ▸ htracked.committed_le _
        change HighWater.Truthful _ (offsets (message :: _) _) _
        rw [offsets_cons_self]
        exact (htrue message.partition).issue habove
      · change HighWater.Truthful _ (offsets (message :: _) _) _
        rw [offsets_cons_of_ne _ hsame]
        exact htrue partition
  | @commit _ _ _ _ message hrun hheld hcommit =>
      have hraise :
          HighWater.Truthful
              (max (state.group.committed message.partition)
                (Order.succ message.offset))
              (offsets state.fetched message.partition)
              (insert message.offset
                (offsets state.completed message.partition)) ↔
            ∀ offset ∈ offsets state.fetched message.partition,
              offset < message.offset →
                offset ∈ offsets state.completed message.partition :=
        HighWater.truthful_raise_iff (htrue message.partition)
      rw [Consumer.atLeastOnce_iff_truthful]
      constructor
      · intro hnext other hother earlier hfetched hpartition hlt
        cases hcommit.symm.trans hother
        have hhere := hnext message.partition
        change HighWater.Truthful
          (Function.update state.group.committed _ _ message.partition) _
          (offsets (message :: state.completed) _) at hhere
        rw [Function.update_self, offsets_cons_self] at hhere
        rw [← hpartition] at hraise hhere
        exact hraise.mp hhere earlier.offset hfetched hlt
      · intro horder partition
        change HighWater.Truthful
          (Function.update state.group.committed _ _ partition) _
          (offsets (message :: state.completed) _)
        by_cases hsame : partition = message.partition
        · subst hsame
          rw [Function.update_self, offsets_cons_self]
          apply hraise.mpr
          intro offset hfetched hlt
          exact horder message hcommit ⟨message.partition, offset⟩
            hfetched rfl hlt
        · rw [Function.update_of_ne hsame, offsets_cons_of_ne _ hsame]
          exact htrue partition
  | quiet hrun hfetch hcommit =>
      refine ⟨fun _ message hsome => ?_, fun _ => hsafe⟩
      rw [hcommit] at hsome
      cases hsome

/-- The message a step takes from the broker. -/
def Label.fetches : Label workers → Option Message
  | .runner (.received delivery) => delivery
  | _ => none

theorem Label.fetches_eq_none_of_committing {state : Consumer workers}
    {label : Label workers} {message : Message}
    (hcommit : state.committing label = some message) :
    label.fetches = none := by
  cases label with
  | restart => rfl
  | lateCommit worker err => rfl
  | runner label => cases label <;> first | rfl | cases hcommit

theorem Label.fetches_runner_eq_none {label : Runner.Label Message workers}
    (hfetch : ∀ message, label ≠ .received message) :
    (Label.runner label).fetches = none := by
  cases label with
  | received message => exact absurd rfl (hfetch message)
  | _ => rfl

/-- Until the process stops again, a partition is read in order: whatever is
fetched beyond an offset the reader has not reached comes after that offset. -/
theorem fetched_before_later {config : Runner.Config}
    {labels : List (Label config.workers)}
    {state finish : Consumer config.workers}
    (hrun : (system config).run state labels = some finish)
    (halive : .restart ∉ labels) {message later : Message}
    (hahead : state.group.position message.partition ≤ message.offset)
    (hlater : later ∈ labels.filterMap Label.fetches)
    (hsame : later.partition = message.partition)
    (hbeyond : message.offset < later.offset) :
    message ∈ labels.filterMap Label.fetches := by
  induction labels generalizing state with
  | nil => cases hlater
  | cons label rest ih =>
      simp only [Transition.System.run, Option.bind_eq_some_iff] at hrun
      obtain ⟨next, hstep, hrest⟩ := hrun
      have hrestart : Label.restart ∉ rest := fun hmem =>
        halive (List.mem_cons_of_mem _ hmem)
      cases steps_of_step hstep with
      | restart => exact absurd List.mem_cons_self halive
      | @fetch _ fetched hrunner hturn =>
          simp only [List.filterMap_cons, Label.fetches] at hlater ⊢
          by_cases hhere : fetched = message
          · exact hhere ▸ List.mem_cons_self
          · apply List.mem_cons_of_mem _
            rcases List.mem_cons.mp hlater with rfl | hlater
            · rw [← hsame] at hahead
              omega
            · refine ih hrest hrestart ?_ hlater
              by_cases hpartition : message.partition = fetched.partition
              · rw [hpartition] at hahead ⊢
                have hne : fetched.offset ≠ message.offset := fun heq =>
                  hhere (by cases fetched; cases message; simp_all)
                simp only [Function.update_self]
                omega
              · simpa only [Function.update_of_ne hpartition] using hahead
      | commit hrunner hheld hcommit =>
          have hnone := Label.fetches_eq_none_of_committing hcommit
          simp only [List.filterMap_cons, hnone] at hlater ⊢
          exact ih hrest hrestart hahead hlater
      | quiet hrunner hfetch hcommit =>
          have hnone := Label.fetches_runner_eq_none hfetch
          simp only [List.filterMap_cons, hnone] at hlater ⊢
          exact ih hrest hrestart hahead hlater

/-- In a run that commits in order, what is not completed is delivered again
after a restart, before anything beyond it. -/
def Consumer.Redelivers {config : Runner.Config}
    (state : Consumer config.workers) : Prop :=
  ∀ message ∈ state.fetched, message ∉ state.completed →
    ∀ restarted labels finish,
      step config state .restart = some restarted →
      (system config).run restarted labels = some finish →
      .restart ∉ labels →
      ∀ later ∈ labels.filterMap Label.fetches,
        later.partition = message.partition →
        message.offset < later.offset →
          message ∈ labels.filterMap Label.fetches

theorem Consumer.AtLeastOnce.redelivers {config : Runner.Config}
    {state : Consumer config.workers} (hsafe : state.AtLeastOnce) :
    state.Redelivers := by
  intro message hfetched hopen restarted labels finish hrestart hrun halive
    later hlater hsame hbeyond
  cases hrestart
  refine fetched_before_later hrun halive ?_ hlater hsame hbeyond
  have htrue := Consumer.atLeastOnce_iff_truthful.mp hsafe message.partition
  exact htrue.le_of_not_done hfetched hopen

/-- The guarantee, with the redelivery it buys, holds all along a run exactly
when every commit of the run is in order. -/
theorem at_least_once_along_iff_in_order (config : Runner.Config)
    (committed : Nat → Nat) (labels : List (Label config.workers)) :
    (system config).Along
        (fun _ _ next => next.AtLeastOnce ∧ next.Redelivers)
        (start config.workers committed) labels ↔
      (system config).Along (fun state label _ => state.InOrder label)
        (start config.workers committed) labels := by
  have hkeep : ∀ state label next, state.Tracked →
      (system config).step state label = some next → next.Tracked :=
    fun _ _ _ htracked hstep => (steps_of_step hstep).tracked htracked
  have hexact : ∀ state label next, state.Tracked →
      (state.AtLeastOnce ∧ state.Redelivers) →
      (system config).step state label = some next →
      (next.AtLeastOnce ∧ next.Redelivers ↔ state.InOrder label) := by
    intro state label next htracked hsafe hstep
    rw [← (steps_of_step hstep).atLeastOnce_iff htracked hsafe.1]
    exact and_iff_left_of_imp Consumer.AtLeastOnce.redelivers
  have hinitial : (start config.workers committed).AtLeastOnce :=
    start_atLeastOnce committed
  exact System.along_iff_of_exact hkeep hexact (start_tracked committed)
    ⟨hinitial, hinitial.redelivers⟩

/-- The configuration `NewRunner` makes when no option is set. -/
def defaultConfig : Runner.Config :=
  ⟨Runner.defaultWorkers, Runner.defaultBuffer, Runner.defaultMaxRetries⟩

/-- The first message exhausts its retries on one worker while another worker
acknowledges the second one. -/
def overtakenRetry : List (Label 4) :=
  let retry := Runner.HandlerOutcome.returned ⟨.retry, some "database is down"⟩
  [.received (some ⟨0, 0⟩), .enqueue, .received (some ⟨0, 1⟩), .enqueue,
    .take 0, .take 1,
    .handlerReturns 0 retry, .backoffElapsed 0,
    .handlerReturns 0 retry, .backoffElapsed 0,
    .handlerReturns 0 retry, .backoffElapsed 0,
    .handlerReturns 0 retry, .complete 0 none,
    .handlerReturns 1 (.returned ⟨.ack, none⟩), .complete 1 none].map .runner

/-- With the default options the commit of the second message also covers the
first, which ended in `Retry` and is never delivered again. -/
theorem at_least_once_overtaken_retry :
    Runner.newRunner 0 0 0 = some defaultConfig ∧
      ∃ state, (system defaultConfig).Reachable state ∧
        ¬ state.AtLeastOnce ∧ ¬ state.Redelivers := by
  have hstart : (system defaultConfig).Reachable (start 4 fun _ => 0) :=
    .start ⟨_, rfl⟩
  have hrun : (system defaultConfig).run (start 4 fun _ => 0) overtakenRetry =
      some _ := rfl
  refine ⟨rfl, _, hstart.of_run hrun, ?_, ?_⟩
  · intro hsafe
    exact absurd (hsafe ⟨0, 0⟩ (by decide) (by decide)) (by decide)
  · intro hredelivers
    have hagain := hredelivers ⟨0, 0⟩ (by decide) (by decide) _
      [.runner (.received (some ⟨0, 2⟩))] _ rfl rfl (by simp)
      ⟨0, 2⟩ (by decide) rfl (by decide)
    exact absurd hagain (by decide)

end Kafka

end LinkFlow
