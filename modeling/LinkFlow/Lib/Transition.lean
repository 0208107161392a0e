/-
Labelled transition systems whose labels carry all the nondeterminism: runs,
reachability along guarded steps, and the induction rules that turn what one
step preserves into what a whole run preserves.
-/
import Mathlib.Data.List.Basic
import Mathlib.Data.Option.Basic
import Mathlib.Logic.Basic

namespace Transition

universe u v

variable {S : Type u} {L : Type v}

/-- A system given by its initial states and its labelled steps.  A label that
is not enabled has no successor. -/
structure System (S : Type u) (L : Type v) where
  init : S → Prop
  step : S → L → Option S

/-- The states met by runs whose every step satisfies `guard` where it is
taken. -/
inductive System.ReachableVia (T : System S L) (guard : S → L → Prop) :
    S → Prop
  | start {state : S} (hinit : T.init state) : ReachableVia T guard state
  | next {state next : S} {label : L} (hreach : ReachableVia T guard state)
      (hguard : guard state label) (hstep : T.step state label = some next) :
      ReachableVia T guard next

/-- The states met by any run. -/
def System.Reachable (T : System S L) : S → Prop :=
  T.ReachableVia fun _ _ => True

/-- Take the steps named by a list of labels. -/
def System.run (T : System S L) : S → List L → Option S
  | state, [] => some state
  | state, label :: rest =>
      (T.step state label).bind fun next => T.run next rest

/-- The labels form a run from `state`, and `relation` holds of every step the
run takes. -/
def System.Along (T : System S L) (relation : S → L → S → Prop) :
    S → List L → Prop
  | _, [] => True
  | state, label :: rest =>
      ∃ next, T.step state label = some next ∧ relation state label next ∧
        T.Along relation next rest

/-- Whether a list of labels is a run whose steps satisfy a guard can be
computed. -/
instance System.decidableAlong (T : System S L) {guard : S → L → Prop}
    [∀ state label, Decidable (guard state label)] : (state : S) →
      (labels : List L) →
        Decidable (T.Along (fun state label _ => guard state label)
          state labels)
  | _, [] => isTrue trivial
  | state, label :: rest =>
      match hstep : T.step state label with
      | none => isFalse fun ⟨_, hnext, _⟩ => by
          rw [hstep] at hnext
          cases hnext
      | some next =>
          have : Decidable
              (T.Along (fun state label _ => guard state label) next rest) :=
            System.decidableAlong T next rest
          decidable_of_iff
            (guard state label ∧
              T.Along (fun state label _ => guard state label) next rest)
            ⟨fun ⟨hguard, hrest⟩ => ⟨next, hstep, hguard, hrest⟩,
              fun ⟨_, hnext, hguard, hrest⟩ => by
                cases hstep.symm.trans hnext
                exact ⟨hguard, hrest⟩⟩

theorem System.ReachableVia.mono {T : System S L} {first second : S → L → Prop}
    (himp : ∀ state label, first state label → second state label) {state : S}
    (hreach : T.ReachableVia first state) : T.ReachableVia second state := by
  induction hreach with
  | start hinit => exact .start hinit
  | next _ hguard hstep ih => exact .next ih (himp _ _ hguard) hstep

theorem System.ReachableVia.reachable {T : System S L} {guard : S → L → Prop}
    {state : S} (hreach : T.ReachableVia guard state) : T.Reachable state :=
  hreach.mono fun _ _ _ => trivial

/-- The invariant rule: what holds initially and is kept by every guarded step
holds of every state a guarded run meets. -/
theorem System.ReachableVia.invariant {T : System S L}
    {guard : S → L → Prop} {P : S → Prop}
    (hinit : ∀ state, T.init state → P state)
    (hstep : ∀ state label next, P state → guard state label →
      T.step state label = some next → P next)
    {state : S} (hreach : T.ReachableVia guard state) : P state := by
  induction hreach with
  | start hstart => exact hinit _ hstart
  | next _ hguard htaken ih => exact hstep _ _ _ ih hguard htaken

theorem System.Reachable.invariant {T : System S L} {P : S → Prop}
    (hinit : ∀ state, T.init state → P state)
    (hstep : ∀ state label next, P state →
      T.step state label = some next → P next)
    {state : S} (hreach : T.Reachable state) : P state :=
  System.ReachableVia.invariant hinit
    (fun state label next hstate _ htaken =>
      hstep state label next hstate htaken) hreach

theorem System.Reachable.next {T : System S L} {state next : S} {label : L}
    (hreach : T.Reachable state) (hstep : T.step state label = some next) :
    T.Reachable next :=
  System.ReachableVia.next hreach trivial hstep

/-- A replayed list of labels reaches its endpoint. -/
theorem System.Reachable.of_run {T : System S L} {state finish : S}
    (hreach : T.Reachable state) {labels : List L}
    (hrun : T.run state labels = some finish) : T.Reachable finish := by
  induction labels generalizing state with
  | nil =>
      simp only [System.run, Option.some.injEq] at hrun
      exact hrun ▸ hreach
  | cons label rest ih =>
      simp only [System.run, Option.bind_eq_some_iff] at hrun
      obtain ⟨next, hstep, hrest⟩ := hrun
      exact ih (hreach.next hstep) hrest

/-- Some run leads from one state to the other. -/
def System.Leads (T : System S L) (first last : S) : Prop :=
  ∃ labels, T.run first labels = some last

theorem System.Leads.refl (T : System S L) (state : S) : T.Leads state state :=
  ⟨[], rfl⟩

/-- A run can be taken one step further. -/
theorem System.Leads.next {T : System S L} {first state next : S} {label : L}
    (hleads : T.Leads first state) (hstep : T.step state label = some next) :
    T.Leads first next := by
  obtain ⟨labels, hrun⟩ := hleads
  refine ⟨labels ++ [label], ?_⟩
  induction labels generalizing first with
  | nil =>
      cases hrun
      simp [System.run, hstep]
  | cons taken rest ih =>
      simp only [List.cons_append, System.run,
        Option.bind_eq_some_iff] at hrun ⊢
      obtain ⟨middle, htaken, hrest⟩ := hrun
      exact ⟨middle, htaken, ih hrest⟩

/-- What every step keeps is kept on the way from one state to the other. -/
theorem System.Leads.keeps {T : System S L} {P : S → Prop}
    (hstep : ∀ state label next, P state → T.step state label = some next →
      P next)
    {first last : S} (hleads : T.Leads first last) (hfirst : P first) :
    P last := by
  obtain ⟨labels, hrun⟩ := hleads
  induction labels generalizing first with
  | nil =>
      cases hrun
      exact hfirst
  | cons label rest ih =>
      simp only [System.run, Option.bind_eq_some_iff] at hrun
      obtain ⟨middle, htaken, hrest⟩ := hrun
      exact ih (hstep _ _ _ hfirst htaken) hrest

/-- A replayed list of labels that satisfy the guard wherever they are taken
reaches its endpoint by it. -/
theorem System.ReachableVia.of_run {T : System S L} {guard : S → L → Prop}
    {state finish : S} (hreach : T.ReachableVia guard state) {labels : List L}
    (hguard : ∀ label ∈ labels, ∀ state, guard state label)
    (hrun : T.run state labels = some finish) :
    T.ReachableVia guard finish := by
  induction labels generalizing state with
  | nil =>
      cases hrun
      exact hreach
  | cons label rest ih =>
      simp only [System.run, Option.bind_eq_some_iff] at hrun
      obtain ⟨middle, hstep, hrest⟩ := hrun
      rw [List.forall_mem_cons] at hguard
      exact ih (hreach.next (hguard.1 state) hstep) hguard.2 hrest

/-- `P` held somewhere on the way to this state. -/
def System.Earlier (T : System S L) (state : S) (P : S → Prop) : Prop :=
  ∃ before, T.Reachable before ∧ T.Leads before state ∧ P before

theorem System.Earlier.now {T : System S L} {state : S} {P : S → Prop}
    (hreach : T.Reachable state) (hnow : P state) : T.Earlier state P :=
  ⟨state, hreach, .refl T state, hnow⟩

theorem System.Earlier.next {T : System S L} {state next : S} {label : L}
    {P : S → Prop} (hearlier : T.Earlier state P)
    (hstep : T.step state label = some next) : T.Earlier next P := by
  obtain ⟨before, hreach, hleads, hbefore⟩ := hearlier
  exact ⟨before, hreach, hleads.next hstep, hbefore⟩

theorem System.Earlier.imp {T : System S L} {state : S} {P Q : S → Prop}
    (himp : ∀ before, P before → Q before) (hearlier : T.Earlier state P) :
    T.Earlier state Q := by
  obtain ⟨before, hreach, hleads, hbefore⟩ := hearlier
  exact ⟨before, hreach, hleads, himp before hbefore⟩

/-- A step on the way to this state is one that `P` holds of. -/
def System.Taken (T : System S L) (state : S) (P : S → L → S → Prop) : Prop :=
  ∃ before label after, T.Reachable before ∧
    T.step before label = some after ∧ T.Leads after state ∧
    P before label after

theorem System.Taken.now {T : System S L} {state next : S} {label : L}
    {P : S → L → S → Prop} (hreach : T.Reachable state)
    (hstep : T.step state label = some next) (hnow : P state label next) :
    T.Taken next P :=
  ⟨state, label, next, hreach, hstep, .refl T next, hnow⟩

theorem System.Taken.next {T : System S L} {state next : S} {label : L}
    {P : S → L → S → Prop} (htaken : T.Taken state P)
    (hstep : T.step state label = some next) : T.Taken next P := by
  obtain ⟨before, taken, after, hreach, htook, hleads, hholds⟩ := htaken
  exact ⟨before, taken, after, hreach, htook, hleads.next hstep, hholds⟩

theorem System.Taken.imp {T : System S L} {state : S} {P Q : S → L → S → Prop}
    (himp : ∀ before label after, P before label after → Q before label after)
    (htaken : T.Taken state P) : T.Taken state Q := by
  obtain ⟨before, label, after, hreach, htook, hleads, hholds⟩ := htaken
  exact ⟨before, label, after, hreach, htook, hleads, himp _ _ _ hholds⟩

/-- What is in a log after something was added to it was there, or is new. -/
theorem getElem?_append_cases {E : Type*} {log fresh : List E} {number : Nat}
    {entry : E} (hentry : (log ++ fresh)[number]? = some entry) :
    log[number]? = some entry ∨ log.length ≤ number ∧ entry ∈ fresh := by
  rw [List.getElem?_append] at hentry
  split at hentry
  · exact Or.inl hentry
  next hlate => exact Or.inr ⟨Nat.not_lt.mp hlate, List.mem_of_getElem? hentry⟩

/-- The step adds the entry with this number to a log. -/
def Adds {E : Type*} (log : S → List E) (number : Nat) (entry : E)
    (before after : S) : Prop :=
  (log before).length ≤ number ∧ (log after)[number]? = some entry

/-- Every entry of a log was added by a step that `P` holds of. -/
def System.Attributed {E : Type*} (T : System S L) (log : S → List E)
    (P : E → S → L → S → Prop) (state : S) : Prop :=
  ∀ number entry, (log state)[number]? = some entry →
    T.Taken state fun before label after =>
      Adds log number entry before after ∧ P entry before label after

/-- The rule for logs that only grow: `P` holds of each step and what it
adds. -/
theorem System.Attributed.next {E : Type*} {T : System S L} {log : S → List E}
    {P : E → S → L → S → Prop} {state next : S} {label : L} {fresh : List E}
    (hattributed : T.Attributed log P state) (hreach : T.Reachable state)
    (hstep : T.step state label = some next)
    (hgrows : log next = log state ++ fresh)
    (hfresh : ∀ entry ∈ fresh, P entry state label next) :
    T.Attributed log P next := by
  intro number entry hentry
  have hsplit := hentry
  rw [hgrows] at hsplit
  rcases getElem?_append_cases hsplit with hold | ⟨hlate, hmem⟩
  · exact (hattributed number entry hold).next hstep
  · exact .now hreach hstep ⟨⟨hlate, hentry⟩, hfresh entry hmem⟩

/-- A run whose every step satisfies the guard reaches its endpoint by it. -/
theorem System.ReachableVia.of_along {T : System S L} {guard : S → L → Prop}
    {state finish : S} (hreach : T.ReachableVia guard state) {labels : List L}
    (halong : T.Along (fun state label _ => guard state label) state labels)
    (hrun : T.run state labels = some finish) :
    T.ReachableVia guard finish := by
  induction labels generalizing state with
  | nil =>
      cases hrun
      exact hreach
  | cons label rest ih =>
      obtain ⟨next, hstep, hguard, hrest⟩ := halong
      simp only [System.run, hstep, Option.bind_some] at hrun
      exact ih (hreach.next hguard hstep) hrest hrun

/-- A guard that is exactly what keeps `P` one step longer is also exactly what
keeps `P` along a whole run.  `I` collects the facts every step keeps anyway. -/
theorem System.along_iff_of_exact {T : System S L} {I P : S → Prop}
    {guard : S → L → Prop}
    (hkeep : ∀ state label next, I state →
      T.step state label = some next → I next)
    (hexact : ∀ state label next, I state → P state →
      T.step state label = some next → (P next ↔ guard state label))
    {state : S} (hI : I state) (hP : P state) {labels : List L} :
    T.Along (fun _ _ next => P next) state labels ↔
      T.Along (fun state label _ => guard state label) state labels := by
  induction labels generalizing state with
  | nil => exact Iff.rfl
  | cons label rest ih =>
      constructor
      · rintro ⟨next, hstep, hnext, hrest⟩
        refine ⟨next, hstep, (hexact _ _ _ hI hP hstep).mp hnext, ?_⟩
        exact (ih (hkeep _ _ _ hI hstep) hnext).mp hrest
      · rintro ⟨next, hstep, hguard, hrest⟩
        have hnext : P next := (hexact _ _ _ hI hP hstep).mpr hguard
        exact ⟨next, hstep, hnext, (ih (hkeep _ _ _ hI hstep) hnext).mpr hrest⟩

end Transition
