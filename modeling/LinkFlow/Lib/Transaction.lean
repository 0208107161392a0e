/-
Transactions: statements that read and change a state and may fail.  A failed
transaction leaves the state as it was.  The rules here take what each statement
does, alone or in two runs side by side, to what a whole transaction does.
-/
import Mathlib.Logic.Basic

/-- A computation on a state that may fail. -/
def Transaction (σ ε α : Type) := σ → Except ε (α × σ)

namespace Transaction

variable {σ ε α β : Type}

instance : Monad (Transaction σ ε) where
  pure value := fun state => .ok (value, state)
  bind first next := fun state =>
    match first state with
    | .error err => .error err
    | .ok (value, middle) => next value middle

def fail (err : ε) : Transaction σ ε α := fun _ => .error err

/-- A value read from the state. -/
def read (f : σ → α) : Transaction σ ε α := fun state => .ok (f state, state)

/-- A value or an error that does not depend on the state. -/
def lift (outcome : Except ε α) : Transaction σ ε α := fun state =>
  outcome.map fun value => (value, state)

/-- Restate the error. -/
def mapError (f : ε → ε) (tx : Transaction σ ε α) : Transaction σ ε α :=
  fun state => (tx state).mapError f

/-- Run and keep the new state, or report the error and keep the old one. -/
def run (tx : Transaction σ ε α) (state : σ) : Except ε α × σ :=
  match tx state with
  | .error err => (.error err, state)
  | .ok (value, next) => (.ok value, next)

theorem bind_eq_ok {first : Transaction σ ε α} {next : α → Transaction σ ε β}
    {state : σ} {result : β × σ} :
    (first >>= next) state = .ok result ↔
      ∃ value middle, first state = .ok (value, middle) ∧
        next value middle = .ok result := by
  simp only [bind]
  cases first state with
  | error err => simp
  | ok pair =>
      obtain ⟨value, middle⟩ := pair
      constructor
      · intro hnext
        exact ⟨value, middle, rfl, hnext⟩
      · rintro ⟨_, _, heq, hnext⟩
        cases heq
        exact hnext

@[simp] theorem pure_eq_ok {value : α} {state : σ} {result : α × σ} :
    (pure value : Transaction σ ε α) state = .ok result ↔
      result = (value, state) := by
  change Except.ok (value, state) = _ ↔ _
  rw [Except.ok.injEq, eq_comm]

@[simp] theorem fail_eq_ok {err : ε} {state : σ} {result : α × σ} :
    (fail err : Transaction σ ε α) state = .ok result ↔ False := by
  simp [fail]

@[simp] theorem read_eq_ok {f : σ → α} {state : σ} {result : α × σ} :
    (read f : Transaction σ ε α) state = .ok result ↔
      result = (f state, state) := by
  rw [read, Except.ok.injEq, eq_comm]

@[simp] theorem lift_eq_ok {outcome : Except ε α} {state : σ}
    {result : α × σ} :
    (lift outcome : Transaction σ ε α) state = .ok result ↔
      outcome = .ok result.1 ∧ state = result.2 := by
  obtain ⟨value, next⟩ := result
  cases outcome with
  | error err => simp [lift, Except.map]
  | ok found => simp [lift, Except.map]

@[simp] theorem mapError_eq_ok {f : ε → ε} {tx : Transaction σ ε α} {state : σ}
    {result : α × σ} :
    tx.mapError f state = .ok result ↔ tx state = .ok result := by
  rw [mapError]
  cases tx state with
  | ok held => exact Iff.rfl
  | error err => constructor <;> intro heq <;> cases heq

/-- A transaction either fails and changes nothing, or has run. -/
theorem run_cases (tx : Transaction σ ε α) (state : σ) :
    (∃ err, tx.run state = (.error err, state)) ∨
      ∃ value next, tx state = .ok (value, next) ∧
        tx.run state = (.ok value, next) := by
  rw [run]
  cases htx : tx state with
  | error err => exact Or.inl ⟨err, rfl⟩
  | ok pair => exact Or.inr ⟨pair.1, pair.2, rfl, rfl⟩

section Keeps

variable {rel : σ → σ → Prop}

/-- Whenever the transaction succeeds, the states before and after are
related. -/
def Keeps (rel : σ → σ → Prop) (tx : Transaction σ ε α) : Prop :=
  ∀ state value next, tx state = .ok (value, next) → rel state next

theorem Keeps.pure (hrefl : ∀ state, rel state state) (value : α) :
    Keeps rel (Pure.pure value : Transaction σ ε α) := by
  intro state result next hok
  cases hok
  exact hrefl state

theorem Keeps.fail (err : ε) : Keeps rel (fail err : Transaction σ ε α) := by
  intro state value next hok
  cases hok

theorem Keeps.read (hrefl : ∀ state, rel state state) (f : σ → α) :
    Keeps rel (read f : Transaction σ ε α) := by
  intro state value next hok
  cases hok
  exact hrefl state

theorem Keeps.lift (hrefl : ∀ state, rel state state) (outcome : Except ε α) :
    Keeps rel (lift outcome : Transaction σ ε α) := by
  intro state value next hok
  cases outcome with
  | error err => cases hok
  | ok value =>
      cases hok
      exact hrefl state

theorem Keeps.mapError {f : ε → ε} {tx : Transaction σ ε α}
    (hkeeps : Keeps rel tx) : Keeps rel (tx.mapError f) := by
  intro state value next hok
  rw [Transaction.mapError] at hok
  cases htx : tx state with
  | error err =>
      rw [htx] at hok
      cases hok
  | ok pair =>
      rw [htx] at hok
      cases hok
      exact hkeeps _ _ _ htx

theorem Keeps.bind (htrans : ∀ first second third, rel first second →
    rel second third → rel first third)
    {first : Transaction σ ε α} {next : α → Transaction σ ε β}
    (hfirst : Keeps rel first) (hnext : ∀ value, Keeps rel (next value)) :
    Keeps rel (first >>= next) := by
  intro state result finish hok
  obtain ⟨value, middle, hstart, hrest⟩ := bind_eq_ok.mp hok
  exact htrans _ _ _ (hfirst _ _ _ hstart) (hnext _ _ _ _ hrest)

/-- A transaction that fails keeps every state. -/
theorem Keeps.run (hrefl : ∀ state, rel state state) {tx : Transaction σ ε α}
    (hkeeps : Keeps rel tx) (state : σ) : rel state (tx.run state).2 := by
  rw [Transaction.run]
  cases htx : tx state with
  | error err => exact hrefl state
  | ok pair => exact hkeeps _ _ _ htx

end Keeps

section Twins

/-- Two outcomes that report the same and leave states in a relation. -/
inductive Alike (post : α → σ → σ → Prop) :
    Except ε (α × σ) → Except ε (α × σ) → Prop
  | error (err : ε) : Alike post (.error err) (.error err)
  | ok (value : α) {first second : σ} (hpost : post value first second) :
      Alike post (.ok (value, first)) (.ok (value, second))

/-- From states in one relation two runs end alike, in another. -/
def Twins (pre : σ → σ → Prop) (tx : Transaction σ ε α)
    (post : α → σ → σ → Prop) : Prop :=
  ∀ first second, pre first second → Alike post (tx first) (tx second)

variable {pre : σ → σ → Prop} {post : α → σ → σ → Prop}
  {last : β → σ → σ → Prop}

theorem Twins.pure {value : α}
    (himp : ∀ first second, pre first second → post value first second) :
    Twins pre (Pure.pure value : Transaction σ ε α) post :=
  fun first second hpre => .ok value (himp first second hpre)

theorem Twins.fail (err : ε) :
    Twins pre (fail err : Transaction σ ε α) post :=
  fun _ _ _ => .error err

theorem Twins.mapError {f : ε → ε} {tx : Transaction σ ε α}
    (htwins : Twins pre tx post) : Twins pre (tx.mapError f) post := by
  intro first second hpre
  have hboth := htwins first second hpre
  unfold Transaction.mapError
  generalize tx first = out at hboth
  generalize tx second = out' at hboth
  cases hboth with
  | error err => exact .error (f err)
  | ok value hpost => exact .ok value hpost

theorem Twins.bind {first : Transaction σ ε α} {next : α → Transaction σ ε β}
    (hfirst : Twins pre first post)
    (hnext : ∀ value, Twins (post value) (next value) last) :
    Twins pre (first >>= next) last := by
  intro start start' hpre
  have hboth := hfirst start start' hpre
  simp only [Bind.bind]
  generalize first start = out at hboth
  generalize first start' = out' at hboth
  cases hboth with
  | error err => exact .error err
  | ok value hpost => exact hnext value _ _ hpost

/-- A read of what related states share. -/
theorem Twins.read {f : σ → α}
    (hsame : ∀ first second, pre first second → f first = f second) :
    Twins pre (read f : Transaction σ ε α) fun value first second =>
      pre first second ∧ f first = value ∧ f second = value := by
  intro first second hpre
  have heq := hsame first second hpre
  rw [Transaction.read]
  rw [heq]
  exact .ok _ ⟨hpre, heq, rfl⟩

theorem Twins.lift (outcome : Except ε α) :
    Twins pre (lift outcome : Transaction σ ε α) fun value first second =>
      pre first second ∧ outcome = .ok value := by
  intro first second hpre
  cases outcome with
  | error err => exact .error err
  | ok value => exact .ok value ⟨hpre, rfl⟩

theorem Twins.weaken {tx : Transaction σ ε α} {pre' : σ → σ → Prop}
    {post' : α → σ → σ → Prop} (htwins : Twins pre tx post)
    (hpre : ∀ first second, pre' first second → pre first second)
    (hpost : ∀ value first second, post value first second →
      post' value first second) : Twins pre' tx post' := by
  intro first second hrel
  have hboth := htwins first second (hpre first second hrel)
  generalize tx first = out at hboth
  generalize tx second = out' at hboth
  cases hboth with
  | error err => exact .error err
  | ok value hrel => exact .ok value (hpost _ _ _ hrel)

theorem Twins.left {tx : Transaction σ ε α} {kept : σ → σ → Prop}
    {fact : α → σ → σ → Prop}
    (htwins : Twins pre tx fun value first second =>
      kept first second ∧ fact value first second) :
    Twins pre tx fun _ => kept :=
  htwins.weaken (fun _ _ hpre => hpre) fun _ _ _ hpost => hpost.1

/-- A fact about the states that does not depend on them is a hypothesis. -/
theorem Twins.of_and {tx : Transaction σ ε α} {fact : Prop}
    (htwins : fact → Twins pre tx post) :
    Twins (fun first second => pre first second ∧ fact) tx post :=
  fun first second hpre => htwins hpre.2 first second hpre.1

/-- What each run keeps by itself holds of both. -/
theorem Twins.and_keeps {tx : Transaction σ ε α} {inv : σ → Prop}
    (htwins : Twins pre tx post)
    (hkeeps : Keeps (fun state next => inv state → inv next) tx) :
    Twins (fun first second => pre first second ∧ inv first ∧ inv second) tx
      fun value first second =>
        post value first second ∧ inv first ∧ inv second := by
  rintro first second ⟨hpre, hinv, hinv'⟩
  have hboth := htwins first second hpre
  cases hfirst : tx first with
  | error err =>
      rw [hfirst] at hboth
      cases hsecond : tx second with
      | error err' =>
          rw [hsecond] at hboth
          cases hboth
          exact .error err
      | ok pair => rw [hsecond] at hboth; cases hboth
  | ok pair =>
      rw [hfirst] at hboth
      cases hsecond : tx second with
      | error err => rw [hsecond] at hboth; cases hboth
      | ok pair' =>
          rw [hsecond] at hboth
          cases hboth with
          | ok value hpost =>
              exact .ok value ⟨hpost, hkeeps _ _ _ hfirst hinv,
                hkeeps _ _ _ hsecond hinv'⟩

/-- Two runs side by side report the same. -/
theorem Twins.run {tx : Transaction σ ε α} (htwins : Twins pre tx post)
    {first second : σ} (hpre : pre first second) :
    (tx.run first).1 = (tx.run second).1 := by
  have hboth := htwins first second hpre
  unfold Transaction.run
  generalize tx first = out at hboth
  generalize tx second = out' at hboth
  cases hboth with
  | error err => rfl
  | ok value hpost => rfl

end Twins

end Transaction
