/-
Transactions on one table under read committed.  A transaction is a program of
statements; each sees committed rows and its own writes, leaves alone the rows
that other transactions have written, and a commit publishes its writes
together.  The rules take what each program writes to what every run commits.
-/
import LinkFlow.Lib.Table
import LinkFlow.Lib.Transition
import Mathlib.Logic.Function.Basic

namespace ReadCommitted

variable {R K A ε α C : Type} [LinearOrder K]

/-- What a statement does to one row. -/
inductive Write (R K : Type) where
  | insert (row : R)
  | update (row : R)
  | remove (key : K)

/-- What is left of a transaction: a statement gives its writes and a value that
the next statement is chosen by. -/
inductive Program (R K ε α : Type) : Type 1 where
  | done (value : α)
  | fail (err : ε)
  | step {β : Type} (statement : List R → Except ε (List (Write R K) × β))
      (next : β → Program R K ε α)

/-- The writes of a transaction that is not committed. -/
structure Pending (R K : Type) where
  rows : List R
  gone : List K

section Writes

variable (schema : TableSchema R K) (attr : R → A)

def Write.key : Write R K → K
  | .insert row => schema.key row
  | .update row => schema.key row
  | .remove key => key

def Pending.empty : Pending R K := ⟨[], []⟩

def Pending.touches (pending : Pending R K) (key : K) : Bool :=
  key ∈ pending.gone || pending.rows.any fun row => schema.key row = key

def Pending.put (pending : Pending R K) (row : R) : Pending R K :=
  ⟨row :: pending.rows.filter fun other => schema.key other ≠ schema.key row,
    pending.gone⟩

def Pending.remove (pending : Pending R K) (key : K) : Pending R K :=
  ⟨pending.rows.filter fun other => schema.key other ≠ key, key :: pending.gone⟩

/-- The rows a transaction finds: its own and the committed ones. -/
def Pending.view (pending : Pending R K) (table : Table schema) : List R :=
  pending.rows ++
    table.rows.filter fun row => !pending.touches schema (schema.key row)

/-- Publish the writes, if the indexes admit them. -/
def Pending.commit? (pending : Pending R K) (table : Table schema) :
    Option (Table schema) :=
  pending.rows.foldlM Table.insert?
    (table.delete fun row => pending.touches schema (schema.key row))

/-- Carry out the writes of a statement.  A key is generated for one row only,
and `origin` keeps the columns of that row which no update changes. -/
def writeAll : (K → Option A) → Pending R K → List (Write R K) →
    Option ((K → Option A) × Pending R K)
  | origin, pending, [] => some (origin, pending)
  | origin, pending, .insert row :: rest =>
      if origin (schema.key row) = none then
        writeAll (Function.update origin (schema.key row) (some (attr row)))
          (pending.put schema row) rest
      else none
  | origin, pending, .update row :: rest =>
      writeAll origin (pending.put schema row) rest
  | origin, pending, .remove key :: rest =>
      writeAll origin (pending.remove schema key) rest

end Writes

section System

/-- A transaction that runs for a call. -/
structure Running (R K ε α C : Type) where
  call : C
  program : Program R K ε α
  pending : Pending R K

structure State (schema : TableSchema R K) (A ε α C : Type) where
  table : Table schema
  origin : K → Option A
  running : List (Running R K ε α C)

/-- What happens next; transactions go by their place among those that run.  A
statement may miss rows that were committed after it began. -/
inductive Label (R C : Type) where
  | begin (call : C)
  | execute (index : ℕ) (visible : R → Bool)
  | commit (index : ℕ)
  | abort (index : ℕ)

variable {schema : TableSchema R K} (attr : R → A)
  (program : C → Program R K ε α)

variable (schema) in
/-- No other transaction has written a row of these writes. -/
def unlocked (others : List (Running R K ε α C)) (writes : List (Write R K)) :
    Bool :=
  writes.all fun write =>
    others.all fun other => !other.pending.touches schema (write.key schema)

def State.execute (state : State schema A ε α C) (index : ℕ)
    (visible : R → Bool) (tx : Running R K ε α C) :
    Option (State schema A ε α C) :=
  match tx.program with
  | .step statement next =>
      match statement ((tx.pending.view schema state.table).filter visible) with
      | .error _ => none
      | .ok (writes, value) =>
          if unlocked schema (state.running.eraseIdx index) writes then
            (writeAll schema attr state.origin tx.pending writes).map
              fun (origin, pending) =>
                { state with
                  origin := origin
                  running := state.running.set index
                    ⟨tx.call, next value, pending⟩ }
          else none
  | _ => none

def State.commit (state : State schema A ε α C) (index : ℕ)
    (tx : Running R K ε α C) : Option (State schema A ε α C) :=
  match tx.program with
  | .done _ =>
      (tx.pending.commit? schema state.table).map fun table =>
        { state with table := table, running := state.running.eraseIdx index }
  | _ => none

/-- A transaction can be aborted at any time, and is when a statement fails. -/
def system : Transition.System (State schema A ε α C) (Label R C) where
  init state := (∀ row, row ∉ state.table) ∧ state.running = []
  step state
    | .begin call =>
        some { state with
          running := state.running ++ [⟨call, program call, Pending.empty⟩] }
    | .execute index visible =>
        state.running[index]?.bind (state.execute attr index visible)
    | .commit index => state.running[index]?.bind (state.commit index)
    | .abort index =>
        some { state with running := state.running.eraseIdx index }

end System

section Rules

variable (schema : TableSchema R K) (attr : R → A) (good : R → Prop)

/-- A row that keeps the columns its key was inserted with, and the
condition. -/
def Sound (origin : K → Option A) (row : R) : Prop :=
  origin (schema.key row) = some (attr row) ∧ good row

def Extends (origin later : K → Option A) : Prop :=
  ∀ key value, origin key = some value → later key = some value

/-- A new row meets the condition; an updated one also keeps its columns. -/
def Allowed (origin : K → Option A) : Write R K → Prop
  | .insert row => good row
  | .update row => Sound schema attr good origin row
  | .remove _ => True

/-- Whatever sound rows its statements find, a program's writes are allowed, and
once it is done its value and its writes meet `post`. -/
def Program.Ensures (post : α → Pending R K → Prop) :
    (K → Option A) → Program R K ε α → Pending R K → Prop
  | _, .done value, pending => post value pending
  | _, .fail _, _ => True
  | origin, .step statement next, pending =>
      ∀ later, Extends origin later →
      ∀ rows, (∀ row ∈ rows, Sound schema attr good later row) →
      ∀ writes value, statement rows = .ok (writes, value) →
        (∀ write ∈ writes, Allowed schema attr good later write) ∧
        ∀ last after, writeAll schema attr later pending writes =
            some (last, after) →
          Ensures post last (next value) after

variable {schema attr good}

omit [LinearOrder K] in
theorem Extends.refl (origin : K → Option A) : Extends origin origin :=
  fun _ _ hsome => hsome

omit [LinearOrder K] in
theorem Extends.trans {first second third : K → Option A}
    (hfirst : Extends first second) (hsecond : Extends second third) :
    Extends first third :=
  fun key value hsome => hsecond key value (hfirst key value hsome)

/-- Recording a key that was not there. -/
theorem Extends.update {origin : K → Option A} {key : K} {value : Option A}
    (hfresh : origin key = none) :
    Extends origin (Function.update origin key value) := by
  intro other found hsome
  have hne : other ≠ key := by
    rintro rfl
    rw [hfresh] at hsome
    cases hsome
  rw [Function.update_of_ne hne]
  exact hsome

omit [LinearOrder K] in
theorem Sound.mono {origin later : K → Option A} {row : R}
    (hsound : Sound schema attr good origin row)
    (hextends : Extends origin later) : Sound schema attr good later row :=
  ⟨hextends _ _ hsound.1, hsound.2⟩

omit [LinearOrder K] in
theorem Allowed.mono {origin later : K → Option A} {write : Write R K}
    (hallowed : Allowed schema attr good origin write)
    (hextends : Extends origin later) :
    Allowed schema attr good later write := by
  cases write with
  | insert row => exact hallowed
  | update row => exact Sound.mono hallowed hextends
  | remove key => trivial

theorem Program.Ensures.mono {post : α → Pending R K → Prop}
    {origin later : K → Option A} {program : Program R K ε α}
    {pending : Pending R K}
    (hensures : program.Ensures schema attr good post origin pending)
    (hextends : Extends origin later) :
    program.Ensures schema attr good post later pending := by
  cases program with
  | done value => exact hensures
  | fail err => trivial
  | step statement next =>
      exact fun last hlast => hensures last (hextends.trans hlast)

theorem mem_put {pending : Pending R K} {row other : R}
    (hmem : other ∈ (pending.put schema row).rows) :
    other = row ∨ other ∈ pending.rows := by
  rcases List.mem_cons.mp hmem with hnew | hold
  · exact Or.inl hnew
  · exact Or.inr (List.mem_of_mem_filter hold)

/-- Allowed writes leave sound rows. -/
theorem writeAll_sound {writes : List (Write R K)} {origin last : K → Option A}
    {pending after : Pending R K}
    (hwrite : writeAll schema attr origin pending writes = some (last, after))
    (hallowed : ∀ write ∈ writes, Allowed schema attr good origin write)
    (hsound : ∀ row ∈ pending.rows, Sound schema attr good origin row) :
    Extends origin last ∧
      ∀ row ∈ after.rows, Sound schema attr good last row := by
  induction writes generalizing origin pending with
  | nil =>
      cases hwrite
      exact ⟨Extends.refl _, hsound⟩
  | cons write rest ih =>
      have hfirst := hallowed write List.mem_cons_self
      have hrest : ∀ write ∈ rest, Allowed schema attr good origin write :=
        fun write hmem => hallowed write (List.mem_cons_of_mem _ hmem)
      cases write with
      | insert row =>
          simp only [writeAll] at hwrite
          split at hwrite
          next hfresh =>
            have hextends : Extends origin (Function.update origin
                (schema.key row) (some (attr row))) := Extends.update hfresh
            obtain ⟨hlast, hrows⟩ := ih hwrite
              (fun write hmem => (hrest write hmem).mono hextends)
              (fun other hmem => by
                rcases mem_put hmem with rfl | hold
                · exact ⟨Function.update_self _ _ _, hfirst⟩
                · exact (hsound other hold).mono hextends)
            exact ⟨hextends.trans hlast, hrows⟩
          · cases hwrite
      | update row =>
          apply ih hwrite hrest
          intro other hmem
          rcases mem_put hmem with rfl | hold
          · exact hfirst
          · exact hsound other hold
      | remove key =>
          apply ih hwrite hrest
          intro other hmem
          exact hsound other (List.mem_of_mem_filter hmem)

/-- Updates write their rows and record no key. -/
theorem writeAll_updates {rows : List R} {origin last : K → Option A}
    {pending after : Pending R K}
    (hwrite : writeAll schema attr origin pending (rows.map .update) =
      some (last, after)) :
    last = origin ∧ after.gone = pending.gone ∧
      ∀ row ∈ after.rows, row ∈ rows ∨ row ∈ pending.rows := by
  induction rows generalizing pending with
  | nil =>
      cases hwrite
      exact ⟨rfl, rfl, fun row hrow => Or.inr hrow⟩
  | cons first rest ih =>
      obtain ⟨hlast, hgone, hrows⟩ := ih hwrite
      refine ⟨hlast, hgone, fun row hrow => ?_⟩
      rcases hrows row hrow with hmem | hmem
      · exact Or.inl (List.mem_cons_of_mem _ hmem)
      · rcases mem_put hmem with rfl | hold
        · exact Or.inl List.mem_cons_self
        · exact Or.inr hold

/-- What a commit publishes. -/
theorem mem_foldlM_insert? {rows : List R} {table next : Table schema}
    (hfold : rows.foldlM Table.insert? table = some next) (row : R) :
    row ∈ next ↔ row ∈ rows ∨ row ∈ table := by
  induction rows generalizing table with
  | nil =>
      cases hfold
      simp
  | cons first rest ih =>
      rw [List.foldlM_cons, Option.bind_eq_bind,
        Option.bind_eq_some_iff] at hfold
      obtain ⟨middle, hinsert, hfold⟩ := hfold
      rw [ih hfold, (Table.insert?_eq_some hinsert).2]
      simp only [List.mem_cons]
      tauto

theorem mem_commit {pending : Pending R K} {table next : Table schema}
    (hcommit : pending.commit? schema table = some next) (row : R) :
    row ∈ next ↔ row ∈ pending.rows ∨
      row ∈ table ∧ pending.touches schema (schema.key row) = false := by
  rw [mem_foldlM_insert? hcommit, Table.mem_delete]

variable {program : C → Program R K ε α}

/-- The committed rows are sound, and so is what every transaction has written
and will write. -/
structure Invariant (schema : TableSchema R K) (attr : R → A) (good : R → Prop)
    (post : C → α → Pending R K → Prop) (state : State schema A ε α C) :
    Prop where
  table : ∀ row ∈ state.table, Sound schema attr good state.origin row
  pending : ∀ tx ∈ state.running, ∀ row ∈ tx.pending.rows,
    Sound schema attr good state.origin row
  ensures : ∀ tx ∈ state.running,
    tx.program.Ensures schema attr good (post tx.call) state.origin tx.pending

theorem Invariant.execute {post : C → α → Pending R K → Prop}
    {state next : State schema A ε α C} {index : ℕ} {visible : R → Bool}
    {tx : Running R K ε α C}
    (hinv : Invariant schema attr good post state)
    (htx : tx ∈ state.running)
    (hexecute : state.execute attr index visible tx = some next) :
    Invariant schema attr good post next := by
  have hensures := hinv.ensures tx htx
  rw [State.execute] at hexecute
  split at hexecute
  next β statement rest hprogram =>
    rw [hprogram] at hensures
    split at hexecute
    · cases hexecute
    next writes value hstatement =>
      split at hexecute
      next hunlocked =>
        obtain ⟨⟨last, after⟩, hwrite, rfl⟩ :=
          Option.map_eq_some_iff.mp hexecute
        -- the statement has found its own rows and committed ones
        have hfound : ∀ row ∈ (tx.pending.view schema state.table).filter
            visible, Sound schema attr good state.origin row := by
          intro row hrow
          rcases List.mem_append.mp (List.mem_of_mem_filter hrow) with hown |
            hthere
          · exact hinv.pending tx htx row hown
          · exact hinv.table row (List.mem_of_mem_filter hthere)
        obtain ⟨hallowed, hrest⟩ :=
          hensures state.origin (Extends.refl _) _ hfound
          writes value hstatement
        obtain ⟨hextends, hafter⟩ :=
          writeAll_sound hwrite hallowed (hinv.pending tx htx)
        refine ⟨?_, ?_, ?_⟩
        · intro row hrow
          exact (hinv.table row hrow).mono hextends
        · intro other hother row hrow
          rcases List.mem_or_eq_of_mem_set hother with hold | rfl
          · exact (hinv.pending other hold row hrow).mono hextends
          · exact hafter row hrow
        · intro other hother
          rcases List.mem_or_eq_of_mem_set hother with hold | rfl
          · exact (hinv.ensures other hold).mono hextends
          · exact hrest last after hwrite
      · cases hexecute
  · cases hexecute

theorem Invariant.erase {post : C → α → Pending R K → Prop}
    {state : State schema A ε α C} {index : ℕ}
    (hinv : Invariant schema attr good post state) :
    Invariant schema attr good post
      { state with running := state.running.eraseIdx index } where
  table := hinv.table
  pending := fun tx htx => hinv.pending tx (List.mem_of_mem_eraseIdx htx)
  ensures := fun tx htx => hinv.ensures tx (List.mem_of_mem_eraseIdx htx)

/-- A commit publishes the writes of a program that is done. -/
theorem commit_cases {state next : State schema A ε α C} {index : ℕ}
    {tx : Running R K ε α C} (hcommit : state.commit index tx = some next) :
    ∃ value table, tx.program = .done value ∧
      tx.pending.commit? schema state.table = some table ∧
      next = { state with
        table := table
        running := state.running.eraseIdx index } := by
  rw [State.commit] at hcommit
  split at hcommit
  next value hprogram =>
    obtain ⟨table, htable, rfl⟩ := Option.map_eq_some_iff.mp hcommit
    exact ⟨value, table, hprogram, htable, rfl⟩
  · cases hcommit

theorem Invariant.commit {post : C → α → Pending R K → Prop}
    {state next : State schema A ε α C} {index : ℕ} {tx : Running R K ε α C}
    (hinv : Invariant schema attr good post state)
    (htx : tx ∈ state.running)
    (hcommit : state.commit index tx = some next) :
    Invariant schema attr good post next := by
  obtain ⟨value, table, hprogram, htable, rfl⟩ := commit_cases hcommit
  refine { hinv.erase with table := ?_ }
  intro row hrow
  rcases (mem_commit htable row).mp hrow with hown | ⟨hthere, -⟩
  · exact hinv.pending tx htx row hown
  · exact hinv.table row hthere

/-- The invariant of every run whose programs ensure their postcondition. -/
theorem invariant_of_reachable {post : C → α → Pending R K → Prop}
    (hprogram : ∀ call origin,
      (program call).Ensures schema attr good (post call)
      origin Pending.empty)
    {state : State schema A ε α C}
    (hreach : (system attr program).Reachable state) :
    Invariant schema attr good post state := by
  apply hreach.invariant
  · rintro start ⟨hempty, hidle⟩
    refine ⟨fun row hrow => absurd hrow (hempty row), ?_, ?_⟩
    · simp [hidle]
    · simp [hidle]
  · intro current label next hinv hstep
    cases label with
    | begin call =>
        cases hstep
        refine ⟨hinv.table, ?_, ?_⟩
        · intro tx htx row hrow
          rcases List.mem_append.mp htx with hold | hnew
          · exact hinv.pending tx hold row hrow
          · rw [List.mem_singleton.mp hnew] at hrow
            cases hrow
        · intro tx htx
          rcases List.mem_append.mp htx with hold | hnew
          · exact hinv.ensures tx hold
          · rw [List.mem_singleton.mp hnew]
            exact hprogram call current.origin
    | execute index visible =>
        obtain ⟨tx, htx, hexecute⟩ := Option.bind_eq_some_iff.mp hstep
        exact hinv.execute (List.mem_of_getElem? htx) hexecute
    | commit index =>
        obtain ⟨tx, htx, hcommit⟩ := Option.bind_eq_some_iff.mp hstep
        exact hinv.commit (List.mem_of_getElem? htx) hcommit
    | abort index =>
        cases hstep
        exact hinv.erase

/-- Only a commit changes the committed rows. -/
theorem table_step {state next : State schema A ε α C} {label : Label R C}
    (hstep : (system attr program).step state label = some next)
    (hlabel : ∀ index, label ≠ .commit index) : next.table = state.table := by
  cases label with
  | begin call =>
      cases hstep
      rfl
  | execute index visible =>
      obtain ⟨tx, -, hexecute⟩ := Option.bind_eq_some_iff.mp hstep
      rw [State.execute] at hexecute
      split at hexecute
      · split at hexecute
        · cases hexecute
        · split at hexecute
          · obtain ⟨_, -, rfl⟩ := Option.map_eq_some_iff.mp hexecute
            rfl
          · cases hexecute
      · cases hexecute
  | commit index => exact absurd rfl (hlabel index)
  | abort index =>
      cases hstep
      rfl

end Rules

end ReadCommitted
