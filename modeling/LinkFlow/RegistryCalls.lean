/-
How the stores reach the database: transactions that run for one actor, the
errors they report, and pages of rows.
-/
import LinkFlow.Registry

namespace LinkFlow

namespace Registry

inductive SqlState where
  | uniqueViolation
  | foreignKeyViolation
  | checkViolation
  | rowSecurity
  | invalidText
  | numericRange
  | invalidOffset
deriving Repr, DecidableEq

/-- The aggregate a sentinel error is about. -/
inductive Aggregate where
  | tenant
  | product
  | thingsModel
  | device
deriving Repr, DecidableEq

/-- Sentinels such as `ErrInvalidTenantInput`, the errors of the database, other
errors by their text, and errors wrapped with `%w`. -/
inductive Failure where
  | invalidInput (aggregate : Aggregate)
  | alreadyExists (aggregate : Aggregate)
  | notFound (aggregate : Aggregate)
  | noRows
  | sql (state : SqlState)
  | text (message : String)
  | wrap (context : String) (err : Failure)
deriving Repr, DecidableEq

namespace Failure

/-- The error below the wrapping. -/
def root : Failure → Failure
  | .wrap _ err => err.root
  | err => err

/-- `errors.Is` -/
def is (err sentinel : Failure) : Bool := err.root = sentinel

def isUniqueViolation (err : Failure) : Bool := err.root = .sql .uniqueViolation

end Failure

/-- The commands of a transaction, and the two checks of its context. -/
inductive Stage where
  | service
  | store
  | begin
  | setActor
  | check
  | gateway
  | count
  | query
  | clear
  | write
  | credential
  | commit
deriving Repr, DecidableEq

/-- What one call of a store meets: whether the context is done, how each
command ends, the transaction's time, and the ids its two INSERTs are given. -/
structure Surroundings where
  ctxErr : Stage → Option String
  outcome : Stage → Except String Unit
  now : Int
  newID : Uuid
  newCredentialID : Uuid

/-- Statements on the database. -/
abbrev Statement (α : Type) := Transaction Database Failure α

/-- What a call reports, and the database it leaves. -/
abbrev Reply (α : Type) := Except Failure α × Database

def Session.actor (userID : Uuid) : Session := ⟨some userID, none, none⟩

def Session.internal (serviceName : String) : Session :=
  ⟨none, some serviceName, none⟩

variable {α : Type} (out : Surroundings)

/-- A command that the database may fail to answer. -/
def Surroundings.command (stage : Stage) : Statement Unit :=
  .lift ((out.outcome stage).mapError .text)

/-- A parameter of the type `uuid`. -/
def uuidParam (text : String) : Statement Uuid :=
  match Uuid.ofText? text with
  | some id => pure id
  | none => .fail (.sql .invalidText)

/-- `actorRLSStore.withActor` and `withInternalService`, which differ in the
setting they make and in the texts.  A COMMIT that reports an error is taken to
have rolled back. -/
def withSession (scope setting : String) (body : Statement α) (db : Database) :
    Reply α :=
  let outcome : Statement α := do
    Transaction.mapError (.wrap ("begin " ++ scope ++ " transaction"))
      (out.command .begin)
    Transaction.mapError (.wrap ("set " ++ scope ++ " " ++ setting))
      (out.command .setActor)
    let value ← body
    Transaction.mapError (.wrap ("commit " ++ scope ++ " transaction"))
      (out.command .commit)
    return value
  outcome.run db

/-- A method of a store: the context, the transaction of the actor, and the
error it makes of a failed one. -/
def storeCall (scope : String) (userID : Uuid) (translate : Failure → Failure)
    (body : Session → Statement α) (db : Database) : Reply α :=
  match out.ctxErr .store with
  | some err => (.error (.text err), db)
  | none =>
      let (result, next) :=
        withSession out scope "rls actor" (body (.actor userID)) db
      (result.mapError translate, next)

/-- What creating makes of an error. -/
def createError (aggregate : Aggregate) (context : String) (err : Failure) :
    Failure :=
  if err.isUniqueViolation then .alreadyExists aggregate
  else .wrap context err

/-- What finding and updating one row make of an error. -/
def findError (aggregate : Aggregate) (context : String) (err : Failure) :
    Failure :=
  if err.is .noRows then .notFound aggregate else .wrap context err

/-- What deleting one row makes of an error. -/
def deleteError (aggregate : Aggregate) (context : String) (err : Failure) :
    Failure :=
  if err.is (.notFound aggregate) then .notFound aggregate
  else .wrap context err

section Pages

structure PageInput where
  page : Int
  pageSize : Int
deriving Repr, DecidableEq

structure PageResult (α : Type) where
  items : List α
  total : Nat
  page : Int
  pageSize : Int

def normalizePageInput (input : PageInput) : PageInput where
  page := if input.page ≤ 0 then 1 else input.page
  pageSize :=
    let pageSize := if input.pageSize ≤ 0 then 20 else input.pageSize
    if 100 < pageSize then 100 else pageSize

def PageInput.limit (input : PageInput) : Nat :=
  (normalizePageInput input).pageSize.toNat

/-- The offset, in 64 bits. -/
def PageInput.offset (input : PageInput) : Int :=
  let input := normalizePageInput input
  ((input.page - 1) * input.pageSize).bmod (2 ^ 64)

def newPageResult (items : List α) (total : Nat) (input : PageInput) :
    PageResult α :=
  let input := normalizePageInput input
  ⟨items, total, input.page, input.pageSize⟩

/-- `ORDER BY … LIMIT … OFFSET …` -/
def pageOf (before : α → α → Bool) (input : PageInput) (rows : List α) :
    Except Failure (List α) :=
  if input.offset < 0 then .error (.sql .invalidOffset)
  else .ok (((rows.mergeSort before).drop input.offset.toNat).take input.limit)

/-- `ORDER BY time DESC, id DESC` -/
def newestFirst (time : α → Int) (id : α → Uuid) (first second : α) : Bool :=
  time second < time first ||
    (time first = time second && (id second).toNat ≤ (id first).toNat)

/-- A count and a page of the rows of one condition. -/
def listRows (before : α → α → Bool) (input : PageInput)
    (rows : Database → List α) : Statement (PageResult α) := do
  out.command .count
  let total ← Transaction.read fun db => (rows db).length
  out.command .query
  let items ← fun db => (pageOf before input (rows db)).map (·, db)
  return newPageResult items total input

end Pages

/-- The first row of a query, or `pgx.ErrNoRows`. -/
def queryRow (row : Database → Option α) : Statement α := fun db =>
  match row db with
  | none => .error .noRows
  | some found => .ok (found, db)

/-- An INSERT or UPDATE that the indexes may refuse. -/
def storeRows {β : Type} (next : Database → Option β)
    (put : Database → β → Database) : Statement Unit := fun db =>
  match next db with
  | none => .error (.sql .uniqueViolation)
  | some table => .ok ((), put db table)

/-- A DELETE of the rows that a condition finds. -/
def deleteRows (next : Database → Database) : Statement Unit := fun db =>
  .ok ((), next db)

/-- A condition a statement fails without. -/
def require (err : Failure) (condition : Database → Bool) : Statement Unit :=
  fun db => if condition db then .ok ((), db) else .error err

section Results

variable {out}

@[simp] theorem command_eq_ok {stage : Stage} {db : Database}
    {result : Unit × Database} :
    out.command stage db = .ok result ↔
      out.outcome stage = .ok () ∧ db = result.2 := by
  rw [Surroundings.command]
  rw [Transaction.lift_eq_ok]
  cases out.outcome stage <;> simp [Except.mapError]

@[simp] theorem uuidParam_eq_ok {text : String} {db : Database}
    {result : Uuid × Database} :
    uuidParam text db = .ok result ↔
      Uuid.ofText? text = some result.1 ∧ db = result.2 := by
  obtain ⟨id, next⟩ := result
  rw [uuidParam]
  cases Uuid.ofText? text with
  | none => simp
  | some found =>
      rw [Transaction.pure_eq_ok]
      simp [eq_comm]

@[simp] theorem queryRow_eq_ok {row : Database → Option α} {db : Database}
    {result : α × Database} :
    queryRow row db = .ok result ↔ row db = some result.1 ∧ db = result.2 := by
  obtain ⟨found, next⟩ := result
  rw [queryRow]
  cases row db with
  | none => simp
  | some found => simp

@[simp] theorem storeRows_eq_ok {β : Type} {next : Database → Option β}
    {put : Database → β → Database} {db : Database} {result : Unit × Database} :
    storeRows next put db = .ok result ↔
      ∃ table, next db = some table ∧ result.2 = put db table := by
  obtain ⟨_, finish⟩ := result
  rw [storeRows]
  cases next db with
  | none => simp
  | some table => simp [eq_comm]

@[simp] theorem deleteRows_eq_ok {next : Database → Database} {db : Database}
    {result : Unit × Database} :
    deleteRows next db = .ok result ↔ result.2 = next db := by
  obtain ⟨_, finish⟩ := result
  simp [deleteRows, eq_comm]

@[simp] theorem require_eq_ok {err : Failure} {condition : Database → Bool}
    {db : Database} {result : Unit × Database} :
    require err condition db = .ok result ↔
      condition db = true ∧ db = result.2 := by
  obtain ⟨_, finish⟩ := result
  rw [require]
  cases condition db with
  | false => simp
  | true => simp

/-- A function of what the body returns is a function of what the call
reports. -/
theorem withSession_map {β : Type} (scope setting : String) (body : Statement α)
    (f : α → β) (db : Database) :
    withSession out scope setting (body >>= fun value => pure (f value)) db =
      Prod.map (Except.map f) id (withSession out scope setting body db) := by
  simp only [withSession, Transaction.run, Transaction.mapError,
    Surroundings.command, Transaction.lift, bind, pure]
  cases out.outcome .begin with
  | error err => rfl
  | ok _ =>
      cases out.outcome .setActor with
      | error err => rfl
      | ok _ =>
          simp only [Except.mapError, Except.map]
          cases body db with
          | error err => rfl
          | ok pair => cases out.outcome .commit <;> rfl

theorem storeCall_map {β : Type} (out : Surroundings) (scope : String)
    (userID : Uuid) (translate : Failure → Failure)
    (body : Session → Statement α) (f : α → β) (db : Database) :
    storeCall out scope userID translate
        (fun session => body session >>= fun value => pure (f value)) db =
      Prod.map (Except.map f) id
        (storeCall out scope userID translate body db) := by
  unfold storeCall
  cases out.ctxErr .store with
  | some err => rfl
  | none =>
      simp only [withSession_map]
      cases withSession out scope "rls actor" (body (.actor userID)) db with
      | mk result next => cases result <;> rfl

/-- A transaction that fails reports an error and changes nothing; otherwise its
statements have run. -/
theorem withSession_cases (scope setting : String) (body : Statement α)
    (db : Database) :
    (∃ err, withSession out scope setting body db = (.error err, db)) ∨
      ∃ value next, body db = .ok (value, next) ∧
        withSession out scope setting body db = (.ok value, next) := by
  unfold withSession
  dsimp only
  rcases Transaction.run_cases _ db with ⟨err, hrun⟩ | ⟨value, next, hok, hrun⟩
  · exact Or.inl ⟨err, hrun⟩
  · refine Or.inr ⟨value, next, ?_, hrun⟩
    simp only [Transaction.bind_eq_ok, Transaction.mapError_eq_ok,
      command_eq_ok, Transaction.pure_eq_ok] at hok
    obtain ⟨_, _, ⟨-, rfl⟩, _, _, ⟨-, rfl⟩, found, middle, hbody, _, _,
      ⟨-, rfl⟩, heq⟩ := hok
    cases heq
    exact hbody

theorem storeCall_cases (out : Surroundings) (scope : String) (userID : Uuid)
    (translate : Failure → Failure) (body : Session → Statement α)
    (db : Database) :
    (∃ err, storeCall out scope userID translate body db = (.error err, db)) ∨
      ∃ value next, body (.actor userID) db = .ok (value, next) ∧
        storeCall out scope userID translate body db = (.ok value, next) := by
  rw [storeCall]
  split
  · exact Or.inl ⟨_, rfl⟩
  · rcases withSession_cases scope "rls actor" (body (.actor userID)) db with
      ⟨err, hcall⟩ | ⟨value, next, hbody, hcall⟩
    · exact Or.inl ⟨translate err, by rw [hcall]; rfl⟩
    · exact Or.inr ⟨value, next, hbody, by rw [hcall]; rfl⟩

theorem storeCall_eq_ok {scope : String} {userID : Uuid}
    {translate : Failure → Failure} {body : Session → Statement α}
    {db : Database} {value : α}
    (hok : (storeCall out scope userID translate body db).1 = .ok value) :
    ∃ next, body (.actor userID) db = .ok (value, next) := by
  rcases storeCall_cases out scope userID translate body db with
    ⟨err, hcall⟩ | ⟨found, next, hbody, hcall⟩
  · rw [hcall] at hok
    cases hok
  · rw [hcall] at hok
    cases hok
    exact ⟨next, hbody⟩

/-- A call in which everything answers does what its body does. -/
theorem storeCall_of_ok {scope : String} {userID : Uuid}
    {translate : Failure → Failure} {body : Session → Statement α}
    {db next : Database} {value : α} (hctx : out.ctxErr .store = none)
    (hanswers : ∀ stage, out.outcome stage = .ok ())
    (hok : body (.actor userID) db = .ok (value, next)) :
    storeCall out scope userID translate body db = (.ok value, next) := by
  have hsession : withSession out scope "rls actor" (body (.actor userID)) db =
      (.ok value, next) := by
    simp [withSession, Transaction.run, bind, pure, Transaction.mapError,
      Surroundings.command, Transaction.lift, hanswers, Except.mapError,
      Except.map, hok]
  rw [storeCall]
  rw [hctx, hsession]
  rfl

/-- Bodies that do the same on this database make the same call. -/
theorem storeCall_congr {scope : String} {userID : Uuid}
    {translate : Failure → Failure} {body body' : Session → Statement α}
    {db : Database}
    (hbody : body (.actor userID) db = body' (.actor userID) db) :
    storeCall out scope userID translate body db =
      storeCall out scope userID translate body' db := by
  have hsession : withSession out scope "rls actor" (body (.actor userID)) db =
      withSession out scope "rls actor" (body' (.actor userID)) db := by
    simp only [withSession, Transaction.run, bind, Transaction.mapError,
      Surroundings.command, Transaction.lift]
    cases out.outcome .begin with
    | error err => rfl
    | ok _ =>
        cases out.outcome .setActor with
        | error err => rfl
        | ok _ =>
            simp only [Except.mapError, Except.map]
            rw [hbody]
  unfold storeCall
  rw [hsession]

theorem mem_of_pageOf {before : α → α → Bool} {input : PageInput}
    {rows items : List α} (hpage : pageOf before input rows = .ok items)
    {row : α} (hrow : row ∈ items) : row ∈ rows := by
  rw [pageOf] at hpage
  split at hpage
  · cases hpage
  · cases hpage
    exact List.mem_mergeSort.mp
      (List.mem_of_mem_drop (List.mem_of_mem_take hrow))

/-- A page has rows of the condition only, and changes nothing. -/
theorem listRows_eq_ok {before : α → α → Bool} {input : PageInput}
    {rows : Database → List α} {db next : Database} {page : PageResult α}
    (hok : listRows out before input rows db = .ok (page, next)) :
    next = db ∧ ∀ row ∈ page.items, row ∈ rows db := by
  simp only [listRows, Transaction.bind_eq_ok, command_eq_ok,
    Transaction.read_eq_ok, Prod.mk.injEq] at hok
  obtain ⟨_, start, ⟨-, heq⟩, total, _, ⟨-, rfl⟩, _, _, ⟨-, rfl⟩, hok⟩ := hok
  cases heq
  obtain ⟨items, _, hitems, hok⟩ := Transaction.bind_eq_ok.mp hok
  cases Transaction.pure_eq_ok.mp hok
  cases hpage : pageOf before input (rows db) with
  | error err =>
      simp only [hpage] at hitems
      cases hitems
  | ok found =>
      simp only [hpage] at hitems
      cases hitems
      exact ⟨rfl, fun row hrow => mem_of_pageOf hpage hrow⟩

end Results

section Twins

variable {out} {pre : Database → Database → Prop}

open Transaction (Twins)

theorem twins_command (stage : Stage) :
    Twins pre (out.command stage) fun _ => pre :=
  (Twins.lift _).weaken (fun _ _ hpre => hpre) fun _ _ _ hpost => hpost.1

theorem twins_uuidParam (text : String) :
    Twins pre (uuidParam text) fun id first second =>
      pre first second ∧ Uuid.ofText? text = some id := by
  rw [uuidParam]
  cases Uuid.ofText? text with
  | none => exact Twins.fail _
  | some id => exact Twins.pure fun _ _ hpre => ⟨hpre, rfl⟩

theorem twins_queryRow {row : Database → Option α}
    (hsame : ∀ first second, pre first second → row first = row second) :
    Twins pre (queryRow row) fun found first second =>
      pre first second ∧ row first = some found ∧ row second = some found := by
  intro first second hpre
  have heq := hsame first second hpre
  unfold queryRow
  rw [← heq]
  cases hfirst : row first with
  | none => exact .error _
  | some found => exact .ok found ⟨hpre, hfirst, heq ▸ hfirst⟩

theorem twins_require {err : Failure} {condition : Database → Bool}
    (hsame : ∀ first second, pre first second →
      condition first = condition second) :
    Twins pre (require err condition) fun _ first second =>
      pre first second ∧ condition first = true ∧ condition second = true := by
  intro first second hpre
  have heq := hsame first second hpre
  unfold require
  rw [← heq]
  cases hfirst : condition first with
  | false => exact .error _
  | true => exact .ok () ⟨hpre, hfirst, heq ▸ hfirst⟩

theorem twins_storeRows {β : Type} {next : Database → Option β}
    {put : Database → β → Database} {post : Database → Database → Prop}
    (hsame : ∀ first second, pre first second →
      (next first).isSome = (next second).isSome)
    (hput : ∀ first second table table', pre first second →
      next first = some table → next second = some table' →
      post (put first table) (put second table')) :
    Twins pre (storeRows next put) fun _ => post := by
  intro first second hpre
  have hsome := hsame first second hpre
  unfold storeRows
  cases hfirst : next first with
  | none =>
      cases hsecond : next second with
      | none => exact .error _
      | some table' => rw [hfirst, hsecond] at hsome; cases hsome
  | some table =>
      cases hsecond : next second with
      | none => rw [hfirst, hsecond] at hsome; cases hsome
      | some table' =>
          exact .ok () (hput first second table table' hpre hfirst hsecond)

theorem twins_deleteRows {next : Database → Database}
    {post : Database → Database → Prop}
    (hnext : ∀ first second, pre first second →
      post (next first) (next second)) :
    Twins pre (deleteRows next) fun _ => post :=
  fun first second hpre => .ok () (hnext first second hpre)

theorem twins_listRows {before : α → α → Bool} {input : PageInput}
    {rows : Database → List α}
    (hsame : ∀ first second, pre first second → rows first = rows second) :
    Twins pre (listRows out before input rows) fun _ => pre := by
  apply (twins_command .count).bind
  intro _
  refine (Twins.read ?_).bind fun total => ?_
  · intro first second hpre
    rw [hsame first second hpre]
  apply (twins_command .query).bind
  intro _
  refine Twins.bind (?_ : Twins _ _ fun _ => pre) fun items =>
    Twins.pure fun _ _ hpre => hpre
  rintro first second ⟨hpre, -⟩
  beta_reduce
  rw [hsame first second hpre]
  cases pageOf before input (rows second) with
  | error err => exact .error err
  | ok items => exact .ok items hpre

/-- Calls whose bodies are twins report the same. -/
theorem storeCall_twins {scope : String} {userID : Uuid}
    {translate : Failure → Failure} {body : Session → Statement α}
    {post : α → Database → Database → Prop}
    (htwins : Twins pre (body (.actor userID)) post) {first second : Database}
    (hpre : pre first second) :
    (storeCall out scope userID translate body first).1 =
      (storeCall out scope userID translate body second).1 := by
  have hsession : (withSession out scope "rls actor" (body (.actor userID))
      first).1 =
      (withSession out scope "rls actor" (body (.actor userID)) second).1 := by
    unfold withSession
    refine Twins.run (?_ : Twins _ _ fun _ _ _ => True) hpre
    apply (twins_command .begin).mapError.bind
    intro _
    apply (twins_command .setActor).mapError.bind
    intro _
    apply htwins.bind
    intro value
    apply (twins_command .commit).mapError.bind
    intro _
    exact Twins.pure fun _ _ _ => trivial
  unfold storeCall
  cases out.ctxErr .store with
  | some err => rfl
  | none => exact congrArg (Except.mapError translate) hsession

end Twins

end Registry

end LinkFlow
