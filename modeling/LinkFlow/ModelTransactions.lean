/-
Thing models under concurrent calls: each call is a transaction of statements,
run in any interleaving with others.  At most one model of a product is current,
and a call that makes a model current leaves no other one.
-/
import LinkFlow.Lib.ReadCommitted
import LinkFlow.ReferentialIntegrity

namespace LinkFlow

namespace Registry

open ReadCommitted

section Calls

inductive ModelRequest where
  | create (input : ThingsModelService.CreateInput)
  | update (input : ThingsModelService.UpdateInput)
  | delete (input : RowInput)

/-- A call of the service, with the other tables as its statements find them. -/
structure ModelCall where
  out : Surroundings
  others : Stage → Database
  request : ModelRequest

/-- A transaction on the thing models; one that stores a model gives it. -/
abbrev ModelProgram := Program ThingsModel ℕ Failure (Option ThingsModel)

variable (out : Surroundings) (session : Session) (others : Stage → Database)

/-- `clearCurrentThingsModel`, on the rows it finds. -/
def clearRows (tenantID productID : Uuid) (exceptID : Option Uuid)
    (rows : List ThingsModel) :
    Except Failure (List (Write ThingsModel ℕ) × Unit) :=
  let targets := rows.filter fun model =>
    session.owns (others .clear) model.tenantID &&
      clearsModel tenantID productID exceptID model
  if targets.all (session.mayWriteModel (others .clear)) then
    .ok ((targets.map (ThingsModel.cleared out)).map .update, ())
  else .error (.wrap "clear current thingsmodel" (.sql .rowSecurity))

/-- Clear the current model before the next statement stores a current one. -/
def clearing (isCurrent : Bool) (tenantID productID : Uuid)
    (exceptID : Option Uuid) (next : ModelProgram) : ModelProgram :=
  if isCurrent then
    .step (clearRows out session others tenantID productID exceptID)
      fun _ => next
  else next

/-- The policy and the indexes, for a row that is to be stored. -/
def admitRow (rows : List ThingsModel) (model : ThingsModel) :
    Except Failure Unit :=
  if !session.mayWriteModel (others .write) model then
    .error (.sql .rowSecurity)
  else if rows.any fun other =>
      other.id ≠ model.id && modelSchema.conflict other model then
    .error (.sql .uniqueViolation)
  else .ok ()

/-- The INSERT of `CreateThingsModel`. -/
def insertRow (tenantID productID : Uuid) (input : ThingsModelCreateInput)
    (rows : List ThingsModel) :
    Except Failure (List (Write ThingsModel ℕ) × ThingsModel) :=
  match newThingsModel out tenantID productID input with
  | .error err => .error err
  | .ok model =>
      (admitRow session others rows model).map fun _ => ([.insert model], model)

/-- `CreateThingsModel` -/
def createProgram (input : ThingsModelCreateInput) : ModelProgram :=
  .step
    (fun _ =>
      (productBelongsToTenant out session input.productID input.tenantID
        (others .check)).map fun found => ([], found.1))
    fun ok =>
      if !ok then .fail (.invalidInput .thingsModel)
      else
        match Uuid.ofText? input.tenantID, Uuid.ofText? input.productID with
        | some tenantID, some productID =>
            clearing out session others input.isCurrent tenantID productID none
              (.step (insertRow out session others tenantID productID input)
                fun model => .done (some model))
        | _, _ => .fail (.sql .invalidText)

/-- The SELECT of the tenant and product of a model. -/
def selectScope (id : Uuid) (rows : List ThingsModel) :
    Except Failure (List (Write ThingsModel ℕ) × (Uuid × Uuid)) :=
  match rows.find? fun model =>
      session.seesModel (others .query) model && model.id = id with
  | none => .error .noRows
  | some scope => .ok ([], (scope.tenantID, scope.productID))

/-- The UPDATE of `UpdateThingsModel`. -/
def updateRow (id : Uuid) (input : ThingsModelUpdateInput)
    (rows : List ThingsModel) :
    Except Failure (List (Write ThingsModel ℕ) × ThingsModel) :=
  match rows.find? fun model =>
      session.owns (others .write) model.tenantID && model.id = id with
  | none => .error .noRows
  | some old =>
      match old.updated out input with
      | .error err => .error err
      | .ok model =>
          (admitRow session others rows model).map fun _ =>
            ([.update model], model)

/-- `UpdateThingsModel` -/
def updateProgram (input : ThingsModelUpdateInput) : ModelProgram :=
  match Uuid.ofText? input.thingsModelID with
  | none => .fail (.sql .invalidText)
  | some id =>
      .step (selectScope session others id) fun scope =>
        clearing out session others input.isCurrent scope.1 scope.2 (some id)
          (.step (updateRow out session others id input) fun model =>
            .done (some model))

/-- The DELETE of `DeleteThingsModel`. -/
def deleteRow (id : Uuid) (rows : List ThingsModel) :
    Except Failure (List (Write ThingsModel ℕ) × Unit) :=
  match rows.find? fun model =>
      session.owns (others .write) model.tenantID && model.id = id with
  | none => .error (.notFound .thingsModel)
  | some model => .ok ([.remove model.id.toNat], ())

/-- `DeleteThingsModel` -/
def deleteProgram (id : String) : ModelProgram :=
  match Uuid.ofText? id with
  | none => .fail (.sql .invalidText)
  | some id => .step (deleteRow session others id) fun _ => .done none

/-- The transaction of a call, unless the service refuses it.  A command that
the database does not answer, and a context that is done, abort it. -/
def ModelCall.program (call : ModelCall) : ModelProgram :=
  match call.request with
  | .create input =>
      if ThingsModelService.refusesCreate input.normalized then
        .fail (.invalidInput .thingsModel)
      else
        createProgram call.out (.actor input.userID) call.others
          input.normalized
  | .update input =>
      if ThingsModelService.refusesUpdate input.normalized then
        .fail (.invalidInput .thingsModel)
      else
        updateProgram call.out (.actor input.userID) call.others
          input.normalized
  | .delete input =>
      if trimSpace input.id = "" then .fail (.invalidInput .thingsModel)
      else deleteProgram (.actor input.userID) call.others (trimSpace input.id)

/-- The columns of a model that no statement changes. -/
def modelProduct (model : ThingsModel) : Uuid × Uuid :=
  (model.tenantID, model.productID)

/-- The calls of the service, interleaved. -/
def modelSystem :
    Transition.System
      (State modelSchema (Uuid × Uuid) Failure (Option ThingsModel) ModelCall)
      (Label ThingsModel ModelCall) :=
  ReadCommitted.system modelProduct ModelCall.program

end Calls

section Programs

/-- `published_at` is set exactly when the status is published. -/
def PublishedMatches (model : ThingsModel) : Prop :=
  model.publishedAt.isSome = true ↔ model.status = .published

def ModelCall.isCurrent (call : ModelCall) : Bool :=
  match call.request with
  | .create input => input.isCurrent
  | .update input => input.isCurrent
  | .delete _ => false

/-- The model a call stores. -/
def ModelCall.Names (call : ModelCall) (model : ThingsModel) : Prop :=
  match call.request with
  | .create input => model.id = call.out.newID ∧
      Uuid.ofText? (trimSpace input.tenantID) = some model.tenantID ∧
      Uuid.ofText? (trimSpace input.productID) = some model.productID
  | .update input =>
      Uuid.ofText? (trimSpace input.thingsModelID) = some model.id
  | .delete _ => False

/-- A call that makes a model current writes it, removes nothing, and writes
only models of its product. -/
def ModelCall.Publishes (call : ModelCall) (value : Option ThingsModel)
    (pending : Pending ThingsModel ℕ) : Prop :=
  call.isCurrent = true →
    ∃ model, value = some model ∧ call.Names model ∧ model.isCurrent = true ∧
      model ∈ pending.rows ∧ pending.gone = [] ∧
      ∀ row ∈ pending.rows, modelProduct row = modelProduct model

abbrev ModelEnsures (call : ModelCall) (origin : ℕ → Option (Uuid × Uuid))
    (program : ModelProgram) (pending : Pending ThingsModel ℕ) : Prop :=
  program.Ensures modelSchema modelProduct PublishedMatches
    call.Publishes origin pending

variable {out : Surroundings} {session : Session} {others : Stage → Database}
  {tenantID productID : Uuid} {rows : List ThingsModel}

theorem clearRows_eq_ok {exceptID : Option Uuid}
    {writes : List (Write ThingsModel ℕ)} {value : Unit}
    (hok : clearRows out session others tenantID productID exceptID rows =
      .ok (writes, value)) :
    ∃ targets : List ThingsModel,
      writes = (targets.map (.cleared out)).map .update ∧
      ∀ model ∈ targets, model ∈ rows ∧
        modelProduct model = (tenantID, productID) := by
  unfold clearRows at hok
  dsimp only at hok
  split at hok
  · cases hok
    refine ⟨_, rfl, fun model hmodel => ?_⟩
    obtain ⟨hmem, hclears⟩ := List.mem_filter.mp hmodel
    simp only [clearsModel, Bool.and_eq_true, decide_eq_true_eq] at hclears
    exact ⟨hmem, Prod.ext hclears.2.1.1.1 hclears.2.1.1.2⟩
  · cases hok

/-- Clearing writes models of one product only. -/
theorem clearing_ensures {call : ModelCall} {isCurrent : Bool}
    {exceptID : Option Uuid} {next : ModelProgram}
    {origin : ℕ → Option (Uuid × Uuid)}
    (hnext : ∀ later pending, Extends origin later →
      (∀ row ∈ pending.rows, modelProduct row = (tenantID, productID)) →
      pending.gone = [] → ModelEnsures call later next pending) :
    ModelEnsures call origin
      (clearing out session others isCurrent tenantID productID exceptID next)
      Pending.empty := by
  rw [clearing]
  split
  · intro later hlater rows hrows writes value hok
    obtain ⟨targets, rfl, htargets⟩ := clearRows_eq_ok hok
    constructor
    · intro write hwrite
      obtain ⟨row, hrow, rfl⟩ := List.mem_map.mp hwrite
      obtain ⟨model, hmodel, rfl⟩ := List.mem_map.mp hrow
      exact hrows model (htargets model hmodel).1
    · intro last after hwrite
      obtain ⟨rfl, hgone, hafter⟩ := writeAll_updates hwrite
      apply hnext _ after hlater
      · intro row hrow
        rcases hafter row hrow with hmem | hmem
        · obtain ⟨model, hmodel, rfl⟩ := List.mem_map.mp hmem
          exact (htargets model hmodel).2
        · cases hmem
      · exact hgone
  · exact hnext origin Pending.empty (Extends.refl _)
      (fun row hrow => by cases hrow) rfl

theorem insertRow_eq_ok {input : ThingsModelCreateInput}
    {writes : List (Write ThingsModel ℕ)} {model : ThingsModel}
    (hok : insertRow out session others tenantID productID input rows =
      .ok (writes, model)) :
    writes = [.insert model] ∧ newThingsModel out tenantID productID input =
      .ok model := by
  rw [insertRow] at hok
  split at hok
  · cases hok
  next found hnew =>
    cases hadmits : admitRow session others rows found with
    | error err =>
        rw [hadmits] at hok
        cases hok
    | ok _ =>
        rw [hadmits] at hok
        cases hok
        exact ⟨rfl, hnew⟩

theorem updateRow_eq_ok {id : Uuid} {input : ThingsModelUpdateInput}
    {writes : List (Write ThingsModel ℕ)} {model : ThingsModel}
    (hok : updateRow out session others id input rows = .ok (writes, model)) :
    writes = [.update model] ∧ ∃ old ∈ rows, old.id = id ∧
      old.updated out input = .ok model := by
  rw [updateRow] at hok
  split at hok
  · cases hok
  next old hfind =>
    split at hok
    · cases hok
    next found hupdated =>
      cases hadmits : admitRow session others rows found with
      | error err =>
          rw [hadmits] at hok
          cases hok
      | ok _ =>
          rw [hadmits] at hok
          cases hok
          have hfound := List.find?_some hfind
          simp only [Bool.and_eq_true, decide_eq_true_eq] at hfound
          exact ⟨rfl, old, List.mem_of_find?_eq_some hfind, hfound.2, hupdated⟩

theorem selectScope_eq_ok {id : Uuid} {writes : List (Write ThingsModel ℕ)}
    {scope : Uuid × Uuid}
    (hok : selectScope session others id rows = .ok (writes, scope)) :
    writes = [] ∧ ∃ model ∈ rows, model.id = id ∧
    modelProduct model = scope := by
  rw [selectScope] at hok
  split at hok
  · cases hok
  next model hfind =>
    cases hok
    have hfound := List.find?_some hfind
    simp only [Bool.and_eq_true, decide_eq_true_eq] at hfound
    exact ⟨rfl, model, List.mem_of_find?_eq_some hfind, hfound.2, rfl⟩

theorem insert_ensures {call : ModelCall} {input : ThingsModelCreateInput}
    {origin : ℕ → Option (Uuid × Uuid)} {pending : Pending ThingsModel ℕ}
    (hcurrent : call.isCurrent = input.isCurrent)
    (hnames : ∀ model : ThingsModel, model.id = out.newID →
      model.tenantID = tenantID → model.productID = productID →
      call.Names model)
    (hpending : ∀ row ∈ pending.rows, modelProduct row = (tenantID, productID))
    (hgone : pending.gone = []) :
    ModelEnsures call origin
      (.step (insertRow out session others tenantID productID input)
        fun model => .done (some model)) pending := by
  intro later hlater rows hrows writes model hok
  obtain ⟨rfl, hnew⟩ := insertRow_eq_ok hok
  obtain ⟨hid, htenant, hproduct, hflag, hpublished⟩ :=
    newThingsModel_eq_ok hnew
  constructor
  · intro write hwrite
    rw [List.mem_singleton.mp hwrite]
    exact ⟨hpublished, model.publishedAtMatchesStatus⟩
  · intro last after hwrite hcall
    simp only [writeAll] at hwrite
    split at hwrite
    · cases hwrite
      refine ⟨model, rfl, hnames model hid htenant hproduct,
        hflag.trans (hcurrent ▸ hcall), List.mem_cons_self, hgone, ?_⟩
      intro row hrow
      rcases mem_put hrow with rfl | hold
      · rfl
      · exact (hpending row hold).trans (Prod.ext htenant.symm hproduct.symm)
    · cases hwrite

theorem create_ensures {call : ModelCall}
    {input : ThingsModelService.CreateInput} {origin : ℕ → Option (Uuid × Uuid)}
    {program : ModelProgram} (hcall : call.request = .create input)
    (hprogram : createProgram call.out session others input.normalized =
      program) :
    ModelEnsures call origin program Pending.empty := by
  subst hprogram
  intro later hlater rows hrows writes ok hok
  cases hfound : productBelongsToTenant call.out session
      input.normalized.productID input.normalized.tenantID (others .check) with
  | error err =>
      rw [hfound] at hok
      cases hok
  | ok found =>
      rw [hfound] at hok
      cases hok
      refine ⟨fun _ hmem => absurd hmem List.not_mem_nil,
        fun last after hwrite => ?_⟩
      cases hwrite
      dsimp only
      split
      · trivial
      · split
        next tenantID productID htenant hproduct =>
          apply clearing_ensures
          intro later' pending hextends hpending hgone
          apply insert_ensures _ _ hpending hgone
          · simp only [ModelCall.isCurrent, hcall]
            rfl
          · intro model hid hin hof
            simp only [ModelCall.Names, hcall]
            exact ⟨hid, hin ▸ htenant, hof ▸ hproduct⟩
        · trivial

theorem update_ensures {call : ModelCall}
    {input : ThingsModelService.UpdateInput} {origin : ℕ → Option (Uuid × Uuid)}
    {program : ModelProgram} (hcall : call.request = .update input)
    (hprogram : updateProgram call.out session others input.normalized =
      program) :
    ModelEnsures call origin program Pending.empty := by
  rw [updateProgram] at hprogram
  split at hprogram <;> subst hprogram
  · trivial
  next id hparse =>
    intro later hlater rows hrows writes scope hok
    obtain ⟨rfl, found, hfound, hid, hscope⟩ := selectScope_eq_ok hok
    refine ⟨fun _ hmem => absurd hmem List.not_mem_nil,
        fun last after hwrite => ?_⟩
    cases hwrite
    -- the product that was read stays the product of the id
    have hknown : later id.toNat = some scope := by
      rw [← hid, ← hscope]
      exact (hrows found hfound).1
    apply clearing_ensures
    intro later' pending hextends hpending hgone final hfinal rows'
      hrows' writes' model hok'
    obtain ⟨rfl, old, hold, holdID, hupdated⟩ := updateRow_eq_ok hok'
    obtain ⟨⟨hsameID, hsameTenant, hsameProduct, -⟩, hflag, hpublished⟩ :=
      ThingsModel.updated_eq_ok hupdated
    have hsame : modelProduct model = modelProduct old :=
      Prod.ext hsameTenant hsameProduct
    have hproduct : modelProduct old = scope := by
      have hthere := (hrows' old hold).1
      change final old.id.toNat = some (modelProduct old) at hthere
      rw [holdID, hfinal _ _ (hextends _ _ hknown)] at hthere
      exact (Option.some.inj hthere).symm
    constructor
    · intro write hwrite
      rw [List.mem_singleton.mp hwrite]
      refine ⟨?_, hpublished, model.publishedAtMatchesStatus⟩
      change final model.id.toNat = some (modelProduct model)
      rw [hsameID, hsame]
      exact (hrows' old hold).1
    · intro last after hwrite hcurrent
      cases hwrite
      refine ⟨model, rfl, ?_, ?_, List.mem_cons_self, hgone, ?_⟩
      · simp only [ModelCall.Names, hcall]
        rw [hsameID, holdID]
        exact hparse
      · simp only [ModelCall.isCurrent, hcall] at hcurrent
        exact hflag.trans hcurrent
      · intro row hrow
        rcases mem_put hrow with rfl | hmem
        · rfl
        · rw [hpending row hmem, hsame, hproduct]

theorem delete_ensures {call : ModelCall}
    {input : RowInput} {origin : ℕ → Option (Uuid × Uuid)}
    {program : ModelProgram} {id : String}
    (hcall : call.request = .delete input)
    (hprogram : deleteProgram session others id = program) :
    ModelEnsures call origin program Pending.empty := by
  rw [deleteProgram] at hprogram
  split at hprogram <;> subst hprogram
  · trivial
  next id hparse =>
    intro later hlater rows hrows writes value hok
    refine ⟨?_, fun last after hwrite hcurrent => ?_⟩
    · intro write hwrite
      rw [deleteRow] at hok
      split at hok
      · cases hok
      · cases hok
        rw [List.mem_singleton.mp hwrite]
        trivial
    · simp [ModelCall.isCurrent, hcall] at hcurrent

theorem program_ensures (call : ModelCall) (origin : ℕ → Option (Uuid × Uuid)) :
    ModelEnsures call origin call.program Pending.empty := by
  -- The program stays behind a name, as it computes on the texts of the
  -- request.
  generalize hprogram : call.program = program
  rw [ModelCall.program] at hprogram
  split at hprogram <;> split at hprogram
  · rw [← hprogram]
    trivial
  next hcall _ => exact create_ensures hcall hprogram
  · rw [← hprogram]
    trivial
  next hcall _ => exact update_ensures hcall hprogram
  · rw [← hprogram]
    trivial
  next hcall _ => exact delete_ensures hcall hprogram

end Programs

section Discipline

/-- One current model of a product, which is published; `published_at` with the
status; one model of a version. -/
structure Discipline (models : Table modelSchema) : Prop where
  oneCurrent : ∀ first ∈ models, ∀ second ∈ models,
    modelProduct first = modelProduct second →
      first.isCurrent = true → second.isCurrent = true → first = second
  currentPublished : ∀ model ∈ models, model.isCurrent = true →
    model.status = .published
  publishedAt : ∀ model ∈ models, PublishedMatches model
  oneVersion : ∀ first ∈ models, ∀ second ∈ models,
    modelProduct first = modelProduct second →
      first.modelVersion = second.modelVersion → first = second

/-- The indexes and constraints of the table give all but the converse of the
constraint on `published_at`. -/
theorem discipline_of_published {models : Table modelSchema}
    (hpublished : ∀ model ∈ models, PublishedMatches model) :
    Discipline models where
  oneCurrent := by
    intro first hfirst second hsecond hproduct hcurrent hcurrent'
    apply Table.eq_of_conflict hfirst hsecond
    obtain ⟨htenant, hof⟩ := Prod.ext_iff.mp hproduct
    simp only [modelProduct] at htenant hof
    simp [modelSchema, htenant, hof, hcurrent, hcurrent']
  currentPublished := fun model _ => model.currentRequiresPublished
  publishedAt := hpublished
  oneVersion := by
    intro first hfirst second hsecond hproduct hversion
    apply Table.eq_of_conflict hfirst hsecond
    obtain ⟨htenant, hof⟩ := Prod.ext_iff.mp hproduct
    simp only [modelProduct] at htenant hof
    simp [modelSchema, htenant, hof, hversion]

/-- The model is the one current model of its product, and the models of other
products are as they were. -/
structure OnlyCurrent (before after : Table modelSchema) (model : ThingsModel) :
    Prop where
  mem : model ∈ after
  current : model.isCurrent = true
  only : ∀ other ∈ after, modelProduct other = modelProduct model →
    other.isCurrent = true → other = model
  others : ∀ other, modelProduct other ≠ modelProduct model →
    (other ∈ after ↔ other ∈ before)

/-- What a step of the system does to the committed models: a commit of a call
that makes a model current leaves that one, and no other step changes
anything. -/
def KeepsModels
    (state : State modelSchema (Uuid × Uuid) Failure
      (Option ThingsModel) ModelCall)
    (label : Label ThingsModel ModelCall) (after : Table modelSchema) : Prop :=
  match label with
  | .commit index => ∀ tx, state.running[index]? = some tx →
      tx.call.isCurrent = true → ∃ model, tx.program = .done (some model) ∧
        tx.call.Names model ∧ OnlyCurrent state.table after model
  | _ => after = state.table

/-- In every interleaving of calls, with any of them failing at any point, the
models keep the discipline; a successful call that makes a model current leaves
exactly that one current and touches no other product; and only a commit, so
never a call that fails, changes a model. -/
theorem current_model_discipline
    {state : State modelSchema (Uuid × Uuid) Failure
      (Option ThingsModel) ModelCall}
    (hreach : modelSystem.Reachable state) :
    Discipline state.table ∧
      ∀ label next, modelSystem.step state label = some next →
        Discipline next.table ∧ KeepsModels state label next.table := by
  have hdiscipline : ∀ {state}, modelSystem.Reachable state →
      Discipline state.table := fun hreach =>
    discipline_of_published fun model hmodel =>
      ((invariant_of_reachable program_ensures hreach).table model hmodel).2
  refine ⟨hdiscipline hreach, fun label next hstep =>
    ⟨hdiscipline (hreach.next hstep), ?_⟩⟩
  have hinv := invariant_of_reachable program_ensures hreach
  have hdone := hdiscipline (hreach.next hstep)
  cases label with
  | begin call => exact table_step hstep (fun _ => by simp)
  | execute index visible => exact table_step hstep (fun _ => by simp)
  | abort index => exact table_step hstep (fun _ => by simp)
  | commit index =>
      intro tx htx hcurrent
      obtain ⟨tx', htx', hcommit⟩ := Option.bind_eq_some_iff.mp hstep
      cases htx.symm.trans htx'
      obtain ⟨value, table, hprogram, htable, rfl⟩ := commit_cases hcommit
      have hmem := List.mem_of_getElem? htx
      have hensures := hinv.ensures tx hmem
      rw [hprogram] at hensures
      obtain ⟨model, rfl, hnames, hflag, hwritten, hgone, hrows⟩ :=
        hensures hcurrent
      have hafter := (mem_commit htable model).mpr (Or.inl hwritten)
      refine ⟨model, hprogram, hnames, hafter, hflag, ?_, ?_⟩
      · intro other hother hproduct hother'
        exact hdone.oneCurrent other hother model hafter hproduct hother' hflag
      · intro other hproduct
        rw [mem_commit htable other]
        constructor
        · rintro (hown | ⟨hthere, -⟩)
          · exact absurd (hrows other hown) hproduct
          · exact hthere
        · intro hthere
          refine Or.inr ⟨hthere, ?_⟩
          -- a written row with this key would be of the same product
          by_contra htouched
          simp only [Pending.touches, hgone, List.not_mem_nil, decide_false,
            Bool.false_or, Bool.not_eq_false, List.any_eq_true,
            decide_eq_true_eq] at htouched
          obtain ⟨row, hrow, hkey⟩ := htouched
          have hold := (hinv.table other hthere).1
          rw [← hkey, (hinv.pending tx hmem row hrow).1] at hold
          exact hproduct ((Option.some.inj hold).symm.trans (hrows row hrow))

end Discipline

section Sample

/-- Publish a version of the sample product's model as the current one. -/
def publishLamp (id : Nat) (version : Int) : ModelCall where
  out := calmCall id
  others _ := registryAfter [acmeTenant, lampProduct ""]
  request := .create
    { userID := 7
      tenantID := "00000000-0000-0000-0000-000000000001"
      productID := "00000000-0000-0000-0000-000000000002"
      modelVersion := version
      modelName := "Lamp"
      description := ""
      status := "published"
      isCurrent := true
      properties := GoMap.empty
      events := GoMap.empty
      services := GoMap.empty
      hasProperties := false
      hasEvents := false
      hasServices := false }

/-- Two calls side by side: the first commits between the second's check and its
clearing. -/
def twoPublished : List (Label ThingsModel ModelCall) :=
  [.begin (publishLamp 5 1), .begin (publishLamp 6 2),
    .execute 0 fun _ => true, .execute 1 fun _ => true,
    .execute 0 fun _ => true, .execute 0 fun _ => true, .commit 0,
    .execute 0 fun _ => true, .execute 0 fun _ => true, .commit 0]

def noModels :
    State modelSchema (Uuid × Uuid) Failure (Option ThingsModel) ModelCall :=
  ⟨Table.empty, fun _ => none, []⟩

/-- Both versions are stored, and the discipline holds. -/
theorem two_published :
    ∃ state, modelSystem.run noModels twoPublished = some state ∧
      state.table.rows.map (fun model =>
        (model.modelVersion, model.isCurrent)) =
        [(1, false), (2, true)] ∧
      Discipline state.table := by
  have hrows : (modelSystem.run noModels twoPublished).map (fun state =>
      state.table.rows.map fun model => (model.modelVersion, model.isCurrent)) =
        some [(1, false), (2, true)] := by decide +kernel
  obtain ⟨state, hrun, hmodels⟩ := Option.map_eq_some_iff.mp hrows
  have hreach : modelSystem.Reachable state :=
    Transition.System.Reachable.of_run
      (.start ⟨Table.not_mem_empty, rfl⟩) hrun
  exact ⟨state, hrun, hmodels, (current_model_discipline hreach).1⟩

end Sample

end Registry

end LinkFlow
