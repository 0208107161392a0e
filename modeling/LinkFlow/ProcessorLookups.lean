/-
The validators' lookups as they overlap.  The mutex is held for the check of the
cache and for the store, and not in between, while the reader asks the database;
thing models change and time passes at any moment.
-/
import LinkFlow.ProcessorHandlers
import LinkFlow.Lib.Transition

namespace LinkFlow

namespace Processor

universe u v

section Keys

/-- No text that PostgreSQL reads as a `uuid` has a bar in it. -/
theorem readBytes_bar {left acc number : Nat} {chars rest : List Char}
    (hread : Uuid.readBytes left acc chars = some (number, rest))
    (hbar : '|' ∈ chars) : '|' ∈ rest := by
  induction left generalizing acc chars with
  | zero =>
      cases hread
      exact hbar
  | succ left ih =>
      match chars with
      | [] | [_] => cases hread
      | high :: low :: tail =>
          simp only [Uuid.readBytes] at hread
          split at hread
          next hhex =>
            have htail : '|' ∈ tail := by
              have hhigh : high ≠ '|' := by
                rintro rfl
                simp [show Uuid.isHex '|' = false by decide] at hhex
              have hlow : low ≠ '|' := by
                rintro rfl
                simp [show Uuid.isHex '|' = false by decide] at hhex
              simpa [hhigh.symm, hlow.symm] using hbar
            apply ih hread
            split
            · split
              · simpa using htail
              · exact htail
            · exact htail
          next => cases hread

theorem ofText?_bar {text : String}
    (huuid : (Uuid.ofText? text).isSome = true) :
    '|' ∉ text.toList := by
  intro hbar
  rw [Uuid.ofText?] at huuid
  split at huuid
  next chars htext =>
    rw [htext] at hbar
    split at huuid
    next hread =>
      have hrest := readBytes_bar hread (by simpa using hbar)
      simp at hrest
    next => cases huuid
  next hbrace =>
    split at huuid
    next hread =>
      have hrest := readBytes_bar hread hbar
      cases hrest
    next => cases huuid

/-- The key of a pair of ids tells the pair, among all texts. -/
theorem cacheKey_inj {tenantID productID otherTenant otherProduct : String}
    (htenant : (Uuid.ofText? tenantID).isSome = true)
    (hproduct : (Uuid.ofText? productID).isSome = true)
    (hkey : cacheKey tenantID productID = cacheKey otherTenant otherProduct) :
    tenantID = otherTenant ∧ productID = otherProduct := by
  have hlist : tenantID.toList ++ '|' :: productID.toList =
      otherTenant.toList ++ '|' :: otherProduct.toList := by
    have hchars := congrArg String.toList hkey
    simpa [cacheKey] using hchars
  have hfirst := ofText?_bar htenant
  have hsecond := ofText?_bar hproduct
  obtain ⟨hfront, -, hback⟩ :=
    (List.append_cons_inj_of_notMem hfirst hsecond).mp hlist
  exact ⟨String.toList_injective hfront, String.toList_injective hback⟩

end Keys

section Runs

variable (M : Type u) (D : Type v)

/-- What a validator is asked to look up. -/
structure Request where
  kind : ThingsModel.Section
  tenantID : String
  productID : String
deriving Repr, DecidableEq

def Request.key (request : Request) : String :=
  cacheKey request.tenantID request.productID

/-- `cachedDefinition` -/
structure CacheEntry where
  definition : D
  expiresAt : Int
deriving Repr, DecidableEq

/-- Where a lookup stands.  `found` is what the query has seen. -/
inductive LookupPhase where
  | checking
  | reading
  | read (found : Option M)
  | storing (definition : D)
  | leaving (definition : D)
  | returned (definition : D)
  | failed
deriving Repr, DecidableEq

/-- The current models, the three caches and the lookups, with a record: the
times read at the checks, the definitions that readers returned and the times at
which they were stored, each with the number of its lookup; and the steps at
which the lookups started, queried (with what the query saw), stored and
returned. -/
structure Lookups where
  clock : Int
  models : Uuid → Uuid → Option M
  caches : ThingsModel.Section → String → Option (CacheEntry D)
  requests : ℕ → Option Request
  phases : ℕ → LookupPhase M D
  checks : List (ℕ × Int)
  reads : List (ℕ × D)
  stores : List (ℕ × Int)
  steps : ℕ
  startedAt : ℕ → Option ℕ
  queried : ℕ → Option (ℕ × Option M)
  storedAt : ℕ → Option ℕ
  returnedAt : ℕ → Option ℕ

def Lookups.start : Lookups M D where
  clock := 0
  models _ _ := none
  caches _ _ := none
  requests _ := none
  phases _ := .checking
  checks := []
  reads := []
  stores := []
  steps := 0
  startedAt _ := none
  queried _ := none
  storedAt _ := none
  returnedAt _ := none

inductive LookupLabel where
  | advance (time : Int)
  | install (tenant product : Uuid) (model : Option M)
  | begin (number : ℕ) (request : Request)
  | check (number : ℕ)
  | query (number : ℕ)
  | readerReturns (number : ℕ)
  | readerFails (number : ℕ)
  | store (number : ℕ)
  | leave (number : ℕ)

variable {M D}

/-- The model that the query of a request sees; a text that is no id is an error
of the query. -/
def Lookups.current (state : Lookups M D) (request : Request) : Option M :=
  match Uuid.ofText? request.tenantID, Uuid.ofText? request.productID with
  | some tenant, some product => state.models tenant product
  | _, _ => none

/-- The cached entry of a request. -/
def Lookups.entry (state : Lookups M D) (request : Request) :
    Option (CacheEntry D) :=
  state.caches request.kind request.key

def Lookups.move (state : Lookups M D) (number : ℕ) (phase : LookupPhase M D) :
    Lookups M D :=
  { state with phases := Function.update state.phases number phase }

/-- `v.cache[key] = cachedDefinition{…}` -/
def Lookups.put (state : Lookups M D) (request : Request)
    (entry : CacheEntry D) : Lookups M D :=
  { state with
    caches := Function.update state.caches request.kind
      (Function.update (state.caches request.kind) request.key (some entry)) }

/-- One step; `parse` is the reader's parsing of a stored model. -/
def Lookups.act (parse : Request → M → Option D) (ttl : Int)
    (state : Lookups M D) : LookupLabel M → Option (Lookups M D)
  | .advance time =>
      if state.clock ≤ time then some { state with clock := time } else none
  | .install tenant product model =>
      some { state with
        models := Function.update state.models tenant
          (Function.update (state.models tenant) product model) }
  | .begin number request =>
      match state.requests number with
      | some _ => none
      | none =>
          some { state with
            requests := Function.update state.requests number (some request)
            startedAt :=
              Function.update state.startedAt number (some state.steps) }
  | .check number =>
      match state.requests number, state.phases number with
      | some request, .checking =>
          let state := { state with
            checks := state.checks ++ [(number, state.clock)] }
          match (state.entry request).filter fun entry =>
              state.clock < entry.expiresAt with
          | some entry => some (state.move number (.leaving entry.definition))
          | none => some (state.move number .reading)
      | _, _ => none
  | .query number =>
      match state.requests number, state.phases number with
      | some request, .reading =>
          some { state.move number (.read (state.current request)) with
            queried := Function.update state.queried number
              (some (state.steps, state.current request)) }
      | _, _ => none
  | .readerReturns number =>
      match state.requests number, state.phases number with
      | some request, .read found =>
          match found.bind (parse request) with
          | some definition =>
              some { state.move number (.storing definition) with
                reads := state.reads ++ [(number, definition)] }
          | none => some (state.move number .failed)
      | _, _ => none
  | .readerFails number =>
      match state.phases number with
      | .reading | .read _ => some (state.move number .failed)
      | _ => none
  | .store number =>
      match state.requests number, state.phases number with
      | some request, .storing definition =>
          some { (state.put request ⟨definition, state.clock + ttl⟩).move number
              (.leaving definition) with
            stores := state.stores ++ [(number, state.clock)]
            storedAt :=
              Function.update state.storedAt number (some state.steps) }
      | _, _ => none
  | .leave number =>
      match state.phases number with
      | .leaving definition =>
          some { state.move number (.returned definition) with
            returnedAt :=
              Function.update state.returnedAt number (some state.steps) }
      | _ => none

def Lookups.step (parse : Request → M → Option D) (ttl : Int)
    (state : Lookups M D) (label : LookupLabel M) : Option (Lookups M D) :=
  (state.act parse ttl label).map fun next =>
    { next with steps := state.steps + 1 }

/-- All runs of the three validators' lookups. -/
def lookups (parse : Request → M → Option D) (ttl : Int) :
    Transition.System (Lookups M D) (LookupLabel M) where
  init state := ∃ clock models,
    state = { Lookups.start M D with clock := clock, models := models }
  step := Lookups.step parse ttl

variable {parse : Request → M → Option D} {ttl : Int}
  {state next : Lookups M D} {label : LookupLabel M}

/-- What each step does, one constructor for each branch. -/
inductive Acts (parse : Request → M → Option D) (ttl : Int)
    (state : Lookups M D) : LookupLabel M → Lookups M D → Prop
  | advance {time : Int} (hle : state.clock ≤ time) :
      Acts parse ttl state (.advance time) { state with clock := time }
  | install (tenant product : Uuid) (model : Option M) :
      Acts parse ttl state (.install tenant product model)
        { state with
          models := Function.update state.models tenant
            (Function.update (state.models tenant) product model) }
  | begin {number : ℕ} (request : Request)
      (hfresh : state.requests number = none) :
      Acts parse ttl state (.begin number request)
        { state with
          requests := Function.update state.requests number (some request)
          startedAt :=
            Function.update state.startedAt number (some state.steps) }
  | hit {number : ℕ} {request : Request} {entry : CacheEntry D}
      (hrequest : state.requests number = some request)
      (hphase : state.phases number = .checking)
      (hentry : state.entry request = some entry)
      (hfresh : state.clock < entry.expiresAt) :
      Acts parse ttl state (.check number)
        ({ state with checks := state.checks ++ [(number, state.clock)] }.move
          number (.leaving entry.definition))
  | miss {number : ℕ} {request : Request}
      (hrequest : state.requests number = some request)
      (hphase : state.phases number = .checking)
      (hstale : ∀ entry, state.entry request = some entry →
        entry.expiresAt ≤ state.clock) :
      Acts parse ttl state (.check number)
        ({ state with checks := state.checks ++ [(number, state.clock)] }.move
          number .reading)
  | query {number : ℕ} {request : Request}
      (hrequest : state.requests number = some request)
      (hphase : state.phases number = .reading) :
      Acts parse ttl state (.query number)
        { state.move number (.read (state.current request)) with
          queried := Function.update state.queried number
            (some (state.steps, state.current request)) }
  | readerReturns {number : ℕ} {request : Request} {model : M} {definition : D}
      (hrequest : state.requests number = some request)
      (hphase : state.phases number = .read (some model))
      (hparse : parse request model = some definition) :
      Acts parse ttl state (.readerReturns number)
        { state.move number (.storing definition) with
          reads := state.reads ++ [(number, definition)] }
  | notFound {number : ℕ} {request : Request} {found : Option M}
      (hrequest : state.requests number = some request)
      (hphase : state.phases number = .read found)
      (hnone : found.bind (parse request) = none) :
      Acts parse ttl state (.readerReturns number) (state.move number .failed)
  | readerFails {number : ℕ}
      (hphase : state.phases number = .reading ∨
        ∃ found, state.phases number = .read found) :
      Acts parse ttl state (.readerFails number) (state.move number .failed)
  | store {number : ℕ} {request : Request} {definition : D}
      (hrequest : state.requests number = some request)
      (hphase : state.phases number = .storing definition) :
      Acts parse ttl state (.store number)
        { (state.put request ⟨definition, state.clock + ttl⟩).move number
            (.leaving definition) with
          stores := state.stores ++ [(number, state.clock)]
          storedAt :=
            Function.update state.storedAt number (some state.steps) }
  | leave {number : ℕ} {definition : D}
      (hphase : state.phases number = .leaving definition) :
      Acts parse ttl state (.leave number)
        { state.move number (.returned definition) with
          returnedAt :=
            Function.update state.returnedAt number (some state.steps) }

theorem acts_of_act (hact : state.act parse ttl label = some next) :
    Acts parse ttl state label next := by
  cases label with
  | advance time =>
      simp only [Lookups.act] at hact
      split at hact <;> cases hact
      next hle => exact .advance hle
  | install tenant product model =>
      cases hact
      exact .install tenant product model
  | begin number request =>
      simp only [Lookups.act] at hact
      split at hact <;> cases hact
      next hfresh => exact .begin request hfresh
  | check number =>
      simp only [Lookups.act] at hact
      split at hact
      next request hrequest hphase =>
        split at hact <;> cases hact
        next entry hfound =>
          obtain ⟨hentry, hfresh⟩ := Option.filter_eq_some_iff.mp hfound
          exact .hit hrequest hphase hentry (by simpa using hfresh)
        next hnone =>
          refine .miss hrequest hphase fun entry hentry => ?_
          have hstale := Option.filter_eq_none_iff.mp hnone entry hentry
          simpa using hstale
      next => cases hact
  | query number =>
      simp only [Lookups.act] at hact
      split at hact <;> cases hact
      next request hrequest hphase => exact .query hrequest hphase
  | readerReturns number =>
      simp only [Lookups.act] at hact
      split at hact
      next request found hrequest hphase =>
        split at hact <;> cases hact
        next definition hsome =>
          obtain ⟨model, rfl, hparse⟩ := Option.bind_eq_some_iff.mp hsome
          exact .readerReturns hrequest hphase hparse
        next hnone => exact .notFound hrequest hphase hnone
      next => cases hact
  | readerFails number =>
      simp only [Lookups.act] at hact
      split at hact <;> cases hact
      next hphase => exact .readerFails (Or.inl hphase)
      next found hphase => exact .readerFails (Or.inr ⟨found, hphase⟩)
  | store number =>
      simp only [Lookups.act] at hact
      split at hact <;> cases hact
      next request definition hrequest hphase => exact .store hrequest hphase
  | leave number =>
      simp only [Lookups.act] at hact
      split at hact <;> cases hact
      next definition hphase => exact .leave hphase

end Runs

end Processor

end LinkFlow
