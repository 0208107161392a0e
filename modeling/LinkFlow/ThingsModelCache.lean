/-
What the validators' caches hold.  Every entry is the result of a reader call
for the pair of its key, stored when that call came back; a lookup is served its
own reader's result or such an entry while it is fresh.
-/
import LinkFlow.ProcessorLookups
import LinkFlow.ProcessorCalls

namespace LinkFlow

namespace Processor

universe u v

variable {M : Type u} {D : Type v} {parse : Request → M → Option D} {ttl : Int}
  {state next : Lookups M D} {label : LookupLabel M} {number : ℕ}

section Inversions

/-- The definition that a lookup yields. -/
def Lookups.Yields (state : Lookups M D) (number : ℕ) (definition : D) : Prop :=
  state.phases number = .leaving definition ∨
    state.phases number = .returned definition

/-- Both texts of a request are ids. -/
def Request.Named (request : Request) : Prop :=
  (Uuid.ofText? request.tenantID).isSome = true ∧
    (Uuid.ofText? request.productID).isSome = true

theorem Request.eq_of_key {first second : Request} (hnamed : first.Named)
    (hkind : first.kind = second.kind) (hkey : first.key = second.key) :
    first = second := by
  obtain ⟨htenant, hproduct⟩ := cacheKey_inj hnamed.1 hnamed.2 hkey
  cases first
  cases second
  cases hkind
  cases htenant
  cases hproduct
  rfl

theorem Lookups.current_named {request : Request} {model : M}
    (hcurrent : state.current request = some model) : request.Named := by
  rw [Lookups.current] at hcurrent
  split at hcurrent
  next tenant product htenant hproduct =>
    exact ⟨by rw [htenant]; rfl, by rw [hproduct]; rfl⟩
  next => cases hcurrent

/-- The record only grows. -/
structure Grows (state next : Lookups M D) : Prop where
  requests : ∀ number request, state.requests number = some request →
    next.requests number = some request
  checks : ∀ entry ∈ state.checks, entry ∈ next.checks
  reads : ∀ entry ∈ state.reads, entry ∈ next.reads
  stores : ∀ entry ∈ state.stores, entry ∈ next.stores
  clock : state.clock ≤ next.clock

theorem Acts.grows (hacts : Acts parse ttl state label next) :
    Grows state next := by
  cases hacts with
  | advance hle => exact ⟨by simp, by simp, by simp, by simp, hle⟩
  | @begin number request hfresh =>
      refine ⟨fun other found hfound => ?_, by simp, by simp, by simp, le_rfl⟩
      have hne : other ≠ number := by
        rintro rfl
        rw [hfresh] at hfound
        cases hfound
      simpa only [Function.update_of_ne hne] using hfound
  | _ =>
      refine ⟨fun _ _ hfound => hfound, ?_, ?_, ?_, le_rfl⟩ <;>
        intro entry hmem <;>
        simp [Lookups.move, Lookups.put, hmem]

/-- A cache changes by the store of a lookup only, at its own key. -/
theorem Acts.caches (hacts : Acts parse ttl state label next)
    (kind : ThingsModel.Section) (key : String) :
    next.caches kind key = state.caches kind key ∧
        (∀ number request, label = .store number →
          state.requests number = some request → request.kind = kind →
          request.key ≠ key) ∨
      ∃ number request definition, label = .store number ∧
        state.requests number = some request ∧
        state.phases number = .storing definition ∧
        request.kind = kind ∧ request.key = key ∧
        next.caches kind key = some ⟨definition, state.clock + ttl⟩ ∧
        (number, state.clock) ∈ next.stores ∧
        next.storedAt number = some state.steps := by
  cases hacts with
  | @store number request definition hrequest hphase =>
      by_cases hkind : kind = request.kind
      · by_cases hkey : key = request.key
        · refine Or.inr ⟨number, request, definition, rfl, hrequest, hphase,
            hkind.symm, hkey.symm, ?_, by simp, Function.update_self ..⟩
          simp [Lookups.move, Lookups.put, hkind, hkey]
        · refine Or.inl ⟨?_, fun other found hlabel hfound _ hsame => ?_⟩
          · simp [Lookups.move, Lookups.put, hkind, Function.update_of_ne hkey]
          · cases hlabel
            cases hrequest.symm.trans hfound
            exact hkey hsame.symm
      · refine Or.inl ⟨?_, fun other found hlabel hfound hsame => ?_⟩
        · simp [Lookups.move, Lookups.put, Function.update_of_ne hkind]
        · cases hlabel
          cases hrequest.symm.trans hfound
          exact absurd hsame.symm hkind
  | _ => exact Or.inl ⟨rfl, by rintro _ _ ⟨⟩⟩

theorem Acts.reads (hacts : Acts parse ttl state label next) {definition : D}
    (hmem : (number, definition) ∈ next.reads) :
    (number, definition) ∈ state.reads ∨
      ∃ model, state.phases number = .read (some model) := by
  cases hacts with
  | readerReturns hrequest hphase hparse =>
      rcases List.mem_append.mp hmem with hold | hnew
      · exact Or.inl hold
      · cases List.mem_singleton.mp hnew
        exact Or.inr ⟨_, hphase⟩
  | _ => exact Or.inl hmem

theorem Acts.stores (hacts : Acts parse ttl state label next) {time : Int}
    (hmem : (number, time) ∈ next.stores) :
    (number, time) ∈ state.stores ∨ time = state.clock ∧
      ∃ definition, state.phases number = .storing definition := by
  cases hacts with
  | store hrequest hphase =>
      rcases List.mem_append.mp hmem with hold | hnew
      · exact Or.inl hold
      · cases List.mem_singleton.mp hnew
        exact Or.inr ⟨rfl, _, hphase⟩
  | _ => exact Or.inl hmem

theorem Lookups.phases_move {phase : LookupPhase M D} {moved other : ℕ} :
    (state.move moved phase).phases other =
      if other = moved then phase else state.phases other := by
  by_cases hsame : other = moved <;> simp [Lookups.move, hsame]

/-- How a lookup comes to its phases. -/
theorem Acts.phases (hacts : Acts parse ttl state label next) (number : ℕ) :
    next.phases number = state.phases number ∨
      match next.phases number with
      | .checking => False
      | .reading => True
      | .read found => ∃ request, state.requests number = some request ∧
          found = state.current request ∧
          next.queried number = some (state.steps, found)
      | .storing definition => (number, definition) ∈ next.reads ∧
          ∃ request found, state.phases number = .read found ∧
            found.bind (parse request) = some definition
      | .leaving definition =>
          state.phases number = .storing definition ∧
              next.storedAt number = some state.steps ∨
            state.phases number = .checking ∧
            ∃ request entry, state.requests number = some request ∧
              state.entry request = some entry ∧
              state.clock < entry.expiresAt ∧ definition = entry.definition ∧
              (number, state.clock) ∈ next.checks
      | .returned definition => state.phases number = .leaving definition
      | .failed => True := by
  cases hacts with
  | advance | install | begin => exact Or.inl rfl
  | @hit moved request entry hrequest hphase hentry hfresh =>
      rw [Lookups.phases_move]
      split
      next hsame =>
        subst hsame
        exact Or.inr (Or.inr ⟨hphase, request, entry, hrequest, hentry, hfresh,
          rfl, by simp [Lookups.move]⟩)
      next => exact Or.inl rfl
  | miss | notFound | readerFails =>
      rw [Lookups.phases_move]
      split
      · exact Or.inr trivial
      · exact Or.inl rfl
  | @query moved request hrequest hphase =>
      simp only [Lookups.phases_move]
      split
      next hsame =>
        subst hsame
        exact Or.inr ⟨request, hrequest, rfl, Function.update_self ..⟩
      next => exact Or.inl rfl
  | @readerReturns moved request model definition hrequest hphase hparse =>
      simp only [Lookups.phases_move]
      split
      next hsame =>
        subst hsame
        exact Or.inr ⟨by simp, request, some model, hphase, hparse⟩
      next => exact Or.inl rfl
  | @store moved request definition hrequest hphase =>
      simp only [Lookups.phases_move]
      split
      next hsame =>
        subst hsame
        exact Or.inr (Or.inl ⟨hphase, Function.update_self ..⟩)
      next => exact Or.inl rfl
  | @leave moved definition hphase =>
      simp only [Lookups.phases_move]
      split
      next hsame =>
        subst hsame
        exact Or.inr hphase
      next => exact Or.inl rfl

/-- A lookup that yields a definition keeps it. -/
theorem Acts.returned (hacts : Acts parse ttl state label next) {definition : D}
    (hreturned : state.phases number = .returned definition) :
    next.phases number = .returned definition := by
  cases hacts with
  | advance | install | begin => exact hreturned
  | _ =>
      simp only [Lookups.phases_move]
      split
      next hsame =>
        subst hsame
        simp_all
      next => exact hreturned

theorem Acts.yields (hacts : Acts parse ttl state label next) {definition : D}
    (hyields : state.Yields number definition) :
    next.Yields number definition := by
  rcases hyields with hleaving | hreturned
  · cases hacts with
    | advance | install | begin => exact Or.inl hleaving
    | @leave moved found hphase =>
        rw [Lookups.Yields]
        simp only [Lookups.phases_move]
        split
        next hsame =>
          subst hsame
          rw [hleaving] at hphase
          cases hphase
          exact Or.inr rfl
        next => exact Or.inl hleaving
    | _ =>
        apply Or.inl
        simp only [Lookups.phases_move]
        split
        next hsame =>
          subst hsame
          simp_all
        next => exact hleaving
  · exact Or.inr (hacts.returned hreturned)

end Inversions

section Soundness

/-- A definition that a lookup may yield: a reader call for its own request has
returned it, its own one or one whose result was stored less than `ttl` before
the time that the lookup read at its check. -/
def Justified (ttl : Int) (state : Lookups M D) (number : ℕ) (definition : D) :
    Prop :=
  ∃ reader request, state.requests number = some request ∧
    state.requests reader = some request ∧ (reader, definition) ∈ state.reads ∧
    (reader = number ∨ ∃ time checked, (reader, time) ∈ state.stores ∧
      (number, checked) ∈ state.checks ∧ time ≤ checked ∧ checked < time + ttl)

theorem Justified.mono {definition : D}
    (hjustified : Justified ttl state number definition)
    (hgrows : Grows state next) : Justified ttl next number definition := by
  obtain ⟨reader, request, hown, hrequest, hread, hsource⟩ := hjustified
  refine ⟨reader, request, hgrows.requests _ _ hown,
    hgrows.requests _ _ hrequest, hgrows.reads _ hread, ?_⟩
  rcases hsource with hsame | ⟨time, checked, hstore, hcheck, hle, hlt⟩
  · exact Or.inl hsame
  · exact Or.inr ⟨time, checked, hgrows.stores _ hstore, hgrows.checks _ hcheck,
      hle, hlt⟩

/-- Where an entry of a cache comes from. -/
def CameFrom (ttl : Int) (state : Lookups M D) (kind : ThingsModel.Section)
    (key : String) (entry : CacheEntry D) : Prop :=
  ∃ reader request time, state.requests reader = some request ∧
    request.kind = kind ∧ request.key = key ∧
    (reader, entry.definition) ∈ state.reads ∧ (reader, time) ∈ state.stores ∧
    entry.expiresAt = time + ttl

theorem CameFrom.mono {kind : ThingsModel.Section} {key : String}
    {entry : CacheEntry D} (hstored : CameFrom ttl state kind key entry)
    (hgrows : Grows state next) : CameFrom ttl next kind key entry := by
  obtain ⟨reader, request, time, hrequest, hkind, hkey, hread,
    hstore, hexpires⟩ :=
    hstored
  exact ⟨reader, request, time, hgrows.requests _ _ hrequest, hkind, hkey,
    hgrows.reads _ hread, hgrows.stores _ hstore, hexpires⟩

/-- A reader's result is for a request that names ids. -/
def Lookups.Asked (state : Lookups M D) (number : ℕ) : Prop :=
  ∃ request, state.requests number = some request ∧ request.Named

theorem Lookups.Asked.mono (hasked : state.Asked number)
    (hgrows : Grows state next) : next.Asked number := by
  obtain ⟨request, hrequest, hnamed⟩ := hasked
  exact ⟨request, hgrows.requests _ _ hrequest, hnamed⟩

structure Traceable (ttl : Int) (state : Lookups M D) : Prop where
  entries : ∀ kind key entry, state.caches kind key = some entry →
    CameFrom ttl state kind key entry
  found : ∀ number model, state.phases number = .read (some model) →
    state.Asked number
  reads : ∀ number definition, (number, definition) ∈ state.reads →
    state.Asked number
  storing : ∀ number definition, state.phases number = .storing definition →
    (number, definition) ∈ state.reads
  yields : ∀ number definition, state.Yields number definition →
    Justified ttl state number definition
  stores : ∀ number time, (number, time) ∈ state.stores →
    time ≤ state.clock ∧ state.Asked number

/-- An entry found for a request was stored for the very request. -/
theorem Traceable.hit (htraceable : Traceable ttl state) {request : Request}
    {entry : CacheEntry D} (hentry : state.entry request = some entry) :
    ∃ reader time, state.requests reader = some request ∧
      (reader, entry.definition) ∈ state.reads ∧ (reader, time) ∈ state.stores ∧
      time ≤ state.clock ∧ entry.expiresAt = time + ttl := by
  obtain ⟨reader, stored, time, hrequest, hkind, hkey, hread,
    hstore, hexpires⟩ :=
    htraceable.entries _ _ _ hentry
  obtain ⟨asked, hasked, hnamed⟩ := htraceable.reads _ _ hread
  rw [hrequest] at hasked
  cases hasked
  cases Request.eq_of_key hnamed hkind hkey
  exact ⟨reader, time, hrequest, hread, hstore,
    (htraceable.stores _ _ hstore).1, hexpires⟩

theorem Traceable.acts (htraceable : Traceable ttl state)
    (hacts : Acts parse ttl state label next) : Traceable ttl next := by
  have hgrows := hacts.grows
  refine
    { entries := fun kind key entry hentry => ?_
      found := fun number model hphase => ?_
      reads := fun number definition hmem => ?_
      storing := fun number definition hphase => ?_
      yields := fun number definition hyields => ?_
      stores := fun number time hmem => ?_ }
  · rcases hacts.caches kind key with ⟨hsame, -⟩ |
      ⟨reader, request, definition, -, hrequest, hphase, hkind, hkey,
        hnew, hstore, -⟩
    · rw [hsame] at hentry
      exact (htraceable.entries kind key entry hentry).mono hgrows
    · rw [hnew] at hentry
      cases hentry
      exact ⟨reader, request, state.clock, hgrows.requests _ _ hrequest, hkind,
        hkey, hgrows.reads _ (htraceable.storing _ _ hphase), hstore, rfl⟩
  · rcases hacts.phases number with hsame | hnew
    · rw [hsame] at hphase
      exact (htraceable.found number model hphase).mono hgrows
    · rw [hphase] at hnew
      obtain ⟨request, hrequest, hcurrent, -⟩ := hnew
      exact ⟨request, hgrows.requests _ _ hrequest,
        Lookups.current_named hcurrent.symm⟩
  · rcases hacts.reads hmem with hold | ⟨model, hphase⟩
    · exact (htraceable.reads number definition hold).mono hgrows
    · exact (htraceable.found number model hphase).mono hgrows
  · rcases hacts.phases number with hsame | hnew
    · rw [hsame] at hphase
      exact hgrows.reads _ (htraceable.storing number definition hphase)
    · rw [hphase] at hnew
      exact hnew.1
  · rcases hacts.phases number with hsame | hnew
    · rw [Lookups.Yields] at hyields
      rw [hsame] at hyields
      exact (htraceable.yields number definition hyields).mono hgrows
    · rcases hyields with hphase | hphase
      · rw [hphase] at hnew
        rcases hnew with ⟨hstoring, -⟩ |
          ⟨-, request, entry, hrequest, hentry, hfresh, rfl,
          hcheck⟩
        · have hread := htraceable.storing number definition hstoring
          obtain ⟨request, hrequest, -⟩ := htraceable.reads _ _ hread
          exact ⟨number, request, hgrows.requests _ _ hrequest,
            hgrows.requests _ _ hrequest, hgrows.reads _ hread, Or.inl rfl⟩
        · obtain ⟨reader, time, hreader, hread, hstore, hle, hexpires⟩ :=
            htraceable.hit hentry
          refine ⟨reader, request, hgrows.requests _ _ hrequest,
            hgrows.requests _ _ hreader, hgrows.reads _ hread, Or.inr ?_⟩
          exact ⟨time, state.clock, hgrows.stores _ hstore, hcheck, hle,
            hexpires ▸ hfresh⟩
      · rw [hphase] at hnew
        exact (htraceable.yields number definition (Or.inl hnew)).mono hgrows
  · rcases hacts.stores hmem with hold | ⟨rfl, definition, hphase⟩
    · obtain ⟨hle, hasked⟩ := htraceable.stores number time hold
      exact ⟨hle.trans hgrows.clock, hasked.mono hgrows⟩
    · have hread := htraceable.storing number definition hphase
      exact ⟨hgrows.clock, (htraceable.reads _ _ hread).mono hgrows⟩

theorem Traceable.start {clock : Int} {models : Uuid → Uuid → Option M} :
    Traceable ttl
      { Lookups.start M D with clock := clock, models := models } := by
  refine
    { entries := fun kind key entry hentry => by cases hentry
      found := fun number model hphase => by cases hphase
      reads := fun number definition hmem => by cases hmem
      storing := fun number definition hphase => by cases hphase
      yields := fun number definition hyields => ?_
      stores := fun number time hmem => by cases hmem }
  rcases hyields with hphase | hphase <;> cases hphase

/-- A step is an act, and is counted. -/
theorem acts_of_step
    (hstep : (lookups parse ttl).step state label = some next) :
    ∃ acted, Acts parse ttl state label acted ∧
      next = { acted with steps := state.steps + 1 } := by
  obtain ⟨acted, hact, hnext⟩ := Option.map_eq_some_iff.mp hstep
  exact ⟨acted, acts_of_act hact, hnext.symm⟩

theorem Traceable.counted {steps : ℕ} (htraceable : Traceable ttl state) :
    Traceable ttl { state with steps := steps } :=
  ⟨htraceable.entries, htraceable.found, htraceable.reads, htraceable.storing,
    htraceable.yields, htraceable.stores⟩

theorem traceable_of_reachable (hreach : (lookups parse ttl).Reachable state) :
    Traceable ttl state := by
  refine hreach.invariant (P := Traceable ttl) ?_ ?_
  · rintro _ ⟨clock, models, rfl⟩
    exact Traceable.start
  · intro state label next htraceable hstep
    obtain ⟨acted, hacts, rfl⟩ := acts_of_step hstep
    exact (htraceable.acts hacts).counted

/-- In every run of overlapping lookups, readers and model changes: what a
lookup yields was returned by a reader call for its own request, its own call or
one stored less than `ttl` before its check; a cached entry only ever changes to
a result that a reader call for a request of its key has returned; and the entry
that a lookup finds was stored for its very request. -/
theorem lookups_sound (hreach : (lookups parse ttl).Reachable state) :
    (∀ number definition, state.Yields number definition →
        Justified ttl state number definition) ∧
      (∀ label next, (lookups parse ttl).step state label = some next →
        ∀ kind key, next.caches kind key ≠ state.caches kind key →
          ∃ reader request definition, label = .store reader ∧
            state.requests reader = some request ∧ request.kind = kind ∧
            request.key = key ∧ (reader, definition) ∈ state.reads ∧
            next.caches kind key = some ⟨definition, state.clock + ttl⟩) ∧
      ∀ number request entry, state.requests number = some request →
        state.entry request = some entry →
          ∃ reader time, state.requests reader = some request ∧
            (reader, entry.definition) ∈ state.reads ∧
            (reader, time) ∈ state.stores ∧ entry.expiresAt = time + ttl := by
  have htraceable := traceable_of_reachable hreach
  refine ⟨htraceable.yields, ?_, ?_⟩
  · intro label next hstep kind key hne
    obtain ⟨acted, hacts, rfl⟩ := acts_of_step hstep
    rcases hacts.caches kind key with ⟨hsame, -⟩ |
      ⟨reader, request, definition, hlabel, hrequest, hphase, hkind,
        hkey, hnew, -⟩
    · exact absurd hsame hne
    · exact ⟨reader, request, definition, hlabel, hrequest, hkind, hkey,
        htraceable.storing _ _ hphase, hnew⟩
  · intro number request entry _ hentry
    obtain ⟨reader, time, hrequest, hread, hstore, -, hexpires⟩ :=
      htraceable.hit hentry
    exact ⟨reader, time, hrequest, hread, hstore, hexpires⟩

/-- A reader's result is stored; a second lookup is served from the cache after
the model has changed, and a third, after the ttl, reads the new model. -/
theorem lookups_sound_run :
    ∃ state : Lookups ℕ ℕ, state.Yields 1 7 ∧ state.Yields 2 8 ∧
      Justified 30 state 1 7 ∧ Justified 30 state 2 8 := by
  let request : Request :=
    ⟨.properties, "018f56d3-7cb7-7f1a-9b41-3f3a63fd3db5",
      "018f56d3-7cb7-7f1a-9b41-3f3a63fd3db6"⟩
  have hrun : ((lookups (fun _ model => some model) 30).run
      { Lookups.start ℕ ℕ with models := fun _ _ => some 7 }
      [.begin 0 request, .check 0, .query 0, .readerReturns 0, .store 0,
        .install 0x018f56d37cb77f1a9b413f3a63fd3db5
          0x018f56d37cb77f1a9b413f3a63fd3db6 (some 8),
        .advance 29, .begin 1 request, .check 1, .leave 1, .advance 30,
        .begin 2 request, .check 2, .query 2, .readerReturns 2, .store 2]).map
        (fun state => (state.phases 1, state.phases 2)) =
      some (.returned 7, .leaving 8) := by decide +kernel
  obtain ⟨state, hstate, hphases⟩ := Option.map_eq_some_iff.mp hrun
  obtain ⟨hfirst, hsecond⟩ := Prod.ext_iff.mp hphases
  have hinit : (lookups (M := ℕ) (D := ℕ) (fun _ model => some model) 30).init
      { Lookups.start ℕ ℕ with models := fun _ _ => some 7 } := ⟨0, _, rfl⟩
  have hreach := Transition.System.Reachable.of_run (.start hinit) hstate
  have hyields : state.Yields 1 7 ∧ state.Yields 2 8 :=
    ⟨Or.inr hfirst, Or.inl hsecond⟩
  have hsound := (lookups_sound hreach).1
  exact ⟨state, hyields.1, hyields.2, hsound _ _ hyields.1,
    hsound _ _ hyields.2⟩

end Soundness

section Alone

open ThingsModel

/-- `ParseDefinition`, as the reader of a lookup calls it. -/
def parseStored (request : Request) (model : StoredModel) : Option Definition :=
  (parseDefinition request.tenantID request.productID model.properties
    model.events model.services).toOption

/-- The state holds the models and the caches of the world. -/
structure Lookups.Mirrors (state : Lookups StoredModel Definition)
    (world : World) : Prop where
  models : state.models = world.models
  caches : ∀ kind key, state.caches kind key =
    (world.caches kind key).map fun entry => ⟨entry.definition, entry.expiresAt⟩

variable {out : Surroundings} {world : World} {request : Request}
  {state : Lookups StoredModel Definition} {number : ℕ}
  {definition : Definition}

theorem Lookups.Mirrors.current (hmirrors : state.Mirrors world) :
    (state.current request).bind (parseStored request) =
      currentDefinition world request.tenantID request.productID := by
  rw [Lookups.current, currentDefinition]
  rw [hmirrors.models]
  cases Uuid.ofText? request.tenantID <;>
    cases Uuid.ofText? request.productID <;> rfl

theorem Lookups.Mirrors.fresh (hmirrors : state.Mirrors world)
    (out : Surroundings) :
    ((state.entry request).filter fun entry =>
        out.clock .cacheRead < entry.expiresAt) =
      (freshEntry out world request.kind request.tenantID request.productID).map
        fun entry => ⟨entry.definition, entry.expiresAt⟩ := by
  rw [Lookups.entry, freshEntry]
  rw [hmirrors.caches, Option.filter_map]
  rfl

theorem trace_lookup_hit {entry : CachedDefinition}
    (hfresh : freshEntry out world request.kind request.tenantID
      request.productID = some entry) :
    (lookup out world request.kind request.tenantID request.productID).trace =
      [.lookup request.kind request.tenantID request.productID] := by
  rw [freshEntry] at hfresh
  rw [lookup]
  simp only [hfresh]
  rfl

theorem trace_lookup_miss
    (hfresh : freshEntry out world request.kind request.tenantID
      request.productID = none)
    (hread : (findCurrentByProductID out world request.tenantID
      request.productID).outcome = .ok definition) :
    (lookup out world request.kind request.tenantID request.productID).trace =
      [.lookup request.kind request.tenantID request.productID,
        .cache request.kind request.key
          ⟨definition, out.clock .cacheWrite + defaultCacheTTL⟩] := by
  rw [freshEntry] at hfresh
  rw [lookup]
  simp only [hfresh]
  rw [Traced.trace_bind_of_ok (Traced.outcome_emit _),
    Traced.trace_bind_of_ok hread, trace_findCurrent]
  rfl

/-- A lookup that meets no other is one run of the system: it yields the same
definition and leaves the same caches. -/
theorem yields_of_lookup (hmirrors : state.Mirrors world)
    (hnew : state.requests number = none)
    (hphase : state.phases number = .checking)
    (hread : state.clock ≤ out.clock .cacheRead)
    (hwrite : out.clock .cacheRead ≤ out.clock .cacheWrite)
    (hok : (lookup out world request.kind request.tenantID
      request.productID).outcome = .ok definition) :
    ∃ labels finish,
      (lookups parseStored defaultCacheTTL).run state labels = some finish ∧
        finish.Yields number definition ∧
        finish.Mirrors (world.applyAll (lookup out world request.kind
          request.tenantID request.productID).trace) := by
  have hfilter : ((state.caches request.kind request.key).filter fun entry =>
      out.clock .cacheRead < entry.expiresAt) = _ := hmirrors.fresh out
  obtain ⟨hreads, hinuse⟩ := outcome_lookup_eq_ok.mp hok
  rw [definitionInUse] at hinuse
  cases hfresh : freshEntry out world request.kind request.tenantID
    request.productID with
  | some entry =>
      rw [hfresh] at hinuse hfilter
      cases hinuse
      rw [trace_lookup_hit hfresh]
      obtain ⟨finish, hrun, hleaving, hmodels, hcaches⟩ : ∃ finish,
          (lookups parseStored defaultCacheTTL).run state
              [.advance (out.clock .cacheRead), .begin number request,
                .check number] = some finish ∧
            finish.phases number = .leaving entry.definition ∧
            finish.models = state.models ∧ finish.caches = state.caches := by
        simp [Transition.System.run, lookups, Lookups.step, Lookups.act,
          Lookups.move, Lookups.entry, hread, hnew, hphase, hfilter]
      refine ⟨_, finish, hrun, Or.inl hleaving, hmodels.trans hmirrors.models,
        ?_⟩
      intro kind key
      rw [hcaches]
      exact hmirrors.caches kind key
  | none =>
      rw [hfresh] at hinuse hfilter
      have hresult := outcome_findCurrent_eq_ok.mpr
        ⟨hreads.resolve_left (by simp [hfresh]), hinuse⟩
      rw [trace_lookup_miss hfresh hresult]
      have hcurrent := hmirrors.current.trans hinuse
      rw [Lookups.current] at hcurrent
      obtain ⟨finish, hrun, hleaving, hmodels, hcaches⟩ : ∃ finish,
          (lookups parseStored defaultCacheTTL).run state
              [.advance (out.clock .cacheRead), .begin number request,
                .check number, .query number, .readerReturns number,
                .advance (out.clock .cacheWrite), .store number] = some finish ∧
            finish.phases number = .leaving definition ∧
            finish.models = state.models ∧
            finish.caches = (state.put request
              ⟨definition, out.clock .cacheWrite +
                defaultCacheTTL⟩).caches := by
        simp [Transition.System.run, lookups, Lookups.step, Lookups.act,
          Lookups.move, Lookups.entry, Lookups.put, Lookups.current, hread,
          hwrite, hnew, hphase, hfilter, hcurrent]
      refine ⟨_, finish, hrun, Or.inl hleaving, hmodels.trans hmirrors.models,
        ?_⟩
      intro kind key
      rw [hcaches]
      by_cases hkind : kind = request.kind
      · by_cases hkey : key = request.key
        · simp [World.applyAll, World.apply, Lookups.put, hkind, hkey]
        · simp [World.applyAll, World.apply, Lookups.put, hkind, hkey,
            hmirrors.caches]
      · simp [World.applyAll, World.apply, Lookups.put, hkind, hmirrors.caches]

end Alone

end Processor

end LinkFlow
