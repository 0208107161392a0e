/-
Which model judges a report.  Updates install the models 1, 2, 3, … of a product
while lookups overlap; the steps of a run are its real-time order.  A later
lookup goes back to an older model in one way only: a slower reader call has
stored its result over a newer one.
-/
import LinkFlow.ThingsModelCache

namespace LinkFlow

namespace Processor

/-- The reader over models that are their own numbers.  Some may not parse. -/
def readVersion (readable : Request → ℕ → Bool) (request : Request)
    (version : ℕ) : Option ℕ :=
  if readable request version then some version else none

/-- Updates install the next model of a product. -/
def Successive (state : Lookups ℕ ℕ) : LookupLabel ℕ → Prop
  | .install tenant product model =>
      model = some ((state.models tenant product).getD 0 + 1)
  | _ => True

instance (state : Lookups ℕ ℕ) :
    (label : LookupLabel ℕ) → Decidable (Successive state label)
  | .install _ _ _ => inferInstanceAs (Decidable (_ = _))
  | .advance _ | .begin _ _ | .check _ | .query _ | .readerReturns _
  | .readerFails _ | .store _ | .leave _ => isTrue trivial

variable {readable : Request → ℕ → Bool} {ttl : Int}
  {state next : Lookups ℕ ℕ} {label : LookupLabel ℕ} {number : ℕ}

theorem readVersion_eq_some {request : Request} {found : Option ℕ}
    {version : ℕ}
    (hread : found.bind (readVersion readable request) = some version) :
    found = some version := by
  obtain ⟨model, rfl, hmodel⟩ := Option.bind_eq_some_iff.mp hread
  rw [readVersion] at hmodel
  split at hmodel <;> cases hmodel
  rfl

section Stamps

variable {M D : Type} {parse : Request → M → Option D}
    {state next : Lookups M D}
  {label : LookupLabel M}

/-- A query is stamped when a lookup makes it. -/
theorem Acts.queried (hacts : Acts parse ttl state label next)
    (number : ℕ) :
    next.queried number = state.queried number ∨
      state.phases number = .reading ∧ ∃ request,
        state.requests number = some request ∧
        next.queried number = some (state.steps, state.current request) := by
  cases hacts with
  | @query moved request hrequest hphase =>
      by_cases hsame : number = moved
      · subst hsame
        exact Or.inr ⟨hphase, request, hrequest, Function.update_self ..⟩
      · exact Or.inl (Function.update_of_ne hsame ..)
  | _ => exact Or.inl rfl

theorem Acts.storedAt (hacts : Acts parse ttl state label next)
    (number : ℕ) :
    next.storedAt number = state.storedAt number ∨
      label = .store number ∧ next.storedAt number = some state.steps ∧
        ∃ definition, state.phases number = .storing definition ∧
          next.phases number = .leaving definition := by
  cases hacts with
  | @store moved request definition hrequest hphase =>
      by_cases hsame : number = moved
      · subst hsame
        exact Or.inr ⟨rfl, Function.update_self .., definition, hphase,
          Function.update_self ..⟩
      · exact Or.inl (Function.update_of_ne hsame ..)
  | _ => exact Or.inl rfl

theorem Acts.startedAt (hacts : Acts parse ttl state label next)
    (number : ℕ) :
    next.startedAt number = state.startedAt number ∨
      state.requests number = none ∧
        next.startedAt number = some state.steps := by
  cases hacts with
  | @begin moved request hfresh =>
      by_cases hsame : number = moved
      · subst hsame
        exact Or.inr ⟨hfresh, Function.update_self ..⟩
      · exact Or.inl (Function.update_of_ne hsame ..)
  | _ => exact Or.inl rfl

theorem Acts.returnedAt (hacts : Acts parse ttl state label next)
    (number : ℕ) :
    next.returnedAt number = state.returnedAt number ∨
      next.returnedAt number = some state.steps ∧ ∃ definition,
        next.phases number = .returned definition := by
  cases hacts with
  | @leave moved definition hphase =>
      by_cases hsame : number = moved
      · subst hsame
        exact Or.inr ⟨Function.update_self .., definition,
          Function.update_self ..⟩
      · exact Or.inl (Function.update_of_ne hsame ..)
  | _ => exact Or.inl rfl

end Stamps

/-- The current models only go up. -/
theorem Acts.current_mono {parse : Request → ℕ → Option ℕ}
    (hacts : Acts parse ttl state label next)
    (hguard : Successive state label) {request : Request} {version : ℕ}
    (hcurrent : state.current request = some version) :
    ∃ later, next.current request = some later ∧ version ≤ later := by
  cases hacts with
  | install tenant product model =>
      obtain rfl : model = some ((state.models tenant product).getD 0 + 1) :=
        hguard
      rw [Lookups.current] at hcurrent ⊢
      split at hcurrent
      next asked wanted _ _ =>
        by_cases htenant : asked = tenant
        · by_cases hproduct : wanted = product
          · subst htenant hproduct
            refine ⟨version + 1, ?_, Nat.le_succ version⟩
            simp [hcurrent]
          · exact ⟨version, by simp [htenant, hproduct, ← hcurrent], le_rfl⟩
        · exact ⟨version, by simp [htenant, hcurrent], le_rfl⟩
      next => cases hcurrent
  | _ => exact ⟨version, hcurrent, le_rfl⟩

section Order

/-- A reader call for a request that queried at one step, saw a version, and
stored it at a later step. -/
structure StoredRead (state : Lookups ℕ ℕ) (request : Request) (reader : ℕ)
    (asked version stored : ℕ) : Prop where
  request : state.requests reader = some request
  query : state.queried reader = some (asked, some version)
  store : state.storedAt reader = some stored
  lt : asked < stored

/-- No lookup of the request that stored before `before` did so after
`stored`. -/
def Newest (state : Lookups ℕ ℕ) (kind : ThingsModel.Section) (key : String)
    (before stored : ℕ) : Prop :=
  ∀ other request time, state.requests other = some request →
    request.kind = kind → request.key = key →
    state.storedAt other = some time → time < before → time ≤ stored

/-- Where a lookup's version comes from: a reader call that stored it, before
the lookup returned and after every store that the lookup's start has seen; its
own one, or one stored less than `ttl` before its check. -/
def Served (ttl : Int) (state : Lookups ℕ ℕ) (number version : ℕ) : Prop :=
  ∃ request reader asked stored, state.requests number = some request ∧
    StoredRead state request reader asked version stored ∧
    (∀ returned, state.returnedAt number = some returned → stored < returned) ∧
    (∀ started, state.startedAt number = some started →
      Newest state request.kind request.key started stored) ∧
    ((reader = number ∧ ∀ started, state.startedAt number = some started →
        started < asked) ∨
      reader ≠ number ∧ ∃ time checked, (reader, time) ∈ state.stores ∧
        (number, checked) ∈ state.checks ∧ time ≤ checked ∧
        checked < time + ttl)

/-- A version that a query has seen is at most the current one. -/
def Bounded (state : Lookups ℕ ℕ) (number version : ℕ) : Prop :=
  ∃ request current, state.requests number = some request ∧
    state.current request = some current ∧ version ≤ current

/-- A lookup has queried, after it started. -/
def HasQueried (state : Lookups ℕ ℕ) (number : ℕ) (found : Option ℕ) : Prop :=
  ∃ asked, state.queried number = some (asked, found) ∧
    ∀ started, state.startedAt number = some started → started < asked

/-- The record of a run up to the step `now`. -/
structure Ordered (ttl : Int) (now : ℕ) (state : Lookups ℕ ℕ) : Prop where
  started : ∀ number started, state.startedAt number = some started →
    started < now
  asked : ∀ number asked found, state.queried number = some (asked, found) →
    asked < now ∧ (∃ request, state.requests number = some request) ∧
      ∀ version, found = some version → Bounded state number version
  stored : ∀ number stored, state.storedAt number = some stored →
    stored < now ∧ ∃ version, state.Yields number version
  apart : ∀ first second stored, state.storedAt first = some stored →
    state.storedAt second = some stored → first = second
  returned : ∀ number returned, state.returnedAt number = some returned →
    ∃ version, state.phases number = .returned version
  read : ∀ number found, state.phases number = .read found →
    HasQueried state number found
  storing : ∀ number version, state.phases number = .storing version →
    HasQueried state number (some version)
  entries : ∀ kind key entry, state.caches kind key = some entry →
    ∃ request reader asked stored time, request.kind = kind ∧
      request.key = key ∧
      StoredRead state request reader asked entry.definition stored ∧
      Newest state kind key now stored ∧
      (reader, time) ∈ state.stores ∧ entry.expiresAt = time + ttl
  yields : ∀ number version, state.Yields number version →
    Served ttl state number version
  order : ∀ first second request firstAsked secondAsked older newer,
    state.requests first = some request →
    state.requests second = some request →
    state.queried first = some (firstAsked, some older) →
    state.queried second = some (secondAsked, some newer) →
    firstAsked ≤ secondAsked → older ≤ newer

/-- A later lookup has an older model only when it was served the result of a
slower reader call from the cache: one that queried before, and stored after,
the reader call which the earlier lookup's model comes from. -/
def Overtaken (ttl : Int) (state : Lookups ℕ ℕ) (request : Request)
    (later newer older : ℕ) : Prop :=
  ∃ fast slow fastAsked fastStored slowAsked slowStored time checked,
    slow ≠ later ∧
    StoredRead state request fast fastAsked newer fastStored ∧
    StoredRead state request slow slowAsked older slowStored ∧
    slowAsked < fastAsked ∧ fastStored < slowStored ∧
    (slow, time) ∈ state.stores ∧ (later, checked) ∈ state.checks ∧
    time ≤ checked ∧ checked < time + ttl

theorem Ordered.reads (hordered : Ordered ttl state.steps state)
    {earlier later : ℕ} {request : Request} {returned started newer older : ℕ}
    (hearlier : state.requests earlier = some request)
    (hlater : state.requests later = some request)
    (hreturned : state.returnedAt earlier = some returned)
    (hstarted : state.startedAt later = some started) (hlt : returned < started)
    (hnewer : state.Yields earlier newer) (holder : state.Yields later older) :
    newer ≤ older ∨ Overtaken ttl state request later newer older := by
  obtain ⟨_, fast, fastAsked, fastStored, hrequest, hfast, hbefore, -, -⟩ :=
    hordered.yields _ _ hnewer
  cases hearlier.symm.trans hrequest
  obtain ⟨_, slow, slowAsked, slowStored, hrequest, hslow, -,
    hnewest, hsource⟩ :=
    hordered.yields _ _ holder
  cases hlater.symm.trans hrequest
  have hfastBefore : fastStored < started := (hbefore _ hreturned).trans hlt
  by_cases hasked : fastAsked ≤ slowAsked
  · exact Or.inl (hordered.order _ _ _ _ _ _ _ hfast.request hslow.request
      hfast.query hslow.query hasked)
  · have hslower : slowAsked < fastAsked := Nat.lt_of_not_le hasked
    have hstores : fastStored ≤ slowStored :=
      hnewest _ hstarted fast request fastStored hfast.request rfl
        rfl hfast.store hfastBefore
    have hstored : fastStored ≠ slowStored := by
      rintro rfl
      cases hordered.apart _ _ _ hfast.store hslow.store
      have hsame := hfast.query.symm.trans hslow.query
      simp only [Option.some.injEq, Prod.mk.injEq] at hsame
      omega
    rcases hsource with ⟨-, hown⟩ |
      ⟨hne, time, checked, hstore, hcheck, hle, hfresh⟩
    · have hafter := hown _ hstarted
      have hearly := hfast.lt
      omega
    · exact Or.inr ⟨fast, slow, fastAsked, fastStored, slowAsked, slowStored,
        time, checked, hne, hfast, hslow, hslower,
        lt_of_le_of_ne hstores hstored, hstore, hcheck, hle, hfresh⟩

end Order

section Steps

variable {parse : Request → ℕ → Option ℕ}

/-- What a lookup has queried stays, once it is past its reading. -/
theorem Acts.query_kept (hacts : Acts parse ttl state label next)
    (hphase : state.phases number ≠ .reading) :
    next.queried number = state.queried number := by
  rcases hacts.queried number with hsame | ⟨hreading, -⟩
  · exact hsame
  · exact absurd hreading hphase

theorem Acts.started_kept (hacts : Acts parse ttl state label next)
    {request : Request} (hrequest : state.requests number = some request) :
    next.startedAt number = state.startedAt number := by
  rcases hacts.startedAt number with hsame | ⟨hnone, -⟩
  · exact hsame
  · rw [hnone] at hrequest
    cases hrequest

theorem Lookups.Yields.ne_reading {version : ℕ}
    (hyields : state.Yields number version) :
    state.phases number ≠ .reading := by
  rcases hyields with hphase | hphase <;> simp [hphase]

theorem Ordered.stored_kept (hordered : Ordered ttl state.steps state)
    (hacts : Acts parse ttl state label next) {stored : ℕ}
    (hstored : state.storedAt number = some stored) :
    next.storedAt number = some stored := by
  obtain ⟨-, version, hyields⟩ := hordered.stored _ _ hstored
  rcases hacts.storedAt number with hsame | ⟨-, -, found, hphase, -⟩
  · rw [hsame, hstored]
  · rcases hyields with hother | hother <;>
      · rw [hphase] at hother
        cases hother

theorem StoredRead.acts {request : Request} {asked version stored : ℕ}
    (hread : StoredRead state request number asked version stored)
    (hordered : Ordered ttl state.steps state)
    (hacts : Acts parse ttl state label next) :
    StoredRead next request number asked version stored := by
  obtain ⟨-, found, hyields⟩ := hordered.stored _ _ hread.store
  exact
    { request := hacts.grows.requests _ _ hread.request
      query := (hacts.query_kept hyields.ne_reading).trans hread.query
      store := hordered.stored_kept hacts hread.store
      lt := hread.lt }

theorem Newest.acts {kind : ThingsModel.Section} {key : String}
    {before stored : ℕ} (hnewest : Newest state kind key before stored)
    (hordered : Ordered ttl state.steps state)
    (hacts : Acts parse ttl state label next)
    (hbefore : before ≤ state.steps) : Newest next kind key before stored := by
  intro other request time hrequest hkind hkey hstore hlt
  rcases hacts.storedAt other with hsame | ⟨-, hnew, -⟩
  · rw [hsame] at hstore
    obtain ⟨-, version, hyields⟩ := hordered.stored _ _ hstore
    obtain ⟨found, _, _, _, hfound, -⟩ := hordered.yields _ _ hyields
    cases hrequest.symm.trans (hacts.grows.requests _ _ hfound)
    exact hnewest other request time hfound hkind hkey hstore hlt
  · rw [hnew] at hstore
    cases hstore
    omega

theorem Served.acts {version : ℕ} (hserved : Served ttl state number version)
    (hordered : Ordered ttl state.steps state)
    (hacts : Acts parse ttl state label next) :
    Served ttl next number version := by
  obtain ⟨request, reader, asked, stored, hrequest, hread, hreturned, hnewest,
    hsource⟩ := hserved
  have hstarted := hacts.started_kept hrequest
  refine ⟨request, reader, asked, stored, hacts.grows.requests _ _ hrequest,
    hread.acts hordered hacts, fun returned hnext => ?_,
    fun started hnext => ?_, ?_⟩
  · rcases hacts.returnedAt number with hsame | ⟨hnew, -⟩
    · exact hreturned returned (hsame ▸ hnext)
    · rw [hnew] at hnext
      cases hnext
      exact (hordered.stored _ _ hread.store).1
  · rw [hstarted] at hnext
    exact (hnewest started hnext).acts hordered hacts
      (hordered.started _ _ hnext).le
  · rw [hstarted]
    rcases hsource with hown | ⟨hne, time, checked, hstore, hcheck, hfresh⟩
    · exact Or.inl hown
    · exact Or.inr ⟨hne, time, checked, hacts.grows.stores _ hstore,
        hacts.grows.checks _ hcheck, hfresh⟩

theorem Bounded.acts {version : ℕ} (hbounded : Bounded state number version)
    (hacts : Acts parse ttl state label next)
    (hguard : Successive state label) :
    Bounded next number version := by
  obtain ⟨request, current, hrequest, hcurrent, hle⟩ := hbounded
  obtain ⟨later, hlater, hmono⟩ := hacts.current_mono hguard hcurrent
  exact ⟨request, later, hacts.grows.requests _ _ hrequest, hlater,
    hle.trans hmono⟩

theorem HasQueried.acts {found : Option ℕ}
    (hqueried : HasQueried state number found)
    (hordered : Ordered ttl state.steps state)
    (hacts : Acts parse ttl state label next)
    (hphase : state.phases number ≠ .reading) :
    HasQueried next number found := by
  obtain ⟨asked, hquery, hafter⟩ := hqueried
  obtain ⟨-, ⟨request, hrequest⟩, -⟩ := hordered.asked _ _ _ hquery
  refine ⟨asked, (hacts.query_kept hphase).trans hquery, ?_⟩
  rw [hacts.started_kept hrequest]
  exact hafter

/-- A lookup that has not returned has no step of its return. -/
theorem Ordered.not_returned (hordered : Ordered ttl state.steps state)
    (hacts : Acts parse ttl state label next) {version returned : ℕ}
    (hopen : ∀ found, state.phases number ≠ .returned found)
    (hleaving : next.phases number = .leaving version) :
    next.returnedAt number ≠ some returned := by
  intro hreturned
  rcases hacts.returnedAt number with hsame | ⟨-, found, hphase⟩
  · obtain ⟨found, hphase⟩ := hordered.returned _ _ (hsame ▸ hreturned)
    exact hopen found hphase
  · rw [hleaving] at hphase
    cases hphase

/-- A lookup that stores its own result is served it. -/
theorem Ordered.served_own (hordered : Ordered ttl state.steps state)
    (hacts : Acts parse ttl state label next) {version : ℕ}
    (hstoring : state.phases number = .storing version)
    (hleaving : next.phases number = .leaving version)
    (hstored : next.storedAt number = some state.steps) :
    Served ttl next number version := by
  obtain ⟨asked, hquery, hafter⟩ := hordered.storing _ _ hstoring
  obtain ⟨hasked, ⟨request, hrequest⟩, -⟩ := hordered.asked _ _ _ hquery
  have hnext := hacts.grows.requests _ _ hrequest
  have hstarted := hacts.started_kept hrequest
  refine ⟨request, number, asked, state.steps, hnext,
    ⟨hnext, ?_, hstored, hasked⟩, fun returned hreturned => ?_,
    fun started hstart => ?_, Or.inl ⟨rfl, ?_⟩⟩
  · rw [hacts.query_kept (by simp [hstoring])]
    exact hquery
  · exact absurd hreturned
      (hordered.not_returned hacts (by simp [hstoring]) hleaving)
  · intro other found time _ _ _ _ hlt
    rw [hstarted] at hstart
    exact (hlt.trans (hordered.started _ _ hstart)).le
  · rw [hstarted]
    exact hafter

/-- A lookup that finds a fresh entry is served what a reader call for its own
request has stored last. -/
theorem Ordered.served_hit (hordered : Ordered ttl state.steps state)
    (htraceable : Traceable ttl state) (hacts : Acts parse ttl state label next)
    {request : Request} {entry : CacheEntry ℕ}
    (hchecking : state.phases number = .checking)
    (hrequest : state.requests number = some request)
    (hentry : state.entry request = some entry)
    (hfresh : state.clock < entry.expiresAt)
    (hcheck : (number, state.clock) ∈ next.checks)
    (hleaving : next.phases number = .leaving entry.definition) :
    Served ttl next number entry.definition := by
  obtain ⟨source, reader, asked, stored, time, hkind, hkey, hread, hnewest,
    hstore, hexpires⟩ := hordered.entries _ _ _ hentry
  obtain ⟨-, -, hbounded⟩ := hordered.asked _ _ _ hread.query
  obtain ⟨found, current, hfound, hcurrent, -⟩ := hbounded _ rfl
  cases hread.request.symm.trans hfound
  cases Request.eq_of_key (Lookups.current_named hcurrent) hkind hkey
  have hstarted := hacts.started_kept hrequest
  refine ⟨request, reader, asked, stored, hacts.grows.requests _ _ hrequest,
    hread.acts hordered hacts, fun returned hreturned => ?_,
    fun started hstart => ?_, Or.inr ⟨?_, time, state.clock,
      hacts.grows.stores _ hstore, hcheck, (htraceable.stores _ _ hstore).1,
      hexpires ▸ hfresh⟩⟩
  · exact absurd hreturned
      (hordered.not_returned hacts (by simp [hchecking]) hleaving)
  · rw [hstarted] at hstart
    have hlt := hordered.started _ _ hstart
    intro other asking time hother hkind hkey hstored hbefore
    exact hnewest.acts hordered hacts le_rfl other asking time hother hkind hkey
      hstored (hbefore.trans hlt)
  · rintro rfl
    obtain ⟨-, version, hphase | hphase⟩ := hordered.stored _ _ hread.store <;>
      · rw [hchecking] at hphase
        cases hphase

theorem Ordered.apart_acts (hordered : Ordered ttl state.steps state)
    (hacts : Acts parse ttl state label next) {first second stored : ℕ}
    (hfirst : next.storedAt first = some stored)
    (hsecond : next.storedAt second = some stored) : first = second := by
  rcases hacts.storedAt first with hold | ⟨hlabel, hnew, -⟩ <;>
    rcases hacts.storedAt second with hother | ⟨hsame, hlast, -⟩
  · exact hordered.apart _ _ _ (hold ▸ hfirst) (hother ▸ hsecond)
  · rw [hlast] at hsecond
    cases hsecond
    exact absurd (hordered.stored _ _ (hold ▸ hfirst)).1 (Nat.lt_irrefl _)
  · rw [hnew] at hfirst
    cases hfirst
    exact absurd (hordered.stored _ _ (hother ▸ hsecond)).1 (Nat.lt_irrefl _)
  · rw [hlabel] at hsame
    cases hsame
    rfl

theorem Ordered.entries_acts (hordered : Ordered ttl state.steps state)
    (hacts : Acts parse ttl state label next) {kind : ThingsModel.Section}
    {key : String} {entry : CacheEntry ℕ}
    (hentry : next.caches kind key = some entry) :
    ∃ request reader asked stored time, request.kind = kind ∧
      request.key = key ∧
      StoredRead next request reader asked entry.definition stored ∧
      Newest next kind key (state.steps + 1) stored ∧
      (reader, time) ∈ next.stores ∧ entry.expiresAt = time + ttl := by
  rcases hacts.caches kind key with ⟨hsame, hother⟩ | ⟨number, request, version,
    -, hrequest, hphase, hkind, hkey, hnew, hstore, hstored⟩
  · rw [hsame] at hentry
    obtain ⟨request, reader, asked, stored, time, hkind, hkey, hread, hnewest,
      hstore, hexpires⟩ := hordered.entries _ _ _ hentry
    refine ⟨request, reader, asked, stored, time, hkind, hkey,
      hread.acts hordered hacts, ?_, hacts.grows.stores _ hstore, hexpires⟩
    intro other asking time hasking hkind hkey hstored _
    rcases hacts.storedAt other with hold | ⟨hlabel, -, version, hphase, -⟩
    · have hlt := (hordered.stored _ _ (hold ▸ hstored)).1
      exact hnewest.acts hordered hacts le_rfl other asking time
        hasking hkind hkey hstored hlt
    · -- a store of this step is at another key
      obtain ⟨_, hquery, -⟩ := hordered.storing _ _ hphase
      obtain ⟨-, ⟨found, hfound⟩, -⟩ := hordered.asked _ _ _ hquery
      cases hasking.symm.trans (hacts.grows.requests _ _ hfound)
      exact absurd hkey (hother _ _ hlabel hfound hkind)
  · rw [hnew] at hentry
    cases hentry
    obtain ⟨asked, hquery, -⟩ := hordered.storing _ _ hphase
    have hread : StoredRead next request number asked version state.steps :=
      { request := hacts.grows.requests _ _ hrequest
        query := (hacts.query_kept (by simp [hphase])).trans hquery
        store := hstored
        lt := (hordered.asked _ _ _ hquery).1 }
    exact ⟨request, number, asked, state.steps, state.clock, hkind, hkey, hread,
      fun _ _ _ _ _ _ _ hlt => Nat.le_of_lt_succ hlt, hstore, rfl⟩

theorem Ordered.yields_acts (hordered : Ordered ttl state.steps state)
    (htraceable : Traceable ttl state) (hacts : Acts parse ttl state label next)
    {version : ℕ} (hyields : next.Yields number version) :
    Served ttl next number version := by
  rcases hacts.phases number with hsame | hnew
  · rw [Lookups.Yields] at hyields
    rw [hsame] at hyields
    exact (hordered.yields _ _ hyields).acts hordered hacts
  · rcases hyields with hphase | hphase
    · rw [hphase] at hnew
      rcases hnew with ⟨hstoring, hstored⟩ |
        ⟨hchecking, request, entry, hrequest, hentry,
        hfresh, rfl, hcheck⟩
      · exact hordered.served_own hacts hstoring hphase hstored
      · exact hordered.served_hit htraceable hacts hchecking hrequest
          hentry hfresh hcheck hphase
    · rw [hphase] at hnew
      exact (hordered.yields _ _ (Or.inl hnew)).acts hordered hacts

theorem Ordered.request_before (hordered : Ordered ttl state.steps state)
    (hacts : Acts parse ttl state label next) {request : Request}
    {asked : ℕ} {found : Option ℕ}
    (hquery : state.queried number = some (asked, found))
    (hrequest : next.requests number = some request) :
    state.requests number = some request := by
  obtain ⟨-, ⟨before, hbefore⟩, -⟩ := hordered.asked _ _ _ hquery
  cases hrequest.symm.trans (hacts.grows.requests _ _ hbefore)
  exact hbefore

theorem Ordered.order_acts (hordered : Ordered ttl state.steps state)
    (hacts : Acts parse ttl state label next) {first second : ℕ}
    {request : Request} {firstAsked secondAsked older newer : ℕ}
    (hfirst : next.requests first = some request)
    (hsecond : next.requests second = some request)
    (hfirstQuery : next.queried first = some (firstAsked, some older))
    (hsecondQuery : next.queried second = some (secondAsked, some newer))
    (hle : firstAsked ≤ secondAsked) : older ≤ newer := by
  rcases hacts.queried first with hold | ⟨-, asking, hasking, hnew⟩ <;>
    rcases hacts.queried second with hother | ⟨-, wanting, hwanting, hlast⟩
  · rw [hold] at hfirstQuery
    rw [hother] at hsecondQuery
    exact hordered.order _ _ _ _ _ _ _
      (hordered.request_before hacts hfirstQuery hfirst)
      (hordered.request_before hacts hsecondQuery hsecond)
      hfirstQuery hsecondQuery hle
  · rw [hold] at hfirstQuery
    rw [hlast] at hsecondQuery
    cases hsecond.symm.trans (hacts.grows.requests _ _ hwanting)
    obtain ⟨-, -, hbounded⟩ := hordered.asked _ _ _ hfirstQuery
    obtain ⟨asking, current, hasking, hcurrent, hmono⟩ := hbounded _ rfl
    cases hfirst.symm.trans (hacts.grows.requests _ _ hasking)
    simp only [Option.some.injEq, Prod.mk.injEq] at hsecondQuery
    rw [hcurrent] at hsecondQuery
    cases hsecondQuery.2
    exact hmono
  · rw [hnew] at hfirstQuery
    rw [hother] at hsecondQuery
    simp only [Option.some.injEq, Prod.mk.injEq] at hfirstQuery
    have hlt := (hordered.asked _ _ _ hsecondQuery).1
    omega
  · rw [hnew] at hfirstQuery
    rw [hlast] at hsecondQuery
    cases hfirst.symm.trans (hacts.grows.requests _ _ hasking)
    cases hsecond.symm.trans (hacts.grows.requests _ _ hwanting)
    simp only [Option.some.injEq, Prod.mk.injEq] at hfirstQuery hsecondQuery
    have hsame := hfirstQuery.2.symm.trans hsecondQuery.2
    simp only [Option.some.injEq] at hsame
    exact hsame.le

theorem Ordered.acts (hordered : Ordered ttl state.steps state)
    (htraceable : Traceable ttl state)
    (hacts : Acts (readVersion readable) ttl state label next)
    (hguard : Successive state label) :
    Ordered ttl (state.steps + 1) next := by
  have hgrows := hacts.grows
  refine
    { started := fun number started hstart => ?_
      asked := fun number asked found hquery => ?_
      stored := fun number stored hstore => ?_
      apart := fun first second stored hfirst hsecond => ?_
      returned := fun number returned hreturned => ?_
      read := fun number found hphase => ?_
      storing := fun number version hphase => ?_
      entries := fun kind key entry hentry => ?_
      yields := fun number version hyields => ?_
      order := fun first second request firstAsked secondAsked older newer
        hfirst hsecond hfirstQuery hsecondQuery hle => ?_ }
  · rcases hacts.startedAt number with hsame | ⟨-, hnew⟩
    · exact Nat.lt_succ_of_lt (hordered.started number started (hsame ▸ hstart))
    · rw [hnew] at hstart
      cases hstart
      exact Nat.lt_succ_self _
  · rcases hacts.queried number with hsame | ⟨-, request, hrequest, hnew⟩
    · rw [hsame] at hquery
      obtain ⟨hlt, ⟨request, hrequest⟩, hbounded⟩ := hordered.asked _ _ _ hquery
      exact ⟨Nat.lt_succ_of_lt hlt, ⟨request, hgrows.requests _ _ hrequest⟩,
        fun version hversion => (hbounded version hversion).acts hacts hguard⟩
    · rw [hnew] at hquery
      cases hquery
      have hbounded : ∀ version, state.current request = some version →
          Bounded state number version := fun version hversion =>
        ⟨request, version, hrequest, hversion, le_rfl⟩
      exact ⟨Nat.lt_succ_self _, ⟨request, hgrows.requests _ _ hrequest⟩,
        fun version hversion => (hbounded version hversion).acts hacts hguard⟩
  · rcases hacts.storedAt number with hsame |
      ⟨-, hnew, version, -, hphase⟩
    · obtain ⟨hlt, version, hyields⟩ := hordered.stored _ _ (hsame ▸ hstore)
      exact ⟨Nat.lt_succ_of_lt hlt, version, hacts.yields hyields⟩
    · rw [hnew] at hstore
      cases hstore
      exact ⟨Nat.lt_succ_self _, version, Or.inl hphase⟩
  · exact hordered.apart_acts hacts hfirst hsecond
  · rcases hacts.returnedAt number with hsame | ⟨-, hnew⟩
    · obtain ⟨version, hphase⟩ := hordered.returned _ _ (hsame ▸ hreturned)
      exact ⟨version, hacts.returned hphase⟩
    · exact hnew
  · rcases hacts.phases number with hsame | hnew
    · rw [hsame] at hphase
      exact (hordered.read _ _ hphase).acts hordered hacts (by simp [hphase])
    · rw [hphase] at hnew
      obtain ⟨request, hrequest, -, hquery⟩ := hnew
      refine ⟨state.steps, hquery, fun started hstart => ?_⟩
      rw [hacts.started_kept hrequest] at hstart
      exact hordered.started _ _ hstart
  · rcases hacts.phases number with hsame | hnew
    · rw [hsame] at hphase
      exact (hordered.storing _ _ hphase).acts hordered hacts (by simp [hphase])
    · rw [hphase] at hnew
      obtain ⟨-, request, found, hread, hparse⟩ := hnew
      cases readVersion_eq_some hparse
      exact (hordered.read _ _ hread).acts hordered hacts (by simp [hread])
  · exact hordered.entries_acts hacts hentry
  · exact hordered.yields_acts htraceable hacts hyields
  · exact hordered.order_acts hacts hfirst hsecond hfirstQuery hsecondQuery hle

theorem StoredRead.counted {request : Request} {asked version stored steps : ℕ}
    (hread : StoredRead state request number asked version stored) :
    StoredRead { state with steps := steps } request number asked version
      stored :=
  ⟨hread.request, hread.query, hread.store, hread.lt⟩

theorem Ordered.counted {now steps : ℕ} (hordered : Ordered ttl now state) :
    Ordered ttl now { state with steps := steps } :=
  { started := hordered.started
    asked := hordered.asked
    stored := hordered.stored
    apart := hordered.apart
    returned := hordered.returned
    read := hordered.read
    storing := hordered.storing
    entries := fun kind key entry hentry => by
      obtain ⟨request, reader, asked, stored, time, hkind, hkey,
        hread, hrest⟩ :=
        hordered.entries kind key entry hentry
      exact ⟨request, reader, asked, stored, time, hkind, hkey, hread.counted,
        hrest⟩
    yields := fun number version hyields => by
      obtain ⟨request, reader, asked, stored, hrequest, hread, hrest⟩ :=
        hordered.yields number version hyields
      exact ⟨request, reader, asked, stored, hrequest, hread.counted, hrest⟩
    order := hordered.order }

theorem Ordered.start {clock : Int} {models : Uuid → Uuid → Option ℕ} :
    Ordered ttl 0
      { Lookups.start ℕ ℕ with clock := clock, models := models } := by
  refine
    { started := fun number started hstart => by cases hstart
      asked := fun number asked found hquery => by cases hquery
      stored := fun number stored hstore => by cases hstore
      apart := fun first second stored hfirst => by cases hfirst
      returned := fun number returned hreturned => by cases hreturned
      read := fun number found hphase => by cases hphase
      storing := fun number version hphase => by cases hphase
      entries := fun kind key entry hentry => by cases hentry
      yields := fun number version hyields => ?_
      order := fun _ _ _ _ _ _ _ _ _ hquery => by cases hquery }
  rcases hyields with hphase | hphase <;> cases hphase

end Steps

section Runs

theorem ordered_of_reachable
    (hreach : (lookups (readVersion readable) ttl).ReachableVia Successive
      state) : Ordered ttl state.steps state := by
  suffices hboth : Traceable ttl state ∧
      Ordered ttl state.steps state from hboth.2
  refine hreach.invariant (P := fun state =>
    Traceable ttl state ∧ Ordered ttl state.steps state) ?_ ?_
  · rintro _ ⟨clock, models, rfl⟩
    exact ⟨Traceable.start, Ordered.start⟩
  · rintro state label next ⟨htraceable, hordered⟩ hguard hstep
    obtain ⟨acted, hacts, rfl⟩ := acts_of_step hstep
    exact ⟨(htraceable.acts hacts).counted,
      (hordered.acts htraceable hacts hguard).counted⟩

/-- In every run in which updates install successive models: when a lookup has
returned one model before another lookup of the same validator and product
starts, the later one uses no older model, unless it is served from the cache
the result of a slower reader call, which queried before the reader call of the
earlier lookup's model, stored after it, and did so less than `ttl` before the
later one's check. -/
theorem later_lookup_reads
    (hreach : (lookups (readVersion readable) ttl).ReachableVia
      Successive state)
    {earlier later : ℕ} {request : Request} {returned started newer older : ℕ}
    (hearlier : state.requests earlier = some request)
    (hlater : state.requests later = some request)
    (hreturned : state.returnedAt earlier = some returned)
    (hstarted : state.startedAt later = some started) (hlt : returned < started)
    (hnewer : state.Yields earlier newer) (holder : state.Yields later older) :
    newer ≤ older ∨ Overtaken ttl state request later newer older :=
  (ordered_of_reachable hreach).reads hearlier hlater hreturned
    hstarted hlt hnewer holder

/-- A lookup of the properties of one product. -/
def propertiesRequest : Request :=
  ⟨.properties, "018f56d3-7cb7-7f1a-9b41-3f3a63fd3db5",
    "018f56d3-7cb7-7f1a-9b41-3f3a63fd3db6"⟩

/-- A slow lookup queries before an update and stores after a fast one. -/
def slowReader : List (LookupLabel ℕ) :=
  [.begin 0 propertiesRequest, .check 0, .query 0,
    .install 0x018f56d37cb77f1a9b413f3a63fd3db5
      0x018f56d37cb77f1a9b413f3a63fd3db6 (some 2),
    .begin 1 propertiesRequest, .check 1, .query 1, .readerReturns 1, .store 1,
    .leave 1, .readerReturns 0, .store 0, .begin 2 propertiesRequest, .check 2]

/-- The lookups of models that all parse, from the first models on. -/
def readableVersions : Transition.System (Lookups ℕ ℕ) (LookupLabel ℕ) :=
  lookups (readVersion fun _ _ => true) 30

def firstVersions : Lookups ℕ ℕ :=
  { Lookups.start ℕ ℕ with models := fun _ _ => some 1 }

theorem slowReader_reaches :
    ∃ state, readableVersions.ReachableVia Successive state ∧
      state.requests 1 = some propertiesRequest ∧
      state.requests 2 = some propertiesRequest ∧
      state.returnedAt 1 = some 9 ∧ state.startedAt 2 = some 12 ∧
      state.Yields 1 2 ∧ state.Yields 2 1 := by
  have halong : readableVersions.Along
      (fun state label _ => Successive state label)
      firstVersions slowReader := by
    decide +kernel
  have hrun : (readableVersions.run firstVersions slowReader).map (fun state =>
      (state.requests 1, state.requests 2, state.returnedAt 1,
        state.startedAt 2)) =
      some (some propertiesRequest, some propertiesRequest,
        some 9, some 12) := by
    decide +kernel
  have hphases : (readableVersions.run firstVersions slowReader).map
      (fun state =>
      (state.phases 1, state.phases 2)) = some (.returned 2, .leaving 1) := by
    decide +kernel
  obtain ⟨state, hstate, hfacts⟩ := Option.map_eq_some_iff.mp hrun
  have hinit : readableVersions.init firstVersions := ⟨0, _, rfl⟩
  rw [hstate] at hphases
  simp only [Option.map_some, Option.some.injEq, Prod.mk.injEq]
    at hphases hfacts
  exact ⟨state, .of_along (.start hinit) halong hstate, hfacts.1, hfacts.2.1,
    hfacts.2.2.1, hfacts.2.2.2, Or.inr hphases.1, Or.inl hphases.2⟩

/-- The slow lookup's model is served although a newer one has been used. -/
theorem later_lookup_older :
    ¬ ∀ (readable : Request → ℕ → Bool) (ttl : Int) (state : Lookups ℕ ℕ),
      (lookups (readVersion readable) ttl).ReachableVia Successive state →
      ∀ (earlier later : ℕ) (request : Request)
        (returned started newer older : ℕ),
        state.requests earlier = some request →
        state.requests later = some request →
        state.returnedAt earlier = some returned →
        state.startedAt later = some started → returned < started →
        state.Yields earlier newer → state.Yields later older →
        newer ≤ older := by
  intro hall
  obtain ⟨state, hreach, hearlier, hlater, hreturned, hstarted,
    hnewer, holder⟩ :=
    slowReader_reaches
  exact absurd (hall _ _ state hreach 1 2 _ _ _ _ _ hearlier hlater hreturned
    hstarted (by decide) hnewer holder) (by decide)

theorem later_lookup_reads_slow :
    ∃ state, Overtaken 30 state propertiesRequest 2 2 1 := by
  obtain ⟨state, hreach, hearlier, hlater, hreturned, hstarted,
    hnewer, holder⟩ :=
    slowReader_reaches
  exact ⟨state, (later_lookup_reads hreach hearlier hlater hreturned hstarted
    (by decide) hnewer holder).resolve_left (by decide)⟩

end Runs

end Processor

end LinkFlow
