/-
Which tokens are accepted, over every run of registrations, logins, logouts and
expiring session keys.
-/
import LinkFlow.AuthSession
import LinkFlow.Lib.Transition

namespace LinkFlow

namespace Auth

/-- The stores, the tokens that were signed, what Register and Login have
returned, and the token ids whose Logout has completed. -/
structure State where
  store : Store
  signed : List IssuedAccessToken
  returned : List AuthResult
  loggedOut : List String

inductive Label where
  | register (email password : String) (out : Surroundings)
  | login (email password : String) (out : Surroundings)
  | logout (tokenID userID : String) (out : Surroundings)
  | expire (key : String)

/-- A call that may have signed a token, and returned it if it succeeded. -/
def State.afterIssue (state : State) (reply : Reply AuthResult) : State where
  store := reply.store
  signed := reply.signed.toList ++ state.signed
  returned :=
    match reply.result with
    | .ok result => result :: state.returned
    | .error _ => state.returned
  loggedOut := state.loggedOut

def step (accounts : Accounts) (state : State) : Label → Option State
  | .register email password out =>
      some (state.afterIssue (register accounts state.store out email password))
  | .login email password out =>
      some (state.afterIssue (login accounts state.store out email password))
  | .logout tokenID userID out =>
      let reply := logout state.store out tokenID userID
      some
        { state with
          store := reply.store
          loggedOut :=
            match reply.result with
            | .ok () => tokenID :: state.loggedOut
            | .error _ => state.loggedOut }
  | .expire key =>
      some
        { state with
          store :=
            { state.store with
              redis := Function.update state.store.redis key none } }

def system (accounts : Accounts) : Transition.System State Label where
  init state :=
    (∀ key, state.store.redis key = none) ∧ state.signed = [] ∧
      state.returned = [] ∧ state.loggedOut = []
  step := step accounts

/-- Token ids never collide: a new one is not the id of an earlier token, nor
one that a Logout has named. -/
def FreshTokenID (state : State) : Label → Prop
  | .register _ _ out | .login _ _ out =>
      ∀ tokenID, out.newTokenID = .ok tokenID →
        (∀ issued ∈ state.signed, issued.tokenID ≠ tokenID) ∧
          tokenID ∉ state.loggedOut
  | .logout _ _ _ | .expire _ => True

section Issue

variable {accounts : Accounts} {store : Store} {out : Surroundings}

/-- A token as `IssueAccessToken` makes it. -/
def Genuine (manager : JWTManager) (issued : IssuedAccessToken) : Prop :=
  issued.userID ≠ "" ∧ issued.role ≠ "" ∧ ∃ issuedAt,
    issued.raw = manager.jwt.sign
      (accessClaims manager issued.userID issued.role issued.tokenID issuedAt) ∧
    issued.expiresAt = issuedAt + manager.ttl

/-- The session of a token. -/
def IssuedAccessToken.session (issued : IssuedAccessToken) : AuthSession :=
  ⟨issued.tokenID, issued.userID, issued.role, issued.expiresAt⟩

theorem issueAccessToken_ok {manager : JWTManager} {userID role : String}
    {newTokenID : Except String String} {now : Int}
    {issued : IssuedAccessToken}
    (hok : issueAccessToken manager userID role newTokenID now = .ok issued) :
    Genuine manager issued ∧ newTokenID = .ok issued.tokenID ∧
      issued.userID = userID ∧ issued.role = role := by
  unfold issueAccessToken at hok
  split at hok
  · cases hok
  next huser =>
    split at hok
    · cases hok
    next hrole =>
      split at hok
      · cases hok
      · cases hok
        exact ⟨⟨huser, hrole, now, rfl, rfl⟩, rfl, rfl, rfl⟩

theorem createAccessSession_ok {redis next : Redis} {call : RedisCall}
    {session : AuthSession}
    (hok : createAccessSession redis call session = .ok next) :
    next = Function.update redis (authAccessSessionKey session.tokenID)
      (some session) := by
  rw [createAccessSession] at hok
  split at hok
  · cases hok
  · split at hok
    · cases hok
    · split at hok
      · cases hok
      · split at hok
        · cases hok
        · split at hok
          · cases hok
          · split at hok
            · cases hok
            · exact (Except.ok.inj hok).symm

/-- A result hands a token out to its user. -/
def AuthResult.Returns (result : AuthResult) (issued : IssuedAccessToken) :
    Prop :=
  result.accessToken = issued.raw ∧ result.userID = issued.userID ∧
    result.role = issued.role

/-- What a call that issues tokens can do to the sessions: nothing, or sign a
token with the new id; and the token is returned exactly when its session is
set. -/
inductive Issues (accounts : Accounts) (store : Store) (out : Surroundings) :
    Reply AuthResult → Prop
  | nothing {reply : Reply AuthResult}
      (hredis : reply.store.redis = store.redis)
      (hsigned : reply.signed = none)
      (herror : ∀ value, reply.result ≠ .ok value) :
      Issues accounts store out reply
  | unreturned {reply : Reply AuthResult} {issued : IssuedAccessToken}
      (hgenuine : Genuine accounts.manager issued)
      (hid : out.newTokenID = .ok issued.tokenID)
      (hredis : reply.store.redis = store.redis)
      (hsigned : reply.signed = some issued)
      (herror : ∀ value, reply.result ≠ .ok value) :
      Issues accounts store out reply
  | returned {reply : Reply AuthResult} {issued : IssuedAccessToken}
      {result : AuthResult} (hgenuine : Genuine accounts.manager issued)
      (hid : out.newTokenID = .ok issued.tokenID)
      (hredis : reply.store.redis = Function.update store.redis
        (authAccessSessionKey issued.tokenID) (some issued.session))
      (hsigned : reply.signed = some issued) (hok : reply.result = .ok result)
      (hreturns : result.Returns issued) :
      Issues accounts store out reply

theorem issues_refuse {err : Failure} :
    Issues accounts store out (refuse store err) :=
  .nothing rfl rfl fun _ => by simp [refuse]

theorem issues_issue {users : List AuthUser} {user : AuthUser} :
    Issues accounts store out
      (issue accounts { store with users := users } out user) := by
  rw [issue]
  split
  · exact .nothing rfl rfl fun _ => by simp
  next issued hissued =>
    obtain ⟨hgenuine, hid, huser, hrole⟩ := issueAccessToken_ok hissued
    split
    · exact .unreturned hgenuine hid rfl rfl fun _ => by simp
    next redis hredis =>
      exact .returned hgenuine hid (createAccessSession_ok hredis) rfl rfl
        ⟨rfl, huser.symm, hrole.symm⟩

theorem issues_register {email password : String} :
    Issues accounts store out (register accounts store out email password) := by
  rw [register]
  split
  · exact issues_refuse
  · dsimp only
    split
    · exact issues_refuse
    · split
      · exact issues_refuse
      · split
        · exact issues_refuse
        · exact issues_issue

theorem issues_login {email password : String} :
    Issues accounts store out (login accounts store out email password) := by
  rw [login]
  split
  · exact issues_refuse
  · dsimp only
    split
    · exact issues_refuse
    · split
      · exact issues_refuse
      · split
        · exact issues_refuse
        · split
          · exact issues_refuse
          · split
            · exact issues_refuse
            · split
              · exact issues_refuse
              · exact issues_issue

/-- A Logout that succeeds has removed the session; another changes nothing. -/
theorem logout_redis {tokenID userID : String} :
    (logout store out tokenID userID).store.redis = store.redis ∧
        (∃ err, (logout store out tokenID userID).result = .error err) ∨
      (logout store out tokenID userID).store.redis =
          Function.update store.redis (authAccessSessionKey tokenID) none ∧
        (logout store out tokenID userID).result = .ok () := by
  rw [logout]
  split
  · exact Or.inl ⟨rfl, _, rfl⟩
  · split
    · exact Or.inl ⟨rfl, _, rfl⟩
    next hblank =>
      split
      · exact Or.inl ⟨rfl, _, rfl⟩
      next redis hdelete =>
        refine Or.inr ⟨?_, rfl⟩
        rw [deleteAccessSession] at hdelete
        split at hdelete
        · cases hdelete
        · split at hdelete
          next hempty =>
            simp [hempty, show trimSpace "" = "" from rfl] at hblank
          · split at hdelete
            · cases hdelete
            · exact (Except.ok.inj hdelete).symm

end Issue

section Invariant

variable {accounts : Accounts}

/-- What every reachable state keeps: signed tokens are genuine and differ by
their ids, and every session key holds the session of a token that was returned
and has not been logged out. -/
structure Sound (accounts : Accounts) (state : State) : Prop where
  genuine : ∀ issued ∈ state.signed, Genuine accounts.manager issued
  unique : ∀ first ∈ state.signed, ∀ second ∈ state.signed,
    first.tokenID = second.tokenID → first = second
  sessions : ∀ key session, state.store.redis key = some session →
    ∃ issued ∈ state.signed,
      (∃ result ∈ state.returned, result.Returns issued) ∧
      key = authAccessSessionKey issued.tokenID ∧
      session = issued.session ∧ issued.tokenID ∉ state.loggedOut

theorem authAccessSessionKey_inj {first second : String}
    (hkey : authAccessSessionKey first = authAccessSessionKey second) :
    first = second := by
  unfold authAccessSessionKey at hkey
  have hlist := congrArg String.toList hkey
  simp only [String.toList_append, List.append_cancel_left_eq] at hlist
  exact String.toList_inj.mp hlist

/-- Signing one more token with a fresh id. -/
theorem Sound.sign {state : State} (hsound : Sound accounts state)
    {issued : IssuedAccessToken} (hgenuine : Genuine accounts.manager issued)
    (hfresh : ∀ other ∈ state.signed, other.tokenID ≠ issued.tokenID) :
    (∀ other ∈ issued :: state.signed, Genuine accounts.manager other) ∧
      ∀ first ∈ issued :: state.signed, ∀ second ∈ issued :: state.signed,
        first.tokenID = second.tokenID → first = second := by
  constructor
  · intro other hother
    rcases List.mem_cons.mp hother with rfl | hother
    · exact hgenuine
    · exact hsound.genuine other hother
  · intro first hfirst second hsecond hid
    rcases List.mem_cons.mp hfirst with hnew | hold
    · rcases List.mem_cons.mp hsecond with hnew' | hold'
      · rw [hnew, hnew']
      · rw [hnew] at hid
        exact absurd hid.symm (hfresh second hold')
    · rcases List.mem_cons.mp hsecond with hnew' | hold'
      · rw [hnew'] at hid
        exact absurd hid (hfresh first hold)
      · exact hsound.unique first hold second hold' hid

theorem Sound.afterIssue {state : State} {out : Surroundings}
    {reply : Reply AuthResult} (hsound : Sound accounts state)
    (hissues : Issues accounts state.store out reply)
    (hfresh : ∀ tokenID, out.newTokenID = .ok tokenID →
      (∀ issued ∈ state.signed, issued.tokenID ≠ tokenID) ∧
        tokenID ∉ state.loggedOut) :
    Sound accounts (state.afterIssue reply) := by
  cases hissues with
  | nothing hredis hsigned herror =>
      have hnext : state.afterIssue reply =
          { state with store := reply.store } := by
        rw [State.afterIssue]
        rw [hsigned]
        cases hresult : reply.result with
        | error err => rfl
        | ok value => exact absurd hresult (herror value)
      rw [hnext]
      refine ⟨hsound.genuine, hsound.unique, ?_⟩
      intro key session hkey
      exact hsound.sessions key session (by rw [← hredis]; exact hkey)
  | @unreturned issued hgenuine hid hredis hsigned herror =>
      have hnext : state.afterIssue reply =
          { state with
            store := reply.store
            signed := issued :: state.signed } := by
        rw [State.afterIssue]
        rw [hsigned]
        cases hresult : reply.result with
        | error err => rfl
        | ok value => exact absurd hresult (herror value)
      rw [hnext]
      obtain ⟨hall, hunique⟩ := hsound.sign hgenuine (hfresh _ hid).1
      refine ⟨hall, hunique, ?_⟩
      intro key session hkey
      obtain ⟨other, hother, hrest⟩ :=
        hsound.sessions key session (by rw [← hredis]; exact hkey)
      exact ⟨other, List.mem_cons_of_mem _ hother, hrest⟩
  | @returned issued result hgenuine hid hredis hsigned hok hreturns =>
      have hnext : state.afterIssue reply =
          { state with
            store := reply.store
            signed := issued :: state.signed
            returned := result :: state.returned } := by
        rw [State.afterIssue]
        rw [hsigned, hok]
        rfl
      rw [hnext]
      obtain ⟨hall, hunique⟩ := hsound.sign hgenuine (hfresh _ hid).1
      refine ⟨hall, hunique, ?_⟩
      intro key session hkey
      change reply.store.redis key = some session at hkey
      rw [hredis] at hkey
      by_cases hsame : key = authAccessSessionKey issued.tokenID
      · subst hsame
        rw [Function.update_self, Option.some.injEq] at hkey
        exact ⟨issued, List.mem_cons_self,
          ⟨result, List.mem_cons_self, hreturns⟩, rfl, hkey.symm,
          (hfresh _ hid).2⟩
      · rw [Function.update_of_ne hsame] at hkey
        obtain ⟨other, hother, ⟨earlier, hearlier, hreturned⟩, hrest⟩ :=
          hsound.sessions key session hkey
        exact ⟨other, List.mem_cons_of_mem _ hother,
          ⟨earlier, List.mem_cons_of_mem _ hearlier, hreturned⟩, hrest⟩

/-- A session left after a key was removed is one of another key. -/
theorem session_of_removed {redis : Redis} {key removed : String}
    {session : AuthSession}
    (hkey : Function.update redis removed none key = some session) :
    key ≠ removed ∧ redis key = some session := by
  by_cases hsame : key = removed
  · rw [hsame, Function.update_self] at hkey
    cases hkey
  · rw [Function.update_of_ne hsame] at hkey
    exact ⟨hsame, hkey⟩

theorem Sound.step {state next : State} {label : Label}
    (hsound : Sound accounts state) (hfresh : FreshTokenID state label)
    (hstep : step accounts state label = some next) : Sound accounts next := by
  cases label with
  | register email password out =>
      cases hstep
      exact hsound.afterIssue issues_register hfresh
  | login email password out =>
      cases hstep
      exact hsound.afterIssue issues_login hfresh
  | logout tokenID userID out =>
      cases hstep
      refine ⟨hsound.genuine, hsound.unique, ?_⟩
      intro key session hkey
      rcases @logout_redis state.store out tokenID userID with
        ⟨hredis, err, hresult⟩ | ⟨hredis, hresult⟩
      · simp only [hresult, hredis] at hkey ⊢
        exact hsound.sessions key session hkey
      · simp only [hresult, hredis] at hkey ⊢
        obtain ⟨hother, hkey⟩ := session_of_removed hkey
        obtain ⟨issued, hissued, hreturned, hname, hsession, hout⟩ :=
          hsound.sessions key session hkey
        refine ⟨issued, hissued, hreturned, hname, hsession, fun hmem => ?_⟩
        rcases List.mem_cons.mp hmem with hid | hmem
        · exact hother (by rw [hname, hid])
        · exact hout hmem
  | expire key =>
      cases hstep
      refine ⟨hsound.genuine, hsound.unique, ?_⟩
      intro other session hkey
      exact hsound.sessions other session (session_of_removed hkey).2

theorem sound {state : State}
    (hreach : (system accounts).ReachableVia FreshTokenID state) :
    Sound accounts state := by
  apply Transition.System.ReachableVia.invariant _ _ hreach
  · rintro start ⟨hredis, hsigned, -, -⟩
    refine ⟨?_, ?_, ?_⟩
    · simp [hsigned]
    · simp [hsigned]
    · intro key session hkey
      rw [hredis] at hkey
      cases hkey
  · intro current label next hcurrent hfresh hstep
    exact hcurrent.step hfresh hstep

end Invariant

section Requests

variable {manager : JWTManager} {redis : Redis} {look : Look}

theorem verifyAccessToken_ok {now : Int} {raw : String} {claims : AccessClaims}
    (hok : verifyAccessToken manager now raw = .ok claims) :
    manager.jwt.parse raw = some claims ∧
      ∃ expiresAt, claims.expiresAt = some expiresAt ∧
        now < ofNumericDate expiresAt := by
  rw [verifyAccessToken] at hok
  split at hok
  · cases hok
  · split at hok
    · cases hok
    next found hparse =>
      split at hok
      · cases hok
      next hclaims =>
        have hfound : found = claims := by
          split at hok
          · cases hok
          · split at hok
            · cases hok
            · split at hok
              · cases hok
              · split at hok
                · cases hok
                · exact Except.ok.inj hok
        subst hfound
        refine ⟨hparse, ?_⟩
        rw [validateClaims] at hclaims
        split at hclaims
        · cases hclaims
        next expiresAt hexpires =>
          split at hclaims
          · cases hclaims
          next hahead => exact ⟨expiresAt, hexpires, not_le.mp hahead⟩

theorem validateAccessSession_ok {call : RedisCall} {tokenID : String}
    {session : AuthSession}
    (hok : validateAccessSession redis call tokenID = .ok session) :
    redis (authAccessSessionKey tokenID) = some session := by
  rw [validateAccessSession] at hok
  split at hok
  · cases hok
  · split at hok
    · cases hok
    · split at hok
      · cases hok
      · split at hok
        · cases hok
        next found hfound =>
          split at hok
          · cases hok
          · split at hok
            · cases hok
            · rw [hfound, Except.ok.inj hok]

/-- What both functions check of a token, wherever it was found. -/
def checkToken (manager : JWTManager) (redis : Redis) (look : Look)
    (raw : String) : Option Principal :=
  match verifyAccessToken manager look.verifiedAt raw with
  | .error _ => none
  | .ok claims =>
      match validateAccessSession redis look.redis claims.id with
      | .error _ => none
      | .ok session =>
          if session.userID ≠ claims.userID || session.role ≠ claims.role then
            none
          else some ⟨session.tokenID, session.userID, session.role⟩

theorem authenticate_eq (request : Request) :
    authenticate manager redis look request =
      (bearerToken request.authorization).bind
        (checkToken manager redis look) := by
  rw [authenticate]
  cases bearerToken request.authorization with
  | none => rfl
  | some raw =>
      simp only [Option.bind_some, checkToken]
      cases verifyAccessToken manager look.verifiedAt raw with
      | error err => rfl
      | ok claims =>
          dsimp only
          cases validateAccessSession redis look.redis claims.id with
          | error err => cases err <;> rfl
          | ok session => rfl

theorem realtimeAuthenticate_eq (request : Request) :
    realtimeAuthenticate manager redis look request =
      (extractToken request).bind (checkToken manager redis look) := by
  rw [realtimeAuthenticate]
  cases extractToken request <;> rfl

theorem checkToken_eq_some {raw : String} {principal : Principal}
    (hcheck : checkToken manager redis look raw = some principal) :
    ∃ claims session, manager.jwt.parse raw = some claims ∧
      (∃ expiresAt, claims.expiresAt = some expiresAt ∧
        look.verifiedAt < ofNumericDate expiresAt) ∧
      redis (authAccessSessionKey claims.id) = some session ∧
      principal = ⟨session.tokenID, session.userID, session.role⟩ := by
  rw [checkToken] at hcheck
  split at hcheck
  · cases hcheck
  next claims hverify =>
    obtain ⟨hparse, hexpires⟩ := verifyAccessToken_ok hverify
    split at hcheck
    · cases hcheck
    next session hsession =>
      split at hcheck
      · cases hcheck
      · exact ⟨claims, session, hparse, hexpires,
          validateAccessSession_ok hsession, (Option.some.inj hcheck).symm⟩

end Requests

section Safety

variable {accounts : Accounts}

/-- The signature of a text was not forged: the server has signed the text. -/
def Unforged (manager : JWTManager) (state : State) (raw : String) : Prop :=
  ∀ claims, manager.jwt.parse raw = some claims →
    ∃ issued ∈ state.signed, issued.raw = raw

/-- A Register or Login returned the token and issued it to the principal, it
had not expired when it was verified, and no Logout for it has completed. -/
def IssuedTo (state : State) (look : Look) (raw : String)
    (principal : Principal) : Prop :=
  ∃ issued ∈ state.signed, ∃ result ∈ state.returned, result.Returns issued ∧
    result.accessToken = raw ∧ look.verifiedAt < issued.expiresAt ∧
    issued.tokenID ∉ state.loggedOut ∧
    principal = ⟨issued.tokenID, result.userID, result.role⟩

theorem checkToken_issuedTo {state : State} (hsound : Sound accounts state)
    {look : Look} {raw : String} {principal : Principal}
    (hunforged : Unforged accounts.manager state raw)
    (hcheck : checkToken accounts.manager state.store.redis look raw =
      some principal) :
    IssuedTo state look raw principal := by
  obtain ⟨claims, session, hparse, ⟨expiresAt, hexpires, hahead⟩, hsession,
    hprincipal⟩ := checkToken_eq_some hcheck
  obtain ⟨issued, hissued, hraw⟩ := hunforged claims hparse
  obtain ⟨-, -, issuedAt, hsign, hends⟩ := hsound.genuine issued hissued
  -- the text was signed once, so its claims are the ones that were signed
  have hclaims : claims =
      accessClaims accounts.manager issued.userID issued.role
      issued.tokenID issuedAt := by
    rw [← hraw, hsign, accounts.manager.jwt.parse_sign] at hparse
    exact (Option.some.inj hparse).symm
  subst hclaims
  obtain ⟨other, hother, ⟨result, hresult, hreturns⟩, hkey, hsame, hout⟩ :=
    hsound.sessions _ session hsession
  have hid : issued.tokenID = other.tokenID := authAccessSessionKey_inj hkey
  have heq : issued = other := hsound.unique issued hissued other hother hid
  subst heq
  refine ⟨issued, hissued, result, hresult, hreturns, ?_, ?_, hout, ?_⟩
  · rw [hreturns.1, hraw]
  · cases hexpires
    have hle := ofNumericDate_le (issuedAt + accounts.manager.ttl)
    rw [hends]
    exact lt_of_lt_of_le hahead hle
  · rw [hprincipal, hsame, hreturns.2.1, hreturns.2.2]
    rfl

/-- In every state reached by registrations, logins, logouts and expiring keys,
and for every request: either function accepts a token only if it was issued to
the principal it yields, is not expired and not logged out; and on one token the
two agree. -/
theorem session_safety (accounts : Accounts) {state : State}
    (hreach : (system accounts).ReachableVia FreshTokenID state)
    (look : Look) (request : Request)
    (hunforged : ∀ raw, bearerToken request.authorization = some raw ∨
      extractToken request = some raw → Unforged accounts.manager state raw) :
    (∀ principal,
      authenticate accounts.manager state.store.redis look request =
        some principal →
      ∃ raw, bearerToken request.authorization = some raw ∧
        IssuedTo state look raw principal) ∧
    (∀ principal,
      realtimeAuthenticate accounts.manager state.store.redis look request =
        some principal →
      ∃ raw, extractToken request = some raw ∧
        IssuedTo state look raw principal) ∧
    ∀ other : Request,
      bearerToken request.authorization = extractToken other →
      authenticate accounts.manager state.store.redis look request =
        realtimeAuthenticate accounts.manager state.store.redis look other := by
  have hsound := sound hreach
  refine ⟨?_, ?_, ?_⟩
  · intro principal haccepts
    rw [authenticate_eq, Option.bind_eq_some_iff] at haccepts
    obtain ⟨raw, hraw, hcheck⟩ := haccepts
    exact ⟨raw, hraw,
      checkToken_issuedTo hsound (hunforged raw (Or.inl hraw)) hcheck⟩
  · intro principal haccepts
    rw [realtimeAuthenticate_eq, Option.bind_eq_some_iff] at haccepts
    obtain ⟨raw, hraw, hcheck⟩ := haccepts
    exact ⟨raw, hraw,
      checkToken_issuedTo hsound (hunforged raw (Or.inr hraw)) hcheck⟩
  · intro other hsame
    rw [authenticate_eq, realtimeAuthenticate_eq, hsame]

section Header

theorem bearer_toList (raw : String) :
    ("Bearer " ++ raw).toList =
      ['B', 'e', 'a', 'r', 'e', 'r', ' '] ++ raw.toList := by
  rw [String.toList_append]
  rfl

theorem cutSpace_bearer {raw : String} (hne : raw ≠ "")
    (hclean : ∀ char ∈ raw.toList, isSpace char = false) :
    cutSpace (trimSpace ("Bearer " ++ raw)) = some ("Bearer", raw) := by
  have hnil : raw.toList ≠ [] :=
    fun hnil => hne (String.toList_eq_nil_iff.mp hnil)
  have hback : (("Bearer " ++ raw).toList).rdropWhile isSpace =
      ("Bearer " ++ raw).toList := by
    rw [bearer_toList, List.rdropWhile_eq_self_iff]
    intro hne'
    rw [List.getLast_append_of_ne_nil _ hnil]
    simp [hclean _ (List.getLast_mem hnil)]
  have hfront : (("Bearer " ++ raw).toList).dropWhile isSpace =
      ("Bearer " ++ raw).toList := by
    rw [bearer_toList]
    rfl
  rw [cutSpace, trimSpace]
  rw [hfront, hback, String.toList_ofList, bearer_toList]
  simp [List.span, List.span.loop]

/-- A token without blanks is read back from the header that carries it. -/
theorem bearerToken_bearer {raw : String} (hne : raw ≠ "")
    (hclean : ∀ char ∈ raw.toList, isSpace char = false) :
    bearerToken ("Bearer " ++ raw) = some raw := by
  have hscheme : isBearer "Bearer" = true := by decide +kernel
  rw [bearerToken]
  rw [cutSpace_bearer hne hclean]
  simp [hscheme, trimSpace_eq_self hclean, hne]

theorem extractToken_bearer {raw : String} (hne : raw ≠ "")
    (hclean : ∀ char ∈ raw.toList, isSpace char = false) :
    extractToken ⟨"Bearer " ++ raw, none⟩ = some raw := by
  have hscheme : isBearer "Bearer" = true := by decide +kernel
  have hheader : "Bearer " ++ raw ≠ "" := by
    intro hempty
    have hchars := congrArg String.toList hempty
    rw [bearer_toList] at hchars
    cases hchars
  rw [extractToken]
  simp [hheader, cutSpace_bearer hne hclean, hscheme, trimSpace_eq_self hclean,
    hne]

end Header

section Sample

/-- A field of a token: each character behind a mark, and an end. -/
def writeField : List Char → List Char
  | [] => ['.']
  | char :: rest => '-' :: char :: writeField rest

def readField : List Char → Option (String × List Char)
  | '.' :: rest => some ("", rest)
  | '-' :: char :: rest =>
      (readField rest).map fun (text, rest) =>
        (String.ofList (char :: text.toList), rest)
  | _ => none

theorem readField_writeField (chars rest : List Char) :
    readField (writeField chars ++ rest) =
      some (String.ofList chars, rest) := by
  induction chars with
  | nil => rfl
  | cons char chars ih =>
      change (readField (writeField chars ++ rest)).map _ = _
      rw [ih]
      simp

theorem readField_writeField_nil (chars : List Char) :
    readField (writeField chars) = some (String.ofList chars, []) := by
  simpa using readField_writeField chars []

def writeDate : Option Int → List Char
  | none => []
  | some (.ofNat count) => '+' :: List.replicate count '1'
  | some (.negSucc count) => '-' :: List.replicate count '1'

def readDate (text : String) : Option Int :=
  match text.toList with
  | [] => none
  | '+' :: rest => some (.ofNat rest.length)
  | _ :: rest => some (.negSucc rest.length)

theorem readDate_writeDate (date : Option Int) :
    readDate (String.ofList (writeDate date)) = date := by
  rcases date with _ | count | count
  · rfl
  · simp [readDate, writeDate]
  · simp [readDate, writeDate]

def sampleSign (claims : AccessClaims) : String :=
  String.ofList
    (writeField claims.userID.toList ++ (writeField claims.role.toList ++
      (writeField claims.purpose.toList ++ (writeField claims.subject.toList ++
        (writeField claims.id.toList ++ (writeField claims.issuer.toList ++
          (writeField (writeDate claims.issuedAt) ++
            (writeField (writeDate claims.notBefore) ++
              (writeField (writeDate claims.expiresAt) ++ [])))))))))

def sampleParse (raw : String) : Option AccessClaims := do
  let (userID, rest) ← readField raw.toList
  let (role, rest) ← readField rest
  let (purpose, rest) ← readField rest
  let (subject, rest) ← readField rest
  let (id, rest) ← readField rest
  let (issuer, rest) ← readField rest
  let (issuedAt, rest) ← readField rest
  let (notBefore, rest) ← readField rest
  let (expiresAt, _) ← readField rest
  return ⟨userID, role, purpose, subject, id, issuer, readDate issuedAt,
    readDate notBefore, readDate expiresAt⟩

/-- Tokens as texts that name their claims. -/
def sampleJWT : JWT where
  sign := sampleSign
  parse := sampleParse
  parse_sign claims := by
    simp [sampleSign, sampleParse, readField_writeField,
      readField_writeField_nil, readDate_writeDate]

def sampleAccounts : Accounts where
  manager := ⟨sampleJWT, 10000000000, "linkflow", by decide, by decide⟩
  compare := fun hash password => hash = "hash of " ++ password
  toLower := fun text => text
  sqlLower := fun text => text

def sampleSurroundings : Surroundings where
  ctxErr := none
  hash := .ok "hash of secret"
  newUserID := "user-1"
  users := .ok ()
  markLogin := .ok ()
  newTokenID := .ok "token-1"
  issuedAt := 1000000000
  redis := ⟨none, 1000000000, .ok ()⟩

def emptyState : State := ⟨⟨[], fun _ => none⟩, [], [], []⟩

/-- After one registration. -/
def registeredState : State :=
  emptyState.afterIssue
    (register sampleAccounts emptyState.store sampleSurroundings
      "a@b.c" "secret")

theorem registeredState_reachable :
    (system sampleAccounts).ReachableVia FreshTokenID registeredState := by
  have hstart : (system sampleAccounts).ReachableVia FreshTokenID emptyState :=
    .start ⟨fun _ => rfl, rfl, rfl, rfl⟩
  have hfresh : FreshTokenID emptyState
      (.register "a@b.c" "secret" sampleSurroundings) := by
    intro tokenID _
    exact ⟨fun _ hissued => (List.not_mem_nil hissued).elim, List.not_mem_nil⟩
  exact hstart.next hfresh rfl

def sampleClaims : AccessClaims :=
  accessClaims sampleAccounts.manager "user-1" "user" "token-1" 1000000000

def sampleToken : String := sampleSign sampleClaims

def sampleRequest : Request := ⟨"Bearer " ++ sampleToken, none⟩

def sampleLook : Look := ⟨2000000000, ⟨none, 2000000000, .ok ()⟩⟩

theorem sampleToken_clean :
    ∀ char ∈ sampleToken.toList, isSpace char = false := by
  have hall : (sampleToken.toList.all fun char => !isSpace char) = true := by
    rw [sampleToken, sampleSign]
    rw [String.toList_ofList]
    decide +kernel
  simpa using hall

theorem sampleToken_ne_empty : sampleToken ≠ "" := by
  intro hempty
  have hchars := congrArg String.toList hempty
  rw [sampleToken, sampleSign] at hchars
  rw [String.toList_ofList] at hchars
  revert hchars
  decide +kernel

theorem sampleToken_verified :
    verifyAccessToken sampleAccounts.manager 2000000000 sampleToken =
      .ok sampleClaims := by
  have hparse : sampleAccounts.manager.jwt.parse sampleToken =
      some sampleClaims := sampleJWT.parse_sign sampleClaims
  rw [verifyAccessToken]
  rw [if_neg sampleToken_ne_empty, hparse]
  decide +kernel

theorem sampleRequest_token :
    bearerToken sampleRequest.authorization = some sampleToken ∧
      extractToken sampleRequest = some sampleToken :=
  ⟨bearerToken_bearer sampleToken_ne_empty sampleToken_clean,
    extractToken_bearer sampleToken_ne_empty sampleToken_clean⟩

/-- The returned token is accepted one second later. -/
theorem session_safety_registered :
    authenticate sampleAccounts.manager registeredState.store.redis sampleLook
        sampleRequest = some ⟨"token-1", "user-1", "user"⟩ ∧
      ∃ raw, bearerToken sampleRequest.authorization = some raw ∧
        IssuedTo registeredState sampleLook raw
          ⟨"token-1", "user-1", "user"⟩ := by
  have hunforged : ∀ raw, bearerToken sampleRequest.authorization = some raw ∨
      extractToken sampleRequest = some raw →
      Unforged sampleAccounts.manager registeredState raw := by
    intro raw hraw claims _
    rw [sampleRequest_token.1, sampleRequest_token.2, or_self] at hraw
    exact ⟨_, List.mem_cons_self, Option.some.inj hraw⟩
  have haccepts : authenticate sampleAccounts.manager
      registeredState.store.redis sampleLook sampleRequest =
        some ⟨"token-1", "user-1", "user"⟩ := by
    rw [authenticate_eq, sampleRequest_token.1, Option.bind_some]
    rw [checkToken, sampleLook]
    rw [sampleToken_verified]
    decide +kernel
  exact ⟨haccepts, (session_safety sampleAccounts registeredState_reachable
    sampleLook sampleRequest hunforged).1 _ haccepts⟩

end Sample

end Safety

end Auth

end LinkFlow
