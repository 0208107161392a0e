/-
Access tokens and their Redis sessions: the token manager, the session store,
the account service that issues and revokes tokens, and the two functions that
check a request.
-/
import LinkFlow.Rfc3339
import LinkFlow.Text
import Mathlib.Logic.Function.Basic

namespace LinkFlow

namespace Auth

structure AuthSession where
  tokenID : String
  userID : String
  role : String
  expiresAt : Int
deriving Repr, DecidableEq

structure Principal where
  tokenID : String
  userID : String
  role : String
deriving Repr, DecidableEq

structure IssuedAccessToken where
  raw : String
  tokenID : String
  userID : String
  role : String
  expiresAt : Int
deriving Repr, DecidableEq

/-- The error sentinels of the services, and other errors by their text. -/
inductive Failure where
  | invalidToken
  | expiredToken
  | authSessionNotFound
  | invalidAuthInput
  | invalidCredentials
  | userAlreadyExists
  | userDisabled
  | text (message : String)
  | wrap (context : String) (err : Failure)
deriving Repr, DecidableEq

section Tokens

/-- `AccessClaims`.  The three times are whole seconds. -/
structure AccessClaims where
  userID : String
  role : String
  purpose : String
  subject : String
  id : String
  issuer : String
  issuedAt : Option Int
  notBefore : Option Int
  expiresAt : Option Int
deriving Repr, DecidableEq

/-- The JWT library with HS256 and the server's secret.  `parse` decodes a text
and checks its signature; it reads back what was signed. -/
structure JWT where
  sign : AccessClaims → String
  parse : String → Option AccessClaims
  parse_sign : ∀ claims, parse (sign claims) = some claims

/-- `JWTManager`, as `NewJWTManager` builds it. -/
structure JWTManager where
  jwt : JWT
  ttl : Int
  issuer : String
  ttl_pos : 0 < ttl
  issuer_ne : issuer ≠ ""

def accessTokenPurpose : String := "access"

/-- `jwt.NewNumericDate` -/
def newNumericDate (time : Int) : Int := time / 1000000000

/-- A numeric date as a time. -/
def ofNumericDate (seconds : Int) : Int := seconds * 1000000000

theorem ofNumericDate_le (time : Int) :
    ofNumericDate (newNumericDate time) ≤ time := by
  rw [ofNumericDate, newNumericDate]
  omega

variable (manager : JWTManager)

/-- The claims `IssueAccessToken` signs. -/
def accessClaims (userID role tokenID : String) (now : Int) : AccessClaims where
  userID := userID
  role := role
  purpose := accessTokenPurpose
  subject := userID
  id := tokenID
  issuer := manager.issuer
  issuedAt := some (newNumericDate now)
  notBefore := some (newNumericDate now)
  expiresAt := some (newNumericDate (now + manager.ttl))

/-- `JWTManager.IssueAccessToken` -/
def issueAccessToken (userID role : String) (newTokenID : Except String String)
    (now : Int) : Except Failure IssuedAccessToken :=
  if userID = "" then .error (.text "user id is required")
  else if role = "" then .error (.text "role is required")
  else
    match newTokenID with
    | .error err => .error (.wrap "new token id" (.text err))
    | .ok tokenID =>
        .ok
          { raw :=
              manager.jwt.sign (accessClaims manager userID role tokenID now)
            tokenID := tokenID
            userID := userID
            role := role
            expiresAt := now + manager.ttl }

/-- The claims validator: `exp` is required and ahead, `iat` and `nbf` are not,
and the issuer is the expected one. -/
def validateClaims (now : Int) (claims : AccessClaims) : Except Failure Unit :=
  match claims.expiresAt with
  | none => .error .invalidToken
  | some expiresAt =>
      if ofNumericDate expiresAt ≤ now then .error .expiredToken
      else if claims.issuedAt.any fun date => now < ofNumericDate date then
        .error .invalidToken
      else if claims.notBefore.any fun date => now < ofNumericDate date then
        .error .invalidToken
      else if claims.issuer ≠ manager.issuer then .error .invalidToken
      else .ok ()

/-- `JWTManager.VerifyAccessToken` -/
def verifyAccessToken (now : Int) (raw : String) :
    Except Failure AccessClaims :=
  if raw = "" then .error .invalidToken
  else
    match manager.jwt.parse raw with
    | none => .error .invalidToken
    | some claims =>
        match validateClaims manager now claims with
        | .error err => .error err
        | .ok () =>
            if claims.subject = "" || claims.userID = "" ||
                claims.subject ≠ claims.userID then .error .invalidToken
            else if claims.id = "" then .error .invalidToken
            else if claims.role = "" then .error .invalidToken
            else if claims.purpose ≠ accessTokenPurpose then
              .error .invalidToken
            else .ok claims

end Tokens

section Sessions

/-- The session keys of Redis.  A value is the JSON text of a session, which
reads back as the session it was made from. -/
abbrev Redis := String → Option AuthSession

def authAccessSessionKey (tokenID : String) : String :=
  "auth:access:" ++ tokenID

/-- What one call of the session store meets.  A command is carried out and
reported, or neither. -/
structure RedisCall where
  ctxErr : Option String
  now : Int
  command : Except String Unit

/-- `CreateAccessSession` -/
def createAccessSession (redis : Redis) (call : RedisCall)
    (session : AuthSession) : Except Failure Redis :=
  match call.ctxErr with
  | some err => .error (.text err)
  | none =>
      if session.tokenID = "" then
        .error (.text "auth session token id is required")
      else if session.userID = "" then
        .error (.text "auth session user id is required")
      else if session.role = "" then
        .error (.text "auth session role is required")
      else if session.expiresAt ≤ call.now then
        .error (.text "auth session expires_at must be in the future")
      else
        match call.command with
        | .error err => .error (.wrap "set auth session" (.text err))
        | .ok () =>
            .ok (Function.update redis (authAccessSessionKey session.tokenID)
              (some session))

/-- `ValidateAccessSession` -/
def validateAccessSession (redis : Redis) (call : RedisCall)
    (tokenID : String) : Except Failure AuthSession :=
  match call.ctxErr with
  | some err => .error (.text err)
  | none =>
      if tokenID = "" then .error .authSessionNotFound
      else
        match call.command with
        | .error err => .error (.wrap "get auth session" (.text err))
        | .ok () =>
            match redis (authAccessSessionKey tokenID) with
            | none => .error .authSessionNotFound
            | some session =>
                if session.tokenID = "" || session.userID = "" ||
                    session.role = "" then
                  .error (.text "auth session is incomplete")
                else if session.expiresAt ≠ zeroTime &&
                    session.expiresAt < call.now then
                  .error .authSessionNotFound
                else .ok session

/-- `DeleteAccessSession` -/
def deleteAccessSession (redis : Redis) (call : RedisCall)
    (tokenID : String) : Except Failure Redis :=
  match call.ctxErr with
  | some err => .error (.text err)
  | none =>
      if tokenID = "" then .ok redis
      else
        match call.command with
        | .error err => .error (.wrap "delete auth session" (.text err))
        | .ok () =>
            .ok (Function.update redis (authAccessSessionKey tokenID) none)

end Sessions

section Accounts

structure AuthUser where
  id : String
  email : String
  passwordHash : String
  role : String
  status : String
deriving Repr, DecidableEq

/-- The users table and the session keys. -/
structure Store where
  users : List AuthUser
  redis : Redis

structure AuthResult where
  userID : String
  email : String
  role : String
  accessToken : String
  tokenType : String
deriving Repr, DecidableEq

/-- What a call leaves behind: its result, the stores, and the token it signed,
whether or not it was handed out. -/
structure Reply (α : Type) where
  result : Except Failure α
  store : Store
  signed : Option IssuedAccessToken

/-- Fixed parts of the account service: bcrypt's comparison, and the lower case
of an e-mail address in Go and in PostgreSQL. -/
structure Accounts where
  manager : JWTManager
  compare : String → String → Bool
  toLower : String → String
  sqlLower : String → String

/-- What one call of the account service meets: the context, each outside call
and its answer. -/
structure Surroundings where
  ctxErr : Option String
  hash : Except String String
  newUserID : String
  users : Except String Unit
  markLogin : Except String Unit
  newTokenID : Except String String
  issuedAt : Int
  redis : RedisCall

variable (accounts : Accounts) (store : Store) (out : Surroundings)

def defaultAuthUserRole : String := "user"
def activeUserStatus : String := "active"
def disabledUserStatus : String := "disabled"

def normalizeAuthEmail (email : String) : String :=
  accounts.toLower (trimSpace email)

/-- `AuthService.issue` -/
def issue (user : AuthUser) : Reply AuthResult :=
  match issueAccessToken accounts.manager user.id user.role out.newTokenID
      out.issuedAt with
  | .error err => ⟨.error (.wrap "issue access token" err), store, none⟩
  | .ok issued =>
      match createAccessSession store.redis out.redis
          ⟨issued.tokenID, issued.userID, issued.role, issued.expiresAt⟩ with
      | .error err =>
          ⟨.error (.wrap "create access session" err), store, some issued⟩
      | .ok redis =>
          { result := .ok ⟨user.id, user.email, user.role, issued.raw, "Bearer"⟩
            store := { store with redis := redis }
            signed := some issued }

def refuse {α : Type} (err : Failure) : Reply α := ⟨.error err, store, none⟩

/-- `CreateUser`: the row that is inserted, unless its e-mail is taken. -/
def createUser (email passwordHash role : String) : Except Failure AuthUser :=
  match out.users with
  | .error err => .error (.wrap "insert user" (.text err))
  | .ok () =>
      if store.users.any fun user =>
          accounts.sqlLower user.email = accounts.sqlLower email then
        .error .userAlreadyExists
      else .ok ⟨out.newUserID, email, passwordHash, role, activeUserStatus⟩

/-- `FindUserByEmail` -/
def findUserByEmail (email : String) : Except Failure AuthUser :=
  match out.users with
  | .error err => .error (.wrap "find user by email" (.text err))
  | .ok () =>
      match store.users.find? fun user =>
          accounts.sqlLower user.email = accounts.sqlLower email with
      | none => .error .invalidCredentials
      | some user => .ok user

/-- `AuthService.Register` -/
def register (email password : String) : Reply AuthResult :=
  match out.ctxErr with
  | some err => refuse store (.text err)
  | none =>
      let email := normalizeAuthEmail accounts email
      if email = "" || password = "" then refuse store .invalidAuthInput
      else
        match out.hash with
        | .error err => refuse store (.wrap "hash password" (.text err))
        | .ok hash =>
            match createUser accounts store out email hash
                defaultAuthUserRole with
            | .error err => refuse store err
            | .ok user =>
                issue accounts { store with users := store.users ++ [user] }
                  out user

/-- `AuthService.Login`.  `MarkLogin` writes columns that nothing here reads. -/
def login (email password : String) : Reply AuthResult :=
  match out.ctxErr with
  | some err => refuse store (.text err)
  | none =>
      let email := normalizeAuthEmail accounts email
      if email = "" || password = "" then refuse store .invalidAuthInput
      else
        match findUserByEmail accounts store out email with
        | .error err => refuse store err
        | .ok user =>
            if user.status = disabledUserStatus then refuse store .userDisabled
            else if user.status ≠ activeUserStatus then
              refuse store .invalidCredentials
            else if !accounts.compare user.passwordHash password then
              refuse store .invalidCredentials
            else
              match out.markLogin with
              | .error err =>
                  refuse store (.wrap "mark user login" (.text err))
              | .ok () => issue accounts store out user

/-- `AuthService.Logout` -/
def logout (tokenID userID : String) : Reply Unit :=
  match out.ctxErr with
  | some err => refuse store (.text err)
  | none =>
      if trimSpace tokenID = "" || trimSpace userID = "" then
        refuse store .invalidAuthInput
      else
        match deleteAccessSession store.redis out.redis tokenID with
        | .error err => refuse store (.wrap "delete access session" err)
        | .ok redis => ⟨.ok (), { store with redis := redis }, none⟩

end Accounts

section Requests

/-- The header and the cookie that carry a token. -/
structure Request where
  authorization : String
  cookie : Option String
deriving Repr, DecidableEq

/-- `strings.Cut(text, " ")` -/
def cutSpace (text : String) : Option (String × String) :=
  match text.toList.span (· ≠ ' ') with
  | (before, _ :: after) => some (String.ofList before, String.ofList after)
  | (_, []) => none

/-- `strings.EqualFold(scheme, "Bearer")`; no letter of it folds with one
outside ASCII. -/
def isBearer (scheme : String) : Bool :=
  scheme.toList.map Char.toLower = ['b', 'e', 'a', 'r', 'e', 'r']

/-- `bearerToken` -/
def bearerToken (header : String) : Option String :=
  match cutSpace (trimSpace header) with
  | none => none
  | some (scheme, raw) =>
      if !isBearer scheme then none
      else
        let raw := trimSpace raw
        if raw = "" then none else some raw

/-- `RealtimeHandler.extractToken`: the cookie, then the header. -/
def extractToken (request : Request) : Option String :=
  let fromHeader : Option String :=
    if request.authorization = "" then none
    else
      match cutSpace (trimSpace request.authorization) with
      | none => none
      | some (scheme, raw) =>
          if isBearer scheme then
            let raw := trimSpace raw
            if raw ≠ "" then some raw else none
          else none
  match request.cookie with
  | none => fromHeader
  | some value =>
      let value := trimSpace value
      if value ≠ "" then some value else fromHeader

/-- What the check of one request meets: the clock of the token manager, and the
call of the session store. -/
structure Look where
  verifiedAt : Int
  redis : RedisCall

variable (manager : JWTManager) (redis : Redis) (look : Look)

/-- The middleware's `Authenticate`: the principal the next handler is given. -/
def authenticate (request : Request) : Option Principal :=
  match bearerToken request.authorization with
  | none => none
  | some raw =>
      match verifyAccessToken manager look.verifiedAt raw with
      | .error _ => none
      | .ok claims =>
          match validateAccessSession redis look.redis claims.id with
          | .error .authSessionNotFound => none
          | .error _ => none
          | .ok session =>
              if session.userID ≠ claims.userID ||
                  session.role ≠ claims.role then
                none
              else some ⟨session.tokenID, session.userID, session.role⟩

/-- `RealtimeHandler.authenticate` -/
def realtimeAuthenticate (request : Request) : Option Principal :=
  match extractToken request with
  | none => none
  | some raw =>
      match verifyAccessToken manager look.verifiedAt raw with
      | .error _ => none
      | .ok claims =>
          match validateAccessSession redis look.redis claims.id with
          | .error _ => none
          | .ok session =>
              if session.userID ≠ claims.userID ||
                  session.role ≠ claims.role then
                none
              else some ⟨session.tokenID, session.userID, session.role⟩

end Requests

end Auth

end LinkFlow
