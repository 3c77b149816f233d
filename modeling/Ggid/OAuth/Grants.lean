import Ggid.Lib.Run
import Ggid.OAuth.Repository

/-!
# OAuth service — the authorization code and refresh token grants

`ExchangeAuthorizationCode` and `RefreshToken` over the PostgreSQL repositories.
A refresh is written as a machine: one action per statement it sends to a store,
with the code up to the next statement attached to it. Calls that run at the same
time interleave their actions; a call that runs alone takes them one after the
other (`refreshToken`).

Every statement may fail, and so may signing and the random source; what the
outside contributes to an action is its `Env`. The family registry (`MarkTheft`,
`RegisterRotation`) is written and never read on this path, and the ID token of a
response has no effect on the stores; both are left out, as are the
authorization details passed through Redis.
-/

namespace Ggid.OAuth

open Ggid.Go Ggid.Policy Ggid.Lib

-- ---------------------------------------------------------------------------
-- Stores
-- ---------------------------------------------------------------------------

/-- A refresh token of the auth service: the Redis key `ggid:rt:{hash}` with the
row of `refresh_tokens` its value points to. A key that was read (`GETDEL`) is
`taken`, which stands for no key at all. -/
structure AuthToken where
  hash     : String
  tokenID  : UUID
  tenantID : UUID
  userID   : UUID
  taken    : Bool
  deriving DecidableEq

structure Store where
  codes      : Table CodeRow.id
  tokens     : Table TokenRow.id
  authTokens : Table AuthToken.hash

/-- What the outside contributes to one action of a call. -/
structure Env where
  now        : Time
  /-- The database statement of the action fails. -/
  fails      : Bool
  /-- Redis is configured and answers. -/
  redis      : Bool
  /-- The user's `status`: `none` without a pool, `some none` when no row is found. -/
  userStatus : Option (Option String)
  roleKeys   : List String
  signFails  : Bool
  randFails  : Bool
  /-- `uuid.New()`. -/
  newID      : UUID
  /-- `GenerateRandomToken(32)`. -/
  newToken   : String

-- ---------------------------------------------------------------------------
-- Tokens
-- ---------------------------------------------------------------------------

/-- The claims of an access token. -/
structure AccessToken where
  sub      : UUID
  tenantID : UUID
  aud      : String
  scope    : String
  iat      : Time
  exp      : Time
  amr      : List String
  acr      : String
  authTime : Time
  deriving DecidableEq

structure TokenResponse where
  accessToken  : AccessToken
  refreshToken : String
  scope        : String
  deriving DecidableEq

def resolveAudience (requested fallback : String) : String :=
  if requested = "" ∨ requested = "ggid" ∨ requested = "introspection" then fallback else requested

/-- `issueAccessTokenWithAMR`, when signing succeeds. -/
def issueAccessTokenWithAMR (now : Time) (userID tenantID : UUID) (audience scope : String)
    (amr : List String) (acr : String) (authTime : Time) : AccessToken :=
  ⟨userID, tenantID, audience, normalizeAdminScope scope, now, now + 15 * minute, amr, acr,
    authTime⟩

def issueAccessToken (now : Time) (userID tenantID : UUID) (audience scope : String) :
    AccessToken :=
  issueAccessTokenWithAMR now userID tenantID audience scope [] "" Time.zero

/-- Thirty days. -/
def refreshLifetime : Int := 30 * 24 * 60 * minute

-- ---------------------------------------------------------------------------
-- `RefreshToken`
-- ---------------------------------------------------------------------------

structure RefreshTokenRequest where
  tenantID     : UUID
  clientSecret : String
  refreshToken : String
  scope        : List String
  audience     : String
  deriving DecidableEq

/-- A call past client authentication. -/
structure RefreshCall where
  client : OAuthClient
  req    : RefreshTokenRequest

/-- Where a call is: the statement it sends next, or what it returned. `reused`
says whether `RevokeRefreshTokensByFamily` went through. -/
inductive Phase where
  | lookup
  | authLookup
  | revokeToken (err : GGIDError)
  | consume (record : RefreshTokenRecord) (fromAuthStore : Bool)
  | revokeFamily (record : RefreshTokenRecord)
  | revokeAll (record : RefreshTokenRecord)
  | store (record : RefreshTokenRecord)
  | rejected (err : GGIDError)
  | reused (record : RefreshTokenRecord) (byFamily : Bool)
  | rotated (record successor : RefreshTokenRecord) (resp : TokenResponse)
  deriving DecidableEq

/-- The call has returned. -/
def Phase.finished : Phase → Bool
  | .rejected _ | .reused .. | .rotated .. => true
  | _ => false

/-- Steps 4b to 6b: what follows from the record that was found. -/
def afterLookup (env : Env) (call : RefreshCall) (record : RefreshTokenRecord)
    (fromAuthStore : Bool) : Phase :=
  if record.clientID ≠ UUID.nil ∧ record.clientID ≠ call.client.id then
    .rejected (unauthenticated "refresh token was issued to a different client")
  else if record.used || record.revoked then .revokeFamily record
  else if record.expiresAt < env.now then
    .revokeToken (unauthenticated "refresh token expired")
  else match env.userStatus with
    | none => .consume record fromAuthStore
    | some status =>
      if status = some "active" then .consume record fromAuthStore
      else .revokeToken (unauthenticated "user account is not active")

/-- `lookupAuthRefreshToken` on a key that is there: the record it builds. -/
def authRecord (env : Env) (call : RefreshCall) (a : AuthToken) : Option RefreshTokenRecord :=
  -- without a pool the token's user is unknown
  if env.userStatus.isNone ∨ env.fails ∨ a.tenantID ≠ call.req.tenantID then none
  else some ⟨a.tokenID, call.req.tenantID, call.client.id, a.userID, a.hash, [],
    env.now + refreshLifetime, false, false, Time.zero, ""⟩

/-- The rotation family: inherited, or rooted at the consumed token. -/
def rotationFamily (record : RefreshTokenRecord) : String :=
  if record.familyID = "" then record.id.string else record.familyID

/-- The requested scopes, narrowed to the recorded ones if there are any. -/
def narrowScopes (std : Stdlib) (requested recorded : List String) : List String :=
  if recorded = [] then filterSafeScopes std requested
  else (filterSafeScopes std requested).filter recorded.contains

def accessTokenScope (safeScopes roleKeys : List String) : String :=
  Strings.trimSpace (joinScopes safeScopes ++ " " ++ Strings.join " " roleKeys)

/-- The record of the successor; `CreatedAt` is not set. -/
def successorOf (crypto : Crypto) (std : Stdlib) (env : Env) (call : RefreshCall)
    (record : RefreshTokenRecord) : RefreshTokenRecord :=
  ⟨env.newID, call.req.tenantID, call.client.id, record.userID,
    crypto.hashTokenSHA256 env.newToken, narrowScopes std call.req.scope record.scope,
    env.now + refreshLifetime, false, false, Time.zero, rotationFamily record⟩

def refreshResponse (std : Stdlib) (env : Env) (call : RefreshCall) (record : RefreshTokenRecord) :
    TokenResponse :=
  let scope := accessTokenScope (narrowScopes std call.req.scope record.scope) env.roleKeys
  ⟨issueAccessToken env.now record.userID call.req.tenantID
    (resolveAudience call.req.audience call.client.clientID) scope, env.newToken, scope⟩

/-- One action of a call. -/
def act (crypto : Crypto) (std : Stdlib) (env : Env) (call : RefreshCall) (st : Store) :
    Phase → Store × Phase
  | .lookup =>
    match TokenRepo.getRefreshToken st.tokens call.req.tenantID
        (crypto.hashTokenSHA256 call.req.refreshToken) with
    | some record =>
      if env.fails then (st, .authLookup) else (st, afterLookup env call record false)
    | none => (st, .authLookup)
  | .authLookup =>
    match st.authTokens.find? (crypto.hashTokenSHA256 call.req.refreshToken) with
    | some a =>
      if !env.redis || a.taken then (st, .rejected (unauthenticated "invalid refresh token"))
      else
        -- `GETDEL` removes the key before anything else is looked at
        let st' := { st with
          authTokens := st.authTokens.update (fun b => b.hash = a.hash)
            (fun b => { b with taken := true }) (fun _ => rfl) }
        match authRecord env call a with
        | some record => (st', afterLookup env call record true)
        | none => (st', .rejected (unauthenticated "invalid refresh token"))
    | none => (st, .rejected (unauthenticated "invalid refresh token"))
  | .revokeToken err =>
    if env.fails then (st, .rejected err)
    else ({ st with
      tokens := TokenRepo.revokeRefreshToken st.tokens call.req.tenantID
        (crypto.hashTokenSHA256 call.req.refreshToken) }, .rejected err)
  | .consume record fromAuthStore =>
    if env.fails then
      (st, .rejected (internal "token rotation failed" (.driver "consume refresh token")))
    else
      let consumed := TokenRepo.consumeRefreshToken st.tokens call.req.tenantID
        (crypto.hashTokenSHA256 call.req.refreshToken)
      if !consumed.2 && !fromAuthStore then
        ({ st with tokens := consumed.1 }, .revokeFamily record)
      else ({ st with tokens := consumed.1 }, .store record)
  | .revokeFamily record =>
    if record.familyID = "" ∨ env.fails then (st, .revokeAll record)
    else ({ st with
      tokens := TokenRepo.revokeRefreshTokensByFamily st.tokens call.req.tenantID
        record.familyID }, .reused record true)
  | .revokeAll record =>
    if env.fails then (st, .reused record false)
    else ({ st with
      tokens := TokenRepo.revokeAllRefreshTokens st.tokens call.req.tenantID call.client.id },
      .reused record false)
  | .store record =>
    if env.signFails then (st, .rejected (.driver "sign access token"))
    else if env.randFails then
      (st, .rejected (internal "generate refresh token" (.driver "random source")))
    else if env.fails then
      (st, .rejected (internal "store refresh token" (.driver "store refresh token")))
    else match TokenRepo.storeRefreshToken st.tokens (successorOf crypto std env call record) with
      | none => (st, .rejected (internal "store refresh token" (.driver "store refresh token")))
      | some tokens => ({ st with tokens := tokens },
          .rotated record (successorOf crypto std env call record)
            (refreshResponse std env call record))
  | .rejected err => (st, .rejected err)
  | .reused record byFamily => (st, .reused record byFamily)
  | .rotated record successor resp => (st, .rotated record successor resp)

/-- The actions of a call that runs alone; no call takes more than five. -/
def runAlone (crypto : Crypto) (std : Stdlib) (envs : Nat → Env) (call : RefreshCall) (st : Store) :
    Store × Phase :=
  (List.range 5).foldl (fun s i => act crypto std (envs i) call s.1 s.2) (st, .lookup)

/-- `RefreshToken`, run alone; `found` is what `GetClientByID` returned. -/
def refreshToken (crypto : Crypto) (std : Stdlib) (envs : Nat → Env) (found : Option OAuthClient)
    (req : RefreshTokenRequest) (st : Store) : Store × Phase :=
  match authenticateClient crypto found req.clientSecret with
  | .error err => (st, .rejected err)
  | .ok client =>
    if !client.supportsGrantType "refresh_token" then
      (st, .rejected (invalidArgument "client does not support refresh_token grant"))
    else runAlone crypto std envs ⟨client, req⟩ st

-- ---------------------------------------------------------------------------
-- `ExchangeAuthorizationCode`
-- ---------------------------------------------------------------------------

structure TokenExchangeRequest where
  code         : String
  redirectURI  : String
  clientSecret : String
  codeVerifier : String
  audience     : String
  deriving DecidableEq

/-- What the outside contributes to an exchange: the clock, the random source, and
which of its statements fail. -/
structure ExchangeEnv where
  now          : Time
  consumeFails : Bool
  signFails    : Bool
  randFails    : Bool
  storeFails   : Bool
  newID        : UUID
  newToken     : String

/-- `mergeOAuthScopes`: the scopes as they are. -/
def mergeOAuthScopes (oauthScopes : String) : String := joinScopes (splitScopes oauthScopes)

/-- The record `issueRefreshTokenRecord` stores; it roots a family of its own. -/
def rootRecord (crypto : Crypto) (env : ExchangeEnv) (client : OAuthClient)
    (code : AuthorizationCode) : RefreshTokenRecord :=
  ⟨env.newID, code.tenantID, client.id, code.userID, crypto.hashTokenSHA256 env.newToken,
    code.scope, env.now + refreshLifetime, false, false, env.now, env.newID.string⟩

/-- The access token of an exchange. -/
def exchangeAccessToken (env : ExchangeEnv) (client : OAuthClient) (req : TokenExchangeRequest)
    (code : AuthorizationCode) : AccessToken :=
  issueAccessTokenWithAMR env.now code.userID code.tenantID
    (resolveAudience req.audience client.clientID) (mergeOAuthScopes (joinScopes code.scope))
    code.amr code.acr code.authTime

/-- Step 9: a refresh token, for a client that asked for one and may have it. -/
def wantsRefreshToken (client : OAuthClient) (code : AuthorizationCode) : Bool :=
  code.scope.contains "offline_access" && client.supportsGrantType "refresh_token"

/-- Steps 5 to 9, once the code is consumed. -/
def exchangeConsumed (crypto : Crypto) (env : ExchangeEnv) (client : OAuthClient)
    (req : TokenExchangeRequest) (code : AuthorizationCode) (st : Store) :
    Store × Except GGIDError TokenResponse :=
  if code.clientID ≠ client.id then
    (st, .error (invalidArgument "authorization code was issued to a different client"))
  else if code.redirectURI ≠ req.redirectURI then
    (st, .error (invalidArgument "redirect_uri mismatch"))
  else if !code.validatePKCE crypto req.codeVerifier then
    (st, .error (invalidArgument "PKCE verification failed"))
  else if env.signFails then (st, .error (.driver "sign access token"))
  else if !wantsRefreshToken client code then
    (st, .ok ⟨exchangeAccessToken env client req code, "", joinScopes code.scope⟩)
  else if env.randFails then
    (st, .error (internal "generate refresh token" (.driver "random source")))
  else if env.storeFails then
    (st, .error (internal "store refresh token" (.driver "store refresh token")))
  else match TokenRepo.storeRefreshToken st.tokens (rootRecord crypto env client code) with
    | none => (st, .error (internal "store refresh token" (.driver "store refresh token")))
    | some tokens => ({ st with tokens := tokens },
        .ok ⟨exchangeAccessToken env client req code, env.newToken, joinScopes code.scope⟩)

/-- `ExchangeAuthorizationCode`. A consumed code stays consumed whatever happens
afterwards. -/
def exchangeAuthorizationCode (crypto : Crypto) (env : ExchangeEnv) (found : Option OAuthClient)
    (req : TokenExchangeRequest) (st : Store) : Store × Except GGIDError TokenResponse :=
  match authenticateClient crypto found req.clientSecret with
  | .error err => (st, .error err)
  | .ok client =>
    if env.consumeFails then
      (st, .error (.wrap .internal "consume code" (.driver "consume code")))
    else match CodeRepo.consumeCode st.codes env.now (crypto.hashCode req.code) with
    | .error err => (st, .error err)
    | .ok (code, codes) =>
      exchangeConsumed crypto env client req code { st with codes := codes }

end Ggid.OAuth
