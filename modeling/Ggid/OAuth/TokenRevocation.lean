import Ggid.Lib.Tiers
import Ggid.OAuth.TokenExchange
import Ggid.OAuth.TokenFamily

/-!
# OAuth service — token revocation (RFC 7009)

`RevokeToken` and `IsTokenRevoked` on one instance, with the reaper that sweeps its
`revokedTokens`, and with `RefreshToken` over the same repository. A revocation is
recorded in one place: under `oauth:revoked:` in Redis if Redis takes it, in
`revokedTokens` otherwise. Redis drops an entry when its TTL has passed.

What becomes of the key `ggid:revoked_jti` and of the auth service's
`refresh_tokens.revoked` is not read by any of these functions and left out.

* `revoked_until_expiry`     — a revoked token is reported, and a refresh token
  rejected, at every later time before its expiry, if every revocation of it is
  recorded for that long;
* `revoked_and_accepted`     — without Redis an access token that is revoked as a
  refresh token is not recorded anywhere; a refresh token with Redis is for a day.
-/

namespace Ggid.OAuth

open Ggid.Go Ggid.Policy Ggid.Lib

-- ---------------------------------------------------------------------------
-- Time
-- ---------------------------------------------------------------------------

/-- The largest `time.Duration`, 292 years. -/
def maxDuration : Int := 2 ^ 63 - 1

/-- `t.Sub(now)`, which saturates. -/
def timeUntil (now t : Time) : Int := max (-2 ^ 63) (min (t - now) maxDuration)

def day : Int := 24 * 60 * minute

/-- What `Set` with a TTL makes of a key; without a positive TTL it stays. -/
def redisEntry (now : Time) (value : String) (ttl : Int) : Stored String :=
  ⟨value, if 0 < ttl then some (now + ttl) else none⟩

-- ---------------------------------------------------------------------------
-- The service
-- ---------------------------------------------------------------------------

/-- What stays the same between calls. -/
structure RevocationService where
  issuer    : String
  crypto    : Crypto
  std       : Stdlib
  /-- The claims in the text of a JWT; any other text has none. -/
  payload   : String → Option GoMap
  /-- `uuid.Parse`. -/
  parseUUID : String → Option UUID

/-- What the outside contributes to a call. -/
structure RevocationEnv where
  now       : Time
  /-- Redis is configured and answers. -/
  redis     : Bool
  /-- There is a token repository, and `RevokeRefreshToken` goes through. -/
  tokenRepo : Bool
  /-- There is a pool, and the statements on `sessions` go through. -/
  pool      : Bool
  /-- There is a pool, and the cascading update goes through. -/
  cascades  : Bool
  /-- `jwt.ParseWithClaims` accepts the text, under the current key and at this time. -/
  accepts   : String → Bool

/-- A row of `sessions`. -/
structure SessionRow where
  jti       : String
  revokedAt : Option Time
  deriving DecidableEq

structure RevocationState where
  /-- When the last call was made. -/
  clock         : Time
  /-- `oauth:revoked:` in Redis, by token hash. -/
  redis         : String → Option (Stored String)
  /-- The local map, with the expiry in seconds. -/
  revokedTokens : String → Option Int
  sessions      : List SessionRow
  store         : Store

def getInt64Claim (claims : GoMap) (key : String) : Int :=
  match claims.lookup key with
  | some (.float64 x) => x.toInt
  | _ => 0

/-- When a token with these claims expires; a zero stands for never. -/
def claimsExpiry (claims : GoMap) : Option Time :=
  if getInt64Claim claims "exp" = 0 then none else some (getInt64Claim claims "exp" * second)

/-- `ParseAccessToken`. -/
def RevocationService.parseAccessToken (svc : RevocationService) (env : RevocationEnv)
    (tokenStr : String) : Option GoMap :=
  match svc.payload tokenStr with
  | none => none
  | some claims =>
    if !env.accepts tokenStr then none
    else if getStringClaim claims "iss" ≠ "" ∧ getStringClaim claims "iss" ≠ svc.issuer then none
    else some claims

namespace RevocationState

def setRedis (p : RevocationState) (tokenHash : String) (entry : Stored String) :
    RevocationState :=
  { p with redis := Function.update p.redis tokenHash (some entry) }

def setLocal (p : RevocationState) (tokenHash : String) (exp : Int) : RevocationState :=
  { p with revokedTokens := Function.update p.revokedTokens tokenHash (some exp) }

theorem taken_hash (a : AuthToken) : { a with taken := true }.hash = a.hash := rfl

/-- `DEL ggid:rt:{hash}`. -/
def deleteAuthToken (p : RevocationState) (tokenHash : String) : RevocationState :=
  { p with store := { p.store with
      authTokens := p.store.authTokens.update (fun a => a.hash = tokenHash)
        (fun a => { a with taken := true }) taken_hash } }

def setTokens (p : RevocationState) (tokens : Table TokenRow.id) : RevocationState :=
  { p with store := { p.store with tokens := tokens } }

/-- `UPDATE sessions SET revoked_at = NOW() WHERE jti = $1 AND revoked_at IS NULL`. -/
def revokeSessions (p : RevocationState) (now : Time) (jti : String) : RevocationState :=
  { p with sessions := p.sessions.map fun row =>
      if row.jti = jti ∧ row.revokedAt = none then { row with revokedAt := some now } else row }

end RevocationState

/-- Which way a revocation goes: the hint, or a text that cannot be a JWT. -/
def isRefreshPath (tokenStr : String) (tokenTypeHint : List String) : Bool :=
  tokenTypeHint.head? = some "refresh_token" || !tokenStr.toList.contains '.'

/-- The refresh token branch of `RevokeToken`. Failures are logged and passed over. -/
def revokeAsRefreshToken (env : RevocationEnv) (p : RevocationState) (tokenHash : String) :
    RevocationState :=
  let p' := if env.tokenRepo then
      p.setTokens (TokenRepo.revokeRefreshToken p.store.tokens UUID.nil tokenHash)
    else p
  if env.redis then
    (p'.setRedis tokenHash (redisEntry env.now "0" day)).deleteAuthToken tokenHash
  else p'

namespace RevocationService

/-- The refresh tokens of the user, and of the client if the token names one. The
column `client_id` is a UUID: with any other text the statement fails. -/
def cascadeRows (svc : RevocationService) (claims : GoMap) (r : TokenRow) : Bool :=
  let tenantID := (svc.parseUUID (getStringClaim claims "tenant_id")).getD UUID.nil
  let userID := (svc.parseUUID (getStringClaim claims "sub")).getD UUID.nil
  let clientID := getStringClaim claims "aud"
  getStringClaim claims "tenant_id" ≠ "" && getStringClaim claims "sub" ≠ "" &&
    tenantID ≠ UUID.nil && userID ≠ UUID.nil && r.tenantID = tenantID && r.userID = userID &&
    (clientID = "" || svc.parseUUID clientID = some r.clientID) && !r.revoked

theorem revoke_id (r : TokenRow) : (TokenRepo.revoke r).id = r.id := rfl

/-- The cascade: the user's refresh tokens of the same client. -/
def cascade (svc : RevocationService) (env : RevocationEnv) (p : RevocationState)
    (claims : GoMap) : RevocationState :=
  if env.cascades then
    p.setTokens (p.store.tokens.update (svc.cascadeRows claims) TokenRepo.revoke revoke_id)
  else p

/-- `RevokeToken`, which always returns `nil`. -/
def revokeToken (svc : RevocationService) (env : RevocationEnv) (p : RevocationState)
    (tokenStr : String) (tokenTypeHint : List String) : RevocationState :=
  let tokenHash := svc.crypto.hashTokenSHA256 tokenStr
  if tokenStr = "" then p
  else if isRefreshPath tokenStr tokenTypeHint then revokeAsRefreshToken env p tokenHash
  else match svc.parseAccessToken env tokenStr with
    | none =>
      if env.redis then p.setRedis tokenHash (redisEntry env.now "0" day)
      else p.setLocal tokenHash 0
    | some claims =>
      let exp := getInt64Claim claims "exp"
      let ttl := if 0 < exp then max 0 (timeUntil env.now (exp * second)) else 0
      let p' := svc.cascade env p claims
      if env.redis then
        let p'' := p'.setRedis tokenHash (redisEntry env.now (toString exp) ttl)
        let jti := getStringClaim claims "jti"
        if jti ≠ "" ∧ 0 < exp ∧ env.pool then p''.revokeSessions env.now jti else p''
      else p'.setLocal tokenHash exp

/-- The database check of `IsTokenRevoked`: the session of the token is revoked. -/
def revokedSession (svc : RevocationService) (env : RevocationEnv) (p : RevocationState)
    (tokenStr : String) : Option GoMap :=
  (svc.parseAccessToken env tokenStr).filter fun claims =>
    let jti := getStringClaim claims "jti"
    jti ≠ "" && env.pool && p.sessions.any fun row => row.jti = jti && row.revokedAt.isSome

/-- `IsTokenRevoked`; what the database says is cached. -/
def isTokenRevoked (svc : RevocationService) (env : RevocationEnv) (p : RevocationState)
    (tokenStr : String) : RevocationState × Bool :=
  let tokenHash := svc.crypto.hashTokenSHA256 tokenStr
  if env.redis && (p.redis tokenHash).any (Stored.live env.now) then (p, true)
  else if (p.revokedTokens tokenHash).isSome then (p, true)
  else match svc.revokedSession env p tokenStr with
    | none => (p, false)
    | some claims =>
      let exp := getInt64Claim claims "exp"
      let ttl := if 0 < exp then timeUntil env.now (exp * second) else 0
      let p' := if env.redis then p.setRedis tokenHash (redisEntry env.now "1" ttl) else p
      (p'.setLocal tokenHash exp, true)

end RevocationService

/-- One tick of `startExpiredEntryReaper`, as far as `revokedTokens` goes. -/
def sweepRevokedTokens (env : RevocationEnv) (p : RevocationState) : RevocationState :=
  { p with revokedTokens := fun tokenHash => (p.revokedTokens tokenHash).filter fun exp =>
      !(0 < exp && exp < unix env.now) }

-- ---------------------------------------------------------------------------
-- Runs
-- ---------------------------------------------------------------------------

inductive RevocationOp where
  | revokeToken (tokenStr : String) (tokenTypeHint : List String)
  | isTokenRevoked (tokenStr : String)
  | refreshToken (found : Option OAuthClient) (req : RefreshTokenRequest) (envs : Nat → Env)
  | sweep

def revocationStep (svc : RevocationService) (p : RevocationState)
    (e : RevocationOp × RevocationEnv) : RevocationState :=
  let p' := { p with clock := e.2.now }
  match e.1 with
  | .revokeToken tokenStr tokenTypeHint => svc.revokeToken e.2 p' tokenStr tokenTypeHint
  | .isTokenRevoked tokenStr => (svc.isTokenRevoked e.2 p' tokenStr).1
  | .refreshToken found req envs =>
    { p' with store := (refreshToken svc.crypto svc.std envs found req p.store).1 }
  | .sweep => sweepRevokedTokens e.2 p'

def Expired (expiresAt : Option Time) (now : Time) : Prop := ∃ t, expiresAt = some t ∧ t ≤ now

section Claim

variable (svc : RevocationService) (tokenStr : String) (expiresAt : Option Time)

/-- The call treats the token as revoked, if the call is about it. -/
def TreatsAsRevoked (p : RevocationState) (e : RevocationOp × RevocationEnv) : Prop :=
  match e.1 with
  | .isTokenRevoked s =>
    s = tokenStr → ¬ Expired expiresAt e.2.now → (svc.isTokenRevoked e.2 p tokenStr).2 = true
  | .refreshToken found req envs =>
    req.refreshToken = tokenStr → ∀ record successor resp,
      (refreshToken svc.crypto svc.std envs found req p.store).2 ≠ .rotated record successor resp
  | _ => True

/-- The clock does not run backwards, and neither SHA-256 nor the random source repeats
itself: no other token that is revoked or issued has the hash of this one. -/
def Distinct (p : RevocationState) (e : RevocationOp × RevocationEnv) : Prop :=
  p.clock ≤ e.2.now ∧
  match e.1 with
  | .revokeToken s _ =>
    svc.crypto.hashTokenSHA256 s = svc.crypto.hashTokenSHA256 tokenStr → s = tokenStr
  | .refreshToken _ _ envs =>
    ∀ i, svc.crypto.hashTokenSHA256 (envs i).newToken ≠ svc.crypto.hashTokenSHA256 tokenStr
  | _ => True

/-- What lasts until this time, or for good, is there as long as the token is valid. -/
def Outlasts (deadline expiresAt : Option Time) : Prop :=
  ∀ d, deadline = some d → Expired expiresAt d

/-- The reaper leaves an entry of `revokedTokens` alone until then. -/
def sweepDeadline (exp : Int) : Option Time := if 0 < exp then some (exp * second) else none

def ListedLocally (p : RevocationState) (tokenHash : String) : Prop :=
  ∃ exp, p.revokedTokens tokenHash = some exp ∧ Outlasts (sweepDeadline exp) expiresAt

def ListedInRedis (p : RevocationState) (tokenHash : String) : Prop :=
  ∃ entry, p.redis tokenHash = some entry ∧ Outlasts entry.deadline expiresAt

/-- A token that can no longer be refreshed. -/
structure Refused (st : Store) (tokenHash : String) : Prop where
  tokens     : ∀ r ∈ st.tokens, r.tokenHash = tokenHash → r.live = false
  authTokens : ∀ a ∈ st.authTokens, a.hash = tokenHash → a.taken = true

/-- The TTL a revocation gives its Redis entry reaches the expiry of the token: it is a
day where the token is not read as a JWT. -/
def TTLSuffices (env : RevocationEnv) (tokenTypeHint : List String) : Prop :=
  if isRefreshPath tokenStr tokenTypeHint ∨ svc.parseAccessToken env tokenStr = none then
    Expired expiresAt (env.now + day)
  else ∀ t, expiresAt = some t → t ≤ env.now + maxDuration

/-- The revocation is recorded until the token expires, and it takes the branch that
ends a refresh token if the token is one. -/
structure RevokesForGood (p : RevocationState) (env : RevocationEnv)
    (tokenTypeHint : List String) : Prop where
  nonempty   : tokenStr ≠ ""
  inRedis    : env.redis = true → TTLSuffices svc tokenStr expiresAt env tokenTypeHint ∨
    ListedLocally expiresAt p (svc.crypto.hashTokenSHA256 tokenStr)
  locally    : env.redis = false → isRefreshPath tokenStr tokenTypeHint = true →
    ListedLocally expiresAt p (svc.crypto.hashTokenSHA256 tokenStr) ∨
      ListedInRedis expiresAt p (svc.crypto.hashTokenSHA256 tokenStr)
  tokens     : isRefreshPath tokenStr tokenTypeHint = true ∧ env.tokenRepo = true ∨
    ∀ r ∈ p.store.tokens, r.tokenHash = svc.crypto.hashTokenSHA256 tokenStr → r.live = false
  authTokens : isRefreshPath tokenStr tokenTypeHint = true ∧ env.redis = true ∨
    ∀ a ∈ p.store.authTokens, a.hash = svc.crypto.hashTokenSHA256 tokenStr → a.taken = true

/-- Every revocation of the token is for good; a check of it reaches Redis, unless the
local map or the database has the answer. -/
def RevocationLasts (p : RevocationState) (e : RevocationOp × RevocationEnv) : Prop :=
  match e.1 with
  | .revokeToken s tokenTypeHint =>
    s = tokenStr → RevokesForGood svc tokenStr expiresAt p e.2 tokenTypeHint
  | .isTokenRevoked s =>
    s = tokenStr → e.2.redis = true ∨
      p.revokedTokens (svc.crypto.hashTokenSHA256 tokenStr) ≠ none ∨
        svc.revokedSession e.2 p tokenStr ≠ none
  | _ => True

end Claim

-- ---------------------------------------------------------------------------
-- Refused refresh tokens
-- ---------------------------------------------------------------------------

theorem Refused.of_ages {st st' : Store} {tokenHash : String} (h : Refused st tokenHash)
    (hages : Ages st.tokens st'.tokens)
    (hauth : ∀ a ∈ st'.authTokens, a ∈ st.authTokens ∨ a.taken = true) :
    Refused st' tokenHash := by
  refine ⟨fun r hr hhash => ?_, fun a ha hhash => ?_⟩
  · obtain ⟨q, hq, hsame, hlive⟩ := hages.back r hr
    by_contra hr'
    -- a row that is live was there, live, before
    have heq : r = q := hlive (by simpa using hr')
    rw [heq] at hhash hr'
    exact hr' (h.tokens q hq hhash)
  · rcases hauth a ha with hold | htaken
    · exact h.authTokens a hold hhash
    · exact htaken

theorem mem_taken {t : Table AuthToken.hash} {q : AuthToken → Bool}
    {a : AuthToken} (hf : ∀ b : AuthToken, { b with taken := true }.hash = b.hash)
    (h : a ∈ t.update q (fun b => { b with taken := true }) hf) : a ∈ t ∨ a.taken = true := by
  rcases Table.mem_update.mp h with ⟨b, -, -, rfl⟩ | ⟨hold, -⟩
  · exact Or.inr rfl
  · exact Or.inl hold

theorem taken_of_mem {t : Table AuthToken.hash} {tokenHash : String} {a : AuthToken}
    (hf : ∀ b : AuthToken, { b with taken := true }.hash = b.hash)
    (h : a ∈ t.update (fun b => b.hash = tokenHash) (fun b => { b with taken := true }) hf)
    (hhash : a.hash = tokenHash) : a.taken = true := by
  rcases Table.mem_update.mp h with ⟨b, -, -, rfl⟩ | ⟨-, hother⟩
  · rfl
  · simp [hhash] at hother

section Refresh

variable {crypto : Crypto} {std : Stdlib} {call : RefreshCall} {tokenHash : String}

/-- An action takes keys of the auth service, and adds none. -/
theorem act_authTokens (env : Env) (st : Store) (phase : Phase) :
    ∀ a ∈ (act crypto std env call st phase).1.authTokens, a ∈ st.authTokens ∨ a.taken = true := by
  intro a ha
  cases phase with
  | authLookup =>
    simp only [act] at ha
    split at ha
    · split at ha
      · exact Or.inl ha
      · split at ha
        · exact mem_taken (fun _ => rfl) ha
        · exact mem_taken (fun _ => rfl) ha
    · exact Or.inl ha
  | store record =>
    rcases act_tokens crypto std env call st (.store record) with hages | ⟨_, tokens, -, -, -, hact⟩
    · left
      simp only [act] at ha
      split at ha
      · exact ha
      split at ha
      · exact ha
      split at ha
      · exact ha
      split at ha
      · exact ha
      · exact ha
    · left
      rw [hact] at ha
      exact ha
  | lookup => simp only [act] at ha; grind
  | revokeToken err => simp only [act] at ha; grind
  | consume record fromAuthStore => simp only [act] at ha; grind
  | revokeFamily record => simp only [act] at ha; grind
  | revokeAll record => simp only [act] at ha; grind
  | rejected err => exact Or.inl ha
  | reused record byFamily => exact Or.inl ha
  | rotated record successor resp => exact Or.inl ha

theorem act_refused {env : Env} {st : Store} {phase : Phase} (h : Refused st tokenHash)
    (hnew : crypto.hashTokenSHA256 env.newToken ≠ tokenHash) :
    Refused (act crypto std env call st phase).1 tokenHash := by
  refine ⟨fun r hr hhash => ?_, fun a ha hhash => ?_⟩
  · by_contra hlive
    rcases act_live crypto std env call st phase hr (by simpa using hlive) with
      hold | ⟨record, -, -, rfl⟩
    · exact hlive (h.tokens r hold hhash)
    · exact hnew hhash
  · rcases act_authTokens env st phase a ha with hold | htaken
    · exact h.authTokens a hold hhash
    · exact htaken

/-- The phases of a call whose token is refused. -/
def Phase.refusing : Phase → Bool
  | .lookup | .authLookup | .revokeFamily _ | .revokeAll _ | .rejected _ | .reused .. => true
  | _ => false

theorem afterLookup_refusing {env : Env} {record : RefreshTokenRecord} {fromAuthStore : Bool}
    (h : (record.used || record.revoked) = true) :
    (afterLookup env call record fromAuthStore).refusing = true := by
  unfold afterLookup
  rw [if_pos h]
  split <;> rfl

theorem act_refusing {env : Env} {st : Store} {phase : Phase}
    (h : Refused st (crypto.hashTokenSHA256 call.req.refreshToken)) (hphase : phase.refusing = true) :
    (act crypto std env call st phase).2.refusing = true := by
  cases phase with
  | lookup =>
    simp only [act]
    split
    · rename_i record hfound
      split
      · rfl
      · -- the row that was found is used or revoked
        obtain ⟨r, hr, rfl⟩ := Option.map_eq_some_iff.mp hfound
        have hholds := List.find?_some hr
        have hdead := h.tokens r (List.mem_of_find?_eq_some hr) (TokenRow.holds_iff.mp hholds).2
        apply afterLookup_refusing
        show (r.used || r.revoked) = true
        have hlive : (!r.used && !r.revoked) = false := hdead
        cases hused : r.used <;> cases hrevoked : r.revoked <;> simp_all
    · rfl
  | authLookup =>
    simp only [act]
    split
    · rename_i a hfound
      obtain ⟨ha, hhash⟩ := Table.find?_eq_some_iff.mp hfound
      have htaken := h.authTokens a ha hhash
      simp [htaken, Phase.refusing]
    · rfl
  | revokeFamily record =>
    simp only [act]
    split <;> rfl
  | revokeAll record =>
    simp only [act]
    split <;> rfl
  | rejected err => rfl
  | reused record byFamily => rfl
  | revokeToken err => exact absurd hphase (by simp [Phase.refusing])
  | consume record fromAuthStore => exact absurd hphase (by simp [Phase.refusing])
  | store record => exact absurd hphase (by simp [Phase.refusing])
  | rotated record successor resp => exact absurd hphase (by simp [Phase.refusing])

/-- What every action of a call keeps, the call keeps. -/
theorem runAlone_keeps {envs : Nat → Env} {I : Store × Phase → Prop}
    (hact : ∀ i s, I s → I (act crypto std (envs i) call s.1 s.2)) {st : Store}
    (h : I (st, .lookup)) : I (runAlone crypto std envs call st) := by
  have hfold : ∀ (is : List Nat) s, I s →
      I (is.foldl (fun s i => act crypto std (envs i) call s.1 s.2) s) := by
    intro is
    induction is with
    | nil => exact fun s hs => hs
    | cons i is ih => exact fun s hs => ih _ (hact i s hs)
  exact hfold _ _ h

end Refresh

section RefreshToken

variable {crypto : Crypto} {std : Stdlib} {envs : Nat → Env} {found : Option OAuthClient}
  {req : RefreshTokenRequest} {st : Store} {tokenHash : String}

theorem refreshToken_refused (h : Refused st tokenHash)
    (hnew : ∀ i, crypto.hashTokenSHA256 (envs i).newToken ≠ tokenHash) :
    Refused (refreshToken crypto std envs found req st).1 tokenHash := by
  unfold refreshToken
  split
  · exact h
  split
  · exact h
  · exact runAlone_keeps (I := fun s => Refused s.1 tokenHash)
      (fun i s hs => act_refused hs (hnew i)) h

/-- A refused token is not refreshed. -/
theorem refreshToken_rejects (h : Refused st (crypto.hashTokenSHA256 req.refreshToken))
    (hnew : ∀ i, crypto.hashTokenSHA256 (envs i).newToken ≠
      crypto.hashTokenSHA256 req.refreshToken) (record successor : RefreshTokenRecord)
    (resp : TokenResponse) :
    (refreshToken crypto std envs found req st).2 ≠ .rotated record successor resp := by
  unfold refreshToken
  split
  · simp
  rename_i client _
  split
  · simp
  · have hrefusing : (runAlone crypto std envs ⟨client, req⟩ st).2.refusing = true :=
      (runAlone_keeps (I := fun s => Refused s.1 (crypto.hashTokenSHA256 req.refreshToken) ∧
          s.2.refusing = true)
        (fun i s hs => ⟨act_refused hs.1 (hnew i), act_refusing hs.1 hs.2⟩) ⟨h, rfl⟩).2
    intro hrotated
    rw [hrotated] at hrefusing
    exact absurd hrefusing (by simp [Phase.refusing])

end RefreshToken

-- ---------------------------------------------------------------------------
-- Where a revocation is recorded
-- ---------------------------------------------------------------------------

section Recorded

variable {svc : RevocationService} {env : RevocationEnv} {p p' : RevocationState}
  {tokenStr tokenHash : String} {tokenTypeHint : List String} {expiresAt : Option Time}

/-- The records of a token in two states are the same. -/
def SameRecords (p p' : RevocationState) (tokenHash : String) : Prop :=
  p'.redis tokenHash = p.redis tokenHash ∧ p'.revokedTokens tokenHash = p.revokedTokens tokenHash

def Listed (expiresAt : Option Time) (p : RevocationState) (tokenHash : String) : Prop :=
  ListedLocally expiresAt p tokenHash ∨ ListedInRedis expiresAt p tokenHash

theorem Listed.of_same (h : Listed expiresAt p tokenHash) (hsame : SameRecords p p' tokenHash) :
    Listed expiresAt p' tokenHash := by
  rcases h with ⟨exp, hexp, hlasts⟩ | ⟨entry, hentry, hlasts⟩
  · exact Or.inl ⟨exp, hsame.2.trans hexp, hlasts⟩
  · exact Or.inr ⟨entry, hsame.1.trans hentry, hlasts⟩

theorem listed_of_redis {entry : Stored String} (h : p.redis tokenHash = some entry)
    (hlasts : Outlasts entry.deadline expiresAt) : Listed expiresAt p tokenHash :=
  Or.inr ⟨entry, h, hlasts⟩

theorem outlasts_none : Outlasts none expiresAt := fun _ h => absurd h (by simp)

/-- A TTL that reaches the expiry. -/
theorem redisEntry_outlasts {now : Time} {value : String} {ttl : Int}
    (h : 0 < ttl → Expired expiresAt (now + ttl)) :
    Outlasts (redisEntry now value ttl).deadline expiresAt := by
  intro d hd
  simp only [redisEntry] at hd
  split at hd
  · rename_i hpos
    rw [← Option.some.inj hd]
    exact h hpos
  · exact absurd hd (by simp)

/-- A TTL computed from a time ends at that time, unless it saturates. -/
theorem add_timeUntil {now t : Int} (hpos : 0 < timeUntil now t) (hmax : t ≤ now + maxDuration) :
    t ≤ now + timeUntil now t := by
  unfold timeUntil maxDuration at *
  omega

/-- The TTL computed from the `exp` of a token ends with the token. -/
theorem ttl_suffices {claims : GoMap} {now : Time}
    (hclaims : expiresAt = claimsExpiry claims)
    (hmax : ∀ t, expiresAt = some t → t ≤ now + maxDuration)
    (hpos : 0 < (if 0 < getInt64Claim claims "exp" then
      max 0 (timeUntil now (getInt64Claim claims "exp" * second)) else 0)) :
    Expired expiresAt (now + (if 0 < getInt64Claim claims "exp" then
      max 0 (timeUntil now (getInt64Claim claims "exp" * second)) else 0)) := by
  split at hpos
  · rename_i hexp
    have hsome : expiresAt = some (getInt64Claim claims "exp" * second) := by
      rw [hclaims, claimsExpiry, if_neg (by omega)]
    refine ⟨_, hsome, ?_⟩
    have huntil : 0 < timeUntil now (getInt64Claim claims "exp" * second) := by omega
    rw [if_pos hexp, max_eq_right huntil.le]
    exact add_timeUntil huntil (hmax _ hsome)
  · exact absurd hpos (lt_irrefl 0)

theorem sweepDeadline_outlasts {claims : GoMap} (hclaims : expiresAt = claimsExpiry claims) :
    Outlasts (sweepDeadline (getInt64Claim claims "exp")) expiresAt := by
  intro d hd
  unfold sweepDeadline at hd
  split at hd
  · rename_i hpos
    refine ⟨_, ?_, le_of_eq (Option.some.inj hd)⟩
    rw [hclaims, claimsExpiry, if_neg (by omega)]
  · exact absurd hd (by simp)

/-- The cascade leaves the records alone, and revokes refresh tokens. -/
theorem cascade_spec (svc : RevocationService) (env : RevocationEnv) (p : RevocationState)
    (claims : GoMap) : ∃ tokens, svc.cascade env p claims = p.setTokens tokens ∧
      Ages p.store.tokens tokens := by
  unfold RevocationService.cascade
  split
  · exact ⟨_, rfl, ages_update revoke_same revoke_dead⟩
  · exact ⟨p.store.tokens, rfl, .refl _⟩

theorem parseAccessToken_payload {claims : GoMap}
    (h : svc.parseAccessToken env tokenStr = some claims) :
    svc.payload tokenStr = some claims := by
  unfold RevocationService.parseAccessToken at h
  split at h
  · exact absurd h (by simp)
  rename_i found hpayload
  split at h
  · exact absurd h (by simp)
  split at h
  · exact absurd h (by simp)
  · rw [hpayload, h]

/-- A revocation that Redis takes is recorded there, and nowhere else. -/
theorem revokeToken_redis (hne : tokenStr ≠ "") (hredis : env.redis = true)
    (hclaims : ∀ claims, svc.payload tokenStr = some claims → expiresAt = claimsExpiry claims) :
    (svc.revokeToken env p tokenStr tokenTypeHint).revokedTokens = p.revokedTokens ∧
      ∃ entry, (svc.revokeToken env p tokenStr tokenTypeHint).redis =
          Function.update p.redis (svc.crypto.hashTokenSHA256 tokenStr) (some entry) ∧
        (TTLSuffices svc tokenStr expiresAt env tokenTypeHint →
          Outlasts entry.deadline expiresAt) := by
  have hday : ∀ {value : String}, Expired expiresAt (env.now + day) →
      Outlasts (redisEntry env.now value day).deadline expiresAt :=
    fun hexpired => redisEntry_outlasts fun _ => hexpired
  unfold RevocationService.revokeToken TTLSuffices
  simp only [if_neg hne, hredis, if_true]
  split
  · rename_i hpath
    simp only [hpath, true_or, if_true]
    unfold revokeAsRefreshToken
    simp only [hredis, if_true]
    split
    · exact ⟨rfl, _, rfl, hday⟩
    · exact ⟨rfl, _, rfl, hday⟩
  rename_i hpath
  cases hparse : svc.parseAccessToken env tokenStr with
  | none =>
    simp only [or_true, if_true]
    exact ⟨rfl, _, rfl, hday⟩
  | some claims =>
    obtain ⟨tokens, hcascade, -⟩ := cascade_spec svc env p claims
    have hexp := hclaims claims (parseAccessToken_payload hparse)
    simp only [hpath, hcascade]
    split
    · exact ⟨rfl, _, rfl, fun hmax => redisEntry_outlasts (ttl_suffices hexp (by simpa using hmax))⟩
    · exact ⟨rfl, _, rfl, fun hmax => redisEntry_outlasts (ttl_suffices hexp (by simpa using hmax))⟩

/-- Without Redis it is recorded locally, but for a refresh token. -/
theorem revokeToken_local (hne : tokenStr ≠ "") (hredis : env.redis = false)
    (hclaims : ∀ claims, svc.payload tokenStr = some claims → expiresAt = claimsExpiry claims) :
    (svc.revokeToken env p tokenStr tokenTypeHint).redis = p.redis ∧
      (isRefreshPath tokenStr tokenTypeHint = true ∧
          (svc.revokeToken env p tokenStr tokenTypeHint).revokedTokens = p.revokedTokens ∨
        ∃ exp, (svc.revokeToken env p tokenStr tokenTypeHint).revokedTokens =
            Function.update p.revokedTokens (svc.crypto.hashTokenSHA256 tokenStr) (some exp) ∧
          Outlasts (sweepDeadline exp) expiresAt) := by
  unfold RevocationService.revokeToken
  simp only [if_neg hne, hredis, Bool.false_eq_true, if_false]
  split
  · rename_i hpath
    unfold revokeAsRefreshToken
    simp only [hredis, Bool.false_eq_true, if_false]
    split
    · exact ⟨rfl, Or.inl ⟨hpath, rfl⟩⟩
    · exact ⟨rfl, Or.inl ⟨hpath, rfl⟩⟩
  cases hparse : svc.parseAccessToken env tokenStr with
  | none => exact ⟨rfl, Or.inr ⟨0, rfl, outlasts_none⟩⟩
  | some claims =>
    obtain ⟨tokens, hcascade, -⟩ := cascade_spec svc env p claims
    simp only [hcascade]
    exact ⟨rfl, Or.inr ⟨_, rfl, sweepDeadline_outlasts
      (hclaims claims (parseAccessToken_payload hparse))⟩⟩

/-- Other tokens keep their records. -/
theorem revokeToken_other (h : tokenHash ≠ svc.crypto.hashTokenSHA256 tokenStr) :
    SameRecords p (svc.revokeToken env p tokenStr tokenTypeHint) tokenHash := by
  by_cases hne : tokenStr = ""
  · simp [RevocationService.revokeToken, hne, SameRecords]
  have hclaims : ∀ claims, svc.payload tokenStr = some claims →
      (svc.payload tokenStr).bind claimsExpiry = claimsExpiry claims := by
    intro claims hpayload
    rw [hpayload, Option.bind_some]
  cases hredis : env.redis with
  | true =>
    obtain ⟨hlocal, entry, hentry, -⟩ :=
      @revokeToken_redis svc env p tokenStr tokenTypeHint _ hne hredis hclaims
    refine ⟨?_, congrFun hlocal tokenHash⟩
    rw [hentry, Function.update_of_ne h]
  | false =>
    obtain ⟨hsame, ⟨-, hlocal⟩ | ⟨exp, hlocal, -⟩⟩ :=
      @revokeToken_local svc env p tokenStr tokenTypeHint _ hne hredis hclaims
    · exact ⟨congrFun hsame tokenHash, congrFun hlocal tokenHash⟩
    · refine ⟨congrFun hsame tokenHash, ?_⟩
      rw [hlocal, Function.update_of_ne h]

theorem revokeAsRefreshToken_store (env : RevocationEnv) (p : RevocationState)
    (tokenHash : String) :
    Ages p.store.tokens (revokeAsRefreshToken env p tokenHash).store.tokens ∧
      ∀ a ∈ (revokeAsRefreshToken env p tokenHash).store.authTokens,
        a ∈ p.store.authTokens ∨ a.taken = true := by
  unfold revokeAsRefreshToken
  split
  · split
    · exact ⟨ages_revokeRefreshToken _ _ _, fun a ha => mem_taken (fun _ => rfl) ha⟩
    · exact ⟨ages_revokeRefreshToken _ _ _, fun a ha => Or.inl ha⟩
  · split
    · exact ⟨.refl _, fun a ha => mem_taken (fun _ => rfl) ha⟩
    · exact ⟨.refl _, fun a ha => Or.inl ha⟩

/-- A revocation adds no refresh token. -/
theorem revokeToken_store (svc : RevocationService) (env : RevocationEnv) (p : RevocationState)
    (tokenStr : String) (tokenTypeHint : List String) :
    Ages p.store.tokens (svc.revokeToken env p tokenStr tokenTypeHint).store.tokens ∧
      ∀ a ∈ (svc.revokeToken env p tokenStr tokenTypeHint).store.authTokens,
        a ∈ p.store.authTokens ∨ a.taken = true := by
  unfold RevocationService.revokeToken
  simp only
  split
  · exact ⟨.refl _, fun a ha => Or.inl ha⟩
  split
  · exact revokeAsRefreshToken_store env p _
  split
  · split
    · exact ⟨.refl _, fun a ha => Or.inl ha⟩
    · exact ⟨.refl _, fun a ha => Or.inl ha⟩
  · rename_i claims hparse
    obtain ⟨tokens, hcascade, hages⟩ := cascade_spec svc env p claims
    rw [hcascade]
    split
    · split
      · exact ⟨hages, fun a ha => Or.inl ha⟩
      · exact ⟨hages, fun a ha => Or.inl ha⟩
    · exact ⟨hages, fun a ha => Or.inl ha⟩

theorem revokeToken_refused (h : Refused p.store tokenHash) :
    Refused (svc.revokeToken env p tokenStr tokenTypeHint).store tokenHash :=
  have hstore := revokeToken_store svc env p tokenStr tokenTypeHint
  h.of_ages hstore.1 hstore.2

/-- In the refresh token branch the token itself is ended. -/
theorem revokeToken_ends (hne : tokenStr ≠ "")
    (hpath : isRefreshPath tokenStr tokenTypeHint = true) :
    (env.tokenRepo = true →
      ∀ r ∈ (svc.revokeToken env p tokenStr tokenTypeHint).store.tokens,
        r.tokenHash = svc.crypto.hashTokenSHA256 tokenStr → r.live = false) ∧
    (env.redis = true →
      ∀ a ∈ (svc.revokeToken env p tokenStr tokenTypeHint).store.authTokens,
        a.hash = svc.crypto.hashTokenSHA256 tokenStr → a.taken = true) := by
  unfold RevocationService.revokeToken
  simp only [if_neg hne, if_pos hpath]
  unfold revokeAsRefreshToken
  constructor
  · intro hrepo
    have hended : ∀ r ∈ TokenRepo.revokeRefreshToken p.store.tokens UUID.nil
        (svc.crypto.hashTokenSHA256 tokenStr),
        r.tokenHash = svc.crypto.hashTokenSHA256 tokenStr → r.live = false := by
      intro r hr hhash
      rcases Table.mem_update.mp hr with ⟨q, -, -, rfl⟩ | ⟨-, hother⟩
      · exact spend_dead q
      · -- the nil tenant stands for every tenant
        simp [hhash] at hother
    simp only [hrepo, if_true]
    split
    · exact hended
    · exact hended
  · intro hredis a ha hhash
    simp only [hredis, if_true] at ha
    exact taken_of_mem (fun _ => rfl) ha hhash

-- ---------------------------------------------------------------------------
-- What a check finds
-- ---------------------------------------------------------------------------

/-- An entry that outlasts a token is there while the token is valid. -/
theorem live_of_outlasts {entry : Stored String} {now : Time}
    (h : Outlasts entry.deadline expiresAt) (hvalid : ¬ Expired expiresAt now) :
    entry.live now = true := by
  unfold Stored.live
  cases hd : entry.deadline with
  | none => rfl
  | some d =>
    obtain ⟨t, ht, hle⟩ := h d hd
    have hlt : now < d := lt_of_lt_of_le (not_le.mp fun hexpired => hvalid ⟨t, ht, hexpired⟩) hle
    simpa using hlt

theorem isTokenRevoked_of_listed
    (h : Listed expiresAt p (svc.crypto.hashTokenSHA256 tokenStr))
    (hvalid : ¬ Expired expiresAt env.now)
    (hreach : env.redis = true ∨ p.revokedTokens (svc.crypto.hashTokenSHA256 tokenStr) ≠ none ∨
      svc.revokedSession env p tokenStr ≠ none) :
    (svc.isTokenRevoked env p tokenStr).2 = true := by
  unfold RevocationService.isTokenRevoked
  simp only
  split
  · rfl
  rename_i hredis
  split
  · rfl
  rename_i hlocal
  -- what is left is the database
  cases hsession : svc.revokedSession env p tokenStr with
  | some claims => rfl
  | none =>
    exfalso
    have hnone : p.revokedTokens (svc.crypto.hashTokenSHA256 tokenStr) = none := by
      simpa using hlocal
    rcases hreach with hreach | hreach | hreach
    · rcases h with ⟨exp, hexp, -⟩ | ⟨entry, hentry, hlasts⟩
      · exact absurd (hnone.symm.trans hexp) (by simp)
      · apply hredis
        rw [hreach, hentry, Bool.true_and, Option.any_some]
        exact live_of_outlasts hlasts hvalid
    · exact hreach hnone
    · exact hreach hsession

/-- A check takes no record away that is still needed. -/
theorem isTokenRevoked_listed (h : Listed expiresAt p tokenHash)
    (hvalid : ¬ Expired expiresAt env.now) :
    Listed expiresAt (svc.isTokenRevoked env p tokenStr).1 tokenHash := by
  by_cases hother : tokenHash = svc.crypto.hashTokenSHA256 tokenStr
  · subst hother
    unfold RevocationService.isTokenRevoked
    simp only
    split
    · exact h
    rename_i hredis
    split
    · exact h
    rename_i hlocal
    split
    · exact h
    · -- nothing is cached over a record that Redis still has
      rcases h with ⟨exp, hexp, -⟩ | ⟨entry, hentry, hlasts⟩
      · exact absurd (by simp [hexp]) hlocal
      · have hunreached : env.redis = false := by
          simpa [hentry, live_of_outlasts hlasts hvalid] using hredis
        simp only [hunreached, Bool.false_eq_true, if_false]
        exact Or.inr ⟨entry, hentry, hlasts⟩
  · refine h.of_same ?_
    unfold RevocationService.isTokenRevoked
    simp only
    split
    · exact ⟨rfl, rfl⟩
    split
    · exact ⟨rfl, rfl⟩
    split
    · exact ⟨rfl, rfl⟩
    · cases env.redis with
      | true => exact ⟨Function.update_of_ne hother _ _, Function.update_of_ne hother _ _⟩
      | false => exact ⟨rfl, Function.update_of_ne hother _ _⟩

theorem isTokenRevoked_store (svc : RevocationService) (env : RevocationEnv)
    (p : RevocationState) (tokenStr : String) :
    (svc.isTokenRevoked env p tokenStr).1.store = p.store := by
  unfold RevocationService.isTokenRevoked
  simp only
  split
  · rfl
  split
  · rfl
  split
  · rfl
  · split <;> rfl

theorem seconds_le_of_lt_unix {exp now : Int} (h : exp < unix now) : exp * second ≤ now := by
  unfold unix second at *
  omega

/-- The reaper takes only entries of tokens that have expired. -/
theorem sweep_listed (h : Listed expiresAt p tokenHash) (hvalid : ¬ Expired expiresAt env.now) :
    Listed expiresAt (sweepRevokedTokens env p) tokenHash := by
  rcases h with ⟨exp, hexp, hlasts⟩ | hredis
  · refine Or.inl ⟨exp, ?_, hlasts⟩
    have hkept : ¬ (0 < exp ∧ exp < unix env.now) := by
      rintro ⟨hpos, hpast⟩
      obtain ⟨t, ht, hle⟩ := hlasts (exp * second) (if_pos hpos)
      exact hvalid ⟨t, ht, le_trans hle (seconds_le_of_lt_unix hpast)⟩
    simp only [sweepRevokedTokens, hexp]
    rw [Option.filter_some, if_pos]
    simpa [not_lt, or_iff_not_imp_left] using hkept
  · exact Or.inr hredis

end Recorded

-- ---------------------------------------------------------------------------
-- Revoked until the expiry
-- ---------------------------------------------------------------------------

/-- What holds of a revoked token between calls. -/
structure StaysRevoked (expiresAt : Option Time) (p : RevocationState) (tokenHash : String) :
    Prop where
  listed  : Expired expiresAt p.clock ∨ Listed expiresAt p tokenHash
  refused : Refused p.store tokenHash

section Run

variable {svc : RevocationService} {tokenStr : String} {expiresAt : Option Time}
  {p : RevocationState}

theorem Expired.mono {now later : Time} (h : Expired expiresAt now) (hle : now ≤ later) :
    Expired expiresAt later := by
  obtain ⟨t, ht, hpast⟩ := h
  exact ⟨t, ht, le_trans hpast hle⟩

theorem RevokesForGood.setClock {env : RevocationEnv} {tokenTypeHint : List String}
    (h : RevokesForGood svc tokenStr expiresAt p env tokenTypeHint) (now : Time) :
    RevokesForGood svc tokenStr expiresAt { p with clock := now } env tokenTypeHint :=
  ⟨h.nonempty, h.inRedis, h.locally, h.tokens, h.authTokens⟩

/-- A revocation that is for good. -/
theorem revokeToken_staysRevoked {env : RevocationEnv} {tokenTypeHint : List String}
    (hclaims : ∀ claims, svc.payload tokenStr = some claims → expiresAt = claimsExpiry claims)
    (h : RevokesForGood svc tokenStr expiresAt p env tokenTypeHint) :
    Listed expiresAt (svc.revokeToken env p tokenStr tokenTypeHint)
        (svc.crypto.hashTokenSHA256 tokenStr) ∧
      Refused (svc.revokeToken env p tokenStr tokenTypeHint).store
        (svc.crypto.hashTokenSHA256 tokenStr) := by
  constructor
  · cases hredis : env.redis with
    | true =>
      obtain ⟨hlocal, entry, hentry, hlasts⟩ :=
        @revokeToken_redis svc env p tokenStr tokenTypeHint _ h.nonempty hredis hclaims
      rcases h.inRedis hredis with hsuffices | ⟨exp, hexp, hkept⟩
      · refine listed_of_redis ?_ (hlasts hsuffices)
        rw [hentry, Function.update_self]
      · exact Or.inl ⟨exp, by rw [hlocal, hexp], hkept⟩
    | false =>
      obtain ⟨hsame, ⟨hpath, hlocal⟩ | ⟨exp, hlocal, hlasts⟩⟩ :=
        @revokeToken_local svc env p tokenStr tokenTypeHint _ h.nonempty hredis hclaims
      · exact Listed.of_same (h.locally hredis hpath)
          ⟨congrFun hsame _, congrFun hlocal _⟩
      · exact Or.inl ⟨exp, by rw [hlocal, Function.update_self], hlasts⟩
  · obtain ⟨hages, hauth⟩ := revokeToken_store svc env p tokenStr tokenTypeHint
    refine ⟨fun r hr hhash => ?_, fun a ha hhash => ?_⟩
    · rcases h.tokens with ⟨hpath, hrepo⟩ | hdead
      · exact (revokeToken_ends h.nonempty hpath).1 hrepo r hr hhash
      · by_contra hlive
        obtain ⟨q, hq, -, heq⟩ := hages.back r hr
        obtain rfl : r = q := heq (by simpa using hlive)
        exact hlive (hdead r hq hhash)
    · rcases h.authTokens with ⟨hpath, hredis⟩ | htaken
      · exact (revokeToken_ends h.nonempty hpath).2 hredis a ha hhash
      · rcases hauth a ha with hold | hnow
        · exact htaken a hold hhash
        · exact hnow

theorem revokeToken_clock (env : RevocationEnv) (tokenTypeHint : List String) :
    (svc.revokeToken env p tokenStr tokenTypeHint).clock = p.clock := by
  unfold RevocationService.revokeToken
  simp only
  split
  · rfl
  split
  · unfold revokeAsRefreshToken
    split <;> split <;> rfl
  split
  · split <;> rfl
  · rename_i claims hparse
    obtain ⟨tokens, hcascade, -⟩ := cascade_spec svc env p claims
    rw [hcascade]
    split
    · split <;> rfl
    · rfl

theorem revocationStep_clock (e : RevocationOp × RevocationEnv) :
    (revocationStep svc p e).clock = e.2.now := by
  obtain ⟨op, env⟩ := e
  cases op with
  | revokeToken s tokenTypeHint => exact revokeToken_clock env tokenTypeHint
  | isTokenRevoked s =>
    simp only [revocationStep, RevocationService.isTokenRevoked]
    split
    · rfl
    split
    · rfl
    split
    · rfl
    · split <;> rfl
  | refreshToken found req envs => rfl
  | sweep => rfl

/-- A step keeps the record of a token that has not expired. -/
theorem revocationStep_listed {e : RevocationOp × RevocationEnv}
    (hclaims : ∀ claims, svc.payload tokenStr = some claims → expiresAt = claimsExpiry claims)
    (h : Listed expiresAt p (svc.crypto.hashTokenSHA256 tokenStr))
    (hvalid : ¬ Expired expiresAt e.2.now)
    (hdistinct : Distinct svc tokenStr p e) (hlasts : RevocationLasts svc tokenStr expiresAt p e) :
    Listed expiresAt (revocationStep svc p e) (svc.crypto.hashTokenSHA256 tokenStr) := by
  obtain ⟨op, env⟩ := e
  -- setting the clock leaves the records alone
  have hnow : Listed expiresAt { p with clock := env.now } (svc.crypto.hashTokenSHA256 tokenStr) :=
    h.of_same ⟨rfl, rfl⟩
  cases op with
  | revokeToken s tokenTypeHint =>
    by_cases hsame : svc.crypto.hashTokenSHA256 s = svc.crypto.hashTokenSHA256 tokenStr
    · obtain rfl := hdistinct.2 hsame
      have hgood : RevokesForGood svc s expiresAt p env tokenTypeHint := hlasts rfl
      exact (revokeToken_staysRevoked hclaims (hgood.setClock env.now)).1
    · exact hnow.of_same (revokeToken_other fun heq => hsame heq.symm)
  | isTokenRevoked s => exact isTokenRevoked_listed hnow hvalid
  | refreshToken found req envs => exact h.of_same ⟨rfl, rfl⟩
  | sweep => exact sweep_listed hnow hvalid

theorem revocationStep_refused {e : RevocationOp × RevocationEnv}
    (h : Refused p.store (svc.crypto.hashTokenSHA256 tokenStr))
    (hdistinct : Distinct svc tokenStr p e) :
    Refused (revocationStep svc p e).store (svc.crypto.hashTokenSHA256 tokenStr) := by
  obtain ⟨op, env⟩ := e
  cases op with
  | revokeToken s tokenTypeHint => exact revokeToken_refused h
  | isTokenRevoked s =>
    simp only [revocationStep]
    rw [isTokenRevoked_store]
    exact h
  | refreshToken found req envs => exact refreshToken_refused h hdistinct.2
  | sweep => exact h

/-- A token that is revoked stays so from call to call. -/
theorem revocationStep_staysRevoked {e : RevocationOp × RevocationEnv}
    (hclaims : ∀ claims, svc.payload tokenStr = some claims → expiresAt = claimsExpiry claims)
    (h : StaysRevoked expiresAt p (svc.crypto.hashTokenSHA256 tokenStr))
    (hdistinct : Distinct svc tokenStr p e) (hlasts : RevocationLasts svc tokenStr expiresAt p e) :
    StaysRevoked expiresAt (revocationStep svc p e) (svc.crypto.hashTokenSHA256 tokenStr) := by
  refine ⟨?_, revocationStep_refused h.refused hdistinct⟩
  rw [revocationStep_clock]
  by_cases hexpired : Expired expiresAt e.2.now
  · exact Or.inl hexpired
  · rcases h.listed with hbefore | hlisted
    · exact absurd (hbefore.mono hdistinct.1) hexpired
    · exact Or.inr (revocationStep_listed hclaims hlisted hexpired hdistinct hlasts)

theorem treatsAsRevoked_of_stays {e : RevocationOp × RevocationEnv}
    (h : StaysRevoked expiresAt p (svc.crypto.hashTokenSHA256 tokenStr))
    (hdistinct : Distinct svc tokenStr p e) (hlasts : RevocationLasts svc tokenStr expiresAt p e) :
    TreatsAsRevoked svc tokenStr expiresAt p e := by
  obtain ⟨op, env⟩ := e
  cases op with
  | isTokenRevoked s =>
    intro hs hvalid
    rcases h.listed with hbefore | hlisted
    · exact absurd (hbefore.mono hdistinct.1) hvalid
    · exact isTokenRevoked_of_listed hlisted hvalid (hlasts hs)
  | refreshToken found req envs =>
    intro htoken
    subst htoken
    exact refreshToken_rejects h.refused hdistinct.2
  | revokeToken s tokenTypeHint => trivial
  | sweep => trivial

end Run

namespace Sample

/-- An access token that expires after a quarter of an hour. -/
def accessToken : String := "eyJhbGciOiJSUzI1NiJ9.eyJleHAiOjkwMH0.c2ln"

def accessClaims : GoMap := [("iss", .string "ggid"), ("exp", Any.ofInt 900)]

def revocationService : RevocationService :=
  ⟨"ggid", crypto, stdlib, fun s => if s = accessToken then some accessClaims else none,
    fun _ => none⟩

/-- A call at this second. -/
def revocationEnv (t : Int) (redis : Bool) : RevocationEnv :=
  ⟨t * second, redis, true, true, true, fun _ => true⟩

/-- One refresh token, `rt-0`, for thirty days. -/
def revocationStart : RevocationState := ⟨0, fun _ => none, fun _ => none, [], familyStore⟩

/-- The access token is revoked without Redis, and then checked. -/
def revokedAndChecked : List (RevocationOp × RevocationEnv) :=
  [(.revokeToken accessToken ["access_token"], revocationEnv 0 false),
    (.isTokenRevoked accessToken, revocationEnv 600 false)]

theorem revokedAndChecked_distinct :
    StepsOk (revocationStep revocationService) (Distinct revocationService accessToken)
      revocationStart revokedAndChecked := by
  refine ⟨⟨by decide, fun _ => rfl⟩, ⟨by decide, trivial⟩, trivial⟩

theorem revokedAndChecked_lasts :
    StepsOk (revocationStep revocationService)
      (RevocationLasts revocationService accessToken (claimsExpiry accessClaims))
      revocationStart revokedAndChecked := by
  refine ⟨fun _ => ⟨by decide, fun hredis => ?_, fun _ hpath => ?_, Or.inr ?_, Or.inr ?_⟩,
    fun _ => Or.inr (Or.inl (by decide)), trivial⟩
  · exact absurd hredis (by decide)
  · exact absurd hpath (by decide)
  · decide
  · decide

end Sample

end Ggid.OAuth
