import Ggid.Lib.Threads
import Ggid.Lib.Tiers
import Ggid.OAuth.Grants

/-!
# OAuth service — backchannel authentication

`PollCIBAToken`, `ApproveCIBAAuth` and `DenyCIBAAuth`. An authentication request is
kept in the `sync.Map` of each instance that has seen it and in Redis, if Redis is
configured. Every call works on a copy: it loads the entry, looks at it, and saves
or deletes it later. Loading, saving and deleting are one action each, and calls
that run at the same time, on one instance or on several, interleave.

`BackchannelAuthentication` saves a pending entry under a fresh id; the runs here
start after it.
-/

namespace Ggid.OAuth

open Ggid.Go Ggid.Policy Ggid.Lib

-- ---------------------------------------------------------------------------
-- Entries
-- ---------------------------------------------------------------------------

inductive CIBAStatus where
  | pending | approved | denied | expired
  deriving DecidableEq

structure CIBAEntry where
  clientID       : UUID
  clientIDSrc    : String
  tenantID       : UUID
  userID         : UUID
  status         : CIBAStatus
  bindingMessage : String
  scope          : String
  createdAt      : Time
  expiresAt      : Time
  lastPoll       : Time
  deriving DecidableEq

/-- `cibaStore` of every instance, and Redis. -/
abbrev CIBAStore := Tiers String CIBAEntry

/-- What the outside contributes to an action. -/
structure CIBAEnv where
  now        : Time
  /-- Redis is configured and answers. -/
  redis      : Bool
  /-- What `GetClient` returns to `GetClientForAuth`, in the poll itself. -/
  found      : Option OAuthClient
  /-- What it returns in `AuthenticateClient`. -/
  foundAgain : Option OAuthClient
  signFails  : Bool

/-- When Redis drops a key set with this lifetime; one that is not positive sets no
deadline. -/
def redisDeadline (now : Time) (ttl : Int) : Option Time :=
  if 0 < ttl then some (now + ttl) else none

/-- `cibaStoreRedis` with the time left until the entry expires. -/
def cibaStoreRedis (env : CIBAEnv) (st : CIBAStore) (i : Nat) (authReqID : String)
    (entry : CIBAEntry) : CIBAStore :=
  st.save env.redis i authReqID entry (redisDeadline env.now (entry.expiresAt - env.now))

def cibaLoadRedis (env : CIBAEnv) (st : CIBAStore) (i : Nat) (authReqID : String) :
    CIBAStore × Option CIBAEntry :=
  st.load env.now env.redis i authReqID

def cibaDeleteRedis (env : CIBAEnv) (st : CIBAStore) (i : Nat) (authReqID : String) : CIBAStore :=
  st.drop env.redis i authReqID

-- ---------------------------------------------------------------------------
-- Client authentication
-- ---------------------------------------------------------------------------

namespace OAuthService

/-- `GetClientForAuth`, with the errors its callers drop. -/
def getClientForAuth (found : Option OAuthClient) : Option OAuthClient :=
  found.filter OAuthClient.enabled

/-- `AuthenticateClient` returns no error. -/
def authenticateClient (crypto : Crypto) (found : Option OAuthClient) (clientSecret : String) :
    Bool :=
  match getClientForAuth found with
  | none => false
  | some client =>
    client.enabled && client.isConfidential &&
      crypto.verifyPassword clientSecret client.clientSecretHash

end OAuthService

-- ---------------------------------------------------------------------------
-- Polling
-- ---------------------------------------------------------------------------

structure CIBAPoll where
  tenantID     : UUID
  authReqID    : String
  clientID     : String
  clientSecret : String
  deriving DecidableEq

/-- The errors of a poll: those of the protocol, and an internal one. -/
inductive CIBAFailure where
  | ciba (err desc : String)
  | service (err : GGIDError)
  deriving DecidableEq

/-- Where a poll is: what it does next to the stores, or what it returned. -/
inductive CIBAPollPhase where
  | load
  | deleteExpired
  | save (entry : CIBAEntry)
  | consume (entry : CIBAEntry)
  | discard
  | returned (result : Except CIBAFailure TokenResponse)
  deriving DecidableEq

/-- The client checks of a poll fail, and how. -/
def cibaClientFailure (crypto : Crypto) (env : CIBAEnv) (clientSecret : String) :
    Option CIBAFailure :=
  let authenticated := OAuthService.authenticateClient crypto env.foundAgain clientSecret
  if (OAuthService.getClientForAuth env.found).any OAuthClient.isConfidential then
    if clientSecret = "" then some (.ciba "invalid_client" "client authentication required")
    else if authenticated then none
    else some (.ciba "invalid_client" "client authentication failed")
  else if clientSecret ≠ "" && !authenticated then
    some (.ciba "invalid_client" "client authentication failed")
  else none

/-- The entry was polled less than five seconds ago. -/
def polledTooFast (now : Time) (entry : CIBAEntry) : Bool :=
  entry.lastPoll ≠ Time.zero && now - entry.lastPoll < 5 * second

/-- What follows from the copy of the entry a poll has loaded. -/
def afterCIBALoad (crypto : Crypto) (env : CIBAEnv) (req : CIBAPoll) (entry : CIBAEntry) :
    CIBAPollPhase :=
  if req.clientID ≠ entry.clientID.string ∧ req.clientID ≠ entry.clientIDSrc then
    .returned (.error (.ciba "invalid_grant" "auth_req_id was not issued to this client"))
  else match cibaClientFailure crypto env req.clientSecret with
    | some failure => .returned (.error failure)
    | none =>
      if req.tenantID ≠ entry.tenantID then
        .returned (.error (.ciba "invalid_grant" "tenant mismatch"))
      else if entry.expiresAt < env.now then .deleteExpired
      else if polledTooFast env.now entry then
        .returned (.error (.ciba "slow_down" "polling too fast"))
      else .save entry

/-- What follows from the status of the copy, once it is written back. -/
def afterCIBASave (entry : CIBAEntry) : CIBAPollPhase :=
  match entry.status with
  | .pending =>
    .returned (.error (.ciba "authorization_pending" "user has not yet responded"))
  | .approved => .consume entry
  | .denied => .discard
  | .expired => .returned (.error (.ciba "invalid_grant" "unexpected CIBA status"))

/-- What a poll returns for an approved entry. -/
def cibaTokens (env : CIBAEnv) (req : CIBAPoll) (entry : CIBAEntry) :
    Except CIBAFailure TokenResponse :=
  if env.signFails then
    .error (.service (internal "issue CIBA access token" (.driver "signing failed")))
  else .ok ⟨issueAccessToken env.now entry.userID entry.tenantID req.clientID entry.scope, "",
    joinScopes (Strings.fields entry.scope)⟩

/-- One action of a poll on instance `i`. -/
def cibaPollAct (crypto : Crypto) (env : CIBAEnv) (i : Nat) (req : CIBAPoll) (st : CIBAStore) :
    CIBAPollPhase → CIBAStore × CIBAPollPhase
  | .load =>
    ((cibaLoadRedis env st i req.authReqID).1,
      match (cibaLoadRedis env st i req.authReqID).2 with
      | none => .returned (.error (.ciba "invalid_grant" "unknown or expired auth_req_id"))
      | some entry => afterCIBALoad crypto env req entry)
  | .deleteExpired =>
    (cibaDeleteRedis env st i req.authReqID,
      .returned (.error (.ciba "expired_token" "auth_req_id has expired")))
  | .save entry =>
    (cibaStoreRedis env st i req.authReqID { entry with lastPoll := env.now },
      afterCIBASave { entry with lastPoll := env.now })
  | .consume entry =>
    (cibaDeleteRedis env st i req.authReqID, .returned (cibaTokens env req entry))
  | .discard =>
    (cibaDeleteRedis env st i req.authReqID,
      .returned (.error (.ciba "access_denied" "user denied the authentication request")))
  | .returned result => (st, .returned result)

-- ---------------------------------------------------------------------------
-- Approving and denying
-- ---------------------------------------------------------------------------

inductive CIBADecision where
  | approve | deny
  deriving DecidableEq

def CIBADecision.status : CIBADecision → CIBAStatus
  | .approve => .approved
  | .deny => .denied

/-- Where an approval or a denial is. -/
inductive CIBADecisionPhase where
  | load
  | deleteExpired
  | save (entry : CIBAEntry)
  | returned (result : Except String Unit)
  deriving DecidableEq

/-- What follows from the copy that was loaded: only an approval looks at the
expiry, and neither looks at the status. -/
def afterDecisionLoad (now : Time) (entry : CIBAEntry) : CIBADecision → CIBADecisionPhase
  | .approve => if entry.expiresAt < now then .deleteExpired else .save entry
  | .deny => .save entry

/-- One action of `ApproveCIBAAuth` or `DenyCIBAAuth` on instance `i`. -/
def cibaDecisionAct (env : CIBAEnv) (i : Nat) (authReqID : String) (decision : CIBADecision)
    (st : CIBAStore) : CIBADecisionPhase → CIBAStore × CIBADecisionPhase
  | .load =>
    ((cibaLoadRedis env st i authReqID).1,
      match (cibaLoadRedis env st i authReqID).2 with
      | none => .returned (.error "auth_req_id not found")
      | some entry => afterDecisionLoad env.now entry decision)
  | .deleteExpired =>
    (cibaDeleteRedis env st i authReqID, .returned (.error "auth_req_id expired"))
  | .save entry =>
    (cibaStoreRedis env st i authReqID { entry with status := decision.status },
      .returned (.ok ()))
  | .returned result => (st, .returned result)

-- ---------------------------------------------------------------------------
-- Calls that run at the same time
-- ---------------------------------------------------------------------------

/-- A call on one of the instances. -/
inductive CIBATask where
  | poll (i : Nat) (req : CIBAPoll) (phase : CIBAPollPhase)
  | decide (i : Nat) (authReqID : String) (decision : CIBADecision) (phase : CIBADecisionPhase)
  deriving DecidableEq

/-- One action of a call. -/
def cibaAct (crypto : Crypto) (env : CIBAEnv) (st : CIBAStore) :
    CIBATask → CIBAStore × CIBATask
  | .poll i req phase =>
    ((cibaPollAct crypto env i req st phase).1,
      .poll i req (cibaPollAct crypto env i req st phase).2)
  | .decide i authReqID decision phase =>
    ((cibaDecisionAct env i authReqID decision st phase).1,
      .decide i authReqID decision (cibaDecisionAct env i authReqID decision st phase).2)

/-- A call, before it does anything. -/
inductive CIBACall where
  | poll (i : Nat) (req : CIBAPoll)
  | decide (i : Nat) (authReqID : String) (decision : CIBADecision)

def CIBACall.task : CIBACall → CIBATask
  | .poll i req => .poll i req .load
  | .decide i authReqID decision => .decide i authReqID decision .load

/-- No call has done anything yet. -/
def cibaStart (st : CIBAStore) (calls : Nat → CIBACall) : Threads CIBAStore CIBATask :=
  ⟨st, fun u => (calls u).task⟩

/-- Call `e.1` takes its next action. -/
def cibaStep (crypto : Crypto) (p : Threads CIBAStore CIBATask) (e : Nat × CIBAEnv) :
    Threads CIBAStore CIBATask :=
  p.put e.1 (cibaAct crypto e.2 p.store (p.task e.1))

end Ggid.OAuth
