import Ggid.OAuth.TokenExchange

/-!
# OAuth service — agent identities

`RegisterAgent` and `ExchangeAgentToken`: a user's access token, or the token of
another agent, is exchanged for a token of an agent. The delegation chain and the
remaining depth travel in the claims: they are encoded as JSON with the token and read
back, as a list of maps and a `float64`, when it is exchanged again.

The registry (`agentStore` and Redis) is a function from ids, read once a call. It only
holds what `RegisterAgent` has put there, so a depth is never negative
(`RegisteredAgent`).
-/

namespace Ggid.OAuth

open Ggid.Go Ggid.Policy

-- ---------------------------------------------------------------------------
-- The registry
-- ---------------------------------------------------------------------------

inductive AgentStatus where
  | active | suspended | revoked
  | other (raw : String)
  deriving DecidableEq

structure AgentRegistration where
  id                 : UUID
  tenantID           : UUID
  name               : String
  type               : String
  ownerUserID        : UUID
  allowedScopes      : List String
  allowedMCPServers  : List String
  maxDelegationDepth : Int
  rateLimitPerMin    : Int
  status             : AgentStatus
  clientID           : String
  clientSecret       : String
  createdAt          : Time
  updatedAt          : Time

/-- An agent as the registry keeps it. -/
structure RegisteredAgent extends AgentRegistration where
  depth_nonneg : 0 ≤ maxDelegationDepth

/-- What `RegisterAgent` takes from outside. -/
structure RegisterEnv where
  now       : Time
  /-- `uuid.New()`. -/
  newID     : UUID
  /-- `GenerateRandomToken(32)`. -/
  newSecret : Option String

def registerAgent (env : RegisterEnv) (reg : AgentRegistration) :
    Except GGIDError RegisteredAgent :=
  if reg.tenantID = UUID.nil then .error (.driver "tenant_id is required")
  else if reg.name = "" then .error (.driver "agent name is required")
  else if reg.ownerUserID = UUID.nil then .error (.driver "owner_user_id is required")
  else match env.newSecret with
    | none => .error (wrapped "failed to generate agent secret" (.driver "no randomness"))
    | some secret =>
      let id := if reg.id = UUID.nil then env.newID else reg.id
      .ok { reg with
        id := id
        type := if reg.type = "" then "custom" else reg.type
        status := if reg.status = .other "" then .active else reg.status
        maxDelegationDepth := max 0 reg.maxDelegationDepth
        rateLimitPerMin := if reg.rateLimitPerMin ≤ 0 then 100 else reg.rateLimitPerMin
        clientID := "agent_" ++ String.ofList (id.string.toList.take 8)
        clientSecret := secret
        createdAt := env.now
        updatedAt := env.now
        depth_nonneg := le_max_left 0 reg.maxDelegationDepth }

def AgentStatus.string : AgentStatus → String
  | .active => "active"
  | .suspended => "suspended"
  | .revoked => "revoked"
  | .other raw => raw

/-- `GetAgent`. -/
def getAgent (agents : UUID → Option RegisteredAgent) (agentID : UUID) :
    Except GGIDError RegisteredAgent :=
  match agents agentID with
  | none => .error (.driver ("agent not found: " ++ agentID.string))
  | some agent =>
    if agent.status ≠ .active then
      .error (.driver ("agent " ++ agentID.string ++ " is " ++ agent.status.string))
    else .ok agent

-- ---------------------------------------------------------------------------
-- Agent tokens
-- ---------------------------------------------------------------------------

structure DelegationHop where
  subject   : String
  agentID   : String
  agentType : String
  deriving DecidableEq

/-- The claims of an agent token. -/
structure AgentTokenClaims where
  subject            : String
  issuer             : String
  issuedAt           : Time
  expiresAt          : Time
  id                 : String
  audience           : String
  agentID            : String
  agentType          : String
  delegationChain    : List DelegationHop
  mcpServers         : List String
  maxDelegationDepth : Int
  scope              : String
  actorSubject       : String
  isAgentToken       : Bool

def DelegationHop.encode (hop : DelegationHop) : Any :=
  .map (jsonObject
    [("sub", some (.string hop.subject)),
      ("agent_id", nonEmptyString hop.agentID),
      ("agent_type", nonEmptyString hop.agentType)])

/-- The fields of the claims as JSON. -/
def AgentTokenClaims.fields (c : AgentTokenClaims) : List (String × Option Any) :=
  [("iss", nonEmptyString c.issuer),
    ("sub", nonEmptyString c.subject),
    ("aud", some (.strings [c.audience])),
    ("exp", some (.ofInt (unix c.expiresAt))),
    ("iat", some (.ofInt (unix c.issuedAt))),
    ("jti", nonEmptyString c.id),
    ("agent_id", nonEmptyString c.agentID),
    ("agent_type", nonEmptyString c.agentType),
    ("delegation_chain", nonEmptySlice (c.delegationChain.map DelegationHop.encode)),
    ("mcp_servers", nonEmptySlice (c.mcpServers.map .string)),
    ("max_delegation_depth", nonZero c.maxDelegationDepth),
    ("scope", nonEmptyString c.scope),
    ("act_sub", nonEmptyString c.actorSubject),
    ("is_agent_token", ifTrue c.isAgentToken)]

/-- The claims as they are read back from the token. -/
def AgentTokenClaims.encode (c : AgentTokenClaims) : GoMap := jsonObject c.fields

/-- A string field of a struct that is decoded: left alone if it is absent or null, an
error if it is of another type. -/
def decodeStringField (fields : GoMap) (key : String) : Option String :=
  match fields.lookup key with
  | none | some .nil => some ""
  | some (.string s) => some s
  | some _ => none

def decodeHop : Any → Option DelegationHop
  | .nil => some ⟨"", "", ""⟩
  | .map fields =>
    match decodeStringField fields "sub", decodeStringField fields "agent_id",
        decodeStringField fields "agent_type" with
    | some subject, some agentID, some agentType => some ⟨subject, agentID, agentType⟩
    | _, _, _ => none
  | _ => none

/-- `getDelegationChain`: the claim, encoded and decoded as a list of hops; empty if
any of it does not fit. -/
def getDelegationChain (claims : GoMap) : List DelegationHop :=
  match claims.lookup "delegation_chain" with
  | some (.slice xs) => (xs.mapM decodeHop).getD []
  | _ => []

/-- `getIntClaimFromToken`; a decoded number is always a `float64`. -/
def getIntClaimFromToken (claims : GoMap) (key : String) : Int :=
  match claims.lookup key with
  | some (.float64 v) => v.toInt
  | _ => 0

namespace SignedToken

def isAgentToken (t : SignedToken) : Bool := getBoolClaim t.claims "is_agent_token"

def delegationChain (t : SignedToken) : List DelegationHop := getDelegationChain t.claims

/-- The delegation depth a token has left, as the next exchange reads it. -/
def remainingDepth (t : SignedToken) : Int := getIntClaimFromToken t.claims "max_delegation_depth"

end SignedToken

-- ---------------------------------------------------------------------------
-- `ExchangeAgentToken`
-- ---------------------------------------------------------------------------

/-- `SubjectToken` is passed next to it. -/
structure AgentTokenExchangeRequest where
  tenantID       : UUID
  agentID        : UUID
  requestedScope : List String
  mcpServers     : List String
  audience       : String

structure AgentTokenResponse where
  accessToken     : SignedToken
  expiresIn       : Int
  scope           : String
  agentID         : String
  delegationDepth : Int

/-- `ParseAccessToken`, which does not look at the audience. -/
def SignedToken.parseAccessToken (issuer : String) (out : ExchangeOutside) (t : SignedToken) :
    Except GGIDError GoMap :=
  match out.accepts t with
  | .error err => .error err
  | .ok () =>
    if getStringClaim t.claims "iss" ≠ "" ∧ getStringClaim t.claims "iss" ≠ issuer then
      .error (.driver ("token issuer mismatch: expected " ++ issuer ++ ", got " ++
        getStringClaim t.claims "iss"))
    else .ok t.claims

/-- Step 1: the claims of a subject token that may be delegated further. -/
def delegationSubject (issuer : String) (out : ExchangeOutside) (t : SignedToken) :
    Except GGIDError GoMap :=
  match t.parseAccessToken issuer out with
  | .error err => .error (wrapped "invalid subject_token" err)
  | .ok claims =>
    if getStringClaim claims "sub" = "" then .error (.driver "subject_token missing 'sub' claim")
    else if getBoolClaim claims "is_agent_token" = true ∧
        getIntClaimFromToken claims "max_delegation_depth" ≤ 0 then
      .error (.driver "maximum delegation depth reached")
    else .ok claims

/-- Steps 2 to 4: the agent may be used for the request. -/
def delegateAgent (agents : UUID → Option RegisteredAgent) (req : AgentTokenExchangeRequest) :
    Except GGIDError RegisteredAgent :=
  match getAgent agents req.agentID with
  | .error err => .error (wrapped "agent validation failed" err)
  | .ok agent =>
    if agent.tenantID ≠ req.tenantID then .error (.driver "agent tenant mismatch")
    else match req.requestedScope.find? fun sc => !agent.allowedScopes.contains sc with
      | some sc => .error (.driver
          ("scope '" ++ sc ++ "' is not allowed for agent '" ++ agent.name ++ "'"))
      | none =>
        if agent.allowedMCPServers = [] then .ok agent
        else match req.mcpServers.find? fun mcp => !agent.allowedMCPServers.contains mcp with
          | some mcp => .error (.driver
              ("MCP server '" ++ mcp ++ "' is not authorized for agent '" ++ agent.name ++ "'"))
          | none => .ok agent

/-- Step 5: the chain grows by the agent, and starts with the user. -/
def extendChain (claims : GoMap) (agent : RegisteredAgent) : List DelegationHop :=
  (if getBoolClaim claims "is_agent_token" then getDelegationChain claims
    else [⟨getStringClaim claims "sub", "", ""⟩]) ++
    [⟨getStringClaim claims "sub", agent.id.string, agent.type⟩]

/-- The depth left after this exchange. -/
def reduceDepth (claims : GoMap) (agent : RegisteredAgent) : Int :=
  if getBoolClaim claims "is_agent_token" then
    min agent.maxDelegationDepth (getIntClaimFromToken claims "max_delegation_depth" - 1)
  else agent.maxDelegationDepth

/-- The scope of an agent token. -/
def agentScope (req : AgentTokenExchangeRequest) (agent : RegisteredAgent) : String :=
  if Strings.join " " req.requestedScope = "" then Strings.join " " agent.allowedScopes
  else Strings.join " " req.requestedScope

/-- Step 6: the claims of the new token. -/
def agentClaims (issuer : String) (out : ExchangeOutside) (req : AgentTokenExchangeRequest)
    (claims : GoMap) (agent : RegisteredAgent) : AgentTokenClaims where
  subject := getStringClaim claims "sub"
  issuer := issuer
  issuedAt := out.now
  expiresAt := out.now + 3600 * second
  id := out.newID.string
  audience := if req.audience = "" then "agent-api" else req.audience
  agentID := agent.id.string
  agentType := agent.type
  delegationChain := extendChain claims agent
  mcpServers := req.mcpServers
  maxDelegationDepth := reduceDepth claims agent
  scope := agentScope req agent
  actorSubject := getStringClaim claims "sub"
  isAgentToken := true

def exchangeAgentToken (issuer : String) (out : ExchangeOutside)
    (agents : UUID → Option RegisteredAgent) (req : AgentTokenExchangeRequest) (t : SignedToken) :
    Except GGIDError AgentTokenResponse :=
  if req.agentID = UUID.nil then .error (.driver "agent_id is required")
  else match delegationSubject issuer out t with
    | .error err => .error err
    | .ok claims =>
      match delegateAgent agents req with
      | .error err => .error err
      | .ok agent =>
        match out.sign (agentClaims issuer out req claims agent).encode with
        | none => .error (wrapped "failed to sign agent token" (.driver "signing failed"))
        | some signature =>
          .ok ⟨⟨(agentClaims issuer out req claims agent).encode, signature⟩, 3600,
            agentScope req agent, agent.id.string, reduceDepth claims agent⟩

end Ggid.OAuth
