import Mathlib.Data.List.Chain
import Ggid.Lib.Run
import Ggid.OAuth.AgentIdentity

/-!
# OAuth service — chains of agents

What a sequence of `ExchangeAgentToken` calls does to the delegation chain and the
remaining depth, each call exchanging the token the one before has issued.

The depth is an `int` when it is reduced and a `float64` when it is read back. Up to
`2 ^ 53` that makes no difference; beyond, rounding can give back the hop that was
taken off.

* `agent_delegation_bounded`  — the chain grows by one agent a time, the depth
  falls, and it bounds the number of agents, while no agent's depth exceeds `2 ^ 53`;
* `agent_delegation_unbounded`  — an agent whose depth does not fall.
-/

namespace Ggid.OAuth

open Ggid.Go Ggid.Policy Ggid.Lib

-- ---------------------------------------------------------------------------
-- What a token says once it is read back
-- ---------------------------------------------------------------------------

theorem UUID_string_ne_empty (u : UUID) : u.string ≠ "" := by
  intro h
  have hlist := congrArg String.toList h
  simp [UUID.string] at hlist

section Encode

variable (c : AgentTokenClaims)

theorem encode_lookup (key : String) :
    c.encode.lookup key = (c.fields.lookup key).join := by
  apply lookup_jsonObject
  simp [AgentTokenClaims.fields]

theorem encode_subject : getStringClaim c.encode "sub" = c.subject := by
  rw [getStringClaim, encode_lookup]
  by_cases h : c.subject = "" <;> simp [AgentTokenClaims.fields, List.lookup_cons, nonEmptyString, h]

theorem encode_isAgentToken : getBoolClaim c.encode "is_agent_token" = c.isAgentToken := by
  rw [getBoolClaim, encode_lookup]
  cases h : c.isAgentToken <;> simp [AgentTokenClaims.fields, List.lookup_cons, ifTrue, h]

theorem encode_depth (h0 : 0 ≤ c.maxDelegationDepth) (h : c.maxDelegationDepth ≤ 2 ^ 53) :
    getIntClaimFromToken c.encode "max_delegation_depth" = c.maxDelegationDepth := by
  rw [getIntClaimFromToken, encode_lookup]
  by_cases hz : c.maxDelegationDepth = 0
  · simp [AgentTokenClaims.fields, List.lookup_cons, nonZero, hz]
  · have hread := Float64.toInt_ofInt h0 h
    simp [AgentTokenClaims.fields, List.lookup_cons, nonZero, hz, Any.ofInt, hread]

theorem decodeHop_encode (hop : DelegationHop) : decodeHop hop.encode = some hop := by
  obtain ⟨subject, agentID, agentType⟩ := hop
  by_cases hid : agentID = "" <;> by_cases htype : agentType = "" <;>
    simp [DelegationHop.encode, decodeHop, decodeStringField, nonEmptyString, hid, htype,
      List.lookup_cons, jsonObject]

theorem decode_chain (chain : List DelegationHop) :
    (chain.map DelegationHop.encode).mapM decodeHop = some chain := by
  induction chain with
  | nil => rfl
  | cons hop chain ih =>
    rw [List.map_cons, List.mapM_cons, decodeHop_encode, ih]
    rfl

theorem encode_chain : getDelegationChain c.encode = c.delegationChain := by
  have hlookup : c.encode.lookup "delegation_chain" =
      nonEmptySlice (c.delegationChain.map DelegationHop.encode) := by
    rw [encode_lookup]
    simp [AgentTokenClaims.fields, List.lookup_cons]
  rw [getDelegationChain, hlookup]
  by_cases h : c.delegationChain = []
  · simp [nonEmptySlice, h]
  · rw [nonEmptySlice, if_neg (by simpa using h)]
    simp only [decode_chain, Option.getD_some]

end Encode

-- ---------------------------------------------------------------------------
-- One exchange
-- ---------------------------------------------------------------------------

/-- What a successful exchange of a token for one of an agent comes to. -/
structure Delegates (issuer : String) (out : ExchangeOutside)
    (agents : UUID → Option RegisteredAgent) (req : AgentTokenExchangeRequest) (t : SignedToken)
    (resp : AgentTokenResponse) (agent : RegisteredAgent) : Prop where
  found   : agents req.agentID = some agent
  active  : agent.status = .active
  tenant  : agent.tenantID = req.tenantID
  allowed : ∀ sc ∈ req.requestedScope, sc ∈ agent.allowedScopes
  subject : t.subject ≠ ""
  budget  : t.isAgentToken = true → 0 < t.remainingDepth
  claims  : resp.accessToken.claims = (agentClaims issuer out req t.claims agent).encode
  depth   : resp.delegationDepth = reduceDepth t.claims agent
  scope   : resp.scope = agentScope req agent

section Exchange

variable {issuer : String} {out : ExchangeOutside} {agents : UUID → Option RegisteredAgent}
  {req : AgentTokenExchangeRequest} {t : SignedToken} {resp : AgentTokenResponse}
  {agent : RegisteredAgent}

theorem delegationSubject_ok {claims : GoMap} (h : delegationSubject issuer out t = .ok claims) :
    claims = t.claims ∧ t.subject ≠ "" ∧ (t.isAgentToken = true → 0 < t.remainingDepth) := by
  have hparsed : ∀ claims, t.parseAccessToken issuer out = .ok claims → claims = t.claims := by
    intro claims hclaims
    unfold SignedToken.parseAccessToken at hclaims
    split at hclaims
    · exact absurd hclaims (by simp)
    split at hclaims
    · exact absurd hclaims (by simp)
    · exact (Except.ok.inj hclaims).symm
  unfold delegationSubject at h
  split at h
  · exact absurd h (by simp)
  rename_i parsed hparse
  obtain rfl := hparsed parsed hparse
  split at h
  · exact absurd h (by simp)
  rename_i hsub
  split at h
  · exact absurd h (by simp)
  rename_i hdepth
  refine ⟨(Except.ok.inj h).symm, hsub, fun hagent => ?_⟩
  by_contra hexhausted
  exact hdepth ⟨hagent, not_lt.mp hexhausted⟩

theorem delegateAgent_ok (h : delegateAgent agents req = .ok agent) :
    agents req.agentID = some agent ∧ agent.status = .active ∧ agent.tenantID = req.tenantID ∧
      ∀ sc ∈ req.requestedScope, sc ∈ agent.allowedScopes := by
  have hgot : ∀ agent, getAgent agents req.agentID = .ok agent →
      agents req.agentID = some agent ∧ agent.status = .active := by
    intro agent hagent
    unfold getAgent at hagent
    split at hagent
    · exact absurd hagent (by simp)
    rename_i found hfound
    split at hagent
    · exact absurd hagent (by simp)
    · rename_i hactive
      obtain rfl := Except.ok.inj hagent
      exact ⟨hfound, not_not.mp hactive⟩
  unfold delegateAgent at h
  split at h
  · exact absurd h (by simp)
  rename_i found hfound
  split at h
  · exact absurd h (by simp)
  rename_i htenant
  split at h
  · exact absurd h (by simp)
  rename_i hscopes
  have hallowed : ∀ sc ∈ req.requestedScope, sc ∈ found.allowedScopes := by
    intro sc hsc
    simpa using List.find?_eq_none.mp hscopes sc hsc
  have hagent : found = agent := by
    split at h
    · exact Except.ok.inj h
    split at h
    · exact absurd h (by simp)
    · exact Except.ok.inj h
  subst hagent
  exact ⟨(hgot found hfound).1, (hgot found hfound).2, not_not.mp htenant, hallowed⟩

theorem exchangeAgentToken_ok (h : exchangeAgentToken issuer out agents req t = .ok resp) :
    ∃ agent, Delegates issuer out agents req t resp agent := by
  unfold exchangeAgentToken at h
  split at h
  · exact absurd h (by simp)
  split at h
  · exact absurd h (by simp)
  rename_i claims hclaims
  obtain ⟨rfl, hsubject, hbudget⟩ := delegationSubject_ok hclaims
  split at h
  · exact absurd h (by simp)
  rename_i agent hagent
  obtain ⟨hfound, hactive, htenant, hallowed⟩ := delegateAgent_ok hagent
  split at h
  · exact absurd h (by simp)
  · obtain rfl := Except.ok.inj h
    exact ⟨agent, hfound, hactive, htenant, hallowed, hsubject, hbudget, rfl, rfl, rfl⟩

theorem reduceDepth_of_agent (h : t.isAgentToken = true) :
    reduceDepth t.claims agent = min agent.maxDelegationDepth (t.remainingDepth - 1) :=
  if_pos h

theorem reduceDepth_of_user (h : t.isAgentToken ≠ true) :
    reduceDepth t.claims agent = agent.maxDelegationDepth :=
  if_neg h

theorem extendChain_of_agent (h : t.isAgentToken = true) :
    extendChain t.claims agent =
      t.delegationChain ++ [⟨t.subject, agent.id.string, agent.type⟩] :=
  congrArg (· ++ _) (if_pos h)

theorem extendChain_of_user (h : t.isAgentToken ≠ true) :
    extendChain t.claims agent =
      [⟨t.subject, "", ""⟩] ++ [⟨t.subject, agent.id.string, agent.type⟩] :=
  congrArg (· ++ _) (if_neg h)

/-- A token without depth left is not delegated further. -/
theorem exchangeAgentToken_exhausted (hagent : t.isAgentToken = true)
    (hdepth : t.remainingDepth ≤ 0) :
    ∃ err, exchangeAgentToken issuer out agents req t = .error err := by
  cases h : exchangeAgentToken issuer out agents req t with
  | error err => exact ⟨err, rfl⟩
  | ok resp =>
    obtain ⟨agent, hd⟩ := exchangeAgentToken_ok h
    have hbudget := hd.budget hagent
    omega

namespace Delegates

theorem isAgentToken (h : Delegates issuer out agents req t resp agent) :
    resp.accessToken.isAgentToken = true := by
  rw [SignedToken.isAgentToken, h.claims, encode_isAgentToken]
  rfl

theorem chain (h : Delegates issuer out agents req t resp agent) :
    resp.accessToken.delegationChain = extendChain t.claims agent := by
  rw [SignedToken.delegationChain, h.claims, encode_chain]
  rfl

theorem subject_eq (h : Delegates issuer out agents req t resp agent) :
    resp.accessToken.subject = t.subject := by
  rw [SignedToken.subject, h.claims, encode_subject]
  rfl

/-- The reduced depth is not negative, and below the depth that was left. -/
theorem reduceDepth_bounds (h : Delegates issuer out agents req t resp agent) :
    0 ≤ reduceDepth t.claims agent ∧ reduceDepth t.claims agent ≤ agent.maxDelegationDepth ∧
      (t.isAgentToken = true → reduceDepth t.claims agent < t.remainingDepth) := by
  have hnonneg := agent.depth_nonneg
  by_cases hagent : t.isAgentToken = true
  · have hbudget := h.budget hagent
    rw [reduceDepth_of_agent hagent]
    exact ⟨by omega, by omega, fun _ => by omega⟩
  · rw [reduceDepth_of_user hagent]
    exact ⟨hnonneg, le_refl _, fun hyes => absurd hyes hagent⟩

/-- The depth is read back as it was reduced, up to `2 ^ 53`. -/
theorem remainingDepth (h : Delegates issuer out agents req t resp agent)
    (hfits : agent.maxDelegationDepth ≤ 2 ^ 53) :
    resp.accessToken.remainingDepth = reduceDepth t.claims agent := by
  obtain ⟨hnonneg, hle, -⟩ := h.reduceDepth_bounds
  rw [SignedToken.remainingDepth, h.claims, encode_depth _ hnonneg (le_trans hle hfits)]
  rfl

end Delegates

end Exchange

-- ---------------------------------------------------------------------------
-- A sequence of exchanges
-- ---------------------------------------------------------------------------

/-- A call, without the subject token. -/
structure AgentCall where
  out    : ExchangeOutside
  agents : UUID → Option RegisteredAgent
  req    : AgentTokenExchangeRequest

/-- The tokens issued so far, the last one first; each call exchanges the last one, the
first call a user's token. -/
def delegateStep (issuer : String) (user : SignedToken) (issued : List SignedToken)
    (e : AgentCall) : List SignedToken :=
  match exchangeAgentToken issuer e.out e.agents e.req (issued.headD user) with
  | .ok resp => resp.accessToken :: issued
  | .error _ => issued

/-- The hops of a token that are agents. -/
def SignedToken.agentHops (t : SignedToken) : List DelegationHop :=
  t.delegationChain.filter fun hop => hop.agentID ≠ ""

/-- The chain of `t'` is that of `t` with one more agent. -/
def GrowsByAgent (t' t : SignedToken) : Prop :=
  ∃ hop : DelegationHop, hop.agentID ≠ "" ∧ t'.delegationChain = t.delegationChain ++ [hop]

/-- What holds of the tokens issued along a chain of exchanges of a user's token. -/
structure BoundedDelegation (user : SignedToken) (issued : List SignedToken) : Prop where
  first : ∀ t, issued.getLast? = some t → ∃ hop : DelegationHop, hop.agentID ≠ "" ∧
    t.delegationChain = [⟨user.subject, "", ""⟩, hop]
  grows : issued.IsChain GrowsByAgent
  falls : issued.IsChain fun t' t => t'.remainingDepth < t.remainingDepth
  bound : ∀ t first, issued.head? = some t → issued.getLast? = some first →
    (t.agentHops.length : Int) ≤ 1 + first.remainingDepth

/-- The depth of the agent is a `float64`. -/
def DepthFits (e : AgentCall) : Prop :=
  ∀ agent, e.agents e.req.agentID = some agent → agent.maxDelegationDepth ≤ 2 ^ 53

/-- The invariant: every token issued is an agent's, and what is left of the depth of
the first one has been used up by the agents since. -/
structure DelegationInvariant (user : SignedToken) (issued : List SignedToken) : Prop where
  bounded : BoundedDelegation user issued
  agents  : ∀ t ∈ issued, t.isAgentToken = true
  spent   : ∀ t first, issued.head? = some t → issued.getLast? = some first →
    t.agentHops.length = issued.length ∧ 0 ≤ t.remainingDepth ∧
      issued.length + t.remainingDepth ≤ 1 + first.remainingDepth

theorem agentHops_append {t : SignedToken} {hops : List DelegationHop} {hop : DelegationHop}
    (hchain : t.delegationChain = hops ++ [hop]) (hid : hop.agentID ≠ "") :
    t.agentHops.length = (hops.filter fun hop => hop.agentID ≠ "").length + 1 := by
  rw [SignedToken.agentHops, hchain, List.filter_append, List.length_append]
  simp [hid]

/-- The first exchange. -/
theorem delegationInvariant_first {issuer : String} {user : SignedToken} {e : AgentCall}
    {resp : AgentTokenResponse} {agent : RegisteredAgent} (huser : user.isAgentToken = false)
    (hd : Delegates issuer e.out e.agents e.req user resp agent) (hfits : DepthFits e) :
    DelegationInvariant user [resp.accessToken] := by
  have hid : agent.id.string ≠ "" := UUID_string_ne_empty agent.id
  have hchain : resp.accessToken.delegationChain =
      [⟨user.subject, "", ""⟩] ++ [⟨user.subject, agent.id.string, agent.type⟩] := by
    rw [hd.chain, extendChain_of_user (by simp [huser])]
  have hdepth := hd.remainingDepth (hfits agent hd.found)
  obtain ⟨hnonneg, -, -⟩ := hd.reduceDepth_bounds
  have hhops : resp.accessToken.agentHops.length = 1 := by
    rw [agentHops_append hchain hid]
    simp
  refine ⟨⟨?_, List.isChain_singleton _, List.isChain_singleton _, ?_⟩, ?_, ?_⟩
  · intro t ht
    obtain rfl : resp.accessToken = t := Option.some.inj ht
    exact ⟨⟨user.subject, agent.id.string, agent.type⟩, hid, hchain⟩
  · intro t first ht hfirst
    obtain rfl : resp.accessToken = t := Option.some.inj ht
    obtain rfl : resp.accessToken = first := Option.some.inj hfirst
    omega
  · intro t ht
    rw [List.mem_singleton] at ht
    rw [ht]
    exact hd.isAgentToken
  · intro t first ht hfirst
    obtain rfl : resp.accessToken = t := Option.some.inj ht
    obtain rfl : resp.accessToken = first := Option.some.inj hfirst
    exact ⟨hhops, by omega, le_of_eq (by simp)⟩

/-- Every further exchange. -/
theorem delegationInvariant_next {issuer : String} {user t : SignedToken}
    {issued : List SignedToken} {e : AgentCall} {resp : AgentTokenResponse}
    {agent : RegisteredAgent} (hinv : DelegationInvariant user (t :: issued))
    (hd : Delegates issuer e.out e.agents e.req t resp agent) (hfits : DepthFits e) :
    DelegationInvariant user (resp.accessToken :: t :: issued) := by
  have hagent : t.isAgentToken = true := hinv.agents t List.mem_cons_self
  have hid : agent.id.string ≠ "" := UUID_string_ne_empty agent.id
  have hchain : resp.accessToken.delegationChain =
      t.delegationChain ++ [⟨t.subject, agent.id.string, agent.type⟩] := by
    rw [hd.chain, extendChain_of_agent hagent]
  have hdepth := hd.remainingDepth (hfits agent hd.found)
  obtain ⟨hnonneg, -, hless⟩ := hd.reduceDepth_bounds
  have hfalls : resp.accessToken.remainingDepth < t.remainingDepth := hdepth ▸ hless hagent
  have hhops : resp.accessToken.agentHops.length = t.agentHops.length + 1 :=
    agentHops_append hchain hid
  have hlast : ∀ first, (resp.accessToken :: t :: issued).getLast? = some first →
      (t :: issued).getLast? = some first := by
    intro first hfirst
    rw [List.getLast?_cons_cons] at hfirst
    exact hfirst
  have hspent : ∀ first, (resp.accessToken :: t :: issued).getLast? = some first →
      resp.accessToken.agentHops.length = (resp.accessToken :: t :: issued).length ∧
        0 ≤ resp.accessToken.remainingDepth ∧
        (resp.accessToken :: t :: issued).length + resp.accessToken.remainingDepth ≤
          1 + first.remainingDepth := by
    intro first hfirst
    obtain ⟨hlength, -, hsum⟩ := hinv.spent t first rfl (hlast first hfirst)
    rw [List.length_cons] at hsum ⊢
    refine ⟨by rw [hhops, hlength], by omega, ?_⟩
    rw [List.length_cons] at *
    push_cast at hsum ⊢
    omega
  refine ⟨⟨?_, ?_, ?_, ?_⟩, ?_, ?_⟩
  · intro first hfirst
    exact hinv.bounded.first first (hlast first hfirst)
  · have hgrows : GrowsByAgent resp.accessToken t :=
      ⟨⟨t.subject, agent.id.string, agent.type⟩, hid, hchain⟩
    exact List.isChain_cons_cons.mpr ⟨hgrows, hinv.bounded.grows⟩
  · exact List.isChain_cons_cons.mpr ⟨hfalls, hinv.bounded.falls⟩
  · intro t' first ht hfirst
    obtain rfl := Option.some.inj ht
    obtain ⟨hlength, hleft, hsum⟩ := hspent first hfirst
    omega
  · intro t' ht'
    rcases List.mem_cons.mp ht' with rfl | ht'
    · exact hd.isAgentToken
    · exact hinv.agents t' ht'
  · intro t' first ht hfirst
    obtain rfl := Option.some.inj ht
    exact hspent first hfirst

theorem delegateStep_invariant {issuer : String} {user : SignedToken} {issued : List SignedToken}
    {e : AgentCall} (huser : user.isAgentToken = false)
    (hinv : DelegationInvariant user issued) (hfits : DepthFits e) :
    DelegationInvariant user (delegateStep issuer user issued e) := by
  unfold delegateStep
  cases hresult : exchangeAgentToken issuer e.out e.agents e.req (issued.headD user) with
  | error err => exact hinv
  | ok resp =>
    obtain ⟨agent, hd⟩ := exchangeAgentToken_ok hresult
    cases issued with
    | nil => exact delegationInvariant_first huser hd hfits
    | cons t issued => exact delegationInvariant_next hinv hd hfits

theorem delegationInvariant_nil (user : SignedToken) : DelegationInvariant user [] where
  bounded :=
    ⟨fun _ ht => absurd ht (by simp), List.isChain_nil, List.isChain_nil,
      fun _ _ ht => absurd ht (by simp)⟩
  agents := fun _ ht => absurd ht List.not_mem_nil
  spent := fun _ _ ht => absurd ht (by simp)

/-- **Bounded delegation.** Along every sequence of exchanges that starts with a user's
token, with agents whose depth is at most `2 ^ 53`: the chain keeps its hops and grows
by one agent at every exchange, the remaining depth falls, the agents number at most
one more than the depth fixed at the first exchange, and a token whose depth is used up
is not exchanged. -/
theorem agent_delegation_bounded (issuer : String) (user : SignedToken) (es : List AgentCall)
    (huser : user.isAgentToken = false) (hfits : ∀ e ∈ es, DepthFits e) :
    ∀ issued ∈ states (delegateStep issuer user) [] es, BoundedDelegation user issued ∧
      ∀ t, issued.head? = some t → t.remainingDepth ≤ 0 → ∀ out agents req,
        ∃ err, exchangeAgentToken issuer out agents req t = .error err := by
  have hok : StepsOk (delegateStep issuer user) (fun _ e => DepthFits e) [] es :=
    stepsOk_of_forall hfits
  intro issued hissued
  have hinv := invariant_states (fun _ _ => delegateStep_invariant huser)
    (delegationInvariant_nil user) hok issued hissued
  refine ⟨hinv.bounded, fun t ht hdepth out agents req => ?_⟩
  exact exchangeAgentToken_exhausted (hinv.agents t (List.mem_of_mem_head? ht)) hdepth

namespace Sample

/-- A service that accepts and signs everything. -/
def exchangeOutside : ExchangeOutside :=
  ⟨0, fun _ => .ok (), fun _ => false, fun _ => some "sig", fun _ => true, none, 8#128⟩

def agentWithDepth (depth : Int) (h : 0 ≤ depth) : RegisteredAgent :=
  ⟨⟨6#128, 1#128, "bot", "custom", 2#128, ["audit:read"], [], depth, 100, .active, "agent_0", "", 0,
    0⟩, h⟩

def agentRequest : AgentTokenExchangeRequest := ⟨1#128, 6#128, [], [], ""⟩

/-- The user's access token. -/
def userToken : SignedToken :=
  ⟨[("iss", .string "ggid"), ("sub", .string "user-1"), ("tenant_id", .string (UUID.string 1#128)),
    ("scope", .string "audit:read users:read"), ("permissions", .strings ["audit:read"]),
    ("roles", .strings ["auditor"])], "sig"⟩

def agentCall (depth : Int) (h : 0 ≤ depth) : AgentCall :=
  ⟨exchangeOutside, fun _ => some (agentWithDepth depth h), agentRequest⟩

end Sample

open Sample in
/-- An agent with depth one: the second exchange uses it up, the third fails. -/
theorem agent_delegation_bounded_sample :
    ((run (delegateStep "ggid" userToken) [] (List.replicate 3 (agentCall 1 (by decide)))).map
      SignedToken.remainingDepth = [0, 1]) ∧
    (∀ issued ∈ states (delegateStep "ggid" userToken) []
        (List.replicate 3 (agentCall 1 (by decide))), BoundedDelegation userToken issued) := by
  refine ⟨by decide, fun issued hissued => ?_⟩
  refine (agent_delegation_bounded "ggid" userToken _ (by decide) ?_ issued hissued).1
  intro e he agent hagent
  obtain rfl := List.eq_of_mem_replicate he
  obtain rfl : agentWithDepth 1 (by decide) = agent := Option.some.inj hagent
  decide

open Sample in
/-- An agent with depth `2 ^ 53 + 3` is read back with depth `2 ^ 53 + 4`: the depth
recorded at the first exchange is recorded at every later one. -/
theorem agent_delegation_unbounded :
    (run (delegateStep "ggid" userToken) []
      (List.replicate 3 (agentCall (2 ^ 53 + 3) (by decide)))).map SignedToken.remainingDepth =
        [2 ^ 53 + 4, 2 ^ 53 + 4, 2 ^ 53 + 4] ∧
    (∀ t ∈ run (delegateStep "ggid" userToken) []
      (List.replicate 3 (agentCall (2 ^ 53 + 3) (by decide))), reduceDepth t.claims
        (agentWithDepth (2 ^ 53 + 3) (by decide)) = 2 ^ 53 + 3) := by
  decide

end Ggid.OAuth
