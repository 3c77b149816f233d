import Ggid.OAuth.AgentDelegation

/-!
# OAuth service — chains that mix both exchanges

A token is exchanged again and again, by `ExchangeAgentToken` or by an RFC 8693 token
exchange, each time for the token the last exchange has issued. The two paths issue
different claims: an agent token has no tenant, no permissions, no roles and no `act`,
an exchanged token has no delegation chain and no depth.

* `scope_attenuated_iff`   — scopes only shrink, exactly if an agent is given scopes of
  the subject token only, and a token without scopes is not exchanged;
* `delegation_kept`        — actors and depth limits are carried along, if no exchange
  takes the path that drops them;
* `owner_kept_iff`         — subject, tenant, permissions and roles are carried along,
  exactly if no token with a tenant is exchanged for an agent's and no token without
  one is exchanged otherwise;
* `scope_added`, `delegation_laundered`, `tenant_changed`  — each of them fails.
-/

namespace Ggid.OAuth

open Ggid.Go Ggid.Policy Ggid.Lib

-- ---------------------------------------------------------------------------
-- What an exchanged token says
-- ---------------------------------------------------------------------------

/-- What a successful RFC 8693 exchange comes to, for the scopes it grants and the
`act` claim it makes. -/
structure Exchanges (issuer : String) (out : ExchangeOutside) (req : RFC8693ExchangeRequest)
    (t : SignedToken) (resp : ExchangeResponse) (scopes : List String) (act : Option Any) :
    Prop where
  tenant : t.tenant ≠ "" → t.tenant = req.tenantID.string
  scope  : req.scope = [] ∧ scopes = subjectScopes t.claims ∨
    req.scope ≠ [] ∧ scopes = req.scope ∧ ∀ sc ∈ scopes, sc ∈ subjectScopes t.claims
  actor  : req.actorToken = none ∧ act = none ∨
    ∃ actor, req.actorToken = some actor ∧
      act = some (nestAct actor.subject (t.claims.lookup "act"))
  claims : resp.accessToken.claims = exchangedClaims issuer out req t.claims scopes act

section Exchange

variable {issuer : String} {out : ExchangeOutside} {req : RFC8693ExchangeRequest}
  {t : SignedToken} {resp : ExchangeResponse} {scopes : List String} {act : Option Any}

theorem parseAndValidateJWT_ok {claims : GoMap} (h : parseAndValidateJWT out t = .ok claims) :
    claims = t.claims := by
  unfold parseAndValidateJWT at h
  split at h
  · exact absurd h (by simp)
  split at h
  · exact absurd h (by simp)
  · exact (Except.ok.inj h).symm

theorem exchangeSubject_ok {claims : GoMap} (h : exchangeSubject out req t = .ok claims) :
    claims = t.claims ∧ (t.tenant ≠ "" → t.tenant = req.tenantID.string) := by
  unfold exchangeSubject at h
  split at h
  · exact absurd h (by simp)
  split at h
  · exact absurd h (by simp)
  rename_i parsed hparse
  obtain rfl := parseAndValidateJWT_ok hparse
  split at h
  · exact absurd h (by simp)
  split at h
  · exact absurd h (by simp)
  split at h
  · exact absurd h (by simp)
  split at h
  · exact absurd h (by simp)
  · rename_i hforeign
    refine ⟨(Except.ok.inj h).symm, fun hsome => ?_⟩
    by_contra hother
    exact hforeign (by simpa [foreignTenant] using ⟨hsome, hother⟩)

theorem exchangeScope_ok {claims : GoMap} {requested : List String}
    (h : exchangeScope claims requested = .ok scopes) :
    requested = [] ∧ scopes = subjectScopes claims ∨
      requested ≠ [] ∧ scopes = requested ∧ ∀ sc ∈ scopes, sc ∈ subjectScopes claims := by
  unfold exchangeScope at h
  split at h
  · rename_i hempty
    exact Or.inl ⟨hempty, (Except.ok.inj h).symm⟩
  rename_i hsome
  split at h
  · exact absurd h (by simp)
  · rename_i hall
    obtain rfl := Except.ok.inj h
    refine Or.inr ⟨hsome, rfl, fun sc hsc => ?_⟩
    simpa using List.find?_eq_none.mp hall sc hsc

theorem exchangeAct_ok {claims : GoMap} (h : exchangeAct out req claims = .ok act) :
    req.actorToken = none ∧ act = none ∨
      ∃ actor, req.actorToken = some actor ∧
        act = some (nestAct actor.subject (claims.lookup "act")) := by
  unfold exchangeAct at h
  split at h
  · rename_i hnone
    exact Or.inl ⟨hnone, (Except.ok.inj h).symm⟩
  rename_i actor hactor
  split at h
  · exact absurd h (by simp)
  rename_i actorClaims hparse
  obtain rfl := parseAndValidateJWT_ok hparse
  split at h
  · exact absurd h (by simp)
  · exact Or.inr ⟨actor, hactor, (Except.ok.inj h).symm⟩

theorem exchangeTokenInternal_ok (h : exchangeTokenInternal issuer out req t = .ok resp) :
    ∃ scopes act, Exchanges issuer out req t resp scopes act := by
  unfold exchangeTokenInternal at h
  split at h
  · exact absurd h (by simp)
  rename_i claims hsubject
  obtain ⟨rfl, htenant⟩ := exchangeSubject_ok hsubject
  split at h
  · exact absurd h (by simp)
  rename_i scopes hscopes
  split at h
  · exact absurd h (by simp)
  split at h
  · exact absurd h (by simp)
  rename_i act hact
  split at h
  · exact absurd h (by simp)
  · obtain rfl := Except.ok.inj h
    exact ⟨scopes, act, htenant, exchangeScope_ok hscopes, exchangeAct_ok hact, rfl⟩

theorem exchangeTokenRFC8693_ok {crypto : Crypto}
    (h : exchangeTokenRFC8693 crypto issuer out req t = .ok resp) :
    exchangeTokenInternal issuer out req t = .ok resp := by
  unfold exchangeTokenRFC8693 at h
  split at h
  · exact absurd h (by simp)
  split at h
  · exact absurd h (by simp)
  · exact h

theorem exchangedClaims_lookup (issuer : String) (out : ExchangeOutside)
    (req : RFC8693ExchangeRequest) (claims : GoMap) (scopes : List String) (act : Option Any)
    (key : String) :
    (exchangedClaims issuer out req claims scopes act).lookup key =
      ((exchangedFields issuer out req claims scopes act).lookup key).join := by
  apply lookup_jsonObject
  simp [exchangedFields]

theorem getStringSlice_strings (l : List String) :
    ∀ claims key, claims.lookup key = some (nilOrStrings l) → getStringSliceClaim claims key = l := by
  intro claims key h
  rw [getStringSliceClaim, h, nilOrStrings]
  by_cases hl : l = []
  · simp [hl]
  · rw [if_neg hl, Any.strings]
    simp only [List.filterMap_map]
    show l.filterMap some = l
    exact List.filterMap_some

theorem relevantTo_subset {perms : List String} {perm : String}
    (h : perm ∈ relevantTo scopes perms) : perm ∈ perms := by
  unfold relevantTo at h
  split at h
  · exact h
  · exact (List.mem_filter.mp h).1

namespace Exchanges

variable (h : Exchanges issuer out req t resp scopes act)

include h

theorem lookup (key : String) : resp.accessToken.claims.lookup key =
    ((exchangedFields issuer out req t.claims scopes act).lookup key).join := by
  rw [h.claims, exchangedClaims_lookup]

theorem subject_eq : resp.accessToken.subject = t.subject := by
  rw [SignedToken.subject, getStringClaim, h.lookup]
  simp [exchangedFields, List.lookup_cons, SignedToken.subject]

theorem tenant_eq : resp.accessToken.tenant = req.tenantID.string := by
  rw [SignedToken.tenant, getStringClaim, h.lookup]
  simp [exchangedFields, List.lookup_cons]

theorem scopes_eq : resp.accessToken.scopes = scopes.flatMap Strings.fields := by
  rw [SignedToken.scopes, getStringClaim, h.lookup]
  simp [exchangedFields, List.lookup_cons, Strings.fields_join]

theorem permissions_subset : ∀ perm ∈ resp.accessToken.permissions, perm ∈ t.permissions := by
  intro perm hperm
  have hlookup : resp.accessToken.claims.lookup "permissions" =
      some (nilOrStrings (relevantTo scopes (getStringSliceClaim t.claims "permissions"))) := by
    rw [h.lookup]
    simp [exchangedFields, List.lookup_cons]
  rw [SignedToken.permissions, getStringSlice_strings _ _ _ hlookup] at hperm
  exact relevantTo_subset hperm

theorem roles_subset : ∀ role ∈ resp.accessToken.roles, role ∈ t.roles := by
  intro role hrole
  have hlookup : resp.accessToken.claims.lookup "roles" =
      some (nilOrStrings (relevantTo scopes (getStringSliceClaim t.claims "roles"))) := by
    rw [h.lookup]
    simp [exchangedFields, List.lookup_cons]
  rw [SignedToken.roles, getStringSlice_strings _ _ _ hlookup] at hrole
  exact relevantTo_subset hrole

theorem isAgentToken_eq : resp.accessToken.isAgentToken = false := by
  rw [SignedToken.isAgentToken, getBoolClaim, h.lookup]
  simp [exchangedFields, List.lookup_cons]

theorem delegationChain_eq : resp.accessToken.delegationChain = [] := by
  rw [SignedToken.delegationChain, getDelegationChain, h.lookup]
  simp [exchangedFields, List.lookup_cons]

theorem act_eq : resp.accessToken.claims.lookup "act" = act := by
  rw [h.lookup]
  simp [exchangedFields, List.lookup_cons]

end Exchanges

end Exchange

-- ---------------------------------------------------------------------------
-- What an agent token says
-- ---------------------------------------------------------------------------

namespace Delegates

section Claims

variable {issuer : String} {out : ExchangeOutside} {agents : UUID → Option RegisteredAgent}
  {req : AgentTokenExchangeRequest} {t : SignedToken} {resp : AgentTokenResponse}
  {agent : RegisteredAgent} (h : Delegates issuer out agents req t resp agent)

include h

theorem lookup (key : String) : resp.accessToken.claims.lookup key =
    ((agentClaims issuer out req t.claims agent).fields.lookup key).join := by
  rw [h.claims, encode_lookup]

theorem tenant_eq : resp.accessToken.tenant = "" := by
  rw [SignedToken.tenant, getStringClaim, h.lookup]
  simp [AgentTokenClaims.fields, List.lookup_cons]

theorem scopes_eq : resp.accessToken.scopes = Strings.fields (agentScope req agent) := by
  have hlookup : resp.accessToken.claims.lookup "scope" =
      nonEmptyString (agentScope req agent) := by
    rw [h.lookup]
    simp [AgentTokenClaims.fields, agentClaims, List.lookup_cons]
  rw [SignedToken.scopes, getStringClaim, hlookup]
  by_cases hempty : agentScope req agent = ""
  · simp [nonEmptyString, hempty]
  · simp [nonEmptyString, hempty]

theorem permissions_eq : resp.accessToken.permissions = [] := by
  rw [SignedToken.permissions, getStringSliceClaim, h.lookup]
  simp [AgentTokenClaims.fields, List.lookup_cons]

theorem roles_eq : resp.accessToken.roles = [] := by
  rw [SignedToken.roles, getStringSliceClaim, h.lookup]
  simp [AgentTokenClaims.fields, List.lookup_cons]

theorem act_eq : resp.accessToken.claims.lookup "act" = none := by
  rw [h.lookup]
  simp [AgentTokenClaims.fields, List.lookup_cons]

end Claims

end Delegates

-- ---------------------------------------------------------------------------
-- Chains of exchanges
-- ---------------------------------------------------------------------------

/-- A call of either kind, without the subject token. `ExchangeToken` is the internal
exchange without client authentication. -/
inductive ExchangeCall where
  | exchangeAgentToken (agents : UUID → Option RegisteredAgent) (req : AgentTokenExchangeRequest)
  | exchangeTokenRFC8693 (crypto : Crypto) (req : RFC8693ExchangeRequest)
  | exchangeToken (req : RFC8693ExchangeRequest)

/-- The token a call issues. -/
def issue (issuer : String) (t : SignedToken) (e : ExchangeCall × ExchangeOutside) :
    Except GGIDError SignedToken :=
  match e.1 with
  | .exchangeAgentToken agents req =>
    (exchangeAgentToken issuer e.2 agents req t).map AgentTokenResponse.accessToken
  | .exchangeTokenRFC8693 crypto req =>
    (exchangeTokenRFC8693 crypto issuer e.2 req t).map ExchangeResponse.accessToken
  | .exchangeToken req =>
    (exchangeTokenInternal issuer e.2 req t).map ExchangeResponse.accessToken

/-- A call exchanges the last token; one that fails leaves it as it is. -/
def exchangeStep (issuer : String) (t : SignedToken) (e : ExchangeCall × ExchangeOutside) :
    SignedToken :=
  match issue issuer t e with
  | .ok issued => issued
  | .error _ => t

/-- Every token a call of the chain issues is in this relation to the one it was
exchanged for. -/
def EveryExchange (issuer : String) (R : SignedToken → SignedToken → Prop) (t : SignedToken)
    (es : List (ExchangeCall × ExchangeOutside)) : Prop :=
  StepsOk (exchangeStep issuer) (fun t e => ∀ issued, issue issuer t e = .ok issued → R t issued)
    t es

/-- Every call of the chain that issues a token meets the condition. -/
def EveryCall (issuer : String) (Cond : SignedToken → ExchangeCall → Prop) (t : SignedToken)
    (es : List (ExchangeCall × ExchangeOutside)) : Prop :=
  StepsOk (exchangeStep issuer)
    (fun t e => ∀ issued, issue issuer t e = .ok issued → Cond t e.1) t es

/-- How a token comes to be issued. -/
inductive Issues (issuer : String) (t : SignedToken) (e : ExchangeCall × ExchangeOutside)
    (issued : SignedToken) : Prop where
  | delegated {agents : UUID → Option RegisteredAgent} {req : AgentTokenExchangeRequest}
      {resp : AgentTokenResponse} {agent : RegisteredAgent}
      (call : e.1 = .exchangeAgentToken agents req) (token : issued = resp.accessToken)
      (how : Delegates issuer e.2 agents req t resp agent)
  | exchanged {req : RFC8693ExchangeRequest} {resp : ExchangeResponse} {scopes : List String}
      {act : Option Any}
      (call : (∃ crypto, e.1 = .exchangeTokenRFC8693 crypto req) ∨ e.1 = .exchangeToken req)
      (token : issued = resp.accessToken) (how : Exchanges issuer e.2 req t resp scopes act)

section Chain

variable {issuer : String} {t issued : SignedToken} {e : ExchangeCall × ExchangeOutside}
  {es : List (ExchangeCall × ExchangeOutside)}

theorem map_ok {ε α β : Type} {x : Except ε α} {f : α → β} {b : β} (h : x.map f = .ok b) :
    ∃ a, x = .ok a ∧ b = f a := by
  cases x with
  | error err => exact absurd h (by simp [Except.map])
  | ok a => exact ⟨a, rfl, (Except.ok.inj h).symm⟩

theorem issue_ok (h : issue issuer t e = .ok issued) : Issues issuer t e issued := by
  obtain ⟨call, out⟩ := e
  cases call with
  | exchangeAgentToken agents req =>
    obtain ⟨resp, hresp, htoken⟩ := map_ok h
    obtain ⟨agent, hd⟩ := exchangeAgentToken_ok hresp
    exact .delegated rfl htoken hd
  | exchangeTokenRFC8693 crypto req =>
    obtain ⟨resp, hresp, htoken⟩ := map_ok h
    obtain ⟨scopes, act, hx⟩ := exchangeTokenInternal_ok (exchangeTokenRFC8693_ok hresp)
    exact .exchanged (Or.inl ⟨crypto, rfl⟩) htoken hx
  | exchangeToken req =>
    obtain ⟨resp, hresp, htoken⟩ := map_ok h
    obtain ⟨scopes, act, hx⟩ := exchangeTokenInternal_ok hresp
    exact .exchanged (Or.inr rfl) htoken hx

/-- A relation and a condition that agree call by call agree on every chain. -/
theorem everyExchange_iff {R : SignedToken → SignedToken → Prop}
    {Cond : SignedToken → ExchangeCall → Prop}
    (hstep : ∀ t e issued, Issues issuer t e issued → (R t issued ↔ Cond t e.1)) :
    EveryExchange issuer R t es ↔ EveryCall issuer Cond t es := by
  apply stepsOk_congr
  intro t e
  constructor
  · intro h issued hissued
    exact (hstep t e issued (issue_ok hissued)).mp (h issued hissued)
  · intro h issued hissued
    exact (hstep t e issued (issue_ok hissued)).mpr (h issued hissued)

/-- What every exchange keeps, in a reflexive and transitive sense, the chain keeps. -/
theorem EveryExchange.reaches {R : SignedToken → SignedToken → Prop} (hrefl : ∀ t, R t t)
    (htrans : ∀ a b c, R a b → R b c → R a c) (h : EveryExchange issuer R t es) :
    ∀ t' ∈ states (exchangeStep issuer) t es, R t t' := by
  have hstep : ∀ s e, R t s → (∀ issued, issue issuer s e = .ok issued → R s issued) →
      R t (exchangeStep issuer s e) := by
    intro s e hs hok
    unfold exchangeStep
    cases hissue : issue issuer s e with
    | error err => exact hs
    | ok issued => exact htrans t s issued hs (hok issued hissue)
  exact invariant_states hstep (hrefl t) h

end Chain

-- ---------------------------------------------------------------------------
-- Scopes
-- ---------------------------------------------------------------------------

/-- No scope is added. -/
def Attenuates (t issued : SignedToken) : Prop := ∀ sc ∈ issued.scopes, sc ∈ t.scopes

/-- The scopes an agent is given are scopes of the subject token; a token that is
exchanged otherwise has a scope. -/
def WithinScope (t : SignedToken) : ExchangeCall → Prop
  | .exchangeAgentToken agents req => ∀ agent, agents req.agentID = some agent →
      ∀ sc ∈ Strings.fields (agentScope req agent), sc ∈ t.scopes
  | .exchangeTokenRFC8693 _ _ => t.scopes ≠ []
  | .exchangeToken _ => t.scopes ≠ []

section Scope

variable {issuer : String} {out : ExchangeOutside} {req : RFC8693ExchangeRequest}
  {t : SignedToken} {resp : ExchangeResponse} {scopes : List String} {act : Option Any}

theorem subjectScopes_of_some (h : t.scopes ≠ []) : subjectScopes t.claims = t.scopes := by
  unfold subjectScopes
  split
  · rename_i hnone
    exact absurd hnone h
  · rfl

theorem subjectScopes_of_none (h : t.scopes = []) : subjectScopes t.claims = ["openid"] := by
  unfold subjectScopes
  split
  · rfl
  · rename_i hsome
    exact absurd h hsome

theorem Exchanges.mem_subjectScopes (h : Exchanges issuer out req t resp scopes act) :
    ∀ sc ∈ scopes, sc ∈ subjectScopes t.claims := by
  rcases h.scope with ⟨-, rfl⟩ | ⟨-, -, hsubset⟩
  · exact fun _ hsc => hsc
  · exact hsubset

/-- A token exchange grants at least one scope. -/
theorem Exchanges.scopes_ne_nil (h : Exchanges issuer out req t resp scopes act) :
    scopes ≠ [] := by
  rcases h.scope with ⟨-, rfl⟩ | ⟨hsome, rfl, -⟩
  · unfold subjectScopes
    split
    · simp
    · assumption
  · exact hsome

theorem exchanged_attenuates_iff (h : Exchanges issuer out req t resp scopes act) :
    Attenuates t resp.accessToken ↔ t.scopes ≠ [] := by
  unfold Attenuates
  rw [h.scopes_eq]
  constructor
  · intro hwithin hnone
    -- without a scope of its own the subject token is taken to have `openid`
    obtain ⟨sc, rest, rfl⟩ := List.exists_cons_of_ne_nil h.scopes_ne_nil
    have hopenid : sc = "openid" := by
      have hmem := h.mem_subjectScopes sc List.mem_cons_self
      rw [subjectScopes_of_none hnone] at hmem
      exact List.mem_singleton.mp hmem
    have hword : "openid" ∈ (sc :: rest).flatMap Strings.fields := by
      rw [hopenid, List.flatMap_cons]
      exact List.mem_append_left _ (by decide)
    have hmem := hwithin "openid" hword
    rw [hnone] at hmem
    exact absurd hmem List.not_mem_nil
  · intro hsome word hword
    obtain ⟨sc, hsc, hin⟩ := List.mem_flatMap.mp hword
    have hmem := h.mem_subjectScopes sc hsc
    rw [subjectScopes_of_some hsome] at hmem
    -- a scope of the subject token is a word, so it is granted as it is
    have hself : Strings.fields sc = [sc] := Strings.fields_word hmem
    rw [hself, List.mem_singleton] at hin
    rw [hin]
    exact hmem

end Scope

theorem attenuates_iff {issuer : String} (t : SignedToken) (e : ExchangeCall × ExchangeOutside)
    (issued : SignedToken) (h : Issues issuer t e issued) :
    Attenuates t issued ↔ WithinScope t e.1 := by
  cases h with
  | @delegated agents req resp agent call token how =>
    rw [call, token, Attenuates, how.scopes_eq]
    constructor
    · intro hwithin agent' hagent'
      obtain rfl : agent = agent' := Option.some.inj (how.found.symm.trans hagent')
      exact hwithin
    · exact fun hwithin => hwithin agent how.found
  | @exchanged req resp scopes act call token how =>
    rw [token, exchanged_attenuates_iff how]
    rcases call with ⟨crypto, hcall⟩ | hcall
    · rw [hcall]
      rfl
    · rw [hcall]
      rfl

namespace Sample

def exchangeClient : OAuthClient :=
  ⟨5#128, 1#128, "spa", "", "Spa", "", .publicClient, [], [], [], [], "none", [], false, [], true, 0,
    0⟩

def mixedOutside : ExchangeOutside := { exchangeOutside with found := some exchangeClient }

def noPasswords : Crypto := ⟨fun _ _ => false, id, id⟩

/-- An exchange for an agent with this depth, which may read the audit log. -/
def toAgent (depth : Int) (h : 0 ≤ depth) : ExchangeCall × ExchangeOutside :=
  (.exchangeAgentToken (fun _ => some (agentWithDepth depth h)) agentRequest, mixedOutside)

/-- A token exchange by a client of a tenant. -/
def toTenant (tenantID : UUID) (actor : Option SignedToken) : ExchangeCall × ExchangeOutside :=
  (.exchangeTokenRFC8693 noPasswords ⟨tenantID, "spa", "", "", actor, [], ""⟩, mixedOutside)

def serviceToken : SignedToken := ⟨[("sub", .string "svc-1")], "sig"⟩

end Sample

/-- The issued token speaks for the same user of the same tenant, with no permission
and no role more. -/
structure SameOwner (t issued : SignedToken) : Prop where
  subject     : issued.subject = t.subject
  tenant      : issued.tenant = t.tenant
  permissions : ∀ perm ∈ issued.permissions, perm ∈ t.permissions
  roles       : ∀ role ∈ issued.roles, role ∈ t.roles

/-- An agent's token is issued for a token without a tenant, any other for one with a
tenant. -/
def TenantSurvives (t : SignedToken) : ExchangeCall → Prop
  | .exchangeAgentToken _ _ => t.tenant = ""
  | .exchangeTokenRFC8693 _ _ => t.tenant ≠ ""
  | .exchangeToken _ => t.tenant ≠ ""

theorem delegated_sameOwner_iff {issuer : String} {out : ExchangeOutside}
    {agents : UUID → Option RegisteredAgent} {req : AgentTokenExchangeRequest} {t : SignedToken}
    {resp : AgentTokenResponse} {agent : RegisteredAgent}
    (h : Delegates issuer out agents req t resp agent) :
    SameOwner t resp.accessToken ↔ t.tenant = "" := by
  constructor
  · intro hsame
    rw [← hsame.tenant, h.tenant_eq]
  · intro htenant
    refine ⟨h.subject_eq, by rw [h.tenant_eq, htenant], ?_, ?_⟩
    · rw [h.permissions_eq]
      exact fun _ hmem => absurd hmem List.not_mem_nil
    · rw [h.roles_eq]
      exact fun _ hmem => absurd hmem List.not_mem_nil

theorem exchanged_sameOwner_iff {issuer : String} {out : ExchangeOutside}
    {req : RFC8693ExchangeRequest} {t : SignedToken} {resp : ExchangeResponse}
    {scopes : List String} {act : Option Any} (h : Exchanges issuer out req t resp scopes act) :
    SameOwner t resp.accessToken ↔ t.tenant ≠ "" := by
  constructor
  · intro hsame
    rw [← hsame.tenant, h.tenant_eq]
    exact UUID_string_ne_empty req.tenantID
  · intro htenant
    refine ⟨h.subject_eq, ?_, h.permissions_subset, h.roles_subset⟩
    rw [h.tenant_eq, h.tenant htenant]

theorem sameOwner_iff {issuer : String} (t : SignedToken) (e : ExchangeCall × ExchangeOutside)
    (issued : SignedToken) (h : Issues issuer t e issued) :
    SameOwner t issued ↔ TenantSurvives t e.1 := by
  cases h with
  | delegated call token how =>
    rw [call, token]
    exact delegated_sameOwner_iff how
  | exchanged call token how =>
    rw [token, exchanged_sameOwner_iff how]
    rcases call with ⟨crypto, hcall⟩ | hcall
    · rw [hcall]
      rfl
    · rw [hcall]
      rfl

/-- **Same owner.** Along every chain of exchanges each token has the subject and the
tenant of the token it was exchanged for and no permission or role more, exactly if
every agent's token is issued for a token without a tenant, and every other for one
with a tenant. Then this holds between the first token and every one of the chain. -/
theorem owner_kept_iff (issuer : String) (t : SignedToken)
    (es : List (ExchangeCall × ExchangeOutside)) :
    (EveryExchange issuer SameOwner t es ↔ EveryCall issuer TenantSurvives t es) ∧
    (EveryCall issuer TenantSurvives t es →
      ∀ t' ∈ states (exchangeStep issuer) t es, SameOwner t t') := by
  have hiff : EveryExchange issuer SameOwner t es ↔ EveryCall issuer TenantSurvives t es :=
    everyExchange_iff sameOwner_iff
  refine ⟨hiff, fun h => (hiff.mpr h).reaches ?_ ?_⟩
  · exact fun _ => ⟨rfl, rfl, fun _ hmem => hmem, fun _ hmem => hmem⟩
  · intro a b c hab hbc
    exact ⟨hbc.subject.trans hab.subject, hbc.tenant.trans hab.tenant,
      fun perm hperm => hab.permissions perm (hbc.permissions perm hperm),
      fun role hrole => hab.roles role (hbc.roles role hrole)⟩

open Sample in
theorem owner_kept_iff_sample :
    EveryCall "ggid" TenantSurvives userToken [toTenant 1#128 none] ∧
    (run (exchangeStep "ggid") userToken [toTenant 1#128 none]).permissions = ["audit:read"] ∧
    ∀ t' ∈ states (exchangeStep "ggid") userToken [toTenant 1#128 none], SameOwner userToken t' := by
  have hsurvives : EveryCall "ggid" TenantSurvives userToken [toTenant 1#128 none] := by
    refine ⟨fun issued _ => ?_, trivial⟩
    show userToken.tenant ≠ ""
    decide
  exact ⟨hsurvives, by decide, (owner_kept_iff "ggid" userToken _).2 hsurvives⟩

open Sample in
/-- A user of tenant 1 has a token exchanged for an agent's, which names no tenant, and
that one by a client of tenant 3. -/
theorem tenant_changed :
    userToken.tenant = UUID.string 1#128 ∧
    (run (exchangeStep "ggid") userToken [toAgent 1 (by decide)]).tenant = "" ∧
    (run (exchangeStep "ggid") userToken [toAgent 1 (by decide), toTenant 3#128 none]).tenant =
      UUID.string 3#128 := by
  decide

-- ---------------------------------------------------------------------------
-- Actors and depth
-- ---------------------------------------------------------------------------

mutual

/-- The subjects of an `act` claim, the current actor first. -/
def actSubjects : Any → List String
  | .map fields => actSubject fields ++ nestedActSubjects fields
  | _ => []

def nestedActSubjects : List (String × Any) → List String
  | [] => []
  | (key, v) :: fields => if key = "act" then actSubjects v else nestedActSubjects fields

/-- The `sub` of an actor. -/
def actSubject : List (String × Any) → List String
  | [] => []
  | (key, v) :: fields => if key = "sub" then (stringItem v).toList else actSubject fields

end

/-- The actors a token records in its `act` claim. -/
def SignedToken.actors (t : SignedToken) : List String :=
  ((t.claims.lookup "act").map actSubjects).getD []

/-- Every actor is still recorded. -/
structure KeepsActors (t issued : SignedToken) : Prop where
  act   : ∀ actor ∈ t.actors, actor ∈ issued.actors
  chain : ∀ hop ∈ t.delegationChain, hop ∈ issued.delegationChain

/-- What is issued for an agent's token is an agent's token, with less depth left. -/
def KeepsDepth (t issued : SignedToken) : Prop :=
  t.isAgentToken = true →
    issued.isAgentToken = true ∧ issued.remainingDepth < t.remainingDepth

/-- The exchange does not take the path that drops what the token records: a token with
an `act` claim is exchanged with an actor, and an agent's token for another agent's. -/
def TakesPath (t : SignedToken) : ExchangeCall → Prop
  | .exchangeAgentToken _ _ => t.actors = []
  | .exchangeTokenRFC8693 _ req =>
    t.isAgentToken = false ∧ t.delegationChain = [] ∧ (req.actorToken = none → t.actors = [])
  | .exchangeToken req =>
    t.isAgentToken = false ∧ t.delegationChain = [] ∧ (req.actorToken = none → t.actors = [])

/-- Only agents' tokens have a delegation chain, as the service issues them, and the
depth of an agent is a `float64`. -/
def WellFormed (t : SignedToken) : ExchangeCall → Prop
  | .exchangeAgentToken agents req =>
    (t.delegationChain ≠ [] → t.isAgentToken = true) ∧
      ∀ agent, agents req.agentID = some agent → agent.maxDelegationDepth ≤ 2 ^ 53
  | _ => True

section Actors

variable {issuer : String} {out : ExchangeOutside}

theorem actSubjects_nestAct (actorSub : String) (existing : Option Any) :
    actSubjects (nestAct actorSub existing) =
      actorSub :: (existing.map actSubjects).getD [] := by
  cases existing with
  | none => simp [nestAct, actSubjects, actSubject, nestedActSubjects, stringItem]
  | some act => simp [nestAct, actSubjects, actSubject, nestedActSubjects, stringItem]

theorem delegated_actors {agents : UUID → Option RegisteredAgent}
    {req : AgentTokenExchangeRequest} {t : SignedToken} {resp : AgentTokenResponse}
    {agent : RegisteredAgent} (h : Delegates issuer out agents req t resp agent) :
    resp.accessToken.actors = [] := by
  rw [SignedToken.actors, h.act_eq]
  rfl

theorem delegated_keeps {agents : UUID → Option RegisteredAgent}
    {req : AgentTokenExchangeRequest} {t : SignedToken} {resp : AgentTokenResponse}
    {agent : RegisteredAgent} (h : Delegates issuer out agents req t resp agent)
    (hactors : t.actors = []) (hchain : t.delegationChain ≠ [] → t.isAgentToken = true)
    (hfits : agent.maxDelegationDepth ≤ 2 ^ 53) :
    KeepsActors t resp.accessToken ∧ KeepsDepth t resp.accessToken := by
  refine ⟨⟨?_, ?_⟩, ?_⟩
  · rw [hactors]
    exact fun _ hmem => absurd hmem List.not_mem_nil
  · intro hop hhop
    have hagent := hchain (List.ne_nil_of_mem hhop)
    rw [h.chain, extendChain_of_agent hagent]
    exact List.mem_append_left _ hhop
  · intro hagent
    obtain ⟨-, -, hless⟩ := h.reduceDepth_bounds
    rw [h.remainingDepth hfits]
    exact ⟨h.isAgentToken, hless hagent⟩

theorem exchanged_actors {req : RFC8693ExchangeRequest} {t : SignedToken}
    {resp : ExchangeResponse} {scopes : List String} {act : Option Any}
    (h : Exchanges issuer out req t resp scopes act) :
    (∀ actor ∈ t.actors, actor ∈ resp.accessToken.actors) ↔
      (req.actorToken = none → t.actors = []) := by
  have hactors : resp.accessToken.actors = (act.map actSubjects).getD [] := by
    rw [SignedToken.actors, h.act_eq]
  rw [hactors]
  rcases h.actor with ⟨hnone, rfl⟩ | ⟨actor, hsome, rfl⟩
  · constructor
    · intro hkeeps _
      exact List.eq_nil_iff_forall_not_mem.mpr fun actor hmem =>
        absurd (hkeeps actor hmem) List.not_mem_nil
    · intro hempty actor hmem
      rw [hempty hnone] at hmem
      exact absurd hmem List.not_mem_nil
  · constructor
    · intro _ hnone
      exact absurd (hsome.symm.trans hnone) (by simp)
    · intro _ actor' hmem
      rw [Option.map_some, Option.getD_some, actSubjects_nestAct]
      exact List.mem_cons_of_mem _ hmem

theorem exchanged_keeps_iff {req : RFC8693ExchangeRequest} {t : SignedToken}
    {resp : ExchangeResponse} {scopes : List String} {act : Option Any}
    (h : Exchanges issuer out req t resp scopes act) :
    (KeepsActors t resp.accessToken ∧ KeepsDepth t resp.accessToken) ↔
      t.isAgentToken = false ∧ t.delegationChain = [] ∧
        (req.actorToken = none → t.actors = []) := by
  have hplain := h.isAgentToken_eq
  constructor
  · rintro ⟨⟨hact, hchain⟩, hdepth⟩
    refine ⟨?_, ?_, (exchanged_actors h).mp hact⟩
    · by_contra hagent
      have hkept := (hdepth (by simpa using hagent)).1
      exact absurd (hplain.symm.trans hkept) (by simp)
    · rw [h.delegationChain_eq] at hchain
      exact List.eq_nil_iff_forall_not_mem.mpr fun hop hmem =>
        absurd (hchain hop hmem) List.not_mem_nil
  · rintro ⟨hagent, hchain, hact⟩
    refine ⟨⟨(exchanged_actors h).mpr hact, ?_⟩, fun hyes => ?_⟩
    · rw [hchain]
      exact fun _ hmem => absurd hmem List.not_mem_nil
    · exact absurd (hagent.symm.trans hyes) (by simp)

end Actors

section Laundering

variable {issuer : String} {t issued : SignedToken} {e : ExchangeCall × ExchangeOutside}

theorem keeps_of_path (h : Issues issuer t e issued) (hpath : TakesPath t e.1)
    (hformed : WellFormed t e.1) : KeepsActors t issued ∧ KeepsDepth t issued := by
  cases h with
  | @delegated agents req resp agent call token how =>
    rw [call] at hpath hformed
    rw [token]
    exact delegated_keeps how hpath hformed.1 (hformed.2 agent how.found)
  | exchanged call token how =>
    rw [token, exchanged_keeps_iff how]
    rcases call with ⟨crypto, hcall⟩ | hcall
    · rw [hcall] at hpath
      exact hpath
    · rw [hcall] at hpath
      exact hpath

theorem path_of_keeps (h : Issues issuer t e issued)
    (hkeeps : KeepsActors t issued ∧ KeepsDepth t issued) : TakesPath t e.1 := by
  cases h with
  | delegated call token how =>
    rw [call]
    have hact := hkeeps.1.act
    rw [token, delegated_actors how] at hact
    exact List.eq_nil_iff_forall_not_mem.mpr fun actor hmem =>
      absurd (hact actor hmem) List.not_mem_nil
  | exchanged call token how =>
    rw [token, exchanged_keeps_iff how] at hkeeps
    rcases call with ⟨crypto, hcall⟩ | hcall
    · rw [hcall]
      exact hkeeps
    · rw [hcall]
      exact hkeeps

end Laundering

/-- What holds between any two tokens of a chain that launders nothing. -/
structure Descends (t t' : SignedToken) : Prop where
  actors : KeepsActors t t'
  agent  : t.isAgentToken = true → t'.isAgentToken = true
  depth  : t.isAgentToken = true → t'.remainingDepth ≤ t.remainingDepth

/-- **No laundering.** If no exchange takes a path that drops what the token records,
every exchange keeps the actors and takes from the depth of an agent's token; then so
does the whole chain. And if every exchange of a chain does so, none takes such a path. -/
theorem delegation_kept (issuer : String) (t : SignedToken)
    (es : List (ExchangeCall × ExchangeOutside)) :
    (EveryCall issuer (fun t call => TakesPath t call ∧ WellFormed t call) t es →
      EveryExchange issuer (fun t issued => KeepsActors t issued ∧ KeepsDepth t issued) t es ∧
        ∀ t' ∈ states (exchangeStep issuer) t es, Descends t t') ∧
    (EveryExchange issuer (fun t issued => KeepsActors t issued ∧ KeepsDepth t issued) t es →
      EveryCall issuer TakesPath t es) := by
  constructor
  · intro h
    have hkeeps : EveryExchange issuer
        (fun t issued => KeepsActors t issued ∧ KeepsDepth t issued) t es := by
      refine stepsOk_mono ?_ h
      intro s e hs issued hissued
      exact keeps_of_path (issue_ok hissued) (hs issued hissued).1 (hs issued hissued).2
    have hdescends : EveryExchange issuer Descends t es := by
      refine stepsOk_mono ?_ hkeeps
      intro s e hs issued hissued
      obtain ⟨hactors, hdepth⟩ := hs issued hissued
      exact ⟨hactors, fun hagent => (hdepth hagent).1, fun hagent => le_of_lt (hdepth hagent).2⟩
    refine ⟨hkeeps, hdescends.reaches ?_ ?_⟩
    · exact fun _ => ⟨⟨fun _ hmem => hmem, fun _ hmem => hmem⟩, id, fun _ => le_refl _⟩
    · intro a b c hab hbc
      exact ⟨⟨fun actor hmem => hbc.actors.act actor (hab.actors.act actor hmem),
          fun hop hmem => hbc.actors.chain hop (hab.actors.chain hop hmem)⟩,
        fun hagent => hbc.agent (hab.agent hagent),
        fun hagent => le_trans (hbc.depth (hab.agent hagent)) (hab.depth hagent)⟩
  · intro h
    refine stepsOk_mono ?_ h
    intro s e hs issued hissued
    exact path_of_keeps (issue_ok hissued) (hs issued hissued)

open Sample in
theorem delegation_kept_sample :
    EveryCall "ggid" (fun t call => TakesPath t call ∧ WellFormed t call) userToken
      [toAgent 1 (by decide)] ∧
    (run (exchangeStep "ggid") userToken [toAgent 1 (by decide)]).isAgentToken = true ∧
    ∀ t' ∈ states (exchangeStep "ggid") userToken [toAgent 1 (by decide)],
      Descends userToken t' := by
  have hpath : EveryCall "ggid" (fun t call => TakesPath t call ∧ WellFormed t call) userToken
      [toAgent 1 (by decide)] := by
    refine ⟨fun issued _ => ⟨?_, ?_, fun agent hagent => ?_⟩, trivial⟩
    · show userToken.actors = []
      decide
    · exact fun hchain => absurd (by decide : userToken.delegationChain = []) hchain
    · obtain rfl : agentWithDepth 1 (by decide) = agent := Option.some.inj hagent
      decide
  exact ⟨hpath, by decide, ((delegation_kept "ggid" userToken _).1 hpath).2⟩

open Sample in
/-- An agent whose depth is used up exchanges its token for one that records no agent
and starts over; an actor is gone after an exchange without one. -/
theorem delegation_laundered :
    ([toAgent 1 (by decide), toAgent 1 (by decide), toAgent 1 (by decide)].foldl
      (exchangeStep "ggid") userToken).remainingDepth = 0 ∧
    (([toAgent 1 (by decide), toAgent 1 (by decide), toTenant 1#128 none].foldl
      (exchangeStep "ggid") userToken).isAgentToken = false ∧
      ([toAgent 1 (by decide), toAgent 1 (by decide), toTenant 1#128 none].foldl
        (exchangeStep "ggid") userToken).delegationChain = []) ∧
    ([toAgent 1 (by decide), toAgent 1 (by decide), toTenant 1#128 none,
      toAgent 1 (by decide)].foldl (exchangeStep "ggid") userToken).remainingDepth = 1 ∧
    (([toTenant 1#128 (some serviceToken)].foldl (exchangeStep "ggid") userToken).actors =
        ["svc-1"] ∧
      ([toTenant 1#128 (some serviceToken), toTenant 1#128 none].foldl (exchangeStep "ggid")
        userToken).actors = []) := by
  decide

end Ggid.OAuth
