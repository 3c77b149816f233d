import Ggid.OAuth.MemoryRepository

/-!
# OAuth service — the context of an authorization code

`CreateAuthorizationCode` records how the user authenticated next to what was asked
for, and the exchange of the code reads it back to decide about step-up. The record
goes through a repository. The in-memory one keeps the whole struct; the table has
no columns for the authentication methods, the assurance level, the time of
authentication and the requested level.

* `context_kept_iff`     — what the repositories return for a code that was recorded,
  whatever happens to other codes in between;
* `context_lost`         — a user who logged in with a password and a TOTP.
-/

namespace Ggid.OAuth

open Ggid.Go Ggid.Policy Ggid.Lib

-- ---------------------------------------------------------------------------
-- Authentication methods
-- ---------------------------------------------------------------------------

/-- The RFC 8176 value of a method; other methods have none. -/
def amrOf (m : String) : Option String :=
  if m = "password" then some "pwd"
  else if m = "totp" ∨ m = "hotp" then some "otp"
  else if m = "webauthn" then some "fpt"
  else if m = "sms_otp" then some "sms"
  else none

def isMFA (m : String) : Bool := m = "totp" || m = "hotp" || m = "webauthn" || m = "sms_otp"

def computeAMR (authMethods : List String) : List String :=
  authMethods.filterMap amrOf ++ if authMethods.any isMFA then ["mfa"] else []

def computeACR (authMethods : List String) : String :=
  if authMethods.contains "webauthn" then "AAL3"
  else if authMethods.any isMFA then "AAL2"
  else if authMethods.contains "password" then "AAL1"
  else ""

-- ---------------------------------------------------------------------------
-- `CreateAuthorizationCode`
-- ---------------------------------------------------------------------------

structure AuthorizeRequest where
  tenantID            : UUID
  redirectURI         : String
  responseType        : String
  scope               : List String
  /-- `Scope` is a nil slice; it is empty then. -/
  scopeIsNil          : Bool
  state               : String
  nonce               : String
  codeChallenge       : String
  codeChallengeMethod : String
  userID              : UUID
  authMethods         : List String
  requestedACR        : String
  deriving DecidableEq

/-- What the outside contributes: the two clock readings, the random source, and
whether the state can be kept once the code is stored. -/
structure AuthorizeEnv where
  now       : Time
  authNow   : Time
  randFails : Bool
  newID     : UUID
  newCode   : String
  stateFull : Bool

/-- The scopes that are recorded. -/
def authorizedScope (std : Stdlib) (client : OAuthClient) (req : AuthorizeRequest) : List String :=
  if client.scopes = [] then req.scope else intersectScopes std req.scope client.scopes

/-- An intersection without scopes is a nil slice. -/
def authorizedScopeIsNil (std : Stdlib) (client : OAuthClient) (req : AuthorizeRequest) : Bool :=
  if client.scopes = [] then req.scopeIsNil
  else intersectScopes std req.scope client.scopes = []

/-- The record. -/
def authorizationCode (crypto : Crypto) (std : Stdlib) (env : AuthorizeEnv) (client : OAuthClient)
    (req : AuthorizeRequest) : AuthorizationCode where
  id := env.newID
  tenantID := req.tenantID
  codeHash := crypto.hashCode env.newCode
  clientID := client.id
  userID := req.userID
  redirectURI := req.redirectURI
  scope := authorizedScope std client req
  codeChallenge := req.codeChallenge
  codeChallengeMethod := if req.codeChallengeMethod = "" then "S256" else req.codeChallengeMethod
  nonce := req.nonce
  expiresAt := env.now + 10 * minute
  used := false
  createdAt := Time.zero
  amr := computeAMR req.authMethods
  acr := computeACR req.authMethods
  authTime := env.authNow
  requestedACR := req.requestedACR

/-- The checks before anything is recorded. -/
def authorizeChecks (client : OAuthClient) (req : AuthorizeRequest) : Except GGIDError Unit :=
  if !client.enabled then .error (invalidArgument "client is disabled")
  else if !client.validateRedirectURI req.redirectURI then
    .error (invalidArgument "redirect_uri not registered for this client")
  else if client.responseTypes ≠ [] ∧ !client.responseTypes.contains req.responseType then
    .error (invalidArgument "response_type not allowed for this client")
  else if req.state = "" then .error (invalidArgument "state parameter is required")
  else if (Strings.index "id_token".toList req.responseType.toList).isSome ∧ req.nonce = "" then
    .error (invalidArgument "nonce parameter is required for OIDC flows")
  else if client.isPublic ∧ req.codeChallenge = "" then
    .error (invalidArgument
      "code_challenge is required for public clients (OAuth 2.1 PKCE mandate)")
  else if client.requirePKCE ∧ req.codeChallenge = "" then
    .error (invalidArgument "code_challenge is required for this client (PKCE enforced)")
  else .ok ()

/-- `CreateAuthorizationCode` over a code repository with the states `σ`; `createCode`
is its `CreateCode` in the state the call finds. A code stays stored when its state can
not be kept. -/
def createAuthorizationCode {σ : Type} (crypto : Crypto) (std : Stdlib)
    (createCode : AuthorizationCode → Bool → Except GGIDError σ) (env : AuthorizeEnv)
    (found : Except GGIDError OAuthClient) (req : AuthorizeRequest) (s : σ) :
    σ × Except GGIDError String :=
  match found with
  | .error err => (s, .error err)
  | .ok client =>
    match authorizeChecks client req with
    | .error err => (s, .error err)
    | .ok () =>
      if env.randFails then (s, .error (internal "generate auth code" (.driver "random source")))
      else match createCode (authorizationCode crypto std env client req)
          (authorizedScopeIsNil std client req) with
        | .error err => (s, .error err)
        | .ok s' =>
          if env.stateFull then
            (s', .error (internal "state store full, try again"
              (.driver "stateStore size limit reached")))
          else (s', .ok env.newCode)

/-- The context that was recorded is the context that is returned. -/
structure SameContext (recorded returned : AuthorizationCode) : Prop where
  amr                 : returned.amr = recorded.amr
  acr                 : returned.acr = recorded.acr
  authTime            : returned.authTime = recorded.authTime
  requestedACR        : returned.requestedACR = recorded.requestedACR
  nonce               : returned.nonce = recorded.nonce
  codeChallenge       : returned.codeChallenge = recorded.codeChallenge
  codeChallengeMethod : returned.codeChallengeMethod = recorded.codeChallengeMethod
  scope               : returned.scope = recorded.scope

/-- None of the authentication methods has a value of its own. -/
def NoKnownMethod (authMethods : List String) : Prop :=
  ∀ m ∈ authMethods, m ∉ ["password", "totp", "hotp", "webauthn", "sms_otp"]

-- ---------------------------------------------------------------------------
-- What the columns keep
-- ---------------------------------------------------------------------------

theorem amrOf_eq_none_iff {m : String} :
    amrOf m = none ↔ m ∉ ["password", "totp", "hotp", "webauthn", "sms_otp"] := by
  simp only [List.mem_cons, List.not_mem_nil, or_false, not_or]
  unfold amrOf
  split_ifs <;> simp_all
  tauto

theorem any_isMFA_eq_false {authMethods : List String} (h : NoKnownMethod authMethods) :
    authMethods.any isMFA = false := by
  rw [List.any_eq_false]
  intro m hm hmfa
  have hunknown := h m hm
  simp only [isMFA, Bool.or_eq_true, decide_eq_true_eq] at hmfa
  simp only [List.mem_cons, List.not_mem_nil, or_false, not_or] at hunknown
  tauto

theorem computeAMR_eq_nil_iff {authMethods : List String} :
    computeAMR authMethods = [] ↔ NoKnownMethod authMethods := by
  unfold computeAMR
  rw [List.append_eq_nil_iff, List.filterMap_eq_nil_iff]
  simp only [amrOf_eq_none_iff]
  refine ⟨fun h => h.1, fun h => ⟨h, ?_⟩⟩
  rw [any_isMFA_eq_false h]
  rfl

theorem computeACR_eq_empty {authMethods : List String} (h : NoKnownMethod authMethods) :
    computeACR authMethods = "" := by
  have hwebauthn : "webauthn" ∉ authMethods := fun hm => h _ hm (by simp)
  have hpassword : "password" ∉ authMethods := fun hm => h _ hm (by simp)
  simp [computeACR, any_isMFA_eq_false h, hwebauthn, hpassword]

/-- The row of a code gives its context back if there was none. -/
theorem sameContext_row_iff (crypto : Crypto) (std : Stdlib) (env : AuthorizeEnv)
    (client : OAuthClient) (req : AuthorizeRequest) (dbNow : Time) :
    SameContext (authorizationCode crypto std env client req)
        (CodeRepo.ofRow (CodeRepo.toRow dbNow (authorizationCode crypto std env client req))) ↔
      NoKnownMethod req.authMethods ∧ req.requestedACR = "" ∧ env.authNow = Time.zero := by
  constructor
  · intro h
    exact ⟨computeAMR_eq_nil_iff.mp h.amr.symm, h.requestedACR.symm, h.authTime.symm⟩
  · rintro ⟨hmethods, hacr, htime⟩
    exact ⟨(computeAMR_eq_nil_iff.mpr hmethods).symm, (computeACR_eq_empty hmethods).symm,
      htime.symm, hacr.symm, rfl, rfl, rfl, rfl⟩

-- ---------------------------------------------------------------------------
-- What happens to other codes in between
-- ---------------------------------------------------------------------------

/-- The call is not about the code with the hash. -/
def Leaves (codeHash : String) : RepoOp → Prop
  | .createCode _ code _ => code.codeHash ≠ codeHash
  | .consumeCode _ h => h ≠ codeHash
  | _ => True

/-- The row is the only one with its hash. -/
def OnlyRow (p : PgStore) (c : CodeRow) : Prop :=
  c ∈ p.codes ∧ ∀ d ∈ p.codes, d.codeHash = c.codeHash → d = c

section Between

variable {p : PgStore} {c : CodeRow}

theorem pgCall_onlyRow {op : RepoOp} (h : OnlyRow p c) (hop : Leaves c.codeHash op) :
    OnlyRow (pgCall p op).1 c := by
  cases op with
  | storeRefreshToken record =>
    simp only [pgCall]
    split <;> exact h
  | consumeRefreshToken tenantID tokenHash => exact h
  | revokeRefreshToken tenantID tokenHash => exact h
  | revokeAllRefreshTokens tenantID clientID => exact h
  | createCode now code scopeIsNil =>
    simp only [pgCall, CodeRepo.createCode]
    split
    · rename_i codes hcreate
      split at hcreate
      · exact absurd hcreate (by simp)
      · split at hcreate
        · exact absurd hcreate (by simp)
        · rename_i codes' hinsert
          obtain rfl := Except.ok.inj hcreate
          have hmem := (Table.insert?_eq_some hinsert).2
          refine ⟨(hmem c).mpr (Or.inl h.1), fun d hd hhash => ?_⟩
          rcases (hmem d).mp hd with hd | rfl
          · exact h.2 d hd hhash
          · exact absurd hhash hop
    · exact h
  | consumeCode now codeHash =>
    simp only [pgCall, CodeRepo.consumeCode]
    split
    · rename_i code codes hconsume
      split at hconsume
      · exact absurd hconsume (by simp)
      · simp only [Except.ok.injEq, Prod.mk.injEq] at hconsume
        obtain ⟨-, rfl⟩ := hconsume
        have hother : CodeRepo.consumable now codeHash c = false := by
          simp [CodeRepo.consumable, Ne.symm hop]
        refine ⟨?_, fun d hd hhash => ?_⟩
        · rw [Table.mem_update]
          exact Or.inr ⟨h.1, hother⟩
        rw [Table.mem_update] at hd
        rcases hd with ⟨e, he, hcons, rfl⟩ | ⟨hd, -⟩
        · rw [h.2 e he hhash, hother] at hcons
          exact absurd hcons (by simp)
        · exact h.2 d hd hhash
    · exact h

theorem run_onlyRow {ops : List RepoOp} (h : OnlyRow p c)
    (hops : ∀ op ∈ ops, Leaves c.codeHash op) :
    OnlyRow (run (fun p op => (pgCall p op).1) p ops) c := by
  induction ops generalizing p with
  | nil => exact h
  | cons op ops ih =>
    exact ih (pgCall_onlyRow h (hops op List.mem_cons_self))
      fun op' hop' => hops op' (List.mem_cons_of_mem _ hop')

theorem consumeCode_onlyRow {now : Time} (h : OnlyRow p c) (hused : c.used = false)
    (hnow : now < c.expiresAt) :
    ∃ codes, CodeRepo.consumeCode p.codes now c.codeHash = .ok (CodeRepo.ofRow c, codes) := by
  have hfind : p.codes.rows.find? (CodeRepo.consumable now c.codeHash) = some c := by
    obtain ⟨d, hd⟩ : ∃ d, p.codes.rows.find? (CodeRepo.consumable now c.codeHash) = some d := by
      rw [← Option.isSome_iff_exists, List.find?_isSome]
      exact ⟨c, h.1, CodeRepo.consumable_iff.mpr ⟨rfl, hused, hnow⟩⟩
    have hcons := CodeRepo.consumable_iff.mp (List.find?_some hd)
    rw [hd, h.2 d (List.mem_of_find?_eq_some hd) hcons.1]
  rw [CodeRepo.consumeCode, hfind]
  exact ⟨_, rfl⟩

theorem memoryCall_codes {m : MemoryStore} {codeHash : String} {op : RepoOp}
    (hop : Leaves codeHash op) : (memoryCall m op).1.codes codeHash = m.codes codeHash := by
  cases op with
  | storeRefreshToken record => rfl
  | consumeRefreshToken tenantID tokenHash =>
    simp only [memoryCall, MemoryRepo.consumeRefreshToken]
    split
    · rfl
    · split <;> rfl
  | revokeRefreshToken tenantID tokenHash => rfl
  | revokeAllRefreshTokens tenantID clientID => rfl
  | createCode now code scopeIsNil => exact Function.update_of_ne (Ne.symm hop) _ _
  | consumeCode now h =>
    simp only [memoryCall, MemoryRepo.consumeCode]
    cases m.codes h with
    | none => rfl
    | some c => exact Function.update_of_ne (Ne.symm hop) _ _

theorem run_memory_codes {m : MemoryStore} {codeHash : String} {ops : List RepoOp}
    (hops : ∀ op ∈ ops, Leaves codeHash op) :
    (run (fun m op => (memoryCall m op).1) m ops).codes codeHash = m.codes codeHash := by
  induction ops generalizing m with
  | nil => rfl
  | cons op ops ih =>
    have hrest := ih (m := (memoryCall m op).1) fun op' hop' =>
      hops op' (List.mem_cons_of_mem _ hop')
    exact hrest.trans (memoryCall_codes (hops op List.mem_cons_self))

end Between

-- ---------------------------------------------------------------------------
-- The round trip
-- ---------------------------------------------------------------------------

/-- `CreateCode` of the PostgreSQL repository. -/
def pgCreateCode (p : PgStore) (dbNow : Time) (code : AuthorizationCode) (scopeIsNil : Bool) :
    Except GGIDError PgStore :=
  match CodeRepo.createCode p.codes dbNow code scopeIsNil with
  | .error err => .error err
  | .ok codes => .ok { p with codes := codes }

/-- `CreateCode` of the in-memory repository. -/
def memoryCreateCode (m : MemoryStore) (code : AuthorizationCode) (_scopeIsNil : Bool) :
    Except GGIDError MemoryStore :=
  .ok (MemoryRepo.createCode m code)

theorem createAuthorizationCode_ok {σ : Type} {crypto : Crypto} {std : Stdlib}
    {createCode : AuthorizationCode → Bool → Except GGIDError σ} {env : AuthorizeEnv}
    {client : OAuthClient} {req : AuthorizeRequest} {s s' : σ} {plaintext : String}
    (h : createAuthorizationCode crypto std createCode env (.ok client) req s =
      (s', .ok plaintext)) :
    plaintext = env.newCode ∧ createCode (authorizationCode crypto std env client req)
      (authorizedScopeIsNil std client req) = .ok s' := by
  unfold createAuthorizationCode at h
  simp only at h
  split at h
  · exact absurd h (by simp)
  split at h
  · exact absurd h (by simp)
  split at h
  · exact absurd h (by simp)
  split at h
  · exact absurd h (by simp)
  · rename_i s'' hcreate _
    simp only [Prod.mk.injEq, Except.ok.injEq] at h
    obtain ⟨rfl, rfl⟩ := h
    exact ⟨rfl, hcreate⟩

theorem pgCreateCode_onlyRow {p p' : PgStore} {dbNow : Time} {code : AuthorizationCode}
    {scopeIsNil : Bool} (h : pgCreateCode p dbNow code scopeIsNil = .ok p') :
    OnlyRow p' (CodeRepo.toRow dbNow code) := by
  unfold pgCreateCode at h
  split at h
  · exact absurd h (by simp)
  · rename_i codes hcreate
    obtain rfl := Except.ok.inj h
    unfold CodeRepo.createCode at hcreate
    split at hcreate
    · exact absurd hcreate (by simp)
    · rename_i hrefused
      split at hcreate
      · exact absurd hcreate (by simp)
      · rename_i codes' hinsert
        obtain rfl := Except.ok.inj hcreate
        have hmem := (Table.insert?_eq_some hinsert).2
        refine ⟨(hmem _).mpr (Or.inr rfl), fun d hd hhash => ?_⟩
        rcases (hmem d).mp hd with hd | rfl
        · -- the hash was taken, so the insert was refused
          refine absurd ?_ hrefused
          have hany : (p.codes.rows.any fun r => r.codeHash = code.codeHash || r.id = code.id) =
              true := by
            rw [List.any_eq_true]
            have hhash : d.codeHash = code.codeHash := hhash
            exact ⟨d, hd, by simp [hhash]⟩
          rw [CodeRepo.refused, hany, Bool.or_true]
        · rfl

/-- **The context of a code.** A code that was recorded is consumed before it
expires, after any calls on other codes. The in-memory repository returns the whole
context. The PostgreSQL repository returns it if and only if there was none: no
authentication method it knows, no requested level, and the zero time as the time of
authentication. -/
theorem context_kept_iff (crypto : Crypto) (std : Stdlib) (env : AuthorizeEnv)
    (client : OAuthClient) (req : AuthorizeRequest) (dbNow now : Time) (ops : List RepoOp)
    (hops : ∀ op ∈ ops, Leaves (crypto.hashCode env.newCode) op)
    (hnow : now < env.now + 10 * minute) :
    (∀ p p' plaintext,
      createAuthorizationCode crypto std (pgCreateCode p dbNow) env (.ok client) req p =
        (p', .ok plaintext) →
      ((∃ code codes, CodeRepo.consumeCode (run (fun p op => (pgCall p op).1) p' ops).codes now
          (crypto.hashCode plaintext) = .ok (code, codes) ∧
          SameContext (authorizationCode crypto std env client req) code) ↔
        NoKnownMethod req.authMethods ∧ req.requestedACR = "" ∧ env.authNow = Time.zero)) ∧
    (∀ m m' plaintext,
      createAuthorizationCode crypto std (memoryCreateCode m) env (.ok client) req m =
        (m', .ok plaintext) →
      ∃ code m'', MemoryRepo.consumeCode (run (fun m op => (memoryCall m op).1) m' ops)
          (crypto.hashCode plaintext) = .ok (code, m'') ∧
        SameContext (authorizationCode crypto std env client req) code) := by
  refine ⟨fun p p' plaintext hcall => ?_, fun m m' plaintext hcall => ?_⟩
  · obtain ⟨rfl, hcreate⟩ := createAuthorizationCode_ok hcall
    have honly := run_onlyRow (pgCreateCode_onlyRow hcreate) hops
    obtain ⟨codes, hconsume⟩ := consumeCode_onlyRow honly rfl hnow
    rw [← sameContext_row_iff crypto std env client req dbNow]
    constructor
    · rintro ⟨code, codes', hcode, hsame⟩
      have heq := Except.ok.inj (hconsume.symm.trans hcode)
      rw [Prod.mk.injEq] at heq
      rw [heq.1]
      exact hsame
    · exact fun hsame => ⟨_, codes, hconsume, hsame⟩
  · obtain ⟨rfl, hcreate⟩ := createAuthorizationCode_ok hcall
    obtain rfl := Except.ok.inj hcreate
    have hentry : (run (fun m op => (memoryCall m op).1) (MemoryRepo.createCode m
        (authorizationCode crypto std env client req)) ops).codes (crypto.hashCode env.newCode) =
          some (authorizationCode crypto std env client req) := by
      rw [run_memory_codes hops]
      exact Function.update_self ..
    rw [MemoryRepo.consumeCode, hentry]
    exact ⟨_, _, rfl, ⟨rfl, rfl, rfl, rfl, rfl, rfl, rfl, rfl⟩⟩

-- ---------------------------------------------------------------------------
-- A login with two factors
-- ---------------------------------------------------------------------------

namespace Sample

/-- A password and a TOTP; the client asked for `AAL2`. -/
def authorizeRequest : AuthorizeRequest :=
  ⟨tenant, "https://app/cb", "code", ["openid"], false, "st-1", "n-1",
    "E9Melhoa2OwvFrEMTJguCHaoeK1t8URWbuGJSstw-cM", "S256", user, ["password", "totp"], "AAL2"⟩

def authorizeEnv : AuthorizeEnv := ⟨1000, 1000, false, 20#128, "code-0", false⟩

/-- The tables after `CreateAuthorizationCode`. -/
def authorized : PgStore × Except GGIDError String :=
  createAuthorizationCode crypto stdlib (pgCreateCode ⟨.empty, .empty⟩ 1000) authorizeEnv
    (.ok client) authorizeRequest ⟨.empty, .empty⟩

end Sample

/-- The code is recorded with `["pwd", "otp", "mfa"]` at `AAL2` and comes back
without methods and level. -/
theorem context_lost :
    Sample.authorized.2 = .ok "code-0" ∧
      (authorizationCode Sample.crypto Sample.stdlib Sample.authorizeEnv Sample.client
        Sample.authorizeRequest).amr = ["pwd", "otp", "mfa"] ∧
      (authorizationCode Sample.crypto Sample.stdlib Sample.authorizeEnv Sample.client
        Sample.authorizeRequest).acr = "AAL2" ∧
      ∃ code codes, CodeRepo.consumeCode Sample.authorized.1.codes 2000
          (Sample.crypto.hashCode "code-0") = .ok (code, codes) ∧
        code.amr = [] ∧ code.acr = "" ∧ code.authTime = Time.zero ∧ code.requestedACR = "" := by
  refine ⟨by decide, by decide, by decide, _, _, rfl, rfl, rfl, rfl, rfl⟩

theorem context_kept_iff_sample :
    Sample.authorized = (Sample.authorized.1, .ok "code-0") ∧
      ((∃ code codes, CodeRepo.consumeCode Sample.authorized.1.codes 2000
          (Sample.crypto.hashCode "code-0") = .ok (code, codes) ∧
          SameContext (authorizationCode Sample.crypto Sample.stdlib Sample.authorizeEnv
            Sample.client Sample.authorizeRequest) code) ↔
        NoKnownMethod ["password", "totp"] ∧ "AAL2" = "" ∧ (1000 : Time) = Time.zero) := by
  have hcreated : Sample.authorized = (Sample.authorized.1, .ok "code-0") := by rfl
  refine ⟨hcreated, ?_⟩
  exact (context_kept_iff Sample.crypto Sample.stdlib Sample.authorizeEnv Sample.client
    Sample.authorizeRequest 1000 2000 [] (by simp) (by decide)).1 ⟨.empty, .empty⟩ _ _ hcreated

end Ggid.OAuth
