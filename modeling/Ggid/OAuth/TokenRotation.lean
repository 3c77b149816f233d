import Ggid.OAuth.TokenFamily

/-!
# OAuth service — token rotation, call by call

Sequential runs of `ExchangeAuthorizationCode` and `RefreshToken` over the
PostgreSQL repository, by any clients, with any statement, signature or random
draw failing on the way. A `Ledger` keeps the stores and a log of what was handed
out.

Fresh draws are assumed not to repeat: an id of `uuid.New()` and the hash of a
random token are not in use when they are drawn (`Unused`).

* `token_families_sound`   — at most one live token per family and at most one
  successful rotation per token, in every run; a used token presented by its client
  ends the family;
* `reuse_by_other_client`  — presented by another client it does not.
-/

namespace Ggid.OAuth

open Ggid.Go Ggid.Policy Ggid.Lib

-- ---------------------------------------------------------------------------
-- Runs
-- ---------------------------------------------------------------------------

/-- Tokens handed out: by an exchange, with the scope that was granted, or for a
refresh token that was rotated. -/
inductive GrantEvent where
  | granted (tenantID : UUID) (familyID scope accessScope : String)
  | rotated (tenantID : UUID) (tokenHash familyID accessScope : String)
  deriving DecidableEq

def GrantEvent.familyID : GrantEvent → String
  | .granted _ familyID _ _ => familyID
  | .rotated _ _ familyID _ => familyID

/-- The token a rotation replaced. -/
def GrantEvent.rotatedHash : GrantEvent → Option String
  | .granted .. => none
  | .rotated _ tokenHash _ _ => some tokenHash

structure Ledger where
  store : Store
  log   : List GrantEvent

/-- The tokens rotated so far, one entry per success. -/
def Ledger.rotatedHashes (l : Ledger) : List String := l.log.filterMap GrantEvent.rotatedHash

inductive GrantOp where
  | exchange (env : ExchangeEnv) (found : Option OAuthClient) (req : TokenExchangeRequest)
  | refresh (envs : Nat → Env) (found : Option OAuthClient) (req : RefreshTokenRequest)

def exchangeEvents (env : ExchangeEnv) : Except GGIDError TokenResponse → List GrantEvent
  | .ok resp => [.granted resp.accessToken.tenantID env.newID.string resp.scope
      resp.accessToken.scope]
  | .error _ => []

def refreshEvents (crypto : Crypto) (req : RefreshTokenRequest) : Phase → List GrantEvent
  | .rotated _ successor resp => [.rotated successor.tenantID
      (crypto.hashTokenSHA256 req.refreshToken) successor.familyID resp.accessToken.scope]
  | _ => []

def grantStep (crypto : Crypto) (std : Stdlib) (l : Ledger) : GrantOp → Ledger
  | .exchange env found req =>
    let out := exchangeAuthorizationCode crypto env found req l.store
    ⟨out.1, l.log ++ exchangeEvents env out.2⟩
  | .refresh envs found req =>
    let out := refreshToken crypto std envs found req l.store
    ⟨out.1, l.log ++ refreshEvents crypto req out.2⟩

/-- An id and a token that are not in use. -/
structure Unused (crypto : Crypto) (l : Ledger) (newID : UUID) (newToken : String) : Prop where
  hash     : ∀ r ∈ l.store.tokens, r.tokenHash ≠ crypto.hashTokenSHA256 newToken
  authHash : ∀ a ∈ l.store.authTokens, a.hash ≠ crypto.hashTokenSHA256 newToken
  family   : ∀ r ∈ l.store.tokens, r.familyID ≠ some newID.string
  authID   : ∀ a ∈ l.store.authTokens, a.tokenID.string ≠ newID.string
  logged   : ∀ e ∈ l.log, e.familyID ≠ newID.string

instance (crypto : Crypto) (l : Ledger) (newID : UUID) (newToken : String) :
    Decidable (Unused crypto l newID newToken) :=
  decidable_of_iff
    ((∀ r ∈ l.store.tokens.rows, r.tokenHash ≠ crypto.hashTokenSHA256 newToken) ∧
      (∀ a ∈ l.store.authTokens.rows, a.hash ≠ crypto.hashTokenSHA256 newToken) ∧
      (∀ r ∈ l.store.tokens.rows, r.familyID ≠ some newID.string) ∧
      (∀ a ∈ l.store.authTokens.rows, a.tokenID.string ≠ newID.string) ∧
      ∀ e ∈ l.log, e.familyID ≠ newID.string)
    ⟨fun ⟨h₁, h₂, h₃, h₄, h₅⟩ => ⟨h₁, h₂, h₃, h₄, h₅⟩,
      fun h => ⟨h.hash, h.authHash, h.family, h.authID, h.logged⟩⟩

/-- The draws of an operation are unused. -/
def FreshDraws (crypto : Crypto) (l : Ledger) : GrantOp → Prop
  | .exchange env _ _ => Unused crypto l env.newID env.newToken
  | .refresh envs _ _ => ∀ i, Unused crypto l (envs i).newID (envs i).newToken

-- ---------------------------------------------------------------------------
-- A call that runs alone ends
-- ---------------------------------------------------------------------------

/-- The actions a call can still take. -/
def Phase.left : Phase → Nat
  | .lookup => 5
  | .authLookup => 4
  | .consume .. => 3
  | .revokeFamily _ => 2
  | .revokeToken _ | .revokeAll _ | .store _ => 1
  | .rejected _ | .reused .. | .rotated .. => 0

section Alone

variable (crypto : Crypto) (std : Stdlib)

theorem afterLookup_left (env : Env) (call : RefreshCall) (record : RefreshTokenRecord)
    (fromAuthStore : Bool) : (afterLookup env call record fromAuthStore).left ≤ 3 := by
  unfold afterLookup
  grind [Phase.left]

theorem act_left (env : Env) (call : RefreshCall) (st : Store) (phase : Phase) :
    (act crypto std env call st phase).2.left ≤ phase.left - 1 := by
  have hlookup := fun record fromAuthStore => afterLookup_left env call record fromAuthStore
  cases phase with
  | lookup =>
    show _ ≤ 4
    simp only [act]
    split
    · split
      · exact le_refl 4
      · exact (hlookup _ _).trans (by omega)
    · exact le_refl 4
  | authLookup =>
    show _ ≤ 3
    simp only [act]
    split
    · split
      · exact Nat.zero_le _
      · split
        · exact hlookup _ _
        · exact Nat.zero_le _
    · exact Nat.zero_le _
  | revokeToken err => simp only [act]; grind [Phase.left]
  | consume record fromAuthStore => simp only [act]; grind [Phase.left]
  | revokeFamily record => simp only [act]; grind [Phase.left]
  | revokeAll record => simp only [act]; grind [Phase.left]
  | store record => simp only [act]; grind [Phase.left]
  | rejected err => exact Nat.zero_le _
  | reused record byFamily => exact Nat.zero_le _
  | rotated record successor resp => exact Nat.zero_le _

/-- The actions of a call, by the numbers of their environments. -/
def actions (envs : Nat → Env) (call : RefreshCall) (is : List Nat) (s : Store × Phase) :
    Store × Phase :=
  is.foldl (fun s i => act crypto std (envs i) call s.1 s.2) s

theorem actions_left (envs : Nat → Env) (call : RefreshCall) (is : List Nat) (s : Store × Phase) :
    (actions crypto std envs call is s).2.left ≤ s.2.left - is.length := by
  induction is generalizing s with
  | nil => exact le_refl _
  | cons i is ih =>
    have hstep := act_left crypto std (envs i) call s.1 s.2
    have hrest := ih (act crypto std (envs i) call s.1 s.2)
    rw [List.length_cons]
    show (actions crypto std envs call is (act crypto std (envs i) call s.1 s.2)).2.left ≤ _
    omega

theorem finished_of_left {phase : Phase} (h : phase.left = 0) : phase.finished = true := by
  cases phase <;> simp_all [Phase.left, Phase.finished]

/-- Every call that runs alone returns. -/
theorem refreshToken_finished (envs : Nat → Env) (found : Option OAuthClient)
    (req : RefreshTokenRequest) (st : Store) :
    (refreshToken crypto std envs found req st).2.finished = true := by
  unfold refreshToken
  split
  · rfl
  · split
    · rfl
    · rename_i client _ _
      apply finished_of_left
      have hleft : (actions crypto std envs ⟨client, req⟩ (List.range 5) (st, .lookup)).2.left ≤ 0 :=
        actions_left crypto std envs ⟨client, req⟩ (List.range 5) (st, .lookup)
      exact Nat.le_zero.mp hleft

end Alone

-- ---------------------------------------------------------------------------
-- Sound token tables
-- ---------------------------------------------------------------------------

/-- Token hashes are unique, every token has a family, a family has at most one
live token, and an auth-service token that was not presented yet roots no family. -/
structure TokensSound (st : Store) : Prop where
  hash     : ∀ r ∈ st.tokens, ∀ r' ∈ st.tokens, r.tokenHash = r'.tokenHash → r = r'
  live     : ∀ r ∈ st.tokens, ∀ r' ∈ st.tokens, r.live = true → r'.live = true →
               r.tenantID = r'.tenantID → r.familyID = r'.familyID → r = r'
  family   : ∀ r ∈ st.tokens, ∃ f, r.familyID = some f ∧ f ≠ ""
  authHash : ∀ a ∈ st.authTokens, ∀ r ∈ st.tokens, r.tokenHash ≠ a.hash
  authID   : ∀ a ∈ st.authTokens, ∀ b ∈ st.authTokens,
               a.tokenID.string = b.tokenID.string → a.hash = b.hash
  authFree : ∀ a ∈ st.authTokens, a.taken = false → ∀ r ∈ st.tokens,
               r.familyID ≠ some a.tokenID.string

/-- The token can not be rotated any more. -/
structure Spent (st : Store) (tokenHash : String) : Prop where
  row  : ∀ r ∈ st.tokens, r.tokenHash = tokenHash → r.live = false
  auth : ∀ a ∈ st.authTokens, a.hash = tokenHash → a.taken = true

/-- The token is in one of the stores. -/
def Known (st : Store) (tokenHash : String) : Prop :=
  (∃ r ∈ st.tokens, r.tokenHash = tokenHash) ∨ ∃ a ∈ st.authTokens, a.hash = tokenHash

/-- The same auth-service token, presented by now or not. -/
structure SameKey (a b : AuthToken) : Prop where
  hash    : b.hash = a.hash
  tokenID : b.tokenID = a.tokenID

/-- Flags were set and keys taken, nothing was added. -/
structure Progress (st st' : Store) : Prop where
  ages      : Ages st.tokens st'.tokens
  authBack  : ∀ b ∈ st'.authTokens, ∃ a ∈ st.authTokens, SameKey a b ∧ (b.taken = false → b = a)
  authForth : ∀ a ∈ st.authTokens, ∃ b ∈ st'.authTokens, SameKey a b

section Sound

variable {st st' st'' : Store}

theorem Ages.trans {t t' t'' : Table TokenRow.id} (h : Ages t t') (h' : Ages t' t'') :
    Ages t t'' := by
  have htrans : ∀ {a b c : TokenRow}, SameToken a b → SameToken b c → SameToken a c :=
    fun hab hbc => ⟨hbc.id.trans hab.id, hbc.tenantID.trans hab.tenantID,
      hbc.clientID.trans hab.clientID, hbc.tokenHash.trans hab.tokenHash,
      hbc.scope.trans hab.scope, hbc.familyID.trans hab.familyID⟩
  refine ⟨fun c hc => ?_, fun a ha => ?_⟩
  · obtain ⟨b, hb, hbc, hlive⟩ := h'.back c hc
    obtain ⟨a, ha, hab, hlive'⟩ := h.back b hb
    refine ⟨a, ha, htrans hab hbc, fun hclive => ?_⟩
    obtain rfl : c = b := hlive hclive
    exact hlive' hclive
  · obtain ⟨b, hb, hab⟩ := h.forth a ha
    obtain ⟨c, hc, hbc⟩ := h'.forth b hb
    exact ⟨c, hc, htrans hab hbc⟩

theorem Progress.of_tokens (hages : Ages st.tokens st'.tokens)
    (hauth : st'.authTokens = st.authTokens) : Progress st st' := by
  refine ⟨hages, fun b hb => ?_, fun a ha => ?_⟩
  · rw [hauth] at hb
    exact ⟨b, hb, ⟨rfl, rfl⟩, fun _ => rfl⟩
  · rw [← hauth] at ha
    exact ⟨a, ha, ⟨rfl, rfl⟩⟩

theorem Progress.refl (st : Store) : Progress st st := .of_tokens (.refl _) rfl

theorem Progress.trans (h : Progress st st') (h' : Progress st' st'') : Progress st st'' := by
  refine ⟨h.ages.trans h'.ages, fun c hc => ?_, fun a ha => ?_⟩
  · obtain ⟨b, hb, hbc, hfree⟩ := h'.authBack c hc
    obtain ⟨a, ha, hab, hfree'⟩ := h.authBack b hb
    refine ⟨a, ha, ⟨hbc.hash.trans hab.hash, hbc.tokenID.trans hab.tokenID⟩, fun hcfree => ?_⟩
    obtain rfl : c = b := hfree hcfree
    exact hfree' hcfree
  · obtain ⟨b, hb, hab⟩ := h.authForth a ha
    obtain ⟨c, hc, hbc⟩ := h'.authForth b hb
    exact ⟨c, hc, ⟨hbc.hash.trans hab.hash, hbc.tokenID.trans hab.tokenID⟩⟩

theorem Progress.spent (h : Progress st st') {tokenHash : String} (hs : Spent st tokenHash) :
    Spent st' tokenHash := by
  refine ⟨fun r hr heq => ?_, fun b hb heq => ?_⟩
  · obtain ⟨q, hq, hsame, hlive⟩ := h.ages.back r hr
    by_contra hr
    have hr' : r.live = true := by simpa using hr
    obtain rfl : r = q := hlive hr'
    exact hr (hs.row r hq heq)
  · obtain ⟨a, ha, hsame, hfree⟩ := h.authBack b hb
    by_contra hb
    obtain rfl : b = a := hfree (by simpa using hb)
    exact hb (hs.auth b ha heq)

theorem Progress.known (h : Progress st st') {tokenHash : String} (hk : Known st tokenHash) :
    Known st' tokenHash := by
  rcases hk with ⟨r, hr, rfl⟩ | ⟨a, ha, rfl⟩
  · obtain ⟨r', hr', hsame⟩ := h.ages.forth r hr
    exact Or.inl ⟨r', hr', hsame.tokenHash⟩
  · obtain ⟨b, hb, hsame⟩ := h.authForth a ha
    exact Or.inr ⟨b, hb, hsame.hash⟩

theorem TokensSound.progress (hst : TokensSound st) (h : Progress st st') : TokensSound st' := by
  have hback := h.ages.back
  refine ⟨fun r hr r' hr' heq => ?_, fun r hr r' hr' hlive hlive' htenant hfamily => ?_,
    fun r hr => ?_, fun b hb r hr => ?_, fun b hb c hc heq => ?_, fun b hb hfree r hr => ?_⟩
  · obtain ⟨q, hq, hsame, -⟩ := hback r hr
    obtain ⟨q', hq', hsame', -⟩ := hback r' hr'
    have hqq : q = q' :=
      hst.hash q hq q' hq' (hsame.tokenHash.symm.trans (heq.trans hsame'.tokenHash))
    exact Table.eq_of_key hr hr' (hsame.id.trans (hqq ▸ hsame'.id.symm))
  · obtain ⟨q, hq, -, heq⟩ := hback r hr
    obtain ⟨q', hq', -, heq'⟩ := hback r' hr'
    obtain rfl : r = q := heq hlive
    obtain rfl : r' = q' := heq' hlive'
    exact hst.live r hq r' hq' hlive hlive' htenant hfamily
  · obtain ⟨q, hq, hsame, -⟩ := hback r hr
    rw [hsame.familyID]
    exact hst.family q hq
  · obtain ⟨q, hq, hsame, -⟩ := hback r hr
    obtain ⟨a, ha, hkey, -⟩ := h.authBack b hb
    rw [hsame.tokenHash, hkey.hash]
    exact hst.authHash a ha q hq
  · obtain ⟨a, ha, hkey, -⟩ := h.authBack b hb
    obtain ⟨d, hd, hkey', -⟩ := h.authBack c hc
    rw [hkey.hash, hkey'.hash]
    exact hst.authID a ha d hd (by rw [← hkey.tokenID, ← hkey'.tokenID, heq])
  · obtain ⟨q, hq, hsame, -⟩ := hback r hr
    obtain ⟨a, ha, -, heq⟩ := h.authBack b hb
    obtain rfl : b = a := heq hfree
    rw [hsame.familyID]
    exact hst.authFree b ha hfree q hq

/-- A new token of a family without live tokens. -/
theorem TokensSound.stored {record : RefreshTokenRecord} (hst : TokensSound st)
    (hinsert : TokenRepo.storeRefreshToken st.tokens record = some st'.tokens)
    (hauth : st'.authTokens = st.authTokens) (hfamily : record.familyID ≠ "")
    (hhash : ∀ r ∈ st.tokens, r.tokenHash ≠ record.tokenHash)
    (hauthHash : ∀ a ∈ st.authTokens, a.hash ≠ record.tokenHash)
    (hdead : ∀ r ∈ st.tokens, r.inFamily record.tenantID record.familyID = true → r.live = false)
    (hfree : ∀ a ∈ st.authTokens, a.taken = false → record.familyID ≠ a.tokenID.string) :
    TokensSound st' := by
  have hmem : ∀ r, r ∈ st'.tokens ↔ r ∈ st.tokens ∨ r = TokenRepo.toRow record :=
    (Table.insert?_eq_some hinsert).2
  have hrowFamily := TokenRepo.toRow_familyID hfamily
  -- a live row of the new token's family can only be the new row
  have hdead' : ∀ r ∈ st.tokens, r.live = true → r.tenantID = record.tenantID →
      r.familyID ≠ some record.familyID := by
    intro r hr hlive htenant hf
    have hin : r.inFamily record.tenantID record.familyID = true :=
      TokenRow.inFamily_iff.mpr ⟨htenant, hf⟩
    rw [hdead r hr hin] at hlive
    exact absurd hlive (by simp)
  refine ⟨fun r hr r' hr' heq => ?_, fun r hr r' hr' hlive hlive' htenant hf => ?_,
    fun r hr => ?_, fun a ha r hr => ?_, ?_, fun a ha htaken r hr => ?_⟩
  · rcases (hmem r).mp hr with hr | rfl <;> rcases (hmem r').mp hr' with hr' | rfl
    · exact hst.hash r hr r' hr' heq
    · exact absurd heq (hhash r hr)
    · exact absurd heq.symm (hhash r' hr')
    · rfl
  · rcases (hmem r).mp hr with hr | rfl <;> rcases (hmem r').mp hr' with hr' | rfl
    · exact hst.live r hr r' hr' hlive hlive' htenant hf
    · exact absurd (hf.trans hrowFamily) (hdead' r hr hlive htenant)
    · exact absurd (hf.symm.trans hrowFamily) (hdead' r' hr' hlive' htenant.symm)
    · rfl
  · rcases (hmem r).mp hr with hr | rfl
    · exact hst.family r hr
    · exact ⟨record.familyID, hrowFamily, hfamily⟩
  · rw [hauth] at ha
    rcases (hmem r).mp hr with hr | rfl
    · exact hst.authHash a ha r hr
    · exact (hauthHash a ha).symm
  · rw [hauth]
    exact hst.authID
  · rw [hauth] at ha
    rcases (hmem r).mp hr with hr | rfl
    · exact hst.authFree a ha htaken r hr
    · rw [hrowFamily]
      exact fun h => hfree a ha htaken (Option.some.inj h)

end Sound

-- ---------------------------------------------------------------------------
-- What a call knows at each of its actions
-- ---------------------------------------------------------------------------

section Call

variable (crypto : Crypto) (std : Stdlib) (call : RefreshCall)

/-- The hash of the token the call presents. -/
def RefreshCall.tokenHash : String := crypto.hashTokenSHA256 call.req.refreshToken

/-- The record is that of a live token of the repository. -/
def FromRow (st : Store) (record : RefreshTokenRecord) : Prop :=
  ∃ r ∈ st.tokens, r.holds call.req.tenantID (call.tokenHash crypto) = true ∧ r.live = true ∧
    record = TokenRepo.ofRow r

/-- The record was built for a token of the auth service. -/
def FromAuth (st : Store) (record : RefreshTokenRecord) : Prop :=
  ∃ a ∈ st.authTokens, a.hash = call.tokenHash crypto ∧ a.taken = false ∧ record.id = a.tokenID ∧
    record.familyID = "" ∧ record.scope = []

/-- The successor of the record may be stored. -/
structure Storable (st : Store) (record : RefreshTokenRecord) : Prop where
  spent    : Spent st (call.tokenHash crypto)
  family   : rotationFamily record ≠ ""
  dead     : ∀ r ∈ st.tokens, r.inFamily call.req.tenantID (rotationFamily record) = true →
               r.live = false
  authFree : ∀ a ∈ st.authTokens, a.taken = false → rotationFamily record ≠ a.tokenID.string

/-- What holds of the stores when a call that found `st₀` is at a phase. -/
def PhaseOK (envs : Nat → Env) (st₀ st : Store) : Phase → Prop
  | .lookup | .authLookup => st = st₀
  | .consume record false => st = st₀ ∧ FromRow crypto call st₀ record
  | .consume record true => st.tokens = st₀.tokens ∧ Progress st₀ st ∧
      FromAuth crypto call st₀ record ∧
      ∀ a ∈ st.authTokens, a.hash = call.tokenHash crypto → a.taken = true
  | .store record => Progress st₀ st ∧ Storable crypto call st record ∧
      (FromRow crypto call st₀ record ∨ FromAuth crypto call st₀ record)
  | .rotated record successor resp => ∃ i st₁ tokens, Progress st₀ st₁ ∧
      Storable crypto call st₁ record ∧
      (FromRow crypto call st₀ record ∨ FromAuth crypto call st₀ record) ∧
      successor = successorOf crypto std (envs i) call record ∧
      resp = refreshResponse std (envs i) call record ∧
      TokenRepo.storeRefreshToken st₁.tokens successor = some tokens ∧
      st = { st₁ with tokens := tokens }
  | _ => Progress st₀ st

variable {crypto std call} {envs : Nat → Env} {st₀ st : Store}

theorem afterLookup_ok (env : Env) {record : RefreshTokenRecord} {fromAuthStore : Bool}
    (hprogress : Progress st₀ st)
    (hconsume : record.used = false → record.revoked = false →
      PhaseOK crypto std call envs st₀ st (.consume record fromAuthStore)) :
    PhaseOK crypto std call envs st₀ st (afterLookup env call record fromAuthStore) := by
  unfold afterLookup
  split
  · exact hprogress
  split
  · exact hprogress
  rename_i hflags
  have hconsume := hconsume (by simp_all) (by simp_all)
  split
  · exact hprogress
  split
  · exact hconsume
  · split
    · exact hconsume
    · exact hprogress

theorem lookup_ok (env : Env) :
    PhaseOK crypto std call envs st₀ (act crypto std env call st₀ .lookup).1
      (act crypto std env call st₀ .lookup).2 := by
  simp only [act]
  split
  · rename_i record hget
    obtain ⟨r, hfind, rfl⟩ := Option.map_eq_some_iff.mp hget
    have hr : r ∈ st₀.tokens := List.mem_of_find?_eq_some hfind
    have hholds := List.find?_some hfind
    split
    · rfl
    · apply afterLookup_ok env (.refl _)
      intro hused hrevoked
      have hlive : r.live = true := by
        rw [TokenRow.live, show r.used = false from hused, show r.revoked = false from hrevoked]
        rfl
      exact ⟨rfl, r, hr, hholds, hlive, rfl⟩
  · rfl

/-- `GETDEL` on the key of one token. -/
theorem mem_getDel {t : Table AuthToken.hash} {tokenHash : String} {b : AuthToken} :
    b ∈ t.update (fun b => b.hash = tokenHash) (fun b => { b with taken := true }) (fun _ => rfl) ↔
      (∃ a ∈ t, a.hash = tokenHash ∧ b = { a with taken := true }) ∨
        (b ∈ t ∧ b.hash ≠ tokenHash) := by
  rw [Table.mem_update]
  simp only [decide_eq_true_eq, decide_eq_false_iff_not, ne_eq]

theorem progress_getDel (st : Store) (tokenHash : String) :
    Progress st { st with
      authTokens := st.authTokens.update (fun b => b.hash = tokenHash)
        (fun b => { b with taken := true }) (fun _ => rfl) } := by
  refine ⟨.refl _, fun b hb => ?_, fun b hb => ?_⟩
  · rcases mem_getDel.mp hb with ⟨c, hc, -, rfl⟩ | ⟨hb, -⟩
    · exact ⟨c, hc, ⟨rfl, rfl⟩, fun h => absurd h (by simp)⟩
    · exact ⟨b, hb, ⟨rfl, rfl⟩, fun _ => rfl⟩
  · by_cases hkey : b.hash = tokenHash
    · exact ⟨_, mem_getDel.mpr (Or.inl ⟨b, hb, hkey, rfl⟩), ⟨rfl, rfl⟩⟩
    · exact ⟨b, mem_getDel.mpr (Or.inr ⟨hb, hkey⟩), ⟨rfl, rfl⟩⟩

theorem authLookup_ok (env : Env) :
    PhaseOK crypto std call envs st₀ (act crypto std env call st₀ .authLookup).1
      (act crypto std env call st₀ .authLookup).2 := by
  simp only [act]
  split
  · rename_i a hfind
    obtain ⟨ha, hhash⟩ := Table.find?_eq_some_iff.mp hfind
    split
    · exact Progress.refl _
    rename_i htaken
    have hfree : a.taken = false := by simp_all
    have hprogress := progress_getDel st₀ a.hash
    split
    · rename_i record hrecord
      apply afterLookup_ok env hprogress
      intro _ _
      refine ⟨rfl, hprogress, ⟨a, ha, hhash, hfree, ?_⟩, fun b hb hkey => ?_⟩
      · unfold authRecord at hrecord
        split at hrecord
        · exact absurd hrecord (by simp)
        · obtain rfl := Option.some.inj hrecord
          exact ⟨rfl, rfl, rfl⟩
      · rcases mem_getDel.mp hb with ⟨c, -, -, rfl⟩ | ⟨-, hother⟩
        · rfl
        · exact absurd (hkey.trans hhash.symm) hother
    · exact hprogress
  · exact Progress.refl _

/-- The recorded family of a row of a sound table. -/
theorem rotationFamily_ofRow (hst : TokensSound st) {r : TokenRow} (hr : r ∈ st.tokens) :
    r.familyID = some (rotationFamily (TokenRepo.ofRow r)) ∧
      rotationFamily (TokenRepo.ofRow r) ≠ "" := by
  obtain ⟨f, hf, hne⟩ := hst.family r hr
  have hrecord : (TokenRepo.ofRow r).familyID = f := by
    show r.familyID.getD "" = f
    rw [hf]
    rfl
  rw [rotationFamily, hrecord, if_neg hne]
  exact ⟨hf, hne⟩

theorem rotationFamily_of_auth {record : RefreshTokenRecord} (h : record.familyID = "") :
    rotationFamily record = record.id.string := by
  rw [rotationFamily, if_pos h]

/-- A live token of the repository, once it is consumed. -/
theorem storable_of_row (hst : TokensSound st) {record : RefreshTokenRecord}
    (hfrom : FromRow crypto call st record) :
    Storable crypto call { st with
      tokens := (TokenRepo.consumeRefreshToken st.tokens call.req.tenantID
        (call.tokenHash crypto)).1 } record := by
  obtain ⟨r, hr, hholds, hlive, rfl⟩ := hfrom
  obtain ⟨hfamily, hne⟩ := rotationFamily_ofRow hst hr
  have hboth := TokenRow.holds_iff.mp hholds
  have hages := ages_consumeRefreshToken st.tokens call.req.tenantID (call.tokenHash crypto)
  -- the only live row of the family was the presented one
  have hother : ∀ q ∈ (TokenRepo.consumeRefreshToken st.tokens call.req.tenantID
      (call.tokenHash crypto)).1, q.live = true → q ∈ st.tokens ∧ q ≠ r := by
    intro q hq hqlive
    obtain ⟨q', hq', -, heq⟩ := hages.back q hq
    obtain rfl : q = q' := heq hqlive
    refine ⟨hq', ?_⟩
    rintro rfl
    rw [consumeRefreshToken_dead _ _ hq hholds] at hqlive
    exact absurd hqlive (by simp)
  refine ⟨⟨fun q hq hhash => ?_, fun a ha hhash => ?_⟩, hne, fun q hq hin => ?_,
    fun a ha hfree heq => ?_⟩
  · by_contra hqlive
    obtain ⟨hq', hqr⟩ := hother q hq (by simpa using hqlive)
    exact hqr (hst.hash q hq' r hr (hhash.trans hboth.2.symm))
  · exact absurd (hboth.2.trans hhash.symm) (hst.authHash a ha r hr)
  · by_contra hqlive
    have hqlive' : q.live = true := by simpa using hqlive
    obtain ⟨hq', hqr⟩ := hother q hq hqlive'
    have hqin := TokenRow.inFamily_iff.mp hin
    exact hqr (hst.live q hq' r hr hqlive' hlive (hqin.1.trans hboth.1.symm)
      (hqin.2.trans hfamily.symm))
  · rw [heq] at hfamily
    exact hst.authFree a ha hfree r hr hfamily

/-- A token of the auth service, once its key is gone. -/
theorem storable_of_auth (hst : TokensSound st₀) (htokens : st.tokens = st₀.tokens)
    (hprogress : Progress st₀ st) {record : RefreshTokenRecord}
    (hfrom : FromAuth crypto call st₀ record)
    (htaken : ∀ a ∈ st.authTokens, a.hash = call.tokenHash crypto → a.taken = true) :
    Storable crypto call { st with
      tokens := (TokenRepo.consumeRefreshToken st.tokens call.req.tenantID
        (call.tokenHash crypto)).1 } record := by
  obtain ⟨a, ha, hhash, hfree, hid, hfamily, -⟩ := hfrom
  have hroot : rotationFamily record = a.tokenID.string := by
    rw [rotationFamily_of_auth hfamily, hid]
  have hages := ages_consumeRefreshToken st.tokens call.req.tenantID (call.tokenHash crypto)
  -- the repository has neither the token nor its family
  have habsent : ∀ q ∈ (TokenRepo.consumeRefreshToken st.tokens call.req.tenantID
      (call.tokenHash crypto)).1, q.tokenHash ≠ call.tokenHash crypto ∧
        q.familyID ≠ some a.tokenID.string := by
    intro q hq
    obtain ⟨q', hq', hsame, -⟩ := hages.back q hq
    rw [htokens] at hq'
    rw [hsame.tokenHash, hsame.familyID, ← hhash]
    exact ⟨hst.authHash a ha q' hq', hst.authFree a ha hfree q' hq'⟩
  refine ⟨⟨fun q hq h => absurd h (habsent q hq).1, htaken⟩, ?_, fun q hq hin => ?_,
    fun b hb hbfree heq => ?_⟩
  · rw [hroot]
    exact UUID.string_ne_empty a.tokenID
  · rw [hroot] at hin
    exact absurd (TokenRow.inFamily_iff.mp hin).2 (habsent q hq).2
  · rw [hroot] at heq
    obtain ⟨c, hc, -, hsame⟩ := hprogress.authBack b hb
    obtain rfl : b = c := hsame hbfree
    have hkey : b.hash = call.tokenHash crypto := (hst.authID b hc a ha heq.symm).trans hhash
    rw [htaken b hb hkey] at hbfree
    exact absurd hbfree (by simp)

theorem consume_ok (hst : TokensSound st₀) (env : Env) {record : RefreshTokenRecord}
    {fromAuthStore : Bool}
    (h : PhaseOK crypto std call envs st₀ st (.consume record fromAuthStore)) :
    PhaseOK crypto std call envs st₀ (act crypto std env call st (.consume record fromAuthStore)).1
      (act crypto std env call st (.consume record fromAuthStore)).2 := by
  have hconsumed : Progress st { st with
      tokens := (TokenRepo.consumeRefreshToken st.tokens call.req.tenantID
        (call.tokenHash crypto)).1 } :=
    .of_tokens (ages_consumeRefreshToken _ _ _) rfl
  simp only [act]
  cases fromAuthStore with
  | false =>
    obtain ⟨rfl, hfrom⟩ := h
    split
    · exact Progress.refl _
    · split
      · exact hconsumed
      · exact ⟨hconsumed, storable_of_row hst hfrom, Or.inl hfrom⟩
  | true =>
    obtain ⟨htokens, hprogress, hfrom, htaken⟩ := h
    split
    · exact hprogress
    · split
      · exact hprogress.trans hconsumed
      · exact ⟨hprogress.trans hconsumed, storable_of_auth hst htokens hprogress hfrom htaken,
          Or.inr hfrom⟩

/-- Every action keeps what the call knows. -/
theorem act_ok (hst : TokensSound st₀) (i : Nat) {phase : Phase}
    (h : PhaseOK crypto std call envs st₀ st phase) :
    PhaseOK crypto std call envs st₀ (act crypto std (envs i) call st phase).1
      (act crypto std (envs i) call st phase).2 := by
  cases phase with
  | lookup =>
    obtain rfl : st = st₀ := h
    exact lookup_ok (envs i)
  | authLookup =>
    obtain rfl : st = st₀ := h
    exact authLookup_ok (envs i)
  | consume record fromAuthStore => exact consume_ok hst (envs i) h
  | revokeToken err =>
    have hprogress : Progress st₀ st := h
    simp only [act]
    split
    · exact hprogress
    · exact hprogress.trans (.of_tokens (ages_revokeRefreshToken _ _ _) rfl)
  | revokeFamily record =>
    have hprogress : Progress st₀ st := h
    simp only [act]
    split
    · exact hprogress
    · exact hprogress.trans (.of_tokens (ages_revokeRefreshTokensByFamily _ _ _) rfl)
  | revokeAll record =>
    have hprogress : Progress st₀ st := h
    simp only [act]
    split
    · exact hprogress
    · exact hprogress.trans (.of_tokens (ages_revokeAllRefreshTokens _ _ _) rfl)
  | store record =>
    obtain ⟨hprogress, hstorable, horigin⟩ := h
    simp only [act]
    split
    · exact hprogress
    split
    · exact hprogress
    split
    · exact hprogress
    split
    · exact hprogress
    · rename_i tokens hinsert
      exact ⟨i, st, tokens, hprogress, hstorable, horigin, rfl, rfl, hinsert, rfl⟩
  | rejected err => exact h
  | reused record byFamily => exact h
  | rotated record successor resp => exact h

theorem actions_ok (hst : TokensSound st₀) (is : List Nat) {s : Store × Phase}
    (h : PhaseOK crypto std call envs st₀ s.1 s.2) :
    PhaseOK crypto std call envs st₀ (actions crypto std envs call is s).1
      (actions crypto std envs call is s).2 := by
  induction is generalizing s with
  | nil => exact h
  | cons i is ih => exact ih (act_ok hst i h)

/-- A call adds nothing, unless it rotates a token. -/
theorem PhaseOK.cases {phase : Phase} (h : PhaseOK crypto std call envs st₀ st phase) :
    (Progress st₀ st ∧ ∀ record successor resp, phase ≠ .rotated record successor resp) ∨
      ∃ record successor resp, phase = .rotated record successor resp := by
  cases phase with
  | lookup =>
    obtain rfl : st = st₀ := h
    exact Or.inl ⟨.refl _, by simp⟩
  | authLookup =>
    obtain rfl : st = st₀ := h
    exact Or.inl ⟨.refl _, by simp⟩
  | consume record fromAuthStore =>
    cases fromAuthStore with
    | false =>
      obtain ⟨rfl, -⟩ := h
      exact Or.inl ⟨.refl _, by simp⟩
    | true => exact Or.inl ⟨h.2.1, by simp⟩
  | store record => exact Or.inl ⟨h.1, by simp⟩
  | rotated record successor resp => exact Or.inr ⟨record, successor, resp, rfl⟩
  | revokeToken err => exact Or.inl ⟨h, by simp⟩
  | revokeFamily record => exact Or.inl ⟨h, by simp⟩
  | revokeAll record => exact Or.inl ⟨h, by simp⟩
  | rejected err => exact Or.inl ⟨h, by simp⟩
  | reused record byFamily => exact Or.inl ⟨h, by simp⟩

theorem refreshEvents_eq_nil {req : RefreshTokenRequest} {phase : Phase}
    (h : ∀ record successor resp, phase ≠ .rotated record successor resp) :
    refreshEvents crypto req phase = [] := by
  unfold refreshEvents
  split
  · exact absurd rfl (h _ _ _)
  · rfl

end Call

-- ---------------------------------------------------------------------------
-- Whole calls
-- ---------------------------------------------------------------------------

section Stored

variable {st st' : Store} {record : RefreshTokenRecord}

/-- A token that was retired stays so when another one is stored. -/
theorem retired_stored
    (hinsert : TokenRepo.storeRefreshToken st.tokens record = some st'.tokens)
    (hauth : st'.authTokens = st.authTokens)
    (hhash : ∀ r ∈ st.tokens, r.tokenHash ≠ record.tokenHash)
    (hauthHash : ∀ a ∈ st.authTokens, a.hash ≠ record.tokenHash) {tokenHash : String}
    (hspent : Spent st tokenHash) (hknown : Known st tokenHash) :
    Spent st' tokenHash ∧ Known st' tokenHash := by
  have hmem : ∀ r, r ∈ st'.tokens ↔ r ∈ st.tokens ∨ r = TokenRepo.toRow record :=
    (Table.insert?_eq_some hinsert).2
  have hne : record.tokenHash ≠ tokenHash := by
    rcases hknown with ⟨r, hr, rfl⟩ | ⟨a, ha, rfl⟩
    · exact (hhash r hr).symm
    · exact (hauthHash a ha).symm
  refine ⟨⟨fun r hr heq => ?_, ?_⟩, ?_⟩
  · rcases (hmem r).mp hr with hr | rfl
    · exact hspent.row r hr heq
    · exact absurd heq hne
  · rw [hauth]
    exact hspent.auth
  · rcases hknown with ⟨r, hr, heq⟩ | ⟨a, ha, heq⟩
    · exact Or.inl ⟨r, (hmem r).mpr (Or.inl hr), heq⟩
    · rw [← hauth] at ha
      exact Or.inr ⟨a, ha, heq⟩

end Stored

/-- The tables are sound, and each token was rotated at most once, which retired it. -/
structure LedgerSound (l : Ledger) : Prop where
  tables  : TokensSound l.store
  once    : l.rotatedHashes.Nodup
  retired : ∀ h ∈ l.rotatedHashes, Spent l.store h ∧ Known l.store h

section Ledger

variable {crypto : Crypto} {std : Stdlib} {l : Ledger}

/-- A consumed code is one of the table. -/
theorem consumeCode_row {codes codes' : Table CodeRow.id} {now : Time} {codeHash : String}
    {code : AuthorizationCode} (h : CodeRepo.consumeCode codes now codeHash = .ok (code, codes')) :
    ∃ c ∈ codes, c.codeHash = codeHash ∧ code = CodeRepo.ofRow c := by
  unfold CodeRepo.consumeCode at h
  split at h
  · exact absurd h (by simp)
  · rename_i c hfind
    simp only [Except.ok.injEq, Prod.mk.injEq] at h
    have hcond := CodeRepo.consumable_iff.mp (List.find?_some hfind)
    exact ⟨c, List.mem_of_find?_eq_some hfind, hcond.1, h.1.symm⟩

variable (crypto) in
/-- What an exchange leaves behind. -/
theorem exchange_cases (env : ExchangeEnv) (found : Option OAuthClient)
    (req : TokenExchangeRequest) (st : Store) :
    (exchangeAuthorizationCode crypto env found req st).1.authTokens = st.authTokens ∧
    ((∃ err, (exchangeAuthorizationCode crypto env found req st).2 = .error err ∧
        (exchangeAuthorizationCode crypto env found req st).1.tokens = st.tokens) ∨
      ∃ client c refresh, c ∈ st.codes ∧ c.codeHash = crypto.hashCode req.code ∧
        (exchangeAuthorizationCode crypto env found req st).2 =
          .ok ⟨exchangeAccessToken env client req (CodeRepo.ofRow c), refresh,
            joinScopes c.scope⟩ ∧
        ((exchangeAuthorizationCode crypto env found req st).1.tokens = st.tokens ∨
          TokenRepo.storeRefreshToken st.tokens
            (rootRecord crypto env client (CodeRepo.ofRow c)) =
              some (exchangeAuthorizationCode crypto env found req st).1.tokens)) := by
  generalize hout : exchangeAuthorizationCode crypto env found req st = out
  unfold exchangeAuthorizationCode at hout
  split at hout
  · subst hout
    exact ⟨rfl, Or.inl ⟨_, rfl, rfl⟩⟩
  split at hout
  · subst hout
    exact ⟨rfl, Or.inl ⟨_, rfl, rfl⟩⟩
  split at hout
  · subst hout
    exact ⟨rfl, Or.inl ⟨_, rfl, rfl⟩⟩
  rename_i client _ _ _ code codes hconsume
  obtain ⟨c, hc, hhash, rfl⟩ := consumeCode_row hconsume
  unfold exchangeConsumed at hout
  split at hout
  · subst hout
    exact ⟨rfl, Or.inl ⟨_, rfl, rfl⟩⟩
  split at hout
  · subst hout
    exact ⟨rfl, Or.inl ⟨_, rfl, rfl⟩⟩
  split at hout
  · subst hout
    exact ⟨rfl, Or.inl ⟨_, rfl, rfl⟩⟩
  split at hout
  · subst hout
    exact ⟨rfl, Or.inl ⟨_, rfl, rfl⟩⟩
  split at hout
  · subst hout
    exact ⟨rfl, Or.inr ⟨client, c, _, hc, hhash, rfl, Or.inl rfl⟩⟩
  split at hout
  · subst hout
    exact ⟨rfl, Or.inl ⟨_, rfl, rfl⟩⟩
  split at hout
  · subst hout
    exact ⟨rfl, Or.inl ⟨_, rfl, rfl⟩⟩
  split at hout
  · subst hout
    exact ⟨rfl, Or.inl ⟨_, rfl, rfl⟩⟩
  · rename_i tokens hinsert
    subst hout
    exact ⟨rfl, Or.inr ⟨client, c, _, hc, hhash, rfl, Or.inr hinsert⟩⟩

/-- A refresh hands out nothing and adds nothing, or rotates a token. -/
theorem refresh_cases (hst : TokensSound l.store) (envs : Nat → Env) (found : Option OAuthClient)
    (req : RefreshTokenRequest) :
    (Progress l.store (refreshToken crypto std envs found req l.store).1 ∧
      refreshEvents crypto req (refreshToken crypto std envs found req l.store).2 = []) ∨
    ∃ client record successor resp,
      (refreshToken crypto std envs found req l.store).2 = .rotated record successor resp ∧
      PhaseOK crypto std ⟨client, req⟩ envs l.store
        (refreshToken crypto std envs found req l.store).1 (.rotated record successor resp) := by
  unfold refreshToken
  split
  · exact Or.inl ⟨.refl _, rfl⟩
  · rename_i client _
    split
    · exact Or.inl ⟨.refl _, rfl⟩
    · have hok : PhaseOK crypto std ⟨client, req⟩ envs l.store
          (runAlone crypto std envs ⟨client, req⟩ l.store).1
          (runAlone crypto std envs ⟨client, req⟩ l.store).2 :=
        actions_ok hst (List.range 5) rfl
      rcases hok.cases with ⟨hprogress, hphase⟩ | ⟨record, successor, resp, hphase⟩
      · exact Or.inl ⟨hprogress, refreshEvents_eq_nil hphase⟩
      · rw [hphase] at hok
        exact Or.inr ⟨client, record, successor, resp, hphase, hok⟩

section Rotated

variable {client : OAuthClient} {req : RefreshTokenRequest} {envs : Nat → Env} {st : Store}
  {record successor : RefreshTokenRecord} {resp : TokenResponse}

/-- The presented token could be rotated when the call began. -/
theorem not_spent_of_origin {call : RefreshCall}
    (h : FromRow crypto call l.store record ∨ FromAuth crypto call l.store record) :
    Known l.store (call.tokenHash crypto) ∧ ¬ Spent l.store (call.tokenHash crypto) := by
  rcases h with ⟨r, hr, hholds, hlive, -⟩ | ⟨a, ha, hhash, hfree, -⟩
  · have hhash : r.tokenHash = call.tokenHash crypto := (TokenRow.holds_iff.mp hholds).2
    refine ⟨Or.inl ⟨r, hr, hhash⟩, fun hspent => ?_⟩
    rw [hspent.row r hr hhash] at hlive
    exact absurd hlive (by simp)
  · refine ⟨Or.inr ⟨a, ha, hhash⟩, fun hspent => ?_⟩
    rw [hspent.auth a ha hhash] at hfree
    exact absurd hfree (by simp)

/-- A rotation keeps the tables sound and retires the presented token. -/
theorem rotated_sound (hst : TokensSound l.store)
    (hfresh : ∀ i, Unused crypto l (envs i).newID (envs i).newToken)
    (h : PhaseOK crypto std ⟨client, req⟩ envs l.store st (.rotated record successor resp)) :
    TokensSound st ∧
      ∀ tokenHash, Known l.store tokenHash →
        Spent l.store tokenHash ∨ tokenHash = crypto.hashTokenSHA256 req.refreshToken →
        Spent st tokenHash ∧ Known st tokenHash := by
  obtain ⟨i, st₁, tokens, hprogress, hstorable, horigin, rfl, rfl, hinsert, rfl⟩ := h
  have hhash : ∀ r ∈ st₁.tokens, r.tokenHash ≠ crypto.hashTokenSHA256 (envs i).newToken := by
    intro r hr
    obtain ⟨q, hq, hsame, -⟩ := hprogress.ages.back r hr
    rw [hsame.tokenHash]
    exact (hfresh i).hash q hq
  have hauthHash : ∀ a ∈ st₁.authTokens, a.hash ≠ crypto.hashTokenSHA256 (envs i).newToken := by
    intro b hb
    obtain ⟨a, ha, hsame, -⟩ := hprogress.authBack b hb
    rw [hsame.hash]
    exact (hfresh i).authHash a ha
  have hauth : ({ st₁ with tokens := tokens } : Store).authTokens = st₁.authTokens := rfl
  refine ⟨(hst.progress hprogress).stored hinsert hauth hstorable.family hhash hauthHash
    hstorable.dead hstorable.authFree, ?_⟩
  intro tokenHash hknown hspent
  have hspent₁ : Spent st₁ tokenHash := by
    rcases hspent with hspent | rfl
    · exact hprogress.spent hspent
    · exact hstorable.spent
  exact retired_stored hinsert hauth hhash hauthHash hspent₁ (hprogress.known hknown)

end Rotated

theorem rotatedHashes_append (log events : List GrantEvent) (store : Store) :
    (Ledger.mk store (log ++ events)).rotatedHashes =
      log.filterMap GrantEvent.rotatedHash ++ events.filterMap GrantEvent.rotatedHash :=
  List.filterMap_append

theorem exchangeEvents_rotated (env : ExchangeEnv) (out : Except GGIDError TokenResponse) :
    (exchangeEvents env out).filterMap GrantEvent.rotatedHash = [] := by
  cases out <;> rfl

theorem exchange_sound (hl : LedgerSound l) {env : ExchangeEnv} {found : Option OAuthClient}
    {req : TokenExchangeRequest} (hfresh : Unused crypto l env.newID env.newToken) :
    LedgerSound (grantStep crypto std l (.exchange env found req)) := by
  obtain ⟨hauth, hout⟩ := exchange_cases crypto env found req l.store
  have hrotated : (grantStep crypto std l (.exchange env found req)).rotatedHashes =
      l.rotatedHashes := by
    refine (rotatedHashes_append _ _ _).trans ?_
    rw [exchangeEvents_rotated, List.append_nil]
    rfl
  have hsame : (exchangeAuthorizationCode crypto env found req l.store).1.tokens = l.store.tokens →
      LedgerSound (grantStep crypto std l (.exchange env found req)) := by
    intro htokens
    have hages : Ages l.store.tokens
        (exchangeAuthorizationCode crypto env found req l.store).1.tokens := by
      rw [htokens]
      exact .refl _
    have hprogress : Progress l.store (grantStep crypto std l (.exchange env found req)).store :=
      .of_tokens hages hauth
    refine ⟨hl.tables.progress hprogress, by rw [hrotated]; exact hl.once, ?_⟩
    rw [hrotated]
    intro h hh
    exact ⟨hprogress.spent (hl.retired h hh).1, hprogress.known (hl.retired h hh).2⟩
  rcases hout with ⟨-, -, htokens⟩ | ⟨client, c, refresh, -, -, -, htokens | hinsert⟩
  · exact hsame htokens
  · exact hsame htokens
  · -- the root of a new family
    have hroot : ∀ r ∈ l.store.tokens,
        r.inFamily c.tenantID env.newID.string = true → r.live = false := by
      intro r hr hin
      exact absurd (TokenRow.inFamily_iff.mp hin).2 (hfresh.family r hr)
    refine ⟨hl.tables.stored hinsert hauth (UUID.string_ne_empty _) hfresh.hash hfresh.authHash
      hroot (fun a ha _ => (hfresh.authID a ha).symm), by rw [hrotated]; exact hl.once, ?_⟩
    rw [hrotated]
    intro h hh
    exact retired_stored hinsert hauth hfresh.hash hfresh.authHash (hl.retired h hh).1
      (hl.retired h hh).2

theorem refresh_sound (hl : LedgerSound l) {envs : Nat → Env} {found : Option OAuthClient}
    {req : RefreshTokenRequest} (hfresh : ∀ i, Unused crypto l (envs i).newID (envs i).newToken) :
    LedgerSound (grantStep crypto std l (.refresh envs found req)) := by
  rcases refresh_cases hl.tables envs found req with
    ⟨hprogress, hevents⟩ | ⟨client, record, successor, resp, hout, hok⟩
  · have hrotated : (grantStep crypto std l (.refresh envs found req)).rotatedHashes =
        l.rotatedHashes := by
      refine (rotatedHashes_append _ _ _).trans ?_
      rw [hevents, List.filterMap_nil, List.append_nil]
      rfl
    refine ⟨hl.tables.progress hprogress, by rw [hrotated]; exact hl.once, ?_⟩
    rw [hrotated]
    intro h hh
    exact ⟨hprogress.spent (hl.retired h hh).1, hprogress.known (hl.retired h hh).2⟩
  · obtain ⟨hsound, hretired⟩ := rotated_sound hl.tables hfresh hok
    have hrotated : (grantStep crypto std l (.refresh envs found req)).rotatedHashes =
        l.rotatedHashes ++ [crypto.hashTokenSHA256 req.refreshToken] := by
      refine (rotatedHashes_append _ _ _).trans ?_
      rw [hout]
      rfl
    obtain ⟨i, st₁, tokens, -, -, horigin, -⟩ := hok
    obtain ⟨hknown, hlive⟩ := not_spent_of_origin horigin
    refine ⟨hsound, ?_, ?_⟩
    · rw [hrotated, List.nodup_append]
      refine ⟨hl.once, by simp, ?_⟩
      rintro h hh h' hh' rfl
      rw [List.mem_singleton] at hh'
      subst hh'
      exact hlive (hl.retired _ hh).1
    · rw [hrotated]
      intro h hh
      rcases List.mem_append.mp hh with hh | hh
      · exact hretired h (hl.retired h hh).2 (Or.inl (hl.retired h hh).1)
      · rw [List.mem_singleton] at hh
        subst hh
        exact hretired _ hknown (Or.inr rfl)

/-- Without refresh tokens the tables are sound. -/
theorem ledgerSound_start {st : Store} (htokens : st.tokens = .empty)
    (hids : ∀ a ∈ st.authTokens, ∀ b ∈ st.authTokens,
      a.tokenID.string = b.tokenID.string → a.hash = b.hash) : LedgerSound ⟨st, []⟩ := by
  have hnone : ∀ r, r ∉ st.tokens := by simp [htokens]
  refine ⟨⟨fun r hr => absurd hr (hnone r), fun r hr => absurd hr (hnone r),
    fun r hr => absurd hr (hnone r), fun _ _ r hr => absurd hr (hnone r), hids,
    fun _ _ _ r hr => absurd hr (hnone r)⟩, List.nodup_nil, fun h hh => ?_⟩
  exact absurd hh (by simp [Ledger.rotatedHashes])

theorem grantStep_sound {op : GrantOp} (hl : LedgerSound l) (hfresh : FreshDraws crypto l op) :
    LedgerSound (grantStep crypto std l op) := by
  cases op with
  | exchange env found req => exact exchange_sound hl hfresh
  | refresh envs found req => exact refresh_sound hl hfresh

end Ledger

-- ---------------------------------------------------------------------------
-- Reuse
-- ---------------------------------------------------------------------------

/-- The client authenticates, may refresh, and presents the token of the row, which
is its own. -/
structure Presents (crypto : Crypto) (client : OAuthClient) (req : RefreshTokenRequest)
    (r : TokenRow) : Prop where
  authenticated : authenticateClient crypto (some client) req.clientSecret = .ok client
  grantType     : client.supportsGrantType "refresh_token" = true
  tenant        : r.tenantID = req.tenantID
  token         : r.tokenHash = crypto.hashTokenSHA256 req.refreshToken
  owner         : r.clientID = UUID.nil ∨ r.clientID = client.id

section Reuse

variable {crypto : Crypto} {std : Stdlib} {l : Ledger} {envs : Nat → Env} {client : OAuthClient}
  {req : RefreshTokenRequest} {r : TokenRow}

variable (std) in
/-- A used token is found, and its family is revoked. -/
theorem refreshToken_reused (hl : TokensSound l.store) (hr : r ∈ l.store.tokens)
    (hused : r.used = true) (hpresents : Presents crypto client req r)
    (henvs : ∀ i, (envs i).fails = false) :
    (refreshToken crypto std envs (some client) req l.store).1.tokens =
      TokenRepo.revokeRefreshTokensByFamily l.store.tokens req.tenantID
        (rotationFamily (TokenRepo.ofRow r)) := by
  obtain ⟨hfamily, hne⟩ := rotationFamily_ofRow hl hr
  have hrecord : (TokenRepo.ofRow r).familyID = rotationFamily (TokenRepo.ofRow r) := by
    show r.familyID.getD "" = _
    rw [hfamily]
    rfl
  have hget : TokenRepo.getRefreshToken l.store.tokens req.tenantID
      (crypto.hashTokenSHA256 req.refreshToken) = some (TokenRepo.ofRow r) := by
    have hfind : l.store.tokens.rows.find?
        (TokenRow.holds req.tenantID (crypto.hashTokenSHA256 req.refreshToken)) = some r := by
      obtain ⟨q, hq⟩ : ∃ q, l.store.tokens.rows.find?
          (TokenRow.holds req.tenantID (crypto.hashTokenSHA256 req.refreshToken)) = some q := by
        rw [← Option.isSome_iff_exists, List.find?_isSome]
        exact ⟨r, hr, TokenRow.holds_iff.mpr ⟨hpresents.tenant, hpresents.token⟩⟩
      have hqhash := (TokenRow.holds_iff.mp (List.find?_some hq)).2
      rw [hq, hl.hash q (List.mem_of_find?_eq_some hq) r hr (hqhash.trans hpresents.token.symm)]
    rw [TokenRepo.getRefreshToken, hfind]
    rfl
  have hafter : afterLookup (envs 0) ⟨client, req⟩ (TokenRepo.ofRow r) false =
      .revokeFamily (TokenRepo.ofRow r) := by
    have howner : ¬ ((TokenRepo.ofRow r).clientID ≠ UUID.nil ∧
        (TokenRepo.ofRow r).clientID ≠ client.id) := by
      rintro ⟨hnil, hother⟩
      rcases hpresents.owner with h | h
      · exact hnil h
      · exact hother h
    have hflag : (TokenRepo.ofRow r).used = true := hused
    rw [afterLookup, if_neg howner, hflag, Bool.true_or, if_pos rfl]
  have hlookup : act crypto std (envs 0) ⟨client, req⟩ l.store .lookup =
      (l.store, .revokeFamily (TokenRepo.ofRow r)) := by
    simp only [act, hget, henvs 0, hafter]
    rfl
  have hrevoke : act crypto std (envs 1) ⟨client, req⟩ l.store
      (.revokeFamily (TokenRepo.ofRow r)) =
      ({ l.store with
        tokens := TokenRepo.revokeRefreshTokensByFamily l.store.tokens req.tenantID
          (rotationFamily (TokenRepo.ofRow r)) }, .reused (TokenRepo.ofRow r) true) := by
    simp only [act, henvs 1, hrecord, hne]
    rfl
  rw [refreshToken, hpresents.authenticated]
  simp only [hpresents.grantType]
  show (actions crypto std envs ⟨client, req⟩ [1, 2, 3, 4]
    (act crypto std (envs 0) ⟨client, req⟩ l.store .lookup)).1.tokens = _
  rw [hlookup]
  show (actions crypto std envs ⟨client, req⟩ [2, 3, 4]
    (act crypto std (envs 1) ⟨client, req⟩ l.store (.revokeFamily (TokenRepo.ofRow r)))).1.tokens = _
  rw [hrevoke]
  rfl

theorem family_dead_of_reuse (hl : TokensSound l.store) (hr : r ∈ l.store.tokens)
    (hused : r.used = true) (hpresents : Presents crypto client req r)
    (henvs : ∀ i, (envs i).fails = false) :
    ∀ q ∈ (grantStep crypto std l (.refresh envs (some client) req)).store.tokens,
      q.tenantID = r.tenantID → q.familyID = r.familyID → q.live = false := by
  intro q hq htenant hfamily
  have htokens := refreshToken_reused std hl hr hused hpresents henvs
  have hq : q ∈ (refreshToken crypto std envs (some client) req l.store).1.tokens := hq
  rw [htokens] at hq
  apply revokeRefreshTokensByFamily_dead _ _ hq
  rw [(rotationFamily_ofRow hl hr).1] at hfamily
  exact TokenRow.inFamily_iff.mpr ⟨htenant.trans hpresents.tenant, hfamily⟩

end Reuse

/-- **Token families are sound.** In every sequential run that starts without
refresh tokens, whatever calls, clients and failures: a family has at most one live
token, a token is rotated at most once, and a used token that its client presents in
a call whose statements succeed leaves no live token in the family. -/
theorem token_families_sound (crypto : Crypto) (std : Stdlib) (st : Store) (ops : List GrantOp)
    (htokens : st.tokens = .empty)
    (hids : ∀ a ∈ st.authTokens, ∀ b ∈ st.authTokens,
      a.tokenID.string = b.tokenID.string → a.hash = b.hash)
    (hfresh : StepsOk (grantStep crypto std) (FreshDraws crypto) ⟨st, []⟩ ops) :
    ∀ l ∈ states (grantStep crypto std) ⟨st, []⟩ ops,
      (∀ r ∈ l.store.tokens, ∀ r' ∈ l.store.tokens, r.live = true → r'.live = true →
        r.tenantID = r'.tenantID → r.familyID = r'.familyID → r = r') ∧
      l.rotatedHashes.Nodup ∧
      ∀ r ∈ l.store.tokens, r.used = true → ∀ client req, Presents crypto client req r →
        ∀ envs : Nat → Env, (∀ i, (envs i).fails = false) →
        ∀ q ∈ (grantStep crypto std l (.refresh envs (some client) req)).store.tokens,
          q.tenantID = r.tenantID → q.familyID = r.familyID → q.live = false := by
  intro l hmem
  have hl := invariant_states (fun _ _ => grantStep_sound)
    (ledgerSound_start htokens hids) hfresh l hmem
  exact ⟨hl.tables.live, hl.once, fun r hr hused client req hpresents envs henvs =>
    family_dead_of_reuse hl.tables hr hused hpresents henvs⟩

-- ---------------------------------------------------------------------------
-- A grant, a rotation, and the old token again
-- ---------------------------------------------------------------------------

namespace Sample

def codeRow : CodeRow :=
  ⟨20#128, tenant, crypto.hashCode "code-0", client.id, user, "https://app/cb",
    ["openid", "offline_access"], "", "", "", 100, false, 0⟩

/-- One code, no refresh tokens. -/
def codeStore : Store := ⟨⟨[codeRow], List.nodup_singleton _⟩, .empty, .empty⟩

def exchangeOp : GrantOp :=
  .exchange ⟨1, false, false, false, false, 10#128, "rt-0"⟩ (some client)
    ⟨"code-0", "https://app/cb", "", "", ""⟩

/-- The client presents a token; the given id and token are drawn. -/
def refreshOp (token : String) (newID : UUID) (newToken : String) : GrantOp :=
  .refresh (fun _ => env newID newToken) (some client) (request token)

/-- The code is exchanged for `rt-0`, which is rotated to `rt-1`. -/
def rotation : List GrantOp := [exchangeOp, refreshOp "rt-0" 11#128 "rt-1"]

/-- Another public client of the tenant. -/
def otherClient : OAuthClient := { client with id := 6#128, clientID := "gcid_other" }

/-- The ledger after the rotation. -/
def rotated : Ledger := run (grantStep crypto stdlib) ⟨codeStore, []⟩ rotation

/-- `rt-0` after its rotation, and `rt-1`. -/
def usedRow : TokenRow :=
  ⟨10#128, tenant, user, client.id, crypto.hashTokenSHA256 "rt-0", "openid offline_access",
    1 + refreshLifetime, true, true, 1, some (UUID.string 10#128)⟩

def nextRow : TokenRow :=
  ⟨11#128, tenant, user, client.id, crypto.hashTokenSHA256 "rt-1", "openid",
    1 + refreshLifetime, false, false, Time.zero, some (UUID.string 10#128)⟩

theorem rotated_rows : rotated.store.tokens.rows = [usedRow, nextRow] := by decide +kernel

theorem rotation_fresh :
    StepsOk (grantStep crypto stdlib) (FreshDraws crypto) ⟨codeStore, []⟩ rotation := by
  have hexchange : Unused crypto ⟨codeStore, []⟩ 10#128 "rt-0" := by decide
  have hrefresh : Unused crypto (grantStep crypto stdlib ⟨codeStore, []⟩ exchangeOp) 11#128
      "rt-1" := by decide
  exact ⟨hexchange, fun _ => hrefresh, trivial⟩

/-- The client with its used token. -/
theorem presents_usedRow : Presents crypto client (request "rt-0") usedRow :=
  ⟨rfl, rfl, rfl, rfl, Or.inr rfl⟩

end Sample

/-- The used token, presented by another client: the call is refused before reuse is
looked at, and the successor stays live. -/
theorem reuse_by_other_client :
    StepsOk (grantStep Sample.crypto Sample.stdlib) (FreshDraws Sample.crypto)
        ⟨Sample.codeStore, []⟩ Sample.rotation ∧
      ∃ l ∈ states (grantStep Sample.crypto Sample.stdlib) ⟨Sample.codeStore, []⟩ Sample.rotation,
        ∃ r ∈ l.store.tokens, r.used = true ∧
          r.tokenHash = Sample.crypto.hashTokenSHA256 "rt-0" ∧
          (refreshToken Sample.crypto Sample.stdlib (fun _ => Sample.env 12#128 "rt-2")
            (some Sample.otherClient) (Sample.request "rt-0") l.store).2 =
              .rejected (unauthenticated "refresh token was issued to a different client") ∧
          ∃ q ∈ (grantStep Sample.crypto Sample.stdlib l (.refresh
              (fun _ => Sample.env 12#128 "rt-2") (some Sample.otherClient)
              (Sample.request "rt-0"))).store.tokens,
            q.tenantID = r.tenantID ∧ q.familyID = r.familyID ∧ q.live = true := by
  have hused : Sample.usedRow ∈ Sample.rotated.store.tokens := by
    rw [Table.mem_def, Sample.rotated_rows]
    exact List.mem_cons_self
  have hrows : (grantStep Sample.crypto Sample.stdlib Sample.rotated (.refresh
      (fun _ => Sample.env 12#128 "rt-2") (some Sample.otherClient)
      (Sample.request "rt-0"))).store.tokens.rows = [Sample.usedRow, Sample.nextRow] := by
    decide +kernel
  refine ⟨Sample.rotation_fresh, Sample.rotated, run_mem_states _ _, Sample.usedRow, hused, rfl, rfl,
    by decide +kernel, Sample.nextRow, ?_, rfl, rfl, rfl⟩
  rw [Table.mem_def, hrows]
  exact List.mem_cons_of_mem _ List.mem_cons_self

theorem token_families_sound_sample :
    Sample.rotated.rotatedHashes = [Sample.crypto.hashTokenSHA256 "rt-0"] ∧
      Sample.usedRow ∈ Sample.rotated.store.tokens ∧
      ∀ q ∈ (grantStep Sample.crypto Sample.stdlib Sample.rotated
          (Sample.refreshOp "rt-0" 12#128 "rt-2")).store.tokens,
        q.tenantID = Sample.tenant → q.familyID = some (UUID.string 10#128) → q.live = false := by
  have hused : Sample.usedRow ∈ Sample.rotated.store.tokens := by
    rw [Table.mem_def, Sample.rotated_rows]
    exact List.mem_cons_self
  have hids : ∀ a ∈ Sample.codeStore.authTokens, ∀ b ∈ Sample.codeStore.authTokens,
      a.tokenID.string = b.tokenID.string → a.hash = b.hash :=
    fun a ha => absurd ha (Table.not_mem_empty a)
  have hsound := token_families_sound Sample.crypto Sample.stdlib Sample.codeStore Sample.rotation
    rfl hids Sample.rotation_fresh Sample.rotated (run_mem_states _ _)
  refine ⟨by decide, hused, ?_⟩
  exact hsound.2.2 Sample.usedRow hused rfl Sample.client (Sample.request "rt-0")
    Sample.presents_usedRow (fun _ => Sample.env 12#128 "rt-2") (fun _ => rfl)

end Ggid.OAuth
