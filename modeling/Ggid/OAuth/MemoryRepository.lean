import Ggid.Lib.Run
import Ggid.OAuth.TokenFamily

/-!
# OAuth service — the in-memory repositories

`services/oauth/internal/repository/memory_repo.go`, the repositories the service
runs with when no database is configured, against the PostgreSQL ones. Both are
state machines that answer the same calls; a call is answered by whether it
succeeded.

The database is up: statements fail on constraints only.

* `memory_refines_postgres`    — the answers are the same in every run in which no
  call is one of those below;
* `memory_differs_from_postgres` — revocation without a tenant, revocation of all
  tokens of a client, and an expired code.
-/

namespace Ggid.OAuth

open Ggid.Go Ggid.Policy Ggid.Lib

-- ---------------------------------------------------------------------------
-- `MemoryCodeRepository` and `MemoryIDTokenRepository`
-- ---------------------------------------------------------------------------

/-- The two maps. Tokens are keyed by the text `{tenant}:{hash}`; the tenant part has
a fixed length, so the key stands for the pair. -/
structure MemoryStore where
  codes   : String → Option AuthorizationCode
  refresh : UUID × String → Option RefreshTokenRecord

namespace MemoryRepo

def empty : MemoryStore := ⟨fun _ => none, fun _ => none⟩

/-- `CreateCode`. -/
def createCode (m : MemoryStore) (code : AuthorizationCode) : MemoryStore :=
  { m with codes := Function.update m.codes code.codeHash (some code) }

/-- `ConsumeCode`: neither the expiry nor the used flag is looked at. -/
def consumeCode (m : MemoryStore) (codeHash : String) :
    Except GGIDError (AuthorizationCode × MemoryStore) :=
  match m.codes codeHash with
  | none => .error (.driver "authorization code not found")
  | some c => .ok (c, { m with codes := Function.update m.codes codeHash none })

/-- `StoreRefreshToken`: the record as it is, over any record with its key. -/
def storeRefreshToken (m : MemoryStore) (record : RefreshTokenRecord) : MemoryStore :=
  { m with refresh := Function.update m.refresh (record.tenantID, record.tokenHash) (some record) }

/-- `RevokeRefreshToken`: deletes the key. -/
def revokeRefreshToken (m : MemoryStore) (tenantID : UUID) (tokenHash : String) : MemoryStore :=
  { m with refresh := Function.update m.refresh (tenantID, tokenHash) none }

/-- `ConsumeRefreshToken`. -/
def consumeRefreshToken (m : MemoryStore) (tenantID : UUID) (tokenHash : String) :
    MemoryStore × Bool :=
  match m.refresh (tenantID, tokenHash) with
  | none => (m, false)
  | some c =>
    if c.used || c.revoked then (m, false)
    else ({ m with
      refresh := Function.update m.refresh (tenantID, tokenHash)
        (some { c with used := true, revoked := true }) }, true)

/-- `RevokeAllRefreshTokens`: clears everything. -/
def revokeAllRefreshTokens (m : MemoryStore) (_tenantID _clientID : UUID) : MemoryStore :=
  { m with refresh := fun _ => none }

end MemoryRepo

-- ---------------------------------------------------------------------------
-- The two machines
-- ---------------------------------------------------------------------------

/-- A call on the repositories, with the clock of the call where it is read. -/
inductive RepoOp where
  | storeRefreshToken (record : RefreshTokenRecord)
  | consumeRefreshToken (tenantID : UUID) (tokenHash : String)
  | revokeRefreshToken (tenantID : UUID) (tokenHash : String)
  | revokeAllRefreshTokens (tenantID clientID : UUID)
  | createCode (now : Time) (code : AuthorizationCode) (scopeIsNil : Bool)
  | consumeCode (now : Time) (codeHash : String)

/-- The calls on the in-memory repositories. -/
def memoryCall (m : MemoryStore) : RepoOp → MemoryStore × Bool
  | .storeRefreshToken record => (MemoryRepo.storeRefreshToken m record, true)
  | .consumeRefreshToken tenantID tokenHash => MemoryRepo.consumeRefreshToken m tenantID tokenHash
  | .revokeRefreshToken tenantID tokenHash =>
    (MemoryRepo.revokeRefreshToken m tenantID tokenHash, true)
  | .revokeAllRefreshTokens tenantID clientID =>
    (MemoryRepo.revokeAllRefreshTokens m tenantID clientID, true)
  | .createCode _ code _ => (MemoryRepo.createCode m code, true)
  | .consumeCode _ codeHash =>
    match MemoryRepo.consumeCode m codeHash with
    | .ok (_, m') => (m', true)
    | .error _ => (m, false)

structure PgStore where
  codes  : Table CodeRow.id
  tokens : Table TokenRow.id

/-- The calls on the PostgreSQL repositories. -/
def pgCall (p : PgStore) : RepoOp → PgStore × Bool
  | .storeRefreshToken record =>
    match TokenRepo.storeRefreshToken p.tokens record with
    | some tokens => ({ p with tokens := tokens }, true)
    | none => (p, false)
  | .consumeRefreshToken tenantID tokenHash =>
    let consumed := TokenRepo.consumeRefreshToken p.tokens tenantID tokenHash
    ({ p with tokens := consumed.1 }, consumed.2)
  | .revokeRefreshToken tenantID tokenHash =>
    ({ p with tokens := TokenRepo.revokeRefreshToken p.tokens tenantID tokenHash }, true)
  | .revokeAllRefreshTokens tenantID clientID =>
    ({ p with tokens := TokenRepo.revokeAllRefreshTokens p.tokens tenantID clientID }, true)
  | .createCode now code scopeIsNil =>
    match CodeRepo.createCode p.codes now code scopeIsNil with
    | .ok codes => ({ p with codes := codes }, true)
    | .error _ => (p, false)
  | .consumeCode now codeHash =>
    match CodeRepo.consumeCode p.codes now codeHash with
    | .ok (_, codes) => ({ p with codes := codes }, true)
    | .error _ => (p, false)

/-- Neither implementation does anything the other one does not. -/
def Comparable (p : PgStore) : RepoOp → Prop
  -- the schema takes the record, its flags are unset, and its token is not live yet
  | .storeRefreshToken record =>
    (∀ r ∈ p.tokens, r.id ≠ record.id) ∧ record.used = false ∧ record.revoked = false ∧
      ∀ r ∈ p.tokens, r.holds record.tenantID record.tokenHash = true → r.live = false
  | .consumeRefreshToken .. => True
  -- a revocation without a tenant finds no token of a tenant
  | .revokeRefreshToken tenantID tokenHash => tenantID = UUID.nil →
    ∀ r ∈ p.tokens, r.tokenHash = tokenHash → r.live = true → r.tenantID = UUID.nil
  -- there are no live tokens but those of the client
  | .revokeAllRefreshTokens tenantID clientID =>
    ∀ r ∈ p.tokens, r.live = true → r.tenantID = tenantID ∧ r.clientID = clientID
  -- the schema takes the code
  | .createCode _ code scopeIsNil => CodeRepo.refused p.codes code scopeIsNil = false
  -- a code that was not used yet has not expired
  | .consumeCode now codeHash =>
    ∀ c ∈ p.codes, c.codeHash = codeHash → c.used = false → now < c.expiresAt

-- ---------------------------------------------------------------------------
-- The simulation
-- ---------------------------------------------------------------------------

/-- The token can be consumed. -/
def MemoryStore.Live (m : MemoryStore) (tenantID : UUID) (tokenHash : String) : Prop :=
  ∃ c, m.refresh (tenantID, tokenHash) = some c ∧ c.used = false ∧ c.revoked = false

def PgStore.Live (p : PgStore) (tenantID : UUID) (tokenHash : String) : Prop :=
  ∃ r ∈ p.tokens, r.holds tenantID tokenHash = true ∧ r.live = true

/-- The same tokens are live on both sides, each of them once, and the same codes
are open. -/
structure Agree (m : MemoryStore) (p : PgStore) : Prop where
  token  : ∀ tenantID tokenHash, m.Live tenantID tokenHash ↔ p.Live tenantID tokenHash
  single : ∀ r ∈ p.tokens, ∀ r' ∈ p.tokens, r.live = true → r'.live = true →
             r.tenantID = r'.tenantID → r.tokenHash = r'.tokenHash → r = r'
  code   : ∀ codeHash, (m.codes codeHash).isSome = true ↔
             ∃ c ∈ p.codes, c.codeHash = codeHash ∧ c.used = false

section Simulation

variable {m m' : MemoryStore} {p : PgStore}

theorem agree_empty : Agree MemoryRepo.empty ⟨.empty, .empty⟩ := by
  refine ⟨fun t h => ⟨?_, ?_⟩, fun r hr => absurd hr (Table.not_mem_empty r), fun h => ⟨?_, ?_⟩⟩
  · rintro ⟨c, hc, -⟩
    exact absurd hc (by simp [MemoryRepo.empty])
  · rintro ⟨r, hr, -⟩
    exact absurd hr (Table.not_mem_empty r)
  · intro h
    exact absurd h (by simp [MemoryRepo.empty])
  · rintro ⟨c, hc, -⟩
    exact absurd hc (Table.not_mem_empty c)

/-- The rows that stay live under an update that ends the rows it touches. -/
theorem live_update {t : Table TokenRow.id} {q : TokenRow → Bool} {f : TokenRow → TokenRow}
    (hf : ∀ r, (f r).id = r.id) (hdead : ∀ r, (f r).live = false) {r : TokenRow} :
    r ∈ t.update q f hf ∧ r.live = true ↔ r ∈ t ∧ r.live = true ∧ q r = false := by
  constructor
  · rintro ⟨hr, hlive⟩
    rcases Table.mem_update.mp hr with ⟨q, -, -, rfl⟩ | ⟨hr, hq⟩
    · rw [hdead q] at hlive
      exact absurd hlive (by simp)
    · exact ⟨hr, hlive, hq⟩
  · rintro ⟨hr, hlive, hq⟩
    exact ⟨Table.mem_update.mpr (Or.inr ⟨hr, hq⟩), hlive⟩

/-- The two sides keep agreeing when both end the same tokens. -/
theorem Agree.update (hagree : Agree m p) {q : TokenRow → Bool} {f : TokenRow → TokenRow}
    (hdead : ∀ r, (f r).live = false) (hf : ∀ r, (f r).id = r.id) (hcodes : m'.codes = m.codes)
    (hlive : ∀ t h, m'.Live t h ↔ m.Live t h ∧
      ∀ r ∈ p.tokens, r.holds t h = true → r.live = true → q r = false) :
    Agree m' { p with tokens := p.tokens.update q f hf } := by
  refine ⟨fun t h => ?_, fun r hr r' hr' hl hl' htenant hhash => ?_, ?_⟩
  · rw [hlive, hagree.token]
    constructor
    · rintro ⟨⟨r, hr, hholds, hl⟩, hq⟩
      have hkept := (live_update hf hdead).mpr ⟨hr, hl, hq r hr hholds hl⟩
      exact ⟨r, hkept.1, hholds, hl⟩
    · rintro ⟨r, hr, hholds, hl⟩
      obtain ⟨hr, -, hq⟩ := (live_update hf hdead).mp ⟨hr, hl⟩
      refine ⟨⟨r, hr, hholds, hl⟩, fun r' hr' hholds' hl' => ?_⟩
      obtain ⟨ht, hh⟩ := TokenRow.holds_iff.mp hholds
      obtain ⟨ht', hh'⟩ := TokenRow.holds_iff.mp hholds'
      rw [hagree.single r' hr' r hr hl' hl (ht'.trans ht.symm) (hh'.trans hh.symm)]
      exact hq
  · obtain ⟨hr, -, -⟩ := (live_update hf hdead).mp ⟨hr, hl⟩
    obtain ⟨hr', -, -⟩ := (live_update hf hdead).mp ⟨hr', hl'⟩
    exact hagree.single r hr r' hr' hl hl' htenant hhash
  · rw [hcodes]
    exact hagree.code

/-- Both sides end one token. -/
theorem Agree.end_token (hagree : Agree m p) {q : TokenRow → Bool} {f : TokenRow → TokenRow}
    (hdead : ∀ r, (f r).live = false) (hf : ∀ r, (f r).id = r.id) (hcodes : m'.codes = m.codes)
    {t : UUID} {h : String}
    (hlive : ∀ t' h', m'.Live t' h' ↔ m.Live t' h' ∧ ¬ (t' = t ∧ h' = h))
    (hq : ∀ r ∈ p.tokens, r.live = true → (q r = true ↔ r.holds t h = true)) :
    Agree m' { p with tokens := p.tokens.update q f hf } := by
  refine hagree.update hdead hf hcodes fun t' h' => ?_
  rw [hlive]
  refine and_congr_right fun hm => ⟨fun hne r hr hholds hl => ?_, ?_⟩
  · obtain ⟨ht', hh'⟩ := TokenRow.holds_iff.mp hholds
    by_contra hqr
    obtain ⟨ht, hh⟩ := TokenRow.holds_iff.mp ((hq r hr hl).mp (by simpa using hqr))
    exact hne ⟨ht'.symm.trans ht, hh'.symm.trans hh⟩
  · rintro hall ⟨rfl, rfl⟩
    obtain ⟨r, hr, hholds, hl⟩ := (hagree.token t' h').mp hm
    have hnot := hall r hr hholds hl
    rw [(hq r hr hl).mpr hholds] at hnot
    exact absurd hnot (by simp)

/-- One entry of the token map is replaced by nothing or by a used record. -/
theorem live_update_key {t : UUID} {h : String} {entry : Option RefreshTokenRecord}
    (hrefresh : m'.refresh = Function.update m.refresh (t, h) entry)
    (hentry : ∀ c, entry = some c → c.used = true) (t' : UUID) (h' : String) :
    m'.Live t' h' ↔ m.Live t' h' ∧ ¬ (t' = t ∧ h' = h) := by
  unfold MemoryStore.Live
  rw [hrefresh]
  by_cases hkey : t' = t ∧ h' = h
  · obtain ⟨rfl, rfl⟩ := hkey
    rw [Function.update_self]
    constructor
    · rintro ⟨c, hc, hused, -⟩
      rw [hentry c hc] at hused
      exact absurd hused (by simp)
    · rintro ⟨-, hne⟩
      exact absurd ⟨rfl, rfl⟩ hne
  · rw [Function.update_of_ne (by simpa [Prod.ext_iff] using hkey)]
    exact ⟨fun hc => ⟨hc, hkey⟩, fun hc => hc.1⟩

theorem storeRefreshToken_agrees (hagree : Agree m p) {record : RefreshTokenRecord}
    (hok : Comparable p (.storeRefreshToken record)) :
    (memoryCall m (.storeRefreshToken record)).2 = (pgCall p (.storeRefreshToken record)).2 ∧
      Agree (memoryCall m (.storeRefreshToken record)).1
        (pgCall p (.storeRefreshToken record)).1 := by
  obtain ⟨hid, hused, hrevoked, hfree⟩ := hok
  obtain ⟨tokens, hinsert⟩ : ∃ tokens, TokenRepo.storeRefreshToken p.tokens record = some tokens :=
    Table.insert?_of_fresh hid
  have hmem : ∀ r, r ∈ tokens ↔ r ∈ p.tokens ∨ r = TokenRepo.toRow record :=
    (Table.insert?_eq_some hinsert).2
  have hpg : pgCall p (.storeRefreshToken record) = ({ p with tokens := tokens }, true) := by
    simp only [pgCall, hinsert]
  rw [hpg]
  refine ⟨rfl, fun t h => ?_, fun r hr r' hr' hl hl' htenant hhash => ?_, hagree.code⟩
  · by_cases hkey : t = record.tenantID ∧ h = record.tokenHash
    · obtain ⟨rfl, rfl⟩ := hkey
      have hmlive : (MemoryRepo.storeRefreshToken m record).Live record.tenantID
          record.tokenHash := by
        exact ⟨record, Function.update_self .., hused, hrevoked⟩
      refine ⟨fun _ => ?_, fun _ => hmlive⟩
      exact ⟨TokenRepo.toRow record, (hmem _).mpr (Or.inr rfl),
        TokenRow.holds_iff.mpr ⟨rfl, rfl⟩, rfl⟩
    · have hsame : (MemoryRepo.storeRefreshToken m record).refresh (t, h) = m.refresh (t, h) :=
        Function.update_of_ne (by simpa [Prod.ext_iff] using hkey) _ _
      have hold : (memoryCall m (.storeRefreshToken record)).1.Live t h ↔ m.Live t h := by
        show (∃ c, (MemoryRepo.storeRefreshToken m record).refresh (t, h) = some c ∧ _) ↔ _
        rw [hsame]
        rfl
      rw [hold, hagree.token]
      constructor
      · rintro ⟨r, hr, hholds, hl⟩
        exact ⟨r, (hmem r).mpr (Or.inl hr), hholds, hl⟩
      · rintro ⟨r, hr, hholds, hl⟩
        rcases (hmem r).mp hr with hr | rfl
        · exact ⟨r, hr, hholds, hl⟩
        · obtain ⟨ht, hh⟩ := TokenRow.holds_iff.mp hholds
          exact absurd ⟨ht.symm, hh.symm⟩ hkey
  · -- a row of the same token would be live next to the new one
    have hnew : ∀ q ∈ p.tokens, q.live = true → q.tenantID = record.tenantID →
        q.tokenHash ≠ record.tokenHash := by
      intro q hq hl ht hh
      rw [hfree q hq (TokenRow.holds_iff.mpr ⟨ht, hh⟩)] at hl
      exact absurd hl (by simp)
    rcases (hmem r).mp hr with hr | rfl <;> rcases (hmem r').mp hr' with hr' | rfl
    · exact hagree.single r hr r' hr' hl hl' htenant hhash
    · exact absurd hhash (hnew r hr hl htenant)
    · exact absurd hhash.symm (hnew r' hr' hl' htenant.symm)
    · rfl

/-- The conditional update touches exactly one row if the token is live. -/
theorem pg_consumeRefreshToken_iff (hagree : Agree m p) (t : UUID) (h : String) :
    (pgCall p (.consumeRefreshToken t h)).2 = true ↔ p.Live t h := by
  have huniq : ∀ r ∈ p.tokens, ∀ r' ∈ p.tokens, TokenRepo.consumable t h r = true →
      TokenRepo.consumable t h r' = true → r = r' := by
    intro r hr r' hr' hc hc'
    obtain ⟨hholds, hl⟩ := TokenRepo.consumable_iff.mp hc
    obtain ⟨hholds', hl'⟩ := TokenRepo.consumable_iff.mp hc'
    obtain ⟨ht, hh⟩ := TokenRow.holds_iff.mp hholds
    obtain ⟨ht', hh'⟩ := TokenRow.holds_iff.mp hholds'
    exact hagree.single r hr r' hr' hl hl' (ht.trans ht'.symm) (hh.trans hh'.symm)
  show decide (p.tokens.rows.countP (TokenRepo.consumable t h) = 1) = true ↔ _
  rw [decide_eq_true_eq, Table.countP_eq_one_iff huniq]
  simp only [TokenRepo.consumable_iff]
  rfl

/-- Consuming in memory succeeds if the token is live, and ends it. -/
theorem memory_consumeRefreshToken_spec (m : MemoryStore) (t : UUID) (h : String) :
    ((MemoryRepo.consumeRefreshToken m t h).2 = true ↔ m.Live t h) ∧
      (MemoryRepo.consumeRefreshToken m t h).1.codes = m.codes ∧
      ∀ t' h', (MemoryRepo.consumeRefreshToken m t h).1.Live t' h' ↔
        m.Live t' h' ∧ ¬ (t' = t ∧ h' = h) := by
  -- nothing is consumed: the token was not live
  have hnone : ¬ m.Live t h → ∀ t' h', m.Live t' h' ↔ m.Live t' h' ∧ ¬ (t' = t ∧ h' = h) := by
    intro hdead t' h'
    refine ⟨fun hlive => ⟨hlive, ?_⟩, fun hlive => hlive.1⟩
    rintro ⟨rfl, rfl⟩
    exact hdead hlive
  unfold MemoryRepo.consumeRefreshToken
  split
  · rename_i hentry
    have hdead : ¬ m.Live t h := by
      rintro ⟨c, hc, -⟩
      exact absurd (hentry.symm.trans hc) (by simp)
    exact ⟨⟨fun h => absurd h (by simp), fun h => absurd h hdead⟩, rfl, hnone hdead⟩
  · rename_i c hentry
    split
    · rename_i hflags
      have hdead : ¬ m.Live t h := by
        rintro ⟨c', hc', hused, hrevoked⟩
        obtain rfl : c = c' := Option.some.inj (hentry.symm.trans hc')
        rw [hused, hrevoked] at hflags
        exact absurd hflags (by simp)
      exact ⟨⟨fun h => absurd h (by simp), fun h => absurd h hdead⟩, rfl, hnone hdead⟩
    · rename_i hflags
      have hlive : m.Live t h := ⟨c, hentry, by simp_all, by simp_all⟩
      refine ⟨⟨fun _ => hlive, fun _ => rfl⟩, rfl, live_update_key rfl ?_⟩
      intro c' hc'
      rw [← Option.some.inj hc']

theorem consumeRefreshToken_agrees (hagree : Agree m p) (t : UUID) (h : String) :
    (memoryCall m (.consumeRefreshToken t h)).2 = (pgCall p (.consumeRefreshToken t h)).2 ∧
      Agree (memoryCall m (.consumeRefreshToken t h)).1
        (pgCall p (.consumeRefreshToken t h)).1 := by
  obtain ⟨hanswer, hcodes, hlive⟩ := memory_consumeRefreshToken_spec m t h
  refine ⟨?_, ?_⟩
  · show (MemoryRepo.consumeRefreshToken m t h).2 = _
    rw [Bool.eq_iff_iff, hanswer, pg_consumeRefreshToken_iff hagree]
    exact hagree.token t h
  · refine hagree.end_token spend_dead (fun _ => rfl) hcodes hlive fun r _ hl => ?_
    rw [TokenRepo.consumable_iff]
    exact ⟨fun hc => hc.1, fun hholds => ⟨hholds, hl⟩⟩

theorem revokeRefreshToken_agrees (hagree : Agree m p) {t : UUID} {h : String}
    (hok : Comparable p (.revokeRefreshToken t h)) :
    Agree (MemoryRepo.revokeRefreshToken m t h)
      { p with tokens := TokenRepo.revokeRefreshToken p.tokens t h } := by
  refine hagree.end_token spend_dead (fun _ => rfl) rfl (live_update_key rfl (by simp))
    fun r hr hl => ?_
  simp only [Bool.and_eq_true, Bool.or_eq_true, decide_eq_true_eq]
  rw [TokenRow.holds_iff]
  constructor
  · rintro ⟨htenant | hnil, hhash⟩
    · exact ⟨htenant, hhash⟩
    · exact ⟨(hok hnil r hr hhash hl).trans hnil.symm, hhash⟩
  · rintro ⟨htenant, hhash⟩
    exact ⟨Or.inl htenant, hhash⟩

theorem revokeAllRefreshTokens_agrees (hagree : Agree m p) {t c : UUID}
    (hok : Comparable p (.revokeAllRefreshTokens t c)) :
    Agree (MemoryRepo.revokeAllRefreshTokens m t c)
      { p with tokens := TokenRepo.revokeAllRefreshTokens p.tokens t c } := by
  refine hagree.update revoke_dead (fun _ => rfl) rfl fun t' h' => ⟨?_, ?_⟩
  · rintro ⟨c', hc', -⟩
    exact absurd hc' (by simp [MemoryRepo.revokeAllRefreshTokens])
  · rintro ⟨hm, hall⟩
    obtain ⟨r, hr, hholds, hl⟩ := (hagree.token t' h').mp hm
    have hnot := hall r hr hholds hl
    obtain ⟨htenant, hclient⟩ := hok r hr hl
    simp [htenant, hclient] at hnot

theorem createCode_agrees (hagree : Agree m p) {now : Time} {code : AuthorizationCode}
    {scopeIsNil : Bool} (hok : Comparable p (.createCode now code scopeIsNil)) :
    (memoryCall m (.createCode now code scopeIsNil)).2 =
        (pgCall p (.createCode now code scopeIsNil)).2 ∧
      Agree (memoryCall m (.createCode now code scopeIsNil)).1
        (pgCall p (.createCode now code scopeIsNil)).1 := by
  have hrefused : CodeRepo.refused p.codes code scopeIsNil = false := hok
  have hfresh : ∀ c ∈ p.codes, c.codeHash ≠ code.codeHash ∧ c.id ≠ code.id := by
    intro c hc
    simp only [CodeRepo.refused, Bool.or_eq_false_iff, List.any_eq_false] at hrefused
    have hc := hrefused.2 c hc
    simpa using hc
  obtain ⟨codes, hinsert⟩ : ∃ codes, p.codes.insert? (CodeRepo.toRow now code) = some codes :=
    Table.insert?_of_fresh fun c hc => (hfresh c hc).2
  have hmem : ∀ c, c ∈ codes ↔ c ∈ p.codes ∨ c = CodeRepo.toRow now code :=
    (Table.insert?_eq_some hinsert).2
  have hpg : pgCall p (.createCode now code scopeIsNil) = ({ p with codes := codes }, true) := by
    simp only [pgCall, CodeRepo.createCode, hrefused, hinsert]
    rfl
  rw [hpg]
  refine ⟨rfl, hagree.token, hagree.single, fun h => ?_⟩
  show (Function.update m.codes code.codeHash (some code) h).isSome = true ↔ _
  by_cases hkey : h = code.codeHash
  · subst hkey
    rw [Function.update_self]
    exact ⟨fun _ => ⟨CodeRepo.toRow now code, (hmem _).mpr (Or.inr rfl), rfl, rfl⟩, fun _ => rfl⟩
  · rw [Function.update_of_ne hkey, hagree.code]
    constructor
    · rintro ⟨c, hc, hhash, hused⟩
      exact ⟨c, (hmem c).mpr (Or.inl hc), hhash, hused⟩
    · rintro ⟨c, hc, hhash, hused⟩
      rcases (hmem c).mp hc with hc | rfl
      · exact ⟨c, hc, hhash, hused⟩
      · exact absurd hhash.symm hkey

theorem consumeCode_agrees (hagree : Agree m p) {now : Time} {h : String}
    (hok : Comparable p (.consumeCode now h)) :
    (memoryCall m (.consumeCode now h)).2 = (pgCall p (.consumeCode now h)).2 ∧
      Agree (memoryCall m (.consumeCode now h)).1 (pgCall p (.consumeCode now h)).1 := by
  cases hentry : m.codes h with
  | none =>
    -- no open code, on either side
    have hnone : p.codes.rows.find? (CodeRepo.consumable now h) = none := by
      rw [List.find?_eq_none]
      intro c hc hcons
      obtain ⟨hhash, hused, -⟩ := CodeRepo.consumable_iff.mp hcons
      have hsome := (hagree.code h).mpr ⟨c, hc, hhash, hused⟩
      rw [hentry] at hsome
      exact absurd hsome (by simp)
    have hpg : pgCall p (.consumeCode now h) = (p, false) := by
      simp only [pgCall, CodeRepo.consumeCode, hnone]
    have hmemory : memoryCall m (.consumeCode now h) = (m, false) := by
      simp only [memoryCall, MemoryRepo.consumeCode, hentry]
    rw [hpg, hmemory]
    exact ⟨rfl, hagree⟩
  | some code =>
    obtain ⟨c, hc, hhash, hused⟩ := (hagree.code h).mp (by rw [hentry]; rfl)
    obtain ⟨q, hq⟩ : ∃ q, p.codes.rows.find? (CodeRepo.consumable now h) = some q := by
      rw [← Option.isSome_iff_exists, List.find?_isSome]
      exact ⟨c, hc, CodeRepo.consumable_iff.mpr ⟨hhash, hused, hok c hc hhash hused⟩⟩
    have hpg : pgCall p (.consumeCode now h) = ({ p with
        codes := p.codes.update (CodeRepo.consumable now h) (fun r => { r with used := true })
          (fun _ => rfl) }, true) := by
      simp only [pgCall, CodeRepo.consumeCode, hq]
    have hmemory : memoryCall m (.consumeCode now h) =
        ({ m with codes := Function.update m.codes h none }, true) := by
      simp only [memoryCall, MemoryRepo.consumeCode, hentry]
    rw [hpg, hmemory]
    refine ⟨rfl, hagree.token, hagree.single, fun h' => ?_⟩
    show (Function.update m.codes h none h').isSome = true ↔
      ∃ c ∈ p.codes.update (CodeRepo.consumable now h) (fun r => { r with used := true })
        (fun _ => rfl), c.codeHash = h' ∧ c.used = false
    by_cases hkey : h' = h
    · subst hkey
      rw [Function.update_self]
      refine ⟨fun hsome => absurd hsome (by simp), ?_⟩
      rintro ⟨d, hd, hdhash, hdused⟩
      rw [Table.mem_update] at hd
      rcases hd with ⟨e, -, -, rfl⟩ | ⟨hd, hnot⟩
      · exact absurd hdused (by simp)
      · rw [CodeRepo.consumable_iff.mpr ⟨hdhash, hdused, hok d hd hdhash hdused⟩] at hnot
        exact absurd hnot (by simp)
    · rw [Function.update_of_ne hkey, hagree.code]
      constructor
      · rintro ⟨d, hd, hdhash, hdused⟩
        refine ⟨d, Table.mem_update.mpr (Or.inr ⟨hd, ?_⟩), hdhash, hdused⟩
        by_contra hcons
        exact hkey (hdhash.symm.trans (CodeRepo.consumable_iff.mp (by simpa using hcons)).1)
      · rintro ⟨d, hd, hdhash, hdused⟩
        rw [Table.mem_update] at hd
        rcases hd with ⟨e, -, -, rfl⟩ | ⟨hd, -⟩
        · exact absurd hdused (by simp)
        · exact ⟨d, hd, hdhash, hdused⟩

/-- Every call that is comparable is answered alike, and the two sides go on
agreeing. -/
theorem call_agrees {op : RepoOp} (hagree : Agree m p) (hok : Comparable p op) :
    (memoryCall m op).2 = (pgCall p op).2 ∧ Agree (memoryCall m op).1 (pgCall p op).1 := by
  cases op with
  | storeRefreshToken record => exact storeRefreshToken_agrees hagree hok
  | consumeRefreshToken t h => exact consumeRefreshToken_agrees hagree t h
  | revokeRefreshToken t h => exact ⟨rfl, revokeRefreshToken_agrees hagree hok⟩
  | revokeAllRefreshTokens t c => exact ⟨rfl, revokeAllRefreshTokens_agrees hagree hok⟩
  | createCode now code scopeIsNil => exact createCode_agrees hagree hok
  | consumeCode now h => exact consumeCode_agrees hagree hok

end Simulation

/-- **The in-memory repositories refine the PostgreSQL ones** on every sequence of
comparable calls: each is answered alike. -/
theorem memory_refines_postgres (ops : List RepoOp)
    (hok : StepsOk (fun p op => (pgCall p op).1) Comparable ⟨.empty, .empty⟩ ops) :
    outputs memoryCall MemoryRepo.empty ops = outputs pgCall ⟨.empty, .empty⟩ ops :=
  outputs_eq_of_simulation (fun _ _ _ => call_agrees) agree_empty hok

-- ---------------------------------------------------------------------------
-- Where they differ
-- ---------------------------------------------------------------------------

namespace Sample

def tokenRecord : RefreshTokenRecord :=
  ⟨30#128, tenant, client.id, user, crypto.hashTokenSHA256 "rt-0", ["openid"], refreshLifetime,
    false, false, 0, UUID.string 30#128⟩

def codeRecord : AuthorizationCode :=
  ⟨20#128, tenant, crypto.hashCode "code-0", client.id, user, "https://app/cb", ["openid"], "", "",
    "", 100, false, 0, [], "", 0, ""⟩

/-- A token is stored, then consumed twice. -/
def consumeTwice : List RepoOp :=
  [.storeRefreshToken tokenRecord, .consumeRefreshToken tenant tokenRecord.tokenHash,
    .consumeRefreshToken tenant tokenRecord.tokenHash]

/-- `RevokeToken` has no tenant; then the token is presented. -/
def revokedWithoutTenant : List RepoOp :=
  [.storeRefreshToken tokenRecord, .revokeRefreshToken UUID.nil tokenRecord.tokenHash,
    .consumeRefreshToken tenant tokenRecord.tokenHash]

/-- The tokens of another client are revoked; then the token is presented. -/
def otherClientRevoked : List RepoOp :=
  [.storeRefreshToken tokenRecord, .revokeAllRefreshTokens tenant 6#128,
    .consumeRefreshToken tenant tokenRecord.tokenHash]

/-- A code is presented after its expiry. -/
def expiredCode : List RepoOp :=
  [.createCode 0 codeRecord false, .consumeCode 200 codeRecord.codeHash]

end Sample

theorem memory_differs_from_postgres :
    (outputs memoryCall MemoryRepo.empty Sample.revokedWithoutTenant = [true, true, true] ∧
      outputs pgCall ⟨.empty, .empty⟩ Sample.revokedWithoutTenant = [true, true, false]) ∧
    (outputs memoryCall MemoryRepo.empty Sample.otherClientRevoked = [true, true, false] ∧
      outputs pgCall ⟨.empty, .empty⟩ Sample.otherClientRevoked = [true, true, true]) ∧
    (outputs memoryCall MemoryRepo.empty Sample.expiredCode = [true, true] ∧
      outputs pgCall ⟨.empty, .empty⟩ Sample.expiredCode = [true, false]) := by
  decide

theorem memory_refines_postgres_sample :
    outputs pgCall ⟨.empty, .empty⟩ Sample.consumeTwice = [true, true, false] ∧
      outputs memoryCall MemoryRepo.empty Sample.consumeTwice =
        outputs pgCall ⟨.empty, .empty⟩ Sample.consumeTwice := by
  have hstore : Comparable ⟨.empty, .empty⟩ (.storeRefreshToken Sample.tokenRecord) :=
    ⟨fun r hr => absurd hr (Table.not_mem_empty r), rfl, rfl,
      fun r hr => absurd hr (Table.not_mem_empty r)⟩
  exact ⟨by decide, memory_refines_postgres Sample.consumeTwice
    ⟨hstore, trivial, trivial, trivial⟩⟩

end Ggid.OAuth
