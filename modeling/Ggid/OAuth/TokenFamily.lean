import Ggid.Lib.Threads
import Ggid.OAuth.Grants

/-!
# OAuth service — token families under concurrent refreshes

All refresh tokens that descend from one grant form a family. When a token that
was used before is presented again, the whole family is revoked. Rotation consumes
the old token and stores its successor in two statements, so a successor can be
stored after the family was revoked.

* `family_dead_after_reuse`  — once a call has revoked a family, no token of it is
  live, in every interleaving in which no successor is stored into a revoked family;
* `family_live_after_reuse`  — two calls with the same token leave a live successor
  behind.
-/

namespace Ggid.OAuth

open Ggid.Go Ggid.Policy Ggid.Lib

-- ---------------------------------------------------------------------------
-- What a statement does to the tokens
-- ---------------------------------------------------------------------------

theorem TokenRow.inFamily_iff {r : TokenRow} {tenantID : UUID} {familyID : String} :
    r.inFamily tenantID familyID = true ↔ r.tenantID = tenantID ∧ r.familyID = some familyID := by
  simp [TokenRow.inFamily]

theorem TokenRow.holds_iff {r : TokenRow} {tenantID : UUID} {tokenHash : String} :
    r.holds tenantID tokenHash = true ↔ r.tenantID = tenantID ∧ r.tokenHash = tokenHash := by
  simp [TokenRow.holds]

/-- The same token; only the flags may differ. -/
structure SameToken (r r' : TokenRow) : Prop where
  id        : r'.id = r.id
  tenantID  : r'.tenantID = r.tenantID
  clientID  : r'.clientID = r.clientID
  tokenHash : r'.tokenHash = r.tokenHash
  scope     : r'.scope = r.scope
  familyID  : r'.familyID = r.familyID

theorem SameToken.refl (r : TokenRow) : SameToken r r := ⟨rfl, rfl, rfl, rfl, rfl, rfl⟩

theorem SameToken.inFamily {r r' : TokenRow} (h : SameToken r r') (tenantID : UUID)
    (familyID : String) : r'.inFamily tenantID familyID = r.inFamily tenantID familyID := by
  unfold TokenRow.inFamily
  rw [h.tenantID, h.familyID]

/-- Flags were set, nothing else: the rows are the same tokens, and a row that is
live now was there, live, before. -/
structure Ages (t t' : Table TokenRow.id) : Prop where
  back  : ∀ r' ∈ t', ∃ r ∈ t, SameToken r r' ∧ (r'.live = true → r' = r)
  forth : ∀ r ∈ t, ∃ r' ∈ t', SameToken r r'

theorem Ages.refl (t : Table TokenRow.id) : Ages t t :=
  ⟨fun r hr => ⟨r, hr, .refl r, fun _ => rfl⟩, fun r hr => ⟨r, hr, .refl r⟩⟩

/-- An update that ends the rows it touches. -/
theorem ages_update {t : Table TokenRow.id} {p : TokenRow → Bool} {f : TokenRow → TokenRow}
    {hf : ∀ r, (f r).id = r.id} (hsame : ∀ r, SameToken r (f r))
    (hdead : ∀ r, (f r).live = false) : Ages t (t.update p f hf) := by
  refine ⟨fun r' hr' => ?_, fun r hr => ?_⟩
  · rcases Table.mem_update.mp hr' with ⟨r, hr, -, rfl⟩ | ⟨hr, -⟩
    · refine ⟨r, hr, hsame r, fun hlive => ?_⟩
      rw [hdead r] at hlive
      exact absurd hlive (by simp)
    · exact ⟨r', hr, .refl r', fun _ => rfl⟩
  · by_cases hp : p r = true
    · exact ⟨f r, Table.mem_update.mpr (Or.inl ⟨r, hr, hp, rfl⟩), hsame r⟩
    · exact ⟨r, Table.mem_update.mpr (Or.inr ⟨hr, by simpa using hp⟩), .refl r⟩

theorem spend_same (r : TokenRow) : SameToken r (TokenRepo.spend r) := ⟨rfl, rfl, rfl, rfl, rfl, rfl⟩

theorem spend_dead (r : TokenRow) : (TokenRepo.spend r).live = false := by
  simp [TokenRepo.spend, TokenRow.live]

theorem revoke_same (r : TokenRow) : SameToken r (TokenRepo.revoke r) :=
  ⟨rfl, rfl, rfl, rfl, rfl, rfl⟩

theorem revoke_dead (r : TokenRow) : (TokenRepo.revoke r).live = false := by
  simp [TokenRepo.revoke, TokenRow.live]

section Statements

variable (tokens : Table TokenRow.id) (tenantID : UUID)

theorem ages_revokeRefreshToken (tokenHash : String) :
    Ages tokens (TokenRepo.revokeRefreshToken tokens tenantID tokenHash) :=
  ages_update spend_same spend_dead

theorem ages_revokeAllRefreshTokens (clientID : UUID) :
    Ages tokens (TokenRepo.revokeAllRefreshTokens tokens tenantID clientID) :=
  ages_update revoke_same revoke_dead

theorem ages_revokeRefreshTokensByFamily (familyID : String) :
    Ages tokens (TokenRepo.revokeRefreshTokensByFamily tokens tenantID familyID) :=
  ages_update revoke_same revoke_dead

theorem ages_consumeRefreshToken (tokenHash : String) :
    Ages tokens (TokenRepo.consumeRefreshToken tokens tenantID tokenHash).1 := by
  show Ages tokens (tokens.update (TokenRepo.consumable tenantID tokenHash) TokenRepo.spend
    (fun _ => rfl))
  exact ages_update spend_same spend_dead

/-- After the family statement no row of the family is live. -/
theorem revokeRefreshTokensByFamily_dead {familyID : String} {r : TokenRow}
    (hr : r ∈ TokenRepo.revokeRefreshTokensByFamily tokens tenantID familyID)
    (hfamily : r.inFamily tenantID familyID = true) : r.live = false := by
  rcases Table.mem_update.mp hr with ⟨q, -, -, rfl⟩ | ⟨-, hother⟩
  · exact revoke_dead q
  · rw [hother] at hfamily
    exact absurd hfamily (by simp)

/-- After the consuming statement no row of the token is live. -/
theorem consumeRefreshToken_dead {tokenHash : String} {r : TokenRow}
    (hr : r ∈ (TokenRepo.consumeRefreshToken tokens tenantID tokenHash).1)
    (hholds : r.holds tenantID tokenHash = true) : r.live = false := by
  simp only [TokenRepo.consumeRefreshToken] at hr
  rcases Table.mem_update.mp hr with ⟨q, -, -, rfl⟩ | ⟨-, hother⟩
  · exact spend_dead q
  · rw [TokenRepo.consumable, hholds, Bool.true_and] at hother
    exact hother

end Statements

-- ---------------------------------------------------------------------------
-- What an action does
-- ---------------------------------------------------------------------------

/-- Nothing stops the last action of a rotation. -/
def Env.stores (env : Env) : Bool := !env.signFails && !env.randFails && !env.fails

section Action

variable (crypto : Crypto) (std : Stdlib) (env : Env) (call : RefreshCall) (st : Store)

/-- An action sets flags, or stores the successor and returns. -/
theorem act_tokens (phase : Phase) :
    Ages st.tokens (act crypto std env call st phase).1.tokens ∨
    ∃ record tokens, phase = .store record ∧ env.stores = true ∧
      TokenRepo.storeRefreshToken st.tokens (successorOf crypto std env call record) =
        some tokens ∧
      act crypto std env call st phase = ({ st with tokens := tokens },
        .rotated record (successorOf crypto std env call record)
          (refreshResponse std env call record)) := by
  cases phase with
  | lookup =>
    left
    simp only [act]
    split
    · split <;> exact .refl _
    · exact .refl _
  | authLookup =>
    left
    simp only [act]
    split
    · split
      · exact .refl _
      · split <;> exact .refl _
    · exact .refl _
  | revokeToken err =>
    left
    simp only [act]
    split
    · exact .refl _
    · exact ages_revokeRefreshToken _ _ _
  | consume record fromAuthStore =>
    left
    simp only [act]
    split
    · exact .refl _
    · split <;> exact ages_consumeRefreshToken _ _ _
  | revokeFamily record =>
    left
    simp only [act]
    split
    · exact .refl _
    · exact ages_revokeRefreshTokensByFamily _ _ _
  | revokeAll record =>
    left
    simp only [act]
    split
    · exact .refl _
    · exact ages_revokeAllRefreshTokens _ _ _
  | store record =>
    simp only [act]
    split
    · exact Or.inl (.refl _)
    rename_i hsign
    split
    · exact Or.inl (.refl _)
    rename_i hrand
    split
    · exact Or.inl (.refl _)
    rename_i hfails
    split
    · exact Or.inl (.refl _)
    · rename_i tokens htokens
      exact Or.inr ⟨record, tokens, rfl, by simp [Env.stores, hsign, hrand, hfails], htokens, rfl⟩
  | rejected err => exact Or.inl (.refl _)
  | reused record byFamily => exact Or.inl (.refl _)
  | rotated record successor resp => exact Or.inl (.refl _)

/-- A row that is live after an action was there before, or is the successor the
action stored. -/
theorem act_live (phase : Phase) {r : TokenRow}
    (hr : r ∈ (act crypto std env call st phase).1.tokens) (hlive : r.live = true) :
    r ∈ st.tokens ∨ ∃ record, phase = .store record ∧ env.stores = true ∧
      r = TokenRepo.toRow (successorOf crypto std env call record) := by
  rcases act_tokens crypto std env call st phase with
    hages | ⟨record, tokens, hphase, hstores, hinsert, hact⟩
  · obtain ⟨q, hq, -, heq⟩ := hages.back r hr
    rw [heq hlive]
    exact Or.inl hq
  · rw [hact] at hr
    rcases ((Table.insert?_eq_some hinsert).2 r).mp hr with hr | rfl
    · exact Or.inl hr
    · exact Or.inr ⟨record, hphase, hstores, rfl⟩

/-- A call returns with the family revoked only from the family statement. -/
theorem act_reused {phase : Phase} {record : RefreshTokenRecord}
    (h : (act crypto std env call st phase).2 = .reused record true) :
    (phase = .reused record true ∧ (act crypto std env call st phase).1 = st) ∨
      (act crypto std env call st phase).1.tokens =
        TokenRepo.revokeRefreshTokensByFamily st.tokens call.req.tenantID record.familyID := by
  cases phase with
  | revokeFamily q =>
    right
    simp only [act] at h ⊢
    split at h
    · exact absurd h (by simp)
    · rename_i hcond
      rw [if_neg hcond]
      simp only [Phase.reused.injEq] at h
      rw [h.1]
  | reused q byFamily =>
    left
    exact ⟨h, rfl⟩
  | lookup => simp only [act, afterLookup] at h; grind
  | authLookup => simp only [act, afterLookup] at h; grind
  | revokeToken err => simp only [act] at h; grind
  | consume q fromAuthStore => simp only [act] at h; grind
  | revokeAll q => simp only [act] at h; grind
  | store q => simp only [act] at h; grind
  | rejected err => simp only [act] at h; grind
  | rotated q successor resp => simp only [act] at h; grind

end Action

-- ---------------------------------------------------------------------------
-- Interleavings
-- ---------------------------------------------------------------------------

section Interleaving

variable (crypto : Crypto) (std : Stdlib) (calls : Nat → RefreshCall)

/-- Call `t` takes its next action. -/
def refreshStep (p : Threads Store Phase) (e : Nat × Env) : Threads Store Phase :=
  p.put e.1 (act crypto std e.2 (calls e.1) p.store (p.task e.1))

/-- No call has done anything yet. -/
def refreshStart (st : Store) : Threads Store Phase := ⟨st, fun _ => .lookup⟩

/-- Some call has detected reuse and revoked the family. -/
def FamilyRevoked (p : Threads Store Phase) (tenantID : UUID) (familyID : String) : Prop :=
  ∃ u record, p.task u = .reused record true ∧ (calls u).req.tenantID = tenantID ∧
    record.familyID = familyID

/-- A successor is stored only while its family has not been revoked. -/
def StoresBeforeRevocation (p : Threads Store Phase) (e : Nat × Env) : Prop :=
  ∀ record, p.task e.1 = .store record → e.2.stores = true →
    ¬ FamilyRevoked calls p (calls e.1).req.tenantID (rotationFamily record)

/-- No token of a revoked family is live. -/
def RevokedFamiliesDead (p : Threads Store Phase) : Prop :=
  ∀ tenantID familyID, FamilyRevoked calls p tenantID familyID →
    ∀ r ∈ p.store.tokens, r.inFamily tenantID familyID = true → r.live = false

variable {crypto std calls}

/-- The row of a successor is in the family of the token it replaces. -/
theorem successor_inFamily {env : Env} {call : RefreshCall} {record : RefreshTokenRecord}
    {tenantID : UUID} {familyID : String}
    (h : (TokenRepo.toRow (successorOf crypto std env call record)).inFamily tenantID familyID =
      true) : call.req.tenantID = tenantID ∧ rotationFamily record = familyID := by
  obtain ⟨htenant, hfamily⟩ := TokenRow.inFamily_iff.mp h
  have htenant : call.req.tenantID = tenantID := htenant
  have hfamily : (if rotationFamily record = "" then none else some (rotationFamily record)) =
      some familyID := hfamily
  split at hfamily
  · exact absurd hfamily (by simp)
  · exact ⟨htenant, Option.some.inj hfamily⟩

theorem refreshStep_dead {p : Threads Store Phase} {e : Nat × Env}
    (hp : RevokedFamiliesDead calls p) (hok : StoresBeforeRevocation calls p e) :
    RevokedFamiliesDead calls (refreshStep crypto std calls p e) := by
  obtain ⟨t, env⟩ := e
  rintro tenantID familyID ⟨u, record, htask, htenant, hfamily⟩ r hr hin
  simp only [refreshStep, Threads.put_store] at hr
  -- a family that was revoked before stays dead
  have hold : FamilyRevoked calls p tenantID familyID → r.live = false := by
    intro hrevoked
    by_contra hlive
    have hlive' : r.live = true := by simpa using hlive
    rcases act_live crypto std env (calls t) p.store _ hr hlive' with
      hr | ⟨q, hphase, hstores, rfl⟩
    · exact hlive (hp tenantID familyID hrevoked r hr hin)
    · obtain ⟨htenant', hfamily'⟩ := successor_inFamily hin
      apply hok q hphase hstores
      rw [htenant', hfamily']
      exact hrevoked
  by_cases hut : u = t
  · subst hut
    simp only [refreshStep, Threads.put_task_self] at htask
    rcases act_reused crypto std env (calls u) p.store htask with ⟨hphase, -⟩ | htokens
    · exact hold ⟨u, record, hphase, htenant, hfamily⟩
    · rw [htokens, htenant, hfamily] at hr
      exact revokeRefreshTokensByFamily_dead _ _ hr hin
  · simp only [refreshStep] at htask
    rw [Threads.put_task_of_ne p _ hut] at htask
    exact hold ⟨u, record, htask, htenant, hfamily⟩

end Interleaving

namespace Sample

/-- SHA-256 on the tokens and codes below. -/
def crypto : Crypto where
  verifyPassword := fun _ _ => false
  hashTokenSHA256 := fun
    | "rt-0" => "c84a1c75653cdbde1ab963ef3221d103f3be20654df3985ba3ad9b394adf9435"
    | "rt-1" => "a33d8c625833429df4658aa6f6940675ca829051a620ed398517039d4a1fc7ec"
    | "rt-2" => "1f23b7dadfb229cbadb8f2ab7d236f3b5192fb858ce87bf35e50d9d8e7dd9b38"
    | s => s
  hashCode := fun
    | "code-0" => "paTOxskHzwyMD2OYDcTjo0VDg5wyxnb3DvmE7OsFkpg"
    | s => s

/-- The conversions, as far as ASCII text needs them. -/
def stdlib : Stdlib where
  sprintG := fun _ => ""
  sscanG := fun _ => Float64.zero
  equalFold := fun a b => a.map Char.toLower = b.map Char.toLower
  toLower := fun s => s.map Char.toLower
  trimSpace := Strings.trimSpace
  parseRFC3339 := fun _ => none
  parseDateOnly := fun _ => none
  cidrContains := fun _ _ => false

def tenant : UUID := 1#128

def user : UUID := 2#128

/-- A public client with both grants. -/
def client : OAuthClient :=
  ⟨5#128, tenant, "gcid_web", "", "web", "", .publicClient, ["authorization_code", "refresh_token"],
    ["code"], ["https://app/cb"], [], "none", [], false, [], true, 0, 0⟩

def request (token : String) : RefreshTokenRequest := ⟨tenant, "", token, ["openid"], ""⟩

/-- The first token of a family, not used yet. -/
def rootRow : TokenRow :=
  ⟨10#128, tenant, user, client.id, crypto.hashTokenSHA256 "rt-0", "openid", refreshLifetime, false,
    false, 0, some (UUID.string 10#128)⟩

def familyStore : Store := ⟨.empty, ⟨[rootRow], by simp⟩, .empty⟩

/-- Nothing fails; the user is active; the given id and token are drawn. -/
def env (newID : UUID) (newToken : String) : Env :=
  ⟨1, false, false, some (some "active"), [], false, false, newID, newToken⟩

/-- Both calls present the same token. -/
def twoCalls (_ : Nat) : RefreshCall := ⟨client, request "rt-0"⟩

/-- Both calls read the token before one of them consumes it; the other detects
reuse and revokes the family, then the first one stores the successor. -/
def storeLast : List (Nat × Env) :=
  [0, 1, 0, 1, 1, 0].map fun t => (t, env 11#128 "rt-1")

/-- The same calls, the successor stored before the family is revoked. -/
def revokeLast : List (Nat × Env) :=
  [0, 1, 0, 1, 0, 1].map fun t => (t, env 11#128 "rt-1")

end Sample

end Ggid.OAuth
