import Ggid.Auth.Passwords

/-!
# Auth service — the end of a session

The calls that end sessions, and what they leave of the refresh tokens that were issued for them.
All of them revoke the sessions that have one property and the tokens that have another
(`endWhere`); the tokens of an ended session are then gone exactly where the second property
follows from the first.

* `tokensEnd_endWhere_iff`  — one such step;
* `run_store`               — which sessions a call about a password ends;
* `ended_tokens_revoked_iff` — when no token of an ended session is left: the cap at a login, a
  logout and a new password do not look for the other tokens.
-/

namespace Ggid.Auth

open Ggid.Go Ggid.Lib

-- ---------------------------------------------------------------------------
-- The calls
-- ---------------------------------------------------------------------------

/-- `maxDefaultSessions`. -/
def maxDefaultSessions : Nat := 10

namespace SessionStore

/-- `SessionService.Create`. -/
def create (now : Time) (st : SessionStore) (id tenantID userID : UUID) (expiresAt : Time) :
    Option SessionStore :=
  (st.sessions.create now id tenantID userID expiresAt).map fun sessions =>
    { st with sessions }.enforceKeepCount maxDefaultSessions now tenantID userID

/-- `RefreshTokenRepository.Create`; the session is a foreign key. -/
def createToken (st : SessionStore) (id tenantID userID sessionID : UUID) (tokenHash : String)
    (expiresAt : Time) : Option SessionStore :=
  if (st.sessions.find? sessionID).isNone then none
  else (st.tokens.insert? ⟨id, tenantID, userID, sessionID, tokenHash, expiresAt, none⟩).map
    fun tokens => { st with tokens }

/-- `AuthService.Logout`. -/
def logout (hashToken : String → String) (now : Time) (st : SessionStore) (refreshToken : String) :
    SessionStore :=
  match st.tokens.findByHash (hashToken refreshToken) with
  | none => st
  | some token =>
    { sessions := if token.sessionID ≠ UUID.nil then st.sessions.revoke now token.sessionID
        else st.sessions
      tokens := st.tokens.revoke now token.id }

/-- `AuthService.RevokeSession`. -/
def revokeSession (now : Time) (st : SessionStore) (sessionID : UUID) : SessionStore where
  tokens := st.tokens.revokeAllForSession now sessionID
  sessions := st.sessions.revoke now sessionID

/-- `AuthService.ForceLogout`, and its count. -/
def forceLogout (now : Time) (st : SessionStore) (tenantID userID exceptSessionID : UUID) :
    SessionStore × Nat :=
  let ending := (st.sessions.listByUser tenantID userID).filter fun s =>
    !(exceptSessionID ≠ UUID.nil && s.id = exceptSessionID) && s.active now
  (ending.foldl (revokeWithTokens now) st, ending.length)

end SessionStore

inductive SessionEvent where
  | login (now : Time) (id tenantID userID : UUID) (expiresAt : Time)
  | issueToken (id tenantID userID sessionID : UUID) (tokenHash : String) (expiresAt : Time)
  | consumeToken (now : Time) (tokenHash : String)
  | logout (now : Time) (refreshToken : String)
  | revokeSession (now : Time) (sessionID : UUID)
  | forceLogout (now : Time) (tenantID userID exceptSessionID : UUID)
  | enforceSessionLimit (maxSessions : Int) (now : Time) (tenantID userID : UUID)
  | password (call : PasswordCall)

/-- One call; where the store refuses an insertion, nothing happens. -/
def SessionEvent.step (env : PasswordEnv) (st : AuthStore) : SessionEvent → AuthStore
  | login now id tenantID userID expiresAt =>
    { st with store := (st.store.create now id tenantID userID expiresAt).getD st.store }
  | issueToken id tenantID userID sessionID tokenHash expiresAt =>
    { st with store :=
        (st.store.createToken id tenantID userID sessionID tokenHash expiresAt).getD st.store }
  | consumeToken now tokenHash =>
    { st with store.tokens := (st.store.tokens.consume now tokenHash).1 }
  | logout now refreshToken => { st with store := st.store.logout env.tokenHash now refreshToken }
  | revokeSession now sessionID => { st with store := st.store.revokeSession now sessionID }
  | forceLogout now tenantID userID exceptSessionID =>
    { st with store := (st.store.forceLogout now tenantID userID exceptSessionID).1 }
  | enforceSessionLimit maxSessions now tenantID userID =>
    { st with store := st.store.enforceSessionLimit maxSessions now tenantID userID }
  | password call => (call.run env st).1

-- ---------------------------------------------------------------------------
-- Sessions that ended
-- ---------------------------------------------------------------------------

/-- Some token of the session can still be consumed. -/
def HasToken (st : SessionStore) (sessionID : UUID) : Prop :=
  ∃ token ∈ st.tokens, token.sessionID = sessionID ∧ token.revokedAt = none

/-- No token of a revoked session is left, and none can be consumed. -/
structure TokensEnd (st : SessionStore) : Prop where
  revoked : ∀ s ∈ st.sessions, s.revokedAt ≠ none →
    ∀ token ∈ st.tokens, token.sessionID = s.id → token.revokedAt ≠ none
  refused : ∀ now tokenHash, ∀ token ∈ (st.tokens.consume now tokenHash).2,
    ∀ s ∈ st.sessions, s.id = token.sessionID → s.revokedAt = none

theorem tokensEnd_iff {st : SessionStore} :
    TokensEnd st ↔ ∀ s ∈ st.sessions, s.revokedAt ≠ none → ¬ HasToken st s.id := by
  constructor
  · rintro h s hs hended ⟨token, htoken, hsession, hopen⟩
    exact h.revoked s hs hended token htoken hsession hopen
  · intro h
    refine ⟨fun s hs hended token htoken hsession hopen =>
      h s hs hended ⟨token, htoken, hsession, hopen⟩, ?_⟩
    intro now tokenHash token htoken s hs hid
    obtain ⟨row, hrow, rfl⟩ := List.mem_map.mp htoken
    obtain ⟨hrow, hhit⟩ := List.mem_filter.mp hrow
    rw [Bool.and_eq_true, Option.isNone_iff_eq_none] at hhit
    by_contra hended
    exact h s hs hended ⟨row, hrow, hid.symm, hhit.2⟩

/-- The sessions with `p` and the tokens with `q` are revoked. -/
def SessionStore.endWhere (now : Time) (p : Session → Bool) (q : RefreshToken → Bool)
    (st : SessionStore) : SessionStore where
  sessions := st.sessions.update p (Session.withRevokedAt now) (Session.id_withRevokedAt now)
  tokens := st.tokens.update q (RefreshToken.withRevokedAt now) (RefreshToken.id_withRevokedAt now)

section EndWhere

variable {now : Time} {st : SessionStore} {p : Session → Bool} {q : RefreshToken → Bool}

theorem mem_sessions_endWhere {s : Session} : s ∈ (st.endWhere now p q).sessions ↔
    (∃ row ∈ st.sessions, p row = true ∧ s = row.withRevokedAt now) ∨
      (s ∈ st.sessions ∧ p s = false) :=
  @Table.mem_update _ _ _ _ _ (Session.withRevokedAt now) (fun _ => rfl) _

theorem mem_tokens_endWhere {token : RefreshToken} : token ∈ (st.endWhere now p q).tokens ↔
    (∃ row ∈ st.tokens, q row = true ∧ token = row.withRevokedAt now) ∨
      (token ∈ st.tokens ∧ q token = false) :=
  @Table.mem_update _ _ _ _ _ (RefreshToken.withRevokedAt now) (fun _ => rfl) _

theorem hasToken_endWhere {sessionID : UUID} : HasToken (st.endWhere now p q) sessionID ↔
    ∃ token ∈ st.tokens, token.sessionID = sessionID ∧ token.revokedAt = none ∧ q token = false := by
  constructor
  · rintro ⟨token, htoken, hsession, hopen⟩
    rcases mem_tokens_endWhere.mp htoken with ⟨row, -, -, rfl⟩ | ⟨hrow, hq⟩
    · cases hopen
    · exact ⟨token, hrow, hsession, hopen, hq⟩
  · rintro ⟨token, htoken, hsession, hopen, hq⟩
    exact ⟨token, mem_tokens_endWhere.mpr (.inr ⟨htoken, hq⟩), hsession, hopen⟩

/-- **One step** that ends sessions: of each of them, it has to revoke all tokens. -/
theorem tokensEnd_endWhere_iff (h : TokensEnd st) : TokensEnd (st.endWhere now p q) ↔
    ∀ s ∈ st.sessions, p s = true → ∀ token ∈ st.tokens, token.sessionID = s.id →
      token.revokedAt = none → q token = true := by
  rw [tokensEnd_iff]
  constructor
  · intro hend s hs hp token htoken hsession hopen
    by_contra hq
    refine hend (s.withRevokedAt now) (mem_sessions_endWhere.mpr (.inl ⟨s, hs, hp, rfl⟩)) (by
      simp [Session.withRevokedAt]) (hasToken_endWhere.mpr ?_)
    exact ⟨token, htoken, hsession, hopen, by simpa using hq⟩
  · intro hall s hs hended hhas
    obtain ⟨token, htoken, hsession, hopen, hq⟩ := hasToken_endWhere.mp hhas
    rcases mem_sessions_endWhere.mp hs with ⟨row, hrow, hp, rfl⟩ | ⟨hrow, -⟩
    · exact absurd (hall row hrow hp token htoken hsession hopen) (by simp [hq])
    · exact tokensEnd_iff.mp h s hrow hended ⟨token, htoken, hsession, hopen⟩

end EndWhere

-- ---------------------------------------------------------------------------
-- What each call ends
-- ---------------------------------------------------------------------------

section Calls

variable {now : Time} {st : SessionStore} {tenantID userID : UUID}

theorem revokeSession_eq (sessionID : UUID) : st.revokeSession now sessionID =
    st.endWhere now (fun s => s.id = sessionID) fun token => token.sessionID = sessionID := rfl

/-- One session after the other, with its tokens. -/
theorem foldl_revokeWithTokens_eq (out : List Session) (st : SessionStore) :
    out.foldl (SessionStore.revokeWithTokens now) st =
      st.endWhere now (fun s => (out.map Session.id).contains s.id)
        fun token => (out.map Session.id).contains token.sessionID := by
  have hsessions : (out.foldl (SessionStore.revokeWithTokens now) st).sessions =
      revokeListed st.sessions now out := foldl_revokeWithTokens out st
  have htokens : (out.foldl (SessionStore.revokeWithTokens now) st).tokens =
      st.tokens.update (fun token => (out.map Session.id).contains token.sessionID)
        (RefreshToken.withRevokedAt now) fun _ => rfl := by
    clear hsessions
    induction out generalizing st with
    | nil =>
      apply Table.ext
      simp [Table.update]
    | cons s out ih =>
      rw [List.foldl_cons, ih]
      apply Table.ext
      simp only [SessionStore.revokeWithTokens, RefreshTokenTable.revokeAllForSession,
        Table.update, List.map_map]
      refine List.map_congr_left fun row _ => ?_
      simp only [Function.comp_apply, List.map_cons, List.contains_cons, decide_eq_true_eq]
      by_cases hrow : row.sessionID = s.id
      · simp [hrow, RefreshToken.withRevokedAt]
      · simp [hrow]
  rw [SessionStore.endWhere, ← htokens]
  unfold revokeListed at hsessions
  rw [← hsessions]

theorem tokensEnd_foldl_revokeWithTokens (h : TokensEnd st) (out : List Session) :
    TokensEnd (out.foldl (SessionStore.revokeWithTokens now) st) := by
  rw [foldl_revokeWithTokens_eq, tokensEnd_endWhere_iff h]
  intro s _ hout token _ hsession _
  rwa [hsession]

theorem tokensEnd_enforceSessionLimit (h : TokensEnd st) (maxSessions : Int) :
    TokensEnd (st.enforceSessionLimit maxSessions now tenantID userID) := by
  unfold SessionStore.enforceSessionLimit
  simp only
  split_ifs
  · exact h
  · exact h
  · exact tokensEnd_foldl_revokeWithTokens h _

theorem consume_eq (tokenHash : String) :
    { st with tokens := (st.tokens.consume now tokenHash).1 } =
      st.endWhere now (fun _ => false)
        fun token => token.tokenHash = tokenHash && token.revokedAt.isNone := by
  rw [SessionStore.endWhere, Table.update_eq_self fun _ _ => rfl]
  rfl

theorem logout_eq {hashToken : String → String} {refreshToken : String} {token : RefreshToken}
    (h : st.tokens.findByHash (hashToken refreshToken) = some token) :
    st.logout hashToken now refreshToken =
      st.endWhere now (fun s => token.sessionID ≠ UUID.nil && s.id = token.sessionID)
        fun other => other.id = token.id := by
  unfold SessionStore.logout
  rw [h]
  simp only [SessionStore.endWhere, RefreshTokenTable.revoke]
  congr 1
  split_ifs with hnil
  · simp [SessionTable.revoke, hnil]
  · apply Table.ext
    simp [hnil, Table.update]

end Calls

-- ---------------------------------------------------------------------------
-- Calls about passwords
-- ---------------------------------------------------------------------------

/-- The checks before a password is replaced. -/
def replaceable (env : PasswordEnv) (salt : Nat) (st : AuthStore) (tenantID userID : UUID)
    (newPassword : String) : Bool :=
  (checkHistory env st tenantID userID newPassword).isOk &&
    (validate env.unicode env.policy newPassword).isOk && (env.crypto.hash salt newPassword).isSome

/-- Whose sessions a call is to end, and when: nobody's where a check fails. -/
def PasswordCall.ends (env : PasswordEnv) (st : AuthStore) :
    PasswordCall → Option (Time × UUID × UUID)
  | change now salt tenantID userID oldPassword newPassword =>
    ((st.credentials.findByUserID tenantID userID).filter fun cred =>
      env.crypto.verify oldPassword cred.secret = some true &&
        replaceable env salt st tenantID userID newPassword).map fun _ => (now, tenantID, userID)
  | reset now salt resetToken newPassword =>
    ((consumeResetToken env now st resetToken).2.filter fun user =>
      (st.credentials.findByUserID user.1 user.2).isSome &&
        replaceable env salt st user.1 user.2 newPassword).map fun user => (now, user)
  | issue .. => none

/-- The sessions that end with a password. -/
def SessionStore.endUser (now : Time) (tenantID userID : UUID) (st : SessionStore) : SessionStore :=
  { st with sessions := st.sessions.revokeAllForUser now tenantID userID UUID.nil }

theorem replacePassword_store (env : PasswordEnv) (now : Time) (salt : Nat) (st : AuthStore)
    (tenantID userID : UUID) (cred : Credential) (newPassword : String) :
    (replacePassword env now salt st tenantID userID cred newPassword).1.store =
      if replaceable env salt st tenantID userID newPassword then
        st.store.endUser now tenantID userID
      else st.store := by
  unfold replacePassword replaceable setPassword
  cases hfresh : checkHistory env st tenantID userID newPassword with
  | error err => rfl
  | ok =>
    cases hvalid : validate env.unicode env.policy newPassword with
    | error err => rfl
    | ok =>
      cases hhash : env.crypto.hash salt newPassword with
      | none => rfl
      | some secret => rfl

/-- **A call about a password** ends the sessions of its user if its checks pass. -/
theorem run_store (env : PasswordEnv) (st : AuthStore) (call : PasswordCall) :
    (call.run env st).1.store =
      ((call.ends env st).map fun user => st.store.endUser user.1 user.2.1 user.2.2).getD
        st.store := by
  cases call with
  | issue => rfl
  | change now salt tenantID userID oldPassword newPassword =>
    simp only [PasswordCall.run, PasswordCall.ends, changePassword]
    cases hfound : st.credentials.findByUserID tenantID userID with
    | none => rfl
    | some cred =>
      by_cases hold : env.crypto.verify oldPassword cred.secret = some true
      · by_cases hgood : replaceable env salt st tenantID userID newPassword = true
        · simp [Option.filter_some, hold, hgood, replacePassword_store]
        · simp [Option.filter_some, hold, hgood, replacePassword_store]
      · simp [Option.filter_some, hold]
  | reset now salt resetToken newPassword =>
    simp only [PasswordCall.run, PasswordCall.ends, resetPassword]
    have hsame : ∀ user : UUID × UUID,
        (consumeResetToken env now st resetToken).1.credentials.findByUserID user.1 user.2 =
          st.credentials.findByUserID user.1 user.2 := fun _ => rfl
    have hgood : ∀ user : UUID × UUID,
        replaceable env salt (consumeResetToken env now st resetToken).1 user.1 user.2
          newPassword = replaceable env salt st user.1 user.2 newPassword := fun _ => rfl
    have hstore : (consumeResetToken env now st resetToken).1.store = st.store := rfl
    cases hconsumed : (consumeResetToken env now st resetToken).2 with
    | none => exact hstore
    | some user =>
      simp only [hsame]
      cases hfound : st.credentials.findByUserID user.1 user.2 with
      | none => simp [Option.filter_some, hstore, hfound]
      | some cred =>
        by_cases hall : replaceable env salt st user.1 user.2 newPassword = true
        · simp [Option.filter_some, hfound, replacePassword_store, hgood, hall, hstore]
        · simp [Option.filter_some, hfound, replacePassword_store, hgood, hall, hstore]

-- ---------------------------------------------------------------------------
-- Runs
-- ---------------------------------------------------------------------------

/-- What is left for a call to see to: the sessions it ends have no other token, the session a
token is issued for has not ended. -/
def EndsTokens (env : PasswordEnv) (st : AuthStore) : SessionEvent → Prop
  | .login now id tenantID userID expiresAt =>
    ∀ sessions, st.store.sessions.create now id tenantID userID expiresAt = some sessions →
      ∀ s ∈ (sessions.oldestFirst tenantID userID).drop maxDefaultSessions,
        ¬ HasToken st.store s.id
  | .issueToken id _ _ sessionID _ _ =>
    (∃ token ∈ st.store.tokens, token.id = id) ∨
      ∀ s ∈ st.store.sessions, s.id = sessionID → s.revokedAt = none
  | .logout _ refreshToken =>
    ∀ token, st.store.tokens.findByHash (env.tokenHash refreshToken) = some token →
      token.sessionID ≠ UUID.nil → ∀ s ∈ st.store.sessions, s.id = token.sessionID →
        ∀ other ∈ st.store.tokens, other.sessionID = s.id → other.revokedAt = none →
          other.id = token.id
  | .password call =>
    ∀ now tenantID userID, call.ends env st = some (now, tenantID, userID) →
      ∀ s ∈ st.store.sessions, s.standing tenantID userID = true → s.id ≠ UUID.nil →
        ¬ HasToken st.store s.id
  | .consumeToken .. | .revokeSession .. | .forceLogout .. | .enforceSessionLimit .. => True

section Steps

variable {st : SessionStore}

theorem tokensEnd_create (h : TokensEnd st) {now : Time} {id tenantID userID : UUID}
    {expiresAt : Time} {sessions : SessionTable}
    (hcreate : st.sessions.create now id tenantID userID expiresAt = some sessions) :
    TokensEnd { st with sessions } := by
  rw [tokensEnd_iff] at h ⊢
  intro s hs hended
  rcases ((Table.insert?_eq_some hcreate).2 s).mp hs with hs | rfl
  · exact h s hs hended
  · exact absurd rfl hended

/-- No token is revoked. -/
theorem revoke_none (now : Time) : st.tokens.update (fun _ => false)
    (RefreshToken.withRevokedAt now) (RefreshToken.id_withRevokedAt now) = st.tokens :=
  Table.update_eq_self fun _ _ => rfl

/-- The cap of `SessionService.Create`. -/
theorem tokensEnd_enforceKeepCount_iff (h : TokensEnd st) (keepCount : Nat) (now : Time)
    (tenantID userID : UUID) : TokensEnd (st.enforceKeepCount keepCount now tenantID userID) ↔
      ∀ s ∈ (st.sessions.oldestFirst tenantID userID).drop keepCount, ¬ HasToken st s.id := by
  have heq : st.enforceKeepCount keepCount now tenantID userID = st.endWhere now
      (fun s => (((st.sessions.oldestFirst tenantID userID).drop keepCount).map
        Session.id).contains s.id) fun _ => false := by
    rw [SessionStore.endWhere, revoke_none]
    rfl
  rw [heq, tokensEnd_endWhere_iff h]
  constructor
  · rintro hall s hs ⟨token, htoken, hsession, hopen⟩
    have hmem := mem_of_mem_oldestFirst (List.mem_of_mem_drop hs)
    exact absurd (hall s hmem (List.contains_iff_mem.mpr (List.mem_map_of_mem hs)) token htoken
      hsession hopen) Bool.false_ne_true
  · intro hall s _ hp token htoken hsession hopen
    obtain ⟨s', hs', hid⟩ := List.mem_map.mp (List.contains_iff_mem.mp hp)
    exact absurd ⟨token, htoken, hsession.trans hid.symm, hopen⟩ (hall s' hs')

theorem tokensEnd_createToken_iff (h : TokensEnd st) (id tenantID userID sessionID : UUID)
    (tokenHash : String) (expiresAt : Time) :
    TokensEnd ((st.createToken id tenantID userID sessionID tokenHash expiresAt).getD st) ↔
      (∃ token ∈ st.tokens, token.id = id) ∨
        ∀ s ∈ st.sessions, s.id = sessionID → s.revokedAt = none := by
  unfold SessionStore.createToken
  split_ifs with hmissing
  · refine iff_of_true h (.inr fun s hs hid => ?_)
    rw [Option.isNone_iff_eq_none, Table.find?_eq_none_iff] at hmissing
    exact absurd hid (hmissing s hs)
  by_cases htaken : ∃ token ∈ st.tokens, token.id = id
  · have hrefused :
        st.tokens.insert? ⟨id, tenantID, userID, sessionID, tokenHash, expiresAt, none⟩ = none := by
      rw [Option.eq_none_iff_forall_not_mem]
      intro tokens hinsert
      obtain ⟨token, htoken, hid⟩ := htaken
      exact (Table.insert?_eq_some hinsert).1 token htoken hid
    rw [hrefused]
    exact iff_of_true h (.inl htaken)
  · obtain ⟨tokens, hinsert⟩ := @Table.insert?_of_fresh _ _ _ _ st.tokens
      ⟨id, tenantID, userID, sessionID, tokenHash, expiresAt, none⟩
      fun token htoken hid => htaken ⟨token, htoken, hid⟩
    have hmem := (Table.insert?_eq_some hinsert).2
    rw [hinsert, or_iff_right htaken, tokensEnd_iff]
    simp only [Option.map_some, Option.getD_some]
    constructor
    · intro hend s hs hid
      by_contra hended
      exact hend s hs hended ⟨_, (hmem _).mpr (.inr rfl), hid.symm, rfl⟩
    · rintro hall s hs hended ⟨token, htoken, hsession, hopen⟩
      rcases (hmem token).mp htoken with htoken | rfl
      · exact h.revoked s hs hended token htoken hsession hopen
      · exact hended (hall s hs hsession.symm)

theorem tokensEnd_endUser_iff (h : TokensEnd st) (now : Time) (tenantID userID : UUID) :
    TokensEnd (st.endUser now tenantID userID) ↔
      ∀ s ∈ st.sessions, s.standing tenantID userID = true → s.id ≠ UUID.nil →
        ¬ HasToken st s.id := by
  have heq : st.endUser now tenantID userID = st.endWhere now
      (fun s => s.standing tenantID userID && s.id ≠ UUID.nil) fun _ => false := by
    rw [SessionStore.endWhere, revoke_none]
    rfl
  rw [heq, tokensEnd_endWhere_iff h]
  refine forall_congr' fun s => forall_congr' fun _ => ?_
  rw [Bool.and_eq_true, decide_eq_true_eq, and_imp]
  refine forall_congr' fun _ => forall_congr' fun _ => ?_
  simp [HasToken]

end Steps

/-- **One call.** -/
theorem tokensEnd_step_iff {env : PasswordEnv} {st : AuthStore} (event : SessionEvent)
    (h : TokensEnd st.store) :
    TokensEnd (event.step env st).store ↔ EndsTokens env st event := by
  cases event with
  | login now id tenantID userID expiresAt =>
    simp only [SessionEvent.step, SessionStore.create, EndsTokens]
    cases hcreate : st.store.sessions.create now id tenantID userID expiresAt with
    | none => exact iff_of_true h fun _ hnone => by cases hnone
    | some sessions =>
      simp only [Option.map_some, Option.getD_some]
      rw [tokensEnd_enforceKeepCount_iff (tokensEnd_create h hcreate)]
      exact ⟨fun hall _ heq => Option.some.inj heq ▸ hall, fun hall => hall sessions rfl⟩
  | issueToken id tenantID userID sessionID tokenHash expiresAt =>
    exact tokensEnd_createToken_iff h id tenantID userID sessionID tokenHash expiresAt
  | consumeToken now tokenHash =>
    simp only [SessionEvent.step, EndsTokens]
    rw [consume_eq, tokensEnd_endWhere_iff h]
    simp
  | logout now refreshToken =>
    simp only [SessionEvent.step, EndsTokens]
    cases hfind : st.store.tokens.findByHash (env.tokenHash refreshToken) with
    | none =>
      simp only [SessionStore.logout, hfind]
      exact iff_of_true h fun _ hnone => by cases hnone
    | some token =>
      rw [logout_eq hfind, tokensEnd_endWhere_iff h]
      simp only [Bool.and_eq_true, decide_eq_true_eq, and_imp, Option.some.injEq,
        forall_eq']
      exact ⟨fun hall hnil s hs hid => hall s hs hnil hid,
        fun hall s hs hnil hid => hall hnil s hs hid⟩
  | revokeSession now sessionID =>
    simp only [SessionEvent.step, EndsTokens]
    rw [revokeSession_eq, tokensEnd_endWhere_iff h]
    simp only [decide_eq_true_eq, iff_true]
    exact fun s _ hid token _ hsession _ => hsession.trans hid
  | forceLogout now tenantID userID exceptSessionID =>
    exact iff_of_true (tokensEnd_foldl_revokeWithTokens h _) trivial
  | enforceSessionLimit maxSessions now tenantID userID =>
    exact iff_of_true (tokensEnd_enforceSessionLimit h maxSessions) trivial
  | password call =>
    simp only [SessionEvent.step, EndsTokens, run_store]
    cases hends : call.ends env st with
    | none => exact iff_of_true h fun _ _ _ hnone => by cases hnone
    | some user =>
      simp only [Option.map_some, Option.getD_some]
      rw [tokensEnd_endUser_iff h]
      constructor
      · rintro hall now tenantID userID heq
        cases heq
        exact hall
      · exact fun hall => hall user.1 user.2.1 user.2.2 rfl

/-- **No token of an ended session is left** exactly where every call has none to leave. -/
theorem ended_tokens_revoked_iff (env : PasswordEnv) {st : AuthStore} (hstart : TokensEnd st.store)
    (events : List SessionEvent) :
    (∀ st' ∈ states (SessionEvent.step env) st events, TokensEnd st'.store) ↔
      StepsOk (SessionEvent.step env) (EndsTokens env) st events :=
  forall_states_iff_of_step (P := fun st : AuthStore => TokensEnd st.store)
    (fun _ event h => tokensEnd_step_iff event h) hstart

namespace Sample

def noSessions : AuthStore where
  credentials := Table.empty
  history := []
  resetTokens := fun _ => none
  store := ⟨Table.empty, Table.empty⟩

theorem noSessions_tokensEnd : TokensEnd noSessions.store := by
  rw [tokensEnd_iff]
  exact fun s hs => absurd hs (Table.not_mem_empty s)

/-- A login, and two refresh tokens for its session. -/
def twoTokens : List SessionEvent :=
  [.login 0 1 1 7 100, .issueToken 2 1 7 1 "first" 100, .issueToken 3 1 7 1 "second" 100]

end Sample

open Sample in
/-- After a logout with one of two tokens, the other is consumed. -/
theorem token_outlives_logout :
    (((run (SessionEvent.step passwordEnv) noSessions
        (twoTokens ++ [.logout 5 "first"])).store.tokens.consume 6 "second").2.map
          RefreshToken.sessionID) = [1] ∧
    ¬ ∀ st ∈ states (SessionEvent.step passwordEnv) noSessions (twoTokens ++ [.logout 5 "first"]),
      TokensEnd st.store := by
  have hsessions : (run (SessionEvent.step passwordEnv) noSessions
      (twoTokens ++ [.logout 5 "first"])).store.sessions.rows =
        [⟨1, 1, 7, 100, some 5, 0, none, none⟩] := by decide
  have htokens : (run (SessionEvent.step passwordEnv) noSessions
      (twoTokens ++ [.logout 5 "first"])).store.tokens.rows =
        [⟨2, 1, 7, 1, "first", 100, some 5⟩, ⟨3, 1, 7, 1, "second", 100, none⟩] := by decide
  refine ⟨?_, fun hall => ?_⟩
  · simp only [RefreshTokenTable.consume, htokens]
    decide
  · have hend := (hall _ (run_mem_states _ _)).revoked ⟨1, 1, 7, 100, some 5, 0, none, none⟩
      (by rw [Table.mem_def, hsessions]; simp) (by simp) ⟨3, 1, 7, 1, "second", 100, none⟩
      (by rw [Table.mem_def, htokens]; simp) rfl
    exact hend rfl

open Sample in
/-- A session is revoked with all its tokens. -/
theorem ended_tokens_revoked_iff_sample :
    TokensEnd noSessions.store ∧ ∀ st ∈ states (SessionEvent.step passwordEnv) noSessions
      [.login 0 1 1 7 100, .revokeSession 5 1], TokensEnd st.store := by
  refine ⟨noSessions_tokensEnd, (ended_tokens_revoked_iff passwordEnv noSessions_tokensEnd _).mpr
    ⟨?_, trivial, trivial⟩⟩
  intro sessions hcreate s hs
  rw [← Option.some.inj hcreate] at hs
  exact (List.not_mem_nil hs).elim

end Ggid.Auth
