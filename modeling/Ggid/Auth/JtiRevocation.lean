import Ggid.Auth.Sessions
import Ggid.Lib.Run
import Ggid.Lib.Threads
import Ggid.OAuth.Keys

/-!
# Auth service — revocation of access tokens

`SessionRevocationManager.RevokeUser` and the blocklist of token IDs, with the password logins and
token refreshes that run at the same time, store step by store step. A login records its token in a
session; a refresh records its token nowhere, and `UpdateJTI`, which would, has no caller: it is a
request of its own here.

* `Keeps.step`              — what a revocation knows, from its list of sessions to its return;
* `revoked_tokens_blocked`  — when the tokens issued before the return are blocked until they
  expire: each was recorded at the list, and none was issued after it.
-/

namespace Ggid.Auth

open Ggid.Go Ggid.Lib

-- ---------------------------------------------------------------------------
-- The blocklist
-- ---------------------------------------------------------------------------

/-- The scores of `ggid:revoked_jti`. -/
abbrev JTIBlocklist := String → Option Int

namespace JTIBlocklist

def revoke (b : JTIBlocklist) (jti : String) (jwtExp : Time) : JTIBlocklist :=
  Function.update b jti (some (OAuth.unix jwtExp))

def isRevoked (b : JTIBlocklist) (jti : String) : Bool :=
  jti ≠ "" && (b jti).any fun score => 0 < score

def cleanupExpired (b : JTIBlocklist) (now : Time) : JTIBlocklist :=
  fun jti => (b jti).filter fun score => ¬ score ≤ OAuth.unix now

end JTIBlocklist

/-- `domain.SessionJTI`. -/
structure SessionJTI where
  sessionID : UUID
  jti       : String
  tokenExp  : Time
  deriving DecidableEq

/-- A missing expiry cannot be scanned. -/
def SessionTable.listActiveJTIForUser (t : SessionTable) (tenantID userID : UUID) :
    Option (List SessionJTI) :=
  let rows := t.rows.filter fun s => s.standing tenantID userID && s.jti.isSome
  if rows.all fun s => s.tokenExp.isSome then
    some (rows.filterMap fun s =>
      s.jti.bind fun jti => s.tokenExp.map fun tokenExp => ⟨s.id, jti, tokenExp⟩)
  else none

-- ---------------------------------------------------------------------------
-- Requests
-- ---------------------------------------------------------------------------

namespace JtiRevocation

/-- The claims of an access token that a revocation is about; `exp` is in seconds. -/
structure AccessToken where
  tenantID : UUID
  userID   : UUID
  jti      : String
  exp      : Int
  deriving DecidableEq

/-- The clock, the tables, and the tokens that were issued, the last one first. -/
structure Store where
  clock     : Nat
  sessions  : SessionTable
  blocklist : JTIBlocklist
  issued    : List AccessToken

def Store.now (st : Store) : Time := st.clock

structure RevocationResult where
  sessionsRevoked : Nat
  jtisBlocked     : Nat
  refreshRevoked  : Nat
  blockedJTIs     : List String
  deriving DecidableEq

/-- A call of `RevokeUser` after its list. -/
structure Revocation where
  tenantID    : UUID
  userID      : UUID
  jtis        : List SessionJTI
  blockedJTIs : List String

def Revocation.result (r : Revocation) : RevocationResult where
  sessionsRevoked := r.jtis.length
  jtisBlocked := r.blockedJTIs.length
  refreshRevoked := 1
  blockedJTIs := r.blockedJTIs

/-- Where a request is. A revocation has the sessions that are left to block, and after its return
the tokens that were issued before it. -/
inductive Task where
  | login (tenantID userID : UUID)
  | signed (token : AccessToken) (expiresAt : Time)
  | refresh (tenantID userID : UUID)
  | writeJTI (sessionID : UUID) (jti : String) (expiresIn : Nat)
  | revokeUser (tenantID userID : UUID)
  | blocking (r : Revocation) (pending : List SessionJTI)
  | revoked (r : Revocation)
  | returned (r : Revocation) (result : RevocationResult) (before : List AccessToken)
  | done

/-- What a step is given: the ID of a token, and the ID of a row. -/
structure Draw where
  jti : UUID
  id  : UUID

/-- The signing of a token, for a quarter of an hour. -/
def Store.sign (st : Store) (d : Draw) (tenantID userID : UUID) : AccessToken :=
  ⟨tenantID, userID, d.jti.string, OAuth.unix (st.now + 15 * minute)⟩

/-- The time until which an ID is blocked. -/
def blockUntil (now tokenExp : Time) : Time :=
  if tokenExp = Time.zero ∨ tokenExp < now then now + 15 * minute else tokenExp

/-- One step of a request. -/
def Task.act (d : Draw) (st : Store) : Task → Store × Task
  | login tenantID userID =>
    let token := st.sign d tenantID userID
    ({ st with issued := token :: st.issued }, .signed token (st.now + 15 * minute))
  | signed token expiresAt =>
    ({ st with sessions := (st.sessions.insert?
        ⟨d.id, token.tenantID, token.userID, expiresAt, none, st.now, some token.jti,
          some expiresAt⟩).getD st.sessions }, .done)
  | refresh tenantID userID =>
    ({ st with issued := st.sign d tenantID userID :: st.issued }, .done)
  | writeJTI sessionID jti expiresIn =>
    let tokenExp := st.now + expiresIn * second
    if jti = "" then (st, .done)
    else ({ st with sessions := st.sessions.updateJTI sessionID jti tokenExp }, .done)
  | revokeUser tenantID userID =>
    let jtis := (st.sessions.listActiveJTIForUser tenantID userID).getD []
    (st, .blocking ⟨tenantID, userID, jtis, []⟩ jtis)
  | blocking r (j :: pending) =>
    if j.jti = "" then (st, .blocking r pending)
    else ({ st with blocklist := st.blocklist.revoke j.jti (blockUntil st.now j.tokenExp) },
      .blocking { r with blockedJTIs := r.blockedJTIs ++ [j.jti] } pending)
  | blocking r [] =>
    ({ st with sessions := st.sessions.revokeAllForUser st.now r.tenantID r.userID UUID.nil },
      .revoked r)
  -- the tokens of `refresh_tokens`, which no request here reads
  | revoked r => (st, .returned r r.result st.issued)
  | returned r result before => (st, .returned r result before)
  | done => (st, .done)

/-- A request before it does anything. -/
inductive Request where
  | login (tenantID userID : UUID)
  | refresh (tenantID userID : UUID)
  | writeJTI (sessionID : UUID) (jti : String) (expiresIn : Nat)
  | revokeUser (tenantID userID : UUID)

def Request.task : Request → Task
  | login tenantID userID => .login tenantID userID
  | refresh tenantID userID => .refresh tenantID userID
  | writeJTI sessionID jti expiresIn => .writeJTI sessionID jti expiresIn
  | revokeUser tenantID userID => .revokeUser tenantID userID

/-- A step of a request, of the clock, or of the cleanup. -/
inductive Step where
  | act (thread : Nat) (d : Draw)
  | tick (nanoseconds : Nat)
  | cleanup

def step (p : Threads Store Task) : Step → Threads Store Task
  | .act thread d => p.put thread ((p.task thread).act d p.store)
  | .tick nanoseconds => { p with store.clock := p.store.clock + nanoseconds }
  | .cleanup => { p with store.blocklist := p.store.blocklist.cleanupExpired p.store.now }

def start (requests : Nat → Request) : Threads Store Task :=
  ⟨⟨0, .empty, fun _ => none, []⟩, fun t => (requests t).task⟩

-- ---------------------------------------------------------------------------
-- Tokens
-- ---------------------------------------------------------------------------

def AccessToken.unexpired (token : AccessToken) (now : Time) : Prop := now < token.exp * second

def AccessToken.ofUser (token : AccessToken) (tenantID userID : UUID) : Prop :=
  token.tenantID = tenantID ∧ token.userID = userID

/-- After the return of a revocation, the tokens issued before it are blocked until they expire. -/
def TokensBlocked (p : Threads Store Task) : Prop :=
  ∀ t r result before, p.task t = .returned r result before →
    ∀ token ∈ before, token.ofUser r.tenantID r.userID → token.unexpired p.store.now →
      p.store.blocklist.isRevoked token.jti = true

/-- A revocation of the user is between its list and its return. -/
def Task.revoking (tenantID userID : UUID) : Task → Prop
  | .blocking r _ => r.tenantID = tenantID ∧ r.userID = userID
  | .revoked r => r.tenantID = tenantID ∧ r.userID = userID
  | _ => False

/-- The ID is in the blocklist for at least as long as the token is valid. -/
def Blocked (b : JTIBlocklist) (token : AccessToken) : Prop :=
  ∃ score, b token.jti = some score ∧ token.exp ≤ score

/-- What is recorded is the ID of a token, and no earlier expiry. -/
def Recorded (issued : List AccessToken) (jti : String) (tokenExp : Time) : Prop :=
  ∃ token ∈ issued, token.jti = jti ∧ token.exp * second ≤ tokenExp

/-- The IDs that are drawn are new. -/
def FreshDraw (p : Threads Store Task) : Step → Prop
  | .act _ d => d.jti.string ∉ p.store.issued.map AccessToken.jti
  | .tick _ | .cleanup => True

/-- At the list of a revocation each token of the user has a session that is not revoked, or is
blocked; none is issued between the list and the return; and what is recorded for a session is the
ID and the expiry of a token. -/
def TaskListed (p : Threads Store Task) : Task → Prop
  | .login tenantID userID => ∀ t, ¬ (p.task t).revoking tenantID userID
  | .refresh tenantID userID => ∀ t, ¬ (p.task t).revoking tenantID userID
  | .writeJTI _ jti expiresIn =>
    jti = "" ∨ Recorded p.store.issued jti (p.store.now + expiresIn * second)
  | .revokeUser tenantID userID => ∀ token ∈ p.store.issued, token.ofUser tenantID userID →
    token.unexpired p.store.now → Blocked p.store.blocklist token ∨
      ∃ s ∈ p.store.sessions, s.standing tenantID userID = true ∧ s.jti = some token.jti
  | _ => True

def AllListed (p : Threads Store Task) : Step → Prop
  | .act thread _ => TaskListed p (p.task thread)
  | .tick _ | .cleanup => True

-- ---------------------------------------------------------------------------
-- The blocklist over time
-- ---------------------------------------------------------------------------

/-- What a step leaves of the tokens and of the blocklist. -/
structure Later (st st' : Store) : Prop where
  issued  : ∀ token ∈ st.issued, token ∈ st'.issued
  clock   : st.now ≤ st'.now
  blocked : ∀ token ∈ st.issued, token.unexpired st'.now → Blocked st.blocklist token →
    Blocked st'.blocklist token

section Blocklist

variable {st st' : Store} {token : AccessToken} {tenantID userID : UUID}

theorem Later.refl (st : Store) : Later st st :=
  ⟨fun _ hmem => hmem, le_refl _, fun _ _ _ hblocked => hblocked⟩

theorem AccessToken.unexpired.before (h : token.unexpired st'.now) (hclock : st.now ≤ st'.now) :
    token.unexpired st.now := lt_of_le_of_lt hclock h

/-- The gateway refuses what is blocked. -/
theorem isRevoked_of_blocked (h : Blocked st.blocklist token) (hnamed : token.jti ≠ "")
    (hvalid : token.unexpired st.now) : st.blocklist.isRevoked token.jti = true := by
  obtain ⟨score, hscore, hle⟩ := h
  have hexp : 0 < token.exp := by
    have hbefore : (st.clock : Int) < token.exp * 1000000000 := hvalid
    omega
  simp only [JTIBlocklist.isRevoked, hscore, Option.any_some]
  simp [hnamed, lt_of_lt_of_le hexp hle]

/-- The cleanup leaves what has not expired. -/
theorem blocked_cleanup (h : Blocked st.blocklist token) (hvalid : token.unexpired st.now) :
    Blocked (st.blocklist.cleanupExpired st.now) token := by
  obtain ⟨score, hscore, hle⟩ := h
  refine ⟨score, ?_, hle⟩
  have hlater : ¬ score ≤ OAuth.unix st.now := by
    have hbefore : (st.clock : Int) < token.exp * 1000000000 := hvalid
    show ¬ score ≤ (st.clock : Int) / 1000000000
    omega
  rw [JTIBlocklist.cleanupExpired, hscore, Option.filter_some]
  simp [hlater]

/-- What is blocked by its record is blocked until it expires. -/
theorem blocked_of_recorded {tokenExp : Time} (hrecorded : token.exp * second ≤ tokenExp)
    (hvalid : token.unexpired st.now) :
    Blocked (st.blocklist.revoke token.jti (blockUntil st.now tokenExp)) token := by
  refine ⟨OAuth.unix (blockUntil st.now tokenExp), Function.update_self _ _ _, ?_⟩
  have hbefore : (st.clock : Int) < token.exp * 1000000000 := hvalid
  have hle : token.exp * 1000000000 ≤ (tokenExp : Int) := hrecorded
  have hkept : ¬ (tokenExp = Time.zero ∨ tokenExp < st.now) := by
    rintro (hzero | hpast)
    · rw [hzero, Time.zero] at hle
      omega
    · exact absurd (lt_of_lt_of_le hbefore hle) (not_lt.mpr (le_of_lt hpast))
  rw [blockUntil, if_neg hkept]
  show token.exp ≤ tokenExp / 1000000000
  exact (Int.le_ediv_iff_mul_le (by decide)).mpr hle

/-- Blocking a recorded ID shortens the time of no other token. -/
theorem Later.block {jti : String} {tokenExp : Time}
    (hnodup : (st.issued.map AccessToken.jti).Nodup) (hrecorded : Recorded st.issued jti tokenExp) :
    Later st { st with
      blocklist := st.blocklist.revoke jti (blockUntil st.now tokenExp) } := by
  refine ⟨fun _ hmem => hmem, le_refl _, fun token hmem hvalid hblocked => ?_⟩
  by_cases hsame : token.jti = jti
  · obtain ⟨token', hmem', hjti, hexp⟩ := hrecorded
    obtain rfl : token = token' :=
      List.inj_on_of_nodup_map hnodup hmem hmem' (hsame.trans hjti.symm)
    rw [← hsame]
    exact blocked_of_recorded hexp hvalid
  · obtain ⟨score, hscore, hle⟩ := hblocked
    exact ⟨score, (Function.update_of_ne hsame _ _).trans hscore, hle⟩

end Blocklist

-- ---------------------------------------------------------------------------
-- Requests
-- ---------------------------------------------------------------------------

/-- IDs are of one token each, and sessions record IDs and expiries of tokens. -/
structure Known (st : Store) : Prop where
  nodup : (st.issued.map AccessToken.jti).Nodup
  named : ∀ token ∈ st.issued, token.jti ≠ ""
  rows  : ∀ s ∈ st.sessions, ∀ jti, s.jti = some jti →
    ∃ tokenExp, s.tokenExp = some tokenExp ∧ Recorded st.issued jti tokenExp

/-- The tokens of the user that are not blocked are among those that are left to block. -/
def LeftToBlock (st : Store) (r : Revocation) (pending : List SessionJTI) : Prop :=
  ∀ token ∈ st.issued, token.ofUser r.tenantID r.userID → token.unexpired st.now →
    Blocked st.blocklist token ∨ ∃ j ∈ pending, j.jti = token.jti

def TaskOk (st : Store) : Task → Prop
  | .signed token expiresAt => Recorded st.issued token.jti expiresAt
  | .blocking r pending =>
    (∀ j ∈ pending, Recorded st.issued j.jti j.tokenExp) ∧ LeftToBlock st r pending
  | .revoked r => LeftToBlock st r []
  | .returned r _ before => ∀ token ∈ before, token ∈ st.issued ∧
      (token.ofUser r.tenantID r.userID → token.unexpired st.now → Blocked st.blocklist token)
  | _ => True

structure Keeps (p : Threads Store Task) : Prop where
  store : Known p.store
  tasks : ∀ t, TaskOk p.store (p.task t)

section Requests

variable {st st' : Store} {d : Draw} {task : Task}

theorem Recorded.mono {issued issued' : List AccessToken} {jti : String} {tokenExp : Time}
    (h : Recorded issued jti tokenExp) (hsub : ∀ token ∈ issued, token ∈ issued') :
    Recorded issued' jti tokenExp := by
  obtain ⟨token, hmem, hjti, hexp⟩ := h
  exact ⟨token, hsub token hmem, hjti, hexp⟩

theorem LeftToBlock.later {r : Revocation} {pending : List SessionJTI}
    (h : LeftToBlock st r pending) (hlater : Later st st')
    (hold : ∀ token ∈ st'.issued, token.ofUser r.tenantID r.userID → token ∈ st.issued) :
    LeftToBlock st' r pending := by
  intro token hmem huser hvalid
  have hissued := hold token hmem huser
  rcases h token hissued huser (hvalid.before hlater.clock) with hblocked | hpending
  · exact Or.inl (hlater.blocked token hissued hvalid hblocked)
  · exact Or.inr hpending

/-- A step that issues no token for the user of a revocation. -/
theorem TaskOk.later (h : TaskOk st task) (hlater : Later st st')
    (hold : ∀ token ∈ st'.issued, task.revoking token.tenantID token.userID →
      token ∈ st.issued) : TaskOk st' task := by
  have huser : ∀ (r : Revocation) (token : AccessToken), token.ofUser r.tenantID r.userID →
      r.tenantID = token.tenantID ∧ r.userID = token.userID :=
    fun r token huser => ⟨huser.1.symm, huser.2.symm⟩
  cases task with
  | signed token expiresAt => exact Recorded.mono h hlater.issued
  | blocking r pending =>
    exact ⟨fun j hj => (h.1 j hj).mono hlater.issued,
      h.2.later hlater fun token hmem hof => hold token hmem (huser r token hof)⟩
  | revoked r =>
    exact LeftToBlock.later h hlater fun token hmem hof => hold token hmem (huser r token hof)
  | returned r result before =>
    intro token hmem
    obtain ⟨hissued, hblocked⟩ := h token hmem
    exact ⟨hlater.issued token hissued, fun hof hvalid => hlater.blocked token hissued hvalid
      (hblocked hof (hvalid.before hlater.clock))⟩
  | _ => trivial

/-- The list is there, and is about the user's sessions with an ID. -/
theorem mem_listActiveJTIForUser (h : Known st) {tenantID userID : UUID} {j : SessionJTI} :
    j ∈ (st.sessions.listActiveJTIForUser tenantID userID).getD [] ↔
      ∃ s ∈ st.sessions, s.standing tenantID userID = true ∧ s.id = j.sessionID ∧
        s.jti = some j.jti ∧ s.tokenExp = some j.tokenExp := by
  have hscan : ((st.sessions.rows.filter fun s => s.standing tenantID userID && s.jti.isSome).all
      fun s => s.tokenExp.isSome) = true := by
    rw [List.all_eq_true]
    intro s hs
    obtain ⟨hs, hlisted⟩ := List.mem_filter.mp hs
    obtain ⟨-, hsome⟩ := Bool.and_eq_true_iff.mp hlisted
    obtain ⟨jti, hjti⟩ := Option.isSome_iff_exists.mp hsome
    obtain ⟨tokenExp, hexp, -⟩ := h.rows s hs jti hjti
    rw [hexp, Option.isSome_some]
  unfold SessionTable.listActiveJTIForUser
  dsimp only
  rw [if_pos hscan, Option.getD_some, List.mem_filterMap]
  constructor
  · rintro ⟨s, hs, hj⟩
    obtain ⟨hs, hlisted⟩ := List.mem_filter.mp hs
    obtain ⟨jti, hjti, hmap⟩ := Option.bind_eq_some_iff.mp hj
    obtain ⟨tokenExp, hexp, rfl⟩ := Option.map_eq_some_iff.mp hmap
    exact ⟨s, hs, (Bool.and_eq_true_iff.mp hlisted).1, rfl, hjti, hexp⟩
  · rintro ⟨s, hs, hstanding, hid, hjti, hexp⟩
    refine ⟨s, List.mem_filter.mpr ⟨hs, by simp [hstanding, hjti]⟩, ?_⟩
    rw [hjti, hexp, hid]
    rfl

/-- Statements that change sessions, but record no other ID than that of a token. -/
theorem Known.withSessions (h : Known st) {sessions : SessionTable}
    (hrows : ∀ s ∈ sessions, ∀ jti, s.jti = some jti →
      ∃ tokenExp, s.tokenExp = some tokenExp ∧ Recorded st.issued jti tokenExp) :
    Known { st with sessions } := ⟨h.nodup, h.named, hrows⟩

theorem Known.sign (h : Known st) (tenantID userID : UUID)
    (hfresh : d.jti.string ∉ st.issued.map AccessToken.jti) :
    Known { st with issued := st.sign d tenantID userID :: st.issued } := by
  refine ⟨List.nodup_cons.mpr ⟨hfresh, h.nodup⟩,
    List.forall_mem_cons.mpr ⟨UUID.string_ne_empty _, h.named⟩, fun s hs jti hjti => ?_⟩
  obtain ⟨tokenExp, hexp, hrecorded⟩ := h.rows s hs jti hjti
  exact ⟨tokenExp, hexp, hrecorded.mono fun _ hmem => List.mem_cons_of_mem _ hmem⟩

theorem later_sign (st : Store) (d : Draw) (tenantID userID : UUID) :
    Later st { st with issued := st.sign d tenantID userID :: st.issued } :=
  ⟨fun _ hmem => List.mem_cons_of_mem _ hmem, le_refl _, fun _ _ _ hblocked => hblocked⟩

theorem later_sessions (st : Store) (sessions : SessionTable) : Later st { st with sessions } :=
  ⟨fun _ hmem => hmem, le_refl _, fun _ _ _ hblocked => hblocked⟩

theorem Known.insert (h : Known st) {s : Session} {jti : String} {tokenExp : Time}
    (hjti : s.jti = some jti) (hexp : s.tokenExp = some tokenExp)
    (hrecorded : Recorded st.issued jti tokenExp) :
    Known { st with sessions := (st.sessions.insert? s).getD st.sessions } := by
  refine h.withSessions fun s' hs' jti' hjti' => ?_
  cases hinsert : st.sessions.insert? s with
  | none =>
    rw [hinsert] at hs'
    exact h.rows s' hs' jti' hjti'
  | some sessions =>
    rw [hinsert] at hs'
    rcases ((Table.insert?_eq_some hinsert).2 s').mp hs' with hold | rfl
    · exact h.rows s' hold jti' hjti'
    · obtain rfl : jti = jti' := Option.some.inj (hjti.symm.trans hjti')
      exact ⟨tokenExp, hexp, hrecorded⟩

theorem Known.updateJTI (h : Known st) (sessionID : UUID) {jti : String} {tokenExp : Time}
    (hrecorded : Recorded st.issued jti tokenExp) :
    Known { st with sessions := st.sessions.updateJTI sessionID jti tokenExp } := by
  refine h.withSessions fun s hs jti' hjti' => ?_
  rcases (@Table.mem_update _ _ _ _ _ (Session.withJTI jti tokenExp) (fun _ => rfl) _).mp hs with
    ⟨row, -, -, rfl⟩ | ⟨hold, -⟩
  · obtain rfl : jti = jti' := Option.some.inj hjti'
    exact ⟨tokenExp, rfl, hrecorded⟩
  · exact h.rows s hold jti' hjti'

theorem Known.revokeAllForUser (h : Known st) (now : Time) (tenantID userID exceptID : UUID) :
    Known { st with sessions := st.sessions.revokeAllForUser now tenantID userID exceptID } := by
  refine h.withSessions fun s hs jti hjti => ?_
  rcases (@Table.mem_update _ _ _ _ _ (Session.withRevokedAt now) (fun _ => rfl) _).mp hs with
    ⟨row, hrow, -, rfl⟩ | ⟨hold, -⟩
  · exact h.rows row hrow jti hjti
  · exact h.rows s hold jti hjti

/-- **The list**: where every token that counts has a session or is blocked. -/
theorem list_ok (h : Known st) {tenantID userID : UUID}
    (hlisted : ∀ token ∈ st.issued, token.ofUser tenantID userID → token.unexpired st.now →
      Blocked st.blocklist token ∨
        ∃ s ∈ st.sessions, s.standing tenantID userID = true ∧ s.jti = some token.jti) :
    TaskOk st ((Task.revokeUser tenantID userID).act d st).2 := by
  constructor
  · intro j hj
    obtain ⟨s, hs, -, -, hjti, hexp⟩ := (mem_listActiveJTIForUser h).mp hj
    obtain ⟨tokenExp, hexp', hrecorded⟩ := h.rows s hs j.jti hjti
    obtain rfl : j.tokenExp = tokenExp := Option.some.inj (hexp.symm.trans hexp')
    exact hrecorded
  · intro token hmem huser hvalid
    rcases hlisted token hmem huser hvalid with hblocked | ⟨s, hs, hstanding, hjti⟩
    · exact Or.inl hblocked
    · obtain ⟨tokenExp, hexp, -⟩ := h.rows s hs token.jti hjti
      exact Or.inr ⟨⟨s.id, token.jti, tokenExp⟩,
        (mem_listActiveJTIForUser h).mpr ⟨s, hs, hstanding, rfl, hjti, hexp⟩, rfl⟩

/-- **One round** of the loop. -/
theorem block_ok (h : Known st) {r : Revocation} {j : SessionJTI} {pending : List SessionJTI}
    (htask : TaskOk st (.blocking r (j :: pending))) :
    Known ((Task.blocking r (j :: pending)).act d st).1 ∧
      Later st ((Task.blocking r (j :: pending)).act d st).1 ∧
      TaskOk ((Task.blocking r (j :: pending)).act d st).1
        ((Task.blocking r (j :: pending)).act d st).2 := by
  obtain ⟨hrecords, hleft⟩ := htask
  obtain ⟨hhead, htail⟩ := List.forall_mem_cons.mp hrecords
  have hlater := Later.block h.nodup hhead
  obtain ⟨token', hmem', hjti', hexp'⟩ := hhead
  have hnamed : j.jti ≠ "" := hjti' ▸ h.named token' hmem'
  simp only [Task.act, if_neg hnamed]
  refine ⟨⟨h.nodup, h.named, h.rows⟩, hlater, htail, fun token hmem huser hvalid => ?_⟩
  rcases hleft token hmem huser hvalid with hblocked | ⟨j', hj', hsame⟩
  · exact Or.inl (hlater.blocked token hmem hvalid hblocked)
  · rcases List.mem_cons.mp hj' with rfl | hj'
    · obtain rfl : token' = token :=
        List.inj_on_of_nodup_map h.nodup hmem' hmem (hjti'.trans hsame)
      rw [← hjti']
      exact Or.inl (blocked_of_recorded hexp' hvalid)
    · exact Or.inr ⟨j', hj', hsame⟩

/-- **One step** of a request. -/
theorem act_keeps {p : Threads Store Task} (h : Known p.store) (htask : TaskOk p.store task)
    (hfresh : d.jti.string ∉ p.store.issued.map AccessToken.jti) (hok : TaskListed p task) :
    Known (task.act d p.store).1 ∧ Later p.store (task.act d p.store).1 ∧
      TaskOk (task.act d p.store).1 (task.act d p.store).2 := by
  cases task with
  | login tenantID userID =>
    refine ⟨h.sign tenantID userID hfresh, later_sign _ _ _ _, _, List.mem_cons_self, rfl, ?_⟩
    exact Int.ediv_mul_le _ (by decide)
  | signed token expiresAt => exact ⟨h.insert rfl rfl htask, later_sessions _ _, trivial⟩
  | refresh tenantID userID =>
    exact ⟨h.sign tenantID userID hfresh, later_sign _ _ _ _, trivial⟩
  | writeJTI sessionID jti expiresIn =>
    simp only [Task.act]
    split_ifs with hempty
    · exact ⟨h, Later.refl _, trivial⟩
    · exact ⟨h.updateJTI sessionID (hok.resolve_left hempty), later_sessions _ _, trivial⟩
  | revokeUser tenantID userID => exact ⟨h, Later.refl _, list_ok h hok⟩
  | blocking r pending =>
    cases pending with
    | nil =>
      have hlater := later_sessions p.store
        (p.store.sessions.revokeAllForUser p.store.now r.tenantID r.userID UUID.nil)
      exact ⟨h.revokeAllForUser _ _ _ _, hlater, htask.2.later hlater fun _ hmem _ => hmem⟩
    | cons j pending => exact block_ok h htask
  | revoked r =>
    refine ⟨h, Later.refl _, fun token hmem => ⟨hmem, fun huser hvalid => ?_⟩⟩
    exact (htask token hmem huser hvalid).resolve_right fun ⟨_, hnone, _⟩ =>
      absurd hnone List.not_mem_nil
  | returned r result before => exact ⟨h, Later.refl _, htask⟩
  | done => exact ⟨h, Later.refl _, trivial⟩

/-- Who issues a token in a step, and for which user. -/
theorem act_issued (task : Task) : (task.act d st).1.issued = st.issued ∨
    ∃ tenantID userID, (task = .login tenantID userID ∨ task = .refresh tenantID userID) ∧
      (task.act d st).1.issued = st.sign d tenantID userID :: st.issued := by
  cases task with
  | login tenantID userID => exact Or.inr ⟨tenantID, userID, Or.inl rfl, rfl⟩
  | refresh tenantID userID => exact Or.inr ⟨tenantID, userID, Or.inr rfl, rfl⟩
  | writeJTI sessionID jti expiresIn =>
    simp only [Task.act]
    split_ifs
    · exact Or.inl rfl
    · exact Or.inl rfl
  | blocking r pending =>
    cases pending with
    | nil => exact Or.inl rfl
    | cons j pending =>
      simp only [Task.act]
      split_ifs
      · exact Or.inl rfl
      · exact Or.inl rfl
  | _ => exact Or.inl rfl

/-- No revocation of its user is under way where a token is issued. -/
theorem not_revoking_of_issued {p : Threads Store Task} {thread t : Nat} {token : AccessToken}
    (hok : TaskListed p (p.task thread))
    (hmem : token ∈ ((p.task thread).act d p.store).1.issued)
    (hrevoking : (p.task t).revoking token.tenantID token.userID) : token ∈ p.store.issued := by
  rcases @act_issued p.store d (p.task thread) with
    hsame | ⟨tenantID, userID, htask, hissued⟩
  · exact hsame ▸ hmem
  · rw [hissued] at hmem
    rcases List.mem_cons.mp hmem with rfl | hmem
    · rcases htask with hlogin | hrefresh
      · rw [hlogin] at hok
        exact absurd hrevoking (hok t)
      · rw [hrefresh] at hok
        exact absurd hrevoking (hok t)
    · exact hmem

theorem Keeps.step {p : Threads Store Task} (h : Keeps p) {e : Step} (hfresh : FreshDraw p e)
    (hok : AllListed p e) : Keeps (step p e) := by
  cases e with
  | act thread d =>
    obtain ⟨hknown, hlater, htask⟩ := act_keeps h.store (h.tasks thread) hfresh hok
    refine ⟨hknown, fun t => ?_⟩
    by_cases ht : t = thread
    · subst ht
      show TaskOk _ ((p.put t _).task t)
      rw [Threads.put_task_self]
      exact htask
    · show TaskOk _ ((p.put thread _).task t)
      rw [Threads.put_task_of_ne p _ ht]
      exact (h.tasks t).later hlater fun _ => not_revoking_of_issued hok
  | tick nanoseconds =>
    have hlater : Later p.store { p.store with clock := p.store.clock + nanoseconds } :=
      ⟨fun _ hmem => hmem, Int.ofNat_le.mpr (Nat.le_add_right _ _), fun _ _ _ hblocked => hblocked⟩
    exact ⟨⟨h.store.nodup, h.store.named, h.store.rows⟩,
      fun t => (h.tasks t).later hlater fun _ hmem _ => hmem⟩
  | cleanup =>
    have hlater : Later p.store { p.store with
        blocklist := p.store.blocklist.cleanupExpired p.store.now } :=
      ⟨fun _ hmem => hmem, le_refl _, fun _ _ hvalid hblocked => blocked_cleanup hblocked hvalid⟩
    exact ⟨⟨h.store.nodup, h.store.named, h.store.rows⟩,
      fun t => (h.tasks t).later hlater fun _ hmem _ => hmem⟩

theorem Keeps.tokensBlocked {p : Threads Store Task} (h : Keeps p) : TokensBlocked p := by
  intro t r result before htask token hmem huser hvalid
  have hreturned := h.tasks t
  rw [htask] at hreturned
  obtain ⟨hissued, hblocked⟩ := hreturned token hmem
  exact isRevoked_of_blocked (hblocked huser hvalid) (h.store.named token hissued) hvalid

theorem start_keeps (requests : Nat → Request) : Keeps (start requests) := by
  refine ⟨⟨List.nodup_nil, fun _ hmem => absurd hmem List.not_mem_nil,
    fun _ hmem => absurd hmem List.not_mem_nil⟩, fun t => ?_⟩
  show TaskOk _ (requests t).task
  cases requests t <;> trivial

end Requests

/-- **Tokens are blocked** in a run in which every revocation finds each token of its user listed.
-/
theorem revoked_tokens_blocked (requests : Nat → Request) {steps : List Step}
    (hfresh : StepsOk step FreshDraw (start requests) steps)
    (hok : StepsOk step AllListed (start requests) steps) :
    ∀ p ∈ states step (start requests) steps, TokensBlocked p := by
  have hkeeps : ∀ p ∈ states step (start requests) steps, Keeps p :=
    invariant_states (fun _ _ h hok => Keeps.step h hok.1 hok.2) (start_keeps requests)
      (hfresh.and hok)
  exact fun p hp => (hkeeps p hp).tokensBlocked

end JtiRevocation

namespace Sample

open JtiRevocation

/-- A login, a refresh, and a revocation. -/
def loginAndRefresh : Nat → Request
  | 0 => .login 1 7
  | 1 => .refresh 1 7
  | _ => .revokeUser 1 7

def loginSteps : List Step := [.act 0 ⟨1, 0⟩, .act 0 ⟨0, 50⟩]

def refreshSteps : List Step := [.act 1 ⟨2, 0⟩]

def revokeSteps : List Step := List.replicate 4 (.act 2 ⟨0, 0⟩)

/-- The token of the refresh. -/
def refreshed : AccessToken := ⟨1, 7, UUID.string 2, 900⟩

end Sample

open Sample JtiRevocation in
/-- The token of a refresh is in no session, and a revocation does not block it. -/
theorem refreshed_token_survives :
    (run step (start loginAndRefresh)
      (loginSteps ++ refreshSteps ++ revokeSteps)).store.blocklist.isRevoked refreshed.jti =
        false ∧
    ¬ ∀ p ∈ states step (start loginAndRefresh) (loginSteps ++ refreshSteps ++ revokeSteps),
      TokensBlocked p := by
  have hfree : (run step (start loginAndRefresh)
      (loginSteps ++ refreshSteps ++ revokeSteps)).store.blocklist.isRevoked refreshed.jti =
        false := by decide
  have hvalid : refreshed.unexpired 0 := by
    show (0 : Int) < 900 * second
    decide
  refine ⟨hfree, fun hall => ?_⟩
  have hblocked := hall _ (run_mem_states _ _) 2 _ _ _ rfl refreshed List.mem_cons_self ⟨rfl, rfl⟩
    hvalid
  exact absurd (hblocked.symm.trans hfree) (by decide)

open Sample JtiRevocation in
/-- A login and a revocation. -/
theorem revoked_tokens_blocked_sample :
    TokensBlocked (run step (start loginAndRefresh) (loginSteps ++ revokeSteps)) := by
  refine revoked_tokens_blocked loginAndRefresh ?_ ?_ _ (run_mem_states _ _)
  · refine ⟨?_, ?_, ?_, ?_, ?_, ?_, trivial⟩
    all_goals
      simp only [FreshDraw]
      decide
  · refine ⟨fun t => ?_, trivial, ?_, trivial, trivial, trivial, trivial⟩
    · show ¬ (loginAndRefresh t).task.revoking 1 7
      rcases t with _ | _ | t <;> exact id
    · intro token hmem _ _
      rw [List.mem_singleton.mp hmem]
      exact Or.inr ⟨_, List.mem_singleton_self _, rfl, rfl⟩

end Ggid.Auth
