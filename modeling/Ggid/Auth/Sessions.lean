import Ggid.Go.Value
import Ggid.Lib.Listing
import Ggid.Lib.Selection
import Ggid.Lib.Table

/-!
# Auth service — sessions

`SessionRepository` and `RefreshTokenRepository`, statement by statement, over the two tables they
write; and the two limits on the sessions of a user, `AuthService.EnforceSessionLimit` and the
query `RevokeOldestForUser`.

* `leavesMostRecent_enforce`      — the service keeps the sessions created last;
* `leavesMostRecent_revokeOldest_iff` — the query keeps those created first;
* `session_limits_agree_iff`      — when the two keep the same.
-/

namespace Ggid.Auth

open Ggid.Go Ggid.Lib

-- ---------------------------------------------------------------------------
-- Records
-- ---------------------------------------------------------------------------

/-- A row of `sessions`. -/
structure Session where
  id        : UUID
  tenantID  : UUID
  userID    : UUID
  expiresAt : Time
  revokedAt : Option Time
  createdAt : Time
  jti       : Option String
  tokenExp  : Option Time
  deriving DecidableEq

/-- A row of `refresh_tokens`. -/
structure RefreshToken where
  id        : UUID
  tenantID  : UUID
  userID    : UUID
  sessionID : UUID
  tokenHash : String
  expiresAt : Time
  revokedAt : Option Time
  deriving DecidableEq

abbrev SessionTable := Table Session.id

abbrev RefreshTokenTable := Table RefreshToken.id

namespace Session

def withRevokedAt (now : Time) (s : Session) : Session := { s with revokedAt := some now }

@[simp] theorem id_withRevokedAt (now : Time) (s : Session) : (s.withRevokedAt now).id = s.id := rfl

def withJTI (jti : String) (tokenExp : Time) (s : Session) : Session :=
  { s with jti := some jti, tokenExp := some tokenExp }

/-- `IsActive`. -/
def active (now : Time) (s : Session) : Bool := s.revokedAt.isNone && now < s.expiresAt

def ofUser (tenantID userID : UUID) (s : Session) : Bool :=
  s.tenantID = tenantID && s.userID = userID

/-- The rows the queries about a user are about. -/
def standing (tenantID userID : UUID) (s : Session) : Bool :=
  s.ofUser tenantID userID && s.revokedAt.isNone

end Session

namespace RefreshToken

def withRevokedAt (now : Time) (t : RefreshToken) : RefreshToken := { t with revokedAt := some now }

@[simp] theorem id_withRevokedAt (now : Time) (t : RefreshToken) : (t.withRevokedAt now).id = t.id :=
  rfl

end RefreshToken

-- ---------------------------------------------------------------------------
-- The repositories
-- ---------------------------------------------------------------------------

namespace SessionTable

/-- `Create`, with the column defaults. -/
def create (t : SessionTable) (now : Time) (id tenantID userID : UUID) (expiresAt : Time) :
    Option SessionTable :=
  t.insert? ⟨id, tenantID, userID, expiresAt, none, now, none, none⟩

def listByUser (t : SessionTable) (tenantID userID : UUID) : List Session :=
  orderedBy (OrderDual.toDual ∘ Session.createdAt)
    (t.rows.filter (Session.standing tenantID userID))

def revoke (t : SessionTable) (now : Time) (id : UUID) : SessionTable :=
  t.update (fun s => s.id = id) (Session.withRevokedAt now) fun _ => rfl

def revokeAllForUser (t : SessionTable) (now : Time) (tenantID userID exceptID : UUID) :
    SessionTable :=
  t.update (fun s => s.standing tenantID userID && s.id ≠ exceptID) (Session.withRevokedAt now)
    fun _ => rfl

/-- `ORDER BY created_at ASC`. -/
def oldestFirst (t : SessionTable) (tenantID userID : UUID) : List Session :=
  orderedBy Session.createdAt (t.rows.filter (Session.standing tenantID userID))

def revokeOldestForUser (t : SessionTable) (now : Time) (tenantID userID : UUID)
    (keepCount : Nat) : SessionTable :=
  t.update (fun s => (((t.oldestFirst tenantID userID).drop keepCount).map Session.id).contains s.id)
    (Session.withRevokedAt now) fun _ => rfl

def updateJTI (t : SessionTable) (id : UUID) (jti : String) (tokenExp : Time) : SessionTable :=
  t.update (fun s => s.id = id) (Session.withJTI jti tokenExp) fun _ => rfl

end SessionTable

namespace RefreshTokenTable

def findByHash (t : RefreshTokenTable) (tokenHash : String) : Option RefreshToken :=
  t.rows.find? fun token => token.tokenHash = tokenHash

def revoke (t : RefreshTokenTable) (now : Time) (id : UUID) : RefreshTokenTable :=
  t.update (fun token => token.id = id) (RefreshToken.withRevokedAt now) fun _ => rfl

/-- `ConsumeRefreshToken`: the rows it returns, and the table. -/
def consume (t : RefreshTokenTable) (now : Time) (tokenHash : String) :
    RefreshTokenTable × List RefreshToken :=
  let hit := fun token : RefreshToken => token.tokenHash = tokenHash && token.revokedAt.isNone
  (t.update hit (RefreshToken.withRevokedAt now) fun _ => rfl,
    (t.rows.filter hit).map (RefreshToken.withRevokedAt now))

def revokeAllForSession (t : RefreshTokenTable) (now : Time) (sessionID : UUID) :
    RefreshTokenTable :=
  t.update (fun token => token.sessionID = sessionID) (RefreshToken.withRevokedAt now) fun _ => rfl

def revokeAllForUser (t : RefreshTokenTable) (now : Time) (tenantID userID : UUID) :
    RefreshTokenTable :=
  t.update (fun token => token.tenantID = tenantID && token.userID = userID &&
    token.revokedAt.isNone) (RefreshToken.withRevokedAt now) fun _ => rfl

end RefreshTokenTable

/-- What the auth service keeps about sessions. -/
structure SessionStore where
  sessions : SessionTable
  tokens   : RefreshTokenTable

namespace SessionStore

/-- `sessionService.Revoke`, then `tokenService.RevokeAllForSession`. -/
def revokeWithTokens (now : Time) (st : SessionStore) (s : Session) : SessionStore where
  sessions := st.sessions.revoke now s.id
  tokens := st.tokens.revokeAllForSession now s.id

/-- `AuthService.EnforceSessionLimit`. -/
def enforceSessionLimit (st : SessionStore) (maxSessions : Int) (now : Time)
    (tenantID userID : UUID) : SessionStore :=
  if maxSessions ≤ 0 then st
  else
    let active := (st.sessions.listByUser tenantID userID).filter (Session.active now)
    if (active.length : Int) ≤ maxSessions then st
    else
      let excess := (active.length - maxSessions).toNat
      (selectLeast Session.createdAt excess active).1.foldl (revokeWithTokens now) st

/-- `SessionService.EnforceSessionLimit`. -/
def enforceKeepCount (st : SessionStore) (keepCount : Nat) (now : Time)
    (tenantID userID : UUID) : SessionStore :=
  { st with sessions := st.sessions.revokeOldestForUser now tenantID userID keepCount }

end SessionStore

-- ---------------------------------------------------------------------------
-- What a limit leaves
-- ---------------------------------------------------------------------------

section Limits

variable {t t' : SessionTable} {now : Time} {tenantID userID : UUID} {k : Nat}

def activeSessions (t : SessionTable) (now : Time) (tenantID userID : UUID) : List Session :=
  t.rows.filter fun s => s.ofUser tenantID userID && s.active now

/-- Of the active sessions `k` are left, or all; none that is left was created before one that is
not. -/
structure LeavesMostRecent (t t' : SessionTable) (now : Time) (tenantID userID : UUID)
    (k : Nat) : Prop where
  subset : ∀ s ∈ activeSessions t' now tenantID userID, s ∈ activeSessions t now tenantID userID
  count  : (activeSessions t' now tenantID userID).length =
    min k (activeSessions t now tenantID userID).length
  recent : ∀ s ∈ activeSessions t now tenantID userID,
    s ∉ activeSessions t' now tenantID userID →
      ∀ s' ∈ activeSessions t' now tenantID userID, s.createdAt ≤ s'.createdAt

/-- Some of the sessions are revoked. -/
def revokeListed (t : SessionTable) (now : Time) (out : List Session) : SessionTable :=
  t.update (fun s => (out.map Session.id).contains s.id) (Session.withRevokedAt now) fun _ => rfl

/-- One session after the other. -/
theorem foldl_revokeWithTokens (out : List Session) (st : SessionStore) :
    (out.foldl (SessionStore.revokeWithTokens now) st).sessions =
      revokeListed st.sessions now out := by
  induction out generalizing st with
  | nil =>
    apply Table.ext
    simp [revokeListed, Table.update]
  | cons s out ih =>
    rw [List.foldl_cons, ih]
    apply Table.ext
    simp only [revokeListed, SessionStore.revokeWithTokens, SessionTable.revoke, Table.update,
      List.map_map]
    refine List.map_congr_left fun row _ => ?_
    simp only [Function.comp_apply, List.map_cons, List.contains_cons, decide_eq_true_eq]
    by_cases hrow : row.id = s.id
    · simp [hrow, Session.withRevokedAt]
    · simp [hrow]

theorem mem_map_id_iff {out : List Session} (hout : ∀ s ∈ out, s ∈ t) {s : Session} (hs : s ∈ t) :
    s.id ∈ out.map Session.id ↔ s ∈ out := by
  constructor
  · intro hmem
    obtain ⟨s', hs', hid⟩ := List.mem_map.mp hmem
    rwa [← t.eq_of_key (hout s' hs') hs hid]
  · exact fun hmem => List.mem_map_of_mem hmem

/-- What is active afterwards was, and is not among the revoked. -/
theorem activeSessions_revokeListed {out : List Session} (hout : ∀ s ∈ out, s ∈ t) :
    activeSessions (revokeListed t now out) now tenantID userID =
      (activeSessions t now tenantID userID).filter fun s => s ∉ out := by
  unfold activeSessions revokeListed Table.update
  rw [List.filter_map, List.filter_filter]
  have hsame : ∀ row ∈ t.rows, row.id ∉ out.map Session.id →
      (if (out.map Session.id).contains row.id = true then row.withRevokedAt now else row) =
        row := fun row _ h => if_neg (List.contains_iff_mem.not.mpr h)
  have hkeeps : ∀ row ∈ t.rows, ((fun s : Session => s.ofUser tenantID userID && s.active now) ∘
      fun row => if (out.map Session.id).contains row.id = true then row.withRevokedAt now
        else row) row = (decide (row ∉ out) && (row.ofUser tenantID userID && row.active now)) := by
    intro row hrow
    simp only [Function.comp_apply]
    by_cases hmem : row ∈ out
    · have hid := (mem_map_id_iff hout hrow).mpr hmem
      simp [hid, hmem, Session.withRevokedAt, Session.active]
    · have hid := (mem_map_id_iff hout hrow).not.mpr hmem
      rw [hsame row hrow hid]
      simp [hmem]
  rw [List.filter_congr hkeeps]
  refine (List.map_congr_left fun row hrow => ?_).trans (List.map_id _)
  obtain ⟨hrow, hkept⟩ := List.mem_filter.mp hrow
  rw [Bool.and_eq_true, decide_eq_true_eq] at hkept
  exact hsame row hrow ((mem_map_id_iff hout hrow).not.mpr hkept.1)

/-- Revoking some of the sessions, as a condition on the list of the others. -/
theorem leavesMostRecent_revokeListed {out kept : List Session} (hout : ∀ s ∈ out, s ∈ t)
    (hkept : ((activeSessions t now tenantID userID).filter fun s => s ∉ out).Perm kept) :
    LeavesMostRecent t (revokeListed t now out) now tenantID userID k ↔
      kept.length = min k (activeSessions t now tenantID userID).length ∧
        ∀ s ∈ out, s ∈ activeSessions t now tenantID userID →
          ∀ s' ∈ kept, s.createdAt ≤ s'.createdAt := by
  have hafter : activeSessions (revokeListed t now out) now tenantID userID =
      (activeSessions t now tenantID userID).filter fun s => s ∉ out :=
    activeSessions_revokeListed hout
  constructor
  · rintro ⟨-, hcount, hrecent⟩
    rw [hafter] at hcount hrecent
    refine ⟨hkept.length_eq.symm.trans hcount, fun s hs hactive s' hs' => ?_⟩
    exact hrecent s hactive (fun h => by simp [hs] at h) s' (hkept.mem_iff.mpr hs')
  · rintro ⟨hcount, hrecent⟩
    constructor <;> rw [hafter]
    · exact fun s hs => (List.mem_filter.mp hs).1
    · rw [hkept.length_eq, hcount]
    · intro s hs hgone s' hs'
      have hmem : s ∈ out := by
        by_contra hmem
        exact hgone (List.mem_filter.mpr ⟨hs, by simp [hmem]⟩)
      exact hrecent s hmem hs s' (hkept.mem_iff.mp hs')

-- ---------------------------------------------------------------------------
-- The two limits
-- ---------------------------------------------------------------------------

theorem filter_standing_active (rows : List Session) :
    (rows.filter (Session.standing tenantID userID)).filter (Session.active now) =
      rows.filter fun s => s.ofUser tenantID userID && s.active now := by
  rw [List.filter_filter]
  refine List.filter_congr fun s _ => ?_
  unfold Session.standing Session.active
  cases s.ofUser tenantID userID <;> cases s.revokedAt.isNone <;> simp

theorem activeSessions_nodup : (activeSessions t now tenantID userID).Nodup :=
  (List.Nodup.of_map _ t.nodup).filter _

theorem listByUser_active_perm :
    ((t.listByUser tenantID userID).filter (Session.active now)).Perm
      (activeSessions t now tenantID userID) := by
  unfold activeSessions SessionTable.listByUser
  rw [← filter_standing_active]
  exact (orderedBy_perm _ _).filter _

theorem oldestFirst_active_perm :
    ((t.oldestFirst tenantID userID).filter (Session.active now)).Perm
      (activeSessions t now tenantID userID) := by
  unfold activeSessions SessionTable.oldestFirst
  rw [← filter_standing_active]
  exact (orderedBy_perm _ _).filter _

theorem mem_of_mem_oldestFirst {s : Session} (h : s ∈ t.oldestFirst tenantID userID) : s ∈ t := by
  rw [SessionTable.oldestFirst, mem_orderedBy] at h
  exact (List.mem_filter.mp h).1

theorem oldestFirst_nodup : (t.oldestFirst tenantID userID).Nodup :=
  (orderedBy_perm _ _).nodup_iff.mpr ((List.Nodup.of_map _ t.nodup).filter _)

/-- The first part of a list without duplicates is what is not in the second. -/
theorem filter_not_mem_append {kept out : List Session} (h : (kept ++ out).Nodup) :
    ((kept ++ out).filter fun s => s ∉ out) = kept := by
  rw [List.filter_append]
  have hout : out.filter (fun s => s ∉ out) = [] :=
    List.filter_eq_nil_iff.mpr fun s hs => by simp [hs]
  have hkept : kept.filter (fun s => s ∉ out) = kept := by
    rw [List.filter_eq_self]
    intro s hs
    rw [decide_eq_true_eq]
    exact fun hmem => (List.nodup_append.mp h).2.2 s hs s hmem rfl
  rw [hout, hkept, List.append_nil]

/-- **The service** takes out the sessions created first. -/
theorem leavesMostRecent_enforce (st : SessionStore) (now : Time) (tenantID userID : UUID)
    {k : Nat} (hk : 1 ≤ k) : LeavesMostRecent st.sessions
      (st.enforceSessionLimit k now tenantID userID).sessions now tenantID userID k := by
  have hperm : ((st.sessions.listByUser tenantID userID).filter (Session.active now)).Perm
      (activeSessions st.sessions now tenantID userID) := listByUser_active_perm
  unfold SessionStore.enforceSessionLimit
  simp only
  rw [if_neg (by omega)]
  by_cases hfew : ((((st.sessions.listByUser tenantID userID).filter
      (Session.active now)).length : Nat) : Int) ≤ (k : Int)
  · rw [if_pos hfew]
    rw [hperm.length_eq] at hfew
    refine ⟨fun s hs => hs, ?_, fun s hs hgone => absurd hs hgone⟩
    exact (Nat.min_eq_right (by omega)).symm
  rw [if_neg hfew, foldl_revokeWithTokens]
  generalize (st.sessions.listByUser tenantID userID).filter (Session.active now) = active at *
  obtain ⟨hselect, hlength, hleast⟩ :=
    selectLeast_spec Session.createdAt (active.length - (k : Int)).toNat active
  generalize selectLeast Session.createdAt (active.length - (k : Int)).toNat active = picked at *
  have hall : (picked.2 ++ picked.1).Perm (activeSessions st.sessions now tenantID userID) :=
    List.perm_append_comm.trans (hselect.trans hperm)
  have hnodup : (picked.2 ++ picked.1).Nodup := hall.nodup_iff.mpr activeSessions_nodup
  have hout : ∀ s ∈ picked.1, s ∈ st.sessions := fun s hs =>
    (List.mem_filter.mp (hall.subset (List.mem_append_right _ hs))).1
  have hkept : ((activeSessions st.sessions now tenantID userID).filter
      fun s => s ∉ picked.1).Perm picked.2 := by
    rw [← filter_not_mem_append hnodup]
    exact hall.symm.filter _
  refine (leavesMostRecent_revokeListed hout hkept).mpr ⟨?_, ?_⟩
  · have hcount := hselect.length_eq
    rw [List.length_append] at hcount
    rw [← hperm.length_eq]
    omega
  · exact fun s hs _ s' hs' => hleast s hs s' hs'

/-- The `k` sessions created first are enough: every active one is among them, or they are active,
and all active ones were created at one time. -/
def OldestSuffice (t : SessionTable) (now : Time) (tenantID userID : UUID) (k : Nat) : Prop :=
  (∀ s ∈ (t.oldestFirst tenantID userID).drop k, s.active now = false) ∨
    ((∀ s ∈ (t.oldestFirst tenantID userID).take k, s.active now = true) ∧
      ∀ s ∈ activeSessions t now tenantID userID, ∀ s' ∈ activeSessions t now tenantID userID,
        s.createdAt = s'.createdAt)

/-- **The query** takes out the sessions created last. -/
theorem leavesMostRecent_revokeOldest_iff (st : SessionStore) (now : Time) (tenantID userID : UUID)
    {k : Nat} (hk : 1 ≤ k) : LeavesMostRecent st.sessions
      (st.enforceKeepCount k now tenantID userID).sessions now tenantID userID k ↔
        OldestSuffice st.sessions now tenantID userID k := by
  have hperm : ((st.sessions.oldestFirst tenantID userID).filter (Session.active now)).Perm
      (activeSessions st.sessions now tenantID userID) := oldestFirst_active_perm
  have hnodup : (st.sessions.oldestFirst tenantID userID).Nodup := oldestFirst_nodup
  have hsorted : (st.sessions.oldestFirst tenantID userID).Pairwise
      fun a b => a.createdAt ≤ b.createdAt := orderedBy_pairwise _ _
  have hmem : ∀ s ∈ (st.sessions.oldestFirst tenantID userID).drop k, s ∈ st.sessions :=
    fun s hs => mem_of_mem_oldestFirst (List.mem_of_mem_drop hs)
  have hrevoke : (st.enforceKeepCount k now tenantID userID).sessions =
      revokeListed st.sessions now ((st.sessions.oldestFirst tenantID userID).drop k) := rfl
  unfold OldestSuffice
  rw [hrevoke]
  generalize st.sessions.oldestFirst tenantID userID = listing at *
  have hkept : ((activeSessions st.sessions now tenantID userID).filter
      fun s => s ∉ listing.drop k).Perm ((listing.take k).filter (Session.active now)) := by
    have hsplit := List.take_append_drop k listing
    have hrest := filter_not_mem_append (hsplit.symm ▸ hnodup)
    rw [hsplit] at hrest
    have hfilter := hperm.symm.filter fun s => s ∉ listing.drop k
    rwa [List.filter_comm, hrest] at hfilter
  rw [leavesMostRecent_revokeListed hmem hkept, ← hperm.length_eq]
  have hactive : ∀ s ∈ listing.drop k, s ∈ activeSessions st.sessions now tenantID userID ↔
      s.active now = true := by
    intro s hs
    rw [← hperm.mem_iff, List.mem_filter, and_iff_right (List.mem_of_mem_drop hs)]
  have hlist := keepFirst_iff (p := Session.active now) hk hsorted
  simp only [← hperm.mem_iff]
  rw [← hlist]
  refine and_congr_right fun _ => forall_congr' fun s => forall_congr' fun hs => ?_
  rw [hperm.mem_iff, hactive s hs]

/-- The session created last stays. -/
theorem LeavesMostRecent.keeps_newest (h : LeavesMostRecent t t' now tenantID userID k)
    (hk : 1 ≤ k) {s : Session} (hs : s ∈ activeSessions t now tenantID userID)
    (hnewest : ∀ s' ∈ activeSessions t now tenantID userID, s' ≠ s → s'.createdAt < s.createdAt) :
    s ∈ activeSessions t' now tenantID userID := by
  by_contra hgone
  have hpos := List.length_pos_of_mem hs
  obtain ⟨s', hs'⟩ := List.exists_mem_of_length_pos
    (show 0 < (activeSessions t' now tenantID userID).length by rw [h.count]; omega)
  have hne : s' ≠ s := fun heq => hgone (heq ▸ hs')
  exact absurd (h.recent s hs hgone s' hs') (not_le.mpr (hnewest s' (h.subset s' hs') hne))

/-- **The two limits** leave the sessions created last exactly where the oldest are enough. -/
theorem session_limits_agree_iff (st : SessionStore) (now : Time) (tenantID userID : UUID)
    {k : Nat} (hk : 1 ≤ k) :
    (LeavesMostRecent st.sessions (st.enforceSessionLimit k now tenantID userID).sessions now
        tenantID userID k ∧
      LeavesMostRecent st.sessions (st.enforceKeepCount k now tenantID userID).sessions now
        tenantID userID k) ↔ OldestSuffice st.sessions now tenantID userID k := by
  rw [and_iff_right (leavesMostRecent_enforce st now tenantID userID hk)]
  exact leavesMostRecent_revokeOldest_iff st now tenantID userID hk

end Limits

namespace Sample

/-- A session of the user 7 that was created at the time of its number. -/
def session (id : UUID) : Session := ⟨id, 1, 7, 100, none, id.toNat, none, none⟩

def twoSessions : SessionStore := ⟨⟨[session 1, session 2], by decide⟩, Table.empty⟩

end Sample

open Sample in
/-- With a cap of one, the service ends the older session, and the query the one just created. -/
theorem newest_revoked :
    activeSessions (twoSessions.enforceSessionLimit 1 10 1 7).sessions 10 1 7 = [session 2] ∧
    activeSessions (twoSessions.enforceKeepCount 1 10 1 7).sessions 10 1 7 = [session 1] ∧
    ¬ LeavesMostRecent twoSessions.sessions (twoSessions.enforceKeepCount 1 10 1 7).sessions 10 1 7
      1 := by
  have hquery : activeSessions (twoSessions.enforceKeepCount 1 10 1 7).sessions 10 1 7 =
      [session 1] := by decide
  have hbefore : activeSessions twoSessions.sessions 10 1 7 = [session 1, session 2] := by decide
  refine ⟨by decide, hquery, fun h => ?_⟩
  have hkept := h.keeps_newest (le_refl 1) (s := session 2) (by rw [hbefore]; simp) (by
    rw [hbefore]
    decide)
  rw [hquery] at hkept
  exact absurd hkept (by decide)

open Sample in
/-- With a cap of two, both stay. -/
theorem session_limits_agree_iff_sample :
    LeavesMostRecent twoSessions.sessions (twoSessions.enforceSessionLimit 2 10 1 7).sessions 10 1 7
        2 ∧
      LeavesMostRecent twoSessions.sessions (twoSessions.enforceKeepCount 2 10 1 7).sessions 10 1 7
        2 := by
  have hnone : (twoSessions.sessions.oldestFirst 1 7).drop 2 = [] := by decide
  refine (session_limits_agree_iff twoSessions 10 1 7 (by decide)).mpr (.inl ?_)
  rw [hnone]
  simp

end Ggid.Auth
