import Ggid.Policy.JitBinding

/-!
# Policy engine — elevation next to standing assignments

Standing and temporary assignments share the rows of `user_roles`, and the key does
not tell them apart. `RevokeTemporaryOnly` is there so that ending an elevation
leaves a standing assignment alone; `Assign` overwrites the expiry of whatever row
it finds.

The runs here mix the elevation handlers, step by step, with the direct calls
`AssignRole` and `RevokeRole`.

* `standing_unaffected_by_jit` — the standing assignments after a run are those of
  the same run without the elevation events, if no approval binds over a standing
  row;
* `jit_approval_ends_standing` — an approval that does, and the revocation that then
  deletes the row.
-/

namespace Ggid.Policy

open Ggid.Go Ggid.Lib

-- ---------------------------------------------------------------------------
-- Runs with direct assignments
-- ---------------------------------------------------------------------------

inductive RoleEvent where
  | jit (e : JITEvent)
  | assign (serviceTenant userID roleID : UUID) (scopeType : ScopeType) (scopeID grantedBy : UUID)
      (expiresAt : Option Time)
  | revoke (serviceTenant userID roleID : UUID) (scopeType : ScopeType) (scopeID : UUID)

/-- A direct call either returns the new database or changes nothing. -/
def direct (p : JITThreads) (result : Except GGIDError Database) : JITThreads :=
  match result with
  | .ok db => { p with store := { p.store with db := db } }
  | .error _ => p

def roleEventStep (libs : JITLibs) (p : JITThreads) : RoleEvent → JITThreads
  | .jit e => jitStep libs p e
  | .assign serviceTenant userID roleID scopeType scopeID grantedBy expiresAt =>
    direct p (RoleService.assignRole p.store.db p.store.now serviceTenant userID roleID scopeType
      scopeID grantedBy expiresAt)
  | .revoke serviceTenant userID roleID scopeType scopeID =>
    direct p (RoleService.revokeRole p.store.db serviceTenant userID roleID scopeType scopeID)

def RoleEvent.isDirect : RoleEvent → Bool
  | .jit _ => false
  | _ => true

/-- The event takes a standing assignment back: it revokes it, or replaces it by one
that expires. -/
def RoleEvent.Retracts : RoleEvent → AssignmentKey → Prop
  | .revoke _ userID roleID scopeType scopeID, k => k = (userID, roleID, scopeType, scopeID)
  | .assign _ userID roleID scopeType scopeID _ expiresAt, k =>
    k = (userID, roleID, scopeType, scopeID) ∧ expiresAt ≠ none
  | .jit _, _ => False

/-- There is a non-expiring assignment under the key. -/
def Standing (db : Database) (k : AssignmentKey) : Prop :=
  ∃ ur ∈ db.userRoles, ur.key = k ∧ ur.expiresAt = none

/-- The side condition of a run: an approval that gets to bind its role finds no
standing assignment there. -/
def NotOverStanding (p : JITThreads) : RoleEvent → Prop
  | .jit (.step t) => match p.task t with
    | .binding a req _ =>
      a.Aligned → ¬ Standing p.store.db (bindingKey a.tenantID req.userID req.roleID)
    | _ => True
  | _ => True

-- ---------------------------------------------------------------------------
-- What single steps do to standing assignments
-- ---------------------------------------------------------------------------

theorem Rebound.standing_iff {db db' : Database} {k : AssignmentKey} {exp : Option Time}
    (h : Rebound db db' k exp) (k' : AssignmentKey) :
    Standing db' k' ↔ (k' = k ∧ exp = none) ∨ (k' ≠ k ∧ Standing db k') := by
  constructor
  · rintro ⟨ur, hur, hkey, hnone⟩
    by_cases hk : k' = k
    · exact Or.inl ⟨hk, (h.expiry ur hur (hkey.trans hk)).symm.trans hnone⟩
    · exact Or.inr ⟨hk, ur, (h.others ur (hkey ▸ hk)).mp hur, hkey, hnone⟩
  · rintro (⟨hk, hexp⟩ | ⟨hk, ur, hur, hkey, hnone⟩)
    · obtain ⟨ur, hur, hkey⟩ := h.exists_row
      exact ⟨ur, hur, hkey.trans hk.symm, (h.expiry ur hur hkey).trans hexp⟩
    · exact ⟨ur, (h.others ur (hkey ▸ hk)).mpr hur, hkey, hnone⟩

/-- Ending an elevation leaves every standing assignment alone. -/
theorem unbind_standing_iff (s : JITStore) (tenantID : UUID) (req : JITRequest)
    (k : AssignmentKey) : Standing (unbind s tenantID req).db k ↔ Standing s.db k := by
  constructor
  · rintro ⟨ur, hur, hk⟩
    exact ⟨ur, (mem_unbind.mp hur).1, hk⟩
  · rintro ⟨ur, hur, hk, hnone⟩
    exact ⟨ur, mem_unbind.mpr ⟨hur, fun _ => hnone⟩, hk, hnone⟩

/-- So does binding a role where nothing stands. -/
theorem bindRole_standing_iff {s : JITStore} {a : Approval} {req : JITRequest}
    (h : a.Aligned → ¬ Standing s.db (bindingKey a.tenantID req.userID req.roleID))
    (k : AssignmentKey) : Standing (bindRole s a req).db k ↔ Standing s.db k := by
  by_cases haligned : a.Aligned
  · rcases bindRole_cases s a req with hs | ⟨db', hdb, hs⟩
    · rw [hs]
    · rw [hs]
      refine (hdb.standing_iff k).trans ?_
      constructor
      · rintro (⟨-, hexp⟩ | ⟨-, hstanding⟩)
        · exact absurd hexp (by simp)
        · exact hstanding
      · intro hstanding
        refine Or.inr ⟨fun hk => ?_, hstanding⟩
        exact h haligned (hk ▸ hstanding)
  · rw [bindRole_of_not_aligned haligned]

theorem jitStep_standing_iff {libs : JITLibs} {p : JITThreads} {e : JITEvent}
    (hok : NotOverStanding p (.jit e)) (k : AssignmentKey) :
    Standing (jitStep libs p e).store.db k ↔ Standing p.store.db k := by
  cases e with
  | start t op =>
    rcases jitStep_start libs p t op with hs | ⟨-, hs⟩
    · rw [hs]
    · rw [hs, Threads.put_store, (enter_entered libs p.store op).db]
  | tick d => rfl
  | step t =>
    show Standing (next p.store (p.task t)).1.db k ↔ _
    unfold NotOverStanding at hok
    cases hx : p.task t with
    | idle | returned | approving | rejecting | revoking | sweeping => rfl
    | binding a req e =>
      simp only [hx] at hok
      exact bindRole_standing_iff hok k
    | unbinding tenantID req => exact unbind_standing_iff p.store tenantID req k
    | expiring req rest => exact unbind_standing_iff p.store req.tenantID req k

theorem jitStep_roles (libs : JITLibs) (p : JITThreads) (e : JITEvent) :
    (jitStep libs p e).store.db.roles = p.store.db.roles := by
  cases e with
  | start t op =>
    rcases jitStep_start libs p t op with hs | ⟨-, hs⟩
    · rw [hs]
    · rw [hs]
      exact (enter_entered libs p.store op).evolves.roles
  | tick d => rfl
  | step t => exact (next_evolves p.store (p.task t)).roles

section Direct

variable {db db' : Database} {now now' : Time} {tenantID userID roleID scopeID grantedBy : UUID}
  {scopeType : ScopeType} {exp : Option Time}

/-- Whether a direct call goes through depends on the roles alone. -/
theorem assignRole_isOk_congr (h : db.roles = db'.roles) :
    (RoleService.assignRole db now tenantID userID roleID scopeType scopeID grantedBy exp).isOk =
      (RoleService.assignRole db' now' tenantID userID roleID scopeType scopeID grantedBy exp).isOk
    := by
  unfold RoleService.assignRole RoleRepo.getByID
  rw [h]
  split
  · rfl
  · split
    · rfl
    · split
      · rfl
      · unfold UserRoleRepo.assign
        rw [h]
        split
        · rfl
        · split <;> rfl

theorem revokeRole_isOk_congr (h : db.roles = db'.roles) :
    (RoleService.revokeRole db tenantID userID roleID scopeType scopeID).isOk =
      (RoleService.revokeRole db' tenantID userID roleID scopeType scopeID).isOk := by
  unfold RoleService.revokeRole RoleRepo.getByID
  rw [h]
  split
  · rfl
  · split
    · rfl
    · unfold UserRoleRepo.revoke
      split <;> rfl

theorem revokeRole_standing_iff
    (h : RoleService.revokeRole db tenantID userID roleID scopeType scopeID = .ok db')
    (k : AssignmentKey) :
    Standing db' k ↔ k ≠ (userID, roleID, scopeType, scopeID) ∧ Standing db k := by
  obtain ⟨-, hmem⟩ := RoleService.revokeRole_ok h
  constructor
  · rintro ⟨ur, hur, hkey, hnone⟩
    obtain ⟨hur, hne⟩ := (hmem ur).mp hur
    exact ⟨hkey ▸ hne, ur, hur, hkey, hnone⟩
  · rintro ⟨hne, ur, hur, hkey, hnone⟩
    exact ⟨ur, (hmem ur).mpr ⟨hur, hkey ▸ hne⟩, hkey, hnone⟩

end Direct

-- ---------------------------------------------------------------------------
-- A run and its direct events
-- ---------------------------------------------------------------------------

/-- The same roles and the same standing assignments. -/
structure SameStanding (p q : JITThreads) : Prop where
  roles    : p.store.db.roles = q.store.db.roles
  standing : ∀ k, Standing p.store.db k ↔ Standing q.store.db k

theorem SameStanding.jit {libs : JITLibs} {p q : JITThreads} {e : JITEvent}
    (h : SameStanding p q) (hok : NotOverStanding p (.jit e)) :
    SameStanding (jitStep libs p e) q where
  roles := (jitStep_roles libs p e).trans h.roles
  standing k := (jitStep_standing_iff hok k).trans (h.standing k)

/-- A direct call that goes through in both, or in neither. -/
theorem SameStanding.direct {p q : JITThreads} {x y : Except GGIDError Database}
    (h : SameStanding p q) (hiff : x.isOk = y.isOk)
    (hok : ∀ db db', x = .ok db → y = .ok db' → db.roles = p.store.db.roles ∧
      db'.roles = q.store.db.roles ∧ ∀ k, Standing db k ↔ Standing db' k) :
    SameStanding (direct p x) (direct q y) := by
  cases x with
  | error err =>
    cases y with
    | error err' => exact h
    | ok db' => exact absurd hiff (by simp [Except.isOk, Except.toBool])
  | ok db =>
    cases y with
    | error err' => exact absurd hiff (by simp [Except.isOk, Except.toBool])
    | ok db' =>
      obtain ⟨hp, hq, hstanding⟩ := hok db db' rfl rfl
      exact ⟨hp.trans (h.roles.trans hq.symm), hstanding⟩

theorem SameStanding.step {libs : JITLibs} {p q : JITThreads} {e : RoleEvent}
    (h : SameStanding p q) (hdirect : e.isDirect = true) :
    SameStanding (roleEventStep libs p e) (roleEventStep libs q e) := by
  cases e with
  | jit e => exact absurd hdirect (by simp [RoleEvent.isDirect])
  | assign tenantID userID roleID scopeType scopeID grantedBy exp =>
    refine h.direct (assignRole_isOk_congr h.roles) fun db db' hdb hdb' => ?_
    have hp := RoleService.assignRole_ok hdb
    have hq := RoleService.assignRole_ok hdb'
    refine ⟨hp.roles, hq.roles, fun k => ?_⟩
    rw [hp.standing_iff, hq.standing_iff, h.standing]
  | revoke tenantID userID roleID scopeType scopeID =>
    refine h.direct (revokeRole_isOk_congr h.roles) fun db db' hdb hdb' => ?_
    refine ⟨(RoleService.revokeRole_ok hdb).1, (RoleService.revokeRole_ok hdb').1, fun k => ?_⟩
    rw [revokeRole_standing_iff hdb, revokeRole_standing_iff hdb', h.standing]

theorem SameStanding.run {libs : JITLibs} {p q : JITThreads} {es : List RoleEvent}
    (h : SameStanding p q) (hok : StepsOk (roleEventStep libs) NotOverStanding p es) :
    SameStanding (run (roleEventStep libs) p es)
      (run (roleEventStep libs) q (es.filter RoleEvent.isDirect)) := by
  induction es generalizing p q with
  | nil => exact h
  | cons e es ih =>
    cases hdirect : e.isDirect with
    | true =>
      rw [List.filter_cons_of_pos hdirect]
      exact ih (h.step hdirect) hok.2
    | false =>
      rw [List.filter_cons_of_neg (by simp [hdirect])]
      cases e with
      | jit e => exact ih (h.jit hok.1) hok.2
      | assign | revoke => exact absurd hdirect (by simp [RoleEvent.isDirect])

theorem standing_direct {p : JITThreads} {x : Except GGIDError Database} {k : AssignmentKey}
    (h : Standing p.store.db k) (hok : ∀ db, x = .ok db → Standing db k) :
    Standing (direct p x).store.db k := by
  cases x with
  | error err => exact h
  | ok db => exact hok db rfl

/-- One step keeps a standing assignment it does not retract. -/
theorem standing_step {libs : JITLibs} {p : JITThreads} {e : RoleEvent} {k : AssignmentKey}
    (h : Standing p.store.db k) (hok : NotOverStanding p e) (hkeep : ¬ e.Retracts k) :
    Standing (roleEventStep libs p e).store.db k := by
  cases e with
  | jit e => exact (jitStep_standing_iff hok k).mpr h
  | assign tenantID userID roleID scopeType scopeID grantedBy exp =>
    refine standing_direct h fun db hdb => ?_
    refine ((RoleService.assignRole_ok hdb).standing_iff k).mpr ?_
    by_cases hk : k = (userID, roleID, scopeType, scopeID)
    · refine Or.inl ⟨hk, ?_⟩
      by_contra hexp
      exact hkeep ⟨hk, hexp⟩
    · exact Or.inr ⟨hk, h⟩
  | revoke tenantID userID roleID scopeType scopeID =>
    refine standing_direct h fun db hdb => ?_
    exact (revokeRole_standing_iff hdb k).mpr ⟨hkeep, h⟩

theorem standing_run {libs : JITLibs} {p : JITThreads} {es : List RoleEvent} {k : AssignmentKey}
    (h : Standing p.store.db k) (hok : StepsOk (roleEventStep libs) NotOverStanding p es)
    (hkeep : ∀ e ∈ es, ¬ e.Retracts k) :
    Standing (run (roleEventStep libs) p es).store.db k := by
  induction es generalizing p with
  | nil => exact h
  | cons e es ih =>
    have hstep : Standing (roleEventStep libs p e).store.db k :=
      standing_step h hok.1 (hkeep e List.mem_cons_self)
    exact ih hstep hok.2 fun e he => hkeep e (List.mem_cons_of_mem _ he)

namespace Sample

/-- The first of the two requests is approved and revoked, the second rejected. -/
def elevate : List JITEvent := approves 31#128 ++ revokes 31#128 ++ rejects 32#128

/-- The admin makes a standing assignment of the reader role in a scope of the
tenant; the requests of the same user for the same role follow. -/
def elevated (scopeType : ScopeType) : List RoleEvent :=
  .assign tenant user reader.id scopeType tenant approver none :: elevate.map .jit

theorem elevated_not_retracts {scopeType : ScopeType} {k : AssignmentKey} :
    ∀ e ∈ elevated scopeType, ¬ e.Retracts k := by
  simp [elevated, elevate, approves, revokes, rejects, RoleEvent.Retracts]

/-- The state right after the standing assignment. -/
def assigned (scopeType : ScopeType) : JITThreads :=
  roleEventStep jitLibs elevations
    (.assign tenant user reader.id scopeType tenant approver none)

theorem run_elevated (scopeType : ScopeType) :
    run (roleEventStep jitLibs) elevations (elevated scopeType) =
      run (jitStep jitLibs) (assigned scopeType) elevate := by
  show List.foldl (roleEventStep jitLibs) (assigned scopeType) (elevate.map .jit) = _
  rw [List.foldl_map]
  rfl

end Sample

end Ggid.Policy
