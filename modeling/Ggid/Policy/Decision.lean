import Ggid.Policy.Evaluator

/-!
# Policy engine — the decision

What `Evaluator.Check` decides over the PostgreSQL readers, stated without
queries, loops or accumulators. A role is *effective* for a user when it lies on
the parent chain of a role the user holds an unexpired assignment of; a policy is
*applicable* when it is attached to the user or to an effective role, or is a
tenant policy attached to nobody. The decision is deny-overrides over the
applicable policies, with the permissions of the effective roles as a second
source of grants.

* `mem_getAncestorChain` — the recursive query returns the ancestors;
* `check_spec`           — `Check` never fails and computes the decision;
* `check_eq_reference`   — the decision, its independence of the order the rows
  are stored in, and its monotonicity under new deny policies.
-/

namespace Ggid.Policy

open Ggid.Go Ggid.Lib Relation

-- ---------------------------------------------------------------------------
-- The reference decision
-- ---------------------------------------------------------------------------

/-- `b` is the parent of `a`, both being rows of the role table. -/
def Database.Parent (db : Database) (a b : UUID) : Prop :=
  ∃ r ∈ db.roles, r.id = a ∧ r.parentRoleID = some b ∧ ∃ q ∈ db.roles, q.id = b

/-- An unexpired assignment the tenant's requests count. -/
def Assigned (db : Database) (now : Time) (userID tenantID roleID : UUID) : Prop :=
  ∃ ur ∈ db.userRoles, ur.userID = userID ∧ ur.roleID = roleID ∧ unexpired now ur = true ∧
    ∃ r ∈ db.roles, r.id = roleID ∧ (r.tenantID = tenantID ∨ r.systemRole = true)

def EffectiveRole (db : Database) (now : Time) (userID tenantID roleID : UUID) : Prop :=
  ∃ assigned, Assigned db now userID tenantID assigned ∧
    ReflTransGen db.Parent assigned roleID

/-- A permission the tenant sees, granted to an effective role. -/
def EffectivePermission (db : Database) (now : Time) (req : CheckRequest)
    (perm : Permission) : Prop :=
  perm ∈ db.permissions ∧ (perm.tenantID = req.tenantID ∨ perm.systemPerm = true) ∧
    ∃ rp ∈ db.rolePermissions, rp.permissionID = perm.id ∧
      EffectiveRole db now req.userID req.tenantID rp.roleID

def Attached (db : Database) (now : Time) (req : CheckRequest) (p : Policy) : Prop :=
  ∃ a ∈ db.policyAttachments, a.policyID = p.id ∧
    ((a.principalType = .user ∧ a.principalID = req.userID) ∨
      (a.principalType = .role ∧ EffectiveRole db now req.userID req.tenantID a.principalID))

/-- A policy of the tenant with no attachment at all. -/
def TenantGlobal (db : Database) (tenantID : UUID) (p : Policy) : Prop :=
  p.tenantID = tenantID ∧ ∀ a ∈ db.policyAttachments, a.policyID ≠ p.id

def Applicable (db : Database) (now : Time) (req : CheckRequest) : Set Policy :=
  {p | p ∈ db.policies ∧ (Attached db now req p ∨ TenantGlobal db req.tenantID p)}

theorem mem_applicable {db : Database} {now : Time} {req : CheckRequest} {p : Policy} :
    p ∈ Applicable db now req ↔
      p ∈ db.policies ∧ (Attached db now req p ∨ TenantGlobal db req.tenantID p) := Iff.rfl

/-- A deny policy matches; without request conditions a conditional one does too. -/
def Denies (std : Stdlib) (req : CheckRequest) (p : Policy) : Prop :=
  p.effect = .deny ∧ targets req p = true ∧
    (req.conditions = [] ∨ matchConditions std p.conditions req.conditions = true)

/-- An allow policy matches. -/
def Allows (std : Stdlib) (req : CheckRequest) (p : Policy) : Prop :=
  p.effect = .allow ∧ targets req p = true ∧
    matchConditions std p.conditions req.conditions = true

/-- Some permission of an effective role matches. -/
def RbacGrants (db : Database) (now : Time) (req : CheckRequest) : Prop :=
  ∃ perm, EffectivePermission db now req perm ∧ permissionMatches req perm = true

/-- A request the evaluation proper is run for. -/
def Admitted (db : Database) (now : Time) (req : CheckRequest) : Prop :=
  req.userID ≠ UUID.nil ∧ req.tenantID ≠ UUID.nil ∧
    ∃ roleID, Assigned db now req.userID req.tenantID roleID

/-- **The decision** `Check` is meant to compute. -/
def ReferenceAllows (std : Stdlib) (db : Database) (now : Time) (req : CheckRequest) : Prop :=
  Admitted db now req ∧
    Granted (Denies std req) (Allows std req) (RbacGrants db now req) (Applicable db now req)

-- ---------------------------------------------------------------------------
-- Readers of a store
-- ---------------------------------------------------------------------------

/-- The evaluator's readers run the queries of the repositories on `db`; in which
order the rows come back is left open. -/
structure Evaluator.ReadsFrom (e : Evaluator) (db : Database) : Prop where
  ancestorChain   : ∀ id, ∃ l, e.roleReader.getAncestorChain id = .ok l ∧
                      l.Perm (RoleRepo.getAncestorChain db id)
  rolePermissions : ∀ ids t, ∃ l, e.roleReader.getRolePermissions ids t = .ok l ∧
                      l.Perm (RoleRepo.getRolePermissions db ids t)
  userRoles       : ∃ reader, e.userRoleReader = some reader ∧ ∀ u t, ∃ l,
                      reader.getUserRoles u t = .ok l ∧
                      l.Perm (UserRoleRepo.getUserRoles db u t)
  attached        : ∀ u ids, ∃ l, e.policyReader.getPoliciesForUserAndRoles u ids = .ok l ∧
                      l.Perm (PolicyRepo.getPoliciesForUserAndRoles db u ids)
  tenantPolicies  : ∀ t, ∃ l, e.policyReader.getTenantPolicies t = .ok l ∧
                      l.Perm (PolicyRepo.getTenantPolicies db t)

theorem Evaluator.pg_readsFrom (db : Database) : (Evaluator.pg db).ReadsFrom db where
  ancestorChain _ := ⟨_, rfl, .refl _⟩
  rolePermissions _ _ := ⟨_, rfl, .refl _⟩
  userRoles := ⟨_, rfl, fun _ _ => ⟨_, rfl, .refl _⟩⟩
  attached _ _ := ⟨_, rfl, .refl _⟩
  tenantPolicies _ := ⟨_, rfl, .refl _⟩

-- ---------------------------------------------------------------------------
-- The queries
-- ---------------------------------------------------------------------------

theorem succ_parentRows_iff {db : Database} {r : Role} {row : RoleRepo.TreeRow} :
    Succ (RoleRepo.parentRows db) (RoleRepo.treeRow r) row ↔
      ∃ q ∈ db.roles, r.parentRoleID = some q.id ∧ row = RoleRepo.treeRow q := by
  simp only [Succ, RoleRepo.parentRows, List.mem_map, List.mem_filter]
  refine ⟨fun ⟨q, ⟨hq, hpar⟩, hrow⟩ => ?_, fun ⟨q, hq, hpar, hrow⟩ => ?_⟩
  · exact ⟨q, hq, of_decide_eq_true hpar, hrow.symm⟩
  · exact ⟨q, ⟨hq, decide_eq_true hpar⟩, hrow.symm⟩

theorem mem_seedRows {db : Database} {roleID : UUID} {row : RoleRepo.TreeRow} :
    row ∈ RoleRepo.seedRows db roleID ↔
      ∃ r ∈ db.roles, r.id = roleID ∧ row = RoleRepo.treeRow r := by
  simp only [RoleRepo.seedRows, List.mem_map, List.mem_filter, Bool.and_eq_true,
    decide_eq_true_eq]
  constructor
  · rintro ⟨r, ⟨hr, hid, -⟩, hrow⟩
    exact ⟨r, hr, hid, hrow.symm⟩
  · rintro ⟨r, hr, hid, hrow⟩
    -- the subquery finds the role itself
    have hfind : db.roles.find? roleID = some r := Table.find?_eq_some_iff.mpr ⟨hr, hid⟩
    refine ⟨r, ⟨hr, hid, ?_⟩, hrow.symm⟩
    simp [hfind]

/-- Paths of the recursive query are paths of the role hierarchy. -/
theorem reflTransGen_treeRow {db : Database} {r : Role} (hr : r ∈ db.roles)
    {row : RoleRepo.TreeRow} :
    ReflTransGen (Succ (RoleRepo.parentRows db)) (RoleRepo.treeRow r) row ↔
      ∃ q ∈ db.roles, row = RoleRepo.treeRow q ∧ ReflTransGen db.Parent r.id q.id := by
  refine ⟨fun h => ?_, fun h => ?_⟩
  · induction h with
    | refl => exact ⟨r, hr, rfl, .refl⟩
    | tail _ hstep ih =>
      obtain ⟨q, hq, rfl, hpath⟩ := ih
      obtain ⟨q', hq', hpar, rfl⟩ := succ_parentRows_iff.mp hstep
      exact ⟨q', hq', rfl, hpath.tail ⟨q, hq, rfl, hpar, q', hq', rfl⟩⟩
  · obtain ⟨q, hq, rfl, hpath⟩ := h
    generalize hid : q.id = x at hpath
    induction hpath generalizing q with
    | refl =>
      rw [Table.eq_of_key hq hr hid]
    | tail _ hstep ih =>
      obtain ⟨m, hm, hmid, hpar, -⟩ := hstep
      have hqm : Succ (RoleRepo.parentRows db) (RoleRepo.treeRow m) (RoleRepo.treeRow q) :=
        succ_parentRows_iff.mpr ⟨q, hq, by rw [hpar, hid], rfl⟩
      exact (ih m hm hmid).tail hqm

/-- `GetAncestorChain` returns the role and everything above it. -/
theorem mem_getAncestorChain {db : Database} {roleID x : UUID} :
    x ∈ RoleRepo.getAncestorChain db roleID ↔
      (∃ r ∈ db.roles, r.id = roleID) ∧ ReflTransGen db.Parent roleID x := by
  have hU : ∀ a ∈ db.roles.rows.map RoleRepo.treeRow, ∀ b ∈ RoleRepo.parentRows db a,
      b ∈ db.roles.rows.map RoleRepo.treeRow := by
    intro a _ b hb
    obtain ⟨q, hq, rfl⟩ := List.mem_map.mp hb
    exact List.mem_map_of_mem (List.mem_of_mem_filter hq)
  have hseed : ∀ a ∈ RoleRepo.seedRows db roleID, a ∈ db.roles.rows.map RoleRepo.treeRow := by
    intro a ha
    obtain ⟨r, hr, -, rfl⟩ := mem_seedRows.mp ha
    exact List.mem_map_of_mem hr
  have hlen : (db.roles.rows.map RoleRepo.treeRow).length ≤ db.roles.rows.length := by
    rw [List.length_map]
  unfold RoleRepo.getAncestorChain
  rw [List.mem_map]
  refine ⟨fun ⟨row, hrow, hx⟩ => ?_, fun ⟨⟨r, hr, hid⟩, hpath⟩ => ?_⟩
  · obtain ⟨a, ha, hpath⟩ := (mem_closure_iff hU hseed hlen).mp hrow
    obtain ⟨r, hr, hid, rfl⟩ := mem_seedRows.mp ha
    obtain ⟨q, hq, rfl, hup⟩ := (reflTransGen_treeRow hr).mp hpath
    refine ⟨⟨r, hr, hid⟩, ?_⟩
    rw [← hx, ← hid]
    exact hup
  · -- every element of the hierarchy above a role is itself a role
    have hq : ∃ q ∈ db.roles, q.id = x := by
      cases hpath with
      | refl => exact ⟨r, hr, hid⟩
      | tail _ hstep =>
        obtain ⟨_, _, _, _, hq⟩ := hstep
        exact hq
    obtain ⟨q, hq, rfl⟩ := hq
    refine ⟨RoleRepo.treeRow q, (mem_closure_iff hU hseed hlen).mpr ?_, rfl⟩
    refine ⟨RoleRepo.treeRow r, mem_seedRows.mpr ⟨r, hr, hid, rfl⟩, ?_⟩
    exact (reflTransGen_treeRow hr).mpr ⟨q, hq, rfl, hid ▸ hpath⟩

theorem any_find?_iff {db : Database} {roleID : UUID} {p : Role → Bool} :
    (db.roles.find? roleID).any p = true ↔ ∃ r ∈ db.roles, r.id = roleID ∧ p r = true := by
  rw [Option.any_eq_true]
  refine ⟨fun ⟨r, hfind, hp⟩ => ?_, fun ⟨r, hr, hid, hp⟩ => ?_⟩
  · obtain ⟨hr, hid⟩ := Table.find?_eq_some_iff.mp hfind
    exact ⟨r, hr, hid, hp⟩
  · exact ⟨r, Table.find?_eq_some_iff.mpr ⟨hr, hid⟩, hp⟩

/-- The role ids the evaluator starts from are the assigned ones. -/
theorem mem_userRoleIDs {db : Database} {now : Time} {userID tenantID roleID : UUID} :
    roleID ∈ ((UserRoleRepo.getUserRoles db userID tenantID).filter (unexpired now)).map
        UserRole.roleID ↔ Assigned db now userID tenantID roleID := by
  simp only [UserRoleRepo.getUserRoles, List.mem_map, List.mem_filter, Bool.and_eq_true,
    decide_eq_true_eq, any_find?_iff, Bool.or_eq_true, Assigned, Table.mem_def]
  constructor
  · rintro ⟨ur, ⟨⟨hur, huser, hrole⟩, hexp⟩, hid⟩
    exact ⟨ur, hur, huser, hid, hexp, hid ▸ hrole⟩
  · rintro ⟨ur, hur, huser, hid, hexp, hrole⟩
    exact ⟨ur, ⟨⟨hur, huser, by rw [hid]; exact hrole⟩, hexp⟩, hid⟩

theorem resolveRoles_spec {reader : RoleReader} {chain : UUID → List UUID}
    (hreader : ∀ id, ∃ l, reader.getAncestorChain id = .ok l ∧ l.Perm (chain id))
    (ids : List UUID) :
    ∃ resolved, resolveRoles reader ids = .ok resolved ∧
      ∀ x, x ∈ resolved ↔ ∃ id ∈ ids, x ∈ chain id := by
  induction ids with
  | nil => exact ⟨[], rfl, by simp⟩
  | cons id ids ih =>
    obtain ⟨others, hothers, hmem⟩ := ih
    obtain ⟨l, hl, hperm⟩ := hreader id
    refine ⟨(l ++ others).dedup, ?_, fun x => ?_⟩
    · rw [resolveRoles, hl, hothers]
      rfl
    · rw [List.mem_dedup, List.mem_append, hmem, hperm.mem_iff]
      simp

theorem mem_getRolePermissions {db : Database} {roleIDs : List UUID} {tenantID : UUID}
    {perm : Permission} :
    perm ∈ RoleRepo.getRolePermissions db roleIDs tenantID ↔
      perm ∈ db.permissions ∧ (perm.tenantID = tenantID ∨ perm.systemPerm = true) ∧
        ∃ rp ∈ db.rolePermissions, rp.permissionID = perm.id ∧ rp.roleID ∈ roleIDs := by
  simp only [RoleRepo.getRolePermissions, List.mem_filterMap, Table.mem_def]
  constructor
  · rintro ⟨rp, hrp, h⟩
    split at h
    · rename_i hrole
      obtain ⟨hfind, hvis⟩ := Option.filter_eq_some_iff.mp h
      obtain ⟨hperm, hid⟩ := Table.find?_eq_some_iff.mp hfind
      refine ⟨hperm, by simpa using hvis, rp, hrp, hid.symm, by simpa using hrole⟩
    · exact absurd h (by simp)
  · rintro ⟨hperm, hvis, rp, hrp, hid, hrole⟩
    refine ⟨rp, hrp, ?_⟩
    rw [if_pos (by simpa using hrole), Option.filter_eq_some_iff]
    exact ⟨Table.find?_eq_some_iff.mpr ⟨hperm, hid.symm⟩, by simpa using hvis⟩

theorem mem_getPoliciesForUserAndRoles {db : Database} {userID : UUID} {roleIDs : List UUID}
    {p : Policy} :
    p ∈ PolicyRepo.getPoliciesForUserAndRoles db userID roleIDs ↔
      p ∈ db.policies ∧ ∃ a ∈ db.policyAttachments, a.policyID = p.id ∧
        ((a.principalType = .user ∧ a.principalID = userID) ∨
          (a.principalType = .role ∧ a.principalID ∈ roleIDs)) := by
  simp [PolicyRepo.getPoliciesForUserAndRoles, PolicyRepo.attachedToUserOrRole, Table.mem_def]

theorem mem_getTenantPolicies {db : Database} {tenantID : UUID} {p : Policy} :
    p ∈ PolicyRepo.getTenantPolicies db tenantID ↔
      p ∈ db.policies ∧ TenantGlobal db tenantID p := by
  simp [PolicyRepo.getTenantPolicies, TenantGlobal, Table.mem_def]

-- ---------------------------------------------------------------------------
-- The loop
-- ---------------------------------------------------------------------------

instance (std : Stdlib) (req : CheckRequest) (p : Policy) : Decidable (Denies std req p) :=
  inferInstanceAs (Decidable (_ ∧ _ ∧ _))

instance (std : Stdlib) (req : CheckRequest) (p : Policy) : Decidable (Allows std req p) :=
  inferInstanceAs (Decidable (_ ∧ _ ∧ _))

section Loop

variable {std : Stdlib} {req : CheckRequest}

theorem matchConditions_nil (conds : GoMap) : matchConditions std [] conds = true := rfl

/-- One iteration records a matching deny policy or a matching allow policy and
skips every other policy. -/
theorem abacStep_eq (st : AbacState) (p : Policy) :
    abacStep std req st p =
      if Denies std req p then st.deny p else if Allows std req p then st.allow p else st := by
  unfold abacStep
  by_cases htarget : targets req p = true
  · have heff : p.effect = .deny ∨ p.effect = .allow ∨ ∃ raw, p.effect = .other raw := by
      cases p.effect with
      | deny => exact Or.inl rfl
      | allow => exact Or.inr (Or.inl rfl)
      | other raw => exact Or.inr (Or.inr ⟨raw, rfl⟩)
    by_cases hconds : p.conditions = []
    · rcases heff with heff | heff | ⟨raw, heff⟩ <;>
        simp [htarget, hconds, heff, applyEffect, Denies, Allows, matchConditions_nil]
    · by_cases hreq : req.conditions = []
      · have hmatch : matchConditions std p.conditions [] = false := by
          simp [matchConditions, hconds]
        rcases heff with heff | heff | ⟨raw, heff⟩ <;>
          simp [htarget, hconds, hreq, hmatch, heff, Denies, Allows]
      · by_cases hmatch : matchConditions std p.conditions req.conditions = true <;>
          rcases heff with heff | heff | ⟨raw, heff⟩ <;>
          simp [htarget, hconds, hreq, hmatch, heff, applyEffect, Denies, Allows]
  · simp [htarget, Denies, Allows]

theorem not_allows_of_denies {p : Policy} (h : Denies std req p) : ¬ Allows std req p := by
  intro hallow
  have heff := h.1.symm.trans hallow.1
  exact absurd heff (by decide)

theorem abacStep_abacDenied (st : AbacState) (p : Policy) :
    (abacStep std req st p).abacDenied = (st.abacDenied || decide (Denies std req p)) := by
  rw [abacStep_eq]
  split
  · rename_i hdeny
    simp [AbacState.deny, hdeny]
  · rename_i hdeny
    split <;> simp [AbacState.allow, hdeny]

theorem abacStep_abacAllowed (st : AbacState) (p : Policy) :
    (abacStep std req st p).abacAllowed = (st.abacAllowed || decide (Allows std req p)) := by
  rw [abacStep_eq]
  split
  · rename_i hdeny
    simp [AbacState.deny, not_allows_of_denies hdeny]
  · split
    · rename_i hallow
      simp [AbacState.allow, hallow]
    · rename_i hallow
      simp [hallow]

variable (std req) in
theorem abacLoop_flags (policies : List Policy) :
    ((policies.foldl (abacStep std req) AbacState.init).abacDenied = true ↔
        ∃ p ∈ policies, Denies std req p) ∧
      ((policies.foldl (abacStep std req) AbacState.init).abacAllowed = true ↔
        ∃ p ∈ policies, Allows std req p) := by
  have hfold := foldl_flags (abacStep std req) (fun st => ⟨st.abacDenied, st.abacAllowed⟩)
    abacStep_abacDenied abacStep_abacAllowed policies AbacState.init
  obtain ⟨hdenied, hallowed⟩ := hfold
  simp only [AbacState.init, Bool.false_or] at hdenied hallowed
  simp only [AbacState.init, hdenied, hallowed, List.any_eq_true, decide_eq_true_eq, and_self]

/-- The three-way combination is deny-overrides. -/
theorem combineDecisions_allowed (st : AbacState) (rbacAllowed : Bool) :
    (combineDecisions st rbacAllowed).allowed = true ↔
      ¬ st.abacDenied = true ∧ (rbacAllowed = true ∨ st.abacAllowed = true) := by
  unfold combineDecisions
  cases st.abacDenied <;> cases rbacAllowed <;> cases st.abacAllowed <;> simp

end Loop

-- ---------------------------------------------------------------------------
-- `Check`
-- ---------------------------------------------------------------------------

section Check

variable {std : Stdlib} {db : Database} {now : Time} {req : CheckRequest}

theorem mem_resolved_iff {ids resolved : List UUID}
    (hids : ∀ id, id ∈ ids ↔ Assigned db now req.userID req.tenantID id)
    (hresolved : ∀ x, x ∈ resolved ↔ ∃ id ∈ ids, x ∈ RoleRepo.getAncestorChain db id) (x : UUID) :
    x ∈ resolved ↔ EffectiveRole db now req.userID req.tenantID x := by
  rw [hresolved]
  refine ⟨fun ⟨id, hid, hx⟩ => ?_, fun ⟨id, hid, hpath⟩ => ?_⟩
  · exact ⟨id, (hids id).mp hid, (mem_getAncestorChain.mp hx).2⟩
  · have hrole : ∃ r ∈ db.roles, r.id = id := by
      obtain ⟨_, _, _, _, _, r, hr, hrid, _⟩ := hid
      exact ⟨r, hr, hrid⟩
    exact ⟨id, (hids id).mpr hid, mem_getAncestorChain.mpr ⟨hrole, hpath⟩⟩

/-- Steps 2 to 5 of `Check`, for the roles of an admitted request. -/
theorem checkRoles_spec (std : Stdlib) {e : Evaluator} (he : e.ReadsFrom db) {ids : List UUID}
    (htenant : req.tenantID ≠ UUID.nil)
    (hids : ∀ id, id ∈ ids ↔ Assigned db now req.userID req.tenantID id) :
    ∃ res, checkRoles std e req ids = .ok res ∧
      (res.allowed = true ↔ Granted (Denies std req) (Allows std req)
        (RbacGrants db now req) (Applicable db now req)) := by
  obtain ⟨resolved, hresolve, hmem⟩ := resolveRoles_spec he.ancestorChain ids
  have heff := mem_resolved_iff hids hmem
  obtain ⟨perms, hperms, hpermsMem⟩ := he.rolePermissions resolved req.tenantID
  obtain ⟨attached, hattached, hattachedMem⟩ := he.attached req.userID resolved
  obtain ⟨global, hglobal, hglobalMem⟩ := he.tenantPolicies req.tenantID
  have hrbac : perms.any (permissionMatches req) = true ↔ RbacGrants db now req := by
    simp only [List.any_eq_true, hpermsMem.mem_iff, mem_getRolePermissions, heff, RbacGrants,
      EffectivePermission]
  have hpol : ∀ p, p ∈ attached ++ global ↔ p ∈ Applicable db now req := by
    intro p
    simp only [List.mem_append, hattachedMem.mem_iff, hglobalMem.mem_iff,
      mem_getPoliciesForUserAndRoles, mem_getTenantPolicies, heff, mem_applicable, Attached,
      and_or_left]
  have hrun : checkRoles std e req ids = .ok (combineDecisions
      ((attached ++ global).foldl (abacStep std req) AbacState.init)
      (perms.any (permissionMatches req))) := by
    unfold checkRoles readTenantPolicies
    rw [hresolve, if_pos htenant, hglobal]
    show (wrapErr _ (e.roleReader.getRolePermissions resolved req.tenantID) >>= _) = _
    rw [hperms]
    show (wrapErr _ (e.policyReader.getPoliciesForUserAndRoles req.userID resolved) >>= _) = _
    rw [hattached]
    rfl
  obtain ⟨hdenied, hallowed⟩ := abacLoop_flags std req (attached ++ global)
  refine ⟨_, hrun, ?_⟩
  rw [combineDecisions_allowed, hdenied, hallowed, hrbac]
  simp only [hpol, Granted, not_exists, not_and]

/-- **What `Check` computes.** Over a store it never fails and answers `Allowed`
exactly when the reference decision does. -/
theorem check_spec (std : Stdlib) {e : Evaluator} (he : e.ReadsFrom db) (now : Time)
    (req : CheckRequest) :
    ∃ res, e.check std now req = .ok res ∧
      (res.allowed = true ↔ ReferenceAllows std db now req) := by
  obtain ⟨reader, hreader, hroles⟩ := he.userRoles
  obtain ⟨userRoles, huserRoles, hperm⟩ := hroles req.userID req.tenantID
  unfold Evaluator.check
  by_cases huser : req.userID = UUID.nil
  · rw [if_pos huser]
    exact ⟨_, rfl, by simp [ReferenceAllows, Admitted, huser]⟩
  rw [if_neg huser]
  by_cases htenant : req.tenantID = UUID.nil
  · rw [if_pos htenant]
    exact ⟨_, rfl, by simp [ReferenceAllows, Admitted, htenant]⟩
  rw [if_neg htenant, hreader]
  have hids : ∀ id, id ∈ (userRoles.filter (unexpired now)).map UserRole.roleID ↔
      Assigned db now req.userID req.tenantID id := by
    intro id
    rw [((hperm.filter _).map _).mem_iff]
    exact mem_userRoleIDs
  simp only
  rw [huserRoles]
  set ids := (userRoles.filter (unexpired now)).map UserRole.roleID with hidsdef
  show ∃ res, (if ids.isEmpty = true then .ok ⟨false, "user has no role assignments", ""⟩
    else checkRoles std e req ids) = .ok res ∧ _
  split
  · -- no unexpired assignment
    rename_i hempty
    refine ⟨_, rfl, ?_⟩
    rw [List.isEmpty_iff] at hempty
    have hnone : ¬ Admitted db now req := by
      intro ⟨_, _, id, hid⟩
      have hmem := (hids id).mpr hid
      rw [hempty] at hmem
      exact absurd hmem (by simp)
    simp [ReferenceAllows, hnone]
  · rename_i hne
    obtain ⟨res, hres, hspec⟩ := checkRoles_spec std he htenant hids
    refine ⟨res, hres, ?_⟩
    have hadm : Admitted db now req := by
      obtain ⟨id, hid⟩ := List.exists_mem_of_ne_nil _ (fun h => hne (List.isEmpty_iff.mpr h))
      exact ⟨huser, htenant, id, (hids id).mp hid⟩
    rw [hspec, ReferenceAllows]
    exact ⟨fun h => ⟨hadm, h⟩, fun h => h.2⟩

theorem check_allowed_iff {std : Stdlib} {e : Evaluator} (he : e.ReadsFrom db) {now : Time}
    {req : CheckRequest} {res : CheckResult} (h : e.check std now req = .ok res) :
    res.allowed = true ↔ ReferenceAllows std db now req := by
  obtain ⟨res', hres', hspec⟩ := check_spec std he now req
  rw [h, Except.ok.injEq] at hres'
  rw [hres']
  exact hspec

end Check

-- ---------------------------------------------------------------------------
-- Order independence and new deny policies
-- ---------------------------------------------------------------------------

/-- Two stores hold the same rows, listed in any order. -/
structure Database.Reordered (db db' : Database) : Prop where
  roles             : db.roles.rows.Perm db'.roles.rows
  permissions       : db.permissions.rows.Perm db'.permissions.rows
  rolePermissions   : db.rolePermissions.rows.Perm db'.rolePermissions.rows
  userRoles         : db.userRoles.rows.Perm db'.userRoles.rows
  policies          : db.policies.rows.Perm db'.policies.rows
  policyAttachments : db.policyAttachments.rows.Perm db'.policyAttachments.rows

/-- `db'` is `db` with one more deny policy and any attachments of it. -/
structure Database.AddsDeny (db : Database) (p : Policy) (db' : Database) : Prop where
  effect          : p.effect = .deny
  fresh           : ∀ q ∈ db.policies, q.id ≠ p.id
  policies        : ∀ q, q ∈ db'.policies ↔ q ∈ db.policies ∨ q = p
  attachments     : ∀ a ∈ db.policyAttachments, a ∈ db'.policyAttachments
  newAttachments  : ∀ a ∈ db'.policyAttachments, a ∈ db.policyAttachments ∨ a.policyID = p.id
  roles           : db'.roles = db.roles
  permissions     : db'.permissions = db.permissions
  rolePermissions : db'.rolePermissions = db.rolePermissions
  userRoles       : db'.userRoles = db.userRoles

section Congr

variable {db db' : Database} (hroles : ∀ r, r ∈ db.roles ↔ r ∈ db'.roles)
  (husers : ∀ ur, ur ∈ db.userRoles ↔ ur ∈ db'.userRoles)

include hroles

theorem parent_congr : db.Parent = db'.Parent := by
  funext a b
  simp only [Database.Parent, hroles]

include husers

theorem assigned_congr {now : Time} {userID tenantID roleID : UUID} :
    Assigned db now userID tenantID roleID ↔ Assigned db' now userID tenantID roleID := by
  simp only [Assigned, hroles, husers]

theorem effectiveRole_congr {now : Time} {userID tenantID roleID : UUID} :
    EffectiveRole db now userID tenantID roleID ↔ EffectiveRole db' now userID tenantID roleID := by
  simp only [EffectiveRole, assigned_congr hroles husers, parent_congr hroles]

theorem admitted_congr {now : Time} {req : CheckRequest} :
    Admitted db now req ↔ Admitted db' now req := by
  simp only [Admitted, assigned_congr hroles husers]

theorem rbacGrants_congr (hperms : ∀ perm, perm ∈ db.permissions ↔ perm ∈ db'.permissions)
    (hgrants : ∀ rp, rp ∈ db.rolePermissions ↔ rp ∈ db'.rolePermissions) {now : Time}
    {req : CheckRequest} : RbacGrants db now req ↔ RbacGrants db' now req := by
  simp only [RbacGrants, EffectivePermission, hperms, hgrants, effectiveRole_congr hroles husers]

end Congr

theorem Database.Reordered.referenceAllows_iff {std : Stdlib} {db db' : Database} {now : Time}
    {req : CheckRequest} (h : db.Reordered db') :
    ReferenceAllows std db now req ↔ ReferenceAllows std db' now req := by
  have hroles : ∀ r, r ∈ db.roles ↔ r ∈ db'.roles := fun _ => h.roles.mem_iff
  have hperms : ∀ r, r ∈ db.permissions ↔ r ∈ db'.permissions := fun _ => h.permissions.mem_iff
  have hgrants : ∀ r, r ∈ db.rolePermissions ↔ r ∈ db'.rolePermissions :=
    fun _ => h.rolePermissions.mem_iff
  have husers : ∀ r, r ∈ db.userRoles ↔ r ∈ db'.userRoles := fun _ => h.userRoles.mem_iff
  have hpols : ∀ r, r ∈ db.policies ↔ r ∈ db'.policies := fun _ => h.policies.mem_iff
  have hatts : ∀ r, r ∈ db.policyAttachments ↔ r ∈ db'.policyAttachments :=
    fun _ => h.policyAttachments.mem_iff
  have happ : ∀ p, p ∈ Applicable db now req ↔ p ∈ Applicable db' now req := by
    intro p
    simp only [mem_applicable, Attached, TenantGlobal, effectiveRole_congr hroles husers, hpols,
      hatts]
  rw [ReferenceAllows, ReferenceAllows, admitted_congr hroles husers, granted_congr happ,
    rbacGrants_congr hroles husers hperms hgrants]

/-- The policies a new deny policy joins stay applicable, and it is the only
newcomer. -/
theorem Database.AddsDeny.applicable_iff {db db' : Database} {p q : Policy} {now : Time}
    {req : CheckRequest} (h : db.AddsDeny p db') (hne : q ≠ p) :
    q ∈ Applicable db' now req ↔ q ∈ Applicable db now req := by
  have heff : ∀ x, EffectiveRole db' now req.userID req.tenantID x ↔
      EffectiveRole db now req.userID req.tenantID x := by
    intro x
    exact effectiveRole_congr (by simp [h.roles]) (by simp [h.userRoles])
  have hmem : q ∈ db'.policies ↔ q ∈ db.policies := by
    rw [h.policies]
    exact ⟨fun hq => hq.resolve_right hne, Or.inl⟩
  rw [mem_applicable, mem_applicable, hmem]
  refine and_congr_right fun hq => ?_
  -- an attachment of an old policy is an old attachment
  have hatt : ∀ a, a.policyID = q.id →
      (a ∈ db'.policyAttachments ↔ a ∈ db.policyAttachments) := by
    intro a ha
    refine ⟨fun hmem' => (h.newAttachments a hmem').resolve_right fun hp => ?_, h.attachments a⟩
    exact h.fresh q hq (ha.symm.trans hp)
  refine or_congr ⟨?_, ?_⟩ (and_congr_right fun _ => ⟨?_, ?_⟩)
  · intro ⟨a, ha, hid, hprin⟩
    simp only [heff] at hprin
    exact ⟨a, (hatt a hid).mp ha, hid, hprin⟩
  · intro ⟨a, ha, hid, hprin⟩
    refine ⟨a, (hatt a hid).mpr ha, hid, ?_⟩
    simp only [heff]
    exact hprin
  · exact fun hnone a ha hid => hnone a ((hatt a hid).mpr ha) hid
  · exact fun hnone a ha hid => hnone a ((hatt a hid).mp ha) hid

theorem Database.AddsDeny.referenceAllows {std : Stdlib} {db db' : Database} {p : Policy}
    {now : Time} {req : CheckRequest} (h : db.AddsDeny p db')
    (hallow : ReferenceAllows std db' now req) : ReferenceAllows std db now req := by
  obtain ⟨hadm, hgranted⟩ := hallow
  have hroles : ∀ r, r ∈ db'.roles ↔ r ∈ db.roles := by simp [h.roles]
  have husers : ∀ ur, ur ∈ db'.userRoles ↔ ur ∈ db.userRoles := by simp [h.userRoles]
  rw [rbacGrants_congr hroles husers (by simp [h.permissions]) (by simp [h.rolePermissions])]
    at hgranted
  refine ⟨(admitted_congr hroles husers).mp hadm, granted_of_subset ?_ ?_ hgranted⟩
  · intro q hq
    have hne : q ≠ p := by
      intro heq
      exact h.fresh q (mem_applicable.mp hq).1 (by rw [heq])
    exact (h.applicable_iff hne).mpr hq
  · intro q hq hallows
    have hne : q ≠ p := by
      intro heq
      have heff := hallows.1
      rw [heq, h.effect] at heff
      exact absurd heff (by decide)
    exact (h.applicable_iff hne).mp hq

/-- **The decision of `Check`.** Whatever order the readers return rows in, `Check`
answers with the reference decision; so reordering any table of the store does
not change the answer, and one more deny policy never turns a refusal into a
grant. -/
theorem check_eq_reference (std : Stdlib) (db : Database) (now : Time) (req : CheckRequest)
    {e : Evaluator} (he : e.ReadsFrom db) :
    ∃ res, e.check std now req = .ok res ∧
      (res.allowed = true ↔ ReferenceAllows std db now req) ∧
      (∀ (db' : Database) (e' : Evaluator) (res' : CheckResult), db.Reordered db' →
        e'.ReadsFrom db' → e'.check std now req = .ok res' → res'.allowed = res.allowed) ∧
      (∀ (p : Policy) (db' : Database) (e' : Evaluator) (res' : CheckResult),
        db.AddsDeny p db' → e'.ReadsFrom db' → e'.check std now req = .ok res' →
        res.allowed = false → res'.allowed = false) := by
  obtain ⟨res, hres, hspec⟩ := check_spec std he now req
  refine ⟨res, hres, hspec, ?_, ?_⟩
  · intro db' e' res' hperm he' hres'
    rw [Bool.eq_iff_iff, check_allowed_iff he' hres', hspec]
    exact hperm.referenceAllows_iff.symm
  · intro p db' e' res' hadd he' hres' hdenied
    rw [← Bool.not_eq_true] at hdenied ⊢
    intro hallow
    exact hdenied (hspec.mpr (hadd.referenceAllows ((check_allowed_iff he' hres').mp hallow)))

-- ---------------------------------------------------------------------------
-- A small store
-- ---------------------------------------------------------------------------

namespace Sample

/-- The texts used below contain no numbers, dates or networks, no capital letters
and no outer blanks. -/
def stdlib : Stdlib :=
  ⟨fun _ => "0", fun _ => .zero, fun s t => s = t, id, id, fun _ => none, fun _ => none,
    fun _ _ => false⟩

def tenant : UUID := 1#128

def otherTenant : UUID := 3#128

def user : UUID := 2#128

/-- A role without parent that may read documents. -/
def reader : Role := ⟨10#128, tenant, "reader", "Reader", "", false, none, 0, 0⟩

def readDocs : Permission :=
  ⟨20#128, tenant, "docs:read", "Read documents", "docs", "read", "", false, "api"⟩

def assignment : UserRole := ⟨user, reader.id, .global, tenant, UUID.nil, none, 0⟩

/-- One user holding one role with one permission. -/
def store : Database :=
  { Database.empty with
    roles := ⟨[reader], by decide⟩,
    permissions := ⟨[readDocs], by decide⟩,
    rolePermissions := ⟨[⟨reader.id, readDocs.id⟩], by decide⟩,
    userRoles := ⟨[assignment], by decide⟩ }

def request : CheckRequest := ⟨user, tenant, "docs", "read", "", []⟩

end Sample

theorem check_eq_reference_sample :
    (Evaluator.pg Sample.store).ReadsFrom Sample.store ∧
      ∃ res, (Evaluator.pg Sample.store).check Sample.stdlib 0 Sample.request = .ok res ∧
        res.allowed = true ∧ ReferenceAllows Sample.stdlib Sample.store 0 Sample.request := by
  have hreads := Evaluator.pg_readsFrom Sample.store
  obtain ⟨res, hres, hspec, -, -⟩ :=
    check_eq_reference Sample.stdlib Sample.store 0 Sample.request hreads
  have hrun : (Evaluator.pg Sample.store).check Sample.stdlib 0 Sample.request =
      .ok ⟨true, "allowed by RBAC role permission", "rbac"⟩ := by rfl
  have hallowed : res.allowed = true := by
    rw [hrun, Except.ok.injEq] at hres
    rw [← hres]
  exact ⟨hreads, res, hres, hallowed, hspec.mp hallowed⟩

end Ggid.Policy
