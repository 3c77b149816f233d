import Ggid.Policy.RoleHierarchy

/-!
# Policy engine — effective permissions

Two pieces of code resolve inheritance: `RoleService.GetEffectivePermissions`
walks up through one page of the tenant's roles, `Evaluator.Check` asks the
database for the whole chain. Both are compared in every store the role service
can reach, for a user who holds exactly the role in question.

The walk leaves the page at the first ancestor that is not listed, because it is
a role of another tenant or because 500 roles of the tenant are newer; that
ancestor still counts, everything above it is lost.

* `effective_permissions_eq_iff` — the two sets agree exactly when no permission
  is granted only above an unlisted role of the chain;
* `effective_permissions_lost`   — a chain that runs through another tenant.
-/

namespace Ggid.Policy

open Ggid.Go Ggid.Lib Relation

-- ---------------------------------------------------------------------------
-- Runs of the role service
-- ---------------------------------------------------------------------------

/-- One call that writes, with what the database draws for it. -/
inductive StoreOp where
  | role (op : RoleOp)
  | createPermission (newID : UUID) (level : String) (perm : Permission)
  | grantPermissionsToRole (tenantID roleID : UUID) (permissionIDs : List UUID)
  | revokePermissionsFromRole (tenantID roleID : UUID) (permissionIDs : List UUID)
  | assignRole (now : Time) (tenantID userID roleID : UUID) (scopeType : ScopeType)
      (scopeID grantedBy : UUID) (expiresAt : Option Time)
  | revokeRole (tenantID userID roleID : UUID) (scopeType : ScopeType) (scopeID : UUID)
  | revokeRoleTemporaryOnly (userID roleID : UUID) (scopeType : ScopeType) (scopeID : UUID)

def storeStep (std : Stdlib) (db : Database) : StoreOp → Database
  | .role op => roleStep std db op
  | .createPermission newID level perm =>
    storeAfter db (RoleService.createPermission db newID level perm)
  | .grantPermissionsToRole tenantID roleID permissionIDs =>
    storeAfter db
      ((RoleService.grantPermissionsToRole db tenantID roleID permissionIDs).map ((), ·))
  | .revokePermissionsFromRole tenantID roleID permissionIDs =>
    storeAfter db
      ((RoleService.revokePermissionsFromRole db tenantID roleID permissionIDs).map ((), ·))
  | .assignRole now tenantID userID roleID scopeType scopeID grantedBy expiresAt =>
    storeAfter db ((RoleService.assignRole db now tenantID userID roleID scopeType scopeID
      grantedBy expiresAt).map ((), ·))
  | .revokeRole tenantID userID roleID scopeType scopeID =>
    storeAfter db ((RoleService.revokeRole db tenantID userID roleID scopeType scopeID).map ((), ·))
  | .revokeRoleTemporaryOnly userID roleID scopeType scopeID =>
    storeAfter db
      ((RoleService.revokeRoleTemporaryOnly db userID roleID scopeType scopeID).map ((), ·))

/-- `gen_random_uuid()` never draws the nil id. -/
def DrawsID (_ : Database) : StoreOp → Prop
  | .role (.createRole newID ..) => newID ≠ UUID.nil
  | _ => True

-- ---------------------------------------------------------------------------
-- What the role service keeps
-- ---------------------------------------------------------------------------

/-- Parents exist and no role has the nil id. -/
structure RolesSound (db : Database) : Prop where
  parentsExist : ParentsExist db
  notNil       : ∀ r ∈ db.roles, r.id ≠ UUID.nil

section Steps

variable {std : Stdlib} {db db' : Database}

theorem RolesSound.of_roles_eq (h : db'.roles = db.roles) (hdb : RolesSound db) :
    RolesSound db' := by
  obtain ⟨hfk, hnil⟩ := hdb
  refine ⟨?_, ?_⟩
  · unfold ParentsExist
    rw [h]
    exact hfk
  · rw [h]
    exact hnil

/-- A statement that succeeds or not leaves the roles alone if its success does. -/
theorem storeAfter_roles {α : Type} {result : Except GGIDError (α × Database)}
    (h : ∀ a db', result = .ok (a, db') → db'.roles = db.roles) :
    (storeAfter db result).roles = db.roles := by
  cases result with
  | error err => rfl
  | ok pair => exact h pair.1 pair.2 rfl

theorem storeAfter_map_roles {result : Except GGIDError Database}
    (h : ∀ db', result = .ok db' → db'.roles = db.roles) :
    (storeAfter db (result.map ((), ·))).roles = db.roles := by
  cases result with
  | error err => rfl
  | ok db' => exact h db' rfl

theorem createPermission_roles {newID : UUID} {level : String} {perm created : Permission}
    (h : RoleService.createPermission db newID level perm = .ok (created, db')) :
    db'.roles = db.roles := by
  unfold RoleService.createPermission PermissionRepo.create at h
  grind

theorem grantPermissionsToRole_roles {tenantID roleID : UUID} {permissionIDs : List UUID}
    (h : RoleService.grantPermissionsToRole db tenantID roleID permissionIDs = .ok db') :
    db'.roles = db.roles := by
  unfold RoleService.grantPermissionsToRole RoleRepo.grantPermissions at h
  grind

theorem revokePermissionsFromRole_roles {tenantID roleID : UUID} {permissionIDs : List UUID}
    (h : RoleService.revokePermissionsFromRole db tenantID roleID permissionIDs = .ok db') :
    db'.roles = db.roles := by
  unfold RoleService.revokePermissionsFromRole RoleRepo.revokePermissions at h
  grind

theorem assignRole_roles {now : Time} {tenantID userID roleID : UUID} {scopeType : ScopeType}
    {scopeID grantedBy : UUID} {expiresAt : Option Time}
    (h : RoleService.assignRole db now tenantID userID roleID scopeType scopeID grantedBy
      expiresAt = .ok db') : db'.roles = db.roles := by
  unfold RoleService.assignRole UserRoleRepo.assign at h
  grind

theorem revokeRole_roles {tenantID userID roleID : UUID} {scopeType : ScopeType} {scopeID : UUID}
    (h : RoleService.revokeRole db tenantID userID roleID scopeType scopeID = .ok db') :
    db'.roles = db.roles := by
  unfold RoleService.revokeRole UserRoleRepo.revoke at h
  grind

theorem revokeRoleTemporaryOnly_roles {userID roleID : UUID} {scopeType : ScopeType}
    {scopeID : UUID}
    (h : RoleService.revokeRoleTemporaryOnly db userID roleID scopeType scopeID = .ok db') :
    db'.roles = db.roles := by
  unfold RoleService.revokeRoleTemporaryOnly UserRoleRepo.revokeTemporaryOnly at h
  grind

theorem createRole_row_id {newID : UUID} {now : Time} {tenantID : UUID}
    {key name description : String} {parent : Option UUID} {row : Role}
    (h : RoleService.createRole std db newID now tenantID key name description parent =
      .ok (row, db')) : row.id = newID := by
  unfold RoleService.createRole RoleRepo.create at h
  grind

/-- The ids of the table after a call: old ones and the one a new role drew. -/
theorem roleStep_ids (op : RoleOp) {r : Role} (hr : r ∈ (roleStep std db op).roles) :
    (∃ q ∈ db.roles, q.id = r.id) ∨
      ∃ now tenantID key name description parent,
        op = .createRole r.id now tenantID key name description parent := by
  have hedited : ∀ {old new : Role}, Edited db (roleStep std db op) old new →
      ∃ q ∈ db.roles, q.id = r.id := by
    intro old new h
    rcases (h.mem r).mp hr with ⟨hr, -⟩ | rfl
    · exact ⟨r, hr, rfl⟩
    · exact ⟨old, h.old_mem, h.id.symm⟩
  generalize hstep : roleStep std db op = db' at hr hedited
  have hchange := roleStep_change std db op
  rw [hstep] at hchange
  cases hchange with
  | nothing => exact Or.inl ⟨r, hr, rfl⟩
  | @create newID now tenantID key name description parent _ row hadded =>
    rcases (hadded.mem r).mp hr with hr | rfl
    · exact Or.inl ⟨r, hr, rfl⟩
    · -- the row is the one the call returned
      rw [roleStep] at hstep
      cases h : RoleService.createRole std db newID now tenantID key name description parent with
      | error err =>
        rw [h] at hstep
        subst hstep
        exact Or.inl ⟨r, hr, rfl⟩
      | ok result =>
        obtain ⟨row, db''⟩ := result
        rw [h] at hstep
        subst hstep
        obtain ⟨hadded', -, -⟩ := createRole_added h
        rcases (hadded'.mem r).mp hr with hold | rfl
        · exact Or.inl ⟨r, hold, rfl⟩
        · exact Or.inr ⟨now, tenantID, key, name, description, parent, by
            rw [createRole_row_id h]⟩
  | edit h => exact Or.inl (hedited h)
  | link _ h => exact Or.inl (hedited h)
  | delete h =>
    obtain ⟨q, hq, -, rfl⟩ := (h.mem r).mp hr
    exact Or.inl ⟨q, hq, (orphan_id _ q).symm⟩

/-- One step keeps the roles sound. -/
theorem storeStep_rolesSound {op : StoreOp} (hdb : RolesSound db) (hdraw : DrawsID db op) :
    RolesSound (storeStep std db op) := by
  cases op with
  | role op =>
    refine ⟨(roleStep_change std db op).parentsExist hdb.parentsExist, fun r hr => ?_⟩
    rcases roleStep_ids op hr with ⟨q, hq, hid⟩ | ⟨now, tenantID, key, name, description, parent, rfl⟩
    · rw [← hid]
      exact hdb.notNil q hq
    · exact hdraw
  | createPermission newID level perm =>
    exact hdb.of_roles_eq (storeAfter_roles fun _ _ h => createPermission_roles h)
  | grantPermissionsToRole tenantID roleID permissionIDs =>
    exact hdb.of_roles_eq (storeAfter_map_roles fun _ h => grantPermissionsToRole_roles h)
  | revokePermissionsFromRole tenantID roleID permissionIDs =>
    exact hdb.of_roles_eq (storeAfter_map_roles fun _ h => revokePermissionsFromRole_roles h)
  | assignRole now tenantID userID roleID scopeType scopeID grantedBy expiresAt =>
    exact hdb.of_roles_eq (storeAfter_map_roles fun _ h => assignRole_roles h)
  | revokeRole tenantID userID roleID scopeType scopeID =>
    exact hdb.of_roles_eq (storeAfter_map_roles fun _ h => revokeRole_roles h)
  | revokeRoleTemporaryOnly userID roleID scopeType scopeID =>
    exact hdb.of_roles_eq (storeAfter_map_roles fun _ h => revokeRoleTemporaryOnly_roles h)

end Steps

theorem empty_rolesSound : RolesSound .empty :=
  ⟨empty_parentsExist, fun r hr => absurd hr (Table.not_mem_empty r)⟩

/-- Every store the role service reaches has sound roles. -/
theorem reachable_rolesSound {std : Stdlib} {ops : List StoreOp}
    (hids : StepsOk (storeStep std) DrawsID .empty ops) :
    ∀ db ∈ states (storeStep std) .empty ops, RolesSound db :=
  invariant_states (fun _ _ hdb hdraw => storeStep_rolesSound hdb hdraw) empty_rolesSound hids

-- ---------------------------------------------------------------------------
-- The walk through the page
-- ---------------------------------------------------------------------------

/-- `b` is the parent of `a`, and `a` is on the page. -/
def ListedParent (page : List Role) (a b : UUID) : Prop :=
  ∃ r ∈ page, r.id = a ∧ r.parentRoleID = some b

section Page

variable {page : List Role}

/-- On a page without duplicate ids the map lookup finds the parent. -/
theorem find_parent_iff (hnodup : (page.map Role.id).Nodup) {a b : UUID} :
    (page.find? fun r => r.id = a).bind Role.parentRoleID = some b ↔ ListedParent page a b := by
  rw [Option.bind_eq_some_iff]
  have hfind : ∀ r, (page.find? fun r => r.id = a) = some r ↔ r ∈ page ∧ r.id = a :=
    fun r => Table.find?_eq_some_iff (t := (⟨page, hnodup⟩ : Table Role.id))
  simp only [hfind, ListedParent, and_assoc]

/-- What the walk has seen so far: everything seen is above the start, and the
parent of a seen role is seen or comes next. -/
structure Walked (page : List Role) (start : UUID) (visited : List UUID) (current : UUID) :
    Prop where
  nodup   : visited.Nodup
  listed  : ∀ v ∈ visited, v ∈ page.map Role.id
  reached : ∀ v ∈ visited, ReflTransGen (ListedParent page) start v
  next    : ReflTransGen (ListedParent page) start current
  closed  : ∀ v ∈ visited, ∀ b, ListedParent page v b → b ∈ visited ∨ b = current
  start   : start ∈ visited ∨ start = current

/-- A set that contains the start, is closed, and holds only what is above the
start is the set of all roles above the start. -/
theorem mem_iff_of_closed {start : UUID} {seen : List UUID} (hstart : start ∈ seen)
    (hreached : ∀ v ∈ seen, ReflTransGen (ListedParent page) start v)
    (hclosed : ∀ v ∈ seen, ∀ b, ListedParent page v b → b ∈ seen) (x : UUID) :
    x ∈ seen ↔ ReflTransGen (ListedParent page) start x := by
  refine ⟨hreached x, fun h => ?_⟩
  induction h with
  | refl => exact hstart
  | tail _ hbc ih => exact hclosed _ ih _ hbc

section Walk

variable {start current : UUID} {visited : List UUID}

theorem Walked.reached_concat (h : Walked page start visited current) :
    ∀ v ∈ visited ++ [current], ReflTransGen (ListedParent page) start v := by
  intro v hv
  rcases List.mem_append.mp hv with hv | hv
  · exact h.reached v hv
  · rw [List.mem_singleton.mp hv]
    exact h.next

theorem Walked.start_mem_concat (h : Walked page start visited current) :
    start ∈ visited ++ [current] := by
  rcases h.start with hs | hs
  · exact List.mem_append_left _ hs
  · exact List.mem_append_right _ (List.mem_singleton.mpr hs)

theorem Walked.closed_concat (h : Walked page start visited current) :
    ∀ v ∈ visited, ∀ b, ListedParent page v b → b ∈ visited ++ [current] := by
  intro v hv b hb
  rcases h.closed v hv b hb with hb | rfl
  · exact List.mem_append_left _ hb
  · simp

/-- One step of the walk: the current role is seen, its parent comes next. -/
theorem Walked.extend (hnodup : (page.map Role.id).Nodup) (h : Walked page start visited current)
    (hfresh : current ∉ visited) {parent : UUID} (hlink : ListedParent page current parent) :
    Walked page start (visited ++ [current]) parent := by
  refine ⟨?_, fun v hv => ?_, h.reached_concat, h.next.tail hlink, fun v hv b hb => ?_,
    Or.inl h.start_mem_concat⟩
  · rw [List.nodup_append]
    refine ⟨h.nodup, by simp, fun a ha b hb hab => ?_⟩
    rw [List.mem_singleton.mp hb] at hab
    exact hfresh (hab ▸ ha)
  · rcases List.mem_append.mp hv with hv | hv
    · exact h.listed v hv
    · obtain ⟨r, hr, hid, -⟩ := hlink
      rw [List.mem_singleton.mp hv, ← hid]
      exact List.mem_map_of_mem hr
  · rcases List.mem_append.mp hv with hv | hv
    · exact Or.inl (h.closed_concat v hv b hb)
    · rw [List.mem_singleton.mp hv, ← find_parent_iff hnodup, (find_parent_iff hnodup).mpr hlink,
        Option.some.injEq] at hb
      exact Or.inr hb.symm

end Walk

theorem mem_walkUp (hnodup : (page.map Role.id).Nodup)
    (hnil : ∀ a b, ListedParent page a b → b ≠ UUID.nil) {start : UUID}
    (hstart : start ≠ UUID.nil) {n : Nat} : ∀ {visited : List UUID} {current : UUID},
    Walked page start visited current → page.length + 1 ≤ n + visited.length →
    ∀ x, x ∈ RoleService.walkUp page n visited current ↔
      ReflTransGen (ListedParent page) start x := by
  induction n with
  | zero =>
    intro visited current h hfuel
    -- more roles were seen than are listed
    have hle : visited.length ≤ page.length := by
      rw [← List.length_map (f := Role.id)]
      exact (List.subperm_of_subset h.nodup h.listed).length_le
    omega
  | succ n ih =>
    intro visited current h hfuel
    have hcurrent : current ≠ UUID.nil := by
      rcases ReflTransGen.cases_tail h.next with rfl | ⟨b, -, hb⟩
      · exact hstart
      · exact hnil _ _ hb
    rw [RoleService.walkUp]
    split
    · -- back at a role seen before
      rename_i hseen
      have hmem : current ∈ visited := hseen.resolve_left hcurrent
      refine mem_iff_of_closed ?_ h.reached fun v hv b hb => ?_
      · exact h.start.elim id (fun heq => heq ▸ hmem)
      · exact (h.closed v hv b hb).elim id (fun heq => heq ▸ hmem)
    rename_i hnew
    have hfresh : current ∉ visited := fun hmem => hnew (Or.inr hmem)
    split
    · -- the chain ends here
      rename_i hend
      refine mem_iff_of_closed h.start_mem_concat h.reached_concat fun v hv b hb => ?_
      rcases List.mem_append.mp hv with hv | hv
      · exact h.closed_concat v hv b hb
      · rw [List.mem_singleton.mp hv] at hb
        rw [(find_parent_iff hnodup).mpr hb] at hend
        exact absurd hend (by simp)
    · rename_i parent hparent
      apply ih (h.extend hnodup hfresh ((find_parent_iff hnodup).mp hparent))
      rw [List.length_append, List.length_singleton]
      omega

end Page

-- ---------------------------------------------------------------------------
-- The page and the chain
-- ---------------------------------------------------------------------------

/-- The page `GetEffectivePermissions` rebuilds the hierarchy from. -/
def hierarchyRoles (scan : RoleRepo.Scan) (db : Database) (tenantID : UUID) : List Role :=
  RoleRepo.listByTenant scan db tenantID RoleService.hierarchyPage 0

/-- Some role of the chain strictly below `x` is not on the page. -/
def AboveUnlisted (db : Database) (page : List Role) (roleID x : UUID) : Prop :=
  ∃ m, ReflTransGen db.Parent roleID m ∧ TransGen db.Parent m x ∧ m ∉ page.map Role.id

/-- A permission the tenant sees, granted to the role itself. -/
def Grants (db : Database) (tenantID roleID : UUID) (perm : Permission) : Prop :=
  perm ∈ db.permissions ∧ (perm.tenantID = tenantID ∨ perm.systemPerm = true) ∧
    ∃ rp ∈ db.rolePermissions, rp.permissionID = perm.id ∧ rp.roleID = roleID

/-- What is granted above an unlisted role of the chain is also granted below. -/
def GrantedBelow (db : Database) (page : List Role) (tenantID roleID : UUID) : Prop :=
  ∀ x perm, ReflTransGen db.Parent roleID x → AboveUnlisted db page roleID x →
    Grants db tenantID x perm →
    ∃ y, ReflTransGen db.Parent roleID y ∧ ¬ AboveUnlisted db page roleID y ∧
      Grants db tenantID y perm

section Chain

variable {scan : RoleRepo.Scan} {db : Database} {tenantID : UUID}

theorem listByTenant_subperm (limit offset : Nat) :
    (RoleRepo.listByTenant scan db tenantID limit offset).Subperm db.roles.rows := by
  unfold RoleRepo.listByTenant
  refine ((List.take_sublist _ _).subperm.trans (List.drop_sublist _ _).subperm).trans ?_
  refine ((List.perm_insertionSort _ _).trans (scan.perm _)).subperm.trans ?_
  exact List.filter_sublist.subperm

theorem hierarchyRoles_mem {r : Role} (hr : r ∈ hierarchyRoles scan db tenantID) :
    r ∈ db.roles :=
  (listByTenant_subperm _ _).subset hr

theorem hierarchyRoles_nodup : ((hierarchyRoles scan db tenantID).map Role.id).Nodup := by
  obtain ⟨rows, hperm, hsub⟩ : (hierarchyRoles scan db tenantID).Subperm db.roles.rows :=
    listByTenant_subperm _ _
  exact (hperm.map Role.id).nodup_iff.mp (db.roles.nodup.sublist (hsub.map Role.id))

theorem parent_unique {a b c : UUID} (hab : db.Parent a b) (hac : db.Parent a c) : b = c := by
  obtain ⟨r, hr, hra, hrb, -⟩ := hab
  obtain ⟨q, hq, hqa, hqc, -⟩ := hac
  rw [Table.eq_of_key hr hq (hra.trans hqa.symm), hqc, Option.some.injEq] at hrb
  exact hrb.symm

theorem listedParent_iff (hdb : RolesSound db) {a b : UUID} :
    ListedParent (hierarchyRoles scan db tenantID) a b ↔
      db.Parent a b ∧ a ∈ (hierarchyRoles scan db tenantID).map Role.id := by
  refine ⟨fun ⟨r, hr, hid, hpar⟩ => ?_, fun ⟨⟨r, hr, hid, hpar, _⟩, hlisted⟩ => ?_⟩
  · have hmem := hierarchyRoles_mem hr
    exact ⟨⟨r, hmem, hid, hpar, hdb.parentsExist r hmem b hpar⟩, hid ▸ List.mem_map_of_mem hr⟩
  · obtain ⟨q, hq, hqa⟩ := List.mem_map.mp hlisted
    rw [← Table.eq_of_key hr (hierarchyRoles_mem hq) (hid.trans hqa.symm)] at hq
    exact ⟨r, hq, hid, hpar⟩

variable (scan tenantID) in
/-- The walk collects the part of the chain that has no unlisted role below it. -/
theorem mem_walk_iff (hdb : RolesSound db) (hac : Acyclic db.Parent) {roleID : UUID}
    (hrole : roleID ≠ UUID.nil) (x : UUID) :
    x ∈ RoleService.walkUp (hierarchyRoles scan db tenantID)
        ((hierarchyRoles scan db tenantID).length + 1) [] roleID ↔
      ReflTransGen db.Parent roleID x ∧
        ¬ AboveUnlisted db (hierarchyRoles scan db tenantID) roleID x := by
  have hnil : ∀ a b, ListedParent (hierarchyRoles scan db tenantID) a b → b ≠ UUID.nil := by
    intro a b hab
    obtain ⟨⟨r, hr, -, hpar, q, hq, hqb⟩, -⟩ := (listedParent_iff hdb).mp hab
    rw [← hqb]
    exact hdb.notNil q hq
  have hwalked : Walked (hierarchyRoles scan db tenantID) roleID [] roleID :=
    ⟨List.nodup_nil, by simp, by simp, .refl, by simp, Or.inr rfl⟩
  have hrel : ListedParent (hierarchyRoles scan db tenantID) = fun a b =>
      db.Parent a b ∧ a ∈ (hierarchyRoles scan db tenantID).map Role.id := by
    funext a b
    exact propext (listedParent_iff hdb)
  rw [mem_walkUp hierarchyRoles_nodup hnil hrole hwalked (by simp), hrel,
    reflTransGen_gated (r := db.Parent) (G := (· ∈ (hierarchyRoles scan db tenantID).map Role.id))
      (fun _ _ _ => parent_unique) hac]
  refine and_congr_right fun _ => ⟨fun h => ?_, fun h m hm hx => ?_⟩
  · rintro ⟨m, hm, hx, hunlisted⟩
    exact hunlisted (h m hm hx)
  · by_contra hunlisted
    exact h ⟨m, hm, hx, hunlisted⟩

end Chain

theorem mem_getRolePermissions_iff_grants {db : Database} {roleIDs : List UUID} {tenantID : UUID}
    {perm : Permission} :
    perm ∈ RoleRepo.getRolePermissions db roleIDs tenantID ↔
      ∃ roleID ∈ roleIDs, Grants db tenantID roleID perm := by
  rw [mem_getRolePermissions]
  refine ⟨fun ⟨hperm, hvis, rp, hrp, hid, hrole⟩ => ?_,
    fun ⟨roleID, hrole, hperm, hvis, rp, hrp, hid, heq⟩ => ?_⟩
  · exact ⟨rp.roleID, hrole, hperm, hvis, rp, hrp, hid, rfl⟩
  · exact ⟨hperm, hvis, rp, hrp, hid, heq ▸ hrole⟩

-- ---------------------------------------------------------------------------
-- The evaluator's side
-- ---------------------------------------------------------------------------

/-- The unexpired assignments `Check` starts from. -/
def heldRoleIDs (db : Database) (now : Time) (userID tenantID : UUID) : List UUID :=
  ((UserRoleRepo.getUserRoles db userID tenantID).filter (unexpired now)).map UserRole.roleID

/-- Steps 2 and 3 of `Check`: the permissions of the held roles and of everything
above them. -/
def permissionsUsed (reader : RoleReader) (userRoleIDs : List UUID) (tenantID : UUID) :
    Except GGIDError (List Permission) := do
  let resolvedIDs ← resolveRoles reader userRoleIDs
  wrapErr "get role permissions" (reader.getRolePermissions resolvedIDs tenantID)

/-- These are the permissions the RBAC test of `Check` runs over. -/
theorem check_uses {std : Stdlib} {db : Database} {now : Time} {req : CheckRequest}
    {used : List Permission} (huser : req.userID ≠ UUID.nil) (htenant : req.tenantID ≠ UUID.nil)
    (hheld : heldRoleIDs db now req.userID req.tenantID ≠ [])
    (hused : permissionsUsed (Evaluator.pg db).roleReader
      (heldRoleIDs db now req.userID req.tenantID) req.tenantID = .ok used) :
    ∃ st, (Evaluator.pg db).check std now req =
      .ok (combineDecisions st (used.any (permissionMatches req))) := by
  have hnonempty : (heldRoleIDs db now req.userID req.tenantID).isEmpty = false := by
    simpa using hheld
  unfold permissionsUsed at hused
  cases hres : resolveRoles (Evaluator.pg db).roleReader
      (heldRoleIDs db now req.userID req.tenantID) with
  | error err =>
    rw [hres] at hused
    exact absurd hused (by simp [bind, Except.bind])
  | ok resolved =>
    rw [hres] at hused
    have hperms : RoleRepo.getRolePermissions db resolved req.tenantID = used := by
      simpa [bind, Except.bind, wrapErr, Evaluator.pg] using hused
    refine ⟨(PolicyRepo.getPoliciesForUserAndRoles db req.userID resolved ++
      PolicyRepo.getTenantPolicies db req.tenantID).foldl (abacStep std req) AbacState.init, ?_⟩
    unfold Evaluator.check
    rw [if_neg huser, if_neg htenant]
    show (if (heldRoleIDs db now req.userID req.tenantID).isEmpty then _
      else checkRoles std (Evaluator.pg db) req
        (heldRoleIDs db now req.userID req.tenantID)) = _
    rw [hnonempty, if_neg (by simp), checkRoles, hres, ← hperms]
    simp only [readTenantPolicies, if_pos htenant]
    rfl

theorem permissionsUsed_pg (db : Database) (ids : List UUID) (tenantID : UUID) :
    ∃ used, permissionsUsed (Evaluator.pg db).roleReader ids tenantID = .ok used ∧
      ∀ perm, perm ∈ used ↔ ∃ id ∈ ids, (∃ r ∈ db.roles, r.id = id) ∧
        ∃ x, ReflTransGen db.Parent id x ∧ Grants db tenantID x perm := by
  obtain ⟨resolved, hres, hmem⟩ : ∃ resolved,
      resolveRoles (Evaluator.pg db).roleReader ids = .ok resolved ∧
      ∀ x, x ∈ resolved ↔ ∃ id ∈ ids, x ∈ RoleRepo.getAncestorChain db id :=
    resolveRoles_spec (fun id => ⟨_, rfl, List.Perm.refl _⟩) ids
  refine ⟨RoleRepo.getRolePermissions db resolved tenantID, ?_, fun perm => ?_⟩
  · unfold permissionsUsed
    rw [hres]
    rfl
  · rw [mem_getRolePermissions_iff_grants]
    simp only [hmem, mem_getAncestorChain]
    refine ⟨fun ⟨x, ⟨id, hid, hex, hpath⟩, hg⟩ => ⟨id, hid, hex, x, hpath, hg⟩,
      fun ⟨id, hid, hex, x, hpath, hg⟩ => ⟨x, ⟨id, hid, hex, hpath⟩, hg⟩⟩

-- ---------------------------------------------------------------------------
-- Main results
-- ---------------------------------------------------------------------------

/-- `GetEffectivePermissions` reports the permissions `Check` uses for the user. -/
def ReportsUsed (scan : RoleRepo.Scan) (db : Database) (now : Time)
    (userID tenantID roleID : UUID) : Prop :=
  ∃ reported used, RoleService.getEffectivePermissions scan db tenantID roleID = .ok reported ∧
    permissionsUsed (Evaluator.pg db).roleReader (heldRoleIDs db now userID tenantID) tenantID =
      .ok used ∧
    ∀ perm, perm ∈ reported ↔ perm ∈ used

/-- What `GetEffectivePermissions` reports. -/
theorem getEffectivePermissions_spec (scan : RoleRepo.Scan) {db : Database} (hdb : RolesSound db)
    (hac : Acyclic db.Parent) {role : Role} (hrole : role ∈ db.roles) :
    ∃ reported,
      RoleService.getEffectivePermissions scan db role.tenantID role.id = .ok reported ∧
      ∀ perm, perm ∈ reported ↔ ∃ x, (ReflTransGen db.Parent role.id x ∧
        ¬ AboveUnlisted db (hierarchyRoles scan db role.tenantID) role.id x) ∧
        Grants db role.tenantID x perm := by
  have hget : RoleRepo.getByID db role.id role.tenantID = .ok role := by
    unfold RoleRepo.getByID
    rw [Table.find?_eq_some_iff.mpr ⟨hrole, rfl⟩]
    simp
  have hwalk := mem_walk_iff scan role.tenantID hdb hac (hdb.notNil role hrole)
  -- the walk starts with the role itself, so it is not empty
  have hself : role.id ∈ RoleService.walkUp (hierarchyRoles scan db role.tenantID)
      ((hierarchyRoles scan db role.tenantID).length + 1) [] role.id := by
    refine (hwalk role.id).mpr ⟨.refl, ?_⟩
    rintro ⟨m, hm, hback, -⟩
    exact hac m (hback.trans_left hm)
  refine ⟨RoleRepo.getRolePermissions db (RoleService.walkUp
    (hierarchyRoles scan db role.tenantID)
    ((hierarchyRoles scan db role.tenantID).length + 1) [] role.id) role.tenantID, ?_, ?_⟩
  · unfold RoleService.getEffectivePermissions
    rw [hget]
    show (if (RoleService.walkUp (hierarchyRoles scan db role.tenantID)
      ((hierarchyRoles scan db role.tenantID).length + 1) [] role.id).isEmpty then _ else _) = _
    rw [if_neg]
    · rfl
    · simpa using List.ne_nil_of_mem hself
  · intro perm
    rw [mem_getRolePermissions_iff_grants]
    simp only [hwalk]

/-- **Effective permissions.** In every store the role service reaches with an
acyclic hierarchy, the reported set is the one `Check` uses for a user who holds
exactly the role, if and only if nothing is granted only above an unlisted role
of its chain. -/
theorem effective_permissions_eq_iff (std : Stdlib) (scan : RoleRepo.Scan) (ops : List StoreOp)
    (hids : StepsOk (storeStep std) DrawsID .empty ops) :
    ∀ db ∈ states (storeStep std) .empty ops, Acyclic db.Parent →
      ∀ (now : Time) (userID : UUID), ∀ role ∈ db.roles,
        (∀ id, id ∈ heldRoleIDs db now userID role.tenantID ↔ id = role.id) →
        (ReportsUsed scan db now userID role.tenantID role.id ↔
          GrantedBelow db (hierarchyRoles scan db role.tenantID) role.tenantID role.id) := by
  intro db hmem hac now userID role hrole hheld
  have hdb := reachable_rolesSound hids db hmem
  obtain ⟨reported, hreported, hrep⟩ := getEffectivePermissions_spec scan hdb hac hrole
  obtain ⟨used, hused, huse⟩ := permissionsUsed_pg db
    (heldRoleIDs db now userID role.tenantID) role.tenantID
  have huse' : ∀ perm, perm ∈ used ↔
      ∃ x, ReflTransGen db.Parent role.id x ∧ Grants db role.tenantID x perm := by
    intro perm
    rw [huse]
    refine ⟨fun ⟨id, hid, _, x, hpath, hg⟩ => ?_, fun ⟨x, hpath, hg⟩ => ?_⟩
    · rw [(hheld id).mp hid] at hpath
      exact ⟨x, hpath, hg⟩
    · exact ⟨role.id, (hheld _).mpr rfl, ⟨role, hrole, rfl⟩, x, hpath, hg⟩
  refine ⟨fun h => ?_, fun h => ?_⟩
  · obtain ⟨reported', used', hreported', hused', hsame⟩ := h
    rw [hreported, Except.ok.injEq] at hreported'
    rw [hused, Except.ok.injEq] at hused'
    subst hreported' hused'
    intro x perm hpath _ hg
    have hin : perm ∈ reported := (hsame perm).mpr ((huse' perm).mpr ⟨x, hpath, hg⟩)
    obtain ⟨y, ⟨hy, hbelow⟩, hgy⟩ := (hrep perm).mp hin
    exact ⟨y, hy, hbelow, hgy⟩
  · refine ⟨reported, used, hreported, hused, fun perm => ?_⟩
    rw [hrep, huse']
    refine ⟨fun ⟨x, ⟨hpath, _⟩, hg⟩ => ⟨x, hpath, hg⟩, fun ⟨x, hpath, hg⟩ => ?_⟩
    by_cases habove : AboveUnlisted db (hierarchyRoles scan db role.tenantID) role.id x
    · obtain ⟨y, hy, hbelow, hgy⟩ := h x perm hpath habove hg
      exact ⟨y, ⟨hy, hbelow⟩, hgy⟩
    · exact ⟨x, ⟨hpath, habove⟩, hg⟩

namespace Sample

/-- Rows in the order of the table. -/
def scan : RoleRepo.Scan := ⟨id, fun _ => List.Perm.refl _⟩

/-- A role of the tenant, below it a role of another tenant, below that one a role
of the first tenant again; the top role carries a permission of the tenant and the
user holds the bottom one. -/
def lostOps : List StoreOp :=
  [.role (.createRole 11#128 0 tenant "top" "top" "" none),
    .role (.createRole 12#128 0 otherTenant "mid" "mid" "" (some 11#128)),
    .role (.createRole 13#128 0 tenant "leaf" "leaf" "" (some 12#128)),
    .createPermission 20#128 readDocs.level readDocs,
    .grantPermissionsToRole tenant 11#128 [20#128],
    .assignRole 0 tenant user 13#128 .global tenant UUID.nil none]

def lostStore : Database := run (storeStep stdlib) .empty lostOps

/-- The bottom role. -/
def leaf : Role := ⟨13#128, tenant, "leaf", "leaf", "", false, some 12#128, 0, 0⟩

theorem lostOps_drawsID : StepsOk (storeStep stdlib) DrawsID .empty lostOps := by
  refine ⟨?_, ?_, ?_, trivial, trivial, trivial, trivial⟩
  all_goals
    unfold DrawsID
    decide

theorem lostStore_acyclic : Acyclic lostStore.Parent := by
  refine Acyclic.of_rank BitVec.toNat fun a b ⟨r, hr, hid, hpar, _⟩ => ?_
  have hrows : (lostStore.roles.rows.all fun r =>
      r.parentRoleID.all fun p => p.toNat < r.id.toNat) = true := by rfl
  have hrow := List.all_eq_true.mp hrows r hr
  rw [hpar, hid] at hrow
  simpa using hrow

theorem leaf_mem : leaf ∈ lostStore.roles := by
  show leaf ∈ lostStore.roles.rows
  decide

theorem leaf_held : ∀ id, id ∈ heldRoleIDs lostStore 0 user leaf.tenantID ↔ id = leaf.id := by
  have hheld : heldRoleIDs lostStore 0 user leaf.tenantID = [leaf.id] := by rfl
  intro id
  rw [hheld, List.mem_singleton]

end Sample

theorem effective_permissions_eq_iff_sample :
    StepsOk (storeStep Sample.stdlib) DrawsID .empty Sample.lostOps ∧
      Acyclic Sample.lostStore.Parent ∧
      (ReportsUsed Sample.scan Sample.lostStore 0 Sample.user Sample.tenant Sample.leaf.id ↔
        GrantedBelow Sample.lostStore
          (hierarchyRoles Sample.scan Sample.lostStore Sample.tenant) Sample.tenant
          Sample.leaf.id) :=
  ⟨Sample.lostOps_drawsID, Sample.lostStore_acyclic,
    effective_permissions_eq_iff Sample.stdlib Sample.scan Sample.lostOps Sample.lostOps_drawsID
      Sample.lostStore (run_mem_states _ _) Sample.lostStore_acyclic 0 Sample.user Sample.leaf
      Sample.leaf_mem Sample.leaf_held⟩

/-- The chain leaves the tenant's page at the role of the other tenant:
`GetEffectivePermissions` reports nothing, `Check` uses the permission of the top
role. -/
theorem effective_permissions_lost :
    ∃ db ∈ states (storeStep Sample.stdlib) .empty Sample.lostOps, Acyclic db.Parent ∧
      Sample.leaf ∈ db.roles ∧
      heldRoleIDs db 0 Sample.user Sample.tenant = [Sample.leaf.id] ∧
      RoleService.getEffectivePermissions Sample.scan db Sample.tenant Sample.leaf.id = .ok [] ∧
      permissionsUsed (Evaluator.pg db).roleReader [Sample.leaf.id] Sample.tenant =
        .ok [{ Sample.readDocs with id := 20#128 }] ∧
      ¬ ReportsUsed Sample.scan db 0 Sample.user Sample.tenant Sample.leaf.id := by
  have hreported : RoleService.getEffectivePermissions Sample.scan Sample.lostStore Sample.tenant
      Sample.leaf.id = .ok [] := by rfl
  have hused : permissionsUsed (Evaluator.pg Sample.lostStore).roleReader [Sample.leaf.id]
      Sample.tenant = .ok [{ Sample.readDocs with id := 20#128 }] := by rfl
  refine ⟨Sample.lostStore, run_mem_states _ _, Sample.lostStore_acyclic, Sample.leaf_mem,
    by rfl, hreported, hused, ?_⟩
  rintro ⟨reported, used, hr, hu, hsame⟩
  rw [hreported, Except.ok.injEq] at hr
  have hu' : [{ Sample.readDocs with id := 20#128 }] = used := Except.ok.inj (hused.symm.trans hu)
  subst hr hu'
  exact absurd ((hsame _).mpr (List.mem_singleton.mpr rfl)) (by simp)

end Ggid.Policy
