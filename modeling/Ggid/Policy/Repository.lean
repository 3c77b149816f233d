import Mathlib.Data.List.Sort
import Ggid.Lib.Table
import Ggid.Lib.Closure
import Ggid.Policy.Domain

/-!
# Policy engine — the PostgreSQL repositories

The tables of `000002_create_policy_tables.up.sql` and the statements
`services/policy/internal/repository` runs against them. A statement either
succeeds or is refused by a constraint of the schema (primary key, `UNIQUE`,
foreign key, column length, enumeration type); a refused statement changes
nothing, which the `Except` result states.

Row-level security plays no part: the service connects as the database's
superuser and never sets `app.tenant_id`.
-/

namespace Ggid.Policy

open Ggid.Go Ggid.Lib

/-! ## Tables -/

def UserRole.key (ur : UserRole) : UUID × UUID × ScopeType × UUID :=
  (ur.userID, ur.roleID, ur.scopeType, ur.scopeID)

structure Database where
  roles             : Table Role.id
  permissions       : Table Permission.id
  rolePermissions   : Table (fun rp : RolePermission => (rp.roleID, rp.permissionID))
  userRoles         : Table UserRole.key
  policies          : Table Policy.id
  policyAttachments : Table (fun a : PolicyAttachment =>
                        (a.policyID, a.principalType, a.principalID))

/-- The database before its first write. -/
def Database.empty : Database :=
  ⟨.empty, .empty, .empty, .empty, .empty, .empty⟩

/-! ## Constraint violations -/

/-- A statement refused by the database, as the driver reports it. -/
def violation (constraint : String) : GGIDError := .driver constraint

/-- `mapErr` on a query that returned no row. -/
def mapErrNoRows (resource id : String) : GGIDError := .notFound resource id

/-- `mapErr` on any other failure. -/
def mapErr (err : GGIDError) : GGIDError := .wrap .internal "database error" err

/-! ## `RoleRepository` -/

namespace RoleRepo

/-- The foreign key `parent_role_id REFERENCES roles(id)`. The caller names the
parent before the database draws the new row's id, so a new row never names
itself. -/
def parentExists (db : Database) : Option UUID → Bool
  | none => true
  | some p => (db.roles.find? p).isSome

/-- The `UNIQUE (tenant_id, key)` constraint. -/
def keyTaken (db : Database) (tenantID : UUID) (key : String) : Bool :=
  db.roles.rows.any fun r => r.tenantID = tenantID && r.key = key

/-- `Create`: the id is drawn by `gen_random_uuid()`, the timestamps by `NOW()`. -/
def create (db : Database) (newID : UUID) (now : Time) (role : Role) :
    Except GGIDError (Role × Database) :=
  let row := { role with id := newID, createdAt := now, updatedAt := now }
  if 64 < role.key.length ∨ 100 < role.name.length then
    .error (violation "value too long for type character varying")
  else if keyTaken db role.tenantID role.key then
    .error (violation "roles_tenant_id_key_key")
  else if !parentExists db role.parentRoleID then
    .error (violation "roles_parent_role_id_fkey")
  else match db.roles.insert? row with
    | none => .error (violation "roles_pkey")
    | some roles => .ok (row, { db with roles := roles })

/-- `GetByID`: the row is looked up by id *and* tenant. -/
def getByID (db : Database) (id tenantID : UUID) : Except GGIDError Role :=
  match db.roles.find? id with
  | some r => if r.tenantID = tenantID then .ok r else .error (mapErrNoRows "role" id.string)
  | none => .error (mapErrNoRows "role" id.string)

theorem getByID_ok {db : Database} {id tenantID : UUID} {r : Role}
    (h : getByID db id tenantID = .ok r) :
    r ∈ db.roles ∧ r.id = id ∧ r.tenantID = tenantID := by
  unfold getByID at h
  split at h
  · rename_i q hfind
    split at h
    · rename_i htenant
      rw [Except.ok.injEq] at h
      subst h
      obtain ⟨hq, hid⟩ := Table.find?_eq_some_iff.mp hfind
      exact ⟨hq, hid, htenant⟩
    · exact absurd h (by simp)
  · exact absurd h (by simp)

/-- The rows `Update` and `Delete` touch. -/
def editable (id tenantID : UUID) (r : Role) : Bool :=
  r.id = id && r.tenantID = tenantID && !r.systemRole

/-- `Update`: name, description and parent of a non-system role. -/
def update (db : Database) (now : Time) (role : Role) (tenantID : UUID) :
    Except GGIDError (Role × Database) :=
  if !db.roles.rows.any (editable role.id tenantID) then
    .error (mapErrNoRows "role" role.id.string)
  else if 100 < role.name.length then
    .error (mapErr (violation "value too long for type character varying"))
  else if !parentExists db role.parentRoleID then
    .error (mapErr (violation "roles_parent_role_id_fkey"))
  else .ok ({ role with updatedAt := now }, { db with
    roles := db.roles.update (editable role.id tenantID)
      (fun r => { r with
        name := role.name, description := role.description,
        parentRoleID := role.parentRoleID, updatedAt := now })
      (fun _ => rfl) })

/-- `Delete`: the children lose their parent (`ON DELETE SET NULL`), grants and
assignments of the role go with it (`ON DELETE CASCADE`). -/
def delete (db : Database) (id tenantID : UUID) : Except GGIDError Database :=
  if !db.roles.rows.any (editable id tenantID) then
    .error (.notFound "role" id.string)
  else .ok { db with
    roles := (db.roles.delete (editable id tenantID)).update
      (fun r => r.parentRoleID = some id) (fun r => { r with parentRoleID := none }) (fun _ => rfl),
    rolePermissions := db.rolePermissions.delete fun rp => rp.roleID = id,
    userRoles := db.userRoles.delete fun ur => ur.roleID = id }

/-- The columns the recursive query carries. -/
abbrev TreeRow := UUID × Option UUID

def treeRow (r : Role) : TreeRow := (r.id, r.parentRoleID)

/-- The recursive term: `roles r JOIN role_tree rt ON r.id = rt.parent_role_id`. -/
def parentRows (db : Database) (row : TreeRow) : List TreeRow :=
  (db.roles.rows.filter fun r => row.2 = some r.id).map treeRow

/-- The seed: the role itself, if its tenant is the tenant of the role. -/
def seedRows (db : Database) (roleID : UUID) : List TreeRow :=
  (db.roles.rows.filter fun r =>
    r.id = roleID && (db.roles.find? roleID).any fun q => r.tenantID = q.tenantID).map treeRow

/-- `GetAncestorChain`: `WITH RECURSIVE … UNION …`, run until a round adds
nothing, which happens within as many rounds as there are roles. -/
def getAncestorChain (db : Database) (roleID : UUID) : List UUID :=
  (closure (parentRows db) db.roles.rows.length (seedRows db roleID)).map Prod.fst

/-- `GetRolePermissions`: permissions of the tenant, or system permissions,
granted to one of the roles. -/
def getRolePermissions (db : Database) (roleIDs : List UUID) (tenantID : UUID) :
    List Permission :=
  db.rolePermissions.rows.filterMap fun rp =>
    if roleIDs.contains rp.roleID then
      (db.permissions.find? rp.permissionID).filter fun p => p.tenantID = tenantID || p.systemPerm
    else none

/-- The order in which the database hands out rows that `ORDER BY` does not tell
apart. -/
structure Scan where
  order : List Role → List Role
  perm  : ∀ rows, (order rows).Perm rows

/-- `ListByTenant`: the tenant's roles, newest first. -/
def listByTenant (scan : Scan) (db : Database) (tenantID : UUID) (limit offset : Nat) : List Role :=
  (((scan.order (db.roles.rows.filter fun r => r.tenantID = tenantID)).insertionSort
    fun a b => b.createdAt ≤ a.createdAt).drop offset).take limit

/-- The `EXISTS` clause of `GrantPermissions`: a permission of the role's tenant or
a system permission. -/
def grantable (db : Database) (roleID permID : UUID) : Bool :=
  (db.permissions.find? permID).any fun p =>
    (db.roles.find? roleID).any (fun r => p.tenantID = r.tenantID) || p.systemPerm

/-- `GrantPermissions`: `INSERT … SELECT … ON CONFLICT DO NOTHING`. -/
def grantPermissions (db : Database) (roleID : UUID) (permissionIDs : List UUID) :
    Except GGIDError Database :=
  let granted := permissionIDs.filter (grantable db roleID)
  if permissionIDs.isEmpty then .ok db
  else if !granted.isEmpty && (db.roles.find? roleID).isNone then
    .error (violation "role_permissions_role_id_fkey")
  else .ok { db with
    rolePermissions := granted.foldl
      (fun t permID => t.upsert ⟨roleID, permID⟩ (fun rp => rp) (fun _ => rfl))
      db.rolePermissions }

/-- `RevokePermissions`. -/
def revokePermissions (db : Database) (roleID : UUID) (permissionIDs : List UUID) : Database :=
  { db with
    rolePermissions := db.rolePermissions.delete fun rp =>
      rp.roleID = roleID && permissionIDs.contains rp.permissionID }

end RoleRepo

/-! ## `PermissionRepository` -/

namespace PermissionRepo

/-- `Create`: the id is drawn by `gen_random_uuid()`; the `level` column is not
named in the insert, so the row carries the column's default. -/
def create (db : Database) (newID : UUID) (level : String) (perm : Permission) :
    Except GGIDError (Permission × Database) :=
  if 128 < perm.key.length ∨ 100 < perm.name.length ∨ 50 < perm.resourceType.length ∨
      50 < perm.action.length then
    .error (violation "value too long for type character varying")
  else if db.permissions.rows.any fun p => p.tenantID = perm.tenantID && p.key = perm.key then
    .error (violation "permissions_tenant_id_key_key")
  else match db.permissions.insert? { perm with id := newID, level := level } with
    | none => .error (violation "permissions_pkey")
    | some permissions => .ok ({ perm with id := newID }, { db with permissions := permissions })

end PermissionRepo

/-! ## `UserRoleRepository` -/

namespace UserRoleRepo

/-- The values of the `scope_type` enumeration. -/
def validScope : ScopeType → Bool
  | .other _ => false
  | _ => true

/-- `Assign`: an upsert on `(user_id, role_id, scope_type, scope_id)` that
overwrites `granted_by` and `expires_at`. -/
def assign (db : Database) (now : Time) (ur : UserRole) : Except GGIDError Database :=
  if !validScope ur.scopeType then .error (violation "invalid input value for enum scope_type")
  else if (db.roles.find? ur.roleID).isNone then .error (violation "user_roles_role_id_fkey")
  else .ok { db with
    userRoles := db.userRoles.upsert { ur with createdAt := now }
      (fun old => { old with grantedBy := ur.grantedBy, expiresAt := ur.expiresAt })
      (fun _ => rfl) }

def hasKey (userID roleID : UUID) (scopeType : ScopeType) (scopeID : UUID) (ur : UserRole) : Bool :=
  ur.key = (userID, roleID, scopeType, scopeID)

/-- `Revoke`: removes the assignment, standing or temporary. -/
def revoke (db : Database) (userID roleID : UUID) (scopeType : ScopeType) (scopeID : UUID) :
    Except GGIDError Database :=
  if !validScope scopeType then .error (violation "invalid input value for enum scope_type")
  else .ok { db with userRoles := db.userRoles.delete (hasKey userID roleID scopeType scopeID) }

/-- `RevokeTemporaryOnly`: the same, restricted to `expires_at IS NOT NULL`. -/
def revokeTemporaryOnly (db : Database) (userID roleID : UUID) (scopeType : ScopeType)
    (scopeID : UUID) : Except GGIDError Database :=
  if !validScope scopeType then .error (violation "invalid input value for enum scope_type")
  else .ok { db with
    userRoles := db.userRoles.delete fun ur =>
      hasKey userID roleID scopeType scopeID ur && ur.expiresAt.isSome }

/-- `GetUserRoles`: the join keeps assignments whose *role* belongs to the tenant
or is a system role; the assignment's own scope is not looked at. -/
def getUserRoles (db : Database) (userID tenantID : UUID) : List UserRole :=
  db.userRoles.rows.filter fun ur =>
    ur.userID = userID &&
      (db.roles.find? ur.roleID).any fun r => r.tenantID = tenantID || r.systemRole

end UserRoleRepo

/-! ## `PolicyRepository` -/

namespace PolicyRepo

/-- `Create`: the insert names no `id` column, so the id is drawn by
`gen_random_uuid()` whatever `policy.ID` was. `actions` and `resources` are
`none` for a nil slice, which the driver sends as `NULL`. -/
def create (db : Database) (newID : UUID) (now : Time) (policy : Policy)
    (actions resources : Option (List String)) : Except GGIDError (Policy × Database) :=
  if 100 < policy.name.length then .error (violation "value too long for type character varying")
  else if policy.priority < -2 ^ 31 ∨ 2 ^ 31 ≤ policy.priority then
    .error (violation "integer out of range")
  else if db.policies.rows.any fun p => p.tenantID = policy.tenantID && p.name = policy.name then
    .error (violation "policies_tenant_id_name_key")
  else match actions, resources with
    | some actions, some resources =>
      let row := { policy with
        id := newID, actions := actions, resources := resources, createdAt := now }
      match db.policies.insert? row with
      | none => .error (violation "policies_pkey")
      | some policies => .ok (row, { db with policies := policies })
    | _, _ => .error (violation "null value violates not-null constraint")

/-- `GetByID`, scoped to the tenant. -/
def getByID (db : Database) (tenantID id : UUID) : Except GGIDError Policy :=
  match db.policies.find? id with
  | some p => if p.tenantID = tenantID then .ok p else .error (mapErrNoRows "policy" id.string)
  | none => .error (mapErrNoRows "policy" id.string)

/-- `Delete`: the attachments go with the policy (`ON DELETE CASCADE`). -/
def delete (db : Database) (tenantID id : UUID) : Except GGIDError Database :=
  if !db.policies.rows.any fun p => p.id = id && p.tenantID = tenantID then
    .error (.notFound "policy" id.string)
  else .ok { db with
    policies := db.policies.delete fun p => p.id = id && p.tenantID = tenantID,
    policyAttachments := db.policyAttachments.delete fun a => a.policyID = id }

def attachedToUserOrRole (userID : UUID) (roleIDs : List UUID) (a : PolicyAttachment) : Bool :=
  (a.principalType = .user && a.principalID = userID) ||
    (a.principalType = .role && roleIDs.contains a.principalID)

/-- `GetPoliciesForUserAndRoles`: no tenant filter. -/
def getPoliciesForUserAndRoles (db : Database) (userID : UUID) (roleIDs : List UUID) :
    List Policy :=
  db.policies.rows.filter fun p =>
    db.policyAttachments.rows.any fun a => a.policyID = p.id && attachedToUserOrRole userID roleIDs a

/-- `GetTenantPolicies`: the tenant's policies without any attachment. -/
def getTenantPolicies (db : Database) (tenantID : UUID) : List Policy :=
  db.policies.rows.filter fun p =>
    p.tenantID = tenantID && !db.policyAttachments.rows.any fun a => a.policyID = p.id

end PolicyRepo

end Ggid.Policy
