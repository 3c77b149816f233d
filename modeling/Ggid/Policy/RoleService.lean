import Ggid.Policy.Repository

/-!
# Policy engine — `RoleService`

The role operations of `service/role_service.go` over the role and assignment
repositories. The tenant of a call is the one its context carries
(`tenantIDFromHTTPRequest`); the id and the timestamps of a new row come from
the database. An operation that fails leaves the database as it was, which its
`Except` result states.
-/

namespace Ggid.Policy.RoleService

open Ggid.Go Ggid.Lib

-- ---------------------------------------------------------------------------
-- Reserved keys and names
-- ---------------------------------------------------------------------------

def reservedSystemRoles : List String :=
  ["platform:admin", "tenant:admin", "tenant:auditor", "user:self"]

def reservedSystemNames : List String :=
  ["platform:admin", "tenant:admin", "tenant:auditor", "administrator", "platform admin",
    "super admin", "system admin"]

/-- `reserved[strings.ToLower(strings.TrimSpace(s))]`. -/
def isReserved (std : Stdlib) (reserved : List String) (s : String) : Bool :=
  reserved.contains (std.toLower (std.trimSpace s))

-- ---------------------------------------------------------------------------
-- Roles
-- ---------------------------------------------------------------------------

def createRole (std : Stdlib) (db : Database) (newID : UUID) (now : Time) (tenantID : UUID)
    (key name description : String) (parentRoleID : Option UUID) :
    Except GGIDError (Role × Database) :=
  if isReserved std reservedSystemRoles key then
    .error (.new .invalidArgument "role key is reserved for system roles")
  else if isReserved std reservedSystemNames name then
    .error (.new .invalidArgument "role name is reserved for system roles")
  else
    let role : Role := ⟨UUID.nil, tenantID, key, name, description, false, parentRoleID,
      Time.zero, Time.zero⟩
    match RoleRepo.create db newID now role with
    | .error err => .error (.wrap .internal "create role" err)
    | .ok created => .ok created

def getRole (db : Database) (tenantID id : UUID) : Except GGIDError Role :=
  RoleRepo.getByID db id tenantID

/-- `maxDepth`. -/
def maxDepth : Nat := 100

/-- The walk up the parent chain: at most `n` roles are looked at, each of which
must not have been visited. Returns the role the walk stopped at. -/
def walk (db : Database) (tenantID : UUID) : Nat → List UUID → UUID → Except GGIDError UUID
  | 0, _, current => .ok current
  | n + 1, visited, current =>
    if visited.contains current then
      .error (.new .failedPrecondition "cycle detected in role hierarchy")
    else match RoleRepo.getByID db current tenantID with
      | .error err => .error (.wrap .notFound "parent role not found" err)
      | .ok p =>
        match p.parentRoleID with
        -- reached the root
        | none => .ok current
        | some next => walk db tenantID n (current :: visited) next

def setParent (db : Database) (now : Time) (tenantID roleID parentID : UUID) :
    Except GGIDError (Role × Database) :=
  if roleID = parentID then .error (.new .invalidArgument "a role cannot be its own parent")
  else match walk db tenantID maxDepth [roleID] parentID with
  | .error err => .error err
  | .ok current =>
    match RoleRepo.getByID db current tenantID with
    | .error err => .error (.wrap .internal "verify parent chain depth" err)
    | .ok lastRole =>
      if lastRole.parentRoleID.isSome then
        .error (.new .invalidArgument "parent chain exceeds max depth, cycle cannot be verified")
      else match RoleRepo.getByID db roleID tenantID with
      | .error err => .error err
      | .ok role =>
        match RoleRepo.getByID db parentID tenantID with
        | .error err => .error (.wrap .notFound "parent role not found" err)
        | .ok parent =>
          if parent.tenantID ≠ role.tenantID then
            .error (.new .permissionDenied "parent role must belong to the same tenant")
          else
            match RoleRepo.update db now { role with parentRoleID := some parentID } tenantID with
            | .error err => .error (.wrap .internal "update role parent" err)
            | .ok updated => .ok updated

/-- The write both direct paths of `UpdateRole` end in. -/
def storeRole (db : Database) (now : Time) (tenantID : UUID) (role : Role) :
    Except GGIDError (Role × Database) :=
  match RoleRepo.update db now role tenantID with
  | .error err => .error (.wrap .internal "update role" err)
  | .ok updated => .ok updated

/-- `UpdateRole`. A new parent goes through `SetParent`, which re-reads the role, so
a name or description sent along with it is not stored. -/
def updateRole (std : Stdlib) (db : Database) (now : Time) (tenantID id : UUID)
    (name description : Option String) (parentRoleID : Option UUID) :
    Except GGIDError (Role × Database) :=
  match RoleRepo.getByID db id tenantID with
  | .error err => .error err
  | .ok role =>
    if name.any (isReserved std reservedSystemNames) then
      .error (.new .invalidArgument "role name is reserved for system roles")
    else
      let role := { role with
        name := name.getD role.name, description := description.getD role.description }
      match parentRoleID with
      | none => storeRole db now tenantID role
      | some parentID =>
        -- the nil id clears the parent
        if parentID = UUID.nil then storeRole db now tenantID { role with parentRoleID := none }
        else setParent db now tenantID id parentID

def deleteRole (db : Database) (tenantID id : UUID) : Except GGIDError Database :=
  match RoleRepo.getByID db id tenantID with
  | .error err => .error err
  | .ok role =>
    if role.systemRole then .error (.new .failedPrecondition "cannot delete system role")
    else RoleRepo.delete db id tenantID

-- ---------------------------------------------------------------------------
-- Assignments
-- ---------------------------------------------------------------------------

/-- The role must belong to the tenant the assignment is scoped to. -/
def outsideScope (role : Role) (scopeID : UUID) : Bool :=
  scopeID ≠ UUID.nil && role.tenantID ≠ UUID.nil && role.tenantID ≠ scopeID

def assignRole (db : Database) (now : Time) (tenantID userID roleID : UUID) (scopeType : ScopeType)
    (scopeID grantedBy : UUID) (expiresAt : Option Time) : Except GGIDError Database :=
  if userID = grantedBy then .error (.new .permissionDenied "cannot assign roles to yourself")
  else match RoleRepo.getByID db roleID tenantID with
  | .error err => .error err
  | .ok role =>
    if outsideScope role scopeID then
      .error (.new .permissionDenied "role does not belong to the target tenant")
    else UserRoleRepo.assign db now
      ⟨userID, roleID, scopeType, scopeID, grantedBy, expiresAt, Time.zero⟩

def revokeRole (db : Database) (tenantID userID roleID : UUID) (scopeType : ScopeType)
    (scopeID : UUID) : Except GGIDError Database :=
  match RoleRepo.getByID db roleID tenantID with
  | .error err => .error err
  | .ok role =>
    if outsideScope role scopeID then
      .error (.new .permissionDenied "role does not belong to the target tenant")
    else UserRoleRepo.revoke db userID roleID scopeType scopeID

/-- `RevokeRoleTemporaryOnly`: no ownership check, standing rows are kept. -/
def revokeRoleTemporaryOnly (db : Database) (userID roleID : UUID) (scopeType : ScopeType)
    (scopeID : UUID) : Except GGIDError Database :=
  UserRoleRepo.revokeTemporaryOnly db userID roleID scopeType scopeID

-- ---------------------------------------------------------------------------
-- Permissions
-- ---------------------------------------------------------------------------

def reservedPermissionKeys : List String :=
  ["admin", "system:admin", "superadmin", "platform:admin"]

def createPermission (db : Database) (newID : UUID) (level : String) (perm : Permission) :
    Except GGIDError (Permission × Database) :=
  if reservedPermissionKeys.contains perm.key then
    .error (.new .invalidArgument ("permission key '" ++ perm.key ++ "' is reserved"))
  else match PermissionRepo.create db newID level perm with
  | .error err => .error (.wrap .internal "create permission" err)
  | .ok created => .ok created

def grantPermissionsToRole (db : Database) (tenantID roleID : UUID) (permissionIDs : List UUID) :
    Except GGIDError Database :=
  match RoleRepo.getByID db roleID tenantID with
  | .error err => .error (.wrap .notFound "role not found" err)
  | .ok _ => RoleRepo.grantPermissions db roleID permissionIDs

def revokePermissionsFromRole (db : Database) (tenantID roleID : UUID)
    (permissionIDs : List UUID) : Except GGIDError Database :=
  match RoleRepo.getByID db roleID tenantID with
  | .error err => .error (.wrap .notFound "role not found" err)
  | .ok _ => .ok (RoleRepo.revokePermissions db roleID permissionIDs)

/-- The page of `ListByTenant` the hierarchy is rebuilt from. -/
def hierarchyPage : Nat := 500

/-- The loop of `GetEffectivePermissions`: `visited` is `allRoleIDs`. Every round
that goes on visits another role of the listing, so one round more than the
listing has roles is all there can be. -/
def walkUp (allRoles : List Role) : Nat → List UUID → UUID → List UUID
  | 0, visited, _ => visited
  | n + 1, visited, current =>
    if current = UUID.nil ∨ current ∈ visited then visited
    else match (allRoles.find? fun r => r.id = current).bind Role.parentRoleID with
      -- not listed, or a root
      | none => visited ++ [current]
      | some parent => walkUp allRoles n (visited ++ [current]) parent

def getEffectivePermissions (scan : RoleRepo.Scan) (db : Database) (tenantID roleID : UUID) :
    Except GGIDError (List Permission) :=
  match RoleRepo.getByID db roleID tenantID with
  | .error err => .error err
  | .ok role =>
    let allRoles := RoleRepo.listByTenant scan db role.tenantID hierarchyPage 0
    let allRoleIDs := walkUp allRoles (allRoles.length + 1) [] roleID
    if allRoleIDs.isEmpty then .ok []
    else .ok (RoleRepo.getRolePermissions db allRoleIDs role.tenantID)

end Ggid.Policy.RoleService
