import Ggid.Lib.DenyOverrides
import Ggid.Policy.Match
import Ggid.Policy.Repository

/-!
# Policy engine — `Evaluator.Check`

The permission evaluation of `service/evaluator.go`: resolve the user's roles,
match their permissions (RBAC), run over the attached and the tenant-global
policies (ABAC), and combine with deny overriding allow. The evaluator is
written against three reader interfaces; `Evaluator.pg` plugs the PostgreSQL
repositories in.

Decision logging (`logDecision`) writes to a ring buffer nothing here reads and
is left out.
-/

namespace Ggid.Policy

open Ggid.Go Ggid.Lib

/-! ## Readers -/

structure RoleReader where
  getAncestorChain   : UUID → Except GGIDError (List UUID)
  getRolePermissions : List UUID → UUID → Except GGIDError (List Permission)

structure UserRoleReader where
  getUserRoles : UUID → UUID → Except GGIDError (List UserRole)

structure PolicyReader where
  getPoliciesForUserAndRoles : UUID → List UUID → Except GGIDError (List Policy)
  getTenantPolicies          : UUID → Except GGIDError (List Policy)

structure Evaluator where
  roleReader     : RoleReader
  userRoleReader : Option UserRoleReader
  policyReader   : PolicyReader

/-! ## The evaluation -/

/-- `errors.Wrap(errors.ErrInternal, message, err)` on the error path. -/
def wrapErr {α : Type} (message : String) : Except GGIDError α → Except GGIDError α
  | .ok a => .ok a
  | .error err => .error (.wrap .internal message err)

/-- The expiry filter: an assignment is dropped once its expiry lies in the past. -/
def unexpired (now : Time) (ur : UserRole) : Bool :=
  match ur.expiresAt with
  | none => true
  | some t => !decide (t < now)

/-- The role set: every assigned role with its ancestors, each role once. -/
def resolveRoles (reader : RoleReader) : List UUID → Except GGIDError (List UUID)
  | [] => .ok []
  | roleID :: rest => do
    let chain ← wrapErr "resolve role chain" (reader.getAncestorChain roleID)
    let others ← resolveRoles reader rest
    return (chain ++ others).dedup

/-- The RBAC test for one permission. -/
def permissionMatches (req : CheckRequest) (perm : Permission) : Bool :=
  (perm.resourceType = req.resourceType && perm.action = req.action) ||
    (perm.resourceType = req.resourceType && perm.action = "*")

/-- The accumulators of the ABAC loop. -/
structure AbacState where
  abacDenied  : Bool
  abacAllowed : Bool
  denyReason  : String
  allowReason : String

def AbacState.init : AbacState := ⟨false, false, "", ""⟩

def AbacState.deny (st : AbacState) (p : Policy) : AbacState :=
  { st with abacDenied := true, denyReason := "policy:" ++ p.name }

def AbacState.allow (st : AbacState) (p : Policy) : AbacState :=
  { st with abacAllowed := true, allowReason := "policy:" ++ p.name }

/-- Does the policy speak about this action and resource at all? -/
def targets (req : CheckRequest) (p : Policy) : Bool :=
  matchActions p.actions req.action &&
    !(req.resource ≠ "" && !p.resources.isEmpty && !matchResources p.resources req.resource)

/-- The effect switch at the end of the loop body. -/
def applyEffect (st : AbacState) (p : Policy) : AbacState :=
  match p.effect with
  | .deny => st.deny p
  | .allow => st.allow p
  | .other _ => st

/-- One iteration of the ABAC loop. -/
def abacStep (std : Stdlib) (req : CheckRequest) (st : AbacState) (p : Policy) : AbacState :=
  if !targets req p then st
  else if !p.conditions.isEmpty then
    -- fail-closed: a conditional deny applies to a request without conditions
    if p.effect = .deny && req.conditions.isEmpty then st.deny p
    else if !matchConditions std p.conditions req.conditions then st
    else applyEffect st p
  else applyEffect st p

/-- Step 5: deny wins, then RBAC, then ABAC. -/
def combineDecisions (st : AbacState) (rbacAllowed : Bool) : CheckResult :=
  if st.abacDenied then ⟨false, "explicitly denied by " ++ st.denyReason, st.denyReason⟩
  else if rbacAllowed then ⟨true, "allowed by RBAC role permission", "rbac"⟩
  else if st.abacAllowed then ⟨true, "allowed by " ++ st.allowReason, st.allowReason⟩
  else ⟨false, "no matching allow rule found", ""⟩

/-- The tenant-level policies, read only under a tenant. -/
def readTenantPolicies (reader : PolicyReader) (tenantID : UUID) :
    Except GGIDError (List Policy) :=
  if tenantID ≠ UUID.nil then wrapErr "get tenant policies" (reader.getTenantPolicies tenantID)
  else .ok []

/-- Steps 2 to 5, for a user with at least one unexpired assignment. -/
def checkRoles (std : Stdlib) (e : Evaluator) (req : CheckRequest) (userRoleIDs : List UUID) :
    Except GGIDError CheckResult := do
  let resolvedIDs ← resolveRoles e.roleReader userRoleIDs
  let perms ← wrapErr "get role permissions"
    (e.roleReader.getRolePermissions resolvedIDs req.tenantID)
  let abacPolicies ← wrapErr "get abac policies"
    (e.policyReader.getPoliciesForUserAndRoles req.userID resolvedIDs)
  let tenantPolicies ← readTenantPolicies e.policyReader req.tenantID
  let st := (abacPolicies ++ tenantPolicies).foldl (abacStep std req) AbacState.init
  return combineDecisions st (perms.any (permissionMatches req))

/-- `Evaluator.Check` at the instant `now`. -/
def Evaluator.check (std : Stdlib) (e : Evaluator) (now : Time) (req : CheckRequest) :
    Except GGIDError CheckResult :=
  if req.userID = UUID.nil then .ok ⟨false, "anonymous user", ""⟩
  else if req.tenantID = UUID.nil then .ok ⟨false, "missing tenant context", ""⟩
  else match e.userRoleReader with
    | none => .ok ⟨false, "no role reader configured", ""⟩
    | some userRoleReader => do
      let userRoles ← wrapErr "get user roles"
        (userRoleReader.getUserRoles req.userID req.tenantID)
      let userRoleIDs := (userRoles.filter (unexpired now)).map UserRole.roleID
      if userRoleIDs.isEmpty then return ⟨false, "user has no role assignments", ""⟩
      else checkRoles std e req userRoleIDs

/-- The evaluator over the PostgreSQL repositories. -/
def Evaluator.pg (db : Database) : Evaluator where
  roleReader :=
    { getAncestorChain := fun id => .ok (RoleRepo.getAncestorChain db id)
      getRolePermissions := fun ids t => .ok (RoleRepo.getRolePermissions db ids t) }
  userRoleReader := some
    { getUserRoles := fun u t => .ok (UserRoleRepo.getUserRoles db u t) }
  policyReader :=
    { getPoliciesForUserAndRoles := fun u ids =>
        .ok (PolicyRepo.getPoliciesForUserAndRoles db u ids)
      getTenantPolicies := fun t => .ok (PolicyRepo.getTenantPolicies db t) }

end Ggid.Policy
