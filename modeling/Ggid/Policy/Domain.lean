import Ggid.Go.Value

/-!
# Policy engine — domain models

The records of `services/policy/internal/domain` and the error type of
`pkg/errors`, field for field. The enumerations are Go string types: the named
constants are constructors and every other string a caller may pass is `other`.
-/

namespace Ggid.Policy

open Ggid.Go

/-! ## Enumerations -/

inductive ScopeType where
  | global | organization | department | team | resource
  | other (raw : String)
  deriving DecidableEq

inductive Effect where
  | allow | deny
  | other (raw : String)
  deriving DecidableEq

/-- `domain.Effect(s)`. -/
def Effect.ofString (s : String) : Effect :=
  if s = "allow" then .allow else if s = "deny" then .deny else .other s

inductive PrincipalType where
  | user | role | group
  | other (raw : String)
  deriving DecidableEq

/-! ## Records -/

structure Role where
  id           : UUID
  tenantID     : UUID
  key          : String
  name         : String
  description  : String
  systemRole   : Bool
  parentRoleID : Option UUID
  createdAt    : Time
  updatedAt    : Time
  deriving DecidableEq

structure Permission where
  id           : UUID
  tenantID     : UUID
  key          : String
  name         : String
  resourceType : String
  action       : String
  description  : String
  systemPerm   : Bool
  level        : String
  deriving DecidableEq

structure RolePermission where
  roleID       : UUID
  permissionID : UUID
  deriving DecidableEq

structure UserRole where
  userID    : UUID
  roleID    : UUID
  scopeType : ScopeType
  scopeID   : UUID
  grantedBy : UUID
  expiresAt : Option Time
  createdAt : Time
  deriving DecidableEq

set_option linter.dupNamespace false in
structure Policy where
  id          : UUID
  tenantID    : UUID
  name        : String
  description : String
  effect      : Effect
  actions     : List String
  resources   : List String
  conditions  : GoMap
  priority    : Int
  createdAt   : Time

structure PolicyAttachment where
  policyID      : UUID
  principalType : PrincipalType
  principalID   : UUID
  deriving DecidableEq

structure CheckRequest where
  userID       : UUID
  tenantID     : UUID
  resourceType : String
  action       : String
  resource     : String
  conditions   : GoMap

structure CheckResult where
  allowed   : Bool
  reason    : String
  matchedBy : String
  deriving DecidableEq

/-! ## Errors -/

inductive ErrorCode where
  | internal | notFound | alreadyExists | invalidArgument | unauthenticated
  | permissionDenied | resourceExhausted | failedPrecondition
  deriving DecidableEq

/-- `*errors.GGIDError`; `driver` is a plain error handed up by the database
driver. -/
inductive GGIDError where
  | driver (message : String)
  | new (code : ErrorCode) (message : String)
  | wrap (code : ErrorCode) (message : String) (cause : GGIDError)
  deriving DecidableEq

/-- `errors.NotFound`. -/
def GGIDError.notFound (resource id : String) : GGIDError :=
  .new .notFound (resource ++ " not found: " ++ id)

end Ggid.Policy
