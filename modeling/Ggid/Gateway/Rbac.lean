import Ggid.Gateway.Request

/-!
# Gateway — `RequireAdminScope`

The gate in front of the management endpoints. It decides by the rules of the database where
they are loaded (`CheckAccess`), else, or where no rule matches, by a list of path prefixes and
the scopes of the caller. Public paths are exempt.

* `isAdminEndpoint_iff`        — the prefix list as a condition on the path;
* `isAdminEndpoint_of_platformOnly` — platform-only paths are on it, unless they are exempt;
* `platformOnly_iff`           — when a platform-only path takes `platform:admin`;
* `tenant_admin_passes`        — a tenant admin who passes, with a token and with a key.
-/

namespace Ggid.Gateway

open Ggid.Go

-- ---------------------------------------------------------------------------
-- Paths
-- ---------------------------------------------------------------------------

/-- Paths that skip JWT verification; `New` makes them the exempt ones. -/
def publicPaths : List String :=
  ["/api/v1/auth/login", "/api/v1/auth/verify", "/api/v1/auth/register",
    "/api/v1/auth/password/forgot", "/api/v1/auth/password/reset",
    "/api/v1/auth/password/strength", "/api/v1/auth/mfa/verify", "/api/v1/auth/mfa/challenge",
    "/api/v1/auth/mfa/radius/verify", "/api/v1/auth/mfa/yubikey/verify",
    "/api/v1/auth/mfa/methods", "/api/v1/auth/otp/send", "/api/v1/auth/otp/verify",
    "/api/v1/auth/sms-otp/", "/api/v1/auth/email-otp/", "/api/v1/auth/webauthn/login/begin",
    "/api/v1/auth/webauthn/login/finish", "/api/v1/identity/tenants/self-register",
    "/api/v1/auth/social/", "/api/v1/providers/status", "/api/v1/oauth/clients/gcid-console",
    "/api/v1/healthz", "/healthz", "/api/v1/identity/healthz", "/api/v1/auth/healthz",
    "/api/v1/oauth/healthz", "/api/v1/policy/healthz", "/api/v1/org/healthz",
    "/api/v1/audit/healthz", "/api/v1/system/initialized", "/api/v1/system/bootstrap",
    "/api/v1/system/status", "/api/v1/tenants/resolve", "/api/v1/dashboard", "/api/v1/health",
    "/api/v1/oauth/jwks", "/api/v1/oauth/.well-known/", "/api/v1/oauth/token",
    "/api/v1/oauth/authorize", "/api/v1/oauth/revoke", "/api/v1/oauth/introspect",
    "/api/v1/oauth/device", "/api/v1/oauth/register", "/api/v1/oauth/backchannel",
    "/api/v1/oauth/userinfo", "/api/v1/auth/saml/", "/scim/v2/", "/oauth/authorize",
    "/oauth/token", "/oauth/revoke", "/oauth/introspect", "/oauth/device", "/oauth/register",
    "/oauth/jwks", "/oauth/.well-known/", "/oauth/consent", "/saml/metadata", "/saml/acs",
    "/saml/login", "/saml/sso", "/saml/idp/sso", "/saml/idp/metadata", "/.well-known/", "/docs",
    "/api-docs", "/login", "/register", "/forgot-password", "/reset-password", "/device"]

/-- `isRBACExempt`. -/
def isRBACExempt (path : List Char) : Bool :=
  publicPaths.any fun p => Strings.hasPrefix path p.toList

def defaultAdminPrefixes : List String :=
  ["/api/v1/users", "/api/v1/audit/", "/api/v1/policies", "/api/v1/policy/", "/api/v1/webhooks",
    "/api/v1/oauth/clients", "/api/v1/roles", "/api/v1/admin/", "/api/v1/settings/",
    "/api/v1/system/", "/api/v1/tenants", "/api/v1/impersonate", "/api/v1/auth/impersonate",
    "/api/v1/auth/mfa/factors", "/api/v1/auth/mfa/admin/", "/api/v1/auth/credentials/",
    "/api/v1/auth/credential-stuffing/", "/api/v1/auth/registration/config",
    "/api/v1/mdm/devices", "/api/v1/identity/devices/", "/api/v1/access-reviews",
    "/api/v1/gateway/", "/api/v1/activity", "/api/v1/exports", "/api/v1/providers/config",
    "/api/v1/api-keys", "/api/v1/access-keys", "/api/v1/identity/dashboard",
    "/api/v1/auth/sessions/force-logout", "/api/v1/auth/sessions/limit"]

/-- `SelfServicePaths`. -/
def selfServicePaths : List String := ["/api/v1/users/me", "/api/v1/users/me/permissions"]

/-- The prefix with a slash at its end. -/
def anchored (pre : List Char) : List Char :=
  if Strings.hasSuffix pre ['/'] then pre else pre ++ ['/']

/-- The path is the prefix, or below it. -/
def atOrBelow (path pre : List Char) : Bool := path == pre || Strings.hasPrefix path (anchored pre)

/-- The public lookup of tenants. -/
def isTenantResolve (path : List Char) : Bool :=
  Strings.hasPrefix path "/api/v1/tenants/resolve".toList

def isSelfService (path : List Char) : Bool := selfServicePaths.any fun p => path == p.toList

def isAdminEndpoint (path : List Char) : Bool :=
  match defaultAdminPrefixes.find? fun pre => atOrBelow path pre.toList with
  | none => false
  | some _ => if isSelfService path then false else if isTenantResolve path then false else true

/-- `IsAdminOnlyPath`. -/
def isAdminOnlyPath (path : List Char) : Bool := isAdminEndpoint path

def platformOnlyPaths : List String :=
  ["/api/v1/admin/", "/api/v1/admin/secrets", "/api/v1/admin/backup",
    "/api/v1/admin/key-rotation", "/api/v1/impersonate", "/api/v1/auth/impersonate",
    "/api/v1/system/", "/api/v1/tenants"]

def isPlatformOnlyPath (path : List Char) : Bool :=
  platformOnlyPaths.any fun pre =>
    if Strings.hasSuffix pre.toList ['/'] then Strings.hasPrefix path pre.toList
    else path == pre.toList || Strings.hasPrefix path (pre.toList ++ ['/'])

-- ---------------------------------------------------------------------------
-- Scopes, permissions, rules
-- ---------------------------------------------------------------------------

/-- A row of `role_route_permissions` with its role. -/
structure RoutePermRow where
  roleName : String
  roleKey  : String
  route    : String
  level    : String
  tenantID : String
  deriving DecidableEq

/-- The longest matching rule so far. -/
structure BestRule where
  bestLen        : Int
  grant          : Nat
  adminProtected : Bool

section Decisions

-- `unicode` is `unicode.ToLower` outside ASCII.
variable (unicode : Char → Char)

def hasAdminScope (scopes : List String) : Bool :=
  scopes.any fun sc => Strings.toLower unicode sc == "platform:admin" ||
    Strings.toLower unicode sc == "tenant:admin"

def hasPlatformAdminScope (scopes : List String) : Bool :=
  scopes.any fun sc => Strings.toLower unicode sc == "platform:admin"

def permLevelRank (level : String) : Nat :=
  let level := Strings.toLower unicode level
  if level = "admin" then 3 else if level = "write" then 2 else if level = "read" then 1 else 0

def isReadMethod (method : String) : Bool := ["GET", "HEAD", "OPTIONS"].contains method

def routePermissionResource : List (String × String) :=
  [("/api/v1/users", "users"), ("/api/v1/roles", "roles"), ("/api/v1/audit/", "audit"),
    ("/api/v1/policies", "policies"), ("/api/v1/webhooks", "webhooks"),
    ("/api/v1/oauth/clients", "oauth_clients"), ("/api/v1/settings/", "settings"),
    ("/api/v1/identity/dashboard", "dashboard"), ("/api/v1/inventory", "inventory"),
    ("/api/v1/security", "security"), ("/api/v1/orders", "orders")]

/-- The resource of the longest entry that the path is at or below. -/
def resourceOf (path : List Char) : String × Nat :=
  routePermissionResource.foldl (fun best entry =>
    if (path == entry.1.toList || Strings.hasPrefix path (entry.1.toList ++ ['/'])) &&
        best.2 < entry.1.length then (entry.2, entry.1.length) else best) ("", 0)

def hasPermissionForRoute (path : List Char) (method : String) (perms : List String) : Bool :=
  let resource := (resourceOf path).1
  if perms = [] ∨ resource = "" then false
  else
    let required := resource ++ ":" ++ if isReadMethod method then "read" else "write"
    perms.any fun p =>
      let pl := Strings.toLower unicode p
      pl == required || pl == resource ++ ":admin" ||
        Strings.hasPrefix pl.toList (required ++ ":").toList

/-- The body of the loop of `CheckAccess`. -/
def matchRow (path : List Char) (claims : JWTCClaims) (best : BestRule) (row : RoutePermRow) :
    BestRule :=
  if row.tenantID ≠ claims.tenantID ∧ row.tenantID ≠ "00000000-0000-0000-0000-000000000000" then
    best
  else if Strings.hasPrefix row.route.toList "/api/".toList = false then best
  else if Strings.hasPrefix path row.route.toList = false then best
  else if (row.route.length : Int) < best.bestLen then best
  else
    -- a longer match starts afresh
    let best := if best.bestLen < (row.route.length : Int) then ⟨row.route.length, 0, false⟩ else best
    let best := if permLevelRank unicode "admin" ≤ permLevelRank unicode row.level then
      { best with adminProtected := true } else best
    let userRoles := claims.roles.map (Strings.toLower unicode)
    if Strings.toLower unicode row.roleName ∈ userRoles ∨
        Strings.toLower unicode row.roleKey ∈ userRoles then
      { best with grant := max best.grant (permLevelRank unicode row.level) }
    else best

/-- What the rules say; `none` if none matches. -/
def matchRules (rows : List RoutePermRow) (path : List Char) (method : String)
    (claims : JWTCClaims) : Option Bool :=
  let best := rows.foldl (matchRow unicode path claims) ⟨-1, 0, false⟩
  let required := if isReadMethod method then 1 else 2
  let grant := if best.grant < required ∧ best.adminProtected = false ∧
      hasPermissionForRoute unicode path method claims.permissions = true then required
    else best.grant
  if best.bestLen < 0 then none else some (required ≤ grant)

/-- `CheckAccess` needs the rules. -/
def consultsRules (path : List Char) (claims : JWTCClaims) : Bool :=
  !(isSelfService path || isTenantResolve path || hasAdminScope unicode claims.scopes)

/-- `CheckAccess`: `none` where it leaves the decision. `rows` is what `load` returned, `none`
for its error. -/
def checkAccess (rows : Option (List RoutePermRow)) (path : List Char) (method : String)
    (claims : JWTCClaims) : Option Bool :=
  if isSelfService path || isTenantResolve path then none
  else if hasAdminScope unicode claims.scopes then some true
  else rows.bind fun rows => matchRules unicode rows path method claims

-- ---------------------------------------------------------------------------
-- The gate
-- ---------------------------------------------------------------------------

inductive RbacOutcome
  | next
  | forbidden (detail : String) (requestID : Option String)
  deriving DecidableEq

/-- `writeAdminForbidden`. -/
def adminForbidden (ctx : Context) : RbacOutcome :=
  .forbidden "insufficient permissions for this endpoint" ctx.requestID

/-- The decision by the prefix list. -/
def staticDecision (r : Request) : RbacOutcome :=
  let path := r.path.toList
  let claims := extractJWTClaims r.ctx
  if isAdminEndpoint path = false then .next
  else if claims.subject = "" then
    -- an API key needs an admin scope; without one, the request is left to `JWTAuth`
    let scopes := r.ctx.apiKeyScopes.getD []
    if scopes = [] ∨ "platform:admin" ∈ scopes ∨ "tenant:admin" ∈ scopes then .next
    else .forbidden "admin scope required" none
  else if isPlatformOnlyPath path then
    if hasPlatformAdminScope unicode claims.scopes then .next else adminForbidden r.ctx
  else if hasAdminScope unicode claims.scopes then .next
  else if hasPermissionForRoute unicode path r.method claims.permissions &&
      !isAdminOnlyPath path then .next
  else adminForbidden r.ctx

/-- `RequireAdminScope`. `rules` is `none` where no resolver is available. -/
def requireAdminScope (rules : Option (Option (List RoutePermRow))) (r : Request) : RbacOutcome :=
  let claims := extractJWTClaims r.ctx
  if isRBACExempt r.path.toList then .next
  else match rules with
  | none => staticDecision unicode r
  | some rows =>
    if claims.subject = "" then staticDecision unicode r
    else match checkAccess unicode rows r.path.toList r.method claims with
    | some true => .next
    | some false => adminForbidden r.ctx
    | none => staticDecision unicode r

end Decisions

/-- A user without any scope asks for the path. -/
def plainRequest (path : String) : Request :=
  ⟨"GET", "gateway", path, [], [], .absent,
    { Context.background with claims := some ⟨"mallory", "acme", [], [], []⟩ }⟩

section Gate

variable {unicode : Char → Char} {rules : Option (Option (List RoutePermRow))} {r : Request}

theorem requireAdminScope_exempt (h : isRBACExempt r.path.toList = true) :
    requireAdminScope unicode rules r = .next := by
  unfold requireAdminScope
  simp only
  rw [if_pos h]

theorem requireAdminScope_none (h : isRBACExempt r.path.toList = false) :
    requireAdminScope unicode none r = staticDecision unicode r := by
  unfold requireAdminScope
  simp only
  rw [if_neg (by simp [h])]

theorem staticDecision_free (h : isAdminEndpoint r.path.toList = false) :
    staticDecision unicode r = .next := by
  unfold staticDecision
  exact if_pos h

/-- The rules are for tokens. -/
theorem requireAdminScope_noSubject (h : isRBACExempt r.path.toList = false)
    (hsubject : (extractJWTClaims r.ctx).subject = "") :
    requireAdminScope unicode rules r = staticDecision unicode r := by
  unfold requireAdminScope
  simp only
  rw [if_neg (by simp [h])]
  cases rules with
  | none => rfl
  | some rows => exact if_pos hsubject

theorem requireAdminScope_some {rows : Option (List RoutePermRow)}
    (h : isRBACExempt r.path.toList = false) (hsubject : (extractJWTClaims r.ctx).subject ≠ "") :
    requireAdminScope unicode (some rows) r =
      (checkAccess unicode rows r.path.toList r.method (extractJWTClaims r.ctx)).elim
        (staticDecision unicode r) fun allow =>
          if allow = true then .next else adminForbidden r.ctx := by
  unfold requireAdminScope
  simp only
  rw [if_neg (by simp [h]), if_neg hsubject]
  cases checkAccess unicode rows r.path.toList r.method (extractJWTClaims r.ctx) with
  | none => rfl
  | some allow => cases allow <;> rfl

end Gate

-- ---------------------------------------------------------------------------
-- Prefixes
-- ---------------------------------------------------------------------------

theorem hasPrefix_iff {s pre : List Char} : Strings.hasPrefix s pre = true ↔ pre <+: s :=
  List.isPrefixOf_iff_prefix

theorem atOrBelow_iff {path pre : List Char} :
    atOrBelow path pre = true ↔ path = pre ∨ anchored pre <+: path := by
  unfold atOrBelow
  rw [Bool.or_eq_true, beq_iff_eq, hasPrefix_iff]

theorem prefix_of_atOrBelow {path pre : List Char} (h : atOrBelow path pre = true) :
    pre <+: path := by
  rcases atOrBelow_iff.mp h with rfl | hbelow
  · exact List.prefix_refl _
  · refine List.IsPrefix.trans ?_ hbelow
    unfold anchored
    split
    · exact List.prefix_refl _
    · exact List.prefix_append _ _

/-- The characters of the public paths, and of the admin prefixes. -/
def publicChars : { chars : List (List Char) // publicPaths.map String.toList = chars } :=
  ⟨_, Strings.Characters.map_toList (by unfold publicPaths; repeat constructor)⟩

def adminChars : { chars : List (List Char) // defaultAdminPrefixes.map String.toList = chars } :=
  ⟨_, Strings.Characters.map_toList (by unfold defaultAdminPrefixes; repeat constructor)⟩

theorem isRBACExempt_eq (path : List Char) :
    isRBACExempt path = publicChars.1.any (Strings.hasPrefix path) := by
  rw [← publicChars.2, List.any_map]
  rfl

theorem isAdminEndpoint_eq (path : List Char) : isAdminEndpoint path =
    (adminChars.1.any (atOrBelow path) && !isSelfService path && !isTenantResolve path) := by
  rw [← adminChars.2, List.any_map]
  unfold isAdminEndpoint
  cases hfind : defaultAdminPrefixes.find? fun pre => atOrBelow path pre.toList with
  | none =>
    have hany : (defaultAdminPrefixes.any (atOrBelow path ∘ String.toList)) = false := by
      rw [List.any_eq_false]
      exact List.find?_eq_none.mp hfind
    rw [hany]
    rfl
  | some pre =>
    have hany : (defaultAdminPrefixes.any (atOrBelow path ∘ String.toList)) = true :=
      List.any_eq_true.mpr ⟨pre, List.mem_of_find?_eq_some hfind, List.find?_some hfind⟩
    rw [hany]
    cases isSelfService path <;> cases isTenantResolve path <;> rfl

theorem isAdminEndpoint_iff {path : List Char} : isAdminEndpoint path = true ↔
    (∃ pre ∈ adminChars.1, atOrBelow path pre = true) ∧
      isSelfService path = false ∧ isTenantResolve path = false := by
  rw [isAdminEndpoint_eq, Bool.and_eq_true, Bool.and_eq_true, List.any_eq_true, and_assoc,
    Bool.not_eq_true', Bool.not_eq_true']

/-- A platform-only path is an admin endpoint, unless it is the public lookup of tenants. -/
theorem isAdminEndpoint_of_platformOnly {path : List Char} (h : isPlatformOnlyPath path = true)
    (hexempt : isRBACExempt path = false) : isAdminEndpoint path = true := by
  have hcovered : (platformOnlyPaths.all fun pre => adminChars.1.any fun adminPre =>
      adminPre == pre.toList || Strings.hasPrefix pre.toList (anchored adminPre)) = true := by
    decide
  obtain ⟨pre, hpre, hmatch⟩ := List.any_eq_true.mp h
  obtain ⟨adminPre, hadmin, hcover⟩ := List.any_eq_true.mp (List.all_eq_true.mp hcovered pre hpre)
  -- the path is at or below the platform-only prefix
  have hbelow : path = pre.toList ∨ anchored pre.toList <+: path := by
    unfold anchored
    by_cases hslash : Strings.hasSuffix pre.toList ['/'] = true
    · rw [if_pos hslash] at hmatch ⊢
      exact .inr (hasPrefix_iff.mp hmatch)
    · rw [if_neg hslash, Bool.or_eq_true, beq_iff_eq, hasPrefix_iff] at hmatch
      rw [if_neg hslash]
      exact hmatch
  have hpath : pre.toList <+: path := prefix_of_atOrBelow (atOrBelow_iff.mpr hbelow)
  refine isAdminEndpoint_iff.mpr ⟨⟨adminPre, hadmin, atOrBelow_iff.mpr ?_⟩, ?_, ?_⟩
  · rcases Bool.or_eq_true_iff.mp hcover with hsame | hshorter
    · rw [beq_iff_eq.mp hsame]
      exact hbelow
    · exact .inr ((hasPrefix_iff.mp hshorter).trans hpath)
  · have hself : (selfServicePaths.all fun p => !isPlatformOnlyPath p.toList) = true := by
      decide
    rw [isSelfService, List.any_eq_false]
    rintro p hp hsame
    have hnot := List.all_eq_true.mp hself p hp
    rw [← beq_iff_eq.mp hsame, h] at hnot
    exact absurd hnot (by simp)
  · have hnone := List.any_eq_false.mp hexempt "/api/v1/tenants/resolve" (by decide)
    exact Bool.eq_false_iff.mpr hnone

-- ---------------------------------------------------------------------------
-- Platform-only paths
-- ---------------------------------------------------------------------------

/-- The scopes of the caller: of its token, if it has one, else of its API key. -/
def callerScopes (ctx : Context) : List String :=
  if (extractJWTClaims ctx).subject = "" then ctx.apiKeyScopes.getD []
  else (extractJWTClaims ctx).scopes

/-- A text in lower-case ASCII stays as it is. -/
theorem toLower_of_ascii (unicode : Char → Char) {s : String}
    (h : (s.toList.all fun c => decide (c.toNat < 0x80) && c.toLower == c) = true) :
    Strings.toLower unicode s = s := by
  unfold Strings.toLower
  rw [List.map_congr_left (g := id), List.map_id, String.ofList_toList]
  intro c hc
  have hboth := List.all_eq_true.mp h c hc
  rw [Bool.and_eq_true, decide_eq_true_eq, beq_iff_eq] at hboth
  rw [if_pos hboth.1, hboth.2, id]

theorem toLower_platform (unicode : Char → Char) :
    Strings.toLower unicode "platform:admin" = "platform:admin" :=
  toLower_of_ascii unicode (by decide)

theorem toLower_tenant (unicode : Char → Char) :
    Strings.toLower unicode "tenant:admin" = "tenant:admin" :=
  toLower_of_ascii unicode (by decide)

/-- The key has a scope, and none that is `tenant:admin`. -/
def KeyWithoutTenantAdmin (ctx : Context) : Prop :=
  ctx.apiKeyScopes.getD [] ≠ [] ∧ "tenant:admin" ∉ ctx.apiKeyScopes.getD []

/-- Neither an admin scope nor a rule lets the token pass before the prefix list is asked. -/
def TokenLeftToPrefixes (unicode : Char → Char) (rules : Option (Option (List RoutePermRow)))
    (r : Request) : Prop :=
  ∀ rows, rules = some rows →
    hasAdminScope unicode (extractJWTClaims r.ctx).scopes = false ∧
      (rows.bind fun rows => matchRules unicode rows r.path.toList r.method
        (extractJWTClaims r.ctx)) ≠ some true

section PlatformOnly

variable {unicode : Char → Char} {r : Request}

/-- A caller without a token passes with an admin scope, or with none at all. -/
theorem staticDecision_key (hadmin : isAdminEndpoint r.path.toList = true)
    (hsubject : (extractJWTClaims r.ctx).subject = "") : staticDecision unicode r ≠ .next ↔
      KeyWithoutTenantAdmin r.ctx ∧ "platform:admin" ∉ r.ctx.apiKeyScopes.getD [] := by
  simp only [staticDecision, hadmin, KeyWithoutTenantAdmin]
  rw [if_neg (by simp), if_pos hsubject]
  by_cases hkey : r.ctx.apiKeyScopes.getD [] = [] ∨
      "platform:admin" ∈ r.ctx.apiKeyScopes.getD [] ∨ "tenant:admin" ∈ r.ctx.apiKeyScopes.getD []
  · rw [if_pos hkey]
    refine iff_of_false (fun h => h rfl) ?_
    rintro ⟨⟨hsome, hnoTenant⟩, hnoPlatform⟩
    rcases hkey with hkey | hkey | hkey
    · exact hsome hkey
    · exact hnoPlatform hkey
    · exact hnoTenant hkey
  · rw [if_neg hkey]
    rw [not_or, not_or] at hkey
    exact iff_of_true (by simp) ⟨⟨hkey.1, hkey.2.2⟩, hkey.2.1⟩

/-- The prefix list keeps platform-only paths for `platform:admin`. -/
theorem staticDecision_token (hadmin : isAdminEndpoint r.path.toList = true)
    (hpath : isPlatformOnlyPath r.path.toList = true)
    (hsubject : (extractJWTClaims r.ctx).subject ≠ "")
    (hplatform : hasPlatformAdminScope unicode (extractJWTClaims r.ctx).scopes = false) :
    staticDecision unicode r = adminForbidden r.ctx := by
  unfold staticDecision
  simp only [hadmin, hpath, hplatform]
  rw [if_neg (by simp), if_neg hsubject]
  rfl

/-- A token that is not left to the prefix list passes by its scopes or by a rule. -/
theorem checkAccess_of_admin {rows : Option (List RoutePermRow)}
    (hadmin : isAdminEndpoint r.path.toList = true) :
    checkAccess unicode rows r.path.toList r.method (extractJWTClaims r.ctx) ≠ some true ↔
      TokenLeftToPrefixes unicode (some rows) r := by
  obtain ⟨-, hself, hresolve⟩ := isAdminEndpoint_iff.mp hadmin
  simp only [checkAccess, hself, hresolve]
  rw [if_neg (by simp)]
  by_cases hscope : hasAdminScope unicode (extractJWTClaims r.ctx).scopes = true
  · rw [if_pos hscope]
    refine iff_of_false (fun h => h rfl) fun h => ?_
    exact absurd ((h rows rfl).1.symm.trans hscope) (by simp)
  · rw [if_neg hscope]
    constructor
    · intro h rows' hrows
      rw [← Option.some.inj hrows]
      exact ⟨Bool.eq_false_iff.mpr hscope, h⟩
    · exact fun h => (h rows rfl).2

/-- **On a platform-only path** the gate takes `platform:admin` exactly where the path is not
exempt, a key does not say `tenant:admin` (or nothing), and a token is left to the prefix list. -/
theorem platformOnly_iff (unicode : Char → Char) (rules : Option (Option (List RoutePermRow)))
    {r : Request} (hpath : isPlatformOnlyPath r.path.toList = true) :
    (requireAdminScope unicode rules r = .next →
      hasPlatformAdminScope unicode (callerScopes r.ctx) = true) ↔
    hasPlatformAdminScope unicode (callerScopes r.ctx) = true ∨
      isRBACExempt r.path.toList = false ∧
        (if (extractJWTClaims r.ctx).subject = "" then KeyWithoutTenantAdmin r.ctx
        else TokenLeftToPrefixes unicode rules r) := by
  by_cases hplatform : hasPlatformAdminScope unicode (callerScopes r.ctx) = true
  · exact iff_of_true (fun _ => hplatform) (.inl hplatform)
  have hrefuses : (requireAdminScope unicode rules r = .next →
      hasPlatformAdminScope unicode (callerScopes r.ctx) = true) ↔
        requireAdminScope unicode rules r ≠ .next :=
    ⟨fun h hnext => hplatform (h hnext), fun h hnext => absurd hnext h⟩
  rw [hrefuses, or_iff_right hplatform]
  by_cases hexempt : isRBACExempt r.path.toList = true
  · rw [requireAdminScope_exempt hexempt]
    exact iff_of_false (fun h => h rfl) fun h => absurd (hexempt.symm.trans h.1) (by simp)
  have hexempt : isRBACExempt r.path.toList = false := Bool.eq_false_iff.mpr hexempt
  have hadmin := isAdminEndpoint_of_platformOnly hpath hexempt
  simp only [hexempt, true_and]
  by_cases hsubject : (extractJWTClaims r.ctx).subject = ""
  · -- an API key, or nobody
    have hnoPlatform : "platform:admin" ∉ r.ctx.apiKeyScopes.getD [] := by
      intro hmem
      apply hplatform
      rw [callerScopes, if_pos hsubject, hasPlatformAdminScope, List.any_eq_true]
      exact ⟨_, hmem, by rw [toLower_platform]; rfl⟩
    rw [requireAdminScope_noSubject hexempt hsubject, staticDecision_key hadmin hsubject,
      if_pos hsubject]
    exact and_iff_left hnoPlatform
  · rw [if_neg hsubject]
    have hstatic : staticDecision unicode r = adminForbidden r.ctx := by
      refine staticDecision_token hadmin hpath hsubject (Bool.eq_false_iff.mpr ?_)
      rwa [callerScopes, if_neg hsubject] at hplatform
    cases rules with
    | none =>
      rw [requireAdminScope_none hexempt, hstatic]
      exact iff_of_true (by simp [adminForbidden]) fun rows hrows => absurd hrows (by simp)
    | some rows =>
      rw [requireAdminScope_some hexempt hsubject, ← checkAccess_of_admin hadmin, hstatic]
      cases hdecision : checkAccess unicode rows r.path.toList r.method (extractJWTClaims r.ctx) with
      | none => exact iff_of_true (by simp [adminForbidden]) (by simp)
      | some allow =>
        cases allow with
        | true => exact iff_of_false (fun h => h rfl) fun h => h rfl
        | false => exact iff_of_true (by simp [adminForbidden]) (by simp)

end PlatformOnly

namespace Sample

/-- A request for the system configuration, by token or by key. -/
def systemRequest (claims : Option JWTCClaims) (key : Option (List String)) : Request :=
  ⟨"GET", "gateway", "/api/v1/system/config", [], [], .absent,
    { Context.background with claims, apiKeyScopes := key }⟩

def tenantAdmin : JWTCClaims := ⟨"carol", "acme", ["tenant:admin"], [], []⟩

end Sample

open Sample in
/-- With the rules loaded, `tenant:admin` in a token is enough, and in a key it always is. -/
theorem tenant_admin_passes :
    isPlatformOnlyPath "/api/v1/system/config".toList = true ∧
    hasPlatformAdminScope id ["tenant:admin"] = false ∧
    requireAdminScope id (some (some [])) (systemRequest (some tenantAdmin) none) = .next ∧
    requireAdminScope id none (systemRequest (some tenantAdmin) none) =
      .forbidden "insufficient permissions for this endpoint" none ∧
    requireAdminScope id none (systemRequest none (some ["tenant:admin"])) = .next := by
  simp only [requireAdminScope, staticDecision, isRBACExempt_eq, isAdminEndpoint_eq]
  decide

open Sample in
/-- Without the rules, the token of a tenant admin does not pass. -/
theorem platformOnly_iff_sample :
    isPlatformOnlyPath (systemRequest (some tenantAdmin) none).path.toList = true ∧
      (requireAdminScope id none (systemRequest (some tenantAdmin) none) = .next →
        hasPlatformAdminScope id (callerScopes (systemRequest (some tenantAdmin) none).ctx) =
          true) := by
  have hpath : isPlatformOnlyPath (systemRequest (some tenantAdmin) none).path.toList = true := by
    decide
  have hleft : TokenLeftToPrefixes id none (systemRequest (some tenantAdmin) none) :=
    fun rows hrows => absurd hrows (by simp)
  have hexempt : isRBACExempt (systemRequest (some tenantAdmin) none).path.toList = false := by
    rw [isRBACExempt_eq]
    decide
  refine ⟨hpath, (platformOnly_iff id none hpath).mpr (.inr ⟨hexempt, ?_⟩)⟩
  rw [if_neg (by decide)]
  exact hleft

end Ggid.Gateway
