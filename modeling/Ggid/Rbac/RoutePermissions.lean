import Ggid.Go.Strings
import Ggid.Lib.FirstMatch
import Mathlib.Data.List.Pairwise

/-!
# Permissions of the API routes

`pkg/rbac` maps each route and method to the permission it asks for. `CheckRoutePermission` goes
over the table from the front, and the first rule that matches decides; what it asks for is looked
up in the permissions of the user, where a scope covers those below it.

* `overlap_cases`       — two rules of the table match one request in one case only;
* `enforces_iff`        — when the most specific rule that matches is the one enforced;
* `orderFree_iff`       — when the order of the table does not matter.
-/

namespace Ggid.Rbac

open Ggid.Go Ggid.Lib

-- ---------------------------------------------------------------------------
-- Permissions of a user
-- ---------------------------------------------------------------------------

/-- `all`, `tenant`, `department` and `own`; the map has no other scope. -/
def scopeOrder (scope : String) : Nat :=
  if scope = "all" then 4
  else if scope = "tenant" then 3
  else if scope = "department" then 2
  else if scope = "own" then 1
  else 0

def scopeCovers (granted required : String) : Bool :=
  granted == required || decide (scopeOrder granted ≥ scopeOrder required)

/-- `strings.SplitN(p, ":", 3)`. -/
def splitN3 (p : List Char) : List (List Char) :=
  match Strings.split p ':' with
  | a :: b :: c :: rest => [a, b, [':'].intercalate (c :: rest)]
  | parts => parts

/-- One turn of the loop of `HasPermission`. -/
def satisfies (resource action scope : String) (p : String) : Bool :=
  if p = "platform:admin" then true
  else
    match splitN3 p.toList with
    | [pr, pa, ps] =>
      String.ofList pr == resource && String.ofList pa == action &&
        scopeCovers (String.ofList ps) scope
    | [pr, pa] =>
      String.ofList pr == resource && String.ofList pa == action && scopeCovers "tenant" scope
    | _ => false

def hasPermission (userPerms : List String) (resource action scope : String) : Bool :=
  userPerms.any (satisfies resource action scope)

-- ---------------------------------------------------------------------------
-- Routes
-- ---------------------------------------------------------------------------

structure RoutePermission where
  method   : String
  pattern  : String
  resource : String
  action   : String
  scope    : String
  deriving DecidableEq

/-- The segments of a pattern or a path. -/
def segments (path : List Char) : List (List Char) :=
  Strings.split (Strings.trim path '/') '/'

def isParam (segment : List Char) : Bool :=
  Strings.hasPrefix segment ['{'] && Strings.hasSuffix segment ['}']

/-- The loop of `matchRoute`, over as many segments on either side. -/
def matchSegments : List (List Char) → List (List Char) → Bool
  | p :: pp, a :: ap => if isParam p then matchSegments pp ap else p == a && matchSegments pp ap
  | _, _ => true

def matchRoute (pattern path : List Char) : Bool :=
  let pp := segments pattern
  let ap := segments path
  if pp.length ≠ ap.length then false else matchSegments pp ap

def RoutePermission.applies (method path : String) (rp : RoutePermission) : Bool :=
  rp.method == method && matchRoute rp.pattern.toList path.toList

def routePermissions : List RoutePermission := [
  -- Users
  ⟨"GET", "/api/v1/users", "users", "read", "tenant"⟩,
  ⟨"GET", "/api/v1/users/{id}", "users", "read", "own"⟩,
  ⟨"POST", "/api/v1/users", "users", "create", "tenant"⟩,
  ⟨"PUT", "/api/v1/users/{id}", "users", "update", "own"⟩,
  ⟨"DELETE", "/api/v1/users/{id}", "users", "delete", "tenant"⟩,
  ⟨"POST", "/api/v1/users/{id}/freeze", "users", "freeze", "tenant"⟩,
  ⟨"POST", "/api/v1/users/{id}/unfreeze", "users", "freeze", "tenant"⟩,
  ⟨"POST", "/api/v1/users/import", "users", "import", "tenant"⟩,
  ⟨"GET", "/api/v1/users/export", "users", "export", "tenant"⟩,
  -- Roles
  ⟨"GET", "/api/v1/roles", "roles", "read", "tenant"⟩,
  ⟨"POST", "/api/v1/roles", "roles", "create", "tenant"⟩,
  ⟨"PUT", "/api/v1/roles/{id}", "roles", "update", "tenant"⟩,
  ⟨"DELETE", "/api/v1/roles/{id}", "roles", "delete", "tenant"⟩,
  ⟨"POST", "/api/v1/roles/assign", "roles", "assign", "tenant"⟩,
  ⟨"POST", "/api/v1/roles/revoke", "roles", "assign", "tenant"⟩,
  ⟨"GET", "/api/v1/users/{id}/roles", "roles", "read", "tenant"⟩,
  -- OAuth Clients
  ⟨"GET", "/api/v1/oauth/clients", "oauth_clients", "read", "tenant"⟩,
  ⟨"GET", "/api/v1/oauth/clients/{id}", "oauth_clients", "read", "tenant"⟩,
  ⟨"POST", "/api/v1/oauth/clients", "oauth_clients", "create", "tenant"⟩,
  ⟨"PUT", "/api/v1/oauth/clients/{id}", "oauth_clients", "update", "tenant"⟩,
  ⟨"DELETE", "/api/v1/oauth/clients/{id}", "oauth_clients", "delete", "tenant"⟩,
  ⟨"POST", "/api/v1/oauth/clients/{id}/rotate-secret", "oauth_clients", "rotate_secret", "tenant"⟩,
  -- Organizations
  ⟨"GET", "/api/v1/orgs", "orgs", "read", "tenant"⟩,
  ⟨"POST", "/api/v1/orgs", "orgs", "create", "tenant"⟩,
  ⟨"PUT", "/api/v1/orgs/{id}", "orgs", "update", "tenant"⟩,
  ⟨"DELETE", "/api/v1/orgs/{id}", "orgs", "delete", "tenant"⟩,
  -- Policies
  ⟨"GET", "/api/v1/policies", "policies", "read", "tenant"⟩,
  ⟨"GET", "/api/v1/auth/conditional-access/", "policies", "read", "tenant"⟩,
  ⟨"POST", "/api/v1/auth/conditional-access/", "policies", "create", "tenant"⟩,
  ⟨"PUT", "/api/v1/auth/conditional-access/{id}", "policies", "update", "tenant"⟩,
  ⟨"DELETE", "/api/v1/auth/conditional-access/{id}", "policies", "delete", "tenant"⟩,
  -- Audit
  ⟨"GET", "/api/v1/audit/events", "audit", "read", "tenant"⟩,
  ⟨"GET", "/api/v1/audit/stats", "audit", "read", "tenant"⟩,
  ⟨"GET", "/api/v1/audit/export", "audit", "export", "tenant"⟩,
  ⟨"GET", "/api/v1/audit/integrity", "audit", "read_integrity", "tenant"⟩,
  -- Webhooks
  ⟨"GET", "/api/v1/webhooks", "webhooks", "read", "tenant"⟩,
  ⟨"POST", "/api/v1/webhooks", "webhooks", "create", "tenant"⟩,
  ⟨"PUT", "/api/v1/webhooks/{id}", "webhooks", "update", "tenant"⟩,
  ⟨"DELETE", "/api/v1/webhooks/{id}", "webhooks", "delete", "tenant"⟩,
  -- API Keys
  ⟨"GET", "/api/v1/api-keys", "api_keys", "read", "tenant"⟩,
  ⟨"POST", "/api/v1/api-keys", "api_keys", "create", "tenant"⟩,
  ⟨"DELETE", "/api/v1/api-keys/{id}", "api_keys", "delete", "tenant"⟩,
  -- Security
  ⟨"GET", "/api/v1/security/posture", "security", "read", "tenant"⟩,
  ⟨"GET", "/api/v1/security/dashboard", "security", "read", "tenant"⟩,
  ⟨"GET", "/api/v1/zt/posture", "security", "posture", "read"⟩,
  -- Settings
  ⟨"GET", "/api/v1/settings/", "settings", "read", "tenant"⟩,
  ⟨"PUT", "/api/v1/settings/", "settings", "update", "tenant"⟩,
  ⟨"GET", "/api/v1/admin/feature-flags", "settings", "feature_flags", "tenant"⟩,
  -- Identity Dashboard
  ⟨"GET", "/api/v1/identity/dashboard", "identity", "read", "tenant"⟩,
  ⟨"GET", "/api/v1/identity/dashboard/stats", "identity", "read", "tenant"⟩,
  -- Tenants (platform admin)
  ⟨"GET", "/api/v1/tenants", "tenants", "read", "all"⟩,
  ⟨"POST", "/api/v1/tenants/create", "tenants", "create", "all"⟩,
  -- Sessions
  ⟨"GET", "/api/v1/auth/sessions", "sessions", "read", "own"⟩,
  -- WebAuthn Credentials (self-service)
  ⟨"GET", "/api/v1/auth/webauthn/credentials", "webauthn", "manage", "own"⟩,
  ⟨"DELETE", "/api/v1/auth/webauthn/credentials/{id}", "webauthn", "manage", "own"⟩,
  -- System Admin
  ⟨"POST", "/api/v1/auth/impersonate", "system", "impersonate", "tenant"⟩,
  ⟨"GET", "/api/v1/admin/key-rotation", "system", "key_rotation", "tenant"⟩,
  ⟨"GET", "/api/v1/admin/secrets", "system", "secrets", "tenant"⟩,
  ⟨"GET", "/api/v1/admin/backup", "system", "backup", "tenant"⟩]

/-- The loop of `CheckRoutePermission` over a table: whether a rule matched, and whether the
permissions satisfy it. No rule, no access. -/
def checkTable (table : List RoutePermission) (method path : String) (userPerms : List String) :
    Bool × Bool :=
  firstMatch (RoutePermission.applies method path)
    (fun rp => (true, hasPermission userPerms rp.resource rp.action rp.scope)) (false, false) table

def checkRoutePermission (method path : String) (userPerms : List String) : Bool × Bool :=
  checkTable routePermissions method path userPerms

-- ---------------------------------------------------------------------------
-- Rules that match one request
-- ---------------------------------------------------------------------------

/-- Two patterns that one path may match. -/
def overlaps : List (List Char) → List (List Char) → Bool
  | [], [] => true
  | p :: pp, q :: qq => (isParam p || isParam q || p == q) && overlaps pp qq
  | _, _ => false

theorem matchSegments_cons (p a : List Char) (pp ap : List (List Char)) :
    matchSegments (p :: pp) (a :: ap) = true ↔
      (isParam p = true ∨ p = a) ∧ matchSegments pp ap = true := by
  rw [matchSegments]
  cases isParam p <;> simp

theorem overlaps_of_match {pp qq ap : List (List Char)} (hp : pp.length = ap.length)
    (hq : qq.length = ap.length) (hpa : matchSegments pp ap = true)
    (hqa : matchSegments qq ap = true) : overlaps pp qq = true := by
  induction ap generalizing pp qq with
  | nil =>
    obtain rfl := List.length_eq_zero_iff.mp hp
    obtain rfl := List.length_eq_zero_iff.mp hq
    rfl
  | cons a ap ih =>
    obtain ⟨p, pp, rfl⟩ := List.exists_cons_of_length_eq_add_one hp
    obtain ⟨q, qq, rfl⟩ := List.exists_cons_of_length_eq_add_one hq
    rw [List.length_cons, List.length_cons, Nat.add_right_cancel_iff] at hp hq
    obtain ⟨hp1, hpa⟩ := (matchSegments_cons ..).mp hpa
    obtain ⟨hq1, hqa⟩ := (matchSegments_cons ..).mp hqa
    rw [overlaps, ih hp hq hpa hqa, Bool.and_true, Bool.or_eq_true, Bool.or_eq_true, beq_iff_eq]
    rcases hp1 with hp1 | rfl
    · exact .inl (.inl hp1)
    · rcases hq1 with hq1 | rfl
      · exact .inl (.inr hq1)
      · exact .inr rfl

/-- Without parameters a pattern matches its own segments only. -/
theorem matchSegments_literal {pp ap : List (List Char)} (hlen : pp.length = ap.length)
    (hpp : ∀ p ∈ pp, isParam p = false) : matchSegments pp ap = true ↔ pp = ap := by
  induction ap generalizing pp with
  | nil =>
    obtain rfl := List.length_eq_zero_iff.mp hlen
    exact iff_of_true rfl rfl
  | cons a ap ih =>
    obtain ⟨p, pp, rfl⟩ := List.exists_cons_of_length_eq_add_one hlen
    rw [List.length_cons, List.length_cons, Nat.add_right_cancel_iff] at hlen
    rw [matchSegments_cons, ih hlen fun q hq => hpp q (List.mem_cons_of_mem _ hq),
      hpp p List.mem_cons_self, List.cons.injEq]
    simp

theorem matchRoute_iff {pattern path : List Char} : matchRoute pattern path = true ↔
    (segments pattern).length = (segments path).length ∧
      matchSegments (segments pattern) (segments path) = true := by
  rw [matchRoute]
  by_cases h : (segments pattern).length = (segments path).length <;> simp [h]

theorem applies_iff {method path : String} {rp : RoutePermission} :
    rp.applies method path = true ↔
      rp.method = method ∧ matchRoute rp.pattern.toList path.toList = true := by
  rw [RoutePermission.applies, Bool.and_eq_true, beq_iff_eq]

-- ---------------------------------------------------------------------------
-- The rules of the table
-- ---------------------------------------------------------------------------

def methodChars : { chars : List (List Char) //
    (routePermissions.map (·.method)).map String.toList = chars } :=
  ⟨_, Strings.Characters.map_toList (by
    unfold routePermissions
    simp only [List.map]
    repeat constructor)⟩

def patternChars : { chars : List (List Char) //
    (routePermissions.map (·.pattern)).map String.toList = chars } :=
  ⟨_, Strings.Characters.map_toList (by
    unfold routePermissions
    simp only [List.map]
    repeat constructor)⟩

/-- What two rules that match one request have in common is seen in their methods and in the
segments of their patterns. -/
def RoutePermission.shape (rp : RoutePermission) : List Char × List (List Char) :=
  (rp.method.toList, segments rp.pattern.toList)

def clash (a b : List Char × List (List Char)) : Bool := a.1 == b.1 && overlaps a.2 b.2

theorem clash_of_applies {method path : String} {a b : RoutePermission}
    (ha : a.applies method path = true) (hb : b.applies method path = true) :
    clash a.shape b.shape = true := by
  obtain ⟨hma, ha⟩ := applies_iff.mp ha
  obtain ⟨hmb, hb⟩ := applies_iff.mp hb
  obtain ⟨hla, ha⟩ := matchRoute_iff.mp ha
  obtain ⟨hlb, hb⟩ := matchRoute_iff.mp hb
  rw [clash, Bool.and_eq_true, beq_iff_eq]
  exact ⟨congrArg String.toList (hma.trans hmb.symm), overlaps_of_match hla hlb ha hb⟩

theorem shapes_eq : routePermissions.map RoutePermission.shape =
    methodChars.1.zip (patternChars.1.map segments) := by
  rw [← methodChars.2, ← patternChars.2, List.map_map, List.map_map, List.map_map, List.zip_map']
  rfl

/-- The rule for one user. -/
def userByID : RoutePermission := ⟨"GET", "/api/v1/users/{id}", "users", "read", "own"⟩

def usersExport : RoutePermission := ⟨"GET", "/api/v1/users/export", "users", "export", "tenant"⟩

theorem pairwise_clash : routePermissions.Pairwise fun a b =>
    clash a.shape b.shape = true → a = userByID ∧ b = usersExport := by
  have hzip : (routePermissions.zip (methodChars.1.zip (patternChars.1.map segments))).Pairwise
      fun a b => clash a.2 b.2 = true → a.1 = userByID ∧ b.1 = usersExport := by
    decide +kernel
  have hpair : routePermissions.zip (routePermissions.map RoutePermission.shape) =
      routePermissions.map fun rp => (rp, rp.shape) := by
    have h := List.zip_map' (f := id) (g := RoutePermission.shape) (l := routePermissions)
    rwa [List.map_id] at h
  rw [← shapes_eq, hpair, List.pairwise_map] at hzip
  exact hzip

/-- **Two rules match one request** in one case only. -/
theorem overlap_cases {method path : String} {a b : RoutePermission} (ha : a ∈ routePermissions)
    (hb : b ∈ routePermissions) (hmatch : a.applies method path = true)
    (hmatch' : b.applies method path = true) :
    a = b ∨ (a = userByID ∧ b = usersExport) ∨ (a = usersExport ∧ b = userByID) := by
  by_cases hab : a = b
  · exact .inl hab
  · -- whichever of the two comes first
    let R (a b : RoutePermission) : Prop :=
      a.applies method path = true → b.applies method path = true →
        (a = userByID ∧ b = usersExport) ∨ (a = usersExport ∧ b = userByID)
    have hpairs : routePermissions.Pairwise R :=
      pairwise_clash.imp fun h ha hb => .inl (h (clash_of_applies ha hb))
    have hsymm : Std.Symm R := by
      refine ⟨fun a b h hb ha => ?_⟩
      rcases h ha hb with ⟨rfl, rfl⟩ | ⟨rfl, rfl⟩
      · exact .inr ⟨rfl, rfl⟩
      · exact .inl ⟨rfl, rfl⟩
    exact .inr (hpairs.forall ha hb hab hmatch hmatch')

/-- A request for the export of users, which the rule for one user matches as well. -/
def AsksForExport (method path : String) : Prop :=
  method = "GET" ∧ segments path.toList = segments "/api/v1/users/export".toList

theorem usersExport_applies {method path : String} :
    usersExport.applies method path = true ↔ AsksForExport method path := by
  have hliteral : ∀ p ∈ segments "/api/v1/users/export".toList, isParam p = false := by decide
  rw [applies_iff, matchRoute_iff, AsksForExport]
  show "GET" = method ∧ (segments "/api/v1/users/export".toList).length = _ ∧
    matchSegments (segments "/api/v1/users/export".toList) _ = true ↔ _
  constructor
  · rintro ⟨hmethod, hlen, hmatch⟩
    exact ⟨hmethod.symm, ((matchSegments_literal hlen hliteral).mp hmatch).symm⟩
  · rintro ⟨hmethod, hpath⟩
    exact ⟨hmethod.symm, by rw [hpath],
      (matchSegments_literal (by rw [hpath]) hliteral).mpr hpath.symm⟩

theorem userByID_applies {method path : String} (h : AsksForExport method path) :
    userByID.applies method path = true := by
  rw [applies_iff, matchRoute_iff, h.1, h.2]
  exact ⟨rfl, by decide, by decide⟩

theorem userByID_mem : userByID ∈ routePermissions := List.mem_iff_getElem?.mpr ⟨1, rfl⟩

theorem usersExport_mem : usersExport ∈ routePermissions := List.mem_iff_getElem?.mpr ⟨8, rfl⟩

-- ---------------------------------------------------------------------------
-- When the decision is right
-- ---------------------------------------------------------------------------

/-- Of two patterns of equal length: the first position at which one has a parameter only has it
in the second. -/
def moreSpecific : List (List Char) → List (List Char) → Bool
  | p :: pp, q :: qq => if isParam p = isParam q then moreSpecific pp qq else isParam q
  | _, _ => false

structure MostSpecific (method path : String) (rp : RoutePermission) : Prop where
  rule    : rp ∈ routePermissions
  applies : rp.applies method path = true
  least   : ∀ rp' ∈ routePermissions, rp'.applies method path = true →
    moreSpecific (segments rp'.pattern.toList) (segments rp.pattern.toList) = false

/-- What a rule that matches decides. -/
def RoutePermission.decision (userPerms : List String) (rp : RoutePermission) : Bool × Bool :=
  (true, hasPermission userPerms rp.resource rp.action rp.scope)

/-- The most specific rule that matches is enforced; without one, access is denied. -/
structure Enforces (method path : String) (userPerms : List String) : Prop where
  matched   : ∀ rp, MostSpecific method path rp →
    checkRoutePermission method path userPerms = rp.decision userPerms
  unmatched : (∀ rp ∈ routePermissions, rp.applies method path = false) →
    checkRoutePermission method path userPerms = (false, false)

/-- The table may be written in any order. -/
def OrderFree (method path : String) (userPerms : List String) : Prop :=
  ∀ table : List RoutePermission, table.Perm routePermissions →
    checkTable table method path userPerms = checkRoutePermission method path userPerms

/-- The rule for one user and the one for the export agree about the permissions. -/
def SameForExport (userPerms : List String) : Prop :=
  hasPermission userPerms "users" "read" "own" = hasPermission userPerms "users" "export" "tenant"

section Decisions

variable {method path : String} {userPerms : List String}

theorem agree_iff : (∀ a ∈ routePermissions, ∀ b ∈ routePermissions,
      a.applies method path = true → b.applies method path = true →
        a.decision userPerms = b.decision userPerms) ↔
    (AsksForExport method path → SameForExport userPerms) := by
  constructor
  · intro h hasks
    have hsame := h userByID userByID_mem usersExport usersExport_mem (userByID_applies hasks)
      (usersExport_applies.mpr hasks)
    exact congrArg Prod.snd hsame
  · intro h a ha b hb hmatch hmatch'
    rcases overlap_cases ha hb hmatch hmatch' with rfl | ⟨rfl, rfl⟩ | ⟨rfl, rfl⟩
    · rfl
    · exact congrArg (Prod.mk true) (h (usersExport_applies.mp hmatch'))
    · exact congrArg (Prod.mk true) (h (usersExport_applies.mp hmatch)).symm

/-- The order of the table matters for the export only, and there only to users about whom its two
rules disagree. -/
theorem orderFree_iff : OrderFree method path userPerms ↔
    (AsksForExport method path → SameForExport userPerms) := by
  rw [← agree_iff]
  exact firstMatch_perm_iff

/-- The rule for one user comes first. -/
theorem check_export (hasks : AsksForExport method path) :
    checkRoutePermission method path userPerms = userByID.decision userPerms := by
  have hlist : ¬ (RoutePermission.mk "GET" "/api/v1/users" "users" "read" "tenant").applies
      method path = true := by
    rw [applies_iff, matchRoute_iff, hasks.2]
    rintro ⟨-, hlen, -⟩
    exact absurd hlen (by decide)
  have hfind : routePermissions.find? (RoutePermission.applies method path) = some userByID := by
    rw [routePermissions, List.find?_cons_of_neg hlist]
    exact List.find?_cons_of_pos (userByID_applies hasks)
  rw [checkRoutePermission, checkTable, firstMatch, hfind]
  rfl

theorem mostSpecific_export (hasks : AsksForExport method path) :
    MostSpecific method path usersExport := by
  refine ⟨usersExport_mem, usersExport_applies.mpr hasks, fun rp hrp hmatch => ?_⟩
  rcases overlap_cases hrp usersExport_mem hmatch (usersExport_applies.mpr hasks) with
    rfl | ⟨rfl, -⟩ | ⟨rfl, -⟩ <;> decide

theorem enforces_iff : Enforces method path userPerms ↔
    (AsksForExport method path → SameForExport userPerms) := by
  constructor
  · intro h hasks
    have hexport := h.matched usersExport (mostSpecific_export hasks)
    rw [check_export hasks] at hexport
    exact congrArg Prod.snd hexport
  · intro h
    refine ⟨fun rp hrp => ?_, firstMatch_of_none⟩
    obtain ⟨b, hb, hmatch, hfirst⟩ := exists_firstMatch
      (RoutePermission.decision userPerms) (false, false) hrp.rule hrp.applies
    exact hfirst.trans (agree_iff.mpr h b hb rp hrp.rule hmatch hrp.applies)

end Decisions

/-- **The most specific rule decides**, in whatever order the table is written, unless the users
are to be exported by someone about whom the rule for one user and the rule for the export
disagree. -/
theorem precise_iff (method path : String) (userPerms : List String) :
    (Enforces method path userPerms ∧ OrderFree method path userPerms) ↔
      (AsksForExport method path → SameForExport userPerms) := by
  rw [enforces_iff, orderFree_iff, and_self]

/-- Someone who may read their own profile exports all users of the tenant. -/
theorem export_with_own_scope :
    ¬ (Enforces "GET" "/api/v1/users/export" ["users:read:own"] ∧
      OrderFree "GET" "/api/v1/users/export" ["users:read:own"]) := by
  rintro ⟨hprecise, -⟩
  have hsame := enforces_iff.mp hprecise ⟨rfl, rfl⟩
  rw [SameForExport] at hsame
  revert hsame
  decide

end Ggid.Rbac
