import Ggid.Gateway.Rbac
import Ggid.Gateway.Route

/-!
# Gateway — aliases

The gate is asked before the path is rewritten, the backend sees what comes of it. So the list of
admin endpoints has to know a backend's path under every alias it has.

* `rewriteChars_spec`      — the backend's path, up to what a later occurrence may do to its end;
* `isAdminEndpoint_append` — the prefix list from a given start of the path on;
* `gatedAsAdmin_iff`       — whom the gate stops, as a condition on the path;
* `forwarded_gated_iff`    — a path that is forwarded to an admin endpoint is gated as one,
  outside a list of tails of aliases and public paths;
* `factors_through_alias`  — the MFA factors, under their alias.
-/

namespace Ggid.Gateway

open Ggid.Go

-- ---------------------------------------------------------------------------
-- The guard of the router
-- ---------------------------------------------------------------------------

namespace Router

/-- `AdminOnlyPaths`. -/
def adminOnlyPaths : List String :=
  ["/api/v1/users", "/api/v1/roles", "/api/v1/audit/", "/api/v1/policies", "/api/v1/policy/",
    "/api/v1/webhooks", "/api/v1/oauth/clients", "/api/v1/settings/", "/api/v1/admin/",
    "/api/v1/identity/dashboard", "/api/v1/tenants", "/api/v1/impersonate",
    "/api/v1/auth/impersonate", "/api/v1/api-keys", "/api/v1/access-keys",
    "/api/v1/admin/secrets", "/api/v1/admin/key-rotation", "/api/v1/admin/backup",
    "/api/v1/auth/mfa/factors", "/api/v1/auth/mfa/admin/", "/api/v1/auth/credentials/",
    "/api/v1/auth/credential-stuffing/", "/api/v1/mdm/devices", "/api/v1/identity/devices/",
    "/api/v1/access-reviews", "/api/v1/activity", "/api/v1/exports", "/oauth/clients"]

def platformOnlyPaths : List String :=
  ["/api/v1/system/", "/api/v1/tenants/create", "/api/v1/org/tenants/suspend",
    "/api/v1/org/tenants/activate", "/api/v1/admin/audit/global",
    "/api/v1/admin/threats/dashboard"]

/-- `checkRouteScope`, which `ServeHTTP` asks before it routes. -/
def checkRouteScope (unicode : Char → Char) (r : Request) : Bool :=
  let path := r.path.toList
  let claims := extractJWTClaims r.ctx
  if claims.subject = "" then true
  else
    let isPlatformTenant := claims.scopes.contains "platform:admin"
    let hasPlatform := isPlatformTenant && hasPlatformAdminScope unicode claims.scopes
    let hasTenant := claims.scopes.any fun sc => Strings.toLower unicode sc == "tenant:admin"
    if platformOnlyPaths.any fun pre => Strings.hasPrefix path pre.toList && !hasPlatform then false
    else !(adminOnlyPaths.any fun pre =>
      Strings.hasPrefix path pre.toList && !hasTenant && !isSelfService path &&
        !isTenantResolve path && !(!isAdminEndpoint path &&
          hasPermissionForRoute unicode path r.method claims.permissions))

end Router

-- ---------------------------------------------------------------------------
-- What is forwarded
-- ---------------------------------------------------------------------------

/-- The routes whose paths are rewritten. -/
def aliases : List String := authAliases ++ identityAliases ++ auditAliases

/-- Where the paths of the route live. -/
def aliasTarget (route : String) : List Char :=
  if route ∈ authAliases then "/api/v1/auth/".toList ++ featureOf route
  else if route ∈ identityAliases then "/api/v1/identity/".toList ++ featureOf route
  else if route ∈ auditAliases then "/api/v1/audit/".toList ++ featureOf route
  else route.toList

/-- The two texts begin with the same texts, of those without `/api/v1/`. -/
def BeginAlike (s t : List Char) : Prop :=
  ∀ w, ¬ "/api/v1/".toList <:+: w → (s = w ↔ t = w) ∧ (w <+: s ↔ w <+: t)

theorem BeginAlike.refl (s : List Char) : BeginAlike s s := fun _ _ => ⟨Iff.rfl, Iff.rfl⟩

theorem beginAlike_replaceFirst (s o n : List Char) :
    BeginAlike (Strings.replaceFirst s ("/api/v1/".toList ++ o) ("/api/v1/".toList ++ n)) s :=
  fun _ hw => ⟨Strings.replaceFirst_eq_iff hw s o n, Strings.prefix_replaceFirst_iff hw s o n⟩

theorem authAliases_disjoint : ∀ route ∈ authAliases,
    route ∉ identityAliases ∧ route ∉ auditAliases := by
  decide

theorem identityAliases_disjoint : ∀ route ∈ identityAliases, route ∉ auditAliases := by
  decide

/-- An alias is `/api/v1/` and the feature. -/
theorem toList_of_alias : ∀ route ∈ aliases,
    route.toList = "/api/v1/".toList ++ featureOf route := by
  decide

/-- The rules of the auth service: one occurrence of the alias is replaced with the slash behind
it and one without, whether there is a slash or not. -/
theorem replaceTwice_spec (f : List Char)
    (hroute : ((("/api/v1/".toList ++ f).tail.tails.all fun u =>
      u.isEmpty || Strings.apart u ("/api/v1/".toList ++ f ++ ['/'])) = true))
    (htarget : ((("/api/v1/auth/".toList ++ f).tails.all fun u =>
      u.isEmpty || Strings.apart u ("/api/v1/".toList ++ f)) = true)) (rest : List Char) :
    ∃ rest', Strings.replaceFirst
        (Strings.replaceFirst ("/api/v1/".toList ++ f ++ rest) ("/api/v1/".toList ++ f ++ ['/'])
          ("/api/v1/auth/".toList ++ f ++ ['/']))
        ("/api/v1/".toList ++ f) ("/api/v1/auth/".toList ++ f) =
      "/api/v1/auth/".toList ++ f ++ rest' ∧ BeginAlike rest' rest := by
  by_cases hslash : ['/'] <+: rest
  · obtain ⟨below, rfl⟩ := hslash
    refine ⟨Strings.replaceFirst (['/'] ++ below) ("/api/v1/".toList ++ f)
      ("/api/v1/auth/".toList ++ f), ?_, beginAlike_replaceFirst _ f ("auth/".toList ++ f)⟩
    rw [← List.append_assoc, Strings.replaceFirst_self,
      List.append_assoc _ ['/'], Strings.replaceFirst_append htarget]
  · -- the first rule finds nothing at the start
    have hfirst : Strings.replaceFirst ("/api/v1/".toList ++ f ++ rest)
        ("/api/v1/".toList ++ f ++ ['/']) ("/api/v1/auth/".toList ++ f ++ ['/']) =
        "/api/v1/".toList ++ f ++ Strings.replaceFirst rest ("/api/v1/".toList ++ f ++ ['/'])
          ("/api/v1/auth/".toList ++ f ++ ['/']) := by
      have hhead : ¬ "/api/v1/".toList ++ f ++ ['/'] <+:
          '/' :: ("api/v1/".toList ++ f ++ rest) := by
        intro h
        exact hslash ((List.prefix_append_right_inj ("/api/v1/".toList ++ f)).mp h)
      exact (Strings.replaceFirst_cons hhead _).trans
        (congrArg (List.cons '/') (Strings.replaceFirst_append hroute _ _))
    refine ⟨_, ?_, beginAlike_replaceFirst rest (f ++ ['/']) ("auth/".toList ++ f ++ ['/'])⟩
    rw [hfirst, Strings.replaceFirst_self]
    simp only [List.append_assoc]
    rfl

/-- The features of the auth service do not interfere with the rules' search. -/
theorem auth_features_apart : ∀ route ∈ authAliases,
    ((("/api/v1/".toList ++ featureOf route).tail.tails.all fun u =>
      u.isEmpty || Strings.apart u ("/api/v1/".toList ++ featureOf route ++ ['/'])) = true) ∧
    ((("/api/v1/auth/".toList ++ featureOf route).tails.all fun u =>
      u.isEmpty || Strings.apart u ("/api/v1/".toList ++ featureOf route)) = true) := by
  decide

/-- **The forwarded path** is where the route's paths live, and then as the path goes on. -/
theorem rewriteChars_spec (route : String) (rest : List Char) : ∃ rest',
    rewriteChars route (route.toList ++ rest) = aliasTarget route ++ rest' ∧
      BeginAlike rest' rest := by
  unfold rewriteChars aliasTarget
  by_cases hauth : route ∈ authAliases
  · obtain ⟨hidentity, haudit⟩ := authAliases_disjoint route hauth
    obtain ⟨happart, htarget⟩ := auth_features_apart route hauth
    have hroute := toList_of_alias route (by simp [aliases, hauth])
    simp only [if_pos hauth, if_neg hidentity, if_neg haudit]
    rw [hroute]
    exact replaceTwice_spec (featureOf route) happart htarget rest
  by_cases hidentity : route ∈ identityAliases
  · have haudit := identityAliases_disjoint route hidentity
    have hroute := toList_of_alias route (by simp [aliases, hidentity])
    simp only [if_neg hauth, if_pos hidentity, if_neg haudit]
    rw [hroute]
    exact ⟨rest, Strings.replaceFirst_self _ _ _, .refl rest⟩
  by_cases haudit : route ∈ auditAliases
  · have hroute := toList_of_alias route (by simp [aliases, haudit])
    simp only [if_neg hauth, if_neg hidentity, if_pos haudit]
    rw [hroute]
    exact ⟨rest, Strings.replaceFirst_self _ _ _, .refl rest⟩
  · simp only [if_neg hauth, if_neg hidentity, if_neg haudit]
    exact ⟨rest, rfl, .refl rest⟩

-- ---------------------------------------------------------------------------
-- The prefix list behind a given start
-- ---------------------------------------------------------------------------

/-- What the prefixes that begin with `x` go on with. -/
def tailsBelow (x : List Char) : List (List Char) :=
  adminChars.1.filterMap fun pre =>
    if Strings.hasPrefix pre x = true then some (pre.drop x.length) else none

/-- `x` is below a prefix. -/
def covered (x : List Char) : Bool :=
  adminChars.1.any fun pre => Strings.hasPrefix x (anchored pre)

theorem mem_tailsBelow {x w : List Char} :
    w ∈ tailsBelow x ↔ ∃ pre ∈ adminChars.1, pre = x ++ w := by
  unfold tailsBelow
  rw [List.mem_filterMap]
  refine exists_congr fun pre => and_congr_right fun _ => ?_
  by_cases hx : Strings.hasPrefix pre x = true
  · rw [if_pos hx]
    obtain ⟨v, rfl⟩ := hasPrefix_iff.mp hx
    rw [List.drop_left, Option.some_inj, List.append_cancel_left_eq]
  · rw [if_neg hx]
    refine iff_of_false (by simp) fun h => hx (hasPrefix_iff.mpr ?_)
    rw [h]
    exact List.prefix_append _ _

theorem anchored_eq (w : List Char) :
    anchored w = if ['/'] <:+ w then w else w ++ ['/'] := by
  unfold anchored Strings.hasSuffix
  simp only [List.isSuffixOf_iff_suffix]

theorem slash_suffix_append {x u : List Char} (hu : u ≠ []) : ['/'] <:+ x ++ u ↔ ['/'] <:+ u := by
  refine ⟨fun h => ?_, fun h => h.trans (List.suffix_append _ _)⟩
  exact List.suffix_of_suffix_length_le h (List.suffix_append x u) (List.length_pos_of_ne_nil hu)

/-- A path that begins with `x` is at or below a prefix if `x` is below it, or if its rest is at or
below the rest of the prefix. -/
theorem atOrBelow_append {x s v : List Char} : atOrBelow (x ++ s) v = true ↔
    anchored v <+: x ∨ ∃ w, v = x ++ w ∧ atOrBelow s w = true := by
  constructor
  · rw [atOrBelow_iff]
    rintro (rfl | hbelow)
    · exact .inr ⟨s, rfl, atOrBelow_iff.mpr (.inl rfl)⟩
    rcases List.prefix_or_prefix_of_prefix hbelow (List.prefix_append x s) with h | ⟨u, hu⟩
    · exact .inl h
    rw [← hu, List.prefix_append_right_inj] at hbelow
    by_cases hnil : u = []
    · rw [← hu, hnil, List.append_nil]
      exact .inl (List.prefix_refl _)
    right
    rw [anchored_eq] at hu
    by_cases hslash : ['/'] <:+ v
    · rw [if_pos hslash] at hu
      refine ⟨u, hu.symm, atOrBelow_iff.mpr (.inr ?_)⟩
      rw [← hu, slash_suffix_append hnil] at hslash
      rwa [anchored_eq, if_pos hslash]
    · -- the slash is added behind `x`
      rw [if_neg hslash] at hu
      obtain ⟨w, hw⟩ : ['/'] <:+ u := (slash_suffix_append hnil).mp ⟨v, hu.symm⟩
      rw [← hw, ← List.append_assoc, List.append_cancel_right_eq] at hu
      refine ⟨w, hu.symm, atOrBelow_iff.mpr (.inr ?_)⟩
      rwa [anchored_eq, if_neg fun h => hslash (hu ▸ h.trans (List.suffix_append _ _)), hw]
  · rintro (hx | ⟨w, rfl, hs⟩)
    · exact atOrBelow_iff.mpr (.inr (hx.trans (List.prefix_append _ _)))
    · rcases atOrBelow_iff.mp hs with rfl | hbelow
      · exact atOrBelow_iff.mpr (.inl rfl)
      · refine atOrBelow_iff.mpr (.inr ?_)
        rw [anchored_eq] at hbelow ⊢
        by_cases hslash : ['/'] <:+ w
        · rw [if_pos hslash] at hbelow
          rw [if_pos (hslash.trans (List.suffix_append _ _))]
          exact (List.prefix_append_right_inj x).mpr hbelow
        · rw [if_neg hslash] at hbelow
          split
          · exact (List.prefix_append_right_inj x).mpr ((List.prefix_append _ _).trans hbelow)
          · rw [List.append_assoc]
            exact (List.prefix_append_right_inj x).mpr hbelow

theorem exists_atOrBelow_append {x s : List Char} :
    (∃ pre ∈ adminChars.1, atOrBelow (x ++ s) pre = true) ↔
      covered x = true ∨ ∃ w ∈ tailsBelow x, atOrBelow s w = true := by
  rw [covered, List.any_eq_true]
  constructor
  · rintro ⟨pre, hpre, hmatch⟩
    rcases atOrBelow_append.mp hmatch with hx | ⟨w, hw, hs⟩
    · exact .inl ⟨pre, hpre, hasPrefix_iff.mpr hx⟩
    · exact .inr ⟨w, mem_tailsBelow.mpr ⟨pre, hpre, hw⟩, hs⟩
  · rintro (⟨pre, hpre, hx⟩ | ⟨w, hmem, hs⟩)
    · exact ⟨pre, hpre, atOrBelow_append.mpr (.inl (hasPrefix_iff.mp hx))⟩
    · obtain ⟨pre, hpre, hw⟩ := mem_tailsBelow.mp hmem
      exact ⟨pre, hpre, atOrBelow_append.mpr (.inr ⟨w, hw, hs⟩)⟩

/-- Neither a path for the user's own data nor the public lookup of tenants begins with `x`. -/
def clearOfExceptions (x : List Char) : Bool :=
  (selfServicePaths.all fun p => !Strings.hasPrefix p.toList x) &&
    Strings.apart x "/api/v1/tenants/resolve".toList

theorem isAdminEndpoint_append {x : List Char} (hx : clearOfExceptions x = true) (s : List Char) :
    isAdminEndpoint (x ++ s) = true ↔
      covered x = true ∨ ∃ w ∈ tailsBelow x, atOrBelow s w = true := by
  rw [clearOfExceptions, Bool.and_eq_true, List.all_eq_true] at hx
  have hself : isSelfService (x ++ s) = false := by
    rw [isSelfService, List.any_eq_false]
    intro p hp hsame
    have hnot := hx.1 p hp
    rw [← beq_iff_eq.mp hsame, Bool.not_eq_true'] at hnot
    exact absurd (hasPrefix_iff.mpr (List.prefix_append x s)) (by simp [hnot])
  have hresolve : isTenantResolve (x ++ s) = false := by
    rw [isTenantResolve, Bool.eq_false_iff, ne_eq, hasPrefix_iff]
    exact Strings.not_prefix_of_apart hx.2 s
  rw [isAdminEndpoint_iff, exists_atOrBelow_append]
  exact and_iff_left ⟨hself, hresolve⟩

-- ---------------------------------------------------------------------------
-- Whom the gate stops
-- ---------------------------------------------------------------------------

/-- The caller has a token, or a key with scopes. -/
def Identified (ctx : Context) : Prop :=
  (extractJWTClaims ctx).subject ≠ "" ∨ ctx.apiKeyScopes.getD [] ≠ []

/-- No rule of the database is about the request. -/
def NoRule (unicode : Char → Char) (rules : Option (Option (List RoutePermRow))) (r : Request) :
    Prop :=
  ∀ rows, rules = some (some rows) →
    matchRules unicode rows r.path.toList r.method (extractJWTClaims r.ctx) = none

/-- `RequireAdminScope` stops every caller without an admin scope, where no rule says otherwise. -/
def GatedAsAdmin (unicode : Char → Char) (path : String) : Prop :=
  ∀ (rules : Option (Option (List RoutePermRow))) (r : Request), r.path = path →
    Identified r.ctx → hasAdminScope unicode (callerScopes r.ctx) = false →
    NoRule unicode rules r → requireAdminScope unicode rules r ≠ .next

theorem hasAdminScope_false {unicode : Char → Char} {scopes : List String}
    (h : hasAdminScope unicode scopes = false) : hasPlatformAdminScope unicode scopes = false ∧
      "platform:admin" ∉ scopes ∧ "tenant:admin" ∉ scopes := by
  rw [hasAdminScope, List.any_eq_false] at h
  refine ⟨?_, ?_, ?_⟩
  · rw [hasPlatformAdminScope, List.any_eq_false]
    exact fun sc hsc hplatform => h sc hsc (by rw [hplatform, Bool.true_or])
  · exact fun hmem => h _ hmem (by rw [toLower_platform]; rfl)
  · exact fun hmem => h _ hmem (by rw [toLower_tenant]; rfl)

/-- The prefix list stops a token without an admin scope at every admin endpoint. -/
theorem staticDecision_noScope {unicode : Char → Char} {r : Request}
    (hadmin : isAdminEndpoint r.path.toList = true)
    (hsubject : (extractJWTClaims r.ctx).subject ≠ "")
    (hscope : hasAdminScope unicode (extractJWTClaims r.ctx).scopes = false) :
    staticDecision unicode r = adminForbidden r.ctx := by
  unfold staticDecision
  simp only [hadmin, hscope, (hasAdminScope_false hscope).1, isAdminOnlyPath]
  rw [if_neg (by simp), if_neg hsubject]
  simp

theorem gatedAsAdmin_iff (unicode : Char → Char) (path : String) : GatedAsAdmin unicode path ↔
    isRBACExempt path.toList = false ∧ isAdminEndpoint path.toList = true := by
  constructor
  · intro hgated
    have hplain : requireAdminScope unicode none (plainRequest path) ≠ .next :=
      hgated none (plainRequest path) rfl (.inl (by simp [plainRequest, extractJWTClaims])) rfl
        fun rows hrows => absurd hrows (by simp)
    have hexempt : isRBACExempt path.toList = false := by
      by_contra hexempt
      exact hplain (requireAdminScope_exempt (Bool.not_eq_false _ ▸ hexempt))
    refine ⟨hexempt, ?_⟩
    by_contra hadmin
    exact hplain ((requireAdminScope_none hexempt).trans
      (staticDecision_free (Bool.eq_false_iff.mpr hadmin)))
  · rintro ⟨hexempt, hadmin⟩ rules r rfl hidentified hscope hrule
    by_cases hsubject : (extractJWTClaims r.ctx).subject = ""
    · rw [requireAdminScope_noSubject hexempt hsubject, staticDecision_key hadmin hsubject]
      rw [callerScopes, if_pos hsubject] at hscope
      obtain ⟨-, hplatform, htenant⟩ := hasAdminScope_false hscope
      exact ⟨⟨hidentified.resolve_left (absurd hsubject), htenant⟩, hplatform⟩
    · rw [callerScopes, if_neg hsubject] at hscope
      have hstatic := staticDecision_noScope hadmin hsubject hscope
      cases rules with
      | none =>
        rw [requireAdminScope_none hexempt, hstatic]
        simp [adminForbidden]
      | some rows =>
        obtain ⟨-, hself, hresolve⟩ := isAdminEndpoint_iff.mp hadmin
        have hdecision : checkAccess unicode rows r.path.toList r.method
            (extractJWTClaims r.ctx) = none := by
          unfold checkAccess
          rw [if_neg (by simp [hself, hresolve]), if_neg (by simp [hscope])]
          cases rows with
          | none => rfl
          | some rows => exact hrule rows rfl
        rw [requireAdminScope_some hexempt hsubject, hdecision]
        show staticDecision unicode r ≠ .next
        rw [hstatic]
        simp [adminForbidden]

-- ---------------------------------------------------------------------------
-- Where the two disagree
-- ---------------------------------------------------------------------------

/-- How a path goes on behind its alias where the backend's path is an admin endpoint, and the path
is none. -/
def ungatedTails (route : String) : List String :=
  if route = "/api/v1/mfa" then ["/factors", "/admin/"]
  else if route = "/api/v1/sessions" then ["/force-logout", "/limit"]
  else if route = "/api/v1/dashboard" then [""]
  else []

/-- The public paths that lie below an admin prefix. -/
def publicAdminPaths : List String :=
  ["/api/v1/oauth/clients/gcid-console", "/api/v1/policy/healthz", "/api/v1/audit/healthz",
    "/api/v1/system/initialized", "/api/v1/system/bootstrap", "/api/v1/system/status"]

/-- The path reaches an admin endpoint of the route's backend past the gate: it is public, or one
of the tails above follows its alias, or an alias of the audit service goes on without a slash. -/
def Ungated (route : String) (path : List Char) : Prop :=
  (route ∉ aliases ∧ ∃ p ∈ publicAdminPaths, p.toList <+: path) ∨
    (∃ tail ∈ ungatedTails route, atOrBelow (path.drop route.toList.length) tail.toList = true) ∨
    (route ∈ auditAliases ∧ atOrBelow (path.drop route.toList.length) [] = false)

/-- The prefix list at the targets of the aliases. -/
theorem targets_listed : ∀ route ∈ aliases, clearOfExceptions (aliasTarget route) = true ∧
    (covered (aliasTarget route) = true ↔ route ∈ auditAliases) ∧
    tailsBelow (aliasTarget route) = (ungatedTails route).map String.toList := by
  decide

/-- The prefix list at the aliases: it has those of the audit service, and none with a tail. -/
theorem aliases_listed : ∀ route ∈ aliases, clearOfExceptions route.toList = true ∧
    covered route.toList = false ∧
    (route ∈ auditAliases → tailsBelow route.toList = [[]]) ∧
    (ungatedTails route ≠ [] → tailsBelow route.toList = []) := by
  decide

/-- Of the public paths, the prefix list has these. -/
theorem publicPaths_listed : ∀ p ∈ publicChars.1,
    ((publicAdminPaths.any fun q => Strings.hasPrefix p q.toList) || isTenantResolve p ||
      adminChars.1.all (Strings.apart p)) = true := by
  decide

/-- An alias of the audit service is no public path. -/
theorem auditAliases_apart : ∀ route ∈ auditAliases,
    publicChars.1.all (Strings.apart route.toList) = true := by
  decide

theorem publicAdminPaths_listed : ∀ p ∈ publicAdminPaths, isRBACExempt p.toList = true ∧
    clearOfExceptions p.toList = true ∧ covered p.toList = true := by
  simp only [isRBACExempt_eq]
  decide

/-- Public admin endpoints are those that begin with a listed path. -/
theorem exempt_admin_iff {path : List Char} :
    (isRBACExempt path = true ∧ isAdminEndpoint path = true) ↔
      ∃ p ∈ publicAdminPaths, p.toList <+: path := by
  constructor
  · rintro ⟨hexempt, hadmin⟩
    rw [isRBACExempt_eq, List.any_eq_true] at hexempt
    obtain ⟨p, hp, hpre⟩ := hexempt
    obtain ⟨rest, rfl⟩ := hasPrefix_iff.mp hpre
    have hlisted := publicPaths_listed p hp
    rw [Bool.or_eq_true, Bool.or_eq_true, List.any_eq_true] at hlisted
    rcases hlisted with (⟨q, hq, hbegins⟩ | htenants) | happart
    · exact ⟨q, hq, (hasPrefix_iff.mp hbegins).trans (List.prefix_append _ _)⟩
    · obtain ⟨-, -, hresolve⟩ := isAdminEndpoint_iff.mp hadmin
      have hall : isTenantResolve (p ++ rest) = true :=
        hasPrefix_iff.mpr ((hasPrefix_iff.mp htenants).trans (List.prefix_append _ _))
      exact absurd (hresolve.symm.trans hall) (by simp)
    · obtain ⟨⟨pre, hpre, hmatch⟩, -, -⟩ := isAdminEndpoint_iff.mp hadmin
      have hbegins : pre <+: p ++ rest := prefix_of_atOrBelow hmatch
      exact absurd hbegins
        (Strings.not_prefix_of_apart (List.all_eq_true.mp happart pre hpre) rest)
  · rintro ⟨p, hp, rest, rfl⟩
    obtain ⟨hexempt, hclear, hcovered⟩ := publicAdminPaths_listed p hp
    refine ⟨?_, (isAdminEndpoint_append hclear rest).mpr (.inl hcovered)⟩
    obtain ⟨q, hq, hbegins⟩ := List.any_eq_true.mp hexempt
    exact List.any_eq_true.mpr ⟨q, hq, hasPrefix_iff.mpr
      ((hasPrefix_iff.mp hbegins).trans (List.prefix_append _ _))⟩

theorem rewriteChars_of_not_alias {route : String} (h : route ∉ aliases) (path : List Char) :
    rewriteChars route path = path := by
  simp only [aliases, List.mem_append, not_or] at h
  unfold rewriteChars
  simp only [if_neg h.1.1, if_neg h.1.2, if_neg h.2]

theorem tails_without_version : ∀ route ∈ aliases, ∀ tail ∈ ungatedTails route,
    ¬ "/api/v1/".toList <:+: tail.toList ∧ ¬ "/api/v1/".toList <:+: anchored tail.toList := by
  decide +kernel

/-- A tail follows the target where it follows the alias. -/
theorem tail_follows_iff {route tail : String} {s t : List Char} (hroute : route ∈ aliases)
    (htail : tail ∈ ungatedTails route) (h : BeginAlike s t) :
    atOrBelow s tail.toList = true ↔ atOrBelow t tail.toList = true := by
  obtain ⟨hsame, hbelow⟩ := tails_without_version route hroute tail htail
  rw [atOrBelow_iff, atOrBelow_iff, (h _ hsame).1, (h _ hbelow).2]

/-- What is forwarded under an alias is an admin endpoint for every alias of the audit service, and
elsewhere behind the tails. -/
theorem rewritten_admin_iff {route : String} (hroute : route ∈ aliases) (rest : List Char) :
    isAdminEndpoint (rewriteChars route (route.toList ++ rest)) = true ↔
      route ∈ auditAliases ∨ ∃ tail ∈ ungatedTails route, atOrBelow rest tail.toList = true := by
  obtain ⟨hclear, hcovered, htails⟩ := targets_listed route hroute
  obtain ⟨rest', hrewrite, halike⟩ := rewriteChars_spec route rest
  rw [hrewrite, isAdminEndpoint_append hclear, hcovered, htails]
  simp only [List.mem_map, exists_exists_and_eq_and]
  exact or_congr_right (exists_congr fun tail => and_congr_right fun htail =>
    tail_follows_iff hroute htail halike)

/-- **A path that is forwarded to an admin endpoint** is gated as one itself, exactly if it is not
one of the ungated. -/
theorem forwarded_gated_iff {α : Type} (unicode : Char → Char) {proxies : List (String × α)}
    {path : String} {entry : String × α} (h : matchBackend proxies path = some entry) :
    (isAdminEndpoint (rewritePath entry.1 path).toList = true → GatedAsAdmin unicode path) ↔
      ¬ Ungated entry.1 path.toList := by
  obtain ⟨-, hmatch, -⟩ := matchBackend_spec h
  obtain ⟨rest, hrest⟩ := hasPrefix_iff.mp hmatch
  rw [rewritePath, String.toList_ofList, gatedAsAdmin_iff]
  unfold Ungated
  by_cases hroute : entry.1 ∈ aliases
  · rw [← hrest, rewritten_admin_iff hroute, List.drop_left]
    obtain ⟨hclear, hcovered, haudit, htails⟩ := aliases_listed entry.1 hroute
    have hgate : isAdminEndpoint (entry.1.toList ++ rest) = true ↔
        ∃ w ∈ tailsBelow entry.1.toList, atOrBelow rest w = true := by
      rw [isAdminEndpoint_append hclear, hcovered]
      exact or_iff_right (by simp)
    rw [hgate]
    by_cases hservice : entry.1 ∈ auditAliases
    · -- always forwarded to an admin endpoint, gated where a slash or nothing follows
      have hnotExempt : isRBACExempt (entry.1.toList ++ rest) = false := by
        rw [isRBACExempt_eq, List.any_eq_false]
        intro p hp hpre
        have happart := List.all_eq_true.mp (auditAliases_apart entry.1 hservice) p hp
        exact Strings.not_prefix_of_apart happart rest (hasPrefix_iff.mp hpre)
      have hnoTail : ungatedTails entry.1 = [] := by
        by_contra hsome
        exact absurd ((haudit hservice).symm.trans (htails hsome)) (by simp)
      simp [hservice, hroute, hnotExempt, hnoTail, haudit hservice]
    · by_cases hnoTail : ungatedTails entry.1 = []
      · simp [hservice, hroute, hnoTail]
      · simp [hservice, hroute, htails hnoTail]
  · have hservice : entry.1 ∉ auditAliases := fun hmem => hroute (by simp [aliases, hmem])
    have hnoTail : ungatedTails entry.1 = [] := by
      unfold ungatedTails
      rw [if_neg, if_neg, if_neg] <;> rintro heq <;> rw [heq] at hroute <;>
        exact hroute (by decide)
    rw [rewriteChars_of_not_alias hroute, hnoTail, ← exempt_admin_iff]
    cases isRBACExempt path.toList <;> cases isAdminEndpoint path.toList <;>
      simp [hroute, hservice]

namespace Sample

def authRoutes : List (String × Unit) := [("/api/v1/auth", ()), ("/api/v1/mfa", ())]

end Sample

open Sample in
/-- The MFA factors are for admins, and under their alias for every user. -/
theorem factors_through_alias :
    (matchBackend authRoutes "/api/v1/mfa/factors" = some ("/api/v1/mfa", ()) ∧
      rewritePath "/api/v1/mfa" "/api/v1/mfa/factors" = "/api/v1/auth/mfa/factors" ∧
      isAdminEndpoint "/api/v1/auth/mfa/factors".toList = true ∧
      requireAdminScope id none (plainRequest "/api/v1/auth/mfa/factors") ≠ .next ∧
      requireAdminScope id none (plainRequest "/api/v1/mfa/factors") = .next ∧
      Router.checkRouteScope id (plainRequest "/api/v1/mfa/factors") = true) ∧
    ¬ GatedAsAdmin id "/api/v1/mfa/factors" := by
  have hadmin : isAdminEndpoint "/api/v1/auth/mfa/factors".toList = true := by
    rw [isAdminEndpoint_eq]
    decide
  have hfree : isAdminEndpoint "/api/v1/mfa/factors".toList = false := by
    rw [isAdminEndpoint_eq]
    decide
  have hexempt : isRBACExempt "/api/v1/auth/mfa/factors".toList = false ∧
      isRBACExempt "/api/v1/mfa/factors".toList = false := by
    simp only [isRBACExempt_eq]
    decide
  have hstops : requireAdminScope id none (plainRequest "/api/v1/auth/mfa/factors") =
      adminForbidden Context.background :=
    (requireAdminScope_none (r := plainRequest "/api/v1/auth/mfa/factors") hexempt.1).trans
      (staticDecision_noScope hadmin (by decide) (by decide))
  have hpasses : requireAdminScope id none (plainRequest "/api/v1/mfa/factors") = .next :=
    (requireAdminScope_none (r := plainRequest "/api/v1/mfa/factors") hexempt.2).trans
      (staticDecision_free hfree)
  refine ⟨⟨by decide, by decide, hadmin, ?_, hpasses, by decide⟩, ?_⟩
  · rw [hstops]
    simp [adminForbidden]
  · rw [gatedAsAdmin_iff]
    exact fun h => absurd (hfree.symm.trans h.2) (by simp)

open Sample in
/-- The other paths of the alias are no admin endpoints behind it either. -/
theorem forwarded_gated_iff_sample :
    matchBackend authRoutes "/api/v1/mfa/status" = some ("/api/v1/mfa", ()) ∧
      (isAdminEndpoint (rewritePath "/api/v1/mfa" "/api/v1/mfa/status").toList = true →
        GatedAsAdmin id "/api/v1/mfa/status") := by
  have hmatch : matchBackend authRoutes "/api/v1/mfa/status" = some ("/api/v1/mfa", ()) := by
    decide
  refine ⟨hmatch, (forwarded_gated_iff id hmatch).mpr ?_⟩
  rintro (⟨hroute, -⟩ | ⟨tail, htail, hbelow⟩ | ⟨haudit, -⟩)
  · exact hroute (by decide)
  · have hother : ∀ tail ∈ ungatedTails "/api/v1/mfa",
        atOrBelow ("/api/v1/mfa/status".toList.drop "/api/v1/mfa".toList.length)
          tail.toList = false := by
      decide
    exact absurd ((hother tail htail).symm.trans hbelow) (by simp)
  · exact absurd haudit (by decide)

end Ggid.Gateway
