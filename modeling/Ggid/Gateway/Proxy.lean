import Ggid.Gateway.Route
import Ggid.Lib.Run

/-!
# Gateway — the proxies and the headers they send

The routing table holds a reverse proxy for each enabled route. Start-up and reload install
proxies whose director replaces the identity headers of the client by what the middleware
verified; switching a disabled route on again installs one without.

* `values_identityDirector`   — what a backend finds under an identity header;
* `cleanProxy_identity`, `not_cleanProxy_standard` — which proxies send nothing else;
* `identity_headers_derived`  — in which runs of start-up, reload and toggle the backends get
  no identity header of the client;
* `toggled_route_leaks`       — a route switched off and on, and a scope the client claims.
-/

namespace Ggid.Gateway

open Ggid.Go Ggid.Lib

-- ---------------------------------------------------------------------------
-- The director
-- ---------------------------------------------------------------------------

/-- A backend URL. -/
structure Target where
  host : String
  path : String
  deriving DecidableEq

/-- What the proxies use and do not define. -/
structure Outside where
  /-- `uuid.Parse`. -/
  parseUUID     : String → Option UUID
  /-- `unicode.ToLower` outside ASCII. -/
  unicodeLower  : Char → Char
  /-- `url.Parse`. -/
  parseURL      : String → Option Target
  /-- Time stamp and signature of an internal request; `none` without a secret. -/
  internalAuth  : Request → Option (String × String)
  /-- The length of an object in JSON. -/
  encodedLength : GoMap → Nat

/-- `singleJoiningSlash`. -/
def joinPath (a b : List Char) : List Char :=
  if Strings.hasSuffix a ['/'] && Strings.hasPrefix b ['/'] then a ++ b.drop 1
  else if !Strings.hasSuffix a ['/'] && !Strings.hasPrefix b ['/'] then a ++ '/' :: b
  else a ++ b

/-- The director of `NewSingleHostReverseProxy`; the host it connects to is the proxy's. -/
def singleHost (target : Target) (r : Request) : Request :=
  { r with path := String.ofList (joinPath target.path.toList r.path.toList) }

section Director

variable (out : Outside)

/-- The request ID, and the signature that binds it (`SignInternalRequest`). -/
def forwardRequestID (r : Request) : Request :=
  match r.ctx.requestID with
  | none => r
  | some requestID =>
    let r := { r with header := r.header.set "X-Request-ID" requestID }
    match out.internalAuth r with
    | none => r
    | some auth => { r with header := ((r.header.set "X-Internal-Service" "gateway").set
        "X-Internal-Timestamp" auth.1).set "X-Internal-Signature" auth.2 }

def isAdminScope (scope : String) : Bool :=
  Strings.toLower out.unicodeLower scope == "platform:admin" ||
    Strings.toLower out.unicodeLower scope == "tenant:admin"

/-- The scopes; the first admin scope among them is the role. -/
def forwardScopes (scopes : List String) (h : Header) : Header :=
  if scopes = [] then h
  else
    let h := h.set "X-Scopes" (Strings.join "," scopes)
    match scopes.find? (isAdminScope out) with
    | some s => (h.set "X-User-Role" s).set "X-Is-Admin" "true"
    | none => h

/-- What the client says about its identity goes, what was verified comes. -/
def forwardIdentity (ctx : Context) (h : Header) : Header :=
  let h := match userIDFromRequest out.parseUUID ctx with
    | some userID => h.set "X-User-ID" userID.string
    | none => h.del "X-User-ID"
  let h := ["X-Scopes", "X-User-Role", "X-User-Roles", "X-User-Scopes", "X-Is-Admin",
    "X-Step-Up-Token", "X-Impersonated"].foldl Header.del h
  let h := forwardScopes out (extractJWTClaims ctx).scopes h
  ["X-Tenant-ID", "X-Tier", "X-API-Key", "X-Real-IP", "X-Forwarded-For"].foldl Header.del h

def injectTenantIntoBody (tenantID : String) (r : Request) : Request :=
  if tenantID = "" ∨ r.method ∉ ["POST", "PUT", "PATCH"] ∨
      Strings.contains (r.header.get "Content-Type").toList "application/json".toList = false then r
  else match r.body with
  | .object fields =>
    let fields := ("tenant_id", .string tenantID) :: fields.filter fun field => field.1 ≠ "tenant_id"
    { r with
        body := .object fields
        header := r.header.set "Content-Length" (toString (out.encodedLength fields)) }
  | _ => r

/-- `Values.Set`. -/
def setQuery (query : List (String × String)) (key value : String) : List (String × String) :=
  query.filter (fun param => param.1 ≠ key) ++ [(key, value)]

/-- The tenant of the context, in the header, the query and the body. -/
def forwardTenant (r : Request) : Request :=
  match tenantIDFromRequest r.ctx with
  | none => r
  | some tenantID => injectTenantIntoBody out tenantID { r with
      header := r.header.set "X-Tenant-ID" tenantID
      query := setQuery r.query "tenant_id" tenantID }

/-- The director that `buildProxies` and `buildProxiesLocked` put in front of the standard one. -/
def identityDirector (target : Target) (r : Request) : Request :=
  let r := forwardRequestID out (singleHost target r)
  forwardTenant out { r with header := forwardIdentity out r.ctx r.header }

end Director

-- ---------------------------------------------------------------------------
-- The reverse proxy
-- ---------------------------------------------------------------------------

/-- The elements of comma-separated values. -/
def listedTokens (values : List String) : List String :=
  let trim := fun s : List Char => (s.dropWhile (· ∈ [' ', '\t', '\r', '\n'])).rdropWhile
    (· ∈ [' ', '\t', '\r', '\n'])
  ((values.flatMap fun value => (Strings.split value.toList ',').map trim).filter (· ≠ [])).map
    String.ofList

def hopHeaders : List String :=
  ["Connection", "Proxy-Connection", "Keep-Alive", "Proxy-Authenticate", "Proxy-Authorization",
    "Te", "Trailer", "Transfer-Encoding", "Upgrade"]

/-- `removeHopByHopHeaders`: a client names in `Connection` what ends at the proxy. -/
def removeHopByHopHeaders (h : Header) : Header :=
  hopHeaders.foldl Header.del ((listedTokens (h.values "Connection")).foldl Header.del h)

def hasToken (values : List String) (token : String) : Bool :=
  (listedTokens values).any fun t => t.toLower == token

structure Proxy where
  target   : Target
  director : Request → Request

/-- `ReverseProxy.ServeHTTP`, up to the request that is sent. -/
def Proxy.send (proxy : Proxy) (clientIP : String) (r : Request) : Request :=
  let sent := proxy.director r
  let upgrade :=
    if hasToken (sent.header.values "Connection") "upgrade" then sent.header.get "Upgrade" else ""
  let h := removeHopByHopHeaders sent.header
  let h := if hasToken (r.header.values "Te") "trailers" then h.set "Te" "trailers" else h
  let h := if upgrade ≠ "" then (h.set "Connection" "Upgrade").set "Upgrade" upgrade else h
  let h := h.set "X-Forwarded-For" (Strings.join ", " (h.values "X-Forwarded-For" ++ [clientIP]))
  let h := if h.values "User-Agent" = [] then h.set "User-Agent" "" else h
  { sent with header := h }

-- ---------------------------------------------------------------------------
-- The routing table
-- ---------------------------------------------------------------------------

/-- `cfg.Routes` and `gw.proxies`, of which no key occurs twice. -/
structure RouteTable where
  routes  : List (String × String)
  proxies : List (String × Proxy)
  version : Int

/-- What the routing table goes through after start-up. A reload has no new routes where none is
configured or the configuration cannot be read. -/
inductive RouteOp
  | reload (routes : Option (List (String × String)))
  | toggle (path : String)

inductive ToggleResponse
  | error (status : Nat) (message : String)
  | toggled (route : String) (enabled : Bool)
  deriving DecidableEq

section Table

variable (out : Outside)

/-- `httputil.NewSingleHostReverseProxy`. -/
def newSingleHostReverseProxy (target : Target) : Proxy := ⟨target, singleHost target⟩

/-- A route with an invalid URL is left out. -/
def buildProxies (routes : List (String × String)) : List (String × Proxy) :=
  routes.filterMap fun route => (out.parseURL route.2).map fun target =>
    (route.1, ⟨target, identityDirector out target⟩)

/-- The proxies of a reload have another transport and the same director. -/
def buildProxiesLocked (routes : List (String × String)) : List (String × Proxy) :=
  buildProxies out routes

/-- `New`. -/
def newRouteTable (routes : List (String × String)) : RouteTable :=
  ⟨routes, buildProxies out routes, 0⟩

/-- `handleReloadRoutes`. -/
def handleReloadRoutes (table : RouteTable) (routes : Option (List (String × String))) :
    RouteTable :=
  match routes with
  | none => table
  | some routes => ⟨routes, buildProxiesLocked out routes, table.version + 1⟩

/-- The route in `/api/v1/admin/routes/{route}/toggle`. -/
def toggledRoute (path : String) : String :=
  String.ofList (Strings.trimSuffix (Strings.trimPrefix path.toList "/api/v1/admin/routes/".toList)
    "/toggle".toList)

/-- `handleAdminToggleRoute`. -/
def handleAdminToggleRoute (table : RouteTable) (path : String) : RouteTable × ToggleResponse :=
  let route := toggledRoute path
  if route = "" then (table, .error 400 "route prefix required")
  else match table.routes.lookup route with
  | none => (table, .error 404 "route not found")
  | some backendURL =>
    if (table.proxies.lookup route).isSome = true then
      ({ table with proxies := table.proxies.filter fun entry => entry.1 ≠ route },
        .toggled route false)
    else match out.parseURL backendURL with
    | none => (table, .error 500 "invalid backend URL")
    | some target =>
      ({ table with proxies := (route, newSingleHostReverseProxy target) :: table.proxies },
        .toggled route true)

def routeStep (table : RouteTable) : RouteOp → RouteTable
  | .reload routes => handleReloadRoutes out table routes
  | .toggle path => (handleAdminToggleRoute out table path).1

/-- The entry that serves the request: the tenants of the identity service have one of their own. -/
def RouteTable.entryFor (table : RouteTable) (r : Request) : Option (String × Proxy) :=
  let tenants := "/api/v1/tenants/".toList
  if Strings.hasPrefix r.path.toList tenants = true ∧
      Strings.hasPrefix r.path.toList "/api/v1/tenants/resolve".toList = false ∧
      (r.method = "GET" ∨ r.method = "DELETE") then
    (matchBackend table.proxies "/api/v1/identity/tenants/").map fun entry => ("", entry.2)
  else matchBackend table.proxies r.path

/-- What the backend gets of a request that is proxied. -/
def RouteTable.forward (table : RouteTable) (clientIP : String) (r : Request) : Option Request :=
  (table.entryFor r).map fun entry =>
    entry.2.send clientIP { r with path := rewritePath entry.1 r.path }

end Table

-- ---------------------------------------------------------------------------
-- Identity headers
-- ---------------------------------------------------------------------------

def identityHeaders : List String :=
  ["X-User-ID", "X-Scopes", "X-User-Role", "X-User-Roles", "X-User-Scopes", "X-Is-Admin",
    "X-Tenant-ID", "X-Impersonated"]

/-- The other headers a proxy touches. -/
def plainHeaders : List String :=
  ["X-Request-ID", "X-Internal-Service", "X-Internal-Timestamp", "X-Internal-Signature",
    "X-Step-Up-Token", "X-Tier", "X-API-Key", "X-Real-IP", "X-Forwarded-For", "Content-Length",
    "Te", "Connection", "Upgrade", "User-Agent"]

/-- What the verified claims and the tenant of the context say under an identity header. -/
def derivedIdentity (out : Outside) (ctx : Context) (name : String) : Option String :=
  let scopes := (extractJWTClaims ctx).scopes
  if name = "X-User-ID" then (userIDFromRequest out.parseUUID ctx).map UUID.string
  else if name = "X-Scopes" then if scopes = [] then none else some (Strings.join "," scopes)
  else if name = "X-User-Role" then scopes.find? (isAdminScope out)
  else if name = "X-Is-Admin" then (scopes.find? (isAdminScope out)).map fun _ => "true"
  else if name = "X-Tenant-ID" then tenantIDFromRequest ctx
  else none

/-- The names a proxy works with differ in canonical form too. -/
theorem canonicalKey_ne {a b : String} (ha : a ∈ identityHeaders ++ plainHeaders)
    (hb : b ∈ identityHeaders ++ plainHeaders) (hne : a ≠ b) : canonicalKey a ≠ canonicalKey b := by
  have hnodup : ((identityHeaders ++ plainHeaders).map canonicalKey).Nodup := by decide
  exact fun h => hne (List.inj_on_of_nodup_map hnodup ha hb h)

section Values

variable {h : Header} {a b v : String}

theorem values_set_self : (h.set a v).values a = [v] := by
  rw [Header.values_set, if_pos rfl]

theorem values_del_self : (h.del a).values a = [] := by
  rw [Header.values_del, if_pos rfl]

theorem values_set_of_ne (ha : a ∈ identityHeaders ++ plainHeaders)
    (hb : b ∈ identityHeaders ++ plainHeaders) (hne : a ≠ b) :
    (h.set b v).values a = h.values a := by
  rw [Header.values_set, if_neg (canonicalKey_ne ha hb hne)]

theorem values_del_of_ne (ha : a ∈ identityHeaders ++ plainHeaders)
    (hb : b ∈ identityHeaders ++ plainHeaders) (hne : a ≠ b) :
    (h.del b).values a = h.values a := by
  rw [Header.values_del, if_neg (canonicalKey_ne ha hb hne)]

theorem mem_values_foldl_del {names : List String}
    (hv : v ∈ Header.values (names.foldl Header.del h) a) : v ∈ h.values a := by
  induction names generalizing h with
  | nil => exact hv
  | cons name names ih => exact Header.mem_values_filter (ih hv)

end Values

section Identity

variable (out : Outside)

/-- The scopes leave three headers. -/
theorem values_forwardScopes (scopes : List String) (h : Header) {name : String}
    (hname : name ∈ identityHeaders) (hclear : name ∈ ["X-Scopes", "X-User-Role", "X-Is-Admin"] →
      h.values name = []) : (forwardScopes out scopes h).values name =
      if name = "X-Scopes" then if scopes = [] then [] else [Strings.join "," scopes]
      else if name = "X-User-Role" then (scopes.find? (isAdminScope out)).toList
      else if name = "X-Is-Admin" then ((scopes.find? (isAdminScope out)).map fun _ => "true").toList
      else h.values name := by
  unfold forwardScopes
  by_cases hscopes : scopes = []
  · rw [if_pos hscopes]
    simp only [hscopes, if_true, List.find?_nil, Option.map_none, Option.toList_none]
    by_cases hthree : name ∈ ["X-Scopes", "X-User-Role", "X-Is-Admin"]
    · rw [hclear hthree]
      split_ifs <;> rfl
    · simp only [List.mem_cons, List.not_mem_nil, or_false, not_or] at hthree
      rw [if_neg hthree.1, if_neg hthree.2.1, if_neg hthree.2.2]
  · rw [if_neg hscopes]
    simp only [identityHeaders, List.mem_cons, List.not_mem_nil, or_false] at hname
    cases hfind : scopes.find? (isAdminScope out) with
    | none =>
      rcases hname with rfl | rfl | rfl | rfl | rfl | rfl | rfl | rfl <;>
        simp (disch := decide) [values_set_self, values_set_of_ne, hscopes, hclear]
    | some s =>
      rcases hname with rfl | rfl | rfl | rfl | rfl | rfl | rfl | rfl <;>
        simp (disch := decide) [values_set_self, values_set_of_ne, hscopes]

/-- Whatever the client sent, the tenant header aside. -/
theorem values_forwardIdentity (ctx : Context) (h : Header) {name : String}
    (hname : name ∈ identityHeaders) (htenant : name ≠ "X-Tenant-ID") :
    (forwardIdentity out ctx h).values name = (derivedIdentity out ctx name).toList := by
  have hclear : ∀ h : Header, name ∈ ["X-Scopes", "X-User-Role", "X-Is-Admin"] →
      Header.values (["X-Scopes", "X-User-Role", "X-User-Roles", "X-User-Scopes", "X-Is-Admin",
        "X-Step-Up-Token", "X-Impersonated"].foldl Header.del h) name = [] := by
    intro h hthree
    simp only [List.mem_cons, List.not_mem_nil, or_false] at hthree
    rcases hthree with rfl | rfl | rfl <;>
      simp (disch := decide) only [List.foldl_cons, List.foldl_nil, values_del_self,
        values_del_of_ne]
  have hstrip : ∀ h : Header, Header.values (["X-Tenant-ID", "X-Tier", "X-API-Key", "X-Real-IP",
      "X-Forwarded-For"].foldl Header.del h) name = h.values name := by
    intro h
    simp only [identityHeaders, List.mem_cons, List.not_mem_nil, or_false] at hname
    rcases hname with rfl | rfl | rfl | rfl | rfl | rfl | rfl | rfl
    case inr.inr.inr.inr.inr.inr.inl => exact absurd rfl htenant
    all_goals
      simp (disch := decide) only [List.foldl_cons, List.foldl_nil, values_del_of_ne]
  simp only [forwardIdentity]
  rw [hstrip, values_forwardScopes out _ _ hname (hclear _)]
  simp only [identityHeaders, List.mem_cons, List.not_mem_nil, or_false] at hname
  rcases hname with rfl | rfl | rfl | rfl | rfl | rfl | rfl | rfl
  case inl =>
    -- the user survives what is deleted after it
    cases huser : userIDFromRequest out.parseUUID ctx <;>
      simp (disch := decide) [derivedIdentity, huser, values_set_self, values_del_self,
        values_del_of_ne]
  case inr.inl =>
    by_cases hscopes : (extractJWTClaims ctx).scopes = [] <;> simp [derivedIdentity, hscopes]
  case inr.inr.inr.inr.inr.inr.inl => exact absurd rfl htenant
  all_goals
    simp (disch := decide) [derivedIdentity, values_del_self, values_del_of_ne]

theorem values_injectTenantIntoBody (tenantID : String) (r : Request) {name : String}
    (hname : name ∈ identityHeaders) :
    (injectTenantIntoBody out tenantID r).header.values name = r.header.values name := by
  unfold injectTenantIntoBody
  split
  · rfl
  · split
    · refine values_set_of_ne (List.mem_append_left _ hname) (by decide) ?_
      rintro rfl
      exact absurd hname (by decide)
    · rfl

/-- The context of the request stays. -/
theorem forwardRequestID_ctx (r : Request) : (forwardRequestID out r).ctx = r.ctx := by
  unfold forwardRequestID
  split
  · rfl
  · simp only
    split <;> rfl

/-- **An identity header at the backend** is the derived one, or absent. -/
theorem values_identityDirector (target : Target) (r : Request) {name : String}
    (hname : name ∈ identityHeaders) : (identityDirector out target r).header.values name =
      (derivedIdentity out r.ctx name).toList := by
  have hctx : (forwardRequestID out (singleHost target r)).ctx = r.ctx := forwardRequestID_ctx out _
  have htenant : ∀ r' : Request, r'.ctx = r.ctx → (name ≠ "X-Tenant-ID" → r'.header.values name =
      (derivedIdentity out r.ctx name).toList) → (name = "X-Tenant-ID" → r'.header.values name = []) →
      (forwardTenant out r').header.values name = (derivedIdentity out r.ctx name).toList := by
    intro r' hsame hother hnone
    unfold forwardTenant
    rw [hsame]
    by_cases hn : name = "X-Tenant-ID"
    · subst hn
      have hderived : derivedIdentity out r.ctx "X-Tenant-ID" = tenantIDFromRequest r.ctx := by
        simp [derivedIdentity]
      rw [hderived]
      cases htid : tenantIDFromRequest r.ctx with
      | none => exact hnone rfl
      | some tenantID =>
        exact (values_injectTenantIntoBody out tenantID _ hname).trans values_set_self
    · rw [← hother hn]
      cases htid : tenantIDFromRequest r.ctx with
      | none => rfl
      | some tenantID =>
        exact (values_injectTenantIntoBody out tenantID _ hname).trans
          (values_set_of_ne (List.mem_append_left _ hname) (by decide) hn)
  unfold identityDirector
  refine htenant _ hctx ?_ ?_
  · intro hn
    rw [← hctx]
    exact values_forwardIdentity out _ _ hname hn
  · rintro rfl
    simp (disch := decide) only [forwardIdentity, List.foldl_cons, List.foldl_nil, values_del_self,
      values_del_of_ne]

end Identity

/-- What the proxy adds on its own account is no identity header. -/
theorem mem_values_send {proxy : Proxy} {clientIP : String} {r : Request} {name v : String}
    (hname : name ∈ identityHeaders) (hv : v ∈ (proxy.send clientIP r).header.values name) :
    v ∈ (proxy.director r).header.values name := by
  have hset : ∀ (h : Header) (added value : String), added ∈ plainHeaders →
      (h.set added value).values name = h.values name := by
    intro h added value hadded
    refine values_set_of_ne (List.mem_append_left _ hname) (List.mem_append_right _ hadded) ?_
    rintro rfl
    have hdisjoint : (identityHeaders.all fun name => name ∉ plainHeaders) = true := by decide
    exact absurd hadded (by simpa using List.all_eq_true.mp hdisjoint _ hname)
  have hkept : (proxy.send clientIP r).header.values name =
      (removeHopByHopHeaders (proxy.director r).header).values name := by
    unfold Proxy.send
    simp only
    split_ifs <;> simp (disch := decide) only [hset]
  rw [hkept] at hv
  exact mem_values_foldl_del (mem_values_foldl_del hv)

/-- Under an identity header the proxy sends what was derived, or nothing. -/
def CleanProxy (out : Outside) (proxy : Proxy) : Prop :=
  ∀ clientIP r, ∀ name ∈ identityHeaders, ∀ v ∈ (proxy.send clientIP r).header.values name,
    derivedIdentity out r.ctx name = some v

theorem cleanProxy_identity (out : Outside) (target : Target) :
    CleanProxy out ⟨target, identityDirector out target⟩ := by
  intro clientIP r name hname v hv
  have hmem := mem_values_send hname hv
  rw [values_identityDirector out target r hname, Option.mem_toList] at hmem
  exact hmem

/-- A user without scopes says to have one. -/
def spoofedRequest : Request :=
  ⟨"GET", "gateway", "/api/v1/users/me", [], [("X-Scopes", "platform:admin")], .absent,
    { Context.background with claims := some ⟨"mallory", "acme", [], [], []⟩ }⟩

/-- The standard reverse proxy passes identity headers on. -/
theorem not_cleanProxy_standard (out : Outside) (target : Target) :
    ¬ CleanProxy out (newSingleHostReverseProxy target) := by
  intro h
  have htarget : ((newSingleHostReverseProxy target).send "" spoofedRequest).header =
      ((newSingleHostReverseProxy ⟨"", ""⟩).send "" spoofedRequest).header := rfl
  have hsent : ((newSingleHostReverseProxy ⟨"", ""⟩).send "" spoofedRequest).header =
      [("X-Scopes", "platform:admin"), ("X-Forwarded-For", ""), ("User-Agent", "")] := by
    decide
  have hderived := h "" spoofedRequest "X-Scopes" (by decide) "platform:admin" (by
    rw [htarget, hsent]
    decide)
  exact absurd hderived (by simp [derivedIdentity, spoofedRequest, Context.background,
    extractJWTClaims])

-- ---------------------------------------------------------------------------
-- Runs
-- ---------------------------------------------------------------------------

/-- Every proxy of the table is clean. -/
def CleanTable (out : Outside) (table : RouteTable) : Prop :=
  ∀ entry ∈ table.proxies, CleanProxy out entry.2

/-- A toggle does not switch a route on: it names no route, one that is on, or one whose URL is
invalid. -/
def SwitchesNothingOn (out : Outside) (table : RouteTable) : RouteOp → Prop
  | .reload _ => True
  | .toggle path => ∀ backendURL, toggledRoute path ≠ "" →
      table.routes.lookup (toggledRoute path) = some backendURL →
      (table.proxies.lookup (toggledRoute path)).isSome = true ∨ out.parseURL backendURL = none

theorem cleanTable_build (out : Outside) (routes : List (String × String)) (version : Int) :
    CleanTable out ⟨routes, buildProxies out routes, version⟩ := by
  intro entry hentry
  obtain ⟨route, -, hroute⟩ := List.mem_filterMap.mp hentry
  obtain ⟨target, -, rfl⟩ := Option.map_eq_some_iff.mp hroute
  exact cleanProxy_identity out target

/-- One operation. -/
theorem cleanTable_step_iff (out : Outside) (table : RouteTable) (op : RouteOp)
    (hclean : CleanTable out table) :
    CleanTable out (routeStep out table op) ↔ SwitchesNothingOn out table op := by
  cases op with
  | reload routes =>
    refine iff_of_true ?_ trivial
    cases routes with
    | none => exact hclean
    | some routes => exact cleanTable_build out routes _
  | toggle path =>
    simp only [routeStep, handleAdminToggleRoute, SwitchesNothingOn]
    by_cases hroute : toggledRoute path = ""
    · rw [if_pos hroute]
      exact iff_of_true hclean fun _ hne => absurd hroute hne
    rw [if_neg hroute]
    cases hlookup : table.routes.lookup (toggledRoute path) with
    | none => exact iff_of_true hclean fun _ _ hsome => absurd hsome (by simp)
    | some backendURL =>
      simp only
      by_cases hon : (table.proxies.lookup (toggledRoute path)).isSome = true
      · rw [if_pos hon]
        refine iff_of_true ?_ fun _ _ _ => .inl hon
        exact fun entry hentry => hclean entry (List.mem_filter.mp hentry).1
      rw [if_neg hon]
      cases hparse : out.parseURL backendURL with
      | none =>
        refine iff_of_true hclean fun url _ hurl => .inr ?_
        rw [← Option.some.inj hurl, hparse]
      | some target =>
        simp only
        refine iff_of_false ?_ ?_
        · intro hafter
          have hnew := hafter (toggledRoute path, newSingleHostReverseProxy target)
            List.mem_cons_self
          exact not_cleanProxy_standard out target hnew
        · intro hok
          rcases hok backendURL hroute rfl with hon' | hinvalid
          · exact hon hon'
          · exact absurd (hparse.symm.trans hinvalid) (by simp)

theorem forward_clean {out : Outside} {table : RouteTable} (hclean : CleanTable out table)
    {clientIP : String} {r sent : Request} (h : table.forward clientIP r = some sent) {name : String}
    (hname : name ∈ identityHeaders) :
    ∀ v ∈ sent.header.values name, derivedIdentity out r.ctx name = some v := by
  obtain ⟨entry, hentry, hsent⟩ := Option.map_eq_some_iff.mp h
  have hproxy : CleanProxy out entry.2 := by
    simp only [RouteTable.entryFor] at hentry
    split at hentry
    · obtain ⟨found, hfound, hproxy⟩ := Option.map_eq_some_iff.mp hentry
      rw [← hproxy]
      exact hclean found (matchBackend_spec hfound).1
    · exact hclean entry (matchBackend_spec hentry).1
  have hall := hproxy clientIP { r with path := rewritePath entry.1 r.path } name hname
  rw [hsent] at hall
  exact hall

/-- **Identity headers are derived**: in a run whose toggles switch nothing on, no backend gets
an identity header of the client; and as soon as a toggle switches a route on, the table has a
proxy that passes them on. -/
theorem identity_headers_derived (out : Outside) (routes : List (String × String))
    (ops : List RouteOp) :
    (StepsOk (routeStep out) (SwitchesNothingOn out) (newRouteTable out routes) ops →
      ∀ table ∈ states (routeStep out) (newRouteTable out routes) ops,
        ∀ clientIP r sent, table.forward clientIP r = some sent → ∀ name ∈ identityHeaders,
          ∀ v ∈ sent.header.values name, derivedIdentity out r.ctx name = some v) ∧
    ((∀ table ∈ states (routeStep out) (newRouteTable out routes) ops, CleanTable out table) ↔
      StepsOk (routeStep out) (SwitchesNothingOn out) (newRouteTable out routes) ops) := by
  have hiff : (∀ table ∈ states (routeStep out) (newRouteTable out routes) ops,
      CleanTable out table) ↔
      StepsOk (routeStep out) (SwitchesNothingOn out) (newRouteTable out routes) ops :=
    forall_states_iff_of_step (fun table op h => cleanTable_step_iff out table op h)
      (cleanTable_build out routes 0)
  exact ⟨fun hok table htable clientIP r sent hsent name hname =>
    forward_clean (hiff.mpr hok table htable) hsent hname, hiff⟩

namespace Sample

def outside : Outside where
  parseUUID _ := none
  unicodeLower c := c
  parseURL url := some ⟨url, ""⟩
  internalAuth _ := none
  encodedLength _ := 0

def usersRoute : List (String × String) := [("/api/v1/users", "http://localhost:8081")]

/-- The route is switched off, then on. -/
def offAndOn : List RouteOp :=
  [.toggle "/api/v1/admin/routes//api/v1/users/toggle",
    .toggle "/api/v1/admin/routes//api/v1/users/toggle"]

end Sample

open Sample in
/-- The backend gets the scope the client claims. -/
theorem toggled_route_leaks :
    (((run (routeStep outside) (newRouteTable outside usersRoute) offAndOn).forward "10.0.0.1"
      spoofedRequest).map fun sent => sent.header.values "X-Scopes") = some ["platform:admin"] ∧
    derivedIdentity outside spoofedRequest.ctx "X-Scopes" = none ∧
    (((newRouteTable outside usersRoute).forward "10.0.0.1"
      spoofedRequest).map fun sent => sent.header.values "X-Scopes") = some [] := by
  decide

end Ggid.Gateway
