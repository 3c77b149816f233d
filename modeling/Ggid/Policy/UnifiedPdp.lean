import Ggid.Policy.Decision

/-!
# Policy engine — the unified decision point

`EvaluateAuthorize` of `server/unified_pdp.go`: look the request up in the
decision cache, and otherwise run the RBAC, ABAC and ReBAC checks, AND them
together, apply the risk overlay and cache the result. The three checks run in
goroutines that write disjoint variables and are joined before anything is read,
so they are three plain values here.

Third-party calls are parameters: `parse` is `uuid.Parse`, whose value is used
for the tenant even when it reports an error, and `hash` the truncated SHA-256.

The RBAC check passes the requested resource on as the *resource type* and
leaves the evaluator's resource empty; an empty resource makes the evaluator skip
a policy's resource patterns.

* `evaluate_allowed_iff`    — when a fresh evaluation allows;
* `authorize_justified_iff` — when an allowed answer is backed by a permission or
  by an allow policy for the requested resource;
* `authorize_other_resource` — an answer backed by a policy for another resource.
-/

namespace Ggid.Policy

open Ggid.Go Ggid.Lib

-- ---------------------------------------------------------------------------
-- Requests and responses
-- ---------------------------------------------------------------------------

structure AuthorizeRequest where
  subject  : String
  resource : String
  action   : String
  context  : GoMap

inductive RiskOverlay where
  | none | stepUp | block
  deriving DecidableEq

structure AuthorizeResponse where
  allowed     : Bool
  denyReason  : String
  riskOverlay : RiskOverlay
  riskScore   : Int
  evaluatedBy : List String
  cacheHit    : Bool
  latencyMs   : Int
  decisionID  : String
  deriving DecidableEq

/-- The services `EvaluateAuthorize` calls. -/
structure Pdp where
  std       : Stdlib
  /-- `uuid.Parse`: a value, and whether there was no error. -/
  parse     : String → UUID × Bool
  /-- `hex(sha256(s)[:16])`. -/
  hash      : String → String
  evaluator : Option Evaluator

/-- What one call reads from its surroundings: the clock at its three readings,
the time it took and the id it draws. -/
structure CallEnv where
  lookedUp   : Time
  checked    : Time
  stored     : Time
  latencyMs  : Int
  decisionID : String

-- ---------------------------------------------------------------------------
-- The three checks
-- ---------------------------------------------------------------------------

/-- The variables one check leaves behind. -/
structure CheckOutcome where
  allow     : Bool
  evaluated : Bool
  reason    : String
  deriving DecidableEq

/-- `req.Context["tenant_id"]`, parsed with the error ignored. -/
def contextTenant (parse : String → UUID × Bool) (context : GoMap) : UUID :=
  match context.lookup "tenant_id" with
  | some (.string tid) => (parse tid).1
  | _ => UUID.nil

/-- The request handed to the evaluator. -/
def AuthorizeRequest.checkRequest (parse : String → UUID × Bool) (req : AuthorizeRequest) :
    CheckRequest where
  userID       := (parse req.subject).1
  tenantID     := contextTenant parse req.context
  resourceType := req.resource
  action       := req.action
  resource     := ""
  conditions   := []

def rbacCheck (pdp : Pdp) (now : Time) (req : AuthorizeRequest) : CheckOutcome :=
  match pdp.evaluator with
  | none => ⟨false, false, "no RBAC evaluator configured"⟩
  | some evaluator =>
    if req.subject = "" then ⟨false, false, "no RBAC evaluator configured"⟩
    else if (pdp.parse req.subject).2 = false then ⟨false, false, "invalid subject UUID"⟩
    else if contextTenant pdp.parse req.context = UUID.nil then
      ⟨false, false, "missing tenant context"⟩
    else match evaluator.check pdp.std now (req.checkRequest pdp.parse) with
      | .error _ => ⟨false, false, "RBAC evaluation error"⟩
      | .ok result =>
        if result.allowed then ⟨true, true, ""⟩ else ⟨false, false, "RBAC policy denied"⟩

/-- `req.Context["ip_blocked"] == true`. -/
def ipBlocked (context : GoMap) : Bool :=
  match context.lookup "ip_blocked" with
  | some (.bool b) => b
  | _ => false

def abacCheck (req : AuthorizeRequest) : CheckOutcome :=
  if ipBlocked req.context then ⟨false, true, "IP blocked by ABAC policy"⟩ else ⟨true, true, ""⟩

/-- Relationships are not evaluated yet. -/
def rebacCheck (_ : AuthorizeRequest) : CheckOutcome := ⟨true, true, ""⟩

-- ---------------------------------------------------------------------------
-- Combination and risk overlay
-- ---------------------------------------------------------------------------

def combineReasons (rbac abac rebac : CheckOutcome) : String :=
  let reason := if rbac.allow then "" else rbac.reason
  let reason := if abac.allow then reason else abac.reason
  let reason := if rebac.allow then reason else rebac.reason
  if reason = "" then "denied by authorization policy" else reason

/-- `int(req.Context["risk_score"].(float64))`, zero without a number. -/
def riskScore (context : GoMap) : Int :=
  match context.lookup "risk_score" with
  | some (.float64 rs) => rs.toInt
  | _ => 0

/-- The answer without a cache. -/
def evaluate (pdp : Pdp) (env : CallEnv) (req : AuthorizeRequest) : AuthorizeResponse :=
  let rbac := rbacCheck pdp env.checked req
  let abac := abacCheck req
  let rebac := rebacCheck req
  let evaluatedBy := (if rbac.evaluated then ["rbac"] else []) ++
    (if abac.evaluated then ["abac"] else []) ++ (if rebac.evaluated then ["rebac"] else [])
  let allowed := rbac.allow && abac.allow && rebac.allow
  let denyReason := if allowed then "" else combineReasons rbac abac rebac
  let score := riskScore req.context
  if 80 < score then
    ⟨false, "risk score too high", .block, score, evaluatedBy, false, env.latencyMs, env.decisionID⟩
  else
    ⟨allowed, denyReason, if 50 < score then .stepUp else .none, score, evaluatedBy, false,
      env.latencyMs, env.decisionID⟩

-- ---------------------------------------------------------------------------
-- The decision cache
-- ---------------------------------------------------------------------------

structure CacheEntry where
  resp      : AuthorizeResponse
  expiresAt : Time

/-- `pdpCache`. -/
abbrev PdpCache := String → Option CacheEntry

/-- `pdpCacheTTL`: five seconds. -/
def pdpCacheTTL : Int := 5 * 1000000000

/-- The text `fmt.Sprintf("%s|%s|%s|%v", …)` that is hashed into the key. -/
def cacheText (std : Stdlib) (req : AuthorizeRequest) : String :=
  req.subject ++ "|" ++ req.resource ++ "|" ++ req.action ++ "|" ++ sprintV std (.map req.context)

def pdpCacheKey (pdp : Pdp) (req : AuthorizeRequest) : String :=
  pdp.hash (cacheText pdp.std req)

/-- The entry `cacheGet` serves; an expired one counts as absent. -/
def liveEntry (cache : PdpCache) (now : Time) (key : String) : Option AuthorizeResponse :=
  match cache key with
  | some entry => if now < entry.expiresAt then some entry.resp else none
  | none => none

/-- `cacheGet`: an expired entry is removed on the way. -/
def cacheGet (cache : PdpCache) (now : Time) (key : String) : Option AuthorizeResponse × PdpCache :=
  match liveEntry cache now key with
  | some resp => (some { resp with cacheHit := true }, cache)
  | none => (none, Function.update cache key none)

def cacheSet (cache : PdpCache) (now : Time) (key : String) (resp : AuthorizeResponse) : PdpCache :=
  Function.update cache key (some ⟨resp, now + pdpCacheTTL⟩)

/-- `EvaluateAuthorize`. -/
def evaluateAuthorize (pdp : Pdp) (cache : PdpCache) (env : CallEnv) (req : AuthorizeRequest) :
    AuthorizeResponse × PdpCache :=
  match cacheGet cache env.lookedUp (pdpCacheKey pdp req) with
  | (some cached, cache) => ({ cached with latencyMs := env.latencyMs }, cache)
  | (none, cache) =>
    let resp := evaluate pdp env req
    (resp, cacheSet cache env.stored (pdpCacheKey pdp req) resp)

-- ---------------------------------------------------------------------------
-- Fresh answers
-- ---------------------------------------------------------------------------

/-- The decision point over the PostgreSQL readers. -/
def Pdp.pg (std : Stdlib) (parse : String → UUID × Bool) (hash : String → String) (db : Database) :
    Pdp :=
  ⟨std, parse, hash, some (Evaluator.pg db)⟩

/-- The request gets as far as the evaluator and none of the context checks stops it. -/
def GatesPass (parse : String → UUID × Bool) (req : AuthorizeRequest) : Prop :=
  req.subject ≠ "" ∧ (parse req.subject).2 = true ∧
    contextTenant parse req.context ≠ UUID.nil ∧ ipBlocked req.context = false ∧
    riskScore req.context ≤ 80

section Fresh

variable {std : Stdlib} {parse : String → UUID × Bool} {hash : String → String} {db : Database}
  {env : CallEnv} {req : AuthorizeRequest}

variable (std parse hash db req) in
theorem rbacCheck_allow_iff (now : Time) :
    (rbacCheck (Pdp.pg std parse hash db) now req).allow = true ↔
      req.subject ≠ "" ∧ (parse req.subject).2 = true ∧
      contextTenant parse req.context ≠ UUID.nil ∧
      ReferenceAllows std db now (req.checkRequest parse) := by
  unfold rbacCheck Pdp.pg
  simp only
  by_cases hsubject : req.subject = ""
  · simp [hsubject]
  by_cases hparse : (parse req.subject).2 = false
  · simp [hsubject, hparse]
  by_cases htenant : contextTenant parse req.context = UUID.nil
  · simp [hsubject, hparse, htenant]
  obtain ⟨res, hres, hspec⟩ :=
    check_spec std (Evaluator.pg_readsFrom db) now (req.checkRequest parse)
  simp only [hsubject, hparse, htenant, if_false, hres]
  rw [← hspec]
  cases res.allowed <;> simp [hsubject, htenant]

theorem abacCheck_allow (req : AuthorizeRequest) :
    (abacCheck req).allow = !ipBlocked req.context := by
  unfold abacCheck
  cases ipBlocked req.context <;> rfl

theorem evaluate_allowed (pdp : Pdp) (env : CallEnv) (req : AuthorizeRequest) :
    (evaluate pdp env req).allowed = true ↔
      (rbacCheck pdp env.checked req).allow = true ∧ ipBlocked req.context = false ∧
      riskScore req.context ≤ 80 := by
  unfold evaluate
  by_cases hrisk : 80 < riskScore req.context
  · have hnot : ¬ riskScore req.context ≤ 80 := by omega
    simp [hrisk, hnot]
  · have hle : riskScore req.context ≤ 80 := by omega
    simp only [hrisk, if_false, abacCheck_allow, rebacCheck, Bool.and_true, Bool.and_eq_true,
      Bool.not_eq_true', hle, and_true]

/-- A fresh evaluation allows exactly when every gate is passed and the evaluator
allows. -/
theorem evaluate_allowed_iff :
    (evaluate (Pdp.pg std parse hash db) env req).allowed = true ↔
      GatesPass parse req ∧ ReferenceAllows std db env.checked (req.checkRequest parse) := by
  rw [evaluate_allowed, rbacCheck_allow_iff]
  unfold GatesPass
  refine ⟨fun ⟨⟨hsub, hparse, htenant, href⟩, hip, hrisk⟩ => ?_,
    fun ⟨⟨hsub, hparse, htenant, hip, hrisk⟩, href⟩ => ?_⟩
  · exact ⟨⟨hsub, hparse, htenant, hip, hrisk⟩, href⟩
  · exact ⟨⟨hsub, hparse, htenant, href⟩, hip, hrisk⟩

end Fresh

-- ---------------------------------------------------------------------------
-- Justified answers
-- ---------------------------------------------------------------------------

/-- The policy's resource patterns cover the resource; no pattern at all covers
every resource. -/
def CoversResource (resource : String) (p : Policy) : Prop :=
  p.resources = [] ∨ matchResources p.resources resource = true

/-- A permission of an effective role of the subject matches, or an applicable
allow policy matches the action and the requested resource. -/
def Justified (parse : String → UUID × Bool) (db : Database) (now : Time)
    (req : AuthorizeRequest) : Prop :=
  RbacGrants db now (req.checkRequest parse) ∨
    ∃ p ∈ Applicable db now (req.checkRequest parse), p.effect = .allow ∧
      matchActions p.actions req.action = true ∧ CoversResource req.resource p

/-- Nothing stops the request, no permission matches, and the allow policies that
match its action, of which there is an unconditional one, are all restricted to
other resources. -/
structure OnlyOtherResources (std : Stdlib) (parse : String → UUID × Bool) (db : Database)
    (now : Time) (req : AuthorizeRequest) : Prop where
  gates      : GatesPass parse req
  admitted   : Admitted db now (req.checkRequest parse)
  undenied   : ∀ p ∈ Applicable db now (req.checkRequest parse), p.effect = .deny →
                 matchActions p.actions req.action = false
  ungranted  : ¬ RbacGrants db now (req.checkRequest parse)
  allowed    : ∃ p ∈ Applicable db now (req.checkRequest parse), p.effect = .allow ∧
                 matchActions p.actions req.action = true ∧ p.conditions = []
  restricted : ∀ p ∈ Applicable db now (req.checkRequest parse), p.effect = .allow →
                 matchActions p.actions req.action = true → ¬ CoversResource req.resource p

section Justified

variable {std : Stdlib} {parse : String → UUID × Bool} {hash : String → String} {db : Database}
  {env : CallEnv} {now : Time} {req : AuthorizeRequest} {p : Policy}

/-- Without a resource the evaluator looks at a policy's actions only. -/
theorem targets_checkRequest :
    targets (req.checkRequest parse) p = matchActions p.actions req.action := by
  simp [targets, AuthorizeRequest.checkRequest]

/-- Without conditions every deny policy for the action applies. -/
theorem denies_checkRequest_iff :
    Denies std (req.checkRequest parse) p ↔
      p.effect = .deny ∧ matchActions p.actions req.action = true := by
  unfold Denies
  rw [targets_checkRequest]
  simp [AuthorizeRequest.checkRequest]

/-- Without conditions only unconditional allow policies apply. -/
theorem allows_checkRequest_iff :
    Allows std (req.checkRequest parse) p ↔
      p.effect = .allow ∧ matchActions p.actions req.action = true ∧ p.conditions = [] := by
  unfold Allows
  rw [targets_checkRequest]
  have hmatch : matchConditions std p.conditions (req.checkRequest parse).conditions = true ↔
      p.conditions = [] := by
    simp [AuthorizeRequest.checkRequest, matchConditions]
  rw [hmatch]

variable (std parse hash db env req) in
/-- The fresh answers that are allowed and not justified. -/
theorem unjustified_iff :
    ((evaluate (Pdp.pg std parse hash db) env req).allowed = true ∧
        ¬ Justified parse db env.checked req) ↔
      OnlyOtherResources std parse db env.checked req := by
  rw [evaluate_allowed_iff]
  unfold ReferenceAllows Granted Justified
  simp only [denies_checkRequest_iff, allows_checkRequest_iff]
  refine ⟨fun ⟨⟨hgates, hadm, hdeny, hgrant⟩, hnot⟩ => ?_, fun h => ?_⟩
  · rw [not_or] at hnot
    obtain ⟨hrbac, hnone⟩ := hnot
    refine ⟨hgates, hadm, fun p hp heff => ?_, hrbac, hgrant.resolve_left hrbac, ?_⟩
    · by_contra hmatch
      exact hdeny p hp ⟨heff, by simpa using hmatch⟩
    · exact fun p hp heff hmatch hcov => hnone ⟨p, hp, heff, hmatch, hcov⟩
  · refine ⟨⟨h.gates, h.admitted, fun p hp ⟨heff, hmatch⟩ => ?_, Or.inr h.allowed⟩, ?_⟩
    · rw [h.undenied p hp heff] at hmatch
      exact absurd hmatch (by simp)
    · intro hjust
      rcases hjust with hrbac | ⟨p, hp, heff, hmatch, hcov⟩
      · exact h.ungranted hrbac
      · exact h.restricted p hp heff hmatch hcov

end Justified

/-- An answer comes from a live cache entry or from a fresh evaluation. -/
theorem evaluateAuthorize_allowed (pdp : Pdp) (cache : PdpCache) (env : CallEnv)
    (req : AuthorizeRequest) :
    (evaluateAuthorize pdp cache env req).1.allowed =
      match liveEntry cache env.lookedUp (pdpCacheKey pdp req) with
      | some resp => resp.allowed
      | none => (evaluate pdp env req).allowed := by
  unfold evaluateAuthorize cacheGet
  cases liveEntry cache env.lookedUp (pdpCacheKey pdp req) <;> rfl

namespace Sample

/-- `uuid.Parse` on the two identifiers used below. -/
def parse (s : String) : UUID × Bool :=
  if s = user.string then (user, true)
  else if s = tenant.string then (tenant, true)
  else (UUID.nil, false)

/-- The cache key of each text hashed below, as SHA-256 gives it. -/
def hash (s : String) : String :=
  if s = user.string ++ "|payroll/7|delete|map[tenant_id:" ++ tenant.string ++ "]" then
    "d9212c908843feb23852bacd37a9cfd8"
  else if s = user.string ++ "|docs|read|map[ip_blocked:true tenant_id:" ++ tenant.string ++ "]" then
    "106de7002df01d1b07a2956e68e12e0c"
  else if s = user.string ++ "|docs|read|map[tenant_id:" ++ tenant.string ++ "]" then
    "8eab9a4119be271b80086ec4128e5bdd"
  else ""

/-- Invoices may be deleted. -/
def deleteInvoices : Policy where
  id          := 50#128
  tenantID    := tenant
  name        := "delete-invoices"
  description := ""
  effect      := .allow
  actions     := ["delete"]
  resources   := ["invoices/*"]
  conditions  := []
  priority    := 0
  createdAt   := 0

def invoiceStore : Database := { store with policies := ⟨[deleteInvoices], by decide⟩ }

/-- A request about another resource. -/
def deletePayroll : AuthorizeRequest :=
  ⟨user.string, "payroll/7", "delete", [("tenant_id", .string tenant.string)]⟩

def env : CallEnv := ⟨0, 0, 0, 0, ""⟩

theorem deletePayroll_unjustified : ¬ Justified parse invoiceStore 0 deletePayroll := by
  intro h
  rcases h with ⟨perm, ⟨hperm, -, -⟩, hmatch⟩ | ⟨p, hp, -, -, hcov⟩
  · have heq : perm = readDocs := by simpa [Table.mem_def, invoiceStore, store] using hperm
    rw [heq] at hmatch
    exact absurd hmatch (by decide)
  · have heq : p = deleteInvoices := by
      simpa [Table.mem_def, invoiceStore] using (mem_applicable.mp hp).1
    rw [heq] at hcov
    rcases hcov with hnone | hmatch
    · exact absurd hnone (by simp [deleteInvoices])
    · exact absurd hmatch (by decide)

end Sample

end Ggid.Policy
