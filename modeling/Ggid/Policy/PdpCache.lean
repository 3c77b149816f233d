import Ggid.Policy.UnifiedPdp

/-!
# Policy engine — the decision cache

`EvaluateAuthorize` files an answer under a hash of the request's *text*
(`cacheText`) and serves it for five seconds. The text forgets where one field
ends and the next begins and which JSON type a context value has, so different
requests can share an entry.

What a fresh evaluation makes of a request is its *view*: the risk score, the
gate the context closes, and what reaches the evaluator. `answer_congr` and
`view_eq_of_answers` say that two requests have the same view exactly when every
store answers them alike. Together:

* `cache_serves_fresh_iff` — the pairs of requests for which the cache serves
  what a fresh evaluation would answer;
* `cache_serves_stale`     — a pair for which it does not.
-/

namespace Ggid.Policy

open Ggid.Go Ggid.Lib Relation

-- ---------------------------------------------------------------------------
-- Two calls
-- ---------------------------------------------------------------------------

/-- The part of a response that is the answer, without the record of the call. -/
def AuthorizeResponse.answer (resp : AuthorizeResponse) : AuthorizeResponse :=
  { resp with cacheHit := false, latencyMs := 0, decisionID := "" }

/-- The second call follows the first within the lifetime of its entry; the
cache has nothing under either key before. -/
structure WithinLifetime (pdp : Pdp) (cache : PdpCache) (env₁ env₂ : CallEnv)
    (r₁ r₂ : AuthorizeRequest) : Prop where
  absent₁ : cache (pdpCacheKey pdp r₁) = none
  absent₂ : cache (pdpCacheKey pdp r₂) = none
  clock₁  : env₁.lookedUp ≤ env₁.checked ∧ env₁.checked ≤ env₁.stored
  clock₂  : env₁.stored ≤ env₂.lookedUp ∧ env₂.lookedUp ≤ env₂.checked
  alive   : env₂.lookedUp < env₁.stored + pdpCacheTTL

/-- The second call answers what a fresh evaluation of its request would. -/
def ServesFresh (pdp : Pdp) (cache : PdpCache) (env₁ env₂ : CallEnv)
    (r₁ r₂ : AuthorizeRequest) : Prop :=
  (evaluateAuthorize pdp (evaluateAuthorize pdp cache env₁ r₁).2 env₂ r₂).1.answer =
    (evaluate pdp env₂ r₂).answer

/-- No assignment expires between the two evaluations. -/
def Steady (db : Database) (env₁ env₂ : CallEnv) : Prop :=
  ∀ ur ∈ db.userRoles, unexpired env₁.checked ur = unexpired env₂.checked ur

section Calls

variable {pdp : Pdp} {cache : PdpCache} {env₁ env₂ : CallEnv} {r₁ r₂ : AuthorizeRequest}

/-- The first call evaluates and leaves its answer in the cache. -/
theorem first_call (h : WithinLifetime pdp cache env₁ env₂ r₁ r₂) :
    (evaluateAuthorize pdp cache env₁ r₁).2 =
      Function.update (Function.update cache (pdpCacheKey pdp r₁) none) (pdpCacheKey pdp r₁)
        (some ⟨evaluate pdp env₁ r₁, env₁.stored + pdpCacheTTL⟩) := by
  have hlive : liveEntry cache env₁.lookedUp (pdpCacheKey pdp r₁) = none := by
    unfold liveEntry
    rw [h.absent₁]
  unfold evaluateAuthorize cacheGet cacheSet
  rw [hlive]

/-- Requests that share a key share the first one's answer. -/
theorem served_of_key_eq (h : WithinLifetime pdp cache env₁ env₂ r₁ r₂)
    (hkey : pdpCacheKey pdp r₁ = pdpCacheKey pdp r₂) :
    ServesFresh pdp cache env₁ env₂ r₁ r₂ ↔
      (evaluate pdp env₁ r₁).answer = (evaluate pdp env₂ r₂).answer := by
  have hlive : liveEntry (evaluateAuthorize pdp cache env₁ r₁).2 env₂.lookedUp
      (pdpCacheKey pdp r₂) = some (evaluate pdp env₁ r₁) := by
    rw [first_call h, ← hkey]
    unfold liveEntry
    rw [Function.update_self]
    simp only
    rw [if_pos h.alive]
  unfold ServesFresh
  rw [evaluateAuthorize, cacheGet, hlive]
  exact Iff.rfl

/-- Under different keys the second request is evaluated on its own. -/
theorem served_of_key_ne (h : WithinLifetime pdp cache env₁ env₂ r₁ r₂)
    (hkey : pdpCacheKey pdp r₁ ≠ pdpCacheKey pdp r₂) :
    ServesFresh pdp cache env₁ env₂ r₁ r₂ := by
  have hlive : liveEntry (evaluateAuthorize pdp cache env₁ r₁).2 env₂.lookedUp
      (pdpCacheKey pdp r₂) = none := by
    rw [first_call h]
    unfold liveEntry
    rw [Function.update_of_ne (Ne.symm hkey), Function.update_of_ne (Ne.symm hkey), h.absent₂]
  unfold ServesFresh
  rw [evaluateAuthorize, cacheGet, hlive]

end Calls

-- ---------------------------------------------------------------------------
-- What an evaluation looks at
-- ---------------------------------------------------------------------------

/-- The context check that stops a request, the risk overlay before the IP. -/
inductive Gate where
  | passed | ip | risk
  deriving DecidableEq

/-- What the RBAC check makes of a request before the store is consulted. -/
inductive RbacView where
  | refused (reason : String)
  | check (userID tenantID : UUID) (resource action : String)
  deriving DecidableEq

/-- Behind a closed gate the reason of a refusal is not reported. -/
def RbacView.hideReason : RbacView → RbacView
  | .refused _ => .refused ""
  | view => view

structure DecisionView where
  score : Int
  gate  : Gate
  rbac  : RbacView
  deriving DecidableEq

def gateOf (context : GoMap) : Gate :=
  if 80 < riskScore context then .risk else if ipBlocked context then .ip else .passed

/-- The evaluator refuses the nil user whatever the store holds. -/
def rbacView (parse : String → UUID × Bool) (req : AuthorizeRequest) : RbacView :=
  if req.subject = "" then .refused "no RBAC evaluator configured"
  else if (parse req.subject).2 = false then .refused "invalid subject UUID"
  else if contextTenant parse req.context = UUID.nil then .refused "missing tenant context"
  else if (parse req.subject).1 = UUID.nil then .refused "RBAC policy denied"
  else .check (parse req.subject).1 (contextTenant parse req.context) req.resource req.action

def decisionView (parse : String → UUID × Bool) (req : AuthorizeRequest) : DecisionView where
  score := riskScore req.context
  gate  := gateOf req.context
  rbac  := if gateOf req.context = .passed then rbacView parse req
           else (rbacView parse req).hideReason

/-- The request gets as far as the store. -/
def ReachesStore (parse : String → UUID × Bool) (req : AuthorizeRequest) : Prop :=
  ∃ u t resource action, rbacView parse req = .check u t resource action

-- ---------------------------------------------------------------------------
-- The answer, from the view and the store
-- ---------------------------------------------------------------------------

def overlayOf (score : Int) : RiskOverlay :=
  if 80 < score then .block else if 50 < score then .stepUp else .none

def evaluatedBy (rbac : CheckOutcome) : List String :=
  (if rbac.evaluated then ["rbac"] else []) ++ ["abac", "rebac"]

/-- The answer `evaluate` puts together. -/
def answerOf (score : Int) (gate : Gate) (rbac : CheckOutcome) : AuthorizeResponse :=
  match gate with
  | .risk => ⟨false, "risk score too high", overlayOf score, score, evaluatedBy rbac, false, 0, ""⟩
  | .ip =>
    ⟨false, "IP blocked by ABAC policy", overlayOf score, score, evaluatedBy rbac, false, 0, ""⟩
  | .passed =>
    ⟨rbac.allow, if rbac.allow then "" else if rbac.reason = "" then "denied by authorization policy"
      else rbac.reason, overlayOf score, score, evaluatedBy rbac, false, 0, ""⟩

theorem evaluate_answer (pdp : Pdp) (env : CallEnv) (req : AuthorizeRequest) :
    (evaluate pdp env req).answer =
      answerOf (riskScore req.context) (gateOf req.context) (rbacCheck pdp env.checked req) := by
  unfold evaluate gateOf answerOf overlayOf evaluatedBy AuthorizeResponse.answer abacCheck rebacCheck
    combineReasons
  by_cases hrisk : 80 < riskScore req.context
  · cases hip : ipBlocked req.context <;> simp [hrisk]
  · cases hip : ipBlocked req.context <;>
      cases hallow : (rbacCheck pdp env.checked req).allow <;> simp [hrisk, hallow]

/-- Whether the RBAC check lets the request through. -/
def RbacView.Allowed (std : Stdlib) (db : Database) (now : Time) : RbacView → Prop
  | .refused _ => False
  | .check u t resource action => ReferenceAllows std db now ⟨u, t, resource, action, "", []⟩

/-- The reason of a refusal. -/
def RbacView.reason : RbacView → String
  | .refused reason => reason
  | .check _ _ _ _ => "RBAC policy denied"

section Answer

variable {std : Stdlib} {parse : String → UUID × Bool} {hash : String → String} {db : Database}
  {now : Time} {req : AuthorizeRequest}

variable (std parse hash db now req) in
/-- The RBAC check, read off the view. -/
theorem rbacCheck_eq :
    ((rbacView parse req).Allowed std db now ∧
      rbacCheck (Pdp.pg std parse hash db) now req = ⟨true, true, ""⟩) ∨
    (¬ (rbacView parse req).Allowed std db now ∧
      rbacCheck (Pdp.pg std parse hash db) now req =
        ⟨false, false, (rbacView parse req).reason⟩) := by
  unfold rbacCheck rbacView Pdp.pg
  simp only
  by_cases hsubject : req.subject = ""
  · right
    simp [hsubject, RbacView.Allowed, RbacView.reason]
  by_cases hparse : (parse req.subject).2 = false
  · right
    simp [hsubject, hparse, RbacView.Allowed, RbacView.reason]
  by_cases htenant : contextTenant parse req.context = UUID.nil
  · right
    simp [hsubject, hparse, htenant, RbacView.Allowed, RbacView.reason]
  simp only [hsubject, hparse, htenant, if_false]
  obtain ⟨res, hres, hspec⟩ :=
    check_spec std (Evaluator.pg_readsFrom db) now (req.checkRequest parse)
  simp only [hres]
  by_cases huser : (parse req.subject).1 = UUID.nil
  · -- the evaluator refuses the nil user
    have hdenied : res.allowed = false := by
      rw [← Bool.not_eq_true, hspec]
      exact fun h => h.1.1 huser
    right
    simp [huser, hdenied, RbacView.Allowed, RbacView.reason]
  · have hallowed : RbacView.Allowed std db now (.check (parse req.subject).1
        (contextTenant parse req.context) req.resource req.action) ↔ res.allowed = true := hspec.symm
    cases hval : res.allowed with
    | true =>
      left
      simp [huser, hallowed, hval]
    | false =>
      right
      simp [huser, hallowed, hval, RbacView.reason]

variable (std parse hash db now req) in
theorem rbacCheck_evaluated :
    (rbacCheck (Pdp.pg std parse hash db) now req).evaluated = true ↔
      (rbacView parse req).Allowed std db now := by
  rcases rbacCheck_eq std parse hash db now req with ⟨hallow, heq⟩ | ⟨hrefuse, heq⟩
  · simp [heq, hallow]
  · simp [heq, hrefuse]

end Answer

/-- A store with a steady set of assignments decides alike at both instants. -/
theorem referenceAllows_steady {std : Stdlib} {db : Database} {t₁ t₂ : Time} {req : CheckRequest}
    (h : ∀ ur ∈ db.userRoles, unexpired t₁ ur = unexpired t₂ ur) :
    ReferenceAllows std db t₁ req ↔ ReferenceAllows std db t₂ req := by
  have hassigned : ∀ roleID, Assigned db t₁ req.userID req.tenantID roleID ↔
      Assigned db t₂ req.userID req.tenantID roleID := by
    intro roleID
    refine exists_congr fun ur => and_congr_right fun hur => ?_
    rw [h ur hur]
  have heff : ∀ roleID, EffectiveRole db t₁ req.userID req.tenantID roleID ↔
      EffectiveRole db t₂ req.userID req.tenantID roleID := by
    intro roleID
    simp only [EffectiveRole, hassigned]
  simp only [ReferenceAllows, Admitted, Granted, RbacGrants, EffectivePermission, mem_applicable,
    Attached, hassigned, heff]

-- ---------------------------------------------------------------------------
-- A store that grants one thing
-- ---------------------------------------------------------------------------

/-- One user of one tenant may do one thing, through one role. -/
def grantStore (u t : UUID) (resource action : String) (expiresAt : Option Time) : Database :=
  { Database.empty with
    roles := ⟨[⟨1#128, t, "role", "Role", "", false, none, 0, 0⟩], by simp⟩,
    permissions := ⟨[⟨2#128, t, "perm", "Permission", resource, action, "", false, "api"⟩], by simp⟩,
    rolePermissions := ⟨[⟨1#128, 2#128⟩], by simp⟩,
    userRoles := ⟨[⟨u, 1#128, .global, t, UUID.nil, expiresAt, 0⟩], by simp⟩ }

section Grant

variable {std : Stdlib} {u t u' t' : UUID} {resource action resource' action' : String}
  {expiresAt : Option Time} {now : Time}

theorem unexpired_iff {ur : UserRole} : unexpired now ur = true ↔ ∀ e ∈ ur.expiresAt, now ≤ e := by
  unfold unexpired
  cases ur.expiresAt <;> simp

theorem assigned_grantStore {roleID : UUID} :
    Assigned (grantStore u t resource action expiresAt) now u' t' roleID ↔
      roleID = 1#128 ∧ u = u' ∧ t = t' ∧ ∀ e ∈ expiresAt, now ≤ e := by
  simp only [Assigned, Table.mem_def, grantStore, List.mem_singleton, unexpired_iff]
  constructor
  · rintro ⟨ur, hur, huser, hrole, hexp, r, hr, hid, hvis⟩
    subst hur hr
    refine ⟨hrole.symm, huser, ?_, hexp⟩
    rcases hvis with h | h
    · exact h
    · exact absurd h (by simp)
  · rintro ⟨hid, hu, ht, hexp⟩
    exact ⟨_, rfl, hu, hid.symm, hexp, _, rfl, hid.symm, Or.inl ht⟩

variable (resource action) in
theorem effectiveRole_grantStore :
    EffectiveRole (grantStore u t resource action expiresAt) now u' t' 1#128 ↔
      u = u' ∧ t = t' ∧ ∀ e ∈ expiresAt, now ≤ e := by
  refine ⟨fun ⟨a, ha, _⟩ => (assigned_grantStore.mp ha).2, fun h => ?_⟩
  exact ⟨1#128, assigned_grantStore.mpr ⟨rfl, h⟩, .refl⟩

theorem rbacGrants_grantStore :
    RbacGrants (grantStore u t resource action expiresAt) now
        ⟨u', t', resource', action', "", []⟩ ↔
      (u = u' ∧ t = t' ∧ ∀ e ∈ expiresAt, now ≤ e) ∧
        resource = resource' ∧ (action = action' ∨ action = "*") := by
  rw [← effectiveRole_grantStore resource action]
  refine ⟨fun ⟨perm, ⟨hperm, _, rp, hrp, _, heff⟩, hmatch⟩ => ?_, fun ⟨heff, hres, hact⟩ => ?_⟩
  · rw [Table.mem_def, grantStore, List.mem_singleton] at hperm hrp
    subst hperm hrp
    refine ⟨heff, ?_⟩
    simpa [permissionMatches, ← and_or_left] using hmatch
  · have htenant : t = t' := ((effectiveRole_grantStore resource action).mp heff).2.1
    refine ⟨_, ⟨List.mem_singleton.mpr rfl, Or.inl htenant, _, List.mem_singleton.mpr rfl, rfl, heff⟩,
      ?_⟩
    simpa [permissionMatches, ← and_or_left] using ⟨hres, hact⟩

theorem referenceAllows_grantStore (hu : u' ≠ UUID.nil) (ht : t' ≠ UUID.nil) :
    ReferenceAllows std (grantStore u t resource action expiresAt) now
        ⟨u', t', resource', action', "", []⟩ ↔
      (u = u' ∧ t = t' ∧ ∀ e ∈ expiresAt, now ≤ e) ∧
        resource = resource' ∧ (action = action' ∨ action = "*") := by
  -- the store has no policies, so the permission alone decides
  have happ : ∀ p, p ∉ Applicable (grantStore u t resource action expiresAt) now
      ⟨u', t', resource', action', "", []⟩ :=
    fun p hp => Table.not_mem_empty p (mem_applicable.mp hp).1
  rw [← rbacGrants_grantStore]
  refine ⟨fun ⟨_, _, hgrant⟩ => ?_, fun hrbac => ?_⟩
  · rcases hgrant with hrbac | ⟨p, hp, _⟩
    · exact hrbac
    · exact absurd hp (happ p)
  · have heff := (rbacGrants_grantStore.mp hrbac).1
    refine ⟨⟨hu, ht, 1#128, assigned_grantStore.mpr ⟨rfl, heff⟩⟩, ?_, Or.inl hrbac⟩
    exact fun p hp => absurd hp (happ p)

end Grant

-- ---------------------------------------------------------------------------
-- Views and answers
-- ---------------------------------------------------------------------------

section View

variable {std : Stdlib} {parse : String → UUID × Bool} {hash : String → String} {db : Database}
  {env₁ env₂ : CallEnv} {r₁ r₂ : AuthorizeRequest}

/-- What the view of a request says about the RBAC check. -/
theorem rbacView_check {req : AuthorizeRequest} {u t : UUID} {resource action : String}
    (h : rbacView parse req = .check u t resource action) : u ≠ UUID.nil ∧ t ≠ UUID.nil := by
  unfold rbacView at h
  split at h
  · exact absurd h (by simp)
  split at h
  · exact absurd h (by simp)
  split at h
  · exact absurd h (by simp)
  rename_i htenant
  split at h
  · exact absurd h (by simp)
  rename_i huser
  rw [RbacView.check.injEq] at h
  obtain ⟨rfl, rfl, -, -⟩ := h
  exact ⟨huser, htenant⟩

/-- Equal views, hidden reasons aside, are allowed alike. -/
theorem allowed_congr {now : Time} {v₁ v₂ : RbacView} (h : v₁.hideReason = v₂.hideReason) :
    v₁.Allowed std db now ↔ v₂.Allowed std db now := by
  cases v₁ <;> cases v₂ <;> simp_all [RbacView.hideReason, RbacView.Allowed]

theorem allowed_steady {v : RbacView} (h : Steady db env₁ env₂) :
    v.Allowed std db env₁.checked ↔ v.Allowed std db env₂.checked := by
  cases v with
  | refused reason => exact Iff.rfl
  | check u t resource action => exact referenceAllows_steady h

/-- Same view, same outcome of the RBAC check: same answer. -/
theorem answer_congr (hview : decisionView parse r₁ = decisionView parse r₂)
    (hallowed : (rbacView parse r₁).Allowed std db env₁.checked ↔
      (rbacView parse r₂).Allowed std db env₂.checked) :
    (evaluate (Pdp.pg std parse hash db) env₁ r₁).answer =
      (evaluate (Pdp.pg std parse hash db) env₂ r₂).answer := by
  rw [evaluate_answer, evaluate_answer]
  simp only [decisionView, DecisionView.mk.injEq] at hview
  obtain ⟨hscore, hgate, hrbac⟩ := hview
  rw [hscore, hgate]
  rw [hgate] at hrbac
  rcases rbacCheck_eq std parse hash db env₁.checked r₁ with ⟨h₁, heq₁⟩ | ⟨h₁, heq₁⟩
  · rcases rbacCheck_eq std parse hash db env₂.checked r₂ with ⟨h₂, heq₂⟩ | ⟨h₂, heq₂⟩
    · rw [heq₁, heq₂]
    · exact absurd (hallowed.mp h₁) h₂
  · rcases rbacCheck_eq std parse hash db env₂.checked r₂ with ⟨h₂, heq₂⟩ | ⟨h₂, heq₂⟩
    · exact absurd (hallowed.mpr h₂) h₁
    · rw [heq₁, heq₂]
      cases hgate' : gateOf r₂.context with
      | passed =>
        rw [hgate', if_pos rfl, if_pos rfl] at hrbac
        rw [hrbac]
      | ip => rfl
      | risk => rfl

/-- The score, the participation of the RBAC check and the reason can be read off
an answer. -/
theorem answerOf_eq {s₁ s₂ : Int} {g₁ g₂ : Gate} {o₁ o₂ : CheckOutcome}
    (h : answerOf s₁ g₁ o₁ = answerOf s₂ g₂ o₂) :
    s₁ = s₂ ∧ o₁.evaluated = o₂.evaluated ∧
      (answerOf s₁ g₁ o₁).denyReason = (answerOf s₂ g₂ o₂).denyReason := by
  have hscore : ∀ s g o, (answerOf s g o).riskScore = s := by
    intro s g o
    cases g <;> rfl
  have hby : ∀ s g o, (answerOf s g o).evaluatedBy = evaluatedBy o := by
    intro s g o
    cases g <;> rfl
  refine ⟨?_, ?_, by rw [h]⟩
  · rw [← hscore s₁ g₁ o₁, h, hscore]
  · have heval : evaluatedBy o₁ = evaluatedBy o₂ := by rw [← hby s₁ g₁ o₁, h, hby]
    unfold evaluatedBy at heval
    cases h₁ : o₁.evaluated <;> cases h₂ : o₂.evaluated <;> simp_all

theorem reason_mem (parse : String → UUID × Bool) (req : AuthorizeRequest) :
    (rbacView parse req).reason ∈ ["no RBAC evaluator configured", "invalid subject UUID",
      "missing tenant context", "RBAC policy denied"] := by
  unfold rbacView
  split
  · simp [RbacView.reason]
  split
  · simp [RbacView.reason]
  split
  · simp [RbacView.reason]
  split <;> simp [RbacView.reason]

/-- Stores tell apart any two requests that reach them. -/
theorem hideReason_eq_of_allowed (std : Stdlib) (now : Time)
    (h : ∀ db, (rbacView parse r₁).Allowed std db now ↔ (rbacView parse r₂).Allowed std db now) :
    (rbacView parse r₁).hideReason = (rbacView parse r₂).hideReason := by
  cases hv₁ : rbacView parse r₁ with
  | refused reason₁ =>
    cases hv₂ : rbacView parse r₂ with
    | refused reason₂ => rfl
    | check u t resource action =>
      obtain ⟨hu, ht⟩ := rbacView_check hv₂
      have hdb := h (grantStore u t resource action none)
      rw [hv₁, hv₂] at hdb
      exact absurd ((referenceAllows_grantStore hu ht).mpr (by simp)) fun hallow => hdb.mpr hallow
  | check u t resource action =>
    obtain ⟨hu, ht⟩ := rbacView_check hv₁
    cases hv₂ : rbacView parse r₂ with
    | refused reason₂ =>
      have hdb := h (grantStore u t resource action none)
      rw [hv₁, hv₂] at hdb
      exact absurd ((referenceAllows_grantStore hu ht).mpr (by simp)) fun hallow => hdb.mp hallow
    | check u' t' resource' action' =>
      obtain ⟨hu', ht'⟩ := rbacView_check hv₂
      -- what the first may do the second may do, and the other way round
      have h₁ := h (grantStore u t resource action none)
      have h₂ := h (grantStore u' t' resource' action' none)
      rw [hv₁, hv₂, RbacView.Allowed, RbacView.Allowed, referenceAllows_grantStore hu ht,
        referenceAllows_grantStore hu' ht'] at h₁ h₂
      simp only [Option.not_mem_none, false_implies, implies_true, and_true, true_or, true_iff,
        iff_true] at h₁ h₂
      obtain ⟨⟨rfl, rfl⟩, rfl, hact⟩ := h₁
      have haction : action = action' := by
        rcases hact with heq | hstar
        · exact heq
        · rcases h₂.2.2 with heq | hstar'
          · exact heq.symm
          · rw [hstar, hstar']
      rw [haction]

theorem RbacView.ext_reason {v₁ v₂ : RbacView} (hhide : v₁.hideReason = v₂.hideReason)
    (hreason : v₁.reason = v₂.reason) : v₁ = v₂ := by
  cases v₁ <;> cases v₂ <;> simp_all [RbacView.hideReason, RbacView.reason]

/-- The empty store refuses everything, and gives the view's reason. -/
theorem denyReason_empty {now : Time} {req : AuthorizeRequest} (score : Int) (gate : Gate) :
    (answerOf score gate (rbacCheck (Pdp.pg std parse hash .empty) now req)).denyReason =
      match gate with
      | .risk => "risk score too high"
      | .ip => "IP blocked by ABAC policy"
      | .passed => (rbacView parse req).reason := by
  rcases rbacCheck_eq std parse hash .empty now req with ⟨hallow, -⟩ | ⟨-, heq⟩
  · -- nobody is assigned a role there
    cases hv : rbacView parse req with
    | refused reason =>
      rw [hv] at hallow
      exact hallow.elim
    | check u t resource action =>
      rw [hv] at hallow
      obtain ⟨⟨_, _, _, ur, hur, _⟩, _⟩ := hallow
      exact absurd hur (Table.not_mem_empty ur)
  · rw [heq]
    have hne : (rbacView parse req).reason ≠ "" := by
      have hmem := reason_mem parse req
      intro h
      rw [h] at hmem
      exact absurd hmem (by decide)
    cases gate <;> simp [answerOf, hne]

/-- **Equal answers in every store mean equal views.** -/
theorem view_eq_of_answers (env : CallEnv)
    (h : ∀ db, (evaluate (Pdp.pg std parse hash db) env r₁).answer =
      (evaluate (Pdp.pg std parse hash db) env r₂).answer) :
    decisionView parse r₁ = decisionView parse r₂ := by
  simp only [evaluate_answer] at h
  have hscore : riskScore r₁.context = riskScore r₂.context := (answerOf_eq (h .empty)).1
  have hhide : (rbacView parse r₁).hideReason = (rbacView parse r₂).hideReason := by
    apply hideReason_eq_of_allowed std env.checked
    intro db
    rw [← rbacCheck_evaluated std parse hash, ← rbacCheck_evaluated std parse hash,
      (answerOf_eq (h db)).2.1]
  have hreason := (answerOf_eq (h .empty)).2.2
  rw [denyReason_empty, denyReason_empty] at hreason
  have hmem₁ := reason_mem parse r₁
  have hmem₂ := reason_mem parse r₂
  -- the three kinds of reasons are pairwise different texts
  have hgate : gateOf r₁.context = gateOf r₂.context := by
    cases hg₁ : gateOf r₁.context <;> cases hg₂ : gateOf r₂.context <;>
      simp only [hg₁, hg₂] at hreason <;>
      first
        | rfl
        | (rw [hreason] at hmem₁; exact absurd hmem₁ (by decide))
        | (rw [← hreason] at hmem₂; exact absurd hmem₂ (by decide))
        | exact absurd hreason (by decide)
  unfold decisionView
  rw [hscore, hgate]
  congr 1
  by_cases hpassed : gateOf r₂.context = .passed
  · rw [if_pos hpassed, if_pos hpassed]
    rw [hgate, hpassed] at hreason
    exact RbacView.ext_reason hhide hreason
  · rw [if_neg hpassed, if_neg hpassed]
    exact hhide

theorem hideReason_eq_of_view (h : decisionView parse r₁ = decisionView parse r₂) :
    (rbacView parse r₁).hideReason = (rbacView parse r₂).hideReason := by
  simp only [decisionView, DecisionView.mk.injEq] at h
  obtain ⟨-, hgate, hrbac⟩ := h
  rw [hgate] at hrbac
  by_cases hpassed : gateOf r₂.context = .passed
  · rw [if_pos hpassed, if_pos hpassed] at hrbac
    rw [hrbac]
  · rw [if_neg hpassed, if_neg hpassed] at hrbac
    exact hrbac

/-- A view that does not reach the store is refused whatever the store holds. -/
theorem not_allowed_of_not_reaches {now : Time} (h : ¬ ReachesStore parse r₁) :
    ¬ (rbacView parse r₁).Allowed std db now := by
  cases hv : rbacView parse r₁ with
  | refused reason => exact id
  | check u t resource action => exact absurd ⟨u, t, resource, action, hv⟩ h

end View

-- ---------------------------------------------------------------------------
-- What the cache serves
-- ---------------------------------------------------------------------------

/-- Two calls right after one another, the second one's evaluation at `t`. -/
theorem withinLifetime_of_empty (pdp : Pdp) (r₁ r₂ : AuthorizeRequest) {t : Time} (ht : 0 ≤ t) :
    WithinLifetime pdp (fun _ => none) ⟨0, 0, 0, 0, ""⟩ ⟨0, t, t, 0, ""⟩ r₁ r₂ where
  absent₁ := rfl
  absent₂ := rfl
  clock₁ := ⟨le_refl _, le_refl _⟩
  clock₂ := ⟨le_refl _, ht⟩
  alive := by
    show (0 : Int) < 0 + pdpCacheTTL
    decide

section Shared

variable {std : Stdlib} {parse : String → UUID × Bool} {hash : String → String}
  {r₁ r₂ : AuthorizeRequest}

variable (parse hash) in
/-- Over stores whose assignments hold through both calls, the requests sharing
an entry must have the same view. -/
theorem shared_steady_iff (htext : cacheText std r₁ = cacheText std r₂) :
    (∀ db cache env₁ env₂, WithinLifetime (Pdp.pg std parse hash db) cache env₁ env₂ r₁ r₂ →
        Steady db env₁ env₂ → ServesFresh (Pdp.pg std parse hash db) cache env₁ env₂ r₁ r₂) ↔
      decisionView parse r₁ = decisionView parse r₂ := by
  have hkey : ∀ db, pdpCacheKey (Pdp.pg std parse hash db) r₁ =
      pdpCacheKey (Pdp.pg std parse hash db) r₂ := fun db => congrArg hash htext
  refine ⟨fun h => ?_, fun hview db cache env₁ env₂ hwithin hsteady => ?_⟩
  · apply view_eq_of_answers ⟨0, 0, 0, 0, ""⟩
    intro db
    have hwithin := withinLifetime_of_empty (Pdp.pg std parse hash db) r₁ r₂ (le_refl 0)
    exact (served_of_key_eq hwithin (hkey db)).mp (h db _ _ _ hwithin fun _ _ => rfl)
  · refine (served_of_key_eq hwithin (hkey db)).mpr (answer_congr hview ?_)
    rw [allowed_congr (hideReason_eq_of_view hview)]
    exact allowed_steady hsteady

/-- Over all stores they must moreover stop short of the store: an assignment may
expire between the two calls. -/
theorem shared_iff (htext : cacheText std r₁ = cacheText std r₂) :
    (∀ db cache env₁ env₂, WithinLifetime (Pdp.pg std parse hash db) cache env₁ env₂ r₁ r₂ →
        ServesFresh (Pdp.pg std parse hash db) cache env₁ env₂ r₁ r₂) ↔
      decisionView parse r₁ = decisionView parse r₂ ∧ ¬ ReachesStore parse r₁ := by
  have hkey : ∀ db, pdpCacheKey (Pdp.pg std parse hash db) r₁ =
      pdpCacheKey (Pdp.pg std parse hash db) r₂ := fun db => congrArg hash htext
  refine ⟨fun h => ?_, fun ⟨hview, hreach⟩ db cache env₁ env₂ hwithin => ?_⟩
  · have hview := (shared_steady_iff parse hash htext).mp
      fun db cache env₁ env₂ hwithin _ => h db cache env₁ env₂ hwithin
    refine ⟨hview, fun ⟨u, t, resource, action, hv₁⟩ => ?_⟩
    obtain ⟨hu, ht⟩ := rbacView_check hv₁
    -- an assignment that is still valid at the first check and not at the second
    have hwithin := withinLifetime_of_empty
      (Pdp.pg std parse hash (grantStore u t resource action (some 0))) r₁ r₂ (t := 1) (by decide)
    have hserved := (served_of_key_eq hwithin (hkey _)).mp (h _ _ _ _ hwithin)
    rw [evaluate_answer, evaluate_answer] at hserved
    have heval := (answerOf_eq hserved).2.1
    rw [Bool.eq_iff_iff, rbacCheck_evaluated, rbacCheck_evaluated,
      ← allowed_congr (hideReason_eq_of_view hview), hv₁, RbacView.Allowed, RbacView.Allowed,
      referenceAllows_grantStore hu ht, referenceAllows_grantStore hu ht] at heval
    have hexpired := heval.mp (by simp)
    exact absurd (hexpired.1.2.2 0 rfl) (by decide)
  · refine (served_of_key_eq hwithin (hkey db)).mpr (answer_congr hview ?_)
    have h₁ : ∀ now, ¬ (rbacView parse r₁).Allowed std db now :=
      fun now => not_allowed_of_not_reaches hreach
    rw [← allowed_congr (hideReason_eq_of_view hview)]
    exact iff_of_false (h₁ _) (h₁ _)

end Shared

/-- **What the cache serves.** For two requests in a row the second answer is the
fresh one, in every store, exactly when their texts differ, or when they have
the same view and never reach the store; if no assignment expires in between,
having the same view is enough. The hash is only assumed not to collide on the
two texts. -/
theorem cache_serves_fresh_iff (std : Stdlib) (parse : String → UUID × Bool)
    (hash : String → String) (r₁ r₂ : AuthorizeRequest)
    (hcoll : hash (cacheText std r₁) = hash (cacheText std r₂) →
      cacheText std r₁ = cacheText std r₂) :
    ((∀ db cache env₁ env₂, WithinLifetime (Pdp.pg std parse hash db) cache env₁ env₂ r₁ r₂ →
        ServesFresh (Pdp.pg std parse hash db) cache env₁ env₂ r₁ r₂) ↔
      cacheText std r₁ ≠ cacheText std r₂ ∨
      (decisionView parse r₁ = decisionView parse r₂ ∧ ¬ ReachesStore parse r₁)) ∧
    ((∀ db cache env₁ env₂, WithinLifetime (Pdp.pg std parse hash db) cache env₁ env₂ r₁ r₂ →
        Steady db env₁ env₂ → ServesFresh (Pdp.pg std parse hash db) cache env₁ env₂ r₁ r₂) ↔
      cacheText std r₁ ≠ cacheText std r₂ ∨ decisionView parse r₁ = decisionView parse r₂) := by
  by_cases htext : cacheText std r₁ = cacheText std r₂
  · rw [shared_iff htext, shared_steady_iff parse hash htext]
    simp [htext]
  · have hkey : ∀ db, pdpCacheKey (Pdp.pg std parse hash db) r₁ ≠
        pdpCacheKey (Pdp.pg std parse hash db) r₂ := fun db h => htext (hcoll h)
    refine ⟨⟨fun _ => Or.inl htext, fun _ db cache env₁ env₂ hwithin => ?_⟩,
      ⟨fun _ => Or.inl htext, fun _ db cache env₁ env₂ hwithin _ => ?_⟩⟩
    · exact served_of_key_ne hwithin (hkey db)
    · exact served_of_key_ne hwithin (hkey db)

-- ---------------------------------------------------------------------------
-- A shared entry
-- ---------------------------------------------------------------------------

namespace Sample

def readRequest (context : GoMap) : AuthorizeRequest := ⟨user.string, "docs", "read", context⟩

/-- `ip_blocked` is a text here … -/
def blockedText : AuthorizeRequest :=
  readRequest [("tenant_id", .string tenant.string), ("ip_blocked", .string "true")]

/-- … and a boolean here. -/
def blockedFlag : AuthorizeRequest :=
  readRequest [("tenant_id", .string tenant.string), ("ip_blocked", .bool true)]

def unblocked : AuthorizeRequest := readRequest [("tenant_id", .string tenant.string)]

def pdp : Pdp := Pdp.pg stdlib parse hash store

end Sample

/-- Requests with different texts keep their own entries. -/
theorem cache_serves_fresh_sample :
    WithinLifetime Sample.pdp (fun _ => none) ⟨0, 0, 0, 0, ""⟩ ⟨0, 0, 0, 0, ""⟩
        Sample.unblocked Sample.blockedFlag ∧
      ServesFresh Sample.pdp (fun _ => none) ⟨0, 0, 0, 0, ""⟩ ⟨0, 0, 0, 0, ""⟩
        Sample.unblocked Sample.blockedFlag := by
  have hwithin : WithinLifetime Sample.pdp (fun _ => none) ⟨0, 0, 0, 0, ""⟩ ⟨0, 0, 0, 0, ""⟩
      Sample.unblocked Sample.blockedFlag := withinLifetime_of_empty _ _ _ (le_refl 0)
  have hfresh := (cache_serves_fresh_iff Sample.stdlib Sample.parse Sample.hash Sample.unblocked
    Sample.blockedFlag (by decide)).1.mpr (Or.inl (by decide))
  exact ⟨hwithin, hfresh _ _ _ _ hwithin⟩

/-- The text `true` and the boolean `true` print alike. The first request is
allowed; the second one, which a fresh evaluation refuses, is answered with it. -/
theorem cache_serves_stale :
    WithinLifetime Sample.pdp (fun _ => none) ⟨0, 0, 0, 0, ""⟩ ⟨0, 0, 0, 0, ""⟩
        Sample.blockedText Sample.blockedFlag ∧
      Steady Sample.store ⟨0, 0, 0, 0, ""⟩ ⟨0, 0, 0, 0, ""⟩ ∧
      (evaluateAuthorize Sample.pdp
          (evaluateAuthorize Sample.pdp (fun _ => none) ⟨0, 0, 0, 0, ""⟩ Sample.blockedText).2
          ⟨0, 0, 0, 0, ""⟩ Sample.blockedFlag).1 =
        ⟨true, "", .none, 0, ["rbac", "abac", "rebac"], true, 0, ""⟩ ∧
      evaluate Sample.pdp ⟨0, 0, 0, 0, ""⟩ Sample.blockedFlag =
        ⟨false, "IP blocked by ABAC policy", .none, 0, ["rbac", "abac", "rebac"], false, 0, ""⟩ := by
  exact ⟨withinLifetime_of_empty _ _ _ (le_refl 0), fun _ _ => rfl, by rfl, by rfl⟩

end Ggid.Policy
