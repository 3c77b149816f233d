import Ggid.Gateway.Rbac
import Ggid.Lib.Run

/-!
# Gateway — `RBACResolver`

Where the gate has its rules from. A snapshot in memory is good for a minute, then Redis is
asked, then the database, whose answer is left in Redis for a minute. `Invalidate` drops the
snapshot when the rules have changed.

* `matchRules_isSome_iff`     — a rule of the caller's tenant that begins the path decides;
* `load_versions`             — what `load` returns is a version the caches or the database hold;
* `governed_by_rules_iff`     — the rules decide in every state of a run exactly if no rule is
  left in the database once `Invalidate` has been called;
* `invalidate_disables_rules` — a request that the rules deny, and the prefix list lets pass.
-/

namespace Ggid.Gateway

open Ggid.Go
open Ggid.Lib

-- ---------------------------------------------------------------------------
-- Rules that apply
-- ---------------------------------------------------------------------------

/-- The rule is for the tenant, or for all, and its route begins the path. -/
def RoutePermRow.appliesTo (row : RoutePermRow) (path : List Char) (claims : JWTCClaims) : Bool :=
  (row.tenantID == claims.tenantID ||
      row.tenantID == "00000000-0000-0000-0000-000000000000") &&
    Strings.hasPrefix row.route.toList "/api/".toList && Strings.hasPrefix path row.route.toList

section Applying

variable {unicode : Char → Char} {path : List Char} {claims : JWTCClaims}

/-- The loop passes over a rule that does not apply, and has found one from then on if it does. -/
theorem matchRow_bestLen (best : BestRule) (row : RoutePermRow) (hbest : -1 ≤ best.bestLen) :
    -1 ≤ (matchRow unicode path claims best row).bestLen ∧
      (0 ≤ (matchRow unicode path claims best row).bestLen ↔
        0 ≤ best.bestLen ∨ row.appliesTo path claims = true) := by
  unfold matchRow RoutePermRow.appliesTo
  by_cases htenant : row.tenantID ≠ claims.tenantID ∧
      row.tenantID ≠ "00000000-0000-0000-0000-000000000000"
  · rw [if_pos htenant]
    simp [htenant.1, htenant.2, hbest]
  rw [if_neg htenant]
  have htenant : (row.tenantID == claims.tenantID ||
      row.tenantID == "00000000-0000-0000-0000-000000000000") = true := by
    rw [Bool.or_eq_true, beq_iff_eq, beq_iff_eq]
    by_contra hother
    exact htenant (not_or.mp hother)
  rw [htenant]
  by_cases hapi : Strings.hasPrefix row.route.toList "/api/".toList = false
  · rw [if_pos hapi, hapi]
    exact ⟨hbest, by simp⟩
  rw [if_neg hapi]
  by_cases hpath : Strings.hasPrefix path row.route.toList = false
  · rw [if_pos hpath, hpath]
    exact ⟨hbest, by simp⟩
  rw [if_neg hpath]
  simp only [Bool.not_eq_false] at hapi hpath
  by_cases hlen : (row.route.length : Int) < best.bestLen
  · rw [if_pos hlen]
    have hfound : 0 ≤ best.bestLen := by omega
    simp [hfound, hbest]
  rw [if_neg hlen]
  -- a longer match, or one as long
  have hresult : ∀ b : BestRule, b.bestLen = row.route.length →
      -1 ≤ b.bestLen ∧ (0 ≤ b.bestLen ↔ 0 ≤ best.bestLen ∨
        (true && Strings.hasPrefix row.route.toList "/api/".toList &&
          Strings.hasPrefix path row.route.toList) = true) := by
    intro b hb
    rw [hapi, hpath]
    exact ⟨by omega, iff_of_true (by omega) (.inr rfl)⟩
  apply hresult
  by_cases hlonger : best.bestLen < (row.route.length : Int)
  · simp only [if_pos hlonger]
    split <;> split <;> rfl
  · simp only [if_neg hlonger]
    have hsame : best.bestLen = row.route.length := by omega
    split <;> split <;> exact hsame

/-- **The rules decide** where one of them applies. -/
theorem matchRules_isSome_iff {rows : List RoutePermRow} {method : String} :
    (matchRules unicode rows path method claims).isSome = true ↔
      ∃ row ∈ rows, row.appliesTo path claims = true := by
  have hrow := @matchRow_bestLen unicode path claims
  have hloop : ∀ (rows : List RoutePermRow) (best : BestRule), -1 ≤ best.bestLen →
      (0 ≤ (rows.foldl (matchRow unicode path claims) best).bestLen ↔
        0 ≤ best.bestLen ∨ ∃ row ∈ rows, row.appliesTo path claims = true) := by
    intro rows
    induction rows with
    | nil => simp
    | cons row rows ih =>
      intro best hbest
      obtain ⟨hnext, hfound⟩ := hrow best row hbest
      rw [List.foldl_cons, ih _ hnext, hfound]
      simp [or_assoc]
  have hrows := hloop rows ⟨-1, 0, false⟩ (by simp)
  rw [or_iff_right (by simp)] at hrows
  rw [← hrows]
  unfold matchRules
  simp only
  by_cases hnone : (rows.foldl (matchRow unicode path claims) ⟨-1, 0, false⟩).bestLen < 0
  · rw [if_pos hnone]
    exact iff_of_false (by simp) (by omega)
  · rw [if_neg hnone]
    exact iff_of_true rfl (by omega)

end Applying

-- ---------------------------------------------------------------------------
-- The caches
-- ---------------------------------------------------------------------------

/-- What Redis has under `rbac:routes:v2:all`. -/
structure RbacCacheEntry where
  rows      : List RoutePermRow
  expiresAt : Nat

/-- `RBACResolver`, less its connections. -/
structure RBACResolver where
  snapshot   : List RoutePermRow
  loadedAt   : Nat
  everLoaded : Bool

/-- Which of its calls to Redis and to the database succeed. -/
structure RbacReplies where
  redisGet : Bool
  redisSet : Bool
  database : Bool

/-- A resolver with the stores it reads. `stored` is what the query of `loadFromDB` returns; times
are in nanoseconds. -/
structure RbacState where
  now      : Nat
  stored   : List RoutePermRow
  redis    : Option RbacCacheEntry
  resolver : RBACResolver

/-- `rbacCacheTTL`, and `rbacMemCacheTTL`. -/
def rbacCacheTTL : Nat := 60 * 1000000000

namespace RbacState

/-- The snapshot is there and less than a minute old. -/
def fresh (s : RbacState) : Bool :=
  s.resolver.everLoaded && decide (s.now - s.resolver.loadedAt < rbacCacheTTL)

def storeSnapshot (s : RbacState) (rows : List RoutePermRow) : RbacState :=
  { s with resolver := ⟨rows, s.now, true⟩ }

/-- The entry of Redis, if it is there and Redis answers. -/
def redisGet (s : RbacState) (replies : RbacReplies) : Option (List RoutePermRow) :=
  if replies.redisGet = true then
    (s.redis.filter fun entry => decide (s.now < entry.expiresAt)).map RbacCacheEntry.rows
  else none

def redisSet (s : RbacState) (replies : RbacReplies) (rows : List RoutePermRow) : RbacState :=
  if replies.redisSet = true then { s with redis := some ⟨rows, s.now + rbacCacheTTL⟩ } else s

/-- `load`; `none` for its error. -/
def load (s : RbacState) (replies : RbacReplies) (force : Bool) :
    RbacState × Option (List RoutePermRow) :=
  if s.fresh && !force then (s, some s.resolver.snapshot)
  -- the check is made again once the flight is this caller's
  else if s.fresh then (s, some s.resolver.snapshot)
  else match s.redisGet replies with
  | some rows => (s.storeSnapshot rows, some rows)
  | none =>
    if replies.database = true then
      ((s.storeSnapshot s.stored).redisSet replies s.stored, some s.stored)
    else if s.fresh then (s, some s.resolver.snapshot)
    else (s, none)

/-- `Invalidate`. -/
def invalidate (s : RbacState) : RbacState := { s with resolver := ⟨[], 0, false⟩ }

/-- The rules `RequireAdminScope` consults for the request: `none` where the resolver is not
available. `CheckAccess` loads them for tokens, where no scope or path makes them needless. -/
def rulesFor (unicode : Char → Char) (s : RbacState) (replies : RbacReplies) (r : Request) :
    RbacState × Option (Option (List RoutePermRow)) :=
  if s.resolver.everLoaded = false then (s, none)
  else if isRBACExempt r.path.toList || (extractJWTClaims r.ctx).subject == "" ||
      !consultsRules unicode r.path.toList (extractJWTClaims r.ctx) then (s, some none)
  else ((s.load replies false).1, some (s.load replies false).2)

/-- What becomes of the request at the gate. -/
def decision (unicode : Char → Char) (s : RbacState) (replies : RbacReplies) (r : Request) :
    RbacOutcome :=
  requireAdminScope unicode (s.rulesFor unicode replies r).2 r

end RbacState

/-- The version of the rules is one that Redis or the snapshot holds, or the database. -/
def RbacState.Holds (s : RbacState) (rows : List RoutePermRow) : Prop :=
  (s.resolver.everLoaded = true ∧ rows = s.resolver.snapshot) ∨
    (∃ entry, s.redis = some entry ∧ rows = entry.rows) ∨ rows = s.stored

section Loading

variable {s : RbacState} {replies : RbacReplies} {force : Bool}

/-- `load` in short: the snapshot as it is, a new snapshot, or an error. -/
theorem load_cases : (s.load replies force = (s, some s.resolver.snapshot) ∧ s.fresh = true) ∨
    (∃ rows, s.redisGet replies = some rows ∧
      s.load replies force = (s.storeSnapshot rows, some rows)) ∨
    (replies.database = true ∧ s.load replies force =
      ((s.storeSnapshot s.stored).redisSet replies s.stored, some s.stored)) ∨
    (replies.database = false ∧ s.load replies force = (s, none)) := by
  unfold RbacState.load
  by_cases hfresh : s.fresh = true
  · refine .inl ⟨?_, hfresh⟩
    rw [if_pos hfresh]
    split <;> rfl
  · rw [if_neg (by simp [hfresh]), if_neg hfresh]
    cases hredis : s.redisGet replies with
    | some rows => exact .inr (.inl ⟨rows, rfl, rfl⟩)
    | none =>
      by_cases hdatabase : replies.database = true
      · exact .inr (.inr (.inl ⟨hdatabase, if_pos hdatabase⟩))
      · refine .inr (.inr (.inr ⟨Bool.eq_false_iff.mpr hdatabase, ?_⟩))
        simp only [if_neg hdatabase, if_neg hfresh]

theorem holds_of_redisGet {rows : List RoutePermRow} (h : s.redisGet replies = some rows) :
    s.Holds rows := by
  unfold RbacState.redisGet at h
  split at h
  · obtain ⟨entry, hentry, rfl⟩ := Option.map_eq_some_iff.mp h
    exact .inr (.inl ⟨entry, (Option.filter_eq_some_iff.mp hentry).1, rfl⟩)
  · exact absurd h (by simp)

/-- A new snapshot adds nothing to the versions that are held. -/
theorem holds_storeSnapshot {rows rows' : List RoutePermRow} (hrows : s.Holds rows)
    (h : (s.storeSnapshot rows).Holds rows') : s.Holds rows' := by
  rcases h with ⟨-, rfl⟩ | hredis | rfl
  · exact hrows
  · exact .inr (.inl hredis)
  · exact .inr (.inr rfl)

theorem holds_redisSet {rows : List RoutePermRow} (h : (s.redisSet replies s.stored).Holds rows) :
    s.Holds rows := by
  unfold RbacState.redisSet at h
  split at h
  · rcases h with hsnapshot | ⟨entry, hentry, rfl⟩ | rfl
    · exact .inl hsnapshot
    · obtain rfl := Option.some.inj hentry
      exact .inr (.inr rfl)
    · exact .inr (.inr rfl)
  · exact h

theorem redisSet_resolver (rows : List RoutePermRow) :
    (s.redisSet replies rows).resolver = s.resolver ∧
      (s.redisSet replies rows).stored = s.stored := by
  unfold RbacState.redisSet
  split <;> exact ⟨rfl, rfl⟩

/-- **What `load` returns** is a version that was held before, and so is all that is held after. -/
theorem load_versions {rows : List RoutePermRow} :
    ((s.load replies force).2 = some rows → s.Holds rows) ∧
      ((s.load replies force).1.Holds rows → s.Holds rows) := by
  rcases @load_cases s replies force with
    ⟨hload, hfresh⟩ | ⟨cached, hcached, hload⟩ | ⟨-, hload⟩ | ⟨-, hload⟩
  · rw [hload]
    refine ⟨fun h => ?_, id⟩
    rw [RbacState.fresh, Bool.and_eq_true] at hfresh
    exact .inl ⟨hfresh.1, (Option.some.inj h).symm⟩
  · rw [hload]
    have hheld := holds_of_redisGet hcached
    exact ⟨fun h => Option.some.inj h ▸ hheld, holds_storeSnapshot hheld⟩
  · rw [hload]
    refine ⟨fun h => .inr (.inr (Option.some.inj h).symm), fun h => ?_⟩
    exact holds_storeSnapshot (.inr (.inr rfl)) (holds_redisSet h)
  · rw [hload]
    exact ⟨fun h => absurd h (by simp), id⟩

theorem load_stored : (s.load replies force).1.stored = s.stored := by
  rcases @load_cases s replies force with
    ⟨hload, -⟩ | ⟨rows, -, hload⟩ | ⟨-, hload⟩ | ⟨-, hload⟩
  · rw [hload]
  · rw [hload]
    rfl
  · rw [hload, (redisSet_resolver _).2]
    rfl
  · rw [hload]

/-- A loaded resolver stays loaded, and one that loads becomes so. -/
theorem load_everLoaded
    (h : s.resolver.everLoaded = true ∨ (s.load replies force).2.isSome = true) :
    (s.load replies force).1.resolver.everLoaded = true := by
  rcases @load_cases s replies force with
    ⟨hload, hfresh⟩ | ⟨cached, -, hload⟩ | ⟨-, hload⟩ | ⟨-, hload⟩
  · rw [hload]
    rw [RbacState.fresh, Bool.and_eq_true] at hfresh
    exact hfresh.1
  · rw [hload]
    rfl
  · rw [hload, (redisSet_resolver _).1]
    rfl
  · rw [hload] at h ⊢
    exact h.resolve_right (by simp)

/-- With the database, `load` does not fail. -/
theorem load_isSome (hdatabase : replies.database = true) :
    (s.load replies force).2.isSome = true := by
  rcases @load_cases s replies force with
    ⟨hload, -⟩ | ⟨rows, -, hload⟩ | ⟨-, hload⟩ | ⟨hdown, -⟩
  · rw [hload]
    rfl
  · rw [hload]
    rfl
  · rw [hload]
    rfl
  · exact absurd (hdatabase.symm.trans hdown) (by simp)

end Loading

-- ---------------------------------------------------------------------------
-- Runs
-- ---------------------------------------------------------------------------

inductive RbacEvent
  | request (replies : RbacReplies) (r : Request)
  | invalidate
  /-- The rules in the database change. -/
  | setRules (rows : List RoutePermRow)
  | tick (elapsed : Nat)
  /-- Another gateway loads the rules and leaves them in Redis. -/
  | otherGateway

/-- A state with its past: the versions of the rules there have been since the start, or since the
last `Invalidate` if there has been one. -/
structure RbacHistory where
  state       : RbacState
  versions    : List (List RoutePermRow)
  invalidated : Bool

/-- After `WarmStart`. -/
def warmStart (now : Nat) (stored : List RoutePermRow) (redis : Option RbacCacheEntry)
    (replies : RbacReplies) : RbacHistory :=
  ⟨(RbacState.load ⟨now, stored, redis, ⟨[], 0, false⟩⟩ replies true).1,
    stored :: (redis.map RbacCacheEntry.rows).toList, false⟩

def rbacStep (unicode : Char → Char) (h : RbacHistory) : RbacEvent → RbacHistory
  | .request replies r => { h with state := (h.state.rulesFor unicode replies r).1 }
  | .invalidate => ⟨h.state.invalidate, [h.state.stored], true⟩
  | .setRules rows =>
    { h with state := { h.state with stored := rows }, versions := rows :: h.versions }
  | .tick elapsed => { h with state := { h.state with now := h.state.now + elapsed } }
  | .otherGateway =>
    { h with state := { h.state with
        redis := some ⟨h.state.stored, h.state.now + rbacCacheTTL⟩ } }

/-- One of the rules is about the token's request, on a path that is left to the rules. -/
def GovernedBy (rows : List RoutePermRow) (r : Request) : Prop :=
  (extractJWTClaims r.ctx).subject ≠ "" ∧ isRBACExempt r.path.toList = false ∧
    isSelfService r.path.toList = false ∧ isTenantResolve r.path.toList = false ∧
    ∃ row ∈ rows, row.appliesTo r.path.toList (extractJWTClaims r.ctx) = true

/-- The gate consults the rules, and decides as a version of them does that it may still have. -/
def DecidedByRules (unicode : Char → Char) (h : RbacHistory) (replies : RbacReplies)
    (r : Request) : Prop :=
  ∃ rows ∈ h.versions,
    (h.state.rulesFor unicode replies r).2.isSome = true ∧
    (consultsRules unicode r.path.toList (extractJWTClaims r.ctx) = true →
      (h.state.rulesFor unicode replies r).2 = some (some rows)) ∧
    h.state.decision unicode replies r = requireAdminScope unicode (some (some rows)) r

/-- Every request that a stored rule is about is decided by the rules, if the database answers. -/
def RulesInForce (unicode : Char → Char) (h : RbacHistory) : Prop :=
  ∀ (replies : RbacReplies) (r : Request), replies.database = true →
    GovernedBy h.state.stored r → DecidedByRules unicode h replies r

/-- Some request is governed by the rules. -/
def RulesGovern (rows : List RoutePermRow) : Prop := ∃ r, GovernedBy rows r

/-- Once `Invalidate` has been called, the database has no rules that govern a request. -/
def NoRulesOnceInvalidated (h : RbacHistory) : RbacEvent → Prop
  | .invalidate => ¬ RulesGovern h.state.stored
  | .setRules rows => h.invalidated = true → ¬ RulesGovern rows
  | _ => True

/-- The resolver is loaded until it is invalidated, and what is held till then is a version. -/
structure RbacInv (h : RbacHistory) : Prop where
  loaded : h.state.resolver.everLoaded = !h.invalidated
  held   : h.invalidated = false → ∀ rows, h.state.Holds rows → rows ∈ h.versions

section Invariant

variable (unicode : Char → Char)

/-- Whom the rules are asked about: the state is left as it is, or as `load` leaves it. -/
theorem rulesFor_cases (s : RbacState) (replies : RbacReplies) (r : Request) :
    (s.rulesFor unicode replies r).1 = s ∨ s.resolver.everLoaded = true ∧
      (s.rulesFor unicode replies r).1 = (s.load replies false).1 := by
  unfold RbacState.rulesFor
  split
  · exact .inl rfl
  · rename_i hloaded
    split
    · exact .inl rfl
    · exact .inr ⟨Bool.not_eq_false _ ▸ hloaded, rfl⟩

theorem rbacInv_start {now : Nat} {stored : List RoutePermRow} {redis : Option RbacCacheEntry}
    {replies : RbacReplies}
    (hwarm : (RbacState.load ⟨now, stored, redis, ⟨[], 0, false⟩⟩ replies true).2.isSome = true) :
    RbacInv (warmStart now stored redis replies) where
  loaded := load_everLoaded (.inr hwarm)
  held := by
    intro _ rows hrows
    unfold warmStart at hrows ⊢
    rcases load_versions.2 hrows with ⟨hloaded, -⟩ | ⟨entry, hentry, rfl⟩ | rfl
    · exact absurd hloaded (by simp)
    · have hredis : redis = some entry := hentry
      simp [hredis]
    · exact List.mem_cons_self

theorem rbacInv_step {h : RbacHistory} (hinv : RbacInv h) (e : RbacEvent) :
    RbacInv (rbacStep unicode h e) := by
  cases e with
  | request replies r =>
    rcases rulesFor_cases unicode h.state replies r with hsame | ⟨hloaded, hload⟩
    · refine ⟨?_, ?_⟩ <;> simp only [rbacStep, hsame]
      · exact hinv.loaded
      · exact hinv.held
    · refine ⟨?_, ?_⟩ <;> simp only [rbacStep, hload]
      · exact (load_everLoaded (.inl hloaded)).trans (hloaded.symm.trans hinv.loaded)
      · exact fun hvalid rows hrows => hinv.held hvalid rows (load_versions.2 hrows)
  | invalidate => exact ⟨rfl, fun hvalid => absurd hvalid (by simp [rbacStep])⟩
  | setRules rows =>
    refine ⟨hinv.loaded, fun hvalid rows' hrows => ?_⟩
    rcases hrows with hsnapshot | hredis | rfl
    · exact List.mem_cons_of_mem _ (hinv.held hvalid rows' (.inl hsnapshot))
    · exact List.mem_cons_of_mem _ (hinv.held hvalid rows' (.inr (.inl hredis)))
    · exact List.mem_cons_self
  | tick elapsed => exact ⟨hinv.loaded, hinv.held⟩
  | otherGateway =>
    refine ⟨hinv.loaded, fun hvalid rows' hrows => ?_⟩
    rcases hrows with hsnapshot | ⟨entry, hentry, rfl⟩ | rfl
    · exact hinv.held hvalid rows' (.inl hsnapshot)
    · obtain rfl := Option.some.inj hentry
      exact hinv.held hvalid _ (.inr (.inr rfl))
    · exact hinv.held hvalid _ (.inr (.inr rfl))

/-- Where the rules are not consulted, it does not matter which they are. -/
theorem requireAdminScope_congr {r : Request} {rows rows' : Option (List RoutePermRow)}
    (hrules : consultsRules unicode r.path.toList (extractJWTClaims r.ctx) = false) :
    requireAdminScope unicode (some rows) r = requireAdminScope unicode (some rows') r := by
  have hsame : ∀ rows, checkAccess unicode rows r.path.toList r.method (extractJWTClaims r.ctx) =
      checkAccess unicode none r.path.toList r.method (extractJWTClaims r.ctx) := by
    intro rows
    rw [consultsRules, Bool.not_eq_false', Bool.or_eq_true] at hrules
    unfold checkAccess
    rcases hrules with hpath | hscope
    · rw [if_pos hpath, if_pos hpath]
    · rw [if_pos hscope, if_pos hscope]
  simp only [requireAdminScope, hsame rows, hsame rows']

/-- A resolver that is still loaded has the rules decide. -/
theorem rulesInForce_of_valid {h : RbacHistory} (hinv : RbacInv h)
    (hvalid : h.invalidated = false) : RulesInForce unicode h := by
  intro replies r hdatabase hgoverned
  obtain ⟨hsubject, hexempt, -⟩ := hgoverned
  have hloaded : h.state.resolver.everLoaded = true := by
    rw [hinv.loaded, hvalid]
    rfl
  unfold DecidedByRules RbacState.decision RbacState.rulesFor
  rw [if_neg (by simp [hloaded])]
  cases hrules : consultsRules unicode r.path.toList (extractJWTClaims r.ctx) with
  | false =>
    rw [if_pos (by simp)]
    exact ⟨h.state.stored, hinv.held hvalid _ (.inr (.inr rfl)), rfl,
      fun habsurd => absurd habsurd (by simp), requireAdminScope_congr unicode hrules⟩
  | true =>
    rw [if_neg (by simp [hexempt, hsubject])]
    obtain ⟨rows, hrows⟩ := Option.isSome_iff_exists.mp
      (@load_isSome h.state replies false hdatabase)
    rw [hrows]
    exact ⟨rows, hinv.held hvalid _ (load_versions.1 hrows), rfl, fun _ => rfl, rfl⟩

/-- An invalidated resolver is not asked again, as long as it exists. -/
theorem not_decidedByRules_of_invalidated {h : RbacHistory} (hinv : RbacInv h)
    (hinvalid : h.invalidated = true) (replies : RbacReplies) (r : Request) :
    ¬ DecidedByRules unicode h replies r := by
  rintro ⟨rows, -, hconsulted, -⟩
  have hdropped : h.state.resolver.everLoaded = false := by
    rw [hinv.loaded, hinvalid]
    rfl
  unfold RbacState.rulesFor at hconsulted
  rw [if_pos hdropped] at hconsulted
  exact absurd hconsulted (by simp)

theorem rulesInForce_of_invalidated {h : RbacHistory} (hinv : RbacInv h)
    (hinvalid : h.invalidated = true) :
    RulesInForce unicode h ↔ ¬ RulesGovern h.state.stored := by
  constructor
  · rintro hforce ⟨r, hgoverned⟩
    exact not_decidedByRules_of_invalidated unicode hinv hinvalid ⟨true, true, true⟩ r
      (hforce _ r rfl hgoverned)
  · intro hnone replies r _ hgoverned
    exact absurd ⟨r, hgoverned⟩ hnone

/-- After `Invalidate`, the database has no rules that govern a request. -/
def NoRulesLeft (h : RbacHistory) : Prop := h.invalidated = true → ¬ RulesGovern h.state.stored

/-- **The rules decide in every state of a run** exactly if, once `Invalidate` has been called, the
database has none that govern a request. -/
theorem governed_by_rules_iff (unicode : Char → Char) (now : Nat) (stored : List RoutePermRow)
    (redis : Option RbacCacheEntry) (replies : RbacReplies) (es : List RbacEvent)
    (hwarm : (RbacState.load ⟨now, stored, redis, ⟨[], 0, false⟩⟩ replies true).2.isSome = true) :
    (∀ h ∈ states (rbacStep unicode) (warmStart now stored redis replies) es,
      RulesInForce unicode h) ↔
    StepsOk (rbacStep unicode) NoRulesOnceInvalidated (warmStart now stored redis replies) es := by
  have hgood : ∀ h e, RbacInv h → NoRulesLeft h → True → NoRulesOnceInvalidated h e →
      NoRulesLeft (rbacStep unicode h e) := by
    intro h e _ hgood _ hok
    cases e with
    | request replies r =>
      intro hinvalid
      have hstored : (h.state.rulesFor unicode replies r).1.stored = h.state.stored := by
        rcases rulesFor_cases unicode h.state replies r with hsame | ⟨-, hload⟩
        · rw [hsame]
        · rw [hload, load_stored]
      exact hstored ▸ hgood hinvalid
    | invalidate => exact fun _ => hok
    | setRules rows => exact hok
    | tick elapsed => exact hgood
    | otherGateway => exact hgood
  have hforce : ∀ h, RbacInv h → NoRulesLeft h → RulesInForce unicode h := by
    intro h hinv hgood
    cases hinvalid : h.invalidated with
    | false => exact rulesInForce_of_valid unicode hinv hinvalid
    | true => exact (rulesInForce_of_invalidated unicode hinv hinvalid).mpr (hgood hinvalid)
  have hbreak : ∀ h e, RbacInv h → NoRulesLeft h → True →
      RulesInForce unicode (rbacStep unicode h e) → NoRulesOnceInvalidated h e := by
    intro h e hinv _ _ hforce
    have hinv' := rbacInv_step unicode hinv e
    cases e with
    | invalidate => exact (rulesInForce_of_invalidated unicode hinv' rfl).mp hforce
    | setRules rows =>
      intro hinvalid
      exact (rulesInForce_of_invalidated unicode hinv' hinvalid).mp hforce
    | request replies r => trivial
    | tick elapsed => trivial
    | otherGateway => trivial
  exact forall_states_iff_stepsOk (fun h e hinv _ => rbacInv_step unicode hinv e) hgood hforce
    hbreak (rbacInv_start hwarm) (fun hinvalid => absurd hinvalid (by simp [warmStart]))
    (stepsOk_of_forall fun _ _ => trivial)

end Invariant

namespace Sample

/-- Reports are for auditors. -/
def reportRules : List RoutePermRow := [⟨"Auditor", "auditor", "/api/v1/reports", "read", "acme"⟩]

def reportRequest : Request := plainRequest "/api/v1/reports"

def allUp : RbacReplies := ⟨true, true, true⟩

def reportStart : RbacHistory := warmStart 1000 reportRules none allUp

theorem reportRequest_governed : GovernedBy reportRules reportRequest := by
  rw [GovernedBy, isRBACExempt_eq]
  refine ⟨?_, ?_, ?_, ?_, ?_⟩ <;> decide

end Sample

open Sample in
/-- After `Invalidate` the prefix list decides, and lets pass what the rules deny: at once, and with
the same rules in the database a day later. -/
theorem invalidate_disables_rules :
    RbacState.decision id reportStart.state allUp reportRequest =
      .forbidden "insufficient permissions for this endpoint" none ∧
    RbacState.decision id (run (rbacStep id) reportStart [.invalidate]).state allUp
      reportRequest = .next ∧
    RbacState.decision id (run (rbacStep id) reportStart
      [.invalidate, .setRules reportRules, .tick 86400000000000]).state allUp
      reportRequest = .next ∧
    ¬ ∀ h ∈ states (rbacStep id) reportStart [.invalidate], RulesInForce id h := by
  refine and_assoc.mp (and_assoc.mp ⟨?_, fun hall => ?_⟩)
  · simp only [RbacState.decision, requireAdminScope, staticDecision, isRBACExempt_eq,
      isAdminEndpoint_eq]
    decide
  have hforce := hall _ (run_mem_states reportStart [RbacEvent.invalidate])
  obtain ⟨rows, -, hconsulted, -⟩ := hforce allUp reportRequest rfl reportRequest_governed
  exact absurd hconsulted (by simp [run, rbacStep, RbacState.rulesFor, RbacState.invalidate])

open Sample in
/-- Requests and new rules alone. -/
theorem governed_by_rules_iff_sample :
    (RbacState.load ⟨1000, reportRules, none, ⟨[], 0, false⟩⟩ allUp true).2.isSome = true ∧
    ∀ h ∈ states (rbacStep id) (warmStart 1000 reportRules none allUp)
      [.request allUp reportRequest, .setRules [], .tick 61000000000, .setRules reportRules],
      RulesInForce id h := by
  have hwarm : (RbacState.load ⟨1000, reportRules, none, ⟨[], 0, false⟩⟩ allUp true).2.isSome =
      true := rfl
  refine ⟨hwarm, (governed_by_rules_iff id 1000 reportRules none allUp _ hwarm).mpr ?_⟩
  refine ⟨trivial, ?_, trivial, ?_, trivial⟩
  · exact fun hinvalid => absurd hinvalid (by simp [rbacStep, warmStart])
  · exact fun hinvalid => absurd hinvalid (by simp [rbacStep, warmStart])

end Ggid.Gateway
