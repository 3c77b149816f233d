import Ggid.Gateway.RbacResolver
import Ggid.Lib.Greatest
import Mathlib.Data.List.Perm.Basic

/-!
# Gateway — what the rules decide

`CheckAccess` goes over the rules once. It remembers the length of the longest route that begins
the path, the highest level the caller has by rules with that route, and whether one of these is
for admins.

* `foldl_matchRow`            — the loop collects from the rules with the longest route;
* `checkAccess_eq_reference`  — the decision is the one by these rules, in whatever order they come
  and whatever rules other tenants have.
-/

namespace Ggid.Gateway

open Ggid.Go Ggid.Lib

-- ---------------------------------------------------------------------------
-- The decision by the longest routes
-- ---------------------------------------------------------------------------

/-- The rule is one of the caller's tenant, or one for all. -/
def RoutePermRow.concerns (row : RoutePermRow) (claims : JWTCClaims) : Bool :=
  row.tenantID == claims.tenantID || row.tenantID == "00000000-0000-0000-0000-000000000000"

/-- The rules that apply, less those for which a longer one does. -/
def decidingRows (rows : List RoutePermRow) (path : List Char) (claims : JWTCClaims) :
    List RoutePermRow :=
  withGreatest (fun row => row.route.length) (rows.filter fun row => row.appliesTo path claims)

def requiredLevel (method : String) : Nat := if isReadMethod method then 1 else 2

section Decision

variable (unicode : Char → Char)

/-- The caller has the role of the rule, by its name or its key. -/
def RoutePermRow.heldBy (row : RoutePermRow) (claims : JWTCClaims) : Bool :=
  claims.roles.any fun role =>
    Strings.toLower unicode role == Strings.toLower unicode row.roleName ||
      Strings.toLower unicode role == Strings.toLower unicode row.roleKey

def RoutePermRow.forAdmins (row : RoutePermRow) : Bool :=
  Strings.toLower unicode row.level == "admin"

def highestLevel (rows : List RoutePermRow) : Nat :=
  (rows.map fun row => permLevelRank unicode row.level).foldr max 0

/-- The decision by the rules with the longest routes, `none` if there are none. -/
def ruleDecision (rows : List RoutePermRow) (path : List Char) (method : String)
    (claims : JWTCClaims) : Option Bool :=
  let deciding := decidingRows rows path claims
  if deciding = [] then none
  else some (requiredLevel method ≤
      highestLevel unicode (deciding.filter fun row => row.heldBy unicode claims) ||
    !(deciding.any fun row => row.forAdmins unicode) &&
      hasPermissionForRoute unicode path method claims.permissions)

end Decision

variable {unicode : Char → Char} {path : List Char} {method : String} {claims : JWTCClaims}
  {rows : List RoutePermRow}

-- ---------------------------------------------------------------------------
-- The loop
-- ---------------------------------------------------------------------------

theorem permLevelRank_admin : permLevelRank unicode "admin" = 3 := by
  have hlower : Strings.toLower unicode "admin" = "admin" :=
    toLower_of_ascii unicode (by decide)
  unfold permLevelRank
  simp only [hlower, if_true]

theorem admin_le_permLevelRank_iff {level : String} :
    permLevelRank unicode "admin" ≤ permLevelRank unicode level ↔
      Strings.toLower unicode level = "admin" := by
  rw [permLevelRank_admin]
  unfold permLevelRank
  dsimp only
  split_ifs with hadmin hwrite hread
  · exact iff_of_true le_rfl hadmin
  all_goals exact iff_of_false (by decide) hadmin

/-- What the loop remembers of the rules with the longest route: the caller's level, and whether
there is one for admins. -/
def collectRow (unicode : Char → Char) (claims : JWTCClaims) (found : Nat × Bool)
    (row : RoutePermRow) : Nat × Bool :=
  (if row.heldBy unicode claims then max found.1 (permLevelRank unicode row.level) else found.1,
    found.2 || row.forAdmins unicode)

theorem foldl_collectRow (found : Nat × Bool) :
    rows.foldl (collectRow unicode claims) found =
      (max found.1 (highestLevel unicode (rows.filter fun row => row.heldBy unicode claims)),
        found.2 || rows.any fun row => row.forAdmins unicode) := by
  induction rows generalizing found with
  | nil => simp [highestLevel]
  | cons row rows ih =>
    rw [List.foldl_cons, ih, collectRow, List.any_cons, Bool.or_assoc]
    by_cases hheld : row.heldBy unicode claims = true
    · rw [if_pos hheld, List.filter_cons_of_pos (by exact hheld), max_assoc]
      rfl
    · rw [if_neg hheld, List.filter_cons_of_neg (by exact hheld)]

/-- The state of the loop. -/
def BestRule.of (best : Int × Nat × Bool) : BestRule := ⟨best.1, best.2.1, best.2.2⟩

theorem heldBy_iff {row : RoutePermRow} : row.heldBy unicode claims = true ↔
    Strings.toLower unicode row.roleName ∈ claims.roles.map (Strings.toLower unicode) ∨
      Strings.toLower unicode row.roleKey ∈ claims.roles.map (Strings.toLower unicode) := by
  unfold RoutePermRow.heldBy
  simp only [List.any_eq_true, Bool.or_eq_true, beq_iff_eq, List.mem_map]
  constructor
  · rintro ⟨role, hrole, hname | hkey⟩
    · exact .inl ⟨role, hrole, hname⟩
    · exact .inr ⟨role, hrole, hkey⟩
  · rintro (⟨role, hrole, hname⟩ | ⟨role, hrole, hkey⟩)
    · exact ⟨role, hrole, .inl hname⟩
    · exact ⟨role, hrole, .inr hkey⟩

theorem appliesTo_iff {row : RoutePermRow} : row.appliesTo path claims = true ↔
    ¬ (row.tenantID ≠ claims.tenantID ∧ row.tenantID ≠ "00000000-0000-0000-0000-000000000000") ∧
      ¬ Strings.hasPrefix row.route.toList "/api/".toList = false ∧
      ¬ Strings.hasPrefix path row.route.toList = false := by
  unfold RoutePermRow.appliesTo
  simp only [Bool.and_eq_true, Bool.or_eq_true, beq_iff_eq, not_and_or, not_not,
    Bool.not_eq_false, and_assoc]

/-- **One rule.** -/
theorem matchRow_eq (best : Int × Nat × Bool) (row : RoutePermRow) :
    matchRow unicode path claims (.of best) row =
      .of (if row.appliesTo path claims then
        note (fun row => (row.route.length : Int)) (collectRow unicode claims) (0, false) best row
      else best) := by
  unfold matchRow
  by_cases happlies : row.appliesTo path claims = true
  · obtain ⟨htenant, hapi, hpath⟩ := appliesTo_iff.mp happlies
    rw [if_neg htenant, if_neg hapi, if_neg hpath, if_pos happlies, note]
    by_cases hshorter : (row.route.length : Int) < best.1
    · rw [if_pos hshorter]
      exact if_pos hshorter
    have hshorter' : ¬ (row.route.length : Int) < (BestRule.of best).bestLen := hshorter
    rw [if_neg hshorter, if_neg hshorter', collectRow]
    simp only [admin_le_permLevelRank_iff, ← heldBy_iff]
    -- the same length, or a longer match
    have hbest : (if (BestRule.of best).bestLen < (row.route.length : Int) then
          BestRule.mk row.route.length 0 false else .of best) =
        .of (row.route.length,
          if best.1 < (row.route.length : Int) then (0, false) else best.2) := by
      by_cases hlonger : best.1 < (row.route.length : Int)
      · exact (if_pos hlonger).trans (by rw [if_pos hlonger]; rfl)
      · have hsame : best.1 = row.route.length := by omega
        refine (if_neg hlonger).trans ?_
        rw [if_neg hlonger, ← hsame]
    rw [hbest]
    generalize (if best.1 < (row.route.length : Int) then (0, false) else best.2) = found
    by_cases hadmin : Strings.toLower unicode row.level = "admin"
    · have hguarded : row.forAdmins unicode = true := beq_iff_eq.mpr hadmin
      rw [if_pos hadmin, hguarded, Bool.or_true]
      split_ifs <;> rfl
    · have hopen : row.forAdmins unicode = false := Bool.eq_false_iff.mpr fun h =>
        hadmin (beq_iff_eq.mp h)
      rw [if_neg hadmin, hopen, Bool.or_false]
      split_ifs <;> rfl
  · rw [if_neg happlies]
    split_ifs with htenant hapi hpath
    · rfl
    · rfl
    · rfl
    all_goals exact absurd (appliesTo_iff.mpr ⟨htenant, hapi, hpath⟩) happlies

/-- The length of the longest route that begins the path, as the loop has it. -/
def longestRoute (rows : List RoutePermRow) (path : List Char) (claims : JWTCClaims) : Int :=
  greatest (fun row => (row.route.length : Int)) (-1)
    (rows.filter fun row => row.appliesTo path claims)

theorem lt_routeLength : ∀ row ∈ rows.filter fun row => row.appliesTo path claims,
    (-1 : Int) < row.route.length := fun row _ => by omega

theorem decidingRows_eq : decidingRows rows path claims =
    withGreatest (fun row => (row.route.length : Int))
      (rows.filter fun row => row.appliesTo path claims) := by
  unfold decidingRows withGreatest
  simp only [Nat.cast_le]

theorem decidingRows_eq_nil_iff :
    decidingRows rows path claims = [] ↔ longestRoute rows path claims < 0 := by
  rw [decidingRows_eq, withGreatest_eq_nil_iff lt_routeLength]
  unfold longestRoute
  constructor
  · intro hleast
    rw [hleast]
    decide
  · intro hneg
    refine (greatest_eq _ _ _).resolve_right ?_
    rintro ⟨row, -, heq⟩
    omega

/-- **The loop** collects from the rules with the longest route. -/
theorem foldl_matchRow (rows : List RoutePermRow) :
    rows.foldl (matchRow unicode path claims) ⟨-1, 0, false⟩ =
      ⟨longestRoute rows path claims,
        highestLevel unicode ((decidingRows rows path claims).filter fun row =>
          row.heldBy unicode claims),
        (decidingRows rows path claims).any fun row => row.forAdmins unicode⟩ := by
  have hloop : rows.foldl (matchRow unicode path claims) (.of (-1, 0, false)) =
      .of ((rows.filter fun row => row.appliesTo path claims).foldl
        (note (fun row => (row.route.length : Int)) (collectRow unicode claims) (0, false))
          (-1, 0, false)) := by
    rw [List.foldl_filter]
    exact List.foldl_hom BestRule.of fun best row => matchRow_eq best row
  refine hloop.trans ?_
  rw [foldl_note, filter_eq_withGreatest lt_routeLength, ← decidingRows_eq, foldl_collectRow,
    Nat.zero_max, Bool.false_or]
  rfl

-- ---------------------------------------------------------------------------
-- The decision
-- ---------------------------------------------------------------------------

/-- A permission stands in for the level where no rule is for admins. -/
theorem granted_iff {required level : Nat} {guarded permitted : Bool} :
    required ≤ (if level < required ∧ guarded = false ∧ permitted = true then required else level) ↔
      required ≤ level ∨ guarded = false ∧ permitted = true := by
  split_ifs with hfallback
  · exact iff_of_true le_rfl (.inr hfallback.2)
  · refine ⟨.inl, fun h => h.elim id fun hpermitted => ?_⟩
    exact not_lt.mp fun hlow => hfallback ⟨hlow, hpermitted⟩

theorem matchRules_eq (rows : List RoutePermRow) :
    matchRules unicode rows path method claims = ruleDecision unicode rows path method claims := by
  unfold matchRules ruleDecision requiredLevel
  rw [foldl_matchRow]
  dsimp only
  by_cases hnone : decidingRows rows path claims = []
  · rw [if_pos hnone, if_pos (decidingRows_eq_nil_iff.mp hnone)]
  rw [if_neg hnone, if_neg fun hneg => hnone (decidingRows_eq_nil_iff.mpr hneg),
    Option.some.injEq, Bool.eq_iff_iff, decide_eq_true_eq, Bool.or_eq_true, decide_eq_true_eq,
    Bool.and_eq_true, Bool.not_eq_true']
  exact granted_iff

theorem highestLevel_perm {rows' : List RoutePermRow} (h : rows.Perm rows') :
    highestLevel unicode rows = highestLevel unicode rows' :=
  (h.map _).foldr_eq 0

/-- The order of the rules does not matter. -/
theorem ruleDecision_perm {rows' : List RoutePermRow} (h : rows.Perm rows') :
    ruleDecision unicode rows path method claims =
      ruleDecision unicode rows' path method claims := by
  have hdeciding : (decidingRows rows path claims).Perm (decidingRows rows' path claims) :=
    withGreatest_perm (h.filter _)
  unfold ruleDecision
  dsimp only
  rw [highestLevel_perm (hdeciding.filter _), hdeciding.any_eq]
  by_cases hnone : decidingRows rows path claims = []
  · rw [if_pos hnone, if_pos (List.perm_nil.mp (hnone ▸ hdeciding.symm))]
  · rw [if_neg hnone, if_neg]
    exact fun hnone' => hnone (List.perm_nil.mp (hnone' ▸ hdeciding))

/-- Only rules that concern the caller apply. -/
theorem decidingRows_concerns : decidingRows rows path claims =
    decidingRows (rows.filter fun row => row.concerns claims) path claims := by
  unfold decidingRows
  rw [List.filter_filter]
  refine congrArg _ (List.filter_congr fun row _ => ?_)
  unfold RoutePermRow.appliesTo RoutePermRow.concerns
  cases row.tenantID == claims.tenantID ||
    row.tenantID == "00000000-0000-0000-0000-000000000000" <;> simp

/-- **The decision** is the one by the rules with the longest routes. It does not depend on the
order of the rules, nor on those of other tenants. -/
theorem checkAccess_eq_reference (unicode : Char → Char) {path : List Char} (method : String)
    {claims : JWTCClaims} (hself : isSelfService path = false)
    (hresolve : isTenantResolve path = false)
    (hscope : hasAdminScope unicode claims.scopes = false) (rows : List RoutePermRow) :
    checkAccess unicode (some rows) path method claims =
        ruleDecision unicode rows path method claims ∧
      (∀ rows' : List RoutePermRow, rows.Perm rows' →
        checkAccess unicode (some rows') path method claims =
          checkAccess unicode (some rows) path method claims) ∧
      ∀ rows' : List RoutePermRow, rows.filter (fun row => row.concerns claims) =
          rows'.filter (fun row => row.concerns claims) →
        checkAccess unicode (some rows') path method claims =
          checkAccess unicode (some rows) path method claims := by
  have hrules : ∀ rows : List RoutePermRow, checkAccess unicode (some rows) path method claims =
      ruleDecision unicode rows path method claims := by
    intro rows
    unfold checkAccess
    rw [hself, hresolve, hscope]
    exact matchRules_eq rows
  rw [hrules rows]
  refine ⟨rfl, fun rows' h => (hrules rows').trans (ruleDecision_perm h).symm,
    fun rows' h => (hrules rows').trans ?_⟩
  unfold ruleDecision
  rw [decidingRows_concerns, ← h, ← decidingRows_concerns]

namespace Sample

def clerk : JWTCClaims := ⟨"dave", "acme", [], [], ["Clerk"]⟩

/-- The clerks of a tenant read orders, another tenant keeps one to its admins. -/
def orderRows : List RoutePermRow :=
  [⟨"clerk", "clerk", "/api/v1/orders", "read", "acme"⟩,
    ⟨"Root", "root", "/api/v1/orders/7", "admin", "umbrella"⟩,
    ⟨"clerk", "clerk", "/api/v1/", "admin", "acme"⟩]

end Sample

open Sample in
theorem checkAccess_eq_reference_orders :
    checkAccess id (some orderRows) "/api/v1/orders/7".toList "GET" clerk = some true ∧
      checkAccess id (some orderRows.reverse) "/api/v1/orders/7".toList "PUT" clerk =
        checkAccess id (some orderRows) "/api/v1/orders/7".toList "PUT" clerk :=
  ⟨(checkAccess_eq_reference id "GET" (by decide) (by decide) (by decide)
      orderRows).1.trans (by decide),
    (checkAccess_eq_reference id "PUT" (by decide) (by decide) (by decide)
      orderRows).2.1 _ (List.reverse_perm orderRows).symm⟩

end Ggid.Gateway
