import Ggid.Gateway.RbacDecision

/-!
# Gateway — where routes end

A rule is for the paths that its route begins, a resource for those at its prefix or below, the
slash before the next segment being added to the prefix. One of the two is wrong about a prefix that
ends with a slash, the other about one that does not.

* `ruleMatches_iff`      — a rule reaches beyond a segment if its route has no slash at its end;
* `resourceMatches_iff`  — a resource has nothing below it if its prefix has one;
* `boundaries_iff`       — both together.
-/

namespace Ggid.Gateway

open Ggid.Go Ggid.Lib

variable {path pre : List Char}

/-- Behind the prefix the path ends, or a segment does. -/
def EndsSegment (path pre : List Char) : Prop := ∀ c rest, path = pre ++ c :: rest → c = '/'

-- ---------------------------------------------------------------------------
-- Prefixes with and without a slash
-- ---------------------------------------------------------------------------

theorem anchored_of_slash (h : Strings.hasSuffix pre ['/'] = true) : anchored pre = pre := if_pos h

theorem anchored_of_not_slash (h : ¬ Strings.hasSuffix pre ['/'] = true) :
    anchored pre = pre ++ ['/'] := if_neg h

theorem concat_slash_prefix_iff : pre ++ ['/'] <+: path ↔ ∃ rest, path = pre ++ '/' :: rest := by
  constructor
  · rintro ⟨rest, rfl⟩
    exact ⟨rest, by simp⟩
  · rintro ⟨rest, rfl⟩
    exact ⟨rest, by simp⟩

/-- What a prefix begins, and what is at it or below. -/
theorem prefix_iff_endsSegment :
    (pre <+: path ↔ path = pre ∨ pre ++ ['/'] <+: path) ↔ EndsSegment path pre := by
  rw [concat_slash_prefix_iff]
  constructor
  · rintro h c rest rfl
    rcases h.mp (List.prefix_append _ _) with heq | ⟨rest', heq⟩
    · exact absurd heq (by simp)
    · exact (List.cons.inj (List.append_cancel_left heq)).1
  · intro h
    constructor
    · rintro ⟨rest, rfl⟩
      cases rest with
      | nil => exact .inl (List.append_nil _)
      | cons c rest =>
        rw [h c rest rfl]
        exact .inr ⟨rest, rfl⟩
    · rintro (rfl | ⟨rest, rfl⟩)
      · exact List.prefix_refl _
      · exact List.prefix_append _ _

-- ---------------------------------------------------------------------------
-- Rules
-- ---------------------------------------------------------------------------

/-- `CheckAccess` is right about a route with a slash, and about paths where a segment ends. -/
theorem ruleMatches_iff : (Strings.hasPrefix path pre = true ↔ atOrBelow path pre = true) ↔
    Strings.hasSuffix pre ['/'] = true ∨ EndsSegment path pre := by
  rw [hasPrefix_iff, atOrBelow_iff]
  by_cases hslash : Strings.hasSuffix pre ['/'] = true
  · rw [anchored_of_slash hslash]
    refine iff_of_true ⟨.inr, ?_⟩ (.inl hslash)
    rintro (rfl | h)
    · exact List.prefix_refl _
    · exact h
  · rw [anchored_of_not_slash hslash, or_iff_right hslash]
    exact prefix_iff_endsSegment

/-- A rule that concerns the caller is used for the paths it begins. -/
theorem matchRules_singleton_isSome {unicode : Char → Char} {row : RoutePermRow} {method : String}
    {claims : JWTCClaims} (hconcerns : row.concerns claims = true)
    (hapi : Strings.hasPrefix row.route.toList "/api/".toList = true) :
    (matchRules unicode [row] path method claims).isSome = true ↔
      Strings.hasPrefix path row.route.toList = true := by
  have happlies : row.appliesTo path claims = Strings.hasPrefix path row.route.toList := by
    unfold RoutePermRow.concerns at hconcerns
    unfold RoutePermRow.appliesTo
    rw [hconcerns, hapi, Bool.true_and, Bool.true_and]
  rw [matchRules_isSome_iff]
  simp [happlies]

-- ---------------------------------------------------------------------------
-- Resources
-- ---------------------------------------------------------------------------

/-- How `HasPermissionForRoute` compares. -/
def resourceMatches (path pre : List Char) : Bool :=
  path == pre || Strings.hasPrefix path (pre ++ ['/'])

/-- It is right about a prefix without a slash, and about paths where a segment ends. -/
theorem resourceMatches_iff : (resourceMatches path pre = true ↔ atOrBelow path pre = true) ↔
    Strings.hasSuffix pre ['/'] = false ∨ EndsSegment path pre := by
  have hmatches : resourceMatches path pre = true ↔ path = pre ∨ pre ++ ['/'] <+: path := by
    unfold resourceMatches
    rw [Bool.or_eq_true, beq_iff_eq, hasPrefix_iff]
  rw [hmatches, atOrBelow_iff]
  by_cases hslash : Strings.hasSuffix pre ['/'] = true
  · have hself : (path = pre ∨ pre <+: path) ↔ pre <+: path := by
      refine or_iff_right_of_imp ?_
      rintro rfl
      exact List.prefix_refl _
    have hwith : ¬ Strings.hasSuffix pre ['/'] = false := by simp [hslash]
    rw [anchored_of_slash hslash, hself]
    exact (iff_comm.trans prefix_iff_endsSegment).trans (or_iff_right hwith).symm
  · rw [anchored_of_not_slash hslash]
    exact iff_of_true Iff.rfl (.inl (Bool.eq_false_iff.mpr hslash))

/-- No prefix of a resource begins another. -/
theorem resources_apart : ∀ entry ∈ routePermissionResource, ∀ entry' ∈ routePermissionResource,
    Strings.hasPrefix entry.1.toList entry'.1.toList = true → entry = entry' := by
  decide

theorem eq_of_resourceMatches {entry entry' : String × String}
    (hmem : entry ∈ routePermissionResource) (hmem' : entry' ∈ routePermissionResource)
    (h : resourceMatches path entry.1.toList = true)
    (h' : resourceMatches path entry'.1.toList = true) : entry = entry' := by
  have hbegins : ∀ pre : List Char, resourceMatches path pre = true → pre <+: path := by
    intro pre hpre
    rcases (Bool.or_eq_true _ _).mp hpre with heq | hbelow
    · obtain rfl := beq_iff_eq.mp heq
      exact List.prefix_refl _
    · exact (List.prefix_append _ _).trans (hasPrefix_iff.mp hbelow)
  rcases List.prefix_or_prefix_of_prefix (hbegins _ h) (hbegins _ h') with hle | hle
  · exact (resources_apart _ hmem' _ hmem (hasPrefix_iff.mpr hle)).symm
  · exact resources_apart _ hmem _ hmem' (hasPrefix_iff.mpr hle)

/-- The loop keeps what it has, or an entry that is compared with success. -/
theorem foldl_resource (path : List Char) (l : List (String × String)) (best : String × Nat) :
    (∃ entry ∈ l, resourceMatches path entry.1.toList = true ∧
      l.foldl (fun best entry =>
        if resourceMatches path entry.1.toList && best.2 < entry.1.length then
          (entry.2, entry.1.length) else best) best = (entry.2, entry.1.length)) ∨
    (∀ entry ∈ l, resourceMatches path entry.1.toList = true → entry.1.length ≤ best.2) ∧
      l.foldl (fun best entry =>
        if resourceMatches path entry.1.toList && best.2 < entry.1.length then
          (entry.2, entry.1.length) else best) best = best := by
  induction l generalizing best with
  | nil => exact .inr ⟨by simp, rfl⟩
  | cons entry l ih =>
    rw [List.foldl_cons]
    by_cases htaken : (resourceMatches path entry.1.toList && best.2 < entry.1.length) = true
    · rw [if_pos htaken]
      obtain ⟨entry', hmem, hmatches, heq⟩ | ⟨-, heq⟩ := ih (entry.2, entry.1.length)
      · exact .inl ⟨entry', List.mem_cons_of_mem _ hmem, hmatches, heq⟩
      · exact .inl ⟨entry, List.mem_cons_self, (Bool.and_eq_true_iff.mp htaken).1, heq⟩
    · rw [if_neg htaken]
      obtain ⟨entry', hmem, hmatches, heq⟩ | ⟨hnone, heq⟩ := ih best
      · exact .inl ⟨entry', List.mem_cons_of_mem _ hmem, hmatches, heq⟩
      · refine .inr ⟨fun entry' hmem hmatches => ?_, heq⟩
        rcases List.mem_cons.mp hmem with rfl | hmem
        · rw [hmatches, Bool.true_and, decide_eq_true_eq] at htaken
          exact not_lt.mp htaken
        · exact hnone entry' hmem hmatches

theorem resources_named : ∀ entry ∈ routePermissionResource, entry.2 ≠ "" ∧ 0 < entry.1.length ∧
    ∀ entry' ∈ routePermissionResource, entry.2 = entry'.2 → entry = entry' := by
  decide

/-- **The resource** of a path is the one whose prefix is compared with success. -/
theorem resourceOf_iff {entry : String × String} (hmem : entry ∈ routePermissionResource) :
    (resourceOf path).1 = entry.2 ↔ resourceMatches path entry.1.toList = true := by
  obtain ⟨hname, hlength, hunique⟩ := resources_named entry hmem
  obtain ⟨entry', hmem', hmatches, heq⟩ | ⟨hnone, heq⟩ :=
    foldl_resource path routePermissionResource ("", 0)
  · have hresource : (resourceOf path).1 = entry'.2 := congrArg Prod.fst heq
    rw [hresource]
    constructor
    · intro hsame
      rwa [hunique entry' hmem' hsame.symm]
    · intro h
      rw [eq_of_resourceMatches hmem' hmem hmatches h]
  · have hresource : (resourceOf path).1 = "" := congrArg Prod.fst heq
    rw [hresource]
    exact iff_of_false (Ne.symm hname) fun h =>
      absurd (hnone entry hmem h) (not_le.mpr hlength)

/-- The admin permission for a resource is none for another. -/
theorem admin_of_resource : ∀ entry ∈ routePermissionResource,
    ((entry.2 ++ ":admin").toList.all fun c => decide (c.toNat < 0x80) && c.toLower == c) = true ∧
    ∀ entry' ∈ routePermissionResource, entry ≠ entry' → ∀ action ∈ ["read", "write"],
      (entry.2 ++ ":admin" == entry'.2 ++ ":" ++ action ||
        entry.2 ++ ":admin" == entry'.2 ++ ":admin" ||
        Strings.hasPrefix (entry.2 ++ ":admin").toList
          (entry'.2 ++ ":" ++ action ++ ":").toList) = false := by
  decide

/-- The admin permission for a resource shows which paths are the resource's. -/
theorem hasPermissionForRoute_admin {unicode : Char → Char} {entry : String × String}
    (hmem : entry ∈ routePermissionResource) (path : List Char) (method : String) :
    hasPermissionForRoute unicode path method [entry.2 ++ ":admin"] = true ↔
      resourceMatches path entry.1.toList = true := by
  obtain ⟨hascii, hother⟩ := admin_of_resource entry hmem
  have hname := (resources_named entry hmem).1
  have haction : (if isReadMethod method then "read" else "write") ∈ ["read", "write"] := by
    split_ifs <;> simp
  unfold hasPermissionForRoute
  dsimp only
  rw [List.any_cons, List.any_nil, Bool.or_false, toLower_of_ascii unicode hascii,
    ← resourceOf_iff hmem]
  obtain ⟨entry', hmem', -, heq⟩ | ⟨-, heq⟩ :=
    foldl_resource path routePermissionResource ("", 0)
  · have hresource : (resourceOf path).1 = entry'.2 := congrArg Prod.fst heq
    rw [hresource, if_neg (by simp [(resources_named entry' hmem').1])]
    by_cases hsame : entry = entry'
    · subst hsame
      simp
    · rw [hother entry' hmem' hsame _ haction]
      refine iff_of_false Bool.false_ne_true fun hnames => hsame ?_
      exact (resources_named entry hmem).2.2 entry' hmem' hnames.symm
  · have hresource : (resourceOf path).1 = "" := congrArg Prod.fst heq
    rw [hresource, if_pos (.inr rfl)]
    exact iff_of_false Bool.false_ne_true (Ne.symm hname)

-- ---------------------------------------------------------------------------
-- Both
-- ---------------------------------------------------------------------------

/-- **Where routes end.** A rule for API paths that concerns the caller decides the paths at its
route or below, unless the route has no slash at its end and the path goes on within the segment; a
resource has the paths at its prefix or below, unless the prefix has a slash at its end and the path
goes on with a segment. -/
theorem boundaries_iff (unicode : Char → Char) (path : List Char) (method : String) :
    (∀ (row : RoutePermRow) (claims : JWTCClaims), row.concerns claims = true →
      Strings.hasPrefix row.route.toList "/api/".toList = true →
      (((matchRules unicode [row] path method claims).isSome = true ↔
          atOrBelow path row.route.toList = true) ↔
        Strings.hasSuffix row.route.toList ['/'] = true ∨ EndsSegment path row.route.toList)) ∧
    ∀ entry ∈ routePermissionResource,
      ((hasPermissionForRoute unicode path method [entry.2 ++ ":admin"] = true ↔
          atOrBelow path entry.1.toList = true) ↔
        Strings.hasSuffix entry.1.toList ['/'] = false ∨ EndsSegment path entry.1.toList) := by
  constructor
  · intro row claims hconcerns hapi
    rw [matchRules_singleton_isSome hconcerns hapi]
    exact ruleMatches_iff
  · intro entry hmem
    rw [hasPermissionForRoute_admin hmem]
    exact resourceMatches_iff

namespace Sample

def usersRule : RoutePermRow := ⟨"viewer", "viewer", "/api/v1/users", "read", "acme"⟩

end Sample

open Sample in
/-- The rule for users decides about another path, and the resource of the audit log has none of
the paths below it. -/
theorem boundaries_missed :
    ¬ ((matchRules id [usersRule] "/api/v1/users-external".toList "GET" clerk).isSome = true ↔
      atOrBelow "/api/v1/users-external".toList usersRule.route.toList = true) ∧
    ¬ (hasPermissionForRoute id "/api/v1/audit/events".toList "GET" ["audit" ++ ":admin"] = true ↔
      atOrBelow "/api/v1/audit/events".toList "/api/v1/audit/".toList = true) := by
  decide

open Sample in
theorem boundaries_iff_users :
    (matchRules id [usersRule] usersRule.route.toList "GET" clerk).isSome = true :=
  (((boundaries_iff id usersRule.route.toList "GET").1 usersRule clerk (by decide)
    (by decide)).mpr (.inr fun _ _ h => absurd h (by simp))).mpr (by decide)

end Ggid.Gateway
