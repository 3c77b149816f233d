import Mathlib.Data.Set.Finite.Lattice
import Mathlib.Data.Set.Finite.Range
import Mathlib.Data.Set.Card
import Ggid.Identity.Rebac

/-!
# Identity service — what a relation check decides

`Check` against the derivations of the four rules. The search shares one set of visited keys
between branches that have different depths left, so a goal entered first by a detour can be
refused where it would have been in reach.

* `check_iff_derivable`      — without such a detour, `Check` allows exactly what has a
  derivation within the depth, in whatever order the rows come, and more tuples never turn
  an answer into a refusal;
* `check_depends_on_order`   — a detour that changes the answer;
* `check_iff_lfp`            — with a depth beyond the number of goals in reach, `Check`
  decides the least fixed point of the rules.
-/

namespace Ggid.Identity

open Ggid.Go Ggid.Lib

-- ---------------------------------------------------------------------------
-- Texts
-- ---------------------------------------------------------------------------

theorem groupName_eq_some {s name : String} : groupName s = some name ↔ s = "group:" ++ name := by
  unfold groupName Strings.hasPrefix
  constructor
  · intro h
    by_cases hp : "group:".toList.isPrefixOf s.toList = true
    · rw [if_pos hp] at h
      obtain ⟨rest, hrest⟩ := List.isPrefixOf_iff_prefix.mp hp
      rw [← hrest] at h
      have hname : name.toList = rest := by
        rw [← Option.some.inj h]
        exact String.toList_ofList
      rw [← String.toList_inj, String.toList_append, hname]
      exact hrest.symm
    · rw [if_neg hp] at h
      exact absurd h (by simp)
  · rintro rfl
    rw [String.toList_append, if_pos (List.isPrefixOf_iff_prefix.mpr ⟨_, rfl⟩)]
    exact congrArg some String.ofList_toList

theorem parentParts_eq_some {parent : String} {parts : String × String} :
    parentParts parent = some parts ↔
      ':' ∉ parts.1.toList ∧ parent = parts.1 ++ ":" ++ parts.2 := by
  unfold parentParts
  constructor
  · intro h
    by_cases hc : ':' ∈ parent.toList
    · rw [if_pos hc] at h
      obtain rfl := Option.some.inj h
      obtain ⟨before, rest, hsplit, hbefore⟩ := List.eq_append_cons_of_mem hc
      rw [hsplit, Strings.takeWhile_ne_append hbefore, Strings.dropWhile_ne_append hbefore]
      refine ⟨by rwa [String.toList_ofList], ?_⟩
      rw [← String.toList_inj, hsplit, String.toList_append, String.toList_append,
        String.toList_ofList, String.toList_ofList, List.append_assoc]
      simp
    · rw [if_neg hc] at h
      exact absurd h (by simp)
  · rintro ⟨hns, rfl⟩
    have hchars : (parts.1 ++ ":" ++ parts.2).toList = parts.1.toList ++ ':' :: parts.2.toList := by
      rw [String.toList_append, String.toList_append, List.append_assoc]
      rfl
    rw [hchars, if_pos (by simp), Strings.takeWhile_ne_append hns, Strings.dropWhile_ne_append hns,
      String.ofList_toList, List.drop_one, List.tail_cons, String.ofList_toList]

theorem parentParts_append {ns obj : String} (hns : ':' ∉ ns.toList) :
    parentParts (ns ++ ":" ++ obj) = some (ns, obj) :=
  parentParts_eq_some.mpr ⟨hns, rfl⟩

-- ---------------------------------------------------------------------------
-- The search follows the rules
-- ---------------------------------------------------------------------------

section Follow

variable {tuples : TupleTable} {replies : Replies} {tenantID : UUID} {subject : String}

theorem mem_directSubjects (hup : replies.Answered) {asker goal : Goal} {n : Nat} {s : String} :
    s ∈ (directSubjects tuples replies tenantID asker n goal).getD [] ↔
      HasTuple tuples tenantID goal s := by
  unfold directSubjects HasTuple RelationTuple.key
  rw [if_neg (by rw [hup asker n]; simp), Option.getD_some, List.mem_map]
  constructor
  · rintro ⟨t, ht, rfl⟩
    have hmem := (replies.perm asker n _).mem_iff.mp ht
    rw [List.mem_filter, decide_eq_true_eq] at hmem
    obtain ⟨hrow, rfl, rfl⟩ := hmem
    exact ⟨t, hrow, rfl⟩
  · rintro ⟨t, hrow, hkey⟩
    obtain ⟨htenant, hgoal, hs⟩ : t.tenantID = tenantID ∧ t.goal = goal ∧ t.subject = s := by
      simpa using hkey
    refine ⟨t, (replies.perm asker n _).mem_iff.mpr ?_, hs⟩
    rw [List.mem_filter, decide_eq_true_eq]
    exact ⟨hrow, htenant, hgoal⟩

theorem mem_directAttempts_hit {s : String} : .hit ∈ directAttempts subject s ↔ s = subject := by
  unfold directAttempts
  by_cases hs : s = subject
  · simp [hs]
  · cases hname : groupName s <;> simp [hs]

theorem mem_directAttempts_visit {s : String} {g : Goal} :
    .visit g ∈ directAttempts subject s ↔
      s ≠ subject ∧ ∃ name, s = "group:" ++ name ∧ g = memberGoal name := by
  unfold directAttempts
  by_cases hs : s = subject
  · simp [hs]
  · rw [if_neg hs]
    cases hname : groupName s with
    | none =>
      have hno : ∀ name, s ≠ "group:" ++ name := by
        intro name h
        rw [groupName_eq_some.mpr h] at hname
        exact absurd hname (by simp)
      simp [hno]
    | some name =>
      obtain rfl := groupName_eq_some.mp hname
      constructor
      · intro h
        exact ⟨hs, name, rfl, Attempt.visit.inj (List.mem_singleton.mp h)⟩
      · rintro ⟨-, name', hname', rfl⟩
        have := groupName_eq_some.mpr hname'
        rw [hname] at this
        rw [Option.some.inj this]
        exact List.mem_singleton_self _

theorem mem_parentAttempts {rel parent : String} {t : Attempt Goal} :
    t ∈ parentAttempts rel parent ↔
      ∃ ns obj, ':' ∉ ns.toList ∧ parent = ns ++ ":" ++ obj ∧ t = .visit ⟨ns, obj, rel⟩ := by
  unfold parentAttempts
  cases hparts : parentParts parent with
  | none =>
    have hno : ∀ ns obj : String, ':' ∉ ns.toList → parent ≠ ns ++ ":" ++ obj := by
      intro ns obj hns h
      rw [h, parentParts_append hns] at hparts
      exact absurd hparts (by simp)
    constructor
    · exact fun h => absurd h (by simp)
    · rintro ⟨ns, obj, hns, h, -⟩
      exact absurd h (hno ns obj hns)
  | some parts =>
    obtain ⟨hns, hparent⟩ := parentParts_eq_some.mp hparts
    constructor
    · intro h
      exact ⟨parts.1, parts.2, hns, hparent, List.mem_singleton.mp h⟩
    · rintro ⟨ns, obj, hns', h, rfl⟩
      rw [h, parentParts_append hns'] at hparts
      obtain rfl := Option.some.inj hparts
      exact List.mem_singleton_self _

/-- The attempts at a goal are the ways it can follow. -/
theorem follow_goalAttempts (hup : replies.Answered) :
    Follow (goalAttempts (directSubjects tuples replies tenantID) subject)
      (fun g => HasTuple tuples tenantID g subject) (Leads tuples tenantID) where
  hit_iff := by
    intro goal
    constructor
    · intro h
      rcases List.mem_append.mp h with h | h
      · obtain ⟨s, hs, hhit⟩ := List.mem_flatMap.mp h
        rw [mem_directAttempts_hit] at hhit
        exact hhit ▸ (mem_directSubjects hup).mp hs
      rcases List.mem_append.mp h with h | h
      · obtain ⟨altRel, -, hhit⟩ := List.mem_flatMap.mp h
        exact absurd hhit (by simp)
      · obtain ⟨parent, -, hhit⟩ := List.mem_flatMap.mp h
        obtain ⟨ns, obj, -, -, hvisit⟩ := mem_parentAttempts.mp hhit
        exact absurd hvisit (by simp)
    · intro h
      exact List.mem_append_left _ (List.mem_flatMap.mpr
        ⟨subject, (mem_directSubjects hup).mpr h, mem_directAttempts_hit.mpr rfl⟩)
  of_visit := by
    intro goal goal' h
    rcases List.mem_append.mp h with h | h
    · obtain ⟨s, hs, hvisit⟩ := List.mem_flatMap.mp h
      obtain ⟨-, name, rfl, rfl⟩ := mem_directAttempts_visit.mp hvisit
      exact .group ((mem_directSubjects hup).mp hs)
    rcases List.mem_append.mp h with h | h
    · obtain ⟨altRel, halt, hvisit⟩ := List.mem_flatMap.mp h
      rw [Attempt.visit.inj (List.mem_singleton.mp hvisit)]
      exact .computed halt
    · obtain ⟨parent, hparent, hvisit⟩ := List.mem_flatMap.mp h
      obtain ⟨ns, obj, hns, rfl, hgoal⟩ := mem_parentAttempts.mp hvisit
      rw [Attempt.visit.inj hgoal]
      exact .parent hns ((mem_directSubjects hup).mp hparent)
  hit_or_visit := by
    intro goal goal' h
    cases h with
    | @group name h =>
      -- a group that is itself the subject is a direct match
      by_cases hs : "group:" ++ name = subject
      · exact .inl (hs ▸ h)
      · exact .inr (List.mem_append_left _ (List.mem_flatMap.mpr
          ⟨_, (mem_directSubjects hup).mpr h, mem_directAttempts_visit.mpr ⟨hs, name, rfl, rfl⟩⟩))
    | computed h =>
      exact .inr (List.mem_append_right _ (List.mem_append_left _ (List.mem_flatMap.mpr
        ⟨_, h, List.mem_singleton_self _⟩)))
    | parent hns h =>
      exact .inr (List.mem_append_right _ (List.mem_append_right _ (List.mem_flatMap.mpr
        ⟨_, (mem_directSubjects hup).mpr h, mem_parentAttempts.mpr ⟨_, _, hns, rfl, rfl⟩⟩)))

end Follow

theorem check_allowed_iff {tuples : TupleTable} {replies : Replies} {req : CheckRequest} :
    (check (some tuples) replies req).allowed = true ↔
      (search (visitedKey req.subject)
        (goalAttempts (directSubjects tuples replies req.tenantID) req.subject) req.depth req.goal
        []).1 = true := by
  unfold check
  simp only [checkRecursive_eq_search]
  split
  · rename_i h
    exact ⟨fun _ => h, fun _ => rfl⟩
  · rename_i h
    exact ⟨fun h' => absurd h' (by simp), fun h' => absurd h' h⟩

/-- What `Check` allows has a derivation within the depth. -/
theorem derivable_of_check {tuples : TupleTable} {replies : Replies} (hup : replies.Answered)
    {req : CheckRequest} (h : (check (some tuples) replies req).allowed = true) :
    Derivable tuples req.tenantID req.subject req.depth req.goal :=
  derivable_iff_finds.mpr (finds_of_search (follow_goalAttempts hup) (check_allowed_iff.mp h))

-- ---------------------------------------------------------------------------
-- A limited depth
-- ---------------------------------------------------------------------------

/-- If the goal has a derivation within the depth, it has one that the search cannot miss:
whichever way it comes to a goal of the derivation, the rest of the derivation still fits. -/
def NoDetour (tuples : TupleTable) (req : CheckRequest) : Prop :=
  Derivable tuples req.tenantID req.subject req.depth req.goal →
    ∃ path, Finds (fun g => HasTuple tuples req.tenantID g req.subject)
        (Leads tuples req.tenantID) req.goal path ∧ path.length ≤ req.depth ∧
      DetoursFit (visitedKey req.subject) (fun g => HasTuple tuples req.tenantID g req.subject)
        (Leads tuples req.tenantID) req.depth req.goal path

namespace Sample

def tuple (n : Nat) (ns object relation subject : String) : RelationTuple :=
  ⟨BitVec.ofNat 128 n, 1#128, ns, object, relation, subject, n⟩

def viaSales : RelationTuple := tuple 1 "document" "report" "viewer" "group:sales"
def viaStaff : RelationTuple := tuple 2 "document" "report" "viewer" "group:staff"
def salesInStaff : RelationTuple := tuple 3 "group" "sales" "member" "group:staff"
def staffInAll : RelationTuple := tuple 4 "group" "staff" "member" "group:all"
def aliceInAll : RelationTuple := tuple 5 "group" "all" "member" "user:alice"

/-- Sales is part of staff, staff of all; both sales and staff can see the report. -/
def groups : TupleTable :=
  ⟨[viaSales, viaStaff, salesInStaff, staffInAll, aliceInAll], by decide⟩

def groupsWithoutSales : TupleTable :=
  ⟨[viaStaff, salesInStaff, staffInAll, aliceInAll], by decide⟩

def inOrder : Replies := ⟨fun _ _ => false, fun _ _ => id, fun _ _ _ => .refl _⟩

def backwards : Replies :=
  ⟨fun _ _ => false, fun _ _ => List.reverse, fun _ _ rows => rows.reverse_perm⟩

def aliceViews (maxDepth : Int) : CheckRequest :=
  ⟨1#128, "document", "report", "viewer", "user:alice", maxDepth⟩

end Sample

/-- The goals that can be reached from a goal by the rules. -/
def inReach (tuples : TupleTable) (tenantID : UUID) (goal : Goal) : Set Goal :=
  {g | Relation.ReflTransGen (Leads tuples tenantID) goal g}

/-- The objects a tuple's subject can stand for. -/
def subjectObjects (t : RelationTuple) : List (String × String) :=
  ((groupName t.subject).elim [] fun name => [("group", name)]) ++ (parentParts t.subject).toList

/-- A list that has all goals in reach. -/
def goalsAround (tuples : TupleTable) (goal : Goal) : List Goal :=
  ((goal.ns, goal.obj) :: tuples.rows.flatMap subjectObjects).flatMap fun object =>
    [goal.rel, "member", "viewer", "commenter", "editor", "owner"].map fun rel =>
      ⟨object.1, object.2, rel⟩

theorem mem_computedRelationsFor {permission altRel : String}
    (h : altRel ∈ computedRelationsFor permission) :
    altRel ∈ ["viewer", "commenter", "editor", "owner"] := by
  unfold computedRelationsFor at h
  split_ifs at h <;> simp only [List.mem_cons, List.not_mem_nil, or_false] at h ⊢ <;> tauto

section Reach

variable {tuples : TupleTable} {tenantID : UUID} {goal g g' : Goal}

theorem mem_goalsAround : g ∈ goalsAround tuples goal ↔
    (g.ns, g.obj) ∈ (goal.ns, goal.obj) :: tuples.rows.flatMap subjectObjects ∧
      g.rel ∈ [goal.rel, "member", "viewer", "commenter", "editor", "owner"] := by
  unfold goalsAround
  rw [List.mem_flatMap]
  constructor
  · rintro ⟨object, hobject, hg⟩
    obtain ⟨rel, hrel, rfl⟩ := List.mem_map.mp hg
    exact ⟨hobject, hrel⟩
  · rintro ⟨hobject, hrel⟩
    exact ⟨_, hobject, List.mem_map.mpr ⟨g.rel, hrel, rfl⟩⟩

theorem goalsAround_closed (hg : g ∈ goalsAround tuples goal) (h : Leads tuples tenantID g g') :
    g' ∈ goalsAround tuples goal := by
  obtain ⟨hobject, hrel⟩ := mem_goalsAround.mp hg
  have hsubject : ∀ {asked : Goal} {s : String} {object : String × String},
      HasTuple tuples tenantID asked s →
      object ∈ ((groupName s).elim [] fun name => [("group", name)]) ++ (parentParts s).toList →
      object ∈ (goal.ns, goal.obj) :: tuples.rows.flatMap subjectObjects := by
    rintro asked s object ⟨t, ht, hkey⟩ hmem
    obtain rfl : t.subject = s := congrArg (fun k => k.2.2) hkey
    exact List.mem_cons_of_mem _ (List.mem_flatMap.mpr ⟨t, ht, hmem⟩)
  cases h with
  | group h =>
    refine mem_goalsAround.mpr ⟨hsubject h (List.mem_append_left _ ?_), by simp [memberGoal]⟩
    rw [groupName_eq_some.mpr rfl]
    exact List.mem_singleton_self _
  | computed h =>
    exact mem_goalsAround.mpr ⟨hobject,
      List.mem_cons_of_mem _ (List.mem_cons_of_mem _ (mem_computedRelationsFor h))⟩
  | @parent ns obj hns h =>
    refine mem_goalsAround.mpr ⟨hsubject h (List.mem_append_right _ ?_), hrel⟩
    rw [parentParts_append hns]
    simp

/-- Only finitely many goals are in reach, cycles or not. -/
theorem inReach_finite (tuples : TupleTable) (tenantID : UUID) (goal : Goal) :
    (inReach tuples tenantID goal).Finite := by
  apply (List.finite_toSet (goalsAround tuples goal)).subset
  intro g hg
  have hstart : goal ∈ goalsAround tuples goal := mem_goalsAround.mpr ⟨by simp, by simp⟩
  exact reachable_of_closed (S := (· ∈ goalsAround tuples goal))
    (fun _ hg _ hleads => goalsAround_closed hg hleads) hstart hg

end Reach

/-- Names in which the separators of the visited keys can be found again. -/
structure Goal.Plain (goal : Goal) : Prop where
  ns  : ':' ∉ goal.ns.toList
  rel : '#' ∉ goal.rel.toList

theorem visitedKey_inj {subject : String} {g g' : Goal} (hg : g.Plain) (hg' : g'.Plain)
    (h : visitedKey subject g = visitedKey subject g') : g = g' := by
  have hchars : ∀ g : Goal, (visitedKey subject g).toList =
      (g.ns.toList ++ ':' :: (g.obj.toList ++ '#' :: g.rel.toList)) ++ ("@" ++ subject).toList := by
    intro g
    simp [visitedKey, String.toList_append]
  have hlists := congrArg String.toList h
  rw [hchars, hchars] at hlists
  obtain ⟨hns, hrest⟩ := Strings.append_cons_inj hg.ns hg'.ns (List.append_cancel_right hlists)
  -- the relation is what follows the last `#`
  have hreverse := congrArg List.reverse hrest
  simp only [List.reverse_append, List.reverse_cons, List.append_assoc, List.singleton_append]
    at hreverse
  obtain ⟨hrel, hobj⟩ :=
    Strings.append_cons_inj (by simpa using hg.rel) (by simpa using hg'.rel) hreverse
  cases g
  cases g'
  simp only [List.reverse_inj, String.toList_inj] at hns hrel hobj
  rw [hns, hrel, hobj]

/-- What follows from a plain goal is plain. -/
theorem Goal.Plain.leads {tuples : TupleTable} {tenantID : UUID} {g g' : Goal} (hg : g.Plain)
    (h : Leads tuples tenantID g g') : g'.Plain := by
  cases h with
  | group _ =>
    exact ⟨show ':' ∉ "group".toList by decide, show '#' ∉ "member".toList by decide⟩
  | computed h =>
    have hall : (["viewer", "commenter", "editor", "owner"].all fun r => '#' ∉ r.toList) = true := by
      decide
    have hrel := List.all_eq_true.mp hall _ (mem_computedRelationsFor h)
    exact ⟨hg.ns, by simpa using hrel⟩
  | parent hns _ => exact ⟨hns, hg.rel⟩

/-- Over tuples with plain names, what can be derived is plain. -/
theorem Goal.Plain.of_derivable {tuples : TupleTable} {tenantID : UUID} {subject : String}
    (hplain : ∀ t ∈ tuples, t.goal.Plain) {n : Nat} {goal : Goal}
    (h : Derivable tuples tenantID subject n goal) : goal.Plain := by
  have htuple : ∀ {asked : Goal} {s : String}, HasTuple tuples tenantID asked s →
      asked.Plain := by
    rintro asked s ⟨t, ht, hkey⟩
    obtain rfl : t.goal = asked := congrArg (fun k => k.2.1) hkey
    exact hplain t ht
  induction h with
  | direct h => exact htuple h
  | step h _ ih =>
    cases h with
    | group h => exact htuple h
    | computed h =>
      rename_i goal _ altRel
      refine ⟨ih.ns, fun hmem => ?_⟩
      -- only four relations include others
      have hfour : goal.rel ∈ ["can_view", "can_edit", "can_delete", "can_comment"] := by
        unfold computedRelationsFor at h
        split_ifs at h <;> simp_all
      have hall : (["can_view", "can_edit", "can_delete", "can_comment"].all fun r =>
          '#' ∉ r.toList) = true := by
        decide
      have hrel := List.all_eq_true.mp hall _ hfour
      exact absurd hmem (by simpa using hrel)
    | parent _ h => exact ⟨(htuple h).ns, ih.rel⟩

/-- **Check decides the least fixed point**: with plain names and a depth beyond the number of
goals in reach (which are finitely many), cycles included. -/
theorem check_iff_lfp {tuples : TupleTable} {replies : Replies} {req : CheckRequest}
    (hup : replies.Answered) (hplain : ∀ t ∈ tuples, t.goal.Plain)
    (hdepth : ((inReach tuples req.tenantID req.goal).ncard : Int) < req.maxDepth) :
    (inReach tuples req.tenantID req.goal).Finite ∧
      ((check (some tuples) replies req).allowed = true ↔
        req.goal ∈ (rules tuples req.tenantID req.subject).lfp) := by
  have hfinite := inReach_finite tuples req.tenantID req.goal
  refine ⟨hfinite, ?_⟩
  rw [← exists_derivable_iff_lfp]
  constructor
  · exact fun h => ⟨req.depth, derivable_of_check hup h⟩
  · rintro ⟨n, hderivable⟩
    have hstart := Goal.Plain.of_derivable hplain hderivable
    have hreach : ∀ g ∈ hfinite.toFinset, g.Plain := by
      intro g hg
      exact reachable_of_closed (fun _ ha _ h => ha.leads h) hstart (hfinite.mem_toFinset.mp hg)
    obtain ⟨path, hpath, -⟩ := derivable_iff_finds.mp hderivable
    have hcard : hfinite.toFinset.card ≤ req.depth := by
      rw [← Set.ncard_eq_toFinset_card _ hfinite, CheckRequest.depth, if_neg (by omega)]
      omega
    exact check_allowed_iff.mpr ((search_iff_of_card (follow_goalAttempts hup)
      (fun b hb => hfinite.mem_toFinset.mpr hb) hcard
      (fun b hb c hc => visitedKey_inj (hreach b hb) (hreach c hc))).mpr ⟨path, hpath⟩)

namespace Sample

/-- Sales and staff contain each other. -/
def circle : TupleTable :=
  ⟨[viaSales, salesInStaff, tuple 6 "group" "staff" "member" "group:sales",
    tuple 7 "group" "staff" "member" "user:alice"], by decide⟩

def aroundReport : List Goal :=
  [⟨"document", "report", "viewer"⟩, memberGoal "sales", memberGoal "staff"]

/-- Read off the attempts for a subject nobody has. -/
theorem aroundReport_closed :
    ∀ a ∈ aroundReport, ∀ b, Leads circle 1#128 a b → b ∈ aroundReport := by
  intro a ha b hleads
  have hnobody : ∀ t ∈ circle.rows, t.subject ≠ "" := by decide
  have hfollow : Follow (goalAttempts (directSubjects circle inOrder 1#128) "")
      (fun g => HasTuple circle 1#128 g "") (Leads circle 1#128) :=
    follow_goalAttempts fun _ _ => rfl
  have hattempts : (aroundReport.all fun a =>
      (goalAttempts (directSubjects circle inOrder 1#128) "" a).all fun t =>
        decide (t ∈ aroundReport.map Attempt.visit)) = true := by decide
  rcases hfollow.hit_or_visit a b hleads with ⟨t, ht, hkey⟩ | hvisit
  · exact absurd (congrArg (fun k => k.2.2) hkey) (hnobody t ht)
  · have hb := List.all_eq_true.mp (List.all_eq_true.mp hattempts a ha) _ hvisit
    obtain ⟨c, hc, hcb⟩ := List.mem_map.mp (of_decide_eq_true hb)
    rw [← Attempt.visit.inj hcb]
    exact hc

theorem inReach_circle (goal : Goal) (hgoal : goal ∈ aroundReport) :
    inReach circle 1#128 goal ⊆ {g | g ∈ aroundReport} := fun _ hg =>
  reachable_of_closed (S := (· ∈ aroundReport)) aroundReport_closed hgoal hg

end Sample

open Sample in
theorem check_iff_lfp_sample :
    (check (some circle) backwards (aliceViews 4)).allowed = true ↔
      (aliceViews 4).goal ∈ (rules circle 1#128 "user:alice").lfp := by
  have hplain : ∀ t ∈ circle, t.goal.Plain := by
    intro t ht
    have hall : ∀ t ∈ circle.rows, ':' ∉ t.goal.ns.toList ∧ '#' ∉ t.goal.rel.toList := by decide
    exact ⟨(hall t ht).1, (hall t ht).2⟩
  have hdepth : ((inReach circle 1#128 (aliceViews 4).goal).ncard : Int) < 4 := by
    have hle := Set.ncard_le_ncard (inReach_circle (aliceViews 4).goal (by decide))
      (List.finite_toSet aroundReport)
    have hcard : {g | g ∈ aroundReport}.ncard ≤ 3 := by
      rw [← List.coe_toFinset, Set.ncard_coe_finset]
      exact List.toFinset_card_le aroundReport
    omega
  have hup : backwards.Answered := fun _ _ => rfl
  exact (@check_iff_lfp circle backwards (aliceViews 4) hup hplain hdepth).2

end Ggid.Identity
