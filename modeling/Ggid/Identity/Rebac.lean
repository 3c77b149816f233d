import Ggid.Go.Strings
import Ggid.Go.Value
import Ggid.Lib.DepthFirst
import Ggid.Lib.Table
import Mathlib.Order.FixedPoints
import Mathlib.Order.CompletePartialOrder

/-!
# Identity service — relation tuples

`relationTupleRepo`: the tuples, the statements on them, and `Check`, a depth-first search
over *goals*: does the subject have relation `rel` on object `ns:obj`? A tuple answers a goal
directly; membership in a group, a relation that includes another and the parent of an object
lead from a goal to further goals.

No query but the listing has an order, so `Replies` lets every query return its rows in an
order of its own, or fail.

What the search is for is stated apart from it, by the four rules (`Derivable`, with the
height of the derivation) and by the operator they make on sets of goals (`rules`).

* `checkRecursive_eq_search` — the source's recursion is the search of `Lib.DepthFirst`;
* `derivable_iff_finds`      — derivations are paths of the graph it searches;
* `exists_derivable_iff_lfp` — what can be derived is the least fixed point of the rules.
-/

namespace Ggid.Identity

open Ggid.Go Ggid.Lib

-- ---------------------------------------------------------------------------
-- Tuples
-- ---------------------------------------------------------------------------

/-- What a check asks of its subject. -/
structure Goal where
  ns  : String
  obj : String
  rel : String
  deriving DecidableEq

structure RelationTuple where
  id        : UUID
  tenantID  : UUID
  ns        : String
  object    : String
  relation  : String
  subject   : String
  createdAt : Time
  deriving DecidableEq

/-- The goal the tuple answers for its subject. -/
def RelationTuple.goal (t : RelationTuple) : Goal := ⟨t.ns, t.object, t.relation⟩

/-- `UNIQUE (tenant_id, namespace, object, relation, subject)`. -/
def RelationTuple.key (t : RelationTuple) : UUID × Goal × String := (t.tenantID, t.goal, t.subject)

abbrev TupleTable := Table RelationTuple.key

/-- The subject has the relation by a tuple of its own. -/
def HasTuple (tuples : TupleTable) (tenantID : UUID) (goal : Goal) (subject : String) : Prop :=
  ∃ t ∈ tuples, t.key = (tenantID, goal, subject)

/-- `WriteTuple`: `ON CONFLICT DO NOTHING`. `newID` is what `uuid.New` draws. -/
def writeTuple (tuples : TupleTable) (newID : UUID) (t : RelationTuple) : TupleTable :=
  (tuples.insert? { t with id := if t.id = UUID.nil then newID else t.id }).getD tuples

def deleteTuple (tuples : TupleTable) (tenantID : UUID) (goal : Goal) (subject : String) :
    TupleTable :=
  tuples.delete fun t => t.key = (tenantID, goal, subject)

/-- How the database answers the queries of one check: the `n`-th query made for the goal
`asker` fails, or returns its rows in some order. -/
structure Replies where
  fails : Goal → Nat → Bool
  order : Goal → Nat → List RelationTuple → List RelationTuple
  perm  : ∀ asker n rows, (order asker n rows).Perm rows

/-- No query fails. -/
def Replies.Answered (replies : Replies) : Prop := ∀ asker n, replies.fails asker n = false

/-- `DirectSubjects`; `none` for its error. -/
def directSubjects (tuples : TupleTable) (replies : Replies) (tenantID : UUID) (asker : Goal)
    (n : Nat) (goal : Goal) : Option (List String) :=
  if replies.fails asker n = true then none
  else some ((replies.order asker n
    (tuples.rows.filter fun t => t.tenantID = tenantID ∧ t.goal = goal)).map RelationTuple.subject)

-- ---------------------------------------------------------------------------
-- Check
-- ---------------------------------------------------------------------------

structure CheckRequest where
  tenantID : UUID
  ns       : String
  object   : String
  relation : String
  subject  : String
  maxDepth : Int
  deriving DecidableEq

def CheckRequest.goal (req : CheckRequest) : Goal := ⟨req.ns, req.object, req.relation⟩

structure CheckResponse where
  allowed : Bool
  reason  : String
  deriving DecidableEq

def computedRelationsFor (permission : String) : List String :=
  if permission = "can_view" then ["viewer", "commenter", "editor", "owner"]
  else if permission = "can_edit" then ["editor", "owner"]
  else if permission = "can_delete" then ["owner"]
  else if permission = "can_comment" then ["commenter", "editor", "owner"]
  else []

/-- The key of a goal in `visited`. -/
def visitedKey (subject : String) (goal : Goal) : String :=
  goal.ns ++ ":" ++ goal.obj ++ "#" ++ goal.rel ++ "@" ++ subject

/-- The name behind `group:`, for a subject that is a group. -/
def groupName (s : String) : Option String :=
  if Strings.hasPrefix s.toList "group:".toList then some (String.ofList (s.toList.drop 6))
  else none

/-- `strings.SplitN(parent, ":", 2)`, if it has two parts. -/
def parentParts (parent : String) : Option (String × String) :=
  if ':' ∈ parent.toList then
    some (String.ofList (parent.toList.takeWhile (· ≠ ':')),
      String.ofList ((parent.toList.dropWhile (· ≠ ':')).drop 1))
  else none

/-- The goal on a group a subject of the object may be a member of. -/
def memberGoal (name : String) : Goal := ⟨"group", name, "member"⟩

/-- `visited` is threaded through. `db asker n goal` are the subjects the `n`-th query for the
goal `asker` returns. -/
def checkRecursive (db : Goal → Nat → Goal → Option (List String)) (subject : String) :
    Nat → Goal → List String → Bool × List String
  | 0, _, visited => (false, visited)
  | depth + 1, goal, visited =>
    if visitedKey subject goal ∈ visited then (false, visited)
    else
      -- 1. direct match, or a group the subject is a member of
      orElse (tryEach (fun s visited =>
          if s = subject then (true, visited)
          else (groupName s).elim (false, visited) fun name =>
            checkRecursive db subject depth (memberGoal name) visited)
        ((db goal 0 goal).getD []) (visitedKey subject goal :: visited)) fun visited =>
      -- 2. computed permissions
      orElse (tryEach (fun altRel visited =>
          checkRecursive db subject depth { goal with rel := altRel } visited)
        (computedRelationsFor goal.rel) visited) fun visited =>
      -- 3. parents
      tryEach (fun parent visited =>
          (parentParts parent).elim (false, visited) fun parts =>
            checkRecursive db subject depth ⟨parts.1, parts.2, goal.rel⟩ visited)
        ((db goal 1 { goal with rel := "parent" }).getD []) visited

/-- `MaxDepth`, or its default. -/
def CheckRequest.depth (req : CheckRequest) : Nat :=
  if req.maxDepth ≤ 0 then 25 else req.maxDepth.toNat

/-- `Check`; the pool is `nil` where no database is configured. -/
def check (pool : Option TupleTable) (replies : Replies) (req : CheckRequest) : CheckResponse :=
  match pool with
  | none => ⟨false, "ReBAC not configured (no DB)"⟩
  | some tuples =>
    if (checkRecursive (directSubjects tuples replies req.tenantID) req.subject req.depth req.goal
        []).1 = true then ⟨true, ""⟩
    else ⟨false, "no matching relationship found"⟩

-- ---------------------------------------------------------------------------
-- The recursion is a search
-- ---------------------------------------------------------------------------

/-- What the first loop makes of a subject. -/
def directAttempts (subject s : String) : List (Attempt Goal) :=
  if s = subject then [.hit]
  else (groupName s).elim [] fun name => [.visit (memberGoal name)]

/-- What the third loop makes of a parent. -/
def parentAttempts (rel parent : String) : List (Attempt Goal) :=
  (parentParts parent).elim [] fun parts => [.visit ⟨parts.1, parts.2, rel⟩]

def goalAttempts (db : Goal → Nat → Goal → Option (List String)) (subject : String) (goal : Goal) :
    List (Attempt Goal) :=
  ((db goal 0 goal).getD []).flatMap (directAttempts subject) ++
    ((computedRelationsFor goal.rel).flatMap (fun altRel => [.visit { goal with rel := altRel }]) ++
      ((db goal 1 { goal with rel := "parent" }).getD []).flatMap (parentAttempts goal.rel))

theorem checkRecursive_eq_search (db : Goal → Nat → Goal → Option (List String)) (subject : String)
    (depth : Nat) (goal : Goal) (visited : List String) :
    checkRecursive db subject depth goal visited =
      search (visitedKey subject) (goalAttempts db subject) depth goal visited := by
  induction depth generalizing goal visited with
  | zero => rfl
  | succ depth ih =>
    have hgo : search (visitedKey subject) (goalAttempts db subject) depth =
        checkRecursive db subject depth := by
      funext goal visited
      exact (ih goal visited).symm
    have hdirect : ∀ s, tryEach (Attempt.run (checkRecursive db subject depth))
        (directAttempts subject s) = fun visited =>
          if s = subject then (true, visited)
          else (groupName s).elim (false, visited) fun name =>
            checkRecursive db subject depth (memberGoal name) visited := by
      intro s
      funext visited
      unfold directAttempts
      by_cases hs : s = subject
      · rw [if_pos hs, if_pos hs, tryEach_singleton]
        rfl
      · rw [if_neg hs, if_neg hs]
        cases groupName s with
        | none => rfl
        | some name => exact tryEach_singleton _ _ _
    have hparent : ∀ parent, tryEach (Attempt.run (checkRecursive db subject depth))
        (parentAttempts goal.rel parent) = fun visited =>
          (parentParts parent).elim (false, visited) fun parts =>
            checkRecursive db subject depth ⟨parts.1, parts.2, goal.rel⟩ visited := by
      intro parent
      funext visited
      unfold parentAttempts
      cases parentParts parent with
      | none => rfl
      | some parts => exact tryEach_singleton _ _ _
    have hcomputed : ∀ altRel : String, tryEach (Attempt.run (checkRecursive db subject depth))
        [.visit { goal with rel := altRel }] = fun visited =>
          checkRecursive db subject depth { goal with rel := altRel } visited := by
      intro altRel
      funext visited
      exact tryEach_singleton _ _ _
    rw [checkRecursive, search]
    by_cases hseen : visitedKey subject goal ∈ visited
    · rw [if_pos hseen, if_pos hseen]
    · rw [if_neg hseen, if_neg hseen, goalAttempts, tryEach_append, hgo, tryEach_flatMap]
      simp only [hdirect]
      congr 1
      funext visited
      rw [tryEach_append, tryEach_flatMap]
      simp only [hcomputed]
      congr 1
      funext visited
      rw [tryEach_flatMap]
      simp only [hparent]

-- ---------------------------------------------------------------------------
-- The rules
-- ---------------------------------------------------------------------------

/-- A goal follows from another one: by membership in a group, by a relation that includes
another, or from the parent of the object. -/
inductive Leads (tuples : TupleTable) (tenantID : UUID) : Goal → Goal → Prop
  | group {goal : Goal} {name : String} (h : HasTuple tuples tenantID goal ("group:" ++ name)) :
      Leads tuples tenantID goal (memberGoal name)
  | computed {goal : Goal} {altRel : String} (h : altRel ∈ computedRelationsFor goal.rel) :
      Leads tuples tenantID goal { goal with rel := altRel }
  | parent {goal : Goal} {ns obj : String} (hns : ':' ∉ ns.toList)
      (h : HasTuple tuples tenantID { goal with rel := "parent" } (ns ++ ":" ++ obj)) :
      Leads tuples tenantID goal ⟨ns, obj, goal.rel⟩

/-- The goal has a derivation of at most this height. -/
inductive Derivable (tuples : TupleTable) (tenantID : UUID) (subject : String) : Nat → Goal → Prop
  | direct {n : Nat} {goal : Goal} (h : HasTuple tuples tenantID goal subject) :
      Derivable tuples tenantID subject (n + 1) goal
  | step {n : Nat} {goal goal' : Goal} (h : Leads tuples tenantID goal goal')
      (premise : Derivable tuples tenantID subject n goal') :
      Derivable tuples tenantID subject (n + 1) goal

/-- The goals that follow from a set of goals by one rule. -/
def rules (tuples : TupleTable) (tenantID : UUID) (subject : String) : Set Goal →o Set Goal where
  toFun goals := {goal | HasTuple tuples tenantID goal subject ∨
    ∃ goal' ∈ goals, Leads tuples tenantID goal goal'}
  monotone' := by
    rintro goals goals' hle goal (hdirect | ⟨goal', hgoal', hleads⟩)
    · exact .inl hdirect
    · exact .inr ⟨goal', hle hgoal', hleads⟩

section Rules

variable {tuples : TupleTable} {tenantID : UUID} {subject : String}

/-- Derivations are paths. -/
theorem derivable_iff_finds {n : Nat} {goal : Goal} :
    Derivable tuples tenantID subject n goal ↔
      ∃ path, Finds (fun g => HasTuple tuples tenantID g subject) (Leads tuples tenantID) goal path ∧
        path.length ≤ n := by
  constructor
  · intro h
    induction h with
    | direct h => exact ⟨[_], .hit h, by simp⟩
    | step h _ ih =>
      obtain ⟨path, hpath, hlen⟩ := ih
      exact ⟨_ :: path, .step h hpath, by simpa using hlen⟩
  · rintro ⟨path, hpath, hlen⟩
    induction hpath generalizing n with
    | hit h =>
      obtain ⟨n, rfl⟩ := Nat.exists_eq_succ_of_ne_zero (show n ≠ 0 by simp at hlen; omega)
      exact .direct h
    | step h _ ih =>
      rw [List.length_cons] at hlen
      obtain ⟨n, rfl⟩ := Nat.exists_eq_succ_of_ne_zero (show n ≠ 0 by omega)
      exact .step h (ih (by omega))

/-- What has a derivation is the least fixed point of the rules. -/
theorem exists_derivable_iff_lfp {goal : Goal} :
    (∃ n, Derivable tuples tenantID subject n goal) ↔
      goal ∈ (rules tuples tenantID subject).lfp := by
  constructor
  · rintro ⟨n, h⟩
    induction h with
    | direct h =>
      rw [← OrderHom.map_lfp]
      exact .inl h
    | step h _ ih =>
      rw [← OrderHom.map_lfp]
      exact .inr ⟨_, ih, h⟩
  · have hle : (rules tuples tenantID subject).lfp ≤
        {g | ∃ n, Derivable tuples tenantID subject n g} := by
      apply OrderHom.lfp_le
      rintro g (hdirect | ⟨g', ⟨n, hg'⟩, hleads⟩)
      · exact ⟨1, .direct hdirect⟩
      · exact ⟨n + 1, .step hleads hg'⟩
    exact fun h => hle h

theorem HasTuple.mono {tuples' : TupleTable} (hsub : ∀ t ∈ tuples, t ∈ tuples') {goal : Goal}
    {s : String} (h : HasTuple tuples tenantID goal s) : HasTuple tuples' tenantID goal s := by
  obtain ⟨t, ht, hkey⟩ := h
  exact ⟨t, hsub t ht, hkey⟩

/-- More tuples, more derivations. -/
theorem Derivable.mono {tuples' : TupleTable} (hsub : ∀ t ∈ tuples, t ∈ tuples') {n : Nat}
    {goal : Goal} (h : Derivable tuples tenantID subject n goal) :
    Derivable tuples' tenantID subject n goal := by
  induction h with
  | direct h => exact .direct (h.mono hsub)
  | step h _ ih =>
    refine .step ?_ ih
    cases h with
    | group h => exact .group (h.mono hsub)
    | computed h => exact .computed h
    | parent hns h => exact .parent hns (h.mono hsub)

end Rules

end Ggid.Identity
