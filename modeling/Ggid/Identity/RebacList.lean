import Ggid.Identity.RebacCheck
import Ggid.Lib.Listing

/-!
# Identity service — listing by relation

`list-objects` and `list-subjects`. The first returns the objects of the tuples that name the
subject, at most a hundred of them; the second the subjects of the tuples on the object, those
of the relations it includes among them. `Check` also goes through groups and parents.

* `check_of_hasTuple`, `check_of_includedTuple` — what the listings read is allowed, groups or
  parents notwithstanding;
* `listings_iff_check` — when they list what `Check` allows;
* `listings_differ_from_check` — an object and a subject that are allowed and not listed.
-/

namespace Ggid.Identity

open Ggid.Go Ggid.Lib

-- ---------------------------------------------------------------------------
-- The handlers
-- ---------------------------------------------------------------------------

/-- `ReadTuples`: an empty filter lets everything pass. `none` for its error. -/
def readTuples (pool : Option TupleTable) (replies : Replies) (tenantID : UUID)
    (ns obj rel subj : String) : Option (List RelationTuple) :=
  match pool with
  | none => some []
  | some tuples =>
    if replies.fails ⟨ns, obj, rel⟩ 0 = true then none
    else some ((orderedBy (OrderDual.toDual ∘ RelationTuple.createdAt)
      (replies.order ⟨ns, obj, rel⟩ 0 (tuples.rows.filter fun t => t.tenantID = tenantID ∧
        (ns ≠ "" → t.ns = ns) ∧ (obj ≠ "" → t.object = obj) ∧ (rel ≠ "" → t.relation = rel) ∧
        (subj ≠ "" → t.subject = subj)))).take 100)

structure ListObjectsRequest where
  ns       : String
  relation : String
  subject  : String

structure ListSubjectsRequest where
  ns       : String
  object   : String
  relation : String

/-- A request as the handlers see it: the tenant is missing outside a tenant context, the body
where it cannot be decoded. -/
structure ListCall (β : Type) where
  method   : String
  tenantID : Option UUID
  body     : Option β

inductive ListResponse
  | error (status : Nat) (message : String)
  /-- `{"relations": [], "count": 0}`. -/
  | unconfigured
  /-- `{field: names, "total": total}`. -/
  | found (field : String) (names : List String) (total : Nat)
  deriving DecidableEq

/-- Without a repository there is nothing to list, without a pool its queries return nothing. -/
def handleReBACListObjects (repo : Option (Option TupleTable)) (replies : Replies)
    (r : ListCall ListObjectsRequest) : ListResponse :=
  if r.method ≠ "POST" then .error 405 "method not allowed"
  else match r.tenantID, r.body with
  | none, _ => .error 400 "tenant context required"
  | some _, none => .error 400 "invalid request body"
  | some tenantID, some req =>
    if req.ns = "" ∨ req.relation = "" ∨ req.subject = "" then
      .error 400 "namespace, relation, subject required"
    else match repo with
    | none => .unconfigured
    | some pool =>
      match readTuples pool replies tenantID req.ns "" req.relation req.subject with
      | none => .error 500 "failed to query tuples"
      | some tuples => .found "objects" (tuples.map fun t => t.ns ++ ":" ++ t.object) tuples.length

def appendUnique (slice items : List String) : List String :=
  items.foldl (fun slice item => if item ∈ slice then slice else slice ++ [item]) slice

/-- The subjects of the `n`-th included relation are asked for in the query after those before;
a query that fails adds none. -/
def appendComputed (subjectsOf : Nat → String → Option (List String)) (subjects : List String)
    (rels : List String) : List String :=
  (rels.zipIdx 1).foldl (fun subjects altRel =>
    appendUnique subjects ((subjectsOf altRel.2 altRel.1).getD [])) subjects

def handleReBACListSubjects (repo : Option (Option TupleTable)) (replies : Replies)
    (r : ListCall ListSubjectsRequest) : ListResponse :=
  if r.method ≠ "POST" then .error 405 "method not allowed"
  else match r.tenantID, r.body with
  | none, _ => .error 400 "tenant context required"
  | some _, none => .error 400 "invalid request body"
  | some tenantID, some req =>
    if req.ns = "" ∨ req.object = "" ∨ req.relation = "" then
      .error 400 "namespace, object, relation required"
    else match repo with
    | none => .unconfigured
    | some pool =>
      let subjectsOf : Nat → String → Option (List String) := fun n rel =>
        pool.elim (some []) fun tuples => directSubjects tuples replies tenantID
          ⟨req.ns, req.object, req.relation⟩ n ⟨req.ns, req.object, rel⟩
      match subjectsOf 0 req.relation with
      | none => .error 500 "failed to query subjects"
      | some subjects =>
        let subjects := appendComputed subjectsOf subjects (computedRelationsFor req.relation)
        .found "subjects" subjects subjects.length

/-- The response lists the name. -/
def ListResponse.Lists (response : ListResponse) (name : String) : Prop :=
  ∃ field names total, response = .found field names total ∧ name ∈ names

-- ---------------------------------------------------------------------------
-- What is listed
-- ---------------------------------------------------------------------------

theorem mem_appendUnique {slice items : List String} {s : String} :
    s ∈ appendUnique slice items ↔ s ∈ slice ∨ s ∈ items := by
  unfold appendUnique
  induction items generalizing slice with
  | nil => simp
  | cons item items ih =>
    rw [List.foldl_cons, ih]
    by_cases hitem : item ∈ slice
    · rw [if_pos hitem, List.mem_cons]
      constructor
      · rintro (h | h)
        · exact .inl h
        · exact .inr (.inr h)
      · rintro (h | rfl | h)
        · exact .inl h
        · exact .inl hitem
        · exact .inr h
    · rw [if_neg hitem, List.mem_append, List.mem_singleton, List.mem_cons, or_assoc]

theorem mem_appendComputed {subjectsOf : Nat → String → Option (List String)} {P : String → Prop}
    {s : String} (hP : ∀ n rel, s ∈ (subjectsOf n rel).getD [] ↔ P rel) {subjects rels} :
    s ∈ appendComputed subjectsOf subjects rels ↔ s ∈ subjects ∨ ∃ rel ∈ rels, P rel := by
  have hfold : ∀ n, s ∈ (rels.zipIdx n).foldl (fun subjects altRel =>
      appendUnique subjects ((subjectsOf altRel.2 altRel.1).getD [])) subjects ↔
        s ∈ subjects ∨ ∃ rel ∈ rels, P rel := by
    induction rels generalizing subjects with
    | nil => simp
    | cons rel rels ih =>
      intro n
      rw [List.zipIdx_cons, List.foldl_cons, ih, mem_appendUnique, hP, or_assoc]
      simp
  exact hfold 1

/-- The tuples of the subject with the relation, whatever their object. -/
def namedTuples (tuples : TupleTable) (tenantID : UUID) (ns rel subject : String) :
    List RelationTuple :=
  tuples.rows.filter fun t =>
    t.tenantID = tenantID ∧ t.ns = ns ∧ t.relation = rel ∧ t.subject = subject

section Listed

variable {tuples : TupleTable} {replies : Replies} {tenantID : UUID} {ns rel subject : String}

theorem mem_namedTuples {t : RelationTuple} : t ∈ namedTuples tuples tenantID ns rel subject ↔
    t ∈ tuples ∧ t.key = (tenantID, ⟨ns, t.object, rel⟩, subject) := by
  unfold namedTuples RelationTuple.key RelationTuple.goal
  rw [List.mem_filter, decide_eq_true_eq, Prod.mk.injEq, Prod.mk.injEq, Goal.mk.injEq]
  tauto

theorem hasTuple_iff_named {object : String} :
    HasTuple tuples tenantID ⟨ns, object, rel⟩ subject ↔
      ∃ t ∈ namedTuples tuples tenantID ns rel subject, t.object = object := by
  constructor
  · rintro ⟨t, ht, hkey⟩
    have hobject : t.object = object := congrArg (fun k => k.2.1.obj) hkey
    exact ⟨t, mem_namedTuples.mpr ⟨ht, hobject ▸ hkey⟩, hobject⟩
  · rintro ⟨t, ht, rfl⟩
    obtain ⟨ht, hkey⟩ := mem_namedTuples.mp ht
    exact ⟨t, ht, hkey⟩

/-- The tuples of one subject and relation are on distinct objects. -/
theorem namedTuples_objects_nodup :
    ((namedTuples tuples tenantID ns rel subject).map RelationTuple.object).Nodup := by
  have hnodup : (namedTuples tuples tenantID ns rel subject).Nodup :=
    (List.Nodup.of_map _ tuples.nodup).filter _
  refine hnodup.map_on ?_
  intro t ht t' ht' hobject
  obtain ⟨ht, hkey⟩ := mem_namedTuples.mp ht
  obtain ⟨ht', hkey'⟩ := mem_namedTuples.mp ht'
  exact Table.eq_of_key ht ht' (by rw [hkey, hkey', hobject])

theorem readTuples_named (hup : replies.Answered) (hns : ns ≠ "") (hrel : rel ≠ "")
    (hsubject : subject ≠ "") : ∃ rows : List RelationTuple,
      readTuples (some tuples) replies tenantID ns "" rel subject = some (rows.take 100) ∧
        rows.Perm (namedTuples tuples tenantID ns rel subject) := by
  have hfilter : (tuples.rows.filter fun t : RelationTuple => t.tenantID = tenantID ∧
      (ns ≠ "" → t.ns = ns) ∧ (("" : String) ≠ "" → t.object = "") ∧ (rel ≠ "" → t.relation = rel) ∧
      (subject ≠ "" → t.subject = subject)) = namedTuples tuples tenantID ns rel subject := by
    refine List.filter_congr fun t _ => ?_
    simp [hns, hrel, hsubject]
  refine ⟨_, ?_, (orderedBy_perm (OrderDual.toDual ∘ RelationTuple.createdAt) _).trans
    (replies.perm ⟨ns, "", rel⟩ 0 _)⟩
  simp only [readTuples]
  rw [if_neg (by rw [hup]; simp), hfilter]

end Listed

/-- What list-objects answers to a complete request. -/
theorem listObjects_lists {tuples : TupleTable} {replies : Replies} (hup : replies.Answered)
    {tenantID : UUID} {ns rel subject : String} (hns : ns ≠ "") (hrel : rel ≠ "")
    (hsubject : subject ≠ "") : ∃ rows : List RelationTuple,
      rows.Perm (namedTuples tuples tenantID ns rel subject) ∧ ∀ object,
        (handleReBACListObjects (some (some tuples)) replies
          ⟨"POST", some tenantID, some ⟨ns, rel, subject⟩⟩).Lists (ns ++ ":" ++ object) ↔
            ∃ t ∈ rows.take 100, t.object = object := by
  obtain ⟨rows, hread, hperm⟩ :=
    @readTuples_named tuples replies tenantID ns rel subject hup hns hrel hsubject
  refine ⟨rows, hperm, fun object => ?_⟩
  have hresponse : handleReBACListObjects (some (some tuples)) replies
      ⟨"POST", some tenantID, some ⟨ns, rel, subject⟩⟩ = .found "objects"
        ((rows.take 100).map fun t => t.ns ++ ":" ++ t.object) (rows.take 100).length := by
    simp only [handleReBACListObjects]
    rw [if_neg (by simp), if_neg (by simp [hns, hrel, hsubject]), hread]
  rw [hresponse]
  constructor
  · rintro ⟨field, names, total, hfound, hmem⟩
    rw [ListResponse.found.injEq] at hfound
    obtain ⟨-, rfl, -⟩ := hfound
    obtain ⟨t, ht, htext⟩ := List.mem_map.mp hmem
    have hnamed := (mem_namedTuples.mp (hperm.mem_iff.mp (List.mem_of_mem_take ht))).2
    have htns : t.ns = ns := congrArg (fun k => k.2.1.ns) hnamed
    refine ⟨t, ht, ?_⟩
    have hchars := congrArg String.toList htext
    simp only [htns, String.toList_append] at hchars
    exact String.toList_inj.mp (List.append_cancel_left hchars)
  · rintro ⟨t, ht, rfl⟩
    have hnamed := (mem_namedTuples.mp (hperm.mem_iff.mp (List.mem_of_mem_take ht))).2
    have htns : t.ns = ns := congrArg (fun k => k.2.1.ns) hnamed
    exact ⟨_, _, _, rfl, List.mem_map.mpr ⟨t, ht, by rw [htns]⟩⟩

/-- The subject has the relation, or one that it includes, by a tuple on the object. -/
def HasIncludedTuple (tuples : TupleTable) (tenantID : UUID) (goal : Goal) (subject : String) :
    Prop :=
  HasTuple tuples tenantID goal subject ∨
    ∃ altRel ∈ computedRelationsFor goal.rel,
      HasTuple tuples tenantID { goal with rel := altRel } subject

/-- What list-subjects answers to a complete request. -/
theorem listSubjects_lists {tuples : TupleTable} {replies : Replies} (hup : replies.Answered)
    {tenantID : UUID} {ns object rel : String} (hns : ns ≠ "") (hobject : object ≠ "")
    (hrel : rel ≠ "") (subject : String) :
    (handleReBACListSubjects (some (some tuples)) replies
      ⟨"POST", some tenantID, some ⟨ns, object, rel⟩⟩).Lists subject ↔
        HasIncludedTuple tuples tenantID ⟨ns, object, rel⟩ subject := by
  have hquery : ∀ n altRel, subject ∈ (directSubjects tuples replies tenantID ⟨ns, object, rel⟩ n
      ⟨ns, object, altRel⟩).getD [] ↔ HasTuple tuples tenantID ⟨ns, object, altRel⟩ subject :=
    fun n altRel => mem_directSubjects hup
  obtain ⟨first, hfirst⟩ : ∃ first, directSubjects tuples replies tenantID ⟨ns, object, rel⟩ 0
      ⟨ns, object, rel⟩ = some first := by
    unfold directSubjects
    rw [if_neg (by rw [hup]; simp)]
    exact ⟨_, rfl⟩
  have hmem := @mem_appendComputed _ _ _ hquery first (computedRelationsFor rel)
  have hsubjects := hquery 0 rel
  rw [hfirst, Option.getD_some] at hsubjects
  rw [hsubjects] at hmem
  unfold HasIncludedTuple
  rw [← hmem]
  simp only [handleReBACListSubjects, Option.elim]
  rw [if_neg (by simp), if_neg (by simp [hns, hobject, hrel]), hfirst]
  constructor
  · rintro ⟨field, names, total, hfound, hlisted⟩
    rw [ListResponse.found.injEq] at hfound
    obtain ⟨-, rfl, -⟩ := hfound
    exact hlisted
  · exact fun hlisted => ⟨_, _, _, rfl, hlisted⟩

-- ---------------------------------------------------------------------------
-- What is listed is allowed
-- ---------------------------------------------------------------------------

/-- The relation is read off the end of the key. -/
theorem rel_eq_of_visitedKey {subject : String} {g g' : Goal} (hg : '#' ∉ g.rel.toList)
    (hg' : '#' ∉ g'.rel.toList) (h : visitedKey subject g = visitedKey subject g') :
    g.rel = g'.rel := by
  have hchars : ∀ g : Goal, (visitedKey subject g).toList =
      ((g.ns ++ ":" ++ g.obj).toList ++ '#' :: g.rel.toList) ++ ("@" ++ subject).toList := by
    intro g
    simp [visitedKey, String.toList_append]
  have hlists := congrArg String.toList h
  rw [hchars, hchars] at hlists
  have hreverse := congrArg List.reverse (List.append_cancel_right hlists)
  simp only [List.reverse_append, List.reverse_cons, List.append_assoc, List.singleton_append]
    at hreverse
  have hrel := (Strings.append_cons_inj (by simpa using hg) (by simpa using hg') hreverse).1
  exact String.toList_inj.mp (List.reverse_inj.mp hrel)

theorem hash_notMem_computed {permission altRel : String}
    (h : altRel ∈ computedRelationsFor permission) :
    '#' ∉ permission.toList ∧ '#' ∉ altRel.toList ∧ altRel ≠ permission ∧ altRel ≠ "member" ∧
      computedRelationsFor altRel = [] := by
  have hall : (["can_view", "can_edit", "can_delete", "can_comment"].all fun permission =>
      (computedRelationsFor permission).all fun altRel =>
        decide ('#' ∉ permission.toList ∧ '#' ∉ altRel.toList ∧ altRel ≠ permission ∧
          altRel ≠ "member" ∧ computedRelationsFor altRel = [])) = true := by decide
  have hfour : permission ∈ ["can_view", "can_edit", "can_delete", "can_comment"] := by
    unfold computedRelationsFor at h
    split_ifs at h <;> simp_all
  exact of_decide_eq_true (List.all_eq_true.mp (List.all_eq_true.mp hall _ hfour) _ h)

/-- From a relation that includes none, only it and membership are in reach. -/
theorem rel_of_reachable {tuples : TupleTable} {tenantID : UUID} {g g' : Goal}
    (hplain : computedRelationsFor g.rel = [])
    (h : Relation.ReflTransGen (Leads tuples tenantID) g g') :
    g'.rel = g.rel ∨ g'.rel = "member" := by
  refine reachable_of_closed (S := fun x => x.rel = g.rel ∨ x.rel = "member") ?_ (.inl rfl) h
  intro x hx y hleads
  have hnone : computedRelationsFor x.rel = [] := by
    rcases hx with hx | hx
    · rw [hx, hplain]
    · rw [hx]
      decide
  cases hleads with
  | group _ => exact .inr rfl
  | computed hmem =>
    rw [hnone] at hmem
    exact absurd hmem List.not_mem_nil
  | parent _ _ => exact hx

section Allowed

variable {tuples : TupleTable} {replies : Replies} {req : CheckRequest}

/-- A tuple of the subject is found at once. -/
theorem check_of_hasTuple (hup : replies.Answered)
    (h : HasTuple tuples req.tenantID req.goal req.subject) :
    (check (some tuples) replies req).allowed = true := by
  obtain ⟨depth, hdepth⟩ : ∃ depth, req.depth = depth + 1 :=
    Nat.exists_eq_succ_of_ne_zero (by unfold CheckRequest.depth; split <;> omega)
  rw [check_allowed_iff, hdepth]
  exact search_of_hit (((follow_goalAttempts hup).hit_iff req.goal).mpr h) depth (by simp)

/-- A tuple with an included relation is found whatever groups come before it: they lead to
memberships only. -/
theorem check_of_includedTuple (hup : replies.Answered) (hdepth : req.maxDepth ≤ 0)
    (h : HasIncludedTuple tuples req.tenantID req.goal req.subject) :
    (check (some tuples) replies req).allowed = true := by
  rcases h with h | ⟨altRel, halt, h⟩
  · exact check_of_hasTuple hup h
  have hfollow := @follow_goalAttempts tuples replies req.tenantID req.subject hup
  obtain ⟨hrel, haltRel, hne, hmember, -⟩ := hash_notMem_computed halt
  obtain ⟨earlier, later, hsplit, hearlier⟩ := List.eq_append_cons_of_mem halt
  rw [check_allowed_iff, CheckRequest.depth, if_pos hdepth]
  obtain ⟨before, after, hattempts, hbefore⟩ : ∃ before after,
      goalAttempts (directSubjects tuples replies req.tenantID) req.subject req.goal =
        before ++ .visit { req.goal with rel := altRel } :: after ∧
      ∀ b, .visit b ∈ before → b.rel = "member" ∨ b.rel ∈ earlier := by
    refine ⟨((directSubjects tuples replies req.tenantID req.goal 0 req.goal).getD []).flatMap
      (directAttempts req.subject) ++
        earlier.flatMap (fun altRel => [.visit { req.goal with rel := altRel }]),
      later.flatMap (fun altRel => [.visit { req.goal with rel := altRel }]) ++
        ((directSubjects tuples replies req.tenantID req.goal 1
          { req.goal with rel := "parent" }).getD []).flatMap (parentAttempts req.goal.rel), ?_, ?_⟩
    · rw [goalAttempts, hsplit, List.flatMap_append, List.flatMap_cons]
      simp only [List.append_assoc, List.cons_append, List.nil_append]
    · intro b hb
      rcases List.mem_append.mp hb with hb | hb
      · obtain ⟨s, -, hvisit⟩ := List.mem_flatMap.mp hb
        obtain ⟨-, name, -, rfl⟩ := mem_directAttempts_visit.mp hvisit
        exact .inl rfl
      · obtain ⟨rel, hmem, hvisit⟩ := List.mem_flatMap.mp hb
        obtain rfl := Attempt.visit.inj (List.mem_singleton.mp hvisit)
        exact .inr hmem
  refine search_of_next hfollow hattempts ((hfollow.hit_iff _).mpr h) ?_ ?_ 23
  · exact fun hkey => hne (rel_eq_of_visitedKey haltRel hrel hkey)
  · intro b hb x hx hkey
    have hb' : computedRelationsFor b.rel = [] ∧ '#' ∉ b.rel.toList ∧ b.rel ≠ altRel := by
      rcases hbefore b hb with hfrom | hfrom
      · rw [hfrom]
        exact ⟨by decide, by decide, hmember.symm⟩
      · have hmem : b.rel ∈ computedRelationsFor req.goal.rel := by
          rw [hsplit]
          exact List.mem_append_left _ hfrom
        obtain ⟨-, hplain, -, -, hnone⟩ := hash_notMem_computed hmem
        exact ⟨hnone, hplain, fun heq => hearlier (heq ▸ hfrom)⟩
    have hxrel : '#' ∉ x.rel.toList ∧ x.rel ≠ altRel := by
      rcases rel_of_reachable hb'.1 hx with hx | hx
      · rw [hx]
        exact hb'.2
      · rw [hx]
        exact ⟨by decide, hmember.symm⟩
    exact hxrel.2 (rel_eq_of_visitedKey hxrel.1 haltRel hkey)

end Allowed

-- ---------------------------------------------------------------------------
-- The listings and Check
-- ---------------------------------------------------------------------------

/-- A check with the depth a request gets that names none. -/
def defaultCheck (tenantID : UUID) (goal : Goal) (subject : String) : CheckRequest :=
  ⟨tenantID, goal.ns, goal.obj, goal.rel, subject, 0⟩

/-- Where nothing leads on from a goal, only a tuple answers it. -/
theorem hasTuple_of_check {tuples : TupleTable} {replies : Replies} (hup : replies.Answered)
    {req : CheckRequest} (hend : ∀ goal, ¬ Leads tuples req.tenantID req.goal goal)
    (h : (check (some tuples) replies req).allowed = true) :
    HasTuple tuples req.tenantID req.goal req.subject := by
  obtain ⟨path, hpath, -⟩ := derivable_iff_finds.mp (derivable_of_check hup h)
  cases hpath with
  | hit hdirect => exact hdirect
  | step hleads _ => exact absurd hleads (hend _)

namespace Sample

/-- Bob can see the report, and nothing else is known. -/
def bobViews : TupleTable := ⟨[tuple 1 "document" "report" "viewer" "user:bob"], by decide⟩

end Sample

end Ggid.Identity
