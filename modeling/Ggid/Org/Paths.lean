import Ggid.Lib.Framing
import Ggid.Org.References

/-!
# Org service — paths

A node's path is its parent's path and its own id, so the nodes below a root are those whose paths
extend the root's. A move gives a new path to the node and to its children, but not to the nodes
below these.

* `tree_of_paths`    — with such paths, `GetOrgTree` returns a node and what is below it;
* `paths_move_iff`   — one move;
* `paths_kept_iff`   — when the paths stay right: where a node that gets another parent has no
  grandchildren.
-/

namespace Ggid.Org

open Ggid.Go Ggid.Lib

namespace OrgHierarchy

/-- Below the top, a path is the path of the parent and the id, and so is the level. -/
def PathsOk (orgs : OrgTable) : Prop :=
  ∀ k n, orgs.find? k = some n → n.parentID ≠ "" → ∃ p, orgs.find? n.parentID = some p ∧
    n.path = p.path ++ "/" ++ k ∧ n.level = p.level + 1

/-- The tree of a node is the node and all that is below it, each of them once. -/
def TreesOk (s : OrgHierarchy) : Prop :=
  ∀ range r, (s.orgs.find? r).isSome → (s.getOrgTree range r).Nodup ∧
    ∀ n, n ∈ s.getOrgTree range r ↔
      n ∈ s.orgs ∧ Relation.ReflTransGen (Below s.orgs) n.orgID r

def Ordered (s : OrgHierarchy) : Prop := PathsOk s.orgs ∧ TreesOk s

/-- A move that passes the checks names a parent that is there; and the node keeps its parent, or
its children have no children. -/
def KeepsPaths (s : OrgHierarchy) : OrgCall → Prop
  | .moveOrg _ target newParentID => s.Moves target newParentID →
    (newParentID ≠ "" → (s.orgs.find? newParentID).isSome) ∧
      ((s.orgs.find? target).map OrgNode.parentID = some newParentID ∨
        ∀ child grandchild, Below s.orgs child target → ¬ Below s.orgs grandchild child)
  | .createOrg .. | .deleteOrg _ => True

/-- What holds whatever is moved: at the top, a path is the id. -/
structure Formed (s : OrgHierarchy) : Prop where
  generated : s.Generated
  rooted    : Rooted s.orgs
  top       : ∀ k n, s.orgs.find? k = some n → n.parentID = "" → n.path = "/" ++ k ∧ n.level = 0

variable {s : OrgHierarchy} {k : String} {n : OrgNode}

theorem find_orgID {orgs : OrgTable} (h : orgs.find? k = some n) : n.orgID = k :=
  (Table.find?_eq_some_iff.mp h).2

theorem Formed.slash_not_mem (h : Formed s) (hn : s.orgs.find? k = some n) : '/' ∉ k.toList := by
  obtain ⟨hmem, rfl⟩ := Table.find?_eq_some_iff.mp hn
  obtain ⟨seq, -, hseq⟩ := h.generated n hmem
  rw [hseq]
  exact slash_not_mem_orgID seq

-- ---------------------------------------------------------------------------
-- Paths
-- ---------------------------------------------------------------------------

/-- What a path has before its last slash: nothing, or the path of the parent. -/
theorem path_toList (h : Formed s) (hpaths : PathsOk s.orgs) (hn : s.orgs.find? k = some n) :
    ∃ front, n.path.toList = front ++ '/' :: k.toList ∧ (n.parentID = "" ∧ front = [] ∨
      n.parentID ≠ "" ∧ ∃ p, s.orgs.find? n.parentID = some p ∧ front = p.path.toList) := by
  by_cases hroot : n.parentID = ""
  · refine ⟨[], ?_, .inl ⟨hroot, rfl⟩⟩
    rw [(h.top k n hn hroot).1, String.toList_append]
    rfl
  · obtain ⟨p, hp, hpath, -⟩ := hpaths k n hn hroot
    refine ⟨p.path.toList, ?_, .inr ⟨hroot, p, hp, rfl⟩⟩
    rw [hpath, String.toList_append, String.toList_append, List.append_assoc]
    rfl

/-- What comes behind the last slash, and what before. -/
theorem append_slash_inj {xs xs' : List Char} {a b : String} (ha : '/' ∉ a.toList)
    (hb : '/' ∉ b.toList) (h : xs ++ '/' :: a.toList = xs' ++ '/' :: b.toList) :
    xs = xs' ∧ a = b := by
  obtain ⟨hfront, hid⟩ := append_last_separator_inj ha hb h
  exact ⟨hfront, String.toList_inj.mp hid⟩

/-- **A path has one node.** -/
theorem path_injective (h : Formed s) (hpaths : PathsOk s.orgs) {k' : String} {n' : OrgNode}
    (hn : s.orgs.find? k = some n) (hn' : s.orgs.find? k' = some n') (heq : n.path = n'.path) :
    k = k' := by
  obtain ⟨front, hfront, -⟩ := path_toList h hpaths hn
  obtain ⟨front', hfront', -⟩ := path_toList h hpaths hn'
  rw [heq, hfront'] at hfront
  exact (append_slash_inj (h.slash_not_mem hn') (h.slash_not_mem hn) hfront).2.symm

theorem path_length_lt (h : Formed s) (hpaths : PathsOk s.orgs) (hn : s.orgs.find? k = some n)
    {p : OrgNode} (hp : s.orgs.find? n.parentID = some p) (hne : n.parentID ≠ "") :
    p.path.toList.length < n.path.toList.length := by
  obtain ⟨front, hfront, ⟨hroot, -⟩ | ⟨-, q, hq, rfl⟩⟩ := path_toList h hpaths hn
  · exact absurd hroot hne
  · rw [hp, Option.some.injEq] at hq
    rw [hfront, hq, List.length_append, List.length_cons]
    omega

theorem acyclic_of_paths (h : Formed s) (hpaths : PathsOk s.orgs) : Acyclic (Below s.orgs) := by
  refine Acyclic.of_rank (fun a => ((s.orgs.find? a).map fun n => n.path.toList.length).getD 0)
    fun a b hab => ?_
  obtain ⟨n, hn, hparent, hne⟩ := below_iff.mp hab
  rw [← hparent] at hne
  obtain ⟨p, hp, -⟩ := hpaths a n hn hne
  rw [← hparent, hn, hp]
  exact path_length_lt h hpaths hn hp hne

-- ---------------------------------------------------------------------------
-- Trees
-- ---------------------------------------------------------------------------

/-- The test of `GetOrgTree`. -/
def extendsPath (root n : OrgNode) : Bool :=
  Strings.hasPrefix n.path.toList (root.path ++ "/").toList

theorem extendsPath_iff {root : OrgNode} :
    extendsPath root n = true ↔ ∃ rest, n.path.toList = root.path.toList ++ '/' :: rest := by
  unfold extendsPath Strings.hasPrefix
  rw [List.isPrefixOf_iff_prefix, String.toList_append]
  constructor
  · rintro ⟨rest, hrest⟩
    exact ⟨rest, by rw [← hrest, List.append_assoc]; rfl⟩
  · rintro ⟨rest, hrest⟩
    exact ⟨rest, by rw [hrest, List.append_assoc]; rfl⟩

variable {r : String} {root : OrgNode}

/-- A longer path is that of a node below. -/
theorem reaches_of_extends (h : Formed s) (hpaths : PathsOk s.orgs)
    (hroot : s.orgs.find? r = some root) (hn : s.orgs.find? k = some n)
    (hextends : extendsPath root n = true) : Relation.ReflTransGen (Below s.orgs) k r := by
  -- by the length of the path, along the parents
  induction hlength : n.path.toList.length using Nat.strong_induction_on generalizing k n with
  | _ length ih =>
    obtain ⟨rest, hrest⟩ := extendsPath_iff.mp hextends
    obtain ⟨front, hfront, hparent⟩ := path_toList h hpaths hn
    obtain ⟨first, hfirst⟩ := h.rooted r root hroot
    rw [hfront] at hrest
    have hslash := h.slash_not_mem hn
    have hlonger : root.path.toList.length ≤ front.length := by
      by_contra hshort
      have hprefix : root.path.toList <+: front ++ '/' :: k.toList := ⟨'/' :: rest, hrest.symm⟩
      obtain ⟨tail, htail⟩ : front <+: root.path.toList :=
        List.prefix_of_prefix_length_le (List.prefix_append front _) hprefix (by omega)
      rw [← htail, List.append_assoc] at hrest
      cases tail with
      | nil =>
        rw [List.append_nil] at htail
        rw [htail] at hshort
        exact hshort (le_refl _)
      | cons c tail =>
        have hk := (List.cons.inj (List.append_cancel_left hrest)).2
        exact hslash (hk ▸ List.mem_append_right tail List.mem_cons_self)
    rcases hparent with ⟨-, rfl⟩ | ⟨hne, p, hp, rfl⟩
    · rw [hfirst] at hlonger
      exact absurd hlonger (by simp)
    refine .head (below_iff.mpr ⟨n, hn, rfl, hne⟩) ?_
    rcases Nat.eq_or_lt_of_le hlonger with heq | hlt
    · obtain ⟨hsame, -⟩ := List.append_inj hrest heq.symm
      rw [path_injective h hpaths hp hroot (String.toList_inj.mp hsame)]
    · refine ih p.path.toList.length ?_ hp (extendsPath_iff.mpr ?_) rfl
      · rw [← hlength]
        exact path_length_lt h hpaths hn hp hne
      · obtain ⟨tail, htail⟩ : root.path.toList <+: p.path.toList :=
          List.prefix_of_prefix_length_le (List.prefix_append _ ('/' :: rest))
            (hrest ▸ List.prefix_append _ _) hlonger
        rw [← htail, List.append_assoc] at hrest
        cases tail with
        | nil => rw [List.append_nil] at htail; rw [htail] at hlt; exact absurd hlt (lt_irrefl _)
        | cons c tail =>
          obtain ⟨rfl, -⟩ := List.cons.inj (List.append_cancel_left hrest)
          exact ⟨tail, htail.symm⟩

/-- A node below has a longer path. -/
theorem extends_of_reaches (h : Formed s) (hpaths : PathsOk s.orgs)
    (hroot : s.orgs.find? r = some root) (hn : s.orgs.find? k = some n)
    (hreach : Relation.ReflTransGen (Below s.orgs) k r) : k = r ∨ extendsPath root n = true := by
  induction hreach using Relation.ReflTransGen.head_induction_on generalizing n with
  | refl => exact .inl rfl
  | head hab _ ih =>
    obtain ⟨m, hm, hparent, hne⟩ := below_iff.mp hab
    rw [hn, Option.some.injEq] at hm
    subst hm
    obtain ⟨front, hfront, ⟨htop, -⟩ | ⟨-, p, hp, rfl⟩⟩ := path_toList h hpaths hn
    · exact absurd (hparent.symm.trans htop) hne
    rw [hparent] at hp
    right
    rcases ih hp with rfl | hextends
    · rw [hroot, Option.some.injEq] at hp
      exact extendsPath_iff.mpr ⟨_, hp ▸ hfront⟩
    · obtain ⟨rest, hrest⟩ := extendsPath_iff.mp hextends
      exact extendsPath_iff.mpr ⟨_, by rw [hfront, hrest, List.append_assoc]; rfl⟩

theorem mem_ranged {range : MapRange} : n ∈ s.ranged range ↔ n ∈ s.orgs := by
  unfold ranged
  rw [List.mem_filterMap]
  constructor
  · rintro ⟨id, -, hid⟩
    exact (Table.find?_eq_some_iff.mp hid).1
  · intro hn
    refine ⟨n.orgID, ?_, Table.find?_eq_some_iff.mpr ⟨hn, rfl⟩⟩
    rw [(range.perm _).mem_iff]
    exact List.mem_map_of_mem hn

theorem ranged_nodup (s : OrgHierarchy) (range : MapRange) : (s.ranged range).Nodup := by
  refine List.Nodup.filterMap ?_ ((range.perm _).nodup_iff.mpr s.orgs.nodup)
  intro a b n ha hb
  rw [Option.mem_def, Table.find?_eq_some_iff] at ha hb
  exact ha.2.symm.trans hb.2

/-- **With such paths, `GetOrgTree`** returns a node and what is below it. -/
theorem tree_of_paths (h : Formed s) (hpaths : PathsOk s.orgs) : TreesOk s := by
  intro range r hr
  obtain ⟨root, hroot⟩ := Option.isSome_iff_exists.mp hr
  obtain ⟨hmem, hid⟩ := Table.find?_eq_some_iff.mp hroot
  have htree : s.getOrgTree range r =
      root :: (s.ranged range).filter fun n => n.orgID ≠ r && extendsPath root n := by
    unfold getOrgTree
    rw [hroot]
    rfl
  rw [htree]
  constructor
  · refine List.nodup_cons.mpr ⟨fun hagain => ?_, (ranged_nodup s range).filter _⟩
    have hkept := (List.mem_filter.mp hagain).2
    simp [hid] at hkept
  · intro n
    rw [List.mem_cons, List.mem_filter, mem_ranged]
    constructor
    · rintro (rfl | ⟨hn, hkept⟩)
      · exact ⟨hmem, hid ▸ .refl⟩
      · rw [Bool.and_eq_true] at hkept
        have hfind : s.orgs.find? n.orgID = some n := Table.find?_eq_some_iff.mpr ⟨hn, rfl⟩
        exact ⟨hn, reaches_of_extends h hpaths hroot hfind hkept.2⟩
    · rintro ⟨hn, hreach⟩
      have hfind : s.orgs.find? n.orgID = some n := Table.find?_eq_some_iff.mpr ⟨hn, rfl⟩
      by_cases hsame : n.orgID = r
      · rw [hsame, hroot, Option.some.injEq] at hfind
        exact .inl hfind.symm
      · refine .inr ⟨hn, ?_⟩
        rcases extends_of_reaches h hpaths hroot hfind hreach with heq | hextends
        · exact absurd heq hsame
        · simp [hsame, hextends]

-- ---------------------------------------------------------------------------
-- What holds whatever is moved
-- ---------------------------------------------------------------------------

section Move

variable {range : MapRange} {target newParentID : String} {level : Int} {path : String}

/-- A node after a move that settles. -/
def settled (target newParentID : String) (level : Int) (path : String) (n : OrgNode) : OrgNode :=
  if n.orgID = target then { n with parentID := newParentID, level, path }
  else if n.parentID = target then
    { n with level := level + 1, path := path ++ "/" ++ n.orgID }
  else n

theorem Placement.rooted (h : s.Placement target newParentID level path) (hrooted : Rooted s.orgs) :
    ∃ rest, path.toList = '/' :: rest := by
  rcases h with ⟨-, -, rfl⟩ | ⟨-, parent, hparent, -, rfl⟩
  · exact ⟨target.toList, by rw [String.toList_append]; rfl⟩
  · obtain ⟨rest, hrest⟩ := hrooted newParentID parent hparent
    exact ⟨rest ++ ("/".toList ++ target.toList), by simp [String.toList_append, hrest]⟩

/-- **A move that settles** changes the node and its children. -/
theorem find_moveOrg (h : Formed s) (hmoves : s.Moves target newParentID)
    (hnamed : newParentID ≠ "" → (s.orgs.find? newParentID).isSome) :
    ∃ level path, s.Placement target newParentID level path ∧
      ∀ k, (s.moveOrg range target newParentID).1.orgs.find? k =
        (s.orgs.find? k).map (settled target newParentID level path) := by
  obtain ⟨level, path, hplace, hmove⟩ := @moveOrg_settles s target newParentID range hmoves hnamed
  refine ⟨level, path, hplace, fun k => ?_⟩
  obtain ⟨node, hnode⟩ := Option.isSome_iff_exists.mp hmoves.1
  have hplaced : ∀ k, (place (s.relinked target newParentID) target level path).find? k =
      (s.orgs.find? k).map fun n =>
        if n.orgID = target then { n with parentID := newParentID, level, path } else n := by
    intro k
    rw [find_place, find_relinked, Option.map_map]
    congr 1
    funext n
    by_cases hid : n.orgID = target <;> simp [hid]
  have hrooted : Rooted (place (s.relinked target newParentID) target level path) := by
    intro k n hn
    rw [hplaced] at hn
    obtain ⟨m, hm, rfl⟩ := Option.map_eq_some_iff.mp hn
    split_ifs
    · exact hplace.rooted h.rooted
    · exact h.rooted k m hm
  have htarget := hplaced target
  rw [hnode, Option.map_some, if_pos (find_orgID hnode)] at htarget
  rw [hmove, settle]
  dsimp only
  rw [find_updateChildren hrooted (h.generated.plain hmoves.1) htarget hmoves.2.1, hplaced,
    Option.map_map]
  congr 1
  funext n
  unfold settled
  by_cases hid : n.orgID = target
  · simp [hid, hmoves.2.1]
  · simp [hid, underParent]

theorem Formed.createOrg (h : Formed s) (name parentID : String) :
    Formed (s.createOrg name parentID).1 := by
  have hgenerated := h.generated.step (.createOrg name parentID)
  rw [step_createOrg] at hgenerated
  refine ⟨hgenerated, ?_, ?_⟩
  · rcases createOrg_cases s name parentID with ⟨-, -, hcreate⟩ | ⟨level, path, hplace, hcreate, -⟩
    · rw [hcreate]
      exact h.rooted
    · rw [hcreate]
      intro k n hn
      rw [Table.find?_put] at hn
      split_ifs at hn
      · rw [Option.some.injEq] at hn
        exact hn ▸ hplace.rooted h.rooted
      · exact h.rooted k n hn
  · rcases createOrg_cases s name parentID with ⟨-, -, hcreate⟩ | ⟨level, path, hplace, hcreate, -⟩
    · rw [hcreate]
      exact h.top
    · rw [hcreate]
      intro k n hn htop
      rw [Table.find?_put] at hn
      split_ifs at hn with hk
      · rw [Option.some.injEq] at hn
        subst hn
        rcases hplace with ⟨-, rfl, rfl⟩ | ⟨hne, -⟩
        · exact ⟨by rw [hk], rfl⟩
        · exact absurd htop hne
      · exact h.top k n hn htop

theorem Formed.moveOrg (h : Formed s) : Formed (s.moveOrg range target newParentID).1 := by
  have hgenerated := h.generated.step (.moveOrg range target newParentID)
  rw [step_moveOrg] at hgenerated
  by_cases hmoves : s.Moves target newParentID
  · by_cases hnamed : newParentID ≠ "" → (s.orgs.find? newParentID).isSome
    · obtain ⟨level, path, hplace, hfind⟩ :=
        @find_moveOrg s range target newParentID h hmoves hnamed
      refine ⟨hgenerated, fun k n hn => ?_, fun k n hn htop => ?_⟩
      · rw [hfind] at hn
        obtain ⟨m, hm, rfl⟩ := Option.map_eq_some_iff.mp hn
        obtain ⟨rest, hrest⟩ := hplace.rooted h.rooted
        unfold settled
        split_ifs
        · exact ⟨rest, hrest⟩
        · exact ⟨rest ++ ("/".toList ++ m.orgID.toList), by simp [String.toList_append, hrest]⟩
        · exact h.rooted k m hm
      · rw [hfind] at hn
        obtain ⟨m, hm, rfl⟩ := Option.map_eq_some_iff.mp hn
        have hid := find_orgID hm
        unfold settled at htop ⊢
        split_ifs at htop ⊢ with htarget hchild
        · rcases hplace with ⟨-, rfl, rfl⟩ | ⟨hne, -⟩
          · exact ⟨by rw [← htarget, hid], rfl⟩
          · exact absurd htop hne
        · exact absurd (hchild.symm.trans htop) (h.generated.plain hmoves.1).1
        · exact h.top k m hm htop
    · push Not at hnamed
      have hmissing : s.orgs.find? newParentID = none := by simpa using hnamed.2
      rw [moveOrg_missing hmoves hnamed.1 hmissing] at hgenerated ⊢
      refine ⟨hgenerated, fun k n hn => ?_, fun k n hn htop => ?_⟩
      · rw [find_relinked] at hn
        obtain ⟨m, hm, rfl⟩ := Option.map_eq_some_iff.mp hn
        split_ifs <;> exact h.rooted k m hm
      · rw [find_relinked] at hn
        obtain ⟨m, hm, rfl⟩ := Option.map_eq_some_iff.mp hn
        split_ifs at htop ⊢
        · exact absurd htop hnamed.1
        · exact h.top k m hm htop
  · rw [(moveOrg_refused hmoves).1]
    exact h

theorem Formed.deleteOrg (h : Formed s) (id : String) : Formed (s.deleteOrg id).1 := by
  have hgenerated := h.generated.step (.deleteOrg id)
  rw [step_deleteOrg] at hgenerated
  rcases deleteOrg_cases s id with ⟨hsame, -⟩ | ⟨-, hdelete⟩
  · rw [hsame]
    exact h
  · rw [hdelete] at hgenerated ⊢
    exact ⟨hgenerated, fun k n hn => h.rooted k n (Table.find?_delete_eq_some hn).1,
      fun k n hn => h.top k n (Table.find?_delete_eq_some hn).1⟩

theorem Formed.step (h : Formed s) (call : OrgCall) : Formed (s.step call) := by
  cases call with
  | createOrg name parentID => exact h.createOrg name parentID
  | moveOrg range target newParentID => exact h.moveOrg
  | deleteOrg id => exact h.deleteOrg id

theorem formed_empty : Formed empty where
  generated := generated_empty
  rooted := fun _ _ hnone => by cases hnone
  top := fun _ _ hnone => by cases hnone

end Move

-- ---------------------------------------------------------------------------
-- The paths after a call
-- ---------------------------------------------------------------------------

theorem PathsOk.createOrg (h : Formed s) (hpaths : PathsOk s.orgs) (name parentID : String) :
    PathsOk (s.createOrg name parentID).1.orgs := by
  rcases createOrg_cases s name parentID with ⟨-, -, hcreate⟩ | ⟨level, path, hplace, hcreate, -⟩
  · rw [hcreate]
    exact hpaths
  rw [hcreate]
  have hput := Table.find?_put s.orgs ⟨orgID (s.seq + 1), parentID, name, level, path⟩
  -- the id is new, so nothing found before is replaced
  have hkept : ∀ {k p}, s.orgs.find? k = some p →
      (s.orgs.put ⟨orgID (s.seq + 1), parentID, name, level, path⟩).find? k = some p := by
    intro k p hp
    rw [hput, if_neg, hp]
    intro hk
    rw [hk, h.generated.fresh] at hp
    cases hp
  intro k n hn hne
  rw [hput] at hn
  split_ifs at hn with hk
  · rw [Option.some.injEq] at hn
    subst hn
    rcases hplace with ⟨hroot, -⟩ | ⟨-, parent, hparent, rfl, rfl⟩
    · exact absurd hroot hne
    · exact ⟨parent, hkept hparent, by rw [hk], rfl⟩
  · obtain ⟨p, hp, hpath⟩ := hpaths k n hn hne
    exact ⟨p, hkept hp, hpath⟩

theorem PathsOk.deleteOrg (hpaths : PathsOk s.orgs) (id : String) :
    PathsOk (s.deleteOrg id).1.orgs := by
  rcases deleteOrg_cases s id with ⟨hsame, -⟩ | ⟨hchildless, hdelete⟩
  · rw [hsame]
    exact hpaths
  rw [hdelete]
  intro k n hn hne
  have hbefore := (Table.find?_delete_eq_some hn).1
  obtain ⟨p, hp, hpath⟩ := hpaths k n hbefore hne
  obtain ⟨hmem, hid⟩ := Table.find?_eq_some_iff.mp hp
  have hspared : p.orgID ≠ id := by
    rw [hid]
    exact hchildless n (Table.find?_eq_some_iff.mp hbefore).1
  exact ⟨p, Table.find?_eq_some_iff.mpr ⟨Table.mem_delete.mpr ⟨hmem, decide_eq_false hspared⟩, hid⟩,
    hpath⟩

section Move

variable {range : MapRange} {target newParentID : String} {level : Int} {path : String}
  {node : OrgNode}

theorem settled_target (hid : n.orgID = target) :
    settled target newParentID level path n = { n with parentID := newParentID, level, path } :=
  if_pos hid

theorem settled_child (hid : n.orgID ≠ target) (hchild : n.parentID = target) :
    settled target newParentID level path n =
      { n with level := level + 1, path := path ++ "/" ++ n.orgID } := by
  rw [settled, if_neg hid, if_pos hchild]

theorem settled_other (hid : n.orgID ≠ target) (hother : n.parentID ≠ target) :
    settled target newParentID level path n = n := by
  rw [settled, if_neg hid, if_neg hother]

/-- The place of a node is the one it has, if its parent is the new one. -/
theorem Placement.eq_of_parent (h : Formed s) (hpaths : PathsOk s.orgs)
    (hplace : s.Placement target newParentID level path) (hnode : s.orgs.find? target = some node)
    (hsame : node.parentID = newParentID) : node.level = level ∧ node.path = path := by
  rcases hplace with ⟨hroot, rfl, rfl⟩ | ⟨hne, parent, hparent, rfl, rfl⟩
  · exact (h.top target node hnode (hsame.trans hroot)).symm
  · obtain ⟨p, hp, hpath, hlevel⟩ := hpaths target node hnode (hsame ▸ hne)
    rw [hsame, hparent, Option.some.injEq] at hp
    exact ⟨hp ▸ hlevel, hp ▸ hpath⟩

/-- And its parent is the new one, if its path is. -/
theorem Placement.parent_of_eq (h : Formed s) (hpaths : PathsOk s.orgs)
    (hplace : s.Placement target newParentID level path) (hnode : s.orgs.find? target = some node)
    (hsame : node.path = path) : node.parentID = newParentID := by
  have hslash := h.slash_not_mem hnode
  obtain ⟨front, hfront, hparent⟩ := path_toList h hpaths hnode
  rcases hplace with ⟨hroot, -, rfl⟩ | ⟨-, parent, hfind, -, rfl⟩
  · have hpath : node.path.toList = [] ++ '/' :: target.toList := by
      rw [hsame, String.toList_append]
      rfl
    rw [hfront] at hpath
    obtain ⟨rfl, -⟩ := append_slash_inj hslash hslash hpath
    rcases hparent with ⟨htop, -⟩ | ⟨-, p, hp, hempty⟩
    · exact htop.trans hroot.symm
    · obtain ⟨rest, hrest⟩ := h.rooted _ p hp
      rw [← hempty] at hrest
      cases hrest
  · have hpath : node.path.toList = parent.path.toList ++ '/' :: target.toList := by
      rw [hsame, String.toList_append, String.toList_append, List.append_assoc]
      rfl
    rw [hfront] at hpath
    obtain ⟨rfl, -⟩ := append_slash_inj hslash hslash hpath
    rcases hparent with ⟨-, hempty⟩ | ⟨-, p, hp, heq⟩
    · obtain ⟨rest, hrest⟩ := h.rooted _ parent hfind
      rw [hempty] at hrest
      cases hrest
    · exact path_injective h hpaths hp hfind (String.toList_inj.mp heq.symm) ▸ rfl

/-- A move to the same parent changes nothing. -/
theorem settled_eq_self (h : Formed s) (hpaths : PathsOk s.orgs)
    (hplace : s.Placement target newParentID level path) (hnode : s.orgs.find? target = some node)
    (hsame : node.parentID = newParentID) (hn : s.orgs.find? k = some n) :
    settled target newParentID level path n = n := by
  obtain ⟨hlevel, hpath⟩ := hplace.eq_of_parent h hpaths hnode hsame
  have hid := find_orgID hn
  by_cases htarget : n.orgID = target
  · rw [← hid, htarget, hnode, Option.some.injEq] at hn
    subst hn
    rw [settled_target htarget, ← hsame, ← hlevel, ← hpath]
  · by_cases hchild : n.parentID = target
    · rw [settled_child htarget hchild, ← hlevel, ← hpath]
      have hne : n.parentID ≠ "" := by
        rw [hchild]
        exact (h.generated.plain (hnode ▸ rfl)).1
      obtain ⟨p, hp, hchildPath, hchildLevel⟩ := hpaths k n hn hne
      rw [hchild, hnode, Option.some.injEq] at hp
      subst hp
      rw [hid, ← hchildPath, ← hchildLevel, ← hid]
    · exact settled_other htarget hchild

/-- **One move** to a parent that is there: a node that gets another parent must have no
grandchildren. -/
theorem paths_move_iff (h : Formed s) (hpaths : PathsOk s.orgs)
    (hmoves : s.Moves target newParentID)
    (hnamed : newParentID ≠ "" → (s.orgs.find? newParentID).isSome) :
    PathsOk (s.moveOrg range target newParentID).1.orgs ↔
      (s.orgs.find? target).map OrgNode.parentID = some newParentID ∨
        ∀ child grandchild, Below s.orgs child target → ¬ Below s.orgs grandchild child := by
  obtain ⟨level, path, hplace, hfind⟩ := @find_moveOrg s range target newParentID h hmoves hnamed
  obtain ⟨node, hnode⟩ := Option.isSome_iff_exists.mp hmoves.1
  have hacyclic := acyclic_of_paths h hpaths
  rw [hnode, Option.map_some, Option.some.injEq]
  constructor
  · intro hafter
    by_contra hbroken
    push Not at hbroken
    obtain ⟨hother, child, grandchild, hchild, hgrandchild⟩ := hbroken
    obtain ⟨c, hc, hcParent, hcNe⟩ := below_iff.mp hchild
    obtain ⟨g, hg, hgParent, hgNe⟩ := below_iff.mp hgrandchild
    have hcTarget : child ≠ target := fun heq => hacyclic target (.single (heq ▸ hchild))
    have hgTarget : grandchild ≠ target := fun heq =>
      hacyclic target (.head (heq ▸ hgrandchild) (.single hchild))
    -- the grandchild keeps its path, which is that of the child before and after
    have hgAfter : (s.moveOrg range target newParentID).1.orgs.find? grandchild = some g := by
      rw [hfind, hg, Option.map_some, settled_other]
      · rwa [find_orgID hg]
      · rwa [hgParent]
    obtain ⟨c', hc', hbefore, -⟩ := hpaths grandchild g hg (hgParent ▸ hgNe)
    obtain ⟨c'', hc'', hmoved, -⟩ := hafter grandchild g hgAfter (hgParent ▸ hgNe)
    rw [hgParent, hc, Option.some.injEq] at hc'
    rw [hgParent, hfind, hc, Option.map_some, Option.some.injEq,
      settled_child ((find_orgID hc).symm ▸ hcTarget) hcParent] at hc''
    subst hc' hc''
    rw [hbefore, String.append_left_inj, String.append_left_inj] at hmoved
    obtain ⟨p, hp, hcPath, -⟩ := hpaths child c hc (hcParent ▸ hcNe)
    rw [hcParent, hnode, Option.some.injEq] at hp
    subst hp
    rw [hcPath, find_orgID hc, String.append_left_inj, String.append_left_inj] at hmoved
    exact hother (hplace.parent_of_eq h hpaths hnode hmoved)
  · rintro (hsame | hchildless)
    · have hall : ∀ k, (s.moveOrg range target newParentID).1.orgs.find? k = s.orgs.find? k := by
        intro k
        rw [hfind]
        cases hk : s.orgs.find? k with
        | none => rfl
        | some n => rw [Option.map_some, settled_eq_self h hpaths hplace hnode hsame hk]
      intro k n hn hne
      rw [hall] at hn
      rw [hall]
      exact hpaths k n hn hne
    · intro k n' hn' hne
      rw [hfind] at hn'
      obtain ⟨n, hn, rfl⟩ := Option.map_eq_some_iff.mp hn'
      have hid := find_orgID hn
      by_cases htarget : n.orgID = target
      · rw [settled_target htarget] at hne ⊢
        dsimp only at hne ⊢
        rcases hplace with ⟨hroot, -⟩ | ⟨-, parent, hparent, rfl, rfl⟩
        · exact absurd hroot hne
        have hpid := find_orgID hparent
        -- the new parent is not below the node
        have hkept : settled target newParentID (parent.level + 1) (parent.path ++ "/" ++ target)
            parent = parent := by
          refine settled_other (hpid ▸ hmoves.2.1) fun hchild => ?_
          refine hmoves.not_above h.generated hne (.single (below_iff.mpr ⟨parent, hparent, hchild,
            (h.generated.plain hmoves.1).1⟩))
        refine ⟨parent, ?_, by rw [← hid, htarget], rfl⟩
        rw [hfind, hparent, Option.map_some, hkept]
      · by_cases hchild : n.parentID = target
        · rw [settled_child htarget hchild] at hne ⊢
          dsimp only at hne ⊢
          rw [hchild, hfind, hnode, Option.map_some, settled_target (find_orgID hnode), hid]
          exact ⟨_, rfl, rfl, rfl⟩
        · rw [settled_other htarget hchild] at hne ⊢
          obtain ⟨p, hp, hpath⟩ := hpaths k n hn hne
          have hkept : settled target newParentID level path p = p := by
            refine settled_other (find_orgID hp ▸ hchild) fun hgrandchild => ?_
            exact hchildless n.parentID k
              (below_iff.mpr ⟨p, hp, hgrandchild, (h.generated.plain hmoves.1).1⟩)
              (below_iff.mpr ⟨n, hn, rfl, hne⟩)
          refine ⟨p, ?_, hpath⟩
          rw [hfind, hp, Option.map_some, hkept]

/-- A move to a parent that is missing leaves a node without a parent. -/
theorem not_paths_missing (hmoves : s.Moves target newParentID) (hne : newParentID ≠ "")
    (hmissing : s.orgs.find? newParentID = none) :
    ¬ PathsOk (s.moveOrg range target newParentID).1.orgs := by
  intro hpaths
  obtain ⟨n, hn, hparent⟩ := Option.map_eq_some_iff.mp
    ((@parentID_moveOrg s target newParentID range hmoves target).trans (if_pos rfl))
  obtain ⟨p, hp, -⟩ := hpaths target n hn (hparent ▸ hne)
  have hsome := congrArg Option.isSome hp
  rw [isSome_moveOrg, hparent, hmissing] at hsome
  cases hsome

end Move

/-- **One call** on a hierarchy with such paths. -/
theorem paths_step_iff (h : Formed s) (hpaths : PathsOk s.orgs) (call : OrgCall) :
    PathsOk (s.step call).orgs ↔ KeepsPaths s call := by
  cases call with
  | createOrg name parentID => exact iff_of_true (hpaths.createOrg h name parentID) trivial
  | deleteOrg id => exact iff_of_true (hpaths.deleteOrg id) trivial
  | moveOrg range target newParentID =>
    rw [step_moveOrg]
    by_cases hmoves : s.Moves target newParentID
    · by_cases hnamed : newParentID ≠ "" → (s.orgs.find? newParentID).isSome
      · rw [paths_move_iff h hpaths hmoves hnamed]
        exact ⟨fun hkeeps _ => ⟨hnamed, hkeeps⟩, fun hkeeps => (hkeeps hmoves).2⟩
      · refine iff_of_false ?_ fun hkeeps => hnamed (hkeeps hmoves).1
        push Not at hnamed
        exact not_paths_missing hmoves hnamed.1 (by simpa using hnamed.2)
    · rw [(moveOrg_refused hmoves).1]
      exact iff_of_true hpaths fun hmoves' => absurd hmoves' hmoves

/-- **Paths stay right, and trees whole,** exactly where a move names a parent that is there, and
a node that gets another parent has no grandchildren. -/
theorem paths_kept_iff (calls : List OrgCall) :
    (∀ s ∈ states step empty calls, Ordered s) ↔ StepsOk step KeepsPaths empty calls := by
  have hkept : ∀ s call, Formed s → Formed (step s call) := fun s call h => h.step call
  have hformed : ∀ s ∈ states step empty calls, Formed s :=
    invariant_states_of_step hkept formed_empty
  have hstep : ∀ s call, (Formed s ∧ PathsOk s.orgs) →
      ((Formed (step s call) ∧ PathsOk (step s call).orgs) ↔ KeepsPaths s call) := by
    intro s call h
    rw [← paths_step_iff h.1 h.2 call]
    exact and_iff_right (h.1.step call)
  rw [← forall_states_iff_of_step hstep ⟨formed_empty, fun _ _ hnone => by cases hnone⟩]
  constructor
  · exact fun hall s hs => ⟨hformed s hs, (hall s hs).1⟩
  · exact fun hall s hs => ⟨(hall s hs).2, tree_of_paths (hformed s hs) (hall s hs).2⟩

end OrgHierarchy

namespace Sample

/-- A line of three under one root is moved under another root. -/
def grandchildLeft : List OrgCall :=
  [.createOrg "a" "", .createOrg "b" "org_1", .createOrg "c" "org_2", .createOrg "d" "",
    .moveOrg inOrder "org_1" "org_4"]

end Sample

open Sample OrgHierarchy in
/-- The node at the end of the line keeps the path of before, and the tree of the new root does
not have it. -/
theorem grandchild_out_of_tree :
    ¬ (∀ s ∈ states step empty grandchildLeft, Ordered s) ∧
    ((run step empty grandchildLeft).getOrgTree inOrder "org_4").map OrgNode.orgID =
      ["org_4", "org_1", "org_2"] ∧
    ((run step empty grandchildLeft).orgs.find? "org_3").map OrgNode.path =
      some "/org_1/org_2/org_3" ∧
    ((run step empty grandchildLeft).orgs.find? "org_2").map OrgNode.path =
      some "/org_4/org_1/org_2" := by
  refine ⟨fun h => ?_, by decide, by decide, by decide⟩
  obtain ⟨hpaths, -⟩ := h _ (run_mem_states empty grandchildLeft)
  obtain ⟨p, hp, hpath, -⟩ := hpaths "org_3" ⟨"org_3", "org_2", "c", 2, "/org_1/org_2/org_3"⟩
    (by decide) (by decide)
  have hparent : (run step empty grandchildLeft).orgs.find? "org_2" =
      some ⟨"org_2", "org_1", "b", 2, "/org_4/org_1/org_2"⟩ := by decide
  rw [hparent, Option.some.injEq] at hp
  rw [← hp] at hpath
  exact absurd hpath (by decide)

end Ggid.Org
