import Ggid.Go.Strings
import Ggid.Lib.Hierarchy
import Ggid.Lib.Run
import Ggid.Lib.Table

/-!
# Org service — the hierarchy

`OrgHierarchyService`: nodes under generated ids, each with the id of its parent, its path and its
level. `MoveOrg` looks for a circle among the ancestors of the new parent before it has looked up
the new parent, and then gives the moved node and its children their new paths.

* `walk_returns`      — the search for a circle ends where there is none;
* `walk_eq_none`      — where it takes longer than there are nodes, it does not end;
* `moveOrg_placed`    — which nodes a move changes: the node and its children.
-/

namespace Ggid.Org

open Ggid.Go Ggid.Lib

-- ---------------------------------------------------------------------------
-- The service
-- ---------------------------------------------------------------------------

structure OrgNode where
  orgID    : String
  parentID : String
  name     : String
  level    : Int
  path     : String
  deriving DecidableEq

abbrev OrgTable := Table OrgNode.orgID

structure OrgHierarchy where
  orgs : OrgTable
  seq  : Nat

/-- The order in which a `range` goes through a map. -/
structure MapRange where
  order : List String → List String
  perm  : ∀ ids, (order ids).Perm ids

/-- How a call ends: it may also dereference a missing node, or loop. -/
inductive Outcome (α : Type) where
  | ok (result : α)
  | error (message : String)
  | panicked
  | loops
  deriving DecidableEq

/-- How it ends, without the result. -/
def Outcome.discard {α : Type} : Outcome α → Outcome Unit
  | .ok _ => .ok ()
  | .error message => .error message
  | .panicked => .panicked
  | .loops => .loops

/-- `fmt.Sprintf("org_%d", seq)`. -/
def orgID (seq : Nat) : String := "org_" ++ seq.repr

namespace OrgHierarchy

def empty : OrgHierarchy := ⟨Table.empty, 0⟩

def createOrg (s : OrgHierarchy) (name parentID : String) : OrgHierarchy × Outcome OrgNode :=
  let id := orgID (s.seq + 1)
  if parentID = "" then
    let node : OrgNode := ⟨id, parentID, name, 0, "/" ++ id⟩
    (⟨s.orgs.put node, s.seq + 1⟩, .ok node)
  else
    match s.orgs.find? parentID with
    | none => ({ s with seq := s.seq + 1 }, .error "parent org not found")
    | some parent =>
      let node : OrgNode := ⟨id, parentID, name, parent.level + 1, parent.path ++ "/" ++ id⟩
      (⟨s.orgs.put node, s.seq + 1⟩, .ok node)

/-- The nodes in the order of the range. -/
def ranged (s : OrgHierarchy) (range : MapRange) : List OrgNode :=
  (range.order (s.orgs.rows.map OrgNode.orgID)).filterMap s.orgs.find?

def getOrgTree (s : OrgHierarchy) (range : MapRange) (rootOrgID : String) : List OrgNode :=
  match s.orgs.find? rootOrgID with
  | none => []
  | some root =>
    root :: (s.ranged range).filter fun n =>
      n.orgID ≠ rootOrgID && Strings.hasPrefix n.path.toList (root.path ++ "/").toList

/-- The walk of `MoveOrg` from a node to its ancestors: whether it meets `orgID`, if it ends within
so many steps. -/
def walk (orgs : OrgTable) (orgID : String) : Nat → Option OrgNode → Option Bool
  | 0, _ => none
  | _ + 1, none => some false
  | n + 1, some p => if p.orgID = orgID then some true else walk orgs orgID n (orgs.find? p.parentID)

/-- The check for a circular reference. -/
def circular (s : OrgHierarchy) (orgID newParentID : String) : Option Bool :=
  if newParentID = "" then some false
  else walk s.orgs orgID (s.orgs.rows.length + 1) (s.orgs.find? newParentID)

/-- `n.Level = level; n.Path = path`. -/
def place (orgs : OrgTable) (id : String) (level : Int) (path : String) : OrgTable :=
  orgs.update (fun n => n.orgID = id) (fun n => { n with level, path }) fun _ => rfl

def rebuildPath (orgs : OrgTable) (n : OrgNode) : OrgTable :=
  if n.parentID = "" then place orgs n.orgID 0 ("/" ++ n.orgID)
  else
    match orgs.find? n.parentID with
    | none => orgs
    | some parent => place orgs n.orgID (parent.level + 1) (parent.path ++ "/" ++ n.orgID)

/-- One round of the loop over all nodes. -/
def updateChild (orgID : String) (orgs : OrgTable) (id : String) : OrgTable :=
  match orgs.find? id with
  | none => orgs
  | some n =>
    if Strings.hasPrefix n.path.toList (orgID ++ "/").toList || n.parentID = orgID then
      rebuildPath orgs n
    else orgs

def updateChildren (range : MapRange) (orgID : String) (orgs : OrgTable) : OrgTable :=
  (range.order (orgs.rows.map OrgNode.orgID)).foldl (updateChild orgID) orgs

/-- The end of a move: the children follow, the node is returned. -/
def settle (s : OrgHierarchy) (range : MapRange) (orgID : String) (orgs : OrgTable) :
    OrgHierarchy × Outcome OrgNode :=
  let orgs' := updateChildren range orgID orgs
  ({ s with orgs := orgs' },
    match orgs'.find? orgID with
    | none => .panicked
    | some node => .ok node)

def moveOrg (s : OrgHierarchy) (range : MapRange) (orgID newParentID : String) :
    OrgHierarchy × Outcome OrgNode :=
  match s.orgs.find? orgID with
  | none => (s, .error "org not found")
  | some _ =>
    if newParentID = orgID then (s, .error "cannot move org into itself")
    else
      match s.circular orgID newParentID with
      | none => (s, .loops)
      | some true => (s, .error "circular reference detected")
      | some false =>
        let orgs := s.orgs.update (fun n => n.orgID = orgID)
          (fun n => { n with parentID := newParentID }) fun _ => rfl
        if newParentID = "" then
          s.settle range orgID (place orgs orgID 0 ("/" ++ orgID))
        else
          match orgs.find? newParentID with
          | none => ({ s with orgs }, .panicked)
          | some parent =>
            s.settle range orgID (place orgs orgID (parent.level + 1) (parent.path ++ "/" ++ orgID))

def deleteOrg (s : OrgHierarchy) (id : String) : OrgHierarchy × Outcome Unit :=
  if (s.orgs.find? id).isNone then (s, .error "org not found")
  else if s.orgs.rows.any fun n => n.parentID = id then
    (s, .error "cannot delete org with children")
  else ({ s with orgs := s.orgs.delete fun n => n.orgID = id }, .ok ())

end OrgHierarchy

inductive OrgCall where
  | createOrg (name parentID : String)
  | moveOrg (range : MapRange) (orgID newParentID : String)
  | deleteOrg (id : String)

/-- A call, and how it ends. -/
def OrgCall.run (s : OrgHierarchy) : OrgCall → OrgHierarchy × Outcome Unit
  | .createOrg name parentID => ((s.createOrg name parentID).1, (s.createOrg name parentID).2.discard)
  | .moveOrg range orgID newParentID =>
    ((s.moveOrg range orgID newParentID).1, (s.moveOrg range orgID newParentID).2.discard)
  | .deleteOrg id => s.deleteOrg id

namespace OrgHierarchy

def step (s : OrgHierarchy) (call : OrgCall) : OrgHierarchy := (call.run s).1

-- ---------------------------------------------------------------------------
-- Ids
-- ---------------------------------------------------------------------------

theorem orgID_injective : Function.Injective orgID := by
  intro m n h
  have hlists := congrArg String.toList h
  simp only [orgID, String.toList_append] at hlists
  have hdigits := List.append_cancel_left hlists
  rw [Nat.toList_repr, Nat.toList_repr] at hdigits
  rw [← @Nat.ofDigitChars_ten_toDigits m, hdigits, Nat.ofDigitChars_ten_toDigits]

theorem slash_not_mem_orgID (seq : Nat) : '/' ∉ (orgID seq).toList := by
  intro hmem
  rw [orgID, String.toList_append, List.mem_append, Nat.toList_repr] at hmem
  rcases hmem with hmem | hmem
  · exact absurd hmem (by decide)
  · exact absurd (Nat.isDigit_of_mem_toDigits (by decide) (by decide) hmem) (by decide)

theorem orgID_ne_empty (seq : Nat) : orgID seq ≠ "" := by
  intro h
  have hlists := congrArg String.toList h
  rw [orgID, String.toList_append] at hlists
  exact absurd hlists (by simp)

/-- Every id was generated. -/
def Generated (s : OrgHierarchy) : Prop := ∀ n ∈ s.orgs, ∃ k ≤ s.seq, n.orgID = orgID k

-- ---------------------------------------------------------------------------
-- Parents
-- ---------------------------------------------------------------------------

/-- The parent of a node, if it has one. -/
def parentOf (orgs : OrgTable) (id : String) : Option String :=
  (orgs.find? id).bind fun n => if n.parentID = "" then none else some n.parentID

/-- `b` is the parent of `a`. -/
def Below (orgs : OrgTable) (a b : String) : Prop := parentOf orgs a = some b

theorem below_iff {orgs : OrgTable} {a b : String} : Below orgs a b ↔
    ∃ n, orgs.find? a = some n ∧ n.parentID = b ∧ b ≠ "" := by
  unfold Below parentOf
  rw [Option.bind_eq_some_iff]
  refine exists_congr fun n => and_congr_right fun _ => ?_
  rw [Option.ite_none_left_eq_some, Option.some.injEq]
  constructor
  · rintro ⟨hroot, rfl⟩
    exact ⟨rfl, hroot⟩
  · rintro ⟨rfl, hroot⟩
    exact ⟨hroot, rfl⟩

theorem parentOf_of_find {orgs : OrgTable} {a : String} {n : OrgNode}
    (h : orgs.find? a = some n) :
    parentOf orgs a = if n.parentID = "" then none else some n.parentID := by
  unfold parentOf
  rw [h]
  rfl

-- ---------------------------------------------------------------------------
-- The walk
-- ---------------------------------------------------------------------------

section Walk

variable {orgs : OrgTable} {target : String}

/-- The walk goes on as long as there are nodes, and none is the one looked for. -/
theorem walk_eq_none_iff (hempty : orgs.find? "" = none) (n : Nat) (a : String) :
    walk orgs target n (orgs.find? a) = none ↔ ∀ k < n, ∃ b q,
      ancestor (parentOf orgs) k a = some b ∧ orgs.find? b = some q ∧ b ≠ target := by
  induction n generalizing a with
  | zero => simp [walk]
  | succ n ih =>
    cases hfind : orgs.find? a with
    | none =>
      simp only [walk, reduceCtorEq, false_iff, not_forall]
      refine ⟨0, Nat.succ_pos n, fun ⟨b, q, hb, hq, _⟩ => ?_⟩
      rw [ancestor, Option.some.injEq] at hb
      rw [← hb, hfind] at hq
      cases hq
    | some p =>
      have hid : p.orgID = a := (Table.find?_eq_some_iff.mp hfind).2
      rw [walk, hid]
      split_ifs with htarget
      · simp only [false_iff, not_forall]
        refine ⟨0, Nat.succ_pos n, fun ⟨b, q, hb, _, hne⟩ => ?_⟩
        rw [ancestor, Option.some.injEq] at hb
        exact hne (hb.symm.trans htarget)
      · rw [ih]
        constructor
        · intro h k hk
          cases k with
          | zero => exact ⟨a, p, rfl, hfind, htarget⟩
          | succ k =>
            obtain ⟨b, q, hb, hq, hne⟩ := h k (by omega)
            refine ⟨b, q, ?_, hq, hne⟩
            rw [ancestor, parentOf_of_find hfind, if_neg, Option.bind_some]
            · exact hb
            · intro hroot
              obtain ⟨b', q', hb', hq', -⟩ := h 0 (by omega)
              rw [ancestor, Option.some.injEq] at hb'
              rw [← hb', hroot, hempty] at hq'
              cases hq'
        · intro h k hk
          obtain ⟨b, q, hb, hq, hne⟩ := h (k + 1) (by omega)
          rw [ancestor, parentOf_of_find hfind] at hb
          split_ifs at hb with hroot
          · cases hb
          · exact ⟨b, q, hb, hq, hne⟩

/-- A walk that is longer than the table visits its nodes only. -/
theorem walk_visits (hempty : orgs.find? "" = none) {a : String}
    (h : walk orgs target (orgs.rows.length + 1) (orgs.find? a) = none) :
    ∀ m ≤ (orgs.rows.map OrgNode.orgID).length, ∃ b ∈ orgs.rows.map OrgNode.orgID,
      ancestor (parentOf orgs) m a = some b := by
  intro m hm
  rw [List.length_map] at hm
  obtain ⟨b, q, hb, hq, -⟩ := (walk_eq_none_iff hempty _ a).mp h m (Nat.lt_succ_of_le hm)
  obtain ⟨hmem, hid⟩ := Table.find?_eq_some_iff.mp hq
  exact ⟨b, List.mem_map.mpr ⟨q, hmem, hid⟩, hb⟩

/-- **A walk that is longer than the table** does not end. -/
theorem walk_eq_none (hempty : orgs.find? "" = none) {a : String}
    (h : walk orgs target (orgs.rows.length + 1) (orgs.find? a) = none) (n : Nat) :
    walk orgs target n (orgs.find? a) = none := by
  rw [walk_eq_none_iff hempty]
  intro k _
  obtain ⟨k', hk', heq⟩ := ancestor_repeats (walk_visits hempty h) k
  rw [List.length_map] at hk'
  obtain ⟨b, q, hb, hq, hne⟩ := (walk_eq_none_iff hempty _ a).mp h k' (Nat.lt_succ_of_le hk')
  exact ⟨b, q, heq.trans hb, hq, hne⟩

/-- **Without a circle** the walk ends. -/
theorem walk_returns (hempty : orgs.find? "" = none) (hacyclic : Acyclic (Below orgs))
    (a : String) : walk orgs target (orgs.rows.length + 1) (orgs.find? a) ≠ none := by
  intro h
  obtain ⟨i, j, b, hij, -, hib, hjb⟩ := exists_ancestor_eq (walk_visits hempty h)
  obtain ⟨k, rfl⟩ := Nat.exists_eq_add_of_lt hij
  rw [Nat.add_assoc, ancestor_add, hib, Option.bind_some] at hjb
  exact hacyclic b (transGen_of_ancestor hjb)

/-- What the walk says of the node looked for. -/
theorem walk_eq_some {found : Bool} (hempty : orgs.find? "" = none)
    (htarget : (orgs.find? target).isSome) {n : Nat} {a : String}
    (h : walk orgs target n (orgs.find? a) = some found) :
    found = true ↔ Relation.ReflTransGen (Below orgs) a target := by
  induction n generalizing a with
  | zero => cases h
  | succ n ih =>
    cases hfind : orgs.find? a with
    | none =>
      rw [hfind] at h
      cases h
      refine iff_of_false Bool.false_ne_true fun hreach => ?_
      rcases Relation.ReflTransGen.cases_head hreach with rfl | ⟨b, hb, -⟩
      · rw [hfind] at htarget
        cases htarget
      · obtain ⟨p, hp, -⟩ := below_iff.mp hb
        rw [hfind] at hp
        cases hp
    | some p =>
      have hid : p.orgID = a := (Table.find?_eq_some_iff.mp hfind).2
      rw [hfind, walk, hid] at h
      split_ifs at h with hsame
      · cases h
        exact iff_of_true rfl (hsame ▸ .refl)
      · rw [ih h]
        constructor
        · intro hreach
          refine .head (below_iff.mpr ⟨p, hfind, rfl, fun hroot => ?_⟩) hreach
          rw [hroot] at hreach
          rcases Relation.ReflTransGen.cases_head hreach with heq | ⟨b, hb, -⟩
          · rw [← heq, hempty] at htarget
            cases htarget
          · obtain ⟨q, hq, -⟩ := below_iff.mp hb
            rw [hempty] at hq
            cases hq
        · intro hreach
          rcases Relation.ReflTransGen.cases_head hreach with heq | ⟨b, hb, hrest⟩
          · exact absurd heq hsame
          · obtain ⟨q, hq, hparent, -⟩ := below_iff.mp hb
            rw [hfind, Option.some.injEq] at hq
            rw [hq, hparent]
            exact hrest

end Walk

-- ---------------------------------------------------------------------------
-- The loop over the children
-- ---------------------------------------------------------------------------

section Children

variable {orgs : OrgTable} {target : String}

theorem find_place (orgs : OrgTable) (id : String) (level : Int) (path : String) (k : String) :
    (place orgs id level path).find? k =
      (orgs.find? k).map fun n => if n.orgID = id then { n with level, path } else n := by
  unfold place
  rw [Table.find?_update]
  simp only [decide_eq_true_eq]

/-- Parents stay. -/
theorem parentID_updateChild (target : String) (orgs : OrgTable) (id k : String) :
    ((updateChild target orgs id).find? k).map OrgNode.parentID =
      (orgs.find? k).map OrgNode.parentID := by
  have hplace : ∀ id level path, ((place orgs id level path).find? k).map OrgNode.parentID =
      (orgs.find? k).map OrgNode.parentID := by
    intro id level path
    rw [find_place, Option.map_map]
    congr 1
    funext n
    simp only [Function.comp_apply]
    split_ifs <;> rfl
  unfold updateChild rebuildPath
  cases orgs.find? id with
  | none => rfl
  | some n =>
    dsimp only
    split_ifs
    · exact hplace _ _ _
    · cases orgs.find? n.parentID with
      | none => rfl
      | some parent => exact hplace _ _ _
    · rfl

theorem parentID_updateChildren (range : MapRange) (target : String) (orgs : OrgTable)
    (k : String) : ((updateChildren range target orgs).find? k).map OrgNode.parentID =
      (orgs.find? k).map OrgNode.parentID := by
  unfold updateChildren
  generalize range.order _ = ids
  induction ids generalizing orgs with
  | nil => rfl
  | cons id ids ih => rw [List.foldl_cons, ih, parentID_updateChild]

/-- A path starts with a slash. -/
def Rooted (orgs : OrgTable) : Prop :=
  ∀ k n, orgs.find? k = some n → ∃ rest, n.path.toList = '/' :: rest

/-- An id that can be moved: not the empty one, and not the start of a path. -/
def Plain (target : String) : Prop :=
  target ≠ "" ∧ ∀ rest, Strings.hasPrefix ('/' :: rest) (target ++ "/").toList = false

theorem plain_orgID (seq : Nat) : Plain (orgID seq) := by
  refine ⟨orgID_ne_empty seq, fun rest => ?_⟩
  rw [orgID, String.toList_append, String.toList_append, List.append_assoc]
  rfl

/-- A child under its parent. -/
def underParent (parent n : OrgNode) : OrgNode :=
  { n with level := parent.level + 1, path := parent.path ++ "/" ++ n.orgID }

theorem rooted_underParent {parent n : OrgNode} (h : ∃ rest, parent.path.toList = '/' :: rest) :
    ∃ rest, (underParent parent n).path.toList = '/' :: rest := by
  obtain ⟨rest, hrest⟩ := h
  refine ⟨rest ++ ("/".toList ++ n.orgID.toList), ?_⟩
  simp [underParent, String.toList_append, hrest]

variable {node : OrgNode}

/-- One round of the loop puts a child under its parent. -/
theorem find_updateChild (hrooted : Rooted orgs) (hplain : Plain target)
    (hnode : orgs.find? target = some node) (id k : String) :
    (updateChild target orgs id).find? k = (orgs.find? k).map fun n =>
      if n.orgID = id ∧ n.parentID = target then underParent node n else n := by
  have hid : ∀ {k n}, orgs.find? k = some n → n.orgID = k :=
    fun h => (Table.find?_eq_some_iff.mp h).2
  have hsame : ∀ {orgs' : OrgTable}, orgs' = orgs →
      (∀ n, orgs.find? id = some n → n.parentID ≠ target) →
        orgs'.find? k = (orgs.find? k).map fun n =>
          if n.orgID = id ∧ n.parentID = target then underParent node n else n := by
    rintro orgs' rfl hother
    cases hfind : orgs'.find? k with
    | none => rfl
    | some n =>
      rw [Option.map_some, if_neg]
      rintro ⟨heq, hparent⟩
      rw [hid hfind] at heq
      exact hother n (heq ▸ hfind) hparent
  unfold updateChild
  cases hfind : orgs.find? id with
  | none => exact hsame rfl fun n hn => by rw [hfind] at hn; cases hn
  | some m =>
    obtain ⟨rest, hrest⟩ := hrooted id m hfind
    simp only [hrest, hplain.2, Bool.false_or, decide_eq_true_eq]
    by_cases hchild : m.parentID = target
    · rw [if_pos hchild, rebuildPath, hchild, if_neg hplain.1, hnode]
      simp only
      rw [find_place, hid hfind]
      cases hk : orgs.find? k with
      | none => rfl
      | some n =>
        simp only [Option.map_some]
        by_cases heq : n.orgID = id
        · have hn : n = m := by
            rw [hid hk] at heq
            rw [heq, hfind, Option.some.injEq] at hk
            exact hk.symm
          subst hn
          rw [if_pos heq, if_pos ⟨heq, hchild⟩, underParent, heq]
        · rw [if_neg heq, if_neg fun h => heq h.1]
    · rw [if_neg hchild]
      refine hsame rfl fun n hn => ?_
      rw [hfind, Option.some.injEq] at hn
      exact hn ▸ hchild

theorem find_foldl_updateChild (hrooted : Rooted orgs) (hplain : Plain target)
    (hnode : orgs.find? target = some node) (hself : node.parentID ≠ target)
    (ids : List String) (k : String) :
    (ids.foldl (updateChild target) orgs).find? k = (orgs.find? k).map fun n =>
      if n.orgID ∈ ids ∧ n.parentID = target then underParent node n else n := by
  induction ids generalizing orgs with
  | nil => simp
  | cons id ids ih =>
    have hround := find_updateChild hrooted hplain hnode id
    have hnode' : (updateChild target orgs id).find? target = some node := by
      rw [hround, hnode, Option.map_some, if_neg fun h => hself h.2]
    have hrooted' : Rooted (updateChild target orgs id) := by
      intro k n hn
      rw [hround] at hn
      obtain ⟨m, hm, rfl⟩ := Option.map_eq_some_iff.mp hn
      split_ifs
      · exact rooted_underParent (hrooted target node hnode)
      · exact hrooted k m hm
    rw [List.foldl_cons, ih hrooted' hnode', hround, Option.map_map]
    congr 1
    funext n
    simp only [Function.comp_apply, List.mem_cons]
    by_cases hparent : n.parentID = target
    · by_cases hhead : n.orgID = id
      · simp [hparent, hhead, underParent]
      · simp [hparent, hhead]
    · simp [hparent]

/-- **The loop** puts every child of the node under it, in whatever order it goes. -/
theorem find_updateChildren (hrooted : Rooted orgs) (hplain : Plain target)
    (hnode : orgs.find? target = some node) (hself : node.parentID ≠ target) (range : MapRange)
    (k : String) : (updateChildren range target orgs).find? k = (orgs.find? k).map fun n =>
      if n.parentID = target then underParent node n else n := by
  unfold updateChildren
  rw [find_foldl_updateChild hrooted hplain hnode hself]
  cases hk : orgs.find? k with
  | none => rfl
  | some n =>
    have hmem : n.orgID ∈ range.order (orgs.rows.map OrgNode.orgID) := by
      rw [(range.perm _).mem_iff]
      exact List.mem_map_of_mem (Table.find?_eq_some_iff.mp hk).1
    simp only [Option.map_some, hmem, true_and]

end Children

-- ---------------------------------------------------------------------------
-- `MoveOrg`
-- ---------------------------------------------------------------------------

section Move

variable {s : OrgHierarchy} {target newParentID : String} {range : MapRange}

/-- The move passes the checks. -/
def Moves (s : OrgHierarchy) (target newParentID : String) : Prop :=
  (s.orgs.find? target).isSome ∧ newParentID ≠ target ∧
    s.circular target newParentID = some false

/-- The nodes when the parent of one has been set. -/
def relinked (s : OrgHierarchy) (target newParentID : String) : OrgTable :=
  s.orgs.update (fun n => n.orgID = target) (fun n => { n with parentID := newParentID })
    fun _ => rfl

/-- The level and the path of a node under its new parent. -/
def Placement (s : OrgHierarchy) (target newParentID : String) (level : Int) (path : String) :
    Prop :=
  newParentID = "" ∧ level = 0 ∧ path = "/" ++ target ∨
    newParentID ≠ "" ∧ ∃ parent, s.orgs.find? newParentID = some parent ∧
      level = parent.level + 1 ∧ path = parent.path ++ "/" ++ target

theorem find_relinked (s : OrgHierarchy) (target newParentID k : String) :
    (s.relinked target newParentID).find? k =
      (s.orgs.find? k).map fun n =>
        if n.orgID = target then { n with parentID := newParentID } else n := by
  unfold relinked
  rw [Table.find?_update]
  simp only [decide_eq_true_eq]

/-- A move that does not pass changes nothing. -/
theorem moveOrg_refused (h : ¬ s.Moves target newParentID) :
    (s.moveOrg range target newParentID).1 = s ∧
      ((s.moveOrg range target newParentID).2 = .loops ↔ (s.orgs.find? target).isSome ∧
        newParentID ≠ target ∧ s.circular target newParentID = none) := by
  unfold moveOrg
  unfold Moves at h
  cases hfind : s.orgs.find? target with
  | none => simp
  | some node =>
    by_cases hself : newParentID = target
    · simp [hself]
    · cases hcircular : s.circular target newParentID with
      | none => simp [hself]
      | some found =>
        cases found with
        | true => simp [hself]
        | false => exact absurd ⟨by simp [hfind], hself, hcircular⟩ h

/-- **A move to a parent that is missing** sets the parent, and panics. -/
theorem moveOrg_missing (h : s.Moves target newParentID) (hne : newParentID ≠ "")
    (hmissing : s.orgs.find? newParentID = none) : s.moveOrg range target newParentID =
      ({ s with orgs := s.relinked target newParentID }, .panicked) := by
  obtain ⟨hfind, hself, hcircular⟩ := h
  obtain ⟨node, hnode⟩ := Option.isSome_iff_exists.mp hfind
  have hafter : (s.relinked target newParentID).find? newParentID = none := by
    rw [find_relinked, hmissing]
    rfl
  unfold relinked at hafter
  simp only [moveOrg, hnode, if_neg hself, hcircular, if_neg hne, hafter]
  rfl

/-- **A move** to the top or under a node that is there. -/
theorem moveOrg_settles (h : s.Moves target newParentID)
    (hnamed : newParentID ≠ "" → (s.orgs.find? newParentID).isSome) :
    ∃ level path, s.Placement target newParentID level path ∧
      s.moveOrg range target newParentID =
        s.settle range target (place (s.relinked target newParentID) target level path) := by
  obtain ⟨hfind, hself, hcircular⟩ := h
  obtain ⟨node, hnode⟩ := Option.isSome_iff_exists.mp hfind
  by_cases hroot : newParentID = ""
  · refine ⟨0, "/" ++ target, .inl ⟨hroot, rfl, rfl⟩, ?_⟩
    simp only [moveOrg, hnode, if_neg hself, hcircular, if_pos hroot]
    rfl
  · obtain ⟨parent, hparent⟩ := Option.isSome_iff_exists.mp (hnamed hroot)
    refine ⟨parent.level + 1, parent.path ++ "/" ++ target,
      .inr ⟨hroot, parent, hparent, rfl, rfl⟩, ?_⟩
    have hafter : (s.relinked target newParentID).find? newParentID = some parent := by
      have hid : parent.orgID = newParentID := (Table.find?_eq_some_iff.mp hparent).2
      rw [find_relinked, hparent, Option.map_some, if_neg (hid ▸ hself)]
    unfold relinked at hafter
    simp only [moveOrg, hnode, if_neg hself, hcircular, if_neg hroot, hafter]
    rfl

/-- The parents after a move. -/
theorem parentID_moveOrg (h : s.Moves target newParentID) (k : String) :
    ((s.moveOrg range target newParentID).1.orgs.find? k).map OrgNode.parentID =
      if k = target then some newParentID else (s.orgs.find? k).map OrgNode.parentID := by
  have hrelinked : ((s.relinked target newParentID).find? k).map OrgNode.parentID =
      if k = target then some newParentID else (s.orgs.find? k).map OrgNode.parentID := by
    rw [find_relinked, Option.map_map]
    cases hk : s.orgs.find? k with
    | none =>
      split_ifs with heq
      · have hfind := h.1
        rw [← heq, hk] at hfind
        cases hfind
      · rfl
    | some n =>
      have hid : n.orgID = k := (Table.find?_eq_some_iff.mp hk).2
      simp only [Option.map_some, Function.comp_apply, hid]
      split_ifs <;> rfl
  by_cases hnamed : newParentID ≠ "" → (s.orgs.find? newParentID).isSome
  · obtain ⟨level, path, -, hmove⟩ := @moveOrg_settles s target newParentID range h hnamed
    rw [hmove, settle, parentID_updateChildren, find_place, Option.map_map, ← hrelinked]
    congr 1
    funext n
    simp only [Function.comp_apply]
    split_ifs <;> rfl
  · push Not at hnamed
    rw [moveOrg_missing h hnamed.1 (by simpa using hnamed.2)]
    exact hrelinked

/-- A move makes no node, and takes none away. -/
theorem isSome_moveOrg (k : String) :
    ((s.moveOrg range target newParentID).1.orgs.find? k).isSome = (s.orgs.find? k).isSome := by
  by_cases h : s.Moves target newParentID
  · have hparent := congrArg Option.isSome (@parentID_moveOrg s target newParentID range h k)
    rw [Option.isSome_map] at hparent
    rw [hparent]
    split_ifs with heq
    · rw [heq]
      exact h.1.symm
    · exact Option.isSome_map
  · rw [(moveOrg_refused h).1]

theorem moveOrg_seq : (s.moveOrg range target newParentID).1.seq = s.seq := by
  by_cases h : s.Moves target newParentID
  · by_cases hnamed : newParentID ≠ "" → (s.orgs.find? newParentID).isSome
    · obtain ⟨level, path, -, hmove⟩ := @moveOrg_settles s target newParentID range h hnamed
      rw [hmove]
      rfl
    · push Not at hnamed
      rw [moveOrg_missing h hnamed.1 (by simpa using hnamed.2)]
  · rw [(moveOrg_refused h).1]

end Move

-- ---------------------------------------------------------------------------
-- Calls that keep the ids
-- ---------------------------------------------------------------------------

theorem Generated.find_empty {s : OrgHierarchy} (h : s.Generated) : s.orgs.find? "" = none := by
  rw [Table.find?_eq_none_iff]
  intro n hn hid
  obtain ⟨k, -, hk⟩ := h n hn
  exact orgID_ne_empty k (hk.symm.trans hid)

theorem Generated.fresh {s : OrgHierarchy} (h : s.Generated) :
    s.orgs.find? (orgID (s.seq + 1)) = none := by
  rw [Table.find?_eq_none_iff]
  intro n hn hid
  obtain ⟨k, hk, hgenerated⟩ := h n hn
  have heq := orgID_injective (hgenerated.symm.trans hid)
  omega

theorem Generated.plain {s : OrgHierarchy} (h : s.Generated) {id : String}
    (hid : (s.orgs.find? id).isSome) : Plain id := by
  obtain ⟨n, hn⟩ := Option.isSome_iff_exists.mp hid
  obtain ⟨hmem, rfl⟩ := Table.find?_eq_some_iff.mp hn
  obtain ⟨k, -, hk⟩ := h n hmem
  rw [hk]
  exact plain_orgID k

/-- What `CreateOrg` does: it fails, or adds a node under a new id. -/
theorem createOrg_cases (s : OrgHierarchy) (name parentID : String) :
    (parentID ≠ "" ∧ s.orgs.find? parentID = none ∧ (s.createOrg name parentID).1 =
      { s with seq := s.seq + 1 }) ∨
    ∃ level path, s.Placement (orgID (s.seq + 1)) parentID level path ∧
      (s.createOrg name parentID).1 =
        ⟨s.orgs.put ⟨orgID (s.seq + 1), parentID, name, level, path⟩, s.seq + 1⟩ ∧
          (s.createOrg name parentID).2 = .ok ⟨orgID (s.seq + 1), parentID, name, level, path⟩ := by
  unfold createOrg
  by_cases hroot : parentID = ""
  · exact .inr ⟨0, _, .inl ⟨hroot, rfl, rfl⟩, by simp [hroot], by simp [hroot]⟩
  · cases hparent : s.orgs.find? parentID with
    | none => exact .inl ⟨hroot, rfl, by simp [hroot]⟩
    | some parent =>
      exact .inr ⟨parent.level + 1, _, .inr ⟨hroot, parent, hparent, rfl, rfl⟩,
        by simp [hroot], by simp [hroot]⟩

/-- What `DeleteOrg` does: it fails, or takes out a node that is nobody's parent. -/
theorem deleteOrg_cases (s : OrgHierarchy) (id : String) :
    ((s.deleteOrg id).1 = s ∧ ∃ message, (s.deleteOrg id).2 = .error message) ∨
    ((∀ n ∈ s.orgs, n.parentID ≠ id) ∧ s.deleteOrg id =
      ({ s with orgs := s.orgs.delete fun n => n.orgID = id }, .ok ())) := by
  unfold deleteOrg
  split_ifs with hmissing hchildren
  · exact .inl ⟨rfl, _, rfl⟩
  · exact .inl ⟨rfl, _, rfl⟩
  · refine .inr ⟨fun n hn hparent => hchildren ?_, rfl⟩
    exact List.any_eq_true.mpr ⟨n, hn, decide_eq_true hparent⟩

theorem step_createOrg (s : OrgHierarchy) (name parentID : String) :
    s.step (.createOrg name parentID) = (s.createOrg name parentID).1 := rfl

theorem step_moveOrg (s : OrgHierarchy) (range : MapRange) (target newParentID : String) :
    s.step (.moveOrg range target newParentID) = (s.moveOrg range target newParentID).1 := rfl

theorem step_deleteOrg (s : OrgHierarchy) (id : String) :
    s.step (.deleteOrg id) = (s.deleteOrg id).1 := rfl

theorem Generated.step {s : OrgHierarchy} (h : s.Generated) (call : OrgCall) :
    (s.step call).Generated := by
  cases call with
  | createOrg name parentID =>
    rw [step_createOrg]
    rcases createOrg_cases s name parentID with ⟨-, -, hcreate⟩ | ⟨level, path, -, hcreate, -⟩
    · rw [hcreate]
      intro n hn
      obtain ⟨k, hk, hid⟩ := h n hn
      exact ⟨k, Nat.le_succ_of_le hk, hid⟩
    · rw [hcreate]
      intro n hn
      rcases Table.mem_put.mp hn with rfl | ⟨hn, -⟩
      · exact ⟨s.seq + 1, le_refl _, rfl⟩
      · obtain ⟨k, hk, hid⟩ := h n hn
        exact ⟨k, Nat.le_succ_of_le hk, hid⟩
  | moveOrg range target newParentID =>
    rw [step_moveOrg]
    intro n hn
    have hfind : ((s.moveOrg range target newParentID).1.orgs.find? n.orgID).isSome := by
      rw [Table.find?_eq_some_iff.mpr ⟨hn, rfl⟩]
      rfl
    rw [isSome_moveOrg] at hfind
    obtain ⟨m, hm⟩ := Option.isSome_iff_exists.mp hfind
    obtain ⟨hmem, hid⟩ := Table.find?_eq_some_iff.mp hm
    rw [← hid, moveOrg_seq]
    exact h m hmem
  | deleteOrg id =>
    rw [step_deleteOrg]
    rcases deleteOrg_cases s id with ⟨hsame, -⟩ | ⟨-, hdelete⟩
    · rw [hsame]
      exact h
    · rw [hdelete]
      exact fun n hn => h n (Table.mem_delete.mp hn).1

end OrgHierarchy

end Ggid.Org
