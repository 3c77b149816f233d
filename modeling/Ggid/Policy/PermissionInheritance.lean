import Ggid.Lib.Hierarchy
import Ggid.Lib.Run
import Ggid.Lib.Table
import Ggid.Lib.Threads

/-!
# Policy engine — inherited permissions

A role has a parent at most, and the permissions of all its ancestors. `SetPermissionInheritance`
looks for a cycle under the read lock and writes under the write lock, so other calls run in
between. `collectPermissions` follows the parents without a guard.

* `effective_of_acyclic` — what a role is given, as long as there is no cycle;
* `detects_iff`          — what the check finds;
* `sound_iff`            — there is no cycle exactly as long as each write still passes its check.
-/

namespace Ggid.Policy

open Ggid.Lib

-- ---------------------------------------------------------------------------
-- The service
-- ---------------------------------------------------------------------------

/-- `ParentID` is empty if there is no parent. -/
structure PermissionNode where
  roleID      : String
  parentID    : String
  permissions : List String
  deriving DecidableEq

abbrev PermissionNodes := Table PermissionNode.roleID

namespace PermissionInheritance

/-- The node of a role, or a new one. -/
def node (nodes : PermissionNodes) (roleID : String) : PermissionNode :=
  (nodes.find? roleID).getD ⟨roleID, "", []⟩

/-- The write of `SetPermissionInheritance`. -/
def setParent (nodes : PermissionNodes) (roleID parentRoleID : String) : PermissionNodes :=
  nodes.put { node nodes roleID with parentID := parentRoleID }

def setPermissions (nodes : PermissionNodes) (roleID : String) (permissions : List String) :
    PermissionNodes :=
  nodes.put { node nodes roleID with permissions := permissions }

/-- The loop of `DetectInheritanceCycle`; none stands for a loop that is not over yet. -/
def walk (nodes : PermissionNodes) (roleID : String) : Nat → List String → String → Option Bool
  | 0, _, _ => none
  | turns + 1, visited, current =>
    if current = "" then some false
    else if current = roleID then some true
    else if current ∈ visited then some true
    else
      match nodes.find? current with
      | none => some false
      | some node => walk nodes roleID turns (current :: visited) node.parentID

/-- No role is visited twice, so one turn more than there are roles is enough (`walk_returns`). -/
def detectInheritanceCycle (nodes : PermissionNodes) (roleID parentRoleID : String) : Bool :=
  if roleID = parentRoleID then true
  else (walk nodes roleID (nodes.rows.length + 1) [] parentRoleID).getD true

/-- `seen` has what `result` has. -/
def addPermissions (result permissions : List String) : List String :=
  permissions.foldl (fun result p => if p ∈ result then result else result ++ [p]) result

/-- None stands for a recursion that is not over yet. -/
def collectPermissions (nodes : PermissionNodes) : Nat → String → List String →
    Option (List String)
  | 0, _, _ => none
  | calls + 1, roleID, result =>
    match nodes.find? roleID with
    | none => some result
    | some node =>
      let result := addPermissions result node.permissions
      if node.parentID ≠ "" then collectPermissions nodes calls node.parentID result
      else some result

/-- None stands for a recursion that never ends (`collect_endless`). -/
def getEffectivePermissions (nodes : PermissionNodes) (roleID : String) : Option (List String) :=
  collectPermissions nodes (nodes.rows.length + 1) roleID []

-- ---------------------------------------------------------------------------
-- Concurrent calls
-- ---------------------------------------------------------------------------

inductive PermissionCall where
  | setPermissionInheritance (roleID parentRoleID : String)
  | setPermissions (roleID : String) (permissions : List String)

/-- What is left of a call: the write, once the check found no cycle. -/
inductive InheritanceTask where
  | idle
  | checked (roleID parentRoleID : String)

/-- The thread that goes next, and the call it begins if it is idle. -/
structure InheritanceTurn where
  thread : Nat
  call   : PermissionCall

abbrev State := Threads PermissionNodes InheritanceTask

/-- One critical section. -/
def act (call : PermissionCall) (nodes : PermissionNodes) :
    InheritanceTask → PermissionNodes × InheritanceTask
  | .checked roleID parentRoleID => (setParent nodes roleID parentRoleID, .idle)
  | .idle =>
    match call with
    | .setPermissionInheritance roleID parentRoleID =>
      if detectInheritanceCycle nodes roleID parentRoleID then (nodes, .idle)
      else (nodes, .checked roleID parentRoleID)
    | .setPermissions roleID permissions => (setPermissions nodes roleID permissions, .idle)

def step (p : State) (a : InheritanceTurn) : State :=
  p.put a.thread (act a.call p.store (p.task a.thread))

def start : State := ⟨Table.empty, fun _ => .idle⟩

-- ---------------------------------------------------------------------------
-- The laws
-- ---------------------------------------------------------------------------

/-- The parent of a role, if it has one. -/
def parentOf (nodes : PermissionNodes) (roleID : String) : Option String :=
  (nodes.find? roleID).bind fun n => if n.parentID = "" then none else some n.parentID

/-- `b` is the parent of `a`. -/
def Below (nodes : PermissionNodes) (a b : String) : Prop := parentOf nodes a = some b

/-- A permission of the role or of one of its ancestors. -/
def Holds (nodes : PermissionNodes) (roleID permission : String) : Prop :=
  ∃ a n, Relation.ReflTransGen (Below nodes) roleID a ∧ nodes.find? a = some n ∧
    permission ∈ n.permissions

/-- There is no cycle; and every role is given what it and its ancestors have, each once. -/
structure Sound (nodes : PermissionNodes) : Prop where
  acyclic   : Acyclic (Below nodes)
  effective : ∀ roleID, ∃ result, getEffectivePermissions nodes roleID = some result ∧
    result.Nodup ∧ ∀ permission, permission ∈ result ↔ Holds nodes roleID permission

/-- A write that is made would still pass its check. -/
def StillClear (p : State) (a : InheritanceTurn) : Prop :=
  ∀ roleID parentRoleID, p.task a.thread = .checked roleID parentRoleID →
    detectInheritanceCycle p.store roleID parentRoleID = false

variable {nodes : PermissionNodes} {roleID parentRoleID a b : String} {result : List String}

theorem below_iff : Below nodes a b ↔ ∃ n, nodes.find? a = some n ∧ n.parentID = b ∧ b ≠ "" := by
  unfold Below parentOf
  rw [Option.bind_eq_some_iff]
  refine exists_congr fun n => and_congr_right fun _ => ?_
  rw [Option.ite_none_left_eq_some, Option.some.injEq]
  constructor
  · rintro ⟨hroot, rfl⟩
    exact ⟨rfl, hroot⟩
  · rintro ⟨rfl, hroot⟩
    exact ⟨hroot, rfl⟩

-- ---------------------------------------------------------------------------
-- Writes
-- ---------------------------------------------------------------------------

theorem roleID_node (nodes : PermissionNodes) (roleID : String) :
    (node nodes roleID).roleID = roleID := by
  unfold node
  cases h : nodes.find? roleID with
  | none => rfl
  | some n => exact (Table.find?_eq_some_iff.mp h).2

theorem parentOf_setParent (nodes : PermissionNodes) (roleID parentRoleID a : String) :
    parentOf (setParent nodes roleID parentRoleID) a =
      if a = roleID then (if parentRoleID = "" then none else some parentRoleID)
      else parentOf nodes a := by
  unfold parentOf setParent
  rw [Table.find?_put]
  show (if a = (node nodes roleID).roleID then _ else _ : Option PermissionNode).bind _ = _
  rw [roleID_node]
  split_ifs <;> simp_all

theorem parentOf_setPermissions (nodes : PermissionNodes) (roleID : String)
    (permissions : List String) :
    parentOf (setPermissions nodes roleID permissions) = parentOf nodes := by
  funext a
  unfold parentOf setPermissions
  rw [Table.find?_put]
  show (if a = (node nodes roleID).roleID then _ else _ : Option PermissionNode).bind _ = _
  rw [roleID_node]
  split_ifs with ha
  · rw [ha, node]
    cases nodes.find? roleID with
    | none => rfl
    | some n => rfl
  · rfl

/-- A parent that is not below the role makes no cycle, and no other parent does not. -/
theorem acyclic_setParent_iff (hacyclic : Acyclic (Below nodes)) :
    Acyclic (Below (setParent nodes roleID parentRoleID)) ↔
      (parentRoleID ≠ "" → ¬ Relation.ReflTransGen (Below nodes) parentRoleID roleID) := by
  have hsame : ∀ a b, a ≠ roleID →
      (Below (setParent nodes roleID parentRoleID) a b ↔ Below nodes a b) := by
    intro a b ha
    rw [Below, Below, parentOf_setParent, if_neg ha]
  constructor
  · intro hafter hne hpath
    have hlink : Below (setParent nodes roleID parentRoleID) roleID parentRoleID := by
      rw [Below, parentOf_setParent, if_pos rfl, if_neg hne]
    have hkept : ∀ c, Relation.ReflTransGen (Below nodes) c roleID →
        Relation.ReflTransGen (Below (setParent nodes roleID parentRoleID)) c roleID := by
      intro c hpath
      induction hpath using Relation.ReflTransGen.head_induction_on with
      | refl => exact .refl
      | @head c d hcd _ ih =>
        by_cases hc : c = roleID
        · rw [hc]
        · exact .head ((hsame c d hc).mpr hcd) ih
    exact hafter roleID (.head' hlink (hkept parentRoleID hpath))
  · intro hclear
    by_cases hne : parentRoleID = ""
    · refine hacyclic.mono fun a b hab => ?_
      by_cases ha : a = roleID
      · rw [Below, parentOf_setParent, if_pos ha, if_pos hne] at hab
        cases hab
      · exact (hsame a b ha).mp hab
    · refine hacyclic.link (hclear hne) fun a b hab => ?_
      by_cases ha : a = roleID
      · rw [Below, parentOf_setParent, if_pos ha, if_neg hne, Option.some.injEq] at hab
        exact .inr ⟨ha, hab.symm⟩
      · exact .inl ((hsame a b ha).mp hab)

-- ---------------------------------------------------------------------------
-- The check
-- ---------------------------------------------------------------------------

/-- **The walk ends**, as it visits a role of the table on every turn and none twice. -/
theorem walk_returns {turns : Nat} {visited : List String} {current : String}
    (hnodup : visited.Nodup) (hmem : ∀ v ∈ visited, v ∈ nodes.rows.map PermissionNode.roleID)
    (hturns : nodes.rows.length < visited.length + turns) :
    (walk nodes roleID turns visited current).isSome := by
  induction turns generalizing visited current with
  | zero =>
    have hle := (List.subperm_of_subset hnodup hmem).length_le
    rw [List.length_map] at hle
    omega
  | succ turns ih =>
    rw [walk]
    split_ifs with hempty htarget hvisited
    · rfl
    · rfl
    · rfl
    · cases hfind : nodes.find? current with
      | none => rfl
      | some n =>
        obtain ⟨hn, hid⟩ := Table.find?_eq_some_iff.mp hfind
        refine ih (List.nodup_cons.mpr ⟨hvisited, hnodup⟩) ?_ ?_
        · rintro v (_ | ⟨_, hv⟩)
          · exact hid ▸ List.mem_map_of_mem hn
          · exact hmem v hv
        · rw [List.length_cons]
          omega

/-- What the walk finds above a role, if there is no cycle. -/
theorem walk_eq_some (hacyclic : Acyclic (Below nodes)) {turns : Nat} {visited : List String}
    {current : String} {found : Bool}
    (hvisited : ∀ v ∈ visited, current ≠ "" → Relation.TransGen (Below nodes) v current)
    (h : walk nodes roleID turns visited current = some found) :
    found = true ↔ current ≠ "" ∧ Relation.ReflTransGen (Below nodes) current roleID := by
  induction turns generalizing visited current with
  | zero => cases h
  | succ turns ih =>
    rw [walk] at h
    split_ifs at h with hempty htarget hseen
    · simp_all
    · rw [Option.some.injEq] at h
      subst h
      exact ⟨fun _ => ⟨hempty, htarget ▸ .refl⟩, fun _ => rfl⟩
    · exact absurd (hvisited current hseen hempty) (hacyclic current)
    · cases hfind : nodes.find? current with
      | none =>
        rw [hfind, Option.some.injEq] at h
        subst h
        refine ⟨fun hfalse => absurd hfalse Bool.false_ne_true, fun ⟨_, hpath⟩ => ?_⟩
        rcases Relation.ReflTransGen.cases_head hpath with heq | ⟨c, hc, -⟩
        · exact absurd heq htarget
        · obtain ⟨n, hn, -⟩ := below_iff.mp hc
          rw [hfind] at hn
          cases hn
      | some n =>
        rw [hfind] at h
        have hbelow : n.parentID ≠ "" → Below nodes current n.parentID :=
          fun hne => below_iff.mpr ⟨n, hfind, rfl, hne⟩
        rw [ih ?_ h]
        · constructor
          · rintro ⟨hne, hpath⟩
            exact ⟨hempty, .head (hbelow hne) hpath⟩
          · rintro ⟨-, hpath⟩
            rcases Relation.ReflTransGen.cases_head hpath with heq | ⟨c, hc, hrest⟩
            · exact absurd heq htarget
            · obtain ⟨m, hm, rfl, hne⟩ := below_iff.mp hc
              rw [hfind, Option.some.injEq] at hm
              subst hm
              exact ⟨hne, hrest⟩
        · rintro v (_ | ⟨_, hv⟩) hne
          · exact .single (hbelow hne)
          · exact (hvisited v hv hempty).tail (hbelow hne)

/-- **What the check finds**, if there is no cycle. -/
theorem detects_iff (hacyclic : Acyclic (Below nodes)) :
    detectInheritanceCycle nodes roleID parentRoleID = true ↔ roleID = parentRoleID ∨
      parentRoleID ≠ "" ∧ Relation.ReflTransGen (Below nodes) parentRoleID roleID := by
  unfold detectInheritanceCycle
  split_ifs with heq
  · simp [heq]
  · have hreturns : (walk nodes roleID (nodes.rows.length + 1) [] parentRoleID).isSome :=
      walk_returns List.nodup_nil (fun v hv => absurd hv List.not_mem_nil) (by simp)
    obtain ⟨found, hfound⟩ := Option.isSome_iff_exists.mp hreturns
    have hiff := walk_eq_some hacyclic (fun v hv => absurd hv List.not_mem_nil) hfound
    rw [hfound, Option.getD_some, hiff]
    exact ⟨.inr, fun h => h.resolve_left heq⟩

-- ---------------------------------------------------------------------------
-- Effective permissions
-- ---------------------------------------------------------------------------

theorem mem_addPermissions {permissions : List String} {p : String} :
    p ∈ addPermissions result permissions ↔ p ∈ result ∨ p ∈ permissions := by
  unfold addPermissions
  induction permissions generalizing result with
  | nil => simp
  | cons q permissions ih =>
    rw [List.foldl_cons, ih, List.mem_cons]
    split_ifs with hq
    · exact ⟨fun h => h.imp_right .inr, fun h => h.elim .inl fun h =>
        h.elim (fun heq => .inl (heq ▸ hq)) .inr⟩
    · rw [List.mem_append, List.mem_singleton, or_assoc]

theorem nodup_addPermissions (hnodup : result.Nodup) (permissions : List String) :
    (addPermissions result permissions).Nodup := by
  unfold addPermissions
  induction permissions generalizing result with
  | nil => exact hnodup
  | cons q permissions ih =>
    rw [List.foldl_cons]
    split_ifs with hq
    · exact ih hnodup
    · refine ih (List.nodup_append.mpr ⟨hnodup, List.nodup_singleton q, ?_⟩)
      rintro p hp p' hp' rfl
      exact hq (List.mem_singleton.mp hp' ▸ hp)

theorem not_holds (hfind : nodes.find? roleID = none) (p : String) : ¬ Holds nodes roleID p := by
  rintro ⟨a, n, hpath, hn, -⟩
  rcases Relation.ReflTransGen.cases_head hpath with rfl | ⟨c, hc, -⟩
  · rw [hfind] at hn
    cases hn
  · obtain ⟨m, hm, -⟩ := below_iff.mp hc
    rw [hfind] at hm
    cases hm

theorem holds_iff {n : PermissionNode} (hfind : nodes.find? roleID = some n) (p : String) :
    Holds nodes roleID p ↔ p ∈ n.permissions ∨ n.parentID ≠ "" ∧ Holds nodes n.parentID p := by
  constructor
  · rintro ⟨a, m, hpath, hm, hp⟩
    rcases Relation.ReflTransGen.cases_head hpath with rfl | ⟨c, hc, hrest⟩
    · rw [hfind, Option.some.injEq] at hm
      exact .inl (hm ▸ hp)
    · obtain ⟨m', hm', rfl, hne⟩ := below_iff.mp hc
      rw [hfind, Option.some.injEq] at hm'
      subst hm'
      exact .inr ⟨hne, a, m, hrest, hm, hp⟩
  · rintro (hp | ⟨hne, a, m, hpath, hm, hp⟩)
    · exact ⟨roleID, n, .refl, hfind, hp⟩
    · exact ⟨a, m, .head (below_iff.mpr ⟨n, hfind, rfl, hne⟩) hpath, hm, hp⟩

/-- **What is collected**, if the recursion ends. -/
theorem collect_eq_some {calls : Nat} {out : List String}
    (h : collectPermissions nodes calls roleID result = some out) :
    (result.Nodup → out.Nodup) ∧ ∀ p, p ∈ out ↔ p ∈ result ∨ Holds nodes roleID p := by
  induction calls generalizing roleID result with
  | zero => cases h
  | succ calls ih =>
    rw [collectPermissions] at h
    cases hfind : nodes.find? roleID with
    | none =>
      rw [hfind, Option.some.injEq] at h
      subst h
      exact ⟨id, fun p => (or_iff_left (not_holds hfind p)).symm⟩
    | some n =>
      rw [hfind] at h
      dsimp only at h
      split_ifs at h with hne
      · obtain ⟨hnodup, hmem⟩ := ih h
        refine ⟨fun hr => hnodup (nodup_addPermissions hr _), fun p => ?_⟩
        rw [hmem, mem_addPermissions, holds_iff hfind, or_assoc, and_iff_right hne]
      · rw [Option.some.injEq] at h
        subst h
        refine ⟨fun hr => nodup_addPermissions hr _, fun p => ?_⟩
        rw [mem_addPermissions, holds_iff hfind]
        simp [hne]

/-- The recursion goes on as long as there are ancestors. -/
theorem collect_eq_none_iff {calls : Nat} : collectPermissions nodes calls roleID result = none ↔
    ∃ b, ancestor (parentOf nodes) calls roleID = some b := by
  induction calls generalizing roleID result with
  | zero => exact iff_of_true rfl ⟨roleID, rfl⟩
  | succ calls ih =>
    rw [collectPermissions, ancestor, parentOf]
    cases hfind : nodes.find? roleID with
    | none => simp
    | some n =>
      dsimp only
      rw [Option.bind_some]
      by_cases hroot : n.parentID = ""
      · simp [hroot]
      · rw [if_pos hroot, if_neg hroot, ih, Option.bind_some]

/-- A recursion that is longer than there are roles visits these only. -/
theorem collect_visits (h : getEffectivePermissions nodes roleID = none) :
    ∀ m ≤ (nodes.rows.map PermissionNode.roleID).length,
      ∃ b ∈ nodes.rows.map PermissionNode.roleID, ancestor (parentOf nodes) m roleID = some b := by
  intro m hm
  rw [List.length_map] at hm
  obtain ⟨last, hlast⟩ := collect_eq_none_iff.mp h
  rw [show nodes.rows.length + 1 = m + (nodes.rows.length - m + 1) by omega, ancestor_add] at hlast
  obtain ⟨b, hb, hrest⟩ := Option.bind_eq_some_iff.mp hlast
  obtain ⟨c, hc, -⟩ := Option.bind_eq_some_iff.mp hrest
  obtain ⟨n, hn, -⟩ := below_iff.mp hc
  obtain ⟨hmem, hid⟩ := Table.find?_eq_some_iff.mp hn
  exact ⟨b, List.mem_map.mpr ⟨n, hmem, hid⟩, hb⟩

/-- **A recursion that is longer than there are roles** never ends. -/
theorem collect_endless (h : getEffectivePermissions nodes roleID = none) (calls : Nat) :
    collectPermissions nodes calls roleID result = none := by
  rw [collect_eq_none_iff]
  obtain ⟨k, hk, heq⟩ := ancestor_repeats (collect_visits h) calls
  obtain ⟨b, -, hb⟩ := collect_visits h k hk
  exact ⟨b, heq.trans hb⟩

/-- **Without a cycle** the recursion ends, with the permissions of the role and its ancestors. -/
theorem effective_of_acyclic (hacyclic : Acyclic (Below nodes)) (roleID : String) :
    ∃ result, getEffectivePermissions nodes roleID = some result ∧ result.Nodup ∧
      ∀ permission, permission ∈ result ↔ Holds nodes roleID permission := by
  cases h : getEffectivePermissions nodes roleID with
  | none =>
    obtain ⟨i, j, b, hij, -, hib, hjb⟩ := exists_ancestor_eq (collect_visits h)
    obtain ⟨k, rfl⟩ := Nat.exists_eq_add_of_lt hij
    rw [Nat.add_assoc, ancestor_add, hib, Option.bind_some] at hjb
    exact absurd (transGen_of_ancestor hjb) (hacyclic b)
  | some result =>
    obtain ⟨hnodup, hmem⟩ := collect_eq_some h
    refine ⟨result, rfl, hnodup List.nodup_nil, fun p => ?_⟩
    rw [hmem, or_iff_right List.not_mem_nil]

theorem sound_iff_acyclic : Sound nodes ↔ Acyclic (Below nodes) :=
  ⟨Sound.acyclic, fun h => ⟨h, effective_of_acyclic h⟩⟩

-- ---------------------------------------------------------------------------
-- Runs
-- ---------------------------------------------------------------------------

section Runs

variable {p : State} {a : InheritanceTurn}

/-- A role that is to be written is not its own parent. -/
def Distinct : InheritanceTask → Prop
  | .idle => True
  | .checked roleID parentRoleID => roleID ≠ parentRoleID

theorem distinct_act (call : PermissionCall) (nodes : PermissionNodes) (task : InheritanceTask) :
    Distinct (act call nodes task).2 := by
  cases task with
  | checked roleID parentRoleID => trivial
  | idle =>
    cases call with
    | setPermissions roleID permissions => trivial
    | setPermissionInheritance roleID parentRoleID =>
      rw [act]
      split_ifs with hcycle
      · trivial
      · intro heq
        simp [detectInheritanceCycle, heq] at hcycle

theorem distinct_step (h : ∀ t, Distinct (p.task t)) (a : InheritanceTurn) :
    ∀ t, Distinct ((step p a).task t) :=
  Threads.forall_put h (fun _ => id) (distinct_act a.call p.store (p.task a.thread))

/-- A write keeps the roles without a cycle exactly if it would still pass its check. -/
theorem sound_step_iff (hdistinct : ∀ t, Distinct (p.task t)) (hsound : Sound p.store) :
    Sound (step p a).store ↔ StillClear p a := by
  have hacyclic := hsound.acyclic
  rw [sound_iff_acyclic, step, Threads.put_store, StillClear]
  cases htask : p.task a.thread with
  | checked roleID parentRoleID =>
    have hne : roleID ≠ parentRoleID := by
      have hd := hdistinct a.thread
      rwa [htask] at hd
    rw [act, acyclic_setParent_iff hacyclic]
    constructor
    · rintro hclear r q ⟨⟩
      rw [← Bool.not_eq_true, detects_iff hacyclic]
      rintro (heq | ⟨hparent, hpath⟩)
      · exact hne heq
      · exact hclear hparent hpath
    · intro hclear hparent hpath
      have hdetect := (detects_iff hacyclic).mpr (.inr ⟨hparent, hpath⟩)
      rw [hclear roleID parentRoleID rfl] at hdetect
      cases hdetect
  | idle =>
    refine iff_of_true ?_ (fun _ _ h => by cases h)
    cases a.call with
    | setPermissionInheritance roleID parentRoleID =>
      rw [act]
      split_ifs
      · exact hacyclic
      · exact hacyclic
    | setPermissions roleID permissions =>
      rw [act]
      intro b
      unfold Below
      rw [parentOf_setPermissions]
      exact hacyclic b

theorem sound_start : Sound start.store :=
  sound_iff_acyclic.mpr (Acyclic.of_rank (fun _ => 0) fun a b h => by cases h)

/-- **The roles stay without a cycle** exactly as long as each write still passes its check. -/
theorem sound_iff (turns : List InheritanceTurn) :
    (∀ p ∈ states step start turns, Sound p.store) ↔ StepsOk step StillClear start turns := by
  have hdistinct : ∀ p ∈ states step start turns, ∀ t, Distinct (p.task t) :=
    invariant_states_of_step (fun _ a h => distinct_step h a) fun _ => trivial
  have hstep : ∀ p a, (Sound p.store ∧ ∀ t, Distinct (p.task t)) →
      ((Sound (step p a).store ∧ ∀ t, Distinct ((step p a).task t)) ↔ StillClear p a) :=
    fun p a h => (and_iff_left (distinct_step h.2 a)).trans (sound_step_iff h.2 h.1)
  rw [← forall_states_iff_of_step hstep ⟨sound_start, fun _ => trivial⟩]
  exact ⟨fun h p hp => ⟨h p hp, hdistinct p hp⟩, fun h p hp => (h p hp).1⟩

/-- Two calls that pass their checks before either writes: the recursion never ends. -/
theorem concurrent_cycle :
    ¬ (∀ p ∈ states step start [⟨0, .setPermissionInheritance "a" "b"⟩,
        ⟨1, .setPermissionInheritance "b" "a"⟩, ⟨0, .setPermissions "a" []⟩,
        ⟨1, .setPermissions "b" []⟩], Sound p.store) := by
  intro h
  obtain ⟨result, hresult, -⟩ := (h _ (run_mem_states _ _)).effective "a"
  have hnone : getEffectivePermissions (run step start [⟨0, .setPermissionInheritance "a" "b"⟩,
      ⟨1, .setPermissionInheritance "b" "a"⟩, ⟨0, .setPermissions "a" []⟩,
      ⟨1, .setPermissions "b" []⟩]).store "a" = none := by decide
  rw [hnone] at hresult
  cases hresult

end Runs

end PermissionInheritance

end Ggid.Policy
