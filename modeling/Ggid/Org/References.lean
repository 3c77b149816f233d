import Ggid.Org.OrgHierarchy

/-!
# Org service — parents that are there

The parents of the nodes over any sequence of calls. `CreateOrg` looks its parent up first and
`DeleteOrg` spares nodes with children; a move to a parent that is missing is not refused.

* `Sound.step`      — a call that names a parent that is there keeps the hierarchy sound;
* `references_iff`  — when it stays sound: where no move names a parent that is missing.
-/

namespace Ggid.Org

open Ggid.Go Ggid.Lib

namespace OrgHierarchy

/-- No circles, and every parent is there. -/
structure Sound (orgs : OrgTable) : Prop where
  acyclic : Acyclic (Below orgs)
  parents : ∀ k n, orgs.find? k = some n → n.parentID ≠ "" → (orgs.find? n.parentID).isSome

/-- A call leaves a sound hierarchy, comes back, and has changed no node if it fails. -/
structure Safe (s : OrgHierarchy) (call : OrgCall) : Prop where
  sound     : Sound (s.step call).orgs
  returns   : (call.run s).2 ≠ .loops
  unchanged : (call.run s).2 ≠ .ok () → (s.step call).orgs = s.orgs

/-- A node that is there is not moved to a parent that is not. -/
def NamesParent (s : OrgHierarchy) : OrgCall → Prop
  | .moveOrg _ target newParentID => (s.orgs.find? target).isSome → newParentID ≠ target →
    newParentID ≠ "" → (s.orgs.find? newParentID).isSome
  | .createOrg .. | .deleteOrg _ => True

variable {s : OrgHierarchy} {orgs orgs' : OrgTable}

theorem sound_empty : Sound empty.orgs where
  acyclic := by
    refine Acyclic.of_rank (fun _ => 0) fun a b hab => ?_
    cases hab
  parents := fun _ _ hnone => by cases hnone

/-- A new link: `x` under `y`, or at the top. -/
theorem acyclic_relink {x y : String} (h : Acyclic (Below orgs))
    (hnew : y ≠ "" → ¬ Relation.ReflTransGen (Below orgs) y x)
    (hlinks : ∀ a b, Below orgs' a b → Below orgs a b ∨ a = x ∧ b = y ∧ b ≠ "") :
    Acyclic (Below orgs') := by
  by_cases hroot : y = ""
  · refine h.mono fun a b hab => ?_
    rcases hlinks a b hab with hold | ⟨-, hb, hne⟩
    · exact hold
    · exact absurd (hb.trans hroot) hne
  · refine h.link (hnew hroot) fun a b hab => ?_
    rcases hlinks a b hab with hold | ⟨ha, hb, -⟩
    · exact .inl hold
    · exact .inr ⟨ha, hb⟩

/-- Nothing lies above an id that is not in use. -/
theorem not_reaches_fresh (h : Sound orgs) {x y : String} (hfresh : orgs.find? x = none)
    (hy : (orgs.find? y).isSome) : ¬ Relation.ReflTransGen (Below orgs) y x := by
  intro hreach
  rcases Relation.ReflTransGen.cases_tail hreach with heq | ⟨c, -, hcx⟩
  · rw [← heq, hfresh] at hy
    cases hy
  · obtain ⟨n, hn, hparent, hne⟩ := below_iff.mp hcx
    have hsome := h.parents c n hn (hparent ▸ hne)
    rw [hparent, hfresh] at hsome
    cases hsome

theorem Placement.parent {level : Int} {path target newParentID : String}
    (h : s.Placement target newParentID level path) (hne : newParentID ≠ "") :
    (s.orgs.find? newParentID).isSome := by
  rcases h with ⟨hroot, -⟩ | ⟨-, parent, hparent, -⟩
  · exact absurd hroot hne
  · rw [hparent]
    rfl

theorem Sound.createOrg (h : Sound s.orgs) (hgenerated : s.Generated) (name parentID : String) :
    Sound (s.createOrg name parentID).1.orgs := by
  rcases createOrg_cases s name parentID with ⟨-, -, hcreate⟩ | ⟨level, path, hplace, hcreate, -⟩
  · rw [hcreate]
    exact h
  rw [hcreate]
  have hfresh := hgenerated.fresh
  have hput := Table.find?_put s.orgs ⟨orgID (s.seq + 1), parentID, name, level, path⟩
  refine ⟨acyclic_relink h.acyclic (x := orgID (s.seq + 1)) (y := parentID)
    (fun hne => not_reaches_fresh h hfresh (hplace.parent hne)) fun a b hab => ?_,
      fun k n hn hne => ?_⟩
  · obtain ⟨n, hn, hparent, hne⟩ := below_iff.mp hab
    rw [hput] at hn
    split_ifs at hn with ha
    · rw [Option.some.injEq] at hn
      subst hn
      exact .inr ⟨ha, hparent.symm, hne⟩
    · exact .inl (below_iff.mpr ⟨n, hn, hparent, hne⟩)
  · have hsome : (s.orgs.find? n.parentID).isSome := by
      rw [hput] at hn
      split_ifs at hn with hk
      · rw [Option.some.injEq] at hn
        subst hn
        exact hplace.parent hne
      · exact h.parents k n hn hne
    rw [hput]
    split_ifs
    · rfl
    · exact hsome

theorem Sound.deleteOrg (h : Sound s.orgs) (id : String) : Sound (s.deleteOrg id).1.orgs := by
  rcases deleteOrg_cases s id with ⟨hsame, -⟩ | ⟨hchildless, hdelete⟩
  · rw [hsame]
    exact h
  rw [hdelete]
  have hbefore : ∀ {k n}, (s.orgs.delete fun n => n.orgID = id).find? k = some n →
      s.orgs.find? k = some n := fun hn => (Table.find?_delete_eq_some hn).1
  refine ⟨h.acyclic.mono fun a b hab => ?_, fun k n hn hne => ?_⟩
  · obtain ⟨n, hn, hparent, hne⟩ := below_iff.mp hab
    exact below_iff.mpr ⟨n, hbefore hn, hparent, hne⟩
  · obtain ⟨p, hp⟩ := Option.isSome_iff_exists.mp (h.parents k n (hbefore hn) hne)
    obtain ⟨hmem, hid⟩ := Table.find?_eq_some_iff.mp hp
    have hspared : p.orgID ≠ id := by
      rw [hid]
      exact hchildless n (Table.find?_eq_some_iff.mp (hbefore hn)).1
    have hfind : (s.orgs.delete fun n => n.orgID = id).find? n.parentID = some p :=
      Table.find?_eq_some_iff.mpr ⟨Table.mem_delete.mpr ⟨hmem, decide_eq_false hspared⟩, hid⟩
    rw [hfind]
    rfl

section Move

variable {range : MapRange} {target newParentID : String}

/-- A move that passes the checks closes no circle. -/
theorem Moves.not_above (h : s.Moves target newParentID) (hgenerated : s.Generated)
    (hne : newParentID ≠ "") : ¬ Relation.ReflTransGen (Below s.orgs) newParentID target := by
  obtain ⟨hfind, -, hcircular⟩ := h
  rw [circular, if_neg hne] at hcircular
  rw [← walk_eq_some hgenerated.find_empty hfind hcircular]
  exact Bool.false_ne_true

/-- The links after a move. -/
theorem below_moveOrg (h : s.Moves target newParentID) {a b : String}
    (hab : Below (s.moveOrg range target newParentID).1.orgs a b) :
    Below s.orgs a b ∨ a = target ∧ b = newParentID ∧ b ≠ "" := by
  obtain ⟨n, hn, hparent, hne⟩ := below_iff.mp hab
  have hafter := @parentID_moveOrg s target newParentID range h a
  rw [hn, Option.map_some] at hafter
  split_ifs at hafter with ha
  · rw [Option.some.injEq, hparent] at hafter
    exact .inr ⟨ha, hafter, hne⟩
  · obtain ⟨m, hm, hsame⟩ := Option.map_eq_some_iff.mp hafter.symm
    exact .inl (below_iff.mpr ⟨m, hm, hsame.trans hparent, hne⟩)

theorem Sound.moveOrg (h : Sound s.orgs) (hgenerated : s.Generated)
    (hnamed : s.NamesParent (.moveOrg range target newParentID)) :
    Sound (s.moveOrg range target newParentID).1.orgs := by
  by_cases hmoves : s.Moves target newParentID
  · refine ⟨acyclic_relink h.acyclic (hmoves.not_above hgenerated)
      fun a b hab => below_moveOrg hmoves hab, fun k n hn hne => ?_⟩
    rw [isSome_moveOrg]
    have hafter := @parentID_moveOrg s target newParentID range hmoves k
    rw [hn, Option.map_some] at hafter
    split_ifs at hafter
    · rw [Option.some.injEq] at hafter
      rw [hafter] at hne ⊢
      exact hnamed hmoves.1 hmoves.2.1 hne
    · obtain ⟨m, hm, hsame⟩ := Option.map_eq_some_iff.mp hafter.symm
      rw [← hsame] at hne ⊢
      exact h.parents k m hm hne
  · rw [(moveOrg_refused hmoves).1]
    exact h

/-- A move that settles returns the node. -/
theorem moveOrg_ok (h : s.Moves target newParentID)
    (hnamed : newParentID ≠ "" → (s.orgs.find? newParentID).isSome) :
    (s.moveOrg range target newParentID).2.discard = .ok () := by
  have hthere : ((s.moveOrg range target newParentID).1.orgs.find? target).isSome := by
    rw [isSome_moveOrg]
    exact h.1
  obtain ⟨level, path, -, hmove⟩ := @moveOrg_settles s target newParentID range h hnamed
  rw [hmove] at hthere ⊢
  unfold settle at hthere ⊢
  dsimp only at hthere ⊢
  obtain ⟨node, hnode⟩ := Option.isSome_iff_exists.mp hthere
  rw [hnode]
  rfl

theorem moveOrg_returns (h : Sound s.orgs) (hgenerated : s.Generated) :
    (s.moveOrg range target newParentID).2.discard ≠ .loops := by
  have hends : ∀ {o : Outcome OrgNode}, o.discard = .loops → o = .loops := by
    intro o ho
    cases o <;> first | rfl | cases ho
  intro hloops
  by_cases hmoves : s.Moves target newParentID
  · by_cases hnamed : newParentID ≠ "" → (s.orgs.find? newParentID).isSome
    · rw [moveOrg_ok hmoves hnamed] at hloops
      cases hloops
    · push Not at hnamed
      rw [moveOrg_missing hmoves hnamed.1 (by simpa using hnamed.2)] at hloops
      cases hloops
  · obtain ⟨-, -, hnone⟩ := (moveOrg_refused hmoves).2.mp (hends hloops)
    unfold circular at hnone
    split_ifs at hnone
    exact walk_returns hgenerated.find_empty h.acyclic newParentID hnone

end Move

/-- **One call** on a sound hierarchy. -/
theorem safe_iff (h : Sound s.orgs) (hgenerated : s.Generated) (call : OrgCall) :
    Safe s call ↔ NamesParent s call := by
  cases call with
  | createOrg name parentID =>
    refine iff_of_true ⟨h.createOrg hgenerated name parentID, ?_, fun hfails => ?_⟩ trivial
    · rcases createOrg_cases s name parentID with ⟨hne, hnone, -⟩ | ⟨level, path, -, -, hok⟩
      · simp [OrgCall.run, createOrg, hne, hnone, Outcome.discard]
      · simp [OrgCall.run, hok, Outcome.discard]
    · rcases createOrg_cases s name parentID with ⟨-, -, hcreate⟩ | ⟨level, path, -, -, hok⟩
      · rw [step_createOrg, hcreate]
      · exact absurd (by simp [OrgCall.run, hok, Outcome.discard]) hfails
  | deleteOrg id =>
    refine iff_of_true ⟨h.deleteOrg id, ?_, fun hfails => ?_⟩ trivial
    · rcases deleteOrg_cases s id with ⟨-, message, herror⟩ | ⟨-, hdelete⟩
      · simp [OrgCall.run, herror]
      · simp [OrgCall.run, hdelete]
    · rcases deleteOrg_cases s id with ⟨hsame, -⟩ | ⟨-, hdelete⟩
      · rw [step_deleteOrg, hsame]
      · exact absurd (by simp [OrgCall.run, hdelete]) hfails
  | moveOrg range target newParentID =>
    constructor
    · intro hsafe hfind hself hne
      by_contra hmissing
      rw [Bool.not_eq_true, Option.isSome_eq_false_iff, Option.isNone_iff_eq_none] at hmissing
      -- the walk from a missing parent ends at once
      have hmoves : s.Moves target newParentID := by
        refine ⟨hfind, hself, ?_⟩
        rw [circular, if_neg hne, hmissing]
        rfl
      obtain ⟨n, hn, hparent⟩ := Option.map_eq_some_iff.mp
        ((@parentID_moveOrg s target newParentID range hmoves target).trans (if_pos rfl))
      have hsome := hsafe.sound.parents target n hn (hparent ▸ hne)
      rw [step_moveOrg, isSome_moveOrg, hparent, hmissing] at hsome
      cases hsome
    · intro hnamed
      refine ⟨h.moveOrg hgenerated hnamed, moveOrg_returns h hgenerated, fun hfails => ?_⟩
      by_cases hmoves : s.Moves target newParentID
      · exact absurd (moveOrg_ok hmoves (hnamed hmoves.1 hmoves.2.1)) hfails
      · rw [step_moveOrg, (moveOrg_refused hmoves).1]

theorem generated_empty : empty.Generated := fun _ hn => absurd hn (Table.not_mem_empty _)

/-- **References stay sound** exactly where no node is moved to a parent that is missing. -/
theorem references_iff (calls : List OrgCall) :
    StepsOk step Safe empty calls ↔ StepsOk step NamesParent empty calls := by
  have hstep : ∀ s call, (Sound (OrgHierarchy.orgs s) ∧ s.Generated) → Safe s call →
      Sound (s.step call).orgs ∧ (s.step call).Generated :=
    fun s call h hsafe => ⟨hsafe.sound, h.2.step call⟩
  constructor
  · exact stepsOk_of_invariant hstep (fun s call h => (safe_iff h.1 h.2 call).mp)
      ⟨sound_empty, generated_empty⟩
  · exact stepsOk_of_invariant (fun s call h hnamed =>
      hstep s call h ((safe_iff h.1 h.2 call).mpr hnamed))
        (fun s call h => (safe_iff h.1 h.2 call).mpr) ⟨sound_empty, generated_empty⟩

end OrgHierarchy

namespace Sample

def inOrder : MapRange := ⟨id, fun _ => .refl _⟩

/-- The first node is moved under the one that is made next, as its child. -/
def intoTheFuture : List OrgCall :=
  [.createOrg "a" "", .moveOrg inOrder "org_1" "org_2", .createOrg "b" "org_1", .createOrg "c" ""]

end Sample

open Sample OrgHierarchy in
/-- The move panics and leaves a parent that is missing; once it is made, the two are each other's
parents, and another move loops for ever. -/
theorem circle_of_parents :
    ¬ StepsOk step Safe empty intoTheFuture ∧
    (parentOf (run step empty intoTheFuture).orgs "org_1" = some "org_2" ∧
      parentOf (run step empty intoTheFuture).orgs "org_2" = some "org_1") ∧
    ((run step empty intoTheFuture).moveOrg inOrder "org_3" "org_1").2 = .loops := by
  refine ⟨fun h => ?_, by decide, by decide⟩
  have hmoved := congrArg (fun orgs => parentOf orgs "org_1")
    (h.2.1.unchanged (by decide))
  exact absurd hmoved (by decide)

end Ggid.Org
