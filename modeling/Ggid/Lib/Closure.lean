import Mathlib.Data.List.Dedup
import Mathlib.Data.List.Perm.Subperm
import Mathlib.Logic.Relation

/-!
# Closure by rounds

`WITH RECURSIVE … UNION …` computes a set in rounds: the working table is
joined with the base table, rows already in the result are dropped, and what is
left is appended to the result and becomes the next working table. Over a
finite universe the rounds run dry and the result is exactly the set reachable
from the seed.

* `mem_closure_sound` — every row of the result is reachable from the seed;
* `mem_closure_iff`   — with as many rounds as the universe has elements, the
  result *is* the reachable set.
-/

namespace Ggid.Lib

variable {α : Type*} [DecidableEq α]

/-- One round: the successors of the working table that are not in the result. -/
def nextRound (succ : α → List α) (result working : List α) : List α :=
  ((working.flatMap succ).filter fun a => decide (a ∉ result)).dedup

/-- At most `n` further rounds. -/
def rounds (succ : α → List α) : Nat → List α → List α → List α
  | 0, result, _ => result
  | n + 1, result, working =>
    rounds succ n (result ++ nextRound succ result working) (nextRound succ result working)

/-- The rows reached from `seed` within `n` rounds. -/
def closure (succ : α → List α) (n : Nat) (seed : List α) : List α :=
  rounds succ n seed.dedup seed.dedup

variable {succ : α → List α}

theorem mem_nextRound {result working : List α} {b : α} :
    b ∈ nextRound succ result working ↔ (∃ a ∈ working, b ∈ succ a) ∧ b ∉ result := by
  simp [nextRound]

theorem mem_rounds_of_mem {n : Nat} :
    ∀ {result working : List α} {a : α}, a ∈ result → a ∈ rounds succ n result working := by
  induction n with
  | zero => exact fun h => h
  | succ n ih => exact fun h => ih (List.mem_append_left _ h)

theorem rounds_nil (n : Nat) (result : List α) : rounds succ n result [] = result := by
  induction n generalizing result with
  | zero => rfl
  | succ n ih =>
    have hnext : nextRound succ result [] = [] := by simp [nextRound]
    rw [rounds, hnext, List.append_nil, ih]

/-- The step relation the rounds follow. -/
def Succ (succ : α → List α) (a b : α) : Prop := b ∈ succ a

theorem mem_rounds_sound {S : α → Prop} (hS : ∀ a b, S a → b ∈ succ a → S b) {n : Nat} :
    ∀ {result working : List α}, (∀ a ∈ result, S a) → (∀ a ∈ working, S a) →
      ∀ x ∈ rounds succ n result working, S x := by
  induction n with
  | zero => exact fun hr _ => hr
  | succ n ih =>
    intro result working hr hw
    have hnext : ∀ b ∈ nextRound succ result working, S b := by
      intro b hb
      obtain ⟨⟨a, ha, hab⟩, -⟩ := mem_nextRound.mp hb
      exact hS a b (hw a ha) hab
    apply ih _ hnext
    intro a ha
    rcases List.mem_append.mp ha with ha | ha
    · exact hr a ha
    · exact hnext a ha

/-- **Soundness**: the result holds nothing but rows reachable from the seed. -/
theorem mem_closure_sound {n : Nat} {seed : List α} {x : α}
    (h : x ∈ closure succ n seed) :
    ∃ a ∈ seed, Relation.ReflTransGen (Succ succ) a x := by
  apply mem_rounds_sound (S := fun x => ∃ a ∈ seed, Relation.ReflTransGen (Succ succ) a x)
    ?step ?seed ?seed x h
  case step =>
    rintro a b ⟨s, hs, hsa⟩ hab
    exact ⟨s, hs, hsa.tail hab⟩
  case seed =>
    intro a ha
    exact ⟨a, List.mem_dedup.mp ha, .refl⟩

/-- When the fuel covers the part of the universe still outside the result, the
rounds end in a set closed under `succ`. The invariant is that a row of the
result is either still in the working table or already has its successors. -/
theorem rounds_closed {U : List α} (hU : ∀ a ∈ U, ∀ b ∈ succ a, b ∈ U) {n : Nat} :
    ∀ {result working : List α}, result.Nodup → (∀ a ∈ result, a ∈ U) →
      (∀ a ∈ working, a ∈ result) →
      (∀ a ∈ result, a ∈ working ∨ ∀ b ∈ succ a, b ∈ result) →
      U.length ≤ n + result.length →
      ∀ a ∈ rounds succ n result working, ∀ b ∈ succ a,
        b ∈ rounds succ n result working := by
  induction n with
  | zero =>
    intro result working hnd hsub hwork hinv hlen a ha b hb
    -- the result already exhausts the universe
    have hperm : List.Perm result U :=
      (List.subperm_of_subset hnd hsub).perm_of_length_le (by omega)
    exact hperm.mem_iff.mpr (hU a (hsub a ha) b hb)
  | succ n ih =>
    intro result working hnd hsub hwork hinv hlen
    rw [rounds]
    by_cases hempty : nextRound succ result working = []
    · rw [hempty, List.append_nil, rounds_nil]
      intro a ha b hb
      rcases hinv a ha with haw | hclosed
      · by_contra hbr
        have : b ∈ nextRound succ result working := mem_nextRound.mpr ⟨⟨a, haw, hb⟩, hbr⟩
        rw [hempty] at this
        exact absurd this (by simp)
      · exact hclosed b hb
    · have hpos : 0 < (nextRound succ result working).length :=
        List.length_pos_iff.mpr hempty
      apply ih
      · rw [List.nodup_append]
        refine ⟨hnd, List.nodup_dedup _, ?_⟩
        intro a ha b hb hab
        exact (mem_nextRound.mp hb).2 (hab ▸ ha)
      · intro a ha
        rcases List.mem_append.mp ha with ha | ha
        · exact hsub a ha
        · obtain ⟨⟨c, hc, hca⟩, -⟩ := mem_nextRound.mp ha
          exact hU c (hsub c (hwork c hc)) a hca
      · exact fun a ha => List.mem_append_right _ ha
      · intro a ha
        rcases List.mem_append.mp ha with ha | ha
        · right
          intro b hb
          by_cases hbr : b ∈ result
          · exact List.mem_append_left _ hbr
          · rcases hinv a ha with haw | hclosed
            · exact List.mem_append_right _ (mem_nextRound.mpr ⟨⟨a, haw, hb⟩, hbr⟩)
            · exact absurd (hclosed b hb) hbr
        · exact Or.inl ha
      · rw [List.length_append]
        omega

/-- **The result is the reachable set**, for a universe closed under `succ` that
contains the seed and has at most `n` elements. -/
theorem mem_closure_iff {U : List α} (hU : ∀ a ∈ U, ∀ b ∈ succ a, b ∈ U)
    {seed : List α} (hseed : ∀ a ∈ seed, a ∈ U) {n : Nat} (hn : U.length ≤ n) {x : α} :
    x ∈ closure succ n seed ↔ ∃ a ∈ seed, Relation.ReflTransGen (Succ succ) a x := by
  constructor
  · exact mem_closure_sound
  · rintro ⟨a, ha, hax⟩
    have hclosed := rounds_closed (n := n) hU (List.nodup_dedup seed)
      (fun a ha => hseed a (List.mem_dedup.mp ha)) (fun a ha => ha)
      (fun a ha => Or.inl ha) (by omega)
    induction hax with
    | refl => exact mem_rounds_of_mem (List.mem_dedup.mpr ha)
    | tail _ hbc ih => exact hclosed _ ih _ hbc

end Ggid.Lib
