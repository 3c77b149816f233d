import Mathlib.Data.List.Induction
import Mathlib.Order.Lattice

/-!
# The elements with the greatest key, in one pass

A loop that wants something of the elements with the greatest key need not go over the list twice:
it collects from the elements with the greatest key so far, and starts afresh when a greater one
comes. What it has in the end is what a loop over the elements with the greatest key collects
(`foldl_note`).
-/

namespace Ggid.Lib

variable {α β κ : Type*} [LinearOrder κ] (key : α → κ) (collect : β → α → β) (start : β)

/-- The greatest key so far and what has been collected from the elements that have it. -/
def note (best : κ × β) (a : α) : κ × β :=
  if key a < best.1 then best
  else (key a, collect (if best.1 < key a then start else best.2) a)

/-- The greatest key, or `least` if there is none greater. -/
def greatest (least : κ) (l : List α) : κ := l.foldl (fun m a => max m (key a)) least

/-- The elements that have the greatest key. -/
def withGreatest (l : List α) : List α :=
  l.filter fun a => l.all fun b => key b ≤ key a

variable {key} {least : κ} {l : List α}

theorem greatest_concat (a : α) : greatest key least (l ++ [a]) =
    max (greatest key least l) (key a) := by
  unfold greatest
  rw [List.foldl_append, List.foldl_cons, List.foldl_nil]

theorem le_greatest : ∀ a ∈ l, key a ≤ greatest key least l := by
  induction l using List.reverseRecOn with
  | nil => simp
  | append_singleton l b ih =>
    intro a ha
    rw [greatest_concat]
    rcases List.mem_append.mp ha with ha | ha
    · exact (ih a ha).trans (le_max_left _ _)
    · rw [List.mem_singleton.mp ha]
      exact le_max_right _ _

variable (key least l) in
theorem greatest_eq : greatest key least l = least ∨ ∃ a ∈ l, greatest key least l = key a := by
  induction l using List.reverseRecOn with
  | nil => exact .inl rfl
  | append_singleton l b ih =>
    rw [greatest_concat]
    rcases le_total (greatest key least l) (key b) with hle | hle
    · rw [max_eq_right hle]
      exact .inr ⟨b, by simp, rfl⟩
    · rw [max_eq_left hle]
      exact ih.imp_right fun ⟨a, ha, heq⟩ => ⟨a, List.mem_append_left _ ha, heq⟩

variable {collect start}

/-- **One pass** collects what a loop over the elements with the greatest key does. -/
theorem foldl_note : l.foldl (note key collect start) (least, start) =
    (greatest key least l,
      (l.filter fun a => key a = greatest key least l).foldl collect start) := by
  induction l using List.reverseRecOn with
  | nil => rfl
  | append_singleton l a ih =>
    rw [List.foldl_append, ih, List.foldl_cons, List.foldl_nil, greatest_concat, note,
      List.filter_append]
    dsimp only
    rcases lt_trichotomy (key a) (greatest key least l) with hlt | heq | hgt
    · -- the element is passed over
      rw [if_pos hlt, max_eq_left hlt.le,
        List.filter_cons_of_neg (by simp [hlt.ne]), List.filter_nil, List.append_nil]
    · rw [if_neg heq.not_lt, if_neg heq.not_gt, heq, max_self,
        List.filter_cons_of_pos (by simp [heq]), List.filter_nil, List.foldl_append]
      rfl
    · -- no element before has the key
      have hnone : l.filter (fun b => key b = key a) = [] := by
        rw [List.filter_eq_nil_iff]
        intro b hb
        simpa using ((le_greatest b hb).trans_lt hgt).ne
      rw [if_neg hgt.not_gt, if_pos hgt, max_eq_right hgt.le, hnone,
        List.filter_cons_of_pos (by simp), List.filter_nil]
      rfl

section Above

variable (h : ∀ a ∈ l, least < key a)
include h

/-- Where every key is greater than the first, the greatest is the key of an element. -/
theorem filter_eq_withGreatest :
    (l.filter fun a => key a = greatest key least l) = withGreatest key l := by
  refine List.filter_congr fun a ha => ?_
  rw [Bool.eq_iff_iff, decide_eq_true_eq, List.all_eq_true]
  simp only [decide_eq_true_eq]
  constructor
  · intro heq b hb
    rw [heq]
    exact le_greatest b hb
  · intro hall
    refine le_antisymm (le_greatest a ha) ?_
    rcases greatest_eq key least l with heq | ⟨b, hb, heq⟩
    · rw [heq]
      exact (h a ha).le
    · rw [heq]
      exact hall b hb

theorem withGreatest_eq_nil_iff : withGreatest key l = [] ↔ greatest key least l = least := by
  constructor
  · intro hnone
    refine (greatest_eq key least l).resolve_right ?_
    rintro ⟨a, ha, heq⟩
    rw [← filter_eq_withGreatest h] at hnone
    exact List.filter_eq_nil_iff.mp hnone a ha (by simp [heq])
  · intro heq
    refine List.filter_eq_nil_iff.mpr fun a ha => ?_
    exact absurd ((h a ha).trans_le (le_greatest a ha)) (by rw [heq]; exact lt_irrefl _)

end Above

/-- The elements with the greatest key do not depend on the order. -/
theorem withGreatest_perm {l' : List α} (h : l.Perm l') :
    (withGreatest key l).Perm (withGreatest key l') := by
  have hkeeps : ∀ a ∈ l, (l.all fun b => key b ≤ key a) = l'.all fun b => key b ≤ key a :=
    fun _ _ => h.all_eq
  unfold withGreatest
  rw [List.filter_congr hkeeps]
  exact h.filter _

end Ggid.Lib
