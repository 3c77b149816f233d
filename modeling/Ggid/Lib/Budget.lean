import Mathlib.Algebra.Order.Field.Basic
import Mathlib.Data.List.Count
import Mathlib.Tactic.Linarith
import Mathlib.Tactic.Ring

/-!
# Budgets that refill

A budget holds at most its capacity and refills at a steady rate. A draw takes one if there is one.
Over any stretch of time, no more can be drawn than the capacity and what is refilled meanwhile
(`drawn_within_le`): before the first draw of the stretch there is at most the capacity, and from
then on every draw lowers what is left.

A budget that has had time to fill up is as good as a new one (`levelAt_eq_capacity`).
-/

namespace Ggid.Lib

variable {K : Type*} [Field K] [LinearOrder K]

/-- What is left, and since when. -/
@[ext]
structure Budget (K : Type*) where
  level : K
  time  : K

namespace Budget

section Draws

variable (capacity rate : K)

/-- What there is at a later time. -/
def levelAt (b : Budget K) (t : K) : K := min capacity (b.level + (t - b.time) * rate)

def draw (b : Budget K) (t : K) : Budget K × Bool :=
  if 1 ≤ b.levelAt capacity rate t then (⟨b.levelAt capacity rate t - 1, t⟩, true)
  else (⟨b.levelAt capacity rate t, t⟩, false)

/-- The budget after draws at some times. -/
def after (b : Budget K) (times : List K) : Budget K :=
  times.foldl (fun b t => (b.draw capacity rate t).1) b

/-- The draws, with what became of them. -/
def draws : Budget K → List K → List (K × Bool)
  | _, [] => []
  | b, t :: times => (t, (b.draw capacity rate t).2) :: draws (b.draw capacity rate t).1 times

/-- How many draws from `since` to `upTo` succeeded. -/
def drawn (since upTo : K) (draws : List (K × Bool)) : ℕ :=
  draws.countP fun d => d.2 && decide (since ≤ d.1) && decide (d.1 ≤ upTo)

end Draws

variable {capacity rate : K} {b : Budget K} {t since upTo : K} {times : List K}

-- ---------------------------------------------------------------------------
-- One draw
-- ---------------------------------------------------------------------------

theorem draw_time : (b.draw capacity rate t).1.time = t := by
  unfold draw
  split_ifs <;> rfl

/-- A draw lowers the level by one, if it succeeds. -/
theorem draw_level : (b.draw capacity rate t).1.level +
    (if (b.draw capacity rate t).2 = true then 1 else 0) = b.levelAt capacity rate t := by
  unfold draw
  split_ifs <;> simp_all

theorem draw_isTrue_iff : (b.draw capacity rate t).2 = true ↔ 1 ≤ b.levelAt capacity rate t := by
  unfold draw
  split_ifs with h
  · exact iff_of_true rfl h
  · exact iff_of_false (by simp) h

theorem draw_level_lt_one (h : (b.draw capacity rate t).2 = false) :
    (b.draw capacity rate t).1.level < 1 := by
  unfold draw at h ⊢
  split_ifs at h ⊢ with hone
  exact not_le.mp hone

theorem levelAt_le_capacity : b.levelAt capacity rate t ≤ capacity := min_le_left _ _

/-- Of the past, a draw depends on what there is. -/
theorem draw_congr {b' : Budget K} (h : b.levelAt capacity rate t = b'.levelAt capacity rate t) :
    b.draw capacity rate t = b'.draw capacity rate t := by
  unfold draw
  rw [h]

theorem drawn_draws_cons : drawn since upTo (b.draws capacity rate (t :: times)) =
    drawn since upTo ((b.draw capacity rate t).1.draws capacity rate times) +
      if ((b.draw capacity rate t).2 && decide (since ≤ t) && decide (t ≤ upTo)) = true then 1
      else 0 := by
  unfold drawn
  rw [draws, List.countP_cons]

theorem fst_mem_of_mem_draws {d : K × Bool} (h : d ∈ b.draws capacity rate times) :
    d.1 ∈ times := by
  induction times generalizing b with
  | nil => cases h
  | cons t times ih =>
    rw [draws, List.mem_cons] at h
    rcases h with rfl | h
    · exact List.mem_cons_self
    · exact List.mem_cons_of_mem _ (ih h)

omit [Field K] in
theorem late_of_sorted (hsorted : (t :: times).Pairwise (· ≤ ·)) (h : upTo < t) :
    ∀ t' ∈ t :: times, upTo < t' := by
  intro t' ht'
  rcases List.mem_cons.mp ht' with rfl | ht'
  · exact h
  · exact h.trans_le ((List.pairwise_cons.mp hsorted).1 t' ht')

theorem drawn_of_late (h : ∀ t ∈ times, upTo < t) :
    drawn since upTo (b.draws capacity rate times) = 0 := by
  refine List.countP_eq_zero.mpr fun d hd => ?_
  simp [(h d.1 (fst_mem_of_mem_draws hd)).not_ge]

section Order

variable [IsStrictOrderedRing K]

theorem draw_level_le : (b.draw capacity rate t).1.level ≤ b.levelAt capacity rate t := by
  rw [← draw_level]
  split_ifs <;> linarith

/-- A draw that is counted lowers the level. -/
theorem counted_le (capacity rate since upTo : K) :
    ((if ((b.draw capacity rate t).2 && decide (since ≤ t) && decide (t ≤ upTo)) = true then 1
      else 0 : ℕ) : K) ≤ if (b.draw capacity rate t).2 = true then 1 else 0 := by
  cases (b.draw capacity rate t).2 with
  | false => simp
  | true =>
    rw [if_pos rfl]
    split_ifs <;> simp

theorem draw_level_nonneg (h : 0 ≤ b.levelAt capacity rate t) :
    0 ≤ (b.draw capacity rate t).1.level := by
  unfold draw
  split_ifs with hone
  · exact sub_nonneg.mpr hone
  · exact h

theorem levelAt_nonneg (hcapacity : 0 ≤ capacity) (hrate : 0 ≤ rate) (hlevel : 0 ≤ b.level)
    (ht : b.time ≤ t) : 0 ≤ b.levelAt capacity rate t := by
  have hrefill : 0 ≤ (t - b.time) * rate := mul_nonneg (sub_nonneg.mpr ht) hrate
  exact le_min hcapacity (add_nonneg hlevel hrefill)

theorem levelAt_mono {t' : K} (hrate : 0 ≤ rate) (h : t ≤ t') :
    b.levelAt capacity rate t ≤ b.levelAt capacity rate t' := by
  have hrefill : (t - b.time) * rate ≤ (t' - b.time) * rate :=
    mul_le_mul_of_nonneg_right (sub_le_sub_right h _) hrate
  exact min_le_min le_rfl (by linarith)

/-- A budget that has had time to fill up is full. -/
theorem levelAt_eq_capacity (hlevel : 0 ≤ b.level) (hidle : capacity ≤ (t - b.time) * rate) :
    b.levelAt capacity rate t = capacity :=
  min_eq_left (hidle.trans (le_add_of_nonneg_left hlevel))

-- ---------------------------------------------------------------------------
-- Many draws
-- ---------------------------------------------------------------------------

variable (hcapacity : 0 ≤ capacity) (hrate : 0 ≤ rate)
include hcapacity hrate

/-- The level stays between nothing and the capacity. -/
theorem after_level (hlevel : 0 ≤ b.level) (hle : b.level ≤ capacity)
    (hsorted : (b.time :: times).Pairwise (· ≤ ·)) :
    0 ≤ (b.after capacity rate times).level ∧ (b.after capacity rate times).level ≤ capacity := by
  induction times generalizing b with
  | nil => exact ⟨hlevel, hle⟩
  | cons t times ih =>
    obtain ⟨hfirst, htimes⟩ := List.pairwise_cons.mp hsorted
    have hnonneg := levelAt_nonneg hcapacity hrate hlevel (hfirst t List.mem_cons_self)
    refine ih (draw_level_nonneg hnonneg) (draw_level_le.trans levelAt_le_capacity) ?_
    rwa [draw_time]

variable (since upTo) in
/-- From now on, what there is and what is refilled can be drawn. -/
theorem drawn_le (hlevel : 0 ≤ b.level) (hsorted : (b.time :: times).Pairwise (· ≤ ·))
    (hlast : b.time ≤ upTo) :
    (drawn since upTo (b.draws capacity rate times) : K) ≤ b.level + (upTo - b.time) * rate := by
  have hrefill : 0 ≤ (upTo - b.time) * rate := mul_nonneg (sub_nonneg.mpr hlast) hrate
  induction times generalizing b with
  | nil =>
    rw [draws, drawn, List.countP_nil, Nat.cast_zero]
    exact add_nonneg hlevel hrefill
  | cons t times ih =>
    obtain ⟨hfirst, htimes⟩ := List.pairwise_cons.mp hsorted
    have ht := hfirst t List.mem_cons_self
    by_cases hin : t ≤ upTo
    · have hnonneg := levelAt_nonneg hcapacity hrate hlevel ht
      have hrest := ih (b := (b.draw capacity rate t).1) (draw_level_nonneg hnonneg)
        (by rwa [draw_time]) (by rwa [draw_time])
        (by rw [draw_time]; exact mul_nonneg (sub_nonneg.mpr hin) hrate)
      rw [draw_time] at hrest
      have hlevelAt : b.levelAt capacity rate t ≤ b.level + (t - b.time) * rate := min_le_right _ _
      have htaken : (b.draw capacity rate t).1.level +
          (if (b.draw capacity rate t).2 = true then 1 else 0) =
            b.levelAt capacity rate t := draw_level
      have hcounted := counted_le (b := b) (t := t) capacity rate since upTo
      have hsplit : (upTo - b.time) * rate = (t - b.time) * rate + (upTo - t) * rate := by ring
      rw [drawn_draws_cons, Nat.cast_add, hsplit]
      linarith
    · rw [drawn_of_late (late_of_sorted htimes (not_le.mp hin)), Nat.cast_zero]
      exact add_nonneg hlevel hrefill

/-- **Over a stretch of time**, the capacity and what is refilled meanwhile can be drawn. -/
theorem drawn_within_le (hlevel : 0 ≤ b.level) (hsorted : (b.time :: times).Pairwise (· ≤ ·))
    (hstretch : since ≤ upTo) : (drawn since upTo (b.draws capacity rate times) : K) ≤
      capacity + (upTo - since) * rate := by
  have hrefill : 0 ≤ (upTo - since) * rate := mul_nonneg (sub_nonneg.mpr hstretch) hrate
  induction times generalizing b with
  | nil =>
    rw [draws, drawn, List.countP_nil, Nat.cast_zero]
    exact add_nonneg hcapacity hrefill
  | cons t times ih =>
    obtain ⟨hfirst, htimes⟩ := List.pairwise_cons.mp hsorted
    have hnonneg := levelAt_nonneg hcapacity hrate hlevel (hfirst t List.mem_cons_self)
    by_cases hbefore : t < since
    · -- the draw is not counted
      have hrest := ih (b := (b.draw capacity rate t).1) (draw_level_nonneg hnonneg)
        (by rwa [draw_time])
      rw [drawn_draws_cons, if_neg (by simp [hbefore]), Nat.add_zero]
      exact hrest
    by_cases hin : t ≤ upTo
    · -- the first draw of the stretch
      have hrest := drawn_le since upTo hcapacity hrate (b := (b.draw capacity rate t).1)
        (draw_level_nonneg hnonneg) (by rwa [draw_time]) (by rwa [draw_time])
      rw [draw_time] at hrest
      have hfull : b.levelAt capacity rate t ≤ capacity := levelAt_le_capacity
      have htaken : (b.draw capacity rate t).1.level +
          (if (b.draw capacity rate t).2 = true then 1 else 0) =
            b.levelAt capacity rate t := draw_level
      have hcounted := counted_le (b := b) (t := t) capacity rate since upTo
      have hshorter : (upTo - t) * rate ≤ (upTo - since) * rate :=
        mul_le_mul_of_nonneg_right (by linarith) hrate
      rw [drawn_draws_cons, Nat.cast_add]
      linarith
    · rw [drawn_of_late (late_of_sorted htimes (not_le.mp hin)), Nat.cast_zero]
      exact add_nonneg hcapacity hrefill

end Order

end Budget

end Ggid.Lib
