import Mathlib.Algebra.Order.Group.Int
import Mathlib.Algebra.Order.Group.Unbundled.Basic
import Mathlib.Data.List.Count
import Mathlib.Data.List.Induction
import Mathlib.Order.Basic

/-!
# Arrivals in a sliding window

Something arrives now and then, and is admitted if fewer than `limit` arrivals, admitted or not,
lie in the window before it. In no window are more than `limit` admitted then (`countP_admitted`),
and whatever is not admitted had as many before it (`Judged.of_refused`).
-/

namespace Ggid.Lib

variable {τ : Type*} [AddCommGroup τ] [LinearOrder τ]

structure Arrival (τ : Type*) where
  time     : τ
  admitted : Bool

/-- How many of these times lie in the window before `t`. -/
def recent (window t : τ) (times : List τ) : ℤ := (times.countP fun u => t - window < u : ℕ)

/-- Each arrival is admitted exactly if fewer than `limit` arrivals lie in the window before it;
`earlier` are the times of those before the list. -/
def Judged (limit : ℤ) (window : τ) : List τ → List (Arrival τ) → Prop
  | _, [] => True
  | earlier, a :: arrivals =>
    (a.admitted = true ↔ recent window a.time earlier < limit) ∧
      Judged limit window (earlier ++ [a.time]) arrivals

variable {limit : ℤ} {window : τ} {earlier : List τ} {arrivals front back : List (Arrival τ)}
  {a : Arrival τ}

theorem Judged.admitted_iff (h : Judged limit window earlier (front ++ a :: back)) :
    a.admitted = true ↔ recent window a.time (earlier ++ front.map Arrival.time) < limit := by
  induction front generalizing earlier with
  | nil =>
    rw [List.map_nil, List.append_nil]
    exact h.1
  | cons b front ih =>
    rw [List.map_cons, List.append_cons]
    exact ih h.2

theorem Judged.left (h : Judged limit window earlier (front ++ back)) :
    Judged limit window earlier front := by
  induction front generalizing earlier with
  | nil => trivial
  | cons a front ih => exact ⟨h.1, ih h.2⟩

/-- What is refused has `limit` arrivals before it. -/
theorem Judged.of_refused (h : Judged limit window [] (front ++ a :: back))
    (hrefused : a.admitted = false) : limit ≤ recent window a.time (front.map Arrival.time) := by
  have hno : ¬ recent window a.time (front.map Arrival.time) < limit := by
    rw [← List.nil_append (front.map Arrival.time), ← h.admitted_iff, hrefused]
    simp
  exact not_lt.mp hno

/-- How many are admitted in `(t - window, t]`. -/
def admittedIn (window t : τ) (arrivals : List (Arrival τ)) : ℤ :=
  (arrivals.countP fun a => a.admitted && (decide (t - window < a.time) && decide (a.time ≤ t)) : ℕ)

/-- **In every window** at most `limit` are admitted: the last of them has the others in the window
before it. -/
theorem Judged.admittedIn_le [IsOrderedAddMonoid τ] (hlimit : 0 ≤ limit)
    (h : Judged limit window [] arrivals) (t : τ) :
    admittedIn window t arrivals ≤ limit := by
  induction arrivals using List.reverseRecOn with
  | nil => exact hlimit
  | append_singleton front a ih =>
    rw [admittedIn, List.countP_append, List.countP_singleton]
    by_cases hin : (a.admitted && (decide (t - window < a.time) && decide (a.time ≤ t))) = true
    · obtain ⟨hadmitted, -, hle⟩ : a.admitted = true ∧ t - window < a.time ∧ a.time ≤ t := by
        simpa using hin
      have hfew := h.admitted_iff.mp hadmitted
      rw [List.nil_append] at hfew
      have hmore : (front.countP fun b => b.admitted &&
            (decide (t - window < b.time) && decide (b.time ≤ t))) ≤
          (front.map Arrival.time).countP fun u => decide (a.time - window < u) := by
        rw [List.countP_map]
        refine List.countP_mono_left fun b _ hb => ?_
        obtain ⟨-, hlt, -⟩ : b.admitted = true ∧ t - window < b.time ∧ b.time ≤ t := by
          simpa using hb
        exact decide_eq_true ((sub_le_sub_right hle window).trans_lt hlt)
      rw [if_pos hin]
      unfold recent at hfew
      omega
    · rw [if_neg hin]
      exact ih h.left

end Ggid.Lib
