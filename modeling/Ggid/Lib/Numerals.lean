import Mathlib.Algebra.Order.Group.Nat
import Mathlib.Order.Basic
import Mathlib.Tactic.Tauto

/-!
# Numerals

Numbers written with the digits of a base, the highest first, and in what order their numerals
come as texts: by their leading digits, as many as the shorter one has, and then by their
length.

* `numeral_split`  — the leading digits of a numeral are a numeral;
* `numeral_lt_iff` — the order of texts, by the numbers.
-/

namespace Ggid.Lib

-- ---------------------------------------------------------------------------
-- Texts with a common length in front
-- ---------------------------------------------------------------------------

/-- The order of two texts is that of their beginnings, if these are equally long. -/
theorem append_lt_append_iff {α : Type*} [LT α] {xs ys : List α} (s t : List α)
    (h : xs.length = ys.length) : xs ++ s < ys ++ t ↔ xs < ys ∨ xs = ys ∧ s < t := by
  induction xs generalizing ys with
  | nil =>
    obtain rfl : ys = [] := List.length_eq_zero_iff.mp h.symm
    simp
  | cons x xs ih =>
    cases ys with
    | nil => exact absurd h (by simp)
    | cons y ys =>
      rw [List.cons_append, List.cons_append, List.cons_lt_cons_iff, List.cons_lt_cons_iff,
        ih (Nat.succ.inj h), List.cons.injEq]
      tauto

/-- The digits of a base, in their order. -/
structure Digits (α : Type*) [LT α] (b : Nat) where
  digit   : Nat → α
  two_le  : 2 ≤ b
  lt_iff  : ∀ i < b, ∀ j < b, (digit i < digit j ↔ i < j)

namespace Digits

variable {α : Type*} [LT α] {b : Nat} (d : Digits α b)

/-- The numeral of a number. -/
def numeral (n : Nat) : List α :=
  if h : n < b then [d.digit n]
  else
    have : n / b < n := Nat.div_lt_self (by have := d.two_le; omega) d.two_le
    numeral (n / b) ++ [d.digit (n % b)]

/-- The number of digits. -/
def size (n : Nat) : Nat := (d.numeral n).length

/-- The leading digits of `u`, as many as `v` has if these are fewer. -/
def lead (u v : Nat) : Nat := u / b ^ (d.size u - d.size v)

theorem numeral_of_lt {n : Nat} (h : n < b) : d.numeral n = [d.digit n] := by
  rw [numeral, dif_pos h]

theorem numeral_of_le {n : Nat} (h : b ≤ n) :
    d.numeral n = d.numeral (n / b) ++ [d.digit (n % b)] := by
  rw [numeral, dif_neg (Nat.not_lt.mpr h)]

theorem size_of_lt {n : Nat} (h : n < b) : d.size n = 1 := by
  rw [size, d.numeral_of_lt h, List.length_singleton]

theorem size_of_le {n : Nat} (h : b ≤ n) : d.size n = d.size (n / b) + 1 := by
  rw [size, d.numeral_of_le h, List.length_append, List.length_singleton, size]

theorem size_pos (n : Nat) : 0 < d.size n := by
  rcases Nat.lt_or_ge n b with h | h
  · rw [d.size_of_lt h]
    exact Nat.one_pos
  · rw [d.size_of_le h]
    exact Nat.succ_pos _

theorem size_eq_one_iff {n : Nat} : d.size n = 1 ↔ n < b := by
  refine ⟨fun h => ?_, d.size_of_lt⟩
  by_contra hge
  rw [d.size_of_le (Nat.not_lt.mp hge)] at h
  exact absurd (Nat.succ.inj h) (Nat.ne_of_gt (d.size_pos _))

theorem digit_inj {i j : Nat} (hi : i < b) (hj : j < b) (h : d.digit i = d.digit j) : i = j := by
  have hij : ¬ i < j := by
    rw [← d.lt_iff i hi j hj, h, d.lt_iff j hj j hj]
    exact Nat.lt_irrefl j
  have hji : ¬ j < i := by
    rw [← d.lt_iff j hj i hi, h, d.lt_iff j hj j hj]
    exact Nat.lt_irrefl j
  omega

/-- Two numbers are in the order of their quotients, and then of their remainders. -/
theorem lt_iff_div_mod (u v : Nat) (hb : 0 < b) :
    u < v ↔ u / b < v / b ∨ u / b = v / b ∧ u % b < v % b := by
  have hu := Nat.div_add_mod u b
  have hv := Nat.div_add_mod v b
  have hmod := Nat.mod_lt u hb
  have hmod' := Nat.mod_lt v hb
  rcases Nat.lt_trichotomy (u / b) (v / b) with h | h | h
  · have hle : b * (u / b + 1) ≤ b * (v / b) := Nat.mul_le_mul_left b h
    rw [Nat.mul_add, Nat.mul_one] at hle
    omega
  · rw [h] at hu ⊢
    omega
  · have hle : b * (v / b + 1) ≤ b * (u / b) := Nat.mul_le_mul_left b h
    rw [Nat.mul_add, Nat.mul_one] at hle
    omega

/-- Numerals that are equally long are in the order of the numbers. -/
theorem numeral_same_size : ∀ (u v : Nat), d.size u = d.size v →
    (d.numeral u < d.numeral v ↔ u < v) ∧ (d.numeral u = d.numeral v ↔ u = v) := by
  intro u
  induction u using Nat.strongRecOn with
  | ind u ih =>
    intro v hsize
    have hbase := d.two_le
    rcases Nat.lt_or_ge u b with hu | hu
    · have hv : v < b := by
        rw [← d.size_eq_one_iff, ← hsize, d.size_of_lt hu]
      rw [d.numeral_of_lt hu, d.numeral_of_lt hv]
      refine ⟨?_, fun h => d.digit_inj hu hv (List.cons.inj h).1, fun h => by rw [h]⟩
      rw [List.cons_lt_cons_iff, d.lt_iff u hu v hv]
      simp
    · have hv : b ≤ v := by
        by_contra hlt
        have hone := d.size_of_lt (Nat.not_le.mp hlt)
        rw [hone, d.size_eq_one_iff] at hsize
        omega
      have hrest : d.size (u / b) = d.size (v / b) := by
        rw [d.size_of_le hu, d.size_of_le hv] at hsize
        exact Nat.succ.inj hsize
      obtain ⟨hlt, heq⟩ := ih (u / b) (Nat.div_lt_self (by omega) hbase) (v / b) hrest
      have humod := Nat.mod_lt u (show 0 < b by omega)
      have hvmod := Nat.mod_lt v (show 0 < b by omega)
      rw [d.numeral_of_le hu, d.numeral_of_le hv]
      constructor
      · rw [append_lt_append_iff _ _ hrest, hlt, heq, lt_iff_div_mod u v (show 0 < b by omega),
          List.cons_lt_cons_iff, d.lt_iff _ humod _ hvmod]
        simp
      · constructor
        · intro h
          obtain ⟨hfront, hlast⟩ := List.append_inj h hrest
          rw [← Nat.div_add_mod u b, ← Nat.div_add_mod v b, heq.mp hfront,
            d.digit_inj humod hvmod (List.cons.inj hlast).1]
        · intro h
          rw [h]

/-- **The leading digits** of a numeral are a numeral. -/
theorem numeral_split (n : Nat) : ∀ k < d.size n, ∃ tail, tail.length = k ∧
    d.numeral n = d.numeral (n / b ^ k) ++ tail := by
  intro k
  induction k with
  | zero => exact fun _ => ⟨[], rfl, by rw [pow_zero, Nat.div_one, List.append_nil]⟩
  | succ k ih =>
    intro hk
    obtain ⟨tail, hlength, hsplit⟩ := ih (Nat.lt_of_succ_lt hk)
    have hlong : b ≤ n / b ^ k := by
      by_contra hlt
      have hsize := congrArg List.length hsplit
      rw [d.numeral_of_lt (Nat.not_le.mp hlt), List.length_append, List.length_singleton, hlength]
        at hsize
      rw [size, hsize] at hk
      omega
    refine ⟨d.digit (n / b ^ k % b) :: tail, by rw [List.length_cons, hlength], ?_⟩
    rw [hsplit, d.numeral_of_le hlong, Nat.div_div_eq_div_mul, ← pow_succ, List.append_assoc,
      List.singleton_append]

/-- Cut to the length of a shorter one. -/
theorem numeral_lead {u v : Nat} (h : d.size v ≤ d.size u) : ∃ tail,
    tail.length = d.size u - d.size v ∧ d.numeral u = d.numeral (d.lead u v) ++ tail ∧
      d.size (d.lead u v) = d.size v := by
  have hpos := d.size_pos v
  obtain ⟨tail, hlength, hsplit⟩ := d.numeral_split u (d.size u - d.size v) (by omega)
  refine ⟨tail, hlength, hsplit, ?_⟩
  have hsize := congrArg List.length hsplit
  rw [List.length_append, hlength] at hsize
  show (d.numeral (d.lead u v)).length = d.size v
  rw [lead]
  have hu : (d.numeral u).length = d.size u := rfl
  omega

theorem lead_of_le {u v : Nat} (h : d.size u ≤ d.size v) : d.lead u v = u := by
  rw [lead, Nat.sub_eq_zero_of_le h, pow_zero, Nat.div_one]

/-- **The order of numerals** as texts is that of their leading digits, as many as the shorter
one has, and then that of their lengths. -/
theorem numeral_lt_iff (u v : Nat) :
    d.numeral u < d.numeral v ↔
      d.lead u v < d.lead v u ∨ d.lead u v = d.lead v u ∧ d.size u < d.size v := by
  rcases Nat.le_total (d.size u) (d.size v) with h | h
  · obtain ⟨tail, hlength, hsplit, hsize⟩ := d.numeral_lead h
    obtain ⟨hlt, heq⟩ := d.numeral_same_size u (d.lead v u) hsize.symm
    have htail : [] < tail ↔ d.size u < d.size v := by
      rw [← Nat.sub_pos_iff_lt, ← hlength]
      cases tail <;> simp
    conv_lhs => rw [hsplit, ← List.append_nil (d.numeral u)]
    rw [append_lt_append_iff _ _ hsize.symm, hlt, heq, htail, d.lead_of_le h]
  · obtain ⟨tail, hlength, hsplit, hsize⟩ := d.numeral_lead h
    obtain ⟨hlt, heq⟩ := d.numeral_same_size (d.lead u v) v hsize
    conv_lhs => rw [hsplit, ← List.append_nil (d.numeral v)]
    rw [append_lt_append_iff _ _ hsize, hlt, heq, d.lead_of_le h]
    simp [Nat.not_lt.mpr h]

theorem numeral_inj {u v : Nat} (h : d.numeral u = d.numeral v) : u = v :=
  (d.numeral_same_size u v (congrArg List.length h)).2.mp h

end Digits

end Ggid.Lib
