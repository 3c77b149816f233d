import Mathlib.Data.List.Basic

/-!
# Pieces in order

Pieces that occur in a list one behind the other, with anything in front of each and behind the
last; and pieces that fill a list but for what is between them.

The occurrence that is found first leaves most to the pieces behind it, so looking for one piece
after the other finds them all if they are there (`Scattered.of_first`). With the last piece, which
has to be at the end, it is enough that it occurs in its turn and ends the list (`fits_iff`): the
occurrence at the end is behind the one that was found.
-/

namespace Ggid.Lib

variable {α : Type*} {p q : List α} {ps : List (List α)} {s t : List α}

-- ---------------------------------------------------------------------------
-- Pieces that occur
-- ---------------------------------------------------------------------------

inductive Scattered : List (List α) → List α → Prop
  | nil (s : List α) : Scattered [] s
  | cons (gap p : List α) {ps : List (List α)} {rest : List α} (h : Scattered ps rest) :
    Scattered (p :: ps) (gap ++ (p ++ rest))

theorem scattered_cons_iff :
    Scattered (p :: ps) s ↔ ∃ gap rest, s = gap ++ (p ++ rest) ∧ Scattered ps rest := by
  constructor
  · rintro ⟨⟩
    rename_i gap rest h
    exact ⟨gap, rest, rfl, h⟩
  · rintro ⟨gap, rest, rfl, h⟩
    exact .cons gap p h

theorem Scattered.append_left (h : Scattered ps s) (t : List α) : Scattered ps (t ++ s) := by
  cases h with
  | nil => exact .nil _
  | cons gap p h =>
    rw [← List.append_assoc]
    exact .cons (t ++ gap) p h

theorem Scattered.append_right (h : Scattered ps s) (t : List α) : Scattered ps (s ++ t) := by
  induction h with
  | nil => exact .nil _
  | cons gap p _ ih =>
    rw [List.append_assoc, List.append_assoc]
    exact .cons gap p ih

/-- A piece without elements is everywhere. -/
theorem scattered_empty_iff : Scattered ([] :: ps) s ↔ Scattered ps s := by
  rw [scattered_cons_iff]
  constructor
  · rintro ⟨gap, rest, rfl, h⟩
    exact h.append_left gap
  · exact fun h => ⟨[], s, rfl, h⟩

theorem scattered_concat_iff :
    Scattered (ps ++ [q]) s ↔ ∃ front back, s = front ++ (q ++ back) ∧ Scattered ps front := by
  induction ps generalizing s with
  | nil =>
    rw [List.nil_append, scattered_cons_iff]
    exact ⟨fun ⟨gap, rest, hs, _⟩ => ⟨gap, rest, hs, .nil _⟩,
      fun ⟨front, back, hs, _⟩ => ⟨front, back, hs, .nil _⟩⟩
  | cons p ps ih =>
    rw [List.cons_append, scattered_cons_iff]
    constructor
    · rintro ⟨gap, rest, rfl, h⟩
      obtain ⟨front, back, rfl, hfront⟩ := ih.mp h
      exact ⟨gap ++ (p ++ front), back, by simp, .cons gap p hfront⟩
    · rintro ⟨front, back, rfl, h⟩
      obtain ⟨gap, rest, rfl, hrest⟩ := scattered_cons_iff.mp h
      exact ⟨gap, rest ++ (q ++ back), by simp, ih.mpr ⟨rest, back, rfl, hrest⟩⟩

/-- **The first occurrence** of a piece leaves most to the others. -/
theorem Scattered.of_first {gap rest : List α} (hs : s = gap ++ (p ++ rest))
    (hfirst : ∀ gap' rest', s = gap' ++ (p ++ rest') → gap.length ≤ gap'.length) :
    Scattered (p :: ps) s ↔ Scattered ps rest := by
  rw [scattered_cons_iff]
  constructor
  · rintro ⟨gap', rest', hs', h⟩
    have hrest : rest <:+ s := ⟨gap ++ p, by rw [hs, List.append_assoc]⟩
    have hrest' : rest' <:+ s := ⟨gap' ++ p, by rw [hs', List.append_assoc]⟩
    have hlength : rest'.length ≤ rest.length := by
      have hsame := congrArg List.length (hs.symm.trans hs')
      have hle := hfirst gap' rest' hs'
      simp only [List.length_append] at hsame
      omega
    obtain ⟨between, rfl⟩ := List.suffix_of_suffix_length_le hrest' hrest hlength
    exact h.append_left between
  · exact fun h => ⟨gap, rest, hs, h⟩

-- ---------------------------------------------------------------------------
-- Pieces that fill a list
-- ---------------------------------------------------------------------------

inductive Fits : List (List α) → List α → Prop
  | last (p : List α) : Fits [p] p
  | cons (p gap : List α) {ps : List (List α)} {rest : List α} (h : Fits ps rest) :
    Fits (p :: ps) (p ++ (gap ++ rest))

theorem fits_singleton_iff : Fits [p] s ↔ s = p := by
  constructor
  · rintro (_ | ⟨_, gap, ⟨⟩⟩)
    rfl
  · rintro rfl
    exact .last _

theorem fits_cons_iff (hps : ps ≠ []) :
    Fits (p :: ps) s ↔ ∃ gap rest, s = p ++ (gap ++ rest) ∧ Fits ps rest := by
  constructor
  · rintro (_ | ⟨_, gap, h⟩)
    · exact absurd rfl hps
    · exact ⟨gap, _, rfl, h⟩
  · rintro ⟨gap, rest, rfl, h⟩
    exact .cons p gap h

theorem fits_modifyHead_iff {a : α} (hps : ps ≠ []) :
    Fits (ps.modifyHead (a :: ·)) s ↔ ∃ rest, s = a :: rest ∧ Fits ps rest := by
  obtain ⟨p, ps, rfl⟩ := List.exists_cons_of_ne_nil hps
  rw [List.modifyHead_cons]
  by_cases hone : ps = []
  · subst hone
    simp only [fits_singleton_iff, exists_eq_right]
  · simp only [fits_cons_iff hone]
    constructor
    · rintro ⟨gap, rest, rfl, h⟩
      exact ⟨_, rfl, gap, rest, rfl, h⟩
    · rintro ⟨_, rfl, gap, rest, rfl, h⟩
      exact ⟨gap, rest, rfl, h⟩

/-- Between the first piece and the last, the others occur. -/
theorem fits_concat_iff :
    Fits (p :: (ps ++ [q])) s ↔ ∃ middle, s = p ++ (middle ++ q) ∧ Scattered ps middle := by
  induction ps generalizing p s with
  | nil =>
    rw [List.nil_append, fits_cons_iff (by simp)]
    simp only [fits_singleton_iff, exists_eq_right]
    exact exists_congr fun middle => (and_iff_left (.nil middle)).symm
  | cons r ps ih =>
    rw [List.cons_append, fits_cons_iff (by simp)]
    simp only [ih]
    constructor
    · rintro ⟨gap, rest, rfl, middle, rfl, h⟩
      exact ⟨gap ++ (r ++ middle), by simp, .cons gap r h⟩
    · rintro ⟨middle, rfl, h⟩
      obtain ⟨gap, rest, rfl, hrest⟩ := scattered_cons_iff.mp h
      exact ⟨gap, r ++ (rest ++ q), by simp, rest, rfl, hrest⟩

/-- **Pieces fill a list** exactly if the first begins it, the others occur behind that, and the
last ends it. -/
theorem fits_iff : Fits (p :: (ps ++ [q])) s ↔
    p <+: s ∧ Scattered (ps ++ [q]) (s.drop p.length) ∧ q <:+ s := by
  rw [fits_concat_iff]
  constructor
  · rintro ⟨middle, rfl, h⟩
    refine ⟨List.prefix_append _ _, ?_, ?_⟩
    · rw [List.drop_left]
      exact scattered_concat_iff.mpr ⟨middle, [], by rw [List.append_nil], h⟩
    · rw [← List.append_assoc]
      exact List.suffix_append _ _
  · rintro ⟨⟨t, rfl⟩, h, hlast⟩
    rw [List.drop_left] at h
    obtain ⟨front, back, rfl, hfound⟩ := scattered_concat_iff.mp h
    -- the end is not in front of where the last piece was found
    have hlength : q.length ≤ (front ++ (q ++ back)).length := by
      simp only [List.length_append]
      omega
    have hend : q <:+ front ++ (q ++ back) :=
      List.suffix_of_suffix_length_le hlast (List.suffix_append _ _) hlength
    obtain ⟨middle, hmiddle⟩ := hend
    have hfront : front <+: middle := by
      have hlength := congrArg List.length hmiddle
      simp only [List.length_append] at hlength
      exact List.prefix_of_prefix_length_le (List.prefix_append front (q ++ back))
        ⟨q, hmiddle⟩ (by omega)
    obtain ⟨more, rfl⟩ := hfront
    exact ⟨front ++ more, by rw [← hmiddle], hfound.append_right more⟩

end Ggid.Lib
