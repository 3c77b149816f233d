import Ggid.Lib.Scattered
import Ggid.Policy.Match

/-!
# Policy engine — what a glob matches

`matchGlob` looks for the literal pieces of a pattern one after the other, each where it occurs
first, and at the end once more for the last one.

* `globLoop_iff`     — the loop finds the pieces if they occur in order;
* `matchGlob_iff`    — a text matches exactly if the stars stand for texts.
-/

namespace Ggid.Policy

open Ggid.Go Ggid.Lib

/-- The pattern with a text for each of its stars. -/
def substitute : List Char → List (List Char) → List Char
  | [], _ => []
  | c :: pattern, texts =>
    if c = '*' then texts.headD [] ++ substitute pattern texts.tail
    else c :: substitute pattern texts

-- ---------------------------------------------------------------------------
-- The pieces of a pattern
-- ---------------------------------------------------------------------------

/-- Texts between the pieces of a pattern are texts for its stars. -/
theorem fits_split_iff (pattern s : List Char) : Fits (Strings.split pattern '*') s ↔
    ∃ texts : List (List Char), texts.length = pattern.count '*' ∧ s = substitute pattern texts := by
  induction pattern generalizing s with
  | nil =>
    rw [Strings.split, List.splitOn_nil, fits_singleton_iff]
    exact ⟨fun hs => ⟨[], rfl, hs⟩, fun ⟨_, _, hs⟩ => hs⟩
  | cons c pattern ih =>
    unfold Strings.split at ih ⊢
    rw [List.splitOn_cons_eq_if_modifyHead]
    by_cases hc : c = '*'
    · subst hc
      rw [if_pos (beq_self_eq_true '*'), fits_cons_iff (List.splitOn_ne_nil _ _),
        List.count_cons_self]
      simp only [ih, substitute, if_true, List.nil_append]
      constructor
      · rintro ⟨gap, rest, rfl, texts, hlength, rfl⟩
        exact ⟨gap :: texts, by rw [List.length_cons, hlength], rfl⟩
      · rintro ⟨texts, hlength, rfl⟩
        cases texts with
        | nil => simp at hlength
        | cons gap texts => exact ⟨gap, _, rfl, texts, Nat.succ.inj hlength, rfl⟩
    · rw [if_neg (by simpa using hc), fits_modifyHead_iff (List.splitOn_ne_nil _ _),
        List.count_cons_of_ne hc]
      simp only [ih, substitute, if_neg hc]
      constructor
      · rintro ⟨rest, rfl, texts, hlength, rfl⟩
        exact ⟨texts, hlength, rfl⟩
      · rintro ⟨texts, hlength, rfl⟩
        exact ⟨_, rfl, texts, hlength, rfl⟩

/-- A pattern without a star is its only piece. -/
theorem eq_of_split_singleton {pattern piece : List Char}
    (h : Strings.split pattern '*' = [piece]) : pattern = piece := by
  have hjoin : ['*'].intercalate (Strings.split pattern '*') = pattern :=
    List.intercalate_splitOn '*'
  rw [h, List.intercalate_singleton] at hjoin
  exact hjoin.symm

/-- Behind a star at the end there is nothing. -/
theorem last_of_star {pattern : List Char} (h : Strings.hasSuffix pattern ['*'] = true) :
    (Strings.split pattern '*').getLastD [] = [] := by
  obtain ⟨front, rfl⟩ := List.isSuffixOf_iff_suffix.mp h
  rw [Strings.split, List.splitOn_append_cons_self, List.splitOn_nil, List.getLastD_concat]

-- ---------------------------------------------------------------------------
-- The loop
-- ---------------------------------------------------------------------------

theorem globLoop_iff {s : List Char} {i : Nat} (hi : 0 < i) (parts : List (List Char))
    (rest : List Char) : globLoop s i parts rest = true ↔ Scattered parts rest := by
  induction parts generalizing i rest with
  | nil => exact iff_of_true rfl (.nil rest)
  | cons part parts ih =>
    rw [globLoop]
    by_cases hpart : part = []
    · rw [if_pos hpart, hpart, ih (Nat.succ_pos i), scattered_empty_iff]
    rw [if_neg hpart, if_neg (by simp [hi.ne'])]
    cases hindex : Strings.index part rest with
    | none =>
      refine iff_of_false Bool.false_ne_true fun h => ?_
      obtain ⟨gap, behind, hrest, -⟩ := scattered_cons_iff.mp h
      exact Strings.index_eq_none hindex gap behind hrest
    | some pos =>
      show globLoop s (i + 1) parts (rest.drop (pos + part.length)) = true ↔ _
      obtain ⟨behind, hbehind⟩ := Strings.index_spec hindex
      have hrest : rest = rest.take pos ++ (part ++ behind) := by
        rw [hbehind, List.take_append_drop]
      have hfirst : ∀ gap' rest', rest = gap' ++ (part ++ rest') →
          (rest.take pos).length ≤ gap'.length := fun gap' rest' h =>
        (List.length_take_le pos rest).trans (Strings.index_le hindex h)
      rw [← List.drop_drop, ← hbehind, List.drop_left, ih (Nat.succ_pos i)]
      exact (Scattered.of_first hrest hfirst).symm

/-- The first piece has to begin the text. -/
theorem globLoop_zero_iff (s part : List Char) (parts : List (List Char)) :
    globLoop s 0 (part :: parts) s = true ↔
      part <+: s ∧ Scattered parts (s.drop part.length) := by
  rw [globLoop]
  by_cases hpart : part = []
  · subst hpart
    rw [if_pos rfl, globLoop_iff Nat.one_pos]
    exact (and_iff_right List.nil_prefix).symm
  rw [if_neg hpart]
  by_cases hhead : part <+: s
  · have hbegins : Strings.hasPrefix s part = true := List.isPrefixOf_iff_prefix.mpr hhead
    rw [hbegins, if_neg (by simp), Strings.index_of_prefix hhead]
    show globLoop s 1 parts (s.drop (0 + part.length)) = true ↔ _
    rw [Nat.zero_add, globLoop_iff Nat.one_pos]
    exact (and_iff_right hhead).symm
  · have hbegins : Strings.hasPrefix s part = false :=
      Bool.eq_false_iff.mpr fun h => hhead (List.isPrefixOf_iff_prefix.mp h)
    rw [hbegins, if_pos (by simp)]
    exact iff_of_false Bool.false_ne_true fun h => hhead h.1

-- ---------------------------------------------------------------------------
-- The match
-- ---------------------------------------------------------------------------

theorem matchGlobChars_iff_fits (pattern s : List Char) :
    matchGlobChars pattern s = true ↔ Fits (Strings.split pattern '*') s := by
  unfold matchGlobChars
  obtain ⟨first, others, hparts⟩ :=
    List.exists_cons_of_ne_nil (List.splitOn_ne_nil '*' pattern)
  change Strings.split pattern '*' = first :: others at hparts
  obtain rfl | ⟨middle, last, rfl⟩ := others.eq_nil_or_concat'
  · simp only [hparts, List.length_singleton, if_true, decide_eq_true_eq, fits_singleton_iff]
    rw [eq_of_split_singleton hparts, eq_comm]
  · have hlength : (first :: (middle ++ [last])).length ≠ 1 := by simp
    have hlast : (first :: (middle ++ [last])).getLastD [] = last := by
      rw [← List.cons_append, List.getLastD_concat]
    simp only [hparts, if_neg hlength, hlast]
    rw [fits_iff, ← and_assoc, ← globLoop_zero_iff]
    cases globLoop s 0 (first :: (middle ++ [last])) s with
    | false => simp
    | true =>
      cases hstar : Strings.hasSuffix pattern ['*'] with
      | false => simp [Strings.hasSuffix]
      | true =>
        -- the last piece is behind the star
        have hempty := last_of_star hstar
        rw [hparts, hlast] at hempty
        simp [hempty]

/-- **A text matches a pattern** exactly if it is the pattern with a text for each star. -/
theorem matchGlob_iff (pattern s : String) : matchGlob pattern s = true ↔
    ∃ texts : List (List Char), texts.length = pattern.toList.count '*' ∧
      s.toList = substitute pattern.toList texts := by
  rw [matchGlob, matchGlobChars_iff_fits, fits_split_iff]

-- The piece between the stars is behind the first, and the last one behind both.
example : matchGlob "a*ab*b" "aabb" = true ∧ matchGlob "a*ab*b" "aab" = false := by
  decide

end Ggid.Policy
