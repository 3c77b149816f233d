import Ggid.Identity.Patch
import Ggid.Identity.ValuePath

/-!
# Identity service — the paths of patches

What `parsePatchPath` makes of a path: the first `[` ends the attribute, and the first `]`
behind it the filter. Without a `]` there is no filter.

* `parsePatchPath_closed`, `parsePatchPath_open` — the three parts of a path with brackets;
* `filter_ne_empty`                              — a filter is not empty up to the first `]`.
-/

namespace Ggid.Identity

open Ggid.Go

-- ---------------------------------------------------------------------------
-- White space around a path and a filter
-- ---------------------------------------------------------------------------

section Trimming

variable {s : String} {rest : List Char}

theorem trimSpace_of_trimmed {core : List Char} (h : Trimmed core) :
    Strings.trimSpace (String.ofList core) = String.ofList core := by
  have hcore := trimSpace_trimmed h List.all_nil List.all_nil
  rwa [List.nil_append, List.append_nil] at hcore

/-- Nothing is left, or a text without white space at either end. -/
theorem trimSpace_cases (s : String) :
    Strings.trimSpace s = "" ∨ Trimmed (Strings.trimSpace s).toList := by
  rw [Strings.trimSpace, String.toList_ofList]
  generalize hfront : s.toList.dropWhile Strings.isSpace = front
  by_cases hcore : front.rdropWhile Strings.isSpace = []
  · rw [hcore]
    exact .inl rfl
  · refine .inr ⟨?_, ?_, hcore⟩
    · obtain ⟨back, hback⟩ := List.rdropWhile_prefix Strings.isSpace (l := front)
      have hhead : front.head?.any Strings.isSpace = false := by
        rw [← hfront]
        cases hdrop : s.toList.dropWhile Strings.isSpace with
        | nil => rfl
        | cons c cs =>
          have hc := List.head_dropWhile_not Strings.isSpace (l := s.toList) (by simp [hdrop])
          simpa [hdrop] using hc
      rwa [← hback, List.head?_append_of_ne_nil _ hcore] at hhead
    · rw [List.getLast?_eq_some_getLast hcore]
      simpa using List.rdropWhile_last_not Strings.isSpace front hcore

theorem trimSpace_trimSpace (s : String) :
    Strings.trimSpace (Strings.trimSpace s) = Strings.trimSpace s := by
  rcases trimSpace_cases s with hempty | htrimmed
  · rw [hempty]
    rfl
  · have hback := trimSpace_of_trimmed htrimmed
    rwa [String.ofList_toList] at hback

theorem parseFilter_trimSpace (s : String) : parseFilter (Strings.trimSpace s) = parseFilter s := by
  rw [parseFilter, trimSpace_trimSpace, ← parseFilter]

/-- No filter begins with a bracket. -/
theorem parseFilter_rbracket (h : (Strings.trimSpace s).toList = ']' :: rest) :
    ∃ err, parseFilter s = .error err := by
  have htokens : tokenize (']' :: rest) =
      (tokenizeFrom (']' :: rest) rest.length rest).map (Token.rbracket :: ·) := by
    show (tokenizeFrom (']' :: rest) rest.length rest).bind _ = _
    cases tokenizeFrom (']' :: rest) rest.length rest <;> rfl
  rw [parseFilter, h]
  simp only [htokens, if_neg (List.cons_ne_nil _ _)]
  split_ifs
  · exact ⟨_, rfl⟩
  · cases tokenizeFrom (']' :: rest) rest.length rest with
    | error err => exact ⟨err, rfl⟩
    | ok ts => exact ⟨.expectedAttribute [']'], rfl⟩

theorem all_isSpace_of_trimSpace (h : Strings.trimSpace s = "") :
    s.toList.all Strings.isSpace = true := by
  have hcore : (s.toList.dropWhile Strings.isSpace).rdropWhile Strings.isSpace = [] := by
    rw [Strings.trimSpace] at h
    simpa using congrArg String.toList h
  have hfront : s.toList.dropWhile Strings.isSpace = [] := by
    by_contra hne
    have hhead := List.head_dropWhile_not Strings.isSpace hne
    rw [List.rdropWhile_eq_nil_iff.mp hcore _ (List.head_mem hne)] at hhead
    exact absurd hhead (by decide)
  exact List.all_eq_true.mpr (List.dropWhile_eq_nil_iff.mp hfront)

/-- Only white space is no filter. -/
theorem trimSpace_of_parseFilter (h : parseFilter s = .ok none) : Strings.trimSpace s = "" := by
  rw [parseFilter] at h
  split_ifs at h with hempty
  · exact String.toList_eq_nil_iff.mp hempty
  · obtain ⟨ts, -, h⟩ := bind_ok.mp h
    obtain ⟨⟨expr, p⟩, -, h⟩ := bind_ok.mp h
    dsimp only at h
    split_ifs at h <;> cases h

theorem trimSpace_of_all (h : s.toList.all Strings.isSpace = true) : Strings.trimSpace s = "" := by
  rw [Strings.trimSpace, List.dropWhile_eq_nil_iff.mpr (List.all_eq_true.mp h)]
  rfl

/-- A text has no bracket, or goes on with one behind what comes up to the first. -/
theorem split_bracket (filter : List Char) : filter.takeWhile (· ≠ ']') = filter ∨
    ∃ rest, filter = filter.takeWhile (· ≠ ']') ++ ']' :: rest := by
  have hsplit : filter.takeWhile (· ≠ ']') ++ filter.dropWhile (· ≠ ']') = filter :=
    List.takeWhile_append_dropWhile
  cases hbehind : filter.dropWhile (· ≠ ']') with
  | nil =>
    rw [hbehind, List.append_nil] at hsplit
    exact .inl hsplit
  | cons c rest =>
    have hne : filter.dropWhile (· ≠ ']') ≠ [] := by
      rw [hbehind]
      exact List.cons_ne_nil _ _
    have hc := List.head_dropWhile_not (· ≠ ']') hne
    simp only [hbehind, List.head_cons, decide_eq_false_iff_not, not_not] at hc
    rw [hbehind, hc] at hsplit
    exact .inr ⟨rest, hsplit.symm⟩

/-- The text up to the first bracket; what is behind is `behind` where there is none. -/
theorem takeWhile_bracket (filter behind : List Char) : ∃ rest,
    filter ++ ']' :: behind = filter.takeWhile (· ≠ ']') ++ ']' :: rest := by
  obtain hnone | ⟨rest, hrest⟩ := split_bracket filter
  · exact ⟨behind, by rw [hnone]⟩
  · refine ⟨rest ++ ']' :: behind, ?_⟩
    conv_lhs => rw [hrest]
    rw [List.append_assoc, List.cons_append]

theorem bracket_not_mem_takeWhile (filter : List Char) : ']' ∉ filter.takeWhile (· ≠ ']') := by
  intro hmem
  exact absurd (List.mem_takeWhile_imp hmem) (by decide)

/-- Up to its first bracket a filter is not empty. -/
theorem filter_ne_empty {filter : List Char} {e : FilterExpr}
    (he : parseFilter (String.ofList filter) = .ok (some e)) :
    Strings.trimSpace (String.ofList (filter.takeWhile (· ≠ ']'))) ≠ "" := by
  intro hempty
  have hspaces : (filter.takeWhile (· ≠ ']')).all Strings.isSpace = true := by
    simpa using all_isSpace_of_trimSpace hempty
  obtain hwhole | ⟨behind, hsplit⟩ := split_bracket filter
  · have hnone : Strings.trimSpace (String.ofList filter) = "" :=
      trimSpace_of_all (by rwa [String.toList_ofList, ← hwhole])
    rw [parseFilter, hnone] at he
    cases he
  · -- the trimmed text begins with the bracket
    have hbracket : ∃ rest, (Strings.trimSpace (String.ofList filter)).toList = ']' :: rest := by
      have hstop : (']' :: behind).head?.any Strings.isSpace = false :=
        show Strings.isSpace ']' = false by decide
      rw [Strings.trimSpace, String.toList_ofList, String.toList_ofList, hsplit,
        (takeWhile_run hspaces hstop).2]
      obtain ⟨back, hback⟩ := List.rdropWhile_prefix Strings.isSpace (l := ']' :: behind)
      cases hcore : (']' :: behind).rdropWhile Strings.isSpace with
      | nil =>
        have hspace := List.rdropWhile_eq_nil_iff.mp hcore ']' List.mem_cons_self
        exact absurd hspace (by decide)
      | cons d core =>
        rw [hcore, List.cons_append] at hback
        exact ⟨core, by rw [(List.cons.inj hback).1]⟩
    obtain ⟨rest, hrest⟩ := hbracket
    obtain ⟨err, herr⟩ := parseFilter_rbracket hrest
    rw [herr] at he
    cases he

end Trimming

-- ---------------------------------------------------------------------------
-- The parts of a path
-- ---------------------------------------------------------------------------

section Parts

variable {path : String} {attr filter behind rest : List Char}

/-- The sub-attribute behind a closing bracket; the dot may be left out. -/
def subOf (rest : List Char) : List Char := if rest.head? = some '.' then rest.tail else rest

theorem parsePatchPath_closed
    (hpath : (Strings.trimSpace path).toList = attr ++ '[' :: (filter ++ ']' :: rest))
    (hattr : '[' ∉ attr) (hfilter : ']' ∉ filter) :
    parsePatchPath path = (String.ofList attr, String.ofList (subOf rest),
      Strings.trimSpace (String.ofList filter)) := by
  simp only [parsePatchPath, hpath, cut_append hattr, cut_append hfilter, subOf]

theorem parsePatchPath_open (hpath : (Strings.trimSpace path).toList = attr ++ '[' :: behind)
    (hattr : '[' ∉ attr) (hbehind : ']' ∉ behind) :
    parsePatchPath path = (String.ofList attr, "", "") := by
  simp only [parsePatchPath, hpath, cut_append hattr, cut_none hbehind]

theorem parsePatchPath_plain (hpath : '[' ∉ (Strings.trimSpace path).toList) :
    (parsePatchPath path).2.2 = "" := by
  simp only [parsePatchPath, cut_none hpath]
  split
  · split
    · rfl
    · split <;> rfl
  · split <;> rfl

/-- The three shapes of a path: without brackets, without the closing one, and with both. -/
theorem path_cases (path : String) :
    '[' ∉ (Strings.trimSpace path).toList ∧ (parsePatchPath path).2.2 = "" ∨
    (∃ attr behind, (Strings.trimSpace path).toList = attr ++ '[' :: behind ∧ '[' ∉ attr ∧
      ']' ∉ behind ∧ parsePatchPath path = (String.ofList attr, "", "")) ∨
    ∃ attr filter rest, (Strings.trimSpace path).toList = attr ++ '[' :: (filter ++ ']' :: rest) ∧
      '[' ∉ attr ∧ ']' ∉ filter ∧ parsePatchPath path = (String.ofList attr,
        String.ofList (subOf rest), Strings.trimSpace (String.ofList filter)) := by
  by_cases hopen : '[' ∈ (Strings.trimSpace path).toList
  · obtain ⟨attr, behind, hpath, hattr⟩ := List.eq_append_cons_of_mem hopen
    by_cases hclose : ']' ∈ behind
    · obtain ⟨filter, rest, rfl, hfilter⟩ := List.eq_append_cons_of_mem hclose
      exact .inr (.inr ⟨attr, filter, rest, hpath, hattr, hfilter,
        parsePatchPath_closed hpath hattr hfilter⟩)
    · exact .inr (.inl ⟨attr, behind, hpath, hattr, hclose, parsePatchPath_open hpath hattr hclose⟩)
  · exact .inl ⟨hopen, parsePatchPath_plain hopen⟩

end Parts

end Ggid.Identity
