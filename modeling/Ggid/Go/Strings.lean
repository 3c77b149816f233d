import Mathlib.Data.List.Basic
import Mathlib.Data.List.DropRight

/-!
# Package `strings`

The functions of Go's `strings` package the services use, on the characters of
a string. A position in a string is represented by the characters that follow
it, so slicing `s[i:]` is dropping a prefix.
-/

namespace Ggid.Go.Strings

/-- `strings.HasPrefix`. -/
def hasPrefix (s pre : List Char) : Bool := pre.isPrefixOf s

/-- `strings.HasSuffix`. -/
def hasSuffix (s suf : List Char) : Bool := suf.isSuffixOf s

/-- `strings.TrimSuffix` with a one-character suffix. -/
def trimSuffixChar (s : List Char) (c : Char) : List Char :=
  if hasSuffix s [c] then s.dropLast else s

/-- `strings.TrimPrefix`. -/
def trimPrefix (s pre : List Char) : List Char :=
  if hasPrefix s pre then s.drop pre.length else s

/-- `strings.TrimSuffix`. -/
def trimSuffix (s suf : List Char) : List Char :=
  if hasSuffix s suf then s.take (s.length - suf.length) else s

/-- `strings.Index`: the first position at which `sub` occurs, `none` for `-1`. -/
def index (sub : List Char) : List Char → Option Nat
  | [] => if sub = [] then some 0 else none
  | c :: s => if hasPrefix (c :: s) sub then some 0 else (index sub s).map (· + 1)

/-- `strings.Replace` with a limit of one. -/
def replaceFirst (s old new : List Char) : List Char :=
  match index old s with
  | none => s
  | some i => s.take i ++ new ++ s.drop (i + old.length)

/-- `strings.Contains`. -/
def contains (s sub : List Char) : Bool := (index sub s).isSome

/-- `strings.ToLower`; `unicode` is what it does to a character outside ASCII. -/
def toLower (unicode : Char → Char) (s : String) : String :=
  String.ofList (s.toList.map fun c => if c.toNat < 0x80 then c.toLower else unicode c)

/-- `strings.Split` at a one-character separator. -/
def split (s : List Char) (sep : Char) : List (List Char) := s.splitOn sep

/-- The pieces of a text between occurrences of `sep`, `cur` being the part of the current piece
already read and `skip` what is left of an occurrence. -/
def splitFrom (sep : List Char) : Nat → List Char → List Char → List (List Char)
  | _, cur, [] => [cur]
  | skip + 1, cur, _ :: s => splitFrom sep skip cur s
  | 0, cur, c :: s =>
    if hasPrefix (c :: s) sep then cur :: splitFrom sep (sep.length - 1) [] s
    else splitFrom sep 0 (cur ++ [c]) s

/-- `strings.Split` at a separator that is not empty. -/
def splitText (s sep : List Char) : List (List Char) := splitFrom sep 0 [] s

/-- `strings.Trim` with a cutset of one character. -/
def trim (s : List Char) (c : Char) : List Char :=
  (s.dropWhile fun d => d == c).rdropWhile fun d => d == c

/-! ## Literals -/

/-- The texts and their characters. Unification finds the characters of a literal, which `toList`
has to decode from its bytes; with them, a check over many literals can be computed. -/
inductive Characters : List String → List (List Char) → Prop
  | nil : Characters [] []
  | cons {texts : List String} {chars : List (List Char)} (first : List Char)
      (rest : Characters texts chars) : Characters (String.ofList first :: texts) (first :: chars)

theorem Characters.map_toList {texts : List String} {chars : List (List Char)}
    (h : Characters texts chars) : texts.map String.toList = chars := by
  induction h with
  | nil => rfl
  | cons first _ ih => rw [List.map_cons, ih, String.toList_ofList]

/-! ## Replacing -/

/-- What is found starts at the position that is reported. -/
theorem index_spec {sub : List Char} : ∀ {s : List Char} {i : Nat}, index sub s = some i →
    sub <+: s.drop i := by
  intro s
  induction s with
  | nil =>
    intro i h
    rw [index] at h
    split at h
    · rename_i hsub
      rw [hsub]
      exact List.nil_prefix
    · exact absurd h (by simp)
  | cons c s ih =>
    intro i h
    rw [index] at h
    split at h
    · rename_i hhead
      obtain rfl := Option.some.inj h
      exact List.isPrefixOf_iff_prefix.mp hhead
    · obtain ⟨j, hj, rfl⟩ := Option.map_eq_some_iff.mp h
      rw [List.drop_succ_cons]
      exact ih hj

/-- What is not found occurs nowhere. -/
theorem index_eq_none {sub s : List Char} (h : index sub s = none) (before after : List Char) :
    s ≠ before ++ (sub ++ after) := by
  induction s generalizing before with
  | nil =>
    rw [index] at h
    split at h
    · exact absurd h (by simp)
    · rename_i hsub
      simp [hsub]
  | cons c s ih =>
    rw [index] at h
    split at h
    · exact absurd h (by simp)
    · rename_i hhead
      rw [Option.map_eq_none_iff] at h
      intro hs
      cases before with
      | nil => exact hhead (List.isPrefixOf_iff_prefix.mpr ⟨after, hs.symm⟩)
      | cons d before => exact ih h before (List.cons.inj hs).2

/-- What is found occurs nowhere before. -/
theorem index_le {sub s : List Char} {i : Nat} (h : index sub s = some i) {before after : List Char}
    (hs : s = before ++ (sub ++ after)) : i ≤ before.length := by
  induction s generalizing i before with
  | nil =>
    rw [index] at h
    split at h
    · rw [← Option.some.inj h]
      exact Nat.zero_le _
    · exact absurd h (by simp)
  | cons c s ih =>
    rw [index] at h
    split at h
    · rw [← Option.some.inj h]
      exact Nat.zero_le _
    · rename_i hhead
      obtain ⟨j, hj, rfl⟩ := Option.map_eq_some_iff.mp h
      cases before with
      | nil => exact absurd (List.isPrefixOf_iff_prefix.mpr ⟨after, hs.symm⟩) hhead
      | cons d before => exact Nat.succ_le_succ (ih hj (List.cons.inj hs).2)

theorem index_of_prefix {sub s : List Char} (h : sub <+: s) : index sub s = some 0 := by
  cases s with
  | nil => rw [index, if_pos (List.prefix_nil.mp h)]
  | cons c s =>
    rw [index, if_pos]
    exact List.isPrefixOf_iff_prefix.mpr h

theorem takeWhile_ne_append {c : Char} {xs : List Char} (h : c ∉ xs) (ys : List Char) :
    (xs ++ c :: ys).takeWhile (· ≠ c) = xs := by
  have hxs : ∀ x ∈ xs, decide (x ≠ c) = true := by
    intro x hx
    exact decide_eq_true fun hxc => h (hxc ▸ hx)
  rw [List.takeWhile_append_of_pos hxs, List.takeWhile_cons_of_neg (by simp), List.append_nil]

theorem dropWhile_ne_append {c : Char} {xs : List Char} (h : c ∉ xs) (ys : List Char) :
    (xs ++ c :: ys).dropWhile (· ≠ c) = c :: ys := by
  have hxs : ∀ x ∈ xs, decide (x ≠ c) = true := by
    intro x hx
    exact decide_eq_true fun hxc => h (hxc ▸ hx)
  rw [List.dropWhile_append_of_pos hxs, List.dropWhile_cons_of_neg (by simp)]

/-- The first occurrence of a character splits a text in one way. -/
theorem append_cons_inj {c : Char} {xs xs' ys ys' : List Char} (hxs : c ∉ xs) (hxs' : c ∉ xs')
    (h : xs ++ c :: ys = xs' ++ c :: ys') : xs = xs' ∧ ys = ys' := by
  have htake := congrArg (List.takeWhile (· ≠ c)) h
  have hdrop := congrArg (List.dropWhile (· ≠ c)) h
  rw [takeWhile_ne_append hxs, takeWhile_ne_append hxs'] at htake
  rw [dropWhile_ne_append hxs, dropWhile_ne_append hxs'] at hdrop
  exact ⟨htake, (List.cons.inj hdrop).2⟩

/-- Nothing is replaced, or one occurrence is. -/
theorem replaceFirst_cases (s old new : List Char) : replaceFirst s old new = s ∨
    ∃ before after, s = before ++ old ++ after ∧
      replaceFirst s old new = before ++ new ++ after := by
  unfold replaceFirst
  cases hindex : index old s with
  | none => exact .inl rfl
  | some i =>
    obtain ⟨after, hafter⟩ := index_spec hindex
    refine .inr ⟨s.take i, after, ?_, ?_⟩
    · rw [List.append_assoc, hafter, List.take_append_drop]
    · show s.take i ++ new ++ s.drop (i + old.length) = s.take i ++ new ++ after
      rw [← List.drop_drop, ← hafter, List.drop_left]

/-- An occurrence at the start is the first. -/
theorem replaceFirst_self (old s new : List Char) :
    replaceFirst (old ++ s) old new = new ++ s := by
  have hindex : index old (old ++ s) = some 0 := index_of_prefix (List.prefix_append _ _)
  unfold replaceFirst
  rw [hindex]
  show (old ++ s).take 0 ++ new ++ (old ++ s).drop (0 + old.length) = new ++ s
  rw [List.take_zero, List.nil_append, Nat.zero_add, List.drop_left]

theorem replaceFirst_cons {old s : List Char} {c : Char} (h : ¬ old <+: c :: s)
    (new : List Char) : replaceFirst (c :: s) old new = c :: replaceFirst s old new := by
  have hindex : index old (c :: s) = (index old s).map (· + 1) := by
    rw [index, if_neg]
    rwa [hasPrefix, List.isPrefixOf_iff_prefix]
  unfold replaceFirst
  rw [hindex]
  cases index old s with
  | none => rfl
  | some i =>
    show (c :: s).take (i + 1) ++ new ++ (c :: s).drop (i + 1 + old.length) =
      c :: (s.take i ++ new ++ s.drop (i + old.length))
    rw [List.take_succ_cons, Nat.add_right_comm, List.drop_succ_cons]
    rfl

/-- Neither of two texts begins the other. -/
def apart : List Char → List Char → Bool
  | c :: s, d :: t => c != d || apart s t
  | _, _ => false

theorem not_prefix_of_apart {s t : List Char} (h : apart s t = true) (u : List Char) :
    ¬ t <+: s ++ u := by
  fun_induction apart s t with
  | case1 c s d t ih =>
    rw [List.cons_append, List.cons_prefix_cons]
    rintro ⟨rfl, hpre⟩
    rw [bne_self_eq_false, Bool.false_or] at h
    exact ih h hpre
  | case2 => exact absurd h (by simp)

/-- A text in which the old one does not start, however it goes on, is left as it is. -/
theorem replaceFirst_append {x old : List Char}
    (h : (x.tails.all fun u => u.isEmpty || apart u old) = true) (s new : List Char) :
    replaceFirst (x ++ s) old new = x ++ replaceFirst s old new := by
  induction x with
  | nil => rfl
  | cons c x ih =>
    rw [List.tails, List.all_cons, Bool.and_eq_true] at h
    have hhead : ¬ old <+: c :: (x ++ s) := not_prefix_of_apart h.1 s
    rw [List.cons_append, replaceFirst_cons hhead, ih h.2, List.cons_append]

section Unreplaced

variable {k w : List Char}

/-- A text that does not contain what the old and the new one begin with is a prefix after the
replacement where it is one before. -/
theorem prefix_replaceFirst_iff (hk : ¬ k <:+: w) (s o n : List Char) :
    w <+: replaceFirst s (k ++ o) (k ++ n) ↔ w <+: s := by
  rcases replaceFirst_cases s (k ++ o) (k ++ n) with hsame | ⟨before, after, hs, hreplaced⟩
  · rw [hsame]
  -- it ends before `k` does
  have hends : ∀ u, w <+: before ++ (k ++ u) ↔ w <+: before ++ k := by
    intro u
    rw [← List.append_assoc]
    constructor
    · intro hw
      rcases List.prefix_or_prefix_of_prefix hw (List.prefix_append (before ++ k) u) with h | h
      · exact h
      · obtain ⟨v, hv⟩ := h
        exact absurd ⟨before, v, hv⟩ hk
    · exact fun hw => hw.trans (List.prefix_append _ _)
  rw [hreplaced, hs]
  simp only [List.append_assoc]
  rw [hends, hends]

theorem replaceFirst_eq_iff (hk : ¬ k <:+: w) (s o n : List Char) :
    replaceFirst s (k ++ o) (k ++ n) = w ↔ s = w := by
  rcases replaceFirst_cases s (k ++ o) (k ++ n) with hsame | ⟨before, after, hs, hreplaced⟩
  · rw [hsame]
  · have hcontains : ∀ u, before ++ (k ++ u) ++ after ≠ w := by
      rintro u rfl
      exact hk ⟨before, u ++ after, by simp⟩
    rw [hreplaced, hs]
    exact iff_of_false (hcontains n) (hcontains o)

end Unreplaced

/-! ## Words -/

/-- `unicode.IsSpace`. -/
def isSpace (c : Char) : Bool :=
  c.toNat ∈ [0x09, 0x0A, 0x0B, 0x0C, 0x0D, 0x20, 0x85, 0xA0, 0x1680, 0x2028, 0x2029, 0x202F,
    0x205F, 0x3000] || (0x2000 ≤ c.toNat && c.toNat ≤ 0x200A)

/-- The words of a text, `cur` being the part of the current word already read. -/
def wordsFrom (cur : List Char) : List Char → List (List Char)
  | [] => if cur = [] then [] else [cur]
  | c :: s =>
    if isSpace c then if cur = [] then wordsFrom [] s else cur :: wordsFrom [] s
    else wordsFrom (cur ++ [c]) s

/-- `strings.Fields`: the text split around runs of white space. -/
def fields (s : String) : List String := (wordsFrom [] s.toList).map String.ofList

/-- `strings.TrimSpace`. -/
def trimSpace (s : String) : String :=
  String.ofList ((s.toList.dropWhile isSpace).rdropWhile isSpace)

/-- `strings.Join`. -/
def join (sep : String) : List String → String
  | [] => ""
  | [a] => a
  | a :: b :: l => a ++ sep ++ join sep (b :: l)

/-- A white space between two texts separates their words. -/
theorem wordsFrom_append_space {c : Char} (hc : isSpace c = true) (b : List Char) :
    ∀ (a cur : List Char), wordsFrom cur (a ++ c :: b) = wordsFrom cur a ++ wordsFrom [] b := by
  intro a
  induction a with
  | nil =>
    intro cur
    simp only [List.nil_append, wordsFrom, hc, if_true]
    split <;> rfl
  | cons d a ih =>
    intro cur
    rw [List.cons_append, wordsFrom, wordsFrom]
    by_cases hd : isSpace d = true
    · rw [if_pos hd, if_pos hd, ih []]
      split <;> rfl
    · rw [if_neg hd, if_neg hd, ih]

theorem wordsFrom_dropWhile (s : List Char) : wordsFrom [] (s.dropWhile isSpace) = wordsFrom [] s := by
  induction s with
  | nil => rfl
  | cons c s ih =>
    by_cases hc : isSpace c = true
    · rw [List.dropWhile_cons_of_pos hc, ih, wordsFrom, if_pos hc, if_pos rfl]
    · rw [List.dropWhile_cons_of_neg hc]

/-- White space at the end adds no word. -/
theorem wordsFrom_append_spaces {spaces : List Char} (h : ∀ c ∈ spaces, isSpace c = true)
    (a cur : List Char) : wordsFrom cur (a ++ spaces) = wordsFrom cur a := by
  cases spaces with
  | nil => rw [List.append_nil]
  | cons c rest =>
    rw [wordsFrom_append_space (h c (List.mem_cons_self ..))]
    have hrest : wordsFrom [] rest = [] := by
      have hall : rest.dropWhile isSpace = [] :=
        List.dropWhile_eq_nil_iff.mpr fun d hd => h d (List.mem_cons_of_mem _ hd)
      rw [← wordsFrom_dropWhile, hall]
      rfl
    rw [hrest, List.append_nil]

theorem wordsFrom_rdropWhile (s cur : List Char) :
    wordsFrom cur (s.rdropWhile isSpace) = wordsFrom cur s := by
  have hsplit : s = s.rdropWhile isSpace ++ s.rtakeWhile isSpace :=
    List.rdropWhile_append_rtakeWhile.symm
  have hspaces : ∀ c ∈ s.rtakeWhile isSpace, isSpace c = true := by
    intro c hc
    exact List.mem_rtakeWhile_imp hc
  conv_rhs => rw [hsplit, wordsFrom_append_spaces hspaces]

/-- The two ends of a text hold no word of their own. -/
@[simp] theorem fields_trimSpace (s : String) : fields (trimSpace s) = fields s := by
  unfold fields trimSpace
  rw [String.toList_ofList, wordsFrom_rdropWhile, wordsFrom_dropWhile]

theorem fields_append_space (a b : String) : fields (a ++ " " ++ b) = fields a ++ fields b := by
  unfold fields
  have hchars : (a ++ " " ++ b).toList = a.toList ++ ' ' :: b.toList := by
    rw [String.toList_append, String.toList_append]
    simp
  rw [hchars, wordsFrom_append_space (by decide), List.map_append]

/-- The words of texts joined by spaces are the words of the texts. -/
theorem fields_join (l : List String) : fields (join " " l) = l.flatMap fields := by
  induction l with
  | nil => rfl
  | cons a l ih =>
    cases l with
    | nil =>
      show fields a = fields a ++ []
      rw [List.append_nil]
    | cons b l =>
      rw [join, fields_append_space, ih]
      rfl

/-- A word has no white space and at least one character. -/
theorem wordsFrom_word {cur : List Char} (hcur : ∀ c ∈ cur, isSpace c = false) :
    ∀ (s : List Char), ∀ w ∈ wordsFrom cur s, w ≠ [] ∧ ∀ c ∈ w, isSpace c = false := by
  intro s
  induction s generalizing cur with
  | nil =>
    intro w hw
    rw [wordsFrom] at hw
    split at hw
    · exact absurd hw (by simp)
    · rename_i hne
      rw [List.mem_singleton.mp hw]
      exact ⟨hne, hcur⟩
  | cons c s ih =>
    intro w hw
    rw [wordsFrom] at hw
    split at hw
    · split at hw
      · exact ih (by simp) w hw
      · rename_i hne
        rcases List.mem_cons.mp hw with rfl | hw
        · exact ⟨hne, hcur⟩
        · exact ih (by simp) w hw
    · rename_i hc
      refine ih (fun d hd => ?_) w hw
      rcases List.mem_append.mp hd with hd | hd
      · exact hcur d hd
      · rw [List.mem_singleton.mp hd]
        simpa using hc

/-- Text without white space is a word. -/
theorem wordsFrom_of_noSpace : ∀ (s cur : List Char), (∀ c ∈ s, isSpace c = false) →
    cur ++ s ≠ [] → wordsFrom cur s = [cur ++ s] := by
  intro s
  induction s with
  | nil =>
    intro cur _ hne
    rw [wordsFrom, if_neg (by simpa using hne), List.append_nil]
  | cons c s ih =>
    intro cur hs _
    have hc : isSpace c = false := hs c (List.mem_cons_self ..)
    rw [wordsFrom, hc, if_neg (by simp), ih _ (fun d hd => hs d (List.mem_cons_of_mem _ hd)) (by simp),
      List.append_assoc]
    rfl

/-- A word is its own only word. -/
theorem fields_word {s w : String} (hw : w ∈ fields s) : fields w = [w] := by
  obtain ⟨chars, hchars, rfl⟩ := List.mem_map.mp hw
  obtain ⟨hne, hspace⟩ := wordsFrom_word (by simp) _ chars hchars
  unfold fields
  rw [String.toList_ofList, wordsFrom_of_noSpace chars [] hspace (by simpa using hne)]
  rfl

end Ggid.Go.Strings
