import Ggid.Identity.Evaluate
import Ggid.Identity.FilterPrinting

/-!
# Identity service — value paths

What a filter like `emails[type eq "work"].value eq "ann@example.org"` says of a
resource: some element of the attribute satisfies the inner filter and has the
sub-attribute, and the value of that passes the test.

`parseAttrPath` turns the inner filter back into text, and `resolveAttrPath` looks
for the first `]` in it and parses what is in front. The values of the elements that
are left become one value: none is nil, and several are a list, which a comparison
prints.

* `evaluate_filter` — what is evaluated, if the inner filter is read back;
* `value_path_iff`  — when that is what the filter says.
-/

namespace Ggid.Identity

open Ggid.Go

-- ---------------------------------------------------------------------------
-- Value paths and what they say
-- ---------------------------------------------------------------------------

/-- `op v`, or `pr`. -/
inductive Test where
  | present (w : Operator .pr)
  | compare (op : ComparisonOp) (w : Operator op) (hop : op ≠ .pr) (v : Literal)

def Test.ask (p : Sentence .path) : Test → Sentence .primary
  | .present w => .present p w
  | .compare op w hop v => .compare p op w hop v

def Test.holds (std : Stdlib) (t : Test) (actual : Any) : Bool :=
  match t with
  | .present _ => evaluateComparison std actual .pr .nil
  | .compare op _ _ v => evaluateComparison std actual op v.value

/-- `attr[inner].sub`. -/
structure ValuePath where
  attr  : Word .ident
  inner : Sentence .or
  sub   : Word .ident

def elementOf : Any → Option GoMap
  | .map m => some m
  | _ => none

/-- The elements of a multi-valued attribute. -/
def elements (std : Stdlib) (attrs : GoMap) (attr : String) : List GoMap :=
  match lookupFold std attrs attr with
  | .slice items => items.filterMap elementOf
  | _ => []

/-- The sub-attribute an element has under the name. -/
def subAttribute (std : Stdlib) (m : GoMap) (sub : String) : Option Any :=
  (m.find? fun e => std.equalFold e.1 sub).map Prod.snd

namespace ValuePath

def path (p : ValuePath) : Sentence .path := .sub (.filtered (.name p.attr) p.inner) p.sub

/-- `attr[inner].sub op v`. -/
def filter (p : ValuePath) (t : Test) : Sentence .or :=
  .conjunction (.operand (.primary (t.ask p.path)))

/-- The elements that satisfy the inner filter. -/
def matching (p : ValuePath) (std : Stdlib) (attrs : GoMap) : List GoMap :=
  (elements std attrs (String.ofList p.attr.chars)).filter fun m => p.inner.tree.evaluate std m

/-- What the filter says of a resource. -/
def Selects (p : ValuePath) (std : Stdlib) (t : Test) (attrs : GoMap) : Prop :=
  ∃ m ∈ elements std attrs (String.ofList p.attr.chars), p.inner.tree.evaluate std m = true ∧
    ∃ v, subAttribute std m (String.ofList p.sub.chars) = some v ∧ t.holds std v = true

/-- The inner filter, turned back into text, is read as it was written: no string in it
holds a quote, a backslash or a bracket, no value path is nested in it, and it is within
the limits of `ParseFilter` with a space behind every token but the last. -/
structure ReadBack (p : ValuePath) : Prop where
  plain   : ∀ t ∈ p.inner.tokens, t.isPlain = true
  bracket : ']' ∉ spaced p.inner.tokens
  length  : byteLength (spaced p.inner.tokens) ≤ maxFilterLen + 1
  groups  : p.inner.groups < maxDepth

end ValuePath

/-- The values of the matching elements, as one value. -/
def gather : List Any → Any
  | [] => .nil
  | [v] => v
  | vs => .slice vs

-- ---------------------------------------------------------------------------
-- Paths without brackets
-- ---------------------------------------------------------------------------

section Flat

variable {ch : Char} {a b path : List Char}

theorem cut_append (h : ch ∉ a) : cut ch (a ++ ch :: b) = some (a, b) := by
  unfold cut
  rw [if_pos (List.mem_append_right a List.mem_cons_self), Strings.takeWhile_ne_append h,
    Strings.dropWhile_ne_append h, List.tail_cons]

theorem cut_none (h : ch ∉ a) : cut ch a = none := if_neg h

/-- What is in front of the cut is free of the character. -/
theorem not_mem_of_cut (h : cut ch path = some (a, b)) : ch ∉ a := by
  unfold cut at h
  split at h
  · cases h
    intro hmem
    exact absurd (List.mem_takeWhile_imp hmem) (by simp)
  · exact nomatch h

theorem mem_of_cut (h : cut ch path = some (a, b)) : ∀ c ∈ a, c ∈ path := by
  unfold cut at h
  split at h
  · cases h
    exact fun c hc => (List.takeWhile_prefix _).subset hc
  · exact nomatch h

variable (std : Stdlib) (m : GoMap)

theorem resolveAttrPath_name (turns : Nat) (hbracket : '[' ∉ path) (hdot : '.' ∉ path) :
    resolveAttrPath std (turns + 1) m path = lookupFold std m (String.ofList path) := by
  rw [resolveAttrPath, cut_none hbracket]
  simp only [cut_none hdot]

/-- Two turns are enough. -/
theorem resolveAttrPath_flat (turns turns' : Nat) (hbracket : '[' ∉ path) :
    resolveAttrPath std (turns + 2) m path = resolveAttrPath std (turns' + 2) m path := by
  rw [resolveAttrPath, resolveAttrPath, cut_none hbracket]
  cases hcut : cut '.' path with
  | none => rfl
  | some parts =>
    obtain ⟨parent, child⟩ := parts
    have hdot : '.' ∉ parent := not_mem_of_cut hcut
    have hparent : '[' ∉ parent := fun hmem => hbracket (mem_of_cut hcut _ hmem)
    simp only [resolveAttrPath_name std m _ hparent hdot]

end Flat

-- ---------------------------------------------------------------------------
-- Sentences without brackets
-- ---------------------------------------------------------------------------

section Sentences

variable {l : Level} {ch : Char}

theorem isIdentChar_of_mem {kind : TokenKind} (w : Word kind) :
    ∀ c ∈ w.chars, isIdentChar c = true := by
  obtain ⟨chars, hident, -⟩ := w
  cases chars with
  | nil => exact absurd hident (by decide)
  | cons c tail =>
    obtain ⟨hstart, hrun⟩ := Bool.and_eq_true_iff.mp hident
    refine List.forall_mem_cons.mpr ⟨?_, List.all_eq_true.mp hrun⟩
    rw [isIdentChar, Bool.or_right_comm, hstart, Bool.true_or]

theorem not_mem_word {kind : TokenKind} (w : Word kind) (h : isIdentChar ch = false) :
    ch ∉ w.chars := by
  intro hmem
  rw [isIdentChar_of_mem w ch hmem] at h
  exact absurd h (by decide)

theorem tokens_ne_nil (s : Sentence l) : s.tokens ≠ [] := by
  induction s with
  | name n => simp [Sentence.tokens]
  | sub p n => simp [Sentence.tokens]
  | filtered p f => simp [Sentence.tokens]
  | present p w => simp [Sentence.tokens]
  | compare p op w hop v => simp [Sentence.tokens]
  | valuePath p f => simp [Sentence.tokens]
  | group s ih => simp [Sentence.tokens]
  | primary s ih => exact ih
  | not w s ih => simp [Sentence.tokens]
  | operand s ih => exact ih
  | and l w r ihl ihr => simp [Sentence.tokens]
  | conjunction s ih => exact ih
  | or l w r ihl ihr => simp [Sentence.tokens]

theorem bracket_not_mem_pathText : ∀ (p : Sentence .path), Token.rbracket ∉ p.tokens →
    '[' ∉ p.pathText
  | .name n, _ => by
    rw [Sentence.pathText]
    exact not_mem_word n (by decide)
  | .sub p n, h => by
    rw [Sentence.tokens, List.mem_append, not_or] at h
    rw [Sentence.pathText, List.mem_append, not_or]
    refine ⟨bracket_not_mem_pathText p h.1, ?_⟩
    rw [List.mem_cons, not_or]
    exact ⟨by decide, not_mem_word n (by decide)⟩
  | .filtered p f, h => absurd (by simp [Sentence.tokens]) h

/-- A tree without brackets only asks for the values of paths without brackets. -/
theorem evaluateBy_congr (std : Stdlib) {resolve resolve' : List Char → Any}
    (hresolve : ∀ path, '[' ∉ path → resolve path = resolve' path) (s : Sentence l)
    (h : Token.rbracket ∉ s.tokens) :
    s.tree.evaluateBy std resolve = s.tree.evaluateBy std resolve' := by
  have hpath : ∀ p : Sentence .path, Token.rbracket ∉ p.tokens → ∀ op v,
      (FilterExpr.attr (String.ofList p.pathText) op v).evaluateBy std resolve =
        (FilterExpr.attr (String.ofList p.pathText) op v).evaluateBy std resolve' := by
    intro p hp op v
    rw [FilterExpr.evaluateBy, FilterExpr.evaluateBy, String.toList_ofList,
      hresolve _ (bracket_not_mem_pathText p hp)]
  induction s with
  | name n => exact hpath _ h _ _
  | sub p n => exact hpath _ h _ _
  | filtered p f => exact absurd (by simp [Sentence.tokens]) h
  | present p w =>
    rw [Sentence.tokens, List.mem_append, not_or] at h
    exact hpath _ h.1 _ _
  | compare p op w hop v =>
    rw [Sentence.tokens, List.mem_append, not_or] at h
    exact hpath _ h.1 _ _
  | valuePath p f => exact absurd (by simp [Sentence.tokens]) h
  | group s ih =>
    rw [Sentence.tokens, List.mem_cons, not_or, List.mem_append, not_or] at h
    exact ih h.2.1
  | primary s ih => exact ih h
  | not w s ih =>
    rw [Sentence.tokens, List.mem_cons, not_or] at h
    exact congrArg (!·) (ih h.2)
  | operand s ih => exact ih h
  | and l w r ihl ihr =>
    rw [Sentence.tokens, List.mem_append, not_or, List.mem_cons, not_or] at h
    exact congrArg₂ (· && ·) (ihl h.1) (ihr h.2.2)
  | conjunction s ih => exact ih h
  | or l w r ihl ihr =>
    rw [Sentence.tokens, List.mem_append, not_or, List.mem_cons, not_or] at h
    exact congrArg₂ (· || ·) (ihl h.1) (ihr h.2.2)

theorem attached_of_flat (s : Sentence l) (h : Token.rbracket ∉ s.tokens) : s.attached = true := by
  induction s with
  | name n => rfl
  | sub p n => rfl
  | filtered p f => rfl
  | present p w => rfl
  | compare p op w hop v => rfl
  | valuePath p f => exact absurd (by simp [Sentence.tokens]) h
  | group s ih =>
    rw [Sentence.tokens, List.mem_cons, not_or, List.mem_append, not_or] at h
    exact ih h.2.1
  | primary s ih => exact ih h
  | not w s ih =>
    rw [Sentence.tokens, List.mem_cons, not_or] at h
    exact ih h.2
  | operand s ih => exact ih h
  | and l w r ihl ihr =>
    rw [Sentence.tokens, List.mem_append, not_or, List.mem_cons, not_or] at h
    rw [Sentence.attached, ihl h.1, ihr h.2.2]
    rfl
  | conjunction s ih => exact ih h
  | or l w r ihl ihr =>
    rw [Sentence.tokens, List.mem_append, not_or, List.mem_cons, not_or] at h
    rw [Sentence.attached, ihl h.1, ihr h.2.2]
    rfl

end Sentences

-- ---------------------------------------------------------------------------
-- What is evaluated
-- ---------------------------------------------------------------------------

section Evaluation

variable {p : ValuePath} (std : Stdlib) (attrs : GoMap)

theorem ValuePath.ReadBack.flat (h : p.ReadBack) : Token.rbracket ∉ p.inner.tokens := by
  intro hmem
  refine h.bracket (List.mem_flatMap.mpr ⟨.rbracket, hmem, ?_⟩)
  decide

/-- **The inner filter is read back** from the text an attribute path has of it. -/
theorem parseFilter_spaced (h : p.ReadBack) :
    parseFilter (String.ofList (spaced p.inner.tokens)) = .ok (some p.inner.tree) := by
  have hrender : ∀ t ∈ p.inner.tokens, Spells t t.render := by
    intro t ht
    obtain ⟨text, htext⟩ := exists_spells p.inner t ht
    exact spells_render htext (h.plain t ht)
  obtain ⟨ts, t, htokens⟩ : ∃ ts t, p.inner.tokens = ts ++ [t] :=
    ⟨_, _, (List.dropLast_append_getLast (tokens_ne_nil p.inner)).symm⟩
  have hspaced : spaced p.inner.tokens = [] ++ ((spaced ts ++ t.render) ++ [' ']) := by
    rw [htokens]
    simp [spaced]
  have hspelled : Spelled p.inner.tokens (spaced ts ++ t.render) := by
    rw [htokens] at hrender ⊢
    refine spelled_spaced (fun t' ht' => hrender t' (List.mem_append_left _ ht')) (.last ?_)
    exact hrender t (List.mem_append_right ts List.mem_cons_self)
  have hlength : byteLength (spaced ts ++ t.render) ≤ maxFilterLen := by
    have htrailing : byteLength (spaced p.inner.tokens) =
        byteLength (spaced ts ++ t.render) + 1 := by
      rw [hspaced]
      simp only [byteLength, List.nil_append, List.map_append, List.sum_append]
      rfl
    have hlimit := h.length
    omega
  rw [hspaced]
  exact (parseFilter_tree_iff hspelled List.all_nil (by decide)).mpr
    ⟨hlength, h.groups, attached_of_flat p.inner h.flat⟩

/-- The values the matching elements have under the name of the sub-attribute. -/
def ValuePath.values (p : ValuePath) : List Any :=
  (p.matching std attrs).map fun m => lookupFold std m (String.ofList p.sub.chars)

theorem resolveAttrPath_word (m : GoMap) (turns : Nat) {kind : TokenKind} (w : Word kind) :
    resolveAttrPath std (turns + 1) m w.chars = lookupFold std m (String.ofList w.chars) :=
  resolveAttrPath_name std m turns (not_mem_word w (by decide)) (not_mem_word w (by decide))

/-- Inside the brackets the turns that are left are enough. -/
theorem inner_holds (h : p.ReadBack) (m : GoMap) (turns : Nat) :
    p.inner.tree.evaluateBy std (resolveAttrPath std (turns + 2) m) =
      p.inner.tree.evaluate std m := by
  refine evaluateBy_congr std (fun path hpath => ?_) p.inner h.flat
  exact resolveAttrPath_flat std m turns (2 * path.length) hpath

theorem filterMap_elements (keep : GoMap → Bool) (value : GoMap → Any) (items : List Any) :
    items.filterMap (fun item => match item with
      | .map m => if keep m = true then some (value m) else none
      | _ => none) = ((items.filterMap elementOf).filter keep).map value := by
  induction items with
  | nil => rfl
  | cons item items ih =>
    cases item with
    | map m =>
      cases hkeep : keep m with
      | true => simp [elementOf, hkeep, ih]
      | false => simp [elementOf, hkeep, ih]
    | _ => exact ih

theorem gather_eq (vs : List Any) :
    (match vs with | [] => .nil | [v] => v | vs => .slice vs) = gather vs := by
  rcases vs with _ | ⟨v, _ | ⟨v', vs⟩⟩ <;> rfl

/-- The first bracket is the one behind the attribute. -/
theorem cut_path (p : ValuePath) : cut '[' p.path.pathText =
    some (p.attr.chars, spaced p.inner.tokens ++ ']' :: ('.' :: p.sub.chars)) := by
  have htext : p.path.pathText =
      p.attr.chars ++ '[' :: (spaced p.inner.tokens ++ ']' :: ('.' :: p.sub.chars)) := by
    simp [ValuePath.path, Sentence.pathText]
  rw [htext]
  exact cut_append (not_mem_word p.attr (by decide))

theorem resolveAttrPath_valuePath (h : p.ReadBack) (turns : Nat) :
    resolveAttrPath std (turns + 3) attrs p.path.pathText = gather (p.values std attrs) := by
  have hclose : cut ']' (spaced p.inner.tokens ++ ']' :: ('.' :: p.sub.chars)) =
      some (spaced p.inner.tokens, '.' :: p.sub.chars) := cut_append h.bracket
  have hsub : p.sub.chars ≠ [] := by
    intro hnil
    have hident := p.sub.ident
    rw [hnil] at hident
    exact absurd hident (by decide)
  rw [resolveAttrPath, cut_path]
  simp only [hclose, resolveAttrPath_word, parseFilter_spaced h, List.head?_cons, if_true,
    List.tail_cons, ne_eq, hsub, not_false_iff]
  cases hvalue : lookupFold std attrs (String.ofList p.attr.chars) with
  | slice items =>
    have hvalues : p.values std attrs = ((items.filterMap elementOf).filter
        fun m => p.inner.tree.evaluate std m).map
        fun m => lookupFold std m (String.ofList p.sub.chars) := by
      rw [ValuePath.values, ValuePath.matching, elements, hvalue]
    rw [hvalues, ← filterMap_elements]
    simp only [Option.all_some, inner_holds std h]
    exact gather_eq _
  | _ =>
    have hnone : p.values std attrs = [] := by
      rw [ValuePath.values, ValuePath.matching, elements, hvalue]
      rfl
    rw [hnone]
    rfl

/-- The test, of whatever the path is resolved to. -/
theorem evaluate_ask (p : ValuePath) (t : Test) :
    ∃ turns, (p.filter t).tree.evaluate std attrs =
      t.holds std (resolveAttrPath std (turns + 3) attrs p.path.pathText) := by
  have hturns : 2 * p.path.pathText.length - 1 + 3 = 2 * p.path.pathText.length + 2 := by
    have hlength : 0 < p.path.pathText.length := by
      simp only [ValuePath.path, Sentence.pathText, List.length_append, List.length_cons]
      omega
    omega
  refine ⟨2 * p.path.pathText.length - 1, ?_⟩
  rw [hturns]
  cases t with
  | present w =>
    show evaluateComparison std (resolveAttrPath std _ attrs (String.ofList _).toList) .pr .nil = _
    rw [String.toList_ofList]
    rfl
  | compare op w hop v =>
    show evaluateComparison std (resolveAttrPath std _ attrs (String.ofList _).toList) op
      v.value = _
    rw [String.toList_ofList]
    rfl

/-- **What is evaluated**: the test, of the values as one. -/
theorem evaluate_filter (h : p.ReadBack) (t : Test) :
    (p.filter t).tree.evaluate std attrs = t.holds std (gather (p.values std attrs)) := by
  obtain ⟨turns, heval⟩ := evaluate_ask std attrs p t
  rw [heval, resolveAttrPath_valuePath std attrs h]

end Evaluation

-- ---------------------------------------------------------------------------
-- Several values as one
-- ---------------------------------------------------------------------------

section Printing

variable (std : Stdlib)

/-- `%v` prints no value shorter than a comparison does. -/
theorem length_toStr_le (v : Any) :
    (toStr std v).toList.length ≤ (sprintV std v).toList.length := by
  cases v with
  | nil => simp [toStr]
  | bool b => exact Nat.le_of_eq (by rw [toStr, sprintV])
  | float64 x => exact Nat.le_of_eq (by rw [toStr, sprintV])
  | string s => exact Nat.le_of_eq (by rw [toStr, sprintV])
  | slice xs => exact Nat.le_refl _
  | map fields => exact Nat.le_refl _

theorem mem_sprintVs {v : Any} {vs : List Any} (h : v ∈ vs) :
    sprintV std v ∈ sprintVs std vs := by
  induction vs with
  | nil => exact absurd h (by simp)
  | cons w vs ih =>
    rw [sprintVs]
    rcases List.mem_cons.mp h with rfl | h
    · exact List.mem_cons_self
    · exact List.mem_cons_of_mem _ (ih h)

/-- Text that is joined is no longer than the whole. -/
theorem length_le_intercalate {s : String} {texts : List String} (h : s ∈ texts) :
    s.toList.length ≤ (" ".intercalate texts).toList.length := by
  induction texts with
  | nil => exact absurd h (by simp)
  | cons t texts ih =>
    cases texts with
    | nil =>
      rw [List.mem_singleton.mp h, String.intercalate_singleton]
    | cons t' texts =>
      rw [String.intercalate_cons_cons]
      simp only [String.toList_append, List.length_append]
      rcases List.mem_cons.mp h with rfl | h
      · omega
      · have hrest := ih h
        omega

/-- A list is printed longer than any value in it. -/
theorem length_lt_slice {v : Any} {vs : List Any} (h : v ∈ vs) :
    (toStr std v).toList.length < (toStr std (.slice vs)).toList.length := by
  have hv := length_toStr_le std v
  have hjoin := length_le_intercalate (mem_sprintVs std h)
  have hslice : (toStr std (.slice vs)).toList.length =
      (" ".intercalate (sprintVs std vs)).toList.length + 2 := by
    show (sprintV std (.slice vs)).toList.length = _
    rw [sprintV]
    simp only [String.toList_append, List.length_append]
    show 1 + _ + 1 = _
    omega
  omega

end Printing

-- ---------------------------------------------------------------------------
-- When that is what the filter says
-- ---------------------------------------------------------------------------

section Meaning

variable {p : ValuePath} (std : Stdlib) (attrs : GoMap)

theorem lookupFold_eq (m : GoMap) (key : String) :
    lookupFold std m key = (subAttribute std m key).getD .nil := rfl

theorem ValuePath.selects_iff (t : Test) :
    p.Selects std t attrs ↔ ∃ m ∈ p.matching std attrs, ∃ v,
      subAttribute std m (String.ofList p.sub.chars) = some v ∧ t.holds std v = true := by
  unfold ValuePath.Selects ValuePath.matching
  constructor
  · rintro ⟨m, hm, hinner, hv⟩
    exact ⟨m, List.mem_filter.mpr ⟨hm, hinner⟩, hv⟩
  · rintro ⟨m, hm, hv⟩
    obtain ⟨hm, hinner⟩ := List.mem_filter.mp hm
    exact ⟨m, hm, hinner, hv⟩

/-- With one matching element at most, the filter is evaluated to what it says unless
there is no value and the test holds of nil. -/
theorem evaluate_of_one (h : p.ReadBack) (t : Test) (hone : (p.matching std attrs).length ≤ 1) :
    ((p.filter t).tree.evaluate std attrs = true ↔ p.Selects std t attrs) ↔
      (∃ m ∈ p.matching std attrs,
        (subAttribute std m (String.ofList p.sub.chars)).isSome = true) ∨
        t.holds std .nil = false := by
  rw [evaluate_filter std attrs h, ValuePath.selects_iff, ValuePath.values]
  cases hmatching : p.matching std attrs with
  | nil => simp [gather]
  | cons m ms =>
    rw [hmatching, List.length_cons] at hone
    have hms : ms = [] := List.eq_nil_of_length_eq_zero (by omega)
    rw [hms, List.map_singleton, gather, lookupFold_eq]
    cases hsub : subAttribute std m (String.ofList p.sub.chars) with
    | none => simp [hsub]
    | some v => simp [hsub]

/-- With several, a test for the printed list is passed by the list and by no value. -/
theorem evaluate_of_several (h : p.ReadBack) (hseveral : 2 ≤ (p.matching std attrs).length) :
    ∃ t : Test, ¬ ((p.filter t).tree.evaluate std attrs = true ↔ p.Selects std t attrs) := by
  have hgather : gather (p.values std attrs) = .slice (p.values std attrs) := by
    have hlength : (p.values std attrs).length = (p.matching std attrs).length := List.length_map _
    generalize p.values std attrs = vs at hlength
    obtain _ | ⟨v, _ | ⟨v', vs⟩⟩ := vs
    · simp only [List.length_nil] at hlength
      omega
    · simp only [List.length_singleton] at hlength
      omega
    · rfl
  -- the value compared with is the whole list as it is printed
  refine ⟨.compare .sw (.ofOp .sw) (by decide)
    (.text (toStr std (.slice (p.values std attrs))).toList), fun hiff => ?_⟩
  rw [evaluate_filter std attrs h, ValuePath.selects_iff, hgather] at hiff
  obtain ⟨m, hm, v, hv, hholds⟩ := hiff.mp (by
    simp [Test.holds, evaluateComparison, Literal.value, toStr, Strings.hasPrefix])
  have hmem : v ∈ p.values std attrs := by
    refine List.mem_map.mpr ⟨m, hm, ?_⟩
    rw [lookupFold_eq, hv]
    rfl
  have hprefix : (toStr std (.slice (p.values std attrs))).toList <+: (toStr std v).toList := by
    simpa [Test.holds, evaluateComparison, Literal.value, toStr, Strings.hasPrefix] using hholds
  have hlonger := length_lt_slice std hmem
  have hshorter := hprefix.length_le
  omega

/-- No value is what `ne` holds of. -/
def Test.differs : Test := .compare .ne (.ofOp .ne) (by decide) (.text ['x'])

theorem Test.differs_nil : Test.differs.holds std .nil = true := rfl

/-- **Every test of a value path** is evaluated to what it says exactly where one element
satisfies the inner filter and has the sub-attribute. -/
theorem evaluate_iff_single (h : p.ReadBack) :
    (∀ t : Test, (p.filter t).tree.evaluate std attrs = true ↔ p.Selects std t attrs) ↔
      ∃ m, p.matching std attrs = [m] ∧
        (subAttribute std m (String.ofList p.sub.chars)).isSome = true := by
  constructor
  · intro hall
    have hone : (p.matching std attrs).length ≤ 1 := by
      by_contra hseveral
      obtain ⟨t, ht⟩ := evaluate_of_several std attrs h (Nat.lt_of_not_le hseveral)
      exact ht (hall t)
    rcases (evaluate_of_one std attrs h .differs hone).mp (hall .differs) with
      ⟨m, hm, hsub⟩ | hnil
    · obtain ⟨m', hm'⟩ := List.length_eq_one_iff.mp
        (Nat.le_antisymm hone (List.length_pos_of_mem hm))
      rw [hm', List.mem_singleton] at hm
      exact ⟨m, hm ▸ hm', hsub⟩
    · rw [Test.differs_nil] at hnil
      exact absurd hnil (by decide)
  · rintro ⟨m, hm, hsub⟩ t
    have hone : (p.matching std attrs).length ≤ 1 := by
      rw [hm]
      exact Nat.le_refl 1
    refine (evaluate_of_one std attrs h t hone).mpr (Or.inl ⟨m, ?_, hsub⟩)
    rw [hm]
    exact List.mem_cons_self

end Meaning

namespace Sample

theorem eq_ne_pr : ComparisonOp.eq ≠ .pr := by decide

def value : Word .ident := ⟨['v', 'a', 'l', 'u', 'e'], rfl, rfl⟩

/-- `emails[type eq "…"].value`. -/
def addressOf (label : List Char) : ValuePath where
  attr := emails
  inner := .conjunction (.operand (.primary
    (.compare (.name kind) .eq (.ofOp .eq) eq_ne_pr (.text label))))
  sub := value

def isAnn : Test := .compare .eq (.ofOp .eq) eq_ne_pr (.text ['a', 'n', 'n'])

def work : List Char := ['w', 'o', 'r', 'k']

/-- An element of `emails`, by its type and its address. -/
def email (e : List Char × String) : GoMap :=
  [("type", .string (String.ofList e.1)), ("value", .string e.2)]

def resource (addresses : List (List Char × String)) : GoMap :=
  [("emails", .slice ((addresses.map email).map .map))]

theorem addressOf_readBack : (addressOf work).ReadBack where
  plain := by decide
  bracket := by decide
  length := by decide
  groups := by decide

theorem inner_addressOf (label : List Char) (e : List Char × String) :
    (addressOf label).inner.tree.evaluate stdlib (email e) = decide (lower e.1 = lower label) := by
  have htree : (addressOf label).inner.tree =
      .attr (String.ofList (Sentence.name kind).pathText) .eq (Literal.text label).value := rfl
  have hkey : stdlib.equalFold "type" (String.ofList kind.chars) = true := by decide
  rw [htree, Sentence.pathText, FilterExpr.evaluate, FilterExpr.evaluateBy, String.toList_ofList,
    resolveAttrPath_word, lookupFold, email]
  simp only [List.find?, hkey]
  show stdlib.equalFold (String.ofList e.1) (String.ofList label) = _
  simp [stdlib]

theorem elements_resource (addresses : List (List Char × String)) :
    elements stdlib (resource addresses) (String.ofList emails.chars) = addresses.map email := by
  have hkey : stdlib.equalFold "emails" (String.ofList emails.chars) = true := by decide
  rw [elements, lookupFold, resource]
  simp only [List.find?, hkey]
  show ((addresses.map email).map .map).filterMap elementOf = addresses.map email
  rw [List.filterMap_map]
  exact List.filterMap_some

theorem matching_addressOf (label : List Char) (addresses : List (List Char × String)) :
    (addressOf label).matching stdlib (resource addresses) =
      (addresses.filter fun e => lower e.1 = lower label).map email := by
  rw [ValuePath.matching]
  show (elements stdlib _ (String.ofList emails.chars)).filter _ = _
  rw [elements_resource, List.filter_map]
  congr 2
  funext e
  exact inner_addressOf label e

/-- `emails[type eq "…" ].value eq "ann"`. -/
def text (label : List Char) : List Char :=
  (addressOf label).path.pathText ++ ([' '] ++ (['e', 'q'] ++ ' ' :: ['"', 'a', 'n', 'n', '"']))

theorem spelled_text {label : List Char} (h : (addressOf label).path.plainBrackets = true) :
    Spelled ((addressOf label).filter isAnn).tokens (text label) := by
  have hann : Spelled [(Literal.text ['a', 'n', 'n']).token] ['"', 'a', 'n', 'n', '"'] :=
    .last (.string (spellsString_plain (by decide)))
  have htest : Spelled [(Operator.ofOp .eq).token, (Literal.text ['a', 'n', 'n']).token]
      (['e', 'q'] ++ ' ' :: ['"', 'a', 'n', 'n', '"']) :=
    hann.word_space (Operator.ofOp .eq).toWord
  have hgap : [' '].all isWhitespace = true := rfl
  exact spelled_path (addressOf label).path h hgap rfl htest

theorem parse_text (label : List Char) (h : (addressOf label).path.plainBrackets = true)
    (hlength : byteLength (text label) ≤ maxFilterLen) :
    parseFilter (String.ofList ([] ++ (text label ++ []))) =
      .ok (some ((addressOf label).filter isAnn).tree) :=
  (parseFilter_tree_iff (spelled_text h) List.all_nil List.all_nil).mpr
    ⟨hlength, Nat.zero_lt_succ 99, rfl⟩

/-- A type that ends the brackets early. -/
def bracketed : List Char := ['a', ']', 'b']

theorem byteLength_text :
    byteLength (text work) ≤ maxFilterLen ∧ byteLength (text bracketed) ≤ maxFilterLen := by
  simp only [text, addressOf, ValuePath.path, Sentence.pathText]
  decide

/-- In front of the first bracket there is no filter. -/
theorem resolve_bracketed (addresses : List (List Char × String)) (turns : Nat) :
    resolveAttrPath stdlib (turns + 1) (resource addresses) (addressOf bracketed).path.pathText
      = .nil := by
  have hbroken : parseFilter (String.ofList ['t', 'y', 'p', 'e', ' ', 'e', 'q', ' ', '"', 'a']) =
      .error .unterminatedString := by rfl
  have hcut : cut ']' (spaced (addressOf bracketed).inner.tokens ++
      ']' :: ('.' :: (addressOf bracketed).sub.chars)) =
      some (['t', 'y', 'p', 'e', ' ', 'e', 'q', ' ', '"', 'a'],
        ['b', '"', ' ', ']', '.', 'v', 'a', 'l', 'u', 'e']) := by decide
  rw [resolveAttrPath, cut_path]
  simp only [hcut, hbroken]
  cases resolveAttrPath stdlib turns (resource addresses) (addressOf bracketed).attr.chars <;> rfl

end Sample

end Ggid.Identity
