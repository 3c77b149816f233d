import Ggid.Identity.PatchRemove
import Ggid.Identity.PatchSharing

/-!
# Identity service — malformed paths

The paths of patches by the grammar, and which operations `ApplyPatch` refuses.

A path is cut at its brackets and never checked: only what stands between them is parsed, and
by a `remove` only where the attribute is a list. Without a closing bracket, or with nothing
between the brackets, the path is taken for the attribute itself.

* `applyOp_error_iff`   — an operation that is refused;
* `malformed_path_iff`  — when malformed paths are, and which of them delete a whole list.
-/

namespace Ggid.Identity

open Ggid.Go Ggid.Lib

-- ---------------------------------------------------------------------------
-- The grammar of paths
-- ---------------------------------------------------------------------------

def isNameChar (ch : Char) : Bool := isAlpha ch || isDigit ch || ch = '-' || ch = '_'

/-- The name of an attribute; `$ref` is one. -/
def isAttrName : List Char → Bool
  | [] => false
  | ch :: tail => (isAlpha ch || ch = '$') && tail.all isNameChar

/-- What stands between the colons of a URN. -/
def isUrnSegment (s : List Char) : Bool := s ≠ [] && s.all fun ch => isNameChar ch || ch = '.'

/-- Names with dots in between, and a URN in front. -/
inductive AttrPath : List Char → Prop where
  | name {n : List Char} (hn : isAttrName n = true) : AttrPath n
  | sub {a n : List Char} (ha : AttrPath a) (hn : isAttrName n = true) : AttrPath (a ++ '.' :: n)
  | urn {segment a : List Char} (hsegment : isUrnSegment segment = true) (ha : AttrPath a) :
      AttrPath (segment ++ ':' :: a)

/-- A path of the grammar: an attribute, perhaps with a value filter, and then perhaps with a
sub-attribute. -/
inductive PatchPath : List Char → Prop where
  | attr {a : List Char} (ha : AttrPath a) : PatchPath a
  | filtered {a f : List Char} {e : FilterExpr} (ha : AttrPath a)
      (hf : parseFilter (String.ofList f) = .ok (some e)) : PatchPath (a ++ '[' :: (f ++ [']']))
  | sub {a f n : List Char} {e : FilterExpr} (ha : AttrPath a)
      (hf : parseFilter (String.ofList f) = .ok (some e)) (hn : isAttrName n = true) :
      PatchPath (a ++ '[' :: (f ++ ']' :: '.' :: n))

/-- A path that is given and not one of the grammar. -/
def Malformed (path : String) : Prop :=
  path ≠ "" ∧ ¬ PatchPath (Strings.trimSpace path).toList

-- ---------------------------------------------------------------------------
-- Operations that are refused
-- ---------------------------------------------------------------------------

/-- The path has brackets behind the attribute, and `ParseFilter` rejects what is between. -/
def BadFilter (path : String) (attr : List Char) : Prop :=
  ∃ f rest err, (Strings.trimSpace path).toList = attr ++ '[' :: (f ++ ']' :: rest) ∧
    '[' ∉ attr ∧ ']' ∉ f ∧ parseFilter (String.ofList f) = .error err

def RawMessage.isObject : RawMessage → Bool
  | .json (.map _) => true
  | _ => false

/-- An `add` or a `replace` that is refused. -/
def RefusedPut (op : PatchOperation) : Prop :=
  (∃ err, op.value = .malformed err) ∨ (op.path = "" ∧ op.value.isObject = false) ∨
    op.path ≠ "" ∧ ∃ attr, BadFilter op.path attr

/-- A `remove` that is refused. -/
def RefusedRemove (std : Stdlib) (h : Heap) (attrs : Ref) (op : PatchOperation) : Prop :=
  op.path = "" ∨ ∃ attr, BadFilter op.path attr ∧
    ∃ items, getAttrCaseInsensitive std (h.get attrs) (String.ofList attr) = .slice items

/-- An operation that is refused, in the state before it. -/
def Refused (std : Stdlib) (h : Heap) (attrs : Ref) (op : PatchOperation) : Prop :=
  let opLower := std.toLower (Strings.trimSpace op.op)
  if opLower = "add" ∨ opLower = "replace" then RefusedPut op
  else if opLower = "remove" then RefusedRemove std h attrs op
  else True

/-- No operation is refused in the state that the ones before it leave. -/
def NoneRefused (std : Stdlib) (h : Heap) (attrs : Ref) (ops : List PatchOperation) : Prop :=
  StepsOk (patchStep std h.size) (fun s e => ¬ Refused std s.1 h.size e.1)
    ((h.alloc (h.get attrs)).2, none) ops.zipIdx

section Refusing

variable {std : Stdlib} {h : Heap} {attrs : Ref} {path : String} {op : PatchOperation}
  {attr : List Char}

theorem parseFilter_empty : parseFilter "" = .ok none := rfl

/-- `parsePatchPath` finds the attribute and a filter that is rejected. -/
theorem badFilter_iff :
    BadFilter path attr ↔ (parsePatchPath path).1 = String.ofList attr ∧
      ∃ err, parseFilter (parsePatchPath path).2.2 = .error err := by
  constructor
  · rintro ⟨f, rest, err, hpath, hattr, hf, herr⟩
    rw [parsePatchPath_closed hpath hattr hf]
    exact ⟨rfl, err, by rw [parseFilter_trimSpace, herr]⟩
  · rintro ⟨hname, err, herr⟩
    rcases path_cases path with ⟨-, hfilter⟩ | ⟨_, _, -, -, -, hparse⟩ |
      ⟨attr', f, rest, hpath, hattr, hf, hparse⟩
    · rw [hfilter, parseFilter_empty] at herr
      cases herr
    · rw [hparse, parseFilter_empty] at herr
      cases herr
    · rw [hparse] at hname herr
      rw [parseFilter_trimSpace] at herr
      obtain rfl : attr' = attr := by simpa using congrArg String.toList hname
      exact ⟨f, rest, err, hpath, hattr, hf, herr⟩

theorem exists_badFilter_iff :
    (∃ attr, BadFilter path attr) ↔
      ∃ err, parseFilter (parsePatchPath path).2.2 = .error err := by
  constructor
  · exact fun ⟨attr, hbad⟩ => (badFilter_iff.mp hbad).2
  · exact fun herr => ⟨(parsePatchPath path).1.toList,
      badFilter_iff.mpr ⟨String.ofList_toList.symm, herr⟩⟩

/-- A `remove` only looks at the filter where the attribute is a list. -/
theorem applyRemove_error_iff (hpath : path ≠ "") :
    (∃ err, applyRemove std h attrs path = .error err) ↔
      (∃ items, getAttrCaseInsensitive std (h.get attrs) (parsePatchPath path).1 = .slice items) ∧
        ∃ err, parseFilter (parsePatchPath path).2.2 = .error err := by
  rcases hparse : parsePatchPath path with ⟨name, subPath, filter⟩
  rw [applyRemove, if_neg hpath, hparse]
  dsimp only
  by_cases hfilter : filter = ""
  · rw [if_pos hfilter, hfilter, parseFilter_empty]
    refine iff_of_false ?_ (by rintro ⟨_, err, ⟨⟩⟩)
    rintro ⟨err, herr⟩
    split_ifs at herr
    split at herr <;> cases herr
  · rw [if_neg hfilter]
    cases hget : getAttrCaseInsensitive std (h.get attrs) name with
    | slice items =>
      cases hread : parseFilter filter with
      | error err => exact iff_of_true ⟨_, rfl⟩ ⟨⟨items, rfl⟩, err, rfl⟩
      | ok innerFilter =>
        exact iff_of_false (by rintro ⟨_, ⟨⟩⟩) (by rintro ⟨_, _, ⟨⟩⟩)
    | nil | bool | float64 | string | map =>
      exact iff_of_false (by rintro ⟨_, ⟨⟩⟩) (by rintro ⟨⟨_, ⟨⟩⟩, _⟩)

theorem applyRemove_refused_iff :
    (∃ err, applyRemove std h attrs op.path = .error err) ↔ RefusedRemove std h attrs op := by
  by_cases hpath : op.path = ""
  · rw [hpath]
    exact iff_of_true ⟨_, rfl⟩ (.inl hpath)
  · rw [applyRemove_error_iff hpath, RefusedRemove, or_iff_right hpath]
    constructor
    · rintro ⟨hitems, herr⟩
      have hname : (parsePatchPath op.path).1 =
          String.ofList (parsePatchPath op.path).1.toList := String.ofList_toList.symm
      exact ⟨_, badFilter_iff.mpr ⟨hname, herr⟩, by rwa [← hname]⟩
    · rintro ⟨attr, hbad, hitems⟩
      obtain ⟨hname, herr⟩ := badFilter_iff.mp hbad
      exact ⟨by rwa [hname], herr⟩

section Put

variable {requiresObject : PatchOpError} {isReplace : Bool} {h' : Heap} {val : Val}
  {putAttr : Heap → Ref → String → Val → Heap}

/-- An `add` or a `replace` with a path looks at the filter in any case. -/
theorem applyPut_path_error_iff (hvalue : decodeValue h op.value = .ok (val, h'))
    (hpath : op.path ≠ "") :
    (∃ err, applyPut std requiresObject isReplace putAttr h attrs op.path op.value = .error err) ↔
      ∃ err, parseFilter (parsePatchPath op.path).2.2 = .error err := by
  rcases hparse : parsePatchPath op.path with ⟨name, subPath, filter⟩
  rw [applyPut, hvalue]
  dsimp only
  rw [if_neg hpath, hparse]
  dsimp only
  by_cases hfilter : filter = ""
  · rw [if_pos hfilter, hfilter, parseFilter_empty]
    refine iff_of_false ?_ (by rintro ⟨_, ⟨⟩⟩)
    rintro ⟨err, herr⟩
    split_ifs at herr
  · rw [if_neg hfilter, addOrReplaceInArray]
    cases parseFilter filter with
    | error err => exact iff_of_true ⟨_, rfl⟩ ⟨err, rfl⟩
    | ok innerFilter =>
      exact iff_of_false (by rintro ⟨_, ⟨⟩⟩) (by rintro ⟨_, ⟨⟩⟩)

/-- Without a path they ask for an object. -/
theorem applyPut_root_error_iff (hpath : op.path = "") :
    (∃ err, applyPut std requiresObject isReplace putAttr h attrs op.path op.value = .error err) ↔
      (∃ err, op.value = .malformed err) ∨ op.value.isObject = false := by
  rw [hpath, applyPut]
  cases op.value with
  | empty => exact iff_of_true ⟨_, rfl⟩ (.inr rfl)
  | malformed err => exact iff_of_true ⟨_, rfl⟩ (.inl ⟨err, rfl⟩)
  | json value =>
    cases value with
    | map fields =>
      refine iff_of_false (by rintro ⟨_, ⟨⟩⟩) ?_
      rintro (⟨_, herr⟩ | hobject)
      · cases herr
      · cases hobject
    | nil | bool | float64 | string | slice => exact iff_of_true ⟨_, rfl⟩ (.inr rfl)

theorem decodeValue_error {value : RawMessage} {err : PatchOpError}
    (herr : decodeValue h value = .error err) : ∃ err, value = .malformed err := by
  cases value with
  | malformed err' => exact ⟨err', rfl⟩
  | empty | json => cases herr

theorem applyPut_error_iff :
    (∃ err, applyPut std requiresObject isReplace putAttr h attrs op.path op.value = .error err) ↔
      RefusedPut op := by
  by_cases hpath : op.path = ""
  · rw [applyPut_root_error_iff hpath, RefusedPut]
    simp [hpath]
  · cases hvalue : decodeValue h op.value with
    | error err =>
      obtain ⟨err', hmalformed⟩ := decodeValue_error hvalue
      refine iff_of_true ⟨err, ?_⟩ (.inl ⟨err', hmalformed⟩)
      rw [applyPut, hvalue]
    | ok decoded =>
      have hwell : ¬ ∃ err, op.value = .malformed err := by
        rintro ⟨err, hmalformed⟩
        rw [hmalformed] at hvalue
        cases hvalue
      rw [applyPut_path_error_iff hvalue hpath, RefusedPut, exists_badFilter_iff]
      simp [hpath, hwell]

end Put

/-- **An operation fails** exactly where it is refused. -/
theorem applyOp_error_iff :
    (∃ err, applyOp std h attrs op = .error err) ↔ Refused std h attrs op := by
  unfold applyOp Refused
  generalize std.toLower (Strings.trimSpace op.op) = opLower
  dsimp only
  by_cases hadd : opLower = "add"
  · rw [if_pos hadd, if_pos (.inl hadd)]
    exact applyPut_error_iff
  · by_cases hreplace : opLower = "replace"
    · rw [if_neg hadd, if_pos hreplace, if_pos (.inr hreplace)]
      exact applyPut_error_iff
    · rw [if_neg hadd, if_neg hreplace, if_neg (not_or.mpr ⟨hadd, hreplace⟩)]
      by_cases hremove : opLower = "remove"
      · rw [if_pos hremove, if_pos hremove]
        exact applyRemove_refused_iff
      · rw [if_neg hremove, if_neg hremove]
        exact iff_of_true ⟨_, rfl⟩ trivial

end Refusing

-- ---------------------------------------------------------------------------
-- Whole patches
-- ---------------------------------------------------------------------------

section Patches

variable {std : Stdlib}

/-- What failed stays so. -/
theorem run_failed (result : Ref) (h : Heap) (err : PatchError)
    (ops : List (PatchOperation × Nat)) :
    run (patchStep std result) (h, some err) ops = (h, some err) := by
  induction ops with
  | nil => rfl
  | cons e ops ih => exact ih

/-- A run succeeds exactly if none of its operations is refused. -/
theorem run_none_iff (result : Ref) (ops : List (PatchOperation × Nat)) : ∀ h : Heap,
    (run (patchStep std result) (h, none) ops).2 = none ↔
      StepsOk (patchStep std result) (fun s e => ¬ Refused std s.1 result e.1) (h, none) ops := by
  induction ops with
  | nil => exact fun h => iff_of_true rfl trivial
  | cons e ops ih =>
    intro h
    show (run (patchStep std result) (patchStep std result (h, none) e) ops).2 = none ↔
      ¬ Refused std h result e.1 ∧ StepsOk _ _ (patchStep std result (h, none) e) ops
    cases happly : applyOp std h result e.1 with
    | error err =>
      have hrefused : Refused std h result e.1 := applyOp_error_iff.mp ⟨err, happly⟩
      have hstep : patchStep std result (h, none) e = (h, some ⟨e.2, err⟩) := by
        simp only [patchStep, happly]
      rw [hstep, run_failed]
      exact iff_of_false (by rintro ⟨⟩) fun hok => hok.1 hrefused
    | ok h' =>
      have hcarried : ¬ Refused std h result e.1 := by
        rw [← applyOp_error_iff, happly]
        rintro ⟨_, ⟨⟩⟩
      have hstep : patchStep std result (h, none) e = (h', none) := by
        simp only [patchStep, happly]
      rw [hstep, ih h', and_iff_right hcarried]

/-- **A patch fails** exactly if one of its operations is refused. -/
theorem applyPatch_error_iff (h : Heap) (attrs : Ref) (ops : List PatchOperation) :
    (∃ err, (applyPatch std h attrs ops).2 = .error err) ↔ ¬ NoneRefused std h attrs ops := by
  rw [NoneRefused, ← run_none_iff]
  simp only [applyPatch, Heap.alloc_ref]
  cases (run (patchStep std h.size) ((h.alloc (h.get attrs)).2, none) ops.zipIdx).2 with
  | none => exact iff_of_false (by rintro ⟨_, ⟨⟩⟩) fun hne => hne rfl
  | some err => exact iff_of_true ⟨err, rfl⟩ (by rintro ⟨⟩)

end Patches

-- ---------------------------------------------------------------------------
-- Lists that are deleted
-- ---------------------------------------------------------------------------

/-- Behind the opening bracket there is no other, or nothing between the two and nothing
behind them. -/
def NoFilter (behind : List Char) : Prop :=
  ']' ∉ behind ∨ ∃ f rest, behind = f ++ ']' :: rest ∧ ']' ∉ f ∧ f.all Strings.isSpace = true ∧
    subOf rest = []

/-- The operation succeeds, and the attribute is gone. -/
def DeletesAttr (std : Stdlib) (h₀ : Heap) (attrs : GoMap) (op : PatchOperation) (k : String) :
    Prop :=
  ∃ after, patchTree std h₀ attrs [op] = .ok after ∧ ∀ f ∈ after, f.1 ≠ k

section Brackets

variable {attr behind n : List Char}

theorem bracket_not_mem_name (hn : isAttrName n = true) : '[' ∉ n := by
  cases n with
  | nil => exact absurd hn (by decide)
  | cons ch tail =>
    obtain ⟨hstart, htail⟩ := Bool.and_eq_true_iff.mp hn
    rintro hmem
    rcases List.mem_cons.mp hmem with rfl | hmem
    · exact absurd hstart (by decide)
    · exact absurd (List.all_eq_true.mp htail _ hmem) (by decide)

theorem AttrPath.flat (ha : AttrPath attr) : '[' ∉ attr := by
  induction ha with
  | name hn => exact bracket_not_mem_name hn
  | sub ha hn ih =>
    rw [List.mem_append, List.mem_cons]
    rintro (h | h | h)
    · exact ih h
    · exact absurd h (by decide)
    · exact bracket_not_mem_name hn h
  | urn hsegment ha ih =>
    rw [List.mem_append, List.mem_cons]
    rintro (h | h | h)
    · have hall := (Bool.and_eq_true_iff.mp hsegment).2
      exact absurd (List.all_eq_true.mp hall _ h) (by decide)
    · exact absurd h (by decide)
    · exact ih h

/-- A filter of the grammar is one. -/
theorem not_noFilter {f rest : List Char} {e : FilterExpr}
    (hf : parseFilter (String.ofList f) = .ok (some e)) : ¬ NoFilter (f ++ ']' :: rest) := by
  rintro (hnone | ⟨f', rest', hsplit, hf', hspaces, -⟩)
  · exact hnone (List.mem_append_right _ List.mem_cons_self)
  · obtain ⟨rest'', hfront⟩ := takeWhile_bracket f rest
    have hsame := (Strings.append_cons_inj hf' (bracket_not_mem_takeWhile f)
      (hsplit.symm.trans hfront)).1
    refine filter_ne_empty hf (trimSpace_of_all ?_)
    rwa [String.toList_ofList, ← hsame]

/-- So a path without a filter between its brackets is none of the grammar. -/
theorem malformed_of_noFilter {path : String}
    (hpath : (Strings.trimSpace path).toList = attr ++ '[' :: behind) (hattr : '[' ∉ attr)
    (hnone : NoFilter behind) : Malformed path := by
  constructor
  · rintro rfl
    have hempty : (Strings.trimSpace "").toList = [] := rfl
    rw [hempty] at hpath
    exact absurd hpath.symm (by simp)
  · intro hgrammar
    generalize htext : (Strings.trimSpace path).toList = text at hgrammar
    rw [hpath] at htext
    cases hgrammar with
    | attr ha => exact ha.flat (htext ▸ List.mem_append_right _ List.mem_cons_self)
    | filtered ha hf =>
      obtain ⟨-, rfl⟩ := Strings.append_cons_inj hattr ha.flat htext
      exact not_noFilter hf hnone
    | sub ha hf hn =>
      obtain ⟨-, rfl⟩ := Strings.append_cons_inj hattr ha.flat htext
      exact not_noFilter hf hnone

end Brackets

section Deletion

variable {std : Stdlib} {h₀ : Heap} {attrs : GoMap} {op : PatchOperation} {k : String}
  {attr behind : List Char} {items : List Any}

/-- A `remove` whose path names the attribute. -/
theorem deletes_unfiltered (hremove : std.toLower (Strings.trimSpace op.op) = "remove")
    (hne : op.path ≠ "") (hparse : parsePatchPath op.path = (String.ofList attr, "", ""))
    (hlist : findAttr std attrs attr = some (k, .slice items)) : DeletesAttr std h₀ attrs op k := by
  obtain ⟨vs, hfind⟩ := find?_of_findAttr h₀ hlist
  have hlt : resultRef h₀ attrs < (copied h₀ attrs (h₀.loadFields attrs).1).size := by
    rw [copied, Heap.size_alloc]
    exact Nat.lt_succ_self _
  refine ⟨(deleteAttr std (copied h₀ attrs (h₀.loadFields attrs).1) (resultRef h₀ attrs)
    (String.ofList attr)).fields (resultRef h₀ attrs), ?_, ?_⟩
  · rw [patchTree_single, applyOp_of_remove hremove, applyRemove, if_neg hne, hparse]
    rfl
  · intro f hf
    obtain ⟨e, he, rfl⟩ := List.mem_map.mp hf
    rw [deleteAttr, Heap.get_set_self hlt, get_copied, deleteCaseInsensitive, hfind] at he
    exact of_decide_eq_true (List.mem_filter.mp he).2

/-- A `remove` with a filter keeps the list. -/
theorem keeps_filtered {sub filter : String}
    (hremove : std.toLower (Strings.trimSpace op.op) = "remove") (hne : op.path ≠ "")
    (hparse : parsePatchPath op.path = (String.ofList attr, sub, filter))
    (hfilter : filter ≠ "" ∨ sub ≠ "")
    (hlist : findAttr std attrs attr = some (k, .slice items)) :
    ¬ DeletesAttr std h₀ attrs op k := by
  obtain ⟨vs, hfind⟩ := find?_of_findAttr h₀ hlist
  have hget : getAttrCaseInsensitive std ((copied h₀ attrs (h₀.loadFields attrs).1).get
      (resultRef h₀ attrs)) (String.ofList attr) = .slice vs := by
    rw [get_copied, getAttr_of_find? hfind]
  rintro ⟨after, hafter, hgone⟩
  rw [patchTree_single, applyOp_of_remove hremove, applyRemove, if_neg hne, hparse] at hafter
  simp only [hget] at hafter
  by_cases hempty : filter = ""
  · rw [if_pos hempty, if_pos (hfilter.resolve_left fun hne => hne hempty)] at hafter
    obtain rfl := Except.ok.inj hafter
    have hmem : (k, Val.slice vs) ∈
        (copied h₀ attrs (h₀.loadFields attrs).1).get (resultRef h₀ attrs) := by
      rw [get_copied]
      exact List.mem_of_find?_eq_some hfind
    exact hgone _ (List.mem_map_of_mem hmem) rfl
  · rw [if_neg hempty] at hafter
    cases hread : parseFilter filter with
    | error err =>
      rw [hread] at hafter
      cases hafter
    | ok innerFilter =>
      rw [hread] at hafter
      obtain rfl := Except.ok.inj hafter
      obtain ⟨hresult, hlt⟩ := keepItems_copied innerFilter sub hfind
      have hfound := find?_setAttr (v := .slice (keepItems std innerFilter sub
        (copied h₀ attrs (h₀.loadFields attrs).1) vs).1) (hresult ▸ hfind) hlt
      exact hgone _ (List.mem_map_of_mem (List.mem_of_find?_eq_some hfound)) rfl

/-- A `remove` that deletes a list names it by a path without a filter. -/
theorem deletesAttr_iff (hremove : std.toLower (Strings.trimSpace op.op) = "remove")
    (hpath : (Strings.trimSpace op.path).toList = attr ++ '[' :: behind) (hattr : '[' ∉ attr)
    (hlist : findAttr std attrs attr = some (k, .slice items)) :
    DeletesAttr std h₀ attrs op k ↔ NoFilter behind := by
  have hne : op.path ≠ "" := by
    intro hempty
    have hnil : (Strings.trimSpace "").toList = [] := rfl
    rw [hempty, hnil] at hpath
    exact absurd hpath.symm (by simp)
  by_cases hclose : ']' ∈ behind
  · obtain ⟨f, rest, rfl, hf⟩ := List.eq_append_cons_of_mem hclose
    have hparse := parsePatchPath_closed hpath hattr hf
    have hnone : NoFilter (f ++ ']' :: rest) ↔
        f.all Strings.isSpace = true ∧ subOf rest = [] := by
      constructor
      · rintro (hopen | ⟨f', rest', hsplit, hf', hspaces, hsub⟩)
        · exact absurd hclose hopen
        · obtain ⟨rfl, rfl⟩ := Strings.append_cons_inj hf hf' hsplit
          exact ⟨hspaces, hsub⟩
      · exact fun ⟨hspaces, hsub⟩ => .inr ⟨f, rest, rfl, hf, hspaces, hsub⟩
    rw [hnone]
    by_cases hboth : f.all Strings.isSpace = true ∧ subOf rest = []
    · refine iff_of_true (deletes_unfiltered hremove hne ?_ hlist) hboth
      rw [hparse, hboth.2, trimSpace_of_all (by rw [String.toList_ofList]; exact hboth.1)]
    · refine iff_of_false (keeps_filtered hremove hne hparse ?_ hlist) hboth
      by_contra hneither
      obtain ⟨hspaces, hsub⟩ := not_or.mp hneither
      refine hboth ⟨?_, by simpa using hsub⟩
      simpa using all_isSpace_of_trimSpace (not_not.mp hspaces)
  · exact iff_of_true
      (deletes_unfiltered hremove hne (parsePatchPath_open hpath hattr hclose) hlist) (.inl hclose)

end Deletion

/-- **Malformed paths.** A patch with a malformed path fails exactly if one of its operations is
refused; and a `remove` whose path has an opening bracket behind the name of a list is malformed
and deletes the list exactly if there is no filter behind the bracket. -/
theorem malformed_path_iff (std : Stdlib) :
    (∀ (h : Heap) (attrs : Ref) (ops : List PatchOperation),
      ((∃ op ∈ ops, Malformed op.path) → ∃ err, (applyPatch std h attrs ops).2 = .error err) ↔
        (∀ op ∈ ops, ¬ Malformed op.path) ∨ ¬ NoneRefused std h attrs ops) ∧
    ∀ (h₀ : Heap) (attrs : GoMap) (op : PatchOperation) (attr behind : List Char) (k : String)
      (items : List Any), std.toLower (Strings.trimSpace op.op) = "remove" →
      (Strings.trimSpace op.path).toList = attr ++ '[' :: behind → '[' ∉ attr →
      findAttr std attrs attr = some (k, .slice items) →
      ((Malformed op.path → ¬ DeletesAttr std h₀ attrs op k) ↔ ¬ NoFilter behind) := by
  constructor
  · intro h attrs ops
    rw [applyPatch_error_iff, imp_iff_not_or]
    simp only [not_exists, not_and]
  · intro h₀ attrs op attr behind k items hremove hpath hattr hlist
    rw [deletesAttr_iff hremove hpath hattr hlist]
    constructor
    · exact fun himp hnone => himp (malformed_of_noFilter hpath hattr hnone) hnone
    · exact fun hfilter _ => hfilter

namespace Sample

/-- `emails[type eq "work"`, without the closing bracket. -/
def unclosedText : List Char := emails.chars ++ '[' :: isWorkText

def removeUnclosed : PatchOperation := ⟨"remove", String.ofList unclosedText, .empty⟩

theorem unclosed_path : (Strings.trimSpace removeUnclosed.path).toList = unclosedText := by
  have htrimmed : Trimmed unclosedText := ⟨by decide, by decide, by decide⟩
  rw [removeUnclosed, trimSpace_of_trimmed htrimmed, String.toList_ofList]

theorem unclosed_isRemove :
    stdlib.toLower (Strings.trimSpace removeUnclosed.op) = "remove" :=
  removes_workValue.isRemove

def explodeUnclosed : PatchOperation := ⟨"explode", String.ofList unclosedText, .empty⟩

theorem explodeUnclosed_refused : ¬ NoneRefused stdlib ⟨[]⟩ 0 [explodeUnclosed] := by
  intro hok
  refine hok.1 ?_
  show Refused stdlib _ _ explodeUnclosed
  simp only [Refused, explodeUnclosed, toLower_explode]
  rw [if_neg (by decide), if_neg (by decide)]
  trivial

end Sample

open Sample in
/-- The path with its filter keeps the list; without the closing bracket it is refused where the
operation is. -/
theorem malformed_path_iff_work :
    ((∃ op ∈ [explodeUnclosed], Malformed op.path) →
      ∃ err, (applyPatch stdlib ⟨[]⟩ 0 [explodeUnclosed]).2 = .error err) ∧
    (Malformed removeWorkValue.path →
      ¬ DeletesAttr stdlib ⟨[]⟩ (resource [(work, "ann")]) removeWorkValue "emails") :=
  ⟨((malformed_path_iff stdlib).1 ⟨[]⟩ 0 [explodeUnclosed]).mpr (.inr explodeUnclosed_refused),
    ((malformed_path_iff stdlib).2 ⟨[]⟩ _ removeWorkValue workValue.attr _ "emails" _
      removes_workValue.isRemove removes_workValue.path_eq workValue.flat
      (findAttr_resource _)).mpr (not_noFilter workValue.parses)⟩

open Sample in
/-- Without the closing bracket all addresses are gone, and no error is returned. -/
theorem addresses_deleted :
    Malformed removeUnclosed.path ∧
      DeletesAttr stdlib ⟨[]⟩ (resource [(work, "ann"), (['h', 'o', 'm', 'e'], "bob")])
        removeUnclosed "emails" := by
  have hflat : '[' ∉ emails.chars := by decide
  have hopen : NoFilter isWorkText := .inl (by decide)
  have hpath : (Strings.trimSpace removeUnclosed.path).toList =
      emails.chars ++ '[' :: isWorkText := unclosed_path
  have hlist := findAttr_resource [(work, "ann"), (['h', 'o', 'm', 'e'], "bob")]
  exact ⟨malformed_of_noFilter hpath hflat hopen,
    (deletesAttr_iff unclosed_isRemove hpath hflat hlist).mpr hopen⟩

end Ggid.Identity
