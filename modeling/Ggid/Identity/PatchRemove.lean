import Ggid.Go.Trees
import Ggid.Identity.PatchPaths

/-!
# Identity service — removing a sub-attribute

What `remove` with a path like `emails[type eq "work"].value` is to do: the elements of the
attribute that satisfy the filter lose the sub-attribute, and nothing else changes (`strip`).

`applyRemove` deletes the sub-attribute and then leaves the element out of the list as well,
as it does without a sub-attribute. So it only does the right thing where there is nothing to
do.

* `keepItems_unmatched`, `keepItems_matched` — which elements the loop keeps;
* `removeSub_iff`                            — when the result is as it should be.
-/

namespace Ggid.Identity

open Ggid.Go Ggid.Lib

-- ---------------------------------------------------------------------------
-- Attributes without a sub-attribute
-- ---------------------------------------------------------------------------

/-- `attr[filter].sub`, the filter being one that `ParseFilter` reads. -/
structure SubAttrPath where
  attr   : List Char
  filter : List Char
  sub    : List Char
  expr   : FilterExpr
  flat   : '[' ∉ attr
  parses : parseFilter (String.ofList filter) = .ok (some expr)

/-- The attribute under the name. -/
def findAttr (std : Stdlib) (attrs : GoMap) (name : List Char) : Option (String × Any) :=
  attrs.find? fun f => std.equalFold f.1 (String.ofList name)

namespace SubAttrPath

def text (p : SubAttrPath) : List Char := p.attr ++ '[' :: (p.filter ++ ']' :: '.' :: p.sub)

/-- The filter up to its first bracket. -/
def front (p : SubAttrPath) : List Char := p.filter.takeWhile (· ≠ ']')

/-- An element without the sub-attribute, if it satisfies the filter. -/
def stripItem (p : SubAttrPath) (std : Stdlib) : Any → Any
  | .map m =>
    if p.expr.evaluate std m then
      .map (m.filter fun f => !std.equalFold f.1 (String.ofList p.sub))
    else .map m
  | item => item

/-- The attributes, with each element of the list without the sub-attribute that satisfies the
filter. -/
def strip (p : SubAttrPath) (std : Stdlib) (attrs : GoMap) : GoMap :=
  match findAttr std attrs p.attr with
  | some (k, .slice items) =>
    attrs.map fun f => if f.1 = k then (k, .slice (items.map (p.stripItem std))) else f
  | _ => attrs

end SubAttrPath

/-- `ApplyPatch`, for attributes that are put into memory before. -/
def patchTree (std : Stdlib) (h₀ : Heap) (attrs : GoMap) (ops : List PatchOperation) :
    Except PatchError GoMap :=
  let (input, h) := h₀.loadMap attrs
  let (h, result) := applyPatch std h input ops
  result.map h.fields

/-- `remove`, with a path. -/
structure Removes (std : Stdlib) (op : PatchOperation) (path : List Char) : Prop where
  isRemove : std.toLower (Strings.trimSpace op.op) = "remove"
  path_eq  : (Strings.trimSpace op.path).toList = path

-- ---------------------------------------------------------------------------
-- The elements that are kept
-- ---------------------------------------------------------------------------

section Kept

variable {std : Stdlib} {innerFilter : Option FilterExpr} {subPath : String} {h : Heap}
  {items : List Val}

/-- An element that satisfies the filter is left out. -/
theorem keepItems_left {m : Ref} (hm : innerFilter.any (·.evaluate std (h.fields m)) = true) :
    keepItems std innerFilter subPath h (.map m :: items) = keepItems std innerFilter subPath
      (if subPath ≠ "" then deleteAttr std h m subPath else h) items := by
  rw [keepItems, if_pos hm]

/-- Any other is kept. -/
theorem keepItems_kept {item : Val}
    (hitem : ∀ m, item = .map m → innerFilter.any (·.evaluate std (h.fields m)) = false) :
    keepItems std innerFilter subPath h (item :: items) =
      (item :: (keepItems std innerFilter subPath h items).1,
        (keepItems std innerFilter subPath h items).2) := by
  cases item with
  | map m => rw [keepItems, if_neg (by rw [hitem m rfl]; exact Bool.false_ne_true)]
  | nil | bool | float64 | string | slice =>
    rw [keepItems]
    exact fun _ h => nomatch h

/-- Whether an element is left out. -/
theorem left_or_kept (std : Stdlib) (innerFilter : Option FilterExpr) (h : Heap) (item : Val) :
    (∃ m, item = .map m ∧ innerFilter.any (·.evaluate std (h.fields m)) = true) ∨
      ∀ m, item = .map m → innerFilter.any (·.evaluate std (h.fields m)) = false := by
  by_cases hleft : ∃ m, item = .map m ∧ innerFilter.any (·.evaluate std (h.fields m)) = true
  · exact .inl hleft
  · refine .inr fun m hm => ?_
    rw [Bool.eq_false_iff]
    exact fun htrue => hleft ⟨m, hm, htrue⟩

theorem keepItems_length_le (items : List Val) : ∀ h : Heap,
    (keepItems std innerFilter subPath h items).1.length ≤ items.length := by
  induction items with
  | nil => exact fun _ => Nat.le_refl _
  | cons item items ih =>
    intro h
    rcases left_or_kept std innerFilter h item with ⟨m, rfl, hm⟩ | hkept
    · rw [keepItems_left hm]
      exact Nat.le_succ_of_le (ih _)
    · rw [keepItems_kept hkept]
      exact Nat.succ_le_succ (ih h)

/-- Where no element satisfies the filter, all are kept. -/
theorem keepItems_unmatched
    (hnone : ∀ m, .map m ∈ items → innerFilter.any (·.evaluate std (h.fields m)) = false) :
    keepItems std innerFilter subPath h items = (items, h) := by
  induction items with
  | nil => rfl
  | cons item items ih =>
    have hrest := ih fun m hm => hnone m (List.mem_cons_of_mem item hm)
    rw [keepItems_kept fun m hm => hnone m (hm ▸ List.mem_cons_self), hrest]

/-- Where one does, not all are. Nothing is written before the first. -/
theorem keepItems_matched (innerFilter : Option FilterExpr) (subPath : String) {m : Ref}
    (hm : .map m ∈ items)
    (hmatch : innerFilter.any (·.evaluate std (h.fields m)) = true) :
    (keepItems std innerFilter subPath h items).1.length < items.length := by
  induction items with
  | nil => exact absurd hm List.not_mem_nil
  | cons item items ih =>
    rcases left_or_kept std innerFilter h item with ⟨m', rfl, hm'⟩ | hkept
    · rw [keepItems_left hm']
      exact Nat.lt_succ_of_le (keepItems_length_le items _)
    · rw [keepItems_kept hkept]
      rcases List.mem_cons.mp hm with hitem | hm
      · rw [hkept m hitem.symm] at hmatch
        exact absurd hmatch Bool.false_ne_true
      · exact Nat.succ_lt_succ (ih hm)

@[simp] theorem keepItems_size (items : List Val) : ∀ h : Heap,
    (keepItems std innerFilter subPath h items).2.size = h.size := by
  induction items with
  | nil => exact fun _ => rfl
  | cons item items ih =>
    intro h
    rcases left_or_kept std innerFilter h item with ⟨m, rfl, hm⟩ | hkept
    · rw [keepItems_left hm, ih]
      split_ifs
      · exact Heap.size_set
      · rfl
    · rw [keepItems_kept hkept]
      exact ih h

/-- Only the elements are written. -/
theorem keepItems_get {r : Ref} : ∀ {h : Heap}, (∀ m, .map m ∈ items → r ≠ m) →
    (keepItems std innerFilter subPath h items).2.get r = h.get r := by
  induction items with
  | nil => exact fun _ => rfl
  | cons item items ih =>
    intro h hr
    have hrest : ∀ m, .map m ∈ items → r ≠ m := fun m hm => hr m (List.mem_cons_of_mem item hm)
    rcases left_or_kept std innerFilter h item with ⟨m, rfl, hm⟩ | hkept
    · rw [keepItems_left hm, ih hrest]
      split_ifs
      · exact Heap.get_set_of_ne (hr m List.mem_cons_self)
      · rfl
    · rw [keepItems_kept hkept]
      exact ih hrest

end Kept

-- ---------------------------------------------------------------------------
-- Attributes in memory
-- ---------------------------------------------------------------------------

section Memory

variable (std : Stdlib) (h₀ : Heap) (attrs : GoMap)

/-- The heap with the attributes and the copy that `ApplyPatch` makes of them. -/
def copied (entries : Entries) : Heap := ((h₀.loadMap attrs).2.alloc entries).2

/-- The result, which is the copy. -/
def resultRef : Ref := (h₀.loadMap attrs).2.size

variable {h₀ attrs} {entries : Entries}

theorem get_copied : (copied h₀ attrs entries).get (resultRef h₀ attrs) = entries :=
  Heap.get_alloc_self

theorem patchTree_single (op : PatchOperation) :
    patchTree std h₀ attrs [op] =
      match applyOp std (copied h₀ attrs (h₀.loadFields attrs).1) (resultRef h₀ attrs) op with
      | .ok h => .ok (h.fields (resultRef h₀ attrs))
      | .error err => .error ⟨0, err⟩ := by
  have hinput : (h₀.loadMap attrs).2.get (h₀.loadMap attrs).1 = (h₀.loadFields attrs).1 :=
    Heap.get_alloc_self
  simp only [patchTree, applyPatch, hinput, run, List.zipIdx_cons, List.zipIdx_nil,
    List.foldl_cons, List.foldl_nil, patchStep, Heap.alloc_ref, copied, resultRef]
  cases applyOp std ((h₀.loadMap attrs).2.alloc (h₀.loadFields attrs).1).2
    (h₀.loadMap attrs).2.size op <;> rfl

/-- With any map behind them, the attributes are read back. -/
theorem read_copied (h₀ : Heap) (attrs : GoMap) (entries : Entries) (depth : Nat)
    (hdepth : (copied h₀ attrs entries).bound ≤ depth) :
    (h₀.loadFields attrs).1.map (fun e => (e.1, (copied h₀ attrs entries).read depth e.2)) =
      attrs := by
  have hkeeps : (h₀.loadFields attrs).2.Keeps (copied h₀ attrs entries) :=
    Heap.keeps_alloc.trans Heap.keeps_alloc
  have hbound : (h₀.loadMap attrs).2.bound ≤ (copied h₀ attrs entries).bound := by
    rw [copied, Heap.bound_alloc]
    exact Nat.le_add_right _ _
  have hheight := Heap.heightOfFields_lt_bound h₀ attrs
  exact Heap.read_loadFields h₀ attrs hkeeps depth (by omega)

theorem findAttr_copied (h₀ : Heap) (attrs : GoMap) (entries : Entries) (name : List Char)
    (depth : Nat) (hdepth : (copied h₀ attrs entries).bound ≤ depth) :
    findAttr std attrs name =
      ((h₀.loadFields attrs).1.find? fun e => std.equalFold e.1 (String.ofList name)).map
        fun e => (e.1, (copied h₀ attrs entries).read depth e.2) := by
  rw [findAttr]
  conv_lhs => rw [← read_copied h₀ attrs entries depth hdepth]
  rw [List.find?_map]
  rfl

/-- The elements of a list are the maps that `fields` reads. -/
theorem map_mem_read {h : Heap} {vs : List Val} {f : GoMap} :
    .map f ∈ vs.map (h.read (h.bound + 1)) ↔ ∃ m, .map m ∈ vs ∧ h.fields m = f := by
  rw [List.mem_map]
  constructor
  · rintro ⟨v, hv, hf⟩
    cases v with
    | map m => exact ⟨m, hv, Any.map.inj hf⟩
    | nil | bool | float64 | string | slice => exact nomatch hf
  · rintro ⟨m, hm, rfl⟩
    exact ⟨.map m, hm, rfl⟩

end Memory

section Replaced

variable {std : Stdlib} {α : Type} {entries : List (String × α)} {key k : String} {v v₀ : α}

/-- The attribute under a name has a new value. -/
theorem find?_replaced (hfind : entries.find? (fun e => std.equalFold e.1 key) = some (k, v₀)) :
    (entries.map fun e => if e.1 = k then (k, v) else e).find?
      (fun e => std.equalFold e.1 key) = some (k, v) := by
  have hkeys : ((fun e : String × α => std.equalFold e.1 key) ∘
      fun e => if e.1 = k then (k, v) else e) = fun e => std.equalFold e.1 key := by
    funext e
    by_cases he : e.1 = k
    · rw [Function.comp_apply, if_pos he, he]
    · rw [Function.comp_apply, if_neg he]
  rw [List.find?_map, hkeys, hfind, Option.map_some, if_pos rfl]

/-- Two new values of an attribute. -/
theorem replaced_eq_iff {v' : α}
    (hfind : entries.find? (fun e => std.equalFold e.1 key) = some (k, v₀)) :
    (entries.map fun e => if e.1 = k then (k, v) else e) =
        (entries.map fun e => if e.1 = k then (k, v') else e) ↔ v = v' := by
  refine ⟨fun heq => ?_, fun heq => by rw [heq]⟩
  have hfound := congrArg (List.find? fun e => std.equalFold e.1 key) heq
  rw [find?_replaced hfind, find?_replaced hfind] at hfound
  exact (Prod.mk.inj (Option.some.inj hfound)).2

theorem setAttr_replaced {entries : Entries} {v v₀ : Val}
    (hfind : entries.find? (fun e => std.equalFold e.1 key) = some (k, v₀)) :
    setAttrCaseInsensitive std entries key v =
      entries.map fun e => if e.1 = k then (k, v) else e := by
  have hany : entries.any (fun e => decide (e.1 = k)) = true :=
    List.any_eq_true.mpr ⟨(k, v₀), List.mem_of_find?_eq_some hfind, decide_eq_true rfl⟩
  rw [setAttrCaseInsensitive, hfind]
  exact if_pos hany

/-- What is found under a name when a map is read. -/
theorem findAttr_fields (std : Stdlib) (h : Heap) (r : Ref) (name : List Char) :
    findAttr std (h.fields r) name =
      ((h.get r).find? fun e => std.equalFold e.1 (String.ofList name)).map
        fun e => (e.1, h.read h.bound e.2) := by
  rw [findAttr, Heap.fields, List.find?_map]
  rfl

theorem find?_setAttr {h : Heap} {r : Ref} {v v₀ : Val}
    (hfind : (h.get r).find? (fun e => std.equalFold e.1 key) = some (k, v₀)) (hlt : r < h.size) :
    ((setAttr std h r key v).get r).find? (fun e => std.equalFold e.1 key) = some (k, v) := by
  rw [setAttr, Heap.get_set_self hlt, setAttr_replaced hfind, find?_replaced hfind]

end Replaced

-- ---------------------------------------------------------------------------
-- The operation
-- ---------------------------------------------------------------------------

section Operation

variable {std : Stdlib} {p : SubAttrPath} {op : PatchOperation} {h : Heap} {r : Ref}

theorem SubAttrPath.text_eq : ∃ rest, p.text = p.attr ++ '[' :: (p.front ++ ']' :: rest) := by
  obtain ⟨rest, hrest⟩ := takeWhile_bracket p.filter ('.' :: p.sub)
  exact ⟨rest, by rw [SubAttrPath.text, hrest, SubAttrPath.front]⟩

theorem applyOp_of_remove (hremove : std.toLower (Strings.trimSpace op.op) = "remove") :
    applyOp std h r op = applyRemove std h r op.path := by
  simp only [applyOp, hremove]
  rw [if_neg (by decide), if_neg (by decide), if_pos trivial]

/-- What the operation comes to: a list loses the elements that satisfy the filter up to its
first bracket. -/
theorem applyOp_remove (h : Heap) (r : Ref) (hop : Removes std op p.text) : ∃ subPath,
    applyOp std h r op =
      match getAttrCaseInsensitive std (h.get r) (String.ofList p.attr) with
      | .slice items =>
        match parseFilter (String.ofList p.front) with
        | .error err => .error (.invalidFilterInPath err)
        | .ok innerFilter =>
          .ok (setAttr std (keepItems std innerFilter subPath h items).2 r (String.ofList p.attr)
            (.slice (keepItems std innerFilter subPath h items).1))
      | _ => .ok h := by
  obtain ⟨rest, htext⟩ := p.text_eq
  have hparse := parsePatchPath_closed (hop.path_eq.trans htext) p.flat
    (bracket_not_mem_takeWhile p.filter)
  have hpath : op.path ≠ "" := by
    intro hempty
    have htrim := hop.path_eq
    rw [hempty, htext] at htrim
    exact absurd (htrim.symm.trans (show (Strings.trimSpace "").toList = [] from rfl)) (by simp)
  have hne : Strings.trimSpace (String.ofList p.front) ≠ "" := filter_ne_empty p.parses
  refine ⟨String.ofList (subOf rest), ?_⟩
  rw [applyOp_of_remove hop.isRemove, applyRemove, if_neg hpath, hparse]
  simp only [parseFilter_trimSpace]
  refine (if_neg hne).trans ?_
  cases getAttrCaseInsensitive std (h.get r) (String.ofList p.attr) with
  | slice items => cases parseFilter (String.ofList p.front) <;> rfl
  | nil | bool | float64 | string | map => rfl

/-- The condition under which nothing is to do, and nothing is done. -/
def SubAttrPath.Untouched (p : SubAttrPath) (std : Stdlib) (items : List Any) : Prop :=
  ∃ e, parseFilter (String.ofList p.front) = .ok (some e) ∧
    (∀ m, .map m ∈ items → e.evaluate std m = false) ∧
    ∀ m, .map m ∈ items → p.expr.evaluate std m = true →
      ∀ f ∈ m, std.equalFold f.1 (String.ofList p.sub) = false

/-- A filter without brackets is read as a whole. -/
theorem SubAttrPath.untouched_of_flat (hflat : ']' ∉ p.filter) {items : List Any} :
    p.Untouched std items ↔ ∀ m, .map m ∈ items → p.expr.evaluate std m = false := by
  have hfront : p.front = p.filter :=
    List.takeWhile_eq_self_iff.mpr fun c hc => decide_eq_true fun heq => hflat (heq ▸ hc)
  rw [SubAttrPath.Untouched, hfront, p.parses]
  constructor
  · rintro ⟨e, he, hnone, -⟩
    rwa [← Option.some.inj (Except.ok.inj he)] at hnone
  · intro hnone
    refine ⟨p.expr, rfl, hnone, fun m hm hmatch => ?_⟩
    rw [hnone m hm] at hmatch
    exact absurd hmatch Bool.false_ne_true

theorem SubAttrPath.map_stripItem_iff {items : List Any} :
    items.map (p.stripItem std) = items ↔
      ∀ m, .map m ∈ items → p.expr.evaluate std m = true →
        ∀ f ∈ m, std.equalFold f.1 (String.ofList p.sub) = false := by
  conv_lhs => rhs; rw [← List.map_id items]
  rw [List.map_inj_left]
  constructor
  · intro hall m hm hmatch f hf
    have hitem := hall _ hm
    rw [SubAttrPath.stripItem, if_pos hmatch] at hitem
    have hkeep := List.filter_eq_self.mp (Any.map.inj hitem) f hf
    simpa using hkeep
  · intro hall item hitem
    cases item with
    | map m =>
      rw [SubAttrPath.stripItem]
      split_ifs with hmatch
      · congr 1
        refine List.filter_eq_self.mpr fun f hf => ?_
        rw [hall m hitem hmatch f hf]
        rfl
      · rfl
    | nil | bool | float64 | string | slice => rfl

end Operation

section Removal

variable {std : Stdlib} {p : SubAttrPath} {op : PatchOperation} {h₀ : Heap} {attrs : GoMap}
  {k : String} {vs : List Val}

theorem getAttr_of_find? {entries : Entries} {key : String} {v : Val}
    (hfind : entries.find? (fun e => std.equalFold e.1 key) = some (k, v)) :
    getAttrCaseInsensitive std entries key = v := by
  rw [getAttrCaseInsensitive, hfind]
  rfl

/-- An attribute that is no list. -/
theorem remove_other (hop : Removes std op p.text)
    (hother : ∀ items, getAttrCaseInsensitive std (h₀.loadFields attrs).1 (String.ofList p.attr) ≠
      .slice items) :
    patchTree std h₀ attrs [op] = .ok attrs := by
  obtain ⟨subPath, happly⟩ := applyOp_remove (copied h₀ attrs (h₀.loadFields attrs).1)
    (resultRef h₀ attrs) hop
  have hfields : (copied h₀ attrs (h₀.loadFields attrs).1).fields (resultRef h₀ attrs) = attrs := by
    rw [Heap.fields, get_copied]
    exact read_copied h₀ attrs _ _ (Nat.le_refl _)
  rw [patchTree_single, happly, get_copied]
  cases hget : getAttrCaseInsensitive std (h₀.loadFields attrs).1 (String.ofList p.attr) with
  | slice items => exact absurd hget (hother items)
  | nil | bool | float64 | string | map => simp only [hfields]

/-- The attributes as they were loaded. -/
def loaded (h₀ : Heap) (attrs : GoMap) : Heap := copied h₀ attrs (h₀.loadFields attrs).1

/-- The elements of a list, as they are read. -/
def itemsOf (h₀ : Heap) (attrs : GoMap) (vs : List Val) : List Any :=
  vs.map ((loaded h₀ attrs).read ((loaded h₀ attrs).bound + 1))

theorem findAttr_slice {name : List Char} (hfind : (h₀.loadFields attrs).1.find?
      (fun e => std.equalFold e.1 (String.ofList name)) = some (k, .slice vs)) :
    findAttr std attrs name = some (k, .slice (itemsOf h₀ attrs vs)) := by
  have hread := findAttr_copied std h₀ attrs (h₀.loadFields attrs).1 name
    ((loaded h₀ attrs).bound + 2) (Nat.le_add_right _ 2)
  rw [hread, hfind]
  rfl

theorem remove_unparsed {err : FilterError} (hop : Removes std op p.text)
    (hfind : (h₀.loadFields attrs).1.find? (fun e => std.equalFold e.1 (String.ofList p.attr)) =
      some (k, .slice vs)) (hparse : parseFilter (String.ofList p.front) = .error err) :
    ∃ err, patchTree std h₀ attrs [op] = .error err := by
  obtain ⟨subPath, happly⟩ := applyOp_remove (copied h₀ attrs (h₀.loadFields attrs).1)
    (resultRef h₀ attrs) hop
  rw [patchTree_single, happly, get_copied, getAttr_of_find? hfind]
  simp only [hparse]
  exact ⟨_, rfl⟩

/-- Where no element satisfies the filter up to its first bracket, the list is written as it
was. -/
theorem remove_unmatched {e : FilterExpr} (hop : Removes std op p.text)
    (hfind : (h₀.loadFields attrs).1.find? (fun e => std.equalFold e.1 (String.ofList p.attr)) =
      some (k, .slice vs)) (hparse : parseFilter (String.ofList p.front) = .ok (some e))
    (hnone : ∀ m, .map m ∈ vs → e.evaluate std ((loaded h₀ attrs).fields m) = false) :
    patchTree std h₀ attrs [op] =
      .ok (attrs.map fun f => if f.1 = k then (k, .slice (itemsOf h₀ attrs vs)) else f) := by
  obtain ⟨subPath, happly⟩ := applyOp_remove (copied h₀ attrs (h₀.loadFields attrs).1)
    (resultRef h₀ attrs) hop
  have hkeep : keepItems std (some e) subPath (copied h₀ attrs (h₀.loadFields attrs).1) vs =
      (vs, copied h₀ attrs (h₀.loadFields attrs).1) := keepItems_unmatched hnone
  set entries' := (h₀.loadFields attrs).1.map
    fun e => if e.1 = k then (k, Val.slice vs) else e with hentries'
  have hset : setAttr std (copied h₀ attrs (h₀.loadFields attrs).1) (resultRef h₀ attrs)
      (String.ofList p.attr) (.slice vs) = copied h₀ attrs entries' := by
    rw [setAttr, get_copied, setAttr_replaced hfind]
    exact Heap.set_alloc
  have hlist : (copied h₀ attrs entries').read (copied h₀ attrs entries').bound (.slice vs) =
      .slice (itemsOf h₀ attrs vs) := by
    have hread := findAttr_copied std h₀ attrs entries' p.attr _ (Nat.le_refl _)
    rw [hfind, findAttr_slice hfind] at hread
    exact (Prod.mk.inj (Option.some.inj hread)).2.symm
  have hread := read_copied h₀ attrs entries' _ (Nat.le_refl _)
  rw [patchTree_single, happly, get_copied, getAttr_of_find? hfind]
  simp only [hparse, hkeep, hset]
  refine congrArg Except.ok ?_
  generalize itemsOf h₀ attrs vs = items at hlist ⊢
  rw [Heap.fields, get_copied]
  conv_rhs => rw [← hread]
  rw [hentries', List.map_map, List.map_map, ← hentries']
  refine List.map_congr_left fun f _ => ?_
  by_cases hf : f.1 = k
  · simp only [Function.comp_apply, if_pos hf, hlist]
  · simp only [Function.comp_apply, if_neg hf]

/-- The result is not one of the elements. -/
theorem keepItems_copied (innerFilter : Option FilterExpr) (subPath : String) {name : String}
    (hfind : (h₀.loadFields attrs).1.find? (fun e => std.equalFold e.1 name) =
      some (k, .slice vs)) :
    (keepItems std innerFilter subPath (copied h₀ attrs (h₀.loadFields attrs).1) vs).2.get
        (resultRef h₀ attrs) = (h₀.loadFields attrs).1 ∧
      resultRef h₀ attrs <
        (keepItems std innerFilter subPath (copied h₀ attrs (h₀.loadFields attrs).1) vs).2.size := by
  constructor
  · rw [keepItems_get, get_copied]
    intro m hm hr
    have hmem : (k, Val.slice vs) ∈ (h₀.loadFields attrs).1 := List.mem_of_find?_eq_some hfind
    have hlt := Heap.refs_lt_loadFields h₀ attrs _ hmem m
      (mem_refsOf.mpr ⟨.map m, hm, List.mem_singleton_self m⟩)
    have hsize : resultRef h₀ attrs = (h₀.loadFields attrs).2.size + 1 := Heap.size_alloc
    rw [← hr, hsize] at hlt
    exact Nat.not_succ_lt_self hlt
  · rw [keepItems_size, copied, Heap.size_alloc]
    exact Nat.lt_succ_self _

/-- Where one does, the list gets shorter. -/
theorem remove_matched {e : FilterExpr} {m : Ref} (hop : Removes std op p.text)
    (hfind : (h₀.loadFields attrs).1.find? (fun e => std.equalFold e.1 (String.ofList p.attr)) =
      some (k, .slice vs)) (hparse : parseFilter (String.ofList p.front) = .ok (some e))
    (hm : .map m ∈ vs) (hmatch : e.evaluate std ((loaded h₀ attrs).fields m) = true) :
    patchTree std h₀ attrs [op] ≠ .ok (p.strip std attrs) := by
  obtain ⟨subPath, happly⟩ := applyOp_remove (copied h₀ attrs (h₀.loadFields attrs).1)
    (resultRef h₀ attrs) hop
  have hshorter := keepItems_matched (some e) subPath hm hmatch
  obtain ⟨hresult, hlt⟩ := keepItems_copied (some e) subPath hfind
  set after := keepItems std (some e) subPath (copied h₀ attrs (h₀.loadFields attrs).1) vs
    with hafter
  intro hstrip
  rw [patchTree_single, happly, get_copied, getAttr_of_find? hfind] at hstrip
  simp only [hparse, ← hafter] at hstrip
  have hlist := congrArg (findAttr std · p.attr) (Except.ok.inj hstrip)
  have hfound := find?_setAttr (v := .slice after.1) (hresult ▸ hfind) hlt
  have hstripped : findAttr std (p.strip std attrs) p.attr =
      some (k, .slice ((itemsOf h₀ attrs vs).map (p.stripItem std))) := by
    rw [SubAttrPath.strip, findAttr_slice hfind]
    exact find?_replaced (findAttr_slice hfind)
  rw [hstripped, findAttr_fields, hfound] at hlist
  have hread := (Prod.mk.inj (Option.some.inj hlist)).2
  cases hbound : (setAttr std after.2 (resultRef h₀ attrs) (String.ofList p.attr)
      (.slice after.1)).bound with
  | zero =>
    rw [hbound] at hread
    exact nomatch hread
  | succ depth =>
    rw [hbound, Heap.read] at hread
    have hlength := congrArg List.length (Any.slice.inj hread)
    rw [List.length_map, List.length_map, itemsOf, List.length_map] at hlength
    exact absurd hlength (Nat.ne_of_lt hshorter)

/-- An attribute that is a list. -/
theorem remove_list_iff (hop : Removes std op p.text)
    (hfind : (h₀.loadFields attrs).1.find? (fun e => std.equalFold e.1 (String.ofList p.attr)) =
      some (k, .slice vs)) :
    patchTree std h₀ attrs [op] = .ok (p.strip std attrs) ↔
      p.Untouched std (itemsOf h₀ attrs vs) := by
  have hattr := findAttr_slice hfind
  cases hparse : parseFilter (String.ofList p.front) with
  | error err =>
    obtain ⟨err', herr⟩ := remove_unparsed hop hfind hparse
    rw [herr]
    refine iff_of_false (fun h => nomatch h) fun ⟨e, he, _⟩ => ?_
    rw [hparse] at he
    exact nomatch he
  | ok expr =>
    cases expr with
    | none => exact absurd (trimSpace_of_parseFilter hparse) (filter_ne_empty p.parses)
    | some e =>
      by_cases hmatch : ∃ m, .map m ∈ vs ∧ e.evaluate std ((loaded h₀ attrs).fields m) = true
      · obtain ⟨m, hm, hmatch⟩ := hmatch
        refine iff_of_false (remove_matched hop hfind hparse hm hmatch) ?_
        rintro ⟨e', he', hnone, -⟩
        rw [hparse] at he'
        obtain rfl := Option.some.inj (Except.ok.inj he')
        rw [hnone _ (map_mem_read.mpr ⟨m, hm, rfl⟩)] at hmatch
        exact absurd hmatch Bool.false_ne_true
      · have hnone : ∀ m, .map m ∈ vs → e.evaluate std ((loaded h₀ attrs).fields m) = false := by
          intro m hm
          rw [Bool.eq_false_iff]
          exact fun htrue => hmatch ⟨m, hm, htrue⟩
        have hitems : ∀ m, .map m ∈ itemsOf h₀ attrs vs → e.evaluate std m = false := by
          intro m hm
          obtain ⟨ref, href, rfl⟩ := map_mem_read.mp hm
          exact hnone ref href
        rw [remove_unmatched hop hfind hparse hnone, SubAttrPath.strip, hattr, Except.ok.injEq]
        dsimp only
        rw [replaced_eq_iff hattr, Any.slice.injEq, eq_comm, SubAttrPath.map_stripItem_iff]
        constructor
        · exact fun hnothing => ⟨e, hparse, hitems, hnothing⟩
        · exact fun ⟨_, _, _, hnothing⟩ => hnothing

theorem find?_of_getAttr {entries : Entries} {key : String}
    (hget : getAttrCaseInsensitive std entries key = .slice vs) :
    ∃ k, entries.find? (fun e => std.equalFold e.1 key) = some (k, .slice vs) := by
  rw [getAttrCaseInsensitive] at hget
  cases hfind : entries.find? fun e => std.equalFold e.1 key with
  | none =>
    rw [hfind] at hget
    exact nomatch hget
  | some e =>
    rw [hfind] at hget
    exact ⟨e.1, by rw [← show e.2 = .slice vs from hget]⟩

/-- A list in the attributes is one in memory. -/
theorem find?_of_findAttr (h₀ : Heap) {name : List Char} {items : List Any}
    (hattr : findAttr std attrs name = some (k, .slice items)) :
    ∃ vs, (h₀.loadFields attrs).1.find? (fun e => std.equalFold e.1 (String.ofList name)) =
      some (k, .slice vs) := by
  have hread := findAttr_copied std h₀ attrs (h₀.loadFields attrs).1 name
    ((loaded h₀ attrs).bound + 1) (Nat.le_add_right _ 1)
  rw [hattr] at hread
  obtain ⟨⟨k', v⟩, hfind, he⟩ := Option.map_eq_some_iff.mp hread.symm
  obtain ⟨rfl, hv⟩ := Prod.mk.inj he
  cases v with
  | slice vs => exact ⟨vs, hfind⟩
  | nil | bool | float64 | string | map => exact nomatch hv

end Removal

/-- **Removing a sub-attribute.** The result is the attributes without the sub-attribute in the
elements that satisfy the filter, exactly if the attribute is no list, or a list with nothing to
remove: no element satisfies the filter up to its first bracket, and none that satisfies the
whole of it has the sub-attribute. -/
theorem removeSub_iff (std : Stdlib) (p : SubAttrPath) {op : PatchOperation}
    (hop : Removes std op p.text) (h₀ : Heap) (attrs : GoMap) :
    patchTree std h₀ attrs [op] = .ok (p.strip std attrs) ↔
      ∀ k items, findAttr std attrs p.attr = some (k, .slice items) → p.Untouched std items := by
  by_cases hlist : ∃ k vs, (h₀.loadFields attrs).1.find?
      (fun e => std.equalFold e.1 (String.ofList p.attr)) = some (k, .slice vs)
  · obtain ⟨k, vs, hfind⟩ := hlist
    rw [remove_list_iff hop hfind]
    refine ⟨fun h k' items hitems => ?_, fun h => h k _ (findAttr_slice hfind)⟩
    rw [findAttr_slice hfind] at hitems
    obtain ⟨-, hitems⟩ := Prod.mk.inj (Option.some.inj hitems)
    rwa [← Any.slice.inj hitems]
  · have hother : ∀ k items, findAttr std attrs p.attr ≠ some (k, .slice items) := by
      intro k items hattr
      obtain ⟨vs, hfind⟩ := find?_of_findAttr h₀ hattr
      exact hlist ⟨k, vs, hfind⟩
    have hsame : p.strip std attrs = attrs := by
      rw [SubAttrPath.strip]
      split
      · exact absurd ‹_› (hother _ _)
      · rfl
    refine iff_of_true ?_ fun k items hattr => absurd hattr (hother k items)
    rw [hsame]
    refine remove_other hop fun items hget => ?_
    obtain ⟨k, hfind⟩ := find?_of_getAttr hget
    exact hlist ⟨k, items, hfind⟩

namespace Sample

/-- `type eq "work"`. -/
def isWorkText : List Char :=
  kind.chars ++ ' ' :: (['e', 'q'] ++ ' ' :: ['"', 'w', 'o', 'r', 'k', '"'])

theorem spelled_isWork : Spelled (addressOf work).inner.tokens isWorkText := by
  have hwork : Spelled [(Literal.text work).token] ['"', 'w', 'o', 'r', 'k', '"'] :=
    .last (.string (spellsString_plain (by decide)))
  have htest : Spelled [(Operator.ofOp .eq).token, (Literal.text work).token]
      (['e', 'q'] ++ ' ' :: ['"', 'w', 'o', 'r', 'k', '"']) :=
    hwork.word_space (Operator.ofOp .eq).toWord
  exact htest.word_space kind

/-- `emails[type eq "work"].value`. -/
def workValue : SubAttrPath where
  attr := emails.chars
  filter := isWorkText
  sub := value.chars
  expr := (addressOf work).inner.tree
  flat := by decide
  parses := (parseFilter_text_iff spelled_isWork).mpr (by decide)

def removeWorkValue : PatchOperation := ⟨"remove", String.ofList workValue.text, .empty⟩

theorem removes_workValue : Removes stdlib removeWorkValue workValue.text where
  isRemove := by
    simp only [removeWorkValue, stdlib, Strings.trimSpace, String.toList_ofList]
    rfl
  path_eq := by
    have htrimmed : Trimmed workValue.text := ⟨by decide, by decide, by decide⟩
    rw [removeWorkValue, trimSpace_of_trimmed htrimmed, String.toList_ofList]

theorem findAttr_resource (addresses : List (List Char × String)) :
    findAttr stdlib (resource addresses) workValue.attr =
      some ("emails", .slice ((addresses.map email).map .map)) := by
  have hkey : stdlib.equalFold "emails" (String.ofList emails.chars) = true := by decide
  rw [findAttr, resource]
  simp only [List.find?, workValue, hkey]

/-- No address is one for work. -/
theorem untouched_iff (addresses : List (List Char × String)) :
    (∀ k items, findAttr stdlib (resource addresses) workValue.attr = some (k, .slice items) →
        workValue.Untouched stdlib items) ↔
      ∀ e ∈ addresses, lower e.1 ≠ lower work := by
  have hflat : ∀ items, workValue.Untouched stdlib items ↔
      ∀ m, .map m ∈ items → workValue.expr.evaluate stdlib m = false :=
    fun items => SubAttrPath.untouched_of_flat (by decide)
  simp only [findAttr_resource, Option.some.injEq, Prod.mk.injEq, Any.slice.injEq, hflat]
  constructor
  · intro hall e he hwork
    have hnone := hall _ _ ⟨rfl, rfl⟩ (email e)
      (List.mem_map_of_mem (List.mem_map_of_mem he))
    rw [show workValue.expr = (addressOf work).inner.tree from rfl, inner_addressOf] at hnone
    exact of_decide_eq_false hnone hwork
  · rintro hall k items ⟨-, rfl⟩ m hm
    obtain ⟨m', hm', hmap⟩ := List.mem_map.mp hm
    obtain ⟨e, he, rfl⟩ := List.mem_map.mp hm'
    rw [← Any.map.inj hmap, show workValue.expr = (addressOf work).inner.tree from rfl,
      inner_addressOf]
    exact decide_eq_false (hall e he)

end Sample

open Sample in
/-- Where no address is for work, nothing happens. -/
theorem removeSub_iff_home :
    patchTree stdlib ⟨[]⟩ (resource [(['h', 'o', 'm', 'e'], "bob")]) [removeWorkValue] =
      .ok (workValue.strip stdlib (resource [(['h', 'o', 'm', 'e'], "bob")])) := by
  refine (removeSub_iff stdlib workValue removes_workValue ⟨[]⟩ _).mpr ?_
  rw [untouched_iff]
  decide

open Sample in
/-- The address for work is dropped, and not only its value. -/
theorem work_address_dropped :
    patchTree stdlib ⟨[]⟩ (resource [(work, "ann"), (['h', 'o', 'm', 'e'], "bob")])
        [removeWorkValue] ≠
      .ok (workValue.strip stdlib
        (resource [(work, "ann"), (['h', 'o', 'm', 'e'], "bob")])) := by
  intro hstrip
  obtain ⟨vs, hfind⟩ := find?_of_findAttr ⟨[]⟩
    (findAttr_resource [(work, "ann"), (['h', 'o', 'm', 'e'], "bob")])
  have huntouched := (remove_list_iff removes_workValue hfind).mp hstrip
  have hitems := (findAttr_resource _).symm.trans (findAttr_slice hfind)
  rw [← Any.slice.inj (Prod.mk.inj (Option.some.inj hitems)).2,
    SubAttrPath.untouched_of_flat (by decide)] at huntouched
  have hwork := huntouched (email (work, "ann")) List.mem_cons_self
  rw [show workValue.expr = (addressOf work).inner.tree from rfl, inner_addressOf] at hwork
  exact absurd hwork (by decide)

end Ggid.Identity
