import Ggid.Identity.Patch

/-!
# Identity service — what a patch shares with its input

`ApplyPatch` copies the attribute map and not the maps inside. An operation that goes into a
map which was there before the call writes it where the caller sees it.

The maps that were there are those below `n`; above are the result and the maps the patch
made, which only refer to one another (`Private`).

* `input_unchanged`  — the input reads as before, at any depth, however the call ends, if
  every operation that is carried out spares the maps that were there;
* `input_mutated`    — `replace name.givenName` changes the input, and so does it in a list
  that fails.
-/

namespace Ggid.Identity

open Ggid.Go Ggid.Lib

-- ---------------------------------------------------------------------------
-- Operations that go into a map that was there
-- ---------------------------------------------------------------------------

section Spares

variable (std : Stdlib) (n : Nat)

/-- The attribute holds no map that was there. -/
def sparesAttr (h : Heap) (attrs : Ref) (attrName : String) : Bool :=
  match getAttrCaseInsensitive std (h.get attrs) attrName with
  | .map m => n ≤ m
  | _ => true

/-- Whether an element that matches is written. -/
def editWrites (h : Heap) (subPath : String) (value : Val) : Bool :=
  if subPath ≠ "" then true
  else
    match value with
    | .map valMap => !(h.get valMap).isEmpty
    | _ => false

/-- No element that was there is written where it matches. -/
def sparesEdited (innerFilter : Option FilterExpr) (subPath : String) (value : Val) :
    Heap → List Val → Bool
  | _, [] => true
  | h, .map m :: items =>
    if innerFilter.all (·.evaluate std (h.fields m)) then
      (n ≤ m || !editWrites h subPath value) &&
        sparesEdited innerFilter subPath value (editItem std h m subPath value) items
    else sparesEdited innerFilter subPath value h items
  | h, _ :: items => sparesEdited innerFilter subPath value h items

/-- The map has an attribute of the name. -/
def hasAttr (h : Heap) (m : Ref) (key : String) : Bool :=
  (h.get m).any fun e => std.equalFold e.1 key

/-- No element that was there loses an attribute. -/
def sparesRemoved (innerFilter : Option FilterExpr) (subPath : String) : Heap → List Val → Bool
  | _, [] => true
  | h, .map m :: items =>
    if innerFilter.any (·.evaluate std (h.fields m)) then
      (n ≤ m || subPath = "" || !hasAttr std h m subPath) &&
        sparesRemoved innerFilter subPath (if subPath ≠ "" then deleteAttr std h m subPath else h)
          items
    else sparesRemoved innerFilter subPath h items
  | h, _ :: items => sparesRemoved innerFilter subPath h items

/-- An `add`, or a `replace`, which merges an object into one that is there. -/
def sparesPut (h : Heap) (attrs : Ref) (path : String) (value : RawMessage) (isReplace : Bool) :
    Bool :=
  match decodeValue h value with
  | .error _ => true
  | .ok (val, h) =>
    if path = "" then true
    else
      let (attrName, subPath, filter) := parsePatchPath path
      if filter = "" then
        if subPath ≠ "" then sparesAttr std n h attrs attrName
        else !isReplace || !editWrites h "" val || sparesAttr std n h attrs attrName
      else
        match parseFilter filter with
        | .error _ => true
        | .ok innerFilter => sparesEdited std n innerFilter subPath val h
            (sliceItems (getAttrCaseInsensitive std (h.get attrs) attrName))

def sparesRemove (h : Heap) (attrs : Ref) (path : String) : Bool :=
  if path = "" then true
  else
    let (attrName, subPath, filter) := parsePatchPath path
    match getAttrCaseInsensitive std (h.get attrs) attrName with
    | .map m => filter ≠ "" || subPath = "" || n ≤ m || !hasAttr std h m subPath
    | .slice items =>
      match parseFilter filter with
      | .error _ => true
      | .ok innerFilter => filter = "" || sparesRemoved std n innerFilter subPath h items
    | _ => true

/-- The operation, in the state before it, goes into no map that was there. -/
def spares (h : Heap) (attrs : Ref) (op : PatchOperation) : Bool :=
  let opLower := std.toLower (Strings.trimSpace op.op)
  if opLower = "add" then sparesPut std n h attrs op.path op.value false
  else if opLower = "replace" then sparesPut std n h attrs op.path op.value true
  else if opLower = "remove" then sparesRemove std n h attrs op.path
  else true

end Spares

-- ---------------------------------------------------------------------------
-- What the patch has to itself
-- ---------------------------------------------------------------------------

/-- A map the patch made, other than the result. -/
def Made (n : Nat) (result r : Ref) : Prop := n ≤ r ∧ r ≠ result

/-- The maps that were there are as they were, and the maps that were made refer to one
another; the result may refer to either. -/
structure Private (n : Nat) (result : Ref) (h₀ h : Heap) : Prop where
  above : n ≤ result
  lt    : result < h.size
  same  : ∀ r < n, h.get r = h₀.get r
  made  : ∀ ref, Made n result ref → ∀ e ∈ h.get ref, ∀ r ∈ e.2.refs, Made n result r
  own   : ∀ e ∈ h.get result, ∀ r ∈ e.2.refs, r ≠ result

section Attributes

variable {std : Stdlib} {entries : Entries} {key : String} {value : Val} {e : String × Val}

theorem mem_assign (he : e ∈ assign entries key value) : e ∈ entries ∨ e.2 = value := by
  unfold assign at he
  split_ifs at he
  · obtain ⟨e', he', rfl⟩ := List.mem_map.mp he
    split_ifs
    · exact .inr rfl
    · exact .inl he'
  · rcases List.mem_append.mp he with he | he
    · exact .inl he
    · exact .inr (by rw [List.mem_singleton.mp he])

theorem mem_setAttrCaseInsensitive (he : e ∈ setAttrCaseInsensitive std entries key value) :
    e ∈ entries ∨ e.2 = value := by
  unfold setAttrCaseInsensitive at he
  split at he <;> exact mem_assign he

theorem mem_deleteCaseInsensitive (he : e ∈ deleteCaseInsensitive std entries key) :
    e ∈ entries := by
  unfold deleteCaseInsensitive at he
  split at he
  · exact (List.mem_filter.mp he).1
  · exact he

theorem deleteCaseInsensitive_absent (h : entries.any (fun e => std.equalFold e.1 key) = false) :
    deleteCaseInsensitive std entries key = entries := by
  have hnone : entries.find? (fun e => std.equalFold e.1 key) = none := by
    rw [List.find?_eq_none]
    intro e he
    rw [List.any_eq_false] at h
    exact h e he
  rw [deleteCaseInsensitive, hnone]

/-- What an attribute refers to, an entry refers to. -/
theorem getAttr_refs {r : Ref} (hr : r ∈ (getAttrCaseInsensitive std entries key).refs) :
    ∃ e ∈ entries, r ∈ e.2.refs := by
  unfold getAttrCaseInsensitive at hr
  cases hfind : entries.find? fun e => std.equalFold e.1 key with
  | none =>
    rw [hfind] at hr
    exact absurd hr List.not_mem_nil
  | some e =>
    rw [hfind] at hr
    exact ⟨e, List.mem_of_find?_eq_some hfind, hr⟩

theorem mem_of_getAttr {m : Ref} (hm : getAttrCaseInsensitive std entries key = .map m) :
    ∃ e ∈ entries, m ∈ e.2.refs := by
  have hr : m ∈ (getAttrCaseInsensitive std entries key).refs := by
    rw [hm]
    exact List.mem_singleton_self m
  exact getAttr_refs hr

end Attributes

namespace Private

variable {std : Stdlib} {n : Nat} {result m : Ref} {h₀ h h' : Heap} {key : String} {value : Val}
  {entries : Entries}

/-- Maps that are made belong to the patch. -/
theorem grow (hp : Private n result h₀ h) (hext : h.Extends h') : Private n result h₀ h' where
  above := hp.above
  lt := Nat.lt_of_lt_of_le hp.lt hext.size_le
  same r hr := by
    rw [hext.same r (Nat.lt_trans (Nat.lt_of_lt_of_le hr hp.above) hp.lt), hp.same r hr]
  made ref href e he r hr := by
    rcases Nat.lt_or_ge ref h.size with hlt | hge
    · rw [hext.same ref hlt] at he
      exact hp.made ref href e he r hr
    · have hnew : h.size ≤ r := hext.made ref hge e he r hr
      have hgt : result < r := Nat.lt_of_lt_of_le hp.lt hnew
      exact ⟨Nat.le_trans hp.above (Nat.le_of_lt hgt), (Nat.ne_of_lt hgt).symm⟩
  own e he r hr := by
    rw [hext.same result hp.lt] at he
    exact hp.own e he r hr

/-- What was made after the result. -/
theorem made_of_size_le (hp : Private n result h₀ h) {r : Ref} (hr : h.size ≤ r) :
    Made n result r := by
  have hgt : result < r := Nat.lt_of_lt_of_le hp.lt hr
  exact ⟨Nat.le_trans hp.above (Nat.le_of_lt hgt), (Nat.ne_of_lt hgt).symm⟩

/-- A map of the patch is written. -/
theorem set_made (hp : Private n result h₀ h) (hm : Made n result m)
    (hentries : ∀ e ∈ entries, ∀ r ∈ e.2.refs, Made n result r) :
    Private n result h₀ (h.set m entries) where
  above := hp.above
  lt := by
    rw [Heap.size_set]
    exact hp.lt
  same r hr := by
    rw [Heap.get_set_of_ne (Nat.ne_of_lt (Nat.lt_of_lt_of_le hr hm.1)), hp.same r hr]
  made ref href e he r hr := by
    rcases Heap.mem_get_set he with ⟨-, he⟩ | ⟨-, he⟩
    · exact hentries e he r hr
    · exact hp.made ref href e he r hr
  own e he r hr := by
    rw [Heap.get_set_of_ne hm.2.symm] at he
    exact hp.own e he r hr

/-- The result is written. -/
theorem set_result (hp : Private n result h₀ h)
    (hentries : ∀ e ∈ entries, ∀ r ∈ e.2.refs, r ≠ result) :
    Private n result h₀ (h.set result entries) where
  above := hp.above
  lt := by
    rw [Heap.size_set]
    exact hp.lt
  same r hr := by
    rw [Heap.get_set_of_ne (Nat.ne_of_lt (Nat.lt_of_lt_of_le hr hp.above)), hp.same r hr]
  made ref href e he r hr := by
    rw [Heap.get_set_of_ne href.2] at he
    exact hp.made ref href e he r hr
  own e he r hr := by
    rw [Heap.get_set_self hp.lt] at he
    exact hentries e he r hr

theorem setAttr_made (hp : Private n result h₀ h) (hm : Made n result m)
    (hvalue : ∀ r ∈ value.refs, Made n result r) : Private n result h₀ (setAttr std h m key value) := by
  refine hp.set_made hm fun e he r hr => ?_
  rcases mem_setAttrCaseInsensitive he with he | he
  · exact hp.made m hm e he r hr
  · rw [he] at hr
    exact hvalue r hr

theorem setAttr_result (hp : Private n result h₀ h) (hvalue : ∀ r ∈ value.refs, r ≠ result) :
    Private n result h₀ (setAttr std h result key value) := by
  refine hp.set_result fun e he r hr => ?_
  rcases mem_setAttrCaseInsensitive he with he | he
  · exact hp.own e he r hr
  · rw [he] at hr
    exact hvalue r hr

theorem deleteAttr_made (hp : Private n result h₀ h) (hm : Made n result m) :
    Private n result h₀ (deleteAttr std h m key) :=
  hp.set_made hm fun e he => hp.made m hm e (mem_deleteCaseInsensitive he)

theorem deleteAttr_result (hp : Private n result h₀ h) :
    Private n result h₀ (deleteAttr std h result key) :=
  hp.set_result fun e he => hp.own e (mem_deleteCaseInsensitive he)

theorem mergeAttrs_made (hp : Private n result h₀ h) (hm : Made n result m)
    (hentries : ∀ e ∈ entries, ∀ r ∈ e.2.refs, Made n result r) :
    Private n result h₀ (mergeAttrs std h m entries) := by
  unfold mergeAttrs
  induction entries generalizing h with
  | nil => exact hp
  | cons e entries ih =>
    obtain ⟨he, hrest⟩ := List.forall_mem_cons.mp hentries
    exact ih (hp.setAttr_made hm he) hrest

theorem mergeAttrs_result (hp : Private n result h₀ h)
    (hentries : ∀ e ∈ entries, ∀ r ∈ e.2.refs, r ≠ result) :
    Private n result h₀ (mergeAttrs std h result entries) := by
  unfold mergeAttrs
  induction entries generalizing h with
  | nil => exact hp
  | cons e entries ih =>
    obtain ⟨he, hrest⟩ := List.forall_mem_cons.mp hentries
    exact ih (hp.setAttr_result he) hrest

theorem orMake_made {existing : Val} (hp : Private n result h₀ h)
    (hexisting : ∀ m, existing = .map m → Made n result m) :
    Private n result h₀ (orMake h existing).2 ∧ Made n result (orMake h existing).1 := by
  have hmake : Private n result h₀ (h.alloc []).2 ∧ Made n result (h.alloc []).1 := by
    refine ⟨hp.grow ((Heap.Extends.refl h).alloc fun e he => absurd he List.not_mem_nil), ?_⟩
    exact hp.made_of_size_le (Nat.le_refl _)
  cases existing with
  | map m => exact ⟨hp, hexisting m rfl⟩
  | nil | bool | float64 | string | slice => exact hmake

theorem setParts_made (hvalue : ∀ r ∈ value.refs, Made n result r) (parts : List String) :
    ∀ {h : Heap} {current : Ref}, Private n result h₀ h → Made n result current →
      Private n result h₀ (setParts std value h current parts) := by
  induction parts with
  | nil => exact fun hp _ => hp
  | cons part parts ih =>
    intro h current hp hcurrent
    cases parts with
    | nil => exact hp.setAttr_made hcurrent hvalue
    | cons part' parts =>
      have hexisting : ∀ m, getAttrCaseInsensitive std (h.get current) part = .map m →
          Made n result m := by
        intro m hm
        obtain ⟨e, he, hr⟩ := mem_of_getAttr hm
        exact hp.made current hcurrent e he m hr
      obtain ⟨hmake, hnm⟩ := hp.orMake_made hexisting
      refine ih (hmake.setAttr_made hcurrent fun r hr => ?_) hnm
      rw [List.mem_singleton.mp hr]
      exact hnm

theorem setNestedAttr_spared {parent child : String} (hp : Private n result h₀ h)
    (hspare : sparesAttr std n h result parent = true)
    (hvalue : ∀ r ∈ value.refs, Made n result r) :
    Private n result h₀ (setNestedAttr std h result parent child value) := by
  have hexisting : ∀ m, getAttrCaseInsensitive std (h.get result) parent = .map m →
      Made n result m := by
    intro m hm
    obtain ⟨e, he, hr⟩ := mem_of_getAttr hm
    rw [sparesAttr, hm] at hspare
    exact ⟨of_decide_eq_true hspare, hp.own e he m hr⟩
  obtain ⟨hmake, hm⟩ := hp.orMake_made hexisting
  refine (hmake.setParts_made hvalue _ hm).setAttr_result fun r hr => ?_
  rw [List.mem_singleton.mp hr]
  exact hm.2

theorem editItem_made {subPath : String} (hp : Private n result h₀ h) (hm : Made n result m)
    (hvalue : ∀ r ∈ value.refs, Made n result r) :
    Private n result h₀ (editItem std h m subPath value) := by
  unfold editItem
  split_ifs
  · exact hp.setAttr_made hm hvalue
  · cases value with
    | map valMap =>
      have hmade : Made n result valMap := hvalue valMap (List.mem_singleton_self valMap)
      exact hp.mergeAttrs_made hm (hp.made valMap hmade)
    | nil | bool | float64 | string | slice => exact hp

end Private

theorem editItem_unwritten {std : Stdlib} {h : Heap} {m : Ref} {subPath : String} {value : Val}
    (hwrites : editWrites h subPath value = false) : editItem std h m subPath value = h := by
  unfold editWrites at hwrites
  unfold editItem
  split_ifs at hwrites ⊢
  cases value with
  | map valMap =>
    have hempty : h.get valMap = [] := by simpa using hwrites
    show mergeAttrs std h m (h.get valMap) = h
    rw [hempty]
    rfl
  | nil | bool | float64 | string | slice => rfl

namespace Private

variable {std : Stdlib} {n : Nat} {result m : Ref} {h₀ h h' : Heap} {subPath : String}
  {value : Val} {innerFilter : Option FilterExpr}

theorem editItems_spared (hvalue : ∀ r ∈ value.refs, Made n result r) (items : List Val) :
    ∀ {h : Heap}, Private n result h₀ h → (∀ r ∈ refsOf items, r ≠ result) →
      sparesEdited std n innerFilter subPath value h items = true →
      Private n result h₀ (editItems std innerFilter subPath value h items).2 := by
  induction items with
  | nil => exact fun hp _ _ => hp
  | cons item items ih =>
    intro h hp hitems hspare
    have hrest : ∀ r ∈ refsOf items, r ≠ result :=
      fun r hr => hitems r (List.mem_append_right _ hr)
    cases item with
    | map m =>
      rw [sparesEdited] at hspare
      rw [editItems]
      split_ifs at hspare ⊢
      · obtain ⟨hm, hspare⟩ := Bool.and_eq_true_iff.mp hspare
        refine ih ?_ hrest hspare
        rcases Bool.or_eq_true_iff.mp hm with hm | hm
        · have hne : m ≠ result := hitems m (List.mem_append_left _ (List.mem_singleton_self m))
          exact hp.editItem_made ⟨of_decide_eq_true hm, hne⟩ hvalue
        · rw [editItem_unwritten (by simpa using hm)]
          exact hp
      · exact ih hp hrest hspare
    | nil | bool | float64 | string | slice => exact ih hp hrest hspare

/-- The elements that are kept were there. -/
theorem keepItems_spared (items : List Val) :
    ∀ {h : Heap}, Private n result h₀ h → (∀ r ∈ refsOf items, r ≠ result) →
      sparesRemoved std n innerFilter subPath h items = true →
      Private n result h₀ (keepItems std innerFilter subPath h items).2 ∧
        ∀ r ∈ refsOf (keepItems std innerFilter subPath h items).1, r ≠ result := by
  induction items with
  | nil => exact fun hp hitems _ => ⟨hp, hitems⟩
  | cons item items ih =>
    intro h hp hitems hspare
    have hrest : ∀ r ∈ refsOf items, r ≠ result :=
      fun r hr => hitems r (List.mem_append_right _ hr)
    have hkeep : ∀ {h : Heap}, Private n result h₀ h →
        sparesRemoved std n innerFilter subPath h items = true →
        Private n result h₀ (keepItems std innerFilter subPath h items).2 ∧
          ∀ r ∈ refsOf (item :: (keepItems std innerFilter subPath h items).1), r ≠ result := by
      intro h hp hspare
      obtain ⟨hp', hkept⟩ := ih hp hrest hspare
      refine ⟨hp', fun r hr => ?_⟩
      rcases List.mem_append.mp hr with hr | hr
      · exact hitems r (List.mem_append_left _ hr)
      · exact hkept r hr
    cases item with
    | map m =>
      rw [sparesRemoved] at hspare
      rw [keepItems]
      split_ifs at hspare ⊢ with hmatch hsub
      · obtain ⟨hm, hspare⟩ := Bool.and_eq_true_iff.mp hspare
        refine ih ?_ hrest hspare
        have hne : m ≠ result := hitems m (List.mem_append_left _ (List.mem_singleton_self m))
        by_cases hlt : n ≤ m
        · exact hp.deleteAttr_made ⟨hlt, hne⟩
        · have habsent : hasAttr std h m subPath = false := by simpa [hlt, hsub] using hm
          rw [deleteAttr, deleteCaseInsensitive_absent habsent, Heap.set_get]
          exact hp
      · obtain ⟨-, hspare⟩ := Bool.and_eq_true_iff.mp hspare
        exact ih hp hrest hspare
      · exact hkeep hp hspare
    | nil | bool | float64 | string | slice => exact hkeep hp hspare

/-- What an attribute of the result holds is not the result. -/
theorem getAttr_ne (hp : Private n result h₀ h) {key : String} :
    ∀ r ∈ (getAttrCaseInsensitive std (h.get result) key).refs, r ≠ result := by
  intro r hr
  obtain ⟨e, he, hr⟩ := getAttr_refs hr
  exact hp.own e he r hr

theorem sliceItems_ne (hp : Private n result h₀ h) {key : String} :
    ∀ r ∈ refsOf (sliceItems (getAttrCaseInsensitive std (h.get result) key)), r ≠ result := by
  have hvalue : ∀ r ∈ (getAttrCaseInsensitive std (h.get result) key).refs, r ≠ result :=
    hp.getAttr_ne
  cases hattr : getAttrCaseInsensitive std (h.get result) key with
  | slice items =>
    rw [hattr] at hvalue
    exact hvalue
  | nil | bool | float64 | string | map => exact fun r hr => absurd hr List.not_mem_nil

theorem decodeValue_made {raw : RawMessage} (hp : Private n result h₀ h)
    (hdecode : decodeValue h raw = .ok (value, h')) :
    Private n result h₀ h' ∧ ∀ r ∈ value.refs, Made n result r := by
  cases raw with
  | empty =>
    obtain ⟨rfl, rfl⟩ := Prod.mk.inj (Except.ok.inj hdecode)
    exact ⟨hp, fun r hr => absurd hr List.not_mem_nil⟩
  | malformed err => exact nomatch hdecode
  | json x =>
    obtain ⟨hext, hrefs⟩ := Heap.extends_load h x
    rw [Except.ok.inj hdecode] at hext hrefs
    exact ⟨hp.grow hext, fun r hr => hp.made_of_size_le (hrefs r hr)⟩

theorem addOrReplaceInArray_spared {attrName filter : String} {isReplace : Bool}
    (hp : Private n result h₀ h) (hvalue : ∀ r ∈ value.refs, Made n result r)
    (hspare : ∀ innerFilter, parseFilter filter = .ok innerFilter →
      sparesEdited std n innerFilter subPath value h
        (sliceItems (getAttrCaseInsensitive std (h.get result) attrName)) = true)
    (happly : addOrReplaceInArray std h result attrName filter subPath value isReplace = .ok h') :
    Private n result h₀ h' := by
  unfold addOrReplaceInArray at happly
  cases hparse : parseFilter filter with
  | error err =>
    rw [hparse] at happly
    exact nomatch happly
  | ok innerFilter =>
    rw [hparse] at happly
    rw [← Except.ok.inj happly]
    refine (editItems_spared hvalue _ hp hp.sliceItems_ne (hspare innerFilter hparse)).setAttr_result
      fun r hr => ?_
    split_ifs at hr
    · obtain ⟨item, hitem, hr⟩ := mem_refsOf.mp hr
      rcases List.mem_append.mp hitem with hitem | hitem
      · exact hp.sliceItems_ne r (mem_refsOf.mpr ⟨item, hitem, hr⟩)
      · rw [List.mem_singleton.mp hitem] at hr
        exact (hvalue r hr).2
    · exact hp.sliceItems_ne r hr

theorem applyPut_spared {path : String} {raw : RawMessage} {isReplace : Bool}
    {requiresObject : PatchOpError} {putAttr : Heap → Ref → String → Val → Heap}
    (hp : Private n result h₀ h) (hspare : sparesPut std n h result path raw isReplace = true)
    (hput : ∀ {h attrName val}, Private n result h₀ h → (∀ r ∈ val.refs, Made n result r) →
      (!isReplace || !editWrites h "" val || sparesAttr std n h result attrName) = true →
      Private n result h₀ (putAttr h result attrName val))
    (happly : applyPut std requiresObject isReplace putAttr h result path raw = .ok h') :
    Private n result h₀ h' := by
  unfold sparesPut at hspare
  unfold applyPut at happly
  cases hdecode : decodeValue h raw with
  | error err =>
    rw [hdecode] at happly
    exact nomatch happly
  | ok decoded =>
    obtain ⟨val, h₁⟩ := decoded
    obtain ⟨hp₁, hvalue⟩ := hp.decodeValue_made hdecode
    simp only [hdecode] at happly hspare
    by_cases hpath : path = ""
    · rw [if_pos hpath] at happly
      cases val with
      | map valMap =>
        have hmade : Made n result valMap := hvalue valMap (List.mem_singleton_self valMap)
        rw [← Except.ok.inj happly]
        exact hp₁.mergeAttrs_result fun e he r hr => (hp₁.made valMap hmade e he r hr).2
      | nil | bool | float64 | string | slice => exact nomatch happly
    rw [if_neg hpath] at happly hspare
    generalize parsePatchPath path = parsed at happly hspare
    obtain ⟨attrName, subPath, filter⟩ := parsed
    by_cases hfilter : filter = ""
    · simp only [if_pos hfilter] at happly hspare
      by_cases hsub : subPath ≠ ""
      · rw [if_pos hsub] at happly hspare
        rw [← Except.ok.inj happly]
        exact hp₁.setNestedAttr_spared hspare hvalue
      · rw [if_neg hsub] at happly hspare
        rw [← Except.ok.inj happly]
        exact hput hp₁ hvalue hspare
    · simp only [if_neg hfilter] at happly hspare
      refine hp₁.addOrReplaceInArray_spared hvalue (fun innerFilter hparse => ?_) happly
      rwa [hparse] at hspare

theorem addAttr_private {attrName : String} (hp : Private n result h₀ h)
    (hvalue : ∀ r ∈ value.refs, Made n result r) :
    Private n result h₀ (addAttr std h result attrName value) := by
  have hattr : ∀ r ∈ (getAttrCaseInsensitive std (h.get result) attrName).refs, r ≠ result :=
    hp.getAttr_ne
  have hval : ∀ r ∈ value.refs, r ≠ result := fun r hr => (hvalue r hr).2
  have happend : ∀ existingArr xs, getAttrCaseInsensitive std (h.get result) attrName =
      .slice existingArr → (∀ r ∈ refsOf xs, r ≠ result) →
      ∀ r ∈ (Val.slice (existingArr ++ xs)).refs, r ≠ result := by
    intro existingArr xs hexisting hxs r hr
    rw [hexisting] at hattr
    rw [Val.refs, refsOf_append, List.mem_append] at hr
    exact hr.elim (hattr r) (hxs r)
  unfold addAttr
  split
  · rename_i existingArr hexisting
    split
    · exact hp.setAttr_result (happend existingArr _ hexisting hval)
    · refine hp.setAttr_result (happend existingArr _ hexisting fun r hr => hval r ?_)
      rwa [refsOf, refsOf, List.append_nil] at hr
  · exact hp.setAttr_result hval

theorem replaceAttr_spared {attrName : String} (hp : Private n result h₀ h)
    (hvalue : ∀ r ∈ value.refs, Made n result r)
    (hspare : (!editWrites h "" value || sparesAttr std n h result attrName) = true) :
    Private n result h₀ (replaceAttr std h result attrName value) := by
  have hval : ∀ r ∈ value.refs, r ≠ result := fun r hr => (hvalue r hr).2
  unfold replaceAttr
  split
  · rename_i existMap hexisting
    split
    · rename_i newMap
      have hmade : Made n result newMap := hvalue newMap (List.mem_singleton_self newMap)
      obtain ⟨e, he, hr⟩ := mem_of_getAttr hexisting
      have hne : existMap ≠ result := hp.own e he existMap hr
      by_cases hlt : n ≤ existMap
      · exact hp.mergeAttrs_made ⟨hlt, hne⟩ (hp.made newMap hmade)
      · have hempty : h.get newMap = [] := by
          simpa [editWrites, sparesAttr, hexisting, hlt] using hspare
        rw [hempty]
        exact hp
    · exact hp.setAttr_result hval
  · exact hp.setAttr_result hval

theorem applyAdd_spared {path : String} {raw : RawMessage} (hp : Private n result h₀ h)
    (hspare : sparesPut std n h result path raw false = true)
    (happly : applyAdd std h result path raw = .ok h') : Private n result h₀ h' :=
  hp.applyPut_spared hspare (fun hp hvalue _ => hp.addAttr_private hvalue) happly

theorem applyReplace_spared {path : String} {raw : RawMessage} (hp : Private n result h₀ h)
    (hspare : sparesPut std n h result path raw true = true)
    (happly : applyReplace std h result path raw = .ok h') : Private n result h₀ h' :=
  hp.applyPut_spared hspare
    (fun hp hvalue hspare => hp.replaceAttr_spared hvalue (by simpa using hspare)) happly

theorem applyRemove_spared {path : String} (hp : Private n result h₀ h)
    (hspare : sparesRemove std n h result path = true)
    (happly : applyRemove std h result path = .ok h') : Private n result h₀ h' := by
  unfold sparesRemove at hspare
  unfold applyRemove at happly
  by_cases hpath : path = ""
  · rw [if_pos hpath] at happly
    cases happly
  rw [if_neg hpath] at happly hspare
  generalize parsePatchPath path = parsed at happly hspare
  obtain ⟨attrName, subPath, filter⟩ := parsed
  have hattr : ∀ r ∈ (getAttrCaseInsensitive std (h.get result) attrName).refs, r ≠ result :=
    hp.getAttr_ne
  simp only at happly hspare
  by_cases hfilter : filter = ""
  · rw [if_pos hfilter] at happly
    by_cases hsub : subPath ≠ ""
    · rw [if_pos hsub] at happly
      cases hexisting : getAttrCaseInsensitive std (h.get result) attrName with
      | map m =>
        rw [hexisting] at happly hspare hattr
        rw [← Except.ok.inj happly]
        have hne : m ≠ result := hattr m (List.mem_singleton_self m)
        by_cases hlt : n ≤ m
        · exact hp.deleteAttr_made ⟨hlt, hne⟩
        · have habsent : hasAttr std h m subPath = false := by
            simpa [hlt, hsub, hfilter] using hspare
          rw [deleteAttr, deleteCaseInsensitive_absent habsent, Heap.set_get]
          exact hp
      | nil | bool | float64 | string | slice =>
        rw [hexisting] at happly
        rw [← Except.ok.inj happly]
        exact hp
    · rw [if_neg hsub] at happly
      rw [← Except.ok.inj happly]
      exact hp.deleteAttr_result
  · rw [if_neg hfilter] at happly
    cases hexisting : getAttrCaseInsensitive std (h.get result) attrName with
    | slice items =>
      rw [hexisting] at happly hspare hattr
      cases hparse : parseFilter filter with
      | error err =>
        rw [hparse] at happly
        cases happly
      | ok innerFilter =>
        rw [hparse] at happly hspare
        rw [← Except.ok.inj happly]
        have hitems : sparesRemoved std n innerFilter subPath h items = true := by
          simpa [hfilter] using hspare
        obtain ⟨hp', hkept⟩ := keepItems_spared items hp hattr hitems
        exact hp'.setAttr_result hkept
    | nil | bool | float64 | string | map =>
      rw [hexisting] at happly
      rw [← Except.ok.inj happly]
      exact hp

/-- **An operation that spares the maps that were there** leaves them as they were. -/
theorem applyOp_spared {op : PatchOperation} (hp : Private n result h₀ h)
    (hspare : spares std n h result op = true) (happly : applyOp std h result op = .ok h') :
    Private n result h₀ h' := by
  unfold spares at hspare
  unfold applyOp at happly
  simp only at hspare happly
  split_ifs at hspare happly
  · exact hp.applyAdd_spared hspare happly
  · exact hp.applyReplace_spared hspare happly
  · exact hp.applyRemove_spared hspare happly

end Private

-- ---------------------------------------------------------------------------
-- The input of a patch
-- ---------------------------------------------------------------------------

/-- The state the loop starts in: the copy shares the maps inside. -/
theorem private_alloc {h : Heap} {attrs : Ref} (hclosed : h.Closed) :
    Private h.size h.size h (h.alloc (h.get attrs)).2 where
  above := Nat.le_refl _
  lt := by
    rw [Heap.size_alloc]
    exact Nat.lt_succ_self _
  same r hr := Heap.get_alloc_of_ne (Nat.ne_of_lt hr)
  made ref href e he := by
    rw [Heap.get_alloc_of_ne href.2, Heap.get_of_size_le href.1] at he
    exact absurd he List.not_mem_nil
  own e he r hr := by
    rw [Heap.get_alloc_self] at he
    exact Nat.ne_of_lt (hclosed attrs e he r hr)

/-- Every operation that is carried out spares the maps that were there. -/
def SparesInput (std : Stdlib) (h : Heap) (attrs : Ref) (ops : List PatchOperation) : Prop :=
  StepsOk (patchStep std h.size)
    (fun s e => s.2 = none → spares std h.size s.1 h.size e.1 = true)
    ((h.alloc (h.get attrs)).2, none) ops.zipIdx

instance (std : Stdlib) (h : Heap) (attrs : Ref) (ops : List PatchOperation) :
    Decidable (SparesInput std h attrs ops) :=
  inferInstanceAs (Decidable (StepsOk _ _ _ _))

theorem patchStep_private {std : Stdlib} {n : Nat} {result : Ref} {h₀ : Heap}
    (s : Heap × Option PatchError) (e : PatchOperation × Nat) (hp : Private n result h₀ s.1)
    (hspare : s.2 = none → spares std n s.1 result e.1 = true) :
    Private n result h₀ (patchStep std result s e).1 := by
  obtain ⟨h, failed⟩ := s
  cases failed with
  | some err => exact hp
  | none =>
    unfold patchStep
    cases happly : applyOp std h result e.1 with
    | error err => exact hp
    | ok h' => exact hp.applyOp_spared (hspare rfl) happly

/-- **The input of a patch is unchanged**, at any depth and however the call ends, if every
operation that is carried out spares the maps that were there. -/
theorem input_unchanged (std : Stdlib) {h : Heap} {attrs : Ref} {ops : List PatchOperation}
    (hclosed : h.Closed) (hattrs : attrs < h.size) (hspare : SparesInput std h attrs ops)
    (depth : Nat) :
    (applyPatch std h attrs ops).1.read depth (.map attrs) = h.read depth (.map attrs) := by
  let start : Heap × Option PatchError := ((h.alloc (h.get attrs)).2, none)
  have hend : Private h.size h.size h (run (patchStep std h.size) start ops.zipIdx).1 :=
    invariant_states (fun s e hp hok => patchStep_private s e hp hok) (private_alloc hclosed)
      hspare _ (run_mem_states start ops.zipIdx)
  have hheap : (applyPatch std h attrs ops).1 = (run (patchStep std h.size) start ops.zipIdx).1 := by
    simp only [applyPatch, Heap.alloc_ref]
    split <;> rfl
  rw [hheap]
  refine Heap.read_congr (P := (· < h.size)) hend.same (fun ref _ => hclosed ref) depth _ ?_
  intro r hr
  rw [List.mem_singleton.mp hr]
  exact hattrs

namespace Sample

/-- A user with a name. -/
def john : Heap :=
  ⟨[[("givenName", .string "John")], [("userName", .string "john"), ("name", .map 0)]]⟩

def rename : PatchOperation := ⟨"replace", "userName", .json (.string "jd")⟩

def setGivenName : PatchOperation := ⟨"replace", "name.givenName", .json (.string "Jane")⟩

def explode : PatchOperation := ⟨"explode", "", .empty⟩

theorem parsePatchPath_name : parsePatchPath "name.givenName" = ("name", "givenName", "") := by
  simp only [parsePatchPath, Strings.trimSpace, String.toList_ofList]
  rfl

theorem parsePatchPath_userName : parsePatchPath "userName" = ("userName", "", "") := by
  simp only [parsePatchPath, Strings.trimSpace, String.toList_ofList]
  rfl

theorem toLower_replace : stdlib.toLower (Strings.trimSpace "replace") = "replace" := by
  simp only [stdlib, Strings.trimSpace, String.toList_ofList]
  rfl

theorem toLower_explode : stdlib.toLower (Strings.trimSpace "explode") = "explode" := by
  simp only [stdlib, Strings.trimSpace, String.toList_ofList]
  rfl

theorem applyOp_explode (h : Heap) (attrs : Ref) :
    applyOp stdlib h attrs explode = .error (.unsupported "explode") := by
  simp only [applyOp, explode, toLower_explode]
  rfl

theorem john_closed : john.Closed := by
  intro ref e he r hr
  match ref with
  | 0 => exact absurd hr (by rw [List.mem_singleton.mp he]; exact List.not_mem_nil)
  | 1 =>
    rcases List.mem_cons.mp he with rfl | he
    · exact absurd hr List.not_mem_nil
    · rw [List.mem_singleton.mp he] at hr
      rw [List.mem_singleton.mp hr]
      decide
  | ref + 2 => exact absurd he List.not_mem_nil

/-- The input and its copy, with the name changed in both. -/
def renamed : Heap :=
  ⟨[[("givenName", .string "Jane")], [("userName", .string "john"), ("name", .map 0)],
    [("userName", .string "john"), ("name", .map 0)]]⟩

theorem applyOp_setGivenName :
    applyOp stdlib (john.alloc (john.get 1)).2 2 setGivenName = .ok renamed := by
  simp only [applyOp, setGivenName, toLower_replace]
  rw [if_neg (by decide), if_pos trivial]
  simp only [applyReplace, applyPut, parsePatchPath_name, decodeValue]
  rw [if_neg (by decide), if_pos trivial, if_pos (by decide)]
  rfl

theorem patchStep_setGivenName :
    patchStep stdlib 2 ((john.alloc (john.get 1)).2, none) (setGivenName, 0) = (renamed, none) := by
  simp only [patchStep, applyOp_setGivenName]

theorem patchStep_explode (h : Heap) (i : Nat) :
    patchStep stdlib 2 (h, none) (explode, i) = (h, some ⟨i, .unsupported "explode"⟩) := by
  simp only [patchStep, applyOp_explode]

theorem sparesInput_rename : SparesInput stdlib john 1 [rename, explode] := by
  refine ⟨fun _ => ?_, fun _ => ?_, trivial⟩
  · show spares stdlib 2 (john.alloc (john.get 1)).2 2 rename = true
    simp only [spares, rename, toLower_replace]
    rw [if_neg (by decide), if_pos trivial]
    simp only [sparesPut, decodeValue, parsePatchPath_userName]
    rw [if_neg (by decide), if_pos trivial, if_neg (by decide)]
    rfl
  · simp only [spares, explode, toLower_explode]
    rfl

end Sample

open Sample in
theorem input_unchanged_sample :
    (applyPatch stdlib john 1 [rename, explode]).1.read 3 (.map 1) = john.read 3 (.map 1) :=
  input_unchanged stdlib john_closed (by decide) sparesInput_rename 3

open Sample in
/-- **The input of a patch is changed**, by a list that succeeds and by one that fails. -/
theorem input_mutated :
    ((applyPatch stdlib john 1 [setGivenName]).2 = .ok 2 ∧
      (applyPatch stdlib john 1 [setGivenName]).1.read 3 (.map 1) ≠ john.read 3 (.map 1)) ∧
    ((applyPatch stdlib john 1 [setGivenName, explode]).2 =
        .error ⟨1, .unsupported "explode"⟩ ∧
      (applyPatch stdlib john 1 [setGivenName, explode]).1.read 3 (.map 1) ≠
        john.read 3 (.map 1)) := by
  have hsize : john.size = 2 := rfl
  have hone : applyPatch stdlib john 1 [setGivenName] = (renamed, .ok 2) := by
    simp only [applyPatch, Heap.alloc_ref, hsize, run, List.zipIdx_cons, List.zipIdx_nil,
      List.foldl_cons, List.foldl_nil, patchStep_setGivenName]
  have htwo : applyPatch stdlib john 1 [setGivenName, explode] =
      (renamed, .error ⟨1, .unsupported "explode"⟩) := by
    simp only [applyPatch, Heap.alloc_ref, hsize, run, List.zipIdx_cons, List.zipIdx_nil,
      List.foldl_cons, List.foldl_nil, patchStep_setGivenName, Nat.zero_add, patchStep_explode]
  have hne : renamed.read 3 (.map 1) ≠ john.read 3 (.map 1) := by
    intro hread
    simp [renamed, john, Heap.read, Heap.get] at hread
  rw [hone, htwo]
  exact ⟨⟨rfl, hne⟩, rfl, hne⟩

end Ggid.Identity
