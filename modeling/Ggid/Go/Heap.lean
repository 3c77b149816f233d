import Ggid.Go.Value

/-!
# Maps in memory

A `map[string]any` is a reference: what is written through one copy of it is seen through
all of them. The heap holds the maps by their references, in the order they were made.

The entries of a map are listed in the order a `range` visits them. Slices are values: their
elements are never written, and an `append` does not show in a shorter slice.

* `Extends`       — maps were made and none was written;
* `extends_load`  — so it is after a decoder made the maps of a value;
* `read_congr`    — a value reads the same as long as what it reaches is the same.
-/

namespace Ggid.Go

abbrev Ref := Nat

/-- `any`, with maps by reference. -/
inductive Val where
  | nil
  | bool (b : Bool)
  | float64 (x : Float64)
  | string (s : String)
  | slice (xs : List Val)
  | map (ref : Ref)

/-- The entries of a map. -/
abbrev Entries := List (String × Val)

mutual

/-- The maps a value holds, but for those behind them. -/
def Val.refs : Val → List Ref
  | .slice xs => refsOf xs
  | .map ref => [ref]
  | _ => []

def refsOf : List Val → List Ref
  | [] => []
  | x :: xs => x.refs ++ refsOf xs

end

theorem mem_refsOf {r : Ref} {xs : List Val} : r ∈ refsOf xs ↔ ∃ x ∈ xs, r ∈ x.refs := by
  induction xs with
  | nil => simp [refsOf]
  | cons x xs ih => rw [refsOf, List.mem_append, ih, List.exists_mem_cons_iff]

theorem refsOf_append (xs ys : List Val) : refsOf (xs ++ ys) = refsOf xs ++ refsOf ys := by
  induction xs with
  | nil => rfl
  | cons x xs ih => rw [List.cons_append, refsOf, refsOf, ih, List.append_assoc]

mutual

/-- How deep slices are nested. -/
def Val.depth : Val → Nat
  | .slice xs => depthOf xs + 1
  | _ => 1

def depthOf : List Val → Nat
  | [] => 0
  | x :: xs => max x.depth (depthOf xs)

end

structure Heap where
  maps : List Entries

namespace Heap

def size (h : Heap) : Nat := h.maps.length

def get (h : Heap) (ref : Ref) : Entries := h.maps[ref]?.getD []

def set (h : Heap) (ref : Ref) (entries : Entries) : Heap := ⟨h.maps.set ref entries⟩

/-- `make`, or a map literal. -/
def alloc (h : Heap) (entries : Entries) : Ref × Heap := (h.size, ⟨h.maps ++ [entries]⟩)

mutual

/-- What `json.Unmarshal` makes of a value. -/
def load (h : Heap) : Any → Val × Heap
  | .nil => (.nil, h)
  | .bool b => (.bool b, h)
  | .float64 x => (.float64 x, h)
  | .string s => (.string s, h)
  | .slice xs =>
    let (vs, h) := loadAll h xs
    (.slice vs, h)
  | .map fields =>
    let (entries, h) := loadFields h fields
    let (ref, h) := h.alloc entries
    (.map ref, h)

def loadAll (h : Heap) : List Any → List Val × Heap
  | [] => ([], h)
  | x :: xs =>
    let (v, h) := load h x
    let (vs, h) := loadAll h xs
    (v :: vs, h)

def loadFields (h : Heap) : List (String × Any) → Entries × Heap
  | [] => ([], h)
  | (k, x) :: fields =>
    let (v, h) := load h x
    let (entries, h) := loadFields h fields
    ((k, v) :: entries, h)

end

/-- The value, down to a depth. -/
def read (h : Heap) : Nat → Val → Any
  | 0, _ => .nil
  | _ + 1, .nil => .nil
  | _ + 1, .bool b => .bool b
  | _ + 1, .float64 x => .float64 x
  | _ + 1, .string s => .string s
  | depth + 1, .slice xs => .slice (xs.map (h.read depth))
  | depth + 1, .map ref => .map ((h.get ref).map fun e => (e.1, h.read depth e.2))

/-- Nothing is deeper, unless a map is inside itself. -/
def bound (h : Heap) : Nat :=
  (h.maps.map fun entries => (entries.map fun e => e.2.depth).sum + 1).sum

/-- A map with all there is in it. -/
def fields (h : Heap) (ref : Ref) : GoMap := (h.get ref).map fun e => (e.1, h.read h.bound e.2)

/-- No reference dangles. -/
def Closed (h : Heap) : Prop := ∀ ref, ∀ e ∈ h.get ref, ∀ r ∈ e.2.refs, r < h.size

-- ---------------------------------------------------------------------------
-- Reading and writing
-- ---------------------------------------------------------------------------

variable {h h' h'' : Heap} {ref r : Ref} {entries : Entries}

@[simp] theorem size_set : (h.set ref entries).size = h.size := List.length_set

theorem get_set_self (hlt : ref < h.size) : (h.set ref entries).get ref = entries := by
  rw [get, set, List.getElem?_set_self hlt]
  rfl

theorem get_set_of_ne (hne : r ≠ ref) : (h.set ref entries).get r = h.get r := by
  rw [get, set, List.getElem?_set_ne hne.symm]
  rfl

theorem set_get : h.set ref (h.get ref) = h := by
  rcases Nat.lt_or_ge ref h.maps.length with hlt | hge
  · have hget : h.get ref = h.maps[ref] := by
      rw [get, List.getElem?_eq_getElem hlt]
      rfl
    rw [hget, set, List.set_getElem_self]
  · rw [set, List.set_eq_of_length_le hge]

theorem get_of_size_le (hle : h.size ≤ ref) : h.get ref = [] := by
  rw [get, List.getElem?_eq_none hle]
  rfl

@[simp] theorem alloc_ref : (h.alloc entries).1 = h.size := rfl

@[simp] theorem size_alloc : (h.alloc entries).2.size = h.size + 1 := by
  simp [alloc, size]

/-- An entry of a map, one of which was written. -/
theorem mem_get_set {e : String × Val} (he : e ∈ (h.set ref entries).get r) :
    r = ref ∧ e ∈ entries ∨ r ≠ ref ∧ e ∈ h.get r := by
  by_cases hr : r = ref
  · subst hr
    rcases Nat.lt_or_ge r h.size with hlt | hge
    · rw [get_set_self hlt] at he
      exact .inl ⟨rfl, he⟩
    · have hsize : (h.set r entries).size ≤ r := by rwa [size_set]
      rw [get_of_size_le hsize] at he
      exact absurd he List.not_mem_nil
  · rw [get_set_of_ne hr] at he
    exact .inr ⟨hr, he⟩

theorem get_alloc_self : (h.alloc entries).2.get h.size = entries := by
  simp [alloc, get, size]

theorem get_alloc_of_ne (hne : r ≠ h.size) : (h.alloc entries).2.get r = h.get r := by
  rcases Nat.lt_or_ge r h.size with hlt | hge
  · rw [get, get, alloc, List.getElem?_append_left hlt]
  · have hgt : h.size + 1 ≤ r := Nat.lt_of_le_of_ne hge hne.symm
    rw [get_of_size_le hge, get_of_size_le (size_alloc ▸ hgt)]

/-- **A value reads the same** as long as the maps it reaches are the same. -/
theorem read_congr {P : Ref → Prop} (hsame : ∀ ref, P ref → h'.get ref = h.get ref)
    (hreach : ∀ ref, P ref → ∀ e ∈ h.get ref, ∀ r ∈ e.2.refs, P r) (depth : Nat) :
    ∀ v : Val, (∀ r ∈ v.refs, P r) → h'.read depth v = h.read depth v := by
  induction depth with
  | zero => exact fun _ _ => rfl
  | succ depth ih =>
    intro v hv
    cases v with
    | nil | bool | float64 | string => rfl
    | slice xs =>
      rw [read, read]
      congr 1
      exact List.map_congr_left fun x hx => ih x fun r hr => hv r (mem_refsOf.mpr ⟨x, hx, hr⟩)
    | map ref =>
      have href : P ref := hv ref (List.mem_singleton_self ref)
      rw [read, read, hsame ref href]
      congr 1
      apply List.map_congr_left
      intro e he
      rw [ih e.2 (hreach ref href e he)]

-- ---------------------------------------------------------------------------
-- Making maps
-- ---------------------------------------------------------------------------

/-- Maps were made, and none was written; what was made refers to what was made. -/
structure Extends (h h' : Heap) : Prop where
  size_le : h.size ≤ h'.size
  same    : ∀ ref < h.size, h'.get ref = h.get ref
  made    : ∀ ref, h.size ≤ ref → ∀ e ∈ h'.get ref, ∀ r ∈ e.2.refs, h.size ≤ r

theorem Extends.refl (h : Heap) : h.Extends h where
  size_le := Nat.le_refl _
  same _ _ := rfl
  made ref href e he := by
    rw [get_of_size_le href] at he
    exact absurd he List.not_mem_nil

theorem Extends.trans (h₁ : h.Extends h') (h₂ : h'.Extends h'') : h.Extends h'' where
  size_le := Nat.le_trans h₁.size_le h₂.size_le
  same ref href := (h₂.same ref (Nat.lt_of_lt_of_le href h₁.size_le)).trans (h₁.same ref href)
  made ref href e he r hr := by
    rcases Nat.lt_or_ge ref h'.size with hlt | hge
    · rw [h₂.same ref hlt] at he
      exact h₁.made ref href e he r hr
    · exact Nat.le_trans h₁.size_le (h₂.made ref hge e he r hr)

/-- A map of what was made. -/
theorem Extends.alloc (hext : h.Extends h')
    (hentries : ∀ e ∈ entries, ∀ r ∈ e.2.refs, h.size ≤ r) : h.Extends (h'.alloc entries).2 where
  size_le := by
    rw [size_alloc]
    exact Nat.le_succ_of_le hext.size_le
  same ref href := by
    have hne : ref ≠ h'.size := Nat.ne_of_lt (Nat.lt_of_lt_of_le href hext.size_le)
    rw [get_alloc_of_ne hne, hext.same ref href]
  made ref href e he r hr := by
    by_cases hnew : ref = h'.size
    · rw [hnew, get_alloc_self] at he
      exact hentries e he r hr
    · rw [get_alloc_of_ne hnew] at he
      exact hext.made ref href e he r hr

mutual

/-- **A decoder writes no map** there was, and holds none of them. -/
theorem extends_load (h : Heap) : ∀ x : Any,
    h.Extends (h.load x).2 ∧ ∀ r ∈ (h.load x).1.refs, h.size ≤ r
  | .nil | .bool _ | .float64 _ | .string _ =>
    ⟨.refl h, fun r hr => absurd hr List.not_mem_nil⟩
  | .slice xs => extends_loadAll h xs
  | .map fields => by
    obtain ⟨hext, hrefs⟩ := extends_loadFields h fields
    refine ⟨hext.alloc hrefs, fun r hr => ?_⟩
    obtain rfl : r = (h.loadFields fields).2.size := List.mem_singleton.mp hr
    exact hext.size_le

theorem extends_loadAll (h : Heap) : ∀ xs : List Any,
    h.Extends (h.loadAll xs).2 ∧ ∀ r ∈ refsOf (h.loadAll xs).1, h.size ≤ r
  | [] => ⟨.refl h, fun r hr => absurd hr List.not_mem_nil⟩
  | x :: xs => by
    obtain ⟨hext, hrefs⟩ := extends_load h x
    obtain ⟨hext', hrefs'⟩ := extends_loadAll (h.load x).2 xs
    refine ⟨hext.trans hext', fun r hr => ?_⟩
    rcases List.mem_append.mp hr with hr | hr
    · exact hrefs r hr
    · exact Nat.le_trans hext.size_le (hrefs' r hr)

theorem extends_loadFields (h : Heap) : ∀ fields : List (String × Any),
    h.Extends (h.loadFields fields).2 ∧
      ∀ e ∈ (h.loadFields fields).1, ∀ r ∈ e.2.refs, h.size ≤ r
  | [] => ⟨.refl h, fun e he => absurd he List.not_mem_nil⟩
  | (k, x) :: fields => by
    obtain ⟨hext, hrefs⟩ := extends_load h x
    obtain ⟨hext', hrefs'⟩ := extends_loadFields (h.load x).2 fields
    refine ⟨hext.trans hext', fun e he r hr => ?_⟩
    rcases List.mem_cons.mp he with rfl | he
    · exact hrefs r hr
    · exact Nat.le_trans hext.size_le (hrefs' e he r hr)

end

end Heap

end Ggid.Go
