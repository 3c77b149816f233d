import Ggid.Go.Heap

/-!
# Trees in memory

A value that a decoder made is a tree: no map of it is inside two others. As long as its maps
stay as they were made it reads as the value the decoder was given, to any depth from its
height on, and `fields` reads deep enough.

* `read_load`                — a value is read back;
* `heightOfFields_lt_bound`  — what is read is deep enough.
-/

namespace Ggid.Go

mutual

/-- How deep slices and maps are nested. -/
def Any.height : Any → Nat
  | .slice xs => heightOf xs + 1
  | .map fields => heightOfFields fields + 1
  | _ => 1

def heightOf : List Any → Nat
  | [] => 0
  | x :: xs => max x.height (heightOf xs)

def heightOfFields : List (String × Any) → Nat
  | [] => 0
  | (_, x) :: fields => max x.height (heightOfFields fields)

end

theorem height_pos (x : Any) : 0 < x.height := by
  cases x with
  | slice | map =>
    rw [Any.height]
    exact Nat.succ_pos _
  | nil | bool | float64 | string => exact Nat.one_pos

namespace Heap

/-- What `json.Unmarshal` makes of an object. -/
def loadMap (h : Heap) (fields : GoMap) : Ref × Heap :=
  let (entries, h) := h.loadFields fields
  h.alloc entries

theorem load_map (h : Heap) (fields : GoMap) :
    h.load (.map fields) = (.map (h.loadMap fields).1, (h.loadMap fields).2) := rfl

/-- No map there was has been written. -/
structure Keeps (h h' : Heap) : Prop where
  size_le : h.size ≤ h'.size
  same    : ∀ ref < h.size, h'.get ref = h.get ref

variable {h h' h'' : Heap} {entries : Entries}

theorem Keeps.refl (h : Heap) : h.Keeps h := ⟨Nat.le_refl _, fun _ _ => rfl⟩

theorem Keeps.trans (h₁ : h.Keeps h') (h₂ : h'.Keeps h'') : h.Keeps h'' where
  size_le := Nat.le_trans h₁.size_le h₂.size_le
  same ref href := (h₂.same ref (Nat.lt_of_lt_of_le href h₁.size_le)).trans (h₁.same ref href)

theorem Extends.keeps (hext : h.Extends h') : h.Keeps h' := ⟨hext.size_le, hext.same⟩

theorem keeps_alloc : h.Keeps (h.alloc entries).2 where
  size_le := by
    rw [size_alloc]
    exact Nat.le_succ _
  same ref href := get_alloc_of_ne (Nat.ne_of_lt href)

-- ---------------------------------------------------------------------------
-- Reading what was loaded
-- ---------------------------------------------------------------------------

mutual

/-- **What a decoder made is read back.** -/
theorem read_load (h : Heap) : ∀ (x : Any) {h' : Heap}, (h.load x).2.Keeps h' →
    ∀ depth, x.height ≤ depth → h'.read depth (h.load x).1 = x
  | x, _, _, 0, hdepth => absurd hdepth (Nat.not_le_of_lt (height_pos x))
  | .nil, _, _, _ + 1, _ | .bool _, _, _, _ + 1, _ | .float64 _, _, _, _ + 1, _
  | .string _, _, _, _ + 1, _ => rfl
  | .slice xs, h', hkeeps, depth + 1, hdepth => by
    rw [Any.height] at hdepth
    show Any.slice (((h.loadAll xs).1).map (h'.read depth)) = .slice xs
    rw [read_loadAll h xs hkeeps depth (Nat.le_of_succ_le_succ hdepth)]
  | .map fields, h', hkeeps, depth + 1, hdepth => by
    rw [Any.height] at hdepth
    have hmade : (h.load (.map fields)).2.get (h.loadFields fields).2.size =
        (h.loadFields fields).1 := get_alloc_self
    have hlt : (h.loadFields fields).2.size < (h.load (.map fields)).2.size := by
      rw [load_map]
      exact size_alloc ▸ Nat.lt_succ_self _
    show Any.map ((h'.get (h.loadFields fields).2.size).map fun e => (e.1, h'.read depth e.2)) =
      .map fields
    rw [hkeeps.same _ hlt, hmade,
      read_loadFields h fields (keeps_alloc.trans hkeeps) depth (Nat.le_of_succ_le_succ hdepth)]

theorem read_loadAll (h : Heap) : ∀ (xs : List Any) {h' : Heap}, (h.loadAll xs).2.Keeps h' →
    ∀ depth, heightOf xs ≤ depth → (h.loadAll xs).1.map (h'.read depth) = xs
  | [], _, _, _, _ => rfl
  | x :: xs, h', hkeeps, depth, hdepth => by
    rw [heightOf] at hdepth
    have hrest : (h.load x).2.Keeps h' :=
      (extends_loadAll (h.load x).2 xs).1.keeps.trans hkeeps
    show h'.read depth (h.load x).1 :: (loadAll (h.load x).2 xs).1.map (h'.read depth) = x :: xs
    rw [read_load h x hrest depth (Nat.le_trans (Nat.le_max_left _ _) hdepth),
      read_loadAll (h.load x).2 xs hkeeps depth (Nat.le_trans (Nat.le_max_right _ _) hdepth)]

theorem read_loadFields (h : Heap) : ∀ (fields : GoMap) {h' : Heap},
    (h.loadFields fields).2.Keeps h' → ∀ depth, heightOfFields fields ≤ depth →
      (h.loadFields fields).1.map (fun e => (e.1, h'.read depth e.2)) = fields
  | [], _, _, _, _ => rfl
  | (k, x) :: fields, h', hkeeps, depth, hdepth => by
    rw [heightOfFields] at hdepth
    have hrest : (h.load x).2.Keeps h' :=
      (extends_loadFields (h.load x).2 fields).1.keeps.trans hkeeps
    show (k, h'.read depth (h.load x).1) ::
      (loadFields (h.load x).2 fields).1.map (fun e => (e.1, h'.read depth e.2)) = (k, x) :: fields
    rw [read_load h x hrest depth (Nat.le_trans (Nat.le_max_left _ _) hdepth),
      read_loadFields (h.load x).2 fields hkeeps depth (Nat.le_trans (Nat.le_max_right _ _) hdepth)]

end

-- ---------------------------------------------------------------------------
-- Deep enough
-- ---------------------------------------------------------------------------

theorem bound_alloc :
    (h.alloc entries).2.bound = h.bound + ((entries.map fun e => e.2.depth).sum + 1) := by
  simp [bound, alloc]

mutual

/-- What a value adds to the bound, and the slices around its maps, are as much as its height. -/
theorem height_add_bound_le (h : Heap) : ∀ x : Any,
    x.height + h.bound ≤ (h.load x).1.depth + (h.load x).2.bound ∧ h.bound ≤ (h.load x).2.bound
  | .nil | .bool _ | .float64 _ | .string _ => ⟨Nat.le_refl _, Nat.le_refl _⟩
  | .slice xs => by
    obtain ⟨hxs, hbound⟩ := heightOf_add_bound_le h xs
    refine ⟨?_, hbound⟩
    show heightOf xs + 1 + h.bound ≤ depthOf (h.loadAll xs).1 + 1 + (h.loadAll xs).2.bound
    omega
  | .map fields => by
    have hfields := heightOfFields_add_bound_le h fields
    have hmade : (h.load (.map fields)).2.bound = (h.loadFields fields).2.bound +
        (((h.loadFields fields).1.map fun e => e.2.depth).sum + 1) := bound_alloc
    rw [hmade, Any.height]
    omega

theorem heightOf_add_bound_le (h : Heap) : ∀ xs : List Any,
    heightOf xs + h.bound ≤ depthOf (h.loadAll xs).1 + (h.loadAll xs).2.bound ∧
      h.bound ≤ (h.loadAll xs).2.bound
  | [] => ⟨Nat.le_refl _, Nat.le_refl _⟩
  | x :: xs => by
    obtain ⟨hx, hbound⟩ := height_add_bound_le h x
    obtain ⟨hxs, hbound'⟩ := heightOf_add_bound_le (h.load x).2 xs
    show max x.height (heightOf xs) + h.bound ≤
        max (h.load x).1.depth (depthOf (loadAll (h.load x).2 xs).1) +
          (loadAll (h.load x).2 xs).2.bound ∧
      h.bound ≤ (loadAll (h.load x).2 xs).2.bound
    omega

theorem heightOfFields_add_bound_le (h : Heap) : ∀ fields : GoMap,
    heightOfFields fields + h.bound ≤
        ((h.loadFields fields).1.map fun e => e.2.depth).sum + (h.loadFields fields).2.bound ∧
      h.bound ≤ (h.loadFields fields).2.bound
  | [] => ⟨Nat.le_refl _, Nat.le_refl _⟩
  | (k, x) :: fields => by
    obtain ⟨hx, hbound⟩ := height_add_bound_le h x
    obtain ⟨hfields, hbound'⟩ := heightOfFields_add_bound_le (h.load x).2 fields
    have hsum : ((h.loadFields ((k, x) :: fields)).1.map fun e => e.2.depth).sum =
        (h.load x).1.depth +
          ((loadFields (h.load x).2 fields).1.map fun e => e.2.depth).sum := by
      show (List.map _ ((k, (h.load x).1) :: (loadFields (h.load x).2 fields).1)).sum = _
      rw [List.map_cons, List.sum_cons]
    rw [hsum]
    show max x.height (heightOfFields fields) + h.bound ≤
        _ + (loadFields (h.load x).2 fields).2.bound ∧
      h.bound ≤ (loadFields (h.load x).2 fields).2.bound
    omega

end

theorem heightOfFields_lt_bound (h : Heap) (fields : GoMap) :
    heightOfFields fields < (h.loadMap fields).2.bound := by
  have hfields := heightOfFields_add_bound_le h fields
  have hmade : (h.loadMap fields).2.bound = (h.loadFields fields).2.bound +
      (((h.loadFields fields).1.map fun e => e.2.depth).sum + 1) := bound_alloc
  omega

-- ---------------------------------------------------------------------------
-- What the maps refer to
-- ---------------------------------------------------------------------------

mutual

/-- No reference dangles in what was loaded. -/
theorem refs_lt_load (h : Heap) : ∀ x : Any, ∀ r ∈ (h.load x).1.refs, r < (h.load x).2.size
  | .nil, _, hr | .bool _, _, hr | .float64 _, _, hr | .string _, _, hr =>
    absurd hr List.not_mem_nil
  | .slice xs, r, hr => refs_lt_loadAll h xs r hr
  | .map fields, r, hr => by
    rw [List.mem_singleton.mp hr, load_map]
    exact size_alloc ▸ Nat.lt_succ_self _

theorem refs_lt_loadAll (h : Heap) : ∀ xs : List Any,
    ∀ r ∈ refsOf (h.loadAll xs).1, r < (h.loadAll xs).2.size
  | [], _, hr => absurd hr List.not_mem_nil
  | x :: xs, r, hr => by
    rcases List.mem_append.mp hr with hr | hr
    · exact Nat.lt_of_lt_of_le (refs_lt_load h x r hr) (extends_loadAll (h.load x).2 xs).1.size_le
    · exact refs_lt_loadAll (h.load x).2 xs r hr

end

theorem refs_lt_loadFields (h : Heap) (fields : GoMap) :
    ∀ e ∈ (h.loadFields fields).1, ∀ r ∈ e.2.refs, r < (h.loadFields fields).2.size := by
  induction fields generalizing h with
  | nil => exact fun e he => absurd he List.not_mem_nil
  | cons f fields ih =>
    intro e he r hr
    rcases List.mem_cons.mp he with rfl | he
    · exact Nat.lt_of_lt_of_le (refs_lt_load h f.2 r hr)
        (extends_loadFields (h.load f.2).2 fields).1.size_le
    · exact ih (h.load f.2).2 e he r hr

/-- The last map that was made is written. -/
theorem set_alloc {entries' : Entries} :
    (h.alloc entries).2.set h.size entries' = (h.alloc entries').2 := by
  simp [alloc, set, size]

end Heap

end Ggid.Go
