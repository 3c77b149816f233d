import Mathlib.Logic.Function.Basic

/-!
# A local map in front of a shared store

Any number of instances of a program, each with a map of its own, and one store
they share, whose entries may carry a deadline. A value is saved to both; a read
tries the local map first and keeps what it finds in the shared store; a deletion
clears the local map and the shared store. Where the shared store cannot be
reached, or there is none, only the local map takes part.

A key can therefore have several copies, one for each instance and one that is
shared. The lemmas say, for each operation, where the copies found afterwards come
from; `Gone` is the state of a key that has none left, which only a save ends.
-/

namespace Ggid.Lib

/-- An entry of the shared store. -/
structure Stored (ν : Type*) where
  value    : ν
  deadline : Option Int

/-- The entry has not run out. -/
def Stored.live {ν : Type*} (now : Int) (entry : Stored ν) : Bool :=
  entry.deadline.all fun deadline => now < deadline

structure Tiers (κ ν : Type*) where
  near : Nat → κ → Option ν
  far  : κ → Option (Stored ν)

/-- Where a copy can be. -/
inductive Place where
  | near (i : Nat)
  | far
  deriving DecidableEq

namespace Tiers

variable {κ ν : Type*}

/-- Nothing is stored. -/
def empty : Tiers κ ν := ⟨fun _ _ => none, fun _ => none⟩

/-- The copy of a key in one place. -/
def copy (s : Tiers κ ν) : Place → κ → Option ν
  | .near i, k => s.near i k
  | .far, k => (s.far k).map Stored.value

/-- No copy of the key is left. -/
def Gone (s : Tiers κ ν) (k : κ) : Prop := ∀ place, s.copy place k = none

variable [DecidableEq κ]

/-- A value in the local map of one instance, or its removal. -/
def setNear (s : Tiers κ ν) (i : Nat) (k : κ) (v : Option ν) : Tiers κ ν :=
  { s with near := Function.update s.near i (Function.update (s.near i) k v) }

/-- An entry of the shared store, or its removal. -/
def setFar (s : Tiers κ ν) (k : κ) (entry : Option (Stored ν)) : Tiers κ ν :=
  { s with far := Function.update s.far k entry }

/-- Instance `i` writes a value; `reach` says whether the shared store answers. -/
def save (s : Tiers κ ν) (reach : Bool) (i : Nat) (k : κ) (v : ν) (deadline : Option Int) :
    Tiers κ ν :=
  if reach then (s.setNear i k (some v)).setFar k (some ⟨v, deadline⟩)
  else s.setNear i k (some v)

/-- Instance `i` reads a key. -/
def load (s : Tiers κ ν) (now : Int) (reach : Bool) (i : Nat) (k : κ) : Tiers κ ν × Option ν :=
  match s.near i k with
  | some v => (s, some v)
  | none =>
    match (s.far k).filter fun entry => reach && entry.live now with
    | some entry => (s.setNear i k (some entry.value), some entry.value)
    | none => (s, none)

/-- Instance `i` deletes a key. -/
def drop (s : Tiers κ ν) (reach : Bool) (i : Nat) (k : κ) : Tiers κ ν :=
  if reach then (s.setNear i k none).setFar k none else s.setNear i k none

-- ---------------------------------------------------------------------------
-- One write
-- ---------------------------------------------------------------------------

section Write

variable {s : Tiers κ ν} {reach : Bool} {i : Nat} {k k' : κ} {v : Option ν} {place : Place}
  {entry : Option (Stored ν)}

theorem copy_setNear : (s.setNear i k v).copy place k' =
    if place = .near i ∧ k' = k then v else s.copy place k' := by
  cases place with
  | far => simp [copy, setNear]
  | near j =>
    simp only [copy, setNear, Place.near.injEq]
    by_cases hj : j = i
    · subst hj
      rw [Function.update_self]
      by_cases hk : k' = k
      · simp [hk]
      · simp [hk]
    · rw [Function.update_of_ne hj]
      simp [hj]

theorem copy_setFar : (s.setFar k entry).copy place k' =
    if place = .far ∧ k' = k then entry.map Stored.value else s.copy place k' := by
  cases place with
  | near j => simp [copy, setFar]
  | far =>
    simp only [copy, setFar, true_and]
    by_cases hk : k' = k
    · subst hk
      simp
    · simp [hk]

end Write

-- ---------------------------------------------------------------------------
-- Where copies come from
-- ---------------------------------------------------------------------------

section Copy

variable {s : Tiers κ ν} {now : Int} {reach : Bool} {i : Nat} {k k' : κ} {v v' : ν}
  {deadline : Option Int} {place : Place}

/-- After a save a place holds the new value, if it was written, or what it held. -/
theorem copy_save (h : (s.save reach i k v deadline).copy place k' = some v') :
    (k' = k ∧ v' = v ∧ (place = .near i ∨ place = .far ∧ reach = true)) ∨
      s.copy place k' = some v' := by
  unfold save at h
  cases reach with
  | true =>
    simp only [if_true] at h
    rw [copy_setFar, copy_setNear] at h
    split at h
    · rename_i hplace
      exact Or.inl ⟨hplace.2, (Option.some.inj h).symm, Or.inr ⟨hplace.1, rfl⟩⟩
    · split at h
      · rename_i hplace
        exact Or.inl ⟨hplace.2, (Option.some.inj h).symm, Or.inl hplace.1⟩
      · exact Or.inr h
  | false =>
    simp only [Bool.false_eq_true, if_false] at h
    rw [copy_setNear] at h
    split at h
    · rename_i hplace
      exact Or.inl ⟨hplace.2, (Option.some.inj h).symm, Or.inl hplace.1⟩
    · exact Or.inr h

/-- A save of one key leaves the others alone. -/
theorem copy_save_of_ne (h : k' ≠ k) :
    (s.save reach i k v deadline).copy place k' = s.copy place k' := by
  unfold save
  split <;> simp [copy_setFar, copy_setNear, h]

/-- The instance that saves a value has it. -/
theorem near_save : (s.save reach i k v deadline).copy (.near i) k = some v := by
  unfold save
  split <;> simp [copy_setFar, copy_setNear]

/-- The shared store has it too, if it answers. -/
theorem far_save : (s.save true i k v deadline).copy .far k = some v := by
  simp [save, copy_setFar]

/-- A read finds the local copy, or the shared one where there is no local copy. -/
theorem load_value (h : (s.load now reach i k).2 = some v) :
    s.copy (.near i) k = some v ∨
      s.copy (.near i) k = none ∧ s.copy .far k = some v ∧ reach = true := by
  unfold load at h
  split at h
  · rename_i w hw
    exact Or.inl (hw.trans h)
  · rename_i hnone
    split at h
    · rename_i entry hentry
      obtain ⟨hfar, hlive⟩ := Option.filter_eq_some_iff.mp hentry
      refine Or.inr ⟨hnone, ?_, (Bool.and_eq_true _ _ ▸ hlive).1⟩
      rw [copy, hfar]
      exact h
    · exact absurd h (by simp)

/-- A read adds at most a local copy of what is shared, where there was none. -/
theorem copy_load (s : Tiers κ ν) (now : Int) (reach : Bool) (i : Nat) (k k' : κ)
    (place : Place) : (s.load now reach i k).1.copy place k' = s.copy place k' ∨
    (k' = k ∧ place = .near i ∧ s.copy (.near i) k = none ∧
      (s.load now reach i k).1.copy (.near i) k = s.copy .far k ∧
      (s.load now reach i k).2 = s.copy .far k) := by
  unfold load
  split
  · exact Or.inl rfl
  · rename_i hnone
    split
    · rename_i entry hentry
      obtain ⟨hfar, -⟩ := Option.filter_eq_some_iff.mp hentry
      by_cases hplace : place = .near i ∧ k' = k
      · right
        refine ⟨hplace.2, hplace.1, hnone, ?_, ?_⟩
        · rw [copy_setNear, if_pos ⟨rfl, rfl⟩, copy, hfar]
          rfl
        · rw [copy, hfar]
          rfl
      · left
        rw [copy_setNear, if_neg hplace]
    · exact Or.inl rfl

/-- What is there stays there when a key is read. -/
theorem copy_load_of_some (h : s.copy place k' = some v) :
    (s.load now reach i k).1.copy place k' = some v := by
  rcases copy_load s now reach i k k' place with hsame | ⟨rfl, rfl, hnone, -⟩
  · rw [hsame]
    exact h
  · rw [h] at hnone
    exact absurd hnone (by simp)

/-- A deletion adds no copy. -/
theorem copy_drop (h : (s.drop reach i k).copy place k' = some v) : s.copy place k' = some v := by
  unfold drop at h
  cases reach with
  | true =>
    simp only [if_true] at h
    rw [copy_setFar, copy_setNear] at h
    split at h
    · exact absurd h (by simp)
    · split at h
      · exact absurd h (by simp)
      · exact h
  | false =>
    simp only [Bool.false_eq_true, if_false] at h
    rw [copy_setNear] at h
    split at h
    · exact absurd h (by simp)
    · exact h

/-- A deletion does not reach the local map of another instance. -/
theorem copy_drop_of_ne {j : Nat} (h : j ≠ i) :
    (s.drop reach i k).copy (.near j) k' = s.copy (.near j) k' := by
  unfold drop
  split <;> simp [copy_setFar, copy_setNear, h]

/-- A deletion by the last instance with a copy, seen by the shared store, leaves none. -/
theorem gone_drop (hnear : ∀ j, j ≠ i → s.copy (.near j) k = none)
    (hfar : reach = true ∨ s.copy .far k = none) : (s.drop reach i k).Gone k := by
  intro place
  unfold drop
  cases place with
  | near j =>
    by_cases hj : j = i
    · split <;> simp [copy_setFar, copy_setNear, hj]
    · split <;> simp [copy_setFar, copy_setNear, hj, hnear j hj]
  | far =>
    rcases hfar with rfl | hfar
    · simp [copy_setFar]
    · split <;> simp [copy_setFar, copy_setNear, hfar]

theorem Gone.load (h : s.Gone k) : (s.load now reach i k').1.Gone k := by
  intro place
  rcases copy_load s now reach i k' k place with hsame | ⟨rfl, rfl, -, hcopy, -⟩
  · rw [hsame]
    exact h place
  · rw [hcopy]
    exact h .far

theorem Gone.drop (h : s.Gone k) : (s.drop reach i k').Gone k := by
  intro place
  cases hcopy : (s.drop reach i k').copy place k with
  | none => rfl
  | some w =>
    have hold := copy_drop hcopy
    rw [h place] at hold
    exact absurd hold (by simp)

theorem Gone.save_of_ne (h : s.Gone k) (hne : k ≠ k') :
    (s.save reach i k' v deadline).Gone k := by
  intro place
  rw [copy_save_of_ne hne]
  exact h place

end Copy

end Tiers

end Ggid.Lib
