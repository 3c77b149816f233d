import Mathlib.Data.List.Perm.Basic

/-!
# The first match in a list

A table of rules is scanned for the first one that matches, and that rule decides. What is decided
does not depend on the order of the rules exactly if all rules that match decide alike
(`firstMatch_perm_iff`).
-/

namespace Ggid.Lib

variable {α β : Type*} (p : α → Bool) (decides : α → β) (default : β)

/-- What the first rule that matches decides, or the default if none does. -/
def firstMatch (l : List α) : β := ((l.find? p).map decides).getD default

variable {p decides default} {l : List α}

theorem firstMatch_cons {a : α} (h : p a = true) :
    firstMatch p decides default (a :: l) = decides a := by
  rw [firstMatch, List.find?_cons_of_pos h]
  rfl

theorem firstMatch_of_none (h : ∀ a ∈ l, p a = false) :
    firstMatch p decides default l = default := by
  have hnone : l.find? p = none := List.find?_eq_none.mpr fun a ha => by simp [h a ha]
  rw [firstMatch, hnone]
  rfl

variable (decides default) in
/-- Some rule that matches decides, if there is one. -/
theorem exists_firstMatch {a : α} (ha : a ∈ l) (h : p a = true) :
    ∃ b ∈ l, p b = true ∧ firstMatch p decides default l = decides b := by
  cases hfind : l.find? p with
  | none => exact absurd h (List.find?_eq_none.mp hfind a ha)
  | some b =>
    refine ⟨b, List.mem_of_find?_eq_some hfind, List.find?_some hfind, ?_⟩
    rw [firstMatch, hfind]
    rfl

/-- **In every order** of the rules the same is decided, if it is what each rule that matches
decides. -/
theorem forall_perm_firstMatch_iff {b : β} :
    (∀ l', l'.Perm l → firstMatch p decides default l' = b) ↔
      (∀ a ∈ l, p a = true → decides a = b) ∧ ((∀ a ∈ l, p a = false) → default = b) := by
  constructor
  · intro h
    refine ⟨fun a ha hmatch => ?_, fun hnone => ?_⟩
    · -- the order in which this rule comes first
      obtain ⟨before, after, rfl⟩ := List.append_of_mem ha
      exact (firstMatch_cons hmatch).symm.trans (h _ List.perm_middle.symm)
    · exact (firstMatch_of_none hnone).symm.trans (h l (.refl l))
  · rintro ⟨hmatch, hnone⟩ l' hperm
    by_cases hany : ∃ a ∈ l', p a = true
    · obtain ⟨a, ha, hpa⟩ := hany
      obtain ⟨c, hc, hpc, hfirst⟩ := exists_firstMatch decides default ha hpa
      rw [hfirst]
      exact hmatch c (hperm.mem_iff.mp hc) hpc
    · have hnot : ∀ a ∈ l', p a = false := by simpa using hany
      rw [firstMatch_of_none hnot]
      exact hnone fun a ha => hnot a (hperm.mem_iff.mpr ha)

theorem firstMatch_perm_iff :
    (∀ l', l'.Perm l → firstMatch p decides default l' = firstMatch p decides default l) ↔
      ∀ a ∈ l, ∀ b ∈ l, p a = true → p b = true → decides a = decides b := by
  rw [forall_perm_firstMatch_iff]
  constructor
  · rintro ⟨h, -⟩ a ha b hb hpa hpb
    rw [h a ha hpa, h b hb hpb]
  · intro h
    refine ⟨fun a ha hpa => ?_, fun hnone => (firstMatch_of_none hnone).symm⟩
    obtain ⟨b, hb, hpb, hfirst⟩ := exists_firstMatch decides default ha hpa
    rw [hfirst]
    exact h a ha b hb hpa hpb

end Ggid.Lib
