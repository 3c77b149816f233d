import Mathlib.Data.Set.Basic

/-!
# Deny-overrides combining

A decision over a set of rules, each of which may deny or allow: it is granted
when no rule denies and either some rule allows or there is a grant from
elsewhere. This is the combining algorithm of most policy engines; an
implementation usually computes it with two flags in one pass over a list.

* `granted_congr`    — only the set of rules matters, not how it is listed;
* `granted_of_subset` — rules that allow nothing can only take grants away;
* `foldl_flags`      — the two-flag loop computes the two existentials.
-/

namespace Ggid.Lib

variable {ρ : Type*} {denies allows : ρ → Prop} {grant : Prop}

/-- No rule denies, and some rule allows unless access is granted from elsewhere. -/
def Granted (denies allows : ρ → Prop) (grant : Prop) (rules : Set ρ) : Prop :=
  (∀ r ∈ rules, ¬ denies r) ∧ (grant ∨ ∃ r ∈ rules, allows r)

theorem granted_congr {rules rules' : Set ρ} (h : ∀ r, r ∈ rules ↔ r ∈ rules') :
    Granted denies allows grant rules ↔ Granted denies allows grant rules' := by
  have heq : rules = rules' := Set.ext h
  rw [heq]

/-- Rules that allow nothing never turn a refusal into a grant. -/
theorem granted_of_subset {rules rules' : Set ρ} (hsub : rules ⊆ rules')
    (hnew : ∀ r ∈ rules', allows r → r ∈ rules)
    (h : Granted denies allows grant rules') : Granted denies allows grant rules := by
  obtain ⟨hdeny, hgrant⟩ := h
  refine ⟨fun r hr => hdeny r (hsub hr), ?_⟩
  rcases hgrant with hg | ⟨r, hr, hallow⟩
  · exact Or.inl hg
  · exact Or.inr ⟨r, hnew r hr hallow, hallow⟩

/-! ## The two-flag loop -/

/-- What the loop has seen so far. -/
structure Flags where
  denied  : Bool
  allowed : Bool

theorem foldl_flags {σ : Type*} (step : σ → ρ → σ) (flags : σ → Flags)
    {denies allows : ρ → Bool}
    (hdenied : ∀ s r, (flags (step s r)).denied = ((flags s).denied || denies r))
    (hallowed : ∀ s r, (flags (step s r)).allowed = ((flags s).allowed || allows r))
    (rules : List ρ) (s : σ) :
    (flags (rules.foldl step s)).denied = ((flags s).denied || rules.any denies) ∧
      (flags (rules.foldl step s)).allowed = ((flags s).allowed || rules.any allows) := by
  induction rules generalizing s with
  | nil => simp
  | cons r rules ih =>
    obtain ⟨ihd, iha⟩ := ih (step s r)
    rw [List.foldl_cons, ihd, iha, hdenied, hallowed, List.any_cons, List.any_cons,
      Bool.or_assoc, Bool.or_assoc]
    exact ⟨rfl, rfl⟩

end Ggid.Lib
