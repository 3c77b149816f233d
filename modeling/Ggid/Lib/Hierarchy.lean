import Mathlib.Data.Finset.Card
import Mathlib.Logic.Relation

/-!
# Parent pointers and acyclic relations

A hierarchy is a relation "`b` is the parent of `a`". It is *acyclic* when no
element is its own proper ancestor. The two facts every editor of a hierarchy
needs are here: forgetting links keeps it acyclic (`Acyclic.mono`), and linking
`x` under `y` keeps it acyclic as long as `y` does not already lie below `x`
(`Acyclic.link`).

When every element has at most one parent, the ancestors of `a` form one chain
and `ancestor parent n a` names its `n`-th member; `reflTransGen_iff_ancestor`
turns reachability into a position on that chain. A chain with more members than there
are elements has a cycle (`exists_ancestor_eq`), and goes on for ever
(`ancestor_repeats`).
-/

namespace Ggid.Lib

variable {α : Type*}

/-- No element is its own proper ancestor. -/
def Acyclic (r : α → α → Prop) : Prop := ∀ a, ¬ Relation.TransGen r a a

theorem Acyclic.mono {r r' : α → α → Prop} (hr : Acyclic r) (h : ∀ a b, r' a b → r a b) :
    Acyclic r' :=
  fun a ha => hr a (Relation.TransGen.mono h a a ha)

/-- A rank that drops from child to parent excludes cycles. -/
theorem Acyclic.of_rank {r : α → α → Prop} (rank : α → Nat) (h : ∀ a b, r a b → rank b < rank a) :
    Acyclic r := by
  intro a ha
  have hlt : ∀ b, Relation.TransGen r a b → rank b < rank a := by
    intro b hab
    induction hab with
    | single hs => exact h _ _ hs
    | tail _ hs ih => exact Nat.lt_trans (h _ _ hs) ih
  exact absurd (hlt a ha) (Nat.lt_irrefl _)

/-- A path that may use the extra link `x → y` either avoids it or reaches `x`
first and continues from `y`. -/
theorem transGen_link {r r' : α → α → Prop} {x y : α}
    (hyx : ¬ Relation.ReflTransGen r y x)
    (h : ∀ a b, r' a b → r a b ∨ (a = x ∧ b = y)) {a b : α}
    (hab : Relation.TransGen r' a b) :
    Relation.TransGen r a b ∨ (Relation.ReflTransGen r a x ∧ Relation.ReflTransGen r y b) := by
  induction hab with
  | single hs =>
    rcases h _ _ hs with hr | ⟨rfl, rfl⟩
    · exact Or.inl (.single hr)
    · exact Or.inr ⟨.refl, .refl⟩
  | tail _ hs ih =>
    rcases ih with hold | ⟨hax, hyb⟩
    · rcases h _ _ hs with hr | ⟨rfl, rfl⟩
      · exact Or.inl (hold.tail hr)
      · exact Or.inr ⟨hold.to_reflTransGen, .refl⟩
    · rcases h _ _ hs with hr | ⟨rfl, rfl⟩
      · exact Or.inr ⟨hax, hyb.tail hr⟩
      · exact absurd hyb hyx

/-- Linking `x` under `y` keeps a hierarchy acyclic when `x` is not already an
ancestor of `y`. -/
theorem Acyclic.link {r r' : α → α → Prop} {x y : α} (hr : Acyclic r)
    (hyx : ¬ Relation.ReflTransGen r y x)
    (h : ∀ a b, r' a b → r a b ∨ (a = x ∧ b = y)) : Acyclic r' := by
  intro a ha
  rcases transGen_link hyx h ha with hold | ⟨hax, hya⟩
  · exact hr a hold
  · exact hyx (hya.trans hax)

/-- Climbing a single-parent hierarchy only through elements that pass a gate
reaches exactly what has no gated element strictly below it on the way. -/
theorem reflTransGen_gated {r : α → α → Prop} (hfun : ∀ a b c, r a b → r a c → b = c)
    (hac : Acyclic r) {G : α → Prop} {a x : α} :
    Relation.ReflTransGen (fun a b => r a b ∧ G a) a x ↔
      Relation.ReflTransGen r a x ∧
        ∀ m, Relation.ReflTransGen r a m → Relation.TransGen r m x → G m := by
  constructor
  · intro h
    induction h using Relation.ReflTransGen.head_induction_on with
    | refl => exact ⟨.refl, fun m hxm hmx => absurd (.trans_right hxm hmx) (hac x)⟩
    | head hab _ ih =>
      obtain ⟨hpath, hgate⟩ := ih
      refine ⟨.head hab.1 hpath, fun m ham hmx => ?_⟩
      rcases Relation.ReflTransGen.cases_head ham with rfl | ⟨b', hab', hbm⟩
      · exact hab.2
      · rw [hfun _ _ _ hab' hab.1] at hbm
        exact hgate m hbm hmx
  · rintro ⟨hpath, hgate⟩
    induction hpath using Relation.ReflTransGen.head_induction_on with
    | refl => exact .refl
    | head hab hbx ih =>
      refine .head ⟨hab, hgate _ .refl (.head' hab hbx)⟩ (ih fun m hbm hmx => ?_)
      exact hgate m (.head hab hbm) hmx

/-! ## Single-parent hierarchies -/

/-- The `n`-th member of the chain above `a`, `a` itself being the `0`-th. -/
def ancestor (parent : α → Option α) : Nat → α → Option α
  | 0, a => some a
  | n + 1, a => (parent a).bind (ancestor parent n)

variable {parent : α → Option α}

theorem ancestor_succ (n : Nat) (a : α) :
    ancestor parent (n + 1) a = (ancestor parent n a).bind parent := by
  induction n generalizing a with
  | zero =>
    simp only [ancestor, Option.bind_some]
    cases parent a <;> rfl
  | succ n ih =>
    rw [ancestor]
    cases h : parent a with
    | none => simp [ancestor, h]
    | some b =>
      rw [Option.bind_some, ih b, ancestor, h, Option.bind_some]

/-- Reachability along parent pointers is a position on the chain. -/
theorem reflTransGen_iff_ancestor {a b : α} :
    Relation.ReflTransGen (fun x y => parent x = some y) a b ↔
      ∃ n, ancestor parent n a = some b := by
  constructor
  · intro h
    induction h with
    | refl => exact ⟨0, rfl⟩
    | tail _ hbc ih =>
      obtain ⟨n, hn⟩ := ih
      exact ⟨n + 1, by rw [ancestor_succ, hn, Option.bind_some, hbc]⟩
  · rintro ⟨n, hn⟩
    induction n generalizing a with
    | zero =>
      rw [ancestor, Option.some.injEq] at hn
      rw [hn]
    | succ n ih =>
      rw [ancestor] at hn
      obtain ⟨c, hc, hcb⟩ := Option.bind_eq_some_iff.mp hn
      exact .head hc (ih hcb)

/-- Beyond a root the chain is empty. -/
theorem ancestor_eq_none_of_root {n : Nat} {a c : α} (hc : ancestor parent n a = some c)
    (hroot : parent c = none) {m : Nat} (hm : n < m) : ancestor parent m a = none := by
  induction hm with
  | refl => rw [ancestor_succ, hc, Option.bind_some, hroot]
  | step _ ih => rw [ancestor_succ, ih, Option.bind_none]

theorem ancestor_add (i k : Nat) (a : α) :
    ancestor parent (i + k) a = (ancestor parent i a).bind (ancestor parent k) := by
  induction i generalizing a with
  | zero => simp [ancestor]
  | succ i ih =>
    rw [Nat.succ_add, ancestor, ancestor, Option.bind_assoc]
    congr 1
    funext b
    exact ih b

theorem transGen_of_ancestor {n : Nat} {a b : α} (h : ancestor parent (n + 1) a = some b) :
    Relation.TransGen (fun x y => parent x = some y) a b := by
  rw [ancestor] at h
  obtain ⟨c, hc, hcb⟩ := Option.bind_eq_some_iff.mp h
  exact .head' hc (reflTransGen_iff_ancestor.mpr ⟨n, hcb⟩)

/-- More members than elements: two of them are one. -/
theorem exists_ancestor_eq {l : List α} {a : α}
    (h : ∀ m ≤ l.length, ∃ b ∈ l, ancestor parent m a = some b) :
    ∃ i j b, i < j ∧ j ≤ l.length ∧ ancestor parent i a = some b ∧
      ancestor parent j a = some b := by
  classical
  have hmaps : ∀ m ∈ Finset.range (l.length + 1), (ancestor parent m a).getD a ∈ l.toFinset := by
    intro m hm
    obtain ⟨b, hb, hsome⟩ := h m (Nat.lt_succ_iff.mp (Finset.mem_range.mp hm))
    rw [hsome, List.mem_toFinset]
    exact hb
  have hcard : l.toFinset.card < (Finset.range (l.length + 1)).card := by
    rw [Finset.card_range]
    exact Nat.lt_succ_of_le (List.toFinset_card_le l)
  obtain ⟨i, hi, j, hj, hne, heq⟩ := Finset.exists_ne_map_eq_of_card_lt_of_maps_to hcard hmaps
  obtain ⟨b, -, hib⟩ := h i (Nat.lt_succ_iff.mp (Finset.mem_range.mp hi))
  obtain ⟨c, -, hjc⟩ := h j (Nat.lt_succ_iff.mp (Finset.mem_range.mp hj))
  rw [hib, hjc, Option.getD_some, Option.getD_some] at heq
  subst heq
  rcases Nat.lt_or_gt_of_ne hne with hlt | hlt
  · exact ⟨i, j, b, hlt, Nat.lt_succ_iff.mp (Finset.mem_range.mp hj), hib, hjc⟩
  · exact ⟨j, i, b, hlt, Nat.lt_succ_iff.mp (Finset.mem_range.mp hi), hjc, hib⟩

/-- Such a chain shows nothing new later on. -/
theorem ancestor_repeats {l : List α} {a : α}
    (h : ∀ m ≤ l.length, ∃ b ∈ l, ancestor parent m a = some b) (m : Nat) :
    ∃ k ≤ l.length, ancestor parent m a = ancestor parent k a := by
  obtain ⟨i, j, b, hij, hj, hib, hjb⟩ := exists_ancestor_eq h
  induction m using Nat.strong_induction_on with
  | _ m ih =>
    by_cases hm : m ≤ l.length
    · exact ⟨m, hm, rfl⟩
    · obtain ⟨k, rfl⟩ := Nat.exists_eq_add_of_le (show j ≤ m by omega)
      obtain ⟨k', hk', heq⟩ := ih (i + k) (by omega)
      refine ⟨k', hk', ?_⟩
      rw [← heq, ancestor_add, ancestor_add, hib, hjb]

end Ggid.Lib
