import Mathlib.Data.List.Perm.Basic
import Mathlib.Data.List.TakeDrop
import Mathlib.Order.Lattice

/-!
# Selecting the least

A loop that looks for the first element with the least key, takes it out of the list by putting the
last element in its place, and starts again. What it has taken out after `n` rounds are `n` elements
of the list, none of which has a greater key than one that is left (`selectLeast_spec`).

Keeping the first `k` elements of an ascending list does the opposite: it keeps the last ones of
some kind only where these are all, or all the same (`keepFirst_iff`).
-/

namespace Ggid.Lib

variable {α κ : Type*} [LinearOrder κ]

/-- The loop over all elements that keeps the least so far, with its index. -/
def firstLeast (key : α → κ) (l : List α) : Option (α × Nat) :=
  l.zipIdx.foldl (fun best entry =>
    match best with
    | none => some entry
    | some least => if key entry.1 < key least.1 then some entry else best) none

/-- `l[i] = l[len(l)-1]; l = l[:len(l)-1]`. -/
def swapRemove (l : List α) (i : Nat) : List α :=
  match l.getLast? with
  | none => l
  | some last => (l.set i last).dropLast

/-- `n` rounds: what was taken out, in order, and what is left. -/
def selectLeast (key : α → κ) : Nat → List α → List α × List α
  | 0, l => ([], l)
  | n + 1, l =>
    match firstLeast key l with
    | none => selectLeast key n l
    | some (least, i) =>
      (least :: (selectLeast key n (swapRemove l i)).1, (selectLeast key n (swapRemove l i)).2)

variable {key : α → κ} {l : List α} {a : α} {i n : Nat}

theorem firstLeast_nil : firstLeast key [] = none := rfl

/-- What the loop holds is in the list, where it says, and no element is less. -/
theorem firstLeast_spec (h : firstLeast key l = some (a, i)) :
    l[i]? = some a ∧ ∀ b ∈ l, key a ≤ key b := by
  have hfold : ∀ (rest done : List α) (best : Option (α × Nat)),
      (best = none → done = []) →
      (∀ least j, best = some (least, j) →
        (done ++ rest)[j]? = some least ∧ ∀ b ∈ done, key least ≤ key b) →
      (rest.zipIdx done.length).foldl (fun best entry =>
        match best with
        | none => some entry
        | some least => if key entry.1 < key least.1 then some entry else best) best =
          some (a, i) →
      (done ++ rest)[i]? = some a ∧ ∀ b ∈ done ++ rest, key a ≤ key b := by
    intro rest
    induction rest with
    | nil =>
      intro done best _ hbest hresult
      rw [List.zipIdx_nil, List.foldl_nil] at hresult
      obtain ⟨hget, hleast⟩ := hbest a i hresult
      exact ⟨hget, fun b hb => hleast b (by simpa using hb)⟩
    | cons next rest ih =>
      intro done best hnone hbest hresult
      rw [List.zipIdx_cons, List.foldl_cons] at hresult
      have hassoc : done ++ next :: rest = (done ++ [next]) ++ rest := by simp
      have hget : ((done ++ [next]) ++ rest)[done.length]? = some next := by simp
      rw [hassoc] at hbest ⊢
      have hlength : done.length + 1 = (done ++ [next]).length := by simp
      rw [hlength] at hresult
      cases best with
      | none =>
        have hdone := hnone rfl
        refine ih (done ++ [next]) (some (next, done.length)) (by simp) ?_ hresult
        rintro least j heq
        obtain ⟨rfl, rfl⟩ := Prod.mk.inj (Option.some.inj heq)
        exact ⟨hget, fun b hb => by simp [hdone] at hb; rw [hb]⟩
      | some found =>
        obtain ⟨hfound, hleast⟩ := hbest found.1 found.2 rfl
        by_cases hless : key next < key found.1
        · simp only [hless, if_true] at hresult
          refine ih (done ++ [next]) (some (next, done.length)) (by simp) ?_ hresult
          rintro least j heq
          obtain ⟨rfl, rfl⟩ := Prod.mk.inj (Option.some.inj heq)
          refine ⟨hget, fun b hb => ?_⟩
          rcases List.mem_append.mp hb with hb | hb
          · exact le_trans (le_of_lt hless) (hleast b hb)
          · rw [List.mem_singleton.mp hb]
        · simp only [hless, if_false] at hresult
          refine ih (done ++ [next]) (some found) (by simp) ?_ hresult
          rintro least j heq
          obtain rfl := Option.some.inj heq
          refine ⟨hfound, fun b hb => ?_⟩
          rcases List.mem_append.mp hb with hb | hb
          · exact hleast b hb
          · rw [List.mem_singleton.mp hb]
            exact not_lt.mp hless
  have hall := hfold l [] none (fun _ => rfl) (by simp) h
  rwa [List.nil_append] at hall

theorem firstLeast_eq_none : firstLeast key l = none ↔ l = [] := by
  have hsome : ∀ (rest : List (α × Nat)) (entry : α × Nat),
      rest.foldl (fun best entry =>
        match best with
        | none => some entry
        | some least => if key entry.1 < key least.1 then some entry else best) (some entry) ≠
          none := by
    intro rest
    induction rest with
    | nil => simp
    | cons next rest ih =>
      intro entry
      rw [List.foldl_cons]
      by_cases hless : key next.1 < key entry.1
      · simp only [hless, if_true]
        exact ih next
      · simp only [hless, if_false]
        exact ih entry
  cases l with
  | nil => simp [firstLeast_nil]
  | cons b l => exact iff_of_false (hsome (l.zipIdx 1) (b, 0)) (by simp)

theorem cons_swapRemove_perm (h : l[i]? = some a) : (a :: swapRemove l i).Perm l := by
  obtain ⟨hlt, rfl⟩ := List.getElem?_eq_some_iff.mp h
  obtain ⟨init, last, rfl⟩ := (List.eq_nil_or_concat' l).resolve_left (by
    rintro rfl
    exact absurd hlt (by simp))
  unfold swapRemove
  rw [List.getLast?_concat]
  simp only
  by_cases hi : i < init.length
  · rw [List.set_append_left _ _ hi, List.dropLast_concat, List.getElem_append_left hi,
      List.set_eq_take_append_cons_drop, if_pos hi]
    -- the element and the last one change places
    have hsplit : init = init.take i ++ init[i] :: init.drop (i + 1) := by simp
    calc (init[i] :: (init.take i ++ last :: init.drop (i + 1))).Perm
          (init[i] :: last :: (init.take i ++ init.drop (i + 1))) :=
          List.perm_middle.cons _
      _ |>.Perm (last :: init[i] :: (init.take i ++ init.drop (i + 1))) := List.Perm.swap _ _ _
      _ |>.Perm (last :: (init.take i ++ init[i] :: init.drop (i + 1))) :=
          (List.perm_middle.symm).cons _
      _ |>.Perm (last :: init) := by rw [← hsplit]
      _ |>.Perm (init ++ [last]) := (List.perm_append_singleton last init).symm
  · have hlast : i = init.length := by
      rw [List.length_append, List.length_singleton] at hlt
      omega
    subst hlast
    have hset : (init ++ [last]).set init.length last = init ++ [last] := by simp
    rw [hset, List.dropLast_concat, List.getElem_concat_length rfl]
    exact (List.perm_append_singleton last init).symm

/-- **What was taken out and what is left** make up the list; nothing taken out has a greater key
than anything left. -/
theorem selectLeast_spec (key : α → κ) : ∀ (n : Nat) (l : List α),
    ((selectLeast key n l).1 ++ (selectLeast key n l).2).Perm l ∧
      (selectLeast key n l).1.length = min n l.length ∧
        ∀ a ∈ (selectLeast key n l).1, ∀ b ∈ (selectLeast key n l).2, key a ≤ key b := by
  intro n
  induction n with
  | zero => simp [selectLeast]
  | succ n ih =>
    intro l
    unfold selectLeast
    cases hfirst : firstLeast key l with
    | none =>
      obtain rfl := firstLeast_eq_none.mp hfirst
      simpa using ih []
    | some found =>
      obtain ⟨least, i⟩ := found
      obtain ⟨hget, hleast⟩ := firstLeast_spec hfirst
      have hswap := cons_swapRemove_perm hget
      obtain ⟨hperm, hlength, hless⟩ := ih (swapRemove l i)
      have hall : (least :: ((selectLeast key n (swapRemove l i)).1 ++
          (selectLeast key n (swapRemove l i)).2)).Perm l := (hperm.cons least).trans hswap
      refine ⟨hall, ?_, ?_⟩
      · have hcount := hswap.length_eq
        rw [List.length_cons] at hcount
        rw [List.length_cons, hlength]
        omega
      · rintro a (_ | ⟨_, ha⟩) b hb
        · exact hleast b (hall.subset (by simp [hb]))
        · exact hless a ha b hb

/-- **The first `k` elements of an ascending list** hold as many of a kind as there can be, and none
less than one behind them, exactly if there are none behind them, or the first `k` are all of the
kind, and all of the kind have one key. -/
theorem keepFirst_iff {p : α → Bool} {k : Nat} (hk : 1 ≤ k)
    (hsorted : l.Pairwise fun a b => key a ≤ key b) :
    (((l.take k).filter p).length = min k (l.filter p).length ∧
      ∀ a ∈ l.drop k, p a = true → ∀ b ∈ (l.take k).filter p, key a ≤ key b) ↔
    (∀ a ∈ l.drop k, p a = false) ∨
      ((∀ a ∈ l.take k, p a = true) ∧ ∀ a ∈ l.filter p, ∀ b ∈ l.filter p, key a = key b) := by
  have hsplit := List.take_append_drop k l
  have hcount : (l.take k).length = min k l.length := List.length_take
  have hlengths : (l.filter p).length =
      ((l.take k).filter p).length + ((l.drop k).filter p).length := by
    rw [← List.length_append, ← List.filter_append, hsplit]
  have hshort := List.length_filter_le p (l.take k)
  constructor
  · rintro ⟨hleft, hrecent⟩
    by_cases hnone : ∀ a ∈ l.drop k, p a = false
    · exact .inl hnone
    right
    obtain ⟨a, ha, hpa⟩ : ∃ a ∈ l.drop k, p a = true := by
      by_contra hall
      exact hnone fun a ha => Bool.eq_false_iff.mpr fun hpa => hall ⟨a, ha, hpa⟩
    have hpos : 0 < ((l.drop k).filter p).length :=
      List.length_pos_of_mem (List.mem_filter.mpr ⟨ha, hpa⟩)
    have hdrop := List.length_pos_of_mem ha
    rw [List.length_drop] at hdrop
    have hkept : ∀ b ∈ l.take k, p b = true :=
      List.length_filter_eq_length_iff.mp (by omega)
    refine ⟨hkept, ?_⟩
    -- what is behind is no less than what is kept, and something is kept
    obtain ⟨first, hfirst⟩ : ∃ first, first ∈ l.take k :=
      List.exists_mem_of_length_pos (by omega)
    have hsame : ∀ a ∈ l.drop k, p a = true → ∀ b ∈ l.take k, key a = key b := by
      intro a ha hpa b hb
      rw [← hsplit] at hsorted
      exact le_antisymm (hrecent a ha hpa b (List.mem_filter.mpr ⟨hb, hkept b hb⟩))
        ((List.pairwise_append.mp hsorted).2.2 b hb a ha)
    have hone : ∀ b ∈ l.filter p, key b = key a := by
      intro b hb
      obtain ⟨hb, hpb⟩ := List.mem_filter.mp hb
      rw [← hsplit, List.mem_append] at hb
      rcases hb with hb | hb
      · exact (hsame a ha hpa b hb).symm
      · exact (hsame b hb hpb first hfirst).trans (hsame a ha hpa first hfirst).symm
    exact fun b hb c hc => (hone b hb).trans (hone c hc).symm
  · rintro (hnone | ⟨hall, hone⟩)
    · have hzero : ((l.drop k).filter p).length = 0 := by
        rw [List.length_eq_zero_iff, List.filter_eq_nil_iff]
        exact fun a ha => by simp [hnone a ha]
      refine ⟨by omega, fun a ha hpa => ?_⟩
      exact absurd ((hnone a ha).symm.trans hpa) (by simp)
    · have hfull : ((l.take k).filter p).length = (l.take k).length := by
        rw [List.filter_eq_self.mpr hall]
      have htotal := List.length_filter_le p l
      refine ⟨by omega, fun a ha hpa b hb => le_of_eq (hone a ?_ b ?_)⟩
      · exact List.mem_filter.mpr ⟨List.mem_of_mem_drop ha, hpa⟩
      · obtain ⟨hb, hpb⟩ := List.mem_filter.mp hb
        exact List.mem_filter.mpr ⟨List.mem_of_mem_take hb, hpb⟩

end Ggid.Lib
