import Mathlib.Data.List.Induction
import Mathlib.Data.List.Sort
import Mathlib.Data.List.TakeWhile
import Mathlib.Data.Set.Function
import Mathlib.Order.OrderDual

/-!
# Ordered listings

`ORDER BY`: the rows of a query, listed in the order of a key. As long as no two rows
have the same key, a listing depends on the set of rows only, and the descending one is
the ascending one read backwards. A new row splits the listing in two
(`orderedBy_insert`).

`Follows` says that every element of a list refers back to the one before it.
-/

namespace Ggid.Lib

variable {α κ δ : Type*}

-- ---------------------------------------------------------------------------
-- `ORDER BY`
-- ---------------------------------------------------------------------------

section Order

variable [LinearOrder κ] {order : α → κ} {rows rows' : List α} {a b : α}

/-- `ORDER BY order ASC`. With `OrderDual.toDual ∘ order`, it is `DESC`. -/
def orderedBy (order : α → κ) (rows : List α) : List α :=
  rows.insertionSort fun a b => order a ≤ order b

@[simp] theorem mem_orderedBy : a ∈ orderedBy order rows ↔ a ∈ rows := by
  rw [orderedBy, List.mem_insertionSort]

theorem orderedBy_perm (order : α → κ) (rows : List α) : (orderedBy order rows).Perm rows :=
  List.perm_insertionSort _ rows

theorem orderedBy_pairwise (order : α → κ) (rows : List α) :
    (orderedBy order rows).Pairwise fun a b => order a ≤ order b := by
  have htotal : Std.Total fun a b : α => order a ≤ order b := ⟨fun a b => le_total _ _⟩
  have htrans : IsTrans α fun a b => order a ≤ order b := ⟨fun _ _ _ => le_trans⟩
  exact List.pairwise_insertionSort _ rows

/-- A sorted list of the rows is the listing. -/
theorem eq_orderedBy (hsorted : rows.Pairwise fun a b => order a ≤ order b)
    (hperm : rows.Perm rows') (hkey : Set.InjOn order {a | a ∈ rows'}) :
    rows = orderedBy order rows' := by
  refine List.Perm.eq_of_pairwise (fun a b ha hb hab hba => ?_) hsorted
    (orderedBy_pairwise order rows') (hperm.trans (orderedBy_perm order rows').symm)
  exact hkey (hperm.mem_iff.mp ha) (mem_orderedBy.mp hb) (le_antisymm hab hba)

theorem orderedBy_congr (hperm : rows.Perm rows')
    (hkey : Set.InjOn order {a | a ∈ rows'}) :
    orderedBy order rows = orderedBy order rows' :=
  eq_orderedBy (orderedBy_pairwise order rows) ((orderedBy_perm order rows).trans hperm) hkey

/-- The descending listing is the ascending one backwards. -/
theorem orderedBy_toDual (hkey : Set.InjOn order {a | a ∈ rows}) :
    orderedBy (OrderDual.toDual ∘ order) rows = (orderedBy order rows).reverse := by
  symm
  apply eq_orderedBy
  · rw [List.pairwise_reverse]
    exact orderedBy_pairwise order rows
  · exact (List.reverse_perm _).trans (orderedBy_perm order rows)
  · exact hkey

/-- A new row comes behind the rows before it. -/
theorem orderedBy_insert (hkey : Set.InjOn order {b | b ∈ a :: rows})
    (hperm : rows'.Perm (a :: rows)) :
    ∃ before after, orderedBy order rows = before ++ after ∧
      orderedBy order rows' = before ++ a :: after ∧ (∀ b ∈ before, order b < order a) ∧
        ∀ b ∈ after, order a ≤ order b := by
  have hsplit : orderedBy order rows' =
      ((orderedBy order rows).takeWhile fun b => ¬ order a ≤ order b) ++
        a :: (orderedBy order rows).dropWhile fun b => ¬ order a ≤ order b := by
    have hsame : orderedBy order rows' = orderedBy order (a :: rows) := orderedBy_congr hperm hkey
    rw [hsame, orderedBy, List.insertionSort_cons_eq_take_drop]
    rfl
  refine ⟨_, _, List.takeWhile_append_dropWhile.symm, hsplit, fun b hb => ?_, ?_⟩
  · simpa using List.mem_takeWhile_imp hb
  · have hsorted := (orderedBy_pairwise order rows).sublist
      (List.dropWhile_sublist fun b => ¬ order a ≤ order b)
    cases hafter : (orderedBy order rows).dropWhile fun b => ¬ order a ≤ order b with
    | nil => exact fun b hb => absurd hb List.not_mem_nil
    | cons c after =>
      have hc : order a ≤ order c := by
        have hhead := List.head?_dropWhile_not (fun b => decide ¬ order a ≤ order b)
          (orderedBy order rows)
        rw [hafter] at hhead
        simpa using hhead
      rw [hafter] at hsorted
      rintro b (_ | ⟨_, hb⟩)
      · exact hc
      · exact hc.trans (List.rel_of_pairwise_cons hsorted hb)

/-- A row that comes last, comes last in the listing. -/
theorem orderedBy_concat (hkey : Set.InjOn order {b | b ∈ a :: rows})
    (hperm : rows'.Perm (a :: rows)) (hlast : ∀ b ∈ rows, order b < order a) :
    orderedBy order rows' = orderedBy order rows ++ [a] := by
  obtain ⟨before, after, hrows, hrows', -, hafter⟩ := orderedBy_insert hkey hperm
  cases after with
  | nil => rw [hrows', hrows, List.append_nil]
  | cons b after =>
    have hb : b ∈ orderedBy order rows := by
      rw [hrows]
      exact List.mem_append_right _ List.mem_cons_self
    exact absurd (hafter b List.mem_cons_self) (not_le.mpr (hlast b (mem_orderedBy.mp hb)))

/-- Rows of one key stay in their order. -/
theorem orderedBy_stable (order : α → κ) (hle : order a ≤ order b) (h : [a, b].Sublist rows) :
    [a, b].Sublist (orderedBy order rows) := by
  have htotal : Std.Total fun a b : α => order a ≤ order b := ⟨fun a b => le_total _ _⟩
  have htrans : IsTrans α fun a b => order a ≤ order b := ⟨fun _ _ _ => le_trans⟩
  exact List.pair_sublist_insertionSort hle h

/-- A new row comes first if it is below all others; of equal ones, the older comes first. -/
theorem head?_orderedBy_concat (hnodup : (rows ++ [a]).Nodup) :
    (orderedBy order (rows ++ [a])).head? = some a ↔ ∀ b ∈ rows, order a < order b := by
  have hsorted := orderedBy_pairwise order (rows ++ [a])
  have hmem : ∀ {b}, b ∈ orderedBy order (rows ++ [a]) ↔ b ∈ rows ++ [a] := mem_orderedBy
  have hnodup' : (orderedBy order (rows ++ [a])).Nodup :=
    (orderedBy_perm order _).nodup_iff.mpr hnodup
  cases hlist : orderedBy order (rows ++ [a]) with
  | nil =>
    rw [hlist] at hmem
    exact absurd (hmem.mpr (List.mem_append_right _ (List.mem_singleton_self a)))
      List.not_mem_nil
  | cons first rest =>
    rw [hlist] at hmem hsorted hnodup'
    rw [List.head?_cons, Option.some.injEq]
    constructor
    · rintro rfl b hb
      by_contra hle
      have hne : b ≠ first := by
        rintro rfl
        exact (List.nodup_append.mp hnodup).2.2 b hb b (List.mem_singleton_self b) rfl
      have hpair : [b, first].Sublist (rows ++ [first]) :=
        (List.singleton_sublist.mpr hb).append (List.Sublist.refl [first])
      have hstable := orderedBy_stable order (not_lt.mp hle) hpair
      rw [hlist, List.sublist_cons_iff] at hstable
      rcases hstable with hrest | ⟨tail, heq, -⟩
      · exact (List.nodup_cons.mp hnodup').1 (hrest.subset (by simp))
      · exact hne (List.cons.inj heq).1
    · intro hall
      by_contra hne
      have hfirst : first ∈ rows := by
        rcases List.mem_append.mp (hmem.mp List.mem_cons_self) with h | h
        · exact h
        · exact absurd (List.mem_singleton.mp h) hne
      have ha : a ∈ rest := by
        rcases List.mem_cons.mp (hmem.mpr (List.mem_append_right _ (List.mem_singleton_self a)))
          with h | h
        · exact absurd h.symm hne
        · exact h
      exact absurd (hall first hfirst) (not_lt.mpr (List.rel_of_pairwise_cons hsorted ha))

/-- The listing of some of the rows is a part of the listing. -/
theorem orderedBy_filter {p : α → Bool} (hkey : Set.InjOn order {a | a ∈ rows}) :
    orderedBy order (rows.filter p) = (orderedBy order rows).filter p := by
  symm
  apply eq_orderedBy
  · exact (orderedBy_pairwise order rows).sublist List.filter_sublist
  · exact (orderedBy_perm order rows).filter p
  · exact hkey.mono fun a ha => (List.mem_filter.mp ha).1

/-- A listing splits at a bound. -/
theorem filter_append_filter_not {p : α → Bool} {l : List α}
    (h : l.Pairwise fun a b => p b = true → p a = true) :
    l.filter p ++ l.filter (fun a => !p a) = l := by
  induction l with
  | nil => rfl
  | cons a l ih =>
    obtain ⟨hbefore, hrest⟩ := List.pairwise_cons.mp h
    cases hp : p a with
    | true => rw [List.filter_cons_of_pos hp, List.filter_cons_of_neg (by simp [hp]),
        List.cons_append, ih hrest]
    | false =>
      have hnone : l.filter p = [] := List.filter_eq_nil_iff.mpr fun b hb hpb =>
        absurd (hbefore b hb hpb) (by simp [hp])
      have hall : l.filter (fun b => !p b) = l := by
        have hsplit := ih hrest
        rwa [hnone, List.nil_append] at hsplit
      rw [List.filter_cons_of_neg (by simp [hp]), List.filter_cons_of_pos (by simp [hp]), hnone,
        hall, List.nil_append]

end Order

section Parts

variable {p : α → Prop} {before kept after : List α}

/-- A part that reaches behind a bound reaches back from there. -/
theorem append_infix_append_iff (hbefore : ∀ a ∈ before, p a) (hafter : ∀ a ∈ after, ¬ p a)
    (hne : after ≠ []) : kept ++ after <:+: before ++ after ↔ kept <:+ before := by
  classical
  constructor
  · rintro ⟨front, back, hsplit⟩
    obtain ⟨init, last, rfl⟩ := (List.eq_nil_or_concat' after).resolve_left hne
    have hcount := congrArg (List.countP fun a => ¬ p a) hsplit
    have hnone : before.countP (fun a => ¬ p a) = 0 :=
      List.countP_eq_zero.mpr fun a ha => by simpa using hbefore a ha
    simp only [List.countP_append, hnone] at hcount
    have hback : back = [] := by
      by_contra hback
      obtain ⟨binit, blast, rfl⟩ := (List.eq_nil_or_concat' back).resolve_left hback
      have hlast : blast = last := by
        have hends := congrArg List.getLast? hsplit
        simpa only [← List.append_assoc, List.getLast?_concat, Option.some.injEq] using hends
      have hpos : 0 < (binit ++ [blast]).countP fun a => ¬ p a := by
        rw [List.countP_pos_iff]
        refine ⟨blast, by simp, ?_⟩
        rw [hlast]
        simpa using hafter last (by simp)
      omega
    rw [hback, List.append_nil, ← List.append_assoc] at hsplit
    exact ⟨front, List.append_cancel_right hsplit⟩
  · rintro ⟨front, rfl⟩
    exact ⟨front, [], by simp⟩

end Parts

-- ---------------------------------------------------------------------------
-- Back references
-- ---------------------------------------------------------------------------

section Follows

variable {back name : α → δ} {prev : δ} {es es' : List α} {e e' : α}

/-- Every element refers to the one before it, the first one to `prev`. -/
def Follows (back name : α → δ) : δ → List α → Prop
  | _, [] => True
  | prev, e :: es => back e = prev ∧ Follows back name (name e) es

instance Follows.decidable [DecidableEq δ] (back name : α → δ) (prev : δ) :
    ∀ es : List α, Decidable (Follows back name prev es)
  | [] => .isTrue trivial
  | e :: es =>
    have : Decidable (Follows back name (name e) es) := Follows.decidable back name (name e) es
    inferInstanceAs (Decidable (back e = prev ∧ Follows back name (name e) es))

/-- The last name does not depend on what is referred to first. -/
theorem lastName_cons (name : α → δ) (prev : δ) (e : α) (es : List α) :
    ((e :: es).getLast?.map name).getD prev = (es.getLast?.map name).getD (name e) := by
  cases es with
  | nil => rfl
  | cons e' es =>
    obtain ⟨last, hlast⟩ := Option.ne_none_iff_exists'.mp
      (show (e' :: es).getLast? ≠ none by simp)
    rw [List.getLast?_cons_cons, hlast]
    rfl

theorem follows_append :
    Follows back name prev (es ++ es') ↔
      Follows back name prev es ∧ Follows back name ((es.getLast?.map name).getD prev) es' := by
  induction es generalizing prev with
  | nil => simp [Follows]
  | cons e es ih => rw [List.cons_append, Follows, Follows, ih, and_assoc, lastName_cons]

theorem Follows.take (h : Follows back name prev es) (n : Nat) :
    Follows back name prev (es.take n) := by
  rw [← List.take_append_drop n es, follows_append] at h
  exact h.1

theorem Follows.next (h : Follows back name prev (es ++ e :: e' :: es')) : back e' = name e :=
  (follows_append.mp h).2.2.1

theorem Follows.middle {front back' : List α}
    (h : Follows back name prev (front ++ es ++ back')) :
    Follows back name ((front.getLast?.map name).getD prev) es :=
  (follows_append.mp (follows_append.mp h).1).2

theorem Follows.concat (h : Follows back name prev es)
    (he : back e = (es.getLast?.map name).getD prev) : Follows back name prev (es ++ [e]) :=
  follows_append.mpr ⟨h, he, trivial⟩

/-- All names but the last are referred to, in their order. -/
theorem Follows.names (h : Follows back name prev es) :
    prev :: es.map name = es.map back ++ [(es.getLast?.map name).getD prev] := by
  induction es generalizing prev with
  | nil => rfl
  | cons e es ih =>
    rw [lastName_cons, List.map_cons, List.map_cons, ih h.2, h.1, List.cons_append]

/-- Every element refers to a name that is known, or to an element before it. -/
def RefersBefore (back name : α → δ) : List δ → List α → Prop
  | _, [] => True
  | known, e :: es => back e ∈ known ∧ RefersBefore back name (name e :: known) es

theorem refersBefore_concat {known : List δ} :
    RefersBefore back name known (es ++ [e]) ↔
      RefersBefore back name known es ∧ (back e ∈ known ∨ back e ∈ es.map name) := by
  induction es generalizing known with
  | nil => simp [RefersBefore]
  | cons e' es ih =>
    rw [List.cons_append, RefersBefore, RefersBefore, ih, and_assoc, List.map_cons]
    simp only [List.mem_cons]
    tauto

/-- A tree in which no two elements refer to one is a path. -/
theorem follows_iff_nodup (hnames : (prev :: es.map name).Nodup)
    (hback : RefersBefore back name [prev] es) :
    Follows back name prev es ↔ (es.map back).Nodup := by
  constructor
  · intro h
    rw [h.names] at hnames
    exact (List.nodup_append.mp hnames).1
  · induction es using List.reverseRecOn with
    | nil => exact fun _ => trivial
    | append_singleton es e ih =>
      intro hnodup
      rw [List.map_append, List.map_singleton] at hnames hnodup
      obtain ⟨hbefore, hlast⟩ := refersBefore_concat.mp hback
      have hpath : Follows back name prev es :=
        ih (hnames.sublist ((List.sublist_append_left _ _).cons_cons prev)) hbefore
          (List.nodup_append.mp hnodup).1
      -- of all that can be referred to, only the last name is left
      have hmem : back e ∈ es.map back ++ [(es.getLast?.map name).getD prev] := by
        rw [← hpath.names]
        rcases hlast with h | h
        · exact List.mem_singleton.mp h ▸ List.mem_cons_self
        · exact List.mem_cons_of_mem _ h
      rcases List.mem_append.mp hmem with h | h
      · exact absurd rfl ((List.nodup_append.mp hnodup).2.2 _ h _ (List.mem_singleton_self _))
      · exact hpath.concat (List.mem_singleton.mp h)

end Follows

end Ggid.Lib
