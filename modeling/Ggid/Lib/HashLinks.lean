import Mathlib.Data.List.Induction

/-!
# Chains of digests

A log whose entries carry a digest of their data and of the digest before them. The
first entry is digested with a *genesis* value, which is no digest.

`Linked` says that every entry carries the digest it should, `firstBroken` looks for
the first that does not, and `tip` is the last digest. As long as no two of the inputs
that were digested have the same digest,

* the tip determines the whole log (`Linked.eq_of_tip_eq`);
* a log that differs from a linked one breaks at the first entry that differs, if it has
  the same tip and no digests of its own (`firstBroken_eq_firstDifference`).
-/

namespace Ggid.Lib

variable {α δ β : Type*}

section Chain

variable (link : δ → α → δ) (genesis : δ)

/-- The last digest of a log that continues one with this digest. -/
def tip (prev : δ) (es : List (α × δ)) : δ := (es.getLast?.map Prod.snd).getD prev

/-- Every entry carries the digest of its data and the digest before. -/
def Linked : δ → List (α × δ) → Prop
  | _, [] => True
  | prev, e :: es => (e.2 ≠ genesis ∧ e.2 = link prev e.1) ∧ Linked e.2 es

/-- What is digested: the data of each entry with the digest before. -/
def inputs : δ → List (α × δ) → List (δ × α)
  | _, [] => []
  | prev, e :: es => (prev, e.1) :: inputs e.2 es

/-- The position of the first entry whose digest is not the one it should carry. -/
def firstBroken [DecidableEq δ] : δ → List (α × δ) → Option Nat
  | _, [] => none
  | prev, e :: es =>
    if e.2 ≠ genesis ∧ e.2 = link prev e.1 then (firstBroken e.2 es).map (· + 1) else some 0

end Chain

/-- The first position at which two lists differ, if only because one of them ends. -/
def firstDifference [DecidableEq β] : List β → List β → Option Nat
  | [], [] => none
  | x :: xs, y :: ys => if x = y then (firstDifference xs ys).map (· + 1) else some 0
  | _, _ => some 0

-- ---------------------------------------------------------------------------
-- Appending
-- ---------------------------------------------------------------------------

section Append

variable {link : δ → α → δ} {genesis prev : δ} {es es' : List (α × δ)} {e : α × δ}

@[simp] theorem tip_nil : tip prev ([] : List (α × δ)) = prev := rfl

@[simp] theorem tip_cons : tip prev (e :: es) = tip e.2 es := by
  cases es with
  | nil => rfl
  | cons e' es =>
    have hlast : (e' :: es).getLast? ≠ none := by simp
    obtain ⟨last, hlast⟩ := Option.ne_none_iff_exists'.mp hlast
    rw [tip, tip, List.getLast?_cons_cons, hlast]
    rfl

@[simp] theorem tip_concat : tip prev (es ++ [e]) = e.2 := by
  simp [tip]

theorem linked_append :
    Linked link genesis prev (es ++ es') ↔
      Linked link genesis prev es ∧ Linked link genesis (tip prev es) es' := by
  induction es generalizing prev with
  | nil => simp [Linked]
  | cons e es ih => simp only [List.cons_append, Linked, ih, tip_cons, and_assoc]

theorem linked_concat :
    Linked link genesis prev (es ++ [e]) ↔
      Linked link genesis prev es ∧ e.2 ≠ genesis ∧ e.2 = link (tip prev es) e.1 := by
  rw [linked_append]
  simp [Linked]

theorem inputs_append :
    inputs prev (es ++ es') = inputs prev es ++ inputs (tip prev es) es' := by
  induction es generalizing prev with
  | nil => rfl
  | cons e es ih => simp only [List.cons_append, inputs, ih, tip_cons]

theorem inputs_concat : inputs prev (es ++ [e]) = inputs prev es ++ [(tip prev es, e.1)] := by
  rw [inputs_append]
  rfl

theorem tip_mem (es : List (α × δ)) : tip prev es = prev ∨ tip prev es ∈ es.map Prod.snd := by
  rcases List.eq_nil_or_concat es with rfl | ⟨init, e, rfl⟩
  · exact .inl rfl
  · rw [List.concat_eq_append, tip_concat]
    exact .inr (List.mem_map_of_mem (List.mem_append_right _ (List.mem_singleton_self e)))

/-- Data is digested with the digest of an entry, or with the one the log continues. -/
theorem inputs_fst {x : δ × α} (hx : x ∈ inputs prev es) :
    x.1 = prev ∨ x.1 ∈ es.map Prod.snd := by
  induction es generalizing prev with
  | nil => exact absurd hx List.not_mem_nil
  | cons e es ih =>
    rcases List.mem_cons.mp hx with rfl | hx
    · exact .inl rfl
    · right
      rcases ih hx with heq | hmem
      · exact heq ▸ List.mem_cons_self
      · exact List.mem_cons_of_mem _ hmem

theorem inputs_snd {x : δ × α} (hx : x ∈ inputs prev es) : x.2 ∈ es.map Prod.fst := by
  induction es generalizing prev with
  | nil => exact absurd hx List.not_mem_nil
  | cons e es ih =>
    rcases List.mem_cons.mp hx with rfl | hx
    · exact List.mem_cons_self
    · exact List.mem_cons_of_mem _ (ih hx)

/-- A digest of a linked log was made of what came before it. -/
theorem Linked.split (h : Linked link genesis prev es) (he : e ∈ es) :
    ∃ before after, es = before ++ e :: after ∧ Linked link genesis prev before ∧
      e.2 ≠ genesis ∧ e.2 = link (tip prev before) e.1 := by
  obtain ⟨before, after, rfl⟩ := List.append_of_mem he
  obtain ⟨hbefore, ⟨hgenesis, hdigest⟩, -⟩ := linked_append.mp h
  exact ⟨before, after, rfl, hbefore, hgenesis, hdigest⟩

variable [DecidableEq δ]

theorem firstBroken_eq_none_iff :
    firstBroken link genesis prev es = none ↔ Linked link genesis prev es := by
  induction es generalizing prev with
  | nil => simp [firstBroken, Linked]
  | cons e es ih =>
    rw [firstBroken, Linked]
    split
    · rename_i hok
      rw [Option.map_eq_none_iff, ih, and_iff_right hok]
    · rename_i hbad
      simp [hbad]

/-- Past a linked part the search goes on. -/
theorem firstBroken_append (h : Linked link genesis prev es) :
    firstBroken link genesis prev (es ++ es') =
      (firstBroken link genesis (tip prev es) es').map (· + es.length) := by
  induction es generalizing prev with
  | nil => simp
  | cons e es ih =>
    rw [List.cons_append, firstBroken, if_pos h.1, ih h.2, tip_cons, Option.map_map]
    congr 1

end Append

-- ---------------------------------------------------------------------------
-- What the digests determine
-- ---------------------------------------------------------------------------

section Determined

variable {link : δ → α → δ} {genesis : δ}

/-- No two different inputs of the two lists have the same digest. -/
def NoCollision (link : δ → α → δ) (xs ys : List (δ × α)) : Prop :=
  ∀ x ∈ xs, ∀ y ∈ ys, link x.1 x.2 = link y.1 y.2 → x = y

theorem NoCollision.mono {xs xs' ys ys' : List (δ × α)} (h : NoCollision link xs ys)
    (hx : ∀ x ∈ xs', x ∈ xs) (hy : ∀ y ∈ ys', y ∈ ys) : NoCollision link xs' ys' :=
  fun x hxs y hys heq => h x (hx x hxs) y (hy y hys) heq

theorem tip_ne_genesis {es : List (α × δ)} (h : Linked link genesis genesis es) (hne : es ≠ []) :
    tip genesis es ≠ genesis := by
  obtain ⟨init, e, rfl⟩ := List.eq_nil_or_concat es |>.resolve_left hne
  rw [List.concat_eq_append] at h ⊢
  rw [tip_concat]
  exact (linked_concat.mp h).2.1

/-- **The tip determines the log.** Induction from the end: equal digests come from equal
inputs, so the last entries agree and so do the tips before them. -/
theorem Linked.eq_of_tip_eq {es es' : List (α × δ)} (h : Linked link genesis genesis es)
    (h' : Linked link genesis genesis es') (htip : tip genesis es = tip genesis es')
    (hinputs : NoCollision link (inputs genesis es) (inputs genesis es')) : es = es' := by
  induction es using List.reverseRecOn generalizing es' with
  | nil =>
    by_contra hne
    exact tip_ne_genesis h' (Ne.symm hne) htip.symm
  | append_singleton es e ih =>
    rcases List.eq_nil_or_concat es' with rfl | ⟨es', e', rfl⟩
    · exact absurd htip (tip_ne_genesis h (by simp))
    rw [List.concat_eq_append] at *
    obtain ⟨hlinked, -, hdigest⟩ := linked_concat.mp h
    obtain ⟨hlinked', -, hdigest'⟩ := linked_concat.mp h'
    rw [tip_concat, tip_concat] at htip
    have hsame : (tip genesis es, e.1) = (tip genesis es', e'.1) := by
      apply hinputs
      · simp [inputs_concat]
      · simp [inputs_concat]
      · rw [← hdigest, ← hdigest', htip]
    obtain ⟨hprev, hdata⟩ := Prod.mk.inj hsame
    have hrest : es = es' := by
      apply ih hlinked hlinked' hprev
      refine hinputs.mono (fun x hx => ?_) (fun y hy => ?_)
      · rw [inputs_concat]
        exact List.mem_append_left _ hx
      · rw [inputs_concat]
        exact List.mem_append_left _ hy
    rw [hrest, Prod.ext hdata htip]

variable [DecidableEq δ]

/-- Two lists are the same, or one goes on where the other ends, or they differ in an
entry. -/
theorem firstDifference_cases [DecidableEq β] (xs ys : List β) :
    (xs = ys ∧ firstDifference xs ys = none) ∨
    (∃ x after, xs = ys ++ x :: after ∧ firstDifference xs ys = some ys.length) ∨
    (∃ common rest y after, xs = common ++ rest ∧ ys = common ++ y :: after ∧
      rest.head? ≠ some y ∧ firstDifference xs ys = some common.length) := by
  induction xs generalizing ys with
  | nil =>
    cases ys with
    | nil => exact .inl ⟨rfl, rfl⟩
    | cons y ys => exact .inr (.inr ⟨[], [], y, ys, rfl, rfl, by simp, rfl⟩)
  | cons x xs ih =>
    cases ys with
    | nil => exact .inr (.inl ⟨x, xs, rfl, rfl⟩)
    | cons y ys =>
      rw [firstDifference]
      by_cases hxy : x = y
      · rw [if_pos hxy, hxy]
        rcases ih ys with ⟨rfl, hnone⟩ | ⟨x', after, rfl, hat⟩ |
          ⟨common, rest, y', after, rfl, rfl, hdiffers, hat⟩
        · exact .inl ⟨rfl, by rw [hnone]; rfl⟩
        · exact .inr (.inl ⟨x', after, rfl, by rw [hat]; rfl⟩)
        · exact .inr (.inr ⟨y :: common, rest, y', after, rfl, rfl, hdiffers, by rw [hat]; rfl⟩)
      · rw [if_neg hxy]
        refine .inr (.inr ⟨[], x :: xs, y, ys, rfl, rfl, ?_, rfl⟩)
        rwa [List.head?_cons, ne_eq, Option.some_inj]

/-- A log that agrees with a linked one up to some entry breaks there, if the entry has
no digest but one of the linked log. -/
theorem firstBroken_of_differs {common rest after : List (α × δ)} {e : α × δ}
    (h : Linked link genesis genesis (common ++ rest)) (hdiffers : rest.head? ≠ some e)
    (hcopied : e.2 ≠ genesis → e.2 = link (tip genesis common) e.1 →
      e.2 ∈ (common ++ rest).map Prod.snd)
    (hinputs : NoCollision link (inputs genesis (common ++ rest))
      (inputs genesis (common ++ rest) ++ [(tip genesis common, e.1)])) :
    firstBroken link genesis genesis (common ++ e :: after) = some common.length := by
  have hcommon : Linked link genesis genesis common := (linked_append.mp h).1
  rw [firstBroken_append hcommon, firstBroken, if_neg]
  · rw [Option.map_some, Nat.zero_add]
  rintro ⟨hgenesis, hdigest⟩
  -- the digest is one of the linked log, so it was made of the same input
  obtain ⟨x, hx, hxe⟩ := List.mem_map.mp (hcopied hgenesis hdigest)
  obtain ⟨before, behind, hsplit, hbefore, -, hxdigest⟩ := h.split hx
  have hsame : (tip genesis before, x.1) = (tip genesis common, e.1) := by
    apply hinputs
    · rw [hsplit, inputs_append]
      exact List.mem_append_right _ List.mem_cons_self
    · exact List.mem_append_right _ (List.mem_singleton_self _)
    · rw [← hxdigest, hxe, hdigest]
  obtain ⟨htip, hdata⟩ := Prod.mk.inj hsame
  -- and at the same position
  have hposition : before = common := by
    refine hbefore.eq_of_tip_eq hcommon htip (hinputs.mono (fun y hy => ?_) (fun y hy => ?_))
    · rw [hsplit, inputs_append]
      exact List.mem_append_left _ hy
    · rw [inputs_append]
      exact List.mem_append_left _ (List.mem_append_left _ hy)
  rw [hposition] at hsplit
  rw [List.append_cancel_left hsplit, List.head?_cons] at hdiffers
  exact hdiffers (congrArg some (Prod.ext hdata hxe))

/-- **A difference shows where it is.** Of a log with the tip of a linked one, and with
digests that are copied from it or are none, the first broken link is the first
difference. -/
theorem firstBroken_eq_firstDifference [DecidableEq α] {es es' : List (α × δ)}
    (h : Linked link genesis genesis es) (htip : tip genesis es' = tip genesis es)
    (hcopied : ∀ e ∈ es', e.2 ∈ es.map Prod.snd ∨ ∀ prev, e.2 ≠ link prev e.1)
    (hinputs : ∀ x ∈ inputs genesis es, ∀ y ∈ inputs genesis es ++ inputs genesis es',
      (y.1 = genesis ∨ y.1 ∈ es.map Prod.snd) → link x.1 x.2 = link y.1 y.2 → x = y) :
    firstBroken link genesis genesis es' = firstDifference es es' := by
  have hself : NoCollision link (inputs genesis es) (inputs genesis es) :=
    fun x hx y hy => hinputs x hx y (List.mem_append_left _ hy) (inputs_fst hy)
  rcases firstDifference_cases es es' with ⟨rfl, hnone⟩ | ⟨e, after, rfl, hat⟩ |
    ⟨common, rest, e, after, rfl, rfl, hdiffers, hat⟩
  · rw [hnone, firstBroken_eq_none_iff]
    exact h
  · -- a log that ends early has another tip
    refine absurd ((linked_append.mp h).1.eq_of_tip_eq h htip (hself.mono ?_ fun _ hy => hy)) ?_
    · rw [inputs_append]
      exact fun x hx => List.mem_append_left _ hx
    · simp
  · rw [hat]
    have hentry : e ∈ common ++ e :: after := List.mem_append_right _ List.mem_cons_self
    refine firstBroken_of_differs h hdiffers (fun _ hdigest => ?_) fun x hx y hy heq => ?_
    · exact (hcopied e hentry).resolve_right fun hnew => hnew _ hdigest
    · rcases List.mem_append.mp hy with hy | hy
      · exact hself x hx y hy heq
      · rw [List.mem_singleton] at hy
        subst hy
        have hnext : (tip genesis common, e.1) ∈ inputs genesis (common ++ e :: after) := by
          rw [inputs_append]
          exact List.mem_append_right _ List.mem_cons_self
        refine hinputs x hx _ (List.mem_append_right _ hnext) ?_ heq
        rw [List.map_append]
        exact (tip_mem common).imp_right (List.mem_append_left _)

end Determined

end Ggid.Lib
