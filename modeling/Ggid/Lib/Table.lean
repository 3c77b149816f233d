import Mathlib.Data.List.Nodup
import Mathlib.Data.List.Perm.Basic

/-!
# Keyed tables

A relational table, as far as a program that talks to it through single SQL
statements can see: a finite list of rows in which no two rows share a primary
key. The key discipline is a field of the structure, so every statement below
has to keep it and no later proof has to assume it.

The statements are the ones a row store offers:

* `find?`   — `SELECT … WHERE key = k` (at most one row);
* `filter`  — `SELECT … WHERE p`;
* `insert?` — `INSERT`, refused when the key is taken;
* `update`  — `UPDATE … SET … WHERE p`, for assignments that leave the key alone;
* `upsert`  — `INSERT … ON CONFLICT (key) DO UPDATE SET …`;
* `put`     — the row under its key, in place of one that was there;
* `delete`  — `DELETE … WHERE p`.

Each comes with one membership lemma; proofs about programs use these and never
look at the row list.
-/

namespace Ggid.Lib

/-- Rows of type `α` with pairwise distinct primary keys. -/
structure Table {α κ : Type*} (key : α → κ) where
  rows  : List α
  nodup : (rows.map key).Nodup

namespace Table

variable {α κ : Type*} {key : α → κ}

instance : Membership α (Table key) := ⟨fun t a => a ∈ t.rows⟩

theorem mem_def {t : Table key} {a : α} : a ∈ t ↔ a ∈ t.rows := Iff.rfl

@[ext] theorem ext {t t' : Table key} (h : t.rows = t'.rows) : t = t' := by
  cases t
  cases t'
  simp only at h
  subst h
  rfl

/-- The table with no rows. -/
def empty : Table key := ⟨[], by simp⟩

@[simp] theorem not_mem_empty (a : α) : a ∉ (empty : Table key) := by
  simp [mem_def, empty]

/-- The primary key determines the row. -/
theorem eq_of_key {t : Table key} {a b : α} (ha : a ∈ t) (hb : b ∈ t)
    (h : key a = key b) : a = b :=
  List.inj_on_of_nodup_map t.nodup ha hb h

/-! ## Lookup -/

section Lookup

variable [DecidableEq κ]

/-- The row stored under a key. -/
def find? (t : Table key) (k : κ) : Option α :=
  t.rows.find? fun a => key a = k

theorem find?_eq_some_iff {t : Table key} {k : κ} {a : α} :
    t.find? k = some a ↔ a ∈ t ∧ key a = k := by
  constructor
  · intro h
    exact ⟨List.mem_of_find?_eq_some h, by simpa using List.find?_some h⟩
  · rintro ⟨ha, rfl⟩
    obtain ⟨b, hb⟩ : ∃ b, t.find? (key a) = some b := by
      rw [← Option.isSome_iff_exists, find?, List.find?_isSome]
      exact ⟨a, ha, by simp⟩
    have hbt : b ∈ t := List.mem_of_find?_eq_some hb
    have hkey : key b = key a := by simpa using List.find?_some hb
    rw [hb, eq_of_key hbt ha hkey]

theorem find?_eq_none_iff {t : Table key} {k : κ} :
    t.find? k = none ↔ ∀ a ∈ t, key a ≠ k := by
  simp [find?, mem_def]

end Lookup

/-! ## Statements -/

/-- `DELETE … WHERE p`. -/
def delete (t : Table key) (p : α → Bool) : Table key where
  rows := t.rows.filter fun a => !p a
  nodup := t.nodup.sublist (List.Sublist.map key List.filter_sublist)

@[simp] theorem mem_delete {t : Table key} {p : α → Bool} {a : α} :
    a ∈ t.delete p ↔ a ∈ t ∧ p a = false := by
  simp [mem_def, delete]

/-- The sub-table `SELECT … WHERE p` returns. -/
def filter (t : Table key) (p : α → Bool) : Table key where
  rows := t.rows.filter p
  nodup := t.nodup.sublist (List.Sublist.map key List.filter_sublist)

@[simp] theorem mem_filter {t : Table key} {p : α → Bool} {a : α} :
    a ∈ t.filter p ↔ a ∈ t ∧ p a = true := by
  simp [mem_def, filter]

/-- Filtering twice by weaker and weaker predicates is filtering once. -/
theorem filter_filter_of_imp {t : Table key} {p q : α → Bool}
    (h : ∀ a ∈ t, p a = true → q a = true) : (t.filter p).filter q = t.filter p := by
  apply ext
  apply List.filter_eq_self.mpr
  intro a ha
  obtain ⟨hat, hp⟩ := List.mem_filter.mp ha
  exact h a hat hp

/-- `UPDATE … SET f WHERE p`. -/
def update (t : Table key) (p : α → Bool) (f : α → α) (hf : ∀ a, key (f a) = key a) :
    Table key where
  rows := t.rows.map fun a => if p a then f a else a
  nodup := by
    have hkeys : (t.rows.map fun a => if p a then f a else a).map key = t.rows.map key := by
      rw [List.map_map]
      apply List.map_congr_left
      intro a _
      simp only [Function.comp_apply]
      split <;> simp [hf]
    rw [hkeys]
    exact t.nodup

theorem mem_update {t : Table key} {p : α → Bool} {f : α → α}
    {hf : ∀ a, key (f a) = key a} {b : α} :
    b ∈ t.update p f hf ↔ (∃ a ∈ t, p a = true ∧ b = f a) ∨ (b ∈ t ∧ p b = false) := by
  simp only [mem_def, update, List.mem_map]
  constructor
  · rintro ⟨a, ha, rfl⟩
    by_cases hp : p a = true
    · exact Or.inl ⟨a, ha, hp, by rw [if_pos hp]⟩
    · rw [if_neg hp]
      exact Or.inr ⟨ha, by simpa using hp⟩
  · rintro (⟨a, ha, hp, rfl⟩ | ⟨hb, hp⟩)
    · exact ⟨a, ha, by rw [if_pos hp]⟩
    · exact ⟨b, hb, by rw [hp]; simp⟩

theorem map_update_eq_self {p : α → Bool} {f : α → α} {l : List α} (h : ∀ b ∈ l, p b = false) :
    (l.map fun b => if p b then f b else b) = l :=
  calc (l.map fun b => if p b then f b else b) = l.map id :=
        List.map_congr_left fun b hb => by rw [h b hb]; rfl
    _ = l := List.map_id l

/-- An update that matches nothing. -/
theorem update_eq_self {t : Table key} {p : α → Bool} {f : α → α} {hf : ∀ a, key (f a) = key a}
    (h : ∀ a ∈ t, p a = false) : t.update p f hf = t :=
  ext (map_update_eq_self h)

theorem mem_of_split {t : Table key} {a : α} {l₁ l₂ : List α} (hsplit : t.rows = l₁ ++ a :: l₂) :
    a ∈ t := by
  rw [mem_def, hsplit]
  exact List.mem_append_right l₁ List.mem_cons_self

/-- The rows around a row have other keys. -/
theorem key_ne_of_split {t : Table key} {a : α} {l₁ l₂ : List α} (hsplit : t.rows = l₁ ++ a :: l₂) :
    ∀ b ∈ l₁ ++ l₂, key b ≠ key a := by
  intro b hb hkey
  have hperm : (t.rows.map key).Perm ((a :: (l₁ ++ l₂)).map key) := by
    rw [hsplit]
    exact List.perm_middle.map key
  have hnodup := hperm.nodup_iff.mp t.nodup
  rw [List.map_cons, List.nodup_cons] at hnodup
  exact hnodup.1 (hkey ▸ List.mem_map_of_mem hb)

/-- An update of one row leaves the others where they are. -/
theorem update_rows {t : Table key} {p : α → Bool} {f : α → α} (hf : ∀ a, key (f a) = key a) {a : α}
    {l₁ l₂ : List α} (hsplit : t.rows = l₁ ++ a :: l₂) (hhit : p a = true)
    (honly : ∀ b, p b = true → key b = key a) : (t.update p f hf).rows = l₁ ++ f a :: l₂ := by
  have hothers : ∀ b ∈ l₁ ++ l₂, p b = false := by
    intro b hb
    by_contra hmatch
    exact key_ne_of_split hsplit b hb (honly b (by simpa using hmatch))
  show (t.rows.map fun b => if p b then f b else b) = l₁ ++ f a :: l₂
  rw [hsplit, List.map_append, List.map_cons, if_pos hhit,
    map_update_eq_self fun b hb => hothers b (List.mem_append_left l₂ hb),
    map_update_eq_self fun b hb => hothers b (List.mem_append_right l₁ hb)]

/-- Of rows that at most one row matches, one matches if any does. -/
theorem countP_eq_one_iff {t : Table key} {p : α → Bool}
    (h : ∀ a ∈ t, ∀ b ∈ t, p a = true → p b = true → a = b) :
    t.rows.countP p = 1 ↔ ∃ a ∈ t, p a = true := by
  have hnodup : (t.rows.filter p).Nodup := (List.Nodup.of_map key t.nodup).filter p
  have heq : ∀ a ∈ t.rows.filter p, ∀ b ∈ t.rows.filter p, a = b := by
    intro a ha b hb
    obtain ⟨ha, hpa⟩ := List.mem_filter.mp ha
    obtain ⟨hb, hpb⟩ := List.mem_filter.mp hb
    exact h a ha b hb hpa hpb
  rw [List.countP_eq_length_filter]
  constructor
  · intro hone
    obtain ⟨a, ha⟩ := List.length_eq_one_iff.mp hone
    obtain ⟨hat, hpa⟩ := List.mem_filter.mp (ha ▸ List.mem_singleton_self a)
    exact ⟨a, hat, hpa⟩
  · rintro ⟨a, ha, hpa⟩
    have hmem : a ∈ t.rows.filter p := List.mem_filter.mpr ⟨ha, hpa⟩
    cases hl : t.rows.filter p with
    | nil =>
      rw [hl] at hmem
      exact absurd hmem List.not_mem_nil
    | cons b l =>
      cases l with
      | nil => rfl
      | cons c l =>
        rw [hl] at hnodup heq
        have hbc : b = c := heq b (by simp) c (by simp)
        exact absurd (hbc ▸ List.mem_cons_self) (List.nodup_cons.mp hnodup).1

variable [DecidableEq κ]

/-- A row takes the place of the one with its key. -/
def put (t : Table key) (a : α) : Table key where
  rows := t.rows.filter (fun b => key b ≠ key a) ++ [a]
  nodup := by
    rw [List.map_append, List.nodup_append]
    refine ⟨t.nodup.sublist (List.Sublist.map key List.filter_sublist), by simp, ?_⟩
    intro k hk k' hk' heq
    obtain ⟨b, hb, rfl⟩ := List.mem_map.mp hk
    rw [List.map_singleton, List.mem_singleton] at hk'
    have hne := (List.mem_filter.mp hb).2
    rw [decide_eq_true_eq] at hne
    exact hne (heq.trans hk')

theorem mem_put {t : Table key} {a b : α} : b ∈ t.put a ↔ b = a ∨ b ∈ t ∧ key b ≠ key a := by
  simp only [mem_def, put, List.mem_append, List.mem_filter, decide_eq_true_eq,
    List.mem_singleton]
  exact or_comm

theorem find?_put (t : Table key) (a : α) (k : κ) :
    (t.put a).find? k = if k = key a then some a else t.find? k := by
  split_ifs with hk
  · exact find?_eq_some_iff.mpr ⟨mem_put.mpr (.inl rfl), hk.symm⟩
  · cases hfind : t.find? k with
    | none =>
      rw [find?_eq_none_iff] at hfind ⊢
      intro b hb
      rcases mem_put.mp hb with rfl | ⟨hb, -⟩
      · exact Ne.symm hk
      · exact hfind b hb
    | some b =>
      obtain ⟨hb, hkey⟩ := find?_eq_some_iff.mp hfind
      exact find?_eq_some_iff.mpr ⟨mem_put.mpr (.inr ⟨hb, fun heq => hk (hkey.symm.trans heq)⟩), hkey⟩

theorem find?_delete_eq_some {t : Table key} {p : α → Bool} {k : κ} {a : α}
    (h : (t.delete p).find? k = some a) : t.find? k = some a ∧ p a = false := by
  obtain ⟨ha, hk⟩ := find?_eq_some_iff.mp h
  obtain ⟨ha, hp⟩ := mem_delete.mp ha
  exact ⟨find?_eq_some_iff.mpr ⟨ha, hk⟩, hp⟩

/-- What is found after an update is what was found before, updated if it matches. -/
theorem find?_update {t : Table key} {p : α → Bool} {f : α → α} (hf : ∀ a, key (f a) = key a)
    (k : κ) : (t.update p f hf).find? k = (t.find? k).map fun a => if p a then f a else a := by
  unfold find? update
  rw [List.find?_map]
  congr 2
  funext a
  simp only [Function.comp_apply]
  split_ifs
  · rw [hf a]
  · rfl

/-- The row found after an update was there before, and was updated if it matches. -/
theorem find?_update_eq_some {t : Table key} {p : α → Bool} {f : α → α}
    (hf : ∀ a, key (f a) = key a) {k : κ} {b : α} (h : (t.update p f hf).find? k = some b) :
    ∃ a, t.find? k = some a ∧ (p a = true ∧ b = f a ∨ p a = false ∧ b = a) := by
  obtain ⟨hb, hk⟩ := find?_eq_some_iff.mp h
  rcases mem_update.mp hb with ⟨a, ha, hp, rfl⟩ | ⟨hb, hp⟩
  · exact ⟨a, find?_eq_some_iff.mpr ⟨ha, (hf a).symm.trans hk⟩, Or.inl ⟨hp, rfl⟩⟩
  · exact ⟨b, find?_eq_some_iff.mpr ⟨hb, hk⟩, Or.inr ⟨hp, rfl⟩⟩

theorem find?_filter (t : Table key) (p : α → Bool) (k : κ) :
    (t.filter p).find? k = (t.find? k).filter p := by
  cases hf : (t.filter p).find? k with
  | none =>
    rw [find?_eq_none_iff] at hf
    rw [eq_comm, Option.filter_eq_none_iff]
    intro a ha
    obtain ⟨hat, hk⟩ := find?_eq_some_iff.mp ha
    exact fun hp => hf a (mem_filter.mpr ⟨hat, hp⟩) hk
  | some a =>
    obtain ⟨hat, hk⟩ := find?_eq_some_iff.mp hf
    obtain ⟨hat, hp⟩ := mem_filter.mp hat
    rw [eq_comm, Option.filter_eq_some_iff]
    exact ⟨find?_eq_some_iff.mpr ⟨hat, hk⟩, hp⟩

/-- `INSERT`: refused when the primary key is already taken. -/
def insert? (t : Table key) (a : α) : Option (Table key) :=
  if h : key a ∈ t.rows.map key then none
  else some ⟨t.rows ++ [a], by
    rw [List.map_append, List.nodup_append]
    refine ⟨t.nodup, by simp, ?_⟩
    intro x hx y hy hxy
    simp only [List.map_cons, List.map_nil, List.mem_singleton] at hy
    exact h (hy ▸ hxy ▸ hx)⟩

theorem insert?_eq_some {t t' : Table key} {a : α} (h : t.insert? a = some t') :
    (∀ b ∈ t, key b ≠ key a) ∧ ∀ b, b ∈ t' ↔ b ∈ t ∨ b = a := by
  unfold insert? at h
  split at h
  · exact absurd h (by simp)
  · rename_i hfresh
    rw [Option.some.injEq] at h
    subst h
    refine ⟨fun b hb hk => hfresh (hk ▸ List.mem_map_of_mem hb), fun b => ?_⟩
    simp [mem_def]

theorem insert?_rows {t t' : Table key} {a : α} (h : t.insert? a = some t') :
    t'.rows = t.rows ++ [a] := by
  unfold insert? at h
  split at h
  · exact absurd h (by simp)
  · rw [← Option.some.inj h]

theorem insert?_of_fresh {t : Table key} {a : α} (h : ∀ b ∈ t, key b ≠ key a) :
    ∃ t', t.insert? a = some t' := by
  unfold insert?
  split
  · rename_i hk
    obtain ⟨b, hb, hba⟩ := List.mem_map.mp hk
    exact absurd hba (h b hb)
  · exact ⟨_, rfl⟩

/-- `INSERT … ON CONFLICT (key) DO UPDATE SET merge`. -/
def upsert (t : Table key) (a : α) (merge : α → α) (hm : ∀ b, key (merge b) = key b) :
    Table key :=
  match t.insert? a with
  | some t' => t'
  | none => t.update (fun b => key b = key a) merge hm

theorem upsert_rows {t : Table key} {a : α} {merge : α → α} {hm : ∀ b, key (merge b) = key b}
    (h : ∀ b ∈ t, key b ≠ key a) : (t.upsert a merge hm).rows = t.rows ++ [a] := by
  obtain ⟨t', ht'⟩ := insert?_of_fresh h
  unfold upsert
  rw [ht']
  exact insert?_rows ht'

theorem mem_upsert {t : Table key} {a : α} {merge : α → α}
    {hm : ∀ b, key (merge b) = key b} {b : α} :
    b ∈ t.upsert a merge hm ↔
      (b ∈ t ∧ key b ≠ key a) ∨
      (∃ c ∈ t, key c = key a ∧ b = merge c) ∨
      ((∀ c ∈ t, key c ≠ key a) ∧ b = a) := by
  unfold upsert
  cases h : t.insert? a with
  | some t' =>
    obtain ⟨hfresh, hmem⟩ := insert?_eq_some h
    simp only
    rw [hmem]
    constructor
    · rintro (hb | rfl)
      · exact Or.inl ⟨hb, hfresh b hb⟩
      · exact Or.inr (Or.inr ⟨hfresh, rfl⟩)
    · rintro (⟨hb, -⟩ | ⟨c, hc, hk, -⟩ | ⟨-, rfl⟩)
      · exact Or.inl hb
      · exact absurd hk (hfresh c hc)
      · exact Or.inr rfl
  | none =>
    -- the key is taken, so the conflict clause runs
    have htaken : ¬ ∀ c ∈ t, key c ≠ key a := by
      intro hfresh
      obtain ⟨t', ht'⟩ := insert?_of_fresh hfresh
      rw [h] at ht'
      exact absurd ht' (by simp)
    simp only
    rw [mem_update]
    simp only [decide_eq_true_eq, decide_eq_false_iff_not]
    constructor
    · rintro (⟨c, hc, hk, rfl⟩ | ⟨hb, hk⟩)
      · exact Or.inr (Or.inl ⟨c, hc, hk, rfl⟩)
      · exact Or.inl ⟨hb, hk⟩
    · rintro (⟨hb, hk⟩ | ⟨c, hc, hk, rfl⟩ | ⟨hfresh, -⟩)
      · exact Or.inr ⟨hb, hk⟩
      · exact Or.inl ⟨c, hc, hk, rfl⟩
      · exact absurd hfresh htaken

theorem find?_upsert {t : Table key} {a : α} {merge : α → α} {hm : ∀ b, key (merge b) = key b}
    (k : κ) : (t.upsert a merge hm).find? k =
      if k = key a then some (((t.find? k).map merge).getD a) else t.find? k := by
  apply Option.ext
  intro b
  rw [find?_eq_some_iff, mem_upsert]
  split_ifs with hk
  · subst hk
    cases hfind : t.find? (key a) with
    | none =>
      have hfresh := find?_eq_none_iff.mp hfind
      rw [Option.map_none, Option.getD_none, Option.some.injEq]
      constructor
      · rintro ⟨⟨-, hne⟩ | ⟨c, hc, hca, -⟩ | ⟨-, rfl⟩, hb⟩
        · exact absurd hb hne
        · exact absurd hca (hfresh c hc)
        · rfl
      · rintro rfl
        exact ⟨.inr (.inr ⟨hfresh, rfl⟩), rfl⟩
    | some c =>
      obtain ⟨hc, hca⟩ := find?_eq_some_iff.mp hfind
      rw [Option.map_some, Option.getD_some, Option.some.injEq]
      constructor
      · rintro ⟨⟨-, hne⟩ | ⟨d, hd, hda, rfl⟩ | ⟨hfresh, -⟩, hb⟩
        · exact absurd hb hne
        · rw [eq_of_key hd hc (hda.trans hca.symm)]
        · exact absurd hca (hfresh c hc)
      · rintro rfl
        exact ⟨.inr (.inl ⟨c, hc, hca, rfl⟩), (hm c).trans hca⟩
  · rw [find?_eq_some_iff]
    constructor
    · rintro ⟨⟨hb, -⟩ | ⟨c, -, hca, rfl⟩ | ⟨-, rfl⟩, hbk⟩
      · exact ⟨hb, hbk⟩
      · exact absurd (hbk.symm.trans ((hm c).trans hca)) hk
      · exact absurd hbk.symm hk
    · rintro ⟨hb, hbk⟩
      exact ⟨.inl ⟨hb, fun hba => hk (hbk.symm.trans hba)⟩, hbk⟩

end Table

end Ggid.Lib
