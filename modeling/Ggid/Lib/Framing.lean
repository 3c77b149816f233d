import Mathlib.Data.List.Forall2
import Mathlib.Order.Monotone.Basic

/-!
# Length-prefixed fields

Fields of any length, written one after the other, each behind a header that gives its
length. The fields can be read back as long as it is clear where a header ends: two
texts are equal only if their fields are (`frames_inj`), provided the headers of
corresponding fields have the same width. Headers of a fixed width always do; a number
that is only padded to a minimal width has a header of its own width beyond it.

Without a header, a field ends at the first separator, if it has none itself
(`append_separator_inj`).
-/

namespace Ggid.Lib

variable {α : Type*} (header : Nat → List α)

/-- A field behind its header. -/
def frame (field : List α) : List α := header field.length ++ field

def frames (fields : List (List α)) : List α := fields.flatMap (frame header)

/-- The headers of corresponding fields have the same width. -/
def SameWidths (fields fields' : List (List α)) : Prop :=
  List.Forall₂ (fun f f' => (header f.length).length = (header f'.length).length) fields fields'

variable {header}

@[simp] theorem frames_cons (f : List α) (fields : List (List α)) :
    frames header (f :: fields) = header f.length ++ (f ++ frames header fields) := by
  simp [frames, frame]

/-- A field can be taken off the front. -/
theorem frame_append_inj (hheader : Function.Injective header) {f f' rest rest' : List α}
    (hwidth : (header f.length).length = (header f'.length).length)
    (h : header f.length ++ (f ++ rest) = header f'.length ++ (f' ++ rest')) :
    f = f' ∧ rest = rest' := by
  obtain ⟨hlength, hrest⟩ := List.append_inj h hwidth
  exact List.append_inj hrest (hheader hlength)

/-- A field can be taken off if the rest is known. -/
theorem frame_append_cancel (hmono : Monotone fun n => (header n).length) {f f' rest : List α}
    (h : header f.length ++ (f ++ rest) = header f'.length ++ (f' ++ rest)) : f = f' := by
  rw [← List.append_assoc, ← List.append_assoc] at h
  have hframe := List.append_cancel_right h
  have hlengths := congrArg List.length hframe
  rw [List.length_append, List.length_append] at hlengths
  have hlength : f.length = f'.length := by
    rcases le_total f.length f'.length with hle | hle
    · have hwidth : (header f.length).length ≤ (header f'.length).length := hmono hle
      omega
    · have hwidth : (header f'.length).length ≤ (header f.length).length := hmono hle
      omega
  rw [hlength] at hframe
  exact List.append_cancel_left hframe

/-- **Fields are read back.** -/
theorem frames_inj (hheader : Function.Injective header) {fields fields' : List (List α)}
    (hwidths : SameWidths header fields fields')
    (h : frames header fields = frames header fields') : fields = fields' := by
  induction hwidths with
  | nil => rfl
  | cons hwidth _ ih =>
    rw [frames_cons, frames_cons] at h
    obtain ⟨hfield, hrest⟩ := frame_append_inj hheader hwidth h
    rw [hfield, ih hrest]

theorem sameWidths_refl (fields : List (List α)) : SameWidths header fields fields := by
  induction fields with
  | nil => exact .nil
  | cons f fields ih => exact .cons rfl ih

/-- Fields below a length up to which the width is fixed. -/
theorem sameWidths_of_fixed {bound width : Nat}
    (hfixed : ∀ n < bound, (header n).length = width) {fields fields' : List (List α)}
    (hlength : fields.length = fields'.length) (h : ∀ f ∈ fields, f.length < bound)
    (h' : ∀ f ∈ fields', f.length < bound) : SameWidths header fields fields' := by
  rw [SameWidths, List.forall₂_iff_zip]
  refine ⟨hlength, fun {f f'} hmem => ?_⟩
  rw [hfixed _ (h f (List.of_mem_zip hmem).1), hfixed _ (h' f' (List.of_mem_zip hmem).2)]

/-- What comes before a separator, if as many separators come before it. -/
theorem append_separator_inj_of_count [DecidableEq α] {d : α} {xs xs' ys ys' : List α}
    (h : xs.count d = xs'.count d) (heq : xs ++ d :: ys = xs' ++ d :: ys') :
    xs = xs' ∧ ys = ys' := by
  induction xs generalizing xs' with
  | nil =>
    cases xs' with
    | nil => exact ⟨rfl, (List.cons.inj heq).2⟩
    | cons x' xs' =>
      rw [← (List.cons.inj heq).1, List.count_cons_self, List.count_nil] at h
      exact absurd h.symm (Nat.succ_ne_zero _)
  | cons x xs ih =>
    cases xs' with
    | nil =>
      rw [(List.cons.inj heq).1, List.count_nil] at h
      rw [List.count_cons_self] at h
      exact absurd h (Nat.succ_ne_zero _)
    | cons x' xs' =>
      obtain ⟨rfl, hrest⟩ := List.cons.inj heq
      rw [List.count_cons, List.count_cons, Nat.add_right_cancel_iff] at h
      obtain ⟨rfl, rfl⟩ := ih h hrest
      exact ⟨rfl, rfl⟩

/-- What comes before the first separator. -/
theorem append_separator_inj {d : α} {xs xs' ys ys' : List α} (h : d ∉ xs) (h' : d ∉ xs')
    (heq : xs ++ d :: ys = xs' ++ d :: ys') : xs = xs' ∧ ys = ys' := by
  classical
  refine append_separator_inj_of_count ?_ heq
  rw [List.count_eq_zero.mpr h, List.count_eq_zero.mpr h']

/-- What comes behind the last separator. -/
theorem append_last_separator_inj {d : α} {xs xs' ys ys' : List α} (h : d ∉ ys) (h' : d ∉ ys')
    (heq : xs ++ d :: ys = xs' ++ d :: ys') : xs = xs' ∧ ys = ys' := by
  have hreverse := congrArg List.reverse heq
  simp only [List.reverse_append, List.reverse_cons, List.append_assoc, List.singleton_append]
    at hreverse
  obtain ⟨hys, hxs⟩ := append_separator_inj (mt List.mem_reverse.mp h) (mt List.mem_reverse.mp h')
    hreverse
  exact ⟨List.reverse_inj.mp hxs, List.reverse_inj.mp hys⟩

end Ggid.Lib
