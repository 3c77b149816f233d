import Mathlib.Data.List.Nodup

/-!
# Overwrites of versions

A value that several parties replace, one version by the next. A `History` is the present
version and what was overwritten by whom, the latest first. Each party names a version when
it sets out; it has seen that one and those it wrote itself.

In a `Linear` history no version is overwritten twice and nobody overwrites what he has not
seen. It stays linear when the next version is fresh and whoever writes it has seen the
present one (`Linear.write`); and then no two parties that named the same version have both
written (`Linear.eq_of_named`).
-/

namespace Ggid.Lib

structure Overwrite (ι κ : Type*) where
  writer : ι
  old    : κ
  new    : κ

structure History (ι κ : Type*) where
  current : κ
  log     : List (Overwrite ι κ)

namespace History

variable {ι κ : Type*} (named : ι → κ)

/-- The party replaces the present version. -/
def write (h : History ι κ) (i : ι) (version : κ) : History ι κ where
  current := version
  log := ⟨i, h.current, version⟩ :: h.log

/-- No version was this one. -/
def Fresh (h : History ι κ) (version : κ) : Prop :=
  version ≠ h.current ∧ ∀ w ∈ h.log, version ≠ w.old

instance [DecidableEq κ] (h : History ι κ) (version : κ) : Decidable (h.Fresh version) :=
  inferInstanceAs (Decidable (version ≠ h.current ∧ ∀ w ∈ h.log, version ≠ w.old))

/-- The party named the version or wrote it. -/
def HasSeen (log : List (Overwrite ι κ)) (i : ι) (version : κ) : Prop :=
  version = named i ∨ ∃ w ∈ log, w.writer = i ∧ w.new = version

/-- Everyone had seen what he overwrote. -/
def Seen : List (Overwrite ι κ) → Prop
  | [] => True
  | w :: log => HasSeen named log w.writer w.old ∧ Seen log

def Wrote (h : History ι κ) (i : ι) : Prop := ∃ w ∈ h.log, w.writer = i

structure Linear (h : History ι κ) : Prop where
  retired : ∀ w ∈ h.log, w.old ≠ h.current
  once    : (h.log.map Overwrite.old).Nodup
  seen    : Seen named h.log

variable {named} {h : History ι κ} {i j : ι} {version : κ}

theorem linear_start (version : κ) : Linear named (⟨version, []⟩ : History ι κ) where
  retired := fun _ hw => absurd hw List.not_mem_nil
  once := List.nodup_nil
  seen := trivial

/-- **A write keeps the history linear**, if its writer has seen the present version. -/
theorem Linear.write (hlin : Linear named h) (hfresh : h.Fresh version)
    (hseen : HasSeen named h.log i h.current) : Linear named (h.write i version) where
  retired := by
    intro w hw
    rcases List.mem_cons.mp hw with rfl | hw
    · exact hfresh.1.symm
    · exact (hfresh.2 w hw).symm
  once := by
    show (h.current :: h.log.map Overwrite.old).Nodup
    refine List.nodup_cons.mpr ⟨fun hmem => ?_, hlin.once⟩
    obtain ⟨w, hw, hold⟩ := List.mem_map.mp hmem
    exact hlin.retired w hw hold
  seen := ⟨hseen, hlin.seen⟩

/-- The first thing anyone overwrites is the version he named. -/
theorem exists_old_named {log : List (Overwrite ι κ)} (hseen : Seen named log)
    (hwrote : ∃ w ∈ log, w.writer = i) : ∃ w ∈ log, w.writer = i ∧ w.old = named i := by
  induction log with
  | nil =>
    obtain ⟨w, hw, -⟩ := hwrote
    exact absurd hw List.not_mem_nil
  | cons w log ih =>
    have hlift : (∃ w' ∈ log, w'.writer = i) →
        ∃ w' ∈ w :: log, w'.writer = i ∧ w'.old = named i := by
      intro holder
      obtain ⟨w', hw', hfirst⟩ := ih hseen.2 holder
      exact ⟨w', List.mem_cons_of_mem w hw', hfirst⟩
    obtain ⟨w', hw', hi⟩ := hwrote
    rcases List.mem_cons.mp hw' with rfl | hw'
    · rcases hseen.1 with hnamed | ⟨w'', hw'', hwriter, -⟩
      · exact ⟨w', List.mem_cons_self, hi, hi ▸ hnamed⟩
      · exact hlift ⟨w'', hw'', hwriter.trans hi⟩
    · exact hlift ⟨w', hw', hi⟩

/-- **Of those that named one version, one has written.** -/
theorem Linear.eq_of_named (hlin : Linear named h) (hi : h.Wrote i) (hj : h.Wrote j)
    (hsame : named i = named j) : i = j := by
  obtain ⟨w, hw, hwi, hold⟩ := exists_old_named hlin.seen hi
  obtain ⟨w', hw', hwj, hold'⟩ := exists_old_named hlin.seen hj
  have hsameOld : w.old = w'.old := by rw [hold, hold', hsame]
  have hone : w = w' := List.inj_on_of_nodup_map hlin.once hw hw' hsameOld
  rw [← hwi, ← hwj, hone]

end History

end Ggid.Lib
