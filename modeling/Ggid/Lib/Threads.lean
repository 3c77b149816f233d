import Mathlib.Logic.Function.Basic

/-!
# Threads over a shared store

Any number of threads, each with what is left of its program, and one store they
all read and write. A step lets one thread run its next atomic action; which
thread goes next is up to whoever schedules them, so a list of thread numbers is
an interleaving.

Two kinds of assertion survive a step of another thread: one that holds of every
task (`forall_put`), and one that some task answers for (`exists_put`).
-/

namespace Ggid.Lib

/-- The shared store and, by thread number, what each thread has left to do. -/
structure Threads (σ τ : Type*) where
  store : σ
  task  : Nat → τ

namespace Threads

variable {σ τ : Type*}

/-- Thread `t` has acted: the store and its own task are new, the other tasks are
as before. -/
def put (p : Threads σ τ) (t : Nat) (new : σ × τ) : Threads σ τ where
  store := new.1
  task  := Function.update p.task t new.2

@[simp] theorem put_store (p : Threads σ τ) (t : Nat) (new : σ × τ) :
    (p.put t new).store = new.1 := rfl

@[simp] theorem put_task_self (p : Threads σ τ) (t : Nat) (new : σ × τ) :
    (p.put t new).task t = new.2 := by
  show Function.update p.task t new.2 t = new.2
  exact Function.update_self t new.2 p.task

theorem put_task_of_ne (p : Threads σ τ) {t u : Nat} (new : σ × τ) (h : u ≠ t) :
    (p.put t new).task u = p.task u := by
  show Function.update p.task t new.2 u = p.task u
  exact Function.update_of_ne h new.2 p.task

/-- A property of single tasks that the new task has and the others keep. -/
theorem forall_put {p : Threads σ τ} {t : Nat} {new : σ × τ} {A B : τ → Prop}
    (hold : ∀ u, A (p.task u)) (hkeep : ∀ x, A x → B x) (hnew : B new.2) :
    ∀ u, B ((p.put t new).task u) := by
  intro u
  by_cases hu : u = t
  · rw [hu, put_task_self]
    exact hnew
  · rw [put_task_of_ne p new hu]
    exact hkeep _ (hold u)

/-- A duty some thread has is still some thread's duty, if the acting thread did
not drop it. -/
theorem exists_put {p : Threads σ τ} {t : Nat} {new : σ × τ} {D : τ → Prop}
    (hkeep : D (p.task t) → D new.2) (h : ∃ u, D (p.task u)) :
    ∃ u, D ((p.put t new).task u) := by
  obtain ⟨u, hu⟩ := h
  by_cases hut : u = t
  · refine ⟨t, ?_⟩
    rw [put_task_self]
    exact hkeep (hut ▸ hu)
  · refine ⟨u, ?_⟩
    rw [put_task_of_ne p new hut]
    exact hu

/-- A duty the acting thread took on. -/
theorem exists_put_self {p : Threads σ τ} {t : Nat} {new : σ × τ} {D : τ → Prop}
    (h : D new.2) : ∃ u, D ((p.put t new).task u) := by
  refine ⟨t, ?_⟩
  rw [put_task_self]
  exact h

end Threads

end Ggid.Lib
