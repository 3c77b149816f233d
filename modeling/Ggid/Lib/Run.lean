import Mathlib.Data.List.Basic

/-!
# Runs of a transition function

A program that reacts to events is a function `step : σ → ε → σ`. A *run* feeds
it a list of events; `states` lists every state the run passes through, the
first one included. Safety properties are statements about all of `states`.

`StepsOk step Ok s es` says that every step of the run is taken in a state
where `Ok` holds of it: the form in which a side condition on single steps is
imposed on a whole run. `invariant_states` is the induction every safety proof
uses: an invariant that holds at the start and is kept by each admissible step
holds in every state of the run. `forall_states_iff_stepsOk` and
`forall_states_iff_of_step` add the converse, for a side condition whose first
violation shows.

`outputs` is what a program that answers its events is seen to do. Two programs
give the same outputs if a relation between their states is kept by every
admissible step and makes the answers equal (`outputs_eq_of_simulation`).
-/

namespace Ggid.Lib

variable {σ ε : Type*} (step : σ → ε → σ)

/-- The state after a run. -/
def run (s : σ) (es : List ε) : σ := es.foldl step s

/-- Every state a run passes through, in order, the first one included. -/
def states : σ → List ε → List σ
  | s, [] => [s]
  | s, e :: es => s :: states (step s e) es

/-- Every step of the run is admissible in the state it is taken in. -/
def StepsOk (Ok : σ → ε → Prop) : σ → List ε → Prop
  | _, [] => True
  | s, e :: es => Ok s e ∧ StepsOk Ok (step s e) es

instance StepsOk.decidable (Ok : σ → ε → Prop) [∀ s e, Decidable (Ok s e)] :
    ∀ (s : σ) (es : List ε), Decidable (StepsOk step Ok s es)
  | _, [] => .isTrue trivial
  | s, e :: es =>
    have : Decidable (StepsOk step Ok (step s e) es) := StepsOk.decidable Ok (step s e) es
    inferInstanceAs (Decidable (Ok s e ∧ StepsOk step Ok (step s e) es))

variable {step}

theorem run_concat (s : σ) (es : List ε) (e : ε) :
    run step s (es ++ [e]) = step (run step s es) e := by
  unfold run
  rw [List.foldl_append]
  rfl

theorem run_append (s : σ) (es es' : List ε) :
    run step s (es ++ es') = run step (run step s es) es' := by
  unfold run
  exact List.foldl_append

/-- The first state of a run is one of its states. -/
theorem start_mem_states (s : σ) (es : List ε) : s ∈ states step s es := by
  cases es with
  | nil => exact List.mem_singleton_self s
  | cons e es => exact List.mem_cons_self

/-- The last state of a run is one of its states. -/
theorem run_mem_states (s : σ) (es : List ε) : run step s es ∈ states step s es := by
  induction es generalizing s with
  | nil => simp [run, states]
  | cons e es ih =>
    rw [states]
    exact List.mem_cons_of_mem _ (ih (step s e))

/-- So are the states of a part of it. -/
theorem states_append_left (s : σ) (es es' : List ε) :
    ∀ s' ∈ states step s es, s' ∈ states step s (es ++ es') := by
  induction es generalizing s with
  | nil =>
    intro s' hs'
    rw [states, List.mem_singleton] at hs'
    rw [hs']
    exact start_mem_states s es'
  | cons e es ih =>
    intro s' hs'
    rw [states, List.mem_cons] at hs'
    rw [List.cons_append, states, List.mem_cons]
    exact hs'.imp_right (ih (step s e) s')

/-- The steps of the second part of a run are admissible from where the first ends. -/
theorem StepsOk.of_append {Ok : σ → ε → Prop} {s : σ} {es es' : List ε}
    (h : StepsOk step Ok s (es ++ es')) : StepsOk step Ok (run step s es) es' := by
  induction es generalizing s with
  | nil => exact h
  | cons e es ih => exact ih h.2

/-- A side condition that only looks at the events. -/
theorem stepsOk_of_forall {Ok : ε → Prop} {s : σ} {es : List ε} (h : ∀ e ∈ es, Ok e) :
    StepsOk step (fun _ e => Ok e) s es := by
  induction es generalizing s with
  | nil => trivial
  | cons e es ih =>
    obtain ⟨hfirst, hrest⟩ := List.forall_mem_cons.mp h
    exact ⟨hfirst, ih hrest⟩

/-- A stronger side condition. -/
theorem stepsOk_mono {Ok Ok' : σ → ε → Prop} (himp : ∀ s e, Ok s e → Ok' s e) {s : σ}
    {es : List ε} (h : StepsOk step Ok s es) : StepsOk step Ok' s es := by
  induction es generalizing s with
  | nil => trivial
  | cons e es ih => exact ⟨himp s e h.1, ih h.2⟩

/-- Side conditions that agree on every step agree on every run. -/
theorem stepsOk_congr {Ok Ok' : σ → ε → Prop} (h : ∀ s e, Ok s e ↔ Ok' s e) {s : σ}
    {es : List ε} : StepsOk step Ok s es ↔ StepsOk step Ok' s es :=
  ⟨stepsOk_mono fun s e => (h s e).mp, stepsOk_mono fun s e => (h s e).mpr⟩

/-- It is enough that they agree in the states of the run. -/
theorem stepsOk_congr_states {Ok Ok' : σ → ε → Prop} {s : σ} {es : List ε}
    (h : ∀ s' ∈ states step s es, ∀ e, Ok s' e ↔ Ok' s' e) :
    StepsOk step Ok s es ↔ StepsOk step Ok' s es := by
  induction es generalizing s with
  | nil => exact Iff.rfl
  | cons e es ih =>
    refine and_congr (h s List.mem_cons_self e) (ih fun s' hs' => ?_)
    exact h s' (List.mem_cons_of_mem _ hs')

/-- The steps of the first part of an admissible run are admissible. -/
theorem StepsOk.left {Ok : σ → ε → Prop} {s : σ} {es es' : List ε}
    (h : StepsOk step Ok s (es ++ es')) : StepsOk step Ok s es := by
  induction es generalizing s with
  | nil => trivial
  | cons e es ih => exact ⟨h.1, ih h.2⟩

/-- Two side conditions of the steps of a run are one. -/
theorem StepsOk.and {Ok Ok' : σ → ε → Prop} {s : σ} {es : List ε} (h : StepsOk step Ok s es)
    (h' : StepsOk step Ok' s es) : StepsOk step (fun s e => Ok s e ∧ Ok' s e) s es := by
  induction es generalizing s with
  | nil => trivial
  | cons e es ih => exact ⟨⟨h.1, h'.1⟩, ih h.2 h'.2⟩

/-- A side condition that holds wherever the run is taken apart. -/
theorem stepsOk_of_split {Ok : σ → ε → Prop} {s : σ} {es : List ε}
    (h : ∀ before e after, es = before ++ e :: after → Ok (run step s before) e) :
    StepsOk step Ok s es := by
  induction es generalizing s with
  | nil => trivial
  | cons e es ih =>
    refine ⟨h [] e es rfl, ih fun before e' after hsplit => ?_⟩
    exact h (e :: before) e' after (by rw [hsplit]; rfl)

/-- **Invariant rule.** What holds at the start and is kept by every admissible
step holds in every state of an admissible run. -/
theorem invariant_states {Ok : σ → ε → Prop} {Inv : σ → Prop}
    (hstep : ∀ s e, Inv s → Ok s e → Inv (step s e)) {s : σ} {es : List ε}
    (hinit : Inv s) (hok : StepsOk step Ok s es) :
    ∀ s' ∈ states step s es, Inv s' := by
  induction es generalizing s with
  | nil =>
    intro s' hs'
    rw [states, List.mem_singleton] at hs'
    rw [hs']
    exact hinit
  | cons e es ih =>
    intro s' hs'
    rw [states, List.mem_cons] at hs'
    rcases hs' with rfl | hs'
    · exact hinit
    · exact ih (hstep s e hinit hok.1) hok.2 s' hs'

/-- What an invariant gives of every step, holds of every step of a run. -/
theorem stepsOk_of_invariant {Ok Good : σ → ε → Prop} {Inv : σ → Prop}
    (hstep : ∀ s e, Inv s → Ok s e → Inv (step s e)) (hgood : ∀ s e, Inv s → Ok s e → Good s e)
    {s : σ} {es : List ε} (hinit : Inv s) (hok : StepsOk step Ok s es) :
    StepsOk step Good s es := by
  induction es generalizing s with
  | nil => trivial
  | cons e es ih => exact ⟨hgood s e hinit hok.1, ih (hstep s e hinit hok.1) hok.2⟩

/-- Two side conditions that are the same in the states an invariant allows, and of
which one keeps it. -/
theorem stepsOk_iff_of_invariant {Ok Good : σ → ε → Prop} {Inv : σ → Prop}
    (hstep : ∀ s e, Inv s → Ok s e → Inv (step s e)) (hiff : ∀ s e, Inv s → (Ok s e ↔ Good s e))
    {s : σ} {es : List ε} (hinit : Inv s) :
    StepsOk step Ok s es ↔ StepsOk step Good s es := by
  constructor
  · exact stepsOk_of_invariant hstep (fun s e hs => (hiff s e hs).mp) hinit
  · exact stepsOk_of_invariant (fun s e hs hgood => hstep s e hs ((hiff s e hs).mpr hgood))
      (fun s e hs => (hiff s e hs).mpr) hinit

/-- The invariant rule for a step function that needs no side condition. -/
theorem invariant_states_of_step {Inv : σ → Prop} (hstep : ∀ s e, Inv s → Inv (step s e))
    {s : σ} {es : List ε} (hinit : Inv s) : ∀ s' ∈ states step s es, Inv s' := by
  have hok : StepsOk step (fun _ _ => True) s es := by
    clear hinit
    induction es generalizing s with
    | nil => trivial
    | cons e es ih => exact ⟨trivial, ih⟩
  exact invariant_states (fun s e hs _ => hstep s e hs) hinit hok

/-- **Characterisation rule.** `Good` is kept by the steps that are `Ok` and gives
`P`; a step that is not `Ok` breaks `P` at once. Then `P` holds throughout a run
exactly if every step of it is `Ok`. `Inv` is what holds in either case. -/
theorem forall_states_iff_stepsOk {Assume Ok : σ → ε → Prop} {Inv Good P : σ → Prop}
    (hinv : ∀ s e, Inv s → Assume s e → Inv (step s e))
    (hgood : ∀ s e, Inv s → Good s → Assume s e → Ok s e → Good (step s e))
    (hP : ∀ s, Inv s → Good s → P s)
    (hbreak : ∀ s e, Inv s → Good s → Assume s e → P (step s e) → Ok s e)
    {s : σ} {es : List ε} (hi : Inv s) (hg : Good s) (hassume : StepsOk step Assume s es) :
    (∀ s' ∈ states step s es, P s') ↔ StepsOk step Ok s es := by
  induction es generalizing s with
  | nil =>
    refine ⟨fun _ => trivial, fun _ s' hs' => ?_⟩
    rw [states, List.mem_singleton] at hs'
    rw [hs']
    exact hP s hi hg
  | cons e es ih =>
    have hi' := hinv s e hi hassume.1
    constructor
    · intro hall
      have hnext : ∀ s' ∈ states step (step s e) es, P s' :=
        fun s' hs' => hall s' (List.mem_cons_of_mem _ hs')
      have hok : Ok s e := hbreak s e hi hg hassume.1 (hnext _ (start_mem_states _ _))
      exact ⟨hok, (ih hi' (hgood s e hi hg hassume.1 hok) hassume.2).mp hnext⟩
    · rintro ⟨hok, hrest⟩ s' hs'
      rw [states, List.mem_cons] at hs'
      rcases hs' with rfl | hs'
      · exact hP s' hi hg
      · exact (ih hi' (hgood s e hi hg hassume.1 hok) hassume.2).mpr hrest s' hs'

/-- The characterisation rule for a side condition that says what one step needs. -/
theorem forall_states_iff_of_step {Ok : σ → ε → Prop} {P : σ → Prop}
    (hstep : ∀ s e, P s → (P (step s e) ↔ Ok s e)) {s : σ} {es : List ε} (hinit : P s) :
    (∀ s' ∈ states step s es, P s') ↔ StepsOk step Ok s es :=
  forall_states_iff_stepsOk (fun _ _ (_ : True) _ => trivial)
    (fun s e _ hs _ hok => (hstep s e hs).mpr hok) (fun _ _ hs => hs)
    (fun s e _ hs _ hs' => (hstep s e hs).mp hs') trivial hinit
    (stepsOk_of_forall fun _ _ => trivial)

/-! ## Answers -/

section Outputs

variable {τ ο : Type*}

/-- The answers of a run, in order. -/
def outputs (act : σ → ε → σ × ο) : σ → List ε → List ο
  | _, [] => []
  | s, e :: es => (act s e).2 :: outputs act (act s e).1 es

/-- **Simulation rule.** Related programs that answer every admissible event alike
and stay related give the same answers on every admissible run. -/
theorem outputs_eq_of_simulation {act₁ : σ → ε → σ × ο} {act₂ : τ → ε → τ × ο}
    {R : σ → τ → Prop} {Ok : τ → ε → Prop}
    (hstep : ∀ s t e, R s t → Ok t e →
      (act₁ s e).2 = (act₂ t e).2 ∧ R (act₁ s e).1 (act₂ t e).1)
    {s : σ} {t : τ} {es : List ε} (hinit : R s t)
    (hok : StepsOk (fun t e => (act₂ t e).1) Ok t es) :
    outputs act₁ s es = outputs act₂ t es := by
  induction es generalizing s t with
  | nil => rfl
  | cons e es ih =>
    obtain ⟨hsame, hrel⟩ := hstep s t e hinit hok.1
    rw [outputs, outputs, hsame, ih hrel hok.2]

/-- Two programs side by side. -/
def joint (act₁ : σ → ε → σ × ο) (act₂ : τ → ε → τ × ο) (p : σ × τ) (e : ε) : σ × τ :=
  ((act₁ p.1 e).1, (act₂ p.2 e).1)

/-- **Simulation rule, side by side.** What is admissible may depend on both states. -/
theorem outputs_eq_of_joint {act₁ : σ → ε → σ × ο} {act₂ : τ → ε → τ × ο}
    {R : σ → τ → Prop} {Ok : σ × τ → ε → Prop}
    (hstep : ∀ s t e, R s t → Ok (s, t) e →
      (act₁ s e).2 = (act₂ t e).2 ∧ R (act₁ s e).1 (act₂ t e).1)
    {s : σ} {t : τ} {es : List ε} (hinit : R s t)
    (hok : StepsOk (joint act₁ act₂) Ok (s, t) es) :
    outputs act₁ s es = outputs act₂ t es := by
  induction es generalizing s t with
  | nil => rfl
  | cons e es ih =>
    obtain ⟨hsame, hrel⟩ := hstep s t e hinit hok.1
    rw [outputs, outputs, hsame, ih hrel hok.2]

end Outputs

end Ggid.Lib
