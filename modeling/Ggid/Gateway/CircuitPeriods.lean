import Ggid.Gateway.Circuit

/-!
# Gateway — the half-open periods of a circuit breaker

What a half-open period admits, and which successes close the breaker. A report does not say who
makes it, so a request from before the period counts as well.

* `closes_on_trials_iff` — only the successes of the period count exactly where no other request
  succeeds during it.
-/

namespace Ggid.Gateway

open Ggid.Go Ggid.Lib

namespace Circuit

/-- The breaker closes on the successes of the requests of its half-open period; no others count,
and no more are admitted than there are slots. -/
structure ClosesOnTrials (p : Requests) (a : CircuitStep) : Prop where
  closes  : p.store.breaker.state ≠ .circuitClosed →
    (step p a).store.breaker.state = .circuitClosed →
      p.store.breaker.config.halfOpenSuccess ≤ (step p a).store.own
  counts  : (step p a).store.breaker.state = .circuitHalfOpen →
    (step p a).store.breaker.successes = (step p a).store.own
  limited : (step p a).store.admitted ≤ p.store.breaker.config.halfOpenMax

/-- A request that succeeds during a half-open period was admitted in it. -/
def OwnSuccess (p : Requests) (a : CircuitStep) : Prop :=
  ∀ period code, p.task a.thread = .serving period → a.ends = .status code → code < 500 →
    p.store.breaker.state = .circuitHalfOpen → period = some p.store.period

/-- What the counters of the breaker say about the present period. -/
structure Counts (st : CircuitStore) : Prop where
  bounds    : 1 ≤ st.breaker.config.halfOpenMax ∧ 1 ≤ st.breaker.config.halfOpenSuccess
  limited   : st.admitted ≤ st.breaker.config.halfOpenMax
  taken     : st.breaker.state = .circuitHalfOpen → st.breaker.halfOpenReq = st.admitted
  successes : st.breaker.state = .circuitHalfOpen → st.breaker.successes = st.own
  fewer     : st.breaker.state = .circuitHalfOpen →
    st.breaker.successes < st.breaker.config.halfOpenSuccess

theorem withDefaults_bounds (cfg : CircuitConfig) :
    1 ≤ cfg.withDefaults.halfOpenMax ∧ 1 ≤ cfg.withDefaults.halfOpenSuccess := by
  unfold CircuitConfig.withDefaults
  dsimp only
  constructor
  · split_ifs <;> omega
  · split_ifs <;> omega

theorem start_counts (cfg : CircuitConfig) : Counts (start cfg).store where
  bounds := withDefaults_bounds cfg
  limited := by
    show 0 ≤ cfg.withDefaults.halfOpenMax
    have hbounds := withDefaults_bounds cfg
    omega
  taken := fun hhalf => by cases hhalf
  successes := fun hhalf => by cases hhalf
  fewer := fun hhalf => by cases hhalf

variable {p : Requests} {a : CircuitStep} {st : CircuitStore}

theorem Counts.allow (h : Counts st) (now : Time) : Counts (st.allow now).1 := by
  obtain ⟨hmax, hsuccess⟩ := h.bounds
  rcases allow_cases st now with hact | ⟨-, hact⟩ | ⟨-, hact⟩ | ⟨hhalf, hfree, hact⟩
  · rw [hact]
    exact h
  · rw [hact]
    exact h
  · rw [hact]
    exact ⟨⟨hmax, hsuccess⟩, hmax, fun _ => rfl, fun _ => rfl, fun _ => hsuccess⟩
  · rw [hact]
    have htaken := h.taken hhalf
    refine ⟨⟨hmax, hsuccess⟩, ?_, fun _ => ?_, h.successes, h.fewer⟩
    · show st.admitted + 1 ≤ st.breaker.config.halfOpenMax
      omega
    · show st.breaker.halfOpenReq + 1 = st.admitted + 1
      omega

theorem Counts.recordFailure (h : Counts st) (now : Time) : Counts (st.recordFailure now) := by
  have hopen := recordFailure_not_halfOpen st.breaker now
  have hconfig : (st.recordFailure now).breaker.config = st.breaker.config :=
    act_config st now (.status 500) (.serving none)
  refine ⟨?_, ?_, fun hhalf => absurd hhalf hopen, fun hhalf => absurd hhalf hopen,
    fun hhalf => absurd hhalf hopen⟩
  · rw [hconfig]
    exact h.bounds
  · rw [hconfig]
    exact h.limited

/-- In half-open, a success is counted. -/
theorem recordSuccess_successes {cb : CircuitBreaker}
    (hhalf : cb.recordSuccess.state = .circuitHalfOpen) :
    cb.recordSuccess.successes = cb.successes + 1 := by
  obtain ⟨hbefore, hfew⟩ := (recordSuccess_halfOpen_iff cb).mp hhalf
  simp [CircuitBreaker.recordSuccess, hbefore, not_le.mpr hfew]

theorem Counts.recordSuccess (h : Counts st) {period : Option Nat}
    (hown : st.breaker.state = .circuitHalfOpen → period = some st.period) :
    Counts (st.recordSuccess period) := by
  refine ⟨?_, ?_, fun hhalf => ?_, fun hhalf => ?_, fun hhalf => ?_⟩
  · simpa [CircuitStore.recordSuccess] using h.bounds
  · simpa [CircuitStore.recordSuccess] using h.limited
  · obtain ⟨hbefore, -⟩ := (recordSuccess_halfOpen_iff _).mp hhalf
    simpa [CircuitStore.recordSuccess] using h.taken hbefore
  · obtain ⟨hbefore, -⟩ := (recordSuccess_halfOpen_iff _).mp hhalf
    show st.breaker.recordSuccess.successes = _
    rw [recordSuccess_successes hhalf, h.successes hbefore]
    simp [CircuitStore.recordSuccess, hbefore, hown hbefore]
  · obtain ⟨-, hfew⟩ := (recordSuccess_halfOpen_iff _).mp hhalf
    show st.breaker.recordSuccess.successes < st.breaker.recordSuccess.config.halfOpenSuccess
    rw [recordSuccess_successes hhalf, recordSuccess_config]
    exact hfew

theorem Counts.step (h : Counts p.store) (hown : OwnSuccess p a) : Counts (step p a).store := by
  unfold Circuit.step
  rw [Threads.put_store]
  cases htask : p.task a.thread with
  | arriving => exact h.allow a.now
  | serving period =>
    cases hends : a.ends with
    | panic => exact h
    | status code =>
      simp only [CircuitTask.act]
      split_ifs with hfail
      · exact h.recordFailure a.now
      · exact h.recordSuccess (hown period code htask hends (by omega))
  | refused => exact h
  | ended => exact h

theorem step_config : (step p a).store.breaker.config = p.store.breaker.config :=
  act_config _ _ _ _

-- ---------------------------------------------------------------------------
-- Closing
-- ---------------------------------------------------------------------------

/-- Only a success in half-open closes the breaker. -/
theorem closed_of_step (hbefore : p.store.breaker.state ≠ .circuitClosed)
    (hafter : (step p a).store.breaker.state = .circuitClosed) :
    ∃ period code, p.task a.thread = .serving period ∧ a.ends = .status code ∧ code < 500 ∧
      p.store.breaker.state = .circuitHalfOpen ∧
      p.store.breaker.config.halfOpenSuccess ≤ p.store.breaker.successes + 1 := by
  unfold step at hafter
  rw [Threads.put_store] at hafter
  cases htask : p.task a.thread with
  | arriving =>
    rw [htask] at hafter
    simp only [CircuitTask.act] at hafter
    rcases allow_cases p.store a.now with hact | ⟨hclosed, -⟩ | ⟨-, hact⟩ | ⟨hhalf, -, hact⟩
    · rw [hact] at hafter
      exact absurd hafter hbefore
    · exact absurd hclosed hbefore
    · rw [hact] at hafter
      cases hafter
    · rw [hact] at hafter
      exact absurd hafter hbefore
  | serving period =>
    cases hends : a.ends with
    | panic =>
      rw [htask, hends] at hafter
      exact absurd hafter hbefore
    | status code =>
      rw [htask, hends] at hafter
      simp only [CircuitTask.act] at hafter
      split_ifs at hafter with hfail
      · unfold CircuitStore.recordFailure CircuitBreaker.recordFailure at hafter
        cases hstate : p.store.breaker.state with
        | circuitClosed => exact absurd hstate hbefore
        | circuitOpen => simp [hstate] at hafter
        | circuitHalfOpen => simp [hstate] at hafter
      · unfold CircuitStore.recordSuccess CircuitBreaker.recordSuccess at hafter
        cases hstate : p.store.breaker.state with
        | circuitClosed => exact absurd hstate hbefore
        | circuitOpen => simp [hstate] at hafter
        | circuitHalfOpen =>
          refine ⟨period, code, rfl, rfl, by omega, rfl, ?_⟩
          by_contra hfew
          simp [hstate, hfew] at hafter
  | refused =>
    rw [htask] at hafter
    exact absurd hafter hbefore
  | ended =>
    rw [htask] at hafter
    exact absurd hafter hbefore

theorem step_own {period : Option Nat} {code : Int} (htask : p.task a.thread = .serving period)
    (hends : a.ends = .status code) (hok : code < 500)
    (hhalf : p.store.breaker.state = .circuitHalfOpen) :
    (step p a).store.own = if period = some p.store.period then p.store.own + 1
      else p.store.own := by
  simp [step, htask, hends, CircuitTask.act, not_le.mpr hok, CircuitStore.recordSuccess, hhalf]

theorem closesOnTrials_of_own (h : Counts p.store) (hown : OwnSuccess p a) :
    ClosesOnTrials p a := by
  have hafter := h.step hown
  refine ⟨fun hbefore hclosed => ?_, hafter.successes, step_config (p := p) (a := a) ▸ hafter.limited⟩
  obtain ⟨period, code, htask, hends, hok, hhalf, henough⟩ := closed_of_step hbefore hclosed
  rw [step_own htask hends hok hhalf, if_pos (hown period code htask hends hok hhalf),
    ← h.successes hhalf]
  exact henough

/-- A success from before the period is counted, or closes the breaker. -/
theorem own_of_closesOnTrials (h : Counts p.store) (hlaw : ClosesOnTrials p a) :
    OwnSuccess p a := by
  intro period code htask hends hok hhalf
  by_contra hother
  have hsame : (step p a).store.own = p.store.own := by
    rw [step_own htask hends hok hhalf, if_neg hother]
  have hbreaker : (step p a).store.breaker = p.store.breaker.recordSuccess := by
    simp [step, htask, hends, CircuitTask.act, not_le.mpr hok, CircuitStore.recordSuccess]
  have hsuccesses := h.successes hhalf
  by_cases hfew : p.store.breaker.successes + 1 < p.store.breaker.config.halfOpenSuccess
  · have hstays : p.store.breaker.recordSuccess.state = .circuitHalfOpen :=
      (recordSuccess_halfOpen_iff _).mpr ⟨hhalf, hfew⟩
    have hcount := hlaw.counts (hbreaker ▸ hstays)
    rw [hbreaker, recordSuccess_successes hstays, hsame] at hcount
    omega
  · have hcloses : p.store.breaker.recordSuccess.state = .circuitClosed := by
      simp [CircuitBreaker.recordSuccess, hhalf, not_lt.mp hfew]
    have henough := hlaw.closes (by rw [hhalf]; decide) (hbreaker ▸ hcloses)
    have hfewer := h.fewer hhalf
    rw [hsame] at henough
    omega

/-- **The breaker closes on the trials of its half-open period** exactly where no request from
before the period succeeds during it. -/
theorem closes_on_trials_iff (cfg : CircuitConfig) (steps : List CircuitStep) :
    StepsOk step ClosesOnTrials (start cfg) steps ↔ StepsOk step OwnSuccess (start cfg) steps := by
  have hiff : ∀ p a, Counts (Threads.store p) → (ClosesOnTrials p a ↔ OwnSuccess p a) :=
    fun p a h => ⟨own_of_closesOnTrials h, closesOnTrials_of_own h⟩
  have hstep : ∀ p a, Counts (Threads.store p) → ClosesOnTrials p a → Counts (step p a).store :=
    fun p a h hlaw => h.step (own_of_closesOnTrials h hlaw)
  exact stepsOk_iff_of_invariant hstep hiff (start_counts cfg)

end Circuit

namespace Sample

/-- The first request is slow. Another one fails, a third is tried after the timeout; then the first
succeeds. -/
def slowSuccess : List CircuitStep :=
  [⟨0, 0, .panic⟩, ⟨1, 0, .panic⟩, ⟨1, 0, .status 502⟩, ⟨2, 30 * second, .panic⟩,
    ⟨0, 31 * second, .status 200⟩]

def oneTrial : CircuitConfig := ⟨1, 30 * second, 1, 1⟩

end Sample

open Sample in
/-- The success of a request from before the failure closes the breaker. -/
theorem closed_by_old_success :
    (run Circuit.step (Circuit.start oneTrial) slowSuccess).store.breaker.state = .circuitClosed ∧
    (run Circuit.step (Circuit.start oneTrial) slowSuccess).store.own = 0 ∧
    ¬ StepsOk Circuit.step Circuit.ClosesOnTrials (Circuit.start oneTrial) slowSuccess := by
  refine ⟨by decide, by decide, fun h => ?_⟩
  obtain ⟨-, -, -, -, hlast, -⟩ := h
  exact absurd (hlast.closes (by decide) (by decide)) (by decide)

end Ggid.Gateway
