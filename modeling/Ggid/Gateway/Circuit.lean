import Ggid.Go.Value
import Ggid.Lib.Run
import Ggid.Lib.Threads
import Mathlib.Data.Finset.Card

/-!
# Gateway — the circuit breaker

`CircuitBreaker`, and the requests that go through `CircuitMiddleware` at the same time: each asks
`Allow`, runs, and reports its status, or panics and reports nothing.

* `never_stuck_iff`   — the breaker can be left in half-open with all slots taken, and when it is;
* `frees_of_reports`  — it is not if there are slots for all successes that are asked for, and every
  request reports.
-/

namespace Ggid.Gateway

open Ggid.Go Ggid.Lib

-- ---------------------------------------------------------------------------
-- The breaker
-- ---------------------------------------------------------------------------

inductive CircuitState where
  | circuitClosed
  | circuitOpen
  | circuitHalfOpen
  deriving DecidableEq

structure CircuitConfig where
  maxFailures     : Int
  timeout         : Int
  halfOpenMax     : Int
  halfOpenSuccess : Int
  deriving DecidableEq

structure CircuitBreaker where
  config      : CircuitConfig
  state       : CircuitState
  failures    : Int
  successes   : Int
  halfOpenReq : Int
  lastFailure : Time
  deriving DecidableEq

/-- The defaults of `NewCircuitBreaker`. -/
def CircuitConfig.withDefaults (cfg : CircuitConfig) : CircuitConfig where
  maxFailures := if cfg.maxFailures ≤ 0 then 5 else cfg.maxFailures
  timeout := if cfg.timeout ≤ 0 then 30 * second else cfg.timeout
  halfOpenMax := if cfg.halfOpenMax ≤ 0 then 3 else cfg.halfOpenMax
  halfOpenSuccess := if cfg.halfOpenSuccess ≤ 0 then 2 else cfg.halfOpenSuccess

def newCircuitBreaker (cfg : CircuitConfig) : CircuitBreaker :=
  ⟨cfg.withDefaults, .circuitClosed, 0, 0, 0, Time.zero⟩

namespace CircuitBreaker

def allow (now : Time) (cb : CircuitBreaker) : CircuitBreaker × Bool :=
  match cb.state with
  | .circuitClosed => (cb, true)
  | .circuitOpen =>
    if cb.config.timeout ≤ now - cb.lastFailure then
      ({ cb with state := .circuitHalfOpen, halfOpenReq := 1, successes := 0 }, true)
    else (cb, false)
  | .circuitHalfOpen =>
    if cb.halfOpenReq < cb.config.halfOpenMax then
      ({ cb with halfOpenReq := cb.halfOpenReq + 1 }, true)
    else (cb, false)

def recordSuccess (cb : CircuitBreaker) : CircuitBreaker :=
  match cb.state with
  | .circuitHalfOpen =>
    if cb.config.halfOpenSuccess ≤ cb.successes + 1 then
      { cb with state := .circuitClosed, failures := 0, successes := 0 }
    else { cb with successes := cb.successes + 1 }
  | .circuitClosed => { cb with failures := 0 }
  | .circuitOpen => cb

def recordFailure (now : Time) (cb : CircuitBreaker) : CircuitBreaker :=
  match cb.state with
  | .circuitHalfOpen => { cb with lastFailure := now, state := .circuitOpen, failures := 0 }
  | .circuitClosed =>
    if cb.config.maxFailures ≤ cb.failures + 1 then
      { cb with lastFailure := now, failures := cb.failures + 1, state := .circuitOpen }
    else { cb with lastFailure := now, failures := cb.failures + 1 }
  | .circuitOpen => { cb with lastFailure := now }

end CircuitBreaker

-- ---------------------------------------------------------------------------
-- `CircuitMiddleware`
-- ---------------------------------------------------------------------------

/-- What the wrapped handler does: it answers with a status, or panics. -/
inductive HandlerEnd where
  | status (code : Int)
  | panic
  deriving DecidableEq

/-- Where a request is. One that is served knows the half-open period it was admitted in, if it was
admitted in one. -/
inductive CircuitTask where
  | arriving
  | serving (period : Option Nat)
  | refused
  | ended
  deriving DecidableEq

/-- The breaker; and, for the statements only, the number of half-open periods so far, how many
requests the present one admitted, and how many of those have succeeded. -/
structure CircuitStore where
  breaker  : CircuitBreaker
  period   : Nat
  admitted : Int
  own      : Int
  deriving DecidableEq

namespace CircuitStore

/-- A half-open period begins. -/
def trips (st : CircuitStore) (now : Time) : Bool :=
  st.breaker.state = .circuitOpen && st.breaker.config.timeout ≤ now - st.breaker.lastFailure

/-- `cb.Allow()`. -/
def allow (now : Time) (st : CircuitStore) : CircuitStore × CircuitTask :=
  let (breaker, allowed) := st.breaker.allow now
  if allowed = false then ({ st with breaker }, .refused)
  else if breaker.state ≠ .circuitHalfOpen then ({ st with breaker }, .serving none)
  else if st.breaker.state = .circuitOpen then
    (⟨breaker, st.period + 1, 1, 0⟩, .serving (some (st.period + 1)))
  else ({ st with breaker, admitted := st.admitted + 1 }, .serving (some st.period))

/-- `cb.RecordSuccess()`, for a request of this period or of none. -/
def recordSuccess (period : Option Nat) (st : CircuitStore) : CircuitStore :=
  { st with
    breaker := st.breaker.recordSuccess
    own := if st.breaker.state = .circuitHalfOpen ∧ period = some st.period then st.own + 1
      else st.own }

def recordFailure (now : Time) (st : CircuitStore) : CircuitStore :=
  { st with breaker := st.breaker.recordFailure now }

end CircuitStore

/-- One step of a request: it asks to be let in, or ends. -/
def CircuitTask.act (now : Time) (ends : HandlerEnd) (st : CircuitStore) :
    CircuitTask → CircuitStore × CircuitTask
  | arriving => st.allow now
  | serving period =>
    match ends with
    | .panic => (st, ended)
    | .status code =>
      if 500 ≤ code then (st.recordFailure now, ended) else (st.recordSuccess period, ended)
  | refused => (st, refused)
  | ended => (st, ended)

/-- Which request goes on, when, and how its handler ends if it is the handler that ends. -/
structure CircuitStep where
  thread : Nat
  now    : Time
  ends   : HandlerEnd

namespace Circuit

abbrev Requests := Threads CircuitStore CircuitTask

def step (p : Requests) (a : CircuitStep) : Requests :=
  p.put a.thread ((p.task a.thread).act a.now a.ends p.store)

/-- A new breaker, before the first request. -/
def start (cfg : CircuitConfig) : Requests :=
  ⟨⟨newCircuitBreaker cfg, 0, 0, 0⟩, fun _ => .arriving⟩

def Serving (p : Requests) (t : Nat) : Prop := ∃ period, p.task t = .serving period

/-- With no request running, the breaker lets one in when the timeout is over. -/
def NotStuck (p : Requests) : Prop :=
  (∀ t, ¬ Serving p t) → ∀ now,
    p.store.breaker.lastFailure + p.store.breaker.config.timeout ≤ now →
      (p.store.breaker.allow now).2 = true

/-- The last request to end in a half-open period that has no slot left fails, or brings the number
of successes to what closes the breaker. -/
def Frees (p : Requests) (a : CircuitStep) : Prop :=
  p.store.breaker.state = .circuitHalfOpen →
    p.store.breaker.config.halfOpenMax ≤ p.store.breaker.halfOpenReq →
      Serving p a.thread → (∀ u, u ≠ a.thread → ¬ Serving p u) →
        match a.ends with
        | .panic => False
        | .status code => 500 ≤ code ∨
          p.store.breaker.config.halfOpenSuccess ≤ p.store.breaker.successes + 1

variable {p : Requests} {a : CircuitStep}

-- ---------------------------------------------------------------------------
-- One step
-- ---------------------------------------------------------------------------

/-- A breaker that waits long enough lets a request in, unless it is half-open without a slot. -/
theorem allow_elapsed_iff (cb : CircuitBreaker) :
    (∀ now, cb.lastFailure + cb.config.timeout ≤ now → (cb.allow now).2 = true) ↔
      (cb.state = .circuitHalfOpen → cb.halfOpenReq < cb.config.halfOpenMax) := by
  unfold CircuitBreaker.allow
  cases hstate : cb.state with
  | circuitClosed => simp
  | circuitOpen =>
    simp only [reduceCtorEq, false_implies, iff_true]
    intro now hnow
    rw [if_pos (le_sub_iff_add_le'.mpr hnow)]
  | circuitHalfOpen =>
    simp only [true_implies]
    constructor
    · intro h
      by_contra hfull
      have hallowed := h _ (le_refl _)
      rw [if_neg hfull] at hallowed
      cases hallowed
    · intro hfree now _
      rw [if_pos hfree]

theorem notStuck_iff : NotStuck p ↔ ((∀ t, ¬ Serving p t) →
    p.store.breaker.state = .circuitHalfOpen →
      p.store.breaker.halfOpenReq < p.store.breaker.config.halfOpenMax) :=
  imp_congr_right fun _ => allow_elapsed_iff p.store.breaker

/-- What `Allow` can do: refuse, let a request through, begin a half-open period, take a slot. -/
theorem allow_cases (st : CircuitStore) (now : Time) :
    st.allow now = (st, .refused) ∨
    (st.breaker.state = .circuitClosed ∧ st.allow now = (st, .serving none)) ∨
    (st.breaker.state = .circuitOpen ∧ st.allow now =
      (⟨{ st.breaker with state := .circuitHalfOpen, halfOpenReq := 1, successes := 0 },
        st.period + 1, 1, 0⟩, .serving (some (st.period + 1)))) ∨
    (st.breaker.state = .circuitHalfOpen ∧
      st.breaker.halfOpenReq < st.breaker.config.halfOpenMax ∧ st.allow now =
        ({ st with
            breaker := { st.breaker with halfOpenReq := st.breaker.halfOpenReq + 1 }
            admitted := st.admitted + 1 }, .serving (some st.period))) := by
  unfold CircuitStore.allow CircuitBreaker.allow
  cases hstate : st.breaker.state with
  | circuitClosed => simp [hstate]
  | circuitOpen =>
    by_cases helapsed : st.breaker.config.timeout ≤ now - st.breaker.lastFailure
    · simp [helapsed]
    · simp [helapsed]
  | circuitHalfOpen =>
    by_cases hfree : st.breaker.halfOpenReq < st.breaker.config.halfOpenMax
    · simp [hfree, hstate]
    · simp [hfree]

theorem serving_put {new : CircuitStore × CircuitTask} {t u : Nat} :
    Serving (p.put t new) u ↔ if u = t then ∃ period, new.2 = .serving period else Serving p u := by
  unfold Serving
  split_ifs with hu
  · rw [hu, Threads.put_task_self]
  · rw [Threads.put_task_of_ne p new hu]

/-- A step after which the breaker and the requests that run are the same. -/
theorem notStuck_step_of_same {new : CircuitStore × CircuitTask} {t : Nat}
    (hstore : new.1 = p.store) (hold : ¬ Serving p t) (hnew : ∀ period, new.2 ≠ .serving period) :
    NotStuck (p.put t new) ↔ NotStuck p := by
  have hserving : ∀ u, Serving (p.put t new) u ↔ Serving p u := by
    intro u
    rw [serving_put]
    split_ifs with hu
    · exact iff_of_false (fun ⟨period, h⟩ => hnew period h) (hu ▸ hold)
    · exact Iff.rfl
  simp only [notStuck_iff, hserving, Threads.put_store, hstore]

theorem recordFailure_not_halfOpen (cb : CircuitBreaker) (now : Time) :
    (cb.recordFailure now).state ≠ .circuitHalfOpen := by
  unfold CircuitBreaker.recordFailure
  cases hstate : cb.state with
  | circuitClosed => split_ifs <;> simp
  | circuitOpen => simp
  | circuitHalfOpen => simp

/-- Where a success leaves the breaker half-open. -/
theorem recordSuccess_halfOpen_iff (cb : CircuitBreaker) :
    cb.recordSuccess.state = .circuitHalfOpen ↔
      cb.state = .circuitHalfOpen ∧ cb.successes + 1 < cb.config.halfOpenSuccess := by
  unfold CircuitBreaker.recordSuccess
  cases hstate : cb.state with
  | circuitClosed => simp [hstate]
  | circuitOpen => simp [hstate]
  | circuitHalfOpen =>
    simp only [true_and]
    split_ifs with hclose
    · simp only [false_iff]
      omega
    · simp only [true_iff]
      omega

@[simp] theorem recordSuccess_config (cb : CircuitBreaker) : cb.recordSuccess.config = cb.config := by
  unfold CircuitBreaker.recordSuccess
  split
  · split_ifs <;> rfl
  · rfl
  · rfl

@[simp] theorem recordSuccess_halfOpenReq (cb : CircuitBreaker) :
    cb.recordSuccess.halfOpenReq = cb.halfOpenReq := by
  unfold CircuitBreaker.recordSuccess
  split
  · split_ifs <;> rfl
  · rfl
  · rfl

/-- **The end of a request.** -/
theorem notStuck_end_iff {period : Option Nat} (htask : p.task a.thread = .serving period) :
    NotStuck (step p a) ↔ Frees p a := by
  have hserving : Serving p a.thread := ⟨period, htask⟩
  have hothers : ∀ st : CircuitStore, (∀ t, ¬ Serving (p.put a.thread (st, .ended)) t) ↔
      ∀ u, u ≠ a.thread → ¬ Serving p u := by
    intro st
    refine forall_congr' fun u => ?_
    rw [serving_put]
    by_cases hu : u = a.thread
    · simp [hu]
    · simp [hu]
  unfold step Frees
  rw [htask]
  cases hends : a.ends with
  | panic =>
    simp only [CircuitTask.act, notStuck_iff, hothers, Threads.put_store, hserving, true_implies]
    constructor
    · exact fun h hhalf hfull hlast => absurd (h hlast hhalf) (not_lt.mpr hfull)
    · exact fun h hlast hhalf => lt_of_not_ge fun hfull => h hhalf hfull hlast
  | status code =>
    simp only [CircuitTask.act]
    split_ifs with hfail
    · refine iff_of_true ?_ fun _ _ _ _ => .inl hfail
      rw [notStuck_iff]
      exact fun _ hhalf => absurd hhalf (recordFailure_not_halfOpen _ _)
    · simp only [notStuck_iff, hothers, Threads.put_store, hserving, true_implies,
        CircuitStore.recordSuccess, recordSuccess_halfOpen_iff, recordSuccess_config,
        recordSuccess_halfOpenReq, hfail, false_or, and_imp]
      constructor
      · intro h hhalf hfull hlast
        by_contra hfew
        exact absurd (h hlast hhalf (by omega)) (not_lt.mpr hfull)
      · intro h hlast hhalf hfew
        by_contra hfull
        exact absurd (h hhalf (by omega) hlast) (by omega)

/-- **One step.** -/
theorem notStuck_step_iff (p : Requests) (a : CircuitStep) (h : NotStuck p) :
    NotStuck (step p a) ↔ Frees p a := by
  have hidle : (∀ period, p.task a.thread ≠ .serving period) → ¬ Serving p a.thread :=
    fun hne ⟨period, hperiod⟩ => hne period hperiod
  cases htask : p.task a.thread with
  | serving period => exact notStuck_end_iff htask
  | arriving =>
    have hserving := hidle (by simp [htask])
    refine iff_of_true ?_ fun _ _ hs => absurd hs hserving
    unfold step
    rw [htask]
    have hserved : ∀ {new : CircuitStore × CircuitTask} {period : Option Nat},
        new.2 = .serving period → NotStuck (p.put a.thread new) := by
      intro new period hnew
      rw [notStuck_iff]
      intro hnone
      refine absurd (serving_put.mpr ?_) (hnone a.thread)
      rw [if_pos rfl]
      exact ⟨period, hnew⟩
    simp only [CircuitTask.act]
    rcases allow_cases p.store a.now with hact | ⟨-, hact⟩ | ⟨-, hact⟩ | ⟨-, -, hact⟩
    · rw [hact]
      exact (notStuck_step_of_same rfl hserving (by simp)).mpr h
    · exact hserved (congrArg Prod.snd hact)
    · exact hserved (congrArg Prod.snd hact)
    · exact hserved (congrArg Prod.snd hact)
  | refused =>
    have hserving := hidle (by simp [htask])
    refine iff_of_true ?_ fun _ _ hs => absurd hs hserving
    unfold step
    rw [htask]
    exact (notStuck_step_of_same rfl hserving (by simp [CircuitTask.act])).mpr h
  | ended =>
    have hserving := hidle (by simp [htask])
    refine iff_of_true ?_ fun _ _ hs => absurd hs hserving
    unfold step
    rw [htask]
    exact (notStuck_step_of_same rfl hserving (by simp [CircuitTask.act])).mpr h

-- ---------------------------------------------------------------------------
-- Requests that report
-- ---------------------------------------------------------------------------

def Reports (a : CircuitStep) : Prop := a.ends ≠ .panic

/-- The running requests of the present half-open period, and what they account for. -/
structure Accounts (p : Requests) (pending : Finset Nat) : Prop where
  mem     : ∀ t, t ∈ pending ↔ p.task t = .serving (some p.store.period)
  periods : ∀ t k, p.task t = .serving (some k) → k ≤ p.store.period
  slots   : p.store.breaker.state = .circuitHalfOpen →
    p.store.breaker.halfOpenReq ≤ p.store.breaker.successes + pending.card

theorem start_accounts (cfg : CircuitConfig) : Accounts (start cfg) ∅ where
  mem := by simp [start]
  periods := by simp [start]
  slots := fun hhalf => by cases hhalf

variable {pending : Finset Nat}

/-- The request ends, and is taken off. -/
theorem Accounts.ends (h : Accounts p pending) {st : CircuitStore} {t : Nat}
    (hperiod : st.period = p.store.period)
    (hslots : st.breaker.state = .circuitHalfOpen →
      st.breaker.halfOpenReq ≤ st.breaker.successes + (pending.erase t).card) :
    Accounts (p.put t (st, .ended)) (pending.erase t) where
  mem := by
    intro u
    rw [Threads.put_store, hperiod]
    by_cases hu : u = t
    · rw [hu, Threads.put_task_self]
      simp
    · rw [Threads.put_task_of_ne p _ hu, Finset.mem_erase, and_iff_right hu]
      exact h.mem u
  periods := by
    intro u k hk
    rw [Threads.put_store, hperiod]
    by_cases hu : u = t
    · rw [hu, Threads.put_task_self] at hk
      cases hk
    · rw [Threads.put_task_of_ne p _ hu] at hk
      exact h.periods u k hk
  slots := hslots

/-- The breaker is as before, and so is every running request. -/
theorem Accounts.same (h : Accounts p pending) {new : CircuitStore × CircuitTask} {t : Nat}
    (hstore : new.1 = p.store) (hold : ∀ k, p.task t ≠ .serving (some k))
    (hnew : ∀ k, new.2 ≠ .serving (some k)) : Accounts (p.put t new) pending where
  mem := by
    intro u
    rw [Threads.put_store, hstore]
    by_cases hu : u = t
    · rw [hu, Threads.put_task_self, h.mem t]
      exact iff_of_false (hold _) (hnew _)
    · rw [Threads.put_task_of_ne p _ hu]
      exact h.mem u
  periods := by
    intro u k hk
    rw [Threads.put_store, hstore]
    by_cases hu : u = t
    · rw [hu, Threads.put_task_self] at hk
      exact absurd hk (hnew k)
    · rw [Threads.put_task_of_ne p _ hu] at hk
      exact h.periods u k hk
  slots := by
    rw [Threads.put_store, hstore]
    exact h.slots

theorem Accounts.allow (h : Accounts p pending) (htask : p.task a.thread = .arriving) :
    ∃ pending', Accounts (p.put a.thread (p.store.allow a.now)) pending' := by
  have hold : ∀ k, p.task a.thread ≠ .serving (some k) := by simp [htask]
  rcases allow_cases p.store a.now with hact | ⟨-, hact⟩ | ⟨-, hact⟩ | ⟨hhalf, -, hact⟩
  · rw [hact]
    exact ⟨pending, h.same rfl hold (by simp)⟩
  · rw [hact]
    exact ⟨pending, h.same rfl hold (by simp)⟩
  · -- nobody was admitted in a period that begins only now
    rw [hact]
    refine ⟨{a.thread}, fun u => ?_, fun u k hk => ?_, fun _ => by simp⟩
    · rw [Finset.mem_singleton, Threads.put_store]
      by_cases hu : u = a.thread
      · rw [hu, Threads.put_task_self]
        simp
      · rw [Threads.put_task_of_ne p _ hu]
        refine iff_of_false hu fun hk => ?_
        have hle : p.store.period + 1 ≤ p.store.period := h.periods u _ hk
        exact absurd hle (by omega)
    · rw [Threads.put_store]
      show k ≤ p.store.period + 1
      by_cases hu : u = a.thread
      · rw [hu, Threads.put_task_self] at hk
        cases hk
        exact le_refl _
      · rw [Threads.put_task_of_ne p _ hu] at hk
        exact Nat.le_succ_of_le (h.periods u k hk)
  · rw [hact]
    have hfresh : a.thread ∉ pending := fun hmem => hold _ ((h.mem a.thread).mp hmem)
    refine ⟨insert a.thread pending, fun u => ?_, fun u k hk => ?_, fun _ => ?_⟩
    · rw [Finset.mem_insert, Threads.put_store]
      by_cases hu : u = a.thread
      · rw [hu, Threads.put_task_self]
        simp
      · rw [Threads.put_task_of_ne p _ hu, or_iff_right hu]
        exact h.mem u
    · rw [Threads.put_store]
      show k ≤ p.store.period
      by_cases hu : u = a.thread
      · rw [hu, Threads.put_task_self] at hk
        cases hk
        exact le_refl _
      · rw [Threads.put_task_of_ne p _ hu] at hk
        exact h.periods u k hk
    · rw [Finset.card_insert_of_notMem hfresh]
      have hslots := h.slots hhalf
      simp only [Threads.put_store]
      omega

theorem Accounts.end (h : Accounts p pending) {period : Option Nat} {code : Int}
    (htask : p.task a.thread = .serving period) (hends : a.ends = .status code) :
    ∃ pending', Accounts (step p a) pending' := by
  refine ⟨pending.erase a.thread, ?_⟩
  unfold step
  rw [htask, hends]
  simp only [CircuitTask.act]
  split_ifs with hfail
  · exact h.ends rfl fun hhalf => absurd hhalf (recordFailure_not_halfOpen _ _)
  · refine h.ends rfl fun hhalf => ?_
    obtain ⟨hhalf, hfew⟩ := (recordSuccess_halfOpen_iff _).mp hhalf
    have hslots := h.slots hhalf
    have hcard := Finset.pred_card_le_card_erase (s := pending) (a := a.thread)
    have hsuccesses : p.store.breaker.recordSuccess.successes = p.store.breaker.successes + 1 := by
      simp [CircuitBreaker.recordSuccess, hhalf, not_le.mpr hfew]
    simp only [CircuitStore.recordSuccess, recordSuccess_halfOpenReq, hsuccesses]
    omega

theorem Accounts.step (h : Accounts p pending) (hreports : Reports a) :
    ∃ pending', Accounts (step p a) pending' := by
  cases htask : p.task a.thread with
  | arriving =>
    unfold Circuit.step
    rw [htask]
    exact h.allow htask
  | serving period =>
    cases hends : a.ends with
    | panic => exact absurd hends hreports
    | status code => exact h.end htask hends
  | refused =>
    unfold Circuit.step
    rw [htask]
    exact ⟨pending, h.same rfl (by simp [htask]) (by simp [CircuitTask.act])⟩
  | ended =>
    unfold Circuit.step
    rw [htask]
    exact ⟨pending, h.same rfl (by simp [htask]) (by simp [CircuitTask.act])⟩

/-- The last one to end has its success to add. -/
theorem Accounts.frees (h : Accounts p pending) (hreports : Reports a)
    (hslots : p.store.breaker.config.halfOpenSuccess ≤ p.store.breaker.config.halfOpenMax) :
    Frees p a := by
  intro hhalf hfull _ hlast
  cases hends : a.ends with
  | panic => exact absurd hends hreports
  | status code =>
    refine .inr ?_
    have hcount := h.slots hhalf
    have hcard : pending.card ≤ 1 := by
      rw [Finset.card_le_one_iff_subset_singleton]
      refine ⟨a.thread, fun u hu => ?_⟩
      rw [Finset.mem_singleton]
      by_contra hne
      exact hlast u hne ⟨_, (h.mem u).mp hu⟩
    omega

@[simp] theorem act_config (st : CircuitStore) (now : Time) (ends : HandlerEnd)
    (task : CircuitTask) : (task.act now ends st).1.breaker.config = st.breaker.config := by
  cases task with
  | arriving =>
    simp only [CircuitTask.act]
    rcases allow_cases st now with hact | ⟨-, hact⟩ | ⟨-, hact⟩ | ⟨-, -, hact⟩ <;> rw [hact]
  | serving period =>
    cases ends with
    | panic => rfl
    | status code =>
      simp only [CircuitTask.act]
      split_ifs
      · unfold CircuitStore.recordFailure CircuitBreaker.recordFailure
        split
        · rfl
        · dsimp only
          split_ifs <;> rfl
        · rfl
      · exact recordSuccess_config _
  | refused => rfl
  | ended => rfl

/-- **With slots for the successes** that close the breaker, requests that report free it. -/
theorem frees_of_reports (cfg : CircuitConfig)
    (hslots : cfg.withDefaults.halfOpenSuccess ≤ cfg.withDefaults.halfOpenMax)
    {steps : List CircuitStep} (hreports : ∀ a ∈ steps, Reports a) :
    StepsOk step Frees (start cfg) steps := by
  have hall : StepsOk step (fun _ a => Reports a) (start cfg) steps := stepsOk_of_forall hreports
  have hstep : ∀ p a, ((∃ pending, Accounts p pending) ∧
      p.store.breaker.config = cfg.withDefaults) → Reports a →
        (∃ pending, Accounts (step p a) pending) ∧
          (step p a).store.breaker.config = cfg.withDefaults := by
    rintro p a ⟨⟨pending, h⟩, hcfg⟩ hreports
    refine ⟨h.step hreports, ?_⟩
    rw [← hcfg]
    exact act_config _ _ _ _
  refine stepsOk_of_invariant hstep ?_ ⟨⟨∅, start_accounts cfg⟩, rfl⟩ hall
  rintro p a ⟨⟨pending, h⟩, hcfg⟩ hreports
  refine h.frees hreports ?_
  rw [hcfg]
  exact hslots

/-- **The breaker is never stuck** exactly where no half-open period ends with all slots taken and
the breaker neither closed nor opened. -/
theorem never_stuck_iff (cfg : CircuitConfig) (steps : List CircuitStep) :
    (∀ p ∈ states step (start cfg) steps, NotStuck p) ↔ StepsOk step Frees (start cfg) steps := by
  refine forall_states_iff_of_step notStuck_step_iff ?_
  rw [notStuck_iff]
  exact fun _ hhalf => by cases hhalf

end Circuit

namespace Sample

/-- One trial request, two successes to close. -/
def fewTrials : CircuitConfig := ⟨1, 30 * second, 1, 2⟩

/-- A request fails; after the timeout, another one is tried and succeeds. -/
def trial : List CircuitStep :=
  [⟨0, 0, .panic⟩, ⟨0, 0, .status 502⟩, ⟨1, 30 * second, .panic⟩, ⟨1, 30 * second, .status 200⟩]

def tried : CircuitBreaker := ⟨⟨1, 30 * second, 1, 2⟩, .circuitHalfOpen, 1, 1, 1, 0⟩

theorem run_trial : (run Circuit.step (Circuit.start fewTrials) trial).store.breaker = tried := by
  decide

theorem nobody_runs (t : Nat) :
    ¬ Circuit.Serving (run Circuit.step (Circuit.start fewTrials) trial) t := by
  have hended : ∀ u < 2, (run Circuit.step (Circuit.start fewTrials) trial).task u = .ended := by
    decide
  rintro ⟨period, h⟩
  by_cases ht : t < 2
  · rw [hended t ht] at h
    cases h
  · obtain ⟨u, rfl⟩ := Nat.exists_eq_add_of_le' (not_lt.mp ht)
    have harriving : (run Circuit.step (Circuit.start fewTrials) trial).task (u + 2) =
        .arriving := rfl
    rw [harriving] at h
    cases h

end Sample

open Sample in
/-- The trial succeeds, and after the timeout the breaker still lets nobody in. -/
theorem breaker_stuck :
    ¬ ∀ p ∈ states Circuit.step (Circuit.start fewTrials) trial, Circuit.NotStuck p := by
  intro h
  have hstuck := h _ (run_mem_states _ _) nobody_runs (60 * second)
  rw [run_trial] at hstuck
  exact absurd (hstuck (by decide)) (by decide)

end Ggid.Gateway
