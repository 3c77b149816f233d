import Mathlib.Algebra.GroupWithZero.Nat
import Mathlib.Data.List.Nodup
import Ggid.Lib.Run

/-!
# Package audit — forwarding to a SIEM

`SIEMForwarder`: events are buffered and sent in batches. A flush takes the whole buffer and then
sends it, as often as it takes. Two kinds of goroutines flush: those that `Forward` starts when the
buffer is long, of which a semaphore lets one flush at a time, and the loop that `Start` runs,
which flushes at each tick and a last time when it is stopped. `Stop` waits for the loop.

An entry of the buffer is an event with its place in the log of all that was forwarded.

* `tally_step`    — every entry is delivered, given up, held by a flush or in the buffer;
* `Segments.step` — a batch is a piece of the log;
* `conserved_iff` — what is delivered when `Stop` returns;
* `dropped_only`  — when a batch is given up.
-/

namespace Ggid.Audit.SIEMForwarder

open Ggid.Lib

-- ---------------------------------------------------------------------------
-- Flushes
-- ---------------------------------------------------------------------------

structure Entry (α : Type) where
  index : Nat
  event : α
  deriving DecidableEq

structure SIEMConfig where
  batchSize  : Int
  maxRetries : Int

/-- `NewSIEMForwarder` puts defaults in. -/
def SIEMConfig.size (cfg : SIEMConfig) : Nat :=
  if cfg.batchSize ≤ 0 then 100 else cfg.batchSize.toNat

def SIEMConfig.retries (cfg : SIEMConfig) : Nat :=
  if cfg.maxRetries ≤ 0 then 3 else cfg.maxRetries.toNat

/-- What flushes share; `failures` counts the sends in a row that the endpoint has failed. -/
structure Shared (α : Type) where
  buffer    : List (Entry α)
  log       : List (Entry α)
  delivered : List (List (Entry α))
  dropped   : List (List (Entry α))
  failures  : Nat

/-- Where a call of `flush` is. -/
inductive Flush (α : Type) where
  | taking
  | sending (batch : List (Entry α)) (attempt : Nat)

variable {α : Type} (cfg : SIEMConfig) (formatBatch : List α → Bool)

/-- The next step of `flush`, and where it is then, if it has not returned. -/
def flush (s : Shared α) (ok : Bool) : Flush α → Shared α × Option (Flush α)
  | .taking =>
    if s.buffer.isEmpty then (s, none)
    else
      let batch := s.buffer
      let s := { s with buffer := [] }
      if formatBatch (batch.map Entry.event) then (s, some (.sending batch 0))
      else ({ s with dropped := s.dropped ++ [batch] }, none)
  | .sending batch attempt =>
    if ok then ({ s with delivered := s.delivered ++ [batch], failures := 0 }, none)
    else
      let s := { s with failures := s.failures + 1 }
      if attempt + 1 < cfg.retries then (s, some (.sending batch (attempt + 1)))
      else ({ s with dropped := s.dropped ++ [batch] }, none)

-- ---------------------------------------------------------------------------
-- Goroutines
-- ---------------------------------------------------------------------------

/-- A goroutine that `Forward` has started. -/
inductive Goroutine (α : Type) where
  | started
  | flushing (f : Flush α)
  | releasing
  | ended

/-- `runFlushLoop`; of a flush, whether it is the last one. -/
inductive FlushLoop (α : Type) where
  | waiting
  | flushing (f : Flush α) (final : Bool)
  | done

/-- A forwarder that was started. Each call of `Stop` that has not returned has a mark, the number
of events that were forwarded before. -/
structure Forwarder (α : Type) where
  shared   : Shared α
  flushSem : Bool
  flushes  : List (Goroutine α)
  loop     : FlushLoop α
  stopping : Bool
  stops    : List Nat

def start : Forwarder α := ⟨⟨[], [], [], [], 0⟩, false, [], .waiting, false, []⟩

inductive Action (α : Type) where
  | forward (event : α)
  /-- the next step of a goroutine; `ok` is how a send ends -/
  | goroutine (i : Nat) (ok : Bool)
  | tick
  | stopSignal
  | contextDone
  /-- the next step of the loop's flush -/
  | loop (ok : Bool)
  | stop
  | stopReturns (mark : Nat)
  | stopTimesOut (mark : Nat)

def forward (s : Forwarder α) (event : α) : Forwarder α :=
  let entry : Entry α := ⟨s.shared.log.length, event⟩
  let shared := { s.shared with
    buffer := s.shared.buffer ++ [entry], log := s.shared.log ++ [entry] }
  { s with
    shared
    flushes := if cfg.size ≤ shared.buffer.length then s.flushes ++ [.started] else s.flushes }

/-- A goroutine skips if a flush is already running. -/
def runGoroutine (s : Forwarder α) (i : Nat) (ok : Bool) : Forwarder α :=
  match s.flushes[i]? with
  | some .started =>
    if s.flushSem then { s with flushes := s.flushes.set i .ended }
    else { s with flushSem := true, flushes := s.flushes.set i (.flushing .taking) }
  | some (.flushing f) =>
    match flush cfg formatBatch s.shared ok f with
    | (shared, some f) => { s with shared, flushes := s.flushes.set i (.flushing f) }
    | (shared, none) => { s with shared, flushes := s.flushes.set i .releasing }
  | some .releasing => { s with flushSem := false, flushes := s.flushes.set i .ended }
  | some .ended | none => s

def runLoop (s : Forwarder α) (ok : Bool) : Forwarder α :=
  match s.loop with
  | .flushing f final =>
    match flush cfg formatBatch s.shared ok f with
    | (shared, some f) => { s with shared, loop := .flushing f final }
    | (shared, none) => { s with shared, loop := if final then .done else .waiting }
  | .waiting | .done => s

/-- A case of the `select` of the loop. -/
def select (s : Forwarder α) (final : Bool) : Forwarder α :=
  match s.loop with
  | .waiting => { s with loop := .flushing .taking final }
  | .flushing .. | .done => s

def step (s : Forwarder α) : Action α → Forwarder α
  | .forward event => forward cfg s event
  | .goroutine i ok => runGoroutine cfg formatBatch s i ok
  | .tick => select s false
  | .stopSignal => if s.stopping then select s true else s
  | .contextDone => select s true
  | .loop ok => runLoop cfg formatBatch s ok
  | .stop => { s with stopping := true, stops := s.shared.log.length :: s.stops }
  | .stopReturns mark =>
    match s.loop with
    | .done => { s with stops := s.stops.erase mark }
    | .waiting | .flushing .. => s
  | .stopTimesOut mark => { s with stops := s.stops.erase mark }

-- ---------------------------------------------------------------------------
-- Conservation
-- ---------------------------------------------------------------------------

def Flush.held : Flush α → List (Entry α)
  | .taking => []
  | .sending batch _ => batch

def Goroutine.held : Goroutine α → List (Entry α)
  | .flushing f => f.held
  | .started | .releasing | .ended => []

def FlushLoop.held : FlushLoop α → List (Entry α)
  | .flushing f _ => f.held
  | .waiting | .done => []

/-- A call of `Stop` returns since the loop is done. -/
def Returns (s : Forwarder α) (a : Action α) (mark : Nat) : Prop :=
  a = .stopReturns mark ∧ s.loop = .done ∧ mark ∈ s.stops

/-- Every event forwarded before the call is in one delivered batch. -/
def Conserved [DecidableEq α] (s : Forwarder α) (mark : Nat) : Prop :=
  ∀ e ∈ s.shared.log.take mark, s.shared.delivered.flatten.count e = 1

/-- No event forwarded before the call is still in the buffer, or with a flush that `Forward` has
started, or was given up. -/
def Settled (s : Forwarder α) (mark : Nat) : Prop :=
  ∀ e ∈ s.shared.log.take mark, e ∉ s.shared.buffer ∧ (∀ g ∈ s.flushes, e ∉ g.held) ∧
    ∀ batch ∈ s.shared.dropped, e ∉ batch

/-- What is held where a flush is, if it has not returned. -/
def heldBy (f : Option (Flush α)) : List (Entry α) := f.elim [] Flush.held

-- ---------------------------------------------------------------------------
-- A flush
-- ---------------------------------------------------------------------------

/-- How often an entry is delivered, given up or in the buffer. -/
def weight [DecidableEq α] (s : Shared α) (e : Entry α) : Nat :=
  s.delivered.flatten.count e + s.dropped.flatten.count e + s.buffer.count e

/-- What one step of a flush may do: nothing is lost, a batch is what it was taken as. -/
structure Moved [DecidableEq α] (s s' : Shared α) (held held' : List (Entry α)) : Prop where
  log       : s'.log = s.log
  count     : ∀ e, weight s' e + held'.count e = weight s e + held.count e
  takes     : held' = [] ∨ held' = held ∨ held' = s.buffer
  buffer    : s'.buffer = [] ∨ s'.buffer = s.buffer
  delivered : ∀ batch ∈ s'.delivered, batch ∈ s.delivered ∨ batch = held

theorem flush_moved [DecidableEq α] (s : Shared α) (ok : Bool) (f : Flush α) :
    Moved s (flush cfg formatBatch s ok f).1 f.held (heldBy (flush cfg formatBatch s ok f).2) := by
  cases f with
  | taking =>
    unfold flush
    dsimp only
    split_ifs
    · exact ⟨rfl, fun _ => rfl, .inl rfl, .inr rfl, fun _ h => .inl h⟩
    · refine ⟨rfl, fun e => ?_, .inr (.inr rfl), .inl rfl, fun _ h => .inl h⟩
      simp [weight, heldBy, Flush.held]
    · refine ⟨rfl, fun e => ?_, .inl rfl, .inl rfl, fun _ h => .inl h⟩
      simp [weight, heldBy, Flush.held]
      omega
  | sending batch attempt =>
    unfold flush
    dsimp only
    split_ifs
    · refine ⟨rfl, fun e => ?_, .inl rfl, .inr rfl, fun b hb => ?_⟩
      · simp [weight, heldBy, Flush.held]
        omega
      · rcases List.mem_append.mp hb with h | h
        · exact .inl h
        · exact .inr (List.mem_singleton.mp h)
    · exact ⟨rfl, fun _ => rfl, .inr (.inl rfl), .inr rfl, fun _ h => .inl h⟩
    · refine ⟨rfl, fun e => ?_, .inl rfl, .inr rfl, fun _ h => .inl h⟩
      simp [weight, heldBy, Flush.held]
      omega

theorem flush_log [DecidableEq α] (shared : Shared α) (ok : Bool) (f : Flush α) :
    (flush cfg formatBatch shared ok f).1.log = shared.log :=
  (flush_moved cfg formatBatch shared ok f).log

-- ---------------------------------------------------------------------------
-- Steps
-- ---------------------------------------------------------------------------

/-- A goroutine that has no batch. -/
def Goroutine.Idle : Goroutine α → Prop
  | .flushing (.sending ..) => False
  | .started | .flushing .taking | .releasing | .ended => True

/-- Where a goroutine is after a step of its flush. -/
def Goroutine.after (f : Option (Flush α)) : Goroutine α := f.elim .releasing .flushing

def FlushLoop.after (final : Bool) (f : Option (Flush α)) : FlushLoop α :=
  f.elim (if final then .done else .waiting) (.flushing · final)

theorem Goroutine.Idle.held {g : Goroutine α} (h : g.Idle) : g.held = [] := by
  cases g with
  | flushing f =>
    cases f with
    | taking => rfl
    | sending batch attempt => exact h.elim
  | started | releasing | ended => rfl

theorem Goroutine.held_after (f : Option (Flush α)) : (after f).held = heldBy f := by
  cases f <;> rfl

theorem FlushLoop.held_after (final : Bool) (f : Option (Flush α)) :
    (after final f).held = heldBy f := by
  cases f with
  | none => cases final <;> rfl
  | some f => rfl

/-- What an action may do: between two steps of a flush, nobody has anything to send. -/
inductive Does (s : Forwarder α) : Action α → Forwarder α → Prop where
  | forwards (event : α) : Does s (.forward event) (forward cfg s event)
  | stays {a : Action α} (stopping : Bool) (stops : List Nat) : Does s a { s with stopping, stops }
  | turns {i : Nat} {ok : Bool} {g g' : Goroutine α} (flushSem : Bool) (hg : s.flushes[i]? = some g)
      (hidle : g.Idle) (hidle' : g'.Idle) :
      Does s (.goroutine i ok) { s with flushSem, flushes := s.flushes.set i g' }
  | flushes {i : Nat} {ok : Bool} {f : Flush α} (hg : s.flushes[i]? = some (.flushing f)) :
      Does s (.goroutine i ok) { s with
        shared := (flush cfg formatBatch s.shared ok f).1
        flushes := s.flushes.set i (.after (flush cfg formatBatch s.shared ok f).2) }
  | selects {a : Action α} (final : Bool) (hloop : s.loop = .waiting) :
      Does s a { s with loop := .flushing .taking final }
  | loops {ok final : Bool} {f : Flush α} (hloop : s.loop = .flushing f final) :
      Does s (.loop ok) { s with
        shared := (flush cfg formatBatch s.shared ok f).1
        loop := .after final (flush cfg formatBatch s.shared ok f).2 }

theorem does_goroutine (s : Forwarder α) (i : Nat) (ok : Bool) :
    Does cfg formatBatch s (.goroutine i ok) (runGoroutine cfg formatBatch s i ok) := by
  unfold runGoroutine
  cases hg : s.flushes[i]? with
  | none => exact .stays s.stopping s.stops
  | some g =>
    cases g with
    | started =>
      dsimp only
      split_ifs
      · exact .turns s.flushSem hg trivial trivial
      · exact .turns true hg trivial trivial
    | flushing f =>
      have hdoes : Does cfg formatBatch s (.goroutine i ok) _ := .flushes hg
      dsimp only
      split <;> rename_i hflush <;> rw [hflush] at hdoes <;> exact hdoes
    | releasing => exact .turns false hg trivial trivial
    | ended => exact .stays s.stopping s.stops

theorem does_loop (s : Forwarder α) (ok : Bool) :
    Does cfg formatBatch s (.loop ok) (runLoop cfg formatBatch s ok) := by
  unfold runLoop
  cases hloop : s.loop with
  | waiting => exact .stays s.stopping s.stops
  | done => exact .stays s.stopping s.stops
  | flushing f final =>
    have hdoes : Does cfg formatBatch s (.loop ok) _ := .loops hloop
    dsimp only
    split <;> rename_i hflush <;> rw [hflush] at hdoes <;> exact hdoes

theorem does_select (s : Forwarder α) (final : Bool) (a : Action α) :
    Does cfg formatBatch s a (select s final) := by
  unfold select
  cases hloop : s.loop with
  | waiting => exact .selects final hloop
  | flushing f final' => exact .stays s.stopping s.stops
  | done => exact .stays s.stopping s.stops

theorem does_step (s : Forwarder α) (a : Action α) :
    Does cfg formatBatch s a (step cfg formatBatch s a) := by
  cases a with
  | forward event => exact .forwards event
  | goroutine i ok => exact does_goroutine cfg formatBatch s i ok
  | loop ok => exact does_loop cfg formatBatch s ok
  | tick => exact does_select cfg formatBatch s false _
  | stopSignal =>
    dsimp only [step]
    split_ifs
    · exact does_select cfg formatBatch s true _
    · exact .stays s.stopping s.stops
  | contextDone => exact does_select cfg formatBatch s true _
  | stop => exact .stays true _
  | stopReturns mark =>
    dsimp only [step]
    split
    · exact .stays s.stopping _
    all_goals exact .stays s.stopping s.stops
  | stopTimesOut mark => exact .stays s.stopping _

-- ---------------------------------------------------------------------------
-- Where an entry is
-- ---------------------------------------------------------------------------

theorem sum_map_set {β : Type} (f : β → Nat) {l : List β} {i : Nat} {a : β} (b : β)
    (h : l[i]? = some a) : ((l.set i b).map f).sum + f a = (l.map f).sum + f b := by
  induction l generalizing i with
  | nil => simp at h
  | cons x l ih =>
    cases i with
    | zero =>
      rw [List.getElem?_cons_zero, Option.some.injEq] at h
      subst h
      simp only [List.set_cons_zero, List.map_cons, List.sum_cons]
      omega
    | succ i =>
      rw [List.getElem?_cons_succ] at h
      have hrest := ih h
      simp only [List.set_cons_succ, List.map_cons, List.sum_cons]
      omega

section Tally

variable [DecidableEq α] {s : Forwarder α}

/-- How often an entry is anywhere. -/
def tally (s : Forwarder α) (e : Entry α) : Nat :=
  weight s.shared e + (s.flushes.map fun g => g.held.count e).sum + s.loop.held.count e

theorem tally_forward (event : α) (e : Entry α) :
    tally (forward cfg s event) e + s.shared.log.count e =
      tally s e + (forward cfg s event).shared.log.count e := by
  have hflushes : ((forward cfg s event).flushes.map fun g => g.held.count e).sum =
      (s.flushes.map fun g => g.held.count e).sum := by
    unfold forward
    dsimp only
    split_ifs
    · simp [Goroutine.held]
    · rfl
  unfold tally
  rw [hflushes]
  simp only [forward, weight, List.count_append]
  omega

/-- A goroutine and what flushes share have changed. -/
theorem tally_set {i : Nat} {g g' : Goroutine α} {shared : Shared α} {flushSem : Bool}
    {e : Entry α} (hg : s.flushes[i]? = some g)
    (hcount : weight shared e + g'.held.count e = weight s.shared e + g.held.count e) :
    tally { s with shared, flushSem, flushes := s.flushes.set i g' } e = tally s e := by
  have hsum := sum_map_set (fun g : Goroutine α => g.held.count e) g' hg
  unfold tally
  dsimp only at hsum ⊢
  omega

/-- The loop and what flushes share have changed. -/
theorem tally_setLoop {loop : FlushLoop α} {shared : Shared α} {e : Entry α}
    (hcount : weight shared e + loop.held.count e = weight s.shared e + s.loop.held.count e) :
    tally { s with shared, loop } e = tally s e := by
  unfold tally
  dsimp only
  omega

end Tally

-- ---------------------------------------------------------------------------
-- Runs
-- ---------------------------------------------------------------------------

section Runs

variable [DecidableEq α] {s : Forwarder α}

theorem tally_step (s : Forwarder α) (a : Action α) (e : Entry α) :
    tally (step cfg formatBatch s a) e + s.shared.log.count e =
      tally s e + (step cfg formatBatch s a).shared.log.count e := by
  have hdoes := does_step cfg formatBatch s a
  generalize step cfg formatBatch s a = s' at hdoes ⊢
  cases hdoes with
  | forwards event => exact tally_forward cfg event e
  | stays stopping stops => rfl
  | turns flushSem hg hidle hidle' =>
    exact congrArg (· + _) (tally_set hg (by rw [hidle.held, hidle'.held]))
  | @flushes i ok f hg =>
    rw [flush_log]
    refine congrArg (· + _) (tally_set hg ?_)
    rw [Goroutine.held_after]
    exact (flush_moved cfg formatBatch s.shared ok f).count e
  | selects final hloop => exact congrArg (· + _) (tally_setLoop (by rw [hloop]; rfl))
  | @loops ok final f hloop =>
    rw [flush_log]
    refine congrArg (· + _) (tally_setLoop ?_)
    rw [FlushLoop.held_after, hloop]
    exact (flush_moved cfg formatBatch s.shared ok f).count e

/-- The batches are pieces of the log, and what is buffered is its end. -/
structure Segments (s : Forwarder α) : Prop where
  delivered : ∀ batch ∈ s.shared.delivered, batch <:+: s.shared.log
  flushes   : ∀ g ∈ s.flushes, g.held <:+: s.shared.log
  loop      : s.loop.held <:+: s.shared.log
  buffer    : s.shared.buffer <:+ s.shared.log

theorem Moved.segments {shared shared' : Shared α} {held held' : List (Entry α)}
    (h : Moved shared shared' held held') (hdelivered : ∀ b ∈ shared.delivered, b <:+: shared.log)
    (hheld : held <:+: shared.log) (hbuffer : shared.buffer <:+ shared.log) :
    (∀ b ∈ shared'.delivered, b <:+: shared'.log) ∧ held' <:+: shared'.log ∧
      shared'.buffer <:+ shared'.log := by
  rw [h.log]
  refine ⟨fun b hb => ?_, ?_, ?_⟩
  · rcases h.delivered b hb with hold | rfl
    · exact hdelivered b hold
    · exact hheld
  · rcases h.takes with hnil | hsame | htaken
    · rw [hnil]
      exact List.nil_infix
    · rw [hsame]
      exact hheld
    · rw [htaken]
      exact hbuffer.isInfix
  · rcases h.buffer with hnil | hsame
    · rw [hnil]
      exact List.nil_suffix
    · rw [hsame]
      exact hbuffer

theorem Segments.forward (h : Segments s) (event : α) : Segments (forward cfg s event) := by
  have hlonger : s.shared.log <+: s.shared.log ++ [⟨s.shared.log.length, event⟩] :=
    List.prefix_append _ _
  refine ⟨fun b hb => (h.delivered b hb).trans hlonger.isInfix, fun g hg => ?_,
    h.loop.trans hlonger.isInfix, ?_⟩
  · unfold SIEMForwarder.forward at hg
    dsimp only at hg
    split_ifs at hg
    · rcases List.mem_append.mp hg with hold | hnew
      · exact (h.flushes g hold).trans hlonger.isInfix
      · rw [List.mem_singleton.mp hnew]
        exact List.nil_infix
    · exact (h.flushes g hg).trans hlonger.isInfix
  · obtain ⟨before, hbefore⟩ := h.buffer
    refine ⟨before, ?_⟩
    show before ++ (s.shared.buffer ++ _) = s.shared.log ++ _
    rw [← List.append_assoc, hbefore]

theorem Segments.set (h : Segments s) {i : Nat} {g' : Goroutine α} {shared : Shared α}
    {flushSem : Bool} (hlog : shared.log = s.shared.log)
    (hshared : (∀ b ∈ shared.delivered, b <:+: shared.log) ∧ g'.held <:+: shared.log ∧
      shared.buffer <:+ shared.log) :
    Segments { s with shared, flushSem, flushes := s.flushes.set i g' } := by
  obtain ⟨hdelivered, hheld, hbuffer⟩ := hshared
  refine ⟨hdelivered, fun g hg => ?_, ?_, hbuffer⟩
  · rcases List.mem_or_eq_of_mem_set hg with hold | rfl
    · show g.held <:+: shared.log
      rw [hlog]
      exact h.flushes g hold
    · exact hheld
  · show s.loop.held <:+: shared.log
    rw [hlog]
    exact h.loop

theorem Segments.setLoop (h : Segments s) {loop : FlushLoop α} {shared : Shared α}
    (hlog : shared.log = s.shared.log)
    (hshared : (∀ b ∈ shared.delivered, b <:+: shared.log) ∧ loop.held <:+: shared.log ∧
      shared.buffer <:+ shared.log) : Segments { s with shared, loop } := by
  obtain ⟨hdelivered, hheld, hbuffer⟩ := hshared
  refine ⟨hdelivered, fun g hg => ?_, hheld, hbuffer⟩
  show g.held <:+: shared.log
  rw [hlog]
  exact h.flushes g hg

theorem Segments.nil (h : Segments s) : (∀ b ∈ s.shared.delivered, b <:+: s.shared.log) ∧
    [] <:+: s.shared.log ∧ s.shared.buffer <:+ s.shared.log :=
  ⟨h.delivered, List.nil_infix, h.buffer⟩

theorem Segments.step (h : Segments s) (a : Action α) : Segments (step cfg formatBatch s a) := by
  have hdoes := does_step cfg formatBatch s a
  generalize SIEMForwarder.step cfg formatBatch s a = s' at hdoes ⊢
  cases hdoes with
  | forwards event => exact h.forward cfg event
  | stays stopping stops => exact ⟨h.delivered, h.flushes, h.loop, h.buffer⟩
  | turns flushSem hg hidle hidle' => exact h.set rfl (by rw [hidle'.held]; exact h.nil)
  | @flushes i ok f hg =>
    have hmoved := flush_moved cfg formatBatch s.shared ok f
    have hheld : f.held <:+: s.shared.log := h.flushes _ (List.mem_of_getElem? hg)
    refine h.set hmoved.log ?_
    rw [Goroutine.held_after]
    exact hmoved.segments h.delivered hheld h.buffer
  | selects final hloop => exact h.setLoop rfl h.nil
  | @loops ok final f hloop =>
    have hmoved := flush_moved cfg formatBatch s.shared ok f
    have hheld : f.held <:+: s.shared.log := by
      have hpiece := h.loop
      rwa [hloop] at hpiece
    refine h.setLoop hmoved.log ?_
    rw [FlushLoop.held_after]
    exact hmoved.segments h.delivered hheld h.buffer

/-- What holds throughout a run. -/
structure Accounted (s : Forwarder α) : Prop where
  tally    : ∀ e, tally s e = s.shared.log.count e
  numbered : s.shared.log.map Entry.index = List.range s.shared.log.length
  segments : Segments s

theorem accounted_start : Accounted (start : Forwarder α) :=
  ⟨fun _ => rfl, rfl, ⟨fun _ h => absurd h List.not_mem_nil, fun _ h => absurd h List.not_mem_nil,
    List.nil_infix, List.nil_suffix⟩⟩

theorem Accounted.step (h : Accounted s) (a : Action α) :
    Accounted (step cfg formatBatch s a) := by
  refine ⟨fun e => ?_, ?_, h.segments.step cfg formatBatch a⟩
  · have hstep := tally_step cfg formatBatch s a e
    have hbefore := h.tally e
    omega
  · have hdoes := does_step cfg formatBatch s a
    generalize SIEMForwarder.step cfg formatBatch s a = s' at hdoes ⊢
    cases hdoes with
    | forwards event =>
      unfold forward
      rw [List.map_append, h.numbered, List.length_append, List.length_singleton, List.range_succ]
      rfl
    | flushes hg =>
      rw [flush_log]
      exact h.numbered
    | loops hloop =>
      rw [flush_log]
      exact h.numbered
    | stays | turns | selects => exact h.numbered

/-- What `Stop` needs when it returns, it needs exactly. -/
theorem conserved_iff_settled (h : Accounted s) (hdone : s.loop = .done) (mark : Nat) :
    Conserved s mark ↔ Settled s mark := by
  have hnodup : s.shared.log.Nodup := by
    have hindices : (s.shared.log.map Entry.index).Nodup := by
      rw [h.numbered]
      exact List.nodup_range
    exact List.Nodup.of_map _ hindices
  unfold Conserved Settled
  refine forall₂_congr fun e he => ?_
  have hone : s.shared.log.count e = 1 :=
    List.count_eq_one_of_mem hnodup (List.mem_of_mem_take he)
  have htally := h.tally e
  have hloop : s.loop.held.count e = 0 := by
    rw [hdone]
    rfl
  have hbuffer : e ∉ s.shared.buffer ↔ s.shared.buffer.count e = 0 := List.count_eq_zero.symm
  have hflushes : (∀ g ∈ s.flushes, e ∉ g.held) ↔
      (s.flushes.map fun g => g.held.count e).sum = 0 := by
    rw [List.sum_eq_zero_iff_forall_eq_nat]
    simp [List.count_eq_zero]
  have hdropped : (∀ batch ∈ s.shared.dropped, e ∉ batch) ↔
      s.shared.dropped.flatten.count e = 0 := by
    simp [List.count_eq_zero]
  rw [hbuffer, hflushes, hdropped]
  unfold tally weight at htally
  omega

end Runs

-- ---------------------------------------------------------------------------
-- Batches that are given up
-- ---------------------------------------------------------------------------

section Dropped

def Flush.attempt : Flush α → Option Nat
  | .taking => none
  | .sending _ attempt => some attempt

def Goroutine.attempt : Goroutine α → Option Nat
  | .flushing f => f.attempt
  | .started | .releasing | .ended => none

def FlushLoop.attempt : FlushLoop α → Option Nat
  | .flushing f _ => f.attempt
  | .waiting | .done => none

/-- The attempt that an action ends, and how. -/
def sends (s : Forwarder α) : Action α → Option (Nat × Bool)
  | .goroutine i ok => ((s.flushes[i]?).bind Goroutine.attempt).map fun n => (n, ok)
  | .loop ok => s.loop.attempt.map fun n => (n, ok)
  | _ => none

/-- The endpoint fails fewer than `MaxRetries` times in a row. -/
def Endures (s : Forwarder α) (a : Action α) : Prop :=
  ∀ n, sends s a = some (n, false) → s.shared.failures + 1 < cfg.retries

/-- No batch is delivered while another flush has one to send. -/
def Undisturbed (s : Forwarder α) : Action α → Prop
  | .goroutine i true => ((s.flushes[i]?).bind Goroutine.attempt).isSome →
    s.loop.attempt = none ∧ ∀ j g, j ≠ i → s.flushes[j]? = some g → g.attempt = none
  | .loop true => s.loop.attempt.isSome → ∀ g ∈ s.flushes, g.attempt = none
  | _ => True

/-- Who has failed so often, has seen the endpoint fail as often; and what was given up could not
be formatted. -/
structure Patient (s : Forwarder α) : Prop where
  flushes : ∀ g ∈ s.flushes, ∀ n, g.attempt = some n → n ≤ s.shared.failures
  loop    : ∀ n, s.loop.attempt = some n → n ≤ s.shared.failures
  dropped : ∀ batch ∈ s.shared.dropped, formatBatch (batch.map Entry.event) = false

variable {s : Forwarder α}

def attemptBy (f : Option (Flush α)) : Option Nat := f.bind Flush.attempt

theorem Goroutine.Idle.attempt {g : Goroutine α} (h : g.Idle) : g.attempt = none := by
  cases g with
  | flushing f =>
    cases f with
    | taking => rfl
    | sending batch attempt => exact h.elim
  | started | releasing | ended => rfl

theorem Goroutine.attempt_after (f : Option (Flush α)) : (after f).attempt = attemptBy f := by
  cases f <;> rfl

theorem FlushLoop.attempt_after (final : Bool) (f : Option (Flush α)) :
    (after final f).attempt = attemptBy f := by
  cases f with
  | none => cases final <;> rfl
  | some f => rfl

/-- One step of a flush that fails no more often than the endpoint may. -/
theorem flush_patient {shared : Shared α} {ok : Bool} {f : Flush α}
    (hendures : ∀ n, f.attempt = some n → ok = false → shared.failures + 1 < cfg.retries)
    (hattempt : ∀ n, f.attempt = some n → n ≤ shared.failures)
    (hdropped : ∀ batch ∈ shared.dropped, formatBatch (batch.map Entry.event) = false) :
    (∀ n, attemptBy (flush cfg formatBatch shared ok f).2 = some n →
        n ≤ (flush cfg formatBatch shared ok f).1.failures) ∧
      (f.attempt.isSome = true ∧ ok = true ∨
        shared.failures ≤ (flush cfg formatBatch shared ok f).1.failures) ∧
      ∀ batch ∈ (flush cfg formatBatch shared ok f).1.dropped,
        formatBatch (batch.map Entry.event) = false := by
  cases f with
  | taking =>
    unfold flush
    dsimp only
    split_ifs with hempty hformat
    · exact ⟨fun n h => (by cases h), .inr (Nat.le_refl _), hdropped⟩
    · exact ⟨fun n h => (by cases h; exact Nat.zero_le _), .inr (Nat.le_refl _), hdropped⟩
    · refine ⟨fun n h => (by cases h), .inr (Nat.le_refl _), fun batch hbatch => ?_⟩
      rcases List.mem_append.mp hbatch with hold | hnew
      · exact hdropped batch hold
      · rw [List.mem_singleton.mp hnew]
        simpa using hformat
  | sending batch attempt =>
    have hle := hattempt attempt rfl
    unfold flush
    dsimp only
    split_ifs with hok hretry
    · exact ⟨fun n h => (by cases h), .inl ⟨rfl, hok⟩, hdropped⟩
    · refine ⟨fun n h => ?_, .inr (Nat.le_succ _), hdropped⟩
      cases h
      exact Nat.succ_le_succ hle
    · -- the last attempt would be one too many for the endpoint
      have henough := hendures attempt rfl (by simpa using hok)
      omega

theorem Patient.set (h : Patient formatBatch s) {i : Nat} {g' : Goroutine α} {shared : Shared α}
    {flushSem : Bool} (hattempt : ∀ n, g'.attempt = some n → n ≤ shared.failures)
    (hothers : s.shared.failures ≤ shared.failures ∨ s.loop.attempt = none ∧
      ∀ j g, j ≠ i → s.flushes[j]? = some g → g.attempt = none)
    (hdropped : ∀ batch ∈ shared.dropped, formatBatch (batch.map Entry.event) = false) :
    Patient formatBatch { s with shared, flushSem, flushes := s.flushes.set i g' } := by
  refine ⟨fun g hg n hn => ?_, fun n hn => ?_, hdropped⟩
  · obtain ⟨j, hj⟩ := List.mem_iff_getElem?.mp hg
    by_cases hji : j = i
    · subst hji
      dsimp only at hj
      rw [List.getElem?_set_self'] at hj
      obtain ⟨_, -, hx⟩ := Option.map_eq_some_iff.mp hj
      obtain rfl : g' = g := hx
      exact hattempt n hn
    · dsimp only at hj
      rw [List.getElem?_set_ne (Ne.symm hji)] at hj
      rcases hothers with hle | ⟨-, hnone⟩
      · exact Nat.le_trans (h.flushes g (List.mem_of_getElem? hj) n hn) hle
      · rw [hnone j g hji hj] at hn
        cases hn
  · rcases hothers with hle | ⟨hnone, -⟩
    · exact Nat.le_trans (h.loop n hn) hle
    · dsimp only at hn
      rw [hnone] at hn
      cases hn

theorem Patient.setLoop (h : Patient formatBatch s) {loop : FlushLoop α} {shared : Shared α}
    (hattempt : ∀ n, loop.attempt = some n → n ≤ shared.failures)
    (hothers : s.shared.failures ≤ shared.failures ∨ ∀ g ∈ s.flushes, g.attempt = none)
    (hdropped : ∀ batch ∈ shared.dropped, formatBatch (batch.map Entry.event) = false) :
    Patient formatBatch { s with shared, loop } := by
  refine ⟨fun g hg n hn => ?_, hattempt, hdropped⟩
  rcases hothers with hle | hnone
  · exact Nat.le_trans (h.flushes g hg n hn) hle
  · rw [hnone g hg] at hn
    cases hn

theorem Patient.forward (h : Patient formatBatch s) (event : α) :
    Patient formatBatch (forward cfg s event) := by
  refine ⟨fun g hg => ?_, h.loop, h.dropped⟩
  dsimp only [SIEMForwarder.forward] at hg
  split_ifs at hg
  · rcases List.mem_append.mp hg with hold | hnew
    · exact h.flushes g hold
    · rw [List.mem_singleton.mp hnew]
      exact fun n hn => (by cases hn)
  · exact h.flushes g hg

theorem Patient.step (h : Patient formatBatch s) {a : Action α} (hendures : Endures cfg s a)
    (hundisturbed : Undisturbed s a) : Patient formatBatch (step cfg formatBatch s a) := by
  have hsame : s.shared.failures ≤ s.shared.failures := Nat.le_refl _
  have hdoes := does_step cfg formatBatch s a
  generalize SIEMForwarder.step cfg formatBatch s a = s' at hdoes ⊢
  cases hdoes with
  | forwards event => exact h.forward cfg formatBatch event
  | stays stopping stops => exact ⟨h.flushes, h.loop, h.dropped⟩
  | turns flushSem hg hidle hidle' =>
    refine h.set formatBatch (fun n hn => ?_) (.inl hsame) h.dropped
    rw [hidle'.attempt] at hn
    cases hn
  | @flushes i ok f hg =>
    have hnow : ∀ n, f.attempt = some n → sends s (.goroutine i ok) = some (n, ok) := by
      intro n hn
      simp [sends, hg, Goroutine.attempt, hn]
    obtain ⟨hattempt, hfailures, hdropped⟩ := flush_patient cfg formatBatch
      (fun n hn hok => hendures n (hok ▸ hnow n hn))
      (h.flushes _ (List.mem_of_getElem? hg)) h.dropped
    rw [← Goroutine.attempt_after] at hattempt
    refine h.set formatBatch hattempt ?_ hdropped
    rcases hfailures with ⟨hsome, rfl⟩ | hle
    · exact .inr (hundisturbed (by rw [hg]; exact hsome))
    · exact .inl hle
  | selects final hloop =>
    exact h.setLoop formatBatch (fun n hn => (by cases hn)) (.inl hsame) h.dropped
  | @loops ok final f hloop =>
    have hnow : ∀ n, f.attempt = some n → sends s (.loop ok) = some (n, ok) := by
      intro n hn
      simp [sends, hloop, FlushLoop.attempt, hn]
    obtain ⟨hattempt, hfailures, hdropped⟩ := flush_patient cfg formatBatch
      (fun n hn hok => hendures n (hok ▸ hnow n hn))
      (fun n hn => h.loop n (by rw [hloop]; exact hn)) h.dropped
    rw [← FlushLoop.attempt_after final] at hattempt
    refine h.setLoop formatBatch hattempt ?_ hdropped
    rcases hfailures with ⟨hsome, rfl⟩ | hle
    · exact .inr (hundisturbed (by rw [hloop]; exact hsome))
    · exact .inl hle

/-- **What is given up** could not be formatted, if the endpoint fails fewer than `MaxRetries` times
in a row and no flush is disturbed by the success of another. -/
theorem dropped_only (actions : List (Action α))
    (hendures : StepsOk (step cfg formatBatch) (Endures cfg) start actions)
    (hundisturbed : StepsOk (step cfg formatBatch) Undisturbed start actions) :
    ∀ s ∈ states (step cfg formatBatch) start actions,
      ∀ batch ∈ s.shared.dropped, formatBatch (batch.map Entry.event) = false := by
  have hpatient : ∀ s ∈ states (step cfg formatBatch) start actions, Patient formatBatch s := by
    refine invariant_states (fun s a h hok => h.step cfg formatBatch hok.1 hok.2) ?_
      (hendures.and hundisturbed)
    exact ⟨fun _ h => absurd h List.not_mem_nil, fun _ h => (by cases h),
      fun _ h => absurd h List.not_mem_nil⟩
  exact fun s hs => (hpatient s hs).dropped

end Dropped

-- ---------------------------------------------------------------------------
-- A batch of one
-- ---------------------------------------------------------------------------

namespace Sample

/-- An event fills a batch; the goroutine that takes it has not sent it when `Stop` returns. -/
def inFlight : List (Action String) :=
  [.forward "login", .goroutine 0 true, .goroutine 0 true, .stop, .stopSignal, .loop true,
    .stopReturns 1]

end Sample

end Ggid.Audit.SIEMForwarder
