import Ggid.Gateway.SlidingRateLimit
import Ggid.Lib.WindowLog

/-!
# Gateway — the sliding window limiter

`SlidingWindowLimiter.Middleware` over the store in memory, for one tenant and one tier. Health
checks and the documentation are let through before the store is asked.

* `Keeps.request`, `Keeps.evict` — what is kept of the arrivals;
* `judged_run`                   — a run judges each arrival by those in the window before it;
* `limits_run`                   — what is admitted and what is rejected.
-/

namespace Ggid.Gateway

open Ggid.Go Ggid.Lib

-- ---------------------------------------------------------------------------
-- `SlidingWindowLimiter`
-- ---------------------------------------------------------------------------

structure SlidingWindowTierLimit where
  requests : Int
  window   : Int

/-- The limits, by tier. -/
structure SlidingWindowConfig where
  tiers     : String → Option SlidingWindowTierLimit
  keyPrefix : String

/-- What the middleware reads of a request: the path, and the tenant and the tier of its context,
`""` where there is none. -/
structure SlidingRequest where
  path     : String
  tenantID : String
  tier     : String

/-- The headers `X-RateLimit-*`. -/
structure RateLimitHeaders where
  limit     : Int
  remaining : Int
  reset     : Int
  tier      : String

/-- The next handler, or a rejection; its `Retry-After` reads the clock again and is left out. -/
inductive SlidingAnswer where
  | served (headers : Option RateLimitHeaders)
  | tooManyRequests (headers : RateLimitHeaders)

/-- Health checks and documentation. -/
def exemptPaths : List String := ["/healthz", "/healthz/live", "/healthz/ready", "/docs"]

def SlidingRequest.exempt (r : SlidingRequest) : Bool := exemptPaths.contains r.path

def SlidingRequest.tenant (r : SlidingRequest) : String :=
  if r.tenantID = "" then "anonymous" else r.tenantID

def SlidingRequest.tierName (r : SlidingRequest) : String := if r.tier = "" then "free" else r.tier

/-- An unknown tier has the limit of the free one; a map without it has the zero value. -/
def SlidingWindowConfig.limitFor (cfg : SlidingWindowConfig) (tier : String) :
    SlidingWindowTierLimit :=
  match cfg.tiers tier with
  | some limit => limit
  | none => (cfg.tiers "free").getD ⟨0, 0⟩

def SlidingWindowConfig.key (cfg : SlidingWindowConfig) (tenant tier : String) : String :=
  cfg.keyPrefix ++ tenant ++ ":" ++ tier

/-- The store in memory returns no errors. -/
def SlidingWindowConfig.middleware (cfg : SlidingWindowConfig) (s : MemoryRateLimitStore)
    (r : SlidingRequest) (now : Time) : MemoryRateLimitStore × SlidingAnswer :=
  if r.exempt then (s, .served none)
  else
    let limit := cfg.limitFor r.tierName
    if limit.requests = 0 then (s, .served none)
    else
      let (s, count) := s.countAndAdd (cfg.key r.tenant r.tierName) (now - limit.window) now
      let headers : RateLimitHeaders :=
        ⟨limit.requests, max 0 (limit.requests - count - 1), (now + limit.window) / second,
          r.tierName⟩
      if limit.requests ≤ count then (s, .tooManyRequests headers) else (s, .served (some headers))

inductive SlidingEvent where
  | request (r : SlidingRequest) (now : Time)
  | evictStaleBuckets (now : Time)

def SlidingEvent.time : SlidingEvent → Time
  | .request _ now => now
  | .evictStaleBuckets now => now

def SlidingAnswer.admitted : SlidingAnswer → Bool
  | .served _ => true
  | .tooManyRequests _ => false

/-- The requests of a run that `counted` selects: when they came, and whether they were admitted. -/
def slidingRun (cfg : SlidingWindowConfig) (counted : SlidingRequest → Bool) :
    MemoryRateLimitStore → List SlidingEvent → List (Arrival Time)
  | _, [] => []
  | s, .evictStaleBuckets now :: events => slidingRun cfg counted (s.evictStaleBuckets now) events
  | s, .request r now :: events =>
    let (s', answer) := cfg.middleware s r now
    if counted r then ⟨now, answer.admitted⟩ :: slidingRun cfg counted s' events
    else slidingRun cfg counted s' events

-- ---------------------------------------------------------------------------
-- What the store keeps
-- ---------------------------------------------------------------------------

open MemoryRateLimitStore

/-- The bucket has what arrived in the window before now, and before any later time. -/
structure Keeps (window now : Time) (earlier bucket : List Time) : Prop where
  past   : ∀ t ∈ earlier, t ≤ now
  sorted : bucket.Pairwise (· ≤ ·)
  among  : ∀ t ∈ bucket, t ∈ earlier
  recent : ∀ later, now ≤ later →
    bucket.filter (fun ts => later - window < ts) = earlier.filter fun ts => later - window < ts

section Keeping

variable {window now later : Time} {earlier bucket : List Time}

theorem Keeps.wait (h : Keeps window now earlier bucket) (hle : now ≤ later) :
    Keeps window later earlier bucket where
  past   := fun t ht => (h.past t ht).trans hle
  sorted := h.sorted
  among  := h.among
  recent := fun t ht => h.recent t (hle.trans ht)

/-- What is left of a bucket, and the request that is added. -/
theorem Keeps.request (h : Keeps window now earlier bucket) (hle : now ≤ later) :
    Keeps window later (earlier ++ [later])
      ((bucket.filter fun ts => later - window < ts) ++ [later]) := by
  refine ⟨fun t ht => ?_, ?_, fun t ht => ?_, fun t ht => ?_⟩
  · rcases List.mem_append.mp ht with ht | ht
    · exact (h.past t ht).trans hle
    · exact (List.mem_singleton.mp ht).le
  · refine List.pairwise_append.mpr ⟨h.sorted.filter _, List.pairwise_singleton _ _, ?_⟩
    intro t ht u hu
    rw [List.mem_singleton.mp hu]
    exact (h.past t (h.among t (List.mem_filter.mp ht).1)).trans hle
  · rcases List.mem_append.mp ht with ht | ht
    · exact List.mem_append_left _ (h.among t (List.mem_filter.mp ht).1)
    · exact List.mem_append_right _ ht
  · -- what the compaction drops is not in a later window either
    have hkept : (bucket.filter fun ts => later - window < ts).filter (fun ts => t - window < ts) =
        bucket.filter fun ts => t - window < ts := by
      rw [List.filter_filter]
      refine List.filter_congr fun ts _ => ?_
      have himp : t - window < ts → later - window < ts :=
        lt_of_le_of_lt (Int.sub_le_sub_right ht window)
      by_cases hts : t - window < ts <;> simp [hts, himp]
    rw [List.filter_append, List.filter_append, hkept, h.recent t (hle.trans ht)]

/-- A bucket that is removed has nothing of the window. -/
theorem Keeps.evict (h : Keeps window now earlier bucket) (hle : now ≤ later)
    (hwindow : window ≤ 60 * minute) (hstale : stale later bucket = true) :
    Keeps window later earlier [] := by
  refine ⟨fun t ht => (h.past t ht).trans hle, List.Pairwise.nil, by simp, fun t ht => ?_⟩
  have hnone : bucket.filter (fun ts => t - window < ts) = [] := by
    rw [List.filter_eq_nil_iff]
    intro ts hts hrecent
    have hhour : later - 60 * minute ≤ ts :=
      ((Int.sub_le_sub_left hwindow later).trans (Int.sub_le_sub_right ht window)).trans
        (of_decide_eq_true hrecent).le
    exact absurd hts (List.count_eq_zero.mp (count_of_stale h.sorted hstale hhour))
  rw [← h.recent t (hle.trans ht), hnone]
  rfl

/-- What is counted. -/
theorem Keeps.count (h : Keeps window now earlier bucket) (hle : now ≤ later) :
    ((bucket.filter fun ts => later - window < ts).length : Int) =
      Ggid.Lib.recent window later earlier := by
  rw [h.recent later hle, Ggid.Lib.recent, List.countP_eq_length_filter]

end Keeping

-- ---------------------------------------------------------------------------
-- Runs
-- ---------------------------------------------------------------------------

/-- A run of one tenant and one tier. -/
def OneTenant (tenant tier : String) (events : List SlidingEvent) : Prop :=
  ∀ r now, SlidingEvent.request r now ∈ events → r.tenant = tenant ∧ r.tierName = tier

section Runs

variable {cfg : SlidingWindowConfig} {tenant tier : String} {N W : Int}

/-- A request that is not exempt. -/
theorem middleware_eq {s : MemoryRateLimitStore} {r : SlidingRequest} {now : Time}
    (hlimit : cfg.limitFor r.tierName = ⟨N, W⟩) (hN : 1 ≤ N) (hexempt : r.exempt = false) :
    (cfg.middleware s r now).1 = (s.countAndAdd (cfg.key r.tenant r.tierName) (now - W) now).1 ∧
      ((cfg.middleware s r now).2.admitted = true ↔
        ((s.countAndAdd (cfg.key r.tenant r.tierName) (now - W) now).2 : Int) < N) := by
  have hne : N ≠ 0 := by omega
  rw [SlidingWindowConfig.middleware, if_neg (by simp [hexempt]), hlimit]
  dsimp only
  rw [if_neg hne]
  split_ifs with hfull
  · exact ⟨rfl, by simpa [SlidingAnswer.admitted] using hfull⟩
  · exact ⟨rfl, by simpa [SlidingAnswer.admitted] using hfull⟩

/-- **A run** judges each arrival by those in the window before it. -/
theorem judged_run (hlimit : cfg.limitFor tier = ⟨N, W⟩) (hN : 1 ≤ N) (hW : W ≤ 60 * minute)
    {events : List SlidingEvent} (hone : OneTenant tenant tier events)
    (htimes : events.Pairwise fun e e' => e.time ≤ e'.time) {s : MemoryRateLimitStore} {now : Time}
    {earlier : List Time} (hkeeps : Keeps W now earlier (s.timestamps (cfg.key tenant tier)))
    (hlater : ∀ e ∈ events, now ≤ e.time) :
    Judged N W earlier (slidingRun cfg (fun r => !r.exempt) s events) := by
  induction events generalizing s now earlier with
  | nil => trivial
  | cons e events ih =>
    rw [List.pairwise_cons] at htimes
    have hle := hlater e List.mem_cons_self
    have hrest : OneTenant tenant tier events :=
      fun r now hr => hone r now (List.mem_cons_of_mem _ hr)
    cases e with
    | evictStaleBuckets t =>
      have hnext : Keeps W t earlier
          ((s.evictStaleBuckets t).timestamps (cfg.key tenant tier)) := by
        rw [timestamps_evict]
        split_ifs with hstale
        · exact hkeeps.evict hle hW hstale
        · exact hkeeps.wait hle
      rw [slidingRun]
      exact ih hrest htimes.2 hnext htimes.1
    | request r t =>
      obtain ⟨rfl, rfl⟩ := hone r t List.mem_cons_self
      rw [slidingRun]
      dsimp only
      cases hexempt : r.exempt with
      | true =>
        have hsame : (cfg.middleware s r t).1 = s := by
          rw [SlidingWindowConfig.middleware, if_pos hexempt]
        rw [if_neg (by simp), hsame]
        exact ih hrest htimes.2 hkeeps fun e he => hlater e (List.mem_cons_of_mem _ he)
      | false =>
        have hnext : Keeps W t (earlier ++ [t]) ((s.countAndAdd (cfg.key r.tenant r.tierName)
            (t - W) t).1.timestamps (cfg.key r.tenant r.tierName)) := by
          rw [timestamps_countAndAdd, if_pos rfl]
          exact hkeeps.request hle
        obtain ⟨hstore, hadmitted⟩ := @middleware_eq cfg N W s r t hlimit hN hexempt
        rw [if_pos (by simp), hstore]
        refine ⟨?_, ih hrest htimes.2 hnext htimes.1⟩
        have hcount := hkeeps.count hle
        rw [SlidingEvent.time] at hcount
        rw [hadmitted, ← hcount]
        rfl

/-- At most `N` are admitted in every `(t - W, t]`, and what is rejected has `N` arrivals in the
window before it. -/
structure WindowLimited (N W : Int) (arrivals : List (Arrival Time)) : Prop where
  bounded   : ∀ t, admittedIn W t arrivals ≤ N
  justified : ∀ before a after, arrivals = before ++ a :: after → a.admitted = false →
    N ≤ recent W a.time (before.map Arrival.time)

/-- **The limit** of the requests to paths that are not exempt, over a run of one tenant and one
tier, with passes of the eviction anywhere in between. -/
theorem limits_run (hlimit : cfg.limitFor tier = ⟨N, W⟩) (hN : 1 ≤ N) (hW : W ≤ 60 * minute)
    {events : List SlidingEvent} (hone : OneTenant tenant tier events)
    (htimes : events.Pairwise fun e e' => e.time ≤ e'.time) (clock : Time) :
    WindowLimited N W (slidingRun cfg (fun r => !r.exempt) (.start clock) events) := by
  have hjudged : Judged N W [] (slidingRun cfg (fun r => !r.exempt) (.start clock) events) := by
    cases events with
    | nil => trivial
    | cons e events =>
      have hstart : Keeps W e.time []
          ((MemoryRateLimitStore.start clock).timestamps (cfg.key tenant tier)) :=
        ⟨by simp, List.Pairwise.nil, fun _ h => h, fun _ _ => rfl⟩
      refine judged_run hlimit hN hW hone htimes hstart fun e' he' => ?_
      rcases List.mem_cons.mp he' with rfl | he'
      · exact le_refl _
      · exact (List.pairwise_cons.mp htimes).1 e' he'
  refine ⟨hjudged.admittedIn_le (by omega), fun before a after harrivals hrejected => ?_⟩
  rw [harrivals] at hjudged
  exact hjudged.of_refused hrejected

end Runs

namespace Sample

/-- One request a minute. -/
def oneAMinute : SlidingWindowConfig :=
  ⟨fun tier => if tier = "free" then some ⟨1, minute⟩ else none, "ratelimit:"⟩

def probe : SlidingRequest := ⟨"/healthz", "acme", ""⟩

def search : SlidingRequest := ⟨"/api/v1/users", "acme", ""⟩

end Sample

open Sample

theorem limits_run_search : WindowLimited 1 minute
    (slidingRun oneAMinute (fun r => !r.exempt) (.start 0)
      [.request search 0, .request search 0, .evictStaleBuckets 0]) := by
  refine @limits_run oneAMinute "acme" "free" 1 minute rfl (by decide) (by decide) _ ?_ ?_ 0
  · intro r now hr
    obtain ⟨rfl, -⟩ : r = search ∧ now = 0 := by simpa using hr
    decide
  · simp [SlidingEvent.time]

/-- Two health checks at once pass a limit of one. -/
theorem healthz_not_limited : ¬ WindowLimited 1 minute
    (slidingRun oneAMinute (fun _ => true) (.start 0) [.request probe 0, .request probe 0]) := by
  intro h
  exact absurd (h.bounded 0) (by decide)

end Ggid.Gateway
