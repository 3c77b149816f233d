import Ggid.Go.Value
import Ggid.Lib.Run
import Mathlib.Data.List.Induction
import Mathlib.Logic.Function.Basic
import Mathlib.Tactic.SplitIfs

/-!
# Gateway — limits in several dimensions

Requests are counted by tenant, user, key, address and endpoint, for each in a window of a minute
and one of an hour. A request that finds a window full is rejected, with one time at which it may be
repeated: of the dimensions that are full, the earliest time at which the window that was found
first is over.

* `foldl_checkDim`      — what the loop over the dimensions finds;
* `repeated_allowed_iff` — when a rejected request is allowed again;
* `retries_iff`         — a time that is reported is late enough exactly if no full window is over
  later than another dimension's that is reported.
-/

namespace Ggid.Gateway

open Ggid.Go Ggid.Lib

-- ---------------------------------------------------------------------------
-- `MultiDimRateLimiter`
-- ---------------------------------------------------------------------------

inductive Dimension
  | tenant
  | user
  | apiKey
  | ip
  | endpoint
  deriving DecidableEq

def Dimension.name : Dimension → String
  | .tenant => "tenant"
  | .user => "user"
  | .apiKey => "api_key"
  | .ip => "ip"
  | .endpoint => "endpoint"

structure MultiDimRateLimit where
  burstPerMin      : Int
  sustainedPerHour : Int

structure MultiDimTierConfig where
  tenant   : MultiDimRateLimit
  user     : MultiDimRateLimit
  apiKey   : MultiDimRateLimit
  ip       : MultiDimRateLimit
  endpoint : MultiDimRateLimit

structure DimBucket where
  burstCount        : Int
  burstExpireAt     : Time
  sustainedCount    : Int
  sustainedExpireAt : Time

/-- The buckets, by dimension and value. -/
abbrev DimBuckets := String → Option DimBucket

/-- The dimension is none, `""`, where nothing is limited. -/
structure RateLimitResult where
  allowed   : Bool
  dimension : Option Dimension
  limit     : Int
  remaining : Int
  resetAt   : Time

/-- `RateLimitResult{Allowed: true}`. -/
def RateLimitResult.unlimited : RateLimitResult := ⟨true, none, 0, 0, Time.zero⟩

/-- The arguments of `Check`, less the tier. -/
structure DimValues where
  tenantID : String
  userID   : String
  apiKey   : String
  ip       : String
  endpoint : String

structure DimCheck where
  dim   : Dimension
  val   : String
  limit : MultiDimRateLimit

def DimCheck.key (c : DimCheck) : String := c.dim.name ++ ":" ++ c.val

def dimChecks (cfg : MultiDimTierConfig) (values : DimValues) : List DimCheck :=
  [⟨.tenant, values.tenantID, cfg.tenant⟩, ⟨.user, values.userID, cfg.user⟩,
    ⟨.apiKey, values.apiKey, cfg.apiKey⟩, ⟨.ip, values.ip, cfg.ip⟩,
    ⟨.endpoint, values.endpoint, cfg.endpoint⟩]

/-- The bucket that `getOrCreate` returns: expired counters are reset. -/
def DimBucket.current (b : Option DimBucket) (now : Time) : DimBucket :=
  let b := b.getD ⟨0, now + minute, 0, now + 60 * minute⟩
  let b := if b.burstExpireAt < now then
    { b with burstCount := 0, burstExpireAt := now + minute } else b
  if b.sustainedExpireAt < now then
    { b with sustainedCount := 0, sustainedExpireAt := now + 60 * minute } else b

def getOrCreate (buckets : DimBuckets) (key : String) (now : Time) : DimBuckets × DimBucket :=
  let b := DimBucket.current (buckets key) now
  (Function.update buckets key (some b), b)

/-- The body of the first loop of `Check`. -/
def checkDim (now : Time) (state : DimBuckets × RateLimitResult) (c : DimCheck) :
    DimBuckets × RateLimitResult :=
  let (buckets, mostRestrictive) := state
  -- no limit or unlimited
  if c.val = "" ∨ c.limit.burstPerMin = 0 ∧ c.limit.sustainedPerHour = 0 then
    (buckets, mostRestrictive)
  else
    let (buckets, b) := getOrCreate buckets c.key now
    if 0 < c.limit.burstPerMin ∧ c.limit.burstPerMin ≤ b.burstCount then
      (buckets, if mostRestrictive.allowed ∨ b.burstExpireAt < mostRestrictive.resetAt then
        ⟨false, some c.dim, c.limit.burstPerMin, 0, b.burstExpireAt⟩ else mostRestrictive)
    else if 0 < c.limit.sustainedPerHour ∧ c.limit.sustainedPerHour ≤ b.sustainedCount then
      (buckets, if mostRestrictive.allowed ∨ b.sustainedExpireAt < mostRestrictive.resetAt then
        ⟨false, some c.dim, c.limit.sustainedPerHour, 0, b.sustainedExpireAt⟩ else mostRestrictive)
    else
      let remaining :=
        if c.limit.burstPerMin = 0 then c.limit.sustainedPerHour - b.sustainedCount - 1
        else c.limit.burstPerMin - b.burstCount - 1
      (buckets, if mostRestrictive.allowed ∧
          (mostRestrictive.limit = 0 ∨ remaining < mostRestrictive.remaining) then
        ⟨true, some c.dim, c.limit.burstPerMin, remaining, b.burstExpireAt⟩ else mostRestrictive)

/-- The body of the second. -/
def countDim (now : Time) (buckets : DimBuckets) (c : DimCheck) : DimBuckets :=
  if c.val = "" then buckets
  else
    let (buckets, b) := getOrCreate buckets c.key now
    Function.update buckets c.key (some { b with
      burstCount := b.burstCount + 1, sustainedCount := b.sustainedCount + 1 })

/-- `Check`, with the limits of the tiers. -/
def multiDimCheck (tiers : String → Option MultiDimTierConfig) (buckets : DimBuckets)
    (tier : String) (values : DimValues) (now : Time) : DimBuckets × RateLimitResult :=
  match tiers tier with
  | none => (buckets, .unlimited)
  | some cfg =>
    let checks := dimChecks cfg values
    let (buckets, mostRestrictive) := checks.foldl (checkDim now) (buckets, .unlimited)
    if mostRestrictive.allowed then (checks.foldl (countDim now) buckets, mostRestrictive)
    else (buckets, mostRestrictive)

/-- One tick of `cleanup`. -/
def multiDimCleanup (buckets : DimBuckets) (now : Time) : DimBuckets :=
  fun key => (buckets key).filter fun b => !(b.burstExpireAt < now && b.sustainedExpireAt < now)

/-- The header `Retry-After`, when it is written. -/
def retryAfterHeader (resetAt now : Time) : Int := (resetAt - now).tdiv second + 1

inductive MultiDimEvent where
  | check (tier : String) (values : DimValues) (now : Time)
  | cleanup (now : Time)

def multiDimStep (tiers : String → Option MultiDimTierConfig) (buckets : DimBuckets) :
    MultiDimEvent → DimBuckets
  | .check tier values now => (multiDimCheck tiers buckets tier values now).1
  | .cleanup now => multiDimCleanup buckets now

-- ---------------------------------------------------------------------------
-- Full windows
-- ---------------------------------------------------------------------------

inductive RateWindow
  | burst
  | sustained

def RateWindow.length : RateWindow → Int
  | .burst => minute
  | .sustained => 60 * minute

def MultiDimRateLimit.of (limit : MultiDimRateLimit) : RateWindow → Int
  | .burst => limit.burstPerMin
  | .sustained => limit.sustainedPerHour

namespace DimBucket

def count (b : DimBucket) : RateWindow → Int
  | .burst => b.burstCount
  | .sustained => b.sustainedCount

def expireAt (b : DimBucket) : RateWindow → Time
  | .burst => b.burstExpireAt
  | .sustained => b.sustainedExpireAt

end DimBucket

/-- The window is limited and full. -/
def DimCheck.full (c : DimCheck) (b : DimBucket) (w : RateWindow) : Prop :=
  c.val ≠ "" ∧ 0 < c.limit.of w ∧ c.limit.of w ≤ b.count w

/-- The window of a full dimension that the loop reports: the first of the two that is full. -/
def DimCheck.reported (c : DimCheck) (b : DimBucket) : Time :=
  if 0 < c.limit.burstPerMin ∧ c.limit.burstPerMin ≤ b.burstCount then b.burstExpireAt
  else b.sustainedExpireAt

/-- The bucket of the dimension, as a check finds it. -/
def bucketOf (buckets : DimBuckets) (now : Time) (c : DimCheck) : DimBucket :=
  DimBucket.current (buckets c.key) now

variable {buckets buckets' : DimBuckets} {now later : Time} {c : DimCheck} {w : RateWindow}

/-- When a window is over, a new one begins in which nothing is counted. -/
theorem current_some (b : DimBucket) (now : Time) (w : RateWindow) :
    (DimBucket.current (some b) now).count w = (if b.expireAt w < now then 0 else b.count w) ∧
      (DimBucket.current (some b) now).expireAt w =
        if b.expireAt w < now then now + w.length else b.expireAt w := by
  unfold DimBucket.current
  by_cases hburst : b.burstExpireAt < now <;> by_cases hsustained : b.sustainedExpireAt < now <;>
    cases w <;> simp [hburst, hsustained, DimBucket.count, DimBucket.expireAt, RateWindow.length]

theorem current_none (now : Time) : DimBucket.current none now =
    ⟨0, now + minute, 0, now + 60 * minute⟩ := by
  unfold DimBucket.current
  have hminute : ¬ now + minute < now := by
    simp [minute]
  have hhour : ¬ now + 60 * minute < now := by
    simp [minute]
  simp [hminute, hhour]

theorem le_expireAt (b : Option DimBucket) (now : Time) (w : RateWindow) :
    now ≤ (DimBucket.current b now).expireAt w := by
  cases b with
  | none =>
    rw [current_none]
    cases w <;> simp [DimBucket.expireAt, minute]
  | some b =>
    rw [(current_some b now w).2]
    split_ifs with hover
    · cases w <;> simp [RateWindow.length, minute]
    · exact not_lt.mp hover

/-- What is counted later does not depend on whether the bucket has been looked at. -/
theorem count_later (b : Option DimBucket) (hle : now ≤ later) (w : RateWindow) :
    (DimBucket.current b later).count w =
      if (DimBucket.current b now).expireAt w < later then 0
      else (DimBucket.current b now).count w := by
  cases b with
  | none =>
    rw [current_none, current_none]
    cases w <;> simp [DimBucket.count]
  | some b =>
    obtain ⟨hcount, hexpire⟩ := current_some b now w
    rw [(current_some b later w).1, hcount, hexpire]
    by_cases hover : b.expireAt w < now
    · have hlater : b.expireAt w < later := lt_of_lt_of_le hover hle
      simp [hover, hlater]
    · simp [hover]

theorem count_touched (b : Option DimBucket) (hle : now ≤ later) (w : RateWindow) :
    (DimBucket.current (some (DimBucket.current b now)) later).count w =
      (DimBucket.current b later).count w := by
  rw [(current_some _ later w).1, count_later b hle w]

theorem current_touched (b : Option DimBucket) (now : Time) :
    DimBucket.current (some (DimBucket.current b now)) now = DimBucket.current b now := by
  have hburst : ¬ (DimBucket.current b now).burstExpireAt < now :=
    not_lt.mpr (le_expireAt b now .burst)
  have hsustained : ¬ (DimBucket.current b now).sustainedExpireAt < now :=
    not_lt.mpr (le_expireAt b now .sustained)
  generalize DimBucket.current b now = b' at *
  unfold DimBucket.current
  simp [hburst, hsustained]

-- ---------------------------------------------------------------------------
-- The loop
-- ---------------------------------------------------------------------------

/-- What the loop makes of a dimension with a limit. -/
def reportDim (c : DimCheck) (b : DimBucket) (mostRestrictive : RateLimitResult) : RateLimitResult :=
  if 0 < c.limit.burstPerMin ∧ c.limit.burstPerMin ≤ b.burstCount then
    if mostRestrictive.allowed ∨ b.burstExpireAt < mostRestrictive.resetAt then
      ⟨false, some c.dim, c.limit.burstPerMin, 0, b.burstExpireAt⟩ else mostRestrictive
  else if 0 < c.limit.sustainedPerHour ∧ c.limit.sustainedPerHour ≤ b.sustainedCount then
    if mostRestrictive.allowed ∨ b.sustainedExpireAt < mostRestrictive.resetAt then
      ⟨false, some c.dim, c.limit.sustainedPerHour, 0, b.sustainedExpireAt⟩ else mostRestrictive
  else
    let remaining :=
      if c.limit.burstPerMin = 0 then c.limit.sustainedPerHour - b.sustainedCount - 1
      else c.limit.burstPerMin - b.burstCount - 1
    if mostRestrictive.allowed ∧
        (mostRestrictive.limit = 0 ∨ remaining < mostRestrictive.remaining) then
      ⟨true, some c.dim, c.limit.burstPerMin, remaining, b.burstExpireAt⟩ else mostRestrictive

theorem checkDim_eq (now : Time) (state : DimBuckets × RateLimitResult) (c : DimCheck) :
    checkDim now state c =
      if c.val = "" ∨ c.limit.burstPerMin = 0 ∧ c.limit.sustainedPerHour = 0 then state
      else (Function.update state.1 c.key (some (bucketOf state.1 now c)),
        reportDim c (bucketOf state.1 now c) state.2) := by
  unfold checkDim reportDim getOrCreate bucketOf
  dsimp only
  split_ifs <;> rfl

theorem not_full_of_skipped (h : c.val = "" ∨ c.limit.burstPerMin = 0 ∧
    c.limit.sustainedPerHour = 0) (b : DimBucket) (w : RateWindow) : ¬ c.full b w := by
  rintro ⟨hval, hlimit, -⟩
  obtain ⟨hburst, hsustained⟩ := h.resolve_left hval
  cases w with
  | burst => exact hlimit.ne' hburst
  | sustained => exact hlimit.ne' hsustained

/-- A dimension that is not full leaves a rejection as it is. -/
theorem reportDim_of_not_full {b : DimBucket} (hval : c.val ≠ "") (h : ∀ w, ¬ c.full b w)
    (mostRestrictive : RateLimitResult) :
    (reportDim c b mostRestrictive).allowed = mostRestrictive.allowed ∧
      (mostRestrictive.allowed = false → reportDim c b mostRestrictive = mostRestrictive) := by
  have hburst : ¬ (0 < c.limit.burstPerMin ∧ c.limit.burstPerMin ≤ b.burstCount) := fun hfull =>
    h .burst ⟨hval, hfull⟩
  have hsustained : ¬ (0 < c.limit.sustainedPerHour ∧
      c.limit.sustainedPerHour ≤ b.sustainedCount) := fun hfull => h .sustained ⟨hval, hfull⟩
  unfold reportDim
  rw [if_neg hburst, if_neg hsustained]
  dsimp only
  cases hallowed : mostRestrictive.allowed with
  | true =>
    refine ⟨?_, fun h => absurd h (by simp)⟩
    split_ifs <;> first | rfl | exact hallowed
  | false => simp [hallowed]

/-- One that is full rejects, and reports its time if it is the earlier one. -/
theorem reportDim_of_full {b : DimBucket} (h : c.full b w) (mostRestrictive : RateLimitResult) :
    (reportDim c b mostRestrictive).allowed = false ∧
      (reportDim c b mostRestrictive).resetAt =
        if mostRestrictive.allowed ∨ c.reported b < mostRestrictive.resetAt then c.reported b
        else mostRestrictive.resetAt := by
  unfold reportDim DimCheck.reported
  by_cases hburst : 0 < c.limit.burstPerMin ∧ c.limit.burstPerMin ≤ b.burstCount
  · rw [if_pos hburst, if_pos hburst]
    split_ifs with hearlier
    · exact ⟨rfl, rfl⟩
    · exact ⟨by simpa using (not_or.mp hearlier).1, rfl⟩
  · have hsustained : 0 < c.limit.sustainedPerHour ∧
        c.limit.sustainedPerHour ≤ b.sustainedCount := by
      cases w with
      | burst => exact absurd h.2 hburst
      | sustained => exact h.2
    rw [if_neg hburst, if_neg hburst, if_pos hsustained]
    split_ifs with hearlier
    · exact ⟨rfl, rfl⟩
    · exact ⟨by simpa using (not_or.mp hearlier).1, rfl⟩

/-- The state of the loop after the dimensions `l`. -/
structure Looked (buckets : DimBuckets) (now : Time) (l : List DimCheck)
    (state : DimBuckets × RateLimitResult) : Prop where
  same    : ∀ key, state.1 key = buckets key ∨
    state.1 key = some (DimBucket.current (buckets key) now)
  allowed : state.2.allowed = true ↔ ∀ c ∈ l, ∀ w, ¬ c.full (bucketOf buckets now c) w
  reset   : state.2.allowed = false → ∃ c ∈ l, (∃ w, c.full (bucketOf buckets now c) w) ∧
    state.2.resetAt = c.reported (bucketOf buckets now c)
  least   : ∀ c ∈ l, ∀ w, c.full (bucketOf buckets now c) w →
    state.2.resetAt ≤ c.reported (bucketOf buckets now c)

theorem Looked.bucketOf_eq {l : List DimCheck} {state : DimBuckets × RateLimitResult}
    (h : Looked buckets now l state) (c : DimCheck) :
    bucketOf state.1 now c = bucketOf buckets now c := by
  unfold bucketOf
  rcases h.same c.key with hsame | htouched
  · rw [hsame]
  · rw [htouched, current_touched]

/-- One more dimension. -/
theorem Looked.concat {l : List DimCheck} {state : DimBuckets × RateLimitResult}
    (h : Looked buckets now l state) (c : DimCheck) :
    Looked buckets now (l ++ [c]) (checkDim now state c) := by
  rw [checkDim_eq]
  by_cases hskipped : c.val = "" ∨ c.limit.burstPerMin = 0 ∧ c.limit.sustainedPerHour = 0
  · have hnot := not_full_of_skipped hskipped (bucketOf buckets now c)
    rw [if_pos hskipped]
    refine ⟨h.same, ?_, fun hrejected => ?_, fun c' hc' w hfull => ?_⟩
    · rw [h.allowed, List.forall_mem_append, List.forall_mem_singleton]
      exact (and_iff_left hnot).symm
    · obtain ⟨c', hc', hreset⟩ := h.reset hrejected
      exact ⟨c', List.mem_append_left _ hc', hreset⟩
    · rcases List.mem_append.mp hc' with hc' | hc'
      · exact h.least c' hc' w hfull
      · rw [List.mem_singleton.mp hc'] at hfull
        exact absurd hfull (hnot w)
  rw [if_neg hskipped, h.bucketOf_eq]
  have hsame : ∀ key, Function.update state.1 c.key (some (bucketOf buckets now c)) key =
      buckets key ∨ Function.update state.1 c.key (some (bucketOf buckets now c)) key =
        some (DimBucket.current (buckets key) now) := by
    intro key
    by_cases hkey : key = c.key
    · rw [hkey, Function.update_self]
      exact .inr rfl
    · rw [Function.update_of_ne hkey]
      exact h.same key
  -- a rejection so far comes from a dimension before
  have hrejected : ∀ c' ∈ l, ∀ w, c'.full (bucketOf buckets now c') w →
      state.2.allowed = false := fun c' hc' w hfull =>
    Bool.eq_false_iff.mpr fun hallowed => h.allowed.mp hallowed c' hc' w hfull
  by_cases hfull : ∃ w, c.full (bucketOf buckets now c) w
  · obtain ⟨w, hw⟩ := hfull
    obtain ⟨hrejects, hreset⟩ := reportDim_of_full hw state.2
    refine ⟨hsame, ?_, fun _ => ?_, fun c' hc' w' hfull' => ?_⟩
    · rw [hrejects]
      exact iff_of_false (by simp) fun hnone => hnone c (by simp) w hw
    · by_cases hearlier : state.2.allowed ∨
          c.reported (bucketOf buckets now c) < state.2.resetAt
      · exact ⟨c, by simp, ⟨w, hw⟩, hreset.trans (if_pos hearlier)⟩
      · obtain ⟨c', hc', hfull', hsame'⟩ := h.reset (by simpa using (not_or.mp hearlier).1)
        exact ⟨c', List.mem_append_left _ hc', hfull',
          (hreset.trans (if_neg hearlier)).trans hsame'⟩
    · show (reportDim c (bucketOf buckets now c) state.2).resetAt ≤ _
      rw [hreset]
      rcases List.mem_append.mp hc' with hc' | hc'
      · have hleast := h.least c' hc' w' hfull'
        split_ifs with hearlier
        · exact (hearlier.resolve_left (by simp [hrejected c' hc' w' hfull'])).le.trans hleast
        · exact hleast
      · rw [List.mem_singleton.mp hc']
        split_ifs with hearlier
        · exact le_rfl
        · exact not_lt.mp (not_or.mp hearlier).2
  · have hnot : ∀ w, ¬ c.full (bucketOf buckets now c) w := not_exists.mp hfull
    obtain ⟨hallowed, hkeeps⟩ := reportDim_of_not_full (not_or.mp hskipped).1 hnot state.2
    refine ⟨hsame, ?_, fun hrejects => ?_, fun c' hc' w' hfull' => ?_⟩
    · rw [hallowed, h.allowed, List.forall_mem_append, List.forall_mem_singleton]
      exact (and_iff_left hnot).symm
    · rw [hallowed] at hrejects
      rw [hkeeps hrejects]
      obtain ⟨c', hc', hreset⟩ := h.reset hrejects
      exact ⟨c', List.mem_append_left _ hc', hreset⟩
    · rcases List.mem_append.mp hc' with hc' | hc'
      · rw [hkeeps (hrejected c' hc' w' hfull')]
        exact h.least c' hc' w' hfull'
      · rw [List.mem_singleton.mp hc'] at hfull'
        exact absurd hfull' (hnot w')

theorem foldl_checkDim (buckets : DimBuckets) (now : Time) (l : List DimCheck) :
    Looked buckets now l (l.foldl (checkDim now) (buckets, .unlimited)) := by
  induction l using List.reverseRecOn with
  | nil =>
    exact ⟨fun _ => .inl rfl, by simp [RateLimitResult.unlimited],
      fun h => absurd h (by simp [RateLimitResult.unlimited]), by simp⟩
  | append_singleton l c ih =>
    rw [List.foldl_append]
    exact ih.concat c

-- ---------------------------------------------------------------------------
-- Rejected, and repeated
-- ---------------------------------------------------------------------------

variable {tiers : String → Option MultiDimTierConfig} {tier : String} {cfg : MultiDimTierConfig}
  {values : DimValues}

theorem check_allowed_iff (hcfg : tiers tier = some cfg) :
    (multiDimCheck tiers buckets tier values now).2.allowed = true ↔
      ∀ c ∈ dimChecks cfg values, ∀ w, ¬ c.full (bucketOf buckets now c) w := by
  rw [← (foldl_checkDim buckets now (dimChecks cfg values)).allowed]
  unfold multiDimCheck
  rw [hcfg]
  dsimp only
  split_ifs <;> rfl

theorem check_rejected (hcfg : tiers tier = some cfg)
    (h : (multiDimCheck tiers buckets tier values now).2.allowed = false) :
    Looked buckets now (dimChecks cfg values) (multiDimCheck tiers buckets tier values now) := by
  have hlooked := foldl_checkDim buckets now (dimChecks cfg values)
  have hrejected : ((dimChecks cfg values).foldl (checkDim now)
      (buckets, .unlimited)).2.allowed = false := by
    rw [Bool.eq_false_iff] at h ⊢
    rwa [Ne, hlooked.allowed, ← check_allowed_iff hcfg]
  unfold multiDimCheck
  rw [hcfg]
  dsimp only
  rwa [if_neg (by simp [hrejected])]

theorem check_unknown (hcfg : tiers tier = none) :
    multiDimCheck tiers buckets tier values now = (buckets, .unlimited) := by
  unfold multiDimCheck
  rw [hcfg]

/-- A bucket is deleted when both its windows are over, and found as if it had been reset. -/
theorem current_cleanup {t : Time} (ht : t ≤ later) (key : String) :
    DimBucket.current (multiDimCleanup buckets t key) later =
      DimBucket.current (buckets key) later := by
  unfold multiDimCleanup
  cases hbucket : buckets key with
  | none => rfl
  | some b =>
    rw [Option.filter_some]
    split_ifs with hkept
    · rfl
    · have hover : b.burstExpireAt < t ∧ b.sustainedExpireAt < t := by simpa using hkept
      have hburst := hover.1.trans_le ht
      have hsustained := hover.2.trans_le ht
      rw [current_none]
      unfold DimBucket.current
      simp [hburst, hsustained]

theorem count_cleanups {passes : List Time} (hpasses : ∀ t ∈ passes, t ≤ later) (key : String)
    (w : RateWindow) :
    (DimBucket.current (passes.foldl multiDimCleanup buckets key) later).count w =
      (DimBucket.current (buckets key) later).count w := by
  induction passes generalizing buckets with
  | nil => rfl
  | cons t passes ih =>
    rw [List.foldl_cons, ih fun t' ht' => hpasses t' (List.mem_cons_of_mem _ ht')]
    rw [current_cleanup (hpasses t List.mem_cons_self)]

/-- A full window is not full any more when it is over. -/
theorem full_later_iff (hsame : ∀ w, (bucketOf buckets' later c).count w =
    if (bucketOf buckets now c).expireAt w < later then 0 else (bucketOf buckets now c).count w) :
    c.full (bucketOf buckets' later c) w ↔
      c.full (bucketOf buckets now c) w ∧ ¬ (bucketOf buckets now c).expireAt w < later := by
  unfold DimCheck.full
  rw [hsame w]
  split_ifs with hover
  · exact iff_of_false (fun h => absurd (h.2.1.trans_le h.2.2) (lt_irrefl _)) fun h => h.2 hover
  · exact (and_iff_left hover).symm

/-- **A rejected request** is allowed later exactly if by then every window that was full is
over. -/
theorem repeated_allowed_iff (hcfg : tiers tier = some cfg)
    (hrejected : (multiDimCheck tiers buckets tier values now).2.allowed = false)
    (hle : now ≤ later) {passes : List Time} (hpasses : ∀ t ∈ passes, t ≤ later) :
    (multiDimCheck tiers
      (passes.foldl multiDimCleanup (multiDimCheck tiers buckets tier values now).1)
      tier values later).2.allowed = true ↔
    ∀ c ∈ dimChecks cfg values, ∀ w, c.full (bucketOf buckets now c) w →
      (bucketOf buckets now c).expireAt w < later := by
  have hlooked := check_rejected hcfg hrejected
  have hcount : ∀ (c : DimCheck) (w : RateWindow),
      (bucketOf (passes.foldl multiDimCleanup (multiDimCheck tiers buckets tier values now).1)
        later c).count w =
      if (bucketOf buckets now c).expireAt w < later then 0
      else (bucketOf buckets now c).count w := by
    intro c w
    unfold bucketOf
    rw [count_cleanups hpasses]
    rcases hlooked.same c.key with hsame | htouched
    · rw [hsame]
      exact count_later _ hle w
    · rw [htouched, count_touched _ hle]
      exact count_later _ hle w
  rw [check_allowed_iff hcfg]
  refine forall₂_congr fun c _ => forall_congr' fun w => ?_
  rw [full_later_iff (hcount c), not_and, not_not]

/-- The request, if it is rejected, is allowed at any time after the one that is reported. -/
def RetryWorks (tiers : String → Option MultiDimTierConfig) (buckets : DimBuckets) :
    MultiDimEvent → Prop
  | .check tier values now =>
    (multiDimCheck tiers buckets tier values now).2.allowed = false →
      ∀ later, (multiDimCheck tiers buckets tier values now).2.resetAt < later →
        ∀ passes : List Time, (∀ t ∈ passes, t ≤ later) →
          (multiDimCheck tiers
            (passes.foldl multiDimCleanup (multiDimCheck tiers buckets tier values now).1)
            tier values later).2.allowed = true
  | .cleanup _ => True

/-- No window that the request finds full is over later than the one that a full dimension
reports. -/
def OverInTime (tiers : String → Option MultiDimTierConfig) (buckets : DimBuckets) :
    MultiDimEvent → Prop
  | .check tier values now => ∀ cfg, tiers tier = some cfg →
    ∀ c ∈ dimChecks cfg values, ∀ w, c.full (bucketOf buckets now c) w →
      ∀ c' ∈ dimChecks cfg values, ∀ w', c'.full (bucketOf buckets now c') w' →
        (bucketOf buckets now c).expireAt w ≤ c'.reported (bucketOf buckets now c')
  | .cleanup _ => True

theorem le_reported (buckets : DimBuckets) (now : Time) (c : DimCheck) :
    now ≤ c.reported (bucketOf buckets now c) := by
  unfold DimCheck.reported
  split_ifs
  · exact le_expireAt _ now .burst
  · exact le_expireAt _ now .sustained

/-- **One request.** -/
theorem retryWorks_iff (event : MultiDimEvent) :
    RetryWorks tiers buckets event ↔ OverInTime tiers buckets event := by
  cases event with
  | cleanup now => exact Iff.rfl
  | check tier values now =>
    cases hcfg : tiers tier with
    | none =>
      refine iff_of_true (fun h => ?_) fun cfg h => ?_
      · rw [check_unknown hcfg] at h
        cases h
      · rw [hcfg] at h
        cases h
    | some cfg =>
      constructor
      · intro hworks cfg' hcfg' c hc w hfull c' hc' w' hfull'
        obtain rfl := Option.some.inj (hcfg.symm.trans hcfg')
        have hrejected : (multiDimCheck tiers buckets tier values now).2.allowed = false :=
          Bool.eq_false_iff.mpr fun hallowed => (check_allowed_iff hcfg).mp hallowed c hc w hfull
        by_contra hlate
        -- the request is repeated at the end of the window
        have hreset := (check_rejected hcfg hrejected).least c' hc' w' hfull'
        have hallowed := hworks hrejected _ (hreset.trans_lt (not_le.mp hlate)) [] (by simp)
        have hover := (repeated_allowed_iff hcfg hrejected (le_expireAt _ now w) (by simp)).mp
          hallowed c hc w hfull
        exact lt_irrefl _ hover
      · intro hintime hrejected later hlater passes hpasses
        obtain ⟨c', hc', ⟨w', hfull'⟩, hreset⟩ := (check_rejected hcfg hrejected).reset hrejected
        have hle : now ≤ later := (le_reported buckets now c').trans (hreset ▸ hlater.le)
        refine (repeated_allowed_iff hcfg hrejected hle hpasses).mpr fun c hc w hfull => ?_
        exact (hintime cfg hcfg c hc w hfull c' hc' w' hfull').trans_lt (hreset ▸ hlater)

/-- The header says a time after the one that is reported. -/
theorem lt_retryAfterHeader (resetAt now : Time) :
    resetAt < now + retryAfterHeader resetAt now * second := by
  have hlater : resetAt - now < ((resetAt - now).tdiv second + 1) * second :=
    Int.lt_tdiv_add_one_mul_self _ (by decide)
  exact sub_lt_iff_lt_add'.mp hlater

/-- **Over a run**, rejected requests can be repeated after the time that is reported exactly if no
full window is over later than one that a full dimension reports. The header says a time behind the
one that is reported. -/
theorem retries_iff (tiers : String → Option MultiDimTierConfig) (buckets : DimBuckets)
    (events : List MultiDimEvent) :
    (StepsOk (multiDimStep tiers) (RetryWorks tiers) buckets events ↔
      StepsOk (multiDimStep tiers) (OverInTime tiers) buckets events) ∧
    ∀ resetAt now : Time, resetAt < now + retryAfterHeader resetAt now * second :=
  ⟨stepsOk_congr fun _ event => retryWorks_iff event, lt_retryAfterHeader⟩

namespace Sample

def unlimitedDim : MultiDimRateLimit := ⟨0, 0⟩

/-- Two requests a minute for a tenant, one for a user. -/
def twoAndOne (tier : String) : Option MultiDimTierConfig :=
  if tier = "free" then some ⟨⟨2, 0⟩, ⟨1, 0⟩, unlimitedDim, unlimitedDim, unlimitedDim⟩ else none

/-- The second user is late in the minute of the tenant. -/
def twoUsers : List MultiDimEvent :=
  [.check "free" ⟨"acme", "ann", "", "", ""⟩ 0,
    .check "free" ⟨"acme", "bob", "", "", ""⟩ (30 * second),
    .check "free" ⟨"acme", "bob", "", "", ""⟩ (31 * second)]

end Sample

open Sample in
/-- The time at which the minute of the tenant is over is reported, and the user still has to
wait. -/
theorem bob_rejected_again :
    ¬ StepsOk (multiDimStep twoAndOne) (RetryWorks twoAndOne) (fun _ => none) twoUsers := by
  intro h
  have hallowed := h.2.2.1 (by decide) (61 * second) (by decide) [] (by simp)
  exact absurd hallowed (by decide)

end Ggid.Gateway
