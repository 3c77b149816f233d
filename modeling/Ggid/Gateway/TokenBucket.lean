import Ggid.Go.Value
import Ggid.Lib.Budget
import Ggid.Lib.Run
import Mathlib.Data.Rat.Floor

/-!
# Gateway — token buckets

A bucket for each tenant and address, over exact rationals. `Allow` refills it for the time since
the last call and takes a token if there is one. Buckets that have been idle are deleted, and made
anew, full, for the next request.

* `allow_eq`              — a bucket is a budget that refills;
* `allow_after_retry`     — a token is there after the time that `RetryAfter` says;
* `outcomes_eq`           — the deletions do not show;
* `tokenBucket_sound`     — what is admitted.
-/

namespace Ggid.Gateway

open Ggid.Go Ggid.Lib

/-- `Duration.Seconds`. -/
def seconds (d : Int) : ℚ := d / second

-- ---------------------------------------------------------------------------
-- `TokenBucket`
-- ---------------------------------------------------------------------------

structure TokenBucket where
  tokens     : ℚ
  maxTokens  : ℚ
  refillRate : ℚ
  lastRefill : Time

def newTokenBucket (maxTokens refillPerSec : ℚ) (now : Time) : TokenBucket where
  tokens     := maxTokens
  maxTokens  := maxTokens
  refillRate := refillPerSec
  lastRefill := now

/-- The conversion of a float to an int, which drops the fraction. -/
def truncate (q : ℚ) : Int := q.num.tdiv q.den

namespace TokenBucket

def allow (tb : TokenBucket) (now : Time) : TokenBucket × Bool :=
  let elapsed := seconds (now - tb.lastRefill)
  let tokens := tb.tokens + elapsed * tb.refillRate
  let tokens := if tb.maxTokens < tokens then tb.maxTokens else tokens
  if 1 ≤ tokens then ({ tb with tokens := tokens - 1, lastRefill := now }, true)
  else ({ tb with tokens, lastRefill := now }, false)

def retryAfter (tb : TokenBucket) : Int :=
  if 1 ≤ tb.tokens then 0
  else if tb.refillRate ≤ 0 then 1
  else
    let deficit := 1 - tb.tokens
    truncate (deficit / tb.refillRate) + 1

/-- The bucket after calls of `Allow`. -/
def afterCalls (tb : TokenBucket) (calls : List Time) : TokenBucket :=
  calls.foldl (fun tb now => (tb.allow now).1) tb

/-- The calls, with what they returned. -/
def allowCalls : TokenBucket → List Time → List (Time × Bool)
  | _, [] => []
  | tb, now :: calls => (now, (tb.allow now).2) :: allowCalls (tb.allow now).1 calls

end TokenBucket

/-- How many calls from `since` to `upTo` were admitted. -/
def admittedBetween (since upTo : Time) (calls : List (Time × Bool)) : ℕ :=
  calls.countP fun call => call.2 && decide (since ≤ call.1) && decide (call.1 ≤ upTo)

-- ---------------------------------------------------------------------------
-- `TenantBucketLimiter`
-- ---------------------------------------------------------------------------

structure BucketTierConfig where
  maxTokens    : ℚ
  refillPerSec : ℚ

structure BucketRateLimitConfig where
  defaultMaxTokens    : ℚ
  defaultRefillPerSec : ℚ
  tierOverrides       : String → Option BucketTierConfig

/-- `SystemConfig`, the fields for rate limits. -/
structure SystemRateConfig where
  gatewayRateLimitTokens       : ℚ
  gatewayRateLimitRefillPerSec : ℚ

/-- Capacity and rate of a new bucket. `sc` is what the store has for the tenant, if there is a
store and a request. -/
def bucketLimits (cfg : BucketRateLimitConfig) (tier : String) (sc : Option SystemRateConfig) :
    BucketTierConfig :=
  let limits := (cfg.tierOverrides tier).getD ⟨cfg.defaultMaxTokens, cfg.defaultRefillPerSec⟩
  match sc with
  | none => limits
  | some sc =>
    ⟨if 0 < sc.gatewayRateLimitTokens then sc.gatewayRateLimitTokens else limits.maxTokens,
      if 0 < sc.gatewayRateLimitRefillPerSec then sc.gatewayRateLimitRefillPerSec
      else limits.refillPerSec⟩

abbrev Buckets := String → Option TokenBucket

def getBucket (cfg : BucketRateLimitConfig) (buckets : Buckets) (key tier : String)
    (sc : Option SystemRateConfig) (now : Time) : Buckets × TokenBucket :=
  match buckets key with
  | some b => (buckets, b)
  | none =>
    let limits := bucketLimits cfg tier sc
    let b := newTokenBucket limits.maxTokens limits.refillPerSec now
    (Function.update buckets key (some b), b)

/-- `Cleanup`. -/
def cleanupBuckets (buckets : Buckets) (maxAge : Int) (now : Time) : Buckets :=
  fun key => (buckets key).filter fun b => !decide (b.lastRefill < now - maxAge)

/-- A request gets its bucket and calls `Allow`; now and then, idle buckets are deleted. -/
inductive BucketEvent where
  | request (key tier : String) (sc : Option SystemRateConfig) (now : Time)
  | cleanup (maxAge : Int) (now : Time)

def BucketEvent.time : BucketEvent → Time
  | .request _ _ _ now => now
  | .cleanup _ now => now

/-- One event, and for a request its key and whether it is admitted. -/
def bucketAct (cfg : BucketRateLimitConfig) (buckets : Buckets) :
    BucketEvent → Buckets × Option (String × Bool)
  | .request key tier sc now =>
    let (buckets, b) := getBucket cfg buckets key tier sc now
    let (b, ok) := b.allow now
    (Function.update buckets key (some b), some (key, ok))
  | .cleanup maxAge now => (cleanupBuckets buckets maxAge now, none)

/-- What becomes of the requests with a key. -/
def outcomes (cfg : BucketRateLimitConfig) (key : String) (buckets : Buckets)
    (events : List BucketEvent) : List Bool :=
  (outputs (bucketAct cfg) buckets events).filterMap fun
    | some (key', ok) => if key' = key then some ok else none
    | none => none

/-- When they come. -/
def requestTimes (key : String) (events : List BucketEvent) : List Time :=
  events.filterMap fun
    | .request key' _ _ now => if key' = key then some now else none
    | .cleanup _ _ => none

/-- What becomes of them if their bucket is made for the first and kept. -/
def keptOutcomes (m r : ℚ) : List Time → List Bool
  | [] => []
  | now :: calls => ((newTokenBucket m r now).allowCalls (now :: calls)).map Prod.snd

-- ---------------------------------------------------------------------------
-- Buckets as budgets
-- ---------------------------------------------------------------------------

theorem seconds_sub (a b : Int) : seconds (a - b) = seconds a - seconds b := by
  unfold seconds
  rw [Int.cast_sub, sub_div]

theorem second_pos : (0 : ℚ) < (second : Int) := by
  unfold second
  norm_num

theorem seconds_le_iff {a b : Int} : seconds a ≤ seconds b ↔ a ≤ b := by
  unfold seconds
  rw [div_le_div_iff_of_pos_right second_pos, Int.cast_le]

theorem seconds_mul_second (n : Int) : seconds (n * second) = n := by
  unfold seconds
  rw [Int.cast_mul, mul_div_cancel_right₀ _ second_pos.ne']

namespace TokenBucket

variable {tb : TokenBucket} {now later : Time} {calls : List Time}

def toBudget (tb : TokenBucket) : Budget ℚ := ⟨tb.tokens, seconds tb.lastRefill⟩

/-- What there is when `Allow` is called. -/
def tokensAt (tb : TokenBucket) (now : Time) : ℚ :=
  tb.toBudget.levelAt tb.maxTokens tb.refillRate (seconds now)

/-- **A call** is a draw. -/
theorem allow_eq (tb : TokenBucket) (now : Time) : tb.allow now =
    ({ tb with
        tokens := (tb.toBudget.draw tb.maxTokens tb.refillRate (seconds now)).1.level
        lastRefill := now },
      (tb.toBudget.draw tb.maxTokens tb.refillRate (seconds now)).2) := by
  have htokens : (if tb.maxTokens < tb.tokens + seconds (now - tb.lastRefill) * tb.refillRate then
      tb.maxTokens else tb.tokens + seconds (now - tb.lastRefill) * tb.refillRate) =
        tb.toBudget.levelAt tb.maxTokens tb.refillRate (seconds now) := by
    rw [seconds_sub]
    split_ifs with hfull
    · exact (min_eq_left hfull.le).symm
    · exact (min_eq_right (not_lt.mp hfull)).symm
  unfold allow Budget.draw
  simp only [htokens]
  split_ifs <;> rfl

@[simp] theorem allow_maxTokens : (tb.allow now).1.maxTokens = tb.maxTokens := by
  rw [allow_eq]

@[simp] theorem allow_refillRate : (tb.allow now).1.refillRate = tb.refillRate := by
  rw [allow_eq]

@[simp] theorem allow_lastRefill : (tb.allow now).1.lastRefill = now := by
  rw [allow_eq]

@[simp] theorem toBudget_allow : (tb.allow now).1.toBudget =
    (tb.toBudget.draw tb.maxTokens tb.refillRate (seconds now)).1 := by
  rw [allow_eq]
  exact Budget.ext rfl Budget.draw_time.symm

theorem allow_isTrue_iff : (tb.allow now).2 = true ↔ 1 ≤ tb.tokensAt now := by
  rw [allow_eq]
  exact Budget.draw_isTrue_iff

/-- Capacity and rate do not change. -/
theorem afterCalls_limits (tb : TokenBucket) (calls : List Time) :
    (tb.afterCalls calls).maxTokens = tb.maxTokens ∧
      (tb.afterCalls calls).refillRate = tb.refillRate := by
  induction calls generalizing tb with
  | nil => exact ⟨rfl, rfl⟩
  | cons now calls ih =>
    obtain ⟨hmax, hrate⟩ := ih (tb.allow now).1
    exact ⟨hmax.trans allow_maxTokens, hrate.trans allow_refillRate⟩

/-- Calls of `Allow` are draws. -/
theorem toBudget_afterCalls : (tb.afterCalls calls).toBudget =
    tb.toBudget.after tb.maxTokens tb.refillRate (calls.map seconds) := by
  induction calls generalizing tb with
  | nil => rfl
  | cons now calls ih =>
    refine ih.trans ?_
    rw [toBudget_allow, allow_maxTokens, allow_refillRate]
    rfl

theorem map_allowCalls : (tb.allowCalls calls).map (fun call => (seconds call.1, call.2)) =
    tb.toBudget.draws tb.maxTokens tb.refillRate (calls.map seconds) := by
  induction calls generalizing tb with
  | nil => rfl
  | cons now calls ih =>
    rw [allowCalls, List.map_cons, ih, toBudget_allow, allow_maxTokens, allow_refillRate,
      List.map_cons, Budget.draws, allow_eq]

theorem admittedBetween_eq (since upTo : Time) : admittedBetween since upTo (tb.allowCalls calls) =
    Budget.drawn (seconds since) (seconds upTo)
      (tb.toBudget.draws tb.maxTokens tb.refillRate (calls.map seconds)) := by
  rw [← map_allowCalls, Budget.drawn, List.countP_map]
  unfold admittedBetween
  congr 1
  funext call
  simp only [Function.comp, seconds_le_iff]

theorem sorted_seconds {times : List Time} (h : times.Pairwise (· ≤ ·)) :
    (times.map seconds).Pairwise (· ≤ ·) :=
  List.pairwise_map.mpr (h.imp seconds_le_iff.mpr)

-- ---------------------------------------------------------------------------
-- Waiting
-- ---------------------------------------------------------------------------

theorem lt_truncate_add_one {q : ℚ} (h : 0 ≤ q) : q < truncate q + 1 := by
  have hfloor : truncate q = ⌊q⌋ := by
    rw [Rat.floor_def']
    exact Int.tdiv_eq_ediv_of_nonneg (Rat.num_nonneg.mpr h)
  rw [hfloor]
  exact Int.lt_floor_add_one q

/-- **After the time that `RetryAfter` says** a token is there. -/
theorem allow_after_retry (hmax : 1 ≤ tb.maxTokens) (hrate : 0 < tb.refillRate)
    (hrejected : (tb.allow now).2 = false)
    (hlater : now + (tb.allow now).1.retryAfter * second ≤ later) :
    ((tb.allow now).1.allow later).2 = true := by
  have hlow : (tb.allow now).1.tokens < 1 := by
    have hnone : (tb.toBudget.draw tb.maxTokens tb.refillRate (seconds now)).2 = false := by
      rwa [allow_eq] at hrejected
    rw [allow_eq]
    exact Budget.draw_level_lt_one hnone
  have hrate' : 0 < (tb.allow now).1.refillRate := by rwa [allow_refillRate]
  have hretry : (1 - (tb.allow now).1.tokens) / (tb.allow now).1.refillRate <
      ((tb.allow now).1.retryAfter : ℚ) := by
    unfold retryAfter
    rw [if_neg hlow.not_ge, if_neg hrate'.not_ge, Int.cast_add, Int.cast_one]
    exact lt_truncate_add_one (div_nonneg (by linarith) hrate'.le)
  have hwait : ((tb.allow now).1.retryAfter : ℚ) ≤ seconds later - seconds now := by
    rw [← seconds_sub, ← seconds_mul_second, seconds_le_iff]
    exact Int.le_sub_left_of_add_le hlater
  have hrefill : 1 - (tb.allow now).1.tokens <
      (seconds later - seconds now) * (tb.allow now).1.refillRate :=
    (div_lt_iff₀ hrate').mp (hretry.trans_le hwait)
  rw [allow_isTrue_iff]
  refine le_min (by rwa [allow_maxTokens]) ?_
  show 1 ≤ (tb.allow now).1.tokens +
    (seconds later - seconds (tb.allow now).1.lastRefill) * (tb.allow now).1.refillRate
  rw [allow_lastRefill]
  linarith

end TokenBucket

-- ---------------------------------------------------------------------------
-- Deleted buckets
-- ---------------------------------------------------------------------------

section Limiter

variable {cfg : BucketRateLimitConfig} {key : String} {m r : ℚ} {buckets : Buckets}
  {tb : TokenBucket} {now clock : Time} {events : List BucketEvent}

/-- A new bucket has all its tokens. -/
theorem tokensAt_new : (newTokenBucket m r now).tokensAt now = m := by
  unfold TokenBucket.tokensAt Budget.levelAt
  show min m (m + (seconds now - seconds now) * r) = m
  rw [sub_self, zero_mul, add_zero, min_self]

/-- A full bucket is as good as a new one. -/
theorem allow_full (hmax : tb.maxTokens = m) (hrate : tb.refillRate = r)
    (hfull : tb.tokensAt now = m) : tb.allow now = (newTokenBucket m r now).allow now := by
  subst hmax hrate
  rw [TokenBucket.allow_eq, TokenBucket.allow_eq,
    Budget.draw_congr (hfull.trans tokensAt_new.symm)]
  rfl

/-- The bucket that is kept, and what the limiter has of it: the bucket, or nothing if it is
full. -/
structure Stands (buckets : Buckets) (key : String) (m r : ℚ) (tb : TokenBucket) (clock : Time) :
    Prop where
  maxTokens  : tb.maxTokens = m
  refillRate : tb.refillRate = r
  nonneg     : 0 ≤ tb.tokens
  past       : tb.lastRefill ≤ clock
  bucket     : buckets key = some tb ∨ buckets key = none ∧ tb.tokensAt clock = m

section Steps

variable (hr : 0 ≤ r) (h : Stands buckets key m r tb clock)
include hr h

theorem Stands.mono {clock' : Time} (hle : clock ≤ clock') :
    Stands buckets key m r tb clock' := by
  refine { h with past := h.past.trans hle, bucket := h.bucket.imp_right fun ⟨hnone, hfull⟩ =>
    ⟨hnone, le_antisymm ?_ ?_⟩ }
  · rw [← h.maxTokens]
    exact Budget.levelAt_le_capacity
  · refine hfull.symm.le.trans (Budget.levelAt_mono ?_ (seconds_le_iff.mpr hle))
    rwa [h.refillRate]

/-- **A request** is answered by the bucket that is kept. -/
theorem Stands.request (hm : 0 ≤ m) {tier : String} {sc : Option SystemRateConfig}
    (hlimits : bucketLimits cfg tier sc = ⟨m, r⟩) (hle : clock ≤ now) :
    (bucketAct cfg buckets (.request key tier sc now)).2 = some (key, (tb.allow now).2) ∧
      Stands (bucketAct cfg buckets (.request key tier sc now)).1 key m r (tb.allow now).1 now := by
  have hgot : (getBucket cfg buckets key tier sc now).2.allow now = tb.allow now := by
    unfold getBucket
    rcases (h.mono hr hle).bucket with hbucket | ⟨hnone, hfull⟩
    · rw [hbucket]
    · rw [hnone, hlimits]
      exact (allow_full h.maxTokens h.refillRate hfull).symm
  have hact : bucketAct cfg buckets (.request key tier sc now) =
      (Function.update (getBucket cfg buckets key tier sc now).1 key (some (tb.allow now).1),
        some (key, (tb.allow now).2)) := by
    rw [← hgot]
    rfl
  rw [hact]
  refine ⟨rfl, ?_⟩
  have htime : tb.toBudget.time ≤ seconds now := seconds_le_iff.mpr (h.past.trans hle)
  exact
    { maxTokens  := by rw [TokenBucket.allow_maxTokens, h.maxTokens]
      refillRate := by rw [TokenBucket.allow_refillRate, h.refillRate]
      nonneg     := by
        rw [TokenBucket.allow_eq]
        refine Budget.draw_level_nonneg (Budget.levelAt_nonneg ?_ ?_ h.nonneg htime)
        · rwa [h.maxTokens]
        · rwa [h.refillRate]
      past       := by rw [TokenBucket.allow_lastRefill]
      bucket     := .inl (Function.update_self _ _ _) }

/-- **A cleanup** deletes the bucket only if it has had the time to fill up. -/
theorem Stands.cleanup {maxAge : Int} (hage : m ≤ seconds maxAge * r) (hle : clock ≤ now) :
    Stands (bucketAct cfg buckets (.cleanup maxAge now)).1 key m r tb now := by
  have hlater := h.mono hr hle
  refine { hlater with bucket := ?_ }
  show (buckets key).filter (fun b => !decide (b.lastRefill < now - maxAge)) = some tb ∨
    (buckets key).filter (fun b => !decide (b.lastRefill < now - maxAge)) = none ∧ _
  rcases hlater.bucket with hbucket | ⟨hnone, hfull⟩
  · rw [hbucket, Option.filter_some]
    by_cases hold : tb.lastRefill < now - maxAge
    · have hidle : m ≤ seconds (now - tb.lastRefill) * r :=
        hage.trans (mul_le_mul_of_nonneg_right (seconds_le_iff.mpr (lt_sub_comm.mp hold).le) hr)
      rw [seconds_sub, ← h.maxTokens, ← h.refillRate] at hidle
      refine .inr ⟨if_neg (by simp [hold]), ?_⟩
      exact (Budget.levelAt_eq_capacity h.nonneg hidle).trans h.maxTokens
    · exact .inl (if_pos (by simp [hold]))
  · exact .inr ⟨by rw [hnone]; rfl, hfull⟩

end Steps

/-- Another bucket, or none. -/
theorem bucketAct_other {key' tier : String} {sc : Option SystemRateConfig} (hkey : key' ≠ key) :
    (bucketAct cfg buckets (.request key' tier sc now)).1 key = buckets key := by
  unfold bucketAct getBucket
  cases hbucket : buckets key' <;> simp [hbucket, Function.update_of_ne hkey.symm]

theorem outcomes_cons (event : BucketEvent) : outcomes cfg key buckets (event :: events) =
    (match (bucketAct cfg buckets event).2 with
      | some (key', ok) => if key' = key then [ok] else []
      | none => []) ++ outcomes cfg key (bucketAct cfg buckets event).1 events := by
  unfold outcomes
  rw [outputs, List.filterMap_cons]
  cases (bucketAct cfg buckets event).2 with
  | none => rfl
  | some answer =>
    by_cases hkey : answer.1 = key <;> simp [hkey]

/-- The requests with the key have the limits, and a cleanup spares what may not be full. -/
def SteadyLimits (cfg : BucketRateLimitConfig) (key : String) (m r : ℚ) : BucketEvent → Prop
  | .request key' tier sc _ => key' = key → bucketLimits cfg tier sc = ⟨m, r⟩
  | .cleanup maxAge _ => m ≤ seconds maxAge * r

/-- What is no request with the key. -/
theorem outcomes_other {key' tier : String} {sc : Option SystemRateConfig} (hkey : key' ≠ key) :
    outcomes cfg key buckets (.request key' tier sc now :: events) =
      outcomes cfg key (bucketAct cfg buckets (.request key' tier sc now)).1 events := by
  rw [outcomes_cons]
  show (if key' = key then [_] else []) ++ _ = _
  rw [if_neg hkey, List.nil_append]

theorem requestTimes_other {key' tier : String} {sc : Option SystemRateConfig} (hkey : key' ≠ key) :
    requestTimes key (.request key' tier sc now :: events) = requestTimes key events :=
  List.filterMap_cons_none (if_neg hkey)

theorem requestTimes_self {tier : String} {sc : Option SystemRateConfig} :
    requestTimes key (.request key tier sc now :: events) = now :: requestTimes key events :=
  List.filterMap_cons_some (if_pos rfl)

theorem Stands.outcomes_eq (hm : 0 ≤ m) (hr : 0 ≤ r) (h : Stands buckets key m r tb clock)
    (hsorted : (clock :: events.map BucketEvent.time).Pairwise (· ≤ ·))
    (hsteady : ∀ e ∈ events, SteadyLimits cfg key m r e) :
    outcomes cfg key buckets events =
      (tb.allowCalls (requestTimes key events)).map Prod.snd := by
  induction events generalizing buckets tb clock with
  | nil => rfl
  | cons event events ih =>
    obtain ⟨hfirst, hrest⟩ := List.pairwise_cons.mp hsorted
    have hevent := hsteady event List.mem_cons_self
    have hnext : ∀ e ∈ events, SteadyLimits cfg key m r e := fun e he =>
      hsteady e (List.mem_cons_of_mem _ he)
    cases event with
    | request key' tier sc now =>
      have hle : clock ≤ now := hfirst _ List.mem_cons_self
      by_cases hkey : key' = key
      · subst hkey
        obtain ⟨hanswer, hstands⟩ := h.request hr hm (hevent rfl) hle
        rw [outcomes_cons, hanswer, ih hstands hrest hnext, requestTimes_self]
        simp [TokenBucket.allowCalls]
      · have hstands : Stands (bucketAct cfg buckets (.request key' tier sc now)).1 key m r tb
            now := by
          have hlater := h.mono hr hle
          exact { hlater with bucket := by rw [bucketAct_other hkey]; exact hlater.bucket }
        rw [outcomes_other hkey, ih hstands hrest hnext, requestTimes_other hkey]
    | cleanup maxAge now =>
      have hle : clock ≤ now := hfirst _ List.mem_cons_self
      rw [outcomes_cons]
      exact ih (h.cleanup hr hevent hle) hrest hnext

/-- **The deletions do not show**: what becomes of the requests with a key is what would if their
bucket were kept. -/
theorem outcomes_eq (hm : 0 ≤ m) (hr : 0 ≤ r) (hnone : buckets key = none)
    (hsorted : (events.map BucketEvent.time).Pairwise (· ≤ ·))
    (hsteady : ∀ e ∈ events, SteadyLimits cfg key m r e) :
    outcomes cfg key buckets events = keptOutcomes m r (requestTimes key events) := by
  induction events generalizing buckets with
  | nil => rfl
  | cons event events ih =>
    have hrest := (List.pairwise_cons.mp hsorted).2
    have hnext : ∀ e ∈ events, SteadyLimits cfg key m r e := fun e he =>
      hsteady e (List.mem_cons_of_mem _ he)
    cases event with
    | request key' tier sc now =>
      by_cases hkey : key' = key
      · -- the bucket is made for this request
        subst hkey
        have hstands : Stands buckets key' m r (newTokenBucket m r now) now :=
          ⟨rfl, rfl, hm, le_rfl, .inr ⟨hnone, tokensAt_new⟩⟩
        have hfrom : (now :: (BucketEvent.request key' tier sc now :: events).map
            BucketEvent.time).Pairwise (· ≤ ·) := by
          refine List.pairwise_cons.mpr ⟨fun t ht => ?_, hsorted⟩
          rcases List.mem_cons.mp ht with rfl | ht
          · exact le_rfl
          · exact (List.pairwise_cons.mp hsorted).1 t ht
        rw [hstands.outcomes_eq hm hr hfrom hsteady, requestTimes_self]
        rfl
      · rw [outcomes_other hkey, requestTimes_other hkey]
        exact ih (by rwa [bucketAct_other hkey]) hrest hnext
    | cleanup maxAge now =>
      rw [outcomes_cons]
      refine ih ?_ hrest hnext
      show (buckets key).filter _ = none
      rw [hnone]
      rfl

end Limiter

-- ---------------------------------------------------------------------------
-- What is admitted
-- ---------------------------------------------------------------------------

/-- **Token buckets.** A bucket holds between nothing and its capacity; over any stretch of time it
admits no more than the capacity and what is refilled meanwhile; after a rejected call a token is
there after the time that `RetryAfter` says; and with a cleanup that spares what may not be full, a
key's requests fare as if their bucket were never deleted. -/
theorem tokenBucket_sound {m r : ℚ} (hm : 1 ≤ m) (hr : 0 < r) :
    (∀ (created : Time) (calls : List Time), (created :: calls).Pairwise (· ≤ ·) →
      (0 ≤ ((newTokenBucket m r created).afterCalls calls).tokens ∧
        ((newTokenBucket m r created).afterCalls calls).tokens ≤ m) ∧
      (∀ since upTo : Time, since ≤ upTo →
        (admittedBetween since upTo ((newTokenBucket m r created).allowCalls calls) : ℚ) ≤
          m + r * seconds (upTo - since)) ∧
      ∀ now later : Time,
        (((newTokenBucket m r created).afterCalls calls).allow now).2 = false →
        now + (((newTokenBucket m r created).afterCalls calls).allow now).1.retryAfter * second ≤
          later →
        ((((newTokenBucket m r created).afterCalls calls).allow now).1.allow later).2 = true) ∧
    ∀ (cfg : BucketRateLimitConfig) (key : String) (events : List BucketEvent),
      (events.map BucketEvent.time).Pairwise (· ≤ ·) → (∀ e ∈ events, SteadyLimits cfg key m r e) →
      outcomes cfg key (fun _ => none) events = keptOutcomes m r (requestTimes key events) := by
  have hm0 : 0 ≤ m := zero_le_one.trans hm
  refine ⟨fun created calls hsorted => ⟨?_, fun since upTo hle => ?_, fun now later => ?_⟩,
    fun cfg key events hsorted hsteady => outcomes_eq hm0 hr.le rfl hsorted hsteady⟩
  · show 0 ≤ ((newTokenBucket m r created).afterCalls calls).toBudget.level ∧
      ((newTokenBucket m r created).afterCalls calls).toBudget.level ≤ m
    rw [TokenBucket.toBudget_afterCalls]
    exact Budget.after_level hm0 hr.le hm0 le_rfl (TokenBucket.sorted_seconds hsorted)
  · rw [TokenBucket.admittedBetween_eq, seconds_sub, mul_comm]
    exact Budget.drawn_within_le hm0 hr.le hm0 (TokenBucket.sorted_seconds hsorted)
      (seconds_le_iff.mpr hle)
  · obtain ⟨hmax, hrate⟩ := TokenBucket.afterCalls_limits (newTokenBucket m r created) calls
    exact TokenBucket.allow_after_retry (hmax ▸ hm) (hrate ▸ hr)

/-- A bucket of two tokens, one a second: the third call is rejected, and may be repeated two
seconds later. -/
theorem tokenBucket_sound_two :
    ((((newTokenBucket 2 1 0).afterCalls [0, 0]).allow 0).1.allow (2 * second)).2 = true ∧
      outcomes ⟨2, 1, fun _ => none⟩ "acme:10.0.0.1" (fun _ => none)
        [.request "acme:10.0.0.1" "free" none 0, .cleanup (2 * second) (3 * second),
          .request "acme:10.0.0.1" "free" none (3 * second)] =
      keptOutcomes 2 1 [0, 3 * second] := by
  have hsound := tokenBucket_sound (m := 2) (r := 1) (by norm_num) (by norm_num)
  refine ⟨((hsound.1 0 [0, 0] (by decide)).2.2 0 (2 * second) ?_) ?_,
    hsound.2 ⟨2, 1, fun _ => none⟩ "acme:10.0.0.1" _ (by decide) ?_⟩
  · decide +kernel
  · decide +kernel
  · have hcleanup : (2 : ℚ) ≤ seconds (2 * second) * 1 := by decide +kernel
    rintro e he
    rcases List.mem_cons.mp he with rfl | he
    · exact fun _ => rfl
    rcases List.mem_cons.mp he with rfl | he
    · exact hcleanup
    · rw [List.mem_singleton.mp he]
      exact fun _ => rfl

end Ggid.Gateway
