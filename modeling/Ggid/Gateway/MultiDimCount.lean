import Ggid.Gateway.MultiDimLimit
import Ggid.Go.Strings

/-!
# Gateway — what a limit in several dimensions counts

`Check` looks at every dimension before it counts in any, and the buckets of the dimensions of one
call are different ones. A window is reset when it is looked at for the first time after its end.

* `charges_step`       — what one call changes;
* `admitted_le`        — how many calls are admitted between two resets of a window;
* `results_filter`     — `cleanup` is not noticed;
* `multiDim_run`       — a run of calls of one tier.
-/

namespace Ggid.Gateway

open Ggid.Go Ggid.Lib

-- ---------------------------------------------------------------------------
-- Dimensions
-- ---------------------------------------------------------------------------

def dimensions : List Dimension := [.tenant, .user, .apiKey, .ip, .endpoint]

def DimValues.of (values : DimValues) : Dimension → String
  | .tenant => values.tenantID
  | .user => values.userID
  | .apiKey => values.apiKey
  | .ip => values.ip
  | .endpoint => values.endpoint

def MultiDimTierConfig.of (cfg : MultiDimTierConfig) : Dimension → MultiDimRateLimit
  | .tenant => cfg.tenant
  | .user => cfg.user
  | .apiKey => cfg.apiKey
  | .ip => cfg.ip
  | .endpoint => cfg.endpoint

theorem mem_dimensions (d : Dimension) : d ∈ dimensions := by
  cases d <;> decide

theorem dimChecks_eq (cfg : MultiDimTierConfig) (values : DimValues) :
    dimChecks cfg values = dimensions.map fun d => ⟨d, values.of d, cfg.of d⟩ := rfl

/-- The key of the bucket of a value. -/
def dimKey (d : Dimension) (v : String) : String := d.name ++ ":" ++ v

theorem colon_not_mem_name (d : Dimension) : ':' ∉ d.name.toList := by
  cases d <;> decide

theorem name_injective : Function.Injective Dimension.name := by
  intro d d' h
  cases d <;> cases d' <;> first | rfl | exact absurd h (by decide)

/-- The name of a dimension has no colon. -/
theorem dimKey_inj {d d' : Dimension} {v v' : String} (h : dimKey d v = dimKey d' v') :
    d = d' ∧ v = v' := by
  have hchars := congrArg String.toList h
  simp only [dimKey, String.toList_append, List.append_assoc] at hchars
  obtain ⟨hname, hval⟩ := Strings.append_cons_inj (colon_not_mem_name d) (colon_not_mem_name d')
    hchars
  exact ⟨name_injective (String.toList_injective hname), String.toList_injective hval⟩

/-- The keys of the dimensions that are not empty. -/
def keysOf (values : DimValues) : List String :=
  (dimensions.filter fun d => values.of d ≠ "").map fun d => dimKey d (values.of d)

theorem keysOf_nodup (values : DimValues) : (keysOf values).Nodup := by
  have hdims : dimensions.Nodup := by decide
  exact (hdims.filter _).map fun _ _ h => (dimKey_inj h).1

theorem dimKey_mem_keysOf {values : DimValues} {d : Dimension} {v : String} :
    dimKey d v ∈ keysOf values ↔ values.of d = v ∧ v ≠ "" := by
  rw [keysOf, List.mem_map]
  constructor
  · rintro ⟨d', hd', hkey⟩
    obtain ⟨rfl, hval⟩ := dimKey_inj hkey
    exact ⟨hval, by simpa [hval] using (List.mem_filter.mp hd').2⟩
  · rintro ⟨rfl, hval⟩
    exact ⟨d, List.mem_filter.mpr ⟨mem_dimensions d, by simpa using hval⟩, rfl⟩

/-- The keys under which the second loop counts. -/
def chargedKeys (l : List DimCheck) : List String :=
  (l.filter fun c => c.val ≠ "").map DimCheck.key

theorem chargedKeys_dimChecks (cfg : MultiDimTierConfig) (values : DimValues) :
    chargedKeys (dimChecks cfg values) = keysOf values := by
  rw [chargedKeys, keysOf, dimChecks_eq, List.filter_map, List.map_map]
  rfl

-- ---------------------------------------------------------------------------
-- One call
-- ---------------------------------------------------------------------------

/-- Both counters. -/
def DimBucket.counted (b : DimBucket) : DimBucket :=
  { b with burstCount := b.burstCount + 1, sustainedCount := b.sustainedCount + 1 }

theorem counted_count (b : DimBucket) (w : RateWindow) : b.counted.count w = b.count w + 1 := by
  cases w <;> rfl

section Call

variable {buckets : DimBuckets} {now : Time} {key : String} {l : List DimCheck}

theorem checkDim_other {state : DimBuckets × RateLimitResult} {c : DimCheck}
    (h : c.val ≠ "" → key ≠ c.key) : (checkDim now state c).1 key = state.1 key := by
  rw [checkDim_eq]
  split_ifs with hskipped
  · rfl
  · exact Function.update_of_ne (h (not_or.mp hskipped).1) _ _

theorem foldl_checkDim_other (h : key ∉ chargedKeys l) (state : DimBuckets × RateLimitResult) :
    (l.foldl (checkDim now) state).1 key = state.1 key := by
  induction l generalizing state with
  | nil => rfl
  | cons c l ih =>
    have hrest : key ∉ chargedKeys l := fun hmem => h (by
      obtain ⟨c', hc', hkey⟩ := List.mem_map.mp hmem
      obtain ⟨hc', hval⟩ := List.mem_filter.mp hc'
      exact List.mem_map.mpr ⟨c', List.mem_filter.mpr ⟨List.mem_cons_of_mem _ hc', hval⟩, hkey⟩)
    rw [List.foldl_cons, ih hrest]
    refine checkDim_other fun hval hkey => h (List.mem_map.mpr ⟨c, ?_, hkey.symm⟩)
    exact List.mem_filter.mpr ⟨List.mem_cons_self, by simpa using hval⟩

theorem countDim_eq (buckets : DimBuckets) (now : Time) (c : DimCheck) :
    countDim now buckets c = if c.val = "" then buckets
      else Function.update buckets c.key (some (bucketOf buckets now c).counted) := by
  rw [countDim, getOrCreate]
  split_ifs
  · rfl
  · exact Function.update_idem _ _ _

/-- The second loop counts once in each bucket. -/
theorem foldl_countDim (h : (chargedKeys l).Nodup) (buckets : DimBuckets) (key : String) :
    l.foldl (countDim now) buckets key =
      if key ∈ chargedKeys l then some (DimBucket.current (buckets key) now).counted
      else buckets key := by
  induction l generalizing buckets with
  | nil => rfl
  | cons c l ih =>
    rw [List.foldl_cons, countDim_eq]
    by_cases hval : c.val = ""
    · have hsame : chargedKeys (c :: l) = chargedKeys l := by simp [chargedKeys, hval]
      rw [if_pos hval, hsame, ih (hsame ▸ h)]
    · have hcons : chargedKeys (c :: l) = c.key :: chargedKeys l := by simp [chargedKeys, hval]
      rw [hcons, List.nodup_cons] at h
      rw [if_neg hval, hcons, ih h.2]
      by_cases hkey : key = c.key
      · rw [hkey, if_neg h.1, Function.update_self, if_pos List.mem_cons_self]
        rfl
      · rw [Function.update_of_ne hkey]
        simp [hkey]

end Call

/-- What a call may change: a call that is rejected has windows that are over reset, and a call
that is admitted is counted once, in both windows, under each of its keys. -/
structure Charges (tiers : String → Option MultiDimTierConfig) (buckets : DimBuckets)
    (tier : String) (values : DimValues) (now : Time) : Prop where
  others   : ∀ key ∉ keysOf values,
    (multiDimCheck tiers buckets tier values now).1 key = buckets key
  rejected : (multiDimCheck tiers buckets tier values now).2.allowed = false → ∀ key,
    (multiDimCheck tiers buckets tier values now).1 key = buckets key ∨
      (multiDimCheck tiers buckets tier values now).1 key =
        some (DimBucket.current (buckets key) now)
  admitted : (multiDimCheck tiers buckets tier values now).2.allowed = true →
    ∀ key ∈ keysOf values, (multiDimCheck tiers buckets tier values now).1 key =
      some (DimBucket.current (buckets key) now).counted

section Tier

variable {tiers : String → Option MultiDimTierConfig} {tier : String} {cfg : MultiDimTierConfig}
  {values : DimValues} {buckets : DimBuckets} {now : Time}

/-- The first loop only looks. -/
theorem looked_current (cfg : MultiDimTierConfig) (key : String) :
    DimBucket.current (((dimChecks cfg values).foldl (checkDim now) (buckets, .unlimited)).1 key)
      now = DimBucket.current (buckets key) now := by
  rcases (foldl_checkDim buckets now (dimChecks cfg values)).same key with hsame | htouched
  · rw [hsame]
  · rw [htouched, current_touched]

theorem check_admitted (hcfg : tiers tier = some cfg)
    (h : (multiDimCheck tiers buckets tier values now).2.allowed = true) (key : String) :
    (multiDimCheck tiers buckets tier values now).1 key =
      if key ∈ keysOf values then some (DimBucket.current (buckets key) now).counted
      else buckets key := by
  have hallowed : ((dimChecks cfg values).foldl (checkDim now)
      (buckets, .unlimited)).2.allowed = true := by
    rwa [(foldl_checkDim buckets now _).allowed, ← check_allowed_iff hcfg]
  have hnodup : (chargedKeys (dimChecks cfg values)).Nodup := by
    rw [chargedKeys_dimChecks]
    exact keysOf_nodup values
  unfold multiDimCheck
  rw [hcfg]
  dsimp only
  rw [if_pos hallowed]
  dsimp only
  rw [foldl_countDim hnodup, chargedKeys_dimChecks, looked_current]
  split_ifs with hkey
  · rfl
  · rw [← chargedKeys_dimChecks cfg values] at hkey
    exact foldl_checkDim_other hkey _

/-- **One call.** -/
theorem charges_step (hcfg : tiers tier = some cfg) :
    Charges tiers buckets tier values now := by
  refine ⟨fun key hkey => ?_, fun h key => (check_rejected hcfg h).same key,
    fun h key hkey => (check_admitted hcfg h key).trans (if_pos hkey)⟩
  cases h : (multiDimCheck tiers buckets tier values now).2.allowed with
  | true => exact (check_admitted hcfg h key).trans (if_neg hkey)
  | false =>
    have hrejected : ((dimChecks cfg values).foldl (checkDim now)
        (buckets, .unlimited)).2.allowed = false := by
      rw [Bool.eq_false_iff] at h ⊢
      rwa [Ne, (foldl_checkDim buckets now _).allowed, ← check_allowed_iff hcfg]
    unfold multiDimCheck
    rw [hcfg]
    dsimp only
    rw [if_neg (by simp [hrejected])]
    dsimp only
    rw [← chargedKeys_dimChecks cfg values] at hkey
    exact foldl_checkDim_other hkey _

end Tier

-- ---------------------------------------------------------------------------
-- Between two resets
-- ---------------------------------------------------------------------------

/-- The event resets the window of the value, or is the first to look at it. -/
def Resets (d : Dimension) (v : String) (w : RateWindow) (buckets : DimBuckets) :
    MultiDimEvent → Prop
  | .check _ values now =>
    values.of d = v ∧ ∀ b, buckets (dimKey d v) = some b → b.expireAt w < now
  | .cleanup _ => False

/-- The event is a call with the value, and is admitted. -/
def admits (tiers : String → Option MultiDimTierConfig) (d : Dimension) (v : String)
    (buckets : DimBuckets) : MultiDimEvent → Bool
  | .check tier values now =>
    values.of d == v && (multiDimCheck tiers buckets tier values now).2.allowed
  | .cleanup _ => false

/-- How many calls with the value are admitted. -/
def admittedCalls (tiers : String → Option MultiDimTierConfig) (d : Dimension) (v : String) :
    DimBuckets → List MultiDimEvent → Int
  | _, [] => 0
  | buckets, event :: events =>
    (if admits tiers d v buckets event then 1 else 0) +
      admittedCalls tiers d v (multiDimStep tiers buckets event) events

/-- The calls are of one tier. -/
def OfTier (tier : String) : MultiDimEvent → Prop
  | .check tier' _ _ => tier' = tier
  | .cleanup _ => True

section Windows

variable {tiers : String → Option MultiDimTierConfig} {tier : String} {cfg : MultiDimTierConfig}
  {d : Dimension} {v : String} {w : RateWindow} {buckets : DimBuckets}

theorem admitted_cleanup (t : Time) (events : List MultiDimEvent) :
    admittedCalls tiers d v buckets (.cleanup t :: events) =
      admittedCalls tiers d v (multiDimCleanup buckets t) events := by
  rw [admittedCalls, admits, if_neg (by simp), zero_add]
  rfl

theorem admitted_check (values : DimValues) (now : Time) (events : List MultiDimEvent) :
    admittedCalls tiers d v buckets (.check tier values now :: events) =
      (if values.of d = v ∧ (multiDimCheck tiers buckets tier values now).2.allowed = true then 1
        else 0) + admittedCalls tiers d v (multiDimCheck tiers buckets tier values now).1 events := by
  rw [admittedCalls, admits]
  simp only [Bool.and_eq_true, beq_iff_eq]
  rfl

/-- A call that is admitted finds room in each limited window, and is counted. -/
theorem admitted_step {values : DimValues} {now : Time} (hcfg : tiers tier = some cfg)
    (hv : v ≠ "") (hval : values.of d = v) (hlimit : 0 < (cfg.of d).of w)
    (h : (multiDimCheck tiers buckets tier values now).2.allowed = true) :
    (DimBucket.current (buckets (dimKey d v)) now).count w < (cfg.of d).of w ∧
      (multiDimCheck tiers buckets tier values now).1 (dimKey d v) =
        some (DimBucket.current (buckets (dimKey d v)) now).counted := by
  refine ⟨?_, (charges_step hcfg).admitted h _ (dimKey_mem_keysOf.mpr ⟨hval, hv⟩)⟩
  have hmem : (⟨d, v, cfg.of d⟩ : DimCheck) ∈ dimChecks cfg values := by
    rw [dimChecks_eq, ← hval]
    exact List.mem_map_of_mem (mem_dimensions d)
  have hroom := (check_allowed_iff hcfg).mp h _ hmem w
  rw [DimCheck.full] at hroom
  by_contra hfull
  exact hroom ⟨hv, hlimit, not_lt.mp hfull⟩

/-- A window that is not there is reset by the next call. -/
theorem admitted_of_none (hnone : buckets (dimKey d v) = none) {events : List MultiDimEvent}
    (htier : ∀ event ∈ events, OfTier tier event) (hcfg : tiers tier = some cfg)
    (hok : StepsOk (multiDimStep tiers) (fun s e => ¬ Resets d v w s e) buckets events) :
    admittedCalls tiers d v buckets events = 0 := by
  induction events generalizing buckets with
  | nil => rfl
  | cons event events ih =>
    obtain ⟨hno, hok⟩ := hok
    have hrest := fun e he => htier e (List.mem_cons_of_mem _ he)
    cases event with
    | cleanup t =>
      have hnone' : multiDimCleanup buckets t (dimKey d v) = none := by
        rw [multiDimCleanup, hnone]
        rfl
      rw [admitted_cleanup]
      exact ih hnone' hrest hok
    | check tier' values now =>
      obtain rfl : tier' = tier := htier _ List.mem_cons_self
      have hval : values.of d ≠ v := fun hval => hno ⟨hval, by simp [hnone]⟩
      have hnone' : multiDimStep tiers buckets (.check tier' values now) (dimKey d v) = none :=
        ((charges_step hcfg).others _ fun hmem =>
          hval (dimKey_mem_keysOf.mp hmem).1).trans hnone
      rw [admitted_check, if_neg fun h => hval h.1, zero_add]
      exact ih hnone' hrest hok

/-- Until the window is reset, what is admitted comes on top of what is counted. -/
theorem admitted_of_some {b : DimBucket} (hb : buckets (dimKey d v) = some b)
    {events : List MultiDimEvent} (htier : ∀ event ∈ events, OfTier tier event)
    (hcfg : tiers tier = some cfg) (hv : v ≠ "") (hlimit : 0 < (cfg.of d).of w)
    (hok : StepsOk (multiDimStep tiers) (fun s e => ¬ Resets d v w s e) buckets events) :
    admittedCalls tiers d v buckets events = 0 ∨
      b.count w + admittedCalls tiers d v buckets events ≤ (cfg.of d).of w := by
  induction events generalizing buckets b with
  | nil => exact .inl rfl
  | cons event events ih =>
    obtain ⟨hno, hok⟩ := hok
    have hrest := fun e he => htier e (List.mem_cons_of_mem _ he)
    cases event with
    | cleanup t =>
      rw [admitted_cleanup]
      cases hkept : multiDimCleanup buckets t (dimKey d v) with
      | none => exact .inl (admitted_of_none hkept hrest hcfg hok)
      | some b' =>
        obtain rfl : b' = b := by
          rw [multiDimCleanup, hb, Option.filter_some] at hkept
          split_ifs at hkept
          exact (Option.some.inj hkept).symm
        exact ih hkept hrest hok
    | check tier' values now =>
      obtain rfl : tier' = tier := htier _ List.mem_cons_self
      by_cases hval : values.of d = v
      · -- the window is not over
        have hlive : ¬ b.expireAt w < now := by
          intro hover
          refine hno ⟨hval, fun b' hb' => ?_⟩
          obtain rfl := Option.some.inj (hb.symm.trans hb')
          exact hover
        have hcount : (DimBucket.current (some b) now).count w = b.count w := by
          rw [(current_some b now w).1, if_neg hlive]
        cases hallowed : (multiDimCheck tiers buckets tier' values now).2.allowed with
        | true =>
          obtain ⟨hroom, hcounted⟩ := admitted_step hcfg hv hval hlimit hallowed
          rw [hb, hcount] at hroom
          rw [hb] at hcounted
          rw [admitted_check, if_pos ⟨hval, hallowed⟩]
          refine .inr ?_
          rcases ih hcounted hrest hok with hzero | hle
          · have hzero' : admittedCalls tiers d v
                (multiDimCheck tiers buckets tier' values now).1 events = 0 := hzero
            omega
          · have hle' : b.count w + 1 + admittedCalls tiers d v
                (multiDimCheck tiers buckets tier' values now).1 events ≤ (cfg.of d).of w := by
              rwa [counted_count, hcount] at hle
            omega
        | false =>
          rw [admitted_check, if_neg (by simp [hallowed]), zero_add]
          rcases (charges_step hcfg).rejected hallowed (dimKey d v) with hsame | htouched
          · exact ih (hsame.trans hb) hrest hok
          · rw [hb] at htouched
            have hlater := ih htouched hrest hok
            rwa [hcount] at hlater
      · have hother : multiDimStep tiers buckets (.check tier' values now) (dimKey d v) = some b :=
          ((charges_step hcfg).others _ fun hmem => hval (dimKey_mem_keysOf.mp hmem).1).trans hb
        rw [admitted_check, if_neg fun h => hval h.1, zero_add]
        exact ih hother hrest hok

/-- What is counted is not negative. -/
def Counting (buckets : DimBuckets) : Prop := ∀ key b, buckets key = some b → ∀ w, 0 ≤ b.count w

theorem Counting.current (h : Counting buckets) (key : String) (now : Time) (w : RateWindow) :
    0 ≤ (DimBucket.current (buckets key) now).count w := by
  cases hb : buckets key with
  | none =>
    rw [current_none]
    cases w <;> exact le_rfl
  | some b =>
    rw [(current_some b now w).1]
    split_ifs
    · exact le_rfl
    · exact h key b hb w

theorem Counting.step (hcfg : tiers tier = some cfg) (h : Counting buckets) {event : MultiDimEvent}
    (htier : OfTier tier event) : Counting (multiDimStep tiers buckets event) := by
  intro key b hb w
  cases event with
  | cleanup t =>
    have hold : buckets key = some b := (Option.filter_eq_some_iff.mp hb).1
    exact h key b hold w
  | check tier' values now =>
    obtain rfl : tier' = tier := htier
    have hcharges : Charges tiers buckets tier' values now := charges_step hcfg
    have hb' : (multiDimCheck tiers buckets tier' values now).1 key = some b := hb
    by_cases hkey : key ∈ keysOf values
    · cases hallowed : (multiDimCheck tiers buckets tier' values now).2.allowed with
      | true =>
        rw [hcharges.admitted hallowed key hkey] at hb'
        obtain rfl := Option.some.inj hb'
        rw [counted_count]
        exact Int.add_nonneg (h.current key now w) (by decide)
      | false =>
        rcases hcharges.rejected hallowed key with hsame | htouched
        · exact h key b (hsame ▸ hb') w
        · rw [htouched] at hb'
          obtain rfl := Option.some.inj hb'
          exact h.current key now w
    · rw [hcharges.others key hkey] at hb'
      exact h key b hb' w

/-- **Between two resets** of a window, the first event of `event :: events` being the one that
resets it, no more calls are admitted than the limit says. -/
theorem admitted_le (hcfg : tiers tier = some cfg) (hv : v ≠ "") (hlimit : 0 < (cfg.of d).of w)
    (hcounting : Counting buckets) {event : MultiDimEvent} {events : List MultiDimEvent}
    (htier : ∀ e ∈ event :: events, OfTier tier e)
    (hok : StepsOk (multiDimStep tiers) (fun s e => ¬ Resets d v w s e)
      (multiDimStep tiers buckets event) events) :
    admittedCalls tiers d v buckets (event :: events) ≤ (cfg.of d).of w := by
  have hrest := fun e he => htier e (List.mem_cons_of_mem _ he)
  have hafter := hcounting.step hcfg (htier _ List.mem_cons_self)
  -- of the events behind the first
  have hbehind : admittedCalls tiers d v (multiDimStep tiers buckets event) events ≤
      (cfg.of d).of w := by
    cases hb : multiDimStep tiers buckets event (dimKey d v) with
    | none =>
      rw [admitted_of_none hb hrest hcfg hok]
      exact hlimit.le
    | some b =>
      have hnonneg := hafter _ b hb w
      rcases admitted_of_some hb hrest hcfg hv hlimit hok with hzero | hle <;> omega
  cases event with
  | cleanup t =>
    rw [admitted_cleanup]
    exact hbehind
  | check tier' values now =>
    obtain rfl : tier' = tier := htier _ List.mem_cons_self
    rw [admitted_check]
    split_ifs with hadmitted
    · obtain ⟨hroom, hcounted⟩ := admitted_step hcfg hv hadmitted.1 hlimit hadmitted.2
      have hnonneg := hcounting.current (dimKey d v) now w
      rcases admitted_of_some hcounted hrest hcfg hv hlimit hok with hzero | hle
      · have hzero' : admittedCalls tiers d v
            (multiDimCheck tiers buckets tier' values now).1 events = 0 := hzero
        omega
      · have hle' : (DimBucket.current (buckets (dimKey d v)) now).count w + 1 +
            admittedCalls tiers d v (multiDimCheck tiers buckets tier' values now).1 events ≤
              (cfg.of d).of w := by
          rwa [counted_count] at hle
        omega
    · rw [zero_add]
      exact hbehind

end Windows

-- ---------------------------------------------------------------------------
-- Cleaning up
-- ---------------------------------------------------------------------------

def MultiDimEvent.time : MultiDimEvent → Time
  | .check _ _ now => now
  | .cleanup now => now

def MultiDimEvent.isCheck : MultiDimEvent → Bool
  | .check .. => true
  | .cleanup _ => false

/-- What the calls of a run return. -/
def multiDimResults (tiers : String → Option MultiDimTierConfig) :
    DimBuckets → List MultiDimEvent → List RateLimitResult
  | _, [] => []
  | buckets, .check tier values now :: events =>
    (multiDimCheck tiers buckets tier values now).2 ::
      multiDimResults tiers (multiDimCheck tiers buckets tier values now).1 events
  | buckets, .cleanup now :: events => multiDimResults tiers (multiDimCleanup buckets now) events

/-- From a time on, the same buckets are found. -/
def Alike (now : Time) (buckets buckets' : DimBuckets) : Prop :=
  ∀ key later, now ≤ later →
    DimBucket.current (buckets key) later = DimBucket.current (buckets' key) later

section Cleanups

variable {tiers : String → Option MultiDimTierConfig} {buckets buckets' : DimBuckets}
  {now later : Time}

theorem Alike.update (h : Alike now buckets buckets') (key : String) (b : DimBucket) :
    Alike now (Function.update buckets key (some b)) (Function.update buckets' key (some b)) := by
  intro key' later hle
  by_cases hkey : key' = key
  · rw [hkey, Function.update_self, Function.update_self]
  · rw [Function.update_of_ne hkey, Function.update_of_ne hkey]
    exact h key' later hle

/-- A bucket that is deleted is found as if it had been reset. -/
theorem alike_cleanup {t : Time} (h : Alike now buckets buckets') (hle : now ≤ t) :
    Alike t (multiDimCleanup buckets t) buckets' := by
  intro key later hlater
  rw [← h key later (hle.trans hlater)]
  exact current_cleanup hlater key

theorem Alike.checkDims (h : Alike now buckets buckets') (l : List DimCheck)
    (result : RateLimitResult) :
    (l.foldl (checkDim now) (buckets, result)).2 =
        (l.foldl (checkDim now) (buckets', result)).2 ∧
      Alike now (l.foldl (checkDim now) (buckets, result)).1
        (l.foldl (checkDim now) (buckets', result)).1 := by
  induction l generalizing buckets buckets' result with
  | nil => exact ⟨rfl, h⟩
  | cons c l ih =>
    have hbucket : bucketOf buckets now c = bucketOf buckets' now c := h c.key now le_rfl
    rw [List.foldl_cons, List.foldl_cons, checkDim_eq, checkDim_eq]
    split_ifs with hskipped
    · exact ih h result
    · rw [hbucket]
      exact ih (h.update _ _) _

theorem Alike.countDims (h : Alike now buckets buckets') (l : List DimCheck) :
    Alike now (l.foldl (countDim now) buckets) (l.foldl (countDim now) buckets') := by
  induction l generalizing buckets buckets' with
  | nil => exact h
  | cons c l ih =>
    have hbucket : bucketOf buckets now c = bucketOf buckets' now c := h c.key now le_rfl
    rw [List.foldl_cons, List.foldl_cons, countDim_eq, countDim_eq]
    split_ifs
    · exact ih h
    · rw [hbucket]
      exact ih (h.update _ _)

theorem Alike.check (h : Alike now buckets buckets') (tier : String) (values : DimValues) :
    (multiDimCheck tiers buckets tier values now).2 =
        (multiDimCheck tiers buckets' tier values now).2 ∧
      Alike now (multiDimCheck tiers buckets tier values now).1
        (multiDimCheck tiers buckets' tier values now).1 := by
  cases hcfg : tiers tier with
  | none =>
    rw [check_unknown hcfg, check_unknown hcfg]
    exact ⟨rfl, h⟩
  | some cfg =>
    unfold multiDimCheck
    rw [hcfg]
    dsimp only
    -- the list is five dimensions long, and need not be looked at
    generalize dimChecks cfg values = l
    obtain ⟨hresult, hbuckets⟩ := h.checkDims l .unlimited
    have hcounts := hbuckets.countDims l
    rw [hresult]
    split_ifs
    · exact ⟨rfl, hcounts⟩
    · exact ⟨rfl, hbuckets⟩

/-- **Cleaning up** changes no outcome. -/
theorem results_filter {events : List MultiDimEvent} (h : Alike now buckets buckets')
    (hlater : ∀ event ∈ events, now ≤ event.time)
    (htimes : events.Pairwise fun e e' => e.time ≤ e'.time) :
    multiDimResults tiers buckets events =
      multiDimResults tiers buckets' (events.filter MultiDimEvent.isCheck) := by
  induction events generalizing now buckets buckets' with
  | nil => rfl
  | cons event events ih =>
    rw [List.pairwise_cons] at htimes
    have hle := hlater event List.mem_cons_self
    cases event with
    | cleanup t =>
      rw [List.filter_cons_of_neg (by simp [MultiDimEvent.isCheck]), multiDimResults]
      exact ih (alike_cleanup h hle) htimes.1 htimes.2
    | check tier values t =>
      have halike : Alike t buckets buckets' := fun key later hlt => h key later (hle.trans hlt)
      obtain ⟨hresult, hafter⟩ := @Alike.check tiers buckets buckets' t halike tier values
      rw [List.filter_cons_of_pos (by rfl), multiDimResults, multiDimResults, hresult,
        ih hafter htimes.1 htimes.2]

end Cleanups

-- ---------------------------------------------------------------------------
-- Runs
-- ---------------------------------------------------------------------------

/-- What one event of a run may change. -/
def ChargesOnce (tiers : String → Option MultiDimTierConfig) (buckets : DimBuckets) :
    MultiDimEvent → Prop
  | .check tier values now => Charges tiers buckets tier values now
  | .cleanup _ => True

/-- **A run of calls of one tier**, with passes of `cleanup` in between: a call that is rejected
counts nowhere and one that is admitted counts once in both windows of each dimension that is not
empty; between two resets of a limited window no more calls are admitted than its limit says; and
the calls return what they would without the passes. -/
theorem multiDim_run {tiers : String → Option MultiDimTierConfig} {tier : String}
    {cfg : MultiDimTierConfig} {events : List MultiDimEvent} (hcfg : tiers tier = some cfg)
    (htier : ∀ event ∈ events, OfTier tier event)
    (htimes : events.Pairwise fun e e' => e.time ≤ e'.time) :
    StepsOk (multiDimStep tiers) (ChargesOnce tiers) (fun _ => none) events ∧
    (∀ (d : Dimension) (v : String) (w : RateWindow), v ≠ "" → 0 < (cfg.of d).of w →
      ∀ before event seg after, events = before ++ (event :: seg) ++ after →
        StepsOk (multiDimStep tiers) (fun s e => ¬ Resets d v w s e)
          (run (multiDimStep tiers) (fun _ => none) (before ++ [event])) seg →
        admittedCalls tiers d v (run (multiDimStep tiers) (fun _ => none) before) (event :: seg) ≤
          (cfg.of d).of w) ∧
    multiDimResults tiers (fun _ => none) events =
      multiDimResults tiers (fun _ => none) (events.filter MultiDimEvent.isCheck) := by
  refine ⟨?_, fun d v w hv hlimit before event seg after hevents hok => ?_, ?_⟩
  · refine stepsOk_mono ?_ (stepsOk_of_forall htier)
    intro s event hevent
    cases event with
    | cleanup t => trivial
    | check tier' values now =>
      obtain rfl : tier' = tier := hevent
      exact charges_step hcfg
  · have hcounting : Counting (run (multiDimStep tiers) (fun _ => none) before) := by
      have hbefore : ∀ e ∈ before, OfTier tier e := fun e he => htier e (by simp [hevents, he])
      have hempty : Counting fun _ => none := fun _ _ h => by cases h
      have hok : StepsOk (multiDimStep tiers) (fun _ e => OfTier tier e) (fun _ => none) before :=
        stepsOk_of_forall hbefore
      have hstep : ∀ s e, Counting s → OfTier tier e → Counting (multiDimStep tiers s e) :=
        fun _ _ hs he => hs.step hcfg he
      exact invariant_states hstep hempty hok _ (run_mem_states _ _)
    rw [run_concat] at hok
    refine admitted_le hcfg hv hlimit hcounting (fun e he => htier e ?_) hok
    rw [hevents]
    exact List.mem_append_left _ (List.mem_append_right _ he)
  · cases events with
    | nil => rfl
    | cons event events =>
      refine @results_filter tiers _ _ event.time _ (fun _ _ _ => rfl) ?_ htimes
      intro e he
      rcases List.mem_cons.mp he with rfl | he
      · exact le_rfl
      · exact (List.pairwise_cons.mp htimes).1 e he

open Sample in
theorem multiDim_run_twoUsers :
    StepsOk (multiDimStep twoAndOne) (ChargesOnce twoAndOne) (fun _ => none) twoUsers :=
  (@multiDim_run twoAndOne "free" _ twoUsers rfl (by simp [twoUsers, OfTier])
    (by simp [twoUsers, MultiDimEvent.time, second])).1

end Ggid.Gateway
