import Ggid.Go.Value
import Ggid.Lib.Framing
import Ggid.Lib.Run
import Ggid.Lib.Tiers
import Mathlib.Data.List.Count

/-!
# Gateway — the stores of the sliding window

`CountAndAdd` says how many entries of a key lie in a half-open window, and adds one. One store
keeps a list of timestamps for each key, the other a sorted set in Redis; `Entries` keeps
everything, and counts what the interface says.

* `memory_refines`, `redis_refines` — where both count that: no entry on the edges of the window,
  none of the window removed;
* `memoryKept_of_steady`, `redisKept_of_steady` — with one short window for each key none is.
-/

namespace Ggid.Gateway

open Ggid.Go Ggid.Lib

/-- A call of `CountAndAdd`, or a round of the cleanup, some time after what was before. -/
inductive RateEvent where
  | countAndAdd (key : String) (windowStart : Time) (elapsed : Nat)
  | evictStaleBuckets (elapsed : Nat)

inductive RateError where
  | wrongType
  | overflow
  deriving DecidableEq

-- ---------------------------------------------------------------------------
-- What the interface says
-- ---------------------------------------------------------------------------

/-- All entries, by key, in the order in which they were added. -/
structure Entries where
  clock   : Time
  entries : String → List Time

/-- `[windowStart, now)`. -/
def inWindow (windowStart now t : Time) : Bool := decide (windowStart ≤ t) && decide (t < now)

namespace Entries

def countAndAdd (s : Entries) (key : String) (windowStart now : Time) : Entries × Nat :=
  (⟨now, Function.update s.entries key (s.entries key ++ [now])⟩,
    (s.entries key).countP (inWindow windowStart now))

def act (s : Entries) : RateEvent → Entries × Option (Except RateError Nat)
  | .countAndAdd key windowStart elapsed =>
    let (s', count) := s.countAndAdd key windowStart (s.clock + elapsed)
    (s', some (.ok count))
  | .evictStaleBuckets elapsed => ({ s with clock := s.clock + elapsed }, none)

def start (clock : Time) : Entries := ⟨clock, fun _ => []⟩

end Entries

-- ---------------------------------------------------------------------------
-- `MemoryRateLimitStore`
-- ---------------------------------------------------------------------------

structure MemoryRateLimitStore where
  clock   : Time
  buckets : String → Option (List Time)

namespace MemoryRateLimitStore

/-- The timestamps of a key. -/
def timestamps (s : MemoryRateLimitStore) (key : String) : List Time := (s.buckets key).getD []

def countAndAdd (s : MemoryRateLimitStore) (key : String) (windowStart now : Time) :
    MemoryRateLimitStore × Nat :=
  let kept := (s.timestamps key).filter fun ts => windowStart < ts
  (⟨now, Function.update s.buckets key (some (kept ++ [now]))⟩, kept.length)

/-- The bucket has been idle for an hour. -/
def stale (now : Time) (bucket : List Time) : Bool :=
  bucket.getLast?.all fun last => last < now - 60 * minute

def evictStaleBuckets (s : MemoryRateLimitStore) (now : Time) : MemoryRateLimitStore :=
  ⟨now, fun key => (s.buckets key).filter fun bucket => !stale now bucket⟩

def act (s : MemoryRateLimitStore) :
    RateEvent → MemoryRateLimitStore × Option (Except RateError Nat)
  | .countAndAdd key windowStart elapsed =>
    let (s', count) := s.countAndAdd key windowStart (s.clock + elapsed)
    (s', some (.ok count))
  | .evictStaleBuckets elapsed => (s.evictStaleBuckets (s.clock + elapsed), none)

def start (clock : Time) : MemoryRateLimitStore := ⟨clock, fun _ => none⟩

end MemoryRateLimitStore

-- ---------------------------------------------------------------------------
-- `RedisRateLimitStore`
-- ---------------------------------------------------------------------------

/-- A counter, or a sorted set of members with their scores. -/
inductive RedisValue where
  | counter (n : Nat)
  | zset (members : List (String × Time))

abbrev RedisDb := String → Option (Stored RedisValue)

namespace RedisDb

/-- What is under a key. -/
def get (db : RedisDb) (now : Time) (key : String) : Option (Stored RedisValue) :=
  (db key).filter (Stored.live now)

/-- The sorted set under a key, empty if there is nothing. -/
def zset (db : RedisDb) (now : Time) (key : String) : Except RateError (List (String × Time)) :=
  match db.get now key with
  | none => .ok []
  | some ⟨.zset members, _⟩ => .ok members
  | some ⟨.counter _, _⟩ => .error .wrongType

/-- The counter under a key, if it holds one. -/
def counterAt (db : RedisDb) (now : Time) (key : String) : Option Nat :=
  match db.get now key with
  | some ⟨.counter n, _⟩ => some n
  | _ => none

/-- The sorted set under a key, if it holds one. -/
def setAt (db : RedisDb) (now : Time) (key : String) : Option (List (String × Time)) :=
  match db.get now key with
  | some ⟨.zset members, _⟩ => some members
  | _ => none

/-- Other members of a sorted set that is there; an empty one is deleted. -/
def setMembers (db : RedisDb) (now : Time) (key : String) (members : List (String × Time)) :
    RedisDb :=
  Function.update db key
    (if members = [] then none else some ⟨.zset members, (db.get now key).bind Stored.deadline⟩)

/-- `INCR`, and the new value. -/
def incr (db : RedisDb) (now : Time) (key : String) : Except RateError (RedisDb × Nat) :=
  match db.get now key with
  | none => .ok (Function.update db key (some ⟨.counter 1, none⟩), 1)
  | some ⟨.counter n, deadline⟩ =>
    if n + 1 < 2 ^ 63 then
      .ok (Function.update db key (some ⟨.counter (n + 1), deadline⟩), n + 1)
    else .error .overflow
  | some ⟨.zset _, _⟩ => .error .wrongType

/-- `ZADD`: a member that is there gets another score. -/
def zadd (members : List (String × Time)) (score : Time) (member : String) :
    List (String × Time) :=
  if members.any fun m => m.1 = member then
    members.map fun m => if m.1 = member then (member, score) else m
  else members ++ [(member, score)]

/-- `EXPIRE`. -/
def expire (db : RedisDb) (now : Time) (key : String) (seconds : Int) : RedisDb :=
  Function.update db key
    ((db key).map fun entry => { entry with deadline := some (now + seconds * second) })

end RedisDb

structure RedisRateLimitStore where
  clock : Time
  db    : RedisDb

namespace RedisRateLimitStore

variable (luaText : Time → String)

/-- The script; `luaText` is how Lua writes a number. -/
def slidingWindowLua (db : RedisDb) (key : String) (windowStart now : Time) :
    RedisDb × Except RateError Nat :=
  match db.zset now key with
  | .error e => (db, .error e)
  | .ok members =>
    let kept := members.filter fun m => windowStart ≤ m.2
    let db' := db.setMembers now key kept
    match db'.incr now (key ++ ":seq") with
    | .error e => (db', .error e)
    | .ok (db'', seq) =>
      let added := RedisDb.zadd kept now (luaText now ++ ":" ++ seq.repr)
      ((db''.setMembers now key added).expire now key 120, .ok kept.length)

def act (s : RedisRateLimitStore) :
    RateEvent → RedisRateLimitStore × Option (Except RateError Nat)
  | .countAndAdd key windowStart elapsed =>
    let now := s.clock + elapsed
    let (db, count) := slidingWindowLua luaText s.db key windowStart now
    (⟨now, db⟩, some count)
  | .evictStaleBuckets elapsed => ({ s with clock := s.clock + elapsed }, none)

def start (clock : Time) : RedisRateLimitStore := ⟨clock, fun _ => none⟩

/-- The scores under a key. -/
def scores (db : RedisDb) (now : Time) (key : String) : List Time :=
  ((db.setAt now key).getD []).map Prod.snd

end RedisRateLimitStore

-- ---------------------------------------------------------------------------
-- What is asked of a call
-- ---------------------------------------------------------------------------

/-- No entry on the edges of a window: at its start, or made at the same instant. -/
def OffEdges (s : Entries) : RateEvent → Prop
  | .countAndAdd key windowStart elapsed =>
    windowStart < s.clock + elapsed →
      windowStart ∉ s.entries key ∧ s.clock + elapsed ∉ s.entries key
  | .evictStaleBuckets _ => True

/-- No entry made at the same instant, unless the window starts behind it. -/
def OffEnd (s : Entries) : RateEvent → Prop
  | .countAndAdd key windowStart elapsed =>
    windowStart ≤ s.clock + elapsed → s.clock + elapsed ∉ s.entries key
  | .evictStaleBuckets _ => True

/-- No entry inside the window has been removed from the bucket. -/
def MemoryKept (p : Entries × MemoryRateLimitStore) : RateEvent → Prop
  | .countAndAdd key windowStart elapsed => ∀ t, windowStart < t → t < p.1.clock + elapsed →
    (p.2.timestamps key).count t = (p.1.entries key).count t
  | .evictStaleBuckets _ => True

/-- No entry of the window has been removed from the set, or has gone with it. -/
def RedisKept (p : Entries × RedisRateLimitStore) : RateEvent → Prop
  | .countAndAdd key windowStart elapsed => ∀ t, windowStart ≤ t → t < p.1.clock + elapsed →
    (RedisRateLimitStore.scores p.2.db (p.2.clock + elapsed) key).count t =
      (p.1.entries key).count t
  | .evictStaleBuckets _ => True

/-- The key of the call holds no counter, and the key of its counter no set; and the counter can
go on. -/
def OwnCounter (s : RedisRateLimitStore) : RateEvent → Prop
  | .countAndAdd key _ elapsed =>
    s.db.counterAt (s.clock + elapsed) key = none ∧
      s.db.setAt (s.clock + elapsed) (key ++ ":seq") = none ∧
        ∀ n ∈ s.db.counterAt (s.clock + elapsed) (key ++ ":seq"), n + 1 < 2 ^ 63
  | .evictStaleBuckets _ => True

/-- One window for each key, of the given length. -/
def Steady (window : String → Int) (s : Entries) : RateEvent → Prop
  | .countAndAdd key windowStart elapsed => windowStart = s.clock + elapsed - window key
  | .evictStaleBuckets _ => True

-- ---------------------------------------------------------------------------
-- Counting
-- ---------------------------------------------------------------------------

/-- What is counted on both sides, entry by entry. -/
theorem length_filter_eq_countP {stored entries : List Time} {p q : Time → Bool}
    (h : ∀ t, (if p t then stored.count t else 0) = if q t then entries.count t else 0) :
    (stored.filter p).length = entries.countP q := by
  rw [List.countP_eq_length_filter]
  refine (List.perm_iff_count.mpr fun t => ?_).length_eq
  have hcount : ∀ (l : List Time) (r : Time → Bool),
      (l.filter r).count t = if r t then l.count t else 0 := by
    intro l r
    split_ifs with hr
    · exact List.count_filter hr
    · exact List.count_eq_zero.mpr fun hmem => hr (List.mem_filter.mp hmem).2
  rw [hcount, hcount]
  exact h t

/-- Every entry has been made, and what is stored is among them. -/
structure Stores (s : Entries) (stored : String → List Time) : Prop where
  past  : ∀ key, ∀ t ∈ s.entries key, t ≤ s.clock
  fewer : ∀ key t, (stored key).count t ≤ (s.entries key).count t

section Counting

variable {s : Entries} {stored : String → List Time} {key : String} {windowStart : Time}
  {elapsed : Nat}

theorem Stores.count_eq_zero (h : Stores s stored) {t : Time} (ht : t ∉ s.entries key) :
    (stored key).count t = 0 ∧ (s.entries key).count t = 0 := by
  have hnone := List.count_eq_zero.mpr ht
  have hfewer := h.fewer key t
  omega

theorem clock_le (s : Entries) (elapsed : Nat) : s.clock ≤ s.clock + elapsed :=
  Int.le_add_of_nonneg_right (Int.natCast_nonneg elapsed)

theorem Stores.not_mem_of_lt (h : Stores s stored) {t : Time} (ht : s.clock + elapsed < t) :
    t ∉ s.entries key := fun hmem =>
  absurd ((h.past key t hmem).trans (clock_le s elapsed)) (not_le.mpr ht)

/-- After a call: nothing but the new entry has been added. -/
theorem Stores.add (h : Stores s stored) {stored' : String → List Time}
    (hother : ∀ k, k ≠ key → ∀ t, (stored' k).count t ≤ (stored k).count t)
    (hkey : ∀ t, (stored' key).count t ≤ (stored key).count t + [s.clock + elapsed].count t) :
    Stores (s.countAndAdd key windowStart (s.clock + elapsed)).1 stored' := by
  constructor
  · intro k t hmem
    by_cases hk : k = key
    · subst hk
      simp only [Entries.countAndAdd, Function.update_self, List.mem_append, List.mem_singleton]
        at hmem
      rcases hmem with hmem | rfl
      · exact (h.past k t hmem).trans (clock_le s elapsed)
      · exact le_refl _
    · simp only [Entries.countAndAdd, Function.update_of_ne hk] at hmem
      exact (h.past k t hmem).trans (clock_le s elapsed)
  · intro k t
    by_cases hk : k = key
    · subst hk
      simp only [Entries.countAndAdd, Function.update_self, List.count_append]
      exact (hkey t).trans (Nat.add_le_add_right (h.fewer k t) _)
    · simp only [Entries.countAndAdd, Function.update_of_ne hk]
      exact (hother k hk t).trans (h.fewer k t)

/-- While time goes by. -/
theorem Stores.wait (h : Stores s stored) {stored' : String → List Time}
    (hfewer : ∀ k t, (stored' k).count t ≤ (stored k).count t) :
    Stores { s with clock := s.clock + elapsed } stored' where
  past := fun k t hmem => (h.past k t hmem).trans (clock_le s elapsed)
  fewer := fun k t => (hfewer k t).trans (h.fewer k t)

end Counting

-- ---------------------------------------------------------------------------
-- The store in memory
-- ---------------------------------------------------------------------------

namespace MemoryRateLimitStore

variable {s : Entries} {m : MemoryRateLimitStore} {key : String} {windowStart now : Time}

theorem timestamps_countAndAdd (key' : String) :
    (m.countAndAdd key windowStart now).1.timestamps key' =
      if key' = key then (m.timestamps key).filter (fun ts => windowStart < ts) ++ [now]
      else m.timestamps key' := by
  unfold timestamps countAndAdd
  by_cases hk : key' = key
  · subst hk
    simp [timestamps]
  · simp [hk]

theorem timestamps_evict (key' : String) :
    (m.evictStaleBuckets now).timestamps key' =
      if stale now (m.timestamps key') then [] else m.timestamps key' := by
  unfold timestamps evictStaleBuckets
  dsimp only
  cases m.buckets key' with
  | none => simp
  | some bucket => cases hstale : stale now bucket <;> simp [Option.filter, hstale]

/-- The two at the same time, with what the buckets keep. -/
structure Follows (s : Entries) (m : MemoryRateLimitStore) : Prop where
  clock  : m.clock = s.clock
  stores : Stores s m.timestamps

theorem follows_start (clock : Time) : Follows (.start clock) (.start clock) where
  clock := rfl
  stores := ⟨fun _ _ hmem => absurd hmem List.not_mem_nil, fun _ _ => le_refl _⟩

/-- **One event** of the store in memory. -/
theorem Follows.next (h : Follows s m) (e : RateEvent) : Follows (s.act e).1 (m.act e).1 := by
  obtain ⟨hclock, hstores⟩ := h
  cases e with
  | countAndAdd key windowStart elapsed =>
    simp only [Entries.act, act, hclock]
    refine ⟨rfl, hstores.add (fun k hk t => ?_) fun t => ?_⟩
    · rw [timestamps_countAndAdd, if_neg hk]
    · rw [timestamps_countAndAdd, if_pos rfl, List.count_append]
      exact Nat.add_le_add_right (List.filter_sublist.count_le t) _
  | evictStaleBuckets elapsed =>
    refine ⟨by simp only [Entries.act, act, evictStaleBuckets, hclock], ?_⟩
    refine hstores.wait fun k t => ?_
    rw [act, timestamps_evict]
    split_ifs
    · exact Nat.zero_le _
    · exact le_refl _

/-- What it answers. -/
theorem Follows.answer (h : Follows s m) {e : RateEvent} (hedges : OffEdges s e)
    (hkept : MemoryKept (s, m) e) : (s.act e).2 = (m.act e).2 := by
  obtain ⟨hclock, hstores⟩ := h
  cases e with
  | countAndAdd key windowStart elapsed =>
    simp only [Entries.act, act, hclock]
    congr 2
    refine (length_filter_eq_countP fun t => ?_).symm
    by_cases hstart : t ≤ windowStart
    · -- only the start of the window itself is counted by one side
      rw [if_neg (by simpa using hstart)]
      by_cases hin : inWindow windowStart (s.clock + elapsed) t = true
      · simp only [inWindow, Bool.and_eq_true, decide_eq_true_eq] at hin
        obtain rfl : t = windowStart := le_antisymm hstart hin.1
        rw [(hstores.count_eq_zero (hedges hin.2).1).2]
        split_ifs <;> rfl
      · rw [if_neg hin]
    · rw [not_le] at hstart
      rw [if_pos (by simpa using hstart)]
      by_cases hend : t < s.clock + elapsed
      · rw [if_pos (by simp [inWindow, hstart.le, hend])]
        exact hkept t hstart hend
      · rw [if_neg (by simp [inWindow, hend])]
        refine (hstores.count_eq_zero ?_).1
        rcases lt_or_eq_of_le (not_lt.mp hend) with hlt | rfl
        · exact hstores.not_mem_of_lt hlt
        · exact (hedges hstart).2
  | evictStaleBuckets elapsed => rfl

/-- What one window for each key keeps: a sorted bucket, with all that is in the window. -/
structure Covers (window : String → Int) (s : Entries) (m : MemoryRateLimitStore) : Prop
    extends Follows s m where
  sorted : ∀ key, (m.timestamps key).Pairwise (· ≤ ·)
  covers : ∀ key t, s.clock - window key < t →
    (m.timestamps key).count t = (s.entries key).count t

variable {window : String → Int}

/-- A stale bucket has nothing from the last hour. -/
theorem count_of_stale {bucket : List Time} (hsorted : bucket.Pairwise (· ≤ ·))
    (hstale : stale now bucket = true) {t : Time} (ht : now - 60 * minute ≤ t) :
    bucket.count t = 0 := by
  refine List.count_eq_zero.mpr fun hmem => ?_
  obtain ⟨last, hlast⟩ := Option.isSome_iff_exists.mp
    (List.getLast?_isSome.mpr (List.ne_nil_of_mem hmem))
  obtain ⟨front, rfl⟩ := List.getLast?_eq_some_iff.mp hlast
  unfold stale at hstale
  rw [hlast, Option.all_some, decide_eq_true_eq] at hstale
  have hle : t ≤ last := by
    rcases List.mem_append.mp hmem with hfront | heq
    · exact (List.pairwise_append.mp hsorted).2.2 t hfront last (List.mem_singleton_self last)
    · exact (List.mem_singleton.mp heq).le
  exact absurd (ht.trans hle) (not_le.mpr hstale)

theorem Covers.next (hwindow : ∀ key, window key ≤ 60 * minute) (h : Covers window s m)
    {e : RateEvent} (hsteady : Steady window s e) : Covers window (s.act e).1 (m.act e).1 := by
  have hfollows := h.toFollows.next e
  cases e with
  | countAndAdd key windowStart elapsed =>
    have hlater := clock_le s elapsed
    simp only [Entries.act, act, h.clock] at hfollows ⊢
    refine ⟨hfollows, fun k => ?_, fun k t ht => ?_⟩
    · rw [timestamps_countAndAdd]
      split_ifs
      · refine List.pairwise_append.mpr ⟨(h.sorted key).filter _, List.pairwise_singleton _ _, ?_⟩
        intro t hmem now hnow
        rw [List.mem_singleton.mp hnow]
        have hcount := List.count_pos_iff.mpr (List.mem_filter.mp hmem).1
        have hentry := List.count_pos_iff.mp (hcount.trans_le (h.stores.fewer key t))
        exact (h.stores.past key t hentry).trans hlater
      · exact h.sorted k
    · have ht : s.clock + elapsed - window k < t := ht
      have hbefore := h.covers k t ((Int.sub_le_sub_right hlater _).trans_lt ht)
      rw [timestamps_countAndAdd]
      by_cases hk : k = key
      · subst hk
        have hinside : windowStart < t := hsteady ▸ ht
        rw [if_pos rfl, List.count_append, List.count_filter (by simpa using hinside), hbefore]
        simp only [Entries.countAndAdd, Function.update_self, List.count_append]
      · rw [if_neg hk, hbefore]
        simp only [Entries.countAndAdd, Function.update_of_ne hk]
  | evictStaleBuckets elapsed =>
    have hlater := clock_le s elapsed
    simp only [Entries.act, act, h.clock] at hfollows ⊢
    refine ⟨hfollows, fun k => ?_, fun k t ht => ?_⟩
    · rw [timestamps_evict]
      split_ifs
      · exact List.Pairwise.nil
      · exact h.sorted k
    · have ht : s.clock + elapsed - window k < t := ht
      have hbefore := h.covers k t ((Int.sub_le_sub_right hlater _).trans_lt ht)
      rw [timestamps_evict]
      split_ifs with hstale
      · refine Eq.trans ?_ hbefore
        have hhour : s.clock + elapsed - 60 * minute ≤ t :=
          (Int.sub_le_sub_left (hwindow k) _).trans ht.le
        rw [count_of_stale (h.sorted k) hstale hhour]
        rfl
      · exact hbefore

/-- **With one window for each key**, of at most an hour, nothing inside is removed. -/
theorem memoryKept_of_steady (hwindow : ∀ key, window key ≤ 60 * minute) {clock : Time}
    {events : List RateEvent}
    (hsteady : StepsOk (joint Entries.act act) (fun p e => Steady window p.1 e)
      (.start clock, .start clock) events) :
    StepsOk (joint Entries.act act) MemoryKept (.start clock, .start clock) events := by
  have hstart : Covers window (.start clock) (.start clock) :=
    ⟨follows_start clock, fun _ => List.Pairwise.nil, fun _ _ _ => rfl⟩
  have hnext : ∀ (p : Entries × MemoryRateLimitStore) e, Covers window p.1 p.2 →
      Steady window p.1 e → Covers window (joint Entries.act act p e).1
        (joint Entries.act act p e).2 := fun p e h hs => h.next hwindow hs
  refine stepsOk_of_invariant hnext (fun p e h hs => ?_) hstart hsteady
  cases e with
  | countAndAdd key windowStart elapsed =>
    intro t ht _
    refine h.covers key t (lt_of_le_of_lt ?_ ht)
    rw [hs]
    exact Int.sub_le_sub_right (clock_le p.1 elapsed) _
  | evictStaleBuckets elapsed => trivial

end MemoryRateLimitStore

-- ---------------------------------------------------------------------------
-- The store in Redis
-- ---------------------------------------------------------------------------

namespace RedisRateLimitStore

variable {luaText : Time → String} {s : Entries} {r : RedisRateLimitStore} {db : RedisDb}
  {key : String} {windowStart now : Time}

/-- The members under a key, whether they have run out or not. -/
def members (db : RedisDb) (key : String) : List (String × Time) :=
  match db key with
  | some ⟨.zset members, _⟩ => members
  | _ => []

/-- The members of a key have been numbered by the counter of the key, which does not run out. -/
structure Numbered (db : RedisDb) : Prop where
  lasting  : ∀ key n deadline, db key = some ⟨.counter n, deadline⟩ → deadline = none
  numbered : ∀ key, ∀ m ∈ members db key, ∃ n, db (key ++ ":seq") = some ⟨.counter n, none⟩ ∧
    ∃ front, ∃ k ≤ n, m.1 = front ++ ":" ++ k.repr

theorem ne_seq (key : String) : key ++ ":seq" ≠ key := by
  intro h
  have hlength := congrArg String.length h
  rw [String.length_append] at hlength
  exact absurd hlength (by simp)

/-- What comes behind the last colon of a member. -/
theorem member_inj {a b : String} {j k : Nat} (h : a ++ ":" ++ j.repr = b ++ ":" ++ k.repr) :
    j = k := by
  have hcolon : ∀ n : Nat, ':' ∉ n.repr.toList := by
    intro n hmem
    rw [Nat.toList_repr] at hmem
    exact absurd (Nat.isDigit_of_mem_toDigits (by decide) (by decide) hmem) (by decide)
  have hlists := congrArg String.toList h
  simp only [String.toList_append, List.append_assoc] at hlists
  have hdigits := (append_last_separator_inj (hcolon j) (hcolon k) hlists).2
  rw [Nat.toList_repr, Nat.toList_repr] at hdigits
  rw [← @Nat.ofDigitChars_ten_toDigits j, hdigits, Nat.ofDigitChars_ten_toDigits]

/-- What is live is there. -/
theorem get_eq_some {now : Time} {entry : Stored RedisValue} (h : db.get now key = some entry) :
    db key = some entry ∧ entry.live now = true :=
  Option.filter_eq_some_iff.mp h

theorem counterAt_eq_none_iff : db.counterAt now key = none ↔
    ∀ n deadline, db.get now key ≠ some ⟨.counter n, deadline⟩ := by
  unfold RedisDb.counterAt
  split
  · rename_i n deadline hget
    exact iff_of_false (Option.some_ne_none n) fun h => h n deadline hget
  · rename_i hother
    exact iff_of_true rfl hother

theorem setAt_eq_none_iff : db.setAt now key = none ↔
    ∀ ms deadline, db.get now key ≠ some ⟨.zset ms, deadline⟩ := by
  unfold RedisDb.setAt
  split
  · rename_i ms deadline hget
    exact iff_of_false (Option.some_ne_none ms) fun h => h ms deadline hget
  · rename_i hother
    exact iff_of_true rfl hother

theorem counterAt_of_get {n : Nat} {deadline : Option Int}
    (h : db.get now key = some ⟨.counter n, deadline⟩) : db.counterAt now key = some n := by
  rw [RedisDb.counterAt, h]

theorem scores_eq (db : RedisDb) (now : Time) (key : String) :
    scores db now key = [] ∨ scores db now key = (members db key).map Prod.snd := by
  unfold scores members RedisDb.setAt
  split
  · rename_i ms deadline hget
    rw [(get_eq_some hget).1]
    exact .inr rfl
  · exact .inl rfl

/-- The live members of a key that holds no counter. -/
theorem zset_eq (hown : db.counterAt now key = none) :
    ∃ ms, db.zset now key = .ok ms ∧ scores db now key = ms.map Prod.snd ∧
      ∀ m ∈ ms, m ∈ members db key := by
  unfold RedisDb.zset scores RedisDb.setAt
  cases hget : db.get now key with
  | none => exact ⟨[], rfl, rfl, fun m hm => by cases hm⟩
  | some entry =>
    cases entry with
    | mk value deadline =>
      cases value with
      | counter n => exact absurd hget (counterAt_eq_none_iff.mp hown n deadline)
      | zset ms =>
        refine ⟨ms, rfl, rfl, fun m hm => ?_⟩
        unfold members
        rw [(get_eq_some hget).1]
        exact hm

/-- The counter that comes next. -/
theorem incr_eq (hlasting : ∀ n deadline, db key = some ⟨.counter n, deadline⟩ → deadline = none)
    (hown : db.setAt now key = none) (hroom : ∀ n ∈ db.counterAt now key, n + 1 < 2 ^ 63) :
    ∃ n, db.incr now key = .ok (Function.update db key (some ⟨.counter n, none⟩), n) ∧
      ∀ k deadline, db key = some ⟨.counter k, deadline⟩ → k < n := by
  unfold RedisDb.incr
  cases hget : db.get now key with
  | none =>
    refine ⟨1, rfl, fun k deadline hk => ?_⟩
    -- a counter does not run out
    have hlive : db.get now key = some ⟨.counter k, deadline⟩ := by
      rw [RedisDb.get, hk, hlasting k deadline hk]
      rfl
    rw [hget] at hlive
    cases hlive
  | some entry =>
    cases entry with
    | mk value deadline =>
      cases value with
      | zset ms => exact absurd hget (setAt_eq_none_iff.mp hown ms deadline)
      | counter n =>
        have hthere := (get_eq_some hget).1
        refine ⟨n + 1, ?_, fun k d hk => ?_⟩
        · dsimp only
          rw [if_pos (hroom n (counterAt_of_get hget)), hlasting n deadline hthere]
        · rw [hthere] at hk
          cases hk
          exact Nat.lt_succ_self n

/-- **The script** counts what is live from the start of the window on, and adds a member with a
new number. -/
theorem slidingWindowLua_eq (hnumbered : Numbered db)
    (hkey : db.counterAt now key = none) (hseq : db.setAt now (key ++ ":seq") = none)
    (hroom : ∀ n ∈ db.counterAt now (key ++ ":seq"), n + 1 < 2 ^ 63) :
    ∃ (ms : List (String × Time)) (n : Nat), scores db now key = ms.map Prod.snd ∧
      (∀ m ∈ ms, m ∈ members db key) ∧
      (∀ k deadline, db (key ++ ":seq") = some ⟨.counter k, deadline⟩ → k < n) ∧
      (slidingWindowLua luaText db key windowStart now).2 =
        .ok (ms.filter fun m => windowStart ≤ m.2).length ∧
      ∀ k, (slidingWindowLua luaText db key windowStart now).1 k =
        if k = key then
          some ⟨.zset ((ms.filter fun m => windowStart ≤ m.2) ++
            [(luaText now ++ ":" ++ n.repr, now)]), some (now + 120 * second)⟩
        else if k = key ++ ":seq" then some ⟨.counter n, none⟩ else db k := by
  obtain ⟨ms, hms, hscores, hmem⟩ := zset_eq hkey
  have hne := ne_seq key
  generalize hkept : (ms.filter fun m => decide (windowStart ≤ m.2)) = kept
  have hkeptMem : ∀ m ∈ kept, m ∈ members db key := fun m hm => by
    rw [← hkept] at hm
    exact hmem m (List.mem_filter.mp hm).1
  have hsame : ∀ k, k ≠ key → db.setMembers now key kept k = db k :=
    fun k hk => Function.update_of_ne hk _ _
  have hget : (db.setMembers now key kept).get now (key ++ ":seq") =
      db.get now (key ++ ":seq") := by
    rw [RedisDb.get, RedisDb.get, hsame _ hne]
  rw [RedisDb.setAt, ← hget] at hseq
  rw [RedisDb.counterAt, ← hget] at hroom
  have hcounters : ∀ n deadline, db.setMembers now key kept (key ++ ":seq") =
      some ⟨.counter n, deadline⟩ → deadline = none := by
    intro n deadline hcounter
    rw [hsame _ hne] at hcounter
    exact hnumbered.lasting (key ++ ":seq") n deadline hcounter
  obtain ⟨n, hn, hbefore⟩ := incr_eq hcounters hseq hroom
  rw [hsame _ hne] at hbefore
  -- no member has the number that comes next
  have hnew : (kept.any fun m => m.1 = luaText now ++ ":" ++ n.repr) = false := by
    rw [List.any_eq_false]
    intro m hm heq
    obtain ⟨last, hlast, front, k, hk, hname⟩ := hnumbered.numbered key m (hkeptMem m hm)
    have hlt := hbefore last none hlast
    have hnumber := member_inj (hname.symm.trans (of_decide_eq_true heq))
    omega
  refine ⟨ms, n, hscores, hmem, hbefore, ?_, fun k => ?_⟩
  · simp only [slidingWindowLua, hms, hkept, hn]
  · simp only [slidingWindowLua, hms, hkept, hn, RedisDb.zadd, hnew, Bool.false_eq_true, if_false]
    unfold RedisDb.expire RedisDb.setMembers
    by_cases hk : k = key
    · subst hk
      simp
    · rw [if_neg hk, Function.update_of_ne hk, Function.update_of_ne hk]
      by_cases hk' : k = key ++ ":seq"
      · rw [if_pos hk', hk', Function.update_self]
      · rw [if_neg hk', Function.update_of_ne hk', Function.update_of_ne hk]

/-- The two at the same time, with all members that are there, and their numbers. -/
structure Follows (s : Entries) (r : RedisRateLimitStore) : Prop where
  clock    : r.clock = s.clock
  stores   : Stores s fun key => (members r.db key).map Prod.snd
  numbered : Numbered r.db

theorem follows_start (clock : Time) : Follows (.start clock) (.start clock) where
  clock := rfl
  stores := ⟨fun _ _ hmem => absurd hmem List.not_mem_nil, fun _ _ => le_refl _⟩
  numbered := ⟨fun _ _ _ hnone => (by cases hnone), fun _ _ hmem => absurd hmem List.not_mem_nil⟩

/-- What is live is stored. -/
theorem Follows.live (h : Follows s r) (now : Time) : Stores s (scores r.db now) where
  past := h.stores.past
  fewer := fun key t => by
    rcases scores_eq r.db now key with hnone | hall
    · rw [hnone]
      exact Nat.zero_le _
    · rw [hall]
      exact h.stores.fewer key t

/-- The members after a call, and their numbers. -/
theorem numbered_after (h : Numbered db) {db' : RedisDb} {ms : List (String × Time)} {n : Nat}
    {front : String} {deadline : Option Int}
    (hkey : db.counterAt now key = none) (hms : ∀ m ∈ ms, m ∈ members db key)
    (hbefore : ∀ k deadline, db (key ++ ":seq") = some ⟨.counter k, deadline⟩ → k < n)
    (hafter : ∀ k, db' k =
      if k = key then some ⟨.zset (ms ++ [(front ++ ":" ++ n.repr, now)]), deadline⟩
      else if k = key ++ ":seq" then some ⟨.counter n, none⟩ else db k) : Numbered db' := by
  have hcounter : db' (key ++ ":seq") = some ⟨.counter n, none⟩ := by
    rw [hafter, if_neg (ne_seq key), if_pos rfl]
  constructor
  · intro k m d hk
    rw [hafter] at hk
    split_ifs at hk
    · cases hk
    · cases hk
      rfl
    · exact h.lasting k m d hk
  · intro k m hm
    unfold members at hm
    rw [hafter] at hm
    by_cases hk : k = key
    · subst hk
      rw [if_pos rfl] at hm
      rcases List.mem_append.mp hm with hm | hm
      · obtain ⟨last, hlast, front', number, hnumber, hname⟩ := h.numbered k m (hms m hm)
        have hlt := hbefore last none hlast
        exact ⟨n, hcounter, front', number, by omega, hname⟩
      · rw [List.mem_singleton.mp hm]
        exact ⟨n, hcounter, front, n, le_refl n, rfl⟩
    · by_cases hk' : k = key ++ ":seq"
      · rw [if_neg hk, if_pos hk'] at hm
        cases hm
      · rw [if_neg hk, if_neg hk'] at hm
        obtain ⟨last, hlast, hname⟩ := h.numbered k m hm
        refine ⟨last, ?_, hname⟩
        -- the counter of another key is neither this key nor its counter
        have hother : k ++ ":seq" ≠ key := by
          intro heq
          rw [heq] at hlast
          refine counterAt_eq_none_iff.mp hkey last none ?_
          rw [RedisDb.get, hlast]
          rfl
        have hother' : k ++ ":seq" ≠ key ++ ":seq" := fun heq =>
          hk ((String.append_left_inj _).mp heq)
        rw [hafter, if_neg hother, if_neg hother']
        exact hlast

/-- **One event** of the store in Redis, with its counter. -/
theorem Follows.next (h : Follows s r) {e : RateEvent} (hown : OwnCounter r e) :
    Follows (s.act e).1 (r.act luaText e).1 := by
  cases e with
  | countAndAdd key windowStart elapsed =>
    obtain ⟨hkey, hseq, hroom⟩ := hown
    rw [h.clock] at hkey hseq hroom
    obtain ⟨ms, n, hscores, hms, hbefore, -, hafter⟩ :=
      @slidingWindowLua_eq luaText _ key windowStart _ h.numbered hkey hseq hroom
    simp only [Entries.act, act, h.clock]
    refine ⟨rfl, h.stores.add (fun k hk t => ?_) fun t => ?_,
      numbered_after h.numbered hkey (fun m hm => hms m (List.mem_filter.mp hm).1) hbefore hafter⟩
    · unfold members
      dsimp only
      rw [hafter, if_neg hk]
      split_ifs
      · exact Nat.zero_le _
      · exact le_refl _
    · unfold members
      dsimp only
      rw [hafter, if_pos rfl]
      dsimp only
      rw [List.map_append, List.count_append]
      refine Nat.add_le_add_right ?_ _
      have hall := hscores ▸ scores_eq r.db (s.clock + elapsed) key
      refine ((List.filter_sublist.map Prod.snd).count_le t).trans ?_
      rcases hall with hnone | hall
      · rw [hnone]
        exact Nat.zero_le _
      · rw [hall]
        exact le_refl _
  | evictStaleBuckets elapsed =>
    refine ⟨?_, h.stores.wait fun _ _ => le_refl _, h.numbered⟩
    simp only [Entries.act, act, h.clock]

/-- What it answers. -/
theorem Follows.answer (h : Follows s r) {e : RateEvent} (hend : OffEnd s e)
    (hkept : RedisKept (s, r) e) (hown : OwnCounter r e) :
    (s.act e).2 = (r.act luaText e).2 := by
  cases e with
  | countAndAdd key windowStart elapsed =>
    obtain ⟨hkey, hseq, hroom⟩ := hown
    simp only [RedisKept, h.clock] at hkept
    rw [h.clock] at hkey hseq hroom
    obtain ⟨ms, n, hscores, -, -, hcount, -⟩ :=
      @slidingWindowLua_eq luaText _ key windowStart _ h.numbered hkey hseq hroom
    have hlive := h.live (s.clock + elapsed)
    simp only [Entries.act, act, h.clock]
    rw [hcount]
    congr 2
    have hlength : (ms.filter fun m => decide (windowStart ≤ m.2)).length =
        ((scores r.db (s.clock + elapsed) key).filter
          fun t => decide (windowStart ≤ t)).length := by
      rw [hscores, List.filter_map, List.length_map]
      rfl
    rw [hlength]
    refine (length_filter_eq_countP fun t => ?_).symm
    by_cases hstart : windowStart ≤ t
    · rw [if_pos (by simpa using hstart)]
      by_cases hlt : t < s.clock + elapsed
      · rw [if_pos (by simp [inWindow, hstart, hlt])]
        exact hkept t hstart hlt
      · rw [if_neg (by simp [inWindow, hlt])]
        refine (hlive.count_eq_zero ?_).1
        rcases lt_or_eq_of_le (not_lt.mp hlt) with hlater | rfl
        · exact hlive.not_mem_of_lt hlater
        · exact hend hstart
    · rw [if_neg (by simpa using hstart), if_neg (by simp [inWindow, hstart])]
  | evictStaleBuckets elapsed => rfl

/-- What one window for each key keeps: all that is in the window, with an expiry that comes after
the window of the last entry. -/
structure Covers (window : String → Int) (s : Entries) (r : RedisRateLimitStore) : Prop
    extends Follows s r where
  expires : ∀ key ms deadline, r.db key = some ⟨.zset ms, deadline⟩ → ∃ last,
    deadline = some (last + 120 * second) ∧ ∀ t ∈ s.entries key, t ≤ last
  covers  : ∀ key t, s.clock - window key ≤ t →
    ((members r.db key).map Prod.snd).count t = (s.entries key).count t

variable {window : String → Int} {elapsed : Nat}

theorem entry_of_members (h : members db key ≠ []) :
    ∃ deadline, db key = some ⟨.zset (members db key), deadline⟩ := by
  unfold members at h ⊢
  split at h
  · rename_i ms deadline hentry
    exact ⟨deadline, hentry⟩
  · exact absurd rfl h

/-- What has run out is not in the window. -/
theorem Covers.live_covers (hwindow : ∀ key, window key < 120 * second) (h : Covers window s r)
    {t : Time} (ht : s.clock + elapsed - window key ≤ t) :
    (scores r.db (s.clock + elapsed) key).count t = (s.entries key).count t := by
  have hbefore := h.covers key t ((Int.sub_le_sub_right (clock_le s elapsed) _).trans ht)
  rcases scores_eq r.db (s.clock + elapsed) key with hnone | hall
  · rw [hnone]
    by_cases hmembers : members r.db key = []
    · rw [hmembers] at hbefore
      exact hbefore
    · obtain ⟨deadline, hentry⟩ := entry_of_members hmembers
      obtain ⟨last, rfl, hlast⟩ := h.expires key _ deadline hentry
      have hdead : r.db.get (s.clock + elapsed) key = none := by
        by_contra hlive
        obtain ⟨entry, hget⟩ := Option.ne_none_iff_exists'.mp hlive
        have hsame := hentry.symm.trans (get_eq_some hget).1
        rw [Option.some.injEq] at hsame
        rw [scores, RedisDb.setAt, hget, ← hsame] at hnone
        exact hmembers (List.map_eq_nil_iff.mp hnone)
      -- the last entry is before the window
      have hover : last + 120 * second ≤ s.clock + elapsed := by
        rw [RedisDb.get, hentry, Option.filter_eq_none_iff] at hdead
        simpa [Stored.live] using hdead _ rfl
      have hgone : last < t := by
        refine lt_of_lt_of_le (Int.lt_sub_right_of_add_lt ?_) ht
        exact lt_of_lt_of_le (Int.add_lt_add_left (hwindow key) last) hover
      exact (List.count_eq_zero.mpr fun hmem => absurd (hlast t hmem) (not_le.mpr hgone)).symm
  · rw [hall]
    exact hbefore

theorem Covers.next (hwindow : ∀ key, window key < 120 * second) (h : Covers window s r)
    {e : RateEvent} (hsteady : Steady window s e) (hown : OwnCounter r e) :
    Covers window (s.act e).1 (r.act luaText e).1 := by
  have hfollows := @Follows.next luaText s r h.toFollows e hown
  cases e with
  | countAndAdd key windowStart elapsed =>
    obtain ⟨hkey, hseq, hroom⟩ := hown
    rw [h.clock] at hkey hseq hroom
    obtain ⟨ms, n, hscores, -, -, -, hafter⟩ :=
      @slidingWindowLua_eq luaText _ key windowStart _ h.numbered hkey hseq hroom
    simp only [Entries.act, act, h.clock] at hfollows ⊢
    refine ⟨hfollows, fun k ms' deadline hk => ?_, fun k t ht => ?_⟩
    · dsimp only at hk
      rw [hafter] at hk
      split_ifs at hk with hsame
      · cases hk
        subst hsame
        refine ⟨s.clock + elapsed, rfl, fun t hmem => ?_⟩
        exact hfollows.stores.past k t hmem
      · cases hk
      · simp only [Entries.countAndAdd, Function.update_of_ne hsame]
        exact h.expires k ms' deadline hk
    · have ht : s.clock + elapsed - window k ≤ t := ht
      have hlive := h.live_covers hwindow ht
      unfold members
      dsimp only
      rw [hafter]
      by_cases hk : k = key
      · subst hk
        have hinside : windowStart ≤ t := hsteady ▸ ht
        have hfilter : ((ms.filter fun m => decide (windowStart ≤ m.2)).map Prod.snd).count t =
            (ms.map Prod.snd).count t := by
          have hmap : (ms.filter fun m => decide (windowStart ≤ m.2)).map Prod.snd =
              (ms.map Prod.snd).filter fun t => decide (windowStart ≤ t) := by
            rw [List.filter_map]
            rfl
          rw [hmap, List.count_filter (by simpa using hinside)]
        rw [if_pos rfl]
        simp only [Entries.countAndAdd, Function.update_self, List.map_append, List.count_append]
        rw [hfilter, ← hscores, hlive]
        rfl
      · rw [if_neg hk]
        simp only [Entries.countAndAdd, Function.update_of_ne hk]
        split_ifs with hk'
        · subst hk'
          have hnone : scores r.db (s.clock + elapsed) (key ++ ":seq") = [] := by
            rw [scores, hseq]
            rfl
          rw [← hlive, hnone]
          rfl
        · exact h.covers k t ((Int.sub_le_sub_right (clock_le s elapsed) _).trans ht)
  | evictStaleBuckets elapsed =>
    simp only [Entries.act, act, h.clock] at hfollows ⊢
    exact ⟨hfollows, h.expires, fun k t ht =>
      h.covers k t ((Int.sub_le_sub_right (clock_le s elapsed) _).trans ht)⟩

/-- **With one window for each key**, shorter than the expiry, none of it is removed. -/
theorem redisKept_of_steady (hwindow : ∀ key, window key < 120 * second) {clock : Time}
    {events : List RateEvent}
    (hsteady : StepsOk (joint Entries.act (act luaText))
      (fun p e => Steady window p.1 e ∧ OwnCounter p.2 e) (.start clock, .start clock) events) :
    StepsOk (joint Entries.act (act luaText)) RedisKept (.start clock, .start clock) events := by
  have hstart : Covers window (.start clock) (.start clock) :=
    ⟨follows_start clock, fun _ _ _ hnone => (by cases hnone), fun _ _ _ => rfl⟩
  have hnext : ∀ (p : Entries × RedisRateLimitStore) e, Covers window p.1 p.2 →
      Steady window p.1 e ∧ OwnCounter p.2 e → Covers window (joint Entries.act (act luaText) p e).1
        (joint Entries.act (act luaText) p e).2 := fun p e h hs => h.next hwindow hs.1 hs.2
  refine stepsOk_of_invariant hnext (fun p e h hs => ?_) hstart hsteady
  cases e with
  | countAndAdd key windowStart elapsed =>
    intro t ht _
    rw [h.clock]
    refine h.live_covers hwindow ?_
    rw [← hs.1]
    exact ht
  | evictStaleBuckets elapsed => trivial

end RedisRateLimitStore

-- ---------------------------------------------------------------------------
-- Runs
-- ---------------------------------------------------------------------------

namespace Sample

/-- A call on one key, so many seconds after the one before. -/
def secondsLater (elapsed windowStart : Nat) : RateEvent :=
  .countAndAdd "ratelimit:acme:free" (windowStart * second) (elapsed * 1000000000)

/-- At the second 1000, and two minutes and ten seconds later, with a window of ten minutes. -/
def idleTwoMinutes : List RateEvent := [secondsLater 1000 400, secondsLater 130 530]

/-- Twice at the same instant, with a window of one minute. -/
def sameInstant : List RateEvent := [secondsLater 1000 940, secondsLater 0 940]

/-- One minute later to the nanosecond. -/
def windowLater : List RateEvent := [secondsLater 1000 940, secondsLater 60 1000]

/-- Ten seconds later. -/
def tenSecondsLater : List RateEvent := [secondsLater 1000 940, secondsLater 10 950]

theorem steady_tenSeconds {τ : Type} (act : τ → RateEvent → τ × Option (Except RateError Nat))
    (t : τ) : StepsOk (joint Entries.act act) (fun p e => Steady (fun _ => minute) p.1 e)
      (.start 0, t) tenSecondsLater :=
  ⟨rfl, rfl, trivial⟩

theorem ownCounter_tenSeconds : StepsOk (joint Entries.act (RedisRateLimitStore.act Int.repr))
    (fun p e => OwnCounter p.2 e) (.start 0, .start 0) tenSecondsLater :=
  ⟨⟨rfl, rfl, by decide⟩, ⟨by decide, by decide, by decide⟩, trivial⟩

end Sample

end Ggid.Gateway
