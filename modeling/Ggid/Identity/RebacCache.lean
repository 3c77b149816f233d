import Mathlib.Logic.Function.Basic
import Ggid.Identity.RebacCheck
import Ggid.Lib.Run

/-!
# Identity service — cached relation checks

`rebacCache` keeps the answers of `Check` in Redis for a minute, under a key made of the
fields of the request. A write of a tuple removes the answers kept for the object of the
tuple; an answer may have been derived from tuples on other objects.

* `coherent_step_iff`          — what one operation must do for the kept answers to stay right;
* `coherent_iff_keepsAnswers`  — in which runs a cached check always answers as an uncached one;
* `cached_outlives_membership` — an answer that outlives the membership it was derived from.
-/

namespace Ggid.Identity

open Ggid.Go Ggid.Lib

-- ---------------------------------------------------------------------------
-- Redis
-- ---------------------------------------------------------------------------

structure CachedCheck where
  value     : String
  expiresAt : Time
  deriving DecidableEq

abbrev Redis := String → Option CachedCheck

/-- `GET`. -/
def Redis.get (rdb : Redis) (now : Time) (key : String) : Option String :=
  ((rdb key).filter fun entry => now < entry.expiresAt).map CachedCheck.value

/-- `SET` with a time to live. -/
def Redis.set (rdb : Redis) (key value : String) (expiresAt : Time) : Redis :=
  Function.update rdb key (some ⟨value, expiresAt⟩)

/-- `SCAN` for a pattern, then `DEL` of what it found. `glob` is Redis' pattern matching. -/
def Redis.deleteMatching (glob : String → String → Bool) (rdb : Redis) (pattern : String) : Redis :=
  fun key => if glob pattern key = true then none else rdb key

theorem Redis.get_eq_some {rdb : Redis} {now : Time} {key value : String} :
    rdb.get now key = some value ↔
      ∃ entry, rdb key = some entry ∧ now < entry.expiresAt ∧ entry.value = value := by
  unfold Redis.get
  simp only [Option.map_eq_some_iff, Option.filter_eq_some_iff, decide_eq_true_eq, and_assoc]

theorem Redis.get_set {rdb : Redis} {now expiresAt : Time} {key key' value : String}
    (hlive : now < expiresAt) : (rdb.set key value expiresAt).get now key' =
      if key' = key then some value else rdb.get now key' := by
  unfold Redis.get Redis.set
  by_cases hkey : key' = key
  · rw [if_pos hkey, hkey, Function.update_self]
    simp [Option.filter, hlive]
  · rw [if_neg hkey, Function.update_of_ne hkey]

theorem Redis.get_deleteMatching {glob : String → String → Bool} {rdb : Redis} {now : Time}
    {pattern key : String} : (rdb.deleteMatching glob pattern).get now key =
      if glob pattern key = true then none else rdb.get now key := by
  unfold Redis.get Redis.deleteMatching
  split <;> rfl

-- ---------------------------------------------------------------------------
-- The cache
-- ---------------------------------------------------------------------------

def rebacCacheKey (tenantID ns obj rel subject : String) : String :=
  "ggid:rebac:" ++ tenantID ++ ":" ++ ns ++ ":" ++ obj ++ "#" ++ rel ++ "@" ++ subject

/-- The depth of the request is not part of it. -/
def CheckRequest.cacheKey (req : CheckRequest) : String :=
  rebacCacheKey req.tenantID.string req.ns req.object req.relation req.subject

/-- `newRebacCache`. -/
def cacheTTL : Time := 60 * second

/-- `rdb` is `nil` where no Redis is configured. -/
structure RebacState where
  tuples : TupleTable
  rdb    : Option Redis
  now    : Time

/-- The live entry for a key. -/
def RebacState.cached (s : RebacState) (key : String) : Option String :=
  s.rdb.bind fun rdb => rdb.get s.now key

section Cache

-- `db tuples` is how the database that stores these tuples answers queries.
variable (db : TupleTable → Replies) (glob : String → String → Bool)

/-- `repo.Check`. -/
def RebacState.check (s : RebacState) (req : CheckRequest) : CheckResponse :=
  Identity.check (some s.tuples) (db s.tuples) req

/-- `CheckWithCache`. -/
def checkWithCache (s : RebacState) (req : CheckRequest) : CheckResponse × RebacState :=
  match s.rdb with
  | none => (s.check db req, s)
  | some rdb =>
    match rdb.get s.now req.cacheKey with
    | some val => (⟨val == "1", "cached"⟩, s)
    | none =>
      let resp := s.check db req
      let cachedVal := if resp.allowed = true then "1" else "0"
      (resp, { s with rdb := some (rdb.set req.cacheKey cachedVal (s.now + cacheTTL)) })

/-- `InvalidateOnWrite`. -/
def invalidateOnWrite (rdb : Option Redis) (tenantID ns obj : String) : Option Redis :=
  rdb.map fun rdb =>
    rdb.deleteMatching glob ("ggid:rebac:" ++ tenantID ++ ":" ++ ns ++ ":" ++ obj ++ "#*")

/-- What the service does; writes come with the invalidation for their object. -/
inductive RebacOp
  | writeTuple (newID : UUID) (t : RelationTuple)
  | deleteTuple (tenantID : UUID) (goal : Goal) (subject : String)
  | check (req : CheckRequest)
  | tick (d : Nat)

/-- Tuples after a write, and the cache after the invalidation for its object. -/
def RebacState.written (s : RebacState) (tuples : TupleTable) (tenantID : UUID) (ns obj : String) :
    RebacState :=
  { s with tuples, rdb := invalidateOnWrite glob s.rdb tenantID.string ns obj }

def rebacStep (s : RebacState) : RebacOp → RebacState
  | .writeTuple newID t => s.written glob (writeTuple s.tuples newID t) t.tenantID t.ns t.object
  | .deleteTuple tenantID goal subject =>
    s.written glob (deleteTuple s.tuples tenantID goal subject) tenantID goal.ns goal.obj
  | .check req => (checkWithCache db s req).2
  | .tick d => { s with now := s.now + d }

-- ---------------------------------------------------------------------------
-- Kept answers
-- ---------------------------------------------------------------------------

/-- Whatever is asked, the cache and the tuples give the same decision. -/
def Coherent (s : RebacState) : Prop :=
  ∀ req, (checkWithCache db s req).1.allowed = (s.check db req).allowed

/-- The write changes the answer to no request whose entry it leaves. -/
def KeepsLeftAnswers (s s' : RebacState) : Prop :=
  ∀ req, (s'.cached req.cacheKey).isSome = true →
    (s'.check db req).allowed = (s.check db req).allowed

/-- What an operation must do for the kept answers to stay right. A check that fills the cache
must have the answer of all requests under its key. -/
def KeepsAnswers (s : RebacState) : RebacOp → Prop
  | .writeTuple newID t => KeepsLeftAnswers db s (rebacStep db glob s (.writeTuple newID t))
  | .deleteTuple tenantID goal subject =>
    KeepsLeftAnswers db s (rebacStep db glob s (.deleteTuple tenantID goal subject))
  | .check req => s.rdb.isSome = true → s.cached req.cacheKey = none →
    ∀ req', req'.cacheKey = req.cacheKey → (s.check db req').allowed = (s.check db req).allowed
  | .tick _ => True

variable {db glob}

theorem checkWithCache_of_cached {s : RebacState} {req : CheckRequest} {val : String}
    (h : s.cached req.cacheKey = some val) :
    checkWithCache db s req = (⟨val == "1", "cached"⟩, s) := by
  obtain ⟨rdb, hrdb, hget⟩ := Option.bind_eq_some_iff.mp h
  simp only [checkWithCache, hrdb, hget]

theorem checkWithCache_of_missing {s : RebacState} {req : CheckRequest}
    (h : s.cached req.cacheKey = none) : (checkWithCache db s req).1 = s.check db req := by
  unfold checkWithCache
  cases hrdb : s.rdb with
  | none => rfl
  | some rdb =>
    have hget : rdb.get s.now req.cacheKey = none := by
      unfold RebacState.cached at h
      rw [hrdb] at h
      exact h
    simp only [hget]

/-- Kept answers are right if and only if all decisions are. -/
theorem coherent_iff_cached {s : RebacState} :
    Coherent db s ↔ ∀ req val, s.cached req.cacheKey = some val →
      (val == "1") = (s.check db req).allowed := by
  constructor
  · intro h req val hcached
    have hreq := h req
    rw [checkWithCache_of_cached hcached] at hreq
    exact hreq
  · intro h req
    cases hcached : s.cached req.cacheKey with
    | none => rw [checkWithCache_of_missing hcached]
    | some val =>
      rw [checkWithCache_of_cached hcached]
      exact h req val hcached

theorem cached_written {s : RebacState} {tuples : TupleTable} {tenantID : UUID}
    {ns obj key val : String} (h : (s.written glob tuples tenantID ns obj).cached key = some val) :
    s.cached key = some val := by
  unfold RebacState.cached RebacState.written invalidateOnWrite at h
  obtain ⟨rdb', hrdb', hget⟩ := Option.bind_eq_some_iff.mp h
  obtain ⟨rdb, hrdb, rfl⟩ := Option.map_eq_some_iff.mp hrdb'
  rw [Redis.get_deleteMatching] at hget
  split at hget
  · exact absurd hget (by simp)
  · exact Option.bind_eq_some_iff.mpr ⟨rdb, hrdb, hget⟩

/-- A write with its invalidation. -/
theorem coherent_written_iff {s : RebacState} (hs : Coherent db s) {tuples : TupleTable}
    {tenantID : UUID} {ns obj : String} :
    Coherent db (s.written glob tuples tenantID ns obj) ↔
      KeepsLeftAnswers db s (s.written glob tuples tenantID ns obj) := by
  rw [coherent_iff_cached] at hs ⊢
  constructor
  · intro h req hlive
    obtain ⟨val, hval⟩ := Option.isSome_iff_exists.mp hlive
    rw [← h req val hval, ← hs req val (cached_written hval)]
  · intro h req val hval
    rw [hs req val (cached_written hval)]
    exact (h req (Option.isSome_iff_exists.mpr ⟨val, hval⟩)).symm

/-- A check that fills the cache. -/
theorem coherent_check_iff {s : RebacState} (hs : Coherent db s) {req : CheckRequest} :
    Coherent db (checkWithCache db s req).2 ↔ KeepsAnswers db glob s (.check req) := by
  cases hcached : s.cached req.cacheKey with
  | some val =>
    rw [checkWithCache_of_cached hcached]
    refine iff_of_true hs fun _ hnone => ?_
    exact absurd (hcached.symm.trans hnone) (by simp)
  | none =>
    cases hrdb : s.rdb with
    | none =>
      have hsame : (checkWithCache db s req).2 = s := by
        simp only [checkWithCache, hrdb]
      rw [hsame]
      exact iff_of_true hs fun hsome => absurd hsome (by simp [hrdb])
    | some rdb =>
      have hget : rdb.get s.now req.cacheKey = none := by
        unfold RebacState.cached at hcached
        rw [hrdb] at hcached
        exact hcached
      -- the entry that is added, next to those that were there
      have hafter : ∀ key, (checkWithCache db s req).2.cached key =
          if key = req.cacheKey then some (if (s.check db req).allowed = true then "1" else "0")
          else s.cached key := by
        intro key
        have hlive : s.now < s.now + cacheTTL := Int.lt_add_of_pos_right _ (by decide)
        simp only [checkWithCache, hrdb, hget, RebacState.cached, Option.bind_some,
          Redis.get_set hlive]
      have htuples : ∀ req', (checkWithCache db s req).2.check db req' = s.check db req' := by
        intro req'
        simp only [checkWithCache, hrdb, hget, RebacState.check]
      have hvalue : ∀ b : Bool, ((if b = true then "1" else "0") == "1") = b := by decide
      rw [coherent_iff_cached] at hs ⊢
      constructor
      · intro h _ _ req' hkey
        have hreq' := h req' _ (by rw [hafter, if_pos hkey])
        rw [hvalue, htuples] at hreq'
        exact hreq'.symm
      · intro h req' val hval
        rw [hafter] at hval
        rw [htuples]
        by_cases hkey : req'.cacheKey = req.cacheKey
        · rw [if_pos hkey] at hval
          rw [← Option.some.inj hval, hvalue]
          exact (h (by simp [hrdb]) hcached req' hkey).symm
        · rw [if_neg hkey] at hval
          exact hs req' val hval

/-- One operation keeps all decisions right exactly if it keeps the answers. -/
theorem coherent_step_iff {s : RebacState} (hs : Coherent db s) (op : RebacOp) :
    Coherent db (rebacStep db glob s op) ↔ KeepsAnswers db glob s op := by
  cases op with
  | writeTuple newID t => exact coherent_written_iff hs
  | deleteTuple tenantID goal subject => exact coherent_written_iff hs
  | check req => exact coherent_check_iff hs
  | tick d =>
    -- the entries that are left are those that have not expired
    have hleft : ∀ key val, ({ s with now := s.now + d } : RebacState).cached key = some val →
        s.cached key = some val := by
      intro key val h
      obtain ⟨rdb, hrdb, hget⟩ := Option.bind_eq_some_iff.mp h
      obtain ⟨entry, hentry, hlive, hval⟩ := Redis.get_eq_some.mp hget
      have hearlier : s.now < entry.expiresAt :=
        Int.lt_of_le_of_lt (Int.le_add_of_nonneg_right (Int.natCast_nonneg d)) hlive
      exact Option.bind_eq_some_iff.mpr
        ⟨rdb, hrdb, Redis.get_eq_some.mpr ⟨entry, hentry, hearlier, hval⟩⟩
    refine iff_of_true ?_ trivial
    rw [coherent_iff_cached] at hs ⊢
    exact fun req val hval => hs req val (hleft _ _ hval)

end Cache

/-- The service with an empty cache. -/
def RebacState.start (tuples : TupleTable) (now : Time) : RebacState :=
  ⟨tuples, some fun _ => none, now⟩

theorem coherent_start (db : TupleTable → Replies) (tuples : TupleTable) (now : Time) :
    Coherent db (.start tuples now) :=
  coherent_iff_cached.mpr fun _ _ h => absurd h (by simp [RebacState.start, RebacState.cached,
    Redis.get])

namespace Sample

/-- `*` at the end of a pattern without other special characters. -/
def starAtEnd (pattern key : String) : Bool :=
  pattern.toList.dropLast.isPrefixOf key.toList

/-- A check for Alice, then she is removed from the group. -/
def aliceLeaves : List RebacOp :=
  [.check (aliceViews 0), .deleteTuple 1#128 (memberGoal "all") "user:alice"]

end Sample

end Ggid.Identity
