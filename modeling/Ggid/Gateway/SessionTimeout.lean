import Ggid.Gateway.Request
import Ggid.Lib.Run
import Ggid.Lib.Tiers

/-!
# Gateway — session timeouts

`SessionTimeoutMiddleware`. The times it compares are kept in Redis, in whole seconds, and each is
dropped by Redis after the timeout it is compared with. A time that is not found is no reason to
reject a request.

* `Tracks.step`            — which times are stored, in every run of a session;
* `not_kept_of_idle`       — a time is dropped before it is too old;
* `timeouts_enforced_iff`  — when late requests are rejected: when another time shows it.
-/

namespace Ggid.Gateway

open Ggid.Go Ggid.Lib

-- ---------------------------------------------------------------------------
-- The middleware
-- ---------------------------------------------------------------------------

structure SessionTimeoutConfig where
  absoluteTimeout : Int
  idleTimeout     : Int

/-- `DefaultSessionTimeoutConfig`. -/
def defaultSessionTimeoutConfig : SessionTimeoutConfig := ⟨8 * 3600 * second, 30 * 60 * second⟩

/-- The two durations of a tenant in `sysconfig`. -/
structure SystemConfig where
  authSessionIdleTimeout     : Int
  authSessionAbsoluteTimeout : Int

/-- `redis` says whether a client is there; `store` is the `Get` of the system configuration. -/
structure SessionManager where
  redis : Bool
  store : Option (String → SystemConfig)

/-- What Redis has about a session, by its ID. -/
structure SessionRecords where
  session  : String → Bool
  created  : String → Option (Stored Time)
  activity : String → Option (Stored Time)

/-- A request, with the session ID of its context; `reads` and `writes` say whether Redis answers. -/
structure SessionRequest where
  now       : Time
  path      : String
  ctx       : Context
  sessionID : Option String
  reads     : Bool
  writes    : Bool

inductive SessionVerdict where
  | next
  | timeout (message : String)
  deriving DecidableEq

def publicPathPrefixes : List String :=
  ["/api/v1/auth/verify", "/api/v1/auth/register", "/api/v1/auth/password/forgot",
    "/api/v1/auth/password/reset", "/oauth/token", "/oauth/authorize", "/oauth/revoke",
    "/oauth/introspect", "/oauth/device", "/oauth/register", "/oauth/jwks", "/oauth/.well-known/",
    "/oauth/consent", "/saml/metadata", "/saml/acs", "/saml/login", "/saml/sso",
    "/.well-known/oauth-authorization-server", "/.well-known/openid-configuration", "/docs",
    "/api-docs", "/login", "/register", "/forgot-password"]

def isPublicPath (path : String) : Bool :=
  publicPathPrefixes.any (fun p => path = p ||
    p.toList.length < path.toList.length && Strings.hasPrefix path.toList p.toList) ||
  path = "/healthz" || path = "/.well-known/jwks.json"

/-- What `time.RFC3339` keeps of a time. -/
def wholeSeconds (t : Time) : Time := t / second * second

/-- When Redis drops a key that is set at a time; the least expiry is a millisecond. -/
def redisDeadline (since : Time) (expiration : Int) : Option Time :=
  if expiration ≤ 0 then none
  else if expiration < 1000000 then some (since + 1000000)
  else some (since + expiration / 1000000 * 1000000)

namespace SessionManager

def tenantConfig (sm : SessionManager) (cfg : SessionTimeoutConfig) (tenantID : String) :
    SessionTimeoutConfig :=
  match sm.store with
  | none => cfg
  | some get =>
    { idleTimeout := if 0 < (get tenantID).authSessionIdleTimeout then
        (get tenantID).authSessionIdleTimeout else cfg.idleTimeout
      absoluteTimeout := if 0 < (get tenantID).authSessionAbsoluteTimeout then
        (get tenantID).authSessionAbsoluteTimeout else cfg.absoluteTimeout }

/-- The timeouts of a request. -/
def config (sm : SessionManager) (defaultCfg : SessionTimeoutConfig) (ctx : Context) :
    SessionTimeoutConfig :=
  sm.tenantConfig defaultCfg ((tenantIDFromRequest ctx).getD "default")

end SessionManager

/-- The time is there, and too long ago. -/
def exceeds (entry : Option (Stored Time)) (now : Time) (timeout : Int) : Bool :=
  entry.any fun e => e.live now && timeout < now - e.value

namespace SessionRecords

/-- `MarkSessionRevoked`. -/
def markSessionRevoked (records : SessionRecords) (r : SessionRequest) (id : String) :
    SessionRecords :=
  if r.writes then { records with session := Function.update records.session id false }
  else records

def setActivity (records : SessionRecords) (r : SessionRequest) (id : String) (idleTimeout : Int) :
    SessionRecords :=
  let entry : Stored Time := ⟨wholeSeconds r.now, redisDeadline r.now idleTimeout⟩
  if r.writes then { records with activity := Function.update records.activity id (some entry) }
  else records

/-- `RecordSessionCreation`. -/
def recordSessionCreation (records : SessionRecords) (sm : SessionManager)
    (defaultCfg : SessionTimeoutConfig) (now : Time) (id : String) : SessionRecords :=
  let cfg := sm.tenantConfig defaultCfg "default"
  let entry : Stored Time := ⟨wholeSeconds now, redisDeadline now cfg.absoluteTimeout⟩
  if !sm.redis then records
  else { records with created := Function.update records.created id (some entry) }

end SessionRecords

namespace SessionManager

/-- The checks of a session. -/
def checkSession (records : SessionRecords) (cfg : SessionTimeoutConfig) (r : SessionRequest)
    (id : String) : SessionRecords × SessionVerdict :=
  if 0 < cfg.absoluteTimeout && r.reads &&
      exceeds (records.created id) r.now cfg.absoluteTimeout then
    (records.markSessionRevoked r id, .timeout "session expired (absolute timeout)")
  else if 0 < cfg.idleTimeout then
    if r.reads && exceeds (records.activity id) r.now cfg.idleTimeout then
      (records.markSessionRevoked r id, .timeout "session expired (idle timeout)")
    else (records.setActivity r id cfg.idleTimeout, .next)
  else (records, .next)

/-- `SessionTimeoutMiddleware`. -/
def sessionTimeoutMiddleware (sm : SessionManager) (defaultCfg : SessionTimeoutConfig)
    (records : SessionRecords) (r : SessionRequest) : SessionRecords × SessionVerdict :=
  if isPublicPath r.path then (records, .next)
  else
    match r.sessionID with
    | none => (records, .next)
    | some id =>
      if id = "" then (records, .next)
      else if !sm.redis then (records, .next)
      else checkSession records (sm.config defaultCfg r.ctx) r id

end SessionManager

-- ---------------------------------------------------------------------------
-- One session
-- ---------------------------------------------------------------------------

/-- A session that is used, under the settings of its tenant. -/
structure TimedSession where
  sm       : SessionManager
  ctx      : Context
  id       : String
  redis_eq : sm.redis = true
  id_ne    : id ≠ ""

/-- What happens to a session: it is recorded that it was created, or a request comes in. -/
inductive SessionUse where
  | creation (now : Time)
  | request (now : Time) (path : String) (reads writes : Bool)

/-- The records; and, of the requests that are checked, the first, the last that was accepted and
the last whose time was stored, and the creation that was recorded. -/
structure SessionRun where
  records       : SessionRecords
  first     : Option Time
  accepted  : Option Time
  stored    : Option Time
  createdAt : Option Time

namespace TimedSession

def config (ts : TimedSession) : SessionTimeoutConfig :=
  ts.sm.config defaultSessionTimeoutConfig ts.ctx

/-- For how long a creation is recorded. -/
def creationConfig (ts : TimedSession) : SessionTimeoutConfig :=
  ts.sm.tenantConfig defaultSessionTimeoutConfig "default"

def answer (ts : TimedSession) (records : SessionRecords) (now : Time) (path : String)
    (reads writes : Bool) : SessionRecords × SessionVerdict :=
  ts.sm.sessionTimeoutMiddleware defaultSessionTimeoutConfig records
    ⟨now, path, ts.ctx, some ts.id, reads, writes⟩

def step (ts : TimedSession) (s : SessionRun) : SessionUse → SessionRun
  | .creation now =>
    { s with
        records := s.records.recordSessionCreation ts.sm defaultSessionTimeoutConfig now ts.id
        createdAt := some now }
  | .request now path reads writes =>
    let answer := ts.answer s.records now path reads writes
    if isPublicPath path then { s with records := answer.1 }
    else
      { s with
          records := answer.1
          first := s.first.or (some now)
          accepted := if answer.2 = .next then some now else s.accepted
          stored := if answer.2 = .next ∧ writes = true then some now else s.stored }

/-- No time is stored yet. -/
def Fresh (ts : TimedSession) (s : SessionRun) : Prop :=
  s.records.created ts.id = none ∧ s.records.activity ts.id = none ∧
    s.first = none ∧ s.accepted = none ∧ s.stored = none ∧ s.createdAt = none

/-- More than `IdleTimeout` after the last accepted request, or `AbsoluteTimeout` after the first. -/
def Late (ts : TimedSession) (s : SessionRun) (now : Time) : Prop :=
  (∃ p, s.accepted = some p ∧ p + ts.config.idleTimeout < now) ∨
    ∃ f, s.first = some f ∧ f + ts.config.absoluteTimeout < now

/-- A late request is rejected. -/
def Enforces (ts : TimedSession) (s : SessionRun) : SessionUse → Prop
  | .creation _ => True
  | .request now path reads writes => isPublicPath path = false → ts.Late s now →
    (ts.answer s.records now path reads writes).2 ≠ .next

/-- A time stored with an expiration has not been dropped. -/
def Kept (since : Time) (expiration : Int) (now : Time) : Prop :=
  ∀ deadline ∈ redisDeadline since expiration, now < deadline

/-- A late request comes while a time is kept by which it is late. -/
def Noticed (ts : TimedSession) (s : SessionRun) : SessionUse → Prop
  | .creation _ => True
  | .request now path reads _ => isPublicPath path = false → ts.Late s now → reads = true ∧
    ((∃ c, s.createdAt = some c ∧ Kept c ts.creationConfig.absoluteTimeout now ∧
        wholeSeconds c + ts.config.absoluteTimeout < now) ∨
      ∃ p, s.stored = some p ∧ Kept p ts.config.idleTimeout now ∧
        wholeSeconds p + ts.config.idleTimeout < now)

-- ---------------------------------------------------------------------------
-- Times that are stored
-- ---------------------------------------------------------------------------

variable {ts : TimedSession} {s : SessionRun}

theorem config_pos (ts : TimedSession) :
    0 < ts.config.idleTimeout ∧ 0 < ts.config.absoluteTimeout := by
  have hdefault : 0 < defaultSessionTimeoutConfig.idleTimeout ∧
      0 < defaultSessionTimeoutConfig.absoluteTimeout := by decide
  unfold TimedSession.config SessionManager.config SessionManager.tenantConfig
  cases ts.sm.store with
  | none => exact hdefault
  | some get =>
    constructor
    · dsimp only
      split_ifs with h
      · exact h
      · exact hdefault.1
    · dsimp only
      split_ifs with h
      · exact h
      · exact hdefault.2

/-- What the middleware makes of a request whose path is not public. -/
theorem answer_eq (ts : TimedSession) (records : SessionRecords) (now : Time) {path : String}
    (reads writes : Bool) (hpath : isPublicPath path = false) :
    ts.answer records now path reads writes =
      SessionManager.checkSession records ts.config ⟨now, path, ts.ctx, some ts.id, reads, writes⟩
        ts.id := by
  simp [answer, SessionManager.sessionTimeoutMiddleware, hpath, ts.id_ne, ts.redis_eq, config]

theorem checkSession_next_iff (ts : TimedSession) (records : SessionRecords) (r : SessionRequest) :
    (SessionManager.checkSession records ts.config r ts.id).2 = .next ↔
      ¬ (r.reads = true ∧ (exceeds (records.created ts.id) r.now ts.config.absoluteTimeout = true ∨
        exceeds (records.activity ts.id) r.now ts.config.idleTimeout = true)) := by
  obtain ⟨hidle, habsolute⟩ := config_pos ts
  unfold SessionManager.checkSession
  cases r.reads <;>
    cases exceeds (records.created ts.id) r.now ts.config.absoluteTimeout <;>
    cases exceeds (records.activity ts.id) r.now ts.config.idleTimeout <;>
    simp [hidle, habsolute]

theorem exceeds_iff {since now : Time} {expiration timeout : Int} :
    exceeds (some ⟨wholeSeconds since, redisDeadline since expiration⟩) now timeout = true ↔
      Kept since expiration now ∧ wholeSeconds since + timeout < now := by
  have hlive : (⟨wholeSeconds since, redisDeadline since expiration⟩ : Stored Time).live now =
      true ↔ Kept since expiration now := by
    unfold Stored.live Kept
    cases redisDeadline since expiration <;> simp
  simp only [exceeds, Option.any_some, Bool.and_eq_true, decide_eq_true_eq]
  rw [hlive]
  exact and_congr_right fun _ => lt_sub_iff_add_lt'

/-- **A time is dropped before it is too old**, where a timeout is no less than a millisecond. -/
theorem not_kept_of_idle {since now timeout : Int} (hmilli : 1000000 ≤ timeout)
    (hlate : since + timeout < now) : ¬ Kept since timeout now := by
  intro hkept
  have hdeadline : since + timeout / 1000000 * 1000000 ∈ redisDeadline since timeout := by
    unfold redisDeadline
    rw [if_neg (by omega), if_neg (by omega)]
    rfl
  have hbefore : now < since + timeout / 1000000 * 1000000 := hkept _ hdeadline
  omega

/-- The records have the times of the run. -/
structure Tracks (ts : TimedSession) (s : SessionRun) : Prop where
  created  : s.records.created ts.id = s.createdAt.map fun c =>
    ⟨wholeSeconds c, redisDeadline c ts.creationConfig.absoluteTimeout⟩
  activity : s.records.activity ts.id = s.stored.map fun p =>
    ⟨wholeSeconds p, redisDeadline p ts.config.idleTimeout⟩

theorem Fresh.tracks (h : ts.Fresh s) : Tracks ts s := by
  obtain ⟨hcreated, hactivity, -, -, hstored, hcreatedAt⟩ := h
  exact ⟨by rw [hcreated, hcreatedAt]; rfl, by rw [hactivity, hstored]; rfl⟩

/-- The records after a request that is checked. -/
theorem checkSession_records (ts : TimedSession) (records : SessionRecords) (r : SessionRequest) :
    (SessionManager.checkSession records ts.config r ts.id).1.created = records.created ∧
      (SessionManager.checkSession records ts.config r ts.id).1.activity ts.id =
        if (SessionManager.checkSession records ts.config r ts.id).2 = .next ∧ r.writes = true then
          some ⟨wholeSeconds r.now, redisDeadline r.now ts.config.idleTimeout⟩
        else records.activity ts.id := by
  obtain ⟨hidle, habsolute⟩ := config_pos ts
  unfold SessionManager.checkSession SessionRecords.markSessionRevoked SessionRecords.setActivity
  by_cases hold : (decide (0 < ts.config.absoluteTimeout) && r.reads &&
      exceeds (records.created ts.id) r.now ts.config.absoluteTimeout) = true
  · rw [if_pos hold]
    cases r.writes <;> simp
  · rw [if_neg hold, if_pos hidle]
    by_cases hlate : (r.reads && exceeds (records.activity ts.id) r.now
        ts.config.idleTimeout) = true
    · rw [if_pos hlate]
      cases r.writes <;> simp
    · rw [if_neg hlate]
      cases r.writes <;> simp

theorem Tracks.step (h : Tracks ts s) (use : SessionUse) : Tracks ts (ts.step s use) := by
  cases use with
  | creation now =>
    constructor
    · simp [TimedSession.step, SessionRecords.recordSessionCreation, ts.redis_eq, creationConfig]
    · simpa [TimedSession.step, SessionRecords.recordSessionCreation, ts.redis_eq] using h.activity
  | request now path reads writes =>
    simp only [TimedSession.step]
    by_cases hpath : isPublicPath path = true
    · have hsame : ts.answer s.records now path reads writes = (s.records, .next) := by
        simp [answer, SessionManager.sessionTimeoutMiddleware, hpath]
      rw [if_pos hpath, hsame]
      exact ⟨h.created, h.activity⟩
    · rw [if_neg hpath, answer_eq ts s.records now reads writes (by simpa using hpath)]
      obtain ⟨hcreated, hactivity⟩ := checkSession_records ts s.records
        ⟨now, path, ts.ctx, some ts.id, reads, writes⟩
      constructor
      · rw [hcreated]
        exact h.created
      · rw [hactivity]
        dsimp only
        split_ifs
        · rfl
        · exact h.activity

-- ---------------------------------------------------------------------------
-- Late requests
-- ---------------------------------------------------------------------------

/-- **A request** that is checked is rejected by a time that is kept. -/
theorem answer_timeout_iff (h : Tracks ts s) {now : Time} {path : String} {reads writes : Bool}
    (hpath : isPublicPath path = false) :
    (ts.answer s.records now path reads writes).2 ≠ .next ↔ reads = true ∧
      ((∃ c, s.createdAt = some c ∧ Kept c ts.creationConfig.absoluteTimeout now ∧
          wholeSeconds c + ts.config.absoluteTimeout < now) ∨
        ∃ p, s.stored = some p ∧ Kept p ts.config.idleTimeout now ∧
          wholeSeconds p + ts.config.idleTimeout < now) := by
  rw [answer_eq ts s.records now reads writes hpath, Ne, checkSession_next_iff, not_not,
    h.created, h.activity]
  refine and_congr_right fun _ => or_congr ?_ ?_
  · cases s.createdAt with
    | none => simp [exceeds]
    | some c =>
      rw [Option.map_some, exceeds_iff]
      simp
  · cases s.stored with
    | none => simp [exceeds]
    | some p =>
      rw [Option.map_some, exceeds_iff]
      simp

theorem enforces_iff (h : Tracks ts s) (use : SessionUse) :
    ts.Enforces s use ↔ ts.Noticed s use := by
  cases use with
  | creation => exact Iff.rfl
  | request now path reads writes =>
    refine forall_congr' fun hpath => imp_congr_right fun _ => ?_
    exact answer_timeout_iff h hpath

/-- **An idle session** whose creation was not recorded is taken up again. -/
theorem answer_next_of_idle (h : Tracks ts s) (hmilli : 1000000 ≤ ts.config.idleTimeout)
    (hcreatedAt : s.createdAt = none) {now : Time} {path : String} (reads writes : Bool)
    (hpath : isPublicPath path = false)
    (hidle : ∀ p ∈ s.stored, p + ts.config.idleTimeout < now) :
    (ts.answer s.records now path reads writes).2 = .next := by
  by_contra hrejected
  obtain ⟨-, ⟨c, hc, -, -⟩ | ⟨p, hp, hkept, -⟩⟩ := (answer_timeout_iff h hpath).mp hrejected
  · rw [hcreatedAt] at hc
    cases hc
  · exact not_kept_of_idle hmilli (hidle p hp) hkept

/-- **The timeouts are enforced** exactly where every late request comes while a time is kept by
which it is late. -/
theorem timeouts_enforced_iff (ts : TimedSession) {s : SessionRun} (hstart : ts.Fresh s)
    (uses : List SessionUse) :
    StepsOk ts.step ts.Enforces s uses ↔ StepsOk ts.step ts.Noticed s uses :=
  stepsOk_iff_of_invariant (fun _ use h _ => Tracks.step h use) (fun _ use h => enforces_iff h use)
    hstart.tracks

end TimedSession

namespace Sample

/-- A session under the default timeouts, and its run before the first request. -/
def timedSession : TimedSession := ⟨⟨true, none⟩, Context.background, "s1", rfl, by decide⟩

def unused : SessionRun where
  records := ⟨fun _ => true, fun _ => none, fun _ => none⟩
  first := none
  accepted := none
  stored := none
  createdAt := none

theorem unused_fresh : timedSession.Fresh unused := ⟨rfl, rfl, rfl, rfl, rfl, rfl⟩

theorem users_not_public : isPublicPath "/api/v1/users" = false := by decide

def users (now : Time) : SessionUse := .request now "/api/v1/users" true true

/-- The first request. -/
theorem step_users : (timedSession.step unused (users 0)).first = some 0 ∧
    (timedSession.step unused (users 0)).accepted = some 0 ∧
    (timedSession.step unused (users 0)).stored = some 0 ∧
    (timedSession.step unused (users 0)).createdAt = none := by
  have hnext : (timedSession.answer unused.records 0 "/api/v1/users" true true).2 = .next :=
    TimedSession.answer_next_of_idle unused_fresh.tracks (by decide) rfl true true users_not_public
      (by simp [unused])
  simp only [TimedSession.step, users, users_not_public, hnext]
  simp [unused]

end Sample

open Sample in
/-- After an hour without a request, the session is taken up again. -/
theorem idle_session_accepted : timedSession.Fresh unused ∧
    ¬ StepsOk timedSession.step timedSession.Enforces unused [users 0, users (3600 * second)] := by
  obtain ⟨-, haccepted, hstored, hcreatedAt⟩ := step_users
  refine ⟨unused_fresh, fun h => ?_⟩
  refine h.2.1 users_not_public (.inl ⟨0, haccepted, by decide⟩) ?_
  refine TimedSession.answer_next_of_idle (unused_fresh.tracks.step _) (by decide) hcreatedAt true
    true users_not_public fun p hp => ?_
  rw [hstored, Option.mem_some_iff] at hp
  subst hp
  decide

open Sample in
/-- Two requests ten minutes apart. -/
theorem timeouts_enforced_iff_sample :
    StepsOk timedSession.step timedSession.Enforces unused [users 0, users (600 * second)] := by
  obtain ⟨hfirst, haccepted, -, -⟩ := step_users
  refine (TimedSession.timeouts_enforced_iff timedSession unused_fresh _).mpr ⟨?_, ?_, trivial⟩
  · rintro - (⟨p, hp, -⟩ | ⟨f, hf, -⟩)
    · cases hp
    · cases hf
  · rintro - (⟨p, hp, hlate⟩ | ⟨f, hf, hlate⟩)
    · rw [haccepted] at hp
      cases hp
      exact absurd hlate (by decide)
    · rw [hfirst] at hf
      cases hf
      exact absurd hlate (by decide)

end Ggid.Gateway
