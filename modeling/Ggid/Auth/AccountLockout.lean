import Ggid.Go.Bytes
import Ggid.Lib.Run
import Ggid.Lib.Table
import Ggid.Lib.Tiers

/-!
# Auth service — the lockout services

`AccountLockoutService` counts failures in Redis, under a key that runs out; an account is locked
while its count is high enough. `LoginLockoutService` keeps for every user when he is unlocked. An
account that becomes locked is locked for a certain time; what is asked of both is that it is.

* `AccountLockoutService.kept_step_iff` — the key runs out with the first failure, not with the last;
* `LoginLockoutService.kept_step_iff`   — a later lock replaces the one in force;
* `locks_last_iff`                      — when no account is unlocked too early.
-/

namespace Ggid.Auth

open Ggid.Go Ggid.Lib

/-- From now until the deadline the account is reported locked. -/
def KeptLocked (locked : Time → Bool) (clock : Time) (until? : Option Time) : Prop :=
  ∀ deadline ∈ until?, ∀ t, clock ≤ t → t < deadline → locked t = true

/-- A further deadline: the later one counts. -/
def extend (until? : Option Time) (deadline : Time) : Option Time :=
  some (until?.elim deadline (max deadline))

/-- The deadlines after one account has become locked, or has not. -/
def lockUntil {α : Type} [DecidableEq α] (until? : α → Option Time) (account : α)
    (becomes : Bool) (deadline : Time) : α → Option Time :=
  if becomes then Function.update until? account (extend (until? account) deadline) else until?

section LockUntil

variable {α : Type} [DecidableEq α] (until? : α → Option Time) (account : α) (becomes : Bool)
  (deadline : Time)

theorem lockUntil_self : lockUntil until? account becomes deadline account =
    if becomes then extend (until? account) deadline else until? account := by
  unfold lockUntil
  split_ifs
  · exact Function.update_self _ _ _
  · rfl

theorem lockUntil_of_ne {other : α} (hne : other ≠ account) :
    lockUntil until? account becomes deadline other = until? other := by
  unfold lockUntil
  split_ifs
  · exact Function.update_of_ne hne _ _
  · rfl

end LockUntil

theorem KeptLocked.mono {locked : Time → Bool} {clock clock' : Time} {until? : Option Time}
    (h : KeptLocked locked clock until?) (hle : clock ≤ clock') :
    KeptLocked locked clock' until? :=
  fun deadline hdeadline t ht => h deadline hdeadline t (hle.trans ht)

theorem keptLocked_extend {locked : Time → Bool} {clock deadline : Time} {until? : Option Time} :
    KeptLocked locked clock (extend until? deadline) ↔
      KeptLocked locked clock until? ∧ ∀ t, clock ≤ t → t < deadline → locked t = true := by
  unfold KeptLocked extend
  cases until? with
  | none => simp
  | some before =>
    simp only [Option.elim_some, Option.mem_some_iff, forall_eq']
    constructor
    · exact fun h => ⟨fun t ht hlt => h t ht (lt_max_of_lt_right hlt),
        fun t ht hlt => h t ht (lt_max_of_lt_left hlt)⟩
    · rintro ⟨hbefore, hnew⟩ t ht hlt
      rcases lt_max_iff.mp hlt with hlt | hlt
      · exact hnew t ht hlt
      · exact hbefore t ht hlt

/-- What is reported unlocked has no deadline ahead. -/
theorem KeptLocked.over {locked : Time → Bool} {clock : Time} {until? : Option Time}
    (h : KeptLocked locked clock until?) (hunlocked : locked clock = false) :
    ∀ deadline ∈ until?, deadline ≤ clock := by
  intro deadline hdeadline
  by_contra hahead
  have hlocked := h deadline hdeadline clock (le_refl clock) (lt_of_not_ge hahead)
  rw [hunlocked] at hlocked
  cases hlocked

theorem keptLocked_of_over {locked : Time → Bool} {clock : Time} {until? : Option Time}
    (h : ∀ deadline ∈ until?, deadline ≤ clock) : KeptLocked locked clock until? :=
  fun deadline hdeadline _ ht hlt => absurd (h deadline hdeadline) (not_le.mpr (lt_of_le_of_lt ht hlt))

-- ---------------------------------------------------------------------------
-- `AccountLockoutService`
-- ---------------------------------------------------------------------------

/-- The counters in Redis. -/
abbrev Counters := String → Option (Stored Int)

namespace Counters

/-- `GET`. -/
def get (db : Counters) (now : Time) (key : String) : Option Int :=
  ((db key).filter (Stored.live now)).map Stored.value

/-- `INCR`, and the new value. -/
def incr (db : Counters) (now : Time) (key : String) : Counters × Int :=
  match (db key).filter (Stored.live now) with
  | some entry => (Function.update db key (some { entry with value := entry.value + 1 }),
      entry.value + 1)
  | none => (Function.update db key (some ⟨1, none⟩), 1)

/-- `EXPIRE`; a key that is to live for no time is deleted. -/
def expire (db : Counters) (now : Time) (key : String) (seconds : Int) : Counters :=
  Function.update db key
    (if seconds ≤ 0 then none
      else (db key).map fun entry => { entry with deadline := some (now + seconds * second) })

/-- `DEL`. -/
def del (db : Counters) (key : String) : Counters := Function.update db key none

end Counters

structure AccountLockoutService where
  maxAttempts      : Int
  lockDuration     : Int
  maxAttempts_pos  : 0 < maxAttempts
  lockDuration_pos : 0 < lockDuration

def newAccountLockoutService (maxAttempts lockDuration : Int) : AccountLockoutService where
  maxAttempts := if maxAttempts ≤ 0 then 5 else maxAttempts
  lockDuration := if lockDuration ≤ 0 then 15 * minute else lockDuration
  maxAttempts_pos := by split_ifs <;> omega
  lockDuration_pos := by
    split_ifs
    · decide
    · omega

def lockoutKey (account : UUID × String) : String :=
  "ggid:lockout:" ++ account.1.string ++ ":" ++ account.2

namespace AccountLockoutService

variable (s : AccountLockoutService)

def isLocked (db : Counters) (account : UUID × String) (now : Time) : Bool :=
  (db.get now (lockoutKey account)).any fun count => s.maxAttempts ≤ count

/-- The script of `RecordFailedAttempt`, and the count it returns. -/
def recordFailedAttempt (db : Counters) (now : Time) (account : UUID × String) : Counters × Int :=
  let (db', count) := db.incr now (lockoutKey account)
  if count = 1 then (db'.expire now (lockoutKey account) (s.lockDuration / second), count)
  else (db', count)

def resetAttempts (db : Counters) (account : UUID × String) : Counters :=
  db.del (lockoutKey account)

/-- The counters and the clock; and for each account until when it has to be locked. -/
structure Run where
  counters : Counters
  clock    : Time
  until?   : UUID × String → Option Time

inductive Event where
  | failure (account : UUID × String)
  | success (account : UUID × String)
  | wait (duration : Nat)

/-- One event. An account becomes locked when its count reaches the threshold. -/
def step (r : Run) : Event → Run
  | .failure account =>
    let before := (r.counters.get r.clock (lockoutKey account)).getD 0
    let (counters, count) := s.recordFailedAttempt r.counters r.clock account
    { r with
      counters
      until? := lockUntil r.until? account (before < s.maxAttempts && s.maxAttempts ≤ count)
        (r.clock + s.lockDuration) }
  | .success account => { r with counters := resetAttempts r.counters account }
  | .wait duration => { r with clock := r.clock + duration }

def start (clock : Time) : Run := ⟨fun _ => none, clock, fun _ => none⟩

/-- Every account is locked for as long as it has to be. -/
def Kept (r : Run) : Prop :=
  ∀ account, KeptLocked (s.isLocked r.counters account) r.clock (r.until? account)

/-- A failure that reaches the threshold finds a counter that lives as long as the lock; as the
first one, it makes such a counter. No success is recorded for an account that has to be locked. -/
def InTime (r : Run) : Event → Prop
  | .failure account =>
    match (r.counters (lockoutKey account)).filter (Stored.live r.clock) with
    | none => s.maxAttempts = 1 → second ∣ s.lockDuration
    | some entry => entry.value + 1 = s.maxAttempts →
      ∀ deadline ∈ entry.deadline, r.clock + s.lockDuration ≤ deadline
  | .success account => ∀ deadline ∈ r.until? account, deadline ≤ r.clock
  | .wait _ => True

variable {s : AccountLockoutService} {db : Counters} {r : Run} {account : UUID × String}

theorem lockoutKey_injective : Function.Injective lockoutKey := by
  rintro ⟨tenantID, identifier⟩ ⟨tenantID', identifier'⟩ h
  have hlists := congrArg String.toList h
  simp only [lockoutKey, String.toList_append, List.append_assoc] at hlists
  have hrest := List.append_cancel_left hlists
  have hlength : ∀ u : UUID, u.string.toList.length = 36 := by
    intro u
    rw [← List.length_map (f := fun c : Char => UInt8.ofNat c.toNat)]
    exact u.length_ascii_string
  obtain ⟨htenant, hidentifier⟩ := List.append_inj hrest ((hlength _).trans (hlength _).symm)
  have hid : identifier = identifier' :=
    String.toList_inj.mp (List.append_cancel_left hidentifier)
  have hstring : tenantID.string = tenantID'.string := String.toList_inj.mp htenant
  have hascii : ascii tenantID.string = ascii tenantID'.string := by rw [hstring]
  rw [show tenantID = tenantID' from UUID.ascii_string_injective hascii, hid]

/-- The counter that is still counted with. -/
def counter (db : Counters) (now : Time) (account : UUID × String) : Option (Stored Int) :=
  (db (lockoutKey account)).filter (Stored.live now)

theorem isLocked_of_counter {now : Time} : s.isLocked db account now =
    (counter db now account).any fun entry => s.maxAttempts ≤ entry.value := by
  unfold isLocked Counters.get
  rw [Option.any_map]
  rfl

theorem isLocked_congr {db' : Counters} (h : db' (lockoutKey account) = db (lockoutKey account)) :
    s.isLocked db' account = s.isLocked db account := by
  funext now
  unfold isLocked Counters.get
  rw [h]

theorem isLocked_update_ne {account' : UUID × String} {entry : Option (Stored Int)}
    (hne : account' ≠ account) :
    s.isLocked (Function.update db (lockoutKey account) entry) account' = s.isLocked db account' :=
  isLocked_congr (Function.update_of_ne (lockoutKey_injective.ne hne) _ _)

theorem isLocked_update_iff {entry : Stored Int} {now : Time} :
    s.isLocked (Function.update db (lockoutKey account) (some entry)) account now = true ↔
      s.maxAttempts ≤ entry.value ∧ ∀ deadline ∈ entry.deadline, now < deadline := by
  rw [isLocked_of_counter, counter, Function.update_self, Option.filter_some]
  have hlive : entry.live now = true ↔ ∀ deadline ∈ entry.deadline, now < deadline := by
    unfold Stored.live
    cases entry.deadline <;> simp
  split_ifs with h
  · simp only [Option.any_some, decide_eq_true_eq]
    exact (and_iff_left (hlive.mp h)).symm
  · simpa using fun _ => mt hlive.mpr h

@[simp] theorem isLocked_update_none {now : Time} :
    s.isLocked (Function.update db (lockoutKey account) none) account now = false := by
  rw [isLocked_of_counter, counter, Function.update_self]
  rfl

/-- The counter a failure makes when there is none. -/
def firstCounter (s : AccountLockoutService) (now : Time) : Option (Stored Int) :=
  if s.lockDuration / second ≤ 0 then none
  else some ⟨1, some (now + s.lockDuration / second * second)⟩

theorem recordFailedAttempt_of_none {now : Time} (h : counter db now account = none) :
    s.recordFailedAttempt db now account =
      (Function.update db (lockoutKey account) (s.firstCounter now), 1) := by
  unfold counter at h
  simp [recordFailedAttempt, Counters.incr, h, Counters.expire, firstCounter]

theorem recordFailedAttempt_of_some {now : Time} {entry : Stored Int}
    (h : counter db now account = some entry) (hpos : 1 ≤ entry.value) :
    s.recordFailedAttempt db now account =
      (Function.update db (lockoutKey account) (some { entry with value := entry.value + 1 }),
        entry.value + 1) := by
  unfold counter at h
  have hnext : entry.value + 1 ≠ 1 := by omega
  simp [recordFailedAttempt, Counters.incr, h, hnext]

/-- A first counter lives as long as the lock if the lock is one of whole seconds. -/
theorem firstCounter_keeps_iff {now : Int} (hone : s.maxAttempts = 1) :
    (∀ t : Int, now ≤ t → t < now + s.lockDuration →
      s.isLocked (Function.update db (lockoutKey account) (s.firstCounter now)) account t = true) ↔
        second ∣ s.lockDuration := by
  have hpos := s.lockDuration_pos
  have hle : s.lockDuration / second * second ≤ s.lockDuration :=
    Int.ediv_mul_le _ (by decide)
  unfold firstCounter
  constructor
  · intro h
    have hlast := h (now + s.lockDuration - 1) (by omega) (by omega)
    split_ifs at hlast with hshort
    · rw [isLocked_update_none] at hlast
      cases hlast
    · have hlive : now + s.lockDuration - 1 < now + s.lockDuration / second * second :=
        (isLocked_update_iff.mp hlast).2 _ rfl
      refine Dvd.intro_left (s.lockDuration / second) ?_
      omega
  · intro hwhole t _ hlt
    have hexact : s.lockDuration / second * second = s.lockDuration := Int.ediv_mul_cancel hwhole
    have hsecond : (0 : Int) < second := by decide
    rw [if_neg (by nlinarith), isLocked_update_iff, hone, hexact]
    refine ⟨le_refl _, fun deadline hdeadline => ?_⟩
    rw [Option.mem_some_iff] at hdeadline
    exact hdeadline ▸ hlt

/-- Every counter has counted something. -/
def Counted (r : Run) : Prop :=
  ∀ account entry, r.counters (lockoutKey account) = some entry → 1 ≤ entry.value

theorem Counted.of_counter (h : Counted r) {now : Time} {entry : Stored Int}
    (hentry : counter r.counters now account = some entry) : 1 ≤ entry.value := by
  obtain ⟨hsome, -⟩ := Option.filter_eq_some_iff.mp hentry
  exact h account entry hsome

theorem counted_update (h : Counted r) {r' : Run} (account : UUID × String)
    (entry : Option (Stored Int)) (hentry : ∀ e ∈ entry, 1 ≤ e.value)
    (hcounters : r'.counters = Function.update r.counters (lockoutKey account) entry) :
    Counted r' := by
  intro account' e he
  rw [hcounters] at he
  by_cases hsame : account' = account
  · rw [hsame, Function.update_self] at he
    exact hentry e he
  · rw [Function.update_of_ne (lockoutKey_injective.ne hsame)] at he
    exact h account' e he

theorem Counted.step (h : Counted r) (event : Event) : Counted (s.step r event) := by
  cases event with
  | failure account =>
    cases hcounter : counter r.counters r.clock account with
    | none =>
      refine counted_update h account (s.firstCounter r.clock) ?_ ?_
      · unfold firstCounter
        split_ifs
        · simp
        · simp
      · simp [AccountLockoutService.step, recordFailedAttempt_of_none hcounter]
    | some entry =>
      have hpos := h.of_counter hcounter
      refine counted_update h account (some { entry with value := entry.value + 1 }) ?_ ?_
      · simp
        omega
      · simp [AccountLockoutService.step, recordFailedAttempt_of_some hcounter hpos]
  | success account => exact counted_update h account none (by simp) rfl
  | wait duration => exact h

theorem step_failure_of_none (h : counter r.counters r.clock account = none) :
    s.step r (.failure account) =
      { r with
        counters := Function.update r.counters (lockoutKey account) (s.firstCounter r.clock)
        until? := lockUntil r.until? account (s.maxAttempts = 1) (r.clock + s.lockDuration) } := by
  have hget : r.counters.get r.clock (lockoutKey account) = none := congrArg (Option.map _) h
  have hone : 0 < s.maxAttempts ∧ s.maxAttempts ≤ 1 ↔ s.maxAttempts = 1 := by
    have hpos := s.maxAttempts_pos
    omega
  simp [step, hget, recordFailedAttempt_of_none h, ← Bool.decide_and, hone]

theorem step_failure_of_some {entry : Stored Int}
    (h : counter r.counters r.clock account = some entry) (hpos : 1 ≤ entry.value) :
    s.step r (.failure account) =
      { r with
        counters := Function.update r.counters (lockoutKey account)
          (some { entry with value := entry.value + 1 })
        until? := lockUntil r.until? account (entry.value + 1 = s.maxAttempts)
          (r.clock + s.lockDuration) } := by
  have hget : r.counters.get r.clock (lockoutKey account) = some entry.value :=
    congrArg (Option.map _) h
  have hreached : entry.value < s.maxAttempts ∧ s.maxAttempts ≤ entry.value + 1 ↔
      entry.value + 1 = s.maxAttempts := by omega
  simp [step, hget, recordFailedAttempt_of_some h hpos, ← Bool.decide_and, hreached]

/-- Nothing changes for the other accounts. -/
theorem kept_of_account (h : s.Kept r) {r' : Run} (account : UUID × String)
    (entry : Option (Stored Int)) (hclock : r'.clock = r.clock)
    (hcounters : r'.counters = Function.update r.counters (lockoutKey account) entry)
    (huntil : ∀ other, other ≠ account → r'.until? other = r.until? other)
    (hkept : KeptLocked (s.isLocked r'.counters account) r.clock (r'.until? account)) :
    s.Kept r' := by
  intro other
  rw [hclock]
  by_cases hsame : other = account
  · rw [hsame]
    exact hkept
  · rw [huntil other hsame, hcounters, isLocked_update_ne hsame]
    exact h other

/-- How long a counter locks its account. -/
theorem keptLocked_update_iff {entry : Stored Int} {clock : Int} {until? : Option Time} :
    KeptLocked (s.isLocked (Function.update db (lockoutKey account) (some entry)) account) clock
        until? ↔
      ∀ deadline ∈ until?, clock < deadline →
        s.maxAttempts ≤ entry.value ∧ ∀ runsOut ∈ entry.deadline, deadline ≤ runsOut := by
  unfold KeptLocked
  simp only [isLocked_update_iff]
  refine forall_congr' fun (deadline : Int) => forall_congr' fun _ => ?_
  constructor
  · intro h hahead
    refine ⟨(h clock (le_refl clock) hahead).1, fun (runsOut : Int) hrunsOut => ?_⟩
    have hlast : deadline - 1 < runsOut :=
      (h (deadline - 1) (Int.le_sub_one_of_lt hahead) (sub_one_lt deadline)).2 runsOut hrunsOut
    exact Int.le_of_sub_one_lt hlast
  · intro h t ht hlt
    obtain ⟨hmany, hlives⟩ := h (lt_of_le_of_lt ht hlt)
    exact ⟨hmany, fun runsOut hrunsOut => lt_of_lt_of_le hlt (hlives runsOut hrunsOut)⟩

/-- Below the threshold no account has to be locked. -/
theorem Kept.over (h : s.Kept r)
    (hfew : ∀ entry ∈ counter r.counters r.clock account, entry.value < s.maxAttempts) :
    ∀ deadline ∈ r.until? account, deadline ≤ r.clock := by
  refine (h account).over ?_
  rw [isLocked_of_counter, Option.any_eq_false]
  exact fun entry hentry => by simpa using hfew entry hentry

theorem kept_failure (hcounted : Counted r) (h : s.Kept r) (hok : s.InTime r (.failure account)) :
    s.Kept (s.step r (.failure account)) := by
  simp only [InTime] at hok
  cases hcounter : counter r.counters r.clock account with
  | none =>
    have hover : ∀ deadline ∈ r.until? account, deadline ≤ r.clock :=
      Kept.over h (by simp [hcounter])
    rw [show Option.filter _ _ = _ from hcounter] at hok
    rw [step_failure_of_none hcounter]
    refine kept_of_account h account _ rfl rfl (fun _ hne => lockUntil_of_ne _ _ _ _ hne) ?_
    simp only [lockUntil_self]
    split_ifs with hone
    · have hone : s.maxAttempts = 1 := of_decide_eq_true hone
      exact keptLocked_extend.mpr ⟨keptLocked_of_over hover,
        (firstCounter_keeps_iff hone).mpr (hok hone)⟩
    · exact keptLocked_of_over hover
  | some entry =>
    have hsame : Function.update r.counters (lockoutKey account) (some entry) = r.counters := by
      rw [← (Option.filter_eq_some_iff.mp hcounter).1]
      exact Function.update_eq_self _ _
    rw [show Option.filter _ _ = _ from hcounter] at hok
    rw [step_failure_of_some hcounter (hcounted.of_counter hcounter)]
    refine kept_of_account h account _ rfl rfl (fun _ hne => lockUntil_of_ne _ _ _ _ hne) ?_
    simp only [lockUntil_self]
    split_ifs with hreached
    · have hreached : entry.value + 1 = s.maxAttempts := of_decide_eq_true hreached
      have hover : ∀ deadline ∈ r.until? account, deadline ≤ r.clock := Kept.over h (by
        rw [hcounter]
        simp
        omega)
      refine keptLocked_extend.mpr ⟨keptLocked_of_over hover, fun t _ hlt => ?_⟩
      refine isLocked_update_iff.mpr ⟨hreached.ge, fun runsOut hrunsOut => ?_⟩
      exact lt_of_lt_of_le hlt (hok hreached runsOut hrunsOut)
    · refine keptLocked_update_iff.mpr fun deadline hdeadline hahead => ?_
      have hbefore := h account
      rw [← hsame] at hbefore
      obtain ⟨hmany, hlives⟩ := keptLocked_update_iff.mp hbefore deadline hdeadline hahead
      exact ⟨by simp only; omega, hlives⟩

theorem kept_step (hcounted : Counted r) (h : s.Kept r) {event : Event} (hok : s.InTime r event) :
    s.Kept (s.step r event) := by
  cases event with
  | failure account => exact kept_failure hcounted h hok
  | success account =>
    exact kept_of_account h account none rfl rfl (fun _ _ => rfl) (keptLocked_of_over hok)
  | wait duration =>
    exact fun account => (h account).mono (Int.le_add_of_nonneg_right (Int.natCast_nonneg duration))

/-- A lock that is cut short shows. -/
theorem inTime_of_kept (hcounted : Counted r) {event : Event} (h : s.Kept (s.step r event)) :
    s.InTime r event := by
  cases event with
  | failure account =>
    have hkept := h account
    simp only [InTime]
    cases hcounter : counter r.counters r.clock account with
    | none =>
      rw [show Option.filter _ _ = _ from hcounter]
      intro hone
      rw [step_failure_of_none hcounter] at hkept
      simp only [lockUntil_self, decide_eq_true hone, if_true, keptLocked_extend] at hkept
      exact (firstCounter_keeps_iff hone).mp hkept.2
    | some entry =>
      rw [show Option.filter _ _ = _ from hcounter]
      intro hreached
      rw [step_failure_of_some hcounter (hcounted.of_counter hcounter)] at hkept
      simp only [lockUntil_self, decide_eq_true hreached, if_true, keptLocked_extend] at hkept
      have hnew : KeptLocked (s.isLocked (Function.update r.counters (lockoutKey account)
          (some { entry with value := entry.value + 1 })) account) r.clock
            (some (r.clock + s.lockDuration)) := by
        intro deadline hdeadline t ht hlt
        rw [Option.mem_some_iff] at hdeadline
        exact hkept.2 t ht (hdeadline ▸ hlt)
      exact (keptLocked_update_iff.mp hnew _ rfl (Int.lt_add_of_pos_right _ s.lockDuration_pos)).2
  | success account => exact (h account).over isLocked_update_none
  | wait duration => trivial

end AccountLockoutService

-- ---------------------------------------------------------------------------
-- `LoginLockoutService`
-- ---------------------------------------------------------------------------

structure LockoutConfig where
  maxAttempts      : Int
  lockoutDuration  : Int
  captchaThreshold : Int

structure LockoutState where
  userID   : String
  locked   : Bool
  unlockAt : Time
  attempts : Int
  reason   : String
  lockedBy : String
  deriving DecidableEq

inductive LockoutDecision where
  | unlocked
  | locked
  | captchaRequired
  deriving DecidableEq

structure LoginLockoutService where
  config     : LockoutConfig
  users      : Table LockoutState.userID
  ipAttempts : String → Int

namespace LoginLockoutService

def new (config : LockoutConfig) : LoginLockoutService := ⟨config, Table.empty, fun _ => 0⟩

/-- The state of a user, made where there is none. -/
def stateOf (s : LoginLockoutService) (userID : String) : LockoutState :=
  (s.users.find? userID).getD ⟨userID, false, Time.zero, 0, "", ""⟩

def recordFailedAttempt (s : LoginLockoutService) (now : Time) (userID ip : String) :
    LoginLockoutService × Int :=
  let state := s.stateOf userID
  let attempts := state.attempts + 1
  let counted := { state with attempts }
  let state' :=
    if 0 < s.config.maxAttempts ∧ s.config.maxAttempts ≤ attempts then
      { counted with
        locked := true
        unlockAt := now + s.config.lockoutDuration
        reason := "max attempts exceeded" }
    else counted
  ({ s with
    users := s.users.put state'
    ipAttempts := Function.update s.ipAttempts ip (s.ipAttempts ip + 1) }, attempts)

def checkLockout (s : LoginLockoutService) (now : Time) (userID : String) :
    LockoutDecision × Option LockoutState :=
  match s.users.find? userID with
  | none => (.unlocked, none)
  | some state =>
    if state.locked then
      if state.unlockAt < now then (.unlocked, some state) else (.locked, some state)
    else if 0 < s.config.captchaThreshold ∧ s.config.captchaThreshold ≤ state.attempts then
      (.captchaRequired, some state)
    else (.unlocked, some state)

def lockUser (s : LoginLockoutService) (now : Time) (userID : String) (duration : Int)
    (reason lockedBy : String) : LoginLockoutService :=
  let state' : LockoutState :=
    { s.stateOf userID with locked := true, unlockAt := now + duration, reason, lockedBy }
  { s with users := s.users.put state' }

def unlockUser (s : LoginLockoutService) (userID : String) : LoginLockoutService :=
  { s with
    users := s.users.update (fun state => state.userID = userID) (fun state => { state with
      locked := false, attempts := 0, unlockAt := Time.zero, reason := "", lockedBy := "" })
      fun _ => rfl }

def resetAttempts (s : LoginLockoutService) (userID : String) : LoginLockoutService :=
  { s with
    users := s.users.update (fun state => state.userID = userID)
      (fun state => { state with attempts := 0 }) fun _ => rfl }

/-- `AutoUnlockExpired`, and its count. -/
def autoUnlockExpired (s : LoginLockoutService) (now : Time) : LoginLockoutService × Nat :=
  let expired := fun state : LockoutState => state.locked && state.unlockAt < now
  ({ s with
      users := s.users.update expired
        (fun state => { state with locked := false, attempts := 0 }) fun _ => rfl },
    s.users.rows.countP expired)

def isLocked (s : LoginLockoutService) (userID : String) (now : Time) : Bool :=
  (s.checkLockout now userID).1 = .locked

/-- The service and the clock; and for each user until when he has to be locked. -/
structure Run where
  service : LoginLockoutService
  clock   : Time
  until?  : String → Option Time

inductive Event where
  | failure (userID ip : String)
  | success (userID : String)
  | lock (userID : String) (duration : Int) (reason lockedBy : String)
  | unlock (userID : String)
  | autoUnlock
  | wait (duration : Nat)

/-- One event. A user becomes locked by a failure at the threshold, or by an administrator. -/
def step (r : Run) : Event → Run
  | .failure userID ip =>
    let (service, attempts) := r.service.recordFailedAttempt r.clock userID ip
    { r with
      service
      until? := lockUntil r.until? userID
        (!r.service.isLocked userID r.clock && 0 < r.service.config.maxAttempts &&
          r.service.config.maxAttempts ≤ attempts)
        (r.clock + r.service.config.lockoutDuration) }
  | .success userID => { r with service := r.service.resetAttempts userID }
  | .lock userID duration reason lockedBy =>
    { r with
      service := r.service.lockUser r.clock userID duration reason lockedBy
      until? := lockUntil r.until? userID true (r.clock + duration) }
  | .unlock userID =>
    { r with
      service := r.service.unlockUser userID
      until? := Function.update r.until? userID none }
  | .autoUnlock => { r with service := (r.service.autoUnlockExpired r.clock).1 }
  | .wait duration => { r with clock := r.clock + duration }

def start (config : LockoutConfig) (clock : Time) : Run := ⟨new config, clock, fun _ => none⟩

def Kept (r : Run) : Prop :=
  ∀ userID, KeptLocked (r.service.isLocked userID) r.clock (r.until? userID)

/-- A lock lasts as long as the one it replaces. -/
def Outlasts (r : Run) (userID : String) (duration : Int) : Prop :=
  ∀ deadline ∈ r.until? userID, r.clock < deadline → deadline ≤ r.clock + duration + 1

/-- What locks a user who has to be locked does not unlock him earlier. -/
def InTime (r : Run) : Event → Prop
  | .failure userID _ => 0 < r.service.config.maxAttempts →
    r.service.config.maxAttempts ≤ (r.service.stateOf userID).attempts + 1 →
      Outlasts r userID r.service.config.lockoutDuration
  | .lock userID duration _ _ => Outlasts r userID duration
  | .success _ | .unlock _ | .autoUnlock | .wait _ => True

variable {s s' : LoginLockoutService} {r : Run} {userID : String}

theorem isLocked_iff {now : Time} : s.isLocked userID now = true ↔
    ∃ state, s.users.find? userID = some state ∧ state.locked = true ∧ now ≤ state.unlockAt := by
  unfold isLocked checkLockout
  rw [decide_eq_true_eq]
  cases s.users.find? userID with
  | none => simp
  | some state =>
    simp only [Option.some.injEq, exists_eq_left']
    split_ifs with hlocked hover hcaptcha
    · simpa [hlocked] using hover
    · simpa [hlocked] using hover
    · simp [hlocked]
    · simp [hlocked]

theorem isLocked_congr (h : s'.users.find? userID = s.users.find? userID) :
    s'.isLocked userID = s.isLocked userID := by
  funext now
  rw [Bool.eq_iff_iff, isLocked_iff, isLocked_iff, h]

/-- An update that leaves alone whether a user is locked at a time. -/
theorem isLocked_update {p : LockoutState → Bool} {f : LockoutState → LockoutState}
    (hf : ∀ state, (f state).userID = state.userID) (h : s'.users = s.users.update p f hf)
    {now : Time} (hkeeps : ∀ state : LockoutState, state.userID = userID → p state = true →
      ((f state).locked = true ∧ now ≤ (f state).unlockAt ↔
        state.locked = true ∧ now ≤ state.unlockAt)) :
    s'.isLocked userID now = s.isLocked userID now := by
  rw [Bool.eq_iff_iff, isLocked_iff, isLocked_iff, h, Table.find?_update]
  cases hfind : s.users.find? userID with
  | none => simp
  | some state =>
    simp only [Option.map_some, Option.some.injEq, exists_eq_left']
    split_ifs with hp
    · exact hkeeps state (Table.find?_eq_some_iff.mp hfind).2 hp
    · exact Iff.rfl

/-- A state put in place says how long its user is locked. -/
theorem isLocked_put {state : LockoutState} (h : s'.users = s.users.put state) {now : Time} :
    s'.isLocked state.userID now = true ↔ state.locked = true ∧ now ≤ state.unlockAt := by
  rw [isLocked_iff, h, Table.find?_put, if_pos rfl]
  simp

theorem isLocked_put_of_ne {state : LockoutState} (h : s'.users = s.users.put state)
    (hne : userID ≠ state.userID) : s'.isLocked userID = s.isLocked userID := by
  apply isLocked_congr
  rw [h, Table.find?_put, if_neg hne]

/-- A user who is locked until a certain time. -/
theorem keptLocked_iff {locked : Time → Bool} {clock unlockAt : Int} {until? : Option Time}
    (hlocked : ∀ t, locked t = true ↔ t ≤ unlockAt) :
    KeptLocked locked clock until? ↔
      ∀ deadline ∈ until?, clock < deadline → deadline ≤ unlockAt + 1 := by
  unfold KeptLocked
  simp only [hlocked]
  refine forall_congr' fun (deadline : Int) => forall_congr' fun _ => ?_
  constructor
  · intro h hahead
    have hlast : deadline - 1 ≤ unlockAt :=
      h (deadline - 1) (Int.le_sub_one_of_lt hahead) (sub_one_lt deadline)
    exact sub_le_iff_le_add.mp hlast
  · intro h t ht hlt
    exact Int.le_of_lt_add_one (lt_of_lt_of_le hlt (h (lt_of_le_of_lt ht hlt)))

/-- A deadline that is the new unlock time adds nothing. -/
theorem keptLocked_extend_iff {locked : Time → Bool} {clock unlockAt : Int} {until? : Option Time}
    (hlocked : ∀ t, locked t = true ↔ t ≤ unlockAt) :
    KeptLocked locked clock (extend until? unlockAt) ↔
      ∀ deadline ∈ until?, clock < deadline → deadline ≤ unlockAt + 1 := by
  rw [keptLocked_extend, keptLocked_iff hlocked]
  exact and_iff_left fun t _ hlt => (hlocked t).mpr (le_of_lt hlt)

theorem stateOf_userID (s : LoginLockoutService) (userID : String) :
    (s.stateOf userID).userID = userID := by
  unfold stateOf
  cases hfind : s.users.find? userID with
  | none => rfl
  | some state => exact (Table.find?_eq_some_iff.mp hfind).2

/-- The state that stands for a missing one is not locked. -/
theorem isLocked_iff_stateOf {now : Time} : s.isLocked userID now = true ↔
    (s.stateOf userID).locked = true ∧ now ≤ (s.stateOf userID).unlockAt := by
  rw [isLocked_iff]
  unfold stateOf
  cases s.users.find? userID with
  | none => simp
  | some state => simp

/-- Nothing changes for the other users. -/
theorem kept_iff_of_user (h : Kept r) {r' : Run} (userID : String) (hclock : r'.clock = r.clock)
    (hothers : ∀ other, other ≠ userID → r'.service.isLocked other = r.service.isLocked other)
    (huntil : ∀ other, other ≠ userID → r'.until? other = r.until? other) :
    Kept r' ↔ KeptLocked (r'.service.isLocked userID) r.clock (r'.until? userID) := by
  rw [← hclock]
  refine ⟨fun hall => hall userID, fun huser other => ?_⟩
  by_cases hsame : other = userID
  · rw [hsame]
    exact huser
  · rw [hothers other hsame, huntil other hsame, hclock]
    exact h other

/-- What is reported from now on is what was. -/
theorem kept_of_same (h : Kept r) {service : LoginLockoutService}
    (hsame : ∀ userID t, r.clock ≤ t → service.isLocked userID t = r.service.isLocked userID t) :
    Kept { r with service } := by
  intro userID deadline hdeadline t ht hlt
  rw [hsame userID t ht]
  exact h userID deadline hdeadline t ht hlt

/-- **A user is locked** until a time; whether he becomes locked by it, or is. -/
theorem kept_put_iff (h : Kept r) {r' : Run} {state : LockoutState} {duration : Int}
    {becomes : Bool} (hclock : r'.clock = r.clock)
    (husers : r'.service.users = r.service.users.put state) (hlocked : state.locked = true)
    (hunlockAt : state.unlockAt = r.clock + duration)
    (huntil : r'.until? = lockUntil r.until? state.userID becomes (r.clock + duration)) :
    Kept r' ↔ Outlasts r state.userID duration := by
  have hnow : ∀ t, r'.service.isLocked state.userID t = true ↔ t ≤ r.clock + duration := by
    intro t
    rw [isLocked_put husers, and_iff_right hlocked, hunlockAt]
  rw [kept_iff_of_user h state.userID hclock (fun _ hne => isLocked_put_of_ne husers hne)
    fun _ hne => by rw [huntil, lockUntil_of_ne _ _ _ _ hne]]
  rw [huntil, lockUntil_self]
  cases becomes with
  | true => exact keptLocked_extend_iff hnow
  | false => exact keptLocked_iff hnow

theorem kept_failure_iff (h : Kept r) (userID ip : String) :
    Kept (step r (.failure userID ip)) ↔ InTime r (.failure userID ip) := by
  have hid := stateOf_userID r.service userID
  by_cases hreached : 0 < r.service.config.maxAttempts ∧
      r.service.config.maxAttempts ≤ (r.service.stateOf userID).attempts + 1
  · have hcond : InTime r (.failure userID ip) ↔
        Outlasts r userID r.service.config.lockoutDuration := by
      simp only [InTime, hreached.1, hreached.2, true_implies]
    rw [hcond]
    have hput := @kept_put_iff r h (step r (.failure userID ip))
      { r.service.stateOf userID with
        attempts := (r.service.stateOf userID).attempts + 1
        locked := true
        unlockAt := r.clock + r.service.config.lockoutDuration
        reason := "max attempts exceeded" }
      r.service.config.lockoutDuration (!r.service.isLocked userID r.clock) rfl
      (by simp [step, recordFailedAttempt, hreached]) rfl rfl
      (by simp [step, recordFailedAttempt, hreached, hid])
    simp only [hid] at hput
    exact hput
  · refine iff_of_true ?_ fun hpos hmany => absurd ⟨hpos, hmany⟩ hreached
    have hbelow : (decide (0 < r.service.config.maxAttempts) &&
        decide (r.service.config.maxAttempts ≤ (r.service.stateOf userID).attempts + 1)) =
          false := by
      rw [← Bool.decide_and]
      exact decide_eq_false hreached
    have hstep : step r (.failure userID ip) =
        { r with service := (r.service.recordFailedAttempt r.clock userID ip).1 } := by
      simp only [step, recordFailedAttempt, Bool.and_assoc, hbelow, Bool.and_false]
      rfl
    have husers : (r.service.recordFailedAttempt r.clock userID ip).1.users =
        r.service.users.put { r.service.stateOf userID with
          attempts := (r.service.stateOf userID).attempts + 1 } := by
      simp [recordFailedAttempt, hreached]
    rw [hstep]
    refine kept_of_same h fun other t _ => ?_
    by_cases hsame : other = userID
    · have hput := @isLocked_put r.service _ _ husers t
      simp only [hid] at hput
      rw [hsame, Bool.eq_iff_iff, hput, isLocked_iff_stateOf]
    · refine congrFun (isLocked_put_of_ne husers ?_) t
      simpa [hid] using hsame

theorem kept_lock_iff (h : Kept r) (userID : String) (duration : Int) (reason lockedBy : String) :
    Kept (step r (.lock userID duration reason lockedBy)) ↔ Outlasts r userID duration := by
  have hid := stateOf_userID r.service userID
  have hput := @kept_put_iff r h (step r (.lock userID duration reason lockedBy))
    { r.service.stateOf userID with locked := true, unlockAt := r.clock + duration, reason, lockedBy }
    duration true rfl rfl rfl rfl (by simp only [step, hid])
  simp only [hid] at hput
  exact hput

/-- **One event.** -/
theorem kept_step_iff (r : Run) (event : Event) (h : Kept r) :
    Kept (step r event) ↔ InTime r event := by
  cases event with
  | failure userID ip => exact kept_failure_iff h userID ip
  | lock userID duration reason lockedBy => exact kept_lock_iff h userID duration reason lockedBy
  | success userID =>
    refine iff_of_true (kept_of_same h fun other t _ => ?_) trivial
    refine isLocked_update (fun _ => by rfl) rfl fun state _ _ => ?_
    exact Iff.rfl
  | unlock userID =>
    have hothers : ∀ other, other ≠ userID →
        (r.service.unlockUser userID).isLocked other = r.service.isLocked other := by
      intro other hne
      funext t
      refine isLocked_update (fun _ => by rfl) rfl fun state hid hp => ?_
      exact absurd (hid.symm.trans (of_decide_eq_true hp)) hne
    refine iff_of_true ?_ trivial
    refine (@kept_iff_of_user r h (step r (.unlock userID)) userID rfl hothers
      fun other hne => Function.update_of_ne hne _ _).mpr ?_
    simp [KeptLocked, step]
  | autoUnlock =>
    refine iff_of_true (kept_of_same h fun other t ht => ?_) trivial
    refine isLocked_update (fun _ => by rfl) rfl fun state _ hexpired => ?_
    rw [Bool.and_eq_true, decide_eq_true_eq] at hexpired
    refine iff_of_false (fun hlocked => by cases hlocked.1) fun hlocked => ?_
    exact absurd hexpired.2 (not_lt.mpr (ht.trans hlocked.2))
  | wait duration =>
    refine iff_of_true (fun userID => ?_) trivial
    exact (h userID).mono (Int.le_add_of_nonneg_right (Int.natCast_nonneg duration))

end LoginLockoutService

/-- **A lock lasts**, for both services, exactly where every event is in time. -/
theorem locks_last_iff (s : AccountLockoutService) (config : LockoutConfig) (clock clock' : Time)
    (events : List AccountLockoutService.Event) (events' : List LoginLockoutService.Event) :
    ((∀ r ∈ states s.step (AccountLockoutService.start clock) events, s.Kept r) ↔
      StepsOk s.step s.InTime (AccountLockoutService.start clock) events) ∧
    ((∀ r ∈ states LoginLockoutService.step (LoginLockoutService.start config clock') events',
        LoginLockoutService.Kept r) ↔
      StepsOk LoginLockoutService.step LoginLockoutService.InTime
        (LoginLockoutService.start config clock') events') := by
  constructor
  · have hassume : StepsOk s.step (fun _ _ => True) (AccountLockoutService.start clock) events :=
      stepsOk_of_forall fun _ _ => trivial
    refine forall_states_iff_stepsOk (fun r event hc _ => AccountLockoutService.Counted.step hc event)
      (fun r event hc hk _ hok => AccountLockoutService.kept_step hc hk hok) (fun _ _ hk => hk)
      (fun r event hc _ _ hk => AccountLockoutService.inTime_of_kept hc hk) ?_ ?_ hassume
    · exact fun _ _ hnone => by cases hnone
    · exact fun _ _ hnone => by cases hnone
  · refine forall_states_iff_of_step LoginLockoutService.kept_step_iff ?_
    exact fun _ _ hnone => by cases hnone

namespace Sample

def lockAfterTwo : AccountLockoutService := newAccountLockoutService 2 (900 * second)

/-- Two failures ten minutes apart, and five minutes. -/
def slowFailures : List AccountLockoutService.Event :=
  [.failure (1, "alice"), .wait 600000000000, .failure (1, "alice"), .wait 300000000000]

/-- An administrator locks a user for an hour, then he fails to log in. -/
def failureWhileLocked : List LoginLockoutService.Event :=
  [.lock "alice" (3600 * second) "leaked" "admin", .failure "alice" "10.0.0.1", .wait 120000000000]

def lockAfterOne : LockoutConfig := ⟨1, 60 * second, 0⟩

end Sample

open Sample in
/-- The counter runs out while the account has to be locked; a failure replaces a longer lock. -/
theorem unlocked_early :
    (¬ ∀ r ∈ states lockAfterTwo.step (AccountLockoutService.start 0) slowFailures,
      lockAfterTwo.Kept r) ∧
    ¬ ∀ r ∈ states LoginLockoutService.step (LoginLockoutService.start lockAfterOne 0)
      failureWhileLocked, LoginLockoutService.Kept r := by
  constructor
  · intro h
    have huntil : (run lockAfterTwo.step (AccountLockoutService.start 0) slowFailures).until?
        (1, "alice") = some (1500 * second) := by decide
    have hlocked := h _ (run_mem_states _ _) (1, "alice") _ huntil (900 * second)
      (by decide) (by decide)
    exact absurd hlocked (by decide)
  · intro h
    have huntil : (run LoginLockoutService.step (LoginLockoutService.start lockAfterOne 0)
        failureWhileLocked).until? "alice" = some (3600 * second) := by decide
    have hlocked := h _ (run_mem_states _ _) "alice" _ huntil (120 * second)
      (by decide) (by decide)
    exact absurd hlocked (by decide)

end Ggid.Auth
