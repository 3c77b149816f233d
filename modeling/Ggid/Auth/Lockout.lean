import Ggid.Auth.Credentials
import Ggid.Lib.Run
import Ggid.Lib.Threads

/-!
# Auth service — the lockout

`LocalProvider.Authenticate`, as the steps of calls that run at the same time: the credential is
read, checked, compared with the password, and what follows from the copy is written. The write
adds to the counter of the row, but sets the lock of the copy.

* `Keeps.step`               — what a copy can say about a lock, in every interleaving;
* `locks_iff`                — one write;
* `lockout_iff`              — when the lockout holds: when no write comes with a copy that is behind;
* `lockout_of_unchanged`     — in particular, when the row is as it was read.
-/

namespace Ggid.Auth

open Ggid.Go Ggid.Lib

-- ---------------------------------------------------------------------------
-- `Authenticate`
-- ---------------------------------------------------------------------------

/-- What `LocalProvider` is made with, and `VerifyPassword`. -/
structure LocalProvider where
  maxAttempts  : Int
  lockDuration : Int
  users        : List UserNames
  verify       : String → String → Option Bool

structure AuthResult where
  linkedUser : UUID
  identifier : String
  type       : String
  deriving DecidableEq

/-- Where a call is. A call that found the password wrong has its copy and the time from which it
locks; the lock is not yet written. -/
inductive Attempt where
  | start (tenantID : Option UUID) (username password : String)
  | found (cred : Credential) (password : String)
  | unlocked (cred : Credential) (password : String)
  | wrong (cred : Credential) (since : Time)
  | right (cred : Credential)
  | done (result : Except String AuthResult)
  deriving DecidableEq

/-- The table, the clock, and for each credential the wrong passwords since the last right one. -/
structure LockoutStore where
  credentials : CredentialTable
  clock       : Time
  wrong       : UUID → Int

/-- One step of a call; `answers` says whether the database does. -/
def Attempt.act (lp : LocalProvider) (now : Time) (answers : Bool) (st : LockoutStore) :
    Attempt → LockoutStore × Attempt
  | start none _ _ => (st, .done (.error "local auth requires tenant context"))
  | start (some tenantID) username password =>
    if !answers then (st, .done (.error "lookup credential"))
    else
      match st.credentials.findByIdentifier lp.users tenantID username with
      | none => (st, .done (.error ("credential not found for " ++ username)))
      | some cred => (st, .found cred password)
  | found cred password =>
    if !cred.enabled then (st, .done (.error "credential is disabled"))
    else if cred.isLocked now then
      (st, .done (.error "account is temporarily locked due to too many failed attempts"))
    else (st, .unlocked cred password)
  | unlocked cred password =>
    if lp.verify password cred.secret = some true then (st, .right cred)
    else (st, .wrong cred now)
  | wrong cred since =>
    let failed := cred.registerFailedAttempt lp.maxAttempts lp.lockDuration since
    ({ st with
        credentials := if answers then st.credentials.updateFailedAttempts cred.id
          failed.failedAttempts failed.lockedUntil else st.credentials
        wrong := Function.update st.wrong cred.id (st.wrong cred.id + 1) },
      .done (.error "invalid username or password"))
  | right cred =>
    ({ st with
        credentials := if answers then st.credentials.updateFailedAttempts cred.id 0 none
          else st.credentials
        wrong := Function.update st.wrong cred.id 0 },
      .done (.ok ⟨cred.userID, cred.identifier, cred.type⟩))
  | done result => (st, .done result)

/-- Which call goes on, and when. -/
structure AttemptStep where
  thread  : Nat
  now     : Time
  answers : Bool

namespace Lockout

def step (lp : LocalProvider) (p : Threads LockoutStore Attempt) (a : AttemptStep) :
    Threads LockoutStore Attempt :=
  p.put a.thread
    ((p.task a.thread).act lp a.now a.answers { p.store with clock := a.now })

/-- The clock does not go back. -/
def Forward (p : Threads LockoutStore Attempt) (a : AttemptStep) : Prop := p.store.clock ≤ a.now

/-- No call has begun. -/
def start (st : LockoutStore) (calls : Nat → Option UUID × String × String) :
    Threads LockoutStore Attempt :=
  ⟨st, fun t => .start (calls t).1 (calls t).2.1 (calls t).2.2⟩

/-- When a wrong attempt completes: if it is one too many the credential is locked, and a lock that
was in force is not shortened. -/
def Locks (lp : LocalProvider) (p : Threads LockoutStore Attempt) (a : AttemptStep) : Prop :=
  ∀ cred since, p.task a.thread = .wrong cred since →
    (lp.maxAttempts ≤ (step lp p a).store.wrong cred.id →
      ∀ row ∈ (step lp p a).store.credentials, row.id = cred.id → row.isLocked a.now = true) ∧
    ∀ before ∈ p.store.credentials, before.id = cred.id →
      ∀ row ∈ (step lp p a).store.credentials, row.id = cred.id →
        ∀ deadline, before.lockedUntil = some deadline → a.now < deadline →
          ∃ later, row.lockedUntil = some later ∧ deadline ≤ later

/-- A wrong attempt is written with a copy that says enough. If by the copy it is one too many, it
is written before its lock runs out and while no longer lock is in force; if not, it is not one too
many by the row either, and no lock is in force. If the write fails, it was not needed. -/
def InTime (lp : LocalProvider) (p : Threads LockoutStore Attempt) (a : AttemptStep) : Prop :=
  ∀ cred since, p.task a.thread = .wrong cred since →
    ∀ row ∈ p.store.credentials, row.id = cred.id →
      if a.answers = false then
        lp.maxAttempts ≤ p.store.wrong cred.id + 1 → row.isLocked a.now = true
      else if lp.maxAttempts ≤ cred.failedAttempts + 1 then
        (lp.maxAttempts ≤ p.store.wrong cred.id + 1 → a.now < since + lp.lockDuration) ∧
          ∀ deadline, row.lockedUntil = some deadline → a.now < deadline →
            deadline ≤ since + lp.lockDuration
      else p.store.wrong cred.id + 1 < lp.maxAttempts ∧ row.isLocked a.now = false

-- ---------------------------------------------------------------------------
-- What the copies say
-- ---------------------------------------------------------------------------

/-- Behind the check, the lock of a copy is over. -/
def CopyOk (clock : Time) : Attempt → Prop
  | .unlocked cred _ => cred.isLocked clock = false
  | .wrong cred _ => cred.isLocked clock = false
  | .start .. | .found .. | .right _ | .done _ => True

/-- What the copies of all calls can say about a lock. -/
def Keeps (p : Threads LockoutStore Attempt) : Prop := ∀ t, CopyOk p.store.clock (p.task t)

theorem isLocked_iff {cred : Credential} {now : Time} : cred.isLocked now = true ↔
    ∃ deadline, cred.lockedUntil = some deadline ∧ now < deadline := by
  unfold Credential.isLocked
  rw [Option.any_eq_true]
  simp

/-- A lock that is over stays so. -/
theorem isLocked_mono {cred : Credential} {now later : Time} (hle : now ≤ later)
    (h : cred.isLocked now = false) : cred.isLocked later = false := by
  rw [← Bool.not_eq_true, isLocked_iff] at h ⊢
  rintro ⟨deadline, hdeadline, hlater⟩
  exact h ⟨deadline, hdeadline, lt_of_le_of_lt hle hlater⟩

theorem CopyOk.mono {now later : Time} (hle : now ≤ later) {task : Attempt}
    (h : CopyOk now task) : CopyOk later task := by
  cases task with
  | start => trivial
  | found => trivial
  | unlocked => exact isLocked_mono hle h
  | wrong => exact isLocked_mono hle h
  | right => trivial
  | done => trivial

variable {lp : LocalProvider} {p : Threads LockoutStore Attempt} {a : AttemptStep}

/-- The copy a step makes. -/
theorem act_copyOk {task : Attempt} {now : Time} (answers : Bool) (st : LockoutStore)
    (h : CopyOk now task) : CopyOk now (task.act lp now answers st).2 := by
  cases task with
  | start tenantID username password =>
    cases tenantID with
    | none => trivial
    | some tenantID =>
      simp only [Attempt.act]
      cases answers with
      | false => trivial
      | true => cases st.credentials.findByIdentifier lp.users tenantID username <;> trivial
  | found cred password =>
    simp only [Attempt.act]
    split_ifs with henabled hlocked
    · trivial
    · trivial
    · show cred.isLocked now = false
      simpa using hlocked
  | unlocked cred password =>
    simp only [Attempt.act]
    split_ifs
    · trivial
    · exact h
  | wrong => trivial
  | right => trivial
  | done => trivial

theorem act_clock (task : Attempt) (now : Time) (answers : Bool) (st : LockoutStore) :
    (task.act lp now answers st).1.clock = st.clock := by
  unfold Attempt.act
  split <;> try rfl
  all_goals split_ifs <;> try rfl
  split <;> rfl

theorem Keeps.step (h : Keeps p) (hforward : Forward p a) : Keeps (step lp p a) := by
  have hcopies : ∀ t, CopyOk a.now (p.task t) := fun t => (h t).mono hforward
  have hnow : (Lockout.step lp p a).store.clock = a.now := act_clock _ _ _ _
  unfold Keeps
  rw [hnow]
  exact Threads.forall_put hcopies (fun _ hx => hx) (act_copyOk _ _ (hcopies a.thread))

theorem start_keeps (st : LockoutStore) (calls : Nat → Option UUID × String × String) :
    Keeps (start st calls) := fun _ => trivial

-- ---------------------------------------------------------------------------
-- One write
-- ---------------------------------------------------------------------------

theorem registerFailedAttempt_lockedUntil (maxAttempts lockDuration : Int) (since : Time)
    (cred : Credential) :
    (cred.registerFailedAttempt maxAttempts lockDuration since).lockedUntil =
      if maxAttempts ≤ cred.failedAttempts + 1 then some (since + lockDuration)
      else cred.lockedUntil := by
  unfold Credential.registerFailedAttempt
  dsimp only
  split_ifs <;> rfl

@[simp] theorem withAttempts_lockedUntil (attempts : Int) (lockedUntil : Option Time)
    (c : Credential) : (c.withAttempts attempts lockedUntil).lockedUntil = lockedUntil := by
  unfold Credential.withAttempts
  split_ifs <;> rfl

theorem mem_updateFailedAttempts {t : CredentialTable} {id : UUID} {attempts : Int}
    {lockedUntil : Option Time} {row : Credential} :
    row ∈ t.updateFailedAttempts id attempts lockedUntil ↔
      (∃ before ∈ t, before.id = id ∧ row = before.withAttempts attempts lockedUntil) ∨
        (row ∈ t ∧ row.id ≠ id) := by
  have hmem := @Table.mem_update _ _ _ t (fun c => c.id = id)
    (Credential.withAttempts attempts lockedUntil) (by simp) row
  rw [CredentialTable.updateFailedAttempts, hmem]
  simp only [decide_eq_true_eq, decide_eq_false_iff_not, ne_eq]

section Write

variable {cred : Credential} {since : Time}

/-- What the write of a wrong attempt makes of the row. -/
def written (lp : LocalProvider) (a : AttemptStep) (cred : Credential) (since : Time)
    (row : Credential) : Credential :=
  let failed := cred.registerFailedAttempt lp.maxAttempts lp.lockDuration since
  if a.answers then row.withAttempts failed.failedAttempts failed.lockedUntil else row

theorem step_wrong (htask : p.task a.thread = .wrong cred since) :
    (step lp p a).store.wrong cred.id = p.store.wrong cred.id + 1 := by
  simp [step, htask, Attempt.act]

theorem mem_step_wrong (htask : p.task a.thread = .wrong cred since) {row : Credential} :
    (row ∈ (step lp p a).store.credentials ∧ row.id = cred.id) ↔
      ∃ before ∈ p.store.credentials, before.id = cred.id ∧ row = written lp a cred since before := by
  have hstore : (step lp p a).store.credentials =
      if a.answers then p.store.credentials.updateFailedAttempts cred.id
        (cred.registerFailedAttempt lp.maxAttempts lp.lockDuration since).failedAttempts
        (cred.registerFailedAttempt lp.maxAttempts lp.lockDuration since).lockedUntil
      else p.store.credentials := by
    simp [step, htask, Attempt.act]
  rw [hstore]
  unfold written
  cases a.answers with
  | false =>
    constructor
    · exact fun ⟨hrow, hid⟩ => ⟨row, hrow, hid, rfl⟩
    · rintro ⟨before, hbefore, hid, rfl⟩
      exact ⟨hbefore, hid⟩
  | true =>
    rw [if_pos rfl, mem_updateFailedAttempts]
    constructor
    · rintro ⟨⟨before, hbefore, hid, rfl⟩ | ⟨-, hne⟩, hid'⟩
      · exact ⟨before, hbefore, hid, rfl⟩
      · exact absurd hid' hne
    · rintro ⟨before, hbefore, hid, rfl⟩
      exact ⟨.inl ⟨before, hbefore, hid, rfl⟩, by simpa using hid⟩

/-- What is asked of the row that is written. -/
theorem locks_iff_written : Locks lp p a ↔
    ∀ cred since, p.task a.thread = .wrong cred since →
      ∀ before ∈ p.store.credentials, before.id = cred.id →
        (lp.maxAttempts ≤ p.store.wrong cred.id + 1 →
          (written lp a cred since before).isLocked a.now = true) ∧
        ∀ deadline, before.lockedUntil = some deadline → a.now < deadline →
          ∃ later, (written lp a cred since before).lockedUntil = some later ∧ deadline ≤ later := by
  refine forall_congr' fun cred => forall_congr' fun since => forall_congr' fun htask => ?_
  rw [step_wrong htask]
  constructor
  · rintro ⟨hlocked, hkept⟩ before hbefore hid
    obtain ⟨hrow, hrowid⟩ := (@mem_step_wrong lp p a cred since htask _).mpr
      ⟨before, hbefore, hid, rfl⟩
    exact ⟨fun hmany => hlocked hmany _ hrow hrowid, hkept before hbefore hid _ hrow hrowid⟩
  · intro hall
    refine ⟨fun hmany row hrow hid => ?_, fun before hbefore hid row hrow hrowid => ?_⟩
    · obtain ⟨before, hbefore, hbeforeid, rfl⟩ := (mem_step_wrong htask).mp ⟨hrow, hid⟩
      exact (hall before hbefore hbeforeid).1 hmany
    · obtain ⟨before', hbefore', hid', rfl⟩ := (mem_step_wrong htask).mp ⟨hrow, hrowid⟩
      rw [p.store.credentials.eq_of_key hbefore' hbefore (hid'.trans hid.symm)]
      exact (hall before hbefore hid).2

/-- The lock that is written is the one of the copy. -/
theorem written_lockedUntil (hanswers : a.answers = true) (row : Credential) :
    (written lp a cred since row).lockedUntil =
      if lp.maxAttempts ≤ cred.failedAttempts + 1 then some (since + lp.lockDuration)
      else cred.lockedUntil := by
  unfold written
  rw [if_pos hanswers, withAttempts_lockedUntil, registerFailedAttempt_lockedUntil]

/-- **One write.** -/
theorem locks_iff (h : Keeps p) (hforward : Forward p a) : Locks lp p a ↔ InTime lp p a := by
  rw [locks_iff_written]
  refine forall_congr' fun cred => forall_congr' fun since => forall_congr' fun htask =>
    forall_congr' fun row => forall_congr' fun _ => forall_congr' fun _ => ?_
  have hover : cred.isLocked a.now = false := by
    have hcopy := h a.thread
    rw [htask] at hcopy
    exact isLocked_mono hforward hcopy
  cases hanswers : a.answers with
  | false =>
    have hsame : written lp a cred since row = row := by simp [written, hanswers]
    rw [hsame, if_pos rfl]
    exact and_iff_left fun deadline hdeadline _ => ⟨deadline, hdeadline, le_refl deadline⟩
  | true =>
    rw [isLocked_iff, written_lockedUntil hanswers row]
    simp only [Bool.true_eq_false, if_false]
    by_cases hmany : lp.maxAttempts ≤ cred.failedAttempts + 1
    · simp [hmany]
    · simp only [hmany, if_false]
      -- the lock of the copy is over, so it can only stand for no lock
      have hnone : ¬ ∃ deadline, cred.lockedUntil = some deadline ∧ a.now < deadline := by
        rw [← isLocked_iff, hover]
        simp
      refine and_congr ?_ ?_
      · rw [← not_le]
        exact imp_iff_not hnone
      · rw [← Bool.not_eq_true, isLocked_iff]
        constructor
        · rintro hkept ⟨deadline, hdeadline, hforce⟩
          obtain ⟨later, hlater, hle⟩ := hkept deadline hdeadline hforce
          exact hnone ⟨later, hlater, lt_of_lt_of_le hforce hle⟩
        · exact fun hfree deadline hdeadline hforce => absurd ⟨deadline, hdeadline, hforce⟩ hfree

end Write

-- ---------------------------------------------------------------------------
-- Runs
-- ---------------------------------------------------------------------------

/-- **The lockout holds** in a run exactly if every wrong attempt is written in time. -/
theorem lockout_iff (lp : LocalProvider) (st : LockoutStore)
    (calls : Nat → Option UUID × String × String) {steps : List AttemptStep}
    (hforward : StepsOk (step lp) Forward (start st calls) steps) :
    StepsOk (step lp) (Locks lp) (start st calls) steps ↔
      StepsOk (step lp) (InTime lp) (start st calls) steps := by
  constructor
  · intro hlocks
    exact stepsOk_of_invariant (fun p a h hok => Keeps.step h hok.1)
      (fun p a h hok => (locks_iff h hok.1).mp hok.2) (start_keeps st calls) (hforward.and hlocks)
  · intro hintime
    exact stepsOk_of_invariant (fun p a h hok => Keeps.step h hok.1)
      (fun p a h hok => (locks_iff h hok.1).mpr hok.2) (start_keeps st calls) (hforward.and hintime)

/-- A wrong attempt is written while the row is as it was read, and before its lock runs out. -/
def Unchanged (lp : LocalProvider) (p : Threads LockoutStore Attempt) (a : AttemptStep) : Prop :=
  a.answers = true ∧ ∀ cred since, p.task a.thread = .wrong cred since →
    (∀ row ∈ p.store.credentials, row.id = cred.id → row = cred) ∧
      p.store.wrong cred.id = cred.failedAttempts ∧ a.now < since + lp.lockDuration

theorem Unchanged.inTime (h : Keeps p) (hforward : Forward p a) (hsame : Unchanged lp p a) :
    InTime lp p a := by
  intro cred since htask row hrow hid
  obtain ⟨hanswers, hall⟩ := hsame
  obtain ⟨hrows, hwrong, hbefore⟩ := hall cred since htask
  have hover : row.isLocked a.now = false := by
    have hcopy := h a.thread
    rw [htask] at hcopy
    rw [hrows row hrow hid]
    exact isLocked_mono hforward hcopy
  simp only [hanswers, Bool.true_eq_false, if_false]
  split_ifs with hmany
  · refine ⟨fun _ => hbefore, fun deadline hdeadline hforce => ?_⟩
    rw [← Bool.not_eq_true, isLocked_iff] at hover
    exact absurd ⟨deadline, hdeadline, hforce⟩ hover
  · exact ⟨by omega, hover⟩

/-- **Attempts that do not overlap** are locked out. -/
theorem lockout_of_unchanged (lp : LocalProvider) (st : LockoutStore)
    (calls : Nat → Option UUID × String × String) {steps : List AttemptStep}
    (hforward : StepsOk (step lp) Forward (start st calls) steps)
    (hsame : StepsOk (step lp) (Unchanged lp) (start st calls) steps) :
    StepsOk (step lp) (Locks lp) (start st calls) steps := by
  refine (lockout_iff lp st calls hforward).mpr ?_
  exact stepsOk_of_invariant (fun p a h hok => Keeps.step h hok.1)
    (fun p a h hok => hok.2.inTime h hok.1) (start_keeps st calls) (hforward.and hsame)

end Lockout

namespace Sample

/-- A limit of two attempts. -/
def twoAttempts : LocalProvider where
  maxAttempts := 2
  lockDuration := 900 * second
  users := []
  verify := fun password secret => some (password == secret)

def oneCredential : LockoutStore where
  credentials := ⟨[⟨3, 1, 7, "password", "ann", "autumn", true, 0, none⟩], by decide⟩
  clock := 0
  wrong := fun _ => 0

def wrongCalls : Nat → Option UUID × String × String := fun _ => (some 1, "ann", "spring")

def turn (thread : Nat) (now : Time) : AttemptStep := ⟨thread, now, true⟩

/-- Two calls that read the credential before either writes, up to the last write. -/
def overlapping : List AttemptStep :=
  [turn 0 1, turn 1 1, turn 0 2, turn 1 2, turn 0 3, turn 1 3, turn 0 4]

end Sample

open Sample Lockout in
/-- Two wrong attempts overlap, and the credential is not locked. -/
theorem overlapping_not_locked :
    StepsOk (step twoAttempts) Forward (start oneCredential wrongCalls) (overlapping ++ [turn 1 4]) ∧
    ¬ StepsOk (step twoAttempts) (Locks twoAttempts) (start oneCredential wrongCalls)
      (overlapping ++ [turn 1 4]) := by
  have htask : (run (step twoAttempts) (start oneCredential wrongCalls) overlapping).task 1 =
      .wrong ⟨3, 1, 7, "password", "ann", "autumn", true, 0, none⟩ 3 := by decide
  have hrows : (step twoAttempts (run (step twoAttempts) (start oneCredential wrongCalls)
      overlapping) (turn 1 4)).store.credentials.rows =
        [⟨3, 1, 7, "password", "ann", "autumn", true, 2, none⟩] := by decide
  refine ⟨?_, fun h => ?_⟩
  · unfold Forward
    decide
  · have hlocked := (h.of_append.1 _ _ htask).1 (by decide)
      ⟨3, 1, 7, "password", "ann", "autumn", true, 2, none⟩
      (by rw [Table.mem_def, hrows]; exact List.mem_singleton_self _) rfl
    exact absurd hlocked (by decide)

open Sample Lockout in
/-- One wrong attempt of two, until it is known to be wrong. -/
theorem lockout_iff_sample :
    StepsOk (step twoAttempts) (Locks twoAttempts) (start oneCredential wrongCalls)
      [turn 0 1, turn 0 2, turn 0 3, turn 0 4] := by
  have hrow : ∀ row ∈ oneCredential.credentials, row.isLocked 4 = false := by decide
  have htask : (run (step twoAttempts) (start oneCredential wrongCalls)
      [turn 0 1, turn 0 2, turn 0 3]).task 0 =
        .wrong ⟨3, 1, 7, "password", "ann", "autumn", true, 0, none⟩ 3 := by decide
  refine (lockout_iff twoAttempts oneCredential wrongCalls ?_).mpr ⟨?_, ?_, ?_, ?_, trivial⟩
  · unfold Forward
    decide
  · intro cred since hwrong
    cases hwrong
  · intro cred since hwrong
    cases hwrong
  · intro cred since hwrong
    cases hwrong
  · intro cred since hwrong
    cases htask.symm.trans hwrong
    intro row hrow' _
    exact ⟨by decide, hrow row hrow'⟩

end Ggid.Auth
