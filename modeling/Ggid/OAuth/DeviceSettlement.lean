import Ggid.Lib.Run
import Ggid.OAuth.Device

/-!
# OAuth service — how a device code is settled

A poll checks under the lock that the code is approved, issues the token outside it,
and deletes the code under the lock again, so two polls can both pass the check.
Approving and denying do not look at the status the code has.

* `device_code_settled_once`  — at most one poll returns tokens for a code, and an
  approved or denied code keeps its status and user, in every interleaving in which
  no poll passes its check while another is about to delete the code, and no
  decision is taken back;
* `device_code_unsettled`  — two polls return tokens for one code; an approved code
  is denied, and then approved for another user.
-/

namespace Ggid.OAuth

open Ggid.Go Ggid.Policy Ggid.Lib

-- ---------------------------------------------------------------------------
-- What an action does to an entry
-- ---------------------------------------------------------------------------

/-- The entry that approving a user code changes. -/
structure Approvable (now : Time) (st : DeviceStore) (userCode : String) (userID tenantID : UUID)
    (info : DeviceCodeInfo) : Prop where
  user   : userID ≠ UUID.nil
  found  : lookupUserCode st userCode = .ok info
  fresh  : ¬ info.expiresAt < now
  tenant : tenantMismatch info tenantID = false

/-- The entry that denying a user code changes. -/
structure Deniable (now : Time) (st : DeviceStore) (userCode : String) (info : DeviceCodeInfo) :
    Prop where
  found : lookupUserCode st userCode = .ok info
  fresh : ¬ info.expiresAt < now

/-- Status and user are as before. -/
def SameDecision (info info' : DeviceCodeInfo) : Prop :=
  info'.status = info.status ∧ info'.userID = info.userID

/-- How an action can change an entry. -/
inductive EntryChange (now : Time) (st : DeviceStore) (task : DeviceTask)
    (info info' : DeviceCodeInfo) : Prop where
  | kept (same : SameDecision info info')
  | approved {userCode : String} {userID tenantID : UUID}
      (call : task = .approve userCode userID tenantID)
      (target : Approvable now st userCode userID tenantID info)
      (status : info'.status = .approved) (user : info'.userID = some userID)
  | denied {userCode : String} (call : task = .deny userCode)
      (target : Deniable now st userCode info)
      (status : info'.status = .denied) (user : info'.userID = info.userID)

section Entry

variable {env : DeviceEnv} {st : DeviceStore} {code : String} {info info' : DeviceCodeInfo}

theorem lookupUserCode_find {userCode : String} (h : lookupUserCode st userCode = .ok info) :
    st.codes.find? info.deviceCode = some info := by
  unfold lookupUserCode at h
  split at h
  · exact absurd h (by simp)
  · split at h
    · exact absurd h (by simp)
    · rename_i deviceCode _ found hfound
      rw [Except.ok.injEq] at h
      subst h
      rw [(Table.find?_eq_some_iff.mp hfound).2]
      exact hfound

/-- The entry with the code of the one a user code leads to is that one. -/
theorem eq_target {userCode : String} {target : DeviceCodeInfo}
    (hlookup : lookupUserCode st userCode = .ok target) (hfind : st.codes.find? code = some info)
    (hcode : info.deviceCode = target.deviceCode) : info = target :=
  Table.eq_of_key (Table.find?_eq_some_iff.mp hfind).1
    (Table.find?_eq_some_iff.mp (lookupUserCode_find hlookup)).1 hcode

theorem remove_find {deviceCode userCode : String}
    (h : (st.remove deviceCode userCode).codes.find? code = some info') :
    st.codes.find? code = some info' ∧ code ≠ deviceCode := by
  obtain ⟨hfind, hne⟩ := Table.find?_delete_eq_some h
  refine ⟨hfind, ?_⟩
  rintro rfl
  rw [(Table.find?_eq_some_iff.mp hfind).2] at hne
  simp at hne

theorem modify_find {deviceCode : String} {f : DeviceCodeInfo → DeviceCodeInfo}
    {hf : ∀ info, (f info).deviceCode = info.deviceCode}
    (h : (st.modify deviceCode f hf).codes.find? code = some info') :
    ∃ info, st.codes.find? code = some info ∧
      (info.deviceCode = deviceCode ∧ info' = f info ∨ info' = info) := by
  obtain ⟨info, hfind, ⟨hcode, hinfo⟩ | ⟨-, hinfo⟩⟩ := Table.find?_update_eq_some hf h
  · exact ⟨info, hfind, Or.inl ⟨of_decide_eq_true hcode, hinfo⟩⟩
  · exact ⟨info, hfind, Or.inr hinfo⟩

theorem remove_find_self (st : DeviceStore) (deviceCode userCode : String) :
    (st.remove deviceCode userCode).codes.find? deviceCode = none := by
  cases h : (st.remove deviceCode userCode).codes.find? deviceCode with
  | none => rfl
  | some info => exact absurd rfl (remove_find h).2

/-- A poll never touches status or user. -/
theorem pollAct_entry {req : PollRequest} {phase : PollPhase}
    (h : (pollAct env req st phase).1.codes.find? code = some info') :
    ∃ info, st.codes.find? code = some info ∧ SameDecision info info' := by
  have hkeep : st.codes.find? code = some info' →
      ∃ info, st.codes.find? code = some info ∧ SameDecision info info' :=
    fun hfind => ⟨info', hfind, rfl, rfl⟩
  cases phase with
  | read =>
    simp only [pollAct] at h
    split at h <;> exact hkeep h
  | deleteExpired userCode => exact hkeep (remove_find h).1
  | markPending lastPoll =>
    simp only [pollAct] at h
    split at h
    · exact hkeep h
    · obtain ⟨info, hfind, ⟨-, rfl⟩ | rfl⟩ := modify_find h
      · exact ⟨info, hfind, rfl, rfl⟩
      · exact hkeep hfind
  | recheck tenantID =>
    simp only [pollAct] at h
    split at h <;> exact hkeep h
  | issue tenantID userID scope userCode =>
    simp only [pollAct] at h
    split at h
    · exact hkeep h
    · exact hkeep (remove_find h).1
  | returned result => exact hkeep h
  | panicked => exact hkeep h

/-- No action makes an entry, and only approving and denying decide one. -/
theorem deviceAct_entry {task : DeviceTask}
    (h : (deviceAct env st task).1.codes.find? code = some info') :
    ∃ info, st.codes.find? code = some info ∧ EntryChange env.now st task info info' := by
  have hkeep : st.codes.find? code = some info' →
      ∃ info, st.codes.find? code = some info ∧ EntryChange env.now st task info info' :=
    fun hfind => ⟨info', hfind, .kept ⟨rfl, rfl⟩⟩
  cases task with
  | poll req phase =>
    obtain ⟨info, hfind, hsame⟩ := pollAct_entry h
    exact ⟨info, hfind, .kept hsame⟩
  | approve userCode userID tenantID =>
    simp only [deviceAct, approveDeviceCode] at h
    split at h
    · exact hkeep h
    rename_i huser
    split at h
    · exact hkeep h
    rename_i target hlookup
    split at h
    · exact hkeep (remove_find h).1
    rename_i hfresh
    split at h
    · exact hkeep h
    rename_i htenant
    obtain ⟨info, hfind, ⟨hcode, rfl⟩ | rfl⟩ := modify_find h
    · -- the entry with the target's code is the target
      obtain rfl : info = target := eq_target hlookup hfind hcode
      exact ⟨info, hfind, .approved rfl ⟨huser, hlookup, hfresh, by simpa using htenant⟩ rfl rfl⟩
    · exact hkeep hfind
  | deny userCode =>
    simp only [deviceAct, denyDeviceCode] at h
    split at h
    · exact hkeep h
    rename_i target hlookup
    split at h
    · exact hkeep (remove_find h).1
    rename_i hfresh
    obtain ⟨info, hfind, ⟨hcode, rfl⟩ | rfl⟩ := modify_find h
    · obtain rfl : info = target := eq_target hlookup hfind hcode
      exact ⟨info, hfind, .denied rfl ⟨hlookup, hfresh⟩ rfl rfl⟩
    · exact hkeep hfind
  | sweep => exact hkeep (Table.find?_delete_eq_some h).1
  | answered result => exact hkeep h

end Entry

-- ---------------------------------------------------------------------------
-- Who gets the tokens of a code
-- ---------------------------------------------------------------------------

/-- The poll has passed its check of the code and has not deleted it yet. -/
def DeviceTask.holdsCopy (code : String) : DeviceTask → Bool
  | .poll req (.issue ..) => req.deviceCode = code
  | _ => false

/-- The poll has returned tokens for the code. -/
def DeviceTask.returnedTokens (code : String) : DeviceTask → Bool
  | .poll req (.returned (.ok _)) => req.deviceCode = code
  | _ => false

/-- The poll will return tokens for the code, unless signing fails, or has done so. -/
def DeviceTask.claims (code : String) (task : DeviceTask) : Bool :=
  task.holdsCopy code || task.returnedTokens code

section Claim

variable {env : DeviceEnv} {st : DeviceStore} {code : String} {req : PollRequest}

@[simp] theorem claims_issue (tenantID userID : UUID) (scope : List String) (userCode : String) :
    (DeviceTask.poll req (.issue tenantID userID scope userCode)).claims code =
      decide (req.deviceCode = code) := by
  simp [DeviceTask.claims, DeviceTask.holdsCopy, DeviceTask.returnedTokens]

@[simp] theorem claims_error (err : GGIDError) :
    (DeviceTask.poll req (.returned (.error err))).claims code = false := rfl

theorem holdsCopy_iff {task : DeviceTask} :
    task.holdsCopy code = true ↔ ∃ req tenantID userID scope userCode,
      task = .poll req (.issue tenantID userID scope userCode) ∧ req.deviceCode = code := by
  constructor
  · intro h
    unfold DeviceTask.holdsCopy at h
    split at h
    · exact ⟨_, _, _, _, _, rfl, of_decide_eq_true h⟩
    · exact absurd h (by simp)
  · rintro ⟨req, tenantID, userID, scope, userCode, rfl, hcode⟩
    exact decide_eq_true hcode

theorem afterRead_claims (info : DeviceCodeInfo) :
    (DeviceTask.poll req (afterRead env req info)).claims code = false := by
  unfold afterRead
  split
  · rfl
  split
  · rfl
  split
  · rfl
  · rfl
  · split <;> rfl
  · rfl

theorem afterRecheck_claims {tenantID : UUID} {info : DeviceCodeInfo}
    (h : (DeviceTask.poll req (afterRecheck tenantID info)).claims code = true) :
    req.deviceCode = code ∧ info.status = .approved := by
  unfold afterRecheck at h
  split at h
  · exact absurd h (by simp)
  rename_i hstatus
  split at h
  · exact ⟨by simpa using h, by simpa using hstatus⟩
  · exact absurd h Bool.false_ne_true

theorem afterRecheck_returned (tenantID : UUID) (info : DeviceCodeInfo) :
    (DeviceTask.poll req (afterRecheck tenantID info)).returnedTokens code = false := by
  unfold afterRecheck
  split
  · rfl
  · split <;> rfl

/-- A poll comes to claim a code only by finding it approved at its second look. -/
theorem deviceAct_claims {task : DeviceTask}
    (h : (deviceAct env st task).2.claims code = true) :
    task.claims code = true ∨
      ∃ req tenantID info, task = .poll req (.recheck tenantID) ∧ req.deviceCode = code ∧
        st.codes.find? code = some info ∧ info.status = .approved := by
  cases task with
  | poll req phase =>
    cases phase with
    | read =>
      simp only [deviceAct, pollAct] at h
      split at h
      · exact absurd h (by simp)
      · rw [afterRead_claims] at h
        exact absurd h (by simp)
    | deleteExpired userCode => exact absurd h Bool.false_ne_true
    | markPending lastPoll =>
      simp only [deviceAct, pollAct] at h
      split at h <;> exact absurd h (by simp)
    | recheck tenantID =>
      simp only [deviceAct, pollAct] at h
      split at h
      · exact absurd h (by simp)
      · rename_i info hfind
        obtain ⟨rfl, hstatus⟩ := afterRecheck_claims h
        exact Or.inr ⟨req, tenantID, info, rfl, rfl, hfind, hstatus⟩
    | issue tenantID userID scope userCode =>
      left
      simp only [deviceAct, pollAct] at h
      split at h
      · exact absurd h (by simp)
      · rw [claims_issue]
        exact h
    | returned result => exact Or.inl h
    | panicked => exact Or.inl h
  | approve userCode userID tenantID => exact absurd h Bool.false_ne_true
  | deny userCode => exact absurd h Bool.false_ne_true
  | sweep => exact absurd h Bool.false_ne_true
  | answered result => exact Or.inl h

/-- A poll that returns tokens has just deleted the code, or returned before. -/
theorem deviceAct_returned {task : DeviceTask}
    (h : (deviceAct env st task).2.returnedTokens code = true) :
    task.returnedTokens code = true ∨ (deviceAct env st task).1.codes.find? code = none := by
  have hclaims : (deviceAct env st task).2.claims code = true := by
    simp [DeviceTask.claims, h]
  rcases deviceAct_claims hclaims with hold | ⟨req, tenantID, info, rfl, rfl, hfind, -⟩
  · rcases Bool.or_eq_true_iff.mp hold with hcopy | hreturned
    · obtain ⟨req, tenantID, userID, scope, userCode, rfl, rfl⟩ := holdsCopy_iff.mp hcopy
      right
      simp only [deviceAct, pollAct] at h ⊢
      split at h
      · exact absurd h Bool.false_ne_true
      · rename_i hsign
        rw [if_neg hsign]
        exact remove_find_self st req.deviceCode userCode
    · exact Or.inl hreturned
  · -- the second look copies the entry and returns nothing yet
    simp only [deviceAct, pollAct, hfind] at h
    rw [afterRecheck_returned] at h
    exact absurd h (by simp)

end Claim

-- ---------------------------------------------------------------------------
-- Interleavings
-- ---------------------------------------------------------------------------

/-- A poll passes its check of a code only while no other poll is about to delete it;
a code is approved only if it is not denied or approved for another user, and denied
only if it is not approved. -/
structure Orderly (p : Threads DeviceStore DeviceTask) (e : Nat × DeviceEnv) : Prop where
  recheck : ∀ req tenantID info, p.task e.1 = .poll req (.recheck tenantID) →
    p.store.codes.find? req.deviceCode = some info → info.status = .approved →
      ∀ u, (p.task u).holdsCopy req.deviceCode = false
  approve : ∀ userCode userID tenantID info, p.task e.1 = .approve userCode userID tenantID →
    Approvable e.2.now p.store userCode userID tenantID info →
      info.status ≠ .denied ∧ (info.status = .approved → info.userID = some userID)
  deny : ∀ userCode info, p.task e.1 = .deny userCode →
    Deniable e.2.now p.store userCode info → info.status ≠ .approved

/-- One poll at most claims the code, and once it has returned the code is gone. -/
structure SingleIssue (code : String) (p : Threads DeviceStore DeviceTask) : Prop where
  unique : ∀ u v, (p.task u).claims code = true → (p.task v).claims code = true → u = v
  gone   : ∀ u, (p.task u).returnedTokens code = true → p.store.codes.find? code = none

section Interleaving

variable {p : Threads DeviceStore DeviceTask} {e : Nat × DeviceEnv} {code : String}

/-- An action that comes to claim the code finds it unclaimed. -/
theorem unclaimed_of_recheck (hp : SingleIssue code p) (hok : Orderly p e) {req : PollRequest}
    {tenantID : UUID} {info : DeviceCodeInfo}
    (htask : p.task e.1 = .poll req (.recheck tenantID)) (hcode : req.deviceCode = code)
    (hfind : p.store.codes.find? code = some info) (hstatus : info.status = .approved) (u : Nat) :
    (p.task u).claims code = false := by
  subst hcode
  have hcopy := hok.recheck req tenantID info htask hfind hstatus u
  have hreturned : (p.task u).returnedTokens req.deviceCode = false := by
    by_contra hret
    have hnone := hp.gone u (by simpa using hret)
    rw [hfind] at hnone
    exact absurd hnone (by simp)
  rw [DeviceTask.claims, hcopy, hreturned]
  rfl

/-- If the acting call claims the code afterwards, no other call does. -/
theorem acting_claims_alone (hp : SingleIssue code p) (hok : Orderly p e)
    (hclaims : (deviceAct e.2 p.store (p.task e.1)).2.claims code = true) {v : Nat}
    (hv : (p.task v).claims code = true) : v = e.1 := by
  rcases deviceAct_claims hclaims with hold | ⟨req, tenantID, info, htask, hcode, hfind, hstatus⟩
  · exact hp.unique v e.1 hv hold
  · rw [unclaimed_of_recheck hp hok htask hcode hfind hstatus v] at hv
    exact absurd hv (by simp)

theorem singleIssue_step (hp : SingleIssue code p) (hok : Orderly p e) :
    SingleIssue code (deviceStep p e) := by
  refine ⟨?_, ?_⟩
  · intro u v hu hv
    unfold deviceStep at hu hv
    by_cases hut : u = e.1
    · by_cases hvt : v = e.1
      · rw [hut, hvt]
      · rw [hut, Threads.put_task_self] at hu
        rw [Threads.put_task_of_ne p _ hvt] at hv
        exact absurd (acting_claims_alone hp hok hu hv) hvt
    · rw [Threads.put_task_of_ne p _ hut] at hu
      by_cases hvt : v = e.1
      · rw [hvt, Threads.put_task_self] at hv
        exact absurd (acting_claims_alone hp hok hv hu) hut
      · rw [Threads.put_task_of_ne p _ hvt] at hv
        exact hp.unique u v hu hv
  · intro u hu
    -- an entry that is gone does not come back
    have hstays : p.store.codes.find? code = none →
        (deviceStep p e).store.codes.find? code = none := by
      intro hnone
      cases hfind : (deviceStep p e).store.codes.find? code with
      | none => rfl
      | some info' =>
        obtain ⟨info, hold, -⟩ := deviceAct_entry hfind
        rw [hnone] at hold
        exact absurd hold (by simp)
    unfold deviceStep at hu
    by_cases hut : u = e.1
    · rw [hut, Threads.put_task_self] at hu
      rcases deviceAct_returned hu with hold | hnone
      · exact hstays (hp.gone e.1 hold)
      · exact hnone
    · rw [Threads.put_task_of_ne p _ hut] at hu
      exact hstays (hp.gone u hu)

/-- A code that is approved or denied keeps its status and user. -/
theorem sameDecision_step {info : DeviceCodeInfo}
    (hdecided : info.status = .approved ∨ info.status = .denied)
    (hp : ∀ info', p.store.codes.find? code = some info' → SameDecision info info')
    (hok : Orderly p e) :
    ∀ info', (deviceStep p e).store.codes.find? code = some info' → SameDecision info info' := by
  intro info' hfind
  obtain ⟨before, hbefore, hchange⟩ := deviceAct_entry hfind
  obtain ⟨hstatus, huser⟩ := hp before hbefore
  cases hchange with
  | kept same => exact ⟨same.1.trans hstatus, same.2.trans huser⟩
  | approved call target status user =>
    obtain ⟨hnotDenied, hsameUser⟩ := hok.approve _ _ _ before call target
    have happroved : before.status = .approved := by
      rcases hdecided with h | h
      · exact hstatus.trans h
      · exact absurd (hstatus.trans h) hnotDenied
    refine ⟨?_, ?_⟩
    · rw [status, ← hstatus, happroved]
    · rw [user, ← huser, hsameUser happroved]
  | denied call target status user =>
    have hnotApproved := hok.deny _ before call target
    have hdenied : before.status = .denied := by
      rcases hdecided with h | h
      · exact absurd (hstatus.trans h) hnotApproved
      · exact hstatus.trans h
    refine ⟨?_, user.trans huser⟩
    rw [status, ← hstatus, hdenied]

end Interleaving

/-- **A device code is settled once.** Whatever codes there are and whatever polls,
approvals, denials and sweeps run at the same time, in every interleaving whose steps
are orderly at most one poll returns tokens for a code, and from the moment a code is
approved or denied its status and its user are the same as long as it exists. -/
theorem device_code_settled_once (st : DeviceStore) (calls : Nat → DeviceCall)
    (events : List (Nat × DeviceEnv))
    (hok : StepsOk deviceStep Orderly (deviceStart st calls) events) (code : String) :
    (∀ p ∈ states deviceStep (deviceStart st calls) events, ∀ u v,
      (p.task u).returnedTokens code = true → (p.task v).returnedTokens code = true → u = v) ∧
    (∀ before after, events = before ++ after →
      ∀ info, (run deviceStep (deviceStart st calls) before).store.codes.find? code = some info →
        info.status = .approved ∨ info.status = .denied →
          ∀ p ∈ states deviceStep (run deviceStep (deviceStart st calls) before) after,
            ∀ info', p.store.codes.find? code = some info' →
              info'.status = info.status ∧ info'.userID = info.userID) := by
  refine ⟨?_, ?_⟩
  · have hnew : ∀ u, ((deviceStart st calls).task u).claims code = false := by
      intro u
      show (calls u).task.claims code = false
      cases calls u <;> rfl
    have hinit : SingleIssue code (deviceStart st calls) := by
      refine ⟨fun u v hu => ?_, fun u hu => ?_⟩
      · rw [hnew u] at hu
        exact absurd hu (by simp)
      · have hclaims := hnew u
        rw [DeviceTask.claims, hu, Bool.or_true] at hclaims
        exact absurd hclaims (by simp)
    intro p hp u v hu hv
    have hsingle := invariant_states (fun _ _ => singleIssue_step) hinit hok p hp
    exact hsingle.unique u v (by simp [DeviceTask.claims, hu]) (by simp [DeviceTask.claims, hv])
  · rintro before after rfl info hinfo hdecided
    have hinit : ∀ info', (run deviceStep (deviceStart st calls) before).store.codes.find? code =
        some info' → SameDecision info info' := by
      intro info' hinfo'
      obtain rfl : info = info' := Option.some.inj (hinfo.symm.trans hinfo')
      exact ⟨rfl, rfl⟩
    exact invariant_states (fun _ _ => sameDecision_step hdecided) hinit hok.of_append

-- ---------------------------------------------------------------------------
-- One code, several calls
-- ---------------------------------------------------------------------------

/-- While every code is pending, any step is orderly. -/
theorem orderly_of_pending {p : Threads DeviceStore DeviceTask} {e : Nat × DeviceEnv}
    (h : ∀ info ∈ p.store.codes, info.status = .pending) : Orderly p e where
  recheck := by
    intro req tenantID info _ hfind hstatus
    rw [h info (Table.find?_eq_some_iff.mp hfind).1] at hstatus
    exact absurd hstatus (by simp)
  approve := by
    intro userCode userID tenantID info _ htarget
    have hmem := (Table.find?_eq_some_iff.mp (lookupUserCode_find htarget.found)).1
    rw [h info hmem]
    simp
  deny := by
    intro userCode info _ htarget
    have hmem := (Table.find?_eq_some_iff.mp (lookupUserCode_find htarget.found)).1
    rw [h info hmem]
    simp

/-- A poll's step is orderly if no other poll is about to delete its code. -/
theorem orderly_of_poll {p : Threads DeviceStore DeviceTask} {e : Nat × DeviceEnv}
    {req : PollRequest} {phase : PollPhase} (htask : p.task e.1 = .poll req phase)
    (hcopy : ∀ u, (p.task u).holdsCopy req.deviceCode = false ∨ u = e.1) : Orderly p e where
  recheck := by
    intro req' tenantID info htask' _ _ u
    rw [htask] at htask'
    obtain ⟨rfl, rfl⟩ := DeviceTask.poll.inj htask'
    rcases hcopy u with h | rfl
    · exact h
    · rw [htask]
      rfl
  approve := by
    intro userCode userID tenantID info htask'
    rw [htask] at htask'
    exact absurd htask' (by simp)
  deny := by
    intro userCode info htask'
    rw [htask] at htask'
    exact absurd htask' (by simp)

namespace Sample

def deviceInfo : DeviceCodeInfo :=
  ⟨"dev-1", "ABCD-2345", "tv", 1#128, none, ["openid"], .pending, 0, 15 * minute, none⟩

def deviceStore : DeviceStore where
  codes := ⟨[deviceInfo], by simp⟩
  index := fun userCode => if userCode = "ABCD-2345" then some "dev-1" else none

/-- Two users, two polls and a denial. -/
def deviceCalls : Nat → DeviceCall
  | 0 => .approve "ABCD-2345" 2#128 1#128
  | 1 => .poll ⟨"dev-1", "tv"⟩
  | 2 => .poll ⟨"dev-1", "tv"⟩
  | 3 => .deny "ABCD-2345"
  | 4 => .approve "ABCD-2345" 7#128 1#128
  | _ => .sweep

def deviceRun (schedule : List Nat) : Threads DeviceStore DeviceTask :=
  run deviceStep (deviceStart deviceStore deviceCalls) (schedule.map fun t => (t, ⟨1, false⟩))

/-- Only the first poll ever acts. -/
theorem onePoll_orderly : StepsOk deviceStep Orderly (deviceStart deviceStore deviceCalls)
    ([0, 1, 1, 1].map fun t => (t, ⟨1, false⟩)) := by
  have hpending : ∀ info ∈ (deviceStart deviceStore deviceCalls).store.codes,
      info.status = .pending := by
    intro info hinfo
    rw [List.mem_singleton.mp hinfo]
    rfl
  refine ⟨orderly_of_pending hpending, orderly_of_poll rfl ?_, orderly_of_poll rfl ?_,
    orderly_of_poll rfl ?_, trivial⟩
  all_goals
    intro u
    match u with
    | 0 | 2 | 3 | 4 | _ + 5 => exact Or.inl rfl
    | 1 => exact Or.inr rfl

end Sample

open Sample in
theorem device_code_settled_once_sample :
    StepsOk deviceStep Orderly (deviceStart deviceStore deviceCalls)
      ([0, 1, 1, 1].map fun t => (t, ⟨1, false⟩)) ∧
    ((deviceRun [0, 1, 1, 1]).task 1).returnedTokens "dev-1" = true ∧
    (∀ p ∈ states deviceStep (deviceStart deviceStore deviceCalls)
      ([0, 1, 1, 1].map fun t => (t, ⟨1, false⟩)), ∀ u v,
        (p.task u).returnedTokens "dev-1" = true → (p.task v).returnedTokens "dev-1" = true →
          u = v) :=
  ⟨onePoll_orderly, by decide,
    (device_code_settled_once deviceStore deviceCalls _ onePoll_orderly "dev-1").1⟩

open Sample in
/-- Two polls look at the approved code before either deletes it, and both return
tokens; an approved code is denied, and then approved for another user. -/
theorem device_code_unsettled :
    (((deviceRun [0, 1, 2, 1, 2, 1, 2]).task 1).returnedTokens "dev-1" = true ∧
      ((deviceRun [0, 1, 2, 1, 2, 1, 2]).task 2).returnedTokens "dev-1" = true) ∧
    ((deviceRun [0]).store.codes.find? "dev-1").map (fun info => (info.status, info.userID)) =
      some (.approved, some 2#128) ∧
    ((deviceRun [0, 3]).store.codes.find? "dev-1").map (fun info => (info.status, info.userID)) =
      some (.denied, some 2#128) ∧
    ((deviceRun [0, 3, 4]).store.codes.find? "dev-1").map (fun info => (info.status, info.userID)) =
      some (.approved, some 7#128) := by
  decide

end Ggid.OAuth
