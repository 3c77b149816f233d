import Ggid.Lib.Run
import Ggid.OAuth.Ciba

/-!
# OAuth service — how a backchannel request is settled

A poll writes back the copy it has loaded, with a new time of the last poll, and
only then looks at the copy's status. What was decided in between is overwritten,
and two polls that have both loaded an approved entry both get tokens. A copy in
the local map of another instance is not reached by a deletion either.

* `ciba_settled_once`  — an approval or denial stays as it is, and at most one poll
  returns tokens, in every interleaving in which no decision is saved while a poll
  holds a copy that says otherwise, no poll starts from a stale local copy, and an
  approved entry is deleted as the last copy;
* `ciba_unsettled`  — a poll overwrites an approval; two polls return tokens.
-/

namespace Ggid.OAuth

open Ggid.Go Ggid.Policy Ggid.Lib

/-- The user has answered. -/
def CIBAStatus.decided : CIBAStatus → Bool
  | .approved | .denied => true
  | _ => false

namespace CIBATask

/-- The instance, the id and the status of the copy the call is about to save. -/
def saving : CIBATask → Option (Nat × String × CIBAStatus)
  | .poll i req (.save entry) => some (i, req.authReqID, entry.status)
  | .decide i authReqID decision (.save _) => some (i, authReqID, decision.status)
  | _ => none

def onInstance : CIBATask → Nat
  | .poll i _ _ => i
  | .decide i _ _ _ => i

/-- The call has a copy of the entry that it will save or return tokens for. -/
def holdsCopy (authReqID : String) : CIBATask → Bool
  | .poll _ req (.save _) => req.authReqID = authReqID
  | .poll _ req (.consume _) => req.authReqID = authReqID
  | .decide _ authReqID' _ (.save _) => authReqID' = authReqID
  | _ => false

/-- The poll has returned tokens. -/
def returnedTokens (authReqID : String) : CIBATask → Bool
  | .poll _ req (.returned (.ok _)) => req.authReqID = authReqID
  | _ => false

end CIBATask

-- ---------------------------------------------------------------------------
-- What an action does
-- ---------------------------------------------------------------------------

section Act

variable {crypto : Crypto} {env : CIBAEnv} {st : CIBAStore} {task : CIBATask} {id : String}
  {place : Place} {entry entry' : CIBAEntry}

/-- A poll goes on with the copy it has loaded, or is done with it. -/
theorem afterCIBALoad_cases (crypto : Crypto) (env : CIBAEnv) (req : CIBAPoll)
    (entry : CIBAEntry) :
    afterCIBALoad crypto env req entry = .save entry ∨
      afterCIBALoad crypto env req entry = .deleteExpired ∨
      ∃ failure, afterCIBALoad crypto env req entry = .returned (.error failure) := by
  unfold afterCIBALoad
  split
  · exact Or.inr (Or.inr ⟨_, rfl⟩)
  split
  · exact Or.inr (Or.inr ⟨_, rfl⟩)
  split
  · exact Or.inr (Or.inr ⟨_, rfl⟩)
  split
  · exact Or.inr (Or.inl rfl)
  split
  · exact Or.inr (Or.inr ⟨_, rfl⟩)
  · exact Or.inl rfl

theorem afterCIBALoad_save {req : CIBAPoll} {copy : CIBAEntry}
    (h : afterCIBALoad crypto env req entry = .save copy) : copy = entry := by
  rcases afterCIBALoad_cases crypto env req entry with hsave | hdelete | ⟨failure, hfailed⟩
  · exact (CIBAPollPhase.save.inj (hsave.symm.trans h)).symm
  · exact CIBAPollPhase.noConfusion (hdelete.symm.trans h)
  · exact CIBAPollPhase.noConfusion (hfailed.symm.trans h)

theorem afterCIBALoad_returned {i : Nat} {req : CIBAPoll} :
    (CIBATask.poll i req (afterCIBALoad crypto env req entry)).returnedTokens id = false := by
  rcases afterCIBALoad_cases crypto env req entry with hsave | hdelete | ⟨failure, hfailed⟩
  · rw [hsave]
    rfl
  · rw [hdelete]
    rfl
  · rw [hfailed]
    rfl

/-- How a place can come to hold an entry. -/
inductive CopyOrigin (env : CIBAEnv) (st : CIBAStore) (task : CIBATask) (id : String)
    (place : Place) (entry' : CIBAEntry) : Prop where
  | kept (old : st.copy place id = some entry')
  | cached (new : st.copy place id = none) (shared : st.copy .far id = some entry')
  | saved {i : Nat} (save : task.saving = some (i, id, entry'.status))
      (written : place = .near i ∨ place = .far ∧ env.redis = true)

theorem load_origin {i : Nat} {authReqID : String}
    (h : (cibaLoadRedis env st i authReqID).1.copy place id = some entry') :
    CopyOrigin env st task id place entry' := by
  rcases Tiers.copy_load st env.now env.redis i authReqID id place with
    hsame | ⟨rfl, rfl, hnone, hcopy, -⟩
  · exact .kept (hsame.symm.trans h)
  · exact .cached hnone (hcopy.symm.trans h)

theorem save_origin {i : Nat} {authReqID : String} {copy : CIBAEntry}
    (h : (cibaStoreRedis env st i authReqID copy).copy place id = some entry')
    (hsaving : task.saving = some (i, authReqID, copy.status)) :
    CopyOrigin env st task id place entry' := by
  rcases Tiers.copy_save h with ⟨rfl, rfl, hplace⟩ | hold
  · exact .saved hsaving hplace
  · exact .kept hold

/-- Every entry an action leaves was there, was shared, or has been saved by it. -/
theorem cibaAct_origin (h : (cibaAct crypto env st task).1.copy place id = some entry') :
    CopyOrigin env st task id place entry' := by
  cases task with
  | poll i req phase =>
    cases phase with
    | load => exact load_origin h
    | save copy => exact save_origin h rfl
    | deleteExpired => exact .kept (Tiers.copy_drop h)
    | consume copy => exact .kept (Tiers.copy_drop h)
    | discard => exact .kept (Tiers.copy_drop h)
    | returned result => exact .kept h
  | decide i authReqID decision phase =>
    cases phase with
    | load => exact load_origin h
    | save copy => exact save_origin h rfl
    | deleteExpired => exact .kept (Tiers.copy_drop h)
    | returned result => exact .kept h

theorem holdsCopy_poll {i : Nat} {req : CIBAPoll} {phase : CIBAPollPhase}
    (h : (CIBATask.poll i req phase).holdsCopy id = true) : req.authReqID = id := by
  cases phase with
  | save copy => exact of_decide_eq_true h
  | consume copy => exact of_decide_eq_true h
  | load => exact absurd h Bool.false_ne_true
  | deleteExpired => exact absurd h Bool.false_ne_true
  | discard => exact absurd h Bool.false_ne_true
  | returned result => exact absurd h Bool.false_ne_true

theorem holdsCopy_decide {i : Nat} {authReqID : String} {decision : CIBADecision}
    {phase : CIBADecisionPhase}
    (h : (CIBATask.decide i authReqID decision phase).holdsCopy id = true) : authReqID = id := by
  cases phase with
  | save copy => exact of_decide_eq_true h
  | load => exact absurd h Bool.false_ne_true
  | deleteExpired => exact absurd h Bool.false_ne_true
  | returned result => exact absurd h Bool.false_ne_true

theorem load_found {i : Nat} (h : (cibaLoadRedis env st i id).2 = some entry) :
    ∃ place entry, st.copy place id = some entry := by
  rcases Tiers.load_value h with hnear | ⟨-, hfar, -⟩
  · exact ⟨_, _, hnear⟩
  · exact ⟨_, _, hfar⟩

/-- A call comes to hold a copy only by loading one. -/
theorem cibaAct_holdsCopy (h : (cibaAct crypto env st task).2.holdsCopy id = true) :
    task.holdsCopy id = true ∨ ∃ place entry, st.copy place id = some entry := by
  cases task with
  | poll i req phase =>
    obtain rfl : req.authReqID = id := holdsCopy_poll h
    cases phase with
    | load =>
      right
      simp only [cibaAct, cibaPollAct] at h
      split at h
      · exact absurd h Bool.false_ne_true
      · rename_i entry hentry
        exact load_found hentry
    | save copy => exact Or.inl (decide_eq_true rfl)
    | deleteExpired => exact absurd h Bool.false_ne_true
    | consume copy => exact absurd h Bool.false_ne_true
    | discard => exact absurd h Bool.false_ne_true
    | returned result => exact absurd h Bool.false_ne_true
  | decide i authReqID decision phase =>
    obtain rfl : authReqID = id := holdsCopy_decide h
    cases phase with
    | load =>
      right
      simp only [cibaAct, cibaDecisionAct] at h
      split at h
      · exact absurd h Bool.false_ne_true
      · rename_i entry hentry
        exact load_found hentry
    | save copy => exact absurd h Bool.false_ne_true
    | deleteExpired => exact absurd h Bool.false_ne_true
    | returned result => exact absurd h Bool.false_ne_true

/-- The calls that are about to save an entry. -/
theorem saving_cases {i : Nat} {status : CIBAStatus} (h : task.saving = some (i, id, status)) :
    (∃ req copy, task = .poll i req (.save copy) ∧ req.authReqID = id ∧ copy.status = status) ∨
      ∃ decision copy, task = .decide i id decision (.save copy) ∧ decision.status = status := by
  unfold CIBATask.saving at h
  split at h
  · rename_i j req copy
    obtain ⟨rfl, hid, hstatus⟩ : j = i ∧ req.authReqID = id ∧ copy.status = status := by
      simpa using h
    exact Or.inl ⟨req, copy, rfl, hid, hstatus⟩
  · rename_i j authReqID decision copy
    obtain ⟨rfl, rfl, hstatus⟩ : j = i ∧ authReqID = id ∧ decision.status = status := by
      simpa using h
    exact Or.inr ⟨decision, copy, rfl, hstatus⟩
  · exact absurd h (by simp)

/-- A call that is about to save an entry holds a copy of it. -/
theorem holdsCopy_of_saving {i : Nat} {status : CIBAStatus}
    (h : task.saving = some (i, id, status)) : task.holdsCopy id = true := by
  rcases saving_cases h with ⟨req, copy, rfl, hid, -⟩ | ⟨decision, copy, rfl, -⟩
  · exact decide_eq_true hid
  · exact decide_eq_true rfl

/-- A poll that is about to save has just loaded the entry it will save. -/
theorem cibaAct_poll_save {i : Nat} {req : CIBAPoll} {copy : CIBAEntry}
    (h : (cibaAct crypto env st task).2 = .poll i req (.save copy)) :
    task = .poll i req .load ∧ (cibaLoadRedis env st i req.authReqID).2 = some copy := by
  cases task with
  | decide j authReqID decision phase => exact CIBATask.noConfusion h
  | poll j req' phase =>
    obtain ⟨rfl, rfl, hphase⟩ := CIBATask.poll.inj h
    cases phase with
    | load =>
      simp only [cibaPollAct] at hphase
      split at hphase
      · exact absurd hphase (by simp)
      · rename_i entry hentry
        obtain rfl : copy = entry := afterCIBALoad_save hphase
        exact ⟨rfl, hentry⟩
    | save entry =>
      simp only [cibaPollAct, afterCIBASave] at hphase
      split at hphase <;> exact absurd hphase (by simp)
    | deleteExpired => exact CIBAPollPhase.noConfusion hphase
    | consume entry => exact CIBAPollPhase.noConfusion hphase
    | discard => exact CIBAPollPhase.noConfusion hphase
    | returned result => exact CIBAPollPhase.noConfusion hphase

/-- A poll that returns tokens has deleted the approved entry, or returned before. -/
theorem cibaAct_returned (h : (cibaAct crypto env st task).2.returnedTokens id = true) :
    task.returnedTokens id = true ∨
      ∃ i req copy, task = .poll i req (.consume copy) ∧ req.authReqID = id ∧
        env.signFails = false := by
  cases task with
  | decide i authReqID decision phase => exact absurd h Bool.false_ne_true
  | poll i req phase =>
    cases phase with
    | load =>
      simp only [cibaAct, cibaPollAct] at h
      split at h
      · exact absurd h Bool.false_ne_true
      · rw [afterCIBALoad_returned] at h
        exact absurd h Bool.false_ne_true
    | save entry =>
      simp only [cibaAct, cibaPollAct, afterCIBASave] at h
      split at h <;> exact absurd h Bool.false_ne_true
    | deleteExpired => exact absurd h Bool.false_ne_true
    | consume copy =>
      right
      simp only [cibaAct, cibaPollAct, cibaTokens] at h
      split at h
      · exact absurd h Bool.false_ne_true
      · rename_i hsign
        exact ⟨i, req, copy, rfl, of_decide_eq_true h, by simpa using hsign⟩
    | discard => exact absurd h Bool.false_ne_true
    | returned result => exact Or.inl h

end Act

-- ---------------------------------------------------------------------------
-- Interleavings
-- ---------------------------------------------------------------------------

/-- Nothing is left of the entry: no copy in a store, and none in a call. -/
structure NothingLeft (authReqID : String) (p : Threads CIBAStore CIBATask) : Prop where
  gone   : p.store.Gone authReqID
  unheld : ∀ u, (p.task u).holdsCopy authReqID = false

/-- No other call and no other instance has a copy, and Redis will drop its own. -/
structure LastCopy (p : Threads CIBAStore CIBATask) (e : Nat × CIBAEnv) (i : Nat)
    (authReqID : String) : Prop where
  unheld : ∀ u, u ≠ e.1 → (p.task u).holdsCopy authReqID = false
  near   : ∀ j, j ≠ i → p.store.copy (.near j) authReqID = none
  far    : e.2.redis = true ∨ p.store.copy .far authReqID = none

/-- A poll starts from a local copy only if Redis has no other decision; a decision
is saved only while no poll is about to save a copy that says otherwise; and an
approved entry is deleted, for its tokens, as the last copy. -/
structure CIBAOrderly (p : Threads CIBAStore CIBATask) (e : Nat × CIBAEnv) : Prop where
  fresh   : ∀ i req copy shared, p.task e.1 = .poll i req .load →
    p.store.copy (.near i) req.authReqID = some copy →
      p.store.copy .far req.authReqID = some shared → shared.status.decided = true →
        copy.status = shared.status
  save    : ∀ i authReqID status, (p.task e.1).saving = some (i, authReqID, status) →
    status.decided = true → ∀ u j req copy, u ≠ e.1 → p.task u = .poll j req (.save copy) →
      req.authReqID = authReqID → copy.status = status
  consume : ∀ i req copy, p.task e.1 = .poll i req (.consume copy) → e.2.signFails = false →
    LastCopy p e i req.authReqID

/-- A poll that is about to save its copy does not change what was decided. -/
def CopiesAgree (p : Threads CIBAStore CIBATask) : Prop :=
  ∀ u i req copy, p.task u = .poll i req (.save copy) → ∀ place, place = .near i ∨ place = .far →
    ∀ entry, p.store.copy place req.authReqID = some entry → entry.status.decided = true →
      copy.status = entry.status

section Interleaving

variable {crypto : Crypto} {p : Threads CIBAStore CIBATask} {e : Nat × CIBAEnv} {id : String}
  {place : Place} {entry entry' : CIBAEntry}

/-- What an action leaves in a place agrees with the copies other polls hold. -/
theorem agree_of_origin (hp : CopiesAgree p) (hok : CIBAOrderly p e) {u i : Nat} {req : CIBAPoll}
    {copy : CIBAEntry} (hne : u ≠ e.1) (htask : p.task u = .poll i req (.save copy))
    (hplace : place = .near i ∨ place = .far)
    (horigin : CopyOrigin e.2 p.store (p.task e.1) req.authReqID place entry')
    (hdecided : entry'.status.decided = true) : copy.status = entry'.status := by
  cases horigin with
  | kept old => exact hp u i req copy htask place hplace entry' old hdecided
  | cached new shared => exact hp u i req copy htask .far (Or.inr rfl) entry' shared hdecided
  | saved save written => exact hok.save _ _ _ save hdecided u i req copy hne htask rfl

/-- The copy a poll has just loaded agrees with what the stores hold. -/
theorem agree_of_load (hok : CIBAOrderly p e) {i : Nat} {req : CIBAPoll} {copy : CIBAEntry}
    (htask : p.task e.1 = .poll i req .load)
    (hfound : (cibaLoadRedis e.2 p.store i req.authReqID).2 = some copy)
    (hplace : place = .near i ∨ place = .far)
    (hcopy : (cibaLoadRedis e.2 p.store i req.authReqID).1.copy place req.authReqID = some entry')
    (hdecided : entry'.status.decided = true) : copy.status = entry'.status := by
  rcases Tiers.copy_load p.store e.2.now e.2.redis i req.authReqID req.authReqID place with
    hsame | ⟨-, rfl, hnone, hcached, hshared⟩
  · have hold : p.store.copy place req.authReqID = some entry' := hsame.symm.trans hcopy
    rcases Tiers.load_value hfound with hnear | ⟨hnone, hfar, -⟩
    · rcases hplace with rfl | rfl
      · rw [Option.some.inj (hnear.symm.trans hold)]
      · exact hok.fresh i req copy entry' htask hnear hold hdecided
    · rcases hplace with rfl | rfl
      · exact absurd (hnone.symm.trans hold) (by simp)
      · rw [Option.some.inj (hfar.symm.trans hold)]
  · have hfar : p.store.copy .far req.authReqID = some copy := hshared.symm.trans hfound
    rw [Option.some.inj (hfar.symm.trans (hcached.symm.trans hcopy))]

theorem copiesAgree_step (hp : CopiesAgree p) (hok : CIBAOrderly p e) :
    CopiesAgree (cibaStep crypto p e) := by
  intro u i req copy htask place hplace entry' hcopy hdecided
  by_cases hu : u = e.1
  · subst hu
    rw [cibaStep, Threads.put_task_self] at htask
    obtain ⟨hload, hfound⟩ := cibaAct_poll_save htask
    refine agree_of_load hok hload hfound hplace ?_ hdecided
    rw [cibaStep, Threads.put_store, hload] at hcopy
    exact hcopy
  · rw [cibaStep, Threads.put_task_of_ne _ _ hu] at htask
    exact agree_of_origin hp hok hu htask hplace (cibaAct_origin hcopy) hdecided

/-- No action of a poll, and no action on another entry, changes what was decided. -/
theorem decision_kept (hp : CopiesAgree p)
    (hcall : ∀ i decision copy, p.task e.1 ≠ .decide i id decision (.save copy))
    (hold : p.store.copy place id = some entry) (hdecided : entry.status.decided = true)
    (hnew : (cibaStep crypto p e).store.copy place id = some entry') :
    entry'.status = entry.status := by
  cases cibaAct_origin hnew with
  | kept old => rw [Option.some.inj (old.symm.trans hold)]
  | cached new shared => exact absurd (new.symm.trans hold) (by simp)
  | saved save written =>
    rcases saving_cases save with ⟨req, copy, htask, rfl, hstatus⟩ | ⟨decision, copy, htask, -⟩
    · rw [← hstatus]
      exact hp e.1 _ req copy htask place (written.imp_right And.left) entry hold hdecided
    · exact absurd htask (hcall _ _ _)

theorem nothingLeft_step (hp : NothingLeft id p) : NothingLeft id (cibaStep crypto p e) where
  gone := by
    intro place
    cases hcopy : (cibaStep crypto p e).store.copy place id with
    | none => rfl
    | some entry =>
      cases cibaAct_origin hcopy with
      | kept old => exact absurd ((hp.gone place).symm.trans old) (by simp)
      | cached new shared => exact absurd ((hp.gone .far).symm.trans shared) (by simp)
      | saved save written =>
        exact absurd ((hp.unheld e.1).symm.trans (holdsCopy_of_saving save)) (by simp)
  unheld := by
    intro u
    by_cases hu : u = e.1
    · subst hu
      rw [cibaStep, Threads.put_task_self]
      cases hholds : (cibaAct crypto e.2 p.store (p.task e.1)).2.holdsCopy id with
      | false => rfl
      | true =>
        rcases cibaAct_holdsCopy hholds with hold | ⟨place, entry, hcopy⟩
        · exact absurd ((hp.unheld e.1).symm.trans hold) (by simp)
        · exact absurd ((hp.gone place).symm.trans hcopy) (by simp)
    · rw [cibaStep, Threads.put_task_of_ne _ _ hu]
      exact hp.unheld u

/-- Deleting the last copy leaves nothing. -/
theorem nothingLeft_of_consume {i : Nat} {req : CIBAPoll} {copy : CIBAEntry}
    (htask : p.task e.1 = .poll i req (.consume copy)) (hlast : LastCopy p e i req.authReqID) :
    NothingLeft req.authReqID (cibaStep crypto p e) where
  gone := by
    rw [cibaStep, Threads.put_store, htask]
    exact Tiers.gone_drop hlast.near hlast.far
  unheld := by
    intro u
    by_cases hu : u = e.1
    · subst hu
      rw [cibaStep, Threads.put_task_self, htask]
      rfl
    · rw [cibaStep, Threads.put_task_of_ne _ _ hu]
      exact hlast.unheld u hu

/-- One poll at most has returned tokens, and then nothing is left of the entry. -/
structure SingleToken (authReqID : String) (p : Threads CIBAStore CIBATask) : Prop where
  unique : ∀ u v, (p.task u).returnedTokens authReqID = true →
    (p.task v).returnedTokens authReqID = true → u = v
  spent  : ∀ u, (p.task u).returnedTokens authReqID = true → NothingLeft authReqID p

/-- The acting call returns tokens for the first time only while no other call has. -/
theorem returned_of_step (hp : SingleToken id p) (hok : CIBAOrderly p e) {u : Nat}
    (hu : ((cibaStep crypto p e).task u).returnedTokens id = true) :
    NothingLeft id (cibaStep crypto p e) ∧ ((p.task u).returnedTokens id = true ∨
      u = e.1 ∧ ∀ v, (p.task v).returnedTokens id = false) := by
  by_cases hue : u = e.1
  · subst hue
    rw [cibaStep, Threads.put_task_self] at hu
    rcases cibaAct_returned hu with hold | ⟨i, req, copy, htask, rfl, hsign⟩
    · exact ⟨nothingLeft_step (hp.spent _ hold), Or.inl hold⟩
    · refine ⟨nothingLeft_of_consume htask (hok.consume i req copy htask hsign), Or.inr ⟨rfl, ?_⟩⟩
      intro v
      by_contra hv
      -- the deleting poll holds the last copy, so no token can have been returned
      have hunheld := (hp.spent v (by simpa using hv)).unheld e.1
      rw [htask] at hunheld
      exact absurd hunheld (by simp [CIBATask.holdsCopy])
  · rw [cibaStep, Threads.put_task_of_ne _ _ hue] at hu
    exact ⟨nothingLeft_step (hp.spent u hu), Or.inl hu⟩

theorem singleToken_step (hp : SingleToken id p) (hok : CIBAOrderly p e) :
    SingleToken id (cibaStep crypto p e) where
  unique := by
    intro u v hu hv
    obtain ⟨-, hu | ⟨rfl, hnone⟩⟩ := returned_of_step hp hok hu
    · obtain ⟨-, hv | ⟨rfl, hnone⟩⟩ := returned_of_step hp hok hv
      · exact hp.unique u v hu hv
      · exact absurd ((hnone u).symm.trans hu) (by simp)
    · obtain ⟨-, hv | ⟨rfl, -⟩⟩ := returned_of_step hp hok hv
      · exact absurd ((hnone v).symm.trans hv) (by simp)
      · rfl
  spent := fun _ hu => (returned_of_step hp hok hu).1

end Interleaving

/-- A decision is where it was saved. -/
theorem decision_saved {env : CIBAEnv} {st : CIBAStore} {crypto : Crypto} {i : Nat} {id : String}
    {decision : CIBADecision} {copy : CIBAEntry} {place : Place}
    (hplace : place = .near i ∨ place = .far ∧ env.redis = true) :
    ((cibaAct crypto env st (.decide i id decision (.save copy))).1.copy place id).map
      CIBAEntry.status = some decision.status := by
  simp only [cibaAct, cibaDecisionAct, cibaStoreRedis]
  rcases hplace with rfl | ⟨rfl, hredis⟩
  · rw [Tiers.near_save]
    rfl
  · rw [hredis, Tiers.far_save]
    rfl

theorem copiesAgree_start (st : CIBAStore) (calls : Nat → CIBACall) :
    CopiesAgree (cibaStart st calls) := by
  intro u i req copy htask
  have hcall : (calls u).task = .poll i req (.save copy) := htask
  cases hc : calls u with
  | poll j req' =>
    rw [hc, CIBACall.task, CIBATask.poll.injEq] at hcall
    exact absurd hcall.2.2 (by simp)
  | decide j authReqID decision =>
    rw [hc, CIBACall.task] at hcall
    exact absurd hcall (by simp)

theorem singleToken_start (st : CIBAStore) (calls : Nat → CIBACall) (authReqID : String) :
    SingleToken authReqID (cibaStart st calls) := by
  have hnone : ∀ u, ((cibaStart st calls).task u).returnedTokens authReqID ≠ true := by
    intro u hu
    have hcall : ((calls u).task).returnedTokens authReqID = true := hu
    cases hc : calls u with
    | poll j req => rw [hc] at hcall; exact absurd hcall Bool.false_ne_true
    | decide j id decision => rw [hc] at hcall; exact absurd hcall Bool.false_ne_true
  exact ⟨fun u _ hu => absurd hu (hnone u), fun u hu => absurd hu (hnone u)⟩

/-- The step is not the one in which a decision on the entry is saved, and the place
still has an entry after it. -/
def Undisturbed (crypto : Crypto) (authReqID : String) (place : Place)
    (p : Threads CIBAStore CIBATask) (e : Nat × CIBAEnv) : Prop :=
  (∀ i decision copy, p.task e.1 ≠ .decide i authReqID decision (.save copy)) ∧
    (cibaStep crypto p e).store.copy place authReqID ≠ none

/-- What was decided stays while the entry is there and no other decision is saved. -/
theorem decision_stays (crypto : Crypto) {p : Threads CIBAStore CIBATask}
    {es : List (Nat × CIBAEnv)} {id : String} {place : Place} {status : CIBAStatus}
    (hdecided : status.decided = true) (hagree : CopiesAgree p)
    (hok : StepsOk (cibaStep crypto) CIBAOrderly p es)
    (hundisturbed : StepsOk (cibaStep crypto) (Undisturbed crypto id place) p es)
    (hstart : (p.store.copy place id).map CIBAEntry.status = some status) :
    ((run (cibaStep crypto) p es).store.copy place id).map CIBAEntry.status = some status := by
  let Inv : Threads CIBAStore CIBATask → Prop := fun q =>
    CopiesAgree q ∧ (q.store.copy place id).map CIBAEntry.status = some status
  have hstep : ∀ q e, Inv q → CIBAOrderly q e ∧ Undisturbed crypto id place q e →
      Inv (cibaStep crypto q e) := by
    rintro q e ⟨hq, hstatus⟩ ⟨horderly, hcall, hsome⟩
    refine ⟨copiesAgree_step hq horderly, ?_⟩
    obtain ⟨entry, hold, rfl⟩ := Option.map_eq_some_iff.mp hstatus
    obtain ⟨entry', hnew⟩ := Option.ne_none_iff_exists'.mp hsome
    rw [hnew, Option.map_some, decision_kept hq hcall hold hdecided hnew]
  exact (invariant_states hstep ⟨hagree, hstart⟩ (hok.and hundisturbed) _
    (run_mem_states p es)).2

/-- **How a backchannel request is settled.** In every interleaving whose steps are
orderly, one poll at most returns tokens for an authentication request; and once an
approval or a denial has saved its decision, every place it was saved to keeps that
decision until the entry is deleted or another decision is made. -/
theorem ciba_settled_once (crypto : Crypto) (st : CIBAStore) (calls : Nat → CIBACall)
    (es : List (Nat × CIBAEnv))
    (hok : StepsOk (cibaStep crypto) CIBAOrderly (cibaStart st calls) es) (id : String) :
    (∀ p ∈ states (cibaStep crypto) (cibaStart st calls) es, ∀ u v,
      (p.task u).returnedTokens id = true → (p.task v).returnedTokens id = true → u = v) ∧
    (∀ before e after i decision copy place, es = before ++ e :: after →
      (run (cibaStep crypto) (cibaStart st calls) before).task e.1 =
        .decide i id decision (.save copy) →
      place = .near i ∨ place = .far ∧ e.2.redis = true →
      StepsOk (cibaStep crypto) (Undisturbed crypto id place)
        (run (cibaStep crypto) (cibaStart st calls) (before ++ [e])) after →
      ((run (cibaStep crypto) (cibaStart st calls) es).store.copy place id).map
        CIBAEntry.status = some decision.status) := by
  constructor
  · intro p hp
    have hsingle := invariant_states (fun _ _ => singleToken_step)
      (singleToken_start st calls id) hok p hp
    exact hsingle.unique
  · rintro before e after i decision copy place rfl htask hplace hundisturbed
    have hsplit : before ++ e :: after = (before ++ [e]) ++ after := by simp
    rw [hsplit] at hok ⊢
    have hagree : CopiesAgree (run (cibaStep crypto) (cibaStart st calls) (before ++ [e])) := by
      have hbefore : StepsOk (cibaStep crypto) CIBAOrderly (cibaStart st calls) (before ++ [e]) :=
        hok.left
      exact invariant_states (fun _ _ => copiesAgree_step) (copiesAgree_start st calls)
        hbefore _ (run_mem_states _ _)
    rw [run_append]
    have hdecided : decision.status.decided = true := by cases decision <;> rfl
    refine decision_stays crypto hdecided hagree hok.of_append hundisturbed ?_
    rw [run_concat, cibaStep, Threads.put_store, htask]
    exact decision_saved hplace

-- ---------------------------------------------------------------------------
-- One request, several calls
-- ---------------------------------------------------------------------------

/-- Everything happens on one instance, without Redis. -/
structure OnOneInstance (p : Threads CIBAStore CIBATask) : Prop where
  here : ∀ u, (p.task u).onInstance = 0
  near : ∀ j id, j ≠ 0 → p.store.copy (.near j) id = none
  far  : ∀ id, p.store.copy .far id = none

section OneInstance

variable {crypto : Crypto} {p : Threads CIBAStore CIBATask} {e : Nat × CIBAEnv}

theorem onOneInstance_step (hp : OnOneInstance p) (hredis : e.2.redis = false) :
    OnOneInstance (cibaStep crypto p e) where
  here := by
    have hact : (cibaAct crypto e.2 p.store (p.task e.1)).2.onInstance = 0 := by
      have hold := hp.here e.1
      cases htask : p.task e.1 <;> rw [htask] at hold <;> exact hold
    exact Threads.forall_put (B := fun task : CIBATask => task.onInstance = 0) hp.here
      (fun _ h => h) hact
  near := by
    intro j id hj
    cases hcopy : (cibaStep crypto p e).store.copy (.near j) id with
    | none => rfl
    | some entry =>
      cases cibaAct_origin hcopy with
      | kept old => exact absurd ((hp.near j id hj).symm.trans old) (by simp)
      | cached new shared => exact absurd ((hp.far id).symm.trans shared) (by simp)
      | @saved i save written =>
        obtain rfl : j = i := by simpa using written
        have hhere := hp.here e.1
        rcases saving_cases save with ⟨req, copy, htask, -, -⟩ | ⟨decision, copy, htask, -⟩
        · rw [htask] at hhere
          exact absurd hhere hj
        · rw [htask] at hhere
          exact absurd hhere hj
  far := by
    intro id
    cases hcopy : (cibaStep crypto p e).store.copy .far id with
    | none => rfl
    | some entry =>
      cases cibaAct_origin hcopy with
      | kept old => exact absurd ((hp.far id).symm.trans old) (by simp)
      | cached new shared => exact absurd (new.symm.trans shared) (by simp)
      | saved save written => simp [hredis] at written

/-- There a step is orderly while no other call has a copy. -/
theorem cibaOrderly_of_alone (hp : OnOneInstance p)
    (halone : ∀ u, u ≠ e.1 → ∀ id, (p.task u).holdsCopy id = false) : CIBAOrderly p e where
  fresh := by
    intro i req copy shared _ _ hshared
    exact absurd ((hp.far _).symm.trans hshared) (by simp)
  save := by
    intro i id status _ _ u j req copy hne htask _
    have hcopy := halone u hne req.authReqID
    rw [htask] at hcopy
    exact absurd hcopy (by simp [CIBATask.holdsCopy])
  consume := by
    intro i req copy htask _
    obtain rfl : i = 0 := by
      have hhere := hp.here e.1
      rw [htask] at hhere
      exact hhere
    exact ⟨fun u hu => halone u hu _, fun j hj => hp.near j _ hj, Or.inr (hp.far _)⟩

/-- Calls that take turns, none starting before the last has finished, are orderly. -/
theorem cibaOrderly_of_turns {es : List (Nat × CIBAEnv)} (hp : OnOneInstance p)
    (hredis : ∀ e ∈ es, e.2.redis = false)
    (hturns : StepsOk (cibaStep crypto)
      (fun p e => ∀ u, u ≠ e.1 → ∀ id, (p.task u).holdsCopy id = false) p es) :
    StepsOk (cibaStep crypto) CIBAOrderly p es := by
  induction es generalizing p with
  | nil => trivial
  | cons e es ih =>
    obtain ⟨hfirst, hrest⟩ := hturns
    obtain ⟨he, hes⟩ := List.forall_mem_cons.mp hredis
    exact ⟨cibaOrderly_of_alone hp hfirst, ih (onOneInstance_step hp he) hes hrest⟩

end OneInstance

namespace Sample

def cibaEntry : CIBAEntry :=
  ⟨3#128, "tv", 1#128, 2#128, .pending, "Sign in?", "openid", 0, 5 * minute, Time.zero⟩

def cibaStore : CIBAStore := Tiers.empty.setNear 0 "req-1" (some cibaEntry)

/-- An approval, two polls and a denial, on one instance without Redis. -/
def cibaCalls : Nat → CIBACall
  | 0 => .decide 0 "req-1" .approve
  | 1 => .poll 0 ⟨1#128, "req-1", "tv", ""⟩
  | 2 => .poll 0 ⟨1#128, "req-1", "tv", ""⟩
  | _ => .decide 0 "req-1" .deny

def cibaSchedule (schedule : List Nat) : List (Nat × CIBAEnv) :=
  schedule.map fun t => (t, ⟨1, false, none, none, false⟩)

def noSecrets : Crypto := ⟨fun _ _ => false, id, id⟩

def cibaRun (schedule : List Nat) : Threads CIBAStore CIBATask :=
  run (cibaStep noSecrets) (cibaStart cibaStore cibaCalls) (cibaSchedule schedule)

/-- The approval runs, and then one poll. -/
theorem approvedThenPolled_orderly : StepsOk (cibaStep noSecrets) CIBAOrderly
    (cibaStart cibaStore cibaCalls) (cibaSchedule [0, 0, 1, 1, 1]) := by
  have hstart : OnOneInstance (cibaStart cibaStore cibaCalls) := by
    refine ⟨fun u => ?_, fun j id hj => ?_, fun id => rfl⟩
    · match u with
      | 0 | 1 | 2 | _ + 3 => rfl
    · rw [cibaStart, cibaStore, Tiers.copy_setNear, if_neg (by simp [hj])]
      rfl
  have hredis : ∀ e ∈ cibaSchedule [0, 0, 1, 1, 1], e.2.redis = false := by
    intro e he
    obtain ⟨t, -, rfl⟩ := List.mem_map.mp he
    rfl
  refine cibaOrderly_of_turns hstart hredis ⟨?_, ?_, ?_, ?_, ?_, trivial⟩
  all_goals
    intro u hu id
    match u with
    | 0 => first | rfl | exact absurd rfl hu
    | 1 => first | rfl | exact absurd rfl hu
    | 2 | _ + 3 => rfl

end Sample

open Sample in
theorem ciba_settled_once_sample :
    StepsOk (cibaStep noSecrets) CIBAOrderly (cibaStart cibaStore cibaCalls)
      (cibaSchedule [0, 0, 1, 1, 1]) ∧
    ((cibaRun [0, 0, 1, 1, 1]).task 1).returnedTokens "req-1" = true ∧
    (∀ p ∈ states (cibaStep noSecrets) (cibaStart cibaStore cibaCalls)
      (cibaSchedule [0, 0, 1, 1, 1]), ∀ u v, (p.task u).returnedTokens "req-1" = true →
        (p.task v).returnedTokens "req-1" = true → u = v) :=
  ⟨approvedThenPolled_orderly, by decide,
    (ciba_settled_once noSecrets cibaStore cibaCalls _ approvedThenPolled_orderly "req-1").1⟩

open Sample in
/-- A poll loads the pending entry, the approval returns success, and the poll writes
its copy back; two polls load the approved entry, and both return tokens. -/
theorem ciba_unsettled :
    ((cibaRun [1, 0, 0]).task 0 = .decide 0 "req-1" .approve (.returned (.ok ())) ∧
      ((cibaRun [1, 0, 0]).store.copy (.near 0) "req-1").map CIBAEntry.status =
        some .approved ∧
      ((cibaRun [1, 0, 0, 1]).store.copy (.near 0) "req-1").map CIBAEntry.status =
        some .pending) ∧
    (((cibaRun [0, 0, 1, 2, 1, 2, 1, 2]).task 1).returnedTokens "req-1" = true ∧
      ((cibaRun [0, 0, 1, 2, 1, 2, 1, 2]).task 2).returnedTokens "req-1" = true) := by
  decide

end Ggid.OAuth
