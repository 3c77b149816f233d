import Ggid.Go.Bytes
import Ggid.Lib.Run
import Ggid.Policy.Decision
import Ggid.Policy.ReviewCampaign

/-!
# Policy engine — what campaigns settle

A submit that answers success with decision `revoke` should have taken the roles,
a campaign whose revocations failed should not end as completed, and one submit of
a campaign should take effect. Which runs keep that follows from two facts: the row
of a campaign closes once, and no revocation succeeds.

* `settles_iff`        — one step, in terms of the state it is taken in;
* `submits_settle_iff` — whole runs, whatever the rest of the service does;
* `assignments_kept`   — no submit takes a role from anyone.
-/

namespace Ggid.Policy.Campaign

open Ggid.Go Ggid.Lib

section Runs

variable {srv : HTTPServer} {libs : Libs}

-- ---------------------------------------------------------------------------
-- What holds however the submits are scheduled
-- ---------------------------------------------------------------------------

/-- What every state of every run keeps. -/
structure Ledger (libs : Libs) (p : CampaignThreads) : Prop where
  /-- A campaign about to be closed is open, or another submit has closed it. -/
  read : ∀ t req body c, p.task t = .submitting req body c → Names libs req c ∧
    (Active p.store.campaigns c.id c.tenantID ∨ ∃ u, (p.task u).effective = some c.id)
  closed : ∀ t id, (p.task t).effective = some id → Completed p.store.campaigns id
  decided : ∀ t req c, p.task t = .listing req c → c.decision = some "revoke"

/-- What a task brings into the ledger. -/
structure Entered (libs : Libs) (s : CampaignStore) (x : Task) : Prop where
  read : ∀ req body c, x = .submitting req body c →
    Names libs req c ∧ Active s.campaigns c.id c.tenantID
  closed : ∀ id, x.effective = some id → Completed s.campaigns id
  decided : ∀ req c, x = .listing req c → c.decision = some "revoke"

theorem Ledger.put {p : CampaignThreads} (h : Ledger libs p) {t : Nat} {new : CampaignStore × Task}
    (hcompleted : ∀ k, Completed p.store.campaigns k → Completed new.1.campaigns k)
    (hactive : ∀ k tenant, Active p.store.campaigns k tenant →
      Active new.1.campaigns k tenant ∨ new.2.effective = some k)
    (hkeep : ∀ id, (p.task t).effective = some id → new.2.effective = some id)
    (hnew : Entered libs new.1 new.2) : Ledger libs (p.put t new) where
  read u req body c hu := by
    by_cases hut : u = t
    · rw [hut, Threads.put_task_self] at hu
      exact (hnew.read req body c hu).imp_right Or.inl
    · rw [Threads.put_task_of_ne p new hut] at hu
      obtain ⟨hnames, hrow⟩ := h.read u req body c hu
      refine ⟨hnames, ?_⟩
      rcases hrow with hrow | heff
      · exact (hactive _ _ hrow).imp_right
          (Threads.exists_put_self (D := fun x : Task => x.effective = some c.id))
      · exact Or.inr
          (Threads.exists_put (D := fun x : Task => x.effective = some c.id) (hkeep c.id) heff)
  closed := Threads.forall_put
    (A := fun x : Task => ∀ id, x.effective = some id → Completed p.store.campaigns id)
    h.closed (fun _ hx id hid => hcompleted id (hx id hid)) hnew.closed
  decided := Threads.forall_put
    (A := fun x : Task => ∀ req c, x = .listing req c → c.decision = some "revoke")
    h.decided (fun _ hx => hx) hnew.decided

/-- The tasks are as before, and no row was closed. -/
theorem Ledger.of_task {p p' : CampaignThreads} (h : Ledger libs p) (htask : p'.task = p.task)
    (hrows : ∀ k row, p.store.campaigns.find? k = some row →
      p'.store.campaigns.find? k = some row) : Ledger libs p' where
  read t req body c ht := by
    rw [htask] at ht ⊢
    refine (h.read t req body c ht).imp_right (Or.imp_left ?_)
    rintro ⟨row, hrow, hopen⟩
    exact ⟨row, hrows _ row hrow, hopen⟩
  closed t id ht := by
    rw [htask] at ht
    obtain ⟨row, hrow, hstatus⟩ := h.closed t id ht
    exact ⟨row, hrows id row hrow, hstatus⟩
  decided t req c ht := by
    rw [htask] at ht
    exact h.decided t req c ht

theorem entered_of_error (s : CampaignStore) (code : Nat) (message : String)
    (failed : List CampaignItem) : Entered libs s (.returned (.error code message) failed) where
  read _ _ _ h := absurd h (by simp)
  closed _ h := absurd h (by simp [Task.effective])
  decided _ _ h := absurd h (by simp)

theorem executeRest_effective (req : SubmitRequest) (c : ReviewCampaign)
    (failed rest : List CampaignItem) : (executeRest req c failed rest).effective = some c.id := by
  cases rest with
  | nil => rfl
  | cons item rest => rfl

/-- A submit answers when there is nothing left to revoke. -/
theorem executeRest_returned_iff {req : SubmitRequest} {c c' : ReviewCampaign}
    {failed failed' rest : List CampaignItem} :
    executeRest req c failed rest = .returned (.ok c') failed' ↔
      rest = [] ∧ c = c' ∧ failed = failed' := by
  cases rest with
  | nil => simp [executeRest]
  | cons item rest => simp [executeRest]

theorem entered_of_executeRest {s : CampaignStore} {req : SubmitRequest} {c : ReviewCampaign}
    {failed rest : List CampaignItem} (h : Completed s.campaigns c.id) :
    Entered libs s (executeRest req c failed rest) where
  read _ _ _ hx := by
    cases rest with
    | nil => exact absurd hx (by simp [executeRest])
    | cons item rest => exact absurd hx (by simp [executeRest])
  closed id hx := by
    rw [executeRest_effective, Option.some.injEq] at hx
    rw [← hx]
    exact h
  decided _ _ hx := by
    cases rest with
    | nil => exact absurd hx (by simp [executeRest])
    | cons item rest => exact absurd hx (by simp [executeRest])

/-- The next statement of a busy thread. -/
theorem ledger_next (hparse : ReadsBack libs) {p : CampaignThreads} (h : Ledger libs p) (t : Nat)
    (fault : Bool) : Ledger libs (p.put t (next srv libs p.store fault (p.task t))) := by
  cases htask : p.task t with
  | idle =>
    refine h.put (fun _ hk => hk) (fun _ _ hk => Or.inl hk) ?_ ?_
    · simp [htask, next]
    · exact ⟨by simp [next], by simp [next, Task.effective], by simp [next]⟩
  | returned resp failed =>
    refine h.put (fun _ hk => hk) (fun _ _ hk => Or.inl hk) ?_ ?_
    · simp [htask, next]
    · refine ⟨by simp [next], fun id hid => h.closed t id ?_, by simp [next]⟩
      rw [htask]
      exact hid
  | submitting req body c =>
    obtain ⟨hnames, hrow⟩ := h.read t req body c htask
    cases fault with
    | true =>
      refine h.put (fun _ hk => hk) (fun _ _ hk => Or.inl hk) ?_ ?_
      · simp [htask, Task.effective]
      · exact entered_of_error _ _ _ _
    | false =>
      have heff : (next srv libs p.store false (.submitting req body c)).2.effective
          = some c.id := by
        simp only [next, Bool.false_eq_true, if_false]
        split_ifs
        · rfl
        · rfl
      have hclosed : Completed (next srv libs p.store false (.submitting req body c)).1.campaigns
          c.id := by
        rcases hrow with hopen | ⟨u, hu⟩
        · rw [← hnames.id, ← hnames.tenant] at hopen
          exact hnames.id ▸ submit_completes hopen
        · exact completed_submit (h.closed u c.id hu)
      refine h.put (fun _ hk => completed_submit hk) (fun k tenant hk => ?_) ?_ ?_
      · by_cases hkc : k = c.id
        · exact Or.inr (hkc ▸ heff)
        · exact Or.inl (active_submit hk (hnames.id ▸ hkc))
      · simp [htask, Task.effective]
      · refine ⟨?_, fun id hid => ?_, ?_⟩
        · simp only [next, Bool.false_eq_true, if_false]
          split_ifs
          · simp
          · simp
        · rw [heff, Option.some.injEq] at hid
          exact hid ▸ hclosed
        · intro req' c' hlist
          simp only [next, Bool.false_eq_true, if_false] at hlist
          split_ifs at hlist with hrevoke
          cases hlist
          exact congrArg some hrevoke.1
  | listing req c =>
    have hclosed := h.closed t c.id (by rw [htask]; rfl)
    rw [next_listing hparse]
    refine h.put (fun _ hk => hk) (fun _ _ hk => Or.inl hk) ?_ (entered_of_executeRest hclosed)
    intro id hid
    rw [htask] at hid
    exact (executeRest_effective req c [] _).trans hid
  | revoking req c item rest failed =>
    have hclosed := h.closed t c.id (by rw [htask]; rfl)
    obtain ⟨s', hnext, -, hcampaigns, -⟩ :=
      next_revoking srv libs p.store req c item rest failed fault
    rw [hnext]
    rw [← hcampaigns] at hclosed
    refine h.put (fun _ hk => hcampaigns.symm ▸ hk) (fun _ _ hk => Or.inl (hcampaigns.symm ▸ hk)) ?_
      (entered_of_executeRest hclosed)
    intro id hid
    rw [htask] at hid
    exact (executeRest_effective req c _ rest).trans hid

variable (srv libs) in
/-- A busy thread takes up nothing new. -/
theorem campaignStep_submit (p : CampaignThreads) (t : Nat) (req : SubmitRequest) (fault : Bool) :
    campaignStep srv libs p (.submit t req fault) = p ∨
      (p.task t = .idle ∧ campaignStep srv libs p (.submit t req fault) =
        p.put t (p.store, submitReviewCampaign srv libs p.store req fault)) := by
  simp only [campaignStep]
  split
  · rename_i hidle
    exact Or.inr ⟨hidle, rfl⟩
  · exact Or.inl rfl

variable (srv) in
theorem ledger_step (hparse : ReadsBack libs) {p : CampaignThreads} (h : Ledger libs p)
    (e : CampaignEvent) : Ledger libs (campaignStep srv libs p e) := by
  cases e with
  | submit t req fault =>
    rcases campaignStep_submit srv libs p t req fault with
      hstep | ⟨hidle, hstep⟩
    · rw [hstep]
      exact h
    · rw [hstep]
      refine h.put (fun _ hk => hk) (fun _ _ hk => Or.inl hk) (by simp [hidle, Task.effective]) ?_
      rcases submitReviewCampaign_cases srv libs p.store req fault with
        ⟨code, message, herr⟩ | ⟨body, c, hsubmit, hread⟩
      · rw [herr]
        exact entered_of_error _ _ _ _
      · rw [hsubmit]
        refine ⟨fun req' body' c' hx => ?_, by simp [Task.effective], by simp⟩
        cases hx
        exact hread
  | step t fault => exact ledger_next hparse h t fault
  | create newID c => exact h.of_task rfl fun _ _ hrow => find?_create hrow
  | elsewhere db items => exact h.of_task rfl fun _ _ hrow => hrow
  | tick d => exact h.of_task rfl fun _ _ hrow => hrow

-- ---------------------------------------------------------------------------
-- One step
-- ---------------------------------------------------------------------------

/-- What the steps so far have left true. -/
structure Settled (p : CampaignThreads) : Prop where
  once : ∀ t u id, (p.task t).effective = some id → (p.task u).effective = some id → t = u
  clean : ∀ t c failed, p.task t = .returned (.ok c) failed → failed = []

/-- What the acting thread owes. -/
structure Fair (p : CampaignThreads) (t : Nat) (new : CampaignStore × Task) : Prop where
  revoked : ∀ c failed, (p.task t).inFlight = true → new.2 = .returned (.ok c) failed →
    c.decision = some "revoke" → Revoked new.1 c
  still_open : ∀ c failed, new.2 = .returned (.ok c) failed → failed ≠ [] →
    ¬ Completed new.1.campaigns c.id
  once : ∀ u id, u ≠ t → new.2.effective = some id → (p.task u).effective ≠ some id

/-- Nothing is asked of the threads that do not act. -/
theorem settles_put_iff {p : CampaignThreads} (hp : Settled p) (t : Nat)
    (new : CampaignStore × Task) : Settles p (p.put t new) ↔ Fair p t new := by
  constructor
  · intro h
    refine ⟨fun c failed hbusy hnew => ?_, fun c failed hnew => ?_, fun u id hut hnew hu => ?_⟩
    · exact h.revoked t c failed hbusy ((Threads.put_task_self p t new).trans hnew)
    · exact h.still_open t c failed ((Threads.put_task_self p t new).trans hnew)
    · refine hut (h.once u t id ?_ ?_)
      · rw [Threads.put_task_of_ne p new hut]
        exact hu
      · rw [Threads.put_task_self]
        exact hnew
  · intro h
    constructor
    · intro u c failed hbusy hu
      by_cases hut : u = t
      · rw [hut, Threads.put_task_self] at hu
        exact h.revoked c failed (hut ▸ hbusy) hu
      · rw [Threads.put_task_of_ne p new hut] at hu
        rw [hu] at hbusy
        exact absurd hbusy (by simp [Task.inFlight])
    · intro u c failed hu hfailed
      by_cases hut : u = t
      · rw [hut, Threads.put_task_self] at hu
        exact h.still_open c failed hu hfailed
      · rw [Threads.put_task_of_ne p new hut] at hu
        exact absurd (hp.clean u c failed hu) hfailed
    · intro u v id hu hv
      by_cases hut : u = t
      · by_cases hvt : v = t
        · rw [hut, hvt]
        · rw [hut, Threads.put_task_self] at hu
          rw [Threads.put_task_of_ne p new hvt] at hv
          exact absurd hv (h.once v id hvt hu)
      · rw [Threads.put_task_of_ne p new hut] at hu
        by_cases hvt : v = t
        · rw [hvt, Threads.put_task_self] at hv
          exact absurd hu (h.once u id hut hv)
        · rw [Threads.put_task_of_ne p new hvt] at hv
          exact hp.once u v id hu hv

/-- Steps of no thread settle everything. -/
theorem settles_of_task {p p' : CampaignThreads} (hp : Settled p) (htask : p'.task = p.task) :
    Settles p p' where
  revoked t c failed hbusy ht := by
    rw [htask] at ht
    rw [ht] at hbusy
    exact absurd hbusy (by simp [Task.inFlight])
  still_open t c failed ht hfailed := by
    rw [htask] at ht
    exact absurd (hp.clean t c failed ht) hfailed
  once t u id ht hu := by
    rw [htask] at ht hu
    exact hp.once t u id ht hu

theorem settled_of_settles {p p' : CampaignThreads} (hp' : Ledger libs p') (h : Settles p p') :
    Settled p' where
  once := h.once
  clean t c failed ht := by
    by_contra hfailed
    exact h.still_open t c failed ht hfailed (hp'.closed t c.id (by rw [ht]; rfl))

/-- A thread that has not taken effect owes nothing. -/
theorem fair_of_idle {p : CampaignThreads} {t : Nat} {new : CampaignStore × Task}
    (h : new.2.effective = none) : Fair p t new where
  revoked c failed _ hnew := by
    rw [hnew] at h
    exact absurd h (by simp [Task.effective])
  still_open c failed hnew := by
    rw [hnew] at h
    exact absurd h (by simp [Task.effective])
  once u id _ hnew := by
    rw [h] at hnew
    exact absurd hnew (by simp)

/-- A thread that had taken effect before is still the only one. -/
theorem once_of_effective {p : CampaignThreads} (hp : Settled p) {t : Nat} {x : Task}
    (h : x.effective = (p.task t).effective) :
    ∀ u id, u ≠ t → x.effective = some id → (p.task u).effective ≠ some id :=
  fun u id hut hx hu => hut (hp.once u t id hu (h.symm.trans hx))

/-- An update that goes through is due if the row is still open, and if a decision to
revoke can be carried out or there is nothing left to revoke. -/
theorem fair_submit_iff {p : CampaignThreads} (hl : Ledger libs p) {t : Nat}
    {req : SubmitRequest} {body : SubmitBody} {c : ReviewCampaign}
    (htask : p.task t = .submitting req body c) :
    Fair p t (next srv libs p.store false (.submitting req body c)) ↔
      Active p.store.campaigns c.id c.tenantID ∧
        (body.decision = "revoke" → srv.roleSvc = false → Revoked p.store c) := by
  have hnone : (p.task t).effective = none := by
    rw [htask]
    rfl
  have heff : (next srv libs p.store false (.submitting req body c)).2.effective = some c.id := by
    simp only [next, Bool.false_eq_true, if_false]
    split_ifs
    · rfl
    · rfl
  constructor
  · intro h
    constructor
    · rcases (hl.read t req body c htask).2 with hopen | ⟨u, hu⟩
      · exact hopen
      · -- another submit has closed it, and both take effect
        refine absurd hu (h.once u c.id ?_ heff)
        rintro rfl
        rw [hnone] at hu
        exact absurd hu (by simp)
    · intro hrevoke hsvc
      refine h.revoked (submitted c body p.store.now) [] (by rw [htask]; rfl) ?_ ?_
      · simp [next, hsvc]
      · exact congrArg some hrevoke
  · rintro ⟨hopen, hsvc⟩
    constructor
    · intro c' failed _ hnew hdecision
      simp only [next, Bool.false_eq_true, if_false] at hnew
      split_ifs at hnew with hcarry
      cases hnew
      have hrevoke : body.decision = "revoke" := Option.some.inj hdecision
      exact hsvc hrevoke (Bool.eq_false_iff.mpr fun h => hcarry ⟨hrevoke, h⟩)
    · intro c' failed hnew hfailed
      simp only [next, Bool.false_eq_true, if_false] at hnew
      split_ifs at hnew
      cases hnew
      exact absurd rfl hfailed
    · intro u id _ hnew hu
      rw [heff, Option.some.injEq] at hnew
      rw [← hnew] at hu
      exact not_both hopen (hl.closed u c.id hu)

/-- A listing is due if it does not fail, or there is nothing left to revoke. -/
theorem fair_listing_iff (hparse : ReadsBack libs) {p : CampaignThreads} (hl : Ledger libs p)
    (hp : Settled p) {t : Nat} {fault : Bool} {req : SubmitRequest} {c : ReviewCampaign}
    (htask : p.task t = .listing req c) :
    Fair p t (next srv libs p.store fault (.listing req c)) ↔
      (fault = true → Revoked p.store c) := by
  have honce := once_of_effective hp (t := t)
    (x := executeRest req c [] (if fault then [] else toRevoke p.store c))
    (by rw [executeRest_effective, htask]; rfl)
  rw [next_listing hparse]
  constructor
  · rintro h rfl
    exact h.revoked c [] (by rw [htask]; rfl) rfl (hl.decided t req c htask)
  · intro hfault
    refine ⟨fun c' failed _ hnew _ => ?_, fun c' failed hnew hfailed => ?_, honce⟩
    · obtain ⟨hnone, rfl, -⟩ := executeRest_returned_iff.mp hnew
      cases fault with
      | true => exact hfault rfl
      | false =>
        -- no item of the campaign takes a role away
        intro item hitem hcampaign hdecision
        have hmem : item ∈ toRevoke p.store c :=
          List.mem_filter.mpr ⟨hitem, by simp [hcampaign, hdecision]⟩
        rw [show toRevoke p.store c = [] from hnone] at hmem
        exact absurd hmem (by simp)
    · obtain ⟨-, -, rfl⟩ := executeRest_returned_iff.mp hnew
      exact absurd rfl hfailed

/-- A revocation is due unless it is the last of its submit, which then answers with
its failures. -/
theorem fair_revoking_iff {p : CampaignThreads} (hl : Ledger libs p) (hp : Settled p) {t : Nat}
    {fault : Bool} {req : SubmitRequest} {c : ReviewCampaign} {item : CampaignItem}
    {rest failed : List CampaignItem} (htask : p.task t = .revoking req c item rest failed) :
    Fair p t (next srv libs p.store fault (.revoking req c item rest failed)) ↔ rest ≠ [] := by
  obtain ⟨s', hnext, -, hcampaigns, -⟩ :=
    next_revoking srv libs p.store req c item rest failed fault
  have hclosed : Completed s'.campaigns c.id := by
    rw [hcampaigns]
    exact hl.closed t c.id (by rw [htask]; rfl)
  rw [hnext]
  cases rest with
  | nil =>
    refine ⟨fun h => ?_, fun h => absurd rfl h⟩
    exact absurd hclosed (h.still_open c (failed ++ [item]) rfl (by simp))
  | cons item' rest =>
    refine ⟨fun _ => by simp, fun _ => ⟨?_, ?_, ?_⟩⟩
    · intro c' failed' _ hnew
      exact absurd hnew (by simp [executeRest])
    · intro c' failed' hnew
      exact absurd hnew (by simp [executeRest])
    · exact once_of_effective hp (by rw [executeRest_effective, htask]; rfl)

/-- **One step** settles what it owes exactly if it is sound. -/
theorem settles_iff (hparse : ReadsBack libs) {p : CampaignThreads} (hl : Ledger libs p)
    (hp : Settled p) (e : CampaignEvent) :
    Settles p (campaignStep srv libs p e) ↔ Sound srv p e := by
  cases e with
  | submit t req fault =>
    refine ⟨fun _ => trivial, fun _ => ?_⟩
    rcases campaignStep_submit srv libs p t req fault with
      hstep | ⟨-, hstep⟩
    · rw [hstep]
      exact settles_of_task hp rfl
    · rw [hstep, settles_put_iff hp]
      apply fair_of_idle
      rcases submitReviewCampaign_cases srv libs p.store req fault with
        ⟨code, message, herr⟩ | ⟨body, c, hsubmit, -⟩
      · simp [herr, Task.effective]
      · simp [hsubmit, Task.effective]
  | step t fault =>
    refine (settles_put_iff hp t _).trans ?_
    cases htask : p.task t with
    | idle => exact ⟨fun _ => by simp [Sound, htask], fun _ => fair_of_idle rfl⟩
    | returned resp failed =>
      refine ⟨fun _ => by simp [Sound, htask], fun _ => ⟨?_, ?_, ?_⟩⟩
      · intro c failed' hbusy
        rw [htask] at hbusy
        exact absurd hbusy (by simp [Task.inFlight])
      · intro c failed' hnew hfailed
        exact absurd (hp.clean t c failed' (htask.trans hnew)) hfailed
      · exact once_of_effective hp (by rw [htask]; rfl)
    | submitting req body c =>
      simp only [Sound, htask]
      cases fault with
      | true => exact ⟨fun _ => Or.inl rfl, fun _ => fair_of_idle rfl⟩
      | false =>
        rw [fair_submit_iff hl htask]
        simp
    | listing req c =>
      simp only [Sound, htask]
      exact fair_listing_iff hparse hl hp htask
    | revoking req c item rest failed =>
      simp only [Sound, htask]
      exact fair_revoking_iff hl hp htask
  | create newID c => exact ⟨fun _ => trivial, fun _ => settles_of_task hp rfl⟩
  | elsewhere db items => exact ⟨fun _ => trivial, fun _ => settles_of_task hp rfl⟩
  | tick d => exact ⟨fun _ => trivial, fun _ => settles_of_task hp rfl⟩

-- ---------------------------------------------------------------------------
-- Whole runs
-- ---------------------------------------------------------------------------

/-- **A campaign is settled as it should be** exactly where every update finds its row
open, a submit that skips its revocations has nothing to revoke, and no submit gets
as far as the last of its revocations. -/
theorem submits_settle_iff (hparse : ReadsBack libs) (s : CampaignStore)
    (es : List CampaignEvent) :
    StepsOk (campaignStep srv libs) (fun p e => Settles p (campaignStep srv libs p e)) (fresh s) es
      ↔ StepsOk (campaignStep srv libs) (Sound srv) (fresh s) es := by
  have hstep : ∀ p e, Ledger libs p ∧ Settled p → Settles p (campaignStep srv libs p e) →
      Ledger libs (campaignStep srv libs p e) ∧ Settled (campaignStep srv libs p e) := by
    rintro p e ⟨hl, -⟩ hsettles
    have hl' := ledger_step srv hparse hl e
    exact ⟨hl', settled_of_settles hl' hsettles⟩
  have hiff : ∀ p e, Ledger libs p ∧ Settled p →
      (Settles p (campaignStep srv libs p e) ↔ Sound srv p e) := by
    rintro p e ⟨hl, hp⟩
    exact settles_iff hparse hl hp e
  have hfresh : Ledger libs (fresh s) ∧ Settled (fresh s) :=
    ⟨⟨by simp [fresh], by simp [fresh, Task.effective], by simp [fresh]⟩,
      ⟨by simp [fresh, Task.effective], by simp [fresh]⟩⟩
  exact stepsOk_iff_of_invariant hstep hiff hfresh

/-- **No submit takes a role from anyone**: the assignments are as the rest of the
service left them. -/
theorem assignments_kept {s : CampaignStore} {es : List CampaignEvent}
    (hes : ∀ db items, .elsewhere db items ∉ es) :
    ∀ p ∈ states (campaignStep srv libs) (fresh s) es, p.store.db = s.db := by
  have hok : StepsOk (campaignStep srv libs) (fun _ e => ∀ db items, e ≠ .elsewhere db items)
      (fresh s) es := by
    have hnone : ∀ e ∈ es, ∀ db items, e ≠ CampaignEvent.elsewhere db items := by
      rintro e he db items rfl
      exact hes db items he
    exact stepsOk_of_forall hnone
  refine invariant_states (fun p e hp he => ?_) rfl hok
  cases e with
  | submit t req fault =>
    rcases campaignStep_submit srv libs p t req fault with
      hstep | ⟨-, hstep⟩
    · rw [hstep]
      exact hp
    · rw [hstep]
      exact hp
  | step t fault =>
    show (next srv libs p.store fault (p.task t)).1.db = s.db
    rw [← hp]
    cases p.task t with
    | idle => rfl
    | returned resp failed => rfl
    | submitting req body c =>
      cases fault with
      | true => rfl
      | false => rfl
    | listing req c =>
      simp only [next]
      split
      · rfl
      · rfl
    | revoking req c item rest failed =>
      obtain ⟨s', hnext, hdb, -⟩ :=
        next_revoking srv libs p.store req c item rest failed fault
      rw [hnext]
      exact hdb
  | create newID c => exact hp
  | elsewhere db items => exact absurd rfl (he db items)
  | tick d => exact hp

end Runs

-- ---------------------------------------------------------------------------
-- One campaign
-- ---------------------------------------------------------------------------

namespace Sample

open Policy.Sample

/-- The 32 digits, wherever the dashes stand. -/
def parseUUID (s : String) : UUID × Bool :=
  let digits := (ascii s).filter (· ≠ dash)
  (BitVec.ofNat 128 (readDigits 16 digits), decide (digits.length = 32))

def libs : Libs := ⟨stdlib, parseUUID, id⟩

theorem libs_readsBack : ReadsBack libs := by
  intro u
  show (BitVec.ofNat 128 (readDigits 16 ((ascii u.string).filter (· ≠ dash))),
    decide (((ascii u.string).filter (· ≠ dash)).length = 32)) = (u, true)
  rw [u.filter_ascii_string, u.readDigits_digits, u.length_digits, BitVec.ofNat_toNat,
    BitVec.setWidth_eq]
  rfl

def srv : HTTPServer := ⟨true, true, true⟩

def campaign : ReviewCampaign :=
  ⟨30#128, tenant, "org", "", none, some 0, .active, none, none, 0, none⟩

/-- The user is to lose the reader role. -/
def item : CampaignItem := ⟨40#128, campaign.id, user, reader.id, some "revoke", none, 0⟩

/-- The user holds the reader role at the global scope. -/
def review (items : ItemTable) : CampaignStore :=
  ⟨store, ⟨[campaign], by decide⟩, items, [], 0⟩

def request (decision : String) : SubmitRequest :=
  ⟨"POST", "platform:admin", tenant.string, tenant, campaign.id.string, some ⟨decision, ""⟩⟩

/-- The campaign as a submit reads it. -/
def read : ReviewCampaign := { campaign with decision := some "", notes := some "" }

theorem isAdminRequest_request : isAdminRequest stdlib "platform:admin" = true := by
  decide

theorem submit_review (items : ItemTable) {decision : String}
    (h : decision = "approve" ∨ decision = "revoke") :
    submitReviewCampaign srv libs (review items) (request decision) false =
      .submitting (request decision) ⟨decision, ""⟩ read := by
  have hget : CampaignRepo.getByID libs (review items).campaigns campaign.id.string
      tenant.string = some read := by
    simp only [CampaignRepo.getByID, libs_readsBack campaign.id, libs_readsBack tenant]
    rfl
  have hadmin : isAdminRequest libs.std "platform:admin" = true := isAdminRequest_request
  have htenant : read.tenantID = tenant := rfl
  have hactive : read.status = .active := rfl
  unfold submitReviewCampaign
  rcases h with rfl | rfl
  · simp [request, hadmin, srv, hget, htenant, hactive]
  · simp [request, hadmin, srv, hget, htenant, hactive]

theorem step_submit (items : ItemTable) (t : Nat) {decision : String}
    (h : decision = "approve" ∨ decision = "revoke") {p : CampaignThreads}
    (hstore : p.store = review items) (hidle : p.task t = .idle) :
    campaignStep srv libs p (.submit t (request decision) false) =
      p.put t (review items, .submitting (request decision) ⟨decision, ""⟩ read) := by
  simp only [campaignStep, hidle, hstore, submit_review items h]

/-- One submit that revokes. -/
def revokes : List CampaignEvent :=
  [.submit 0 (request "revoke") false, .step 0 false, .step 0 false, .step 0 false]

/-- Two submits that have both read the campaign before either closes it. -/
def bothSubmit : List CampaignEvent :=
  [.submit 0 (request "approve") false, .submit 1 (request "revoke") false, .step 0 false,
    .step 1 false]

/-- The campaign as a submit that revokes returns it. -/
def closed : ReviewCampaign := submitted read ⟨"revoke", ""⟩ 0

/-- A submit that revokes goes on to list its items. -/
theorem next_submitting {s : CampaignStore} (hnow : s.now = 0) :
    (next srv libs s false (.submitting (request "revoke") ⟨"revoke", ""⟩ read)).2 =
        .listing (request "revoke") closed := by
  simp [next, hnow, srv, closed]

/-- The revocation of the item is the last statement of its submit. -/
theorem revoking_item : ∃ p, run (campaignStep srv libs) (fresh (review ⟨[item], by decide⟩))
      (revokes.take 3) = p ∧
    p.task 0 = .revoking (request "revoke") closed item [] [] ∧ p.store.db = store ∧
    item ∈ p.store.items := by
  have hsubmit := step_submit ⟨[item], by decide⟩ 0 (Or.inr rfl)
    (p := fresh (review ⟨[item], by decide⟩)) rfl rfl
  refine ⟨_, rfl, ?_⟩
  simp only [revokes, List.take, run, List.foldl, hsubmit]
  have hlist := next_submitting (s := review ⟨[item], by decide⟩) rfl
  simp only [campaignStep, Threads.put_task_self, Threads.put_store, hlist,
    next_listing libs_readsBack]
  exact ⟨rfl, rfl, List.mem_singleton_self item⟩

/-- The update of neither submit has run yet. -/
theorem both_submitting : ∃ p, run (campaignStep srv libs) (fresh (review .empty))
      (bothSubmit.take 2) = p ∧
    p.task 0 = .submitting (request "approve") ⟨"approve", ""⟩ read ∧
    p.task 1 = .submitting (request "revoke") ⟨"revoke", ""⟩ read := by
  have hfirst := step_submit .empty 0 (Or.inl rfl) (p := fresh (review .empty)) rfl rfl
  have hsecond := step_submit .empty 1 (Or.inr rfl)
    (p := (fresh (review .empty)).put 0
      (review .empty, .submitting (request "approve") ⟨"approve", ""⟩ read)) rfl
    (Threads.put_task_of_ne _ _ (by decide))
  refine ⟨_, rfl, ?_⟩
  simp only [bothSubmit, List.take, run, List.foldl, hfirst, hsecond]
  refine ⟨?_, Threads.put_task_self _ _ _⟩
  rw [Threads.put_task_of_ne _ _ (by decide)]
  exact Threads.put_task_self _ _ _

end Sample

/-- A campaign with nothing to revoke is closed as it should be. -/
theorem empty_campaign_settled :
    StepsOk (campaignStep Sample.srv Sample.libs) (Sound Sample.srv)
        (fresh (Sample.review .empty)) (Sample.revokes.take 3) ∧
      StepsOk (campaignStep Sample.srv Sample.libs)
        (fun p e => Settles p (campaignStep Sample.srv Sample.libs p e))
        (fresh (Sample.review .empty)) (Sample.revokes.take 3) := by
  have hsubmit := Sample.step_submit .empty 0 (Or.inr rfl) (p := fresh (Sample.review .empty)) rfl
    rfl
  have hlist := Sample.next_submitting (s := Sample.review .empty) rfl
  have hsound : StepsOk (campaignStep Sample.srv Sample.libs) (Sound Sample.srv)
      (fresh (Sample.review .empty)) (Sample.revokes.take 3) := by
    simp only [Sample.revokes, List.take, StepsOk, hsubmit]
    refine ⟨trivial, ?_, ?_, trivial⟩
    · simp only [Sound, Threads.put_task_self]
      refine Or.inr ⟨⟨Sample.campaign, rfl, rfl, rfl⟩, fun _ hsvc => ?_⟩
      exact absurd hsvc (by decide)
    · simp only [Sound, campaignStep, Threads.put_task_self, Threads.put_store, hlist]
      exact fun hfault => absurd hfault (by decide)
  exact ⟨hsound, (submits_settle_iff Sample.libs_readsBack _ _).mpr hsound⟩

/-- The submit answers success, and the user still holds the role; of two submits that
have both read the campaign, both take effect. -/
theorem reviewed_role_kept :
    ¬ StepsOk (campaignStep Sample.srv Sample.libs)
        (fun p e => Settles p (campaignStep Sample.srv Sample.libs p e))
        (fresh (Sample.review ⟨[Sample.item], by decide⟩)) Sample.revokes ∧
      ¬ StepsOk (campaignStep Sample.srv Sample.libs)
        (fun p e => Settles p (campaignStep Sample.srv Sample.libs p e))
        (fresh (Sample.review .empty)) Sample.bothSubmit := by
  constructor
  · intro h
    obtain ⟨p, hrun, htask, hdb, hitem⟩ := Sample.revoking_item
    have hlast : Settles p (campaignStep Sample.srv Sample.libs p (.step 0 false)) :=
      hrun ▸ h.2.2.2.1
    obtain ⟨s', hnext, hdb', -, hitems⟩ := next_revoking Sample.srv Sample.libs p.store
      (Sample.request "revoke") Sample.closed Sample.item [] [] false
    have hput : campaignStep Sample.srv Sample.libs p (.step 0 false) =
        p.put 0 (s', .returned (.ok Sample.closed) [Sample.item]) := by
      simp only [campaignStep, htask, hnext]
      rfl
    rw [hput] at hlast
    have hrevoked := hlast.revoked 0 Sample.closed [Sample.item] (by rw [htask]; rfl)
      (Threads.put_task_self _ _ _) rfl
    refine hrevoked Sample.item (hitems.symm ▸ hitem) rfl rfl ?_
    rw [Threads.put_store, hdb', hdb]
    exact ⟨Sample.assignment, by decide, rfl⟩
  · intro h
    obtain ⟨p, hrun, hzero, hone⟩ := Sample.both_submitting
    have hlast : Settles (campaignStep Sample.srv Sample.libs p (.step 0 false))
        (campaignStep Sample.srv Sample.libs
          (campaignStep Sample.srv Sample.libs p (.step 0 false)) (.step 1 false)) :=
      hrun ▸ h.2.2.2.1
    refine absurd (hlast.once 0 1 Sample.campaign.id ?_ ?_) (by decide)
    · simp only [campaignStep]
      rw [Threads.put_task_of_ne _ _ (by decide), Threads.put_task_self, hzero]
      rfl
    · simp only [campaignStep]
      rw [Threads.put_task_self, Threads.put_task_of_ne _ _ (by decide), hone]
      rfl

end Ggid.Policy.Campaign
