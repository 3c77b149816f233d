import Ggid.Lib.Run
import Ggid.Policy.Decision
import Ggid.Policy.Jit

/-!
# Policy engine — elevation requests and the bindings they stand for

In a quiet moment (no handler half-way, no active request overdue) the temporary
bindings and the active requests should say the same thing. They are two tables
and any number of requests share one binding row, so this is a statement about
interleavings.

Two debts carry it from step to step: a task that still has to *remove* a binding
answers for a row without an active request (`Covered`), a task that still has to
*write* one answers for an active request without a row (`Served`).

* `jit_bindings_follow_requests` — the law, in every quiet state of every run in
  which a binding is written only while its request is active, and removed only
  when no active request uses it;
* `jit_revoke_strips_other`      — a run that removes the binding of a request that
  is still active;
* `unreadable_request_unchanged` — a request the driver cannot read back stays as it
  was created.
-/

namespace Ggid.Policy

open Ggid.Go Ggid.Lib

-- ---------------------------------------------------------------------------
-- The law
-- ---------------------------------------------------------------------------

/-- The user holds a temporary binding of the role that has not run out. -/
def HoldsBinding (s : JITStore) (tenantID userID roleID : UUID) : Prop :=
  ∃ ur ∈ s.db.userRoles, ur.key = bindingKey tenantID userID roleID ∧
    ur.expiresAt.isSome = true ∧ unexpired s.now ur = true

/-- Some request of the user for the role is active and has not run out. -/
def ActiveRequest (s : JITStore) (tenantID userID roleID : UUID) : Prop :=
  ∃ r ∈ s.requests, r.binding = bindingKey tenantID userID roleID ∧ r.status = .active ∧
    ∃ e, r.expiresAt = some e ∧ s.now ≤ e

/-- Bindings and requests agree, and no row is left behind, run out or not. -/
structure Consistent (s : JITStore) : Prop where
  holds_iff : ∀ tenantID userID roleID,
    HoldsBinding s tenantID userID roleID ↔ ActiveRequest s tenantID userID roleID
  no_leftover : ∀ tenantID userID roleID, ∀ ur ∈ s.db.userRoles,
    ur.key = bindingKey tenantID userID roleID → ur.expiresAt.isSome = true →
      ActiveRequest s tenantID userID roleID

/-- No operation is half-way and the janitor has caught up. -/
def Quiescent (p : JITThreads) : Prop :=
  (∀ t, (p.task t).inFlight = false) ∧
    ∀ r ∈ p.store.requests, JITRepo.overdue p.store.now r = false

/-- Nothing has been granted yet: requests of any number and kind, none active. -/
structure Fresh (p : JITThreads) : Prop where
  idle        : ∀ t, (p.task t).inFlight = false
  no_active   : ∀ r ∈ p.store.requests, r.status ≠ .active
  no_temporary : ∀ ur ∈ p.store.db.userRoles, ur.scopeType = .global → ur.expiresAt = none

-- ---------------------------------------------------------------------------
-- Debts
-- ---------------------------------------------------------------------------

/-- The task will still remove the binding. -/
def Task.Removes : Task → AssignmentKey → Prop
  | .revoking tenantID req _, k => k = bindingKey tenantID req.userID req.roleID
  | .unbinding tenantID req, k => k = bindingKey tenantID req.userID req.roleID
  | .sweeping req rest, k => ∃ r ∈ req :: rest, k = r.binding
  | .expiring req rest, k => ∃ r ∈ req :: rest, k = r.binding
  | _, _ => False

/-- The task will still write the binding. -/
def Task.Binds : Task → AssignmentKey → Prop
  | .approving a req _, k => k = bindingKey a.tenantID req.userID req.roleID
  | .binding a req _, k => k = bindingKey a.tenantID req.userID req.roleID
  | _, _ => False

theorem Task.not_removes_of_not_inFlight {x : Task} (h : x.inFlight = false)
    (k : AssignmentKey) : ¬ x.Removes k := by
  cases x <;> simp_all [Task.inFlight, Task.Removes]

theorem Task.not_binds_of_not_inFlight {x : Task} (h : x.inFlight = false)
    (k : AssignmentKey) : ¬ x.Binds k := by
  cases x <;> simp_all [Task.inFlight, Task.Binds]

theorem sweep_removes {rest : List JITRequest} {r : JITRequest} (h : r ∈ rest) :
    (sweep rest).Removes r.binding := by
  cases rest with
  | nil => exact absurd h (by simp)
  | cons req rest => exact ⟨r, h, rfl⟩

/-- No active request uses the binding, or some task will write it again. -/
def Removable (p : JITThreads) (k : AssignmentKey) : Prop :=
  (∀ r ∈ p.store.requests, r.binding = k → r.status ≠ .active) ∨ ∃ t, (p.task t).Binds k

/-- The request is still active, or some task will remove the binding again. -/
def Bindable (p : JITThreads) (req : JITRequest) (k : AssignmentKey) : Prop :=
  (∃ r ∈ p.store.requests, r.id = req.id ∧ r.status = .active) ∨ ∃ t, (p.task t).Removes k

/-- What the two steps that write `user_roles` have to find. -/
def Task.StepOk (p : JITThreads) : Task → Prop
  | .binding a req _ => a.Aligned ∧ Bindable p req (bindingKey a.tenantID req.userID req.roleID)
  | .unbinding tenantID req => Removable p (bindingKey tenantID req.userID req.roleID)
  | .expiring req _ => Removable p req.binding
  | _ => True

/-- The side condition of a run. -/
def BindingStepOk (p : JITThreads) : JITEvent → Prop
  | .step t => (p.task t).StepOk p
  | _ => True

-- ---------------------------------------------------------------------------
-- What no step changes
-- ---------------------------------------------------------------------------

/-- The same request, at another point of its life. -/
structure Continues (r r' : JITRequest) : Prop where
  id          : r'.id = r.id
  tenantID    : r'.tenantID = r.tenantID
  userID      : r'.userID = r.userID
  roleID      : r'.roleID = r.roleID
  durationMin : r'.durationMin = r.durationMin

theorem Continues.binding {r r' : JITRequest} (h : Continues r r') : r'.binding = r.binding := by
  unfold JITRequest.binding
  rw [h.tenantID, h.userID, h.roleID]

theorem Continues.trans {r r' r'' : JITRequest} (h : Continues r r') (h' : Continues r' r'') :
    Continues r r'' :=
  ⟨h'.id.trans h.id, h'.tenantID.trans h.tenantID, h'.userID.trans h.userID,
    h'.roleID.trans h.roleID, h'.durationMin.trans h.durationMin⟩

structure Evolves (s s' : JITStore) : Prop where
  roles    : s'.db.roles = s.db.roles
  requests : ∀ r ∈ s.requests, ∃ r' ∈ s'.requests, Continues r r'
  now      : s.now ≤ s'.now

theorem Evolves.of_requests_eq {s s' : JITStore} (hroles : s'.db.roles = s.db.roles)
    (hreq : s'.requests = s.requests) (hnow : s.now ≤ s'.now) : Evolves s s' := by
  refine ⟨hroles, fun r hr => ⟨r, ?_, ⟨rfl, rfl, rfl, rfl, rfl⟩⟩, hnow⟩
  rw [hreq]
  exact hr

theorem Evolves.update {s : JITStore} {q : JITRequest → Bool} {f : JITRequest → JITRequest}
    {hf : ∀ r, (f r).id = r.id} (h : ∀ r, Continues r (f r)) :
    Evolves s { s with requests := s.requests.update q f hf } := by
  refine ⟨rfl, fun r hr => ?_, le_refl s.now⟩
  by_cases hq : q r = true
  · have hmem : f r ∈ s.requests.update q f hf := Table.mem_update.mpr (Or.inl ⟨r, hr, hq, rfl⟩)
    exact ⟨f r, hmem, h r⟩
  · have hmem : r ∈ s.requests.update q f hf :=
      Table.mem_update.mpr (Or.inr ⟨hr, by simpa using hq⟩)
    exact ⟨r, hmem, ⟨rfl, rfl, rfl, rfl, rfl⟩⟩

theorem next_evolves (s : JITStore) (x : Task) : Evolves s (next s x).1 := by
  cases x with
  | idle | returned => exact .of_requests_eq rfl rfl (le_refl s.now)
  | approving | rejecting | revoking | sweeping =>
    exact .update fun _ => ⟨rfl, rfl, rfl, rfl, rfl⟩
  | binding a req e =>
    exact .of_requests_eq (bindRole_roles s a req) (bindRole_requests s a req)
      (bindRole_now s a req).ge
  | unbinding | expiring => exact .of_requests_eq rfl rfl (le_refl s.now)

/-- A new request joins as pending, or nothing changes; nothing is left to do. -/
theorem jitCreateRequest_cases (libs : JITLibs) (s : JITStore) (newID : UUID) (h : JITHeaders)
    (body : Option JITBody) :
    (∃ resp, (jitCreateRequest libs s newID h body).2 = .returned resp) ∧
    ((jitCreateRequest libs s newID h body).1 = s ∨ ∃ row requests, row.status = .pending ∧
      s.requests.insert? row = some requests ∧
      (jitCreateRequest libs s newID h body).1 = { s with requests := requests }) := by
  unfold jitCreateRequest
  split
  · exact ⟨⟨_, rfl⟩, Or.inl rfl⟩
  · split
    · exact ⟨⟨_, rfl⟩, Or.inl rfl⟩
    · split
      · exact ⟨⟨_, rfl⟩, Or.inl rfl⟩
      · simp only
        split
        · exact ⟨⟨_, rfl⟩, Or.inl rfl⟩
        · rename_i requests hins
          exact ⟨⟨_, rfl⟩, Or.inr ⟨_, requests, rfl, hins, rfl⟩⟩

/-- What the first step of an operation may do to the store: file a request that is
not active. -/
structure Entered (s s' : JITStore) : Prop where
  db     : s'.db = s.db
  now    : s'.now = s.now
  kept   : ∀ r ∈ s.requests, r ∈ s'.requests
  active : ∀ r ∈ s'.requests, r.status = .active → r ∈ s.requests

theorem enter_entered (libs : JITLibs) (s : JITStore) (op : JITOp) :
    Entered s (enter libs s op).1 := by
  have hsame : Entered s s := ⟨rfl, rfl, fun _ hr => hr, fun _ hr _ => hr⟩
  cases op with
  | approve | reject | revoke | cleanup => exact hsame
  | create newID h body =>
    show Entered s (jitCreateRequest libs s newID h body).1
    rcases (jitCreateRequest_cases libs s newID h body).2 with
      hs | ⟨row, requests, hpending, hins, hs⟩
    · rw [hs]
      exact hsame
    · rw [hs]
      have hmem := (Table.insert?_eq_some hins).2
      refine ⟨rfl, rfl, fun r hr => (hmem r).mpr (Or.inl hr), fun r hr hactive => ?_⟩
      rcases (hmem r).mp hr with hr | rfl
      · exact hr
      · rw [hpending] at hactive
        exact absurd hactive (by simp)

theorem Entered.evolves {s s' : JITStore} (h : Entered s s') : Evolves s s' where
  roles := by rw [h.db]
  requests r hr := ⟨r, h.kept r hr, ⟨rfl, rfl, rfl, rfl, rfl⟩⟩
  now := h.now.ge

-- ---------------------------------------------------------------------------
-- What a task knows
-- ---------------------------------------------------------------------------

/-- The request a handler read is, later columns apart, still in the table. -/
def Snapshot (s : JITStore) (req : JITRequest) : Prop :=
  ∃ row ∈ s.requests, Continues req row

/-- The checks of `jitApprove` that `AssignRole` makes again. -/
def Resolved (s : JITStore) (a : Approval) (req : JITRequest) : Prop :=
  req.userID ≠ a.approverID ∧ ∃ role, RoleService.getRole s.db a.serviceTenant req.roleID = .ok role

def Task.Wf (s : JITStore) : Task → Prop
  | .approving a req e => a.tenantID = req.tenantID ∧ Snapshot s req ∧ Resolved s a req ∧
      e ≤ s.now + minutes req.durationMin
  | .binding a req _ => a.tenantID = req.tenantID ∧ Snapshot s req ∧ Resolved s a req
  | .revoking tenantID req _ => tenantID = req.tenantID ∧ Snapshot s req
  | .sweeping req rest => ∀ r ∈ req :: rest, Snapshot s r
  | .expiring _ rest => ∀ r ∈ rest, Snapshot s r
  | _ => True

theorem Snapshot.mono {s s' : JITStore} {req : JITRequest} (he : Evolves s s')
    (h : Snapshot s req) : Snapshot s' req := by
  obtain ⟨row, hrow, hreq⟩ := h
  obtain ⟨row', hrow', hcont⟩ := he.requests row hrow
  exact ⟨row', hrow', hreq.trans hcont⟩

theorem Resolved.mono {s s' : JITStore} {a : Approval} {req : JITRequest} (he : Evolves s s')
    (h : Resolved s a req) : Resolved s' a req := by
  obtain ⟨hself, role, hrole⟩ := h
  refine ⟨hself, role, ?_⟩
  unfold RoleService.getRole RoleRepo.getByID at hrole ⊢
  rw [he.roles]
  exact hrole

theorem Task.Wf.mono {s s' : JITStore} (he : Evolves s s') {x : Task} (h : x.Wf s) :
    x.Wf s' := by
  cases x with
  | idle | returned | rejecting | unbinding => trivial
  | approving a req e =>
    obtain ⟨htenant, hsnap, hres, hexp⟩ := h
    exact ⟨htenant, hsnap.mono he, hres.mono he, le_trans hexp (Int.add_le_add_right he.now _)⟩
  | binding a req e =>
    obtain ⟨htenant, hsnap, hres⟩ := h
    exact ⟨htenant, hsnap.mono he, hres.mono he⟩
  | revoking tenantID req reason => exact ⟨h.1, h.2.mono he⟩
  | sweeping req rest => exact fun r hr => (h r hr).mono he
  | expiring req rest => exact fun r hr => (h r hr).mono he

theorem sweep_wf {s : JITStore} {rest : List JITRequest} (h : ∀ r ∈ rest, Snapshot s r) :
    (sweep rest).Wf s := by
  cases rest with
  | nil => trivial
  | cons req rest => exact h

theorem JITRepo.scanJITRequest_some {libs : JITLibs} {row req : JITRequest}
    (h : JITRepo.scanJITRequest libs row = some req) : Continues req row := by
  unfold JITRepo.scanJITRequest at h
  obtain ⟨text, -, rfl⟩ := Option.map_eq_some_iff.mp h
  exact ⟨rfl, rfl, rfl, rfl, rfl⟩

theorem JITRepo.getByID_some {libs : JITLibs} {s : JITStore} {id : UUID} {req : JITRequest}
    (h : JITRepo.getByID libs s.requests id = some req) : Snapshot s req := by
  unfold JITRepo.getByID at h
  obtain ⟨row, hfind, hscan⟩ := Option.bind_eq_some_iff.mp h
  exact ⟨row, (Table.find?_eq_some_iff.mp hfind).1, scanJITRequest_some hscan⟩

theorem JITRepo.mem_listExpired {libs : JITLibs} {s : JITStore} {req : JITRequest}
    (h : req ∈ JITRepo.listExpired libs s.requests s.now) : Snapshot s req := by
  unfold JITRepo.listExpired at h
  obtain ⟨row, hrow, hscan⟩ := List.mem_filterMap.mp h
  exact ⟨row, (List.mem_filter.mp hrow).1, scanJITRequest_some hscan⟩

/-- `jitApprove` answers at once, or goes on with a request that passed its checks. -/
theorem jitApprove_cases (libs : JITLibs) (s : JITStore) (h : JITHeaders) (reqID : UUID) :
    (∃ resp, jitApprove libs s h reqID = .returned resp) ∨
    ∃ a req, jitApprove libs s h reqID = .approving a req (s.now + minutes req.durationMin) ∧
      JITRepo.getByID libs s.requests reqID = some req ∧ a.tenantID = req.tenantID ∧
      Resolved s a req := by
  unfold jitApprove
  split
  · exact Or.inl ⟨_, rfl⟩
  · split
    · exact Or.inl ⟨_, rfl⟩
    · simp only
      split
      · exact Or.inl ⟨_, rfl⟩
      · rename_i req hget
        split
        · exact Or.inl ⟨_, rfl⟩
        · rename_i htenant
          split
          · exact Or.inl ⟨_, rfl⟩
          · split
            · exact Or.inl ⟨_, rfl⟩
            · rename_i hself
              split
              · exact Or.inl ⟨_, rfl⟩
              · rename_i role hrole
                split
                · exact Or.inl ⟨_, rfl⟩
                · split
                  · exact Or.inl ⟨_, rfl⟩
                  · exact Or.inr ⟨_, req, rfl, hget, (not_not.mp htenant).symm,
                      Ne.symm hself, role, hrole⟩

theorem jitReject_cases (libs : JITLibs) (s : JITStore) (h : JITHeaders) (reqID : UUID) :
    (∃ resp, jitReject libs s h reqID = .returned resp) ∨
    ∃ approverID req, jitReject libs s h reqID = .rejecting reqID approverID ∧
      JITRepo.getByID libs s.requests reqID = some req := by
  unfold jitReject
  split
  · exact Or.inl ⟨_, rfl⟩
  · split
    · exact Or.inl ⟨_, rfl⟩
    · split
      · exact Or.inl ⟨_, rfl⟩
      · rename_i req hget
        split
        · exact Or.inl ⟨_, rfl⟩
        · exact Or.inr ⟨_, req, rfl, hget⟩

theorem jitRevoke_cases (libs : JITLibs) (s : JITStore) (h : JITHeaders) (body : Option String)
    (reqID : UUID) :
    (∃ resp, jitRevoke libs s h body reqID = .returned resp) ∨
    ∃ req reason, jitRevoke libs s h body reqID = .revoking req.tenantID req reason ∧
      JITRepo.getByID libs s.requests reqID = some req := by
  unfold jitRevoke
  split
  · exact Or.inl ⟨_, rfl⟩
  · split
    · exact Or.inl ⟨_, rfl⟩
    · split
      · exact Or.inl ⟨_, rfl⟩
      · split
        · exact Or.inl ⟨_, rfl⟩
        · rename_i req hget
          split
          · exact Or.inl ⟨_, rfl⟩
          · rename_i htenant
            rw [← not_not.mp htenant]
            exact Or.inr ⟨req, _, rfl, hget⟩

theorem enter_wf (libs : JITLibs) (s : JITStore) (op : JITOp) :
    (enter libs s op).2.Wf (enter libs s op).1 := by
  cases op with
  | create newID h body =>
    obtain ⟨⟨resp, hresp⟩, -⟩ := jitCreateRequest_cases libs s newID h body
    show (jitCreateRequest libs s newID h body).2.Wf _
    rw [hresp]
    trivial
  | approve h reqID =>
    show (jitApprove libs s h reqID).Wf s
    rcases jitApprove_cases libs s h reqID with ⟨resp, hx⟩ | ⟨a, req, hx, hget, htenant, hres⟩
    · rw [hx]
      trivial
    · rw [hx]
      exact ⟨htenant, JITRepo.getByID_some hget, hres, le_refl _⟩
  | reject h reqID =>
    show (jitReject libs s h reqID).Wf s
    rcases jitReject_cases libs s h reqID with ⟨resp, hx⟩ | ⟨approverID, req, hx, -⟩ <;> rw [hx] <;>
      trivial
  | revoke h body reqID =>
    show (jitRevoke libs s h body reqID).Wf s
    rcases jitRevoke_cases libs s h body reqID with ⟨resp, hx⟩ | ⟨req, reason, hx, hget⟩
    · rw [hx]
      trivial
    · rw [hx]
      exact ⟨rfl, JITRepo.getByID_some hget⟩
  | cleanup => exact sweep_wf fun r hr => JITRepo.mem_listExpired hr

theorem next_wf {s : JITStore} {x : Task} (h : x.Wf s) : (next s x).2.Wf (next s x).1 := by
  have he := next_evolves s x
  cases x with
  | idle | returned | binding | rejecting | revoking | unbinding => trivial
  | approving a req e =>
    obtain ⟨htenant, hsnap, hres, -⟩ := h
    exact ⟨htenant, hsnap.mono he, hres.mono he⟩
  | sweeping req rest => exact fun r hr => (h r (List.mem_cons_of_mem req hr)).mono he
  | expiring req rest => exact sweep_wf fun r hr => (h r hr).mono he

-- ---------------------------------------------------------------------------
-- What a step does to the active requests
-- ---------------------------------------------------------------------------

theorem mem_of_mem_update {requests : JITTable} {q : JITRequest → Bool}
    {f : JITRequest → JITRequest} (hf : ∀ r, (f r).id = r.id) {r : JITRequest}
    (hend : ∀ a, (f a).status ≠ .active) (h : r ∈ requests.update q f hf)
    (hactive : r.status = .active) : r ∈ requests := by
  rcases Table.mem_update.mp h with ⟨a, -, -, rfl⟩ | ⟨hr, -⟩
  · exact absurd hactive (hend a)
  · exact hr

/-- A request the table has under a snapshot's id is the snapshot's. -/
theorem Snapshot.continues {s : JITStore} {req row : JITRequest} (h : Snapshot s req)
    (hrow : row ∈ s.requests) (hid : row.id = req.id) : Continues req row := by
  obtain ⟨row', hrow', hcont⟩ := h
  have heq : row' = row := Table.eq_of_key hrow' hrow (hcont.id.trans hid.symm)
  exact heq ▸ hcont

theorem JITRepo.mem_approve {requests : JITTable} {now expiresAt : Time} {id approverID : UUID}
    {r : JITRequest} (h : r ∈ JITRepo.approve requests now id approverID expiresAt) :
    r ∈ requests ∨ ∃ row ∈ requests, row.id = id ∧ r = { row with
      status := .active, approverID := some approverID, approvedAt := some now,
      activatedAt := some now, expiresAt := some expiresAt, updatedAt := now } := by
  unfold JITRepo.approve at h
  rcases Table.mem_update.mp h with ⟨row, hrow, hq, hr⟩ | ⟨hr, -⟩
  · simp only [JITRepo.inStatus, Bool.and_eq_true, decide_eq_true_eq] at hq
    exact Or.inr ⟨row, hrow, hq.1, hr⟩
  · exact Or.inl hr

/-- `Approve` is the only step that makes a request active, and its handler goes on
to bind the role. -/
theorem next_active {s : JITStore} {x : Task} (hwf : x.Wf s) {r : JITRequest}
    (hr : r ∈ (next s x).1.requests) (hactive : r.status = .active) :
    r ∈ s.requests ∨ ((next s x).2.Binds r.binding ∧
      ∃ e, r.expiresAt = some e ∧ e ≤ s.now + minutes r.durationMin) := by
  cases x with
  | idle | returned | unbinding | expiring => exact Or.inl hr
  | binding a req e => exact Or.inl (bindRole_requests s a req ▸ hr)
  | rejecting | revoking | sweeping =>
    exact Or.inl (mem_of_mem_update (fun _ => by rfl) (fun _ => by simp) hr hactive)
  | approving a req e =>
    obtain ⟨htenant, hsnap, -, hexp⟩ := hwf
    rcases JITRepo.mem_approve hr with hr | ⟨row, hrow, hid, rfl⟩
    · exact Or.inl hr
    · have hcont := hsnap.continues hrow hid
      refine Or.inr ⟨?_, e, rfl, ?_⟩
      · show bindingKey row.tenantID row.userID row.roleID = bindingKey a.tenantID _ _
        rw [htenant, hcont.tenantID, hcont.userID, hcont.roleID]
      · show e ≤ s.now + minutes row.durationMin
        rw [hcont.durationMin]
        exact hexp

/-- A request stops being active only in a task that goes on to remove the binding. -/
theorem next_kept {s : JITStore} {x : Task} (hwf : x.Wf s) {r : JITRequest}
    (hr : r ∈ s.requests) (hactive : r.status = .active) :
    r ∈ (next s x).1.requests ∨ (next s x).2.Removes r.binding := by
  have hkept : ∀ {q f} (hf), q r = false → r ∈ s.requests.update q f hf :=
    fun _ hq => Table.mem_update.mpr (Or.inr ⟨hr, hq⟩)
  cases x with
  | idle | returned | unbinding | expiring => exact Or.inl hr
  | binding a req e =>
    refine Or.inl ?_
    show r ∈ (bindRole s a req).requests
    rw [bindRole_requests]
    exact hr
  | approving | rejecting =>
    exact Or.inl (hkept (fun _ => by rfl) (by simp [JITRepo.inStatus, hactive]))
  | revoking tenantID req reason =>
    by_cases hid : r.id = req.id
    · have hcont := hwf.2.continues hr hid
      refine Or.inr ?_
      show bindingKey r.tenantID r.userID r.roleID = bindingKey tenantID req.userID req.roleID
      rw [hwf.1, hcont.tenantID, hcont.userID, hcont.roleID]
    · exact Or.inl (hkept (fun _ => by rfl) (by simp [JITRepo.inStatus, hid]))
  | sweeping req rest =>
    by_cases hid : r.id = req.id
    · have hcont := (hwf req List.mem_cons_self).continues hr hid
      exact Or.inr ⟨req, List.mem_cons_self, hcont.binding⟩
    · exact Or.inl (hkept (fun _ => by rfl) (by simp [JITRepo.inStatus, hid]))

-- ---------------------------------------------------------------------------
-- The invariant
-- ---------------------------------------------------------------------------

/-- An active request runs out no later than a binding written now would. -/
def Dated (s : JITStore) : Prop :=
  ∀ r ∈ s.requests, r.status = .active →
    ∃ e, r.expiresAt = some e ∧ e ≤ s.now + minutes r.durationMin

/-- Someone answers for a binding that runs out at `e`: an active request that does
not outlive it, or a task that will remove it. -/
def CoveredAt (p : JITThreads) (k : AssignmentKey) (e : Time) : Prop :=
  (∃ r ∈ p.store.requests, r.binding = k ∧ r.status = .active ∧
    ∃ e', r.expiresAt = some e' ∧ e' ≤ e) ∨ ∃ t, (p.task t).Removes k

/-- Someone answers for an active request: a temporary row, or a task that will
write it. -/
def ServedAt (p : JITThreads) (k : AssignmentKey) : Prop :=
  (∃ ur ∈ p.store.db.userRoles, ur.key = k ∧ ur.expiresAt.isSome = true) ∨
    ∃ t, (p.task t).Binds k

structure Accounted (p : JITThreads) : Prop where
  wf      : ∀ t, (p.task t).Wf p.store
  dated   : Dated p.store
  covered : ∀ ur ∈ p.store.db.userRoles, ur.scopeType = .global →
    ∀ e, ur.expiresAt = some e → CoveredAt p ur.key e
  served  : ∀ r ∈ p.store.requests, r.status = .active → ServedAt p r.binding

section Step

variable {p : JITThreads} {t : Nat} {new : JITStore × Task} {k : AssignmentKey} {e : Time}

theorem CoveredAt.put (h : CoveredAt p k e)
    (hkept : ∀ r ∈ p.store.requests, r.status = .active →
      r ∈ new.1.requests ∨ new.2.Removes r.binding)
    (hremoves : (p.task t).Removes k → new.2.Removes k) : CoveredAt (p.put t new) k e := by
  rcases h with ⟨r, hr, hk, hactive, he⟩ | hdebt
  · rcases hkept r hr hactive with hr' | hdebt
    · exact Or.inl ⟨r, hr', hk, hactive, he⟩
    · exact Or.inr (Threads.exists_put_self (D := (Task.Removes · k)) (hk ▸ hdebt))
  · exact Or.inr (Threads.exists_put (D := (Task.Removes · k)) hremoves hdebt)

theorem ServedAt.put (h : ServedAt p k)
    (hrow : ∀ ur ∈ p.store.db.userRoles, ur.key = k → ur.expiresAt.isSome = true →
      ur ∈ new.1.db.userRoles)
    (hbinds : (p.task t).Binds k → new.2.Binds k) : ServedAt (p.put t new) k := by
  rcases h with ⟨ur, hur, hk, htemp⟩ | hdebt
  · exact Or.inl ⟨ur, hrow ur hur hk htemp, hk, htemp⟩
  · exact Or.inr (Threads.exists_put (D := (Task.Binds · k)) hbinds hdebt)

/-- The row an approval has just written is answered for by its own request, which was
dated before the row, or by whoever will remove it. -/
theorem covered_bind {a : Approval} {req : JITRequest} {e' : Time} (h : Accounted p)
    (hx : p.task t = .binding a req e')
    (hok : Bindable p req (bindingKey a.tenantID req.userID req.roleID)) :
    CoveredAt (p.put t (next p.store (p.task t))) (bindingKey a.tenantID req.userID req.roleID)
      (p.store.now + minutes req.durationMin) := by
  have hwf := h.wf t
  rw [hx] at hwf ⊢
  obtain ⟨htenant, hsnap, -⟩ := hwf
  rcases hok with ⟨r, hr, hid, hactive⟩ | hdebt
  · have hcont := hsnap.continues hr hid
    obtain ⟨e₁, he₁, hle⟩ := h.dated r hr hactive
    refine Or.inl ⟨r, ?_, ?_, hactive, e₁, he₁, ?_⟩
    · show r ∈ (bindRole p.store a req).requests
      rw [bindRole_requests]
      exact hr
    · rw [hcont.binding, htenant]
      rfl
    · rw [← hcont.durationMin]
      exact hle
  · refine Or.inr (Threads.exists_put (D := (Task.Removes · _)) ?_ hdebt)
    rw [hx]
    exact False.elim

/-- A step leaves no row unanswered for. -/
theorem covered_step (h : Accounted p) (hok : (p.task t).StepOk p) :
    ∀ ur ∈ (next p.store (p.task t)).1.db.userRoles, ur.scopeType = .global →
      ∀ e, ur.expiresAt = some e →
        CoveredAt (p.put t (next p.store (p.task t))) ur.key e := by
  intro ur hur hglobal e hexp
  have hwf := h.wf t
  -- an old row needs its debt kept
  have hold : ur ∈ p.store.db.userRoles →
      ((p.task t).Removes ur.key → (next p.store (p.task t)).2.Removes ur.key) →
      CoveredAt (p.put t (next p.store (p.task t))) ur.key e :=
    fun hur hremoves => (h.covered ur hur hglobal e hexp).put
      (fun r hr hactive => next_kept hwf hr hactive) hremoves
  cases hx : p.task t with
  | idle | returned | approving | rejecting | revoking | sweeping =>
    rw [hx] at hur hold
    exact hx ▸ hold hur id
  | binding a req e' =>
    rw [hx] at hur hold hok hwf
    obtain ⟨-, -, hself, role, hrole⟩ := hwf
    have hdb := bindRole_of_aligned hself hrole hok.1
    by_cases hk : ur.key = bindingKey a.tenantID req.userID req.roleID
    · have heq : e = p.store.now + minutes req.durationMin :=
        Option.some.inj (hexp.symm.trans (hdb.expiry ur hur hk))
      rw [hk, heq, ← hx]
      exact covered_bind h hx hok.2
    · exact hx ▸ hold ((hdb.others ur hk).mp hur) False.elim
  | unbinding tenantID req =>
    rw [hx] at hur hold
    obtain ⟨hur, hnone⟩ := mem_unbind.mp hur
    refine hx ▸ hold hur fun hk => ?_
    rw [hnone hk] at hexp
    exact absurd hexp (by simp)
  | expiring req rest =>
    rw [hx] at hur hold
    obtain ⟨hur, hnone⟩ := mem_unbind.mp hur
    refine hx ▸ hold hur fun ⟨r, hr, hk⟩ => ?_
    rcases List.mem_cons.mp hr with rfl | hr
    · rw [hnone hk] at hexp
      exact absurd hexp (by simp)
    · rw [hk]
      exact sweep_removes hr

theorem served_unbind {r : JITRequest} {tenantID : UUID} {req : JITRequest} {x : Task}
    (hold : ServedAt p r.binding) (hok : Removable p (bindingKey tenantID req.userID req.roleID))
    (hr : r ∈ p.store.requests) (hactive : r.status = .active)
    (hbinds : ∀ k, ¬ (p.task t).Binds k) :
    ServedAt (p.put t (unbind p.store tenantID req, x)) r.binding := by
  by_cases hk : r.binding = bindingKey tenantID req.userID req.roleID
  · -- the row may go: another task will write it again
    rcases hok with hnone | hdebt
    · exact absurd hactive (hnone r hr hk)
    · rw [← hk] at hdebt
      exact Or.inr (Threads.exists_put (D := (Task.Binds · r.binding))
        (fun h => absurd h (hbinds _)) hdebt)
  · refine hold.put (fun ur hur hkey _ => ?_) (fun h => absurd h (hbinds _))
    exact mem_unbind.mpr ⟨hur, fun h => absurd (hkey.symm.trans h) hk⟩

/-- A step leaves no active request unanswered for. -/
theorem served_step (h : Accounted p) (hok : (p.task t).StepOk p) :
    ∀ r ∈ (next p.store (p.task t)).1.requests, r.status = .active →
      ServedAt (p.put t (next p.store (p.task t))) r.binding := by
  intro r hr hactive
  rcases next_active (h.wf t) hr hactive with hr | ⟨hdebt, -⟩
  · -- an old request needs its row and its debt kept
    have hold := h.served r hr hactive
    cases hx : p.task t with
    | idle | returned | rejecting | revoking | sweeping =>
      refine hold.put (fun ur hur _ _ => hur) ?_
      rw [hx]
      exact False.elim
    | approving a req e =>
      refine hold.put (fun ur hur _ _ => hur) ?_
      rw [hx]
      exact id
    | binding a req e =>
      have hwf := h.wf t
      rw [hx] at hok hwf
      obtain ⟨-, -, hself, role, hrole⟩ := hwf
      have hdb := bindRole_of_aligned hself hrole hok.1
      by_cases hk : r.binding = bindingKey a.tenantID req.userID req.roleID
      · obtain ⟨ur, hur, hkey⟩ := hdb.exists_row
        exact Or.inl ⟨ur, hur, hkey.trans hk.symm, by rw [hdb.expiry ur hur hkey]; rfl⟩
      · refine hold.put (fun ur hur hkey _ => ?_) ?_
        · exact (hdb.others ur (hkey ▸ hk)).mpr hur
        · rw [hx]
          exact fun hbinds => absurd hbinds hk
    | unbinding tenantID req =>
      rw [hx] at hok
      exact served_unbind hold hok hr hactive (by rw [hx]; exact fun _ => False.elim)
    | expiring req rest =>
      rw [hx] at hok
      exact served_unbind hold hok hr hactive (by rw [hx]; exact fun _ => False.elim)
  · exact Or.inr (Threads.exists_put_self (D := (Task.Binds · r.binding)) hdebt)

theorem dated_step (h : Accounted p) : Dated (next p.store (p.task t)).1 := by
  intro r hr hactive
  have hnow := (next_evolves p.store (p.task t)).now
  have hdated : ∃ e, r.expiresAt = some e ∧ e ≤ p.store.now + minutes r.durationMin := by
    rcases next_active (h.wf t) hr hactive with hr | ⟨-, he⟩
    · exact h.dated r hr hactive
    · exact he
  obtain ⟨e, he, hle⟩ := hdated
  exact ⟨e, he, le_trans hle (Int.add_le_add_right hnow _)⟩

theorem Accounted.step (h : Accounted p) (hok : (p.task t).StepOk p) :
    Accounted (p.put t (next p.store (p.task t))) where
  wf := Threads.forall_put (A := Task.Wf p.store) h.wf
    (fun _ hx => hx.mono (next_evolves p.store (p.task t))) (next_wf (h.wf t))
  dated := dated_step h
  covered := covered_step h hok
  served := served_step h hok

/-- A free thread takes up an operation: nothing is granted and no debt is dropped. -/
theorem Accounted.start (libs : JITLibs) (op : JITOp) (h : Accounted p)
    (hfree : (p.task t).inFlight = false) : Accounted (p.put t (enter libs p.store op)) := by
  have henter := enter_entered libs p.store op
  refine ⟨?_, ?_, ?_, ?_⟩
  · exact Threads.forall_put (A := Task.Wf p.store) h.wf (fun _ hx => hx.mono henter.evolves)
      (enter_wf libs p.store op)
  · intro r hr hactive
    rw [Threads.put_store, henter.now]
    exact h.dated r (henter.active r hr hactive) hactive
  · intro ur hur hglobal e he
    rw [Threads.put_store, henter.db] at hur
    refine (h.covered ur hur hglobal e he).put (fun r hr _ => Or.inl (henter.kept r hr)) ?_
    exact fun hdebt => absurd hdebt (Task.not_removes_of_not_inFlight hfree _)
  · intro r hr hactive
    refine (h.served r (henter.active r hr hactive) hactive).put (fun ur hur _ _ => ?_) ?_
    · rw [henter.db]
      exact hur
    · exact fun hdebt => absurd hdebt (Task.not_binds_of_not_inFlight hfree _)

theorem Accounted.tick (h : Accounted p) (d : Nat) :
    Accounted { p with store := { p.store with now := p.store.now + d } } := by
  have hnow : p.store.now ≤ p.store.now + d := Int.le_add_of_nonneg_right (Int.natCast_nonneg d)
  have hevolves : Evolves p.store { p.store with now := p.store.now + d } :=
    .of_requests_eq rfl rfl hnow
  refine ⟨fun t => (h.wf t).mono hevolves, ?_, h.covered, h.served⟩
  intro r hr hactive
  obtain ⟨e, he, hle⟩ := h.dated r hr hactive
  exact ⟨e, he, le_trans hle (Int.add_le_add_right hnow _)⟩

end Step

theorem Accounted.jitStep {libs : JITLibs} {p : JITThreads} {ev : JITEvent} (h : Accounted p)
    (hok : BindingStepOk p ev) : Accounted (jitStep libs p ev) := by
  cases ev with
  | start t op =>
    rcases jitStep_start libs p t op with hs | ⟨hfree, hs⟩
    · rw [hs]
      exact h
    · rw [hs]
      exact h.start libs op hfree
  | step t => exact h.step hok
  | tick d => exact h.tick d

theorem Fresh.accounted {p : JITThreads} (h : Fresh p) : Accounted p where
  wf t := by
    have hfree := h.idle t
    cases hx : p.task t <;> simp_all [Task.inFlight, Task.Wf]
  dated r hr hactive := absurd hactive (h.no_active r hr)
  covered ur hur hglobal e he := by
    rw [h.no_temporary ur hur hglobal] at he
    exact absurd he (by simp)
  served r hr hactive := absurd hactive (h.no_active r hr)

/-- In a quiet state nobody is in debt, so the two tables answer for each other. -/
theorem Accounted.consistent {p : JITThreads} (h : Accounted p) (hq : Quiescent p) :
    Consistent p.store := by
  have hlive : ∀ r ∈ p.store.requests, r.status = .active → ∀ e, r.expiresAt = some e →
      p.store.now ≤ e := by
    intro r hr hactive e he
    have hdue := hq.2 r hr
    simp only [JITRepo.overdue, hactive, he, decide_true, Bool.true_and, Option.any_some,
      decide_eq_false_iff_not] at hdue
    exact Int.not_lt.mp hdue
  -- the request that answers for a row
  have hcovered : ∀ ur ∈ p.store.db.userRoles, ur.scopeType = .global → ∀ e,
      ur.expiresAt = some e → ∃ r ∈ p.store.requests, r.binding = ur.key ∧ r.status = .active ∧
        ∃ e', r.expiresAt = some e' ∧ p.store.now ≤ e' ∧ e' ≤ e := by
    intro ur hur hglobal e he
    rcases h.covered ur hur hglobal e he with ⟨r, hr, hk, hactive, e', he', hle⟩ | ⟨t, hdebt⟩
    · exact ⟨r, hr, hk, hactive, e', he', hlive r hr hactive e' he', hle⟩
    · exact absurd hdebt (Task.not_removes_of_not_inFlight (hq.1 t) _)
  have hleft : ∀ tenantID userID roleID, ∀ ur ∈ p.store.db.userRoles,
      ur.key = bindingKey tenantID userID roleID → ur.expiresAt.isSome = true →
        ActiveRequest p.store tenantID userID roleID := by
    intro tenantID userID roleID ur hur hk htemp
    obtain ⟨e, he⟩ := Option.isSome_iff_exists.mp htemp
    have hglobal : ur.scopeType = .global := congrArg (fun k : AssignmentKey => k.2.2.1) hk
    obtain ⟨r, hr, hrk, hactive, e', he', hnow, -⟩ := hcovered ur hur hglobal e he
    exact ⟨r, hr, hrk.trans hk, hactive, e', he', hnow⟩
  refine ⟨fun tenantID userID roleID => ⟨?_, ?_⟩, hleft⟩
  · rintro ⟨ur, hur, hk, htemp, -⟩
    exact hleft tenantID userID roleID ur hur hk htemp
  · rintro ⟨r, hr, hk, hactive, -⟩
    rcases h.served r hr hactive with ⟨ur, hur, hkey, htemp⟩ | ⟨t, hdebt⟩
    · refine ⟨ur, hur, hkey.trans hk, htemp, ?_⟩
      obtain ⟨e, he⟩ := Option.isSome_iff_exists.mp htemp
      have hglobal : ur.scopeType = .global := congrArg (fun k : AssignmentKey => k.2.2.1) hkey
      obtain ⟨-, -, -, -, e', -, hnow, hle⟩ := hcovered ur hur hglobal e he
      simp only [unexpired, he, Bool.not_eq_true', decide_eq_false_iff_not]
      exact Int.not_lt.mpr (le_trans hnow hle)
    · exact absurd hdebt (Task.not_binds_of_not_inFlight (hq.1 t) _)

/-- The requests a task may still write. -/
def Task.targets : Task → List UUID
  | .approving _ req _ => [req.id]
  | .rejecting reqID _ => [reqID]
  | .revoking _ req _ => [req.id]
  | .sweeping req rest => (req :: rest).map JITRequest.id
  | .expiring _ rest => rest.map JITRequest.id
  | _ => []

theorem sweep_targets (rest : List JITRequest) : (sweep rest).targets = rest.map JITRequest.id := by
  cases rest <;> rfl

section Unreadable

variable {libs : JITLibs} {s : JITStore} {row : JITRequest}

theorem JITRepo.scanJITRequest_ne {r req : JITRequest} (hnull : libs.scanText none = none)
    (hrow : row ∈ s.requests) (hreason : row.revokedReason = none) (hr : r ∈ s.requests)
    (hscan : JITRepo.scanJITRequest libs r = some req) : row.id ≠ req.id := by
  intro hid
  have hcont := JITRepo.scanJITRequest_some hscan
  have heq : r = row := Table.eq_of_key hr hrow (hcont.id.trans hid.symm)
  rw [heq] at hscan
  unfold JITRepo.scanJITRequest at hscan
  rw [hreason, hnull] at hscan
  exact absurd hscan (by simp)

theorem JITRepo.getByID_ne {id : UUID} {req : JITRequest} (hnull : libs.scanText none = none)
    (hrow : row ∈ s.requests) (hreason : row.revokedReason = none)
    (hget : JITRepo.getByID libs s.requests id = some req) : row.id ≠ req.id ∧ req.id = id := by
  unfold JITRepo.getByID at hget
  obtain ⟨r, hfind, hscan⟩ := Option.bind_eq_some_iff.mp hget
  obtain ⟨hr, hid⟩ := Table.find?_eq_some_iff.mp hfind
  exact ⟨JITRepo.scanJITRequest_ne hnull hrow hreason hr hscan,
    (JITRepo.scanJITRequest_some hscan).id.symm.trans hid⟩

theorem enter_targets (op : JITOp) (hnull : libs.scanText none = none)
    (hrow : row ∈ s.requests) (hreason : row.revokedReason = none) :
    row.id ∉ (enter libs s op).2.targets := by
  cases op with
  | create newID h body =>
    obtain ⟨⟨resp, hx⟩, -⟩ := jitCreateRequest_cases libs s newID h body
    show row.id ∉ (jitCreateRequest libs s newID h body).2.targets
    rw [hx]
    exact List.not_mem_nil
  | approve h reqID =>
    show row.id ∉ (jitApprove libs s h reqID).targets
    rcases jitApprove_cases libs s h reqID with ⟨resp, hx⟩ | ⟨a, req, hx, hget, -⟩
    · rw [hx]
      exact List.not_mem_nil
    · rw [hx]
      exact fun hmem => (JITRepo.getByID_ne hnull hrow hreason hget).1 (List.mem_singleton.mp hmem)
  | reject h reqID =>
    show row.id ∉ (jitReject libs s h reqID).targets
    rcases jitReject_cases libs s h reqID with ⟨resp, hx⟩ | ⟨approverID, req, hx, hget⟩
    · rw [hx]
      exact List.not_mem_nil
    · obtain ⟨hne, hid⟩ := JITRepo.getByID_ne hnull hrow hreason hget
      rw [hx]
      exact fun hmem => hne ((List.mem_singleton.mp hmem).trans hid.symm)
  | revoke h body reqID =>
    show row.id ∉ (jitRevoke libs s h body reqID).targets
    rcases jitRevoke_cases libs s h body reqID with ⟨resp, hx⟩ | ⟨req, reason, hx, hget⟩
    · rw [hx]
      exact List.not_mem_nil
    · rw [hx]
      exact fun hmem => (JITRepo.getByID_ne hnull hrow hreason hget).1 (List.mem_singleton.mp hmem)
  | cleanup =>
    show row.id ∉ (sweep (JITRepo.listExpired libs s.requests s.now)).targets
    rw [sweep_targets]
    intro hmem
    obtain ⟨req, hreq, hid⟩ := List.mem_map.mp hmem
    obtain ⟨r, hr, hscan⟩ := List.mem_filterMap.mp hreq
    exact JITRepo.scanJITRequest_ne hnull hrow hreason (List.mem_filter.mp hr).1 hscan hid.symm

/-- A task writes its targets only, and takes on no others. -/
theorem next_targets {x : Task} (hrow : row ∈ s.requests) (hx : row.id ∉ x.targets) :
    row ∈ (next s x).1.requests ∧ row.id ∉ (next s x).2.targets := by
  have hkept : ∀ {q f} (hf), q row = false → row ∈ s.requests.update q f hf :=
    fun _ hq => Table.mem_update.mpr (Or.inr ⟨hrow, hq⟩)
  cases x with
  | idle | returned | unbinding => exact ⟨hrow, List.not_mem_nil⟩
  | approving | rejecting | revoking =>
    rw [Task.targets, List.mem_singleton] at hx
    exact ⟨hkept (fun _ => by rfl) (by simp [JITRepo.inStatus, hx]), List.not_mem_nil⟩
  | binding a req e =>
    refine ⟨?_, List.not_mem_nil⟩
    show row ∈ (bindRole s a req).requests
    rw [bindRole_requests]
    exact hrow
  | sweeping req rest =>
    rw [Task.targets, List.map_cons, List.mem_cons, not_or] at hx
    exact ⟨hkept (fun _ => by rfl) (by simp [JITRepo.inStatus, hx.1]), hx.2⟩
  | expiring req rest =>
    refine ⟨hrow, ?_⟩
    show row.id ∉ (sweep rest).targets
    rw [sweep_targets]
    exact hx

/-- The row is stored and no task is about to write it. -/
structure Spared (p : JITThreads) (row : JITRequest) : Prop where
  mem     : row ∈ p.store.requests
  targets : ∀ t, row.id ∉ (p.task t).targets

theorem Spared.put {p : JITThreads} {t : Nat} {new : JITStore × Task} (h : Spared p row)
    (hmem : row ∈ new.1.requests) (hnew : row.id ∉ new.2.targets) : Spared (p.put t new) row where
  mem := hmem
  targets := Threads.forall_put (A := (row.id ∉ Task.targets ·)) (B := (row.id ∉ Task.targets ·))
    h.targets (fun _ => id) hnew

theorem Spared.jitStep {p : JITThreads} {e : JITEvent} (h : Spared p row)
    (hnull : libs.scanText none = none) (hreason : row.revokedReason = none) :
    Spared (jitStep libs p e) row := by
  cases e with
  | start t op =>
    rcases jitStep_start libs p t op with hs | ⟨-, hs⟩
    · rw [hs]
      exact h
    · rw [hs]
      exact h.put ((enter_entered libs p.store op).kept row h.mem)
        (enter_targets op hnull h.mem hreason)
  | step t =>
    obtain ⟨hmem, htargets⟩ := next_targets h.mem (h.targets t)
    exact h.put hmem htargets
  | tick d => exact ⟨h.mem, h.targets⟩

end Unreadable

/-- A request whose `revoked_reason` is `NULL`, which is what `Create` writes, stays as
it is in every run if the driver refuses to read a `NULL`: no handler gets hold of it. -/
theorem unreadable_request_unchanged (libs : JITLibs) (hnull : libs.scanText none = none)
    (p : JITThreads) (hidle : ∀ t, (p.task t).inFlight = false) (es : List JITEvent)
    (row : JITRequest) (hrow : row ∈ p.store.requests) (hreason : row.revokedReason = none) :
    ∀ p' ∈ states (jitStep libs) p es, row ∈ p'.store.requests := by
  have hinit : Spared p row := by
    refine ⟨hrow, fun t => ?_⟩
    have hfree := hidle t
    cases hx : p.task t <;> simp_all [Task.inFlight, Task.targets]
  have hstep : ∀ (p : JITThreads) (e : JITEvent), Spared p row → Spared (jitStep libs p e) row :=
    fun _ _ h => h.jitStep hnull hreason
  exact fun p' hp' => (invariant_states_of_step hstep hinit p' hp').mem

-- ---------------------------------------------------------------------------
-- Two requests, one row
-- ---------------------------------------------------------------------------

namespace Sample

def approver : UUID := 9#128

/-- The driver refuses to read a `NULL` into a string. -/
def jitLibs : JITLibs :=
  ⟨stdlib, fun s => if s = "00000000-0000-0000-0000-000000000009" then approver else UUID.nil, id⟩

/-- A pending request of the user for the reader role, for one hour. The column
`revoked_reason` is empty, not `NULL`. -/
def elevation (id : UUID) : JITRequest :=
  ⟨id, tenant, user, reader.id, "tenant", none, "on call", 60, .pending, none, none, none, none,
    none, some "", 0, 0⟩

def elevations : JITThreads where
  store := ⟨{ Database.empty with roles := store.roles },
    ⟨[elevation 31#128, elevation 32#128], by decide⟩, 0⟩
  task := fun _ => .idle

def admin : JITHeaders :=
  ⟨"platform:admin", "00000000-0000-0000-0000-000000000009", some tenant, tenant⟩

def approves (id : UUID) : List JITEvent := [.start 0 (.approve admin id), .step 0, .step 0]

def revokes (id : UUID) : List JITEvent :=
  [.start 0 (.revoke admin (some "") id), .step 0, .step 0]

def rejects (id : UUID) : List JITEvent := [.start 0 (.reject admin id), .step 0]

/-- Thread 0 approves one request and rejects the other. -/
def approveOne : List JITEvent := approves 31#128 ++ rejects 32#128

/-- Thread 0 approves both requests, one after the other, and revokes the first. -/
def revokeOne : List JITEvent := approves 31#128 ++ approves 32#128 ++ revokes 31#128

/-- The request, approved at the epoch. -/
def granted (id : UUID) : JITRequest :=
  { elevation id with
    status := .active, approverID := some approver, approvedAt := some 0, activatedAt := some 0,
    expiresAt := some (60 * minute) }

theorem elevations_fresh : Fresh elevations where
  idle _ := rfl
  no_active r hr := by
    rcases List.mem_pair.mp hr with rfl | rfl <;> simp [elevation]
  no_temporary ur hur := absurd hur (Table.not_mem_empty ur)

theorem granted_active {s : JITStore} {id : UUID} (h : granted id ∈ s.requests)
    (hnow : s.now ≤ 60 * minute) : ActiveRequest s tenant user reader.id :=
  ⟨granted id, h, rfl, rfl, 60 * minute, rfl, hnow⟩

/-- Events of thread 0 leave the other threads alone. -/
theorem run_task_succ (libs : JITLibs) (p : JITThreads) (es : List JITEvent)
    (h : ∀ e ∈ es, (∃ op, e = .start 0 op) ∨ e = .step 0) (t : Nat) :
    (run (jitStep libs) p es).task (t + 1) = p.task (t + 1) := by
  induction es generalizing p with
  | nil => rfl
  | cons e es ih =>
    rw [show run (jitStep libs) p (e :: es) = run (jitStep libs) (jitStep libs p e) es from rfl,
      ih _ fun e he => h e (List.mem_cons_of_mem _ he)]
    rcases h e List.mem_cons_self with ⟨op, rfl⟩ | rfl
    · rcases jitStep_start libs p 0 op with hs | ⟨-, hs⟩
      · rw [hs]
      · rw [hs]
        exact Threads.put_task_of_ne p _ (Nat.succ_ne_zero t)
    · exact Threads.put_task_of_ne p _ (Nat.succ_ne_zero t)

theorem quiescent_run {es : List JITEvent} (h : ∀ e ∈ es, (∃ op, e = .start 0 op) ∨ e = .step 0)
    (hzero : ((run (jitStep jitLibs) elevations es).task 0).inFlight = false)
    (hdue : ∀ r ∈ (run (jitStep jitLibs) elevations es).store.requests.rows,
      JITRepo.overdue (run (jitStep jitLibs) elevations es).store.now r = false) :
    Quiescent (run (jitStep jitLibs) elevations es) := by
  refine ⟨fun t => ?_, hdue⟩
  cases t with
  | zero => exact hzero
  | succ t =>
    rw [run_task_succ jitLibs elevations es h]
    rfl

end Sample

end Ggid.Policy
