import Ggid.Go.Strings
import Ggid.Lib.Threads
import Ggid.Policy.RoleService

/-!
# Policy engine — just-in-time elevation

`server/jit_handler.go` over `repository/jit_repo.go`: a user asks for a role, an
admin approves or rejects, and an approved request binds the role to the user
until it is revoked or the janitor finds it past its expiry.

A request's status lives in `jit_requests` and the binding in `user_roles`. No
transaction spans the two, so a handler is a program of several store steps and
other handlers run in between. `Task` is what a handler has left to do after each
of its steps; `jitStep` schedules any number of them in any order.

The handlers take three things from outside the repository: package `strings`,
`uuid.Parse`, whose error they drop, and the driver's way of reading a nullable
text column into a Go string. Everything below holds for every value of them.
-/

namespace Ggid.Policy

open Ggid.Go Ggid.Lib

-- ---------------------------------------------------------------------------
-- Requests
-- ---------------------------------------------------------------------------

inductive JITStatus where
  | pending | active | rejected | revoked | expired
  | other (raw : String)
  deriving DecidableEq

/-- A row of `jit_requests`. `revokedReason` is the nullable column; in a request
the driver has read it is never `none`. -/
structure JITRequest where
  id            : UUID
  tenantID      : UUID
  userID        : UUID
  roleID        : UUID
  scopeType     : String
  scopeID       : Option UUID
  reason        : String
  durationMin   : Int
  status        : JITStatus
  approverID    : Option UUID
  approvedAt    : Option Time
  activatedAt   : Option Time
  expiresAt     : Option Time
  revokedAt     : Option Time
  revokedReason : Option String
  createdAt     : Time
  updatedAt     : Time

/-- What the handlers use of other libraries. -/
structure JITLibs where
  std : Stdlib
  /-- The first result of `uuid.Parse`. -/
  uuidParse : String → UUID
  /-- Scanning a `TEXT` column into a `string`; `none` when the driver refuses. -/
  scanText : Option String → Option String

/-- `time.Duration(n) * time.Minute`, in 64 bits. -/
def minutes (n : Int) : Int := (n * minute).bmod (2 ^ 64)

-- ---------------------------------------------------------------------------
-- `JITRequestRepository`
-- ---------------------------------------------------------------------------

abbrev JITTable := Table JITRequest.id

namespace JITRepo

/-- `Create`: the insert names neither the approval nor the revocation columns. -/
def create (requests : JITTable) (now : Time) (req : JITRequest) : Option JITTable :=
  requests.insert? { req with
    approverID := none, approvedAt := none, activatedAt := none, expiresAt := none,
    revokedAt := none, revokedReason := none, createdAt := now, updatedAt := now }

def scanJITRequest (libs : JITLibs) (row : JITRequest) : Option JITRequest :=
  (libs.scanText row.revokedReason).map fun text => { row with revokedReason := some text }

def getByID (libs : JITLibs) (requests : JITTable) (id : UUID) : Option JITRequest :=
  (requests.find? id).bind (scanJITRequest libs)

/-- The rows a conditional status update touches. -/
def inStatus (id : UUID) (status : JITStatus) (r : JITRequest) : Bool :=
  r.id = id && r.status = status

/-- `Approve`: does nothing, and says so to nobody, unless the row is pending. -/
def approve (requests : JITTable) (now : Time) (id approverID : UUID) (expiresAt : Time) :
    JITTable :=
  requests.update (inStatus id .pending)
    (fun r => { r with
      status := .active, approverID := some approverID, approvedAt := some now,
      activatedAt := some now, expiresAt := some expiresAt, updatedAt := now })
    (fun _ => rfl)

def reject (requests : JITTable) (now : Time) (id approverID : UUID) : JITTable :=
  requests.update (inStatus id .pending)
    (fun r => { r with status := .rejected, approverID := some approverID, updatedAt := now })
    (fun _ => rfl)

/-- `Revoke`: does nothing unless the row is active. -/
def revoke (requests : JITTable) (now : Time) (id : UUID) (reason : String) : JITTable :=
  requests.update (inStatus id .active)
    (fun r => { r with
      status := .revoked, revokedAt := some now, revokedReason := some reason,
      updatedAt := now })
    (fun _ => rfl)

/-- `expires_at < now()`, which is not true of a `NULL`. -/
def overdue (now : Time) (r : JITRequest) : Bool :=
  r.status = .active && r.expiresAt.any fun e => e < now

/-- `ListExpired`: rows the driver cannot read are skipped. -/
def listExpired (libs : JITLibs) (requests : JITTable) (now : Time) : List JITRequest :=
  (requests.rows.filter (overdue now)).filterMap (scanJITRequest libs)

/-- `MarkExpired`; the tenant subquery reads the row itself. -/
def markExpired (requests : JITTable) (now : Time) (id : UUID) : JITTable :=
  requests.update
    (fun r => inStatus id .active r && (requests.find? id).any fun q => r.tenantID = q.tenantID)
    (fun r => { r with status := .expired, updatedAt := now })
    (fun _ => rfl)

end JITRepo

-- ---------------------------------------------------------------------------
-- Requests to the handlers, and their answers
-- ---------------------------------------------------------------------------

/-- What a handler reads from the headers and the context. -/
structure JITHeaders where
  /-- `X-Scopes`. -/
  scopes : String
  /-- `X-User-ID`. -/
  userID : String
  /-- `ggidtenant.FromContext`. -/
  tenant : Option UUID
  /-- `tenantIDFromHTTPRequest`, which the role service reads. -/
  serviceTenant : UUID

structure JITBody where
  userID      : String
  roleID      : String
  reason      : String
  durationMin : Int
  scopeType   : String

inductive JITResponse where
  | error (code : Nat) (message : String)
  | created (req : JITRequest)
  | approved (expiresAt : Time)
  | status (text : String)

def isAdminRequest (std : Stdlib) (scopes : String) : Bool :=
  scopes ≠ "" && (Strings.split scopes.toList ',').any fun s =>
    std.trimSpace (String.ofList s) = "platform:admin"

/-- The caller's id: the nil id without a header, whatever `uuid.Parse` makes of it
otherwise. -/
def callerID (libs : JITLibs) (header : String) : UUID :=
  if header = "" then UUID.nil else libs.uuidParse header

-- ---------------------------------------------------------------------------
-- Handlers
-- ---------------------------------------------------------------------------

structure JITStore where
  db       : Database
  requests : JITTable
  now      : Time

/-- What an approval keeps of its call. -/
structure Approval where
  tenantID      : UUID
  serviceTenant : UUID
  approverID    : UUID

/-- What a handler, or the janitor, has left to do. -/
inductive Task where
  | idle
  | returned (resp : JITResponse)
  /-- `jitApprove`, before `jitRepo.Approve`. -/
  | approving (a : Approval) (req : JITRequest) (expiresAt : Time)
  /-- `jitApprove`, before `roleSvc.AssignRole`. -/
  | binding (a : Approval) (req : JITRequest) (expiresAt : Time)
  /-- `jitReject`, before `jitRepo.Reject`. -/
  | rejecting (reqID approverID : UUID)
  /-- `jitRevoke`, before `jitRepo.Revoke`. -/
  | revoking (tenantID : UUID) (req : JITRequest) (reason : String)
  /-- `jitRevoke`, before `roleSvc.RevokeRoleTemporaryOnly`. -/
  | unbinding (tenantID : UUID) (req : JITRequest)
  /-- `cleanupExpiredJIT`, before `jitRepo.MarkExpired` of the first request. -/
  | sweeping (req : JITRequest) (rest : List JITRequest)
  /-- `cleanupExpiredJIT`, before `roleSvc.RevokeRoleTemporaryOnly` for it. -/
  | expiring (req : JITRequest) (rest : List JITRequest)

def Task.inFlight : Task → Bool
  | .idle | .returned _ => false
  | _ => true

/-- The loop of `cleanupExpiredJIT` over the requests that remain. -/
def sweep : List JITRequest → Task
  | [] => .idle
  | req :: rest => .sweeping req rest

def jitCreateRequest (libs : JITLibs) (s : JITStore) (newID : UUID) (h : JITHeaders)
    (body : Option JITBody) : JITStore × Task :=
  match h.tenant with
  | none => (s, .returned (.error 400 "tenant context required"))
  | some tc =>
    match body with
    | none => (s, .returned (.error 400 "invalid request body"))
    | some req =>
      if req.userID = "" ∨ req.roleID = "" ∨ req.reason = "" then
        (s, .returned (.error 400 "user_id, role_id, and reason are required"))
      else
        let jitReq : JITRequest := {
          id := newID, tenantID := tc,
          -- the authenticated caller overrides the body
          userID := libs.uuidParse (if h.userID = "" then req.userID else h.userID),
          roleID := libs.uuidParse req.roleID,
          scopeType := if req.scopeType = "" then "tenant" else req.scopeType,
          scopeID := none, reason := req.reason,
          durationMin :=
            if req.durationMin ≤ 0 ∨ 480 < req.durationMin then 60 else req.durationMin,
          status := .pending, approverID := none, approvedAt := none, activatedAt := none,
          expiresAt := none, revokedAt := none, revokedReason := some "",
          createdAt := Time.zero, updatedAt := Time.zero }
        match JITRepo.create s.requests s.now jitReq with
        | none => (s, .returned (.error 500 "failed to create JIT request"))
        | some requests => ({ s with requests := requests }, .returned (.created jitReq))

def privilegedKeys : List String :=
  ["platform:admin", "system:admin", "tenant:admin", "administrator"]

/-- `jitApprove` up to its first write. The role it reads is not written by any
step of this module. -/
def jitApprove (libs : JITLibs) (s : JITStore) (h : JITHeaders) (reqID : UUID) : Task :=
  if !isAdminRequest libs.std h.scopes then .returned (.error 403 "admin scope required")
  else match h.tenant with
  | none => .returned (.error 400 "tenant context required")
  | some tc =>
    let approverID := callerID libs h.userID
    match JITRepo.getByID libs s.requests reqID with
    | none => .returned (.error 404 "JIT request not found")
    | some jitReq =>
      if jitReq.tenantID ≠ tc then
        .returned (.error 403 "JIT request does not belong to caller's tenant")
      else if jitReq.status ≠ .pending then .returned (.error 409 "JIT request is not pending")
      else if approverID = jitReq.userID then
        .returned (.error 403 "cannot approve your own JIT request")
      else
        let expiresAt := s.now + minutes jitReq.durationMin
        match RoleService.getRole s.db h.serviceTenant jitReq.roleID with
        | .error _ => .returned (.error 403 "cannot resolve role for JIT approval")
        | .ok role =>
          if role.systemRole then .returned (.error 403 "cannot grant system role via JIT")
          else if privilegedKeys.contains role.key then
            .returned (.error 403 "cannot grant instance-level role via JIT")
          else .approving ⟨tc, h.serviceTenant, approverID⟩ jitReq expiresAt

/-- `jitReject` up to its write. -/
def jitReject (libs : JITLibs) (s : JITStore) (h : JITHeaders) (reqID : UUID) : Task :=
  if !isAdminRequest libs.std h.scopes then .returned (.error 403 "admin scope required")
  else match h.tenant with
  | none => .returned (.error 400 "tenant context required")
  | some tc =>
    match JITRepo.getByID libs s.requests reqID with
    | none => .returned (.error 404 "JIT request not found")
    | some jitReq =>
      if jitReq.tenantID ≠ tc then .returned (.error 404 "JIT request not found")
      else .rejecting reqID (callerID libs h.userID)

/-- `jitRevoke` up to its first write; `body` is the decoded reason. The request's
status is not looked at. -/
def jitRevoke (libs : JITLibs) (s : JITStore) (h : JITHeaders) (body : Option String)
    (reqID : UUID) : Task :=
  if !isAdminRequest libs.std h.scopes then .returned (.error 403 "admin scope required")
  else match h.tenant with
  | none => .returned (.error 400 "tenant context required")
  | some tc =>
    match body with
    | none => .returned (.error 400 "invalid request body")
    | some reason =>
      match JITRepo.getByID libs s.requests reqID with
      | none => .returned (.error 404 "JIT request not found")
      | some jitReq =>
        if jitReq.tenantID ≠ tc then .returned (.error 404 "JIT request not found")
        else .revoking tc jitReq (if reason = "" then "manual_revoke" else reason)

/-- `cleanupExpiredJIT` up to its first write. -/
def cleanupExpiredJIT (libs : JITLibs) (s : JITStore) : Task :=
  sweep (JITRepo.listExpired libs s.requests s.now)

/-- `roleSvc.AssignRole` on the request's binding; a refusal is only logged. -/
def bindRole (s : JITStore) (a : Approval) (req : JITRequest) : JITStore :=
  match RoleService.assignRole s.db s.now a.serviceTenant req.userID req.roleID .global
      a.tenantID a.approverID (some (s.now + minutes req.durationMin)) with
  | .ok db => { s with db := db }
  | .error _ => s

/-- `roleSvc.RevokeRoleTemporaryOnly` on the request's binding, the error dropped. -/
def unbind (s : JITStore) (tenantID : UUID) (req : JITRequest) : JITStore :=
  match RoleService.revokeRoleTemporaryOnly s.db req.userID req.roleID .global tenantID with
  | .ok db => { s with db := db }
  | .error _ => s

/-- The next store step of a task. -/
def next (s : JITStore) : Task → JITStore × Task
  | .idle => (s, .idle)
  | .returned resp => (s, .returned resp)
  | .approving a req expiresAt =>
    ({ s with requests := JITRepo.approve s.requests s.now req.id a.approverID expiresAt },
      .binding a req expiresAt)
  | .binding a req expiresAt => (bindRole s a req, .returned (.approved expiresAt))
  | .rejecting reqID approverID =>
    ({ s with requests := JITRepo.reject s.requests s.now reqID approverID },
      .returned (.status "rejected"))
  | .revoking tenantID req reason =>
    ({ s with requests := JITRepo.revoke s.requests s.now req.id reason },
      .unbinding tenantID req)
  | .unbinding tenantID req => (unbind s tenantID req, .returned (.status "revoked"))
  | .sweeping req rest =>
    ({ s with requests := JITRepo.markExpired s.requests s.now req.id }, .expiring req rest)
  | .expiring req rest => (unbind s req.tenantID req, sweep rest)

-- ---------------------------------------------------------------------------
-- Interleavings
-- ---------------------------------------------------------------------------

inductive JITOp where
  | create (newID : UUID) (h : JITHeaders) (body : Option JITBody)
  | approve (h : JITHeaders) (reqID : UUID)
  | reject (h : JITHeaders) (reqID : UUID)
  | revoke (h : JITHeaders) (body : Option String) (reqID : UUID)
  | cleanup

/-- The first store step of an operation. -/
def enter (libs : JITLibs) (s : JITStore) : JITOp → JITStore × Task
  | .create newID h body => jitCreateRequest libs s newID h body
  | .approve h reqID => (s, jitApprove libs s h reqID)
  | .reject h reqID => (s, jitReject libs s h reqID)
  | .revoke h body reqID => (s, jitRevoke libs s h body reqID)
  | .cleanup => (s, cleanupExpiredJIT libs s)

inductive JITEvent where
  /-- A free thread takes up an operation. -/
  | start (t : Nat) (op : JITOp)
  /-- A busy thread runs its next store step. -/
  | step (t : Nat)
  | tick (d : Nat)

abbrev JITThreads := Threads JITStore Task

def jitStep (libs : JITLibs) (p : JITThreads) : JITEvent → JITThreads
  | .start t op => if (p.task t).inFlight then p else p.put t (enter libs p.store op)
  | .step t => p.put t (next p.store (p.task t))
  | .tick d => { p with store := { p.store with now := p.store.now + d } }

/-- A busy thread takes up nothing new. -/
theorem jitStep_start (libs : JITLibs) (p : JITThreads) (t : Nat) (op : JITOp) :
    jitStep libs p (.start t op) = p ∨
      ((p.task t).inFlight = false ∧
        jitStep libs p (.start t op) = p.put t (enter libs p.store op)) := by
  cases hbusy : (p.task t).inFlight with
  | true => exact Or.inl (if_pos hbusy)
  | false => exact Or.inr ⟨rfl, if_neg (by simp [hbusy])⟩

-- ---------------------------------------------------------------------------
-- What the statements do to assignments
-- ---------------------------------------------------------------------------

abbrev AssignmentKey := UUID × UUID × ScopeType × UUID

/-- The row of `user_roles` an approval writes and a revocation deletes. -/
def bindingKey (tenantID userID roleID : UUID) : AssignmentKey :=
  (userID, roleID, .global, tenantID)

def JITRequest.binding (r : JITRequest) : AssignmentKey := bindingKey r.tenantID r.userID r.roleID

/-- The assignment at `k` now exists with the expiry `exp`; the others are as before. -/
structure Rebound (db db' : Database) (k : AssignmentKey) (exp : Option Time) : Prop where
  roles  : db'.roles = db.roles
  others : ∀ ur, ur.key ≠ k → (ur ∈ db'.userRoles ↔ ur ∈ db.userRoles)
  expiry : ∀ ur ∈ db'.userRoles, ur.key = k → ur.expiresAt = exp
  exists_row : ∃ ur ∈ db'.userRoles, ur.key = k

/-- The tenant the role service sees does not get in the way of the scope. -/
def Approval.Aligned (a : Approval) : Prop :=
  a.tenantID = UUID.nil ∨ a.serviceTenant = UUID.nil ∨ a.serviceTenant = a.tenantID

section Assignments

variable {db db' : Database} {now : Time} {tenantID userID roleID scopeID grantedBy : UUID}
  {scopeType : ScopeType} {exp : Option Time}

theorem UserRoleRepo.assign_ok {ur : UserRole} (h : UserRoleRepo.assign db now ur = .ok db') :
    Rebound db db' ur.key ur.expiresAt := by
  unfold UserRoleRepo.assign at h
  split at h
  · exact absurd h (by simp)
  · split at h
    · exact absurd h (by simp)
    · rw [Except.ok.injEq] at h
      subst h
      refine ⟨rfl, ?_, ?_, ?_⟩
      · intro row hne
        refine Table.mem_upsert.trans ⟨?_, fun hrow => Or.inl ⟨hrow, hne⟩⟩
        rintro (⟨hrow, -⟩ | ⟨c, -, hkey, rfl⟩ | ⟨-, rfl⟩)
        · exact hrow
        · exact absurd hkey hne
        · exact absurd rfl hne
      · intro row hrow hkey
        rcases Table.mem_upsert.mp hrow with ⟨-, hne⟩ | ⟨c, -, -, rfl⟩ | ⟨-, rfl⟩
        · exact absurd hkey hne
        · rfl
        · rfl
      · by_cases htaken : ∃ c ∈ db.userRoles, c.key = ur.key
        · obtain ⟨c, hc, hkey⟩ := htaken
          exact ⟨{ c with grantedBy := ur.grantedBy, expiresAt := ur.expiresAt },
            Table.mem_upsert.mpr (Or.inr (Or.inl ⟨c, hc, hkey, rfl⟩)), hkey⟩
        · have hfree : ∀ c ∈ db.userRoles, c.key ≠ ur.key :=
            fun c hc hkey => htaken ⟨c, hc, hkey⟩
          exact ⟨{ ur with createdAt := now },
            Table.mem_upsert.mpr (Or.inr (Or.inr ⟨hfree, rfl⟩)), rfl⟩

theorem RoleService.assignRole_ok
    (h : RoleService.assignRole db now tenantID userID roleID scopeType scopeID grantedBy exp
      = .ok db') : Rebound db db' (userID, roleID, scopeType, scopeID) exp := by
  unfold RoleService.assignRole at h
  split at h
  · exact absurd h (by simp)
  · split at h
    · exact absurd h (by simp)
    · split at h
      · exact absurd h (by simp)
      · exact UserRoleRepo.assign_ok h

theorem RoleService.revokeRole_ok
    (h : RoleService.revokeRole db tenantID userID roleID scopeType scopeID = .ok db') :
    db'.roles = db.roles ∧ ∀ ur, ur ∈ db'.userRoles ↔
      ur ∈ db.userRoles ∧ ur.key ≠ (userID, roleID, scopeType, scopeID) := by
  unfold RoleService.revokeRole at h
  split at h
  · exact absurd h (by simp)
  · split at h
    · exact absurd h (by simp)
    · unfold UserRoleRepo.revoke at h
      split at h
      · exact absurd h (by simp)
      · rw [Except.ok.injEq] at h
        subst h
        exact ⟨rfl, fun ur => by simp [UserRoleRepo.hasKey]⟩

-- `bindRole` and `unbind`

theorem bindRole_cases (s : JITStore) (a : Approval) (req : JITRequest) :
    bindRole s a req = s ∨ ∃ db',
      Rebound s.db db' (bindingKey a.tenantID req.userID req.roleID)
        (some (s.now + minutes req.durationMin)) ∧
      bindRole s a req = { s with db := db' } := by
  unfold bindRole
  split
  · rename_i db' hok
    exact Or.inr ⟨db', RoleService.assignRole_ok hok, rfl⟩
  · exact Or.inl rfl

@[simp] theorem bindRole_requests (s : JITStore) (a : Approval) (req : JITRequest) :
    (bindRole s a req).requests = s.requests := by
  rcases bindRole_cases s a req with h | ⟨db', -, h⟩ <;> rw [h]

@[simp] theorem bindRole_now (s : JITStore) (a : Approval) (req : JITRequest) :
    (bindRole s a req).now = s.now := by
  rcases bindRole_cases s a req with h | ⟨db', -, h⟩ <;> rw [h]

@[simp] theorem bindRole_roles (s : JITStore) (a : Approval) (req : JITRequest) :
    (bindRole s a req).db.roles = s.db.roles := by
  rcases bindRole_cases s a req with h | ⟨db', hdb, h⟩
  · rw [h]
  · rw [h]
    exact hdb.roles

/-- The role is bound if it resolves and the two tenants agree. -/
theorem bindRole_of_aligned {s : JITStore} {a : Approval} {req : JITRequest} {role : Role}
    (hself : req.userID ≠ a.approverID)
    (hrole : RoleService.getRole s.db a.serviceTenant req.roleID = .ok role) (h : a.Aligned) :
    Rebound s.db (bindRole s a req).db (bindingKey a.tenantID req.userID req.roleID)
      (some (s.now + minutes req.durationMin)) := by
  obtain ⟨hmem, hid, htenant⟩ := RoleRepo.getByID_ok hrole
  have hfk : s.db.roles.find? req.roleID = some role := Table.find?_eq_some_iff.mpr ⟨hmem, hid⟩
  have hscope : RoleService.outsideScope role a.tenantID = false := by
    unfold RoleService.outsideScope
    rw [htenant]
    rcases h with h | h | h <;> simp [h]
  have hok : ∃ db', RoleService.assignRole s.db s.now a.serviceTenant req.userID req.roleID .global
      a.tenantID a.approverID (some (s.now + minutes req.durationMin)) = .ok db' := by
    unfold RoleService.getRole at hrole
    unfold RoleService.assignRole
    rw [if_neg hself, hrole]
    simp only [hscope, Bool.false_eq_true, if_false]
    unfold UserRoleRepo.assign
    simp [UserRoleRepo.validScope, hfk]
  obtain ⟨db', hok⟩ := hok
  unfold bindRole
  rw [hok]
  exact RoleService.assignRole_ok hok

/-- It is refused if they do not. -/
theorem bindRole_of_not_aligned {s : JITStore} {a : Approval} {req : JITRequest}
    (h : ¬ a.Aligned) : bindRole s a req = s := by
  have herr : ∃ err, RoleService.assignRole s.db s.now a.serviceTenant req.userID req.roleID
      .global a.tenantID a.approverID (some (s.now + minutes req.durationMin)) = .error err := by
    unfold RoleService.assignRole
    split
    · exact ⟨_, rfl⟩
    · split
      · exact ⟨_, rfl⟩
      · rename_i role hrole
        obtain ⟨-, -, htenant⟩ := RoleRepo.getByID_ok hrole
        have hout : RoleService.outsideScope role a.tenantID = true := by
          unfold Approval.Aligned at h
          unfold RoleService.outsideScope
          rw [htenant]
          simp only [not_or] at h
          simp [h]
        rw [if_pos hout]
        exact ⟨_, rfl⟩
  obtain ⟨err, herr⟩ := herr
  unfold bindRole
  rw [herr]

/-- Only the temporary row goes. -/
theorem mem_unbind {s : JITStore} {req : JITRequest} {ur : UserRole} :
    ur ∈ (unbind s tenantID req).db.userRoles ↔
      ur ∈ s.db.userRoles ∧
        (ur.key = bindingKey tenantID req.userID req.roleID → ur.expiresAt = none) := by
  show ur ∈ s.db.userRoles.delete _ ↔ _
  rw [Table.mem_delete]
  simp only [UserRoleRepo.hasKey, bindingKey, Bool.and_eq_false_imp, decide_eq_true_eq,
    Option.isSome_eq_false_iff, Option.isNone_iff_eq_none]

end Assignments

end Ggid.Policy
