import Ggid.Policy.Decision

/-!
# Policy engine — editing a policy

`PUT` and `PATCH` on `/api/v1/policies/{id}` (`server/http.go`) delete the policy
and create it again through `service.PolicyService`. Either statement can also
fail for reasons outside the service (connection, timeout); `Faults` names them,
so that both failure points of the handler are in the model.

An edit is *atomic and framed* (`AtomicFramed`) when a successful answer leaves
the policy under its id with its attachments, its conditions and every field
that was not sent, and an error leaves the store as it was.

* `policyUpdate_atomicFramed_iff` — the edit is atomic and framed exactly when it
  is turned down before it writes anything, or both statements fail;
* `policyUpdate_detaches`         — an edit of a policy attached to one user.
-/

namespace Ggid.Policy

open Ggid.Go Ggid.Lib

-- ---------------------------------------------------------------------------
-- `PolicyService`
-- ---------------------------------------------------------------------------

/-- Statements that fail in the driver, with the driver's message. -/
structure Faults where
  read   : Option String
  delete : Option String
  insert : Option String

/-- Every statement reaches the database. -/
def Faults.none : Faults := ⟨.none, .none, .none⟩

namespace PolicyService

/-- A deny policy without a priority gets a high one. -/
def defaultPriority (p : Policy) : Int :=
  if p.priority = 0 ∧ p.effect = .deny then 100 else p.priority

/-- `CreatePolicy`. The slices of a request are nil when the body has no such
field. -/
def createPolicy (db : Database) (faults : Faults) (newID : UUID) (now : Time) (p : Policy)
    (actions resources : Option (List String)) : Except GGIDError (Policy × Database) :=
  if p.effect ≠ .allow ∧ p.effect ≠ .deny then
    .error (.new .invalidArgument "effect must be 'allow' or 'deny'")
  else
    match faults.insert with
    | some message => .error (.wrap .internal "create policy" (.driver message))
    | none =>
      match PolicyRepo.create db newID now { p with priority := defaultPriority p }
          actions resources with
      | .error err => .error (.wrap .internal "create policy" err)
      | .ok created => .ok created

def getPolicy (db : Database) (faults : Faults) (tenantID id : UUID) : Except GGIDError Policy :=
  match faults.read with
  | some message => .error (mapErr (.driver message))
  | none => PolicyRepo.getByID db tenantID id

def deletePolicy (db : Database) (faults : Faults) (tenantID id : UUID) :
    Except GGIDError Database :=
  match faults.delete with
  | some message => .error (.driver message)
  | none => PolicyRepo.delete db tenantID id

end PolicyService

-- ---------------------------------------------------------------------------
-- `handlePolicyByID`, `PUT` and `PATCH`
-- ---------------------------------------------------------------------------

/-- The request body; `none` for a field that was not sent. The `tenant_id` field
is decoded and never read. -/
structure PolicyBody where
  tenantID    : Option String
  name        : Option String
  description : Option String
  effect      : Option String
  actions     : Option (List String)
  resources   : Option (List String)
  priority    : Option Int

/-- An error answer: written by the handler, or a service error passed on. -/
inductive HTTPError where
  | status (code : Nat) (message : String)
  | service (err : GGIDError)

/-- The policy handed to `CreatePolicy`. Fields not sent are zero values, and the
conditions are not set at all. -/
def PolicyBody.policy (body : PolicyBody) (id tenantID : UUID) : Policy where
  id          := id
  tenantID    := tenantID
  name        := body.name.getD ""
  description := body.description.getD ""
  effect      := Effect.ofString (body.effect.getD "")
  actions     := []
  resources   := []
  conditions  := []
  priority    := body.priority.getD 0
  createdAt   := Time.zero

/-- `tenantHeader` is the parsed `X-Tenant-ID`, `body` the decoded JSON. -/
def handlePolicyUpdate (db : Database) (faults : Faults) (newID : UUID) (now : Time)
    (tenantHeader : Option UUID) (id : UUID) (body : Option PolicyBody) :
    Except HTTPError Policy × Database :=
  match tenantHeader with
  | none => (.error (.status 403 "valid X-Tenant-ID header required"), db)
  | some tid =>
    match body with
    | none => (.error (.status 400 "invalid JSON body"), db)
    | some req =>
      match PolicyService.getPolicy db faults tid id with
      | .error err => (.error (.service err), db)
      | .ok existing =>
        if existing.tenantID ≠ tid then (.error (.status 404 "policy not found"), db)
        else
          -- the outcome of the delete is ignored
          let db₁ := match PolicyService.deletePolicy db faults tid id with
            | .ok db₁ => db₁
            | .error _ => db
          match PolicyService.createPolicy db₁ faults newID now (req.policy id existing.tenantID)
              req.actions req.resources with
          | .error err => (.error (.service err), db₁)
          | .ok (policy, db₂) => (.ok policy, db₂)

-- ---------------------------------------------------------------------------
-- Atomic and framed edits
-- ---------------------------------------------------------------------------

/-- `p'` is `p` edited by the body: fields that were not sent are as before. -/
structure EditedBy (body : PolicyBody) (p p' : Policy) : Prop where
  id          : p'.id = p.id
  tenantID    : p'.tenantID = p.tenantID
  conditions  : p'.conditions = p.conditions
  name        : body.name = none → p'.name = p.name
  description : body.description = none → p'.description = p.description
  effect      : body.effect = none → p'.effect = p.effect
  actions     : body.actions = none → p'.actions = p.actions
  resources   : body.resources = none → p'.resources = p.resources
  priority    : body.priority = none → p'.priority = p.priority

/-- The edit replaced one policy and touched nothing else. -/
structure Framed (id : UUID) (body : PolicyBody) (db db' : Database) : Prop where
  edited      : ∃ p ∈ db.policies, p.id = id ∧ ∃ p' ∈ db'.policies, EditedBy body p p'
  others      : ∀ p, p.id ≠ id → (p ∈ db'.policies ↔ p ∈ db.policies)
  attachments : ∀ a, a ∈ db'.policyAttachments ↔ a ∈ db.policyAttachments

/-- A success is framed, an error changes nothing. -/
def AtomicFramed (id : UUID) (body : Option PolicyBody) (db : Database) :
    Except HTTPError Policy × Database → Prop
  | (.ok _, db') => ∃ req, body = some req ∧ Framed id req db db'
  | (.error _, db') => db' = db

/-- The edit is turned down before the first write: no tenant, no readable body,
or no such policy of the tenant. -/
def TurnedDown (db : Database) (faults : Faults) (tenantHeader : Option UUID) (id : UUID)
    (body : Option PolicyBody) : Prop :=
  tenantHeader = none ∨ body = none ∨ faults.read ≠ none ∨
    ∀ p ∈ db.policies, p.id = id → tenantHeader ≠ some p.tenantID

/-- The insert of the edited policy cannot succeed next to the rows of `db`. -/
def InsertRefused (db : Database) (faults : Faults) (tenantID : UUID) (body : PolicyBody) : Prop :=
  (body.effect ≠ some "allow" ∧ body.effect ≠ some "deny") ∨ faults.insert ≠ none ∨
    100 < (body.name.getD "").length ∨
    (body.priority.getD 0 < -2 ^ 31 ∨ 2 ^ 31 ≤ body.priority.getD 0) ∨
    (∃ p ∈ db.policies, p.tenantID = tenantID ∧ p.name = body.name.getD "") ∨
    body.actions = none ∨ body.resources = none

-- ---------------------------------------------------------------------------
-- The two statements
-- ---------------------------------------------------------------------------

section Statements

variable {db db' : Database} {faults : Faults} {newID tenantID id : UUID} {now : Time}

/-- A successful insert adds one row under the drawn id and attaches it to nobody. -/
theorem PolicyRepo.create_ok {p row : Policy} {actions resources : Option (List String)}
    (h : PolicyRepo.create db newID now p actions resources = .ok (row, db')) :
    row.id = newID ∧ (∀ q, q ∈ db'.policies ↔ q ∈ db.policies ∨ q = row) := by
  unfold PolicyRepo.create at h
  split at h
  · exact absurd h (by simp)
  split at h
  · exact absurd h (by simp)
  split at h
  · exact absurd h (by simp)
  split at h
  · simp only at h
    split at h
    · exact absurd h (by simp)
    · rename_i policies hinsert
      rw [Except.ok.injEq, Prod.mk.injEq] at h
      obtain ⟨rfl, rfl⟩ := h
      exact ⟨rfl, (Table.insert?_eq_some hinsert).2⟩
  · exact absurd h (by simp)

/-- When the insert fails, the id being fresh. -/
theorem PolicyRepo.create_error_iff (hfresh : ∀ q ∈ db.policies, q.id ≠ newID) (p : Policy)
    (actions resources : Option (List String)) :
    (∃ err, PolicyRepo.create db newID now p actions resources = .error err) ↔
      100 < p.name.length ∨ (p.priority < -2 ^ 31 ∨ 2 ^ 31 ≤ p.priority) ∨
      (∃ q ∈ db.policies, q.tenantID = p.tenantID ∧ q.name = p.name) ∨
      actions = none ∨ resources = none := by
  have htaken : (db.policies.rows.any fun q => q.tenantID = p.tenantID && q.name = p.name) = true ↔
      ∃ q ∈ db.policies, q.tenantID = p.tenantID ∧ q.name = p.name := by
    simp [Table.mem_def]
  unfold PolicyRepo.create
  by_cases hname : 100 < p.name.length
  · simp [hname]
  by_cases hprio : p.priority < -2 ^ 31 ∨ 2 ^ 31 ≤ p.priority
  · simp only [hname, hprio, if_true, if_false]
    simp
  by_cases huniq : ∃ q ∈ db.policies, q.tenantID = p.tenantID ∧ q.name = p.name
  · rw [if_neg hname, if_neg hprio, if_pos (htaken.mpr huniq)]
    simp [huniq]
  rw [if_neg hname, if_neg hprio, if_neg (fun h => huniq (htaken.mp h))]
  cases actions with
  | none => simp
  | some actions =>
    cases resources with
    | none => simp
    | some resources =>
      -- only the primary key could refuse the row, and its id is fresh
      obtain ⟨policies, hinsert⟩ := Table.insert?_of_fresh
        (a := { p with id := newID, actions := actions, resources := resources, createdAt := now })
        hfresh
      simp only [hinsert, hname, hprio, huniq]
      simp

theorem PolicyService.createPolicy_ok {p row : Policy} {actions resources : Option (List String)}
    (h : PolicyService.createPolicy db faults newID now p actions resources = .ok (row, db')) :
    row.id = newID ∧ (∀ q, q ∈ db'.policies ↔ q ∈ db.policies ∨ q = row) := by
  unfold PolicyService.createPolicy at h
  split at h
  · exact absurd h (by simp)
  split at h
  · exact absurd h (by simp)
  split at h
  · exact absurd h (by simp)
  · rename_i hcreate
    rw [Except.ok.injEq] at h
    rw [h] at hcreate
    exact PolicyRepo.create_ok hcreate

/-- The default is in range, like the zero it replaces. -/
theorem defaultPriority_range (p : Policy) :
    (PolicyService.defaultPriority p < -2 ^ 31 ∨ 2 ^ 31 ≤ PolicyService.defaultPriority p) ↔
      (p.priority < -2 ^ 31 ∨ 2 ^ 31 ≤ p.priority) := by
  unfold PolicyService.defaultPriority
  split <;> omega

theorem PolicyService.createPolicy_error_iff (hfresh : ∀ q ∈ db.policies, q.id ≠ newID)
    (p : Policy) (actions resources : Option (List String)) :
    (∃ err, PolicyService.createPolicy db faults newID now p actions resources = .error err) ↔
      (p.effect ≠ .allow ∧ p.effect ≠ .deny) ∨ faults.insert ≠ none ∨
      100 < p.name.length ∨ (p.priority < -2 ^ 31 ∨ 2 ^ 31 ≤ p.priority) ∨
      (∃ q ∈ db.policies, q.tenantID = p.tenantID ∧ q.name = p.name) ∨
      actions = none ∨ resources = none := by
  unfold PolicyService.createPolicy
  by_cases heff : p.effect ≠ .allow ∧ p.effect ≠ .deny
  · rw [if_pos heff]
    simp [heff]
  rw [if_neg heff]
  cases hins : faults.insert with
  | some message => simp
  | none =>
    have hcreate : (∃ err, PolicyRepo.create db newID now { p with priority := defaultPriority p }
        actions resources = .error err) ↔ _ := PolicyRepo.create_error_iff hfresh _ _ _
    rw [defaultPriority_range] at hcreate
    simp only [heff, false_or, ne_eq, not_true_eq_false]
    rw [← hcreate]
    split
    · rename_i err herr
      simp [herr]
    · rename_i created hok
      simp [hok]

theorem effect_refused_iff (effect : Option String) :
    (Effect.ofString (effect.getD "") ≠ .allow ∧ Effect.ofString (effect.getD "") ≠ .deny) ↔
      effect ≠ some "allow" ∧ effect ≠ some "deny" := by
  unfold Effect.ofString
  cases effect with
  | none => simp
  | some s =>
    by_cases hallow : s = "allow"
    · simp [hallow]
    · by_cases hdeny : s = "deny" <;> simp [hallow, hdeny]

variable (id) in
/-- When re-creating the policy fails, the id being fresh. -/
theorem recreate_error_iff (hfresh : ∀ q ∈ db.policies, q.id ≠ newID) (body : PolicyBody) :
    (∃ err, PolicyService.createPolicy db faults newID now (body.policy id tenantID)
        body.actions body.resources = .error err) ↔ InsertRefused db faults tenantID body := by
  rw [PolicyService.createPolicy_error_iff hfresh]
  unfold InsertRefused
  rw [← effect_refused_iff]
  rfl

/-- A successful delete leaves no policy under the id. -/
theorem deletePolicy_spec (faults : Faults) {p : Policy} (hp : p ∈ db.policies) (hid : p.id = id)
    (htenant : p.tenantID = tenantID) :
    (faults.delete ≠ none ∧
      ∃ err, PolicyService.deletePolicy db faults tenantID id = .error err) ∨
    (faults.delete = none ∧ ∃ db₁, PolicyService.deletePolicy db faults tenantID id = .ok db₁ ∧
      ∀ q, q ∈ db₁.policies ↔ q ∈ db.policies ∧ q.id ≠ id) := by
  unfold PolicyService.deletePolicy
  cases hdel : faults.delete with
  | some message => exact Or.inl ⟨by simp, _, rfl⟩
  | none =>
    refine Or.inr ⟨rfl, ?_⟩
    have hany : (db.policies.rows.any fun q => q.id = id && q.tenantID = tenantID) = true := by
      rw [List.any_eq_true]
      exact ⟨p, hp, by simp [hid, htenant]⟩
    simp only
    unfold PolicyRepo.delete
    rw [hany]
    refine ⟨_, rfl, fun q => ?_⟩
    simp only [Table.mem_delete, Bool.and_eq_false_iff, decide_eq_false_iff_not]
    refine and_congr_right fun hq => ⟨fun h hqid => ?_, Or.inl⟩
    -- the row under this id is the tenant's
    have hqp : q = p := Table.eq_of_key hq hp (hqid.trans hid.symm)
    rcases h with h | h
    · exact h hqid
    · exact h (hqp ▸ htenant)

theorem getPolicy_cases (db : Database) (faults : Faults) (tenantID id : UUID) :
    (∃ p, PolicyService.getPolicy db faults tenantID id = .ok p ∧ p ∈ db.policies ∧
      p.id = id ∧ p.tenantID = tenantID ∧ faults.read = none) ∨
    (∃ err, PolicyService.getPolicy db faults tenantID id = .error err ∧
      (faults.read ≠ none ∨ ∀ p ∈ db.policies, p.id = id → p.tenantID ≠ tenantID)) := by
  unfold PolicyService.getPolicy
  cases hread : faults.read with
  | some message => exact Or.inr ⟨_, rfl, Or.inl (by simp)⟩
  | none =>
    simp only
    unfold PolicyRepo.getByID
    cases hfind : db.policies.find? id with
    | none =>
      refine Or.inr ⟨_, rfl, Or.inr fun p hp hid => ?_⟩
      exact absurd hid (Table.find?_eq_none_iff.mp hfind p hp)
    | some p =>
      obtain ⟨hp, hid⟩ := Table.find?_eq_some_iff.mp hfind
      simp only
      split
      · rename_i htenant
        exact Or.inl ⟨p, rfl, hp, hid, htenant, trivial⟩
      · rename_i htenant
        refine Or.inr ⟨_, rfl, Or.inr fun q hq hqid => ?_⟩
        rw [Table.eq_of_key hq hp (hqid.trans hid.symm)]
        exact htenant

end Statements

-- ---------------------------------------------------------------------------
-- The handler
-- ---------------------------------------------------------------------------

section Handler

variable {db : Database} {faults : Faults} {newID tid id : UUID} {now : Time} {req : PolicyBody}

variable (newID now req) in
/-- What an edit of an existing policy comes to, statement by statement. -/
theorem handlePolicyUpdate_existing {p : Policy} (hp : p ∈ db.policies) (hid : p.id = id)
    (htenant : p.tenantID = tid)
    (hget : PolicyService.getPolicy db faults tid id = .ok p) :
    ∃ db₁, (faults.delete ≠ none ∧ db₁ = db ∨
        faults.delete = none ∧ ∀ q, q ∈ db₁.policies ↔ q ∈ db.policies ∧ q.id ≠ id) ∧
      ((∃ err, PolicyService.createPolicy db₁ faults newID now (req.policy id tid)
            req.actions req.resources = .error err ∧
          handlePolicyUpdate db faults newID now (some tid) id (some req) =
            (.error (.service err), db₁)) ∨
        ∃ row db₂, PolicyService.createPolicy db₁ faults newID now (req.policy id tid)
            req.actions req.resources = .ok (row, db₂) ∧
          handlePolicyUpdate db faults newID now (some tid) id (some req) = (.ok row, db₂)) := by
  have hcreate : ∀ db₁ : Database,
      (∃ err, PolicyService.createPolicy db₁ faults newID now (req.policy id tid)
        req.actions req.resources = .error err) ∨
      ∃ row db₂, PolicyService.createPolicy db₁ faults newID now (req.policy id tid)
        req.actions req.resources = .ok (row, db₂) := by
    intro db₁
    cases PolicyService.createPolicy db₁ faults newID now (req.policy id tid)
        req.actions req.resources with
    | error err => exact Or.inl ⟨err, rfl⟩
    | ok created => exact Or.inr ⟨created.1, created.2, rfl⟩
  unfold handlePolicyUpdate
  simp only [hget, htenant, ne_eq, not_true_eq_false, if_false]
  rcases deletePolicy_spec faults hp hid htenant with
    ⟨hfault, err, hdel⟩ | ⟨hok, db₁, hdel, hmem⟩
  · refine ⟨db, Or.inl ⟨hfault, rfl⟩, ?_⟩
    rcases hcreate db with ⟨err, herr⟩ | ⟨row, db₂, hrow⟩
    · exact Or.inl ⟨err, herr, by simp only [hdel, herr]⟩
    · exact Or.inr ⟨row, db₂, hrow, by simp only [hdel, hrow]⟩
  · refine ⟨db₁, Or.inr ⟨hok, hmem⟩, ?_⟩
    rcases hcreate db₁ with ⟨err, herr⟩ | ⟨row, db₂, hrow⟩
    · exact Or.inl ⟨err, herr, by simp only [hdel, herr]⟩
    · exact Or.inr ⟨row, db₂, hrow, by simp only [hdel, hrow]⟩

/-- A policy that is read is not turned down. -/
theorem not_turnedDown {p : Policy} (hp : p ∈ db.policies) (hid : p.id = id)
    (htenant : p.tenantID = tid) (hread : faults.read = none) :
    ¬ TurnedDown db faults (some tid) id (some req) := by
  intro h
  rcases h with h | h | h | h
  · exact absurd h (by simp)
  · exact absurd h (by simp)
  · exact h hread
  · exact h p hp hid (by rw [htenant])

/-- An insert next to the old row, or after its removal, is not an edit of it. -/
theorem not_framed_of_create {p row : Policy} {db₁ db₂ : Database}
    {actions resources : Option (List String)}
    (hfresh : ∀ q ∈ db.policies, q.id ≠ newID) (hp : p ∈ db.policies) (hid : p.id = id)
    (hcreate : PolicyService.createPolicy db₁ faults newID now (req.policy id tid)
      actions resources = .ok (row, db₂)) : ¬ Framed id req db db₂ := by
  intro hframed
  obtain ⟨hrow, hmem⟩ := PolicyService.createPolicy_ok hcreate
  have hne : row.id ≠ id := by
    rw [hrow, ← hid]
    exact fun h => hfresh p hp h.symm
  have hold : row ∈ db.policies := (hframed.others row hne).mp ((hmem row).mpr (Or.inr rfl))
  exact hfresh row hold hrow

theorem existing_atomicFramed_iff {p : Policy} (hfresh : ∀ q ∈ db.policies, q.id ≠ newID)
    (hp : p ∈ db.policies) (hid : p.id = id) (htenant : p.tenantID = tid)
    (hget : PolicyService.getPolicy db faults tid id = .ok p) :
    AtomicFramed id (some req) db
        (handlePolicyUpdate db faults newID now (some tid) id (some req)) ↔
      faults.delete ≠ none ∧ InsertRefused db faults tid req := by
  obtain ⟨db₁, hdel, hcreate⟩ := handlePolicyUpdate_existing newID now req hp hid htenant hget
  rcases hcreate with ⟨err, herr, hrun⟩ | ⟨row, db₂, hrow, hrun⟩
  · rw [hrun]
    show db₁ = db ↔ _
    rcases hdel with ⟨hfault, rfl⟩ | ⟨hok, hmem⟩
    · have href := (recreate_error_iff id hfresh req).mp ⟨err, herr⟩
      exact ⟨fun _ => ⟨hfault, href⟩, fun _ => rfl⟩
    · -- the old row is gone
      refine ⟨fun h => ?_, fun h => absurd hok h.1⟩
      have hgone := (hmem p).mp (h ▸ hp)
      exact absurd hid hgone.2
  · rw [hrun]
    refine ⟨fun ⟨r, hr, hframed⟩ => ?_, fun ⟨hfault, href⟩ => ?_⟩
    · rw [Option.some.injEq] at hr
      subst hr
      exact absurd hframed (not_framed_of_create hfresh hp hid hrow)
    · rcases hdel with ⟨-, rfl⟩ | ⟨hok, -⟩
      · obtain ⟨err, herr⟩ := (recreate_error_iff id hfresh req).mpr href
        rw [hrow] at herr
        exact absurd herr (by simp)
      · exact absurd hok hfault

end Handler

/-- **Edits.** An edit is atomic and framed exactly when it is turned down before
anything is written, or when the delete fails and the insert is refused as well.
In every other case the policy is gone from under its id, or a second one has
joined it. -/
theorem policyUpdate_atomicFramed_iff (db : Database) (faults : Faults) (newID : UUID) (now : Time)
    (tenantHeader : Option UUID) (id : UUID) (body : Option PolicyBody)
    (hfresh : ∀ q ∈ db.policies, q.id ≠ newID) :
    AtomicFramed id body db (handlePolicyUpdate db faults newID now tenantHeader id body) ↔
      TurnedDown db faults tenantHeader id body ∨
      (faults.delete ≠ none ∧ ∃ tid req, tenantHeader = some tid ∧ body = some req ∧
        InsertRefused db faults tid req) := by
  cases tenantHeader with
  | none => exact ⟨fun _ => Or.inl (Or.inl rfl), fun _ => rfl⟩
  | some tid =>
  cases body with
  | none => exact ⟨fun _ => Or.inl (Or.inr (Or.inl rfl)), fun _ => rfl⟩
  | some req =>
  rcases getPolicy_cases db faults tid id with
    ⟨p, hget, hp, hid, htenant, hread⟩ | ⟨err, hget, hnone⟩
  · have hdown : ¬ TurnedDown db faults (some tid) id (some req) :=
      not_turnedDown hp hid htenant hread
    rw [existing_atomicFramed_iff hfresh hp hid htenant hget]
    refine ⟨fun ⟨hfault, href⟩ => Or.inr ⟨hfault, tid, req, rfl, rfl, href⟩, fun h => ?_⟩
    obtain ⟨hfault, tid', req', htid, hreq, href⟩ := h.resolve_left hdown
    rw [Option.some.injEq] at htid hreq
    subst htid hreq
    exact ⟨hfault, href⟩
  · -- the policy is not there for this tenant, or cannot be read
    have hdown : TurnedDown db faults (some tid) id (some req) := by
      rcases hnone with hread | hnone
      · exact Or.inr (Or.inr (Or.inl hread))
      · refine Or.inr (Or.inr (Or.inr fun p hp hid htid => ?_))
        rw [Option.some.injEq] at htid
        exact hnone p hp hid htid.symm
    have hrun : handlePolicyUpdate db faults newID now (some tid) id (some req) =
        (.error (.service err), db) := by
      unfold handlePolicyUpdate
      simp only [hget]
    rw [hrun]
    exact ⟨fun _ => Or.inl hdown, fun _ => rfl⟩

-- ---------------------------------------------------------------------------
-- An edit that detaches
-- ---------------------------------------------------------------------------

namespace Sample

/-- Exports, for one auditor and inside the audit department only. -/
def exportPolicy : Policy where
  id          := 40#128
  tenantID    := tenant
  name        := "export"
  description := ""
  effect      := .allow
  actions     := ["export"]
  resources   := []
  conditions  := [("StringEquals", .map [("department", .string "audit")])]
  priority    := 0
  createdAt   := 0

def exportStore : Database :=
  { store with
    policies := ⟨[exportPolicy], by decide⟩,
    policyAttachments := ⟨[⟨exportPolicy.id, .user, user⟩], by decide⟩ }

/-- The whole policy is sent again, with a description. -/
def describe : PolicyBody where
  tenantID    := none
  name        := some "export"
  description := some "Exports for audit"
  effect      := some "allow"
  actions     := some ["export"]
  resources   := some []
  priority    := none

def describedPolicy : Policy :=
  { exportPolicy with
    id := 41#128, description := "Exports for audit", conditions := [], createdAt := 1 }

def describeOutcome : Except HTTPError Policy × Database :=
  handlePolicyUpdate exportStore Faults.none 41#128 1 (some tenant) exportPolicy.id (some describe)

theorem exportStore_fresh : ∀ q ∈ exportStore.policies, q.id ≠ 41#128 := by
  intro q hq
  have heq : q = exportPolicy := by simpa [Table.mem_def, exportStore] using hq
  rw [heq]
  decide

end Sample

/-- An edit of a policy the tenant does not have changes nothing; an edit of the
policy it has is not framed. -/
theorem policyUpdate_atomicFramed_sample :
    AtomicFramed 42#128 (some Sample.describe) Sample.exportStore
        (handlePolicyUpdate Sample.exportStore Faults.none 41#128 1 (some Sample.tenant) 42#128
          (some Sample.describe)) ∧
      ¬ AtomicFramed Sample.exportPolicy.id (some Sample.describe) Sample.exportStore
          Sample.describeOutcome := by
  refine ⟨(policyUpdate_atomicFramed_iff _ _ _ _ _ _ _ Sample.exportStore_fresh).mpr ?_, ?_⟩
  · refine Or.inl (Or.inr (Or.inr (Or.inr fun p hp hid => ?_)))
    have heq : p = Sample.exportPolicy := by simpa [Table.mem_def, Sample.exportStore] using hp
    rw [heq] at hid
    exact absurd hid (by decide)
  · intro h
    rcases (policyUpdate_atomicFramed_iff _ _ _ _ _ _ _ Sample.exportStore_fresh).mp h with
      hdown | ⟨hfault, -⟩
    · refine absurd hdown (not_turnedDown (p := Sample.exportPolicy) ?_ rfl rfl rfl)
      simp [Table.mem_def, Sample.exportStore]
    · exact hfault rfl

/-- The edited policy has a new id and no conditions, its attachment is gone, and
with it the restriction to one user: it now applies to the whole tenant. -/
theorem policyUpdate_detaches :
    Sample.describeOutcome.1 = .ok Sample.describedPolicy ∧
      Sample.describeOutcome.2.policies.rows = [Sample.describedPolicy] ∧
      Sample.describeOutcome.2.policyAttachments.rows = [] ∧
      ¬ TenantGlobal Sample.exportStore Sample.tenant Sample.exportPolicy ∧
      TenantGlobal Sample.describeOutcome.2 Sample.tenant Sample.describedPolicy ∧
      ¬ AtomicFramed Sample.exportPolicy.id (some Sample.describe) Sample.exportStore
          Sample.describeOutcome := by
  have hpolicies : Sample.describeOutcome.2.policies.rows = [Sample.describedPolicy] := by rfl
  have hattachments : Sample.describeOutcome.2.policyAttachments.rows = [] := by rfl
  refine ⟨by rfl, hpolicies, hattachments, ?_, ⟨rfl, ?_⟩, ?_⟩
  · intro ⟨_, hnone⟩
    exact hnone ⟨Sample.exportPolicy.id, .user, Sample.user⟩
      (by simp [Table.mem_def, Sample.exportStore]) rfl
  · intro a ha
    rw [Table.mem_def, hattachments] at ha
    exact absurd ha (by simp)
  · have hp : Sample.exportPolicy ∈ Sample.exportStore.policies := by
      simp [Table.mem_def, Sample.exportStore]
    have hget : PolicyService.getPolicy Sample.exportStore Faults.none Sample.tenant
        Sample.exportPolicy.id = .ok Sample.exportPolicy := by rfl
    intro h
    exact ((existing_atomicFramed_iff Sample.exportStore_fresh hp rfl rfl hget).mp h).1 rfl

end Ggid.Policy
