import Ggid.Policy.Jit

/-!
# Policy engine — access review campaigns

`server/access_review_campaign_handler.go` over `server/campaign_repo.go`: a
reviewer closes a campaign with a decision, and a decision to revoke takes the
roles its items name from their users.

The handler reads the campaign, closes its row, lists the items and revokes them
one by one, each in a statement of its own and with other requests in between.
`Task` is what a submit has left to do; `campaignStep` schedules any number of
submits in any order, lets any statement fail, and lets the rest of the service
change roles, assignments and items at any time.

A submit revokes in the scope `"tenant"`, which is not a value of the
enumeration `scope_type`: the database refuses the statement
(`revokeItem_refused`), the failure is logged and passed over, and the row of the
campaign is closed already.
-/

namespace Ggid.Policy.Campaign

open Ggid.Go Ggid.Lib

-- ---------------------------------------------------------------------------
-- Campaigns and their items
-- ---------------------------------------------------------------------------

inductive CampaignStatus where
  | active | completed | expired
  | other (raw : String)
  deriving DecidableEq

/-- A row of `iga_campaigns`. The handlers read the two ids as text. -/
structure ReviewCampaign where
  id          : UUID
  tenantID    : UUID
  scope       : String
  scopeID     : String
  reviewerID  : Option UUID
  deadline    : Option Time
  status      : CampaignStatus
  decision    : Option String
  notes       : Option String
  createdAt   : Time
  submittedAt : Option Time

/-- A row of `iga_campaign_items`. -/
structure CampaignItem where
  id         : UUID
  campaignID : UUID
  userID     : UUID
  roleID     : UUID
  decision   : Option String
  decidedAt  : Option Time
  createdAt  : Time

abbrev CampaignTable := Table ReviewCampaign.id

abbrev ItemTable := Table CampaignItem.id

/-- What the handlers use of other libraries. -/
structure Libs where
  std : Stdlib
  /-- The id `uuid.Parse` returns, and whether it returned no error. -/
  uuidParse : String → UUID × Bool
  /-- Scanning a `TIMESTAMPTZ` column into a `time.Time`; `none` when the driver
  refuses. -/
  scanTime : Option Time → Option Time

/-- `uuid.Parse` reads what `UUID.String` writes. -/
def ReadsBack (libs : Libs) : Prop := ∀ u : UUID, libs.uuidParse u.string = (u, true)

namespace CampaignRepo

/-- `Create`: the insert names neither the decision nor the submission columns. -/
def create (campaigns : CampaignTable) (newID : UUID) (now : Time) (c : ReviewCampaign) :
    Option CampaignTable :=
  campaigns.insert? { c with
    id := newID, decision := none, notes := none, createdAt := now, submittedAt := none }

/-- A `NULL` decision or note is read as the empty text. -/
def scanCampaignRow (libs : Libs) (row : ReviewCampaign) : Option ReviewCampaign :=
  (libs.scanTime row.deadline).map fun deadline => { row with
    deadline := some deadline, decision := some (row.decision.getD ""),
    notes := some (row.notes.getD "") }

def getByID (libs : Libs) (campaigns : CampaignTable) (id tenantID : String) :
    Option ReviewCampaign :=
  ((campaigns.find? (libs.uuidParse id).1).filter
    fun c => c.tenantID = (libs.uuidParse tenantID).1).bind (scanCampaignRow libs)

/-- `Submit`: does nothing, and says so to nobody, unless the row is active. -/
def submit (libs : Libs) (campaigns : CampaignTable) (now : Time)
    (id tenantID decision notes : String) : CampaignTable :=
  campaigns.update
    (fun c => c.id = (libs.uuidParse id).1 && c.tenantID = (libs.uuidParse tenantID).1 &&
      c.status = .active)
    (fun c => { c with
      status := .completed, decision := some decision, notes := some notes,
      submittedAt := some now })
    (fun _ => rfl)

/-- `ListRevokeItems`; `none` is an id that does not parse. -/
def listRevokeItems (libs : Libs) (items : ItemTable) (campaignID : String) :
    Option (List CampaignItem) :=
  let (cid, parsed) := libs.uuidParse campaignID
  if parsed then
    some (items.rows.filter fun item => item.campaignID = cid && item.decision = some "revoke")
  else none

end CampaignRepo

-- ---------------------------------------------------------------------------
-- The handler
-- ---------------------------------------------------------------------------

structure SubmitBody where
  decision : String
  notes    : String

structure SubmitRequest where
  method : String
  /-- `X-Scopes`. -/
  scopes : String
  /-- `X-Tenant-ID`. -/
  tenant : String
  /-- `tenantIDFromHTTPRequest`, which the role service reads. -/
  serviceTenant : UUID
  /-- The campaign id in the path. -/
  campaignID : String
  /-- The decoded body. -/
  body : Option SubmitBody

inductive Response where
  | error (code : Nat) (message : String)
  | ok (c : ReviewCampaign)

/-- Which of its services the server was given. -/
structure HTTPServer where
  campaignRepo   : Bool
  roleSvc        : Bool
  auditPublisher : Bool

structure AuditEvent where
  action       : String
  result       : String
  resourceType : String
  resourceID   : UUID
  tenantID     : UUID

structure CampaignStore where
  db        : Database
  campaigns : CampaignTable
  items     : ItemTable
  /-- What was handed to the audit publisher, the oldest first. -/
  published : List AuditEvent
  now       : Time

/-- What a submit has left to do. `failed` are the items whose revocation failed,
which the handler logs. -/
inductive Task where
  | idle
  | returned (resp : Response) (failed : List CampaignItem)
  /-- Before `campaignRepo.Submit`. -/
  | submitting (req : SubmitRequest) (body : SubmitBody) (c : ReviewCampaign)
  /-- Before `campaignRepo.ListRevokeItems`. -/
  | listing (req : SubmitRequest) (c : ReviewCampaign)
  /-- Before `roleSvc.RevokeRole` of `item`. -/
  | revoking (req : SubmitRequest) (c : ReviewCampaign) (item : CampaignItem)
      (rest failed : List CampaignItem)

def Task.inFlight : Task → Bool
  | .idle | .returned _ _ => false
  | _ => true

/-- The campaign a submit has taken effect on: it is past the update. -/
def Task.effective : Task → Option UUID
  | .listing _ c | .revoking _ c _ _ _ | .returned (.ok c) _ => some c.id
  | _ => none

/-- `submitReviewCampaign` up to its update; `fault` is a failing query. -/
def submitReviewCampaign (srv : HTTPServer) (libs : Libs) (s : CampaignStore)
    (req : SubmitRequest) (fault : Bool) : Task :=
  if req.method ≠ "POST" then .returned (.error 405 "method not allowed") []
  else match req.body with
  | none => .returned (.error 400 "invalid JSON body") []
  | some body =>
    if body.decision ≠ "approve" ∧ body.decision ≠ "revoke" ∧ body.decision ≠ "modify" then
      .returned (.error 400 "decision must be approve, revoke, or modify") []
    else if !isAdminRequest libs.std req.scopes then
      .returned (.error 403 "admin privileges required") []
    else if !srv.campaignRepo || fault then .returned (.error 404 "campaign not found") []
    else match CampaignRepo.getByID libs s.campaigns req.campaignID req.tenant with
    | none => .returned (.error 404 "campaign not found") []
    | some c =>
      if c.tenantID.string ≠ req.tenant then .returned (.error 404 "campaign not found") []
      else if c.status ≠ .active then .returned (.error 409 "campaign already completed") []
      else .submitting req body c

/-- The campaign as the handler returns it after its update. -/
def submitted (c : ReviewCampaign) (body : SubmitBody) (now : Time) : ReviewCampaign :=
  { c with
    status := .completed, decision := some body.decision, notes := some body.notes,
    submittedAt := some now }

/-- The loop of `executeCampaignRevoke` over the items that remain. -/
def executeRest (req : SubmitRequest) (c : ReviewCampaign) (failed : List CampaignItem) :
    List CampaignItem → Task
  | [] => .returned (.ok c) failed
  | item :: rest => .revoking req c item rest failed

def publishAuditEvent (srv : HTTPServer) (s : CampaignStore) (event : AuditEvent) :
    CampaignStore :=
  if srv.auditPublisher then { s with published := s.published ++ [event] } else s

/-- One turn of that loop, and whether the role was revoked. -/
def revokeItem (srv : HTTPServer) (libs : Libs) (s : CampaignStore) (req : SubmitRequest)
    (c : ReviewCampaign) (item : CampaignItem) (fault : Bool) : CampaignStore × Bool :=
  let tenantScopeID := (libs.uuidParse c.tenantID.string).1
  let (userID, userParsed) := libs.uuidParse item.userID.string
  let (roleID, roleParsed) := libs.uuidParse item.roleID.string
  if !userParsed || !roleParsed then (s, false)
  else match RoleService.revokeRole s.db req.serviceTenant userID roleID (.other "tenant")
      tenantScopeID, fault with
  | .ok db, false =>
    (publishAuditEvent srv { s with db := db }
      ⟨"iga.role.revoke", "success", "role", roleID, tenantScopeID⟩, true)
  | _, _ =>
    (publishAuditEvent srv s ⟨"iga.role.revoke", "failure", "role", roleID, tenantScopeID⟩, false)

/-- The next statement of a task; `fault` says that it fails. -/
def next (srv : HTTPServer) (libs : Libs) (s : CampaignStore) (fault : Bool) :
    Task → CampaignStore × Task
  | .idle => (s, .idle)
  | .returned resp failed => (s, .returned resp failed)
  | .submitting req body c =>
    if fault then (s, .returned (.error 500 "internal server error") [])
    else
      ({ s with
          campaigns := CampaignRepo.submit libs s.campaigns s.now req.campaignID req.tenant
            body.decision body.notes },
        if body.decision = "revoke" ∧ srv.roleSvc then .listing req (submitted c body s.now)
        else .returned (.ok (submitted c body s.now)) [])
  | .listing req c =>
    match CampaignRepo.listRevokeItems libs s.items c.id.string, fault with
    | some items, false => (s, executeRest req c [] items)
    -- the handler logs the error and answers as if there were nothing to revoke
    | _, _ => (s, .returned (.ok c) [])
  | .revoking req c item rest failed =>
    let (s', revoked) := revokeItem srv libs s req c item fault
    (s', executeRest req c (if revoked then failed else failed ++ [item]) rest)

-- ---------------------------------------------------------------------------
-- Interleavings
-- ---------------------------------------------------------------------------

inductive CampaignEvent where
  /-- A free thread takes up a submit. -/
  | submit (t : Nat) (req : SubmitRequest) (fault : Bool)
  /-- A busy thread runs its next statement. -/
  | step (t : Nat) (fault : Bool)
  /-- Another request creates a campaign. -/
  | create (newID : UUID) (c : ReviewCampaign)
  /-- Other requests have changed roles, assignments and items. -/
  | elsewhere (db : Database) (items : ItemTable)
  | tick (d : Nat)

abbrev CampaignThreads := Threads CampaignStore Task

def campaignStep (srv : HTTPServer) (libs : Libs) (p : CampaignThreads) :
    CampaignEvent → CampaignThreads
  | .submit t req fault =>
    match p.task t with
    | .idle => p.put t (p.store, submitReviewCampaign srv libs p.store req fault)
    | _ => p
  | .step t fault => p.put t (next srv libs p.store fault (p.task t))
  | .create newID c =>
    let created := CampaignRepo.create p.store.campaigns newID p.store.now
      { c with status := .active }
    { p with store := { p.store with campaigns := created.getD p.store.campaigns } }
  | .elsewhere db items => { p with store := { p.store with db := db, items := items } }
  | .tick d => { p with store := { p.store with now := p.store.now + d } }

/-- No submit has begun. -/
def fresh (s : CampaignStore) : CampaignThreads := ⟨s, fun _ => .idle⟩

-- ---------------------------------------------------------------------------
-- What a campaign is for
-- ---------------------------------------------------------------------------

/-- The user holds the role in the tenant, in whatever scope it was assigned: the
rows that permissions are resolved from hold it. -/
def Holds (db : Database) (tenantID userID roleID : UUID) : Prop :=
  ∃ ur ∈ UserRoleRepo.getUserRoles db userID tenantID, ur.roleID = roleID

/-- Nobody holds a role that an item of the campaign takes away. -/
def Revoked (s : CampaignStore) (c : ReviewCampaign) : Prop :=
  ∀ item ∈ s.items, item.campaignID = c.id → item.decision = some "revoke" →
    ¬ Holds s.db c.tenantID item.userID item.roleID

/-- The row is closed. -/
def Completed (campaigns : CampaignTable) (id : UUID) : Prop :=
  ∃ row, campaigns.find? id = some row ∧ row.status = .completed

/-- The row is open, under the tenant. -/
def Active (campaigns : CampaignTable) (id tenantID : UUID) : Prop :=
  ∃ row, campaigns.find? id = some row ∧ row.tenantID = tenantID ∧ row.status = .active

/-- What a step that leads from `p` to `p'` leaves true. -/
structure Settles (p p' : CampaignThreads) : Prop where
  /-- A submit that now answers success with decision `revoke` has revoked. -/
  revoked : ∀ t c failed, (p.task t).inFlight = true → p'.task t = .returned (.ok c) failed →
    c.decision = some "revoke" → Revoked p'.store c
  /-- If a revocation failed, the campaign has not ended as completed. -/
  still_open : ∀ t c failed, p'.task t = .returned (.ok c) failed → failed ≠ [] →
    ¬ Completed p'.store.campaigns c.id
  /-- One submit of a campaign takes effect. -/
  once : ∀ t u id, (p'.task t).effective = some id → (p'.task u).effective = some id → t = u

/-- What a step needs for that, in terms of the state it is taken in. -/
def Sound (srv : HTTPServer) (p : CampaignThreads) : CampaignEvent → Prop
  | .step t fault =>
    match p.task t with
    | .submitting _ body c => fault = true ∨
        Active p.store.campaigns c.id c.tenantID ∧
          (body.decision = "revoke" → srv.roleSvc = false → Revoked p.store c)
    | .listing _ c => fault = true → Revoked p.store c
    -- the last revocation of a submit is not attempted
    | .revoking _ _ _ rest _ => rest ≠ []
    | _ => True
  | _ => True

section Statements

variable {srv : HTTPServer} {libs : Libs}

-- ---------------------------------------------------------------------------
-- What the statements do
-- ---------------------------------------------------------------------------

/-- A revocation in the scope `"tenant"` is refused, whoever asks. -/
theorem revokeRole_tenant (db : Database) (tenantID userID roleID scopeID : UUID) :
    ∃ err, RoleService.revokeRole db tenantID userID roleID (.other "tenant") scopeID
      = .error err := by
  unfold RoleService.revokeRole
  split
  · exact ⟨_, rfl⟩
  · split
    · exact ⟨_, rfl⟩
    · exact ⟨_, rfl⟩

variable (srv libs) in
/-- **No revocation of a campaign succeeds**, and none changes what a campaign is
decided by. -/
theorem revokeItem_refused (s : CampaignStore) (req : SubmitRequest) (c : ReviewCampaign)
    (item : CampaignItem) (fault : Bool) :
    (revokeItem srv libs s req c item fault).2 = false ∧
      (revokeItem srv libs s req c item fault).1.db = s.db ∧
      (revokeItem srv libs s req c item fault).1.campaigns = s.campaigns ∧
      (revokeItem srv libs s req c item fault).1.items = s.items := by
  obtain ⟨err, herr⟩ := revokeRole_tenant s.db req.serviceTenant
    (libs.uuidParse item.userID.string).1 (libs.uuidParse item.roleID.string).1
    (libs.uuidParse c.tenantID.string).1
  unfold revokeItem
  simp only [herr, publishAuditEvent]
  split
  · exact ⟨rfl, rfl, rfl, rfl⟩
  · split
    · exact ⟨rfl, rfl, rfl, rfl⟩
    · exact ⟨rfl, rfl, rfl, rfl⟩

theorem getByID_eq_some {campaigns : CampaignTable} {id tenantID : String} {c : ReviewCampaign}
    (h : CampaignRepo.getByID libs campaigns id tenantID = some c) :
    ∃ row, campaigns.find? c.id = some row ∧ row.tenantID = c.tenantID ∧ row.status = c.status ∧
      (libs.uuidParse id).1 = c.id ∧ (libs.uuidParse tenantID).1 = c.tenantID := by
  obtain ⟨row, hfilter, hscan⟩ := Option.bind_eq_some_iff.mp h
  obtain ⟨hfind, htenant⟩ := Option.filter_eq_some_iff.mp hfilter
  obtain ⟨deadline, -, rfl⟩ := Option.map_eq_some_iff.mp hscan
  have hid := (Table.find?_eq_some_iff.mp hfind).2
  exact ⟨row, hid ▸ hfind, rfl, rfl, hid.symm, (of_decide_eq_true htenant).symm⟩

section Submit

variable {campaigns : CampaignTable} {now : Time} {id tenantID decision notes : String}

/-- A closed row stays closed. -/
theorem completed_submit {k : UUID} (h : Completed campaigns k) :
    Completed (CampaignRepo.submit libs campaigns now id tenantID decision notes) k := by
  obtain ⟨row, hrow, hstatus⟩ := h
  refine ⟨row, ?_, hstatus⟩
  unfold CampaignRepo.submit
  rw [Table.find?_update, hrow]
  simp [hstatus]

/-- The row that is named is closed if it is open. -/
theorem submit_completes
    (h : Active campaigns (libs.uuidParse id).1 (libs.uuidParse tenantID).1) :
    Completed (CampaignRepo.submit libs campaigns now id tenantID decision notes)
      (libs.uuidParse id).1 := by
  obtain ⟨row, hrow, htenant, hstatus⟩ := h
  have hid := (Table.find?_eq_some_iff.mp hrow).2
  refine ⟨{ row with
    status := .completed, decision := some decision, notes := some notes,
    submittedAt := some now }, ?_, rfl⟩
  unfold CampaignRepo.submit
  rw [Table.find?_update, hrow]
  simp [hid, htenant, hstatus]

/-- Any other row stays open if it is. -/
theorem active_submit {k tenant : UUID} (h : Active campaigns k tenant)
    (hne : k ≠ (libs.uuidParse id).1) :
    Active (CampaignRepo.submit libs campaigns now id tenantID decision notes) k tenant := by
  obtain ⟨row, hrow, htenant, hstatus⟩ := h
  have hid : row.id = k := (Table.find?_eq_some_iff.mp hrow).2
  refine ⟨row, ?_, htenant, hstatus⟩
  unfold CampaignRepo.submit
  rw [Table.find?_update, hrow]
  simp [hid, hne]

end Submit

/-- The rows are as they were after another campaign was created. -/
theorem find?_create {campaigns : CampaignTable} {newID : UUID} {now : Time}
    {c row : ReviewCampaign} {k : UUID} (h : campaigns.find? k = some row) :
    ((CampaignRepo.create campaigns newID now c).getD campaigns).find? k = some row := by
  cases hcreate : CampaignRepo.create campaigns newID now c with
  | none => exact h
  | some campaigns' =>
    obtain ⟨hrow, hid⟩ := Table.find?_eq_some_iff.mp h
    obtain ⟨-, hmem⟩ := Table.insert?_eq_some hcreate
    exact Table.find?_eq_some_iff.mpr ⟨(hmem row).mpr (Or.inl hrow), hid⟩

theorem not_both {campaigns : CampaignTable} {k tenant : UUID} (h : Active campaigns k tenant) :
    ¬ Completed campaigns k := by
  rintro ⟨row, hrow, hcompleted⟩
  obtain ⟨row', hrow', -, hactive⟩ := h
  rw [hrow] at hrow'
  rw [Option.some.inj hrow', hactive] at hcompleted
  exact absurd hcompleted (by decide)

-- ---------------------------------------------------------------------------
-- What a submit does in its first step
-- ---------------------------------------------------------------------------

/-- The request of a submit names the campaign it has read. -/
structure Names (libs : Libs) (req : SubmitRequest) (c : ReviewCampaign) : Prop where
  id     : (libs.uuidParse req.campaignID).1 = c.id
  tenant : (libs.uuidParse req.tenant).1 = c.tenantID

variable (srv libs) in
/-- A submit is refused, or has found its campaign open. -/
theorem submitReviewCampaign_cases (s : CampaignStore) (req : SubmitRequest) (fault : Bool) :
    (∃ code message, submitReviewCampaign srv libs s req fault =
      .returned (.error code message) []) ∨
    ∃ body c, submitReviewCampaign srv libs s req fault = .submitting req body c ∧
      Names libs req c ∧ Active s.campaigns c.id c.tenantID := by
  unfold submitReviewCampaign
  split
  · exact Or.inl ⟨_, _, rfl⟩
  · split
    · exact Or.inl ⟨_, _, rfl⟩
    · split_ifs
      · exact Or.inl ⟨_, _, rfl⟩
      · exact Or.inl ⟨_, _, rfl⟩
      · exact Or.inl ⟨_, _, rfl⟩
      · split
        · exact Or.inl ⟨_, _, rfl⟩
        · rename_i c hget
          split_ifs with htenant hstatus
          · exact Or.inl ⟨_, _, rfl⟩
          · exact Or.inl ⟨_, _, rfl⟩
          · obtain ⟨row, hrow, htid, hrowstatus, hid, hten⟩ := getByID_eq_some hget
            refine Or.inr ⟨_, c, rfl, ⟨hid, hten⟩, row, hrow, htid, ?_⟩
            rw [hrowstatus]
            exact of_not_not hstatus

/-- The items whose roles a campaign takes away. -/
def toRevoke (s : CampaignStore) (c : ReviewCampaign) : List CampaignItem :=
  s.items.rows.filter fun item => item.campaignID = c.id && item.decision = some "revoke"

/-- A listing that fails is taken for an empty one. -/
theorem next_listing (hparse : ReadsBack libs) (s : CampaignStore) (req : SubmitRequest)
    (c : ReviewCampaign) (fault : Bool) :
    next srv libs s fault (.listing req c) =
      (s, executeRest req c [] (if fault then [] else toRevoke s c)) := by
  have hread := hparse c.id
  simp only [next, CampaignRepo.listRevokeItems, hread, if_true]
  cases fault with
  | true => rfl
  | false => rfl

variable (srv libs) in
/-- An item is always passed over as failed. -/
theorem next_revoking (s : CampaignStore) (req : SubmitRequest) (c : ReviewCampaign)
    (item : CampaignItem) (rest failed : List CampaignItem) (fault : Bool) :
    ∃ s', next srv libs s fault (.revoking req c item rest failed) =
        (s', executeRest req c (failed ++ [item]) rest) ∧
      s'.db = s.db ∧ s'.campaigns = s.campaigns ∧ s'.items = s.items := by
  obtain ⟨hrefused, hsame⟩ := revokeItem_refused srv libs s req c item fault
  refine ⟨(revokeItem srv libs s req c item fault).1, ?_, hsame⟩
  simp only [next, hrefused]
  rfl

end Statements

end Ggid.Policy.Campaign
