import Ggid.Identity.Bulk

/-!
# Identity service — patches, single and in bulk

A patch reaches a user through two engines: the switch of `patchUser`, which stores the
display name and the status, and `ApplyPatch`, of which `bulkPatchUser` stores the display
name. What either leaves behind is an `Outcome`, and they agree if the outcomes are one.

* `patchUser_outcome`, `bulkPatchUser_outcome` — what the two requests do to a user;
* `executeBulkOp_keeps_iff` — when an operation of a bulk request leaves the users alone;
* `single_and_bulk_agree` — when the two requests agree, and when a bulk operation on another
  resource keeps off the users.
-/

namespace Ggid.Identity

open Ggid.Go Ggid.Lib

/-- What a patch leaves of a user, and whether it succeeds. -/
structure Outcome where
  displayName : String
  status      : UserStatus
  ok          : Bool
  deriving DecidableEq

/-- The user with what the outcome says. -/
def Outcome.user (o : Outcome) (u : User) : User :=
  { u with displayName := o.displayName, status := o.status }

@[simp] theorem Outcome.user_id (o : Outcome) (u : User) : (o.user u).id = u.id := rfl

/-- The users and the success of a request are as the outcome says. -/
def Leaves (t : UserTable) (u : User) (o : Outcome) (t' : UserTable) (ok : Bool) : Prop :=
  SameUsers t' (t.put (o.user u)) ∧ ok = o.ok

theorem leaves_put {t : UserTable} {u v : User} {o : Outcome} (hu : u ∈ t) (hid : v.id = u.id)
    (hrow : v.unstamped = (o.user u).unstamped) : Leaves t u o (t.put v) o.ok :=
  ⟨(UserTable.sameUsers_put_iff hu hid (o.user_id u)).mpr hrow, rfl⟩

theorem leaves_self {t : UserTable} {u : User} {o : Outcome} (hu : u ∈ t)
    (hrow : u.unstamped = (o.user u).unstamped) : Leaves t u o t o.ok :=
  ⟨(UserTable.sameUsers_self_put_iff hu (o.user_id u)).mpr hrow, rfl⟩

/-- Requests agree if their outcomes are the same. -/
theorem leaves_agree_iff {t t₁ t₂ : UserTable} {u : User} {o₁ o₂ : Outcome} {ok₁ ok₂ : Bool}
    (hu : u ∈ t) (h₁ : Leaves t u o₁ t₁ ok₁) (h₂ : Leaves t u o₂ t₂ ok₂) :
    (SameUsers t₁ t₂ ∧ ok₁ = ok₂) ↔ o₁ = o₂ := by
  obtain ⟨hs₁, rfl⟩ := h₁
  obtain ⟨hs₂, rfl⟩ := h₂
  have hsame : SameUsers t₁ t₂ ↔ SameUsers (t.put (o₁.user u)) (t.put (o₂.user u)) := by
    unfold SameUsers at *
    rw [hs₁, hs₂]
  rw [hsame, UserTable.sameUsers_put_iff hu (o₁.user_id u) (o₂.user_id u)]
  constructor
  · rintro ⟨hrow, hok⟩
    have hname : o₁.displayName = o₂.displayName := congrArg User.displayName hrow
    have hstatus : o₁.status = o₂.status := congrArg User.status hrow
    cases o₁
    cases o₂
    simp only at hname hstatus hok
    rw [hname, hstatus, hok]
  · rintro rfl
    exact ⟨rfl, rfl⟩

variable {t : UserTable} {tenantID id : UUID} {u : User} {env : Env}

/-- A user is found again after its row was written. -/
theorem getUserByID_put {u' : User} (hget : UserRepo.getUserByID t tenantID id = .ok u)
    (hid : u'.id = u.id) (htenant : u'.tenantID = u.tenantID) (hlive : u'.deletedAt = u.deletedAt) :
    UserRepo.getUserByID (t.put u') tenantID id = .ok u' := by
  obtain ⟨hmem, huid, htid, hdel⟩ := UserRepo.getUserByID_eq_ok_iff.mp hget
  exact UserRepo.getUserByID_eq_ok_iff.mpr ⟨(UserTable.mem_put hmem hid).mpr (Or.inl rfl),
    hid.trans huid, htenant.trans htid, hlive.trans hdel⟩

-- ---------------------------------------------------------------------------
-- The switch
-- ---------------------------------------------------------------------------

variable (std : Stdlib)

/-- The status the switch asks for is set, if it is not there and can be set. -/
def statusOutcome (env : Env) (u : User) (name : String) (active : Bool) : Outcome :=
  if active && u.status ≠ .active then ⟨name, .active, true⟩
  else if !active && u.status = .active then
    if env.revoked then ⟨name, .locked, true⟩ else ⟨name, u.status, false⟩
  else ⟨name, u.status, true⟩

def patchOutcome (env : Env) (u : User) (ops : List PatchOperation) : Outcome :=
  match storedName (lastOr (setsName std) ops u.displayName) with
  | none => ⟨u.displayName, u.status, false⟩
  | some name => statusOutcome env u name (lastOr (setsActive std) ops (u.status = .active))

/-- The second transaction of `patchUser`, with `updated` for what the first one wrote. -/
theorem patchStatus_outcome {updated : User} {name : String} {now : Time} {active : Bool}
    (hget : UserRepo.getUserByID t tenantID id = .ok u)
    (hupdated : updated = u.named name now) :
    Leaves t u (statusOutcome env u name active)
      (patchStatus (t.put updated) env.later env.revoked tenantID id active updated).1
      (patchStatus (t.put updated) env.later env.revoked tenantID id active updated).2.ok := by
  have hmem : u ∈ t := (UserRepo.getUserByID_eq_ok_iff.mp hget).1
  have hid : updated.id = u.id := by rw [hupdated]; rfl
  have hget' : UserRepo.getUserByID (t.put updated) tenantID id = .ok updated :=
    getUserByID_put hget hid (by rw [hupdated]; rfl) (by rw [hupdated]; rfl)
  have hstatus : updated.status = u.status := by rw [hupdated]; rfl
  -- the last write stands
  have hwrite : ∀ (o : Outcome) (v : User), v.id = u.id → v.unstamped = (o.user u).unstamped →
      Leaves t u o ((t.put updated).put v) o.ok := by
    intro o v hv hrow
    rw [UserTable.put_put (hid.trans hv.symm)]
    exact leaves_put hmem hv hrow
  have hkept : ∀ ok : Bool, Leaves t u ⟨name, u.status, ok⟩ (t.put updated) ok := by
    intro ok
    have hrow : updated.unstamped = (Outcome.user ⟨name, u.status, ok⟩ u).unstamped := by
      rw [hupdated]
      rfl
    exact leaves_put hmem hid hrow
  unfold patchStatus statusOutcome
  rw [hstatus, IdentityService.unlockUser_eq hget', IdentityService.lockUser_eq hget']
  by_cases hunlock : (active && u.status ≠ .active) = true
  · rw [if_pos hunlock, if_pos hunlock]
    exact hwrite ⟨name, .active, true⟩ _ hid (by rw [hupdated]; rfl)
  · rw [if_neg hunlock, if_neg hunlock]
    by_cases hlock : (!active && u.status = .active) = true
    · rw [if_pos hlock, if_pos hlock]
      cases env.revoked with
      | true => exact hwrite ⟨name, .locked, true⟩ _ hid (by rw [hupdated]; rfl)
      | false => exact hkept false
    · rw [if_neg hlock, if_neg hlock]
      exact hkept true

/-- **What `patchUser` does to a user.** -/
theorem patchUser_outcome (hget : UserRepo.getUserByID t tenantID id = .ok u)
    (ops : List PatchOperation) :
    Leaves t u (patchOutcome std env u ops) (patchUser std t env tenantID id (.ok ops)).1
      (patchUser std t env tenantID id (.ok ops)).2.ok := by
  have hmem : u ∈ t := (UserRepo.getUserByID_eq_ok_iff.mp hget).1
  have hchanges : patchChanges std (.ok ops) (IdentityService.getUser t tenantID id) =
      .ok (u, ⟨lastOr (setsName std) ops u.displayName,
        lastOr (setsActive std) ops (u.status = .active)⟩) := by
    show patchChanges std (.ok ops) (UserRepo.getUserByID t tenantID id) = _
    rw [hget]
    exact congrArg (fun c => Except.ok (u, c)) (patchSwitch_eq std ops _)
  unfold patchUser patchOutcome
  rw [hchanges]
  simp only [updateUser_displayName hget]
  cases storedName (lastOr (setsName std) ops u.displayName) with
  | none => exact leaves_self (o := ⟨u.displayName, u.status, false⟩) hmem rfl
  | some name => exact patchStatus_outcome hget rfl

-- ---------------------------------------------------------------------------
-- `ApplyPatch`
-- ---------------------------------------------------------------------------

/-- The display name `ApplyPatch` leaves, unless it refuses the list. -/
def engineName (tenantID : UUID) (u : User) (ops : List PatchOperation) : Option String :=
  if tenantID = UUID.nil then none
  else
    match patchDisplayName std u ops with
    | .error _ => none
    | .ok dn =>
      if dn = "" ∨ dn = u.displayName then some u.displayName
      else some ((storedName dn).getD u.displayName)

def bulkOutcome (tenantID : UUID) (u : User) (ops : List PatchOperation) : Outcome :=
  match engineName std tenantID u ops with
  | none => ⟨u.displayName, u.status, false⟩
  | some name => ⟨name, u.status, true⟩

variable (parse : ParseUUID)

theorem bulkTarget_of_get {op : BulkOperationRequest}
    (hget : UserRepo.getUserByID t tenantID id = .ok u)
    (hpath : extractIDFromPath parse op.path = .ok id) :
    bulkTarget parse t tenantID op =
      if tenantID = UUID.nil then .error ("404", .userNotFound) else .ok (id, u) := by
  obtain ⟨-, -, htenant, -⟩ := UserRepo.getUserByID_eq_ok_iff.mp hget
  unfold bulkTarget userBelongsToCallerTenant
  simp only [hpath, IdentityService.getUser, hget, htenant]
  by_cases hnil : tenantID = UUID.nil <;> simp [hnil]

/-- **What `bulkPatchUser` does to a user.** -/
theorem bulkPatchUser_outcome {op : BulkOperationRequest} {ops : List PatchOperation}
    (hget : UserRepo.getUserByID t tenantID id = .ok u)
    (hpath : extractIDFromPath parse op.path = .ok id) (hdata : op.patch = .ok ops) :
    Leaves t u (bulkOutcome std tenantID u ops) (bulkPatchUser std parse t env tenantID op).1
      (bulkPatchUser std parse t env tenantID op).2.2.isNone := by
  have hmem : u ∈ t := (UserRepo.getUserByID_eq_ok_iff.mp hget).1
  unfold bulkPatchUser bulkOutcome engineName
  rw [bulkTarget_of_get parse hget hpath]
  by_cases hnil : tenantID = UUID.nil
  · rw [if_pos hnil, if_pos hnil]
    exact leaves_self (o := ⟨u.displayName, u.status, false⟩) hmem rfl
  · rw [if_neg hnil, if_neg hnil]
    simp only [hdata, IdentityService.getUser, hget]
    cases patchDisplayName std u ops with
    | error err => exact leaves_self (o := ⟨u.displayName, u.status, false⟩) hmem rfl
    | ok dn =>
      simp only
      by_cases hchange : dn = "" ∨ dn = u.displayName
      · rw [if_pos hchange, if_neg (by tauto)]
        exact leaves_self (o := ⟨u.displayName, u.status, true⟩) hmem rfl
      · rw [if_neg hchange, if_pos (by tauto), updateUser_displayName hget]
        cases storedName dn with
        | none => exact leaves_self (o := ⟨u.displayName, u.status, true⟩) hmem rfl
        | some name =>
          exact leaves_put (o := ⟨name, u.status, true⟩) hmem (u.named_id name env.now) rfl

-- ---------------------------------------------------------------------------
-- The same patch, single and in bulk
-- ---------------------------------------------------------------------------

/-- The name the switch comes to is the one `ApplyPatch` leaves, and the status it comes to the
one that is there. Where `ApplyPatch` refuses the list, the switch gets nothing stored. -/
def Agreeing (env : Env) (tenantID : UUID) (u : User) (ops : List PatchOperation) : Prop :=
  let name := storedName (lastOr (setsName std) ops u.displayName)
  let active := lastOr (setsActive std) ops (u.status = .active)
  match engineName std tenantID u ops with
  | some n => name = some n ∧ active = decide (u.status = .active)
  | none => name = none ∨
      (name = some u.displayName ∧ active = false ∧ u.status = .active ∧ env.revoked = false)

theorem statusOutcome_eq_kept_iff {name n : String} {active : Bool} :
    statusOutcome env u name active = ⟨n, u.status, true⟩ ↔
      name = n ∧ active = decide (u.status = .active) := by
  unfold statusOutcome
  by_cases hstatus : u.status = .active
  · cases active <;> cases env.revoked <;> simp [hstatus]
  · have hne : UserStatus.active ≠ u.status := fun h => hstatus h.symm
    cases active <;> simp [hstatus, hne]

theorem statusOutcome_eq_failed_iff {name n : String} {active : Bool} :
    statusOutcome env u name active = ⟨n, u.status, false⟩ ↔
      name = n ∧ active = false ∧ u.status = .active ∧ env.revoked = false := by
  unfold statusOutcome
  by_cases hstatus : u.status = .active
  · cases active <;> cases env.revoked <;> simp [hstatus]
  · cases active <;> simp [hstatus]

theorem outcomes_eq_iff {ops : List PatchOperation} :
    patchOutcome std env u ops = bulkOutcome std tenantID u ops ↔
      Agreeing std env tenantID u ops := by
  unfold patchOutcome bulkOutcome Agreeing
  cases engineName std tenantID u ops with
  | none =>
    cases storedName (lastOr (setsName std) ops u.displayName) with
    | none => simp
    | some name => simp [statusOutcome_eq_failed_iff]
  | some n =>
    cases storedName (lastOr (setsName std) ops u.displayName) with
    | none => simp
    | some name => simp [statusOutcome_eq_kept_iff]

/-- Both requests leave the same users, but for the times of writing, and both succeed or both
fail. -/
def SameEffect (single : UserTable × Response) (bulk : UserTable × BulkResponse) : Prop :=
  SameUsers single.1 bulk.1 ∧ single.2.ok = bulk.2.ok

theorem sameEffect_iff {env' : Env} {op : BulkOperationRequest} {ops : List PatchOperation}
    {failOnErrors : Option Int} (hmethod : op.method = "PATCH")
    (hpath : extractIDFromPath parse op.path = .ok id) (hdata : op.patch = .ok ops) :
    SameEffect (patchUser std t env tenantID id (.ok ops))
        (handleBulk std parse t tenantID (.ok ⟨[(op, env')], failOnErrors⟩)) ↔
      ∀ u, UserRepo.getUserByID t tenantID id = .ok u → Agreeing std env tenantID u ops := by
  have hexec : executeBulkOp std parse t env' tenantID op =
      bulkPatchUser std parse t env' tenantID op := by
    simp [executeBulkOp, hmethod]
  obtain ⟨hbulk, hbulkok⟩ := handleBulk_single std parse t tenantID op env' failOnErrors
  rw [hexec] at hbulk hbulkok
  unfold SameEffect
  rw [hbulk, hbulkok]
  cases hget : UserRepo.getUserByID t tenantID id with
  | error err =>
    have hsingle : patchUser std t env tenantID id (.ok ops) = (t, .error 404 "" "user not found") := by
      simp only [patchUser, patchChanges, IdentityService.getUser, hget]
    have htarget : bulkTarget parse t tenantID op = .error ("404", .service err) := by
      simp only [bulkTarget, hpath, IdentityService.getUser, hget]
    have hpatch : bulkPatchUser std parse t env' tenantID op =
        (t, op.reply "404", some (.service err)) := by
      simp only [bulkPatchUser, htarget]
    rw [hsingle, hpatch]
    exact ⟨fun _ u hu => absurd hu (by simp), fun _ => ⟨rfl, rfl⟩⟩
  | ok u =>
    have hmem : u ∈ t := (UserRepo.getUserByID_eq_ok_iff.mp hget).1
    rw [leaves_agree_iff hmem (patchUser_outcome std hget ops)
      (bulkPatchUser_outcome std parse hget hpath hdata), outcomes_eq_iff]
    constructor
    · intro hagree u' hu'
      rwa [← Except.ok.inj hu']
    · intro hall
      exact hall u rfl

-- ---------------------------------------------------------------------------
-- Operations on other resources
-- ---------------------------------------------------------------------------

/-- The first part of a path. -/
def resourceType (path : String) : String :=
  ((splitPath (path.toList.dropWhile (· = '/'))).head?.map String.ofList).getD ""

/-- `CreateUser` does not come to a row. -/
def CreateRefused (t : UserTable) (env : Env) (tenantID : UUID) (input : CreateUserInput) : Prop :=
  input.tooLong = true ∨
    (UserRepo.getUserByColumn t tenantID User.username input.username).isOk = true ∨
    (UserRepo.getUserByColumn t tenantID User.email input.email).isOk = true ∨
    (input.user env tenantID).texts.any holdsNul = true ∨
    ∀ row, (input.user env tenantID).stored = some row →
      t.duplicate row = true ∨ ∃ b ∈ t, b.id = row.id

/-- To store the name changes nothing: it is refused, or the very row is there. -/
def KeepsName (env : Env) (u : User) (name : String) : Prop :=
  ∀ stored, storedName name = some stored → u.displayName = stored ∧ u.updatedAt = env.now

/-- The operation does not come to its write, or writes what is there. The kind of the
resource in its path does not enter into it. -/
def Harmless (t : UserTable) (env : Env) (tenantID : UUID) (op : BulkOperationRequest) : Prop :=
  (op.method = "POST" → ∀ scimUser, op.user = .ok scimUser →
    CreateRefused t env tenantID (createInput scimUser)) ∧
  (op.method = "PUT" → ∀ target, bulkTarget parse t tenantID op = .ok target →
    ∀ scimUser, op.user = .ok scimUser → KeepsName env target.2 scimUser.displayName) ∧
  (op.method = "PATCH" → ∀ target, bulkTarget parse t tenantID op = .ok target →
    ∀ ops, op.patch = .ok ops → ∀ dn, patchDisplayName std target.2 ops = .ok dn →
      dn ≠ "" → dn ≠ target.2.displayName → KeepsName env target.2 dn) ∧
  (op.method = "DELETE" → ∀ target, bulkTarget parse t tenantID op = .ok target →
    env.cleaned = false)

/-- An `INSERT` adds a row or says why not. -/
theorem createUser_cases (t : UserTable) (user : User) :
    (∃ t', UserRepo.createUser t user = .ok t' ∧ t'.rows.length = t.rows.length + 1 ∧
      user.texts.any holdsNul = false ∧ ∃ row, user.stored = some row ∧
        t.duplicate row = false ∧ ∀ b ∈ t, b.id ≠ row.id) ∨
    (∃ err, UserRepo.createUser t user = .error err ∧
      (user.texts.any holdsNul = true ∨
        ∀ row, user.stored = some row → t.duplicate row = true ∨ ∃ b ∈ t, b.id = row.id)) := by
  unfold UserRepo.createUser
  by_cases hnul : user.texts.any holdsNul = true
  · rw [if_pos hnul]
    exact Or.inr ⟨_, rfl, Or.inl hnul⟩
  rw [if_neg hnul]
  cases hrow : user.stored with
  | none => exact Or.inr ⟨_, rfl, Or.inr fun row h => absurd h (by simp)⟩
  | some row =>
    simp only
    by_cases hdup : t.duplicate row = true
    · rw [if_pos hdup]
      exact Or.inr ⟨_, rfl, Or.inr fun row' h => Or.inl (Option.some.inj h ▸ hdup)⟩
    rw [if_neg hdup]
    cases hinsert : t.insert? row with
    | none =>
      have htaken : ∃ b ∈ t, b.id = row.id := by
        by_contra hfree
        obtain ⟨t', ht'⟩ := Table.insert?_of_fresh fun b hb hid => hfree ⟨b, hb, hid⟩
        rw [hinsert] at ht'
        exact absurd ht' (by simp)
      exact Or.inr ⟨_, rfl, Or.inr fun row' h => Or.inr (Option.some.inj h ▸ htaken)⟩
    | some t' =>
      have hmore : t'.rows.length = t.rows.length + 1 := by
        rw [Table.insert?_rows hinsert, List.length_append, List.length_singleton]
      exact Or.inl ⟨t', rfl, hmore, Bool.eq_false_iff.mpr hnul, row, rfl,
        Bool.eq_false_iff.mpr hdup, (Table.insert?_eq_some hinsert).1⟩

theorem createUser_keeps_iff {input : CreateUserInput} :
    (IdentityService.createUser t env tenantID input).1 = t ↔ CreateRefused t env tenantID input := by
  unfold IdentityService.createUser CreateRefused
  by_cases hlong : input.tooLong = true
  · simp [hlong]
  by_cases hname : (UserRepo.getUserByColumn t tenantID User.username input.username).isOk = true
  · simp [hlong, hname]
  by_cases hemail : (UserRepo.getUserByColumn t tenantID User.email input.email).isOk = true
  · simp [hlong, hname, hemail]
  rw [if_neg hlong, if_neg hname, if_neg hemail]
  rcases createUser_cases t (input.user env tenantID) with
    ⟨t', hok, hmore, hnul, row, hrow, hdup, hfree⟩ | ⟨err, herr, hwhy⟩
  · have hne : ∀ t'' : UserTable, t''.rows.length = t'.rows.length → t'' ≠ t := by
      rintro t'' hlength rfl
      omega
    simp only [hok]
    constructor
    · intro hkept
      exfalso
      cases hrecorded : env.recorded with
      | true =>
        rw [hrecorded, if_pos rfl] at hkept
        exact hne _ (List.length_map _) hkept
      | false =>
        rw [hrecorded, if_neg (by decide)] at hkept
        exact hne _ rfl hkept
    · rintro (h | h | h | h | h)
      · exact absurd h hlong
      · exact absurd h hname
      · exact absurd h hemail
      · exact absurd h (by simp [hnul])
      · rcases h row hrow with h | ⟨b, hb, hid⟩
        · exact absurd h (by simp [hdup])
        · exact absurd hid (hfree b hb)
  · simp only [herr, true_iff]
    exact Or.inr (Or.inr (Or.inr hwhy))

/-- The users after an update, whether it is refused or not. -/
def afterUpdate (t : UserTable) : Except UserError (User × UserTable) → UserTable
  | .ok (_, t') => t'
  | .error _ => t

theorem updateName_keeps_iff {name : String} (hget : UserRepo.getUserByID t tenantID id = .ok u) :
    afterUpdate t (IdentityService.updateUser t env.now tenantID id { displayName := some name }) = t ↔
      KeepsName env u name := by
  have hmem : u ∈ t := (UserRepo.getUserByID_eq_ok_iff.mp hget).1
  rw [updateUser_displayName hget]
  unfold KeepsName
  cases storedName name with
  | none => simp [afterUpdate]
  | some stored =>
    simp only [Option.some.injEq, forall_eq']
    show t.put (u.named stored env.now) = t ↔ _
    rw [UserTable.put_eq_self_iff hmem (u.named_id stored env.now)]
    constructor
    · intro h
      exact ⟨(congrArg User.displayName h).symm, (congrArg User.updatedAt h).symm⟩
    · rintro ⟨h, h'⟩
      rw [User.named, ← h, ← h']

theorem bulkTarget_ok {op : BulkOperationRequest} {target : UUID × User}
    (h : bulkTarget parse t tenantID op = .ok target) :
    UserRepo.getUserByID t tenantID target.1 = .ok target.2 := by
  unfold bulkTarget at h
  split at h
  · exact absurd h (by simp)
  · split at h
    · exact absurd h (by simp)
    · rename_i hget
      split at h
      · exact absurd h (by simp)
      · obtain rfl := Except.ok.inj h
        exact hget

theorem bulkCreateUser_keeps_iff {op : BulkOperationRequest} :
    (bulkCreateUser t env tenantID op).1 = t ↔
      ∀ scimUser, op.user = .ok scimUser →
        CreateRefused t env tenantID (createInput scimUser) := by
  unfold bulkCreateUser
  cases op.user with
  | error err => simp
  | ok scimUser =>
    simp only [Except.ok.injEq, forall_eq', ← createUser_keeps_iff]
    split <;> simp [*]

theorem bulkReplaceUser_keeps_iff {op : BulkOperationRequest} :
    (bulkReplaceUser parse t env tenantID op).1 = t ↔
      ∀ target, bulkTarget parse t tenantID op = .ok target →
        ∀ scimUser, op.user = .ok scimUser → KeepsName env target.2 scimUser.displayName := by
  unfold bulkReplaceUser
  cases htarget : bulkTarget parse t tenantID op with
  | error err => simp
  | ok target =>
    cases op.user with
    | error err => simp
    | ok scimUser =>
      simp only [Except.ok.injEq, forall_eq',
        ← updateName_keeps_iff (bulkTarget_ok parse htarget)]
      cases IdentityService.updateUser t env.now tenantID target.1
        { displayName := some scimUser.displayName } <;> rfl

theorem bulkPatchUser_keeps_iff {op : BulkOperationRequest} :
    (bulkPatchUser std parse t env tenantID op).1 = t ↔
      ∀ target, bulkTarget parse t tenantID op = .ok target →
        ∀ ops, op.patch = .ok ops → ∀ dn, patchDisplayName std target.2 ops = .ok dn →
          dn ≠ "" → dn ≠ target.2.displayName → KeepsName env target.2 dn := by
  unfold bulkPatchUser
  cases htarget : bulkTarget parse t tenantID op with
  | error err => simp
  | ok target =>
    have hget : UserRepo.getUserByID t tenantID target.1 = .ok target.2 := bulkTarget_ok parse htarget
    cases op.patch with
    | error err => simp
    | ok ops =>
      simp only [Except.ok.injEq, forall_eq', IdentityService.getUser, hget]
      cases patchDisplayName std target.2 ops with
      | error err => simp
      | ok dn =>
        simp only [Except.ok.injEq, forall_eq', ← updateName_keeps_iff hget]
        by_cases hchange : dn ≠ "" ∧ dn ≠ target.2.displayName
        · rw [if_pos hchange]
          exact ⟨fun h _ _ => h, fun h => h hchange.1 hchange.2⟩
        · rw [if_neg hchange]
          exact ⟨fun _ hne hne' => absurd ⟨hne, hne'⟩ hchange, fun _ => rfl⟩

theorem bulkDeleteUser_keeps_iff {op : BulkOperationRequest} :
    (bulkDeleteUser parse t env tenantID op).1 = t ↔
      ∀ target, bulkTarget parse t tenantID op = .ok target → env.cleaned = false := by
  unfold bulkDeleteUser
  cases htarget : bulkTarget parse t tenantID op with
  | error err => simp
  | ok target =>
    have hget : UserRepo.getUserByID t tenantID target.1 = .ok target.2 := bulkTarget_ok parse htarget
    obtain ⟨hmem, -, -, hlive⟩ := UserRepo.getUserByID_eq_ok_iff.mp hget
    simp only [Except.ok.injEq, forall_eq', IdentityService.deleteUser_eq hget]
    cases env.cleaned with
    | false => simp
    | true =>
      simp only [if_true]
      rw [UserTable.put_eq_self_iff hmem (target.2.removed_id env.now)]
      constructor
      · intro hrow
        have hdeleted : some env.now = target.2.deletedAt := congrArg User.deletedAt hrow
        exact absurd (hdeleted.trans hlive) (by simp)
      · exact fun h => absurd h (by decide)

/-- **When a bulk operation leaves the users alone.** -/
theorem executeBulkOp_keeps_iff {op : BulkOperationRequest} :
    (executeBulkOp std parse t env tenantID op).1 = t ↔ Harmless std parse t env tenantID op := by
  unfold executeBulkOp Harmless
  by_cases hpost : op.method = "POST"
  · simp [hpost, bulkCreateUser_keeps_iff]
  by_cases hput : op.method = "PUT"
  · simp [hput, bulkReplaceUser_keeps_iff]
  by_cases hpatch : op.method = "PATCH"
  · simp [hpatch, bulkPatchUser_keeps_iff]
  by_cases hdelete : op.method = "DELETE"
  · simp [hdelete, bulkDeleteUser_keeps_iff]
  simp [hpost, hput, hpatch, hdelete]

/-- What the two engines ask of the names they know, which are ASCII text. -/
structure FoldsNames : Prop where
  display  : std.equalFold "displayName" "displayName" = true
  id       : std.equalFold "id" "displayName" = false
  userName : std.equalFold "userName" "displayName" = false
  add      : std.toLower "add" = "add"
  replace  : std.toLower "replace" = "replace"
  path     : std.toLower "displayName" = "displayname"

/-- An operation that sets the display name to a text that can be stored. -/
def SetsDisplayName (op : PatchOperation) (s : String) : Prop :=
  (op.op = "add" ∨ op.op = "replace") ∧ op.path = "displayName" ∧ op.value = .json (.string s) ∧
    s ≠ "" ∧ storedName s = some s

theorem parsePatchPath_displayName :
    parsePatchPath "displayName" = ("displayName", "", "") := by
  simp only [parsePatchPath, Strings.trimSpace, String.toList_ofList]
  rfl

theorem trimSpace_add : Strings.trimSpace "add" = "add" := by
  rw [← String.toList_inj, Strings.trimSpace, String.toList_ofList]
  rfl

theorem trimSpace_replace : Strings.trimSpace "replace" = "replace" := by
  rw [← String.toList_inj, Strings.trimSpace, String.toList_ofList]
  rfl

/-- A map with the entries of a user, by the first three. -/
def Named (h : Heap) (attrs : Ref) (s : String) : Prop :=
  attrs < h.size ∧ ∃ id userName rest, h.get attrs =
    ("id", id) :: ("userName", userName) :: ("displayName", .string s) :: rest

variable {std} {h : Heap} {attrs : Ref} {s s' : String}

theorem find_named (hstd : FoldsNames std) (hnamed : Named h attrs s) :
    (h.get attrs).find? (fun e => std.equalFold e.1 "displayName") =
      some ("displayName", .string s) := by
  obtain ⟨-, id, userName, rest, hget⟩ := hnamed
  rw [hget, List.find?_cons_of_neg (by rw [hstd.id]; decide),
    List.find?_cons_of_neg (by rw [hstd.userName]; decide),
    List.find?_cons_of_pos (by exact hstd.display)]

theorem named_setAttr (hstd : FoldsNames std) (hnamed : Named h attrs s) (s' : String) :
    Named (setAttr std h attrs "displayName" (.string s')) attrs s' := by
  have hfind := find_named hstd hnamed
  obtain ⟨hlt, id, userName, rest, hget⟩ := hnamed
  unfold setAttr setAttrCaseInsensitive
  rw [hfind]
  refine ⟨by rw [Heap.size_set]; exact hlt, id, userName, ?_⟩
  rw [Heap.get_set_self hlt, assign, if_pos (by rw [hget]; simp), hget]
  exact ⟨_, rfl⟩

theorem applyOp_named (hstd : FoldsNames std) (hnamed : Named h attrs s) {op : PatchOperation}
    (hop : SetsDisplayName op s') :
    ∃ h', applyOp std h attrs op = .ok h' ∧ Named h' attrs s' := by
  obtain ⟨hverb, hpath, hvalue, -, -⟩ := hop
  have hget : getAttrCaseInsensitive std (h.get attrs) "displayName" = .string s := by
    rw [getAttrCaseInsensitive, find_named hstd hnamed]
    rfl
  refine ⟨_, ?_, named_setAttr hstd hnamed s'⟩
  have hne : ("displayName" : String) ≠ "" := by decide
  unfold applyOp
  rcases hverb with hverb | hverb
  · rw [hverb, trimSpace_add, hstd.add, if_pos rfl, hpath, hvalue]
    simp only [applyAdd, applyPut, decodeValue, Heap.load, parsePatchPath_displayName, if_neg hne,
      if_true, addAttr, hget, ne_eq, not_true_eq_false, if_false]
  · rw [hverb, trimSpace_replace, hstd.replace, if_neg (by decide), if_pos rfl, hpath, hvalue]
    simp only [applyReplace, applyPut, decodeValue, Heap.load, parsePatchPath_displayName, if_neg hne,
      if_true, replaceAttr, hget, ne_eq, not_true_eq_false, if_false]

theorem setsName_of_sets (hstd : FoldsNames std) {op : PatchOperation} (hop : SetsDisplayName op s) :
    setsName std op = some s := by
  obtain ⟨hverb, hpath, hvalue, -, -⟩ := hop
  have hput : std.toLower op.op = "replace" ∨ std.toLower op.op = "add" := by
    rcases hverb with hverb | hverb
    · exact Or.inr (by rw [hverb, hstd.add])
    · exact Or.inl (by rw [hverb, hstd.replace])
  rw [setsName, if_pos (Or.inl (by rw [hpath, hstd.path])), if_pos hput, hvalue]
  rfl

/-- The loop of `ApplyPatch` on such a list, from any index on. -/
theorem run_named (hstd : FoldsNames std) {ops : List PatchOperation}
    (hops : ∀ op ∈ ops, ∃ s, SetsDisplayName op s) (hnamed : Named h attrs s) (i : Nat) :
    ∃ h', run (patchStep std attrs) (h, none) (ops.zipIdx i) = (h', none) ∧
      Named h' attrs (lastOr (setsName std) ops s) := by
  induction ops generalizing h s i with
  | nil => exact ⟨h, rfl, hnamed⟩
  | cons op ops ih =>
    obtain ⟨⟨s', hop⟩, hrest⟩ := List.forall_mem_cons.mp hops
    obtain ⟨h', happly, hnamed'⟩ := applyOp_named hstd hnamed hop
    obtain ⟨h'', hrun, hnamed''⟩ := ih hrest hnamed' (i + 1)
    refine ⟨h'', ?_, ?_⟩
    · have hstep : patchStep std attrs (h, none) (op, i) = (h', none) := by
        simp only [patchStep, happly]
      rw [List.zipIdx_cons]
      show run (patchStep std attrs) (patchStep std attrs (h, none) (op, i)) _ = _
      rw [hstep, hrun]
    · rw [lastOr_cons, setsName_of_sets hstd hop]
      exact hnamed''

theorem toStr_named (hstd : FoldsNames std) (hnamed : Named h attrs s) :
    patchedDisplayName std h attrs = s := by
  obtain ⟨depth, hdepth⟩ : ∃ depth, h.bound = depth + 1 := by
    obtain ⟨hlt, -⟩ := hnamed
    obtain ⟨maps⟩ := h
    cases maps with
    | nil => exact absurd hlt (Nat.not_lt_zero _)
    | cons entries maps =>
      refine ⟨(entries.map fun e => e.2.depth).sum +
        (maps.map fun entries => (entries.map fun e => e.2.depth).sum + 1).sum, ?_⟩
      rw [Heap.bound, List.map_cons, List.sum_cons]
      omega
  rw [patchedDisplayName, getAttrCaseInsensitive, find_named hstd hnamed, hdepth]
  rfl

/-- The attributes of a user begin with three that are always there. -/
theorem named_scimUserToAttrs (h : Heap) (u : SCIMUser) :
    Named (scimUserToAttrs h u).2 (scimUserToAttrs h u).1 u.displayName := by
  refine ⟨?_, .string u.id, .string u.userName, _, Heap.get_alloc_self⟩
  show Heap.size _ < (Heap.alloc _ _).2.size
  rw [Heap.size_alloc]
  exact Nat.lt_succ_self _

/-- **What `ApplyPatch` makes of such a list.** -/
theorem patchDisplayName_named (hstd : FoldsNames std) (u : User) {ops : List PatchOperation}
    (hops : ∀ op ∈ ops, ∃ s, SetsDisplayName op s) :
    patchDisplayName std u ops = .ok (lastOr (setsName std) ops u.displayName) := by
  obtain ⟨hlt, id, userName, rest, hget⟩ := named_scimUserToAttrs ⟨[]⟩ (toSCIMUser u)
  have hcopy : ∀ (h : Heap) (attrs : Ref), h.get attrs = ("id", id) :: ("userName", userName) ::
      ("displayName", .string u.displayName) :: rest →
      Named (h.alloc (h.get attrs)).2 h.size u.displayName := by
    intro h attrs hget
    refine ⟨by rw [Heap.size_alloc]; exact Nat.lt_succ_self _, id, userName, rest, ?_⟩
    rw [Heap.get_alloc_self, hget]
  obtain ⟨h', hrun, hnamed⟩ := run_named hstd hops (hcopy _ _ hget) 0
  unfold patchDisplayName applyPatch
  simp only [Heap.alloc_ref, hrun]
  exact congrArg Except.ok (toStr_named hstd hnamed)

theorem storedName_lastOr (hstd : FoldsNames std) {ops : List PatchOperation} {old : String}
    (hops : ∀ op ∈ ops, ∃ s, SetsDisplayName op s) (hold : storedName old = some old) :
    storedName (lastOr (setsName std) ops old) = some (lastOr (setsName std) ops old) ∧
      (lastOr (setsName std) ops old = old ∨ lastOr (setsName std) ops old ≠ "") := by
  induction ops generalizing old with
  | nil => exact ⟨hold, Or.inl rfl⟩
  | cons op ops ih =>
    obtain ⟨⟨s, hop⟩, hrest⟩ := List.forall_mem_cons.mp hops
    rw [lastOr_cons, setsName_of_sets hstd hop, Option.getD_some]
    obtain ⟨-, -, -, hne, hstored⟩ := hop
    obtain ⟨hlast, hkind⟩ := ih hrest hstored
    refine ⟨hlast, Or.inr ?_⟩
    rcases hkind with hsame | hne'
    · rw [hsame]
      exact hne
    · exact hne'

theorem lastOr_setsActive (hstd : FoldsNames std) {ops : List PatchOperation} (old : Bool)
    (hops : ∀ op ∈ ops, ∃ s, SetsDisplayName op s) : lastOr (setsActive std) ops old = old := by
  induction ops with
  | nil => rfl
  | cons op ops ih =>
    obtain ⟨⟨s, -, hpath, -⟩, hrest⟩ := List.forall_mem_cons.mp hops
    have hnone : setsActive std op = none := by
      rw [setsActive, if_neg]
      rw [hpath, hstd.path]
      exact fun h => absurd h.1 (by decide)
    rw [lastOr_cons, hnone]
    exact ih hrest

/-- **Lists that set the display name agree.** -/
theorem agreeing_of_names (hstd : FoldsNames std) (htenant : tenantID ≠ UUID.nil)
    (hu : storedName u.displayName = some u.displayName) {ops : List PatchOperation}
    (hops : ∀ op ∈ ops, ∃ s, SetsDisplayName op s) : Agreeing std env tenantID u ops := by
  obtain ⟨hstored, hkind⟩ := storedName_lastOr hstd hops hu
  unfold Agreeing engineName
  rw [if_neg htenant, patchDisplayName_named hstd u hops, lastOr_setsActive hstd _ hops, hstored]
  simp only
  by_cases hsame : lastOr (setsName std) ops u.displayName = u.displayName
  · rw [if_pos (Or.inr hsame), hsame]
    exact ⟨rfl, trivial⟩
  · rw [if_neg (by tauto), hstored]
    exact ⟨rfl, trivial⟩

namespace Sample

def parseUUID : ParseUUID := fun s =>
  if s.toList = "00000000-0000-0000-0000-000000000007".toList then .ok 7
  else .error "invalid UUID length"

def calmEnv : Env := ⟨8, "", 2000, 3000, true, true, true⟩

def setDisplayName : PatchOperation := ⟨"replace", "displayName", .json (.string "Jane Doe")⟩

def deactivate : PatchOperation := ⟨"replace", "active", .json (.bool false)⟩

def entry (path : String) (ops : List PatchOperation) : BulkOperationRequest where
  method := "PATCH"
  path := path
  bulkID := "1"
  user := .ok {}
  patch := .ok ops

/-- What asks for a group to be replaced. -/
def replaceGroup : BulkOperationRequest where
  method := "PUT"
  path := "/Groups/00000000-0000-0000-0000-000000000007"
  bulkID := "1"
  user := .ok { displayName := "Engineering" }
  patch := .error "unexpected end of JSON input"

theorem extractIDFromPath_jane :
    extractIDFromPath parseUUID "/Users/00000000-0000-0000-0000-000000000007" = .ok 7 := by
  have hsplit : splitPath ("/Users/00000000-0000-0000-0000-000000000007".toList.dropWhile (· = '/')) =
      ["Users".toList, "00000000-0000-0000-0000-000000000007".toList] := by
    rfl
  simp only [extractIDFromPath, hsplit, parseUUID, String.toList_ofList]
  rfl

theorem foldsNames_stdlib : FoldsNames stdlib := by
  constructor <;> rfl

theorem splitPath_group :
    splitPath ("/Groups/00000000-0000-0000-0000-000000000007".toList.dropWhile (· = '/')) =
      ["Groups".toList, "00000000-0000-0000-0000-000000000007".toList] := by
  rfl

theorem bulkTarget_group :
    bulkTarget parseUUID users 1 replaceGroup = .ok (7, jane) := by
  have hpath : extractIDFromPath parseUUID replaceGroup.path = .ok 7 := by
    simp only [extractIDFromPath, replaceGroup, splitPath_group, parseUUID, String.toList_ofList]
    rfl
  rw [bulkTarget_of_get parseUUID getUserByID_jane hpath]
  exact if_neg (by decide)

theorem setsDisplayName_sample : ∀ op ∈ [setDisplayName], ∃ s, SetsDisplayName op s := by
  intro op hop
  rw [List.mem_singleton.mp hop]
  exact ⟨"Jane Doe", Or.inr rfl, rfl, rfl, by decide, by rfl⟩

end Sample

end Ggid.Identity
