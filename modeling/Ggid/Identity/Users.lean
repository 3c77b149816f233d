import Ggid.Go.Value
import Ggid.Lib.Table
import Ggid.Identity.Filter

/-!
# Identity service — users

The `users` table, the statements of `pgRepo` on it and what `IdentityService` makes of them.

A call sees the rows of one tenant. The tables beside `users` (credentials, email addresses,
sessions, keys, …) are left out: whether the statements on them go through is part of the
`Env` of a call. There is no column for an external ID, and no statement writes a user's
name or email address once it is created.

* `mem_put`           — the rows after the row of a user was written;
* `put_eq_self_iff`   — a write shows, unless it writes the row that is there;
* `sameUsers_put_iff` — two writes of a row are the same but for `updated_at` if their rows are.
-/

namespace Ggid.Identity

open Ggid.Go Ggid.Lib

inductive UserStatus where
  | active
  | locked
  | disabled
  | deleted
  deriving DecidableEq

structure User where
  id             : UUID
  tenantID       : UUID
  username       : String
  email          : String
  phone          : String
  status         : UserStatus
  emailVerified  : Bool
  phoneVerified  : Bool
  primaryEmailID : Option UUID
  displayName    : String
  avatarURL      : String
  locale         : String
  timezone       : String
  lastLoginAt    : Option Time
  lastLoginIP    : Option String
  passwordHash   : String
  createdAt      : Time
  updatedAt      : Time
  deletedAt      : Option Time
  deriving DecidableEq

abbrev UserTable := Table User.id

inductive UserError where
  /-- `%s not found: %s` -/
  | notFound (resource id : String)
  /-- `%s already exists: %s` -/
  | alreadyExists (resource id : String)
  | invalidArgument (message : String)
  /-- `Wrap(ErrInternal, message, err)`, without the error of the database. -/
  | internal (message : String)
  deriving DecidableEq

/-- What a call meets with. -/
structure Env where
  /-- `uuid.New()` -/
  newID        : UUID
  passwordHash : String
  /-- `NOW()` in the first transaction that writes, and in the second. -/
  now          : Time
  later        : Time
  /-- The credential and the email address of a new user are recorded. -/
  recorded     : Bool
  /-- What a deleted user leaves behind is removed. -/
  cleaned      : Bool
  /-- The sessions and keys of a locked user are revoked. -/
  revoked      : Bool

-- ---------------------------------------------------------------------------
-- Columns
-- ---------------------------------------------------------------------------

/-- A text the database takes for no text at all. -/
def holdsNul (s : String) : Bool := s.toList.contains '\x00'

/-- What a `VARCHAR(n)` column makes of a text: what is too long is refused, unless by
spaces only, which are cut off. -/
def varchar (n : Nat) (s : String) : Option String :=
  if s.length ≤ n then some s
  else if (s.toList.drop n).all (· = ' ') then some (String.ofList (s.toList.take n))
  else none

/-- `COALESCE($i, column)`, stored in the `VARCHAR(n)` column. -/
def coalesce (n : Nat) (input : Option String) (column : String) : Option String :=
  match input with
  | some s => varchar n s
  | none => some column

structure UpdateUserInput where
  username    : Option String := none
  email       : Option String := none
  phone       : Option String := none
  displayName : Option String := none
  avatarURL   : Option String := none
  locale      : Option String := none
  timezone    : Option String := none

/-- The parameters of `updateUserSQL`; the name and the email address are none of them. -/
def UpdateUserInput.params (input : UpdateUserInput) : List (Option String) :=
  [input.phone, input.displayName, input.avatarURL, input.locale, input.timezone]

/-- `SET phone = COALESCE($3, phone), …`. -/
def User.updated (u : User) (input : UpdateUserInput) : Option User := do
  let phone ← coalesce 20 input.phone u.phone
  let displayName ← coalesce 200 input.displayName u.displayName
  let avatarURL ← coalesce 500 input.avatarURL u.avatarURL
  let locale ← coalesce 10 input.locale u.locale
  let timezone ← coalesce 50 input.timezone u.timezone
  return { u with phone, displayName, avatarURL, locale, timezone }

/-- The row an `INSERT` stores. -/
def User.stored (u : User) : Option User := do
  let username ← varchar 64 u.username
  let email ← varchar 255 u.email
  let phone ← varchar 20 u.phone
  let displayName ← varchar 200 u.displayName
  let avatarURL ← varchar 500 u.avatarURL
  let locale ← varchar 10 u.locale
  let timezone ← varchar 50 u.timezone
  return { u with username, email, phone, displayName, avatarURL, locale, timezone }

/-- `SET status = $3, updated_at = NOW()`. -/
def User.inStatus (u : User) (status : UserStatus) (now : Time) : User :=
  { u with status := status, updatedAt := now }

/-- `SET status = $3, deleted_at = NOW(), updated_at = NOW()`, with the status of deleted users. -/
def User.removed (u : User) (now : Time) : User :=
  { u with status := .deleted, deletedAt := some now, updatedAt := now }

@[simp] theorem User.inStatus_id (u : User) (status : UserStatus) (now : Time) :
    (u.inStatus status now).id = u.id := rfl

@[simp] theorem User.removed_id (u : User) (now : Time) : (u.removed now).id = u.id := rfl

/-- The texts of an `INSERT`. -/
def User.texts (u : User) : List String :=
  [u.username, u.email, u.phone, u.displayName, u.avatarURL, u.locale, u.timezone, u.passwordHash]

-- ---------------------------------------------------------------------------
-- `pgRepo`
-- ---------------------------------------------------------------------------

namespace UserTable

/-- The row of a user is written. -/
def put (t : UserTable) (u : User) : UserTable :=
  t.update (fun a => a.id = u.id) (fun a => { u with id := a.id }) fun _ => rfl

/-- `UNIQUE (tenant_id, username)` and `UNIQUE (tenant_id, email)`, deleted rows included. -/
def duplicate (t : UserTable) (u : User) : Bool :=
  t.rows.any fun a => a.tenantID = u.tenantID && (a.username = u.username || a.email = u.email)

end UserTable

namespace UserRepo

def getUserByID (t : UserTable) (tenantID id : UUID) : Except UserError User :=
  match t.find? id with
  | some u =>
    if u.tenantID = tenantID ∧ u.deletedAt = none then .ok u
    else .error (.notFound "user" id.string)
  | none => .error (.notFound "user" id.string)

def getUserByColumn (t : UserTable) (tenantID : UUID) (column : User → String) (value : String) :
    Except UserError User :=
  match t.rows.find? fun u => column u = value && u.tenantID = tenantID && u.deletedAt = none with
  | some u => .ok u
  | none => .error (.notFound "user" value)

def createUser (t : UserTable) (user : User) : Except UserError UserTable :=
  if user.texts.any holdsNul then .error (.internal "create user")
  else
    match user.stored with
    | none => .error (.internal "create user")
    | some row =>
      if t.duplicate row then .error (.alreadyExists "user" user.username)
      else
        match t.insert? row with
        | none => .error (.alreadyExists "user" user.username)
        | some t => .ok t

def updateUser (t : UserTable) (now : Time) (tenantID id : UUID) (input : UpdateUserInput) :
    Except UserError (User × UserTable) :=
  if input.params.any (·.any holdsNul) then .error (.internal "update user")
  else do
    let u ← getUserByID t tenantID id
    match u.updated input with
    | none => throw (.internal "update user")
    | some u =>
      let u := { u with updatedAt := now }
      return (u, t.put u)

def deleteUser (t : UserTable) (now : Time) (cleaned : Bool) (tenantID id : UUID) :
    Except UserError UserTable := do
  let u ← getUserByID t tenantID id
  if !cleaned then throw (.internal "cascade cleanup")
  return t.put (u.removed now)

/-- To activate a deleted user brings it back. -/
def setUserStatus (t : UserTable) (now : Time) (revoked : Bool) (tenantID id : UUID)
    (status : UserStatus) : Except UserError (User × UserTable) :=
  if status = .active then
    match t.find? id with
    | some u =>
      if u.tenantID = tenantID then
        let u := { u.inStatus status now with deletedAt := none }
        .ok (u, t.put u)
      else .error (.notFound "user" id.string)
    | none => .error (.notFound "user" id.string)
  else do
    let u ← getUserByID t tenantID id
    if (status = .locked || status = .disabled) && !revoked then
      throw (.internal "cascade delete sessions")
    let u := u.inStatus status now
    return (u, t.put u)

end UserRepo

-- ---------------------------------------------------------------------------
-- `IdentityService`
-- ---------------------------------------------------------------------------

structure CreateUserInput where
  username    : String
  email       : String
  phone       : String := ""
  displayName : String
  locale      : String := ""
  timezone    : String := ""

def CreateUserInput.tooLong (input : CreateUserInput) : Bool :=
  255 < byteLength input.username.toList || 320 < byteLength input.email.toList ||
    255 < byteLength input.displayName.toList || 32 < byteLength input.phone.toList ||
    10 < byteLength input.locale.toList || 64 < byteLength input.timezone.toList

/-- The user `CreateUser` asks to store. -/
def CreateUserInput.user (input : CreateUserInput) (env : Env) (tenantID : UUID) : User where
  id := env.newID
  tenantID := tenantID
  username := input.username
  email := input.email
  phone := input.phone
  status := .active
  emailVerified := false
  phoneVerified := false
  primaryEmailID := none
  displayName := input.displayName
  avatarURL := ""
  locale := if input.locale = "" then "en" else input.locale
  timezone := input.timezone
  lastLoginAt := none
  lastLoginIP := none
  passwordHash := env.passwordHash
  createdAt := env.now
  updatedAt := env.now
  deletedAt := none

namespace IdentityService

/-- With a password from `GenerateRandomPassword`, which has what the policy asks for. The row
stays when its credential or its email address cannot be recorded; the trigger on `users`
stamps it again when the address becomes the primary one. The ID of that address, which the
returned user has, is left out. -/
def createUser (t : UserTable) (env : Env) (tenantID : UUID) (input : CreateUserInput) :
    UserTable × Except UserError User :=
  if input.tooLong then (t, .error (.invalidArgument "input field exceeds maximum length"))
  else if (UserRepo.getUserByColumn t tenantID User.username input.username).isOk then
    (t, .error (.alreadyExists "user" ""))
  else if (UserRepo.getUserByColumn t tenantID User.email input.email).isOk then
    (t, .error (.alreadyExists "email" ""))
  else
    let user := input.user env tenantID
    match UserRepo.createUser t user with
    | .error err => (t, .error err)
    | .ok t =>
      if env.recorded then
        (t.update (fun u => u.id = user.id) (fun u => { u with updatedAt := env.later })
          fun _ => rfl, .ok user)
      else (t, .error (.internal "failed to create credential"))

def getUser := UserRepo.getUserByID

def updateUser := UserRepo.updateUser

def deleteUser := UserRepo.deleteUser

def lockUser (t : UserTable) (now : Time) (revoked : Bool) (tenantID id : UUID) :
    Except UserError (User × UserTable) :=
  UserRepo.setUserStatus t now revoked tenantID id .locked

def unlockUser (t : UserTable) (now : Time) (revoked : Bool) (tenantID id : UUID) :
    Except UserError (User × UserTable) :=
  UserRepo.setUserStatus t now revoked tenantID id .active

end IdentityService

-- ---------------------------------------------------------------------------
-- Writes
-- ---------------------------------------------------------------------------

/-- A user, but for the time of the last write. -/
def User.unstamped (u : User) : User := { u with updatedAt := Time.zero }

/-- The same users, but for the times of the last writes. -/
def SameUsers (t t' : UserTable) : Prop :=
  t.rows.map User.unstamped = t'.rows.map User.unstamped

theorem SameUsers.symm {t t' : UserTable} (h : SameUsers t t') : SameUsers t' t := Eq.symm h

namespace UserTable

variable {t : UserTable} {u u' u'' : User}

theorem put_rows (t : UserTable) (u : User) :
    (t.put u).rows = t.rows.map fun a => if a.id = u.id then u else a := by
  unfold put Table.update
  apply List.map_congr_left
  intro a _
  by_cases ha : a.id = u.id
  · rw [if_pos (decide_eq_true ha), if_pos ha]
    show { u with id := a.id } = u
    rw [ha]
  · rw [if_neg ha, if_neg (by rw [decide_eq_true_eq]; exact ha)]

theorem mem_put {a : User} (hu : u ∈ t) (hid : u'.id = u.id) :
    a ∈ t.put u' ↔ a = u' ∨ (a ∈ t ∧ a.id ≠ u.id) := by
  rw [Table.mem_def, put_rows, List.mem_map]
  constructor
  · rintro ⟨b, hb, rfl⟩
    by_cases hbid : b.id = u'.id
    · exact Or.inl (if_pos hbid)
    · rw [if_neg hbid]
      exact Or.inr ⟨hb, hid ▸ hbid⟩
  · rintro (rfl | ⟨ha, hne⟩)
    · exact ⟨u, hu, if_pos hid.symm⟩
    · exact ⟨a, ha, if_neg (hid ▸ hne)⟩

/-- The row that was written is found. -/
theorem find_put (hu : u ∈ t) (hid : u'.id = u.id) : (t.put u').find? u.id = some u' :=
  Table.find?_eq_some_iff.mpr ⟨(mem_put hu hid).mpr (Or.inl rfl), hid⟩

/-- Of two writes the second stands. -/
theorem put_put (hid : u'.id = u''.id) : (t.put u').put u'' = t.put u'' := by
  apply Table.ext
  rw [put_rows, put_rows, put_rows, List.map_map]
  apply List.map_congr_left
  intro a _
  show (if (if a.id = u'.id then u' else a).id = u''.id then u'' else if a.id = u'.id then u' else a)
    = if a.id = u''.id then u'' else a
  by_cases ha : a.id = u'.id
  · rw [if_pos ha, if_pos hid, if_pos (ha.trans hid)]
  · rw [if_neg ha]

theorem put_self (hu : u ∈ t) : t.put u = t := by
  apply Table.ext
  rw [put_rows]
  conv_rhs => rw [← List.map_id t.rows]
  apply List.map_congr_left
  intro a ha
  by_cases hid : a.id = u.id
  · rw [if_pos hid, Table.eq_of_key hu ha hid.symm, id]
  · rw [if_neg hid, id]

/-- A write shows, unless it writes what is there. -/
theorem put_eq_self_iff (hu : u ∈ t) (hid : u'.id = u.id) : t.put u' = t ↔ u' = u := by
  constructor
  · intro hput
    have hfound : (t.put u').find? u.id = some u' := find_put hu hid
    rw [hput, Table.find?_eq_some_iff.mpr ⟨hu, rfl⟩] at hfound
    exact (Option.some.inj hfound).symm
  · rintro rfl
    exact put_self hu

/-- Two writes of one row show the same, but for the time, if they write the same. -/
theorem sameUsers_put_iff (hu : u ∈ t) (hid : u'.id = u.id) (hid' : u''.id = u.id) :
    SameUsers (t.put u') (t.put u'') ↔ u'.unstamped = u''.unstamped := by
  unfold SameUsers
  rw [put_rows, put_rows, List.map_map, List.map_map, List.map_inj_left]
  constructor
  · intro hall
    have hrow := hall u hu
    simp only [Function.comp_apply] at hrow
    rwa [if_pos hid.symm, if_pos hid'.symm] at hrow
  · intro heq a _
    simp only [Function.comp_apply]
    by_cases ha : a.id = u.id
    · rw [if_pos (ha.trans hid.symm), if_pos (ha.trans hid'.symm), heq]
    · rw [if_neg (hid ▸ ha), if_neg (hid' ▸ ha)]

theorem sameUsers_self_put_iff (hu : u ∈ t) (hid : u'.id = u.id) :
    SameUsers t (t.put u') ↔ u.unstamped = u'.unstamped := by
  rw [← sameUsers_put_iff hu rfl hid, put_self hu]

end UserTable

-- ---------------------------------------------------------------------------
-- What the statements do
-- ---------------------------------------------------------------------------

theorem UserRepo.getUserByID_eq_ok_iff {t : UserTable} {tenantID id : UUID} {u : User} :
    getUserByID t tenantID id = .ok u ↔
      u ∈ t ∧ u.id = id ∧ u.tenantID = tenantID ∧ u.deletedAt = none := by
  unfold getUserByID
  constructor
  · intro h
    split at h
    · rename_i a hfind
      split at h
      · rename_i hlive
        obtain rfl := Except.ok.inj h
        obtain ⟨hmem, hid⟩ := Table.find?_eq_some_iff.mp hfind
        exact ⟨hmem, hid, hlive⟩
      · exact absurd h (by simp)
    · exact absurd h (by simp)
  · rintro ⟨hmem, hid, hlive⟩
    rw [Table.find?_eq_some_iff.mpr ⟨hmem, hid⟩]
    exact if_pos hlive

namespace IdentityService

variable {t : UserTable} {tenantID id : UUID} {u : User} {now : Time} {revoked cleaned : Bool}

theorem unlockUser_eq (hget : UserRepo.getUserByID t tenantID id = .ok u) :
    unlockUser t now revoked tenantID id =
      .ok (u.inStatus .active now, t.put (u.inStatus .active now)) := by
  obtain ⟨hmem, hid, htenant, hlive⟩ := UserRepo.getUserByID_eq_ok_iff.mp hget
  unfold unlockUser UserRepo.setUserStatus
  rw [if_pos rfl, Table.find?_eq_some_iff.mpr ⟨hmem, hid⟩]
  have hkept : { u.inStatus .active now with deletedAt := none } = u.inStatus .active now := by
    rw [← hlive]
    rfl
  simp only [htenant, if_true, hkept]

theorem lockUser_eq (hget : UserRepo.getUserByID t tenantID id = .ok u) :
    lockUser t now revoked tenantID id =
      if revoked then .ok (u.inStatus .locked now, t.put (u.inStatus .locked now))
      else .error (.internal "cascade delete sessions") := by
  unfold lockUser UserRepo.setUserStatus
  rw [if_neg (by decide), hget]
  cases revoked <;> rfl

theorem deleteUser_eq (hget : UserRepo.getUserByID t tenantID id = .ok u) :
    deleteUser t now cleaned tenantID id =
      if cleaned then .ok (t.put (u.removed now))
      else .error (.internal "cascade cleanup") := by
  unfold deleteUser UserRepo.deleteUser
  rw [hget]
  cases cleaned <;> rfl

end IdentityService

namespace Sample

/-- An active user. -/
def jane : User where
  id := 7
  tenantID := 1
  username := "jane"
  email := "jane@example.com"
  phone := ""
  status := .active
  emailVerified := true
  phoneVerified := false
  primaryEmailID := none
  displayName := "Jane"
  avatarURL := ""
  locale := "en"
  timezone := "UTC"
  lastLoginAt := none
  lastLoginIP := none
  passwordHash := ""
  createdAt := 1000
  updatedAt := 1000
  deletedAt := none

def users : UserTable := ⟨[jane], List.nodup_singleton _⟩

theorem getUserByID_jane : UserRepo.getUserByID users 1 7 = .ok jane := by
  rfl

end Sample

end Ggid.Identity
