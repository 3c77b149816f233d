import Ggid.Identity.Patch
import Ggid.Identity.Users

/-!
# Identity service — the SCIM endpoints of one user

`replaceUser`, `patchUser` and `deleteUser`, with the ETag of a user. What a handler makes of
the user it reads is a function of its own, so that another request can come between that
and the write behind it.

`patchUser` goes through the operations with a switch of its own and knows two attributes.

* `patchSwitch_eq` — of several operations on an attribute the last counts;
* `updateUser_displayName` — what becomes of a display name.
-/

namespace Ggid.Identity

open Ggid.Go Ggid.Lib

-- ---------------------------------------------------------------------------
-- Resources
-- ---------------------------------------------------------------------------

structure SCIMEmail where
  value   : String
  type    : String
  primary : Bool

structure SCIMUser where
  id           : String := ""
  externalID   : String := ""
  userName     : String := ""
  givenName    : String := ""
  familyName   : String := ""
  displayName  : String := ""
  profileURL   : String := ""
  locale       : String := ""
  emails       : List SCIMEmail := []
  /-- The values of the phone numbers. -/
  phoneNumbers : List String := []
  active       : Bool := false
  /-- `Meta.Version` -/
  version      : String := ""

/-- `W/"<unix_nano>"` -/
def etagOf (updatedAt : Time) : String := "W/\"" ++ toString updatedAt ++ "\""

def computeETag (u : User) : String := etagOf u.updatedAt

/-- Whether the precondition is met, and why not. -/
def checkIfMatch (ifMatch etag : String) : Bool × String :=
  if ifMatch = "" then (true, "")
  else if Strings.trimSpace ifMatch = "*" then (true, "")
  else if (Strings.split ifMatch.toList ',').any
      fun clientTag => Strings.trimSpace (String.ofList clientTag) = etag then (true, "")
  else (false, "ETag does not match If-Match precondition")

def toSCIMUser (u : User) : SCIMUser where
  id := u.id.string
  userName := u.username
  displayName := u.displayName
  givenName := u.displayName
  emails := [⟨u.email, "work", true⟩]
  active := u.status = .active
  version := computeETag u

inductive Response where
  | error (status : Nat) (scimType detail : String)
  | resource (status : Nat) (etag : String) (user : SCIMUser)
  | noContent

/-- A status in the two hundreds. -/
def Response.ok : Response → Bool
  | .error _ _ _ => false
  | _ => true

-- ---------------------------------------------------------------------------
-- `replaceUser`
-- ---------------------------------------------------------------------------

/-- What the input of `UpdateUser` takes of a resource. -/
def replaceInput (scimUser : SCIMUser) : UpdateUserInput :=
  let given (s : String) : Option String := if s = "" then none else some s
  { displayName := some scimUser.displayName
    username := given scimUser.userName
    email := (scimUser.emails.head?.map SCIMEmail.value).bind given
    phone := scimUser.phoneNumbers.head?.bind given
    locale := given scimUser.locale
    avatarURL := given scimUser.profileURL }

/-- The user that was read and what it is to be replaced by. -/
def replaceCheck (ifMatch : String) (body : Except String SCIMUser)
    (existing : Except UserError User) : Except Response (User × SCIMUser) :=
  match existing with
  | .error _ => .error (.error 404 "" "user not found")
  | .ok existing =>
    let (ok, reason) := checkIfMatch ifMatch (computeETag existing)
    if !ok then .error (.error 412 "invalidValue" reason)
    else
      match body with
      | .error _ => .error (.error 400 "invalidSyntax" "invalid request body")
      | .ok scimUser => .ok (existing, scimUser)

/-- The change of the status that comes behind the update, in a transaction of its own. -/
def replaceStatus (t : UserTable) (now : Time) (revoked : Bool) (tenantID userID : UUID)
    (active : Bool) : UserTable × Response :=
  match if !active then IdentityService.lockUser t now revoked tenantID userID
    else IdentityService.unlockUser t now revoked tenantID userID with
  | .error _ => (t, .error 500 "" "status change failed")
  | .ok (user, t) => (t, .resource 200 (computeETag user) (toSCIMUser user))

def replaceUser (t : UserTable) (env : Env) (tenantID userID : UUID) (ifMatch : String)
    (body : Except String SCIMUser) : UserTable × Response :=
  match replaceCheck ifMatch body (IdentityService.getUser t tenantID userID) with
  | .error response => (t, response)
  | .ok (_, scimUser) =>
    match IdentityService.updateUser t env.now tenantID userID (replaceInput scimUser) with
    | .error _ => (t, .error 400 "invalidValue" "invalid patch request")
    | .ok (_, t) => replaceStatus t env.later env.revoked tenantID userID scimUser.active

-- ---------------------------------------------------------------------------
-- `patchUser`
-- ---------------------------------------------------------------------------

/-- `json.Unmarshal` into a string. -/
def RawMessage.asString : RawMessage → Option String
  | .json (.string s) => some s
  | .json .nil => some ""
  | _ => none

/-- `json.Unmarshal` into a `bool`. -/
def RawMessage.asBool : RawMessage → Option Bool
  | .json (.bool b) => some b
  | .json .nil => some false
  | _ => none

/-- The changes to apply. -/
structure Changes where
  displayName : String
  active      : Bool

variable (std : Stdlib)

def patchSwitch (c : Changes) (op : PatchOperation) : Changes :=
  let opLower := std.toLower op.op
  let path := std.toLower op.path
  if path = "displayname" ∨ path = "name.givenname" then
    if opLower = "replace" ∨ opLower = "add" then
      match op.value.asString with
      | some val => { c with displayName := val }
      | none => c
    else if opLower = "remove" then { c with displayName := "" }
    else c
  else if path = "active" then
    if opLower = "replace" then
      match op.value.asBool with
      | some val => { c with active := val }
      | none => c
    else c
  else c

/-- The user that was read and the changes to it. -/
def patchChanges (body : Except String (List PatchOperation)) (user : Except UserError User) :
    Except Response (User × Changes) :=
  match body with
  | .error _ => .error (.error 400 "" "invalid PATCH request body")
  | .ok operations =>
    match user with
    | .error _ => .error (.error 404 "" "user not found")
    | .ok user =>
      .ok (user, operations.foldl (patchSwitch std) ⟨user.displayName, user.status = .active⟩)

/-- The change of the status that comes behind the update, in a transaction of its own and
from the status the update returned. -/
def patchStatus (t : UserTable) (now : Time) (revoked : Bool) (tenantID userID : UUID)
    (active : Bool) (updatedUser : User) : UserTable × Response :=
  match if active && updatedUser.status ≠ .active then
      IdentityService.unlockUser t now revoked tenantID userID
    else if !active && updatedUser.status = .active then
      IdentityService.lockUser t now revoked tenantID userID
    else .ok (updatedUser, t) with
  | .error _ => (t, .error 500 "" "status change failed")
  | .ok (user, t) => (t, .resource 200 "" (toSCIMUser user))

def patchUser (t : UserTable) (env : Env) (tenantID userID : UUID)
    (body : Except String (List PatchOperation)) : UserTable × Response :=
  match patchChanges std body (IdentityService.getUser t tenantID userID) with
  | .error response => (t, response)
  | .ok (_, changes) =>
    match IdentityService.updateUser t env.now tenantID userID
        { displayName := some changes.displayName } with
    | .error _ => (t, .error 500 "" "internal server error")
    | .ok (updatedUser, t) =>
      patchStatus t env.later env.revoked tenantID userID changes.active updatedUser

-- ---------------------------------------------------------------------------
-- `deleteUser`
-- ---------------------------------------------------------------------------

def deleteUser (t : UserTable) (env : Env) (tenantID userID : UUID) : UserTable × Response :=
  match IdentityService.deleteUser t env.now env.cleaned tenantID userID with
  | .error _ => (t, .error 404 "" "user not found")
  | .ok t => (t, .noContent)

-- ---------------------------------------------------------------------------
-- The switch
-- ---------------------------------------------------------------------------

/-- The display name an operation asks the switch for. -/
def setsName (op : PatchOperation) : Option String :=
  if std.toLower op.path = "displayname" ∨ std.toLower op.path = "name.givenname" then
    if std.toLower op.op = "replace" ∨ std.toLower op.op = "add" then op.value.asString
    else if std.toLower op.op = "remove" then some ""
    else none
  else none

/-- The status an operation asks the switch for. -/
def setsActive (op : PatchOperation) : Option Bool :=
  if std.toLower op.path = "active" ∧ std.toLower op.op = "replace" then op.value.asBool else none

/-- The last value asked for, or the one that is there. -/
def lastOr {α β : Type} (sets : α → Option β) (ops : List α) (old : β) : β :=
  (ops.filterMap sets).getLast?.getD old

theorem lastOr_cons {α β : Type} (sets : α → Option β) (op : α) (ops : List α) (old : β) :
    lastOr sets (op :: ops) old = lastOr sets ops ((sets op).getD old) := by
  unfold lastOr
  cases hop : sets op with
  | none => rw [List.filterMap_cons_none hop, Option.getD_none]
  | some b =>
    rw [List.filterMap_cons_some hop, List.getLast?_cons, Option.getD_some, Option.getD_some]

theorem patchSwitch_cases (c : Changes) (op : PatchOperation) :
    patchSwitch std c op =
      ⟨(setsName std op).getD c.displayName, (setsActive std op).getD c.active⟩ := by
  have hnot : std.toLower op.path = "displayname" ∨ std.toLower op.path = "name.givenname" →
      std.toLower op.path ≠ "active" := by
    rintro (h | h) <;> rw [h] <;> decide
  unfold patchSwitch setsName setsActive
  by_cases hname : std.toLower op.path = "displayname" ∨ std.toLower op.path = "name.givenname"
  · have hactive : ¬(std.toLower op.path = "active" ∧ std.toLower op.op = "replace") :=
      fun h => hnot hname h.1
    rw [if_pos hname, if_pos hname, if_neg hactive]
    by_cases hput : std.toLower op.op = "replace" ∨ std.toLower op.op = "add"
    · rw [if_pos hput, if_pos hput]
      cases op.value.asString <;> rfl
    · rw [if_neg hput, if_neg hput]
      by_cases hremove : std.toLower op.op = "remove"
      · rw [if_pos hremove, if_pos hremove]
        rfl
      · rw [if_neg hremove, if_neg hremove]
        rfl
  · rw [if_neg hname, if_neg hname]
    by_cases hactive : std.toLower op.path = "active"
    · rw [if_pos hactive]
      by_cases hop : std.toLower op.op = "replace"
      · rw [if_pos hop, if_pos ⟨hactive, hop⟩]
        cases op.value.asBool <;> rfl
      · rw [if_neg hop, if_neg fun h => hop h.2]
        rfl
    · rw [if_neg hactive, if_neg fun h => hactive h.1]
      rfl

/-- **What the switch makes of a list.** -/
theorem patchSwitch_eq (ops : List PatchOperation) (c : Changes) :
    ops.foldl (patchSwitch std) c =
      ⟨lastOr (setsName std) ops c.displayName, lastOr (setsActive std) ops c.active⟩ := by
  induction ops generalizing c with
  | nil => rfl
  | cons op ops ih => rw [List.foldl_cons, ih, patchSwitch_cases, lastOr_cons, lastOr_cons]

-- ---------------------------------------------------------------------------
-- Display names
-- ---------------------------------------------------------------------------

/-- What `display_name` stores of a text. -/
def storedName (displayName : String) : Option String :=
  if holdsNul displayName then none else varchar 200 displayName

/-- The row after a display name was stored. -/
def User.named (u : User) (displayName : String) (now : Time) : User :=
  { u with displayName := displayName, updatedAt := now }

@[simp] theorem User.named_id (u : User) (displayName : String) (now : Time) :
    (u.named displayName now).id = u.id := rfl

theorem updateUser_displayName {t : UserTable} {tenantID id : UUID} {u : User} {now : Time}
    (hget : UserRepo.getUserByID t tenantID id = .ok u) (displayName : String) :
    IdentityService.updateUser t now tenantID id { displayName := some displayName } =
      match storedName displayName with
      | none => .error (.internal "update user")
      | some name => .ok (u.named name now, t.put (u.named name now)) := by
  show UserRepo.updateUser t now tenantID id { displayName := some displayName } = _
  unfold UserRepo.updateUser storedName
  have hany : (({ displayName := some displayName } : UpdateUserInput).params.any
      (·.any holdsNul)) = holdsNul displayName := by
    simp [UpdateUserInput.params]
  rw [hany, hget]
  by_cases hnul : holdsNul displayName = true
  · rw [if_pos hnul, if_pos hnul]
  · rw [if_neg hnul, if_neg hnul]
    have hupdated : u.updated { displayName := some displayName } =
        (varchar 200 displayName).map fun name => { u with displayName := name } := by
      show ((varchar 200 displayName).bind fun _ => _) = _
      cases varchar 200 displayName <;> rfl
    simp only [bind, Except.bind, hupdated]
    cases varchar 200 displayName <;> rfl

end Ggid.Identity
