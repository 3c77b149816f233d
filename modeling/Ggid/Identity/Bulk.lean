import Ggid.Identity.UserHandler

/-!
# Identity service — SCIM bulk requests

`HandleBulk` carries out the operations of a request one after the other. The method of an
operation says what is done, to the user whose ID is the second part of the path.

A patch is applied by `ApplyPatch` to the attributes of the user; of the result the display
name is written back.
-/

namespace Ggid.Identity

open Ggid.Go Ggid.Lib

structure BulkOperationRequest where
  method : String
  path   : String
  bulkID : String
  /-- What `json.Unmarshal` makes of the data, for a user and for a patch. -/
  user   : Except String SCIMUser
  patch  : Except String (List PatchOperation)

inductive BulkError where
  /-- `unsupported method %q` -/
  | unsupportedMethod (method : String)
  /-- `invalid user data: %w` -/
  | invalidUserData (err : String)
  /-- `invalid patch data: %w` -/
  | invalidPatchData (err : String)
  /-- `invalid path %q: expected /ResourceType/{id}` -/
  | invalidPath (path : String)
  /-- The error of `uuid.Parse`. -/
  | invalidID (err : String)
  /-- `user not found` -/
  | userNotFound
  | service (err : UserError)
  | patch (err : PatchError)

structure BulkOperationResponse where
  location : String := ""
  method   : String
  bulkID   : String
  version  : String := ""
  status   : String
  /-- The detail of an error. -/
  response : Option String := none

/-- An answer without more than the status. -/
def BulkOperationRequest.reply (op : BulkOperationRequest) (status : String) :
    BulkOperationResponse where
  method := op.method
  bulkID := op.bulkID
  status := status

-- ---------------------------------------------------------------------------
-- Targets
-- ---------------------------------------------------------------------------

def splitPath (s : List Char) : List (List Char) := (Strings.split s '/').filter (· ≠ [])

/-- `uuid.Parse`, with its error. -/
abbrev ParseUUID := String → Except String UUID

def extractIDFromPath (parse : ParseUUID) (path : String) : Except BulkError UUID :=
  match splitPath (path.toList.dropWhile (· = '/')) with
  | _ :: id :: _ =>
    match parse (String.ofList id) with
    | .ok id => .ok id
    | .error err => .error (.invalidID err)
  | _ => .error (.invalidPath path)

def userBelongsToCallerTenant (tenantID : UUID) (user : User) : Bool :=
  tenantID ≠ UUID.nil && user.tenantID = tenantID

/-- How `bulkReplaceUser`, `bulkPatchUser` and `bulkDeleteUser` begin: the ID in the path and
the user it is of, or the status and the error. -/
def bulkTarget (parse : ParseUUID) (t : UserTable) (tenantID : UUID) (op : BulkOperationRequest) :
    Except (String × BulkError) (UUID × User) :=
  match extractIDFromPath parse op.path with
  | .error err => .error ("400", err)
  | .ok userID =>
    match IdentityService.getUser t tenantID userID with
    | .error err => .error ("404", .service err)
    | .ok existing =>
      if !userBelongsToCallerTenant tenantID existing then .error ("404", .userNotFound)
      else .ok (userID, existing)

-- ---------------------------------------------------------------------------
-- Attributes
-- ---------------------------------------------------------------------------

/-- The loop over the email addresses. -/
def emailAttrs (h : Heap) : List SCIMEmail → List Val × Heap
  | [] => ([], h)
  | e :: emails =>
    let (ref, h) := h.alloc
      [("value", .string e.value), ("type", .string e.type), ("primary", .bool e.primary)]
    let (vs, h) := emailAttrs h emails
    (.map ref :: vs, h)

/-- The entry, unless the text is empty. -/
def nonEmpty (key value : String) : Entries := if value ≠ "" then [(key, .string value)] else []

/-- The entry for the name, if there is one. -/
def nameAttr (h : Heap) (u : SCIMUser) : Entries × Heap :=
  if u.givenName ≠ "" ∨ u.familyName ≠ "" then
    let (nameMap, h) := h.alloc (nonEmpty "givenName" u.givenName ++ nonEmpty "familyName" u.familyName)
    ([("name", .map nameMap)], h)
  else ([], h)

/-- The entry for the email addresses, if there are any. -/
def emailsAttr (h : Heap) (u : SCIMUser) : Entries × Heap :=
  if u.emails ≠ [] then
    let (emails, h) := emailAttrs h u.emails
    ([("emails", .slice emails)], h)
  else ([], h)

def scimUserToAttrs (h : Heap) (u : SCIMUser) : Ref × Heap :=
  let (name, h) := nameAttr h u
  let (emails, h) := emailsAttr h u
  h.alloc ([("id", .string u.id), ("userName", .string u.userName),
    ("displayName", .string u.displayName), ("active", .bool u.active)] ++
    nonEmpty "externalId" u.externalID ++ name ++ emails)

variable (std : Stdlib)

/-- The display name in `PatchedAttrsToSCIMUser`. -/
def patchedDisplayName (h : Heap) (attrs : Ref) : String :=
  toStr std (h.read h.bound (getAttrCaseInsensitive std (h.get attrs) "displayName"))

/-- `ApplyPatch` on the attributes of a user, as far as the display name goes. -/
def patchDisplayName (user : User) (ops : List PatchOperation) : Except PatchError String :=
  let (attrs, h) := scimUserToAttrs ⟨[]⟩ (toSCIMUser user)
  let (h, patched) := applyPatch std h attrs ops
  patched.map (patchedDisplayName std h)

-- ---------------------------------------------------------------------------
-- Operations
-- ---------------------------------------------------------------------------

/-- The users after an operation, its answer and its error. -/
abbrev BulkResult := UserTable × BulkOperationResponse × Option BulkError

/-- What `bulkCreateUser` takes of a resource. -/
def createInput (scimUser : SCIMUser) : CreateUserInput :=
  { username := scimUser.userName
    email := (scimUser.emails.head?.map SCIMEmail.value).getD ""
    displayName := scimUser.displayName }

def bulkCreateUser (t : UserTable) (env : Env) (tenantID : UUID) (op : BulkOperationRequest) :
    BulkResult :=
  match op.user with
  | .error err => (t, op.reply "400", some (.invalidUserData err))
  | .ok scimUser =>
    match IdentityService.createUser t env tenantID (createInput scimUser) with
    | (t, .error err) => (t, op.reply "409", some (.service err))
    | (t, .ok user) =>
      (t, { op.reply "201" with
        location := "/scim/v2/Users/" ++ user.id.string
        version := computeETag user }, none)

variable (parse : ParseUUID)

def bulkReplaceUser (t : UserTable) (env : Env) (tenantID : UUID) (op : BulkOperationRequest) :
    BulkResult :=
  match bulkTarget parse t tenantID op with
  | .error (status, err) => (t, op.reply status, some err)
  | .ok (userID, _) =>
    match op.user with
    | .error err => (t, op.reply "400", some (.invalidUserData err))
    | .ok scimUser =>
      match IdentityService.updateUser t env.now tenantID userID
          { displayName := some scimUser.displayName } with
      | .error err => (t, op.reply "404", some (.service err))
      | .ok (user, t) =>
        (t, { op.reply "200" with
          location := "/scim/v2/Users/" ++ user.id.string
          version := computeETag user }, none)

/-- The error of the update is not looked at. -/
def bulkPatchUser (t : UserTable) (env : Env) (tenantID : UUID) (op : BulkOperationRequest) :
    BulkResult :=
  match bulkTarget parse t tenantID op with
  | .error (status, err) => (t, op.reply status, some err)
  | .ok (userID, _) =>
    match op.patch with
    | .error err => (t, op.reply "400", some (.invalidPatchData err))
    | .ok operations =>
      match IdentityService.getUser t tenantID userID with
      | .error err => (t, op.reply "404", some (.service err))
      | .ok user =>
        match patchDisplayName std user operations with
        | .error err => (t, op.reply "400", some (.patch err))
        | .ok dn =>
          let t := if dn ≠ "" ∧ dn ≠ user.displayName then
              match IdentityService.updateUser t env.now tenantID userID
                  { displayName := some dn } with
              | .ok (_, t) => t
              | .error _ => t
            else t
          (t, { op.reply "200" with location := "/scim/v2/Users/" ++ userID.string }, none)

def bulkDeleteUser (t : UserTable) (env : Env) (tenantID : UUID) (op : BulkOperationRequest) :
    BulkResult :=
  match bulkTarget parse t tenantID op with
  | .error (status, err) => (t, op.reply status, some err)
  | .ok (userID, _) =>
    match IdentityService.deleteUser t env.now env.cleaned tenantID userID with
    | .error err => (t, op.reply "404", some (.service err))
    | .ok t => (t, op.reply "204", none)

def executeBulkOp (t : UserTable) (env : Env) (tenantID : UUID) (op : BulkOperationRequest) :
    BulkResult :=
  if op.method = "POST" then bulkCreateUser t env tenantID op
  else if op.method = "PUT" then bulkReplaceUser parse t env tenantID op
  else if op.method = "PATCH" then bulkPatchUser std parse t env tenantID op
  else if op.method = "DELETE" then bulkDeleteUser parse t env tenantID op
  else (t, op.reply "400", some (.unsupportedMethod op.method))

-- ---------------------------------------------------------------------------
-- Requests
-- ---------------------------------------------------------------------------

structure BulkRequest where
  /-- Each operation, with what it meets with. -/
  operations   : List (BulkOperationRequest × Env)
  failOnErrors : Option Int

inductive BulkResponse where
  | error (status : Nat) (scimType detail : String)
  | responses (operations : List BulkOperationResponse)

/-- The answer of an operation in the answer of the request. -/
def BulkOperationResponse.noted (resp : BulkOperationResponse) (err : Option BulkError) :
    BulkOperationResponse :=
  if err.isSome then { resp with response := some "operation failed" } else resp

def maxBulkOperations : Nat := 1000

/-- The loop of `HandleBulk`, with the errors so far. -/
def bulkLoop (tenantID : UUID) (failOnErrors : Int) :
    UserTable → Int → List (BulkOperationRequest × Env) → UserTable × List BulkOperationResponse
  | t, _, [] => (t, [])
  | t, errorCount, (op, env) :: ops =>
    let (t, resp, err) := executeBulkOp std parse t env tenantID op
    let errorCount := if err.isSome then errorCount + 1 else errorCount
    let resp := resp.noted err
    if 0 < failOnErrors ∧ failOnErrors ≤ errorCount then (t, [resp])
    else
      let (t, responses) := bulkLoop tenantID failOnErrors t errorCount ops
      (t, resp :: responses)

def handleBulk (t : UserTable) (tenantID : UUID) (body : Except String BulkRequest) :
    UserTable × BulkResponse :=
  match body with
  | .error _ => (t, .error 400 "invalidSyntax" "invalid bulk request body")
  | .ok req =>
    if req.operations.length = 0 then (t, .error 400 "invalidValue" "no operations provided")
    else if maxBulkOperations < req.operations.length then
      (t, .error 413 "tooMany" ("exceeded maximum of " ++ toString maxBulkOperations ++ " operations"))
    else
      let (t, responses) := bulkLoop std parse tenantID (req.failOnErrors.getD (-1)) t 0 req.operations
      (t, .responses responses)

/-- No operation failed. -/
def BulkResponse.ok : BulkResponse → Bool
  | .error _ _ _ => false
  | .responses operations => operations.all fun resp => resp.response = none

/-- An operation leaves it to `HandleBulk` to say that it failed. -/
theorem executeBulkOp_response (t : UserTable) (env : Env) (tenantID : UUID)
    (op : BulkOperationRequest) :
    (executeBulkOp std parse t env tenantID op).2.1.response = none := by
  unfold executeBulkOp
  split
  · unfold bulkCreateUser
    repeat' split
    all_goals rfl
  split
  · unfold bulkReplaceUser
    repeat' split
    all_goals rfl
  split
  · unfold bulkPatchUser
    repeat' split
    all_goals rfl
  split
  · unfold bulkDeleteUser
    repeat' split
    all_goals rfl
  · rfl

theorem bulkLoop_single (t : UserTable) (tenantID : UUID) (op : BulkOperationRequest) (env : Env)
    (failOnErrors errorCount : Int) :
    bulkLoop std parse tenantID failOnErrors t errorCount [(op, env)] =
      ((executeBulkOp std parse t env tenantID op).1,
        [(executeBulkOp std parse t env tenantID op).2.1.noted
          (executeBulkOp std parse t env tenantID op).2.2]) := by
  simp only [bulkLoop, ite_self]

/-- A request with one operation does what the operation does and fails if it fails. -/
theorem handleBulk_single (t : UserTable) (tenantID : UUID) (op : BulkOperationRequest) (env : Env)
    (failOnErrors : Option Int) :
    (handleBulk std parse t tenantID (.ok ⟨[(op, env)], failOnErrors⟩)).1 =
        (executeBulkOp std parse t env tenantID op).1 ∧
      (handleBulk std parse t tenantID (.ok ⟨[(op, env)], failOnErrors⟩)).2.ok =
        (executeBulkOp std parse t env tenantID op).2.2.isNone := by
  have hrun : handleBulk std parse t tenantID (.ok ⟨[(op, env)], failOnErrors⟩) =
      ((executeBulkOp std parse t env tenantID op).1, .responses
        [(executeBulkOp std parse t env tenantID op).2.1.noted
          (executeBulkOp std parse t env tenantID op).2.2]) := by
    simp only [handleBulk, bulkLoop_single, List.length_singleton]
    rfl
  rw [hrun]
  refine ⟨rfl, ?_⟩
  show List.all [_] _ = _
  rw [List.all_cons, List.all_nil, Bool.and_true, BulkOperationResponse.noted]
  cases (executeBulkOp std parse t env tenantID op).2.2 with
  | none => exact decide_eq_true (executeBulkOp_response std parse t env tenantID op)
  | some err => rfl

end Ggid.Identity
