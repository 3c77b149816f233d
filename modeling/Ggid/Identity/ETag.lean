import Ggid.Identity.UserHandler
import Ggid.Lib.Overwrites
import Ggid.Lib.Run
import Ggid.Lib.Threads

/-!
# Identity service — requests with an ETag

PUT, PATCH and DELETE requests for one user, statement by statement: each transaction of a
request is one step, and those of different requests come in any order. PUT compares its
`If-Match` header when it reads the user; PATCH and DELETE do not look at it. No write asks
whether the user is still the one that was read.

Every request carries the ETag of some version of the user. The log says who replaced which
version by which; it is read by no step.

* `alone_put`, `alone_patch`, `alone_delete` — without others in between, a request is what
  its handler does;
* `checkIfMatch_etagOf` — a header with one ETag;
* `optimistic_locking`  — what runs keep in which nobody comes between the read and the writes
  of a request.
-/

namespace Ggid.Identity

open Ggid.Go Ggid.Lib

-- ---------------------------------------------------------------------------
-- Requests
-- ---------------------------------------------------------------------------

inductive Action where
  | put (body : Except String SCIMUser)
  | patch (body : Except String (List PatchOperation))
  | delete

/-- A request with the ETag of the version that was updated at this time. -/
structure Request where
  action    : Action
  updatedAt : Time

def Request.ifMatch (req : Request) : String := etagOf req.updatedAt

/-- How far a request is, with what its handler has at hand there. -/
inductive Stage where
  | waiting
  | replacing (existing : User) (scimUser : SCIMUser)
  | replaced (updated : User) (active : Bool)
  | patching (user : User) (changes : Changes)
  | patched (updatedUser : User) (active : Bool)
  | done (response : Response)

/-- Whose turn it is, and what the transaction meets with. -/
structure Turn where
  request : Nat
  now     : Time
  revoked : Bool := true
  cleaned : Bool := true

structure Store where
  users : UserTable
  log   : List (Overwrite Nat String)

/-- The ETag of the row of a user. -/
def currentETag (userID : UUID) (t : UserTable) : String := ((t.find? userID).map computeETag).getD ""

namespace Store

def history (userID : UUID) (s : Store) : History Nat String := ⟨currentETag userID s.users, s.log⟩

def write (userID : UUID) (s : Store) (request : Nat) (users : UserTable) : Store where
  users := users
  log := ⟨request, currentETag userID s.users, currentETag userID users⟩ :: s.log

end Store

-- ---------------------------------------------------------------------------
-- Steps
-- ---------------------------------------------------------------------------

/-- `patchUser` has a status to change. -/
def togglesStatus (active : Bool) (updatedUser : User) : Bool :=
  (active && updatedUser.status ≠ .active) || (!active && updatedUser.status = .active)

variable (std : Stdlib) (tenantID userID : UUID)

/-- The next transaction of a request. -/
def advance (req : Request) (turn : Turn) (s : Store) : Stage → Store × Stage
  | .waiting =>
    match req.action with
    | .put body =>
      match replaceCheck req.ifMatch body (IdentityService.getUser s.users tenantID userID) with
      | .error response => (s, .done response)
      | .ok (existing, scimUser) => (s, .replacing existing scimUser)
    | .patch body =>
      match patchChanges std body (IdentityService.getUser s.users tenantID userID) with
      | .error response => (s, .done response)
      | .ok (user, changes) => (s, .patching user changes)
    | .delete =>
      match IdentityService.deleteUser s.users turn.now turn.cleaned tenantID userID with
      | .error _ => (s, .done (.error 404 "" "user not found"))
      | .ok users => (s.write userID turn.request users, .done .noContent)
  | .replacing _ scimUser =>
    match IdentityService.updateUser s.users turn.now tenantID userID (replaceInput scimUser) with
    | .error _ => (s, .done (.error 400 "invalidValue" "invalid patch request"))
    | .ok (updated, users) => (s.write userID turn.request users, .replaced updated scimUser.active)
  | .replaced _ active =>
    let (users, response) := replaceStatus s.users turn.now turn.revoked tenantID userID active
    (if response.ok then s.write userID turn.request users else s, .done response)
  | .patching _ changes =>
    match IdentityService.updateUser s.users turn.now tenantID userID
        { displayName := some changes.displayName } with
    | .error _ => (s, .done (.error 500 "" "internal server error"))
    | .ok (updatedUser, users) =>
      (s.write userID turn.request users, .patched updatedUser changes.active)
  | .patched updatedUser active =>
    let (users, response) := patchStatus s.users turn.now turn.revoked tenantID userID active updatedUser
    (if response.ok && togglesStatus active updatedUser then s.write userID turn.request users else s,
      .done response)
  | .done response => (s, .done response)

/-- A request moves. -/
def step (requests : Nat → Request) (s : Threads Store Stage) (turn : Turn) : Threads Store Stage :=
  s.put turn.request
    (advance std tenantID userID (requests turn.request) turn s.store (s.task turn.request))

def start (users : UserTable) : Threads Store Stage := ⟨⟨users, []⟩, fun _ => .waiting⟩

/-- A request that nobody comes in between. -/
def alone (req : Request) (s : Store) (turns : List Turn) : Store × Stage :=
  turns.foldl (fun p turn => advance std tenantID userID req turn p.1 p.2) (s, .waiting)

-- ---------------------------------------------------------------------------
-- The handlers
-- ---------------------------------------------------------------------------

variable {req : Request} {s : Store}

theorem replaceStatus_failed {t : UserTable} {now : Time} {revoked active : Bool}
    (h : (replaceStatus t now revoked tenantID userID active).2.ok = false) :
    (replaceStatus t now revoked tenantID userID active).1 = t := by
  unfold replaceStatus at h ⊢
  split
  · rfl
  · rename_i hok
    rw [hok] at h
    exact absurd h (by simp [Response.ok])

/-- Nothing is written where no status is set. -/
theorem patchStatus_kept {t : UserTable} {now : Time} {revoked active : Bool} {u : User}
    (h : ((patchStatus t now revoked tenantID userID active u).2.ok && togglesStatus active u) = false) :
    (patchStatus t now revoked tenantID userID active u).1 = t := by
  unfold patchStatus togglesStatus at *
  by_cases hunlock : (active && u.status ≠ .active) = true
  · rw [if_pos hunlock] at h ⊢
    cases hset : IdentityService.unlockUser t now revoked tenantID userID with
    | error err => rfl
    | ok written =>
      rw [hset, hunlock] at h
      exact absurd h (by simp [Response.ok])
  · rw [if_neg hunlock] at h ⊢
    by_cases hlock : (!active && u.status = .active) = true
    · rw [if_pos hlock] at h ⊢
      cases hset : IdentityService.lockUser t now revoked tenantID userID with
      | error err => rfl
      | ok written =>
        rw [hset, hlock, Bool.or_true] at h
        exact absurd h (by simp [Response.ok])
    · rw [if_neg hlock]

/-- A write that is logged only where there is one. -/
theorem write_if {b : Bool} {request : Nat} {users : UserTable} (h : b = false → users = s.users) :
    (if b then s.write userID request users else s).users = users := by
  cases b with
  | true => rfl
  | false => exact (h rfl).symm

/-- Alone, a PUT request does what `replaceUser` does. -/
theorem alone_put {body : Except String SCIMUser} (haction : req.action = .put body)
    (read update status : Turn) (env : Env) (hnow : env.now = update.now)
    (hlater : env.later = status.now) (hrevoked : env.revoked = status.revoked) :
    (alone std tenantID userID req s [read, update, status]).1.users =
        (replaceUser s.users env tenantID userID req.ifMatch body).1 ∧
      (alone std tenantID userID req s [read, update, status]).2 =
        .done (replaceUser s.users env tenantID userID req.ifMatch body).2 := by
  unfold alone replaceUser
  rw [hnow, hlater, hrevoked]
  simp only [List.foldl_cons, List.foldl_nil, advance, haction]
  cases replaceCheck req.ifMatch body (IdentityService.getUser s.users tenantID userID) with
  | error response => exact ⟨rfl, rfl⟩
  | ok checked =>
    simp only
    cases IdentityService.updateUser s.users update.now tenantID userID (replaceInput checked.2) with
    | error err => exact ⟨rfl, rfl⟩
    | ok updated =>
      exact ⟨write_if userID (replaceStatus_failed tenantID userID), rfl⟩

/-- Alone, a PATCH request does what `patchUser` does. -/
theorem alone_patch {body : Except String (List PatchOperation)} (haction : req.action = .patch body)
    (read update status : Turn) (env : Env) (hnow : env.now = update.now)
    (hlater : env.later = status.now) (hrevoked : env.revoked = status.revoked) :
    (alone std tenantID userID req s [read, update, status]).1.users =
        (patchUser std s.users env tenantID userID body).1 ∧
      (alone std tenantID userID req s [read, update, status]).2 =
        .done (patchUser std s.users env tenantID userID body).2 := by
  unfold alone patchUser
  rw [hnow, hlater, hrevoked]
  simp only [List.foldl_cons, List.foldl_nil, advance, haction]
  cases patchChanges std body (IdentityService.getUser s.users tenantID userID) with
  | error response => exact ⟨rfl, rfl⟩
  | ok changed =>
    simp only
    cases IdentityService.updateUser s.users update.now tenantID userID
        { displayName := some changed.2.displayName } with
    | error err => exact ⟨rfl, rfl⟩
    | ok updated =>
      exact ⟨write_if userID (patchStatus_kept tenantID userID), rfl⟩

/-- A DELETE request is one transaction. -/
theorem alone_delete (haction : req.action = .delete) (turn : Turn) (env : Env)
    (hnow : env.now = turn.now) (hcleaned : env.cleaned = turn.cleaned) :
    (alone std tenantID userID req s [turn]).1.users = (deleteUser s.users env tenantID userID).1 ∧
      (alone std tenantID userID req s [turn]).2 = .done (deleteUser s.users env tenantID userID).2 := by
  unfold alone deleteUser
  rw [hnow, hcleaned]
  simp only [List.foldl_cons, List.foldl_nil, advance, haction]
  cases IdentityService.deleteUser s.users turn.now turn.cleaned tenantID userID with
  | error err => exact ⟨rfl, rfl⟩
  | ok users => exact ⟨rfl, rfl⟩

-- ---------------------------------------------------------------------------
-- The header
-- ---------------------------------------------------------------------------

theorem etagOf_toList (updatedAt : Time) : (etagOf updatedAt).toList =
    'W' :: '/' :: '"' :: ((toString updatedAt).toList ++ ['"']) := by
  rw [etagOf, String.toList_append, String.toList_append]
  rfl

theorem comma_not_mem_toString (i : Int) : ',' ∉ (toString i).toList := by
  have hdigits : ∀ n : Nat, ',' ∉ n.repr.toList := by
    intro n hmem
    rw [Nat.toList_repr] at hmem
    exact absurd (Nat.isDigit_of_mem_toDigits (by decide) (by decide) hmem) (by decide)
  rw [Int.toString_eq_repr, Int.repr_eq_if]
  split
  · exact hdigits _
  · rw [String.toList_append, List.mem_append, not_or]
    exact ⟨by decide, hdigits _⟩

theorem trimSpace_etagOf (updatedAt : Time) :
    Strings.trimSpace (etagOf updatedAt) = etagOf updatedAt := by
  have hfront : (etagOf updatedAt).toList.dropWhile Strings.isSpace = (etagOf updatedAt).toList := by
    rw [etagOf_toList]
    exact List.dropWhile_cons_of_neg (by decide)
  have hback : (etagOf updatedAt).toList.rdropWhile Strings.isSpace = (etagOf updatedAt).toList := by
    rw [etagOf_toList, ← List.cons_append, ← List.cons_append, ← List.cons_append]
    exact List.rdropWhile_concat_neg _ _ _ (by decide)
  rw [Strings.trimSpace, hfront, hback]
  exact String.ofList_toList

theorem split_etagOf (updatedAt : Time) :
    Strings.split (etagOf updatedAt).toList ',' = [(etagOf updatedAt).toList] := by
  apply List.splitOn_eq_singleton
  rw [etagOf_toList]
  simp only [List.mem_cons, List.mem_append, List.not_mem_nil, or_false, not_or]
  exact ⟨by decide, by decide, by decide, comma_not_mem_toString updatedAt, by decide⟩

/-- **A header with one ETag** matches that ETag alone. -/
theorem checkIfMatch_etagOf (updatedAt updatedAt' : Time) :
    (checkIfMatch (etagOf updatedAt) (etagOf updatedAt')).1 = true ↔
      etagOf updatedAt = etagOf updatedAt' := by
  have hempty : etagOf updatedAt ≠ "" := by
    intro h
    have hchars := congrArg String.toList h
    rw [etagOf_toList] at hchars
    exact absurd hchars (by simp)
  have hstar : etagOf updatedAt ≠ "*" := by
    intro h
    have hchars := congrArg String.toList h
    rw [etagOf_toList] at hchars
    exact absurd (List.cons.inj hchars).1 (by decide)
  unfold checkIfMatch
  rw [if_neg hempty, trimSpace_etagOf, if_neg hstar, split_etagOf]
  simp only [List.any_cons, List.any_nil, Bool.or_false, String.ofList_toList, trimSpace_etagOf,
    decide_eq_true_eq]
  split
  · rename_i h
    exact ⟨fun _ => h, fun _ => rfl⟩
  · rename_i h
    exact ⟨fun hfalse => absurd hfalse (by decide), fun heq => absurd heq h⟩

-- ---------------------------------------------------------------------------
-- Optimistic locking
-- ---------------------------------------------------------------------------

variable (requests : Nat → Request)

/-- The ETag a request carries. -/
def carried (i : Nat) : String := (requests i).ifMatch

/-- What the ETags are for: of the requests that carry one ETag one takes effect, the others
are refused for it, and no version is replaced by a request that had not seen it. -/
structure Locked (s : Threads Store Stage) : Prop where
  once    : ∀ i j, (s.store.history userID).Wrote i → (s.store.history userID).Wrote j →
    carried requests i = carried requests j → i = j
  refused : ∀ i response, s.task i = .done response → ¬(s.store.history userID).Wrote i →
    ∃ reason, response = .error 412 "invalidValue" reason
  seen    : History.Seen (carried requests) s.store.log

/-- The columns take what they are given. -/
def Storable (u : User) (input : UpdateUserInput) : Prop :=
  input.params.any (·.any holdsNul) = false ∧ (u.updated input).isSome = true

/-- Nobody comes between: the row is the one the request has at hand when it writes. A request
that does not compare its ETag carries the present one. What would be accepted can be read and
stored, and a write has an instant of its own. -/
def Undisturbed (s : Threads Store Stage) (turn : Turn) : Prop :=
  let user := UserRepo.getUserByID s.store.users tenantID userID
  let fresh := (s.store.history userID).Fresh (etagOf turn.now)
  match s.task turn.request with
  | .waiting => ∃ u, user = .ok u ∧
    match (requests turn.request).action with
    | .put body => carried requests turn.request = computeETag u → ∃ scimUser, body = .ok scimUser
    | .patch body => carried requests turn.request = computeETag u ∧ ∃ ops, body = .ok ops
    | .delete => carried requests turn.request = computeETag u ∧ turn.cleaned = true ∧ fresh
  | .replacing existing scimUser =>
    user = .ok existing ∧ Storable existing (replaceInput scimUser) ∧ fresh
  | .replaced updated _ => user = .ok updated ∧ fresh
  | .patching u changes =>
    user = .ok u ∧ Storable u { displayName := some changes.displayName } ∧ fresh
  | .patched updatedUser active =>
    togglesStatus active updatedUser = true → user = .ok updatedUser ∧ fresh
  | .done _ => True

/-- What is known of a request that is so far. -/
def StageOk (log : List (Overwrite Nat String)) (i : Nat) : Stage → Prop
  | .waiting => True
  | .replacing existing _ => computeETag existing = carried requests i
  | .patching u _ => computeETag u = carried requests i
  | .replaced updated _ => ∃ w ∈ log, w.writer = i ∧ w.new = computeETag updated
  | .patched updatedUser _ => ∃ w ∈ log, w.writer = i ∧ w.new = computeETag updatedUser
  | .done response => (∃ w ∈ log, w.writer = i) ∨
    ∃ reason, response = .error 412 "invalidValue" reason

structure Guarded (s : Threads Store Stage) : Prop where
  linear : History.Linear (carried requests) (s.store.history userID)
  stage  : ∀ i, StageOk requests s.store.log i (s.task i)

variable {tenantID userID requests} {u v : User} {turn : Turn}

theorem StageOk.mono {log log' : List (Overwrite Nat String)} {i : Nat} {stage : Stage}
    (h : StageOk requests log i stage) (hmore : ∀ w ∈ log, w ∈ log') :
    StageOk requests log' i stage := by
  cases stage with
  | waiting => trivial
  | replacing => exact h
  | patching => exact h
  | replaced | patched =>
    obtain ⟨w, hw, hwrote⟩ := h
    exact ⟨w, hmore w hw, hwrote⟩
  | done response =>
    rcases h with ⟨w, hw, hwriter⟩ | hrefused
    · exact Or.inl ⟨w, hmore w hw, hwriter⟩
    · exact Or.inr hrefused

theorem Guarded.locked {s : Threads Store Stage} (h : Guarded userID requests s) :
    Locked userID requests s where
  once := fun _ _ hi hj hsame => h.linear.eq_of_named hi hj hsame
  refused := by
    intro i response hdone hnot
    have hstage := h.stage i
    rw [hdone] at hstage
    exact hstage.resolve_left hnot
  seen := h.linear.seen

theorem currentETag_of_get (hget : UserRepo.getUserByID s.users tenantID userID = .ok u) :
    currentETag userID s.users = computeETag u := by
  obtain ⟨hmem, hid, -, -⟩ := UserRepo.getUserByID_eq_ok_iff.mp hget
  rw [currentETag, Table.find?_eq_some_iff.mpr ⟨hmem, hid⟩]
  rfl

theorem currentETag_put (hget : UserRepo.getUserByID s.users tenantID userID = .ok u)
    (hid : v.id = u.id) : currentETag userID (s.users.put v) = computeETag v := by
  obtain ⟨hmem, huid, -, -⟩ := UserRepo.getUserByID_eq_ok_iff.mp hget
  rw [currentETag, ← huid, UserTable.find_put hmem hid]
  rfl

/-- **A write of the row** at an instant of its own. -/
theorem linear_put (hlin : History.Linear (carried requests) (s.history userID))
    (hget : UserRepo.getUserByID s.users tenantID userID = .ok u) (hid : v.id = u.id)
    (hnow : v.updatedAt = turn.now) (hfresh : (s.history userID).Fresh (etagOf turn.now))
    (hseen : History.HasSeen (carried requests) s.log turn.request (computeETag u)) :
    History.Linear (carried requests)
      ((s.write userID turn.request (s.users.put v)).history userID) := by
  have hversion : currentETag userID (s.users.put v) = etagOf turn.now := by
    rw [currentETag_put hget hid, computeETag, hnow]
  rw [← currentETag_of_get hget] at hseen
  rw [← hversion] at hfresh
  exact hlin.write hfresh hseen

/-- What a step has to give of the request that moves. -/
structure StepOk (requests : Nat → Request) (userID : UUID) (s : Store) (i : Nat)
    (next : Store × Stage) : Prop where
  linear : History.Linear (carried requests) (next.1.history userID)
  stage  : StageOk requests next.1.log i next.2
  more   : ∀ w ∈ s.log, w ∈ next.1.log

theorem StepOk.kept {stage : Stage} {i : Nat}
    (hlin : History.Linear (carried requests) (s.history userID))
    (hstage : StageOk requests s.log i stage) : StepOk requests userID s i (s, stage) :=
  ⟨hlin, hstage, fun _ hw => hw⟩

theorem StepOk.wrote {users : UserTable} {stage : Stage} {i : Nat}
    (hlin : History.Linear (carried requests) ((s.write userID i users).history userID))
    (hstage : StageOk requests (s.write userID i users).log i stage) :
    StepOk requests userID s i (s.write userID i users, stage) :=
  ⟨hlin, hstage, fun _ hw => List.mem_cons_of_mem _ hw⟩

theorem updateUser_of_storable {input : UpdateUserInput}
    (hget : UserRepo.getUserByID s.users tenantID userID = .ok u) (hstorable : Storable u input)
    (now : Time) : ∃ v, IdentityService.updateUser s.users now tenantID userID input =
      .ok (v, s.users.put v) ∧ v.id = u.id ∧ v.updatedAt = now := by
  obtain ⟨hnul, hsome⟩ := hstorable
  obtain ⟨w, hw⟩ := Option.isSome_iff_exists.mp hsome
  have hid : w.id = u.id := by
    unfold User.updated at hw
    simp only [Option.bind_eq_bind, Option.bind_eq_some_iff, Option.pure_def, Option.some.injEq] at hw
    obtain ⟨_, -, _, -, _, -, _, -, _, -, rfl⟩ := hw
    rfl
  refine ⟨{ w with updatedAt := now }, ?_, hid, rfl⟩
  show UserRepo.updateUser s.users now tenantID userID input = _
  unfold UserRepo.updateUser
  rw [if_neg (by rw [hnul]; decide), hget]
  simp only [bind, Except.bind, hw]
  rfl

/-- An update of the version that the request names, by nobody disturbed. -/
theorem updateUser_written {input : UpdateUserInput}
    (hlin : History.Linear (carried requests) (s.history userID))
    (hsame : computeETag u = carried requests turn.request)
    (hquiet : UserRepo.getUserByID s.users tenantID userID = .ok u ∧ Storable u input ∧
      (s.history userID).Fresh (etagOf turn.now)) :
    ∃ v users, IdentityService.updateUser s.users turn.now tenantID userID input = .ok (v, users) ∧
      History.Linear (carried requests) ((s.write userID turn.request users).history userID) ∧
      ∃ w ∈ (s.write userID turn.request users).log,
        w.writer = turn.request ∧ w.new = computeETag v := by
  obtain ⟨hget, hstorable, hfresh⟩ := hquiet
  obtain ⟨v, hupdate, hid, hnow⟩ := updateUser_of_storable hget hstorable turn.now
  refine ⟨v, _, hupdate, linear_put hlin hget hid hnow hfresh (Or.inl hsame), ?_⟩
  exact ⟨_, List.mem_cons_self, rfl, currentETag_put hget hid⟩

theorem advance_replaced {active : Bool}
    (hlin : History.Linear (carried requests) (s.history userID))
    (hstage : ∃ w ∈ s.log, w.writer = turn.request ∧ w.new = computeETag u)
    (hget : UserRepo.getUserByID s.users tenantID userID = .ok u)
    (hfresh : (s.history userID).Fresh (etagOf turn.now)) (req : Request) :
    StepOk requests userID s turn.request
      (advance std tenantID userID req turn s (.replaced u active)) := by
  obtain ⟨w, hw, hwriter, hnew⟩ := hstage
  have hwrite : ∀ status : UserStatus, StepOk requests userID s turn.request
      (s.write userID turn.request (s.users.put (u.inStatus status turn.now)),
        .done (.resource 200 (computeETag (u.inStatus status turn.now))
          (toSCIMUser (u.inStatus status turn.now)))) := fun status =>
    .wrote (linear_put hlin hget (u.inStatus_id status turn.now) rfl hfresh
      (Or.inr ⟨w, hw, hwriter, hnew⟩)) (Or.inl ⟨_, List.mem_cons_self, rfl⟩)
  simp only [advance, replaceStatus, IdentityService.lockUser_eq hget,
    IdentityService.unlockUser_eq hget]
  cases active with
  | true => exact hwrite .active
  | false =>
    cases turn.revoked with
    | true => exact hwrite .locked
    | false => exact .kept hlin (Or.inl ⟨w, hw, hwriter⟩)

theorem advance_patched {active : Bool}
    (hlin : History.Linear (carried requests) (s.history userID))
    (hstage : ∃ w ∈ s.log, w.writer = turn.request ∧ w.new = computeETag u)
    (hquiet : togglesStatus active u = true →
      UserRepo.getUserByID s.users tenantID userID = .ok u ∧
        (s.history userID).Fresh (etagOf turn.now)) (req : Request) :
    StepOk requests userID s turn.request
      (advance std tenantID userID req turn s (.patched u active)) := by
  obtain ⟨w, hw, hwriter, hnew⟩ := hstage
  cases htoggles : togglesStatus active u with
  | false =>
    simp only [advance, htoggles, Bool.and_false, Bool.false_eq_true, if_false]
    exact .kept hlin (Or.inl ⟨w, hw, hwriter⟩)
  | true =>
    obtain ⟨hget, hfresh⟩ := hquiet htoggles
    have hwrite : ∀ status : UserStatus, StepOk requests userID s turn.request
        (s.write userID turn.request (s.users.put (u.inStatus status turn.now)),
          .done (.resource 200 "" (toSCIMUser (u.inStatus status turn.now)))) := fun status =>
      .wrote (linear_put hlin hget (u.inStatus_id status turn.now) rfl hfresh
        (Or.inr ⟨w, hw, hwriter, hnew⟩)) (Or.inl ⟨_, List.mem_cons_self, rfl⟩)
    simp only [advance, patchStatus, IdentityService.lockUser_eq hget,
      IdentityService.unlockUser_eq hget, htoggles, Bool.and_true]
    by_cases hunlock : (active && u.status ≠ .active) = true
    · simp only [if_pos hunlock]
      exact hwrite .active
    · have hlock : (!active && u.status = .active) = true :=
        (Bool.or_eq_true_iff.mp htoggles).resolve_left hunlock
      simp only [if_neg hunlock, if_pos hlock]
      cases turn.revoked with
      | true => exact hwrite .locked
      | false => exact .kept hlin (Or.inl ⟨w, hw, hwriter⟩)

/-- **A step that nobody disturbs.** -/
theorem advance_ok {p : Threads Store Stage} (h : Guarded userID requests p)
    (hquiet : Undisturbed tenantID userID requests p turn) :
    StepOk requests userID p.store turn.request
      (advance std tenantID userID (requests turn.request) turn p.store (p.task turn.request)) := by
  have hlin := h.linear
  have hstage := h.stage turn.request
  unfold Undisturbed at hquiet
  cases htask : p.task turn.request with
  | waiting =>
    rw [htask] at hquiet
    obtain ⟨u, hget, hquiet⟩ := hquiet
    cases haction : (requests turn.request).action with
    | put body =>
      rw [haction] at hquiet
      simp only [advance, haction, replaceCheck, IdentityService.getUser, hget]
      by_cases hmatch : (checkIfMatch (requests turn.request).ifMatch (computeETag u)).1 = true
      · have hsame : carried requests turn.request = computeETag u :=
          (checkIfMatch_etagOf _ _).mp hmatch
        obtain ⟨scimUser, rfl⟩ := hquiet hsame
        simp only [hmatch, Bool.not_true, Bool.false_eq_true, if_false]
        exact .kept hlin hsame.symm
      · simp only [Bool.eq_false_iff.mpr hmatch, Bool.not_false, if_true]
        refine .kept hlin (Or.inr ⟨_, rfl⟩)
    | patch body =>
      rw [haction] at hquiet
      obtain ⟨hsame, ops, rfl⟩ := hquiet
      simp only [advance, haction, patchChanges, IdentityService.getUser, hget]
      exact .kept hlin hsame.symm
    | delete =>
      rw [haction] at hquiet
      obtain ⟨hsame, hcleaned, hfresh⟩ := hquiet
      simp only [advance, haction, IdentityService.deleteUser_eq hget, hcleaned, if_true]
      exact .wrote (linear_put hlin hget (u.removed_id turn.now) rfl hfresh (Or.inl hsame.symm))
        (Or.inl ⟨_, List.mem_cons_self, rfl⟩)
  | replacing existing scimUser =>
    rw [htask] at hquiet hstage
    obtain ⟨v, users, hupdate, hlin', hwritten⟩ := updateUser_written hlin hstage hquiet
    simp only [advance, hupdate]
    exact .wrote hlin' hwritten
  | replaced updated active =>
    rw [htask] at hquiet hstage
    exact advance_replaced std hlin hstage hquiet.1 hquiet.2 _
  | patching u changes =>
    rw [htask] at hquiet hstage
    obtain ⟨v, users, hupdate, hlin', hwritten⟩ := updateUser_written hlin hstage hquiet
    simp only [advance, hupdate]
    exact .wrote hlin' hwritten
  | patched updatedUser active =>
    rw [htask] at hquiet hstage
    exact advance_patched std hlin hstage hquiet _
  | done response =>
    rw [htask] at hstage
    exact .kept hlin hstage

theorem step_guarded {p : Threads Store Stage} (h : Guarded userID requests p)
    (hquiet : Undisturbed tenantID userID requests p turn) :
    Guarded userID requests (step std tenantID userID requests p turn) := by
  obtain ⟨hlin, hstage, hmore⟩ := advance_ok std h hquiet
  refine ⟨hlin, fun i => ?_⟩
  unfold step
  by_cases hi : i = turn.request
  · rw [hi, Threads.put_task_self]
    exact hstage
  · rw [Threads.put_task_of_ne p _ hi]
    exact (h.stage i).mono hmore

theorem start_guarded (users : UserTable) : Guarded userID requests (start users) :=
  ⟨History.linear_start _, fun _ => trivial⟩

/-- **Optimistic locking.** In every state of a run in which nobody comes between the read and
the writes of a request. -/
theorem optimistic_locking (tenantID userID : UUID) (requests : Nat → Request) {users : UserTable}
    {turns : List Turn} (hquiet : StepsOk (step std tenantID userID requests)
      (Undisturbed tenantID userID requests) (start users) turns) :
    ∀ p ∈ states (step std tenantID userID requests) (start users) turns,
      Locked userID requests p := by
  intro p hp
  have hguarded := invariant_states (fun _ _ h hq => step_guarded std h hq) (start_guarded users)
    hquiet
  exact (hguarded p hp).locked

namespace Sample

def renamedTo (displayName : String) : SCIMUser := { displayName := displayName, active := true }

/-- Two PUT requests with the ETag the user has. -/
def twoPuts : Nat → Request := fun i =>
  ⟨.put (.ok (renamedTo (if i = 0 then "Janet" else "Jeanne"))), 1000⟩

/-- Two PATCH requests with the ETag the user has. -/
def twoPatches : Nat → Request := fun i =>
  ⟨.patch (.ok [⟨"replace", "displayName", .json (.string (if i = 0 then "Janet" else "Jeanne"))⟩]),
    1000⟩

def inTurn : List Turn :=
  [⟨0, 2000, true, true⟩, ⟨0, 3000, true, true⟩, ⟨0, 4000, true, true⟩, ⟨1, 5000, true, true⟩,
    ⟨1, 6000, true, true⟩, ⟨1, 7000, true, true⟩]

/-- Both read before either writes. -/
def crossing : List Turn :=
  [⟨0, 2000, true, true⟩, ⟨1, 3000, true, true⟩, ⟨0, 4000, true, true⟩, ⟨0, 5000, true, true⟩,
    ⟨1, 6000, true, true⟩, ⟨1, 7000, true, true⟩]

def succeeded : Stage → Bool
  | .done response => response.ok
  | _ => false

/-- A history in which two have written that carry one ETag. -/
theorem not_locked {requests : Nat → Request} {p : Threads Store Stage}
    (hwrote : 0 ∈ p.store.log.map Overwrite.writer ∧ 1 ∈ p.store.log.map Overwrite.writer)
    (hsame : carried requests 0 = carried requests 1) : ¬Locked 7 requests p := by
  intro hlocked
  obtain ⟨⟨w, hw, hwriter⟩, ⟨w', hw', hwriter'⟩⟩ :=
    And.intro (List.mem_map.mp hwrote.1) (List.mem_map.mp hwrote.2)
  exact absurd (hlocked.once 0 1 ⟨w, hw, hwriter⟩ ⟨w', hw', hwriter'⟩ hsame) (by decide)

def afterPuts : Threads Store Stage := run (step stdlib 1 7 twoPuts) (start users) crossing

def afterPatches : Threads Store Stage := run (step stdlib 1 7 twoPatches) (start users) inTurn

theorem twoPuts_quiet : StepsOk (step stdlib 1 7 twoPuts) (Undisturbed 1 7 twoPuts) (start users)
    (inTurn.take 4) := by
  refine ⟨?_, ?_, ?_, ?_, trivial⟩
  · exact ⟨jane, rfl, fun _ => ⟨_, rfl⟩⟩
  · exact ⟨rfl, ⟨by decide, by decide⟩, by decide⟩
  · exact ⟨rfl, by decide⟩
  · exact ⟨_, rfl, fun _ => ⟨_, rfl⟩⟩

end Sample

open Sample in
theorem optimistic_locking_sample :
    Locked 7 twoPuts (run (step stdlib 1 7 twoPuts) (start users) (inTurn.take 4)) :=
  optimistic_locking stdlib 1 7 twoPuts twoPuts_quiet _ (run_mem_states _ _)

open Sample in
/-- **An ETag does not keep requests apart**: two PUT requests that carry one ETag take effect,
as both were compared before either wrote, and so do two PATCH requests one after the other. -/
theorem optimistic_locking_fails :
    (succeeded (afterPuts.task 0) = true ∧ succeeded (afterPuts.task 1) = true ∧
      ¬Locked 7 twoPuts afterPuts) ∧
    (succeeded (afterPatches.task 0) = true ∧ succeeded (afterPatches.task 1) = true ∧
      ¬Locked 7 twoPatches afterPatches) :=
  ⟨⟨rfl, rfl, not_locked (by decide) rfl⟩, ⟨rfl, rfl, not_locked (by decide) rfl⟩⟩

end Ggid.Identity
