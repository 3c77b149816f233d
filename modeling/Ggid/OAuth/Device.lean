import Ggid.Lib.Threads
import Ggid.OAuth.Grants

/-!
# OAuth service — the device flow

`PollDeviceToken`, `ApproveDeviceCode`, `DenyDeviceCode` and the sweep of expired
codes, over the two maps they share. Each critical section is one action; a poll
takes up to three of them, and calls that run at the same time interleave.

`CreateDeviceAuthorization` puts a pending code under fresh names; the runs here
start after it.
-/

namespace Ggid.OAuth

open Ggid.Go Ggid.Policy Ggid.Lib

-- ---------------------------------------------------------------------------
-- Device codes
-- ---------------------------------------------------------------------------

inductive DeviceStatus where
  | pending | approved | denied | expired
  deriving DecidableEq

structure DeviceCodeInfo where
  deviceCode : String
  userCode   : String
  clientID   : String
  tenantID   : UUID
  userID     : Option UUID
  scope      : List String
  status     : DeviceStatus
  createdAt  : Time
  expiresAt  : Time
  lastPoll   : Option Time
  deriving DecidableEq

namespace DeviceCodeInfo

def withLastPoll (now : Time) (info : DeviceCodeInfo) : DeviceCodeInfo :=
  { info with lastPoll := some now }

def withApproval (userID : UUID) (info : DeviceCodeInfo) : DeviceCodeInfo :=
  { info with status := .approved, userID := some userID }

def withDenial (info : DeviceCodeInfo) : DeviceCodeInfo := { info with status := .denied }

end DeviceCodeInfo

/-- `deviceCodeStore` and `userCodeIndex`. -/
structure DeviceStore where
  codes : Table DeviceCodeInfo.deviceCode
  index : String → Option String

namespace DeviceStore

/-- `delete(deviceCodeStore, deviceCode); delete(userCodeIndex, userCode)`. -/
def remove (st : DeviceStore) (deviceCode userCode : String) : DeviceStore where
  codes := st.codes.delete fun info => info.deviceCode = deviceCode
  index := Function.update st.index userCode none

/-- A write through the pointer that is stored under a device code. -/
def modify (st : DeviceStore) (deviceCode : String) (f : DeviceCodeInfo → DeviceCodeInfo)
    (hf : ∀ info, (f info).deviceCode = info.deviceCode) : DeviceStore :=
  { st with codes := st.codes.update (fun info => info.deviceCode = deviceCode) f hf }

/-- The part of `startExpiredEntryReaper` that sweeps device codes. -/
def sweep (st : DeviceStore) (now : Time) : DeviceStore where
  codes := st.codes.delete fun info => info.expiresAt < now
  index := fun userCode =>
    if st.codes.rows.any (fun info => info.expiresAt < now && info.userCode = userCode) then none
    else st.index userCode

end DeviceStore

-- ---------------------------------------------------------------------------
-- Approving and denying
-- ---------------------------------------------------------------------------

/-- The entry a user code leads to. -/
def lookupUserCode (st : DeviceStore) (userCode : String) : Except GGIDError DeviceCodeInfo :=
  match st.index userCode with
  | none => .error (.driver "invalid user_code")
  | some deviceCode =>
    match st.codes.find? deviceCode with
    | none => .error (.driver "device code not found")
    | some info => .ok info

/-- Both tenants are known and they differ. -/
def tenantMismatch (info : DeviceCodeInfo) (tenantID : UUID) : Bool :=
  info.tenantID ≠ UUID.nil && tenantID ≠ UUID.nil && info.tenantID ≠ tenantID

def approveDeviceCode (now : Time) (st : DeviceStore) (userCode : String) (userID tenantID : UUID) :
    DeviceStore × Except GGIDError Unit :=
  if userID = UUID.nil then (st, .error (.driver "user_id is required"))
  else match lookupUserCode st userCode with
    | .error err => (st, .error err)
    | .ok info =>
      if info.expiresAt < now then
        (st.remove info.deviceCode userCode, .error (.driver "expired user_code"))
      else if tenantMismatch info tenantID then (st, .error (.driver "tenant mismatch"))
      else (st.modify info.deviceCode (.withApproval userID) (fun _ => rfl), .ok ())

def denyDeviceCode (now : Time) (st : DeviceStore) (userCode : String) :
    DeviceStore × Except GGIDError Unit :=
  match lookupUserCode st userCode with
  | .error err => (st, .error err)
  | .ok info =>
    if info.expiresAt < now then
      (st.remove info.deviceCode userCode, .error (.driver "expired user_code"))
    else (st.modify info.deviceCode .withDenial (fun _ => rfl), .ok ())

-- ---------------------------------------------------------------------------
-- Polling
-- ---------------------------------------------------------------------------

structure PollRequest where
  deviceCode : String
  clientID   : String
  deriving DecidableEq

/-- What the outside contributes to an action. -/
structure DeviceEnv where
  now       : Time
  signFails : Bool

/-- Where a poll is: the critical section it enters next, or what it returned. -/
inductive PollPhase where
  | read
  | deleteExpired (userCode : String)
  | markPending (lastPoll : Option Time)
  | recheck (tenantID : UUID)
  | issue (tenantID userID : UUID) (scope : List String) (userCode : String)
  | returned (result : Except GGIDError TokenResponse)
  | panicked
  deriving DecidableEq

/-- `issueDeviceAccessToken`, when signing succeeds. -/
def issueDeviceAccessToken (now : Time) (tenantID userID : UUID) : AccessToken :=
  ⟨userID, tenantID, "ggid", "", now, now + 60 * minute, [], "", Time.zero⟩

/-- What follows from the copy of the entry a poll reads first. -/
def afterRead (env : DeviceEnv) (req : PollRequest) (info : DeviceCodeInfo) : PollPhase :=
  if req.clientID ≠ "" ∧ info.clientID ≠ "" ∧ req.clientID ≠ info.clientID then
    .returned (.error (.driver "invalid_client"))
  else if info.expiresAt < env.now then .deleteExpired info.userCode
  else match info.status with
    | .pending => .markPending info.lastPoll
    | .denied => .returned (.error (.driver "access_denied"))
    | .approved =>
      if info.userID.isSome then .recheck info.tenantID
      else .returned (.error (.driver "authorization_pending"))
    | .expired => .returned (.error (.driver "authorization_pending"))

/-- What follows from the second look at the entry. Only its status is checked, so a
missing user is dereferenced. -/
def afterRecheck (tenantID : UUID) (info : DeviceCodeInfo) : PollPhase :=
  if info.status ≠ .approved then .returned (.error (.driver "authorization_pending"))
  else match info.userID with
    | some userID => .issue tenantID userID info.scope info.userCode
    | none => .panicked

/-- One action of a poll. -/
def pollAct (env : DeviceEnv) (req : PollRequest) (st : DeviceStore) :
    PollPhase → DeviceStore × PollPhase
  | .read =>
    match st.codes.find? req.deviceCode with
    | none => (st, .returned (.error (.driver "invalid_device_code")))
    | some info => (st, afterRead env req info)
  | .deleteExpired userCode =>
    (st.remove req.deviceCode userCode, .returned (.error (.driver "expired_token")))
  | .markPending lastPoll =>
    if lastPoll.any (fun t => env.now - t < 5 * second) then
      (st, .returned (.error (.driver "slow_down")))
    else (st.modify req.deviceCode (.withLastPoll env.now) (fun _ => rfl),
      .returned (.error (.driver "authorization_pending")))
  | .recheck tenantID =>
    match st.codes.find? req.deviceCode with
    | none => (st, .returned (.error (.driver "authorization_pending")))
    | some info => (st, afterRecheck tenantID info)
  | .issue tenantID userID scope userCode =>
    -- the code stays for a retry if the token cannot be signed
    if env.signFails then (st, .returned (.error (.driver "sign device token")))
    else (st.remove req.deviceCode userCode,
      .returned (.ok ⟨issueDeviceAccessToken env.now tenantID userID, "", Strings.join " " scope⟩))
  | .returned result => (st, .returned result)
  | .panicked => (st, .panicked)

-- ---------------------------------------------------------------------------
-- Calls that run at the same time
-- ---------------------------------------------------------------------------

inductive DeviceTask where
  | poll (req : PollRequest) (phase : PollPhase)
  | approve (userCode : String) (userID tenantID : UUID)
  | deny (userCode : String)
  | sweep
  | answered (result : Except GGIDError Unit)
  deriving DecidableEq

/-- One action of a call. -/
def deviceAct (env : DeviceEnv) (st : DeviceStore) : DeviceTask → DeviceStore × DeviceTask
  | .poll req phase =>
    ((pollAct env req st phase).1, .poll req (pollAct env req st phase).2)
  | .approve userCode userID tenantID =>
    ((approveDeviceCode env.now st userCode userID tenantID).1,
      .answered (approveDeviceCode env.now st userCode userID tenantID).2)
  | .deny userCode =>
    ((denyDeviceCode env.now st userCode).1, .answered (denyDeviceCode env.now st userCode).2)
  | .sweep => (st.sweep env.now, .answered (.ok ()))
  | .answered result => (st, .answered result)

/-- A call, before it does anything. -/
inductive DeviceCall where
  | poll (req : PollRequest)
  | approve (userCode : String) (userID tenantID : UUID)
  | deny (userCode : String)
  | sweep

def DeviceCall.task : DeviceCall → DeviceTask
  | .poll req => .poll req .read
  | .approve userCode userID tenantID => .approve userCode userID tenantID
  | .deny userCode => .deny userCode
  | .sweep => .sweep

/-- No call has done anything yet. -/
def deviceStart (st : DeviceStore) (calls : Nat → DeviceCall) : Threads DeviceStore DeviceTask :=
  ⟨st, fun u => (calls u).task⟩

/-- Call `t` takes its next action. -/
def deviceStep (p : Threads DeviceStore DeviceTask) (e : Nat × DeviceEnv) :
    Threads DeviceStore DeviceTask :=
  p.put e.1 (deviceAct e.2 p.store (p.task e.1))

end Ggid.OAuth
