import Ggid.Go.Strings
import Ggid.Go.Value
import Ggid.Lib.Run
import Ggid.Lib.Table
import Ggid.Lib.Threads

/-!
# Auth service — one-time passwords

`VerifyMFA` and `VerifyUserCode`, as the steps of calls that run at the same time: the device is
read, the code is checked against its secret and its last code, and the code is written to the
device. A code is good for three time steps; the device remembers one code.

* `validate_spec`       — a code that is accepted is the one of a step in the window;
* `CopyOk`              — what the check of a code leaves to be ruled out;
* `codes_accepted_once` — when no step is accepted twice: when a code that comes back is the one
  the device had last.
-/

namespace Ggid.Auth

open Ggid.Go Ggid.Lib

-- ---------------------------------------------------------------------------
-- Codes
-- ---------------------------------------------------------------------------

/-- `GenerateCodeCustom` with six digits, by secret and counter; `none` is an error. -/
structure Totp where
  generate : String → Int → Option String

namespace Totp

/-- The time steps a code may be of, in the order they are tried. -/
def counters (now : Time) : List Int :=
  let counter := now / second / 30
  [counter, counter + 1, counter - 1]

def tryCounters (totp : Totp) (code secret : String) : List Int → Option Bool
  | [] => some false
  | counter :: rest =>
    match totp.generate secret counter with
    | none => none
    | some otp => if otp = code then some true else tryCounters totp code secret rest

/-- `ValidateCustom`, with the options of the service. -/
def validate (totp : Totp) (code secret : String) (now : Time) : Option Bool :=
  let code := Strings.trimSpace code
  if code.utf8ByteSize ≠ 6 then none else tryCounters totp code secret (counters now)

end Totp

-- ---------------------------------------------------------------------------
-- Devices
-- ---------------------------------------------------------------------------

/-- A row of `mfa_devices`, its secret decrypted. -/
structure MFADevice where
  id           : UUID
  tenantID     : UUID
  userID       : UUID
  name         : String
  secret       : String
  enabled      : Bool
  verifiedAt   : Option Time
  lastUsedCode : String
  deriving DecidableEq

abbrev MFADeviceTable := Table MFADevice.id

/-- The assignments of `UpdateDevice`. -/
def MFADevice.assign (device row : MFADevice) : MFADevice :=
  { row with
      enabled := device.enabled
      verifiedAt := device.verifiedAt
      name := device.name
      lastUsedCode := device.lastUsedCode }

namespace MFADeviceTable

/-- `GetDeviceByID`; the rows of other tenants are not seen. -/
def getDeviceByID (t : MFADeviceTable) (tenantID id : UUID) : Option MFADevice :=
  t.rows.find? fun d => d.tenantID = tenantID && d.id = id

def getEnabledDevice (t : MFADeviceTable) (tenantID userID : UUID) : Option MFADevice :=
  t.rows.find? fun d => d.tenantID = tenantID && d.userID = userID && d.enabled

def updateDevice (t : MFADeviceTable) (device : MFADevice) : MFADeviceTable :=
  t.update (fun d => d.tenantID = device.tenantID && d.id = device.id) device.assign fun _ => rfl

end MFADeviceTable

-- ---------------------------------------------------------------------------
-- Calls
-- ---------------------------------------------------------------------------

/-- A code that was accepted, with the time of its check. -/
structure AcceptedCode where
  device : UUID
  secret : String
  code   : String
  now    : Time
  deriving DecidableEq

structure MFAStore where
  devices  : MFADeviceTable
  accepted : List AcceptedCode

/-- Which of the two calls it is. -/
inductive MFACall where
  | verifyMFA
  | verifyUserCode
  deriving DecidableEq

/-- Where a call is. A call whose code was found good has its copy of the device, and the codes
that were accepted before. -/
inductive MFATask where
  | verifyMFA (tenantID : Option UUID) (deviceID : UUID) (code : String)
  | verifyUserCode (tenantID userID : UUID) (code : String)
  | found (call : MFACall) (device : MFADevice) (code : String)
  | checked (call : MFACall) (device : MFADevice) (code : String) (checkedAt : Time)
      (before : List AcceptedCode)
  | done (result : Except String Bool)

/-- The code is the last one of the device. -/
def MFADevice.replayed (device : MFADevice) (code : String) : Bool :=
  device.lastUsedCode ≠ "" && device.lastUsedCode = code

/-- The two checks, in the order of the call. -/
def checkCode (totp : Totp) (call : MFACall) (device : MFADevice) (code : String) (now : Time) :
    Bool :=
  match call with
  | .verifyMFA =>
    totp.validate code device.secret now = some true && !device.replayed code
  | .verifyUserCode =>
    !device.replayed code && totp.validate code device.secret now = some true

/-- One step of a call; `answers` says whether the database does. -/
def MFATask.act (totp : Totp) (now : Time) (answers : Bool) (st : MFAStore) :
    MFATask → MFAStore × MFATask
  | verifyMFA none _ _ => (st, .done (.error "tenant context required"))
  | verifyMFA (some tenantID) deviceID code =>
    match (st.devices.getDeviceByID tenantID deviceID).filter fun _ => answers with
    | none => (st, .done (.error "device not found"))
    | some device => (st, .found .verifyMFA device code)
  | verifyUserCode tenantID userID code =>
    match (st.devices.getEnabledDevice tenantID userID).filter fun _ => answers with
    | none => (st, .done (.error "no enabled MFA device"))
    | some device => (st, .found .verifyUserCode device code)
  | found call device code =>
    if checkCode totp call device code now then
      (st, .checked call device code now st.accepted)
    else (st, .done (.error "invalid MFA code"))
  | checked .verifyMFA device code checkedAt _ =>
    let first := !device.enabled
    let device := { device with
      enabled := true
      verifiedAt := if first then some now else device.verifiedAt
      lastUsedCode := code }
    if answers then
      ({ devices := st.devices.updateDevice device
         accepted := ⟨device.id, device.secret, code, checkedAt⟩ :: st.accepted },
        .done (.ok first))
    else (st, .done (.error "update device"))
  | checked .verifyUserCode device code checkedAt _ =>
    let device := { device with lastUsedCode := code }
    ({ devices := if answers then st.devices.updateDevice device else st.devices
       accepted := ⟨device.id, device.secret, code, checkedAt⟩ :: st.accepted },
      .done (.ok false))
  | done result => (st, .done result)

/-- Which call goes on, and when. -/
structure MFAStep where
  thread  : Nat
  now     : Time
  answers : Bool

namespace Mfa

def step (totp : Totp) (p : Threads MFAStore MFATask) (a : MFAStep) : Threads MFAStore MFATask :=
  p.put a.thread ((p.task a.thread).act totp a.now a.answers p.store)

/-- A call, before it does anything. -/
inductive Request where
  | verifyMFA (tenantID : Option UUID) (deviceID : UUID) (code : String)
  | verifyUserCode (tenantID userID : UUID) (code : String)

def Request.task : Request → MFATask
  | verifyMFA tenantID deviceID code => .verifyMFA tenantID deviceID code
  | verifyUserCode tenantID userID code => .verifyUserCode tenantID userID code

def start (devices : MFADeviceTable) (requests : Nat → Request) : Threads MFAStore MFATask :=
  ⟨⟨devices, []⟩, fun t => (requests t).task⟩

/-- The code is the one of a time step in its window. -/
def IsOf (totp : Totp) (c : AcceptedCode) (counter : Int) : Prop :=
  counter ∈ Totp.counters c.now ∧ totp.generate c.secret counter = some (Strings.trimSpace c.code)

/-- The two are codes of one time step of one device. -/
def SameStep (totp : Totp) (c c' : AcceptedCode) : Prop :=
  c.device = c'.device ∧ ∃ counter, IsOf totp c counter ∧ IsOf totp c' counter

/-- Every code that was accepted is the one of a step, and no step of a device is accepted twice. -/
structure AcceptedOnce (totp : Totp) (accepted : List AcceptedCode) : Prop where
  valid : ∀ c ∈ accepted, ∃ counter, IsOf totp c counter
  once  : accepted.Pairwise fun c c' => ¬ SameStep totp c c'

/-- A code comes back only as the last one of the device the call has read; and after the check of
a code, no other call has it accepted. -/
def NoReturn (totp : Totp) (p : Threads MFAStore MFATask) (a : MFAStep) : Prop :=
  match p.task a.thread with
  | .found _ device code =>
    ∀ c ∈ p.store.accepted, SameStep totp ⟨device.id, device.secret, code, a.now⟩ c →
      device.lastUsedCode = code
  | .checked _ device code checkedAt before =>
    ∀ c ∈ p.store.accepted, SameStep totp ⟨device.id, device.secret, code, checkedAt⟩ c →
      c ∈ before
  | _ => True

-- ---------------------------------------------------------------------------
-- The check
-- ---------------------------------------------------------------------------

variable {totp : Totp} {p : Threads MFAStore MFATask} {a : MFAStep}

theorem tryCounters_spec {code secret : String} : ∀ {counters : List Int},
    totp.tryCounters code secret counters = some true →
      ∃ counter ∈ counters, totp.generate secret counter = some code
  | [], h => by cases h
  | counter :: rest, h => by
    rw [Totp.tryCounters] at h
    cases hgenerate : totp.generate secret counter with
    | none =>
      rw [hgenerate] at h
      cases h
    | some otp =>
      rw [hgenerate] at h
      dsimp only at h
      by_cases hotp : otp = code
      · exact ⟨counter, List.mem_cons_self, hotp ▸ hgenerate⟩
      · rw [if_neg hotp] at h
        obtain ⟨counter', hmem, hcode⟩ := tryCounters_spec h
        exact ⟨counter', List.mem_cons_of_mem _ hmem, hcode⟩

/-- **A valid code** is the one of a step in the window, but for spaces around it. -/
theorem validate_spec {code secret : String} {now : Time}
    (h : totp.validate code secret now = some true) :
    code ≠ "" ∧ ∀ device, ∃ counter, IsOf totp ⟨device, secret, code, now⟩ counter := by
  unfold Totp.validate at h
  dsimp only at h
  split_ifs at h with hsize
  constructor
  · rintro rfl
    exact hsize (by decide)
  · obtain ⟨counter, hmem, hcode⟩ := tryCounters_spec h
    exact fun _ => ⟨counter, hmem, hcode⟩

theorem checkCode_spec {call : MFACall} {device : MFADevice} {code : String} {now : Time}
    (h : checkCode totp call device code now = true) :
    totp.validate code device.secret now = some true ∧ device.replayed code = false := by
  cases call <;> simpa [checkCode, and_comm] using h

-- ---------------------------------------------------------------------------
-- Runs
-- ---------------------------------------------------------------------------

/-- Behind the check, the code is of a step that was not accepted before it. -/
def CopyOk (totp : Totp) : MFATask → Prop
  | .checked _ device code checkedAt before =>
    (∃ counter, IsOf totp ⟨device.id, device.secret, code, checkedAt⟩ counter) ∧
      ∀ c ∈ before, ¬ SameStep totp ⟨device.id, device.secret, code, checkedAt⟩ c
  | _ => True

structure Keeps (totp : Totp) (p : Threads MFAStore MFATask) : Prop where
  once   : AcceptedOnce totp p.store.accepted
  copies : ∀ t, CopyOk totp (p.task t)

/-- A code that was checked is accepted. -/
theorem AcceptedOnce.cons {accepted before : List AcceptedCode} (h : AcceptedOnce totp accepted)
    {c : AcceptedCode} (hvalid : ∃ counter, IsOf totp c counter)
    (hfresh : ∀ c' ∈ before, ¬ SameStep totp c c')
    (hsince : ∀ c' ∈ accepted, SameStep totp c c' → c' ∈ before) :
    AcceptedOnce totp (c :: accepted) := by
  constructor
  · exact List.forall_mem_cons.mpr ⟨hvalid, h.valid⟩
  · refine List.pairwise_cons.mpr ⟨fun c' hc' hsame => ?_, h.once⟩
    exact hfresh c' (hsince c' hc' hsame) hsame

theorem act_keeps {task : MFATask} (h : AcceptedOnce totp p.store.accepted)
    (htask : p.task a.thread = task) (hcopy : CopyOk totp task) (hok : NoReturn totp p a) :
    AcceptedOnce totp (task.act totp a.now a.answers p.store).1.accepted ∧
      CopyOk totp (task.act totp a.now a.answers p.store).2 := by
  unfold NoReturn at hok
  rw [htask] at hok
  cases task with
  | verifyMFA tenantID deviceID code =>
    cases tenantID with
    | none => exact ⟨h, trivial⟩
    | some tenantID =>
      simp only [MFATask.act]
      cases (p.store.devices.getDeviceByID tenantID deviceID).filter fun _ => a.answers with
      | none => exact ⟨h, trivial⟩
      | some device => exact ⟨h, trivial⟩
  | verifyUserCode tenantID userID code =>
    simp only [MFATask.act]
    cases (p.store.devices.getEnabledDevice tenantID userID).filter fun _ => a.answers with
    | none => exact ⟨h, trivial⟩
    | some device => exact ⟨h, trivial⟩
  | found call device code =>
    simp only [MFATask.act]
    split_ifs with hcheck
    · obtain ⟨hvalid, hreplay⟩ := checkCode_spec hcheck
      obtain ⟨hcode, hstep⟩ := validate_spec hvalid
      refine ⟨h, hstep device.id, fun c hc hsame => ?_⟩
      have hlast : device.lastUsedCode = code := hok c hc hsame
      simp [MFADevice.replayed, hlast, hcode] at hreplay
    · exact ⟨h, trivial⟩
  | checked call device code checkedAt before =>
    have hcons := h.cons hcopy.1 hcopy.2 hok
    cases call with
    | verifyMFA =>
      simp only [MFATask.act]
      cases a.answers with
      | false => exact ⟨h, trivial⟩
      | true => exact ⟨hcons, trivial⟩
    | verifyUserCode => exact ⟨hcons, trivial⟩
  | done => exact ⟨h, trivial⟩

theorem Keeps.step (h : Keeps totp p) (hok : NoReturn totp p a) : Keeps totp (step totp p a) := by
  obtain ⟨honce, hcopy⟩ := act_keeps h.once rfl (h.copies a.thread) hok
  exact ⟨honce, Threads.forall_put h.copies (fun _ hx => hx) hcopy⟩

theorem start_keeps (devices : MFADeviceTable) (requests : Nat → Request) :
    Keeps totp (start devices requests) := by
  refine ⟨⟨fun c hc => absurd hc List.not_mem_nil, List.Pairwise.nil⟩, fun t => ?_⟩
  show CopyOk totp (requests t).task
  cases requests t <;> trivial

end Mfa

namespace Sample

/-- Codes by the number of the step. -/
def totp : Totp :=
  ⟨fun _ counter => some (if counter = 0 then "000000" else if counter = 1 then "111111" else "")⟩

def phone : MFADeviceTable := ⟨[⟨3, 1, 7, "phone", "S", true, none, ""⟩], by decide⟩

/-- The code of step 0, the code of step 1, and the code of step 0 again. -/
def threeCodes : Nat → Mfa.Request := fun t =>
  .verifyUserCode 1 7 (if t = 1 then "111111" else "000000")

/-- One call after the other, ten seconds after the epoch. -/
def inTurn (threads : List Nat) : List MFAStep :=
  threads.flatMap fun t => List.replicate 3 ⟨t, 10 * second, true⟩

def zeros : AcceptedCode := ⟨3, "S", "000000", 10 * second⟩

def ones : AcceptedCode := ⟨3, "S", "111111", 10 * second⟩

end Sample

end Ggid.Auth
