import Ggid.Go.Bytes
import Ggid.Lib.Framing
import Ggid.Lib.HashLinks
import Ggid.Lib.Run

/-!
# Audit service — the hash chain

`ComputeHash`, `VerifyHash` and `VerifyChain`: every audit event carries a MAC of its
fields and of the hash of the event before it. The MAC is keyed with a secret that has
a version; the version in use goes into the MAC, but not into the event.

HMAC-SHA256 is a parameter, `hmac`. The fields of an event that are not covered by the
hash are left out. A string is a list of bytes here: its length goes into the MAC.

* `verifyFrom_eq_firstBroken`  — `VerifyChain` looks for the first broken link of a
  chain of digests;
* `verifyChain_none_iff`       — it finds none exactly if the chain is linked.
-/

namespace Ggid.Audit

open Ggid.Go Ggid.Lib

-- ---------------------------------------------------------------------------
-- Events
-- ---------------------------------------------------------------------------

structure AuditEvent where
  id           : UUID
  tenantID     : UUID
  actorType    : Bytes
  actorID      : Option UUID
  action       : Bytes
  resourceType : Bytes
  resourceID   : Option UUID
  result       : Bytes
  ipAddress    : Bytes
  hash         : Bytes
  prevHash     : Bytes
  createdAt    : Time
  deriving DecidableEq

/-- `Time.UnixNano`, which wraps around. -/
def unixNano (t : Time) : Int := Int.bmod t (2 ^ 64)

def uuidToString (u : Option UUID) : Bytes :=
  match u with
  | none => []
  | some u => ascii u.string

/-- The fields that go into the hash, as texts. -/
def canonicalFields (e : AuditEvent) : List Bytes :=
  [ascii e.id.string, ascii e.tenantID.string, e.actorType, uuidToString e.actorID, e.action,
    e.resourceType, uuidToString e.resourceID, e.result, e.ipAddress,
    sprintD (unixNano e.createdAt)]

def canonicalEventData (e : AuditEvent) : Bytes := frames sprint04x (canonicalFields e)

-- ---------------------------------------------------------------------------
-- Secrets
-- ---------------------------------------------------------------------------

/-- The package state: the secrets by version, and the version in use. A nil slice and
a missing one are the same. -/
structure HashChainSecrets where
  secrets        : Int → Option Bytes
  currentVersion : Int

namespace HashChainSecrets

def setHashChainSecret (s : HashChainSecrets) (secret : Option Bytes) : HashChainSecrets :=
  { s with secrets := Function.update s.secrets s.currentVersion secret }

def setHashChainSecretVersioned (s : HashChainSecrets) (version : Int) (secret : Option Bytes) :
    HashChainSecrets :=
  ⟨Function.update s.secrets version secret,
    if s.currentVersion < version then version else s.currentVersion⟩

def setHashChainCurrentVersion (s : HashChainSecrets) (v : Int) : HashChainSecrets :=
  { s with currentVersion := v }

def isHashChainEnabled (s : HashChainSecrets) : Bool :=
  !((s.secrets s.currentVersion).getD []).isEmpty

/-- The key of a version, or that of version 0. -/
def keyOf (s : HashChainSecrets) (version : Int) : Bytes :=
  ((s.secrets version).or (s.secrets 0)).getD []

end HashChainSecrets

-- ---------------------------------------------------------------------------
-- Hashes
-- ---------------------------------------------------------------------------

/-- `v%d:`. -/
def versionTag (version : Int) : Bytes := ascii "v" ++ (sprintD version ++ ascii ":")

/-- What the MAC of an event is computed of. -/
def macInput (version : Int) (prevHash canonical : Bytes) : Bytes :=
  versionTag version ++ (prevHash ++ canonical)

section Hash

variable (hmac : Bytes → Bytes → Bytes) (s : HashChainSecrets)

def computeHash (e : AuditEvent) (prevHash : Bytes) : Bytes :=
  hexEncodeToString (hmac (s.keyOf s.currentVersion)
    (macInput s.currentVersion prevHash (canonicalEventData e)))

def verifyHashWithVersion (e : AuditEvent) (prevHash : Bytes) (secretVersion : Int) : Bool :=
  if e.hash = [] then false
  else e.hash = hexEncodeToString (hmac (s.keyOf secretVersion)
    (macInput secretVersion prevHash (canonicalEventData e)))

def verifyHash (e : AuditEvent) (prevHash : Bytes) : Bool :=
  verifyHashWithVersion hmac s e prevHash 0

/-- The loop of `VerifyChain`. -/
def verifyFrom : Bytes → List AuditEvent → Option Nat
  | _, [] => none
  | prevHash, e :: es =>
    if !verifyHash hmac s e prevHash then some 0 else (verifyFrom e.hash es).map (· + 1)

/-- `VerifyChain`; no index stands for `-1`. -/
def verifyChain (events : List AuditEvent) : Option Nat := verifyFrom hmac s [] events

/-- The digest `VerifyChain` expects. -/
def chainLink (prevHash canonical : Bytes) : Bytes :=
  hexEncodeToString (hmac (s.keyOf 0) (macInput 0 prevHash canonical))

end Hash

/-- An event as an entry of a chain of digests. -/
def entry (e : AuditEvent) : Bytes × Bytes := (canonicalEventData e, e.hash)

section Verify

variable {hmac : Bytes → Bytes → Bytes} {s : HashChainSecrets}

theorem verifyHash_iff {e : AuditEvent} {prevHash : Bytes} :
    verifyHash hmac s e prevHash = true ↔
      (entry e).2 ≠ [] ∧ (entry e).2 = chainLink hmac s prevHash (entry e).1 := by
  unfold verifyHash verifyHashWithVersion
  by_cases hempty : e.hash = []
  · simp [entry, hempty]
  · simp [entry, hempty, chainLink]

/-- `VerifyChain` is the search for the first broken link. -/
theorem verifyFrom_eq_firstBroken (prevHash : Bytes) (events : List AuditEvent) :
    verifyFrom hmac s prevHash events =
      firstBroken (chainLink hmac s) [] prevHash (events.map entry) := by
  induction events generalizing prevHash with
  | nil => rfl
  | cons e es ih =>
    rw [verifyFrom, List.map_cons, firstBroken]
    by_cases hok : verifyHash hmac s e prevHash = true
    · rw [if_neg (by simp [hok]), if_pos (verifyHash_iff.mp hok), ih]
      rfl
    · rw [if_pos (by simpa using hok), if_neg (mt verifyHash_iff.mpr hok)]

theorem verifyChain_none_iff {events : List AuditEvent} :
    verifyChain hmac s events = none ↔
      Linked (chainLink hmac s) [] [] (events.map entry) := by
  rw [verifyChain, verifyFrom_eq_firstBroken, firstBroken_eq_none_iff]

end Verify

-- ---------------------------------------------------------------------------
-- Two events
-- ---------------------------------------------------------------------------

namespace Sample

def event (id : UUID) (action : String) (createdAt : Time) : AuditEvent :=
  ⟨id, 1#128, ascii "user", some 2#128, ascii action, [], none, ascii "success", ascii "10.0.0.1",
    [], [], createdAt⟩

def login : AuditEvent := event 10#128 "user.login" 0

def assign : AuditEvent := event 11#128 "role.assign" 1000

def loginMac : Bytes :=
  [192, 45, 36, 99, 59, 172, 61, 228, 32, 98, 27, 33, 49, 118, 161, 222, 118, 98, 45, 92, 34, 142,
   170, 147, 117, 49, 51, 184, 89, 71, 161, 219]

def assignMac : Bytes :=
  [62, 101, 80, 60, 56, 97, 12, 50, 38, 145, 89, 53, 133, 125, 233, 185, 93, 253, 6, 55, 214, 224,
   1, 221, 98, 94, 20, 149, 237, 245, 26, 140]

/-- HMAC-SHA256 of the events, each by itself and behind the other. -/
def hmac (key input : Bytes) : Bytes :=
  if key = ascii "s0" ∧ input = macInput 0 [] (canonicalEventData login) then loginMac
  else if key = ascii "s0" ∧
      input = macInput 0 (hexEncodeToString loginMac) (canonicalEventData assign) then
    [70, 33, 4, 1, 199, 18, 179, 121, 217, 193, 172, 36, 239, 51, 127, 81, 252, 99, 65, 31, 202,
     169, 156, 29, 228, 42, 14, 227, 254, 216, 185, 194]
  else if key = ascii "s1" ∧
      input = macInput 1 (hexEncodeToString loginMac) (canonicalEventData assign) then
    [11, 163, 94, 95, 215, 206, 100, 60, 190, 212, 212, 204, 87, 85, 251, 76, 42, 78, 211, 205,
     132, 148, 36, 224, 252, 109, 52, 0, 89, 8, 108, 68]
  else if key = ascii "s0" ∧ input = macInput 0 [] (canonicalEventData assign) then assignMac
  else if key = ascii "s0" ∧
      input = macInput 0 (hexEncodeToString assignMac) (canonicalEventData login) then
    [208, 33, 223, 88, 255, 133, 207, 193, 81, 23, 153, 55, 37, 197, 115, 127, 46, 51, 172, 252,
     134, 52, 66, 176, 198, 102, 158, 148, 57, 198, 245, 189]
  else [0]

theorem hmac_ne_nil (key input : Bytes) : hmac key input ≠ [] := by
  unfold hmac loginMac assignMac
  split
  · simp
  split
  · simp
  split
  · simp
  split
  · simp
  split
  · simp
  · simp

/-- One secret, of version 0. -/
def secrets : HashChainSecrets := ⟨fun v => if v = 0 then some (ascii "s0") else none, 0⟩

end Sample

end Ggid.Audit
