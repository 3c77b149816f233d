import Ggid.Audit.ChainIntegrity
import Ggid.Audit.Repository

/-!
# Audit service — columns, and which of them the hash covers

A row of `audit_events` with all the columns `Insert` writes, how `Insert` fills them, and
how `GetByID` and `loadChainEvents` read an event back. What is read is the row that
`Ggid.Audit.Repository` stores (`scanEvent_columns`).

`canonicalEventData` goes over ten fields. The name of the actor and of the resource, the
user agent, the request ID and the metadata are not among them; of the others, a hash does
not tell `NULL` from what it is read as, an address from one with a netmask, or years that
`UnixNano` cannot tell apart.

* `columns_determined_iff`   — rows with the same previous hash and the same valid hash
  are equal exactly if they agree in what the hash does not cover;
* `user_agent_not_covered`   — a row whose user agent is replaced stays valid.
-/

namespace Ggid.Audit

open Ggid.Go Ggid.Lib

-- ---------------------------------------------------------------------------
-- `audit_events`
-- ---------------------------------------------------------------------------

/-- `INET`: the address, as `host` prints it, and the length of the netmask. -/
structure Inet where
  host    : Bytes
  masklen : Nat
  deriving DecidableEq

/-- A row. `JSONB` is given as the text it is printed as. -/
structure AuditRow where
  id           : UUID
  tenantID     : UUID
  actorType    : Bytes
  actorID      : Option UUID
  actorName    : Option Bytes
  action       : Bytes
  resourceType : Option Bytes
  resourceID   : Option UUID
  resourceName : Option Bytes
  result       : Bytes
  ipAddress    : Option Inet
  userAgent    : Option Bytes
  requestID    : Option Bytes
  metadata     : Option Bytes
  prevHash     : Option Bytes
  hash         : Option Bytes
  createdAt    : Time
  deriving DecidableEq

/-- An event with the fields that are not hashed. -/
structure DetailedEvent extends AuditEvent where
  actorName    : Bytes
  resourceName : Bytes
  userAgent    : Bytes
  requestID    : Bytes
  metadata     : Bytes
  deriving DecidableEq

def nullableStr (s : Bytes) : Option Bytes := if s = [] then none else some s

def ptrStr (s : Option Bytes) : Bytes := s.getD []

/-- The values of `INSERT INTO audit_events`, for an address that was converted. -/
def columns (e : DetailedEvent) (ip : Option Inet) : AuditRow where
  id           := e.id
  tenantID     := e.tenantID
  actorType    := e.actorType
  actorID      := nullableUUID e.actorID
  actorName    := nullableStr e.actorName
  action       := e.action
  resourceType := nullableStr e.resourceType
  resourceID   := nullableUUID e.resourceID
  resourceName := nullableStr e.resourceName
  result       := e.result
  ipAddress    := ip
  userAgent    := nullableStr e.userAgent
  requestID    := nullableStr e.requestID
  metadata     := some e.metadata
  prevHash     := some e.prevHash
  hash         := some e.hash
  createdAt    := e.createdAt

/-- `host(ip_address)`. -/
def hostOf (ip : Option Inet) : Bytes := ptrStr (ip.map Inet.host)

/-- The hashed fields, as `GetByID` reads them. -/
def scanEvent (r : AuditRow) : AuditEvent where
  id           := r.id
  tenantID     := r.tenantID
  actorType    := r.actorType
  actorID      := r.actorID
  action       := r.action
  resourceType := ptrStr r.resourceType
  resourceID   := r.resourceID
  result       := r.result
  ipAddress    := hostOf r.ipAddress
  hash         := ptrStr r.hash
  prevHash     := ptrStr r.prevHash
  createdAt    := r.createdAt

/-- As `loadChainEvents` reads them: the nil UUID is read as `NULL`. -/
def chainEvent (r : AuditRow) : AuditEvent :=
  { scanEvent r with
    actorID    := nullableUUID r.actorID
    resourceID := nullableUUID r.resourceID }

theorem ptrStr_nullableStr (s : Bytes) : ptrStr (nullableStr s) = s := by
  unfold ptrStr nullableStr
  split
  · rename_i hempty
    rw [hempty]
    rfl
  · rfl

/-- What `Insert` writes is read back as the row of the event. -/
theorem scanEvent_columns (e : DetailedEvent) (ip : Option Inet) :
    scanEvent (columns e ip) = toRow e.toAuditEvent (hostOf ip) := by
  simp only [scanEvent, columns, toRow, ptrStr_nullableStr]
  rfl

-- ---------------------------------------------------------------------------
-- What is not covered
-- ---------------------------------------------------------------------------

/-- What a hash leaves open of a row. -/
structure Uncovered where
  actorName      : Option Bytes
  resourceName   : Option Bytes
  userAgent      : Option Bytes
  requestID      : Option Bytes
  metadata       : Option Bytes
  /-- `actor_id` is the nil UUID, not `NULL`. -/
  actorIsNil     : Bool
  resourceIsNil  : Bool
  /-- `resource_type` is `NULL`, not `''`. -/
  typeIsNull     : Bool
  masklen        : Option Nat
  /-- The part of `created_at` that `UnixNano` wraps around. -/
  beyondUnixNano : Int
  deriving DecidableEq

def uncovered (r : AuditRow) : Uncovered where
  actorName      := r.actorName
  resourceName   := r.resourceName
  userAgent      := r.userAgent
  requestID      := r.requestID
  metadata       := r.metadata
  actorIsNil     := r.actorID = some UUID.nil
  resourceIsNil  := r.resourceID = some UUID.nil
  typeIsNull     := r.resourceType.isNone
  masklen        := r.ipAddress.map Inet.masklen
  beyondUnixNano := r.createdAt - unixNano r.createdAt

section Determined

variable {r r' : AuditRow}

theorem nullableUUID_eq_iff {u v : Option UUID} :
    u = v ↔ nullableUUID u = nullableUUID v ∧
      decide (u = some UUID.nil) = decide (v = some UUID.nil) := by
  constructor
  · rintro rfl
    exact ⟨rfl, rfl⟩
  · rintro ⟨hread, hnil⟩
    unfold nullableUUID at hread
    by_cases hu : u = some UUID.nil
    · have hv : v = some UUID.nil := by simpa [hu] using hnil
      rw [hu, hv]
    · have hv : v ≠ some UUID.nil := by simpa [hu] using hnil
      rwa [if_neg hu, if_neg hv] at hread

theorem ptrStr_eq_iff {s t : Option Bytes} :
    s = t ↔ ptrStr s = ptrStr t ∧ s.isNone = t.isNone := by
  cases s <;> cases t <;> simp [ptrStr]

theorem hostOf_eq_iff {ip ip' : Option Inet} :
    ip = ip' ↔ hostOf ip = hostOf ip' ∧ ip.map Inet.masklen = ip'.map Inet.masklen := by
  rcases ip with _ | ⟨host, masklen⟩ <;> rcases ip' with _ | ⟨host', masklen'⟩ <;>
    simp [hostOf, ptrStr]

/-- A row is its covered fields, its hashes, and the rest. -/
theorem row_eq_iff (hprev : r.prevHash = r'.prevHash) (hhash : r.hash = r'.hash) :
    r = r' ↔ covered (chainEvent r) = covered (chainEvent r') ∧ uncovered r = uncovered r' := by
  constructor
  · rintro rfl
    exact ⟨rfl, rfl⟩
  · rintro ⟨hcovered, huncovered⟩
    simp only [covered, chainEvent, scanEvent, Covered.mk.injEq] at hcovered
    simp only [uncovered, Uncovered.mk.injEq] at huncovered
    obtain ⟨hid, htenant, hactorType, hactor, haction, htype, hresource, hresult, hip, hnano⟩ :=
      hcovered
    obtain ⟨hactorName, hresourceName, hagent, hrequest, hmetadata, hactorNil, hresourceNil,
      htypeNull, hmask, hbeyond⟩ := huncovered
    rw [hnano] at hbeyond
    have hcreated : r.createdAt = r'.createdAt := sub_left_inj.mp hbeyond
    cases r
    cases r'
    simp only [AuditRow.mk.injEq]
    exact ⟨hid, htenant, hactorType, nullableUUID_eq_iff.mpr ⟨hactor, hactorNil⟩, hactorName,
      haction, ptrStr_eq_iff.mpr ⟨htype, htypeNull⟩, nullableUUID_eq_iff.mpr ⟨hresource,
      hresourceNil⟩, hresourceName, hresult, hostOf_eq_iff.mpr ⟨hip, hmask⟩, hagent, hrequest,
      hmetadata, hprev, hhash, hcreated⟩

/-- Rows with one valid hash have one canonical text. -/
theorem canonical_eq_of_valid {hmac : Bytes → Bytes → Bytes} {s : HashChainSecrets} {version : Int}
    (hmac_inj : Function.Injective (hmac (s.keyOf version))) (hprev : r.prevHash = r'.prevHash)
    (hhash : r.hash = r'.hash)
    (hvalid : verifyHashWithVersion hmac s (chainEvent r) (chainEvent r).prevHash version = true)
    (hvalid' :
      verifyHashWithVersion hmac s (chainEvent r') (chainEvent r').prevHash version = true) :
    canonicalEventData (chainEvent r) = canonicalEventData (chainEvent r') := by
  have hsamePrev : (chainEvent r).prevHash = (chainEvent r').prevHash := by
    simp only [chainEvent, scanEvent, hprev]
  have hsameHash : (chainEvent r).hash = (chainEvent r').hash := by
    simp only [chainEvent, scanEvent, hhash]
  unfold verifyHashWithVersion at hvalid hvalid'
  split at hvalid
  · exact absurd hvalid (by decide)
  split at hvalid'
  · exact absurd hvalid' (by decide)
  have hmacs := (of_decide_eq_true hvalid).symm.trans
    (hsameHash.trans (of_decide_eq_true hvalid'))
  have hinput := hmac_inj (hexEncodeToString_injective hmacs)
  rw [hsamePrev] at hinput
  exact List.append_cancel_left (List.append_cancel_left hinput)

end Determined

/-- **What a valid hash determines.** Of two rows with the same previous hash and the same
valid hash, all columns agree exactly if those agree that the hash does not cover, and the
length prefixes of the fields are equally wide. -/
theorem columns_determined_iff (hmac : Bytes → Bytes → Bytes) (s : HashChainSecrets)
    (version : Int) (hmac_inj : Function.Injective (hmac (s.keyOf version))) (r r' : AuditRow)
    (hprev : r.prevHash = r'.prevHash) (hhash : r.hash = r'.hash)
    (hvalid : verifyHashWithVersion hmac s (chainEvent r) (chainEvent r).prevHash version = true)
    (hvalid' :
      verifyHashWithVersion hmac s (chainEvent r') (chainEvent r').prevHash version = true) :
    r = r' ↔ uncovered r = uncovered r' ∧
      SameWidths sprint04x (canonicalFields (chainEvent r)) (canonicalFields (chainEvent r')) := by
  have htext := canonical_eq_of_valid hmac_inj hprev hhash hvalid hvalid'
  rw [row_eq_iff hprev hhash, covered_eq_iff htext, and_comm]

namespace Sample

/-- The login, as `Insert` writes it. -/
def loginRow : AuditRow :=
  columns
    { hashed plainMac login [] with
      actorName    := ascii "alice"
      resourceName := []
      userAgent    := ascii "curl/8.5.0"
      requestID    := ascii "req-1"
      metadata     := ascii "{}" }
    (some ⟨ascii "10.0.0.1", 32⟩)

/-- The same row with another user agent. -/
def forgedRow : AuditRow := { loginRow with userAgent := some (ascii "Mozilla/5.0") }

end Sample

open Sample in
theorem columns_determined_iff_sample :
    ¬ (uncovered loginRow = uncovered forgedRow ∧
      SameWidths sprint04x (canonicalFields (chainEvent loginRow))
        (canonicalFields (chainEvent forgedRow))) :=
  mt (columns_determined_iff plainMac secrets 0 (fun _ _ h => List.append_cancel_left h) loginRow
    forgedRow rfl rfl (by decide +kernel) (by decide +kernel)).mpr (by decide +kernel)

open Sample in
/-- The user agent of a stored event is replaced, and the hash is still valid. -/
theorem user_agent_not_covered :
    (∀ key, Function.Injective (plainMac key)) ∧
    loginRow.prevHash = forgedRow.prevHash ∧ loginRow.hash = forgedRow.hash ∧
    verifyHash plainMac secrets (chainEvent loginRow) (chainEvent loginRow).prevHash = true ∧
    verifyHash plainMac secrets (chainEvent forgedRow) (chainEvent forgedRow).prevHash = true ∧
    loginRow ≠ forgedRow := by
  refine ⟨fun key i j h => List.append_cancel_left h, rfl, rfl, ?_, ?_, ?_⟩ <;> decide +kernel

end Ggid.Audit
