import Ggid.Audit.Repository
import Ggid.Audit.ChainIntegrity
import Ggid.Policy.Domain

/-!
# Audit service — reading an event back

`Insert` hashes the event it was given; the columns it writes are not always that event.
A nil UUID becomes `NULL`, and of an address what follows the last colon is dropped, be it
a port or the last group of an IPv6 address; what is left the database prints its own way.
`GetByID` reads the columns back, and the hash is recomputed of those.

* `read_back_iff`       — the stored hash is recomputed exactly if the address and the IDs
  survive, and the event is the one that is found;
* `port_is_hashed`      — an event with an IPv4 address and a port is reported as tampered.
-/

namespace Ggid.Audit

open Ggid.Go Ggid.Lib
open Ggid.Policy (GGIDError)

-- ---------------------------------------------------------------------------
-- `GetByID`
-- ---------------------------------------------------------------------------

/-- What a query meets with. Of several events with one ID, the one of the lowest rank is
returned. -/
structure GetEnv where
  fault : Option String
  rank  : Time → Nat

/-- `WHERE id = $1 AND tenant_id = $2`. -/
def withID (t : AuditTable) (tenantID id : UUID) : List AuditEvent :=
  t.rows.filter fun e => e.id = id ∧ e.tenantID = tenantID

def getByID (get : GetEnv) (t : AuditTable) (tenantID id : UUID) : Except GGIDError AuditEvent :=
  match get.fault with
  | some err => .error (.wrap .internal "database error" (.driver err))
  | none =>
    match (orderedBy (fun e => get.rank e.createdAt) (withID t tenantID id)).head? with
    | some e => .ok e
    | none => .error (.notFound "audit_event" id.string)

/-- The event is read back, and the hash of what was read is the stored one. -/
def ReadsBack (hmac : Bytes → Bytes → Bytes) (env : InsertEnv) (get : GetEnv) (t : AuditTable)
    (e : AuditEvent) : Prop :=
  ∃ r, getByID get t e.tenantID (stamped env e).id = .ok r ∧
    r.createdAt = (stamped env e).createdAt ∧
    verifyHashWithVersion hmac env.secrets r r.prevHash env.secrets.currentVersion = true

-- ---------------------------------------------------------------------------
-- What survives
-- ---------------------------------------------------------------------------

/-- The columns hold what was hashed. -/
structure Survives (env : InsertEnv) (e : AuditEvent) : Prop where
  /-- Without what is taken for a port, the database prints the address as it was. -/
  address  : storedAddress env e.ipAddress = some e.ipAddress
  actor    : e.actorID ≠ some UUID.nil
  resource : e.resourceID ≠ some UUID.nil

/-- The query is answered, with this event rather than another one of the ID. -/
structure Found (env : InsertEnv) (get : GetEnv) (t : AuditTable) (e : AuditEvent) : Prop where
  answered : get.fault = none
  first    : ∀ e' ∈ withID t e.tenantID (stamped env e).id,
    get.rank (stamped env e).createdAt < get.rank e'.createdAt

section Columns

variable {e : AuditEvent} {address : Bytes}

theorem uuidToString_width (u : Option UUID) : (sprint04x (uuidToString u).length).length = 4 := by
  apply sprint04x_length
  cases u with
  | none => decide
  | some u =>
    rw [uuidToString, UUID.length_ascii_string]
    decide

theorem nullableUUID_eq_self_iff {u : Option UUID} : nullableUUID u = u ↔ u ≠ some UUID.nil := by
  unfold nullableUUID
  split
  · rename_i hnil
    rw [hnil]
    decide
  · rename_i hnil
    exact iff_of_true rfl hnil

/-- The text that was hashed is the text of the columns if they hold what was hashed. -/
theorem canonical_toRow_iff :
    canonicalEventData (toRow e address) = canonicalEventData e ↔
      e.actorID ≠ some UUID.nil ∧ e.resourceID ≠ some UUID.nil ∧ address = e.ipAddress := by
  rw [← nullableUUID_eq_self_iff, ← nullableUUID_eq_self_iff]
  constructor
  · intro htext
    simp only [canonicalEventData, canonicalFields, toRow, frames_cons,
      List.append_cancel_left_eq] at htext
    obtain ⟨hactor, htext⟩ := frame_append_inj sprint04x_injective
      ((uuidToString_width _).trans (uuidToString_width _).symm) htext
    simp only [List.append_cancel_left_eq] at htext
    obtain ⟨hresource, htext⟩ := frame_append_inj sprint04x_injective
      ((uuidToString_width _).trans (uuidToString_width _).symm) htext
    simp only [List.append_cancel_left_eq] at htext
    exact ⟨uuidToString_injective hactor, uuidToString_injective hresource,
      frame_append_cancel sprint04x_length_mono htext⟩
  · rintro ⟨hactor, hresource, haddress⟩
    simp only [canonicalEventData, canonicalFields, toRow, hactor, hresource, haddress]

end Columns

-- ---------------------------------------------------------------------------
-- The event that was stored
-- ---------------------------------------------------------------------------

section Stored

variable {hmac : Bytes → Bytes → Bytes} {env : InsertEnv} {get : GetEnv} {t t' : AuditTable}
  {e row : AuditEvent} {address : Bytes}

theorem linked_id : (linked hmac env t e).id = (stamped env e).id := by
  unfold linked chained
  split <;> rfl

theorem linked_createdAt : (linked hmac env t e).createdAt = (stamped env e).createdAt := by
  unfold linked chained
  split <;> rfl

theorem linked_actorID : (linked hmac env t e).actorID = e.actorID := by
  unfold linked chained
  split <;> rfl

theorem linked_resourceID : (linked hmac env t e).resourceID = e.resourceID := by
  unfold linked chained
  split <;> rfl

/-- The events with the ID, once the event is stored. -/
theorem withID_stored (hinsert : t.insert? (toRow (linked hmac env t e) address) = some t') :
    withID t' e.tenantID (stamped env e).id =
      withID t e.tenantID (stamped env e).id ++ [toRow (linked hmac env t e) address] := by
  have hid : (toRow (linked hmac env t e) address).id = (stamped env e).id := linked_id
  have htenant : (toRow (linked hmac env t e) address).tenantID = e.tenantID := linked_tenantID
  rw [withID, Table.insert?_rows hinsert, List.filter_append, List.filter_singleton, hid, htenant]
  simp [withID]

theorem getByID_ok_iff {tenantID id : UUID} :
    getByID get t tenantID id = .ok row ↔ get.fault = none ∧
      (orderedBy (fun e => get.rank e.createdAt) (withID t tenantID id)).head? = some row := by
  unfold getByID
  cases get.fault with
  | some err => simp
  | none =>
    cases (orderedBy (fun e => get.rank e.createdAt) (withID t tenantID id)).head? with
    | none => simp
    | some e => simp

/-- If the query returns the event, it returns its row. -/
theorem getByID_stored_iff
    (hinsert : t.insert? (toRow (linked hmac env t e) address) = some t') :
    (getByID get t' e.tenantID (stamped env e).id = .ok row ∧
      row.createdAt = (stamped env e).createdAt) ↔
      Found env get t e ∧ row = toRow (linked hmac env t e) address := by
  have hwith := withID_stored hinsert
  have hnodup : (withID t' e.tenantID (stamped env e).id).Nodup :=
    (List.Nodup.of_map _ t'.nodup).filter _
  have htime : (toRow (linked hmac env t e) address).createdAt = (stamped env e).createdAt :=
    linked_createdAt
  have hfirst : (orderedBy (fun e => get.rank e.createdAt)
      (withID t' e.tenantID (stamped env e).id)).head? =
        some (toRow (linked hmac env t e) address) ↔
      ∀ e' ∈ withID t e.tenantID (stamped env e).id,
        get.rank (stamped env e).createdAt < get.rank e'.createdAt := by
    rw [hwith] at hnodup ⊢
    rw [head?_orderedBy_concat hnodup, htime]
  rw [getByID_ok_iff]
  constructor
  · rintro ⟨⟨hanswered, hhead⟩, hcreated⟩
    have hrow : row = toRow (linked hmac env t e) address := by
      have hmem := mem_orderedBy.mp (List.mem_of_head? hhead)
      obtain ⟨hrow, hid⟩ := List.mem_filter.mp hmem
      have hmem' : toRow (linked hmac env t e) address ∈ withID t' e.tenantID (stamped env e).id := by
        rw [hwith]
        exact List.mem_append_right _ (List.mem_singleton_self _)
      refine Table.eq_of_key hrow (List.mem_filter.mp hmem').1 ?_
      rw [primaryKey_linked, primaryKey, primaryKey, hcreated, (of_decide_eq_true hid).1]
    rw [hrow, hfirst] at hhead
    exact ⟨⟨hanswered, hhead⟩, hrow⟩
  · rintro ⟨hfound, rfl⟩
    exact ⟨⟨hfound.answered, hfirst.mpr hfound.first⟩, htime⟩

theorem canonical_linked :
    canonicalEventData (linked hmac env t e) = canonicalEventData (stamped env e) := by
  unfold linked chained
  split
  · simp only [canonicalEventData, canonicalFields]
  · rfl

theorem linked_hash (henabled : env.secrets.isHashChainEnabled = true) :
    (linked hmac env t e).hash =
      hexEncodeToString (hmac (env.secrets.keyOf env.secrets.currentVersion)
        (macInput env.secrets.currentVersion (linked hmac env t e).prevHash
          (canonicalEventData (linked hmac env t e)))) := by
  rw [canonical_linked, linked, if_pos henabled, chained]
  rfl

/-- The hash of the row verifies if its text is the one that was hashed. -/
theorem verify_stored (henabled : env.secrets.isHashChainEnabled = true)
    (hmac_ne : ∀ input, hmac (env.secrets.keyOf env.secrets.currentVersion) input ≠ [])
    (htext : canonicalEventData (toRow (linked hmac env t e) address) =
      canonicalEventData (linked hmac env t e)) :
    verifyHashWithVersion hmac env.secrets (toRow (linked hmac env t e) address)
      (toRow (linked hmac env t e) address).prevHash env.secrets.currentVersion = true := by
  have hhash : (toRow (linked hmac env t e) address).hash = _ := linked_hash henabled
  have hne : (toRow (linked hmac env t e) address).hash ≠ [] := by
    rw [hhash]
    exact fun hempty => hmac_ne _ (hexEncodeToString_injective hempty)
  rw [verifyHashWithVersion, if_neg hne, htext, hhash]
  exact decide_eq_true rfl

/-- And as long as MACs do not collide, only then. -/
theorem text_of_verify (henabled : env.secrets.isHashChainEnabled = true)
    (hmac_inj : Function.Injective (hmac (env.secrets.keyOf env.secrets.currentVersion)))
    (hverify : verifyHashWithVersion hmac env.secrets (toRow (linked hmac env t e) address)
      (toRow (linked hmac env t e) address).prevHash env.secrets.currentVersion = true) :
    canonicalEventData (toRow (linked hmac env t e) address) =
      canonicalEventData (linked hmac env t e) := by
  have hhash : (toRow (linked hmac env t e) address).hash = _ := linked_hash henabled
  unfold verifyHashWithVersion at hverify
  split at hverify
  · exact absurd hverify (by decide)
  · rw [hhash] at hverify
    have hinput := hmac_inj (hexEncodeToString_injective (of_decide_eq_true hverify))
    exact (List.append_cancel_left (List.append_cancel_left hinput)).symm

/-- What is stored survives if the address does, and the IDs. -/
theorem survives_iff (haddress : storedAddress env e.ipAddress = some address) :
    canonicalEventData (toRow (linked hmac env t e) address) =
      canonicalEventData (linked hmac env t e) ↔ Survives env e := by
  rw [canonical_toRow_iff, linked_actorID, linked_resourceID, linked_ipAddress]
  constructor
  · rintro ⟨hactor, hresource, rfl⟩
    exact ⟨haddress, hactor, hresource⟩
  · rintro ⟨hstays, hactor, hresource⟩
    exact ⟨hactor, hresource, Option.some.inj (haddress.symm.trans hstays)⟩

end Stored

/-- **Reading an event back.** An event that was stored is read back with the hash it
should have if it is found and its columns hold what was hashed; and as long as MACs do
not collide, only then. -/
theorem read_back_iff (hmac : Bytes → Bytes → Bytes) (env : InsertEnv) (get : GetEnv)
    (t t' : AuditTable) (e : AuditEvent) (henabled : env.secrets.isHashChainEnabled = true)
    (hinsert : insert hmac env t e = .ok t')
    (hmac_ne : ∀ input, hmac (env.secrets.keyOf env.secrets.currentVersion) input ≠ []) :
    (Found env get t e ∧ Survives env e → ReadsBack hmac env get t' e) ∧
    (Function.Injective (hmac (env.secrets.keyOf env.secrets.currentVersion)) →
      ReadsBack hmac env get t' e → Found env get t e ∧ Survives env e) := by
  obtain ⟨-, address, haddress, hrow⟩ := insert_ok.mp hinsert
  constructor
  · rintro ⟨hfound, hsurvives⟩
    obtain ⟨hread, hcreated⟩ := (getByID_stored_iff hrow).mpr ⟨hfound, rfl⟩
    exact ⟨_, hread, hcreated,
      verify_stored henabled hmac_ne ((survives_iff haddress).mpr hsurvives)⟩
  · rintro hmac_inj ⟨r, hread, hcreated, hverify⟩
    obtain ⟨hfound, rfl⟩ := (getByID_stored_iff hrow).mp ⟨hread, hcreated⟩
    exact ⟨hfound, (survives_iff haddress).mp (text_of_verify henabled hmac_inj hverify)⟩

namespace Sample

/-- A database that takes two addresses. -/
def twoAddresses : InsertEnv where
  newUUID := 99#128
  now     := 5000
  secrets := secrets
  host    := fun ip => if ip = ascii "10.0.0.1" ∨ ip = ascii "10.0.0.2" then some ip else none
  fault   := fun _ => none

def getEnv : GetEnv := ⟨none, fun _ => 0⟩

/-- A login from a port. -/
def fromPort : AuditEvent := { login with ipAddress := ascii "10.0.0.1:8080" }

/-- The table with the event alone. -/
def stored (e : AuditEvent) : AuditTable := insertStep plainMac Table.empty ⟨twoAddresses, e⟩

theorem plainMac_ne (input : Bytes) : plainMac (secrets.keyOf 0) input ≠ [] := by
  have hkey : secrets.keyOf 0 ≠ [] := by decide
  exact fun hempty => hkey (List.append_eq_nil_iff.mp hempty).1

end Sample

open Sample in
theorem read_back_iff_sample :
    insert plainMac twoAddresses Table.empty login = .ok (stored login) ∧
    ReadsBack plainMac twoAddresses getEnv (stored login) login := by
  have hinsert : insert plainMac twoAddresses Table.empty login = .ok (stored login) := rfl
  refine ⟨hinsert, (read_back_iff plainMac twoAddresses getEnv Table.empty (stored login) login
    (by decide) hinsert plainMac_ne).1 ⟨⟨rfl, fun e' he => absurd he List.not_mem_nil⟩, ?_⟩⟩
  exact ⟨by decide, by decide, by decide⟩

open Sample in
/-- An event with a port is stored without, and the hash is not recomputed. -/
theorem port_is_hashed :
    insert plainMac twoAddresses Table.empty fromPort = .ok (stored fromPort) ∧
    ∃ r, getByID getEnv (stored fromPort) fromPort.tenantID fromPort.id = .ok r ∧
      r.hash ≠ computeHash plainMac secrets r r.prevHash ∧
      verifyHashWithVersion plainMac secrets r r.prevHash 0 = false := by
  refine ⟨rfl, toRow (linked plainMac twoAddresses Table.empty fromPort) (ascii "10.0.0.1"), rfl, ?_⟩
  constructor <;> decide +kernel

end Ggid.Audit
