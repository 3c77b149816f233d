import Ggid.Audit.HashChain
import Ggid.Lib.Listing
import Ggid.Lib.Table
import Mathlib.Data.Prod.Lex

/-!
# Audit service — the event table

`AuditRepository.Insert`, which continues the hash chain of a tenant and stores the
event, and `loadChainEvents`, which lists the events of a tenant for verification.

A call of `Insert` runs by itself here: transactions do not overlap. Metadata is not
covered by the hash and left out; it can only fail to marshal.
-/

namespace Ggid.Audit

open Ggid.Go Ggid.Lib

-- ---------------------------------------------------------------------------
-- `audit_events`
-- ---------------------------------------------------------------------------

/-- `PRIMARY KEY (id, created_at)`. -/
def primaryKey (e : AuditEvent) : UUID × Time := (e.id, e.createdAt)

abbrev AuditTable := Table primaryKey

/-- `created_at, id`. A `UUID` is compared byte by byte. -/
def orderKey (e : AuditEvent) : Int ×ₗ Nat := toLex (e.createdAt, e.id.toNat)

/-- `WHERE tenant_id = $1`. -/
def ofTenant (t : AuditTable) (tenantID : UUID) : List AuditEvent :=
  t.rows.filter fun e => e.tenantID = tenantID

/-- `ORDER BY created_at ASC, id ASC LIMIT $2`. -/
def loadChainEvents (t : AuditTable) (tenantID : UUID) (limit : Nat) : List AuditEvent :=
  (orderedBy orderKey (ofTenant t tenantID)).take limit

/-- `ORDER BY created_at DESC, id DESC LIMIT 1`, and `""` for no row. -/
def latestHash (t : AuditTable) (tenantID : UUID) : Bytes :=
  let latest := (orderedBy (OrderDual.toDual ∘ orderKey) (ofTenant t tenantID)).head?
  (latest.map AuditEvent.hash).getD []

-- ---------------------------------------------------------------------------
-- `Insert`
-- ---------------------------------------------------------------------------

/-- What can fail in `Insert`, apart from the row itself. -/
inductive InsertStep where
  | marshalMetadata
  | beginTx
  | queryPrevHash
  | exec
  | commit
  deriving DecidableEq

/-- The error of a step, as `Insert` returns it. -/
def InsertStep.wrap : InsertStep → String → String
  | .marshalMetadata, err => "marshal audit metadata: " ++ err
  | .beginTx, err         => "begin tx: " ++ err
  | .queryPrevHash, err   => "query prev hash: " ++ err
  | .exec, err            => "insert audit event: " ++ err
  | .commit, err          => err

/-- What a call of `Insert` meets with. `host` is `host(ip::inet)`, for an address that
the database accepts. -/
structure InsertEnv where
  newUUID : UUID
  now     : Time
  secrets : HashChainSecrets
  host    : Bytes → Option Bytes
  fault   : InsertStep → Option String

def InsertEnv.pass (env : InsertEnv) (step : InsertStep) : Except String Unit :=
  match env.fault step with
  | some err => .error (step.wrap err)
  | none => .ok ()

/-- `Time.Truncate(time.Microsecond)`. -/
def truncateMicrosecond (t : Time) : Time := t - Int.emod t 1000

/-- The ID and the time the event is hashed and stored with. -/
def stamped (env : InsertEnv) (e : AuditEvent) : AuditEvent :=
  let id := if e.id = UUID.nil then env.newUUID else e.id
  let createdAt := if e.createdAt = Time.zero then env.now else e.createdAt
  { e with id := id, createdAt := truncateMicrosecond createdAt }

/-- The event behind the latest one of its tenant. -/
def chained (hmac : Bytes → Bytes → Bytes) (env : InsertEnv) (t : AuditTable) (e : AuditEvent) :
    AuditEvent :=
  let ph := latestHash t e.tenantID
  { e with prevHash := ph, hash := computeHash hmac env.secrets e ph }

/-- The hash of the event, if the chain is enabled; else the event keeps the one it has. -/
def continueChain (hmac : Bytes → Bytes → Bytes) (env : InsertEnv) (t : AuditTable)
    (e : AuditEvent) : Except String AuditEvent :=
  if env.secrets.isHashChainEnabled then do
    env.pass .queryPrevHash
    return chained hmac env t e
  else return e

/-- Without the port. -/
def stripPort (ip : Bytes) : Bytes :=
  match lastIndexByte ip colon with
  | some idx => if 0 < idx && !(ip.drop (idx + 1)).contains colon then ip.take idx else ip
  | none => ip

/-- The address column; no address is `NULL`, which reads as `''`. -/
def storedAddress (env : InsertEnv) (ip : Bytes) : Option Bytes :=
  if ip = [] then some [] else env.host (stripPort ip)

def nullableUUID (u : Option UUID) : Option UUID := if u = some UUID.nil then none else u

/-- The columns of an event, with the address the database stores. -/
def toRow (e : AuditEvent) (address : Bytes) : AuditEvent :=
  { e with
    actorID    := nullableUUID e.actorID
    resourceID := nullableUUID e.resourceID
    ipAddress  := address }

/-- `INSERT INTO audit_events`. -/
def execInsert (env : InsertEnv) (t : AuditTable) (e : AuditEvent) : Except String AuditTable :=
  match storedAddress env e.ipAddress with
  | none => .error (InsertStep.exec.wrap "invalid input syntax for type inet")
  | some address =>
    match t.insert? (toRow e address) with
    | none => .error (InsertStep.exec.wrap "duplicate key value violates unique constraint")
    | some t' => .ok t'

def insert (hmac : Bytes → Bytes → Bytes) (env : InsertEnv) (t : AuditTable) (e : AuditEvent) :
    Except String AuditTable := do
  env.pass .marshalMetadata
  env.pass .beginTx
  let e ← continueChain hmac env t (stamped env e)
  env.pass .exec
  let t' ← execInsert env t e
  env.pass .commit
  return t'

-- ---------------------------------------------------------------------------
-- What `Insert` does
-- ---------------------------------------------------------------------------

/-- No step that the call takes fails. -/
def Undisturbed (env : InsertEnv) : Prop :=
  ∀ step, env.fault step = none ∨
    step = .queryPrevHash ∧ env.secrets.isHashChainEnabled = false

/-- The call goes through: no step fails, the database accepts the address, and the key
is free. -/
def Accepted (env : InsertEnv) (t : AuditTable) (e : AuditEvent) : Prop :=
  Undisturbed env ∧ (storedAddress env e.ipAddress).isSome = true ∧
    ∀ e' ∈ t, primaryKey e' ≠ primaryKey (stamped env e)

/-- The event as it is stored, but for the address. -/
def linked (hmac : Bytes → Bytes → Bytes) (env : InsertEnv) (t : AuditTable) (e : AuditEvent) :
    AuditEvent :=
  if env.secrets.isHashChainEnabled then chained hmac env t (stamped env e) else stamped env e

section Insert

variable {hmac : Bytes → Bytes → Bytes} {env : InsertEnv} {t t' : AuditTable} {e e' : AuditEvent}

theorem pass_ok {step : InsertStep} {u : Unit} : env.pass step = .ok u ↔ env.fault step = none := by
  unfold InsertEnv.pass
  cases env.fault step <;> simp

theorem continueChain_ok :
    continueChain hmac env t (stamped env e) = .ok e' ↔
      (env.fault .queryPrevHash = none ∨ env.secrets.isHashChainEnabled = false) ∧
        linked hmac env t e = e' := by
  unfold continueChain linked
  by_cases henabled : env.secrets.isHashChainEnabled = true
  · simp [henabled, bind_ok, pass_ok, pure, Except.pure]
  · simp [henabled, pure, Except.pure]

theorem execInsert_ok :
    execInsert env t e = .ok t' ↔
      ∃ address, storedAddress env e.ipAddress = some address ∧
        t.insert? (toRow e address) = some t' := by
  unfold execInsert
  cases storedAddress env e.ipAddress with
  | none => simp
  | some address => cases hinsert : t.insert? (toRow e address) <;> simp [hinsert]

theorem linked_ipAddress : (linked hmac env t e).ipAddress = e.ipAddress := by
  unfold linked chained stamped
  split <;> rfl

theorem linked_tenantID : (linked hmac env t e).tenantID = e.tenantID := by
  unfold linked chained stamped
  split <;> rfl

theorem primaryKey_linked {address : Bytes} :
    primaryKey (toRow (linked hmac env t e) address) = primaryKey (stamped env e) := by
  unfold linked chained
  split <;> rfl

theorem linked_orderKey : orderKey (linked hmac env t e) = orderKey (stamped env e) := by
  unfold linked chained
  split <;> rfl

/-- `Insert` stores the event, linked, and nothing else. -/
theorem insert_ok :
    insert hmac env t e = .ok t' ↔
      Undisturbed env ∧ ∃ address, storedAddress env e.ipAddress = some address ∧
        t.insert? (toRow (linked hmac env t e) address) = some t' := by
  unfold insert
  simp only [bind_ok, pass_ok, continueChain_ok, execInsert_ok]
  constructor
  · rintro ⟨-, hmarshal, -, hbegin, _, ⟨hquery, rfl⟩, -, hexec, stored,
      ⟨address, haddress, hinsert⟩, -, hcommit, hreturn⟩
    obtain rfl := Except.ok.inj hreturn
    rw [linked_ipAddress] at haddress
    refine ⟨fun step => ?_, address, haddress, hinsert⟩
    cases step with
    | marshalMetadata => exact .inl hmarshal
    | beginTx => exact .inl hbegin
    | queryPrevHash => exact hquery.imp_right fun hdisabled => ⟨rfl, hdisabled⟩
    | exec => exact .inl hexec
    | commit => exact .inl hcommit
  · rintro ⟨hundisturbed, address, haddress, hinsert⟩
    have hpass : ∀ step, step ≠ .queryPrevHash → env.fault step = none :=
      fun step hstep => (hundisturbed step).resolve_right fun h => hstep h.1
    refine ⟨(), hpass _ (by decide), (), hpass _ (by decide), _,
      ⟨(hundisturbed .queryPrevHash).imp_right And.right, rfl⟩, (), hpass _ (by decide), t',
      ⟨address, ?_, hinsert⟩, (), hpass _ (by decide), rfl⟩
    rw [linked_ipAddress]
    exact haddress

/-- The row of an event that is stored: the key and the hashes are those of the linked
event. -/
structure StoredRow (hmac : Bytes → Bytes → Bytes) (env : InsertEnv) (t : AuditTable)
    (e row : AuditEvent) : Prop where
  orderKey : orderKey row = orderKey (stamped env e)
  tenantID : row.tenantID = e.tenantID
  prevHash : row.prevHash = (linked hmac env t e).prevHash
  hash     : row.hash = (linked hmac env t e).hash

structure InsertCall where
  env   : InsertEnv
  event : AuditEvent

def insertStep (hmac : Bytes → Bytes → Bytes) (t : AuditTable) (c : InsertCall) : AuditTable :=
  match insert hmac c.env t c.event with
  | .ok t' => t'
  | .error _ => t

/-- A call that goes through adds its row. -/
theorem insertStep_accepted (hmac : Bytes → Bytes → Bytes) {c : InsertCall}
    (h : Accepted c.env t c.event) :
    ∃ row, StoredRow hmac c.env t c.event row ∧ (insertStep hmac t c).rows = t.rows ++ [row] := by
  obtain ⟨hundisturbed, haddress, hfree⟩ := h
  obtain ⟨address, haddress⟩ := Option.isSome_iff_exists.mp haddress
  have hfresh : ∀ e ∈ t, primaryKey e ≠ primaryKey (toRow (linked hmac c.env t c.event) address) :=
    fun e he heq => hfree e he (heq.trans primaryKey_linked)
  obtain ⟨t', hinsert⟩ := Table.insert?_of_fresh hfresh
  have hok : insert hmac c.env t c.event = .ok t' :=
    insert_ok.mpr ⟨hundisturbed, address, haddress, hinsert⟩
  refine ⟨toRow (linked hmac c.env t c.event) address,
    ⟨linked_orderKey, linked_tenantID, rfl, rfl⟩, ?_⟩
  rw [insertStep, hok]
  exact Table.insert?_rows hinsert

/-- A call that does not go through changes nothing. -/
theorem insertStep_refused {c : InsertCall} (h : ¬ Accepted c.env t c.event) :
    insertStep hmac t c = t := by
  unfold insertStep
  split
  · rename_i t' hok
    obtain ⟨hundisturbed, address, haddress, hinsert⟩ := insert_ok.mp hok
    refine absurd ⟨hundisturbed, by rw [haddress]; rfl, fun e he heq => ?_⟩ h
    exact (Table.insert?_eq_some hinsert).1 e he (heq.trans primaryKey_linked.symm)
  · rfl

end Insert

-- ---------------------------------------------------------------------------
-- The events of a tenant
-- ---------------------------------------------------------------------------

section Listed

variable {hmac : Bytes → Bytes → Bytes} {t : AuditTable} {tenantID : UUID} {c : InsertCall}

theorem orderKey_injOn (t : AuditTable) : Set.InjOn orderKey {e | e ∈ t} := by
  intro a ha b hb heq
  have hpair : (a.createdAt, a.id.toNat) = (b.createdAt, b.id.toNat) := toLex.injective heq
  obtain ⟨htime, hid⟩ := Prod.mk.inj hpair
  exact Table.eq_of_key ha hb (Prod.ext (BitVec.eq_of_toNat_eq hid) htime)

theorem ofTenant_injOn (t : AuditTable) (tenantID : UUID) :
    Set.InjOn orderKey {e | e ∈ ofTenant t tenantID} :=
  (orderKey_injOn t).mono fun _ he => (List.mem_filter.mp he).1

/-- `Insert` continues the last event of the listing. -/
theorem latestHash_eq (t : AuditTable) (tenantID : UUID) :
    latestHash t tenantID =
      ((orderedBy orderKey (ofTenant t tenantID)).getLast?.map AuditEvent.hash).getD [] := by
  rw [latestHash, orderedBy_toDual (ofTenant_injOn t tenantID), List.head?_reverse]

/-- The call stores an event of the tenant. -/
def Stores (tenantID : UUID) (t : AuditTable) (c : InsertCall) : Prop :=
  c.event.tenantID = tenantID ∧ Accepted c.env t c.event

theorem ofTenant_stores (hmac : Bytes → Bytes → Bytes) (h : Stores tenantID t c) :
    ∃ row, StoredRow hmac c.env t c.event row ∧
      ofTenant (insertStep hmac t c) tenantID = ofTenant t tenantID ++ [row] := by
  obtain ⟨row, hstored, hrows⟩ := insertStep_accepted hmac h.2
  refine ⟨row, hstored, ?_⟩
  rw [ofTenant, hrows, List.filter_append, List.filter_singleton, hstored.tenantID, h.1]
  simp [ofTenant]

theorem ofTenant_of_not_stores (h : ¬ Stores tenantID t c) :
    ofTenant (insertStep hmac t c) tenantID = ofTenant t tenantID := by
  by_cases haccepted : Accepted c.env t c.event
  · have htenant : c.event.tenantID ≠ tenantID := fun heq => h ⟨heq, haccepted⟩
    obtain ⟨row, hstored, hrows⟩ := insertStep_accepted hmac haccepted
    rw [ofTenant, hrows, List.filter_append, List.filter_singleton, hstored.tenantID]
    simp [ofTenant, htenant]
  · rw [insertStep_refused haccepted]

end Listed

end Ggid.Audit
