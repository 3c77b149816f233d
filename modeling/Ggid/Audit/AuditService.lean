import Ggid.Audit.Columns
import Ggid.Policy.Domain
import Mathlib.Data.List.Lex

/-!
# Audit service — `VerifyIntegrity`

`VerifyIntegrity` asks `ListEvents` for the events of a tenant, in pages of 100000, and
checks the chain of those it gets. `ListEvents` makes 50 of a page size above 500, and the
query behind it selects neither `prev_hash` nor `hash`: every event it returns is without
a hash, and the first one fails the check.

* `verifyIntegrity_ok_iff`      — no error is returned exactly if there are no events;
* `verifyIntegrity_exact_iff`   — which is right if there are none, or the chain is broken.

A page that the database begins to send arrives whole.
-/

namespace Ggid.Audit

open Ggid.Go Ggid.Lib
open Ggid.Policy (GGIDError)

-- ---------------------------------------------------------------------------
-- `List`
-- ---------------------------------------------------------------------------

abbrev AuditRows := Table fun r : AuditRow => (r.id, r.createdAt)

structure ListFilter where
  tenantID     : UUID
  actorID      : Option UUID
  action       : Bytes
  resourceType : Bytes
  result       : Bytes
  startTime    : Option Time
  endTime      : Option Time
  orderBy      : String
  descending   : Bool

inductive ListStep where
  | count
  | query
  | scan
  deriving DecidableEq

/-- What a listing meets with. Texts are ordered by a sort key, `collate`; rows that an
order leaves open come by `rank`. -/
structure ListEnv where
  fault   : ListStep → Option String
  collate : Bytes → List Nat
  rank    : AuditRow → Nat

/-- The `WHERE` clause. A pattern without wildcards between two `%` is a substring. -/
def ListFilter.selects (f : ListFilter) (r : AuditRow) : Bool :=
  r.tenantID = f.tenantID &&
  (f.actorID.isNone || r.actorID = f.actorID) &&
  (f.action = [] || f.action <:+: r.action) &&
  (f.resourceType = [] || r.resourceType = some f.resourceType) &&
  (f.result = [] || r.result = f.result) &&
  f.startTime.all (fun t => t ≤ r.createdAt) &&
  f.endTime.all (fun t => r.createdAt < t)

/-- `ORDER BY key ASC`, or `DESC`. -/
def directed {κ : Type} [LinearOrder κ] (descending : Bool) (key : AuditRow → κ)
    (rank : AuditRow → Nat) (rows : List AuditRow) : List AuditRow :=
  if descending then orderedBy (fun r => toLex (OrderDual.toDual (key r), rank r)) rows
  else orderedBy (fun r => toLex (key r, rank r)) rows

/-- The `ORDER BY` clause. `NULL` comes behind every name. -/
def ListFilter.order (f : ListFilter) (env : ListEnv) (rows : List AuditRow) : List AuditRow :=
  if f.orderBy = "action" then directed f.descending (fun r => env.collate r.action) env.rank rows
  else if f.orderBy = "actor_name" then
    directed f.descending (fun r => toLex (r.actorName.isNone, env.collate (ptrStr r.actorName)))
      env.rank rows
  else directed f.descending AuditRow.createdAt env.rank rows

/-- The columns that are selected. The hashes are not. -/
def listedEvent (r : AuditRow) : DetailedEvent :=
  { scanEvent r with
    hash         := []
    prevHash     := []
    actorName    := ptrStr r.actorName
    resourceName := ptrStr r.resourceName
    userAgent    := ptrStr r.userAgent
    requestID    := ptrStr r.requestID
    metadata     := ptrStr r.metadata }

def ListEnv.pass (env : ListEnv) (step : ListStep) (wrap : String → GGIDError) :
    Except GGIDError Unit :=
  match env.fault step with
  | some err => .error (wrap err)
  | none => .ok ()

/-- `LIMIT limit OFFSET offset`. -/
def ListFilter.page (f : ListFilter) (env : ListEnv) (rows : List AuditRow) (limit offset : Nat) :
    List AuditRow :=
  ((f.order env rows).drop offset).take limit

def list (env : ListEnv) (t : AuditRows) (filter : ListFilter) (limit offset : Nat) :
    Except GGIDError (List DetailedEvent × Nat) := do
  let selected := t.rows.filter filter.selects
  env.pass .count fun err => .driver ("count audit events: " ++ err)
  env.pass .query fun err => .driver ("list audit events: " ++ err)
  let page := filter.page env selected limit offset
  if page ≠ [] then env.pass .scan .driver
  return (page.map listedEvent, selected.length)

-- ---------------------------------------------------------------------------
-- `ListEvents` and `VerifyIntegrity`
-- ---------------------------------------------------------------------------

def clampPageSize (pageSize : Int) : Int := if pageSize ≤ 0 ∨ 500 < pageSize then 50 else pageSize

def listEvents (env : ListEnv) (t : AuditRows) (filter : ListFilter) (page pageSize : Int) :
    Except GGIDError (List DetailedEvent × Nat) :=
  let pageSize := clampPageSize pageSize
  let offset := (page - 1) * pageSize
  if filter.tenantID = UUID.nil then .error (.new .invalidArgument "tenant_id is required")
  else (list env t filter pageSize.toNat offset.toNat).mapError
    fun err => .wrap .internal "list audit events" err

/-- The filter for the events of a tenant, in the order of the chain. -/
def chainFilter (tenantID : UUID) : ListFilter :=
  ⟨tenantID, none, [], [], [], none, none, "created_at", false⟩

def brokenAt (i : Nat) (id : UUID) (reason : String) : GGIDError :=
  .driver ("hash chain broken at event " ++ toString i ++ " (id=" ++ id.string ++ "): " ++ reason)

section Integrity

variable (hmac : Bytes → Bytes → Bytes) (s : HashChainSecrets)

/-- The loop of `VerifyIntegrity`. -/
def checkChain (i : Nat) (prevHash : Bytes) : List AuditEvent → Except GGIDError Unit
  | [] => .ok ()
  | e :: es =>
    if e.prevHash ≠ prevHash then .error (brokenAt i e.id "prev_hash mismatch")
    else if !verifyHash hmac s e prevHash then .error (brokenAt i e.id "hash mismatch (tampered)")
    else checkChain (i + 1) e.hash es

def verifyIntegrity (env : ListEnv) (t : AuditRows) (tenantID : UUID) : Except GGIDError Unit := do
  if tenantID = UUID.nil then throw (.new .invalidArgument "tenant_id is required")
  let (events, _) ← listEvents env t (chainFilter tenantID) 1 100000
  checkChain hmac s 0 [] (events.map DetailedEvent.toAuditEvent)

end Integrity

-- ---------------------------------------------------------------------------
-- The chain of a tenant
-- ---------------------------------------------------------------------------

/-- All events of the tenant with their hashes, in the order of the chain. -/
def chainOf (t : AuditRows) (tenantID : UUID) : List AuditEvent :=
  orderedBy orderKey ((t.rows.filter fun r => r.tenantID = tenantID).map scanEvent)

/-- Every event refers to the one before it, and has the hash it should. -/
def ChainVerifies (hmac : Bytes → Bytes → Bytes) (s : HashChainSecrets) (t : AuditRows)
    (tenantID : UUID) : Prop :=
  Follows AuditEvent.prevHash AuditEvent.hash [] (chainOf t tenantID) ∧
    verifyChain hmac s (chainOf t tenantID) = none

section Exact

variable {hmac : Bytes → Bytes → Bytes} {s : HashChainSecrets} {env : ListEnv} {t : AuditRows}
  {tenantID : UUID}

/-- The loop asks of the events what `ChainVerifies` asks of all. -/
theorem checkChain_ok_iff {i : Nat} {prevHash : Bytes} {es : List AuditEvent} :
    checkChain hmac s i prevHash es = .ok () ↔
      Follows AuditEvent.prevHash AuditEvent.hash prevHash es ∧
        verifyFrom hmac s prevHash es = none := by
  induction es generalizing i prevHash with
  | nil => simp [checkChain, Follows, verifyFrom]
  | cons e es ih =>
    rw [checkChain, Follows, verifyFrom]
    by_cases hprev : e.prevHash = prevHash
    · rw [if_neg (not_not.mpr hprev), and_assoc, and_iff_right hprev]
      cases hverify : verifyHash hmac s e prevHash with
      | true => simp [ih]
      | false => simp
    · simp [hprev]

theorem selects_chainFilter (tenantID : UUID) (r : AuditRow) :
    (chainFilter tenantID).selects r = decide (r.tenantID = tenantID) := by
  simp only [ListFilter.selects, chainFilter, Option.isNone_none, Bool.true_or, Option.all_none,
    decide_true, Bool.and_true]
  rfl

theorem length_directed {κ : Type} [LinearOrder κ] {descending : Bool} {key : AuditRow → κ}
    {rank : AuditRow → Nat} {rows : List AuditRow} :
    (directed descending key rank rows).length = rows.length := by
  unfold directed
  split
  · exact (orderedBy_perm _ rows).length_eq
  · exact (orderedBy_perm _ rows).length_eq

theorem length_order {f : ListFilter} {rows : List AuditRow} :
    (f.order env rows).length = rows.length := by
  unfold ListFilter.order
  split
  · exact length_directed
  split
  · exact length_directed
  · exact length_directed

theorem list_pass_ok {step : ListStep} {wrap : String → GGIDError} {u : Unit} :
    env.pass step wrap = .ok u ↔ env.fault step = none := by
  unfold ListEnv.pass
  cases env.fault step <;> simp

/-- `List` returns the page of the rows that are selected. -/
theorem list_ok {f : ListFilter} {limit offset : Nat} {listed : List DetailedEvent × Nat} :
    list env t f limit offset = .ok listed ↔
      env.fault .count = none ∧ env.fault .query = none ∧
        (f.page env (t.rows.filter f.selects) limit offset ≠ [] → env.fault .scan = none) ∧
          ((f.page env (t.rows.filter f.selects) limit offset).map listedEvent,
            (t.rows.filter f.selects).length) = listed := by
  unfold list
  simp only [bind_ok, list_pass_ok, exists_const]
  by_cases hpage : f.page env (t.rows.filter f.selects) limit offset = []
  · simp [hpage, pure, Except.pure]
  · simp [hpage, bind_ok, list_pass_ok, pure, Except.pure]

/-- A page holds something if there is something to list. -/
theorem page_eq_nil_iff (env : ListEnv) (f : ListFilter) {rows : List AuditRow} {limit : Nat}
    (hlimit : limit ≠ 0) :
    f.page env rows limit 0 = [] ↔ rows = [] := by
  rw [ListFilter.page, List.drop_zero, List.take_eq_nil_iff, or_iff_right hlimit,
    ← List.length_eq_zero_iff, length_order, List.length_eq_zero_iff]

theorem chainOf_eq_nil_iff :
    chainOf t tenantID = [] ↔ t.rows.filter (chainFilter tenantID).selects = [] := by
  have hselects : (fun r : AuditRow => decide (r.tenantID = tenantID)) =
      (chainFilter tenantID).selects :=
    funext fun r => (selects_chainFilter tenantID r).symm
  rw [chainOf, hselects, ← List.length_eq_zero_iff, (orderedBy_perm _ _).length_eq,
    List.length_map, List.length_eq_zero_iff]

/-- An event that was listed has no hash, so that the first one fails. -/
theorem checkChain_listed {i : Nat} {rows : List AuditRow} :
    checkChain hmac s i [] ((rows.map listedEvent).map DetailedEvent.toAuditEvent) = .ok () ↔
      rows = [] := by
  cases rows with
  | nil => simp [checkChain]
  | cons r rows => simp [checkChain, listedEvent, verifyHash, verifyHashWithVersion]

theorem mapError_ok {α ε ε' : Type} {x : Except ε α} {f : ε → ε'} {a : α} :
    x.mapError f = .ok a ↔ x = .ok a := by
  cases x <;> simp [Except.mapError]

theorem listEvents_ok {f : ListFilter} {page pageSize : Int} {listed : List DetailedEvent × Nat} :
    listEvents env t f page pageSize = .ok listed ↔
      f.tenantID ≠ UUID.nil ∧
        list env t f (clampPageSize pageSize).toNat ((page - 1) * clampPageSize pageSize).toNat =
          .ok listed := by
  unfold listEvents
  by_cases htenant : f.tenantID = UUID.nil
  · simp [htenant]
  · simp [htenant, mapError_ok]

theorem verifyIntegrity_ok :
    verifyIntegrity hmac s env t tenantID = .ok () ↔
      ∃ listed, listEvents env t (chainFilter tenantID) 1 100000 = .ok listed ∧
        checkChain hmac s 0 [] (listed.1.map DetailedEvent.toAuditEvent) = .ok () := by
  unfold verifyIntegrity
  by_cases htenant : tenantID = UUID.nil
  · rw [if_pos htenant]
    refine iff_of_false (fun h => by cases h) ?_
    rintro ⟨listed, hlisted, -⟩
    exact (listEvents_ok.mp hlisted).1 htenant
  · rw [if_neg htenant]
    exact bind_ok

end Exact

/-- The tenant is named, and the database answers. -/
structure Answers (env : ListEnv) (tenantID : UUID) : Prop where
  tenant : tenantID ≠ UUID.nil
  count  : env.fault .count = none
  query  : env.fault .query = none

/-- No error is returned exactly if the tenant has no events. -/
theorem verifyIntegrity_ok_iff (hmac : Bytes → Bytes → Bytes) (s : HashChainSecrets)
    (env : ListEnv) (t : AuditRows) (tenantID : UUID) :
    verifyIntegrity hmac s env t tenantID = .ok () ↔
      Answers env tenantID ∧ chainOf t tenantID = [] := by
  have hlimit : (clampPageSize 100000).toNat ≠ 0 := by decide
  have hoffset : ((1 - 1) * clampPageSize 100000).toNat = 0 := by decide
  rw [verifyIntegrity_ok, chainOf_eq_nil_iff]
  simp only [listEvents_ok, list_ok, hoffset]
  constructor
  · rintro ⟨listed, ⟨htenant, hcount, hquery, -, rfl⟩, hcheck⟩
    have hpage := checkChain_listed.mp hcheck
    exact ⟨⟨htenant, hcount, hquery⟩,
      (page_eq_nil_iff env (chainFilter tenantID) hlimit).mp hpage⟩
  · rintro ⟨⟨htenant, hcount, hquery⟩, hnone⟩
    have hpage := (page_eq_nil_iff env (chainFilter tenantID) hlimit).mpr hnone
    exact ⟨_, ⟨htenant, hcount, hquery, fun hsome => absurd hpage hsome, rfl⟩,
      checkChain_listed.mpr hpage⟩

/-- **What the check of a tenant tells.** That no error is returned exactly if the whole
chain verifies, holds if there are no events, or if the chain does not verify. -/
theorem verifyIntegrity_exact_iff (hmac : Bytes → Bytes → Bytes) (s : HashChainSecrets)
    (env : ListEnv) (t : AuditRows) (tenantID : UUID) :
    (verifyIntegrity hmac s env t tenantID = .ok () ↔ ChainVerifies hmac s t tenantID) ↔
      (chainOf t tenantID = [] ∧ Answers env tenantID) ∨ ¬ ChainVerifies hmac s t tenantID := by
  rw [verifyIntegrity_ok_iff]
  by_cases hnone : chainOf t tenantID = []
  · have hverifies : ChainVerifies hmac s t tenantID := by
      rw [ChainVerifies, hnone]
      exact ⟨trivial, rfl⟩
    simp [hnone, hverifies]
  · simp [hnone]

namespace Sample

/-- A tenant with one event, as it was stored. -/
def oneEvent : AuditRows :=
  ⟨[columns
    { hashed hmac login [] with
      actorName    := ascii "alice"
      resourceName := []
      userAgent    := []
      requestID    := []
      metadata     := ascii "{}" }
    (some ⟨ascii "10.0.0.1", 32⟩)], by decide⟩

def listEnv : ListEnv := ⟨fun _ => none, fun s => s.map UInt8.toNat, fun _ => 0⟩

end Sample

open Sample in
/-- The only event of a tenant has the hash it should, and is reported as tampered. -/
theorem valid_event_reported :
    ChainVerifies hmac secrets oneEvent 1#128 ∧
    verifyIntegrity hmac secrets listEnv oneEvent 1#128 =
      .error (brokenAt 0 10#128 "hash mismatch (tampered)") := by
  refine ⟨⟨?_, ?_⟩, ?_⟩ <;> decide +kernel

end Ggid.Audit
