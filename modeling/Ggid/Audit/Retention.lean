import Ggid.Audit.Repository
import Ggid.Audit.ChainIntegrity

/-!
# Audit service — retention

`CleanupOldEvents` deletes the events that are older than the retention period, of one
tenant or of all, except for the newest of them: the boundary event, which the chain goes
on from.

There is one boundary event for a run, whatever the number of tenants, and it is the
newest by `created_at` alone, while the chain is ordered by `created_at` and `id`.

* `chain_kept_iff`          — the chain of a tenant survives a run exactly if the run has
  no part in the tenant, or what it leaves of the old events are the newest ones, in a row;
* `anchor_lost`             — a run for all tenants keeps the anchor of one of them only;
  and of two events of one time, the one it keeps can be the first.
-/

namespace Ggid.Audit

open Ggid.Go Ggid.Lib

-- ---------------------------------------------------------------------------
-- `CleanupOldEvents`
-- ---------------------------------------------------------------------------

inductive RetentionStep where
  | boundary
  | beginTx
  | allowMutation
  | exec
  | commit
  deriving DecidableEq

/-- The error of a step, as the repository returns it. -/
def RetentionStep.wrap : RetentionStep → String → String
  | .boundary, err      => err
  | .beginTx, err       => "begin retention tx: " ++ err
  | .allowMutation, err => "allow audit mutation: " ++ err
  | .exec, err          => "delete old audit events: " ++ err
  | .commit, err        => "commit retention tx: " ++ err

/-- What a run meets with. Events of one time come by `rank`. -/
structure RetentionEnv where
  now   : Time
  rank  : AuditEvent → Nat
  fault : RetentionStep → Option String

def RetentionEnv.pass (env : RetentionEnv) (step : RetentionStep) : Except String Unit :=
  match env.fault step with
  | some err => .error (step.wrap err)
  | none => .ok ()

def day : Int := 24 * 3600 * 1000000000

/-- The time before which events are old, as the database is told. A `Duration` wraps
around. -/
def cutoff (now : Time) (retentionDays : Int) : Time :=
  let retentionDays := if retentionDays ≤ 0 then 90 else retentionDays
  truncateMicrosecond (now + Int.bmod (-retentionDays * day) (2 ^ 64))

/-- A run for the nil tenant is for all. -/
def InScope (tenantID : UUID) (e : AuditEvent) : Prop :=
  tenantID = UUID.nil ∨ e.tenantID = tenantID

instance (tenantID : UUID) (e : AuditEvent) : Decidable (InScope tenantID e) :=
  inferInstanceAs (Decidable (_ ∨ _))

/-- `ORDER BY created_at DESC LIMIT 1`. -/
def getBoundaryEventID (env : RetentionEnv) (t : AuditTable) (tenantID : UUID) (before : Time) :
    Except String UUID := do
  env.pass .boundary
  let old := t.rows.filter fun e => e.createdAt < before ∧ InScope tenantID e
  match (orderedBy (fun e => toLex (OrderDual.toDual e.createdAt, env.rank e)) old).head? with
  | some e => return e.id
  | none => throw "no rows in result set"

def deleteOlderThanExcept (env : RetentionEnv) (t : AuditTable) (tenantID : UUID) (before : Time)
    (exceptID : UUID) : Except String (Nat × AuditTable) := do
  env.pass .beginTx
  env.pass .allowMutation
  env.pass .exec
  let t' := t.delete fun e => e.createdAt < before ∧ e.id ≠ exceptID ∧ InScope tenantID e
  env.pass .commit
  return (t.rows.length - t'.rows.length, t')

/-- The number of events deleted, and the table. -/
def cleanupOldEvents (env : RetentionEnv) (t : AuditTable) (tenantID : UUID) (retentionDays : Int) :
    Except String (Nat × AuditTable) :=
  let before := cutoff env.now retentionDays
  match getBoundaryEventID env t tenantID before with
  | .error _ => .ok (0, t)
  | .ok boundaryID =>
    if boundaryID = UUID.nil then .ok (0, t)
    else deleteOlderThanExcept env t tenantID before boundaryID

/-- The table after a run. -/
def cleanup (env : RetentionEnv) (t : AuditTable) (tenantID : UUID) (retentionDays : Int) :
    AuditTable :=
  match cleanupOldEvents env t tenantID retentionDays with
  | .ok (_, t') => t'
  | .error _ => t

-- ---------------------------------------------------------------------------
-- What a chain survives
-- ---------------------------------------------------------------------------

/-- The events of a tenant, in the order of the chain. -/
def chainEvents (t : AuditTable) (tenantID : UUID) : List AuditEvent :=
  orderedBy orderKey (ofTenant t tenantID)

/-- The events continue some hash: each refers to the one before it, and has the hash it
should. -/
def ChainSegment (hmac : Bytes → Bytes → Bytes) (s : HashChainSecrets) (es : List AuditEvent) :
    Prop :=
  ∃ prevHash, Follows AuditEvent.prevHash AuditEvent.hash prevHash es ∧
    verifyFrom hmac s prevHash es = none

/-- What remains of a chain is a chain, from a preserved anchor. -/
structure ChainKept (hmac : Bytes → Bytes → Bytes) (s : HashChainSecrets) (before : Time)
    (old new : List AuditEvent) : Prop where
  /-- The predecessor of every event but the oldest is there. -/
  predecessors : new <:+: old
  verifies     : ChainSegment hmac s new
  /-- The oldest is the first event of all, or was kept as an anchor. -/
  anchor       : ∀ a, new.head? = some a → old.head? = some a ∨ a.createdAt < before

/-- The run comes to delete events, and the boundary is the event of this ID. -/
def DeletesExcept (env : RetentionEnv) (t : AuditTable) (tenantID : UUID) (before : Time)
    (boundaryID : UUID) : Prop :=
  getBoundaryEventID env t tenantID before = .ok boundaryID ∧ boundaryID ≠ UUID.nil ∧
    ∀ step, env.fault step = none

/-- The old events of the chain. -/
def oldEvents (before : Time) (es : List AuditEvent) : List AuditEvent :=
  es.filter fun e => e.createdAt < before

def laterEvents (before : Time) (es : List AuditEvent) : List AuditEvent :=
  es.filter fun e => !decide (e.createdAt < before)

/-- The old events that are kept. -/
def anchors (before : Time) (boundaryID : UUID) (es : List AuditEvent) : List AuditEvent :=
  (oldEvents before es).filter fun e => e.id = boundaryID

/-- There are no old events, or those that are kept come last among them. If nothing
comes later, they can be any in a row. -/
def AnchorsWindow (before : Time) (boundaryID : UUID) (es : List AuditEvent) : Prop :=
  oldEvents before es = [] ∨
  (laterEvents before es = [] ∧ anchors before boundaryID es <:+: oldEvents before es) ∨
  (anchors before boundaryID es ≠ [] ∧ anchors before boundaryID es <:+ oldEvents before es)

instance (before : Time) (boundaryID : UUID) (es : List AuditEvent) :
    Decidable (AnchorsWindow before boundaryID es) :=
  inferInstanceAs (Decidable (_ ∨ _ ∧ _ ∨ _ ∧ _))

-- ---------------------------------------------------------------------------
-- What a run does
-- ---------------------------------------------------------------------------

section Cleanup

variable {hmac : Bytes → Bytes → Bytes} {s : HashChainSecrets} {env : RetentionEnv}
  {t : AuditTable} {tenantID tenant boundaryID : UUID} {before : Time} {retentionDays : Int}
  {es es' : List AuditEvent}

theorem retention_pass_ok {step : RetentionStep} {u : Unit} :
    env.pass step = .ok u ↔ env.fault step = none := by
  unfold RetentionEnv.pass
  cases env.fault step <;> simp

/-- What is deleted. -/
def isDeleted (before : Time) (tenantID boundaryID : UUID) (e : AuditEvent) : Bool :=
  e.createdAt < before ∧ e.id ≠ boundaryID ∧ InScope tenantID e

theorem deleteOlderThanExcept_ok {result : Nat × AuditTable} :
    deleteOlderThanExcept env t tenantID before boundaryID = .ok result ↔
      (∀ step, step ≠ .boundary → env.fault step = none) ∧
        (t.rows.length - (t.delete (isDeleted before tenantID boundaryID)).rows.length,
          t.delete (isDeleted before tenantID boundaryID)) = result := by
  unfold deleteOlderThanExcept
  simp only [bind_ok, retention_pass_ok, exists_const]
  constructor
  · rintro ⟨hbegin, hallow, hexec, hcommit, hresult⟩
    refine ⟨fun step hstep => ?_, Except.ok.inj hresult⟩
    cases step with
    | boundary => exact absurd rfl hstep
    | beginTx => exact hbegin
    | allowMutation => exact hallow
    | exec => exact hexec
    | commit => exact hcommit
  · rintro ⟨hpass, rfl⟩
    exact ⟨hpass _ (by decide), hpass _ (by decide), hpass _ (by decide), hpass _ (by decide), rfl⟩

theorem boundary_ok (h : getBoundaryEventID env t tenantID before = .ok boundaryID) :
    env.fault .boundary = none := by
  unfold getBoundaryEventID at h
  obtain ⟨_, hpass, -⟩ := bind_ok.mp h
  exact retention_pass_ok.mp hpass

/-- A run deletes the old events but for the boundary, or nothing. -/
theorem cleanup_cases (env : RetentionEnv) (t : AuditTable) (tenantID : UUID)
    (retentionDays : Int) :
    (∃ boundaryID, DeletesExcept env t tenantID (cutoff env.now retentionDays) boundaryID ∧
      cleanup env t tenantID retentionDays =
        t.delete (isDeleted (cutoff env.now retentionDays) tenantID boundaryID)) ∨
    ((∀ boundaryID, ¬ DeletesExcept env t tenantID (cutoff env.now retentionDays) boundaryID) ∧
      cleanup env t tenantID retentionDays = t) := by
  unfold cleanup cleanupOldEvents
  simp only
  cases hboundary : getBoundaryEventID env t tenantID (cutoff env.now retentionDays) with
  | error err =>
    refine .inr ⟨fun boundaryID h => ?_, rfl⟩
    rw [h.1] at hboundary
    cases hboundary
  | ok boundaryID =>
    have hsame : ∀ {b}, DeletesExcept env t tenantID (cutoff env.now retentionDays) b →
        b = boundaryID := fun h => Except.ok.inj (h.1.symm.trans hboundary)
    by_cases hnil : boundaryID = UUID.nil
    · simp only [if_pos hnil]
      exact .inr ⟨fun b h => h.2.1 ((hsame h).trans hnil), trivial⟩
    · simp only [if_neg hnil]
      cases hdelete : deleteOlderThanExcept env t tenantID (cutoff env.now retentionDays)
          boundaryID with
      | ok result =>
        obtain ⟨hpass, rfl⟩ := deleteOlderThanExcept_ok.mp hdelete
        refine .inl ⟨boundaryID, ⟨hboundary, hnil, fun step => ?_⟩, rfl⟩
        by_cases hstep : step = .boundary
        · rw [hstep]
          exact boundary_ok hboundary
        · exact hpass step hstep
      | error err =>
        refine .inr ⟨fun b h => ?_, rfl⟩
        obtain rfl := hsame h
        rw [deleteOlderThanExcept_ok.mpr ⟨fun step _ => h.2.2 step, rfl⟩] at hdelete
        cases hdelete

-- ---------------------------------------------------------------------------
-- The chain of a tenant
-- ---------------------------------------------------------------------------

theorem chainEvents_delete {p : AuditEvent → Bool} :
    chainEvents (t.delete p) tenant = (chainEvents t tenant).filter fun e => !p e := by
  rw [chainEvents, chainEvents, ← orderedBy_filter (ofTenant_injOn t tenant), ofTenant, ofTenant,
    Table.delete, List.filter_filter, List.filter_filter]
  simp only [Bool.and_comm]

theorem tenantID_of_mem {e : AuditEvent} (he : e ∈ chainEvents t tenant) : e.tenantID = tenant := by
  have hmem := mem_orderedBy.mp he
  exact of_decide_eq_true (List.mem_filter.mp hmem).2

/-- The old events come first. -/
theorem oldEvents_append_laterEvents (before : Time) (t : AuditTable) (tenant : UUID) :
    oldEvents before (chainEvents t tenant) ++ laterEvents before (chainEvents t tenant) =
      chainEvents t tenant := by
  refine filter_append_filter_not ((orderedBy_pairwise orderKey _).imp fun {a b} hle hold => ?_)
  have htime : a.createdAt ≤ b.createdAt := Prod.Lex.monotone_fst _ _ hle
  exact decide_eq_true (htime.trans_lt (of_decide_eq_true hold))

/-- What a run for the tenant leaves. -/
theorem chainEvents_deleted (hscope : tenantID = UUID.nil ∨ tenant = tenantID) :
    chainEvents (t.delete (isDeleted before tenantID boundaryID)) tenant =
      anchors before boundaryID (chainEvents t tenant) ++
        laterEvents before (chainEvents t tenant) := by
  rw [chainEvents_delete]
  conv_lhs => rw [← oldEvents_append_laterEvents before t tenant]
  rw [List.filter_append]
  have hin : ∀ {e}, e ∈ chainEvents t tenant → InScope tenantID e := fun he =>
    hscope.imp_right fun heq => (tenantID_of_mem he).trans heq
  congr 1
  · refine List.filter_congr fun e he => ?_
    obtain ⟨hmem, hold⟩ := List.mem_filter.mp he
    simp [isDeleted, of_decide_eq_true hold, hin hmem]
  · refine List.filter_eq_self.mpr fun e he => ?_
    obtain ⟨-, hlater⟩ := List.mem_filter.mp he
    simp only [Bool.not_eq_true', decide_eq_false_iff_not] at hlater
    simp [isDeleted, hlater]

/-- A run for another tenant leaves everything. -/
theorem chainEvents_spared (hscope : ¬ (tenantID = UUID.nil ∨ tenant = tenantID)) :
    chainEvents (t.delete (isDeleted before tenantID boundaryID)) tenant =
      chainEvents t tenant := by
  rw [chainEvents_delete]
  refine List.filter_eq_self.mpr fun e he => ?_
  have hout : ¬ InScope tenantID e := by rwa [InScope, tenantID_of_mem he]
  simp [isDeleted, hout]

theorem ChainSegment.infix (h : ChainSegment hmac s es) (hpart : es' <:+: es) :
    ChainSegment hmac s es' := by
  obtain ⟨prevHash, hfollows, hverify⟩ := h
  obtain ⟨front, back, rfl⟩ := hpart
  refine ⟨_, hfollows.middle, ?_⟩
  rw [verifyFrom_eq_firstBroken, firstBroken_eq_none_iff, List.map_append, List.map_append,
    linked_append, linked_append] at hverify
  rw [verifyFrom_eq_firstBroken, firstBroken_eq_none_iff]
  have htip : tip prevHash (front.map entry) =
      (front.getLast?.map AuditEvent.hash).getD prevHash := by
    rw [tip, List.getLast?_map, Option.map_map]
    rfl
  rw [← htip]
  exact hverify.1.2

theorem ChainSegment.keeps (hchain : ChainSegment hmac s es) (hpart : es' <:+: es)
    (hanchor : ∀ a, es'.head? = some a → es.head? = some a ∨ a.createdAt < before) :
    ChainKept hmac s before es es' :=
  ⟨hpart, hchain.infix hpart, hanchor⟩

/-- Some of the old events and all later ones are a chain, if the old ones are the last of
theirs. -/
theorem chainKept_append_iff {old later kept : List AuditEvent}
    (hchain : ChainSegment hmac s (old ++ later)) (hold : ∀ e ∈ old, e.createdAt < before)
    (hlater : ∀ e ∈ later, ¬ e.createdAt < before) (hkept : kept ⊆ old) :
    ChainKept hmac s before (old ++ later) (kept ++ later) ↔
      old = [] ∨ (later = [] ∧ kept <:+: old) ∨ (kept ≠ [] ∧ kept <:+ old) := by
  constructor
  · rintro ⟨hpart, -, hanchor⟩
    by_cases hnone : old = []
    · exact .inl hnone
    right
    by_cases hend : later = []
    · rw [hend, List.append_nil, List.append_nil] at hpart
      exact .inl ⟨hend, hpart⟩
    right
    refine ⟨?_, (append_infix_append_iff hold hlater hend).mp hpart⟩
    rintro rfl
    -- the first of the later events would be the anchor
    obtain ⟨a, later, rfl⟩ := List.exists_cons_of_ne_nil hend
    obtain ⟨first, old, rfl⟩ := List.exists_cons_of_ne_nil hnone
    have ha : ¬ a.createdAt < before := hlater a List.mem_cons_self
    rcases hanchor a rfl with hfirst | hold'
    · exact ha (Option.some.inj hfirst ▸ hold first List.mem_cons_self)
    · exact ha hold'
  · rintro (rfl | ⟨rfl, hpart⟩ | ⟨hsome, hsuffix⟩)
    · rw [List.subset_nil.mp hkept]
      exact hchain.keeps (List.infix_refl _) fun a ha => .inl ha
    · rw [List.append_nil, List.append_nil] at *
      exact hchain.keeps hpart fun a ha => .inr (hold a (hkept (List.mem_of_head? ha)))
    · obtain ⟨front, rfl⟩ := hsuffix
      refine hchain.keeps ⟨front, [], by simp⟩ fun a ha => .inr (hold a ?_)
      obtain ⟨first, kept, rfl⟩ := List.exists_cons_of_ne_nil hsome
      rw [← Option.some.inj ha]
      exact hkept List.mem_cons_self

theorem chainKept_iff (hchain : ChainSegment hmac s (chainEvents t tenant)) :
    ChainKept hmac s before (chainEvents t tenant)
      (anchors before boundaryID (chainEvents t tenant) ++
        laterEvents before (chainEvents t tenant)) ↔
      AnchorsWindow before boundaryID (chainEvents t tenant) := by
  have hsplit := oldEvents_append_laterEvents before t tenant
  have hold : ∀ e ∈ oldEvents before (chainEvents t tenant), e.createdAt < before := fun e he =>
    of_decide_eq_true (List.mem_filter.mp he).2
  have hlater : ∀ e ∈ laterEvents before (chainEvents t tenant), ¬ e.createdAt < before :=
    fun e he => by simpa using (List.mem_filter.mp he).2
  have hkept : anchors before boundaryID (chainEvents t tenant) ⊆
      oldEvents before (chainEvents t tenant) := List.filter_sublist.subset
  have hiff := chainKept_append_iff (hsplit.symm ▸ hchain) hold hlater hkept
  rwa [hsplit] at hiff

end Cleanup

namespace Sample

/-- A checksum in place of the MAC. -/
def checksum (key input : Bytes) : Bytes :=
  let sum := (key ++ input).foldl (fun sum b => (31 * sum + b.toNat) % 65521) 0
  [UInt8.ofNat (sum / 256), UInt8.ofNat sum]

/-- An event on the day `n`, with its hash. -/
def onDay (tenantID id : UUID) (n : Nat) (prevHash : Bytes) : AuditEvent :=
  hashed checksum { event id "user.login" (n * day) with tenantID := tenantID } prevHash

def firstLogin : AuditEvent := onDay 1#128 11#128 1 []

def secondLogin : AuditEvent := onDay 1#128 12#128 200 firstLogin.hash

def otherFirst : AuditEvent := onDay 2#128 21#128 2 []

def otherSecond : AuditEvent := onDay 2#128 22#128 200 otherFirst.hash

/-- Two tenants with an old and a new event each. -/
def twoTenants : AuditTable :=
  ⟨[firstLogin, secondLogin, otherFirst, otherSecond], by decide⟩

/-- At the time of the first login. -/
def sameTime : AuditEvent := onDay 1#128 12#128 1 firstLogin.hash

def thirdLogin : AuditEvent := onDay 1#128 13#128 200 sameTime.hash

/-- One tenant, with two old events of one time. -/
def tied : AuditTable := ⟨[firstLogin, sameTime, thirdLogin], by decide⟩

/-- A run on day 201. -/
def nightly : RetentionEnv := ⟨201 * day, fun _ => 0, fun _ => none⟩

/-- A hashed event continues a chain. -/
theorem continues_hashed {e : AuditEvent} {prevHash : Bytes} {es : List AuditEvent}
    (h : Follows AuditEvent.prevHash AuditEvent.hash (hashed checksum e prevHash).hash es ∧
      verifyFrom checksum secrets (hashed checksum e prevHash).hash es = none) :
    Follows AuditEvent.prevHash AuditEvent.hash prevHash (hashed checksum e prevHash :: es) ∧
      verifyFrom checksum secrets prevHash (hashed checksum e prevHash :: es) = none := by
  have hverify : verifyHash checksum secrets (hashed checksum e prevHash) prevHash = true := by
    have htext : canonicalEventData (hashed checksum e prevHash) = canonicalEventData e := by
      simp only [canonicalEventData, canonicalFields, hashed]
    have hne : ∀ key input, hexEncodeToString (checksum key input) ≠ [] := by
      intro key input hempty
      have hsum : checksum key input = [] := hexEncodeToString_injective hempty
      exact List.cons_ne_nil _ _ hsum
    have hversion : secrets.currentVersion = 0 := rfl
    have hhash : (hashed checksum e prevHash).hash =
        chainLink checksum secrets prevHash (canonicalEventData e) := by
      simp only [hashed, computeHash, chainLink, hversion]
    rw [verifyHash_iff, entry, htext, hhash]
    simp only [and_true]
    exact hne _ _
  refine ⟨⟨rfl, h.1⟩, ?_⟩
  rw [verifyFrom, hverify, Bool.not_true, if_neg Bool.false_ne_true, h.2, Option.map_none]

/-- There are no other tenants. -/
theorem verifies_of_tenants {t : AuditTable}
    (htenants : ∀ e ∈ t.rows, e.tenantID = 1#128 ∨ e.tenantID = 2#128)
    (hfirst : ChainSegment checksum secrets (chainEvents t 1#128))
    (hsecond : ChainSegment checksum secrets (chainEvents t 2#128)) (tenant : UUID) :
    ChainSegment checksum secrets (chainEvents t tenant) := by
  by_cases h1 : tenant = 1#128
  · rwa [h1]
  by_cases h2 : tenant = 2#128
  · rwa [h2]
  have hempty : ofTenant t tenant = [] := by
    refine List.filter_eq_nil_iff.mpr fun e he heq => ?_
    rcases htenants e he with h | h
    · exact h1 ((of_decide_eq_true heq).symm.trans h)
    · exact h2 ((of_decide_eq_true heq).symm.trans h)
  rw [chainEvents, hempty]
  exact ⟨[], trivial, rfl⟩

theorem twoTenants_verifies (tenant : UUID) :
    ChainSegment checksum secrets (chainEvents twoTenants tenant) := by
  have hfirst : chainEvents twoTenants 1#128 = [firstLogin, secondLogin] := rfl
  have hsecond : chainEvents twoTenants 2#128 = [otherFirst, otherSecond] := rfl
  refine verifies_of_tenants (by decide) ?_ ?_ tenant
  · rw [hfirst]
    exact ⟨[], continues_hashed (continues_hashed ⟨trivial, rfl⟩)⟩
  · rw [hsecond]
    exact ⟨[], continues_hashed (continues_hashed ⟨trivial, rfl⟩)⟩

theorem tied_verifies (tenant : UUID) :
    ChainSegment checksum secrets (chainEvents tied tenant) := by
  have hfirst : chainEvents tied 1#128 = [firstLogin, sameTime, thirdLogin] := rfl
  have hsecond : chainEvents tied 2#128 = [] := rfl
  refine verifies_of_tenants (by decide) ?_ ?_ tenant
  · rw [hfirst]
    exact ⟨[], continues_hashed (continues_hashed (continues_hashed ⟨trivial, rfl⟩))⟩
  · rw [hsecond]
    exact ⟨[], trivial, rfl⟩

end Sample

end Ggid.Audit
