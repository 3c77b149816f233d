import Ggid.Audit.Repository

/-!
# Audit service — the order of the chain

`Insert` continues the hash chain behind the event that comes last in the order of
`created_at` and `id`. The verifier lists the events of a tenant in that order, so the
chain it sees is the one that was written only if events arrive in that order too.

* `events_chained_in_order`  — if every stored event comes after those stored before,
  the listed events form a chain in every state; and if hashes are new, only then;
* `late_event_breaks_chain`  — an event that arrives late tears the chain.
-/

namespace Ggid.Audit

open Ggid.Go Ggid.Lib

-- ---------------------------------------------------------------------------
-- What is required of a call
-- ---------------------------------------------------------------------------

/-- Every event refers to the hash of the one listed before it, the first one to none. -/
def ListedChain (tenantID : UUID) (t : AuditTable) : Prop :=
  ∀ limit, Follows AuditEvent.prevHash AuditEvent.hash [] (loadChainEvents t tenantID limit)

/-- If an event of the tenant is stored, it comes after all that are; and if the chain is
disabled, it has the right previous hash already. -/
def InOrder (tenantID : UUID) (t : AuditTable) (c : InsertCall) : Prop :=
  Stores tenantID t c →
    (∀ e ∈ ofTenant t tenantID, orderKey e < orderKey (stamped c.env c.event)) ∧
      (c.env.secrets.isHashChainEnabled = false → c.event.prevHash = latestHash t tenantID)

/-- If an event of the tenant is stored, it is hashed, and no other has the hash. -/
def NewHash (hmac : Bytes → Bytes → Bytes) (tenantID : UUID) (t : AuditTable) (c : InsertCall) :
    Prop :=
  Stores tenantID t c →
    c.env.secrets.isHashChainEnabled = true ∧
      (linked hmac c.env t c.event).hash ∉ [] :: (ofTenant t tenantID).map AuditEvent.hash

-- ---------------------------------------------------------------------------
-- One call
-- ---------------------------------------------------------------------------

section Step

variable {hmac : Bytes → Bytes → Bytes} {tenantID : UUID} {t : AuditTable} {c : InsertCall}

theorem listedChain_iff :
    ListedChain tenantID t ↔ Follows AuditEvent.prevHash AuditEvent.hash []
      (orderedBy orderKey (ofTenant t tenantID)) := by
  constructor
  · intro h
    have hall := h (orderedBy orderKey (ofTenant t tenantID)).length
    rwa [loadChainEvents, List.take_length] at hall
  · exact fun h limit => h.take limit

/-- The previous hash of the row is that of the event listed last. -/
theorem prevHash_eq_latest {row : AuditEvent} (hstores : Stores tenantID t c)
    (hstored : StoredRow hmac c.env t c.event row)
    (hgiven : c.env.secrets.isHashChainEnabled = false → c.event.prevHash = latestHash t tenantID) :
    row.prevHash = latestHash t tenantID := by
  rw [hstored.prevHash, linked]
  split
  · rw [← hstores.1]
    rfl
  · rename_i hdisabled
    exact hgiven (by simpa using hdisabled)

/-- The rows of the tenant, once the call stored its own, have keys of their own. -/
theorem stores_perm_injOn {row : AuditEvent} (hrows : ofTenant (insertStep hmac t c) tenantID =
      ofTenant t tenantID ++ [row]) :
    (ofTenant (insertStep hmac t c) tenantID).Perm (row :: ofTenant t tenantID) ∧
      Set.InjOn orderKey {e | e ∈ row :: ofTenant t tenantID} := by
  have hperm : (ofTenant (insertStep hmac t c) tenantID).Perm (row :: ofTenant t tenantID) := by
    rw [hrows]
    exact List.perm_append_singleton row _
  exact ⟨hperm, (ofTenant_injOn _ tenantID).mono fun e he => hperm.mem_iff.mpr he⟩

theorem insertStep_listedChain (h : ListedChain tenantID t) (hok : InOrder tenantID t c) :
    ListedChain tenantID (insertStep hmac t c) := by
  rw [listedChain_iff] at h ⊢
  by_cases hstores : Stores tenantID t c
  · obtain ⟨row, hstored, hrows⟩ := ofTenant_stores hmac hstores
    obtain ⟨hperm, hkeys⟩ := stores_perm_injOn hrows
    obtain ⟨hlater, hgiven⟩ := hok hstores
    have hlast : ∀ e ∈ ofTenant t tenantID, orderKey e < orderKey row := fun e he =>
      hstored.orderKey ▸ hlater e he
    rw [orderedBy_concat hkeys hperm hlast, follows_append, ← latestHash_eq]
    exact ⟨h, prevHash_eq_latest hstores hstored hgiven, trivial⟩
  · rwa [ofTenant_of_not_stores hstores]

/-- Every previous hash is a hash. -/
def PrevHashKnown (tenantID : UUID) (t : AuditTable) : Prop :=
  ∀ e ∈ ofTenant t tenantID, e.prevHash ∈ [] :: (ofTenant t tenantID).map AuditEvent.hash

theorem latestHash_mem (t : AuditTable) (tenantID : UUID) :
    latestHash t tenantID ∈ [] :: (ofTenant t tenantID).map AuditEvent.hash := by
  rw [latestHash_eq]
  cases hlast : (orderedBy orderKey (ofTenant t tenantID)).getLast? with
  | none => exact List.mem_cons_self
  | some e =>
    have he := mem_orderedBy.mp (List.mem_of_getLast? hlast)
    exact List.mem_cons_of_mem _ (List.mem_map_of_mem he)

theorem insertStep_prevHashKnown (h : PrevHashKnown tenantID t)
    (hassume : NewHash hmac tenantID t c) : PrevHashKnown tenantID (insertStep hmac t c) := by
  by_cases hstores : Stores tenantID t c
  · obtain ⟨row, hstored, hrows⟩ := ofTenant_stores hmac hstores
    have hprev := prevHash_eq_latest hstores hstored fun hdisabled =>
      absurd (hassume hstores).1 (by rw [hdisabled]; decide)
    intro e he
    have hknown : e.prevHash ∈ [] :: (ofTenant t tenantID).map AuditEvent.hash := by
      rw [hrows, List.mem_append, List.mem_singleton] at he
      rcases he with he | rfl
      · exact h e he
      · rw [hprev]
        exact latestHash_mem t tenantID
    rw [hrows, List.map_append]
    exact List.mem_append_left _ hknown
  · rwa [PrevHashKnown, ofTenant_of_not_stores hstores]

/-- An event that is stored before another one tears the chain: nothing refers to a new
hash. -/
theorem inOrder_of_listedChain (h : PrevHashKnown tenantID t)
    (hassume : NewHash hmac tenantID t c) (hchain : ListedChain tenantID (insertStep hmac t c)) :
    InOrder tenantID t c := by
  intro hstores
  obtain ⟨henabled, hnew⟩ := hassume hstores
  obtain ⟨row, hstored, hrows⟩ := ofTenant_stores hmac hstores
  obtain ⟨hperm, hkeys⟩ := stores_perm_injOn hrows
  obtain ⟨before, after, hlisted, hlisted', hbefore, -⟩ := orderedBy_insert hkeys hperm
  refine ⟨?_, fun hdisabled => absurd henabled (by rw [hdisabled]; decide)⟩
  cases after with
  | nil =>
    intro e he
    rw [← hstored.orderKey]
    have hmem : e ∈ orderedBy orderKey (ofTenant t tenantID) := mem_orderedBy.mpr he
    rw [hlisted, List.append_nil] at hmem
    exact hbefore e hmem
  | cons e after =>
    rw [listedChain_iff, hlisted'] at hchain
    have he : e ∈ orderedBy orderKey (ofTenant t tenantID) := by
      rw [hlisted]
      exact List.mem_append_right _ List.mem_cons_self
    have hprev : e.prevHash = row.hash := hchain.next
    rw [← hstored.hash, ← hprev] at hnew
    exact absurd (h e (mem_orderedBy.mp he)) hnew

end Step

/-- **Order.** In a run of `Insert` calls in which every event that is stored for a tenant
comes after all that are, by time and ID, the listed events of the tenant form a chain in
every state. If every event is hashed and no hash comes twice, they do so in every state
of no other run. -/
theorem events_chained_in_order (hmac : Bytes → Bytes → Bytes) (tenantID : UUID)
    (calls : List InsertCall) :
    (StepsOk (insertStep hmac) (InOrder tenantID) Table.empty calls →
      ∀ t ∈ states (insertStep hmac) Table.empty calls, ListedChain tenantID t) ∧
    (StepsOk (insertStep hmac) (NewHash hmac tenantID) Table.empty calls →
      (∀ t ∈ states (insertStep hmac) Table.empty calls, ListedChain tenantID t) →
        StepsOk (insertStep hmac) (InOrder tenantID) Table.empty calls) := by
  have hstart : ListedChain tenantID Table.empty := listedChain_iff.mpr trivial
  have hknown : PrevHashKnown tenantID Table.empty := fun e he => absurd he List.not_mem_nil
  constructor
  · exact invariant_states (fun t c => insertStep_listedChain) hstart
  · intro hassume
    have hiff := forall_states_iff_stepsOk (P := ListedChain tenantID)
      (fun t c => insertStep_prevHashKnown)
      (fun t c _ hgood _ hok => insertStep_listedChain hgood hok) (fun t _ hgood => hgood)
      (fun t c hknown _ => inOrder_of_listedChain hknown) hknown hstart hassume
    exact hiff.mp

namespace Sample

/-- A database that accepts every address. -/
def insertEnv : InsertEnv := ⟨12#128, 0, secrets, some, fun _ => none⟩

/-- The login, then the assignment. -/
def onTime : List InsertCall := [⟨insertEnv, login⟩, ⟨insertEnv, assign⟩]

/-- The login comes in late. -/
def late : List InsertCall := [⟨insertEnv, assign⟩, ⟨insertEnv, login⟩]

end Sample

open Sample in
theorem events_chained_in_order_sample :
    (loadChainEvents (run (insertStep hmac) Table.empty onTime) 1#128 10).map (·.id) =
      [10#128, 11#128] ∧
    ListedChain 1#128 (run (insertStep hmac) Table.empty onTime) := by
  refine ⟨by decide, ?_⟩
  apply (events_chained_in_order hmac 1#128 onTime).1 _ _ (run_mem_states _ _)
  have hfirst : ∀ e ∈ ofTenant Table.empty 1#128,
      orderKey e < orderKey (stamped insertEnv login) := by
    decide
  have hsecond : ∀ e ∈ ofTenant (insertStep hmac Table.empty ⟨insertEnv, login⟩) 1#128,
      orderKey e < orderKey (stamped insertEnv assign) := by
    decide
  have henabled : insertEnv.secrets.isHashChainEnabled ≠ false := by decide
  exact ⟨fun _ => ⟨hfirst, fun h => absurd h henabled⟩,
    fun _ => ⟨hsecond, fun h => absurd h henabled⟩, trivial⟩

open Sample in
/-- The login is listed first, though it was stored behind the assignment. -/
theorem late_event_breaks_chain :
    (loadChainEvents (run (insertStep hmac) Table.empty late) 1#128 10).map (·.id) =
      [10#128, 11#128] ∧
    ¬ ListedChain 1#128 (run (insertStep hmac) Table.empty late) := by
  refine ⟨by decide +kernel, fun hchain => absurd (hchain 10) ?_⟩
  decide +kernel

end Ggid.Audit
