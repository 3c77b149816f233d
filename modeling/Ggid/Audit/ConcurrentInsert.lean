import Ggid.Audit.ChainIntegrity
import Ggid.Audit.ChainOrder
import Ggid.Lib.Threads

/-!
# Audit service — `Insert` transactions that overlap

Any number of `Insert` calls, one thread each, in any interleaving of their statements. A
statement sees what was committed before it began. `SELECT … FOR UPDATE` locks the row it
returns until the transaction ends; while another transaction has the lock, it waits, and
then returns the row it had chosen, which no `Insert` changes.

The lock is on a row of a tenant that has none, and on a row that is not the last one any
more when a waiter gets it.

* `chain_never_forks_iff`   — no two events of the tenant have the same previous hash, in
  every state, exactly if each transaction that commits has read the row committed last;
* `chain_forks`             — two transactions begin a chain, and two continue one event.
-/

namespace Ggid.Audit

open Ggid.Go Ggid.Lib

-- ---------------------------------------------------------------------------
-- The database
-- ---------------------------------------------------------------------------

/-- What is committed, the row locks, and the rows that are not committed yet, each with
the thread it belongs to. -/
structure AuditDb where
  table   : AuditTable
  locks   : List (Nat × UUID × Time)
  pending : List (Nat × AuditEvent)

namespace AuditDb

def empty : AuditDb := ⟨Table.empty, [], []⟩

/-- Another transaction has the lock on the row. -/
def lockedFor (db : AuditDb) (self : Nat) (row : AuditEvent) : Bool :=
  db.locks.any fun l => l.1 ≠ self && l.2 = primaryKey row

def lock (db : AuditDb) (self : Nat) (row : AuditEvent) : AuditDb :=
  { db with locks := (self, primaryKey row) :: db.locks }

/-- Another transaction is about to insert a row of this key. -/
def pendingFor (db : AuditDb) (self : Nat) (row : AuditEvent) : Bool :=
  db.pending.any fun r => r.1 ≠ self && primaryKey r.2 = primaryKey row

def write (db : AuditDb) (self : Nat) (row : AuditEvent) : AuditDb :=
  { db with pending := (self, row) :: db.pending }

/-- The end of a transaction. -/
def release (db : AuditDb) (self : Nat) : AuditDb :=
  { db with
    locks   := db.locks.filter fun l => l.1 ≠ self
    pending := db.pending.filter fun r => r.1 ≠ self }

end AuditDb

/-- `ORDER BY created_at DESC, id DESC LIMIT 1`. -/
def latestEvent (t : AuditTable) (tenantID : UUID) : Option AuditEvent :=
  (orderedBy (OrderDual.toDual ∘ orderKey) (ofTenant t tenantID)).head?

-- ---------------------------------------------------------------------------
-- `Insert`, statement by statement
-- ---------------------------------------------------------------------------

/-- Where a call is. `read` is the row the previous hash was taken from. -/
inductive InsertTask where
  | called (c : InsertCall)
  | begun (c : InsertCall)
  | waiting (c : InsertCall) (row : AuditEvent)
  | hashed (c : InsertCall) (read : Option AuditEvent) (e : AuditEvent)
  | executed (c : InsertCall) (read : Option AuditEvent) (row : AuditEvent)
  | returned (result : Except String Unit)

section Act

variable (hmac : Bytes → Bytes → Bytes)

/-- The event behind the row that was read. -/
def continuing (c : InsertCall) (read : Option AuditEvent) : AuditEvent :=
  let e := stamped c.env c.event
  let ph := (read.map AuditEvent.hash).getD []
  { e with prevHash := ph, hash := computeHash hmac c.env.secrets e ph }

/-- The rows of the query are there, and the one returned is locked. -/
def lockRow (self : Nat) (db : AuditDb) (c : InsertCall) (row : AuditEvent) :
    AuditDb × InsertTask :=
  if db.lockedFor self row then (db, .waiting c row)
  else (db.lock self row, .hashed c (some row) (continuing hmac c (some row)))

def queryPrevHash (self : Nat) (db : AuditDb) (c : InsertCall) : AuditDb × InsertTask :=
  if c.env.secrets.isHashChainEnabled then
    match latestEvent db.table c.event.tenantID with
    | some row => lockRow hmac self db c row
    | none => (db, .hashed c none (continuing hmac c none))
  else (db, .hashed c none (stamped c.env c.event))

def rollback (self : Nat) (db : AuditDb) (err : String) : AuditDb × InsertTask :=
  (db.release self, .returned (.error err))

/-- A step that can fail, and what comes next. -/
def attempt (self : Nat) (db : AuditDb) (env : InsertEnv) (step : InsertStep)
    (next : AuditDb × InsertTask) : AuditDb × InsertTask :=
  match env.fault step with
  | some err => rollback self db (step.wrap err)
  | none => next

/-- `INSERT`, which waits for a transaction that inserts the same key. -/
def execRow (self : Nat) (db : AuditDb) (c : InsertCall) (read : Option AuditEvent)
    (e : AuditEvent) : AuditDb × InsertTask :=
  match storedAddress c.env e.ipAddress with
  | none => rollback self db (InsertStep.exec.wrap "invalid input syntax for type inet")
  | some address =>
    let row := toRow e address
    if db.pendingFor self row then (db, .hashed c read e)
    else if (db.table.insert? row).isSome then (db.write self row, .executed c read row)
    else
      rollback self db (InsertStep.exec.wrap "duplicate key value violates unique constraint")

def commitRow (self : Nat) (db : AuditDb) (row : AuditEvent) : AuditDb × InsertTask :=
  match db.table.insert? row with
  | some table => ({ db.release self with table := table }, .returned (.ok ()))
  | none => rollback self db (InsertStep.commit.wrap "duplicate key value violates unique constraint")

/-- The next statement of a call. -/
def insertAct (self : Nat) (db : AuditDb) : InsertTask → AuditDb × InsertTask
  | .called c =>
    attempt self db c.env .marshalMetadata (attempt self db c.env .beginTx (db, .begun c))
  | .begun c =>
    if c.env.secrets.isHashChainEnabled then
      attempt self db c.env .queryPrevHash (queryPrevHash hmac self db c)
    else queryPrevHash hmac self db c
  | .waiting c row => lockRow hmac self db c row
  | .hashed c read e => attempt self db c.env .exec (execRow self db c read e)
  | .executed c _ row => attempt self db c.env .commit (commitRow self db row)
  | .returned result => (db, .returned result)

/-- One thread takes its next step. -/
def insertThread (p : Threads AuditDb InsertTask) (t : Nat) : Threads AuditDb InsertTask :=
  p.put t (insertAct hmac t p.store (p.task t))

end Act

abbrev InsertThreads := Threads AuditDb InsertTask

/-- Calls that have not begun, on an empty table. -/
def allCalled (calls : Nat → InsertCall) : InsertThreads := ⟨.empty, fun t => .called (calls t)⟩

/-- What the next step of the thread commits: the call, the row that was read, and the new
row. -/
def committing (p : InsertThreads) (t : Nat) :
    Option (InsertCall × Option AuditEvent × AuditEvent) :=
  match p.task t with
  | .executed c read row =>
    if c.env.fault .commit = none ∧ (p.store.table.insert? row).isSome then some (c, read, row)
    else none
  | _ => none

/-- No two events of the tenant have the same previous hash. -/
def Unforked (tenantID : UUID) (p : InsertThreads) : Prop :=
  ((ofTenant p.store.table tenantID).map AuditEvent.prevHash).Nodup

/-- If an event of the tenant is committed, it was hashed, and no other has the hash. -/
def CommitsNewHash (tenantID : UUID) (p : InsertThreads) (t : Nat) : Prop :=
  ∀ x ∈ committing p t, x.2.2.tenantID = tenantID →
    x.1.env.secrets.isHashChainEnabled = true ∧
      x.2.2.hash ∉ [] :: (ofTenant p.store.table tenantID).map AuditEvent.hash

/-- If an event of the tenant is committed, the row that was read for it is the one that
was committed last. -/
def ReadLastCommitted (tenantID : UUID) (p : InsertThreads) (t : Nat) : Prop :=
  ∀ x ∈ committing p t, x.2.2.tenantID = tenantID →
    x.2.1 = (ofTenant p.store.table tenantID).getLast?

instance (tenantID : UUID) (p : InsertThreads) (t : Nat) :
    Decidable (CommitsNewHash tenantID p t) :=
  inferInstanceAs (Decidable (∀ x ∈ committing p t, _))

instance (tenantID : UUID) (p : InsertThreads) (t : Nat) :
    Decidable (ReadLastCommitted tenantID p t) :=
  inferInstanceAs (Decidable (∀ x ∈ committing p t, _))

-- ---------------------------------------------------------------------------
-- What a step does to the table
-- ---------------------------------------------------------------------------

section Table

variable {hmac : Bytes → Bytes → Bytes} {self : Nat} {db : AuditDb} {task : InsertTask}
  {c : InsertCall} {read : Option AuditEvent} {e row : AuditEvent} {tenantID : UUID}
  {p : InsertThreads} {t : Nat}

theorem attempt_table {env : InsertEnv} {step : InsertStep} {next : AuditDb × InsertTask}
    (h : next.1.table = db.table) : (attempt self db env step next).1.table = db.table := by
  unfold attempt
  cases env.fault step with
  | none => exact h
  | some err => rfl

theorem lockRow_table : (lockRow hmac self db c row).1.table = db.table := by
  unfold lockRow
  split <;> rfl

theorem queryPrevHash_table : (queryPrevHash hmac self db c).1.table = db.table := by
  unfold queryPrevHash
  split
  · split
    · exact lockRow_table
    · rfl
  · rfl

theorem execRow_table : (execRow self db c read e).1.table = db.table := by
  unfold execRow
  split
  · rfl
  · simp only
    split
    · rfl
    · split <;> rfl

/-- Only a commit changes the table. -/
theorem insertAct_table (h : ∀ c read row, task ≠ .executed c read row) :
    (insertAct hmac self db task).1.table = db.table := by
  cases task with
  | called c => exact attempt_table (attempt_table rfl)
  | begun c =>
    rw [insertAct]
    split
    · exact attempt_table queryPrevHash_table
    · exact queryPrevHash_table
  | waiting c row => exact lockRow_table
  | hashed c read e => exact attempt_table execRow_table
  | executed c read row => exact absurd rfl (h c read row)
  | returned result => rfl

/-- A step commits a row, or leaves the table as it is. -/
theorem insertThread_table (hmac : Bytes → Bytes → Bytes) (p : InsertThreads) (t : Nat) :
    (∃ x ∈ committing p t, p.task t = .executed x.1 x.2.1 x.2.2 ∧
      (insertThread hmac p t).store.table.rows = p.store.table.rows ++ [x.2.2]) ∨
    (committing p t = none ∧ (insertThread hmac p t).store.table = p.store.table) := by
  have hstore : (insertThread hmac p t).store = (insertAct hmac t p.store (p.task t)).1 := rfl
  rw [hstore]
  unfold committing
  cases htask : p.task t with
  | executed c read row =>
    simp only [insertAct, attempt]
    cases hfault : c.env.fault .commit with
    | some err => exact .inr ⟨by simp, rfl⟩
    | none =>
      simp only [commitRow]
      cases hinsert : p.store.table.insert? row with
      | none => exact .inr ⟨by simp, rfl⟩
      | some table =>
        exact .inl ⟨(c, read, row), by simp, rfl, Table.insert?_rows hinsert⟩
  | called c => exact .inr ⟨rfl, insertAct_table (by simp)⟩
  | begun c => exact .inr ⟨rfl, insertAct_table (by simp)⟩
  | waiting c row => exact .inr ⟨rfl, insertAct_table (by simp)⟩
  | hashed c read e => exact .inr ⟨rfl, insertAct_table (by simp)⟩
  | returned result => exact .inr ⟨rfl, insertAct_table (by simp)⟩

/-- The same of the rows of one tenant. -/
theorem ofTenant_step (hmac : Bytes → Bytes → Bytes) (p : InsertThreads) (t : Nat)
    (tenantID : UUID) :
    (∃ x ∈ committing p t, x.2.2.tenantID = tenantID ∧ p.task t = .executed x.1 x.2.1 x.2.2 ∧
      ofTenant (insertThread hmac p t).store.table tenantID =
        ofTenant p.store.table tenantID ++ [x.2.2]) ∨
    ((∀ x ∈ committing p t, x.2.2.tenantID ≠ tenantID) ∧
      ofTenant (insertThread hmac p t).store.table tenantID = ofTenant p.store.table tenantID) := by
  rcases insertThread_table hmac p t with
    ⟨x, hx, htask, hrows⟩ | ⟨hnone, htable⟩
  · by_cases htenant : x.2.2.tenantID = tenantID
    · refine .inl ⟨x, hx, htenant, htask, ?_⟩
      rw [ofTenant, hrows, List.filter_append, List.filter_singleton]
      simp [htenant, ofTenant]
    · refine .inr ⟨fun y hy => ?_, ?_⟩
      · rwa [← Option.some.inj (hx.symm.trans hy)]
      · rw [ofTenant, hrows, List.filter_append, List.filter_singleton]
        simp [htenant, ofTenant]
  · refine .inr ⟨fun x hx => ?_, by rw [htable]⟩
    rw [hnone] at hx
    exact absurd hx (by simp)

end Table

-- ---------------------------------------------------------------------------
-- What was read
-- ---------------------------------------------------------------------------

/-- The event continues the row that was read, if any. -/
structure Continues (rows : List AuditEvent) (read : Option AuditEvent) (e : AuditEvent) : Prop where
  known    : ∀ r, read = some r → r ∈ rows
  prevHash : e.prevHash = (read.map AuditEvent.hash).getD []

/-- What a call of the tenant has read is committed. -/
def TaskOk (tenantID : UUID) (rows : List AuditEvent) : InsertTask → Prop
  | .waiting c row => c.event.tenantID = tenantID → row ∈ rows
  | .hashed c read e =>
    e.tenantID = tenantID → c.env.secrets.isHashChainEnabled = true → Continues rows read e
  | .executed c read row =>
    row.tenantID = tenantID → c.env.secrets.isHashChainEnabled = true → Continues rows read row
  | _ => True

section Read

variable {hmac : Bytes → Bytes → Bytes} {self : Nat} {db : AuditDb} {task : InsertTask}
  {c : InsertCall} {read : Option AuditEvent} {e row : AuditEvent} {tenantID : UUID}
  {rows rows' : List AuditEvent}

theorem TaskOk.mono (h : TaskOk tenantID rows task) (hsub : rows ⊆ rows') :
    TaskOk tenantID rows' task := by
  have hcontinues : ∀ {read e}, Continues rows read e → Continues rows' read e :=
    fun hc => ⟨fun r hr => hsub (hc.known r hr), hc.prevHash⟩
  cases task with
  | waiting c row => exact fun htenant => hsub (h htenant)
  | hashed c read e => exact fun htenant henabled => hcontinues (h htenant henabled)
  | executed c read row => exact fun htenant henabled => hcontinues (h htenant henabled)
  | called c => trivial
  | begun c => trivial
  | returned result => trivial

theorem attempt_taskOk {env : InsertEnv} {step : InsertStep} {next : AuditDb × InsertTask}
    (h : TaskOk tenantID rows next.2) : TaskOk tenantID rows (attempt self db env step next).2 := by
  unfold attempt
  cases env.fault step with
  | none => exact h
  | some err => trivial

theorem lockRow_taskOk (h : c.event.tenantID = tenantID → row ∈ rows) :
    TaskOk tenantID rows (lockRow hmac self db c row).2 := by
  unfold lockRow
  split
  · exact h
  · intro htenant _
    refine ⟨fun r hr => ?_, rfl⟩
    rw [← Option.some.inj hr]
    exact h htenant

theorem queryPrevHash_taskOk :
    TaskOk tenantID (ofTenant db.table tenantID) (queryPrevHash hmac self db c).2 := by
  unfold queryPrevHash
  split
  · cases hlatest : latestEvent db.table c.event.tenantID with
    | none => exact fun _ _ => ⟨fun r hr => absurd hr (by simp), rfl⟩
    | some row =>
      refine lockRow_taskOk fun htenant => ?_
      rw [← htenant]
      exact mem_orderedBy.mp (List.mem_of_head? hlatest)
  · rename_i hdisabled
    exact fun _ henabled => absurd henabled hdisabled

theorem execRow_taskOk (h : TaskOk tenantID rows (.hashed c read e)) :
    TaskOk tenantID rows (execRow self db c read e).2 := by
  unfold execRow
  split
  · trivial
  · simp only
    split
    · exact h
    · split
      · exact fun htenant henabled => ⟨(h htenant henabled).known, (h htenant henabled).prevHash⟩
      · trivial

theorem insertAct_taskOk (h : TaskOk tenantID (ofTenant db.table tenantID) task) :
    TaskOk tenantID (ofTenant db.table tenantID) (insertAct hmac self db task).2 := by
  cases task with
  | called c => exact attempt_taskOk (attempt_taskOk trivial)
  | begun c =>
    rw [insertAct]
    split
    · exact attempt_taskOk queryPrevHash_taskOk
    · exact queryPrevHash_taskOk
  | waiting c row => exact lockRow_taskOk h
  | hashed c read e => exact attempt_taskOk (execRow_taskOk h)
  | executed c read row =>
    refine attempt_taskOk ?_
    unfold commitRow
    split <;> trivial
  | returned result => trivial

end Read

-- ---------------------------------------------------------------------------
-- The tree of events
-- ---------------------------------------------------------------------------

/-- The events of the tenant, in the order in which they were committed, have different
hashes, and each refers to one before it or begins a chain. -/
structure Tree (tenantID : UUID) (p : InsertThreads) : Prop where
  names : ([] :: (ofTenant p.store.table tenantID).map AuditEvent.hash).Nodup
  back  : RefersBefore AuditEvent.prevHash AuditEvent.hash [[]] (ofTenant p.store.table tenantID)
  tasks : ∀ t, TaskOk tenantID (ofTenant p.store.table tenantID) (p.task t)

/-- Each refers to the one committed before it. -/
def Path (tenantID : UUID) (p : InsertThreads) : Prop :=
  Follows AuditEvent.prevHash AuditEvent.hash [] (ofTenant p.store.table tenantID)

section Step

variable {hmac : Bytes → Bytes → Bytes} {tenantID : UUID} {p : InsertThreads} {t : Nat}
  {rows : List AuditEvent} {read : Option AuditEvent} {e : AuditEvent}

theorem unforked_iff (h : Tree tenantID p) : Unforked tenantID p ↔ Path tenantID p :=
  (follows_iff_nodup h.names h.back).symm

/-- What is committed continues what was read. -/
theorem committing_continues (h : Tree tenantID p) (hnew : CommitsNewHash tenantID p t)
    {x : InsertCall × Option AuditEvent × AuditEvent} (hx : x ∈ committing p t)
    (htenant : x.2.2.tenantID = tenantID) (htask : p.task t = .executed x.1 x.2.1 x.2.2) :
    Continues (ofTenant p.store.table tenantID) x.2.1 x.2.2 := by
  have hok := h.tasks t
  rw [htask] at hok
  exact hok htenant (hnew x hx htenant).1

theorem insertThread_tree (h : Tree tenantID p) (hnew : CommitsNewHash tenantID p t) :
    Tree tenantID (insertThread hmac p t) := by
  rcases ofTenant_step hmac p t tenantID with
    ⟨x, hx, htenant, htask, hrows⟩ | ⟨-, hrows⟩
  · have hcontinues := committing_continues h hnew hx htenant htask
    have hsub : ofTenant p.store.table tenantID ⊆
        ofTenant (insertThread hmac p t).store.table tenantID := by
      rw [hrows]
      exact List.subset_append_left _ _
    refine ⟨?_, ?_, ?_⟩
    · rw [hrows, List.map_append, List.map_singleton, ← List.cons_append, List.nodup_append]
      refine ⟨h.names, List.nodup_singleton _, fun a ha b hb heq => ?_⟩
      rw [List.mem_singleton.mp hb] at heq
      exact (hnew x hx htenant).2 (heq ▸ ha)
    · rw [hrows, refersBefore_concat]
      refine ⟨h.back, ?_⟩
      rw [hcontinues.prevHash]
      cases hread : x.2.1 with
      | none => exact .inl (List.mem_singleton_self _)
      | some r => exact .inr (List.mem_map_of_mem (hcontinues.known r hread))
    · exact Threads.forall_put h.tasks (fun task hok => hok.mono hsub)
        ((insertAct_taskOk (h.tasks t)).mono hsub)
  · refine ⟨by rw [hrows]; exact h.names, by rw [hrows]; exact h.back, ?_⟩
    rw [hrows]
    exact Threads.forall_put h.tasks (fun task hok => hok) (insertAct_taskOk (h.tasks t))

theorem insertThread_path (h : Tree tenantID p) (hpath : Path tenantID p)
    (hnew : CommitsNewHash tenantID p t) (hlast : ReadLastCommitted tenantID p t) :
    Path tenantID (insertThread hmac p t) := by
  rcases ofTenant_step hmac p t tenantID with
    ⟨x, hx, htenant, htask, hrows⟩ | ⟨-, hrows⟩
  · have hcontinues := committing_continues h hnew hx htenant htask
    rw [Path, hrows]
    refine hpath.concat ?_
    rw [hcontinues.prevHash, hlast x hx htenant]
  · rw [Path, hrows]
    exact hpath

/-- Hashes are different, so what was read can be told from the previous hash. -/
theorem read_eq_of_hash (hnames : ([] :: rows.map AuditEvent.hash).Nodup)
    (hread : ∀ r, read = some r → r ∈ rows)
    (heq : (read.map AuditEvent.hash).getD [] = (rows.getLast?.map AuditEvent.hash).getD []) :
    read = rows.getLast? := by
  obtain ⟨hempty, hnodup⟩ := List.nodup_cons.mp hnames
  have hne : ∀ r ∈ rows, r.hash ≠ [] := fun r hr hnil => hempty (hnil ▸ List.mem_map_of_mem hr)
  cases hlast : rows.getLast? with
  | none =>
    rw [hlast] at heq
    cases read with
    | none => rfl
    | some r => exact absurd heq (hne r (hread r rfl))
  | some last =>
    have hmem : last ∈ rows := List.mem_of_getLast? hlast
    rw [hlast] at heq
    cases read with
    | none => exact absurd heq.symm (hne last hmem)
    | some r => rw [List.inj_on_of_nodup_map hnodup (hread r rfl) hmem heq]

theorem readLast_of_unforked (h : Tree tenantID p) (hnew : CommitsNewHash tenantID p t)
    (hunforked : Unforked tenantID (insertThread hmac p t)) : ReadLastCommitted tenantID p t := by
  have hpath := (unforked_iff (insertThread_tree h hnew)).mp hunforked
  rcases ofTenant_step hmac p t tenantID with
    ⟨x, hx, htenant, htask, hrows⟩ | ⟨hother, -⟩
  · have hcontinues := committing_continues h hnew hx htenant htask
    rw [Path, hrows, follows_append] at hpath
    have hback := hpath.2.1
    rw [hcontinues.prevHash] at hback
    intro y hy _
    rw [← Option.some.inj (hx.symm.trans hy)]
    exact read_eq_of_hash h.names hcontinues.known hback
  · exact fun y hy htenant => absurd htenant (hother y hy)

end Step

/-- **Where the chain forks.** As long as hashes are new, no two events of the tenant have
the same previous hash in any state of a run exactly if every transaction that commits has
read the row that was committed last. -/
theorem chain_never_forks_iff (hmac : Bytes → Bytes → Bytes) (tenantID : UUID)
    (calls : Nat → InsertCall) (schedule : List Nat)
    (hnew : StepsOk (insertThread hmac) (CommitsNewHash tenantID) (allCalled calls) schedule) :
    (∀ p ∈ states (insertThread hmac) (allCalled calls) schedule, Unforked tenantID p) ↔
      StepsOk (insertThread hmac) (ReadLastCommitted tenantID) (allCalled calls) schedule := by
  have htree : Tree tenantID (allCalled calls) :=
    ⟨List.nodup_singleton _, trivial, fun _ => trivial⟩
  have hpath : Path tenantID (allCalled calls) := trivial
  exact forall_states_iff_stepsOk (P := Unforked tenantID) (fun p t => insertThread_tree)
    (fun p t => insertThread_path) (fun p htree hpath => (unforked_iff htree).mpr hpath)
    (fun p t htree _ => readLast_of_unforked htree) htree hpath hnew

namespace Sample

/-- Thread 0 stores the login, thread 1 the assignment, and the others a logout. -/
def threeCalls (t : Nat) : InsertCall :=
  ⟨insertEnv, if t = 0 then login else if t = 1 then assign else event 13#128 "user.logout" 2000⟩

def afterSchedule (schedule : List Nat) : InsertThreads :=
  run (insertThread plainMac) (allCalled threeCalls) schedule

end Sample

open Sample in
/-- One transaction after the other. -/
theorem chain_never_forks_iff_sample :
    StepsOk (insertThread plainMac) (CommitsNewHash 1#128) (allCalled threeCalls)
      [0, 0, 0, 0, 1, 1, 1, 1] ∧
    ∀ p ∈ states (insertThread plainMac) (allCalled threeCalls) [0, 0, 0, 0, 1, 1, 1, 1],
      Unforked 1#128 p := by
  have hnew : StepsOk (insertThread plainMac) (CommitsNewHash 1#128) (allCalled threeCalls)
      [0, 0, 0, 0, 1, 1, 1, 1] := by
    decide +kernel
  exact ⟨hnew, (chain_never_forks_iff plainMac 1#128 threeCalls _ hnew).mpr (by decide +kernel)⟩

open Sample in
/-- Two transactions find no event; and of two that read the login, the second waits for
the first, and then continues the login all the same. -/
theorem chain_forks :
    ¬ Unforked 1#128 (afterSchedule [0, 0, 1, 1, 0, 0, 1, 1]) ∧
    ¬ Unforked 1#128 (afterSchedule [0, 0, 0, 0, 1, 1, 2, 2, 1, 1, 2, 2, 2]) := by
  constructor <;> (unfold Unforked; decide +kernel)

end Ggid.Audit
