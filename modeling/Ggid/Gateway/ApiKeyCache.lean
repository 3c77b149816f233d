import Ggid.Go.Strings
import Ggid.Go.Value
import Ggid.Lib.Run
import Ggid.Lib.Threads
import Mathlib.Data.List.Basic
import Mathlib.Data.Set.Function

/-!
# Gateway — API keys and their cache

`DBAPIKeyValidator` keeps what it has read of a key for some seconds, and `APIKeyCacheInvalidator`
removes it again when a deletion has passed through the gateway. Calls run at the same time, step
by step.

* `Inv.step`             — what the cache may hold of a key that has been deleted, or expires;
* `deleted_keys_refused` — no key is accepted after its deletion or its expiry, as long as nothing
  is stored late, and ids are spelled one way.
-/

namespace Ggid.Gateway

open Ggid.Go Ggid.Lib

-- ---------------------------------------------------------------------------
-- Keys and paths
-- ---------------------------------------------------------------------------

/-- What the validator is built on: `uuid.Parse`, SHA-256 in hexadecimal, `VerifyPassword`, and the
local time zone, which `Year` depends on. -/
structure APIKeyEnv where
  parse          : String → Option UUID
  sha256Hex      : String → String
  verifyPassword : String → String → Bool
  utcOffset      : Int

namespace APIKeyEnv

variable (env : APIKeyEnv)

/-- The UUID of a key of the form `ggid_sk_<uuid>_<rest>`. -/
def parseAPIKeyID (key : String) : Option String :=
  if Strings.hasPrefix key.toList "ggid_sk_".toList = false then none
  else
    let rest := key.toList.drop 8
    let uuidStr := String.ofList (rest.take 36)
    if rest.length < 38 then none
    else if (env.parse uuidStr).isNone then none
    else if rest[36]? ≠ some '_' then none
    else some uuidStr

/-- The id in the path of a deletion, as the gateway reads it. -/
def extractKeyIDFromPath (path : String) : String :=
  match (Strings.split path.toList '/').reverse with
  | last :: parent :: _ =>
    if (env.parse (String.ofList last)).isNone then ""
    else if parent ≠ "api-keys".toList ∧ parent ≠ "access-keys".toList then ""
    else String.ofList last
  | _ => ""

/-- `expires_at` is taken into account: its year is after 1970. -/
def expires (expiresAt : Time) : Bool :=
  decide (expiresAt ≠ Time.zero) && decide (365 * 24 * 60 * minute ≤ expiresAt + env.utcOffset)

end APIKeyEnv

-- ---------------------------------------------------------------------------
-- The database and the cache
-- ---------------------------------------------------------------------------

/-- A row of `api_keys`. -/
structure ApiKeyRow where
  tenantID  : UUID
  keyHash   : String
  scopes    : List String
  status    : String
  expiresAt : Option Time
  deriving DecidableEq

structure CachedKey where
  keyID    : String
  tenantID : String
  scopes   : List String
  status   : String
  cachedAt : Time
  deriving DecidableEq

/-- The rows, the cache and the time; and, for the statements only, the keys whose deletion through
the gateway is over. -/
structure ApiKeyStore where
  rows    : UUID → Option ApiKeyRow
  cache   : String → Option CachedKey
  clock   : Time
  deleted : List UUID

/-- How long the cache keeps an entry. -/
def apiKeyTTL : Int := 5 * second

/-- What `Validate` returns: tenant and scopes, or an error. -/
abbrev Validated := Except String (String × List String)

/-- A call of `Validate`: the key, when it began, and what had been deleted by then. -/
structure Validation where
  key   : String
  since : Time
  gone  : List UUID
  deriving DecidableEq

/-- What a thread is to do. -/
inductive APIKeyCall where
  | validate (key : String)
  | delete (path : String) (tenantID : UUID)

/-- Where a thread is. -/
inductive APIKeyTask where
  | idle
  | missed (call : Validation) (keyID : String)
  | absent (call : Validation) (keyID : String)
  | fetched (call : Validation) (keyID : String) (row : ApiKeyRow)
  | verified (call : Validation) (keyID : String) (row : ApiKeyRow)
  | returned (call : Validation) (result : Validated)
  | answered (path : String) (status : Int) (revoked : Option UUID)
  | deleted
  deriving DecidableEq

namespace ApiKeyStore

variable (env : APIKeyEnv)

/-- The beginning of `Validate`, up to the lookup in the cache. -/
def lookup (st : ApiKeyStore) (key : String) : APIKeyTask :=
  let call : Validation := ⟨key, st.clock, st.deleted⟩
  match env.parseAPIKeyID key with
  | none => .returned call (.error "invalid api key format")
  | some keyID =>
    match (st.cache (env.sha256Hex key)).filter fun ck => st.clock - ck.cachedAt < apiKeyTTL with
    | none => .missed call keyID
    | some ck =>
      if ck.status ≠ "active" then .returned call (.error ("api key is " ++ ck.status))
      else .returned call (.ok (ck.tenantID, ck.scopes))

/-- `SELECT … WHERE id = $1`; `answers` says whether the database does. -/
def fetch (st : ApiKeyStore) (answers : Bool) (call : Validation) (keyID : String) : APIKeyTask :=
  if answers then
    match (env.parse keyID).bind st.rows with
    | none => .absent call keyID
    | some row => .fetched call keyID row
  else .returned call (.error "api key lookup failed")

/-- The checks on what has been read. -/
def check (st : ApiKeyStore) (call : Validation) (keyID : String) (row : ApiKeyRow) : APIKeyTask :=
  if row.status ≠ "active" then .returned call (.error ("api key is " ++ row.status))
  else if row.expiresAt.any fun e => env.expires e && decide (e < st.clock) then
    .returned call (.error "api key expired")
  else if env.verifyPassword call.key row.keyHash = false then
    .returned call (.error "invalid api key")
  else .verified call keyID row

/-- `v.cache.Store`. -/
def put (st : ApiKeyStore) (key : String) (ck : CachedKey) : ApiKeyStore :=
  { st with cache := Function.update st.cache (env.sha256Hex key) (some ck) }

/-- `UPDATE api_keys SET status = 'revoked' WHERE id = $1 AND tenant_id = $2`, and whether there is
such a row. -/
def revoke (st : ApiKeyStore) (id tenantID : UUID) : ApiKeyStore × Bool :=
  match st.rows id with
  | none => (st, false)
  | some row =>
    if row.tenantID = tenantID then
      ({ st with rows := Function.update st.rows id (some { row with status := "revoked" }) }, true)
    else (st, false)

/-- The non-empty segments of a path. -/
def splitPath (path : List Char) : List (List Char) :=
  (Strings.split path '/').filter fun part => part ≠ []

/-- The DELETE of the backend, on both of its paths. -/
def backendDelete (st : ApiKeyStore) (answers : Bool) (path : String) (tenantID : UUID) :
    ApiKeyStore × APIKeyTask :=
  let apiPath := Strings.replaceFirst path.toList "/api/v1/auth/access-keys".toList
    "/api/v1/auth/api-keys".toList
  if Strings.hasPrefix apiPath "/api/v1/auth/api-keys/".toList = false then
    (st, .answered path 405 none)
  else
    match (splitPath apiPath)[4]? with
    | none => (st, .answered path 400 none)
    | some part =>
      match env.parse (String.ofList part) with
      | none => (st, .answered path 400 none)
      | some id =>
        if answers then
          let (st', found) := st.revoke id tenantID
          (st', .answered path 200 (if found then some id else none))
        else (st, .answered path 500 none)

/-- `Invalidate`. -/
def invalidate (st : ApiKeyStore) (keyID : String) : ApiKeyStore :=
  { st with cache := fun hash => (st.cache hash).filter fun ck => ck.keyID ≠ keyID }

/-- The end of `APIKeyCacheInvalidator`. -/
def intercept (st : ApiKeyStore) (path : String) (status : Int) : ApiKeyStore :=
  let keyID := env.extractKeyIDFromPath path
  if keyID = "" then st
  else if 200 ≤ status ∧ status < 300 then st.invalidate keyID
  else st

end ApiKeyStore

/-- One step of a thread. -/
def APIKeyTask.act (env : APIKeyEnv) (call : APIKeyCall) (answers : Bool) (st : ApiKeyStore) :
    APIKeyTask → ApiKeyStore × APIKeyTask
  | .idle =>
    match call with
    | .validate key => (st, st.lookup env key)
    | .delete path tenantID => st.backendDelete env answers path tenantID
  | .missed call keyID => (st, st.fetch env answers call keyID)
  | .absent call keyID =>
    (st.put env call.key ⟨keyID, "", [], "not_found", st.clock⟩,
      .returned call (.error "invalid api key"))
  | .fetched call keyID row => (st, st.check env call keyID row)
  | .verified call keyID row =>
    (st.put env call.key ⟨keyID, row.tenantID.string, row.scopes, row.status, st.clock⟩,
      .returned call (.ok (row.tenantID.string, row.scopes)))
  | .returned call result => (st, .returned call result)
  | .answered path status revoked =>
    ({ st.intercept env path status with deleted := revoked.toList ++ st.deleted }, .deleted)
  | .deleted => (st, .deleted)

/-- Which thread goes on, how much later, with what call if it is idle, and whether the database
answers. -/
structure APIKeyStep where
  thread  : Nat
  elapsed : Nat
  call    : APIKeyCall
  answers : Bool

namespace APIKeys

variable (env : APIKeyEnv)

abbrev State := Threads ApiKeyStore APIKeyTask

/-- Time goes by. -/
def wait (st : ApiKeyStore) (elapsed : Nat) : ApiKeyStore :=
  { st with clock := st.clock + elapsed }

def step (p : State) (a : APIKeyStep) : State :=
  p.put a.thread ((p.task a.thread).act env a.call a.answers (wait p.store a.elapsed))

/-- Some rows, and nothing in the cache. -/
def start (rows : UUID → Option ApiKeyRow) (clock : Time) : State :=
  ⟨⟨rows, fun _ => none, clock, []⟩, fun _ => .idle⟩

/-- A call that accepts a key began before the deletion of the key was over, and not after its
expiry. -/
def Sound (p : State) (a : APIKeyStep) : Prop :=
  ∀ call result keyID id, (step env p a).task a.thread = .returned call (.ok result) →
    (∀ call' result', p.task a.thread ≠ .returned call' result') →
      env.parseAPIKeyID call.key = some keyID → env.parse keyID = some id →
        id ∉ call.gone ∧ ∀ row, p.store.rows id = some row → ∀ e ∈ row.expiresAt, call.since ≤ e

theorem sound_of_idle {p : State} {a : APIKeyStep} {call : Validation}
    {result : String × List String} {keyID : String} {id : UUID} (h : Sound env p a)
    (hidle : p.task a.thread = .idle)
    (haccepts : (step env p a).task a.thread = .returned call (.ok result))
    (hparse : env.parseAPIKeyID call.key = some keyID) (hid : env.parse keyID = some id) :
    id ∉ call.gone ∧ ∀ row, p.store.rows id = some row → ∀ e ∈ row.expiresAt, call.since ≤ e := by
  refine h call result keyID id haccepts (fun call' result' hreturned => ?_) hparse hid
  rw [hidle] at hreturned
  cases hreturned

/-- Nothing is stored of a key that has been deleted meanwhile, or expires before the entry does;
an expiry is after 1970; and what the cache holds of a key when its deletion ends has the id in the
spelling of the path. -/
def TimelyTask (st : ApiKeyStore) : APIKeyTask → Prop
  | .fetched call _ row => ∀ e ∈ row.expiresAt, env.expires e = true ∨ call.since ≤ e
  | .verified _ keyID row => (∀ id, env.parse keyID = some id → id ∉ st.deleted) ∧
    ∀ e ∈ row.expiresAt, st.clock + apiKeyTTL ≤ e + 1
  | .answered path _ (some id) => ∀ hash ck, st.cache hash = some ck → ck.status = "active" →
    st.clock - ck.cachedAt < apiKeyTTL → env.parse ck.keyID = some id →
      ck.keyID = env.extractKeyIDFromPath path
  | _ => True

def Timely (p : State) (a : APIKeyStep) : Prop :=
  TimelyTask env (wait p.store a.elapsed) (p.task a.thread)

theorem timely_of_task {p : State} {a : APIKeyStep} {task : APIKeyTask}
    (htask : p.task a.thread = task) (h : TimelyTask env (wait p.store a.elapsed) task) :
    Timely env p a := by
  rw [Timely, htask]
  exact h

/-- The keys that are presented. -/
def presented (steps : List APIKeyStep) : Set String := {key | ∃ a ∈ steps, a.call = .validate key}

variable {env} {st : ApiKeyStore} {keys : Set String}

-- ---------------------------------------------------------------------------
-- What the cache and the calls may hold
-- ---------------------------------------------------------------------------

/-- An entry is over. -/
def Over (st : ApiKeyStore) (ck : CachedKey) : Prop := ck.cachedAt + apiKeyTTL ≤ st.clock

/-- An entry of a key that was verified: over, if the key has been deleted, and at its expiry. -/
structure Fresh (env : APIKeyEnv) (keys : Set String) (st : ApiKeyStore) (hash : String)
    (ck : CachedKey) : Prop where
  key  : ∃ key ∈ keys, env.sha256Hex key = hash ∧ env.parseAPIKeyID key = some ck.keyID
  late : ∀ id, env.parse ck.keyID = some id → id ∈ st.deleted → Over st ck
  ends : ∀ id, env.parse ck.keyID = some id → ∀ row, st.rows id = some row →
    ∀ e ∈ row.expiresAt, ck.cachedAt + apiKeyTTL ≤ e + 1

/-- What holds of the shared store: the entries, and that a deleted key is not active. -/
structure StoreInv (env : APIKeyEnv) (keys : Set String) (st : ApiKeyStore) : Prop where
  fresh   : ∀ hash ck, st.cache hash = some ck → ck.status = "active" → Fresh env keys st hash ck
  revoked : ∀ id ∈ st.deleted, ∀ row, st.rows id = some row → row.status ≠ "active"

/-- A call under way. -/
structure CallInv (env : APIKeyEnv) (keys : Set String) (st : ApiKeyStore) (call : Validation)
    (keyID : String) : Prop where
  key   : call.key ∈ keys
  parse : env.parseAPIKeyID call.key = some keyID
  gone  : ∀ id ∈ call.gone, id ∈ st.deleted
  since : call.since ≤ st.clock

/-- A row that has been read: an active one was not deleted when the call began. -/
def RowInv (env : APIKeyEnv) (st : ApiKeyStore) (call : Validation) (keyID : String)
    (row : ApiKeyRow) : Prop :=
  ∀ id, env.parse keyID = some id → (row.status = "active" → id ∉ call.gone) ∧
    ∀ row', st.rows id = some row' → row'.expiresAt = row.expiresAt

def TaskInv (env : APIKeyEnv) (keys : Set String) (st : ApiKeyStore) : APIKeyTask → Prop
  | .missed call keyID | .absent call keyID => CallInv env keys st call keyID
  | .fetched call keyID row => CallInv env keys st call keyID ∧ RowInv env st call keyID row
  | .verified call keyID row => CallInv env keys st call keyID ∧ RowInv env st call keyID row ∧
    row.status = "active" ∧ ∀ e ∈ row.expiresAt, call.since ≤ e
  | .answered _ status (some id) => status = 200 ∧
    ∀ row, st.rows id = some row → row.status ≠ "active"
  | .idle | .answered _ _ none | .returned _ _ | .deleted => True

/-- What a step leaves of the store: time goes on, rows are revoked at most, deletions stay. -/
structure Later (st st' : ApiKeyStore) : Prop where
  clock   : st.clock ≤ st'.clock
  deleted : ∀ id ∈ st.deleted, id ∈ st'.deleted
  rows    : ∀ id row', st'.rows id = some row' → ∃ row, st.rows id = some row ∧
    row'.expiresAt = row.expiresAt ∧ (row'.status = "active" → row.status = "active")

theorem Later.refl (st : ApiKeyStore) : Later st st :=
  ⟨le_refl _, fun _ h => h, fun _ row h => ⟨row, h, rfl, id⟩⟩

theorem Later.trans {st' st'' : ApiKeyStore} (h : Later st st') (h' : Later st' st'') :
    Later st st'' := by
  refine ⟨h.clock.trans h'.clock, fun id hid => h'.deleted id (h.deleted id hid),
    fun id row'' hrow'' => ?_⟩
  obtain ⟨row', hrow', hexpires', hactive'⟩ := h'.rows id row'' hrow''
  obtain ⟨row, hrow, hexpires, hactive⟩ := h.rows id row' hrow'
  exact ⟨row, hrow, hexpires'.trans hexpires, fun ha => hactive (hactive' ha)⟩

theorem later_wait (st : ApiKeyStore) (elapsed : Nat) : Later st (wait st elapsed) where
  clock := Int.le_add_of_nonneg_right (Int.natCast_nonneg elapsed)
  deleted := fun _ h => h
  rows := fun _ row h => ⟨row, h, rfl, id⟩

theorem CallInv.later {st' : ApiKeyStore} {call : Validation} {keyID : String}
    (h : CallInv env keys st call keyID) (hlater : Later st st') :
    CallInv env keys st' call keyID :=
  ⟨h.key, h.parse, fun id hid => hlater.deleted id (h.gone id hid), h.since.trans hlater.clock⟩

theorem RowInv.later {st' : ApiKeyStore} {call : Validation} {keyID : String} {row : ApiKeyRow}
    (h : RowInv env st call keyID row) (hlater : Later st st') :
    RowInv env st' call keyID row := by
  intro id hid
  refine ⟨(h id hid).1, fun row' hrow' => ?_⟩
  obtain ⟨row'', hrow'', hexpires, -⟩ := hlater.rows id row' hrow'
  exact hexpires.trans ((h id hid).2 row'' hrow'')

theorem TaskInv.later {st' : ApiKeyStore} {task : APIKeyTask} (h : TaskInv env keys st task)
    (hlater : Later st st') : TaskInv env keys st' task := by
  cases task with
  | missed call keyID => exact CallInv.later h hlater
  | absent call keyID => exact CallInv.later h hlater
  | fetched call keyID row => exact ⟨h.1.later hlater, h.2.later hlater⟩
  | verified call keyID row => exact ⟨h.1.later hlater, h.2.1.later hlater, h.2.2⟩
  | answered path status revoked =>
    cases revoked with
    | none => trivial
    | some id =>
      refine ⟨h.1, fun row' hrow' hactive => ?_⟩
      obtain ⟨row, hrow, -, hbefore⟩ := hlater.rows id row' hrow'
      exact h.2 row hrow (hbefore hactive)
  | idle => trivial
  | returned call result => trivial
  | deleted => trivial

/-- An entry stays what it is, unless its key has just been deleted. -/
theorem Fresh.later {st' : ApiKeyStore} {hash : String} {ck : CachedKey}
    (h : Fresh env keys st hash ck) (hlater : Later st st')
    (hsame : ∀ id, env.parse ck.keyID = some id → id ∈ st'.deleted →
      id ∈ st.deleted ∨ Over st' ck) : Fresh env keys st' hash ck := by
  refine ⟨h.key, fun id hid hdeleted => ?_, fun id hid row' hrow' e he => ?_⟩
  · rcases hsame id hid hdeleted with hbefore | hover
    · exact le_trans (h.late id hid hbefore) hlater.clock
    · exact hover
  · obtain ⟨row, hrow, hexpires, -⟩ := hlater.rows id row' hrow'
    exact h.ends id hid row hrow e (hexpires ▸ he)

/-- While nothing is stored and nothing deleted. -/
theorem StoreInv.later {st' : ApiKeyStore} (h : StoreInv env keys st) (hlater : Later st st')
    (hcache : st'.cache = st.cache) (hdeleted : st'.deleted = st.deleted) :
    StoreInv env keys st' := by
  constructor
  · intro hash ck hck hactive
    rw [hcache] at hck
    exact (h.fresh hash ck hck hactive).later hlater fun id _ hid => .inl (hdeleted ▸ hid)
  · intro id hid row' hrow' hactive
    rw [hdeleted] at hid
    obtain ⟨row, hrow, -, hbefore⟩ := hlater.rows id row' hrow'
    exact h.revoked id hid row hrow (hbefore hactive)

/-- What is known of all threads. -/
structure Inv (env : APIKeyEnv) (keys : Set String) (p : State) : Prop where
  store : StoreInv env keys p.store
  tasks : ∀ t, TaskInv env keys p.store (p.task t)

-- ---------------------------------------------------------------------------
-- One step
-- ---------------------------------------------------------------------------

section Step

variable {call : Validation} {keyID : String} {row : ApiKeyRow} {answers : Bool}

theorem keyID_ne_empty {key : String} (h : env.parseAPIKeyID key = some keyID) : keyID ≠ "" := by
  unfold APIKeyEnv.parseAPIKeyID at h
  dsimp only at h
  split_ifs at h with _ hlong _ _
  rw [Option.some.injEq] at h
  rintro rfl
  have hlength := congrArg (fun s => s.toList.length) h
  simp only [String.toList_ofList, List.length_take] at hlength
  have hzero : "".toList.length = 0 := rfl
  omega

theorem lookup_inv {key : String} (hkey : key ∈ keys) : TaskInv env keys st (st.lookup env key) := by
  unfold ApiKeyStore.lookup
  split
  · trivial
  · rename_i keyID hparse
    split
    · exact ⟨hkey, hparse, fun _ hid => hid, le_refl _⟩
    · split_ifs
      · trivial
      · trivial

theorem fetch_inv (hstore : StoreInv env keys st) (h : CallInv env keys st call keyID) :
    TaskInv env keys st (st.fetch env answers call keyID) := by
  unfold ApiKeyStore.fetch
  split_ifs
  · split
    · exact h
    · rename_i row hrow
      refine ⟨h, fun id hid => ?_⟩
      rw [hid, Option.bind_some] at hrow
      refine ⟨fun hactive hgone => hstore.revoked id (h.gone id hgone) row hrow hactive,
        fun row' hrow' => ?_⟩
      rw [hrow, Option.some.injEq] at hrow'
      rw [hrow']
  · trivial

theorem check_inv (h : CallInv env keys st call keyID) (hrow : RowInv env st call keyID row)
    (htimely : TimelyTask env st (.fetched call keyID row)) :
    TaskInv env keys st (st.check env call keyID row) := by
  unfold ApiKeyStore.check
  split_ifs with hactive hexpired hverify
  · trivial
  · trivial
  · trivial
  · refine ⟨h, hrow, not_not.mp hactive, fun e he => ?_⟩
    rcases htimely e he with hexpires | hbefore
    · rw [Option.mem_def.mp he, Option.any_some, hexpires, Bool.true_and, decide_eq_true_eq,
        not_lt] at hexpired
      exact h.since.trans hexpired
    · exact hbefore

/-- An entry is stored. -/
theorem put_inv (hstore : StoreInv env keys st) {ck : CachedKey}
    (hnew : ck.status = "active" → Fresh env keys st (env.sha256Hex call.key) ck) :
    Later st (st.put env call.key ck) ∧ StoreInv env keys (st.put env call.key ck) := by
  have hlater : Later st (st.put env call.key ck) :=
    ⟨le_refl _, fun _ hid => hid, fun _ row hrow => ⟨row, hrow, rfl, id⟩⟩
  refine ⟨hlater, fun hash ck' hck' hactive => ?_, hstore.revoked⟩
  by_cases hhash : hash = env.sha256Hex call.key
  · subst hhash
    simp only [ApiKeyStore.put, Function.update_self, Option.some.injEq] at hck'
    subst hck'
    exact (hnew hactive).later hlater fun _ _ hid => .inl hid
  · simp only [ApiKeyStore.put, Function.update_of_ne hhash] at hck'
    exact (hstore.fresh hash ck' hck' hactive).later hlater fun _ _ hid => .inl hid

/-- What was verified may be stored, if it is not too late. -/
theorem fresh_of_verified (h : CallInv env keys st call keyID)
    (hrow : RowInv env st call keyID row)
    (htimely : TimelyTask env st (.verified call keyID row)) :
    Fresh env keys st (env.sha256Hex call.key)
      ⟨keyID, row.tenantID.string, row.scopes, row.status, st.clock⟩ where
  key := ⟨call.key, h.key, rfl, h.parse⟩
  late := fun id hid hdeleted => absurd hdeleted (htimely.1 id hid)
  ends := fun id hid row' hrow' e he => htimely.2 e ((hrow id hid).2 row' hrow' ▸ he)

theorem revoked_ne_active : "revoked" ≠ "active" := by decide

theorem revoke_later (st : ApiKeyStore) (id tenantID : UUID) : Later st (st.revoke id tenantID).1 := by
  unfold ApiKeyStore.revoke
  split
  · exact Later.refl st
  · rename_i row hrow
    split_ifs
    · refine ⟨le_refl _, fun _ hid => hid, fun id' row' hrow' => ?_⟩
      by_cases hid : id' = id
      · subst hid
        simp only [Function.update_self, Option.some.injEq] at hrow'
        subst hrow'
        exact ⟨row, hrow, rfl, fun hactive => absurd hactive revoked_ne_active⟩
      · simp only [Function.update_of_ne hid] at hrow'
        exact ⟨row', hrow', rfl, fun hactive => hactive⟩
    · exact Later.refl st

theorem revoke_keeps (st : ApiKeyStore) (id tenantID : UUID) :
    (st.revoke id tenantID).1.cache = st.cache ∧ (st.revoke id tenantID).1.deleted = st.deleted ∧
      ((st.revoke id tenantID).2 = true → ∀ row, (st.revoke id tenantID).1.rows id = some row →
        row.status ≠ "active") := by
  unfold ApiKeyStore.revoke
  split
  · exact ⟨rfl, rfl, fun h => by cases h⟩
  · split_ifs
    · refine ⟨rfl, rfl, fun _ row' hrow' => ?_⟩
      simp only [Function.update_self, Option.some.injEq] at hrow'
      subst hrow'
      exact revoked_ne_active
    · exact ⟨rfl, rfl, fun h => by cases h⟩

theorem backendDelete_inv (hstore : StoreInv env keys st) (path : String) (tenantID : UUID) :
    Later st (st.backendDelete env answers path tenantID).1 ∧
      StoreInv env keys (st.backendDelete env answers path tenantID).1 ∧
      TaskInv env keys (st.backendDelete env answers path tenantID).1
        (st.backendDelete env answers path tenantID).2 := by
  have hidle : ∀ status, Later st st ∧ StoreInv env keys st ∧
      TaskInv env keys st (.answered path status none) :=
    fun _ => ⟨Later.refl st, hstore, trivial⟩
  unfold ApiKeyStore.backendDelete
  dsimp only
  split
  · exact hidle 405
  · split
    · exact hidle 400
    · split
      · exact hidle 400
      · rename_i id _
        split
        · obtain ⟨hcache, hdeleted, hrevoked⟩ := revoke_keeps st id tenantID
          have hlater := revoke_later st id tenantID
          refine ⟨hlater, hstore.later hlater hcache hdeleted, ?_⟩
          dsimp only
          split_ifs with hfound
          · exact ⟨rfl, hrevoked hfound⟩
          · trivial
        · exact hidle 500

/-- **The end of a deletion** clears the cache of the key, if the spellings agree. -/
theorem answered_inv (hstore : StoreInv env keys st) {path : String} {status : Int}
    {revoked : Option UUID} (htask : TaskInv env keys st (.answered path status revoked))
    (htimely : TimelyTask env st (.answered path status revoked)) :
    Later st { st.intercept env path status with deleted := revoked.toList ++ st.deleted } ∧
      StoreInv env keys
        { st.intercept env path status with deleted := revoked.toList ++ st.deleted } := by
  have hrows : (st.intercept env path status).rows = st.rows ∧
      (st.intercept env path status).clock = st.clock := by
    unfold ApiKeyStore.intercept
    dsimp only
    split_ifs <;> exact ⟨rfl, rfl⟩
  have hkept : ∀ hash ck, (st.intercept env path status).cache hash = some ck →
      st.cache hash = some ck ∧ (status = 200 → ck.keyID = env.extractKeyIDFromPath path →
        env.extractKeyIDFromPath path = "") := by
    unfold ApiKeyStore.intercept
    dsimp only
    intro hash ck hck
    split_ifs at hck with hempty hstatus
    · exact ⟨hck, fun _ _ => hempty⟩
    · obtain ⟨hthere, hother⟩ := Option.filter_eq_some_iff.mp hck
      exact ⟨hthere, fun _ hsame => absurd hsame (of_decide_eq_true hother)⟩
    · refine ⟨hck, fun hok => absurd ?_ hstatus⟩
      rw [hok]
      decide
  have hlater : Later st
      { st.intercept env path status with deleted := revoked.toList ++ st.deleted } :=
    ⟨hrows.2.ge, fun id hid => List.mem_append_right _ hid,
      fun id row hrow => ⟨row, hrows.1 ▸ hrow, rfl, fun hactive => hactive⟩⟩
  refine ⟨hlater, fun hash ck hck hactive => ?_, fun id hid row hrow => ?_⟩
  · obtain ⟨hthere, hcleared⟩ := hkept hash ck hck
    have hfresh := hstore.fresh hash ck hthere hactive
    refine hfresh.later hlater fun id hid hdeleted => ?_
    rcases List.mem_append.mp hdeleted with hnow | hbefore
    · right
      obtain rfl : revoked = some id := Option.mem_toList.mp hnow
      -- an entry that is not over has the spelling of the path, and is gone
      by_contra hlive
      have hlive : st.clock - ck.cachedAt < apiKeyTTL := by
        unfold Over at hlive
        dsimp only at hlive
        rw [hrows.2, not_le] at hlive
        exact Int.sub_left_lt_of_lt_add hlive
      have hsame := htimely hash ck hthere hactive hlive hid
      obtain ⟨key, -, -, hparse⟩ := hfresh.key
      have hempty := hsame.trans (hcleared htask.1 hsame)
      rw [hempty] at hparse
      exact keyID_ne_empty hparse rfl
    · exact .inl hbefore
  · rcases List.mem_append.mp hid with hnow | hbefore
    · obtain rfl : revoked = some id := Option.mem_toList.mp hnow
      exact htask.2 row (hrows.1 ▸ hrow)
    · exact hstore.revoked id hbefore row (hrows.1 ▸ hrow)

/-- **One step** of a thread keeps what is known of the store, and of the thread. -/
theorem act_inv {task : APIKeyTask} {next : APIKeyCall} (hstore : StoreInv env keys st)
    (htask : TaskInv env keys st task) (hpresented : ∀ key, next = .validate key → key ∈ keys)
    (htimely : TimelyTask env st task) :
    Later st (task.act env next answers st).1 ∧
      StoreInv env keys (task.act env next answers st).1 ∧
      TaskInv env keys (task.act env next answers st).1 (task.act env next answers st).2 := by
  cases task with
  | idle =>
    cases next with
    | validate key => exact ⟨Later.refl st, hstore, lookup_inv (hpresented key rfl)⟩
    | delete path tenantID => exact backendDelete_inv hstore path tenantID
  | missed call keyID => exact ⟨Later.refl st, hstore, fetch_inv hstore htask⟩
  | absent call keyID =>
    have hother : "not_found" ≠ "active" := by decide
    obtain ⟨hlater, hput⟩ := @put_inv env st keys call hstore ⟨keyID, "", [], "not_found", st.clock⟩
      fun hactive => absurd hactive hother
    exact ⟨hlater, hput, trivial⟩
  | fetched call keyID row =>
    exact ⟨Later.refl st, hstore, check_inv htask.1 htask.2 htimely⟩
  | verified call keyID row =>
    obtain ⟨hlater, hput⟩ := @put_inv env st keys call hstore
      ⟨keyID, row.tenantID.string, row.scopes, row.status, st.clock⟩
      fun _ => fresh_of_verified htask.1 htask.2.1 htimely
    exact ⟨hlater, hput, trivial⟩
  | returned call result => exact ⟨Later.refl st, hstore, trivial⟩
  | answered path status revoked =>
    obtain ⟨hlater, hend⟩ := answered_inv hstore htask htimely
    exact ⟨hlater, hend, trivial⟩
  | deleted => exact ⟨Later.refl st, hstore, trivial⟩

/-- What the cache accepts is neither deleted nor past its expiry. -/
theorem lookup_sound (hsha : Set.InjOn env.sha256Hex keys) (hstore : StoreInv env keys st)
    {key : String} (hkey : key ∈ keys) {result : String × List String} {id : UUID}
    (haccepts : st.lookup env key = .returned call (.ok result))
    (hparse : env.parseAPIKeyID call.key = some keyID) (hid : env.parse keyID = some id) :
    id ∉ call.gone ∧ ∀ row, st.rows id = some row → ∀ e ∈ row.expiresAt, call.since ≤ e := by
  unfold ApiKeyStore.lookup at haccepts
  dsimp only at haccepts
  split at haccepts
  · cases haccepts
  · split at haccepts
    · cases haccepts
    · rename_i ck hck
      split_ifs at haccepts with hactive
      · cases haccepts
      obtain ⟨hcall, -⟩ := APIKeyTask.returned.inj haccepts
      have hkeySame : key = call.key := congrArg Validation.key hcall
      have hsince : st.clock = call.since := congrArg Validation.since hcall
      have hgoneSame : st.deleted = call.gone := congrArg Validation.gone hcall
      obtain ⟨hck, hlive⟩ := Option.filter_eq_some_iff.mp hck
      have hlive : st.clock < ck.cachedAt + apiKeyTTL :=
        Int.lt_add_of_sub_left_lt (of_decide_eq_true hlive)
      have hfresh := hstore.fresh _ ck hck (not_not.mp hactive)
      obtain ⟨key', hkey', hhash, hparse'⟩ := hfresh.key
      obtain rfl := hsha hkey' hkey hhash
      rw [← hkeySame, hparse', Option.some.injEq] at hparse
      rw [← hparse] at hid
      rw [← hgoneSame, ← hsince]
      refine ⟨fun hgone => absurd (hfresh.late id hid hgone) (not_le.mpr hlive),
        fun row hrow e he => ?_⟩
      exact Int.le_of_lt_add_one (lt_of_lt_of_le hlive (hfresh.ends id hid row hrow e he))

/-- **What a thread accepts** is neither deleted when its call began nor past its expiry. -/
theorem act_sound {task : APIKeyTask} {next : APIKeyCall} (hsha : Set.InjOn env.sha256Hex keys)
    (hstore : StoreInv env keys st) (htask : TaskInv env keys st task)
    (hpresented : ∀ key, next = .validate key → key ∈ keys) {result : String × List String}
    {id : UUID} (haccepts : (task.act env next answers st).2 = .returned call (.ok result))
    (hrunning : ∀ call' result', task ≠ .returned call' result')
    (hparse : env.parseAPIKeyID call.key = some keyID) (hid : env.parse keyID = some id) :
    id ∉ call.gone ∧ ∀ row, st.rows id = some row → ∀ e ∈ row.expiresAt, call.since ≤ e := by
  cases task with
  | idle =>
    cases next with
    | validate key => exact lookup_sound hsha hstore (hpresented key rfl) haccepts hparse hid
    | delete path tenantID =>
      have hanswered : ∃ status revoked, (st.backendDelete env answers path tenantID).2 =
          .answered path status revoked := by
        unfold ApiKeyStore.backendDelete
        dsimp only
        split
        · exact ⟨_, _, rfl⟩
        · split
          · exact ⟨_, _, rfl⟩
          · split
            · exact ⟨_, _, rfl⟩
            · split <;> exact ⟨_, _, rfl⟩
      obtain ⟨status, revoked, hanswered⟩ := hanswered
      rw [APIKeyTask.act, hanswered] at haccepts
      cases haccepts
  | missed call' keyID' =>
    simp only [APIKeyTask.act, ApiKeyStore.fetch] at haccepts
    split at haccepts
    · split at haccepts <;> cases haccepts
    · cases haccepts
  | absent call' keyID' => cases haccepts
  | fetched call' keyID' row =>
    simp only [APIKeyTask.act, ApiKeyStore.check] at haccepts
    split_ifs at haccepts <;> cases haccepts
  | verified call' keyID' row =>
    obtain ⟨hcall, hrow, hactive, hsince⟩ := htask
    cases haccepts
    obtain rfl : keyID' = keyID := Option.some.inj (hcall.parse.symm.trans hparse)
    exact ⟨(hrow id hid).1 hactive, fun row' hrow' e he =>
      hsince e ((hrow id hid).2 row' hrow' ▸ he)⟩
  | returned call' result' => exact absurd rfl (hrunning call' result')
  | answered path status revoked => cases haccepts
  | deleted => cases haccepts

end Step

-- ---------------------------------------------------------------------------
-- Runs
-- ---------------------------------------------------------------------------

theorem Inv.waited {p : State} (h : Inv env keys p) (elapsed : Nat) :
    Inv env keys ⟨wait p.store elapsed, p.task⟩ where
  store := h.store.later (later_wait p.store elapsed) rfl rfl
  tasks := fun t => (h.tasks t).later (later_wait p.store elapsed)

theorem Inv.step {p : State} {a : APIKeyStep} (h : Inv env keys p)
    (hpresented : ∀ key, a.call = .validate key → key ∈ keys) (htimely : Timely env p a) :
    Inv env keys (step env p a) := by
  obtain ⟨hstore, htasks⟩ := h.waited a.elapsed
  obtain ⟨hlater, hnext, htask⟩ := act_inv hstore (htasks a.thread) hpresented htimely
  exact ⟨hnext, Threads.forall_put htasks (fun _ ht => ht.later hlater) htask⟩

theorem start_inv (rows : UUID → Option ApiKeyRow) (clock : Time) :
    Inv env keys (start rows clock) where
  store := ⟨fun _ _ hnone => (by cases hnone), fun _ hid => absurd hid List.not_mem_nil⟩
  tasks := fun _ => trivial

/-- **No call accepts a key after its deletion** through the gateway, or its expiry, in a run in
which nothing is stored late, and ids are spelled one way. -/
theorem deleted_keys_refused (env : APIKeyEnv) (rows : UUID → Option ApiKeyRow) (clock : Time)
    (steps : List APIKeyStep) (hsha : Set.InjOn env.sha256Hex (presented steps))
    (htimely : StepsOk (step env) (Timely env) (start rows clock) steps) :
    StepsOk (step env) (Sound env) (start rows clock) steps := by
  have hall : StepsOk (step env) (fun _ a => a ∈ steps) (start rows clock) steps :=
    stepsOk_of_forall fun _ ha => ha
  have hpresented : ∀ a ∈ steps, ∀ key, a.call = .validate key → key ∈ presented steps :=
    fun a ha key hkey => ⟨a, ha, hkey⟩
  have hstep : ∀ p a, Inv env (presented steps) p → Timely env p a ∧ a ∈ steps →
      Inv env (presented steps) (step env p a) :=
    fun p a h hok => h.step (hpresented a hok.2) hok.1
  refine stepsOk_of_invariant hstep ?_ (start_inv rows clock) (htimely.and hall)
  intro p a h hok call result keyID id haccepts hrunning hparse hid
  obtain ⟨hstore, htasks⟩ := h.waited a.elapsed
  rw [step, Threads.put_task_self] at haccepts
  exact act_sound hsha hstore (htasks a.thread) (hpresented a hok.2) haccepts hrunning hparse hid

end APIKeys

namespace Sample

open APIKeys

def aliceKeyID : UUID := 0x0000000a000000000000000000000007#128

def aliceKey : String := "ggid_sk_0000000a-0000-0000-0000-000000000007_secret"

/-- `uuid.Parse` on the two spellings below, SHA-256 of the one key. -/
def keyEnv : APIKeyEnv where
  parse := fun text =>
    if text = "0000000a-0000-0000-0000-000000000007" ∨
      text = "0000000A-0000-0000-0000-000000000007" then some aliceKeyID else none
  sha256Hex := fun text =>
    if text = aliceKey then "d73befa1c4243cd6a8784a91ae792396f046485f3a135fbb9ba3e18e74e80bc9"
    else text
  verifyPassword := fun _ hash => hash == "$argon2id$"
  utcOffset := 0

/-- The key of one tenant, with an expiry. -/
def keyRows (expiresAt : Option Time) : UUID → Option ApiKeyRow := fun id =>
  if id = aliceKeyID then some ⟨1, "$argon2id$", [], "active", expiresAt⟩ else none

def validates (thread elapsed : Nat) : APIKeyStep := ⟨thread, elapsed, .validate aliceKey, true⟩

def deletes (thread : Nat) (id : String) : APIKeyStep :=
  ⟨thread, 0, .delete ("/api/v1/auth/api-keys/" ++ id) 1, true⟩

/-- A call in its four steps. -/
def validated (thread : Nat) : List APIKeyStep := List.replicate 4 (validates thread 0)

/-- The key is validated, and then deleted. -/
def deletedLater : List APIKeyStep :=
  validated 0 ++ List.replicate 2 (deletes 1 "0000000a-0000-0000-0000-000000000007")

/-- The key is deleted while it is being validated, and validated again. -/
def storedLate : List APIKeyStep :=
  List.replicate 3 (validates 0 0) ++
    List.replicate 2 (deletes 1 "0000000a-0000-0000-0000-000000000007") ++
      [validates 0 0, validates 2 0]

/-- The id is spelled with a capital in the path. -/
def otherSpelling : List APIKeyStep :=
  validated 0 ++ List.replicate 2 (deletes 1 "0000000A-0000-0000-0000-000000000007") ++
    [validates 2 0]

/-- The key is validated three seconds before it expires, and again one second after. -/
def pastExpiry : List APIKeyStep := validated 0 ++ [validates 1 4000000000]

def keyExpiry : Time := 1900000000 * second

theorem timely_deletedLater :
    StepsOk (step keyEnv) (Timely keyEnv) (start (keyRows none) 0) deletedLater := by
  let row : ApiKeyRow := ⟨1, "$argon2id$", [], "active", none⟩
  let call : Validation := ⟨aliceKey, 0, []⟩
  let id := "0000000a-0000-0000-0000-000000000007"
  have hmissed : (run (step keyEnv) (start (keyRows none) 0) (deletedLater.take 1)).task 0 =
      .missed call id := by decide
  have hfetched : (run (step keyEnv) (start (keyRows none) 0) (deletedLater.take 2)).task 0 =
      .fetched call id row := by decide
  have hverified : (run (step keyEnv) (start (keyRows none) 0) (deletedLater.take 3)).task 0 =
      .verified call id row := by decide
  have hanswered : (run (step keyEnv) (start (keyRows none) 0) (deletedLater.take 5)).task 1 =
      .answered ("/api/v1/auth/api-keys/" ++ id) 200 (some aliceKeyID) := by decide
  refine ⟨timely_of_task keyEnv rfl trivial, timely_of_task keyEnv hmissed trivial,
    timely_of_task keyEnv hfetched fun _ he => absurd he (Option.not_mem_none _),
    timely_of_task keyEnv hverified ⟨fun _ _ => List.not_mem_nil,
      fun _ he => absurd he (Option.not_mem_none _)⟩,
    timely_of_task keyEnv rfl trivial, timely_of_task keyEnv hanswered ?_, trivial⟩
  intro hash ck hck _ _ _
  have hcache : (run (step keyEnv) (start (keyRows none) 0) (deletedLater.take 5)).store.cache =
      Function.update (fun _ => none) (keyEnv.sha256Hex aliceKey)
        (some ⟨id, row.tenantID.string, [], "active", 0⟩) := by
    rfl
  have hck : (run (step keyEnv) (start (keyRows none) 0) (deletedLater.take 5)).store.cache hash =
      some ck := hck
  rw [hcache] at hck
  by_cases hhash : hash = keyEnv.sha256Hex aliceKey
  · rw [hhash, Function.update_self, Option.some.injEq] at hck
    rw [← hck]
    decide
  · rw [Function.update_of_ne hhash] at hck
    cases hck

end Sample

open Sample APIKeys in
theorem deleted_keys_refused_sample :
    StepsOk (step keyEnv) (Sound keyEnv) (start (keyRows none) 0) deletedLater := by
  refine deleted_keys_refused keyEnv (keyRows none) 0 deletedLater ?_ timely_deletedLater
  have honly : ∀ key ∈ presented deletedLater, key = aliceKey := by
    rintro key ⟨a, ha, hkey⟩
    have hcalls : ∀ a ∈ deletedLater, ∀ key, a.call = .validate key → key = aliceKey := by
      intro a ha key hkey
      rcases List.mem_append.mp ha with ha | ha
      · rw [List.eq_of_mem_replicate ha] at hkey
        exact (APIKeyCall.validate.inj hkey).symm
      · rw [List.eq_of_mem_replicate ha] at hkey
        cases hkey
    exact hcalls a ha key hkey
  exact fun key hkey key' hkey' _ => (honly key hkey).trans (honly key' hkey').symm

open Sample APIKeys in
/-- A key is accepted after its deletion, and after its expiry. -/
theorem deleted_key_accepted :
    ¬ StepsOk (step keyEnv) (Sound keyEnv) (start (keyRows none) 0) storedLate ∧
    ¬ StepsOk (step keyEnv) (Sound keyEnv) (start (keyRows none) 0) otherSpelling ∧
    ¬ StepsOk (step keyEnv) (Sound keyEnv)
      (start (keyRows (some keyExpiry)) (keyExpiry - 3 * second)) pastExpiry := by
  have hparse : keyEnv.parseAPIKeyID aliceKey = some "0000000a-0000-0000-0000-000000000007" := by
    decide
  have hid : keyEnv.parse "0000000a-0000-0000-0000-000000000007" = some aliceKeyID := by
    decide
  refine ⟨fun h => ?_, fun h => ?_, fun h => ?_⟩
  · obtain ⟨-, -, -, -, -, -, hlast, -⟩ := h
    have haccepts : (run (step keyEnv) (start (keyRows none) 0) storedLate).task 2 =
        .returned ⟨aliceKey, 0, [aliceKeyID]⟩ (.ok (UUID.string 1, [])) := by
      decide
    exact (sound_of_idle keyEnv hlast rfl haccepts hparse hid).1 (List.mem_singleton_self _)
  · obtain ⟨-, -, -, -, -, -, hlast, -⟩ := h
    have haccepts : (run (step keyEnv) (start (keyRows none) 0) otherSpelling).task 2 =
        .returned ⟨aliceKey, 0, [aliceKeyID]⟩ (.ok (UUID.string 1, [])) := by
      decide
    exact (sound_of_idle keyEnv hlast rfl haccepts hparse hid).1 (List.mem_singleton_self _)
  · obtain ⟨-, -, -, -, hlast, -⟩ := h
    have haccepts : (run (step keyEnv) (start (keyRows (some keyExpiry))
        (keyExpiry - 3 * second)) pastExpiry).task 1 =
        .returned ⟨aliceKey, keyExpiry + second, []⟩ (.ok (UUID.string 1, [])) := by
      decide
    have hbefore := (sound_of_idle keyEnv hlast rfl haccepts hparse hid).2
      ⟨1, "$argon2id$", [], "active", some keyExpiry⟩ (by decide) keyExpiry rfl
    exact absurd hbefore (by decide)

end Ggid.Gateway
