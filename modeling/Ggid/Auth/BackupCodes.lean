import Ggid.Auth.Credentials
import Ggid.Go.Bytes
import Ggid.Lib.Run

/-!
# Auth service — backup codes

`BackupCodeService` over its two repositories. A repository is described by the codes it lists for a
user and those it deletes (`Follows`); the one in memory lists the codes of everyone, and deletes
those of the user in every tenant.

* `CodesSound.act`      — what holds of generated and of accepted codes, over either repository;
* `Agree.act`           — the two repositories have the same codes for everyone;
* `backup_codes_agree`  — over PostgreSQL, codes are accepted once and from their owner; in memory,
  and with the same answers, where no other user's code is listed or deleted.
-/

namespace Ggid.Auth

open Ggid.Go Ggid.Lib

-- ---------------------------------------------------------------------------
-- The repositories
-- ---------------------------------------------------------------------------

structure BackupCode where
  id        : UUID
  tenantID  : UUID
  userID    : UUID
  codeHash  : String
  usedAt    : Option Time
  createdAt : Time
  deriving DecidableEq

abbrev BackupCodeTable := Table BackupCode.id

def BackupCode.withUsedAt (now : Time) (c : BackupCode) : BackupCode :=
  { c with usedAt := some now }

/-- An order in which rows come, of a map or of a query. -/
structure Order where
  sort : List BackupCode → List BackupCode
  perm : ∀ l, (sort l).Perm l

structure BackupCodeRepository where
  create     : List BackupCode → BackupCodeTable → Option BackupCodeTable
  listUnused : Order → UUID → UUID → BackupCodeTable → List BackupCode
  markUsed   : Time → UUID → BackupCodeTable → Option BackupCodeTable
  deleteAll  : UUID → UUID → BackupCodeTable → BackupCodeTable

/-- `inMemBackupCodeRepo`. -/
def inMemBackupCodeRepo : BackupCodeRepository where
  create codes t :=
    some (codes.foldl (fun t c => t.upsert c (fun b => { c with id := b.id }) fun _ => rfl) t)
  listUnused order _ _ t := order.sort (t.rows.filter fun c => c.usedAt.isNone)
  markUsed now id t :=
    match t.find? id with
    | none => none
    | some c =>
      if c.usedAt ≠ none then none
      else some (t.update (fun c => c.id = id) (BackupCode.withUsedAt now) fun _ => rfl)
  deleteAll _ userID t := t.delete fun c => c.userID = userID

/-- `PgBackupCodeRepo`. -/
def pgBackupCodeRepo : BackupCodeRepository where
  create codes t := codes.foldlM (fun t c => t.insert? c) t
  listUnused order tenantID userID t := order.sort (t.rows.filter fun c =>
    c.tenantID = tenantID && c.userID = userID && c.usedAt.isNone)
  markUsed now id t :=
    let unused := fun c : BackupCode => c.id = id && c.usedAt.isNone
    if t.rows.any unused then some (t.update unused (BackupCode.withUsedAt now) fun _ => rfl)
    else none
  deleteAll tenantID userID t := t.delete fun c => c.tenantID = tenantID && c.userID = userID

-- ---------------------------------------------------------------------------
-- The service
-- ---------------------------------------------------------------------------

def backupCodeCount : Nat := 10

def charset : List Char := "ABCDEFGHJKLMNPQRSTUVWXYZ23456789".toList

/-- `generateBackupCode`, for the bytes it draws. -/
def generateBackupCode (b : Bytes) : String :=
  let code := b.map fun x => charset.getD (x.toNat % charset.length) 'A'
  String.ofList (code.take 4 ++ '-' :: code.drop 4)

/-- What is drawn for a code; `none` is a failing read. -/
structure CodeDraw where
  random : Option Bytes
  salt   : Nat
  id     : UUID

/-- A code with its hash. -/
structure CodePair where
  id    : UUID
  plain : String
  hash  : String
  deriving DecidableEq

def CodeDraw.plain (d : CodeDraw) : Option String := d.random.map generateBackupCode

def CodeDraw.pair (crypto : PasswordHash) (d : CodeDraw) : Option CodePair :=
  d.plain.bind fun plain => (crypto.hash d.salt plain).map fun hash => ⟨d.id, plain, hash⟩

def CodePair.row (tenantID userID : UUID) (now : Time) (p : CodePair) : BackupCode :=
  ⟨p.id, tenantID, userID, p.hash, none, now⟩

structure GenerateDraw where
  now   : Time
  codes : Nat → CodeDraw

def GenerateDraw.draws (d : GenerateDraw) : List CodeDraw :=
  (List.range backupCodeCount).map d.codes

/-- The codes that are drawn, and hashed. -/
def GenerateDraw.pairs (crypto : PasswordHash) (d : GenerateDraw) :
    Except String (List CodePair) :=
  if d.draws.any fun code => code.plain.isNone then
    .error "generate backup code: crypto/rand failed"
  else if d.draws.any fun code => (code.pair crypto).isNone then .error "hash backup code"
  else .ok (d.draws.filterMap (CodeDraw.pair crypto))

/-- `GenerateBackupCodes`; the caller gets the plain codes of the pairs. -/
def generateBackupCodes (crypto : PasswordHash) (repo : BackupCodeRepository) (d : GenerateDraw)
    (st : BackupCodeTable) (tenantID : Option UUID) (userID : UUID) :
    BackupCodeTable × Except String (List CodePair) :=
  match tenantID with
  | none => (st, .error "tenant context required")
  | some tenantID =>
    let st := repo.deleteAll tenantID userID st
    match d.pairs crypto with
    | .error message => (st, .error message)
    | .ok pairs =>
      match repo.create (pairs.map (CodePair.row tenantID userID d.now)) st with
      | none => (st, .error "store backup codes")
      | some st => (st, .ok pairs)

/-- The loop of `VerifyBackupCode`, with the code it used up. -/
def verifyLoop (crypto : PasswordHash) (repo : BackupCodeRepository) (now : Time) (code : String) :
    List BackupCode → BackupCodeTable → BackupCodeTable × Option BackupCode
  | [], st => (st, none)
  | bc :: codes, st =>
    if crypto.verify code bc.codeHash = some true then
      match repo.markUsed now bc.id st with
      | none => verifyLoop crypto repo now code codes st
      | some st => (st, some bc)
    else verifyLoop crypto repo now code codes st

/-- `VerifyBackupCode`; `none` is `ErrInvalidBackupCode`. -/
def verifyBackupCode (crypto : PasswordHash) (repo : BackupCodeRepository) (now : Time)
    (order : Order) (st : BackupCodeTable) (tenantID userID : UUID) (code : String) :
    BackupCodeTable × Option BackupCode :=
  verifyLoop crypto repo now code (repo.listUnused order tenantID userID st) st

-- ---------------------------------------------------------------------------
-- Runs
-- ---------------------------------------------------------------------------

namespace BackupCodes

/-- A code that was generated for a user, or accepted from one. -/
structure UserCode where
  id       : UUID
  tenantID : UUID
  userID   : UUID
  code     : String
  deriving DecidableEq

def userCode (tenantID userID : UUID) (p : CodePair) : UserCode := ⟨p.id, tenantID, userID, p.plain⟩

/-- The codes that are stored, that were generated and that were accepted, the last one first. -/
structure History where
  store     : BackupCodeTable
  generated : List UserCode
  accepted  : List UserCode

inductive Backend where
  | inMemory
  | postgres
  deriving DecidableEq

def Backend.repo : Backend → BackupCodeRepository
  | inMemory => inMemBackupCodeRepo
  | postgres => pgBackupCodeRepo

/-- A call; to generate codes again is to replace them. -/
inductive Call where
  | generate (d : GenerateDraw) (tenantID : Option UUID) (userID : UUID)
  | verify (now : Time) (order : Backend → Order) (tenantID userID : UUID) (code : String)

/-- A call, and its answer: the plain codes of `GenerateBackupCodes`, or nothing. -/
def act (crypto : PasswordHash) (b : Backend) (h : History) :
    Call → History × Except String (List String)
  | .generate d tenantID userID =>
    match generateBackupCodes crypto b.repo d h.store tenantID userID with
    | (store, .error message) => ({ h with store }, .error message)
    | (store, .ok pairs) =>
      ({ h with
          store
          generated := pairs.map (userCode (tenantID.getD UUID.nil) userID) ++ h.generated },
        .ok (pairs.map CodePair.plain))
  | .verify now order tenantID userID code =>
    match verifyBackupCode crypto b.repo now (order b) h.store tenantID userID code with
    | (store, none) => ({ h with store }, .error "invalid or used backup code")
    | (store, some bc) =>
      ({ h with store, accepted := ⟨bc.id, tenantID, userID, code⟩ :: h.accepted }, .ok [])

def step (crypto : PasswordHash) (b : Backend) (h : History) (c : Call) : History :=
  (act crypto b h c).1

def empty : History := ⟨.empty, [], []⟩

/-- Codes are accepted from the user they were generated for, and each of them once. -/
structure AcceptedOnce (h : History) : Prop where
  unique    : (h.generated.map UserCode.id).Nodup
  generated : ∀ a ∈ h.accepted, a ∈ h.generated
  once      : (h.accepted.map UserCode.id).Nodup

/-- The IDs a call draws. -/
def Call.ids : Call → List UUID
  | .generate d _ _ => d.draws.map CodeDraw.id
  | .verify .. => []

/-- A hash verifies with nothing but its password. -/
def VerifiesOwn (crypto : PasswordHash) : Prop :=
  ∀ password password' secret, crypto.IsHash password secret →
    crypto.verify password' secret = some true → password' = password

/-- The codes a repository lists for a user, and those it deletes. -/
structure Scope where
  lists   : UUID → UUID → BackupCode → Bool
  deletes : UUID → UUID → BackupCode → Bool

def Backend.scope : Backend → Scope
  | inMemory => ⟨fun _ _ _ => true, fun _ userID c => c.userID = userID⟩
  | postgres => ⟨fun tenantID userID c => c.tenantID = tenantID && c.userID = userID,
      fun tenantID userID c => c.tenantID = tenantID && c.userID = userID⟩

/-- No unused code that is listed and matches, or that is deleted, is another user's. -/
def OwnCodes (crypto : PasswordHash) (b : Backend) (h : History) : Call → Prop
  | .generate _ none _ => True
  | .generate _ (some tenantID) userID => ∀ c ∈ h.store, c.usedAt = none →
    b.scope.deletes tenantID userID c = true → c.tenantID = tenantID ∧ c.userID = userID
  | .verify _ _ tenantID userID code => ∀ c ∈ h.store, c.usedAt = none →
    b.scope.lists tenantID userID c = true → crypto.verify code c.codeHash = some true →
      c.tenantID = tenantID ∧ c.userID = userID

-- ---------------------------------------------------------------------------
-- What a repository does
-- ---------------------------------------------------------------------------

structure Follows (repo : BackupCodeRepository) (scope : Scope) : Prop where
  create : ∀ codes t, (codes.map BackupCode.id).Nodup → (∀ c ∈ codes, ∀ b ∈ t, b.id ≠ c.id) →
    ∃ t', repo.create codes t = some t' ∧ t'.rows = t.rows ++ codes
  mem_listUnused : ∀ order tenantID userID t c, c ∈ repo.listUnused order tenantID userID t ↔
    c ∈ t ∧ c.usedAt = none ∧ scope.lists tenantID userID c = true
  markUsed : ∀ now t c l₁ l₂, t.rows = l₁ ++ c :: l₂ → c.usedAt = none →
    ∃ t', repo.markUsed now c.id t = some t' ∧ t'.rows = l₁ ++ c.withUsedAt now :: l₂
  deleteAll : ∀ tenantID userID t, (repo.deleteAll tenantID userID t).rows =
    t.rows.filter fun c => !scope.deletes tenantID userID c

/-- What is the user's own is listed and deleted. -/
theorem own_inScope (b : Backend) (c : BackupCode) :
    b.scope.lists c.tenantID c.userID c = true ∧ b.scope.deletes c.tenantID c.userID c = true := by
  cases b <;> simp [Backend.scope]

/-- New rows, one after the other. -/
theorem fresh_after {t t' : BackupCodeTable} {c : BackupCode} {codes : List BackupCode}
    (hrows : t'.rows = t.rows ++ [c]) (hnodup : ((c :: codes).map BackupCode.id).Nodup)
    (hfresh : ∀ c' ∈ c :: codes, ∀ b ∈ t, b.id ≠ c'.id) : ∀ c' ∈ codes, ∀ b ∈ t', b.id ≠ c'.id := by
  rw [List.map_cons, List.nodup_cons] at hnodup
  intro c' hc' b hb
  rw [Table.mem_def, hrows, List.mem_append, List.mem_singleton] at hb
  rcases hb with hb | rfl
  · exact hfresh c' (List.mem_cons_of_mem c hc') b hb
  · exact fun hsame => hnodup.1 (hsame ▸ List.mem_map_of_mem hc')

theorem inMem_create : ∀ (codes : List BackupCode) (t : BackupCodeTable),
    (codes.map BackupCode.id).Nodup → (∀ c ∈ codes, ∀ b ∈ t, b.id ≠ c.id) →
    (codes.foldl (fun t c => t.upsert c (fun b => { c with id := b.id }) fun _ => rfl) t).rows =
      t.rows ++ codes
  | [], t, _, _ => (List.append_nil _).symm
  | c :: codes, t, hnodup, hfresh => by
    have hrows : (t.upsert c (fun b => { c with id := b.id }) fun _ => rfl).rows = t.rows ++ [c] :=
      Table.upsert_rows (hfresh c List.mem_cons_self)
    rw [List.foldl_cons, inMem_create codes _ hnodup.of_cons (fresh_after hrows hnodup hfresh),
      hrows, List.append_assoc]
    rfl

theorem pg_create : ∀ (codes : List BackupCode) (t : BackupCodeTable),
    (codes.map BackupCode.id).Nodup → (∀ c ∈ codes, ∀ b ∈ t, b.id ≠ c.id) →
    ∃ t', codes.foldlM (fun t c => t.insert? c) t = some t' ∧ t'.rows = t.rows ++ codes
  | [], t, _, _ => ⟨t, rfl, (List.append_nil _).symm⟩
  | c :: codes, t, hnodup, hfresh => by
    obtain ⟨t₁, hinsert⟩ := Table.insert?_of_fresh (hfresh c List.mem_cons_self)
    have hrows := Table.insert?_rows hinsert
    obtain ⟨t', hrest, hall⟩ :=
      pg_create codes t₁ hnodup.of_cons (fresh_after hrows hnodup hfresh)
    refine ⟨t', ?_, ?_⟩
    · rw [List.foldlM_cons, hinsert]
      exact hrest
    · rw [hall, hrows, List.append_assoc]
      rfl

theorem inMem_follows : Follows inMemBackupCodeRepo Backend.inMemory.scope where
  create codes t hnodup hfresh := ⟨_, rfl, inMem_create codes t hnodup hfresh⟩
  mem_listUnused order tenantID userID t c := by
    show c ∈ order.sort (t.rows.filter fun c => c.usedAt.isNone) ↔ _
    rw [(order.perm _).mem_iff, List.mem_filter, Option.isNone_iff_eq_none]
    exact ⟨fun ⟨hc, hunused⟩ => ⟨hc, hunused, rfl⟩, fun ⟨hc, hunused, _⟩ => ⟨hc, hunused⟩⟩
  markUsed now t c l₁ l₂ hsplit hunused := by
    have hc : c ∈ t := Table.mem_of_split hsplit
    refine ⟨t.update (fun c' => c'.id = c.id) (BackupCode.withUsedAt now) fun _ => rfl, ?_, ?_⟩
    · simp only [inMemBackupCodeRepo, Table.find?_eq_some_iff.mpr ⟨hc, rfl⟩, hunused]
      rfl
    · exact Table.update_rows _ hsplit (by simp) fun b hb => by simpa using hb
  deleteAll tenantID userID t := rfl

theorem pg_follows : Follows pgBackupCodeRepo Backend.postgres.scope where
  create := pg_create
  mem_listUnused order tenantID userID t c := by
    show c ∈ order.sort (t.rows.filter fun c =>
      c.tenantID = tenantID && c.userID = userID && c.usedAt.isNone) ↔ _
    rw [(order.perm _).mem_iff, List.mem_filter, Bool.and_eq_true, Option.isNone_iff_eq_none]
    exact ⟨fun ⟨hc, hown, hunused⟩ => ⟨hc, hunused, hown⟩,
      fun ⟨hc, hunused, hown⟩ => ⟨hc, hown, hunused⟩⟩
  markUsed now t c l₁ l₂ hsplit hunused := by
    have hc : c ∈ t := Table.mem_of_split hsplit
    have hany : (t.rows.any fun c' => c'.id = c.id && c'.usedAt.isNone) = true :=
      List.any_eq_true.mpr ⟨c, hc, by simp [hunused]⟩
    refine ⟨_, if_pos hany, ?_⟩
    refine Table.update_rows _ hsplit (by simp [hunused]) fun b hb => ?_
    rw [Bool.and_eq_true, decide_eq_true_eq] at hb
    exact hb.1
  deleteAll tenantID userID t := rfl

theorem follows (b : Backend) : Follows b.repo b.scope := by
  cases b with
  | inMemory => exact inMem_follows
  | postgres => exact pg_follows

-- ---------------------------------------------------------------------------
-- What a call does
-- ---------------------------------------------------------------------------

/-- The IDs of the call are new. -/
structure FreshIDs (h : History) (call : Call) : Prop where
  nodup : call.ids.Nodup
  fresh : ∀ id ∈ call.ids, id ∉ h.generated.map UserCode.id

/-- Stored codes are hashes of generated ones; those that were accepted are used. -/
structure CodesSound (crypto : PasswordHash) (h : History) : Prop extends AcceptedOnce h where
  rows  : ∀ c ∈ h.store, ∃ code, crypto.IsHash code c.codeHash ∧
    ⟨c.id, c.tenantID, c.userID, code⟩ ∈ h.generated
  spent : ∀ a ∈ h.accepted, ∀ c ∈ h.store, c.id = a.id → c.usedAt ≠ none

section Calls

variable {crypto : PasswordHash} {repo : BackupCodeRepository} {scope : Scope} {b : Backend}
  {h : History} {tenantID userID : UUID} {code : String}

theorem pair_eq_some {d : CodeDraw} {p : CodePair} (hp : d.pair crypto = some p) :
    p.id = d.id ∧ crypto.IsHash p.plain p.hash := by
  obtain ⟨plain, -, hmap⟩ := Option.bind_eq_some_iff.mp hp
  obtain ⟨hash, hhash, rfl⟩ := Option.map_eq_some_iff.mp hmap
  exact ⟨rfl, d.salt, hhash⟩

theorem pairs_ids_sublist : ∀ draws : List CodeDraw,
    ((draws.filterMap (CodeDraw.pair crypto)).map CodePair.id).Sublist (draws.map CodeDraw.id)
  | [] => List.Sublist.slnil
  | d :: draws => by
    cases hp : d.pair crypto with
    | none =>
      rw [List.filterMap_cons_none hp]
      exact (pairs_ids_sublist draws).cons _
    | some p =>
      rw [List.filterMap_cons_some hp, List.map_cons, List.map_cons, (pair_eq_some hp).1]
      exact (pairs_ids_sublist draws).cons_cons _

/-- The pairs of a call are hashes of their codes, under IDs of the call. -/
theorem pairs_spec {d : GenerateDraw} {pairs : List CodePair}
    (hpairs : d.pairs crypto = .ok pairs) :
    (pairs.map CodePair.id).Sublist (d.draws.map CodeDraw.id) ∧
      ∀ p ∈ pairs, crypto.IsHash p.plain p.hash := by
  unfold GenerateDraw.pairs at hpairs
  split_ifs at hpairs
  cases hpairs
  refine ⟨pairs_ids_sublist d.draws, fun p hp => ?_⟩
  obtain ⟨draw, -, hdraw⟩ := List.mem_filterMap.mp hp
  exact (pair_eq_some hdraw).2

theorem verifyLoop_cases (hf : Follows repo scope) (now : Time) {st : BackupCodeTable} :
    ∀ {codes : List BackupCode}, (∀ c ∈ codes, c ∈ st ∧ c.usedAt = none) →
      (verifyLoop crypto repo now code codes st = (st, none) ∧
        ∀ c ∈ codes, crypto.verify code c.codeHash ≠ some true) ∨
      ∃ c ∈ codes, crypto.verify code c.codeHash = some true ∧ ∃ st' l₁ l₂,
        verifyLoop crypto repo now code codes st = (st', some c) ∧
        st.rows = l₁ ++ c :: l₂ ∧ st'.rows = l₁ ++ c.withUsedAt now :: l₂
  | [], _ => Or.inl ⟨rfl, fun _ hc => absurd hc List.not_mem_nil⟩
  | c :: codes, hcodes => by
    obtain ⟨⟨hc, hunused⟩, hrest⟩ := List.forall_mem_cons.mp hcodes
    by_cases hmatch : crypto.verify code c.codeHash = some true
    · obtain ⟨l₁, l₂, hsplit⟩ := List.append_of_mem (Table.mem_def.mp hc)
      obtain ⟨st', hmark, hrows⟩ := hf.markUsed now st c l₁ l₂ hsplit hunused
      refine Or.inr ⟨c, List.mem_cons_self, hmatch, st', l₁, l₂, ?_, hsplit, hrows⟩
      rw [verifyLoop, if_pos hmatch, hmark]
    · rw [verifyLoop, if_neg hmatch]
      rcases verifyLoop_cases hf now hrest with ⟨hnone, hall⟩ | ⟨c', hc', hsome⟩
      · exact Or.inl ⟨hnone, List.forall_mem_cons.mpr ⟨hmatch, hall⟩⟩
      · exact Or.inr ⟨c', List.mem_cons_of_mem c hc', hsome⟩

/-- **A verification** finds no code, or uses up one that is listed. -/
theorem verify_cases (crypto : PasswordHash) (b : Backend) (h : History) (now : Time)
    (order : Backend → Order) (tenantID userID : UUID) (code : String) :
    (act crypto b h (.verify now order tenantID userID code) =
        (h, .error "invalid or used backup code") ∧
      ∀ c ∈ h.store, c.usedAt = none → b.scope.lists tenantID userID c = true →
        crypto.verify code c.codeHash ≠ some true) ∨
    ∃ store c l₁ l₂, act crypto b h (.verify now order tenantID userID code) =
        ({ h with store, accepted := ⟨c.id, tenantID, userID, code⟩ :: h.accepted }, .ok []) ∧
      h.store.rows = l₁ ++ c :: l₂ ∧ store.rows = l₁ ++ c.withUsedAt now :: l₂ ∧
      c.usedAt = none ∧ b.scope.lists tenantID userID c = true ∧
      crypto.verify code c.codeHash = some true := by
  have hlisted := (follows b).mem_listUnused (order b) tenantID userID h.store
  have hunused : ∀ c ∈ b.repo.listUnused (order b) tenantID userID h.store,
      c ∈ h.store ∧ c.usedAt = none :=
    fun c hc => ⟨((hlisted c).mp hc).1, ((hlisted c).mp hc).2.1⟩
  rcases @verifyLoop_cases crypto _ _ code (follows b) now _ _ hunused with
    ⟨hnone, hall⟩ | ⟨c, hc, hmatch, store, l₁, l₂, hsome, hsplit, hrows⟩
  · refine Or.inl ⟨?_, fun c hc hunused hlists => hall c ((hlisted c).mpr ⟨hc, hunused, hlists⟩)⟩
    simp only [act, verifyBackupCode, hnone]
  · obtain ⟨-, hunused, hlists⟩ := (hlisted c).mp hc
    refine Or.inr ⟨store, c, l₁, l₂, ?_, hsplit, hrows, hunused, hlists, hmatch⟩
    simp only [act, verifyBackupCode, hsome]

/-- The codes that a generation for a user leaves. -/
def kept (b : Backend) (h : History) (tenantID userID : UUID) : List BackupCode :=
  h.store.rows.filter fun c => !b.scope.deletes tenantID userID c

/-- **A generation** deletes codes, and stores those it could draw and hash. -/
theorem generate_cases (b : Backend) (hsound : CodesSound crypto h) {d : GenerateDraw}
    (hfresh : FreshIDs h (.generate d (some tenantID) userID)) :
    (∃ store message, d.pairs crypto = .error message ∧
      act crypto b h (.generate d (some tenantID) userID) = ({ h with store }, .error message) ∧
      store.rows = kept b h tenantID userID) ∨
    ∃ store pairs, d.pairs crypto = .ok pairs ∧
      act crypto b h (.generate d (some tenantID) userID) =
        ({ h with store, generated := pairs.map (userCode tenantID userID) ++ h.generated },
          .ok (pairs.map CodePair.plain)) ∧
      store.rows = kept b h tenantID userID ++ pairs.map (CodePair.row tenantID userID d.now) := by
  have hkept := (follows b).deleteAll tenantID userID h.store
  cases hpairs : d.pairs crypto with
  | error message =>
    refine Or.inl ⟨b.repo.deleteAll tenantID userID h.store, message, rfl, ?_, hkept⟩
    simp only [act, generateBackupCodes, hpairs]
  | ok pairs =>
    obtain ⟨hids, -⟩ := pairs_spec hpairs
    have hrowids : (pairs.map (CodePair.row tenantID userID d.now)).map BackupCode.id =
        pairs.map CodePair.id := by
      rw [List.map_map]
      rfl
    obtain ⟨store, hcreate, hrows⟩ := (follows b).create
      (pairs.map (CodePair.row tenantID userID d.now)) (b.repo.deleteAll tenantID userID h.store)
      (hrowids ▸ hids.nodup hfresh.nodup) (fun c hc old hold hsame => by
        have hnew : c.id ∈ d.draws.map CodeDraw.id :=
          hids.subset (hrowids ▸ List.mem_map_of_mem hc)
        rw [Table.mem_def, hkept] at hold
        obtain ⟨code, -, hgenerated⟩ := hsound.rows old (List.mem_of_mem_filter hold)
        exact hfresh.fresh c.id hnew (hsame ▸ List.mem_map_of_mem hgenerated))
    refine Or.inr ⟨store, pairs, rfl, ?_, by rw [hrows, hkept]; rfl⟩
    simp only [act, generateBackupCodes, hpairs, hcreate, Option.getD_some]

end Calls

-- ---------------------------------------------------------------------------
-- Codes are accepted once
-- ---------------------------------------------------------------------------

section Sound

variable {crypto : PasswordHash} {b : Backend} {h : History} {tenantID userID : UUID}
  {code : String}

/-- Codes after some were deleted. -/
theorem CodesSound.deleted (hsound : CodesSound crypto h) {store : BackupCodeTable}
    (hsub : ∀ c ∈ store, c ∈ h.store) : CodesSound crypto { h with store } where
  unique := hsound.unique
  generated := hsound.generated
  once := hsound.once
  rows c hc := hsound.rows c (hsub c hc)
  spent a ha c hc := hsound.spent a ha c (hsub c hc)

/-- Codes after some were stored. -/
theorem CodesSound.stored (hsound : CodesSound crypto h) {now : Time} {pairs : List CodePair}
    (hnodup : (pairs.map CodePair.id).Nodup)
    (hfresh : ∀ p ∈ pairs, p.id ∉ h.generated.map UserCode.id)
    (hhash : ∀ p ∈ pairs, crypto.IsHash p.plain p.hash) {store : BackupCodeTable}
    (hrows : store.rows = h.store.rows ++ pairs.map (CodePair.row tenantID userID now)) :
    CodesSound crypto
      { h with store, generated := pairs.map (userCode tenantID userID) ++ h.generated } where
  unique := by
    rw [List.map_append, List.map_map, List.nodup_append]
    refine ⟨hnodup, hsound.unique, fun id hid id' hid' hsame => ?_⟩
    obtain ⟨p, hp, rfl⟩ := List.mem_map.mp hid
    have hold : p.id = id' := hsame
    exact hfresh p hp (hold ▸ hid')
  generated a ha := List.mem_append_right _ (hsound.generated a ha)
  once := hsound.once
  rows c hc := by
    rw [Table.mem_def, hrows, List.mem_append] at hc
    rcases hc with hold | hnew
    · obtain ⟨code, hcode, hgenerated⟩ := hsound.rows c hold
      exact ⟨code, hcode, List.mem_append_right _ hgenerated⟩
    · obtain ⟨p, hp, rfl⟩ := List.mem_map.mp hnew
      exact ⟨p.plain, hhash p hp, List.mem_append_left _ (List.mem_map_of_mem hp)⟩
  spent a ha c hc hid := by
    rw [Table.mem_def, hrows, List.mem_append] at hc
    rcases hc with hold | hnew
    · exact hsound.spent a ha c hold hid
    · obtain ⟨p, hp, rfl⟩ := List.mem_map.mp hnew
      have hold : p.id = a.id := hid
      exact absurd (hold ▸ List.mem_map_of_mem (hsound.generated a ha)) (hfresh p hp)

/-- Codes after one of the user's was accepted. -/
theorem CodesSound.accept (hsound : CodesSound crypto h) (hown : VerifiesOwn crypto) {now : Time}
    {c : BackupCode} {l₁ l₂ : List BackupCode} {store : BackupCodeTable}
    (hsplit : h.store.rows = l₁ ++ c :: l₂) (hrows : store.rows = l₁ ++ c.withUsedAt now :: l₂)
    (hunused : c.usedAt = none) (hmatch : crypto.verify code c.codeHash = some true)
    (htenant : c.tenantID = tenantID) (huser : c.userID = userID) :
    CodesSound crypto
      { h with store, accepted := ⟨c.id, tenantID, userID, code⟩ :: h.accepted } := by
  have hc : c ∈ h.store := Table.mem_of_split hsplit
  have hstore : ∀ c' ∈ store, c' = c.withUsedAt now ∨ c' ∈ h.store := by
    intro c' hc'
    rw [Table.mem_def, hrows, List.mem_append, List.mem_cons] at hc'
    rw [Table.mem_def, hsplit, List.mem_append, List.mem_cons]
    tauto
  obtain ⟨plain, hplain, hgenerated⟩ := hsound.rows c hc
  obtain rfl : code = plain := hown plain code c.codeHash hplain hmatch
  refine ⟨⟨hsound.unique, ?_, ?_⟩, ?_, ?_⟩
  · refine List.forall_mem_cons.mpr ⟨?_, hsound.generated⟩
    rw [← htenant, ← huser]
    exact hgenerated
  · rw [List.map_cons, List.nodup_cons]
    refine ⟨fun hmem => ?_, hsound.once⟩
    obtain ⟨a, ha, hid⟩ := List.mem_map.mp hmem
    exact hsound.spent a ha c hc hid.symm hunused
  · intro c' hc'
    rcases hstore c' hc' with rfl | hold
    · exact ⟨code, hplain, hgenerated⟩
    · exact hsound.rows c' hold
  · intro a ha c' hc' hid
    rcases List.mem_cons.mp ha with rfl | ha
    · rw [Table.mem_def, hrows] at hc'
      have hone := Table.key_ne_of_split hrows c'
      rw [List.mem_append] at hone
      rcases List.mem_append.mp hc' with hl | hr
      · exact absurd hid (hone (Or.inl hl))
      · rcases List.mem_cons.mp hr with rfl | hr
        · exact Option.some_ne_none now
        · exact absurd hid (hone (Or.inr hr))
    · rcases hstore c' hc' with rfl | hold
      · exact Option.some_ne_none now
      · exact hsound.spent a ha c' hold hid

/-- **One call**. -/
theorem CodesSound.act (hsound : CodesSound crypto h) (hown : VerifiesOwn crypto) {call : Call}
    (hfresh : FreshIDs h call) (hok : OwnCodes crypto b h call) :
    CodesSound crypto (step crypto b h call) := by
  unfold step
  cases call with
  | generate d tenantID userID =>
    cases tenantID with
    | none => exact hsound
    | some tenantID =>
      have hkept : ∀ store : BackupCodeTable, store.rows = kept b h tenantID userID →
          ∀ c ∈ store, c ∈ h.store := by
        intro store hrows c hc
        rw [Table.mem_def, hrows] at hc
        exact List.mem_of_mem_filter hc
      rcases generate_cases b hsound hfresh with
        ⟨store, message, -, hact, hrows⟩ | ⟨store, pairs, hpairs, hact, hrows⟩
      · rw [hact]
        exact hsound.deleted (hkept store hrows)
      · rw [hact]
        obtain ⟨hids, hhash⟩ := pairs_spec hpairs
        let left := b.repo.deleteAll tenantID userID h.store
        have hleft : left.rows = kept b h tenantID userID := (follows b).deleteAll _ _ _
        refine (hsound.deleted (hkept left hleft)).stored (hids.nodup hfresh.nodup) (fun p hp => ?_)
          hhash (hrows.trans (by rw [hleft]))
        exact hfresh.fresh p.id (hids.subset (List.mem_map_of_mem hp))
  | verify now order tenantID userID code =>
    rcases verify_cases crypto b h now order tenantID userID code with
      ⟨hact, -⟩ | ⟨store, c, l₁, l₂, hact, hsplit, hrows, hunused, hlists, hmatch⟩
    · rw [hact]
      exact hsound
    · rw [hact]
      have hc : c ∈ h.store := Table.mem_of_split hsplit
      obtain ⟨htenant, huser⟩ := hok c hc hunused hlists hmatch
      exact hsound.accept hown hsplit hrows hunused hmatch htenant huser

end Sound

-- ---------------------------------------------------------------------------
-- The same answers
-- ---------------------------------------------------------------------------

/-- How many unused codes of a user a code matches. -/
def hits (crypto : PasswordHash) (tenantID userID : UUID) (code : String) (rows : List BackupCode) :
    Nat :=
  rows.countP fun c => c.usedAt.isNone && c.tenantID = tenantID && c.userID = userID &&
    crypto.verify code c.codeHash = some true

/-- The two have generated the same codes, and the same ones are left. -/
structure Agree (crypto : PasswordHash) (h₁ h₂ : History) : Prop where
  left      : CodesSound crypto h₁
  right     : CodesSound crypto h₂
  generated : h₁.generated = h₂.generated
  counts    : ∀ tenantID userID code, hits crypto tenantID userID code h₁.store.rows =
    hits crypto tenantID userID code h₂.store.rows

section Agree

variable {crypto : PasswordHash} {b b₁ b₂ : Backend} {h h₁ h₂ : History}
  {tenantID userID tenantID' userID' : UUID} {code code' : String}

theorem hits_pos_iff {rows : List BackupCode} : 0 < hits crypto tenantID userID code rows ↔
    ∃ c ∈ rows, c.usedAt = none ∧ c.tenantID = tenantID ∧ c.userID = userID ∧
      crypto.verify code c.codeHash = some true := by
  unfold hits
  rw [List.countP_pos_iff]
  simp only [Bool.and_eq_true, decide_eq_true_eq, Option.isNone_iff_eq_none, and_assoc]

/-- A code that matches is not rejected. -/
theorem not_rejected (hpos : 0 < hits crypto tenantID userID code h.store.rows)
    (hall : ∀ c ∈ h.store, c.usedAt = none → b.scope.lists tenantID userID c = true →
      crypto.verify code c.codeHash ≠ some true) : False := by
  obtain ⟨c, hc, hunused, rfl, rfl, hmatch⟩ := hits_pos_iff.mp hpos
  exact hall c hc hunused (own_inScope b c).1 hmatch

/-- The stored codes that are left after one was accepted. -/
theorem hits_accept (hsound : CodesSound crypto h)
    (hown : VerifiesOwn crypto) (now : Time) {c : BackupCode} {l₁ l₂ : List BackupCode}
    (hsplit : h.store.rows = l₁ ++ c :: l₂) (hunused : c.usedAt = none)
    (hmatch : crypto.verify code c.codeHash = some true) :
    hits crypto tenantID' userID' code' h.store.rows =
      hits crypto tenantID' userID' code' (l₁ ++ c.withUsedAt now :: l₂) +
        if c.tenantID = tenantID' ∧ c.userID = userID' ∧ code' = code then 1 else 0 := by
  have hc : c ∈ h.store := Table.mem_of_split hsplit
  obtain ⟨plain, hplain, -⟩ := hsound.rows c hc
  obtain rfl : code = plain := hown plain code c.codeHash hplain hmatch
  have hsame : crypto.verify code' c.codeHash = some true ↔ code' = code := by
    constructor
    · exact hown code code' c.codeHash hplain
    · rintro rfl
      exact hmatch
  unfold hits
  rw [hsplit, List.countP_append, List.countP_append, List.countP_cons, List.countP_cons]
  simp only [BackupCode.withUsedAt, hunused, hsame, Option.isNone_none, Option.isNone_some,
    Bool.true_and, Bool.false_and, Bool.and_eq_true, decide_eq_true_eq, and_assoc,
    Bool.false_eq_true, if_false]
  omega

/-- The stored codes that a generation leaves, where it deletes the user's own only. -/
theorem hits_kept {d : GenerateDraw}
    (hok : OwnCodes crypto b h (.generate d (some tenantID) userID)) :
    hits crypto tenantID' userID' code (kept b h tenantID userID) =
      if tenantID = tenantID' ∧ userID = userID' then 0
      else hits crypto tenantID' userID' code h.store.rows := by
  unfold hits kept
  rw [List.countP_filter]
  split_ifs with hsame
  · obtain ⟨rfl, rfl⟩ := hsame
    refine List.countP_eq_zero.mpr fun c _ hhit => ?_
    simp only [Bool.and_eq_true, decide_eq_true_eq, Bool.not_eq_true'] at hhit
    obtain ⟨⟨⟨⟨-, rfl⟩, rfl⟩, -⟩, hleft⟩ := hhit
    rw [(own_inScope b c).2] at hleft
    cases hleft
  · refine List.countP_congr fun c hc => ?_
    simp only [Bool.and_eq_true, decide_eq_true_eq, Bool.not_eq_true', Option.isNone_iff_eq_none]
    refine ⟨fun hhit => hhit.1, fun hhit => ⟨hhit, ?_⟩⟩
    obtain ⟨⟨⟨hunused, htenant⟩, huser⟩, -⟩ := hhit
    by_contra hdeleted
    obtain ⟨htenant', huser'⟩ := hok c hc hunused (by simpa using hdeleted)
    exact hsame ⟨htenant'.symm.trans htenant, huser'.symm.trans huser⟩

theorem Agree.generate (hagree : Agree crypto h₁ h₂) (hown : VerifiesOwn crypto) {d : GenerateDraw}
    (hfresh : FreshIDs h₁ (.generate d (some tenantID) userID))
    (hok₁ : OwnCodes crypto b₁ h₁ (.generate d (some tenantID) userID))
    (hok₂ : OwnCodes crypto b₂ h₂ (.generate d (some tenantID) userID)) :
    (act crypto b₁ h₁ (.generate d (some tenantID) userID)).2 =
        (act crypto b₂ h₂ (.generate d (some tenantID) userID)).2 ∧
      Agree crypto (step crypto b₁ h₁ (.generate d (some tenantID) userID))
        (step crypto b₂ h₂ (.generate d (some tenantID) userID)) := by
  have hfresh₂ : FreshIDs h₂ (.generate d (some tenantID) userID) :=
    ⟨hfresh.nodup, hagree.generated ▸ hfresh.fresh⟩
  have hsound₁ := hagree.left.act hown hfresh hok₁
  have hsound₂ := hagree.right.act hown hfresh₂ hok₂
  have hkept : ∀ tenantID' userID' code, hits crypto tenantID' userID' code
      (kept b₁ h₁ tenantID userID) = hits crypto tenantID' userID' code
        (kept b₂ h₂ tenantID userID) := by
    intro tenantID' userID' code
    rw [hits_kept hok₁, hits_kept hok₂, hagree.counts]
  unfold step at hsound₁ hsound₂ ⊢
  rcases generate_cases b₁ hagree.left hfresh with
    ⟨store₁, message, hpairs, hact₁, hrows₁⟩ | ⟨store₁, pairs, hpairs, hact₁, hrows₁⟩
  · rcases generate_cases b₂ hagree.right hfresh₂ with
      ⟨store₂, message₂, hpairs₂, hact₂, hrows₂⟩ | ⟨store₂, pairs₂, hpairs₂, -, -⟩
    · obtain rfl : message = message₂ := Except.error.inj (hpairs.symm.trans hpairs₂)
      rw [hact₁] at hsound₁ ⊢
      rw [hact₂] at hsound₂ ⊢
      refine ⟨rfl, hsound₁, hsound₂, hagree.generated, fun tenantID' userID' code => ?_⟩
      rw [hrows₁, hrows₂]
      exact hkept tenantID' userID' code
    · exact absurd (hpairs.symm.trans hpairs₂) (by simp)
  · rcases generate_cases b₂ hagree.right hfresh₂ with
      ⟨store₂, message₂, hpairs₂, -, -⟩ | ⟨store₂, pairs₂, hpairs₂, hact₂, hrows₂⟩
    · exact absurd (hpairs.symm.trans hpairs₂) (by simp)
    · obtain rfl : pairs = pairs₂ := Except.ok.inj (hpairs.symm.trans hpairs₂)
      rw [hact₁] at hsound₁ ⊢
      rw [hact₂] at hsound₂ ⊢
      refine ⟨rfl, hsound₁, hsound₂, ?_, fun tenantID' userID' code => ?_⟩
      · exact congrArg (pairs.map (userCode tenantID userID) ++ ·) hagree.generated
      · rw [hrows₁, hrows₂]
        unfold hits
        rw [List.countP_append, List.countP_append]
        exact congrArg (· + _) (hkept tenantID' userID' code)

theorem Agree.verify (hagree : Agree crypto h₁ h₂) (haccepts : crypto.Accepts)
    (hown : VerifiesOwn crypto) {now : Time} {order : Backend → Order}
    (hok₁ : OwnCodes crypto b₁ h₁ (.verify now order tenantID userID code))
    (hok₂ : OwnCodes crypto b₂ h₂ (.verify now order tenantID userID code)) :
    (act crypto b₁ h₁ (.verify now order tenantID userID code)).2 =
        (act crypto b₂ h₂ (.verify now order tenantID userID code)).2 ∧
      Agree crypto (step crypto b₁ h₁ (.verify now order tenantID userID code))
        (step crypto b₂ h₂ (.verify now order tenantID userID code)) := by
  have hnone : ∀ {h : History}, FreshIDs h (.verify now order tenantID userID code) :=
    ⟨List.nodup_nil, fun _ hid => absurd hid List.not_mem_nil⟩
  have hsound₁ := hagree.left.act hown hnone hok₁
  have hsound₂ := hagree.right.act hown hnone hok₂
  unfold step at hsound₁ hsound₂ ⊢
  rcases verify_cases crypto b₁ h₁ now order tenantID userID code with
    ⟨hact₁, hall₁⟩ | ⟨store₁, c₁, l₁, r₁, hact₁, hsplit₁, hrows₁, hunused₁, hlists₁, hmatch₁⟩
  · rcases verify_cases crypto b₂ h₂ now order tenantID userID code with
      ⟨hact₂, -⟩ | ⟨store₂, c₂, l₂, r₂, hact₂, hsplit₂, hrows₂, hunused₂, hlists₂, hmatch₂⟩
    · rw [hact₁, hact₂]
      exact ⟨rfl, hagree⟩
    · obtain ⟨htenant, huser⟩ := hok₂ c₂ (Table.mem_of_split hsplit₂) hunused₂ hlists₂ hmatch₂
      have hpos := hits_pos_iff.mpr ⟨c₂, Table.mem_of_split hsplit₂, hunused₂, htenant, huser, hmatch₂⟩
      exact (not_rejected (hagree.counts tenantID userID code ▸ hpos) hall₁).elim
  · obtain ⟨htenant₁, huser₁⟩ := hok₁ c₁ (Table.mem_of_split hsplit₁) hunused₁ hlists₁ hmatch₁
    rcases verify_cases crypto b₂ h₂ now order tenantID userID code with
      ⟨-, hall₂⟩ | ⟨store₂, c₂, l₂, r₂, hact₂, hsplit₂, hrows₂, hunused₂, hlists₂, hmatch₂⟩
    · have hpos := hits_pos_iff.mpr
        ⟨c₁, Table.mem_of_split hsplit₁, hunused₁, htenant₁, huser₁, hmatch₁⟩
      exact (not_rejected (hagree.counts tenantID userID code ▸ hpos) hall₂).elim
    · obtain ⟨htenant₂, huser₂⟩ := hok₂ c₂ (Table.mem_of_split hsplit₂) hunused₂ hlists₂ hmatch₂
      have hleft : ∀ tenantID' userID' code',
          hits crypto tenantID' userID' code' (l₁ ++ c₁.withUsedAt now :: r₁) =
            hits crypto tenantID' userID' code' (l₂ ++ c₂.withUsedAt now :: r₂) := by
        intro tenantID' userID' code'
        have hcount₁ := @hits_accept crypto h₁ tenantID' userID' code code' hagree.left
          hown now c₁ l₁ r₁ hsplit₁ hunused₁ hmatch₁
        have hcount₂ := @hits_accept crypto h₂ tenantID' userID' code code' hagree.right
          hown now c₂ l₂ r₂ hsplit₂ hunused₂ hmatch₂
        rw [htenant₁, huser₁, hagree.counts] at hcount₁
        rw [htenant₂, huser₂] at hcount₂
        omega
      rw [hact₁] at hsound₁ ⊢
      rw [hact₂] at hsound₂ ⊢
      refine ⟨rfl, hsound₁, hsound₂, hagree.generated, fun tenantID' userID' code' => ?_⟩
      rw [hrows₁, hrows₂]
      exact hleft tenantID' userID' code'

/-- **One call** over both repositories. -/
theorem Agree.act (hagree : Agree crypto h₁ h₂) (haccepts : crypto.Accepts)
    (hown : VerifiesOwn crypto) {call : Call} (hfresh : FreshIDs h₁ call)
    (hok₁ : OwnCodes crypto b₁ h₁ call) (hok₂ : OwnCodes crypto b₂ h₂ call) :
    (act crypto b₁ h₁ call).2 = (act crypto b₂ h₂ call).2 ∧
      Agree crypto (step crypto b₁ h₁ call) (step crypto b₂ h₂ call) := by
  cases call with
  | generate d tenantID userID =>
    cases tenantID with
    | none => exact ⟨rfl, hagree⟩
    | some tenantID => exact hagree.generate hown hfresh hok₁ hok₂
  | verify now order tenantID userID code => exact hagree.verify haccepts hown hok₁ hok₂

end Agree

-- ---------------------------------------------------------------------------
-- Runs
-- ---------------------------------------------------------------------------

theorem ownCodes_postgres (crypto : PasswordHash) (h : History) (call : Call) :
    OwnCodes crypto .postgres h call := by
  cases call with
  | generate d tenantID userID =>
    cases tenantID with
    | none => trivial
    | some tenantID => exact fun c _ _ hdeletes => by simpa [Backend.scope] using hdeletes
  | verify now order tenantID userID code =>
    exact fun c _ _ hlists _ => by simpa [Backend.scope] using hlists

/-- The IDs of generated codes are among those that were drawn. -/
theorem step_generated (crypto : PasswordHash) (b : Backend) (h : History) (call : Call) :
    ∀ id ∈ (step crypto b h call).generated.map UserCode.id,
      id ∈ call.ids ∨ id ∈ h.generated.map UserCode.id := by
  intro id hid
  cases call with
  | generate d tenantID userID =>
    cases tenantID with
    | none => exact Or.inr hid
    | some tenantID =>
      simp only [step, act, generateBackupCodes] at hid
      cases hpairs : d.pairs crypto with
      | error message =>
        rw [hpairs] at hid
        exact Or.inr hid
      | ok pairs =>
        rw [hpairs] at hid
        dsimp only at hid
        cases hcreate : b.repo.create (pairs.map (CodePair.row tenantID userID d.now))
            (b.repo.deleteAll tenantID userID h.store) with
        | none =>
          rw [hcreate] at hid
          exact Or.inr hid
        | some store =>
          rw [hcreate] at hid
          dsimp only at hid
          rw [List.map_append, List.map_map, List.mem_append] at hid
          exact hid.imp_left fun hnew => (pairs_spec hpairs).1.subset hnew
  | verify now order tenantID userID code =>
    rcases verify_cases crypto b h now order tenantID userID code with
      ⟨hact, -⟩ | ⟨store, c, l₁, l₂, hact, -⟩
    · rw [step, hact] at hid
      exact Or.inr hid
    · rw [step, hact] at hid
      exact Or.inr hid

/-- IDs that are drawn once are new when they are drawn. -/
theorem stepsOk_fresh (crypto : PasswordHash) (b : Backend) : ∀ (calls : List Call) (h : History),
    (calls.flatMap Call.ids).Nodup →
    (∀ id ∈ calls.flatMap Call.ids, id ∉ h.generated.map UserCode.id) →
    StepsOk (step crypto b) FreshIDs h calls
  | [], _, _, _ => trivial
  | call :: calls, h, hnodup, hfresh => by
    rw [List.flatMap_cons] at hnodup hfresh
    obtain ⟨hcall, hcalls, hapart⟩ := List.nodup_append.mp hnodup
    refine ⟨⟨hcall, fun id hid => hfresh id (List.mem_append_left _ hid)⟩,
      stepsOk_fresh crypto b calls _ hcalls fun id hid hgenerated => ?_⟩
    rcases step_generated crypto b h call id hgenerated with hdrawn | hold
    · exact hapart id hdrawn id hid rfl
    · exact hfresh id (List.mem_append_right _ hid) hold

theorem empty_sound (crypto : PasswordHash) : CodesSound crypto empty :=
  ⟨⟨List.nodup_nil, fun _ ha => absurd ha List.not_mem_nil, List.nodup_nil⟩,
    fun _ hc => absurd hc List.not_mem_nil, fun _ ha => absurd ha List.not_mem_nil⟩

theorem empty_agree (crypto : PasswordHash) : Agree crypto empty empty :=
  ⟨empty_sound crypto, empty_sound crypto, rfl, fun _ _ _ => rfl⟩

/-- Codes over one repository, where no other user's is listed or deleted. -/
theorem acceptedOnce_states {crypto : PasswordHash} (hown : VerifiesOwn crypto) {b : Backend}
    {calls : List Call} (hfresh : StepsOk (step crypto b) FreshIDs empty calls)
    (hok : StepsOk (step crypto b) (OwnCodes crypto b) empty calls) :
    ∀ h ∈ states (step crypto b) empty calls, AcceptedOnce h := by
  have hsound : ∀ h ∈ states (step crypto b) empty calls, CodesSound crypto h :=
    invariant_states (fun _ _ h hok => h.act hown hok.1 hok.2) (empty_sound crypto)
      (hfresh.and hok)
  exact fun h hh => (hsound h hh).toAcceptedOnce

/-- **Backup codes** over PostgreSQL, and in memory where no other user's code is listed or deleted.
-/
theorem backup_codes_agree {crypto : PasswordHash} (haccepts : crypto.Accepts)
    (hown : VerifiesOwn crypto) {calls : List Call} (hdrawn : (calls.flatMap Call.ids).Nodup) :
    (∀ h ∈ states (step crypto .postgres) empty calls, AcceptedOnce h) ∧
    (StepsOk (step crypto .inMemory) (OwnCodes crypto .inMemory) empty calls →
      (∀ h ∈ states (step crypto .inMemory) empty calls, AcceptedOnce h) ∧
      outputs (act crypto .inMemory) empty calls = outputs (act crypto .postgres) empty calls) := by
  have hfresh : ∀ b, StepsOk (step crypto b) FreshIDs empty calls := fun b =>
    stepsOk_fresh crypto b calls empty hdrawn fun _ _ => List.not_mem_nil
  constructor
  · exact acceptedOnce_states hown (hfresh .postgres)
      (stepsOk_mono (fun h call _ => ownCodes_postgres crypto h call) (hfresh .postgres))
  · intro hok
    refine ⟨acceptedOnce_states hown (hfresh .inMemory) hok, Eq.symm ?_⟩
    have hstep : ∀ h₁ h₂ call, Agree crypto h₂ h₁ →
        FreshIDs h₂ call ∧ OwnCodes crypto .inMemory h₂ call →
        (act crypto .postgres h₁ call).2 = (act crypto .inMemory h₂ call).2 ∧
          Agree crypto (act crypto .inMemory h₂ call).1 (act crypto .postgres h₁ call).1 := by
      intro h₁ h₂ call hagree hcall
      obtain ⟨hsame, hnext⟩ := hagree.act haccepts hown hcall.1 hcall.2
        (ownCodes_postgres crypto h₁ call)
      exact ⟨hsame.symm, hnext⟩
    exact outputs_eq_of_simulation hstep (empty_agree crypto) ((hfresh .inMemory).and hok)

end BackupCodes

namespace Sample

open BackupCodes

/-- Passwords are stored as they are. -/
def plainText : PasswordHash where
  hash _ password := some password
  verify password secret := some (password == secret)

theorem plainText_accepts : plainText.Accepts := by
  rintro password secret ⟨salt, hhash⟩
  obtain rfl : password = secret := Option.some.inj hhash
  simp [plainText]

theorem plainText_verifiesOwn : VerifiesOwn plainText := by
  rintro password password' secret ⟨salt, hhash⟩ hmatch
  obtain rfl : password = secret := Option.some.inj hhash
  simpa [plainText] using hmatch

def asStored : Order := ⟨id, fun _ => List.Perm.refl _⟩

/-- Codes AAAA-AAAA, BBBB-BBBB and so on, for user 7 of tenant 1. -/
def tenCodes : Call :=
  .generate ⟨0, fun i => ⟨some (List.replicate 8 i.toUInt8), 0, BitVec.ofNat 128 i⟩⟩ (some 1) 7

def present (tenantID userID : UUID) : Call :=
  .verify 0 (fun _ => asStored) tenantID userID "BBBB-BBBB"

end Sample

open Sample BackupCodes in
/-- In memory, a user presents the code of another user, in another tenant. -/
theorem code_of_other_user_accepted :
    (run (step plainText .inMemory) empty [tenCodes, present 2 8]).accepted =
      [⟨1, 2, 8, "BBBB-BBBB"⟩] ∧
    outputs (act plainText .inMemory) empty [tenCodes, present 2 8] ≠
      outputs (act plainText .postgres) empty [tenCodes, present 2 8] ∧
    ¬ ∀ h ∈ states (step plainText .inMemory) empty [tenCodes, present 2 8], AcceptedOnce h := by
  have haccepted : (run (step plainText .inMemory) empty [tenCodes, present 2 8]).accepted =
      [⟨1, 2, 8, "BBBB-BBBB"⟩] := by decide
  refine ⟨haccepted, by decide, fun hall => ?_⟩
  have hgenerated := (hall _ (run_mem_states _ _)).generated
  rw [haccepted] at hgenerated
  exact absurd (hgenerated _ List.mem_cons_self) (by decide)

open Sample BackupCodes in
/-- A user presents a code twice. -/
theorem backup_codes_agree_sample :
    outputs (act plainText .inMemory) empty [tenCodes, present 1 7, present 1 7] =
      outputs (act plainText .postgres) empty [tenCodes, present 1 7, present 1 7] := by
  refine ((backup_codes_agree plainText_accepts plainText_verifiesOwn ?_).2 ?_).2
  · decide
  · have hown : ∀ h : History, (h.store.rows.all fun c => c.tenantID = 1 && c.userID = 7) = true →
        OwnCodes plainText .inMemory h (present 1 7) := by
      intro h hall c hc _ _ _
      simpa using List.all_eq_true.mp hall c hc
    exact ⟨fun c hc => absurd hc List.not_mem_nil, hown _ (by decide),
      hown _ (by decide), trivial⟩

end Ggid.Auth
