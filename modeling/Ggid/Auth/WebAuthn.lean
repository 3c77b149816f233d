import Ggid.Go.Bytes
import Ggid.Lib.Run
import Ggid.Lib.Table
import Ggid.Lib.Threads

/-!
# Auth service — WebAuthn

`beginAuthentication` and `finishAuthentication`, as the steps of requests that run at the same
time, between the reads and writes of the credential store. The WebAuthn library is a parameter;
what it is relied on for is `BeginsLogin` and `ValidatesLogin`.

A session is consumed by its challenge. It carries the user that was asked for, or none; the
credential that is asserted is looked up in the tenant of the second request.
-/

namespace Ggid.Auth.WebAuthn

open Ggid.Go Ggid.Lib

-- ---------------------------------------------------------------------------
-- Records
-- ---------------------------------------------------------------------------

/-- A row of `webauthn_credentials`; tenant and credential ID are unique together. -/
structure Credential where
  id             : UUID
  tenantID       : UUID
  userID         : UUID
  credentialID   : Bytes
  publicKey      : Bytes
  counter        : Nat
  backupEligible : Bool
  backupState    : Bool
  deriving DecidableEq

def Credential.key (c : Credential) : UUID × Bytes := (c.tenantID, c.credentialID)

abbrev CredentialStore := Table Credential.key

/-- A credential as the library gets it, and as it gives it back. -/
structure LoginCredential where
  id             : Bytes
  publicKey      : Bytes
  signCount      : Nat
  backupEligible : Bool
  backupState    : Bool
  deriving DecidableEq

/-- `webAuthnUser`. -/
structure User where
  id          : UUID
  credentials : List LoginCredential

/-- The library's session. -/
structure SessionData where
  challenge            : String
  userID               : UUID
  allowedCredentialIDs : List Bytes
  deriving DecidableEq

/-- `sessionData`. -/
structure Session where
  userID    : UUID
  tenantID  : UUID
  data      : SessionData
  createdAt : Time
  deriving DecidableEq

/-- A parsed assertion: what the handler reads of it, and what only the library does. -/
structure Assertion where
  challenge : String
  rawID     : Bytes
  signCount : Nat
  payload   : Bytes
  deriving DecidableEq

/-- An auth ticket, with the assertion it was issued for. -/
structure Ticket where
  tenantID     : UUID
  userID       : UUID
  challenge    : String
  credentialID : Bytes
  deriving DecidableEq

/-- An assertion that passed all checks. -/
structure Accepted where
  tenantID     : UUID
  credentialID : Bytes
  signCount    : Nat
  deriving DecidableEq

/-- The library. `beginLogin` gets the challenge it draws, and the credentials a caller allows. -/
structure Library where
  beginLogin    : User → Option (List Bytes) → String → Option SessionData
  validateLogin : User → SessionData → Assertion → Option LoginCredential

/-- Credentials and sessions; the tickets, the assertions that were accepted, and the challenges
that were drawn, each with the last one first. -/
structure Store where
  credentials : CredentialStore
  sessions    : String → Option Session
  tickets     : List Ticket
  accepted    : List Accepted
  drawn       : List String

namespace CredentialStore

def getCredentialsByUser (t : CredentialStore) (tenantID userID : UUID) : List Credential :=
  t.rows.filter fun c => c.tenantID = tenantID && c.userID = userID

def getCredentialByID (t : CredentialStore) (tenantID : UUID) (credentialID : Bytes) :
    Option Credential :=
  t.find? (tenantID, credentialID)

def updateCounter (t : CredentialStore) (tenantID : UUID) (credentialID : Bytes) (counter : Nat) :
    CredentialStore :=
  t.update (fun c => c.tenantID = tenantID && c.credentialID = credentialID)
    (fun c => { c with counter }) fun _ => rfl

end CredentialStore

/-- `buildWebAuthnUser`; a failing store is an empty one. -/
def buildWebAuthnUser (answers : Bool) (t : CredentialStore) (tenantID userID : UUID) : User where
  id := userID
  credentials :=
    if answers then
      (t.getCredentialsByUser tenantID userID).map fun c =>
        ⟨c.credentialID, c.publicKey, c.counter, c.backupEligible, c.backupState⟩
    else []

-- ---------------------------------------------------------------------------
-- Sessions
-- ---------------------------------------------------------------------------

namespace Store

/-- `sessionStore.save`. -/
def save (st : Store) (challenge : String) (session : Session) : Store :=
  { st with
      sessions := Function.update st.sessions challenge (some session)
      drawn := challenge :: st.drawn }

/-- The removal in `getAndDelete`. -/
def drop (st : Store) (challenge : String) : Store :=
  { st with sessions := Function.update st.sessions challenge none }

/-- One round of `cleanupLoop`. -/
def sweep (st : Store) (now : Time) : Store :=
  { st with sessions := fun challenge =>
      (st.sessions challenge).filter fun session => ¬ 10 * minute < now - session.createdAt }

@[simp] theorem save_sessions (st : Store) (challenge : String) (session : Session) :
    (st.save challenge session).sessions =
      Function.update st.sessions challenge (some session) := rfl

@[simp] theorem drop_sessions (st : Store) (challenge : String) :
    (st.drop challenge).sessions = Function.update st.sessions challenge none := rfl

end Store

-- ---------------------------------------------------------------------------
-- Requests
-- ---------------------------------------------------------------------------

inductive Answer where
  | error (status : Nat) (message : String)
  | options (challenge : String)
  | authenticated (ticket : Option Ticket) (signCount : Nat)
  deriving DecidableEq

/-- Where a request is. `none` stands for a tenant, a user or a body that cannot be parsed. -/
inductive Task where
  | begin (tenantID userID : Option UUID)
  | listed (tenantID userID : UUID) (allowed : List Bytes)
  | finish (tenantID : Option UUID) (assertion : Option Assertion)
  | taken (tenantID : UUID) (a : Assertion) (session : Session)
  | found (tenantID : UUID) (a : Assertion) (session : Session) (owner : UUID)
  | verified (tenantID : UUID) (a : Assertion) (session : Session) (cred : LoginCredential)
  | unique (tenantID : UUID) (a : Assertion) (session : Session) (cred : LoginCredential)
  | counted (tenantID : UUID) (a : Assertion) (session : Session) (cred : LoginCredential)
  | identified (tenantID : UUID) (a : Assertion) (cred : LoginCredential) (userID : UUID)
  | done (answer : Answer)
  deriving DecidableEq

/-- What a step is given: the time, whether the store answers, and what is drawn. -/
structure Draw where
  now       : Time
  answers   : Bool
  challenge : String
  id        : UUID

/-- The verification, for the user that was built. -/
def verify (lib : Library) (tenantID : UUID) (a : Assertion) (session : Session) (user : User) :
    Task :=
  match lib.validateLogin user { session.data with userID := user.id } a with
  | none => .done (.error 401 "verify assertion")
  | some cred => .verified tenantID a session cred

/-- The discoverable flow of `beginAuthentication`. -/
def beginDiscoverable (d : Draw) (st : Store) (tenantID : UUID) : Store × Task :=
  (st.save d.challenge ⟨UUID.nil, tenantID, ⟨d.challenge, d.id, []⟩, d.now⟩,
    .done (.options d.challenge))

/-- One step of a request. -/
def Task.act (lib : Library) (d : Draw) (st : Store) : Task → Store × Task
  | begin none _ => (st, .done (.error 400 "missing or invalid X-Tenant-ID"))
  | begin (some tenantID) none => beginDiscoverable d st tenantID
  | begin (some tenantID) (some userID) =>
    if userID = UUID.nil then beginDiscoverable d st tenantID
    else
      (st, .listed tenantID userID
        ((buildWebAuthnUser d.answers st.credentials tenantID userID).credentials.map
          LoginCredential.id))
  | listed tenantID userID allowed =>
    match lib.beginLogin (buildWebAuthnUser d.answers st.credentials tenantID userID)
        (if allowed = [] then none else some allowed) d.challenge with
    | none => (st, .done (.error 500 "begin login failed"))
    | some data =>
      (st.save d.challenge ⟨userID, tenantID, data, d.now⟩, .done (.options d.challenge))
  | finish none _ => (st, .done (.error 400 "missing or invalid X-Tenant-ID"))
  | finish (some _) none => (st, .done (.error 400 "invalid assertion response"))
  | finish (some tenantID) (some a) =>
    match st.sessions a.challenge with
    | none => (st, .done (.error 400 "session expired or not found"))
    | some session =>
      if 5 * minute < d.now - session.createdAt then
        (st.drop a.challenge, .done (.error 400 "session expired or not found"))
      else (st.drop a.challenge, .taken tenantID a session)
  | taken tenantID a session =>
    match (st.credentials.getCredentialByID tenantID a.rawID).filter fun _ => d.answers with
    | none => (st, verify lib tenantID a session ⟨d.id, []⟩)
    | some cred =>
      if cred.tenantID ≠ UUID.nil ∧ cred.tenantID ≠ tenantID then
        (st, .done (.error 403 "passkey does not belong to this tenant"))
      else (st, .found tenantID a session cred.userID)
  | found tenantID a session owner =>
    (st, verify lib tenantID a session (buildWebAuthnUser d.answers st.credentials tenantID owner))
  | verified tenantID a session cred =>
    -- without an answer of the store, the check is passed over
    if ((st.credentials.getCredentialByID tenantID cred.id).filter fun _ => d.answers).any
        fun stored => 0 < stored.counter && cred.signCount ≤ stored.counter then
      (st, .done (.error 401 "possible credential clone detected"))
    else (st, .unique tenantID a session cred)
  | unique tenantID a session cred =>
    ({ st with
        credentials := if d.answers then
          st.credentials.updateCounter tenantID cred.id cred.signCount else st.credentials
        accepted := ⟨tenantID, cred.id, a.signCount⟩ :: st.accepted },
      .counted tenantID a session cred)
  | counted tenantID a session cred =>
    (st, .identified tenantID a cred
      (if session.userID ≠ UUID.nil then session.userID
      else (((st.credentials.getCredentialByID tenantID cred.id).filter fun _ =>
        d.answers).map Credential.userID).getD UUID.nil))
  | identified tenantID a cred userID =>
    if userID = UUID.nil then (st, .done (.authenticated none cred.signCount))
    else if !d.answers then (st, .done (.error 500 "failed to issue auth ticket"))
    else
      let ticket : Ticket := ⟨tenantID, userID, a.challenge, cred.id⟩
      ({ st with tickets := ticket :: st.tickets },
        .done (.authenticated (some ticket) cred.signCount))
  | done answer => (st, .done answer)

/-- A request before it does anything. -/
inductive Request where
  | begin (tenantID userID : Option UUID)
  | finish (tenantID : Option UUID) (assertion : Option Assertion)

def Request.task : Request → Task
  | begin tenantID userID => .begin tenantID userID
  | finish tenantID assertion => .finish tenantID assertion

/-- A step of a request, or of the cleanup. -/
inductive Step where
  | act (thread : Nat) (d : Draw)
  | sweep (now : Time)

def step (lib : Library) (p : Threads Store Task) : Step → Threads Store Task
  | .act thread d => p.put thread ((p.task thread).act lib d p.store)
  | .sweep now => { p with store := p.store.sweep now }

def start (credentials : CredentialStore) (requests : Nat → Request) : Threads Store Task :=
  ⟨⟨credentials, fun _ => none, [], [], []⟩, fun t => (requests t).task⟩

-- ---------------------------------------------------------------------------
-- The library
-- ---------------------------------------------------------------------------

/-- A login begins for a user with credentials, and is for those that are allowed. -/
def BeginsLogin (lib : Library) : Prop :=
  ∀ user allowed challenge data, lib.beginLogin user allowed challenge = some data →
    user.credentials ≠ [] ∧
      data.allowedCredentialIDs = allowed.getD (user.credentials.map LoginCredential.id)

/-- A login is valid for the user of the session only, with one of the user's credentials, and one
of the allowed ones if any are listed. -/
def ValidatesLogin (lib : Library) : Prop :=
  ∀ user data a cred, lib.validateLogin user data a = some cred →
    data.userID = user.id ∧ cred.id = a.rawID ∧
      cred.id ∈ user.credentials.map LoginCredential.id ∧
      (data.allowedCredentialIDs ≠ [] → cred.id ∈ data.allowedCredentialIDs)

-- ---------------------------------------------------------------------------
-- Owners
-- ---------------------------------------------------------------------------

/-- Who has a credential. -/
def owner (t : CredentialStore) (tenantID : UUID) (credentialID : Bytes) : Option UUID :=
  (t.getCredentialByID tenantID credentialID).map Credential.userID

theorem getCredentialByID_eq_some {t : CredentialStore} {tenantID : UUID} {credentialID : Bytes}
    {c : Credential} : t.getCredentialByID tenantID credentialID = some c ↔
      c ∈ t ∧ c.tenantID = tenantID ∧ c.credentialID = credentialID := by
  unfold CredentialStore.getCredentialByID
  rw [Table.find?_eq_some_iff, Credential.key, Prod.mk.injEq]

theorem owner_eq_some {t : CredentialStore} {tenantID userID : UUID} {credentialID : Bytes} :
    owner t tenantID credentialID = some userID ↔
      ∃ c ∈ t, c.tenantID = tenantID ∧ c.credentialID = credentialID ∧ c.userID = userID := by
  unfold owner
  simp only [Option.map_eq_some_iff, getCredentialByID_eq_some]
  constructor
  · rintro ⟨c, ⟨hc, htenant, hid⟩, huser⟩
    exact ⟨c, hc, htenant, hid, huser⟩
  · rintro ⟨c, hc, htenant, hid, huser⟩
    exact ⟨c, ⟨hc, htenant, hid⟩, huser⟩

/-- The credentials a user is built with are the user's. -/
theorem owner_of_mem_build {answers : Bool} {t : CredentialStore} {tenantID userID : UUID}
    {credentialID : Bytes} (h : credentialID ∈
      (buildWebAuthnUser answers t tenantID userID).credentials.map LoginCredential.id) :
    owner t tenantID credentialID = some userID := by
  cases answers with
  | false => cases h
  | true =>
    obtain ⟨login, hlogin, hid⟩ := List.mem_map.mp h
    obtain ⟨c, hc, rfl⟩ := List.mem_map.mp hlogin
    obtain ⟨hc, hkeys⟩ := List.mem_filter.mp hc
    simp only [Bool.and_eq_true, decide_eq_true_eq] at hkeys
    exact owner_eq_some.mpr ⟨c, hc, hkeys.1, hid, hkeys.2⟩

theorem getCredentialByID_updateCounter (t : CredentialStore) (tenantID tenantID' : UUID)
    (credentialID credentialID' : Bytes) (counter : Nat) :
    (t.updateCounter tenantID credentialID counter).getCredentialByID tenantID' credentialID' =
      (t.getCredentialByID tenantID' credentialID').map fun c =>
        if c.tenantID = tenantID && c.credentialID = credentialID then { c with counter }
        else c := by
  unfold CredentialStore.getCredentialByID CredentialStore.updateCounter
  exact Table.find?_update _ _

/-- Nobody loses a credential over its counter. -/
theorem owner_updateCounter (t : CredentialStore) (tenantID : UUID) (credentialID : Bytes)
    (counter : Nat) : owner (t.updateCounter tenantID credentialID counter) = owner t := by
  funext tenantID' credentialID'
  unfold owner
  rw [getCredentialByID_updateCounter, Option.map_map]
  congr 1
  funext c
  simp only [Function.comp_apply]
  split_ifs <;> rfl

-- ---------------------------------------------------------------------------
-- A library without signatures
-- ---------------------------------------------------------------------------

namespace Sample

/-- The assertion is one of the user's credentials; its counter is taken over if it has grown. -/
def lib : Library where
  beginLogin user allowed challenge :=
    if user.credentials = [] then none
    else some ⟨challenge, user.id, allowed.getD (user.credentials.map LoginCredential.id)⟩
  validateLogin user data a :=
    if data.userID = user.id ∧
        (data.allowedCredentialIDs = [] ∨ a.rawID ∈ data.allowedCredentialIDs) then
      (user.credentials.find? fun cred => cred.id = a.rawID).map fun cred =>
        if a.signCount ≤ cred.signCount then cred else { cred with signCount := a.signCount }
    else none

theorem lib_beginsLogin : BeginsLogin lib := by
  intro user allowed challenge data h
  simp only [lib] at h
  split_ifs at h with hnone
  cases h
  exact ⟨hnone, rfl⟩

theorem lib_validatesLogin : ValidatesLogin lib := by
  intro user data a cred h
  simp only [lib] at h
  split_ifs at h with hok
  obtain ⟨loaded, hfind, hcred⟩ := Option.map_eq_some_iff.mp h
  have hraw : loaded.id = a.rawID := by simpa using List.find?_some hfind
  have hid : cred.id = loaded.id := by
    rw [← hcred]
    split_ifs <;> rfl
  refine ⟨hok.1, hid.trans hraw, hid ▸ List.mem_map_of_mem (List.mem_of_find?_eq_some hfind), ?_⟩
  intro hlisted
  rw [hid, hraw]
  exact hok.2.resolve_left hlisted

/-- Credential 1 of user 10 in tenant 1, and credential 1 of user 20 in tenant 2. -/
def credentials : CredentialStore :=
  ⟨[⟨100, 1, 10, [1], [], 1, false, false⟩, ⟨200, 2, 20, [1], [], 1, false, false⟩], by decide⟩

/-- A request is alone for so many steps. -/
def alone (thread n : Nat) (challenge : String) : List Step :=
  List.replicate n (.act thread ⟨0, true, challenge, 0⟩)

end Sample

end Ggid.Auth.WebAuthn
