import Ggid.Go.Strings
import Ggid.Go.Value
import Ggid.Lib.Table

/-!
# Auth service — credentials

`Credential`, the statements of `CredentialRepository`, and the password hash of `pkg/crypto`, of
which the service only sees what it makes of a password and what it accepts.
-/

namespace Ggid.Auth

open Ggid.Go Ggid.Lib

/-- `conf.PasswordPolicy`. -/
structure PasswordPolicy where
  minLength      : Int
  maxLength      : Int
  requireUpper   : Bool
  requireLower   : Bool
  requireDigit   : Bool
  requireSpecial : Bool
  blacklist      : List String
  historyCount   : Int
  maxAttempts    : Int
  lockDuration   : Int

/-- A row of `credentials`. -/
structure Credential where
  id             : UUID
  tenantID       : UUID
  userID         : UUID
  type           : String
  identifier     : String
  secret         : String
  enabled        : Bool
  failedAttempts : Int
  lockedUntil    : Option Time
  deriving DecidableEq

/-- A row of `credential_history`. -/
structure CredentialHistoryEntry where
  tenantID : UUID
  userID   : UUID
  secret   : String
  deriving DecidableEq

/-- The columns of `users` by which a credential can be found. -/
structure UserNames where
  id       : UUID
  tenantID : UUID
  email    : String
  username : String

namespace Credential

/-- `IsLocked`. -/
def isLocked (now : Time) (c : Credential) : Bool := c.lockedUntil.any fun deadline => now < deadline

/-- `RegisterFailedAttempt`. -/
def registerFailedAttempt (maxAttempts lockDuration : Int) (now : Time) (c : Credential) :
    Credential :=
  let c := { c with failedAttempts := c.failedAttempts + 1 }
  if maxAttempts ≤ c.failedAttempts then { c with lockedUntil := some (now + lockDuration) } else c

def withSecret (secret : String) (c : Credential) : Credential :=
  { c with secret, failedAttempts := 0, lockedUntil := none }

/-- The assignments of `UpdateFailedAttempts`: no attempts are a success. -/
def withAttempts (attempts : Int) (lockedUntil : Option Time) (c : Credential) : Credential :=
  if attempts = 0 then { c with failedAttempts := 0, lockedUntil }
  else { c with failedAttempts := c.failedAttempts + 1, lockedUntil }

@[simp] theorem withAttempts_id (attempts : Int) (lockedUntil : Option Time) (c : Credential) :
    (c.withAttempts attempts lockedUntil).id = c.id := by
  unfold withAttempts
  split <;> rfl

end Credential

abbrev CredentialTable := Table Credential.id

namespace CredentialTable

/-- `FindByIDentifier`. -/
def findByIdentifier (t : CredentialTable) (users : List UserNames) (tenantID : UUID)
    (identifier : String) : Option Credential :=
  t.rows.find? fun c => c.tenantID = tenantID && c.type = "password" &&
    (c.identifier = identifier || users.any fun u => u.id = c.userID && u.tenantID = c.tenantID &&
      (u.email = identifier || u.username = identifier))

def findByUserID (t : CredentialTable) (tenantID userID : UUID) : Option Credential :=
  t.rows.find? fun c => c.tenantID = tenantID && c.userID = userID && c.type = "password"

def updateFailedAttempts (t : CredentialTable) (id : UUID) (attempts : Int)
    (lockedUntil : Option Time) : CredentialTable :=
  t.update (fun c => c.id = id) (Credential.withAttempts attempts lockedUntil) (by simp)

def updateSecret (t : CredentialTable) (id : UUID) (secret : String) : CredentialTable :=
  t.update (fun c => c.id = id) (Credential.withSecret secret) fun _ => rfl

theorem findByUserID_spec {t : CredentialTable} {tenantID userID : UUID} {cred : Credential}
    (h : t.findByUserID tenantID userID = some cred) :
    cred ∈ t ∧ cred.tenantID = tenantID ∧ cred.userID = userID := by
  have hkeys := List.find?_some h
  simp only [Bool.and_eq_true, decide_eq_true_eq] at hkeys
  exact ⟨List.mem_of_find?_eq_some h, hkeys.1.1, hkeys.1.2⟩

/-- The credential of a user, after a new secret. -/
theorem findByUserID_updateSecret (t : CredentialTable) (id : UUID) (secret : String)
    (tenantID userID : UUID) :
    (t.updateSecret id secret).findByUserID tenantID userID =
      (t.findByUserID tenantID userID).map fun c =>
        if c.id = id then c.withSecret secret else c := by
  unfold findByUserID updateSecret Table.update
  simp only [List.find?_map, decide_eq_true_eq]
  congr 2
  funext c
  simp only [Function.comp_apply]
  by_cases hc : c.id = id <;> simp [hc, Credential.withSecret]

end CredentialTable

/-- `HashPassword` with the salt it draws, and `VerifyPassword`; `none` is an error. -/
structure PasswordHash where
  hash   : Nat → String → Option String
  verify : String → String → Option Bool

namespace PasswordHash

/-- What is stored is a hash of the password. -/
def IsHash (crypto : PasswordHash) (password secret : String) : Prop :=
  ∃ salt, crypto.hash salt password = some secret

/-- `VerifyPassword` accepts a password with what `HashPassword` has made of it. -/
def Accepts (crypto : PasswordHash) : Prop :=
  ∀ password secret, crypto.IsHash password secret → crypto.verify password secret = some true

end PasswordHash

end Ggid.Auth
