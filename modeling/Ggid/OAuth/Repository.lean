import Ggid.Lib.Table
import Ggid.OAuth.Domain

/-!
# OAuth service — the PostgreSQL code and token repositories

The tables `oauth_authorization_codes` and `oidc_refresh_tokens` and the
statements `services/oauth/internal/repository/pg_repo.go` runs against them.
A row holds the columns, which are not the fields of the Go records: scopes of a
refresh token are one text, its family may be `NULL`, and the authentication
context of a code has no columns.

Row-level security plays no part: the service connects as the database's
superuser.
-/

namespace Ggid.OAuth

open Ggid.Go Ggid.Policy Ggid.Lib

-- ---------------------------------------------------------------------------
-- Rows
-- ---------------------------------------------------------------------------

/-- A row of `oauth_authorization_codes`. -/
structure CodeRow where
  id                  : UUID
  tenantID            : UUID
  codeHash            : String
  clientID            : UUID
  userID              : UUID
  redirectURI         : String
  scope               : List String
  codeChallenge       : String
  codeChallengeMethod : String
  nonce               : String
  expiresAt           : Time
  used                : Bool
  createdAt           : Time
  deriving DecidableEq

/-- A row of `oidc_refresh_tokens`. -/
structure TokenRow where
  id        : UUID
  tenantID  : UUID
  userID    : UUID
  clientID  : UUID
  tokenHash : String
  scope     : String
  expiresAt : Time
  revoked   : Bool
  used      : Bool
  createdAt : Time
  familyID  : Option String
  deriving DecidableEq

/-- Neither used nor revoked. -/
def TokenRow.live (r : TokenRow) : Bool := !r.used && !r.revoked

/-- A row of the rotation family. -/
def TokenRow.inFamily (tenantID : UUID) (familyID : String) (r : TokenRow) : Bool :=
  r.tenantID = tenantID && r.familyID = some familyID

/-- A row a token value stands for. -/
def TokenRow.holds (tenantID : UUID) (tokenHash : String) (r : TokenRow) : Bool :=
  r.tenantID = tenantID && r.tokenHash = tokenHash

-- ---------------------------------------------------------------------------
-- `pgCodeRepo`
-- ---------------------------------------------------------------------------

namespace CodeRepo

/-- The insert of `CreateCode` is refused by the schema: a column is too long, the
scope is a nil slice (`NULL`), or the id or the hash is taken. -/
def refused (codes : Table CodeRow.id) (code : AuthorizationCode) (scopeIsNil : Bool) : Bool :=
  scopeIsNil || 64 < code.codeHash.length || 256 < code.codeChallenge.length ||
    10 < code.codeChallengeMethod.length || 128 < code.nonce.length ||
    codes.rows.any fun r => r.codeHash = code.codeHash || r.id = code.id

def toRow (now : Time) (code : AuthorizationCode) : CodeRow :=
  ⟨code.id, code.tenantID, code.codeHash, code.clientID, code.userID, code.redirectURI,
    code.scope, code.codeChallenge, code.codeChallengeMethod, code.nonce, code.expiresAt, false,
    now⟩

/-- `CreateCode`: `created_at` is drawn by `NOW()`. -/
def createCode (codes : Table CodeRow.id) (now : Time) (code : AuthorizationCode)
    (scopeIsNil : Bool) : Except GGIDError (Table CodeRow.id) :=
  if refused codes code scopeIsNil then
    .error (.wrap .internal "create auth code" (.driver "constraint violation"))
  else match codes.insert? (toRow now code) with
    | none => .error (.wrap .internal "create auth code" (.driver "constraint violation"))
    | some codes => .ok codes

/-- The columns `ConsumeCode` returns, scanned into a fresh record. -/
def ofRow (r : CodeRow) : AuthorizationCode :=
  ⟨r.id, r.tenantID, r.codeHash, r.clientID, r.userID, r.redirectURI, r.scope, r.codeChallenge,
    r.codeChallengeMethod, r.nonce, r.expiresAt, false, r.createdAt, [], "", Time.zero, ""⟩

def consumable (now : Time) (codeHash : String) (r : CodeRow) : Bool :=
  r.codeHash = codeHash && !r.used && decide (now < r.expiresAt)

theorem consumable_iff {now : Time} {codeHash : String} {r : CodeRow} :
    consumable now codeHash r = true ↔
      r.codeHash = codeHash ∧ r.used = false ∧ now < r.expiresAt := by
  simp [consumable, and_assoc]

/-- `ConsumeCode`: `UPDATE … SET used = true … RETURNING …`. -/
def consumeCode (codes : Table CodeRow.id) (now : Time) (codeHash : String) :
    Except GGIDError (AuthorizationCode × Table CodeRow.id) :=
  match codes.rows.find? (consumable now codeHash) with
  | none => .error (.new .invalidArgument "invalid or expired authorization code")
  | some r => .ok (ofRow r, codes.update (consumable now codeHash)
      (fun r => { r with used := true }) (fun _ => rfl))

end CodeRepo

-- ---------------------------------------------------------------------------
-- `pgIDTokenRepo`
-- ---------------------------------------------------------------------------

namespace TokenRepo

/-- `GetRefreshToken`: `COALESCE(family_id, '')`, and the scope text split. -/
def ofRow (r : TokenRow) : RefreshTokenRecord :=
  ⟨r.id, r.tenantID, r.clientID, r.userID, r.tokenHash, Strings.fields r.scope, r.expiresAt,
    r.revoked, r.used, r.createdAt, r.familyID.getD ""⟩

def getRefreshToken (tokens : Table TokenRow.id) (tenantID : UUID) (tokenHash : String) :
    Option RefreshTokenRecord :=
  (tokens.rows.find? (TokenRow.holds tenantID tokenHash)).map ofRow

/-- `StoreRefreshToken`: a new row is neither revoked nor used, whatever the record
says, and `NULLIF(family_id, '')`. -/
def toRow (record : RefreshTokenRecord) : TokenRow :=
  ⟨record.id, record.tenantID, record.userID, record.clientID, record.tokenHash,
    Strings.join " " record.scope, record.expiresAt, false, false, record.createdAt,
    if record.familyID = "" then none else some record.familyID⟩

theorem toRow_familyID {record : RefreshTokenRecord} (h : record.familyID ≠ "") :
    (toRow record).familyID = some record.familyID := if_neg h

def storeRefreshToken (tokens : Table TokenRow.id) (record : RefreshTokenRecord) :
    Option (Table TokenRow.id) :=
  tokens.insert? (toRow record)

def spend (r : TokenRow) : TokenRow := { r with revoked := true, used := true }

def revoke (r : TokenRow) : TokenRow := { r with revoked := true }

/-- `RevokeRefreshToken`: the nil tenant stands for every tenant. -/
def revokeRefreshToken (tokens : Table TokenRow.id) (tenantID : UUID) (tokenHash : String) :
    Table TokenRow.id :=
  tokens.update
    (fun r => (r.tenantID = tenantID || tenantID = UUID.nil) && r.tokenHash = tokenHash)
    spend (fun _ => rfl)

/-- `RevokeAllRefreshTokens`. -/
def revokeAllRefreshTokens (tokens : Table TokenRow.id) (tenantID clientID : UUID) :
    Table TokenRow.id :=
  tokens.update (fun r => r.tenantID = tenantID && r.clientID = clientID) revoke (fun _ => rfl)

/-- `RevokeRefreshTokensByFamily`. -/
def revokeRefreshTokensByFamily (tokens : Table TokenRow.id) (tenantID : UUID)
    (familyID : String) : Table TokenRow.id :=
  tokens.update (TokenRow.inFamily tenantID familyID) revoke (fun _ => rfl)

def consumable (tenantID : UUID) (tokenHash : String) (r : TokenRow) : Bool :=
  r.holds tenantID tokenHash && r.live

theorem consumable_iff {tenantID : UUID} {tokenHash : String} {r : TokenRow} :
    consumable tenantID tokenHash r = true ↔ r.holds tenantID tokenHash = true ∧ r.live = true := by
  rw [consumable, Bool.and_eq_true]

/-- `ConsumeRefreshToken`: the conditional update, and whether it touched exactly
one row. -/
def consumeRefreshToken (tokens : Table TokenRow.id) (tenantID : UUID) (tokenHash : String) :
    Table TokenRow.id × Bool :=
  (tokens.update (consumable tenantID tokenHash) spend (fun _ => rfl),
    tokens.rows.countP (consumable tenantID tokenHash) = 1)

end TokenRepo

end Ggid.OAuth
