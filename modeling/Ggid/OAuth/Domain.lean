import Ggid.Go.Strings
import Ggid.Policy.Domain

/-!
# OAuth service — domain models

The records of `services/oauth/internal/domain`, field for field, with the
methods on them that the grants call. `PostLogoutRedirectURIs` is left out:
nothing modelled here reads it. Errors are those of `pkg/errors`, as in the
policy engine.

Hashing and password verification come from `pkg/crypto` and the standard
library; the model takes them as the fields of `Crypto`.
-/

namespace Ggid.OAuth

open Ggid.Go Ggid.Policy

-- ---------------------------------------------------------------------------
-- Cryptographic primitives
-- ---------------------------------------------------------------------------

structure Crypto where
  /-- The verdict of `pkgcrypto.VerifyPassword(password, encoded)`. -/
  verifyPassword : String → String → Bool
  /-- `hashTokenSHA256`: the hexadecimal SHA-256 of a token. -/
  hashTokenSHA256 : String → String
  /-- `hashCode`, which is also the S256 challenge of a code verifier: the
  URL-safe base64 SHA-256. -/
  hashCode : String → String

-- ---------------------------------------------------------------------------
-- Clients
-- ---------------------------------------------------------------------------

inductive ClientType where
  | confidential | publicClient
  | other (raw : String)
  deriving DecidableEq

structure OAuthClient where
  id                      : UUID
  tenantID                : UUID
  clientID                : String
  clientSecretHash        : String
  name                    : String
  description             : String
  type                    : ClientType
  grantTypes              : List String
  responseTypes           : List String
  redirectURIs            : List String
  scopes                  : List String
  tokenEndpointAuthMethod : String
  metadata                : GoMap
  requirePKCE             : Bool
  authMethods             : List String
  enabled                 : Bool
  createdAt               : Time
  updatedAt               : Time

namespace OAuthClient

def isConfidential (c : OAuthClient) : Bool := c.type = .confidential

def isPublic (c : OAuthClient) : Bool := c.type = .publicClient

def supportsGrantType (c : OAuthClient) (gt : String) : Bool := c.grantTypes.contains gt

def validateRedirectURI (c : OAuthClient) (uri : String) : Bool := c.redirectURIs.contains uri

end OAuthClient

-- ---------------------------------------------------------------------------
-- Authorization codes and refresh tokens
-- ---------------------------------------------------------------------------

structure AuthorizationCode where
  id                  : UUID
  tenantID            : UUID
  codeHash            : String
  clientID            : UUID
  userID              : UUID
  redirectURI         : String
  scope               : List String
  codeChallenge       : String
  codeChallengeMethod : String
  nonce               : String
  expiresAt           : Time
  used                : Bool
  createdAt           : Time
  amr                 : List String
  acr                 : String
  authTime            : Time
  requestedACR        : String
  deriving DecidableEq

/-- The characters RFC 7636 allows in a code verifier. -/
def isVerifierChar (c : Char) : Bool :=
  ('a' ≤ c && c ≤ 'z') || ('A' ≤ c && c ≤ 'Z') || ('0' ≤ c && c ≤ '9') ||
    c = '-' || c = '.' || c = '_' || c = '~'

/-- `ValidatePKCE`. A verifier with a character outside ASCII fails the character
test, so its length in characters is its length in bytes where it counts. -/
def AuthorizationCode.validatePKCE (crypto : Crypto) (c : AuthorizationCode) (verifier : String) :
    Bool :=
  if c.codeChallenge = "" then true
  else if verifier.length < 43 ∨ 128 < verifier.length then false
  else if !verifier.toList.all isVerifierChar then false
  else if c.codeChallengeMethod = "" ∨ c.codeChallengeMethod = "S256" then
    crypto.hashCode verifier = c.codeChallenge
  else false

structure RefreshTokenRecord where
  id        : UUID
  tenantID  : UUID
  clientID  : UUID
  userID    : UUID
  tokenHash : String
  scope     : List String
  expiresAt : Time
  revoked   : Bool
  used      : Bool
  createdAt : Time
  familyID  : String
  deriving DecidableEq

-- ---------------------------------------------------------------------------
-- Errors
-- ---------------------------------------------------------------------------

/-- `errors.Unauthenticated`. -/
def unauthenticated (message : String) : GGIDError := .new .unauthenticated message

/-- `errors.InvalidArgument`. -/
def invalidArgument (message : String) : GGIDError := .new .invalidArgument message

/-- `errors.Internal`. -/
def internal (message : String) (cause : GGIDError) : GGIDError := .wrap .internal message cause

-- ---------------------------------------------------------------------------
-- Client authentication
-- ---------------------------------------------------------------------------

/-- The first steps of every token grant: look up the client, verify the secret of
a confidential client, reject a disabled one. `found` is what `GetClientByID`
returned. -/
def authenticateClient (crypto : Crypto) (found : Option OAuthClient) (clientSecret : String) :
    Except GGIDError OAuthClient :=
  match found with
  | none => .error (unauthenticated "client authentication failed")
  | some client =>
    if client.isConfidential && client.tokenEndpointAuthMethod ≠ "none" &&
        !crypto.verifyPassword clientSecret client.clientSecretHash then
      .error (unauthenticated "invalid client credentials")
    else if !client.enabled then .error (invalidArgument "client is disabled")
    else .ok client

-- ---------------------------------------------------------------------------
-- Scopes
-- ---------------------------------------------------------------------------

/-- A scope that may only come from the user's role keys. -/
def privileged (std : Stdlib) (sc : String) : Bool :=
  let lower := std.toLower sc
  lower = "admin" || Strings.hasPrefix lower.toList "platform:".toList ||
    Strings.hasPrefix lower.toList "tenant:".toList

def filterSafeScopes (std : Stdlib) (scopes : List String) : List String :=
  scopes.filter fun sc => sc ≠ "" && !privileged std sc

def joinScopes (scopes : List String) : String := Strings.join " " scopes

def splitScopes (s : String) : List String := Strings.fields s

/-- `normalizeAdminScope`: the legacy scope `admin` is written `tenant:admin`. -/
def normalizeAdminScope (scope : String) : String :=
  joinScopes ((Strings.fields scope).map fun s => if s = "admin" then "tenant:admin" else s)

def intersectScopes (std : Stdlib) (requested allowed : List String) : List String :=
  requested.filter fun r => (allowed.map std.toLower).contains (std.toLower r)

end Ggid.OAuth
