import Ggid.Lib.Run
import Ggid.OAuth.Domain

/-!
# OAuth service — signing keys and access tokens

`RotatingKeyProvider`, the key set the service publishes (`GetJWKS`), and the two
functions that judge an access token: `ParseAccessToken` and `IntrospectToken`.
The provider holds the current signing key and at most one previous key, which it
hands out until the grace period is over.

A token is modelled decoded, as its header, claims and signature; signing and
verifying are the fields of `Jwt`, after the JWT library. A key is named by a hash
of its public half, the parameter `fingerprint`.

`KeyState` is the service over time: the provider, the clock, and a record of the
tokens issued and the keys replaced so far. The two background loops
(`StartRotationTicker`, `StartAutoRotation`) rotate and clean up, and do nothing
else to it; a tick of the second is `autoRotationTick`.
-/

namespace Ggid.OAuth

open Ggid.Go Ggid.Policy

-- ---------------------------------------------------------------------------
-- Keys
-- ---------------------------------------------------------------------------

/-- `rsa.PublicKey`. -/
structure PublicKey where
  n : Nat
  e : Int
  deriving DecidableEq

/-- `rsa.PrivateKey`, without the factors of the modulus. -/
structure PrivateKey where
  publicKey : PublicKey
  d         : Nat
  deriving DecidableEq

/-- `hex.EncodeToString` of eight bytes. -/
def hexString (h : BitVec 64) : String :=
  String.ofList ((List.range 16).map fun i => hexDigit (h.toNat / 16 ^ (15 - i) % 16))

/-- The first eight bytes of the SHA-256 of a public key in PKIX form; `none` if the
key cannot be written in that form. -/
abbrev Fingerprint := PublicKey → Option (BitVec 64)

def generateKeyID (fingerprint : Fingerprint) (key : PrivateKey) : String :=
  match fingerprint key.publicKey with
  | some h => hexString h
  | none => "fallback-kid"

/-- `CreatedAt` is never read. -/
structure RotatingKeyProvider where
  current     : PrivateKey
  currentID   : String
  previous    : Option PrivateKey
  previousID  : String
  rotatedAt   : Time
  gracePeriod : Int
  deriving DecidableEq

namespace RotatingKeyProvider

/-- `NewRotatingKeyProvider`. -/
def new (fingerprint : Fingerprint) (now : Time) (initialKey : PrivateKey) (gracePeriod : Int) :
    RotatingKeyProvider :=
  ⟨initialKey, generateKeyID fingerprint initialKey, none, "", now,
    if gracePeriod = 0 then 24 * 60 * minute else gracePeriod⟩

/-- `RotateKey`; `generated` is what `rsa.GenerateKey` returned. -/
def rotateKey (fingerprint : Fingerprint) (now : Time) (generated : Option PrivateKey)
    (r : RotatingKeyProvider) : Except GGIDError RotatingKeyProvider :=
  match generated with
  | none => .error (.driver "generate new signing key")
  | some newKey => .ok { r with
      previous := some r.current, previousID := r.currentID, rotatedAt := now,
      current := newKey, currentID := generateKeyID fingerprint newKey }

/-- `time.Since(r.rotatedAt) <= r.gracePeriod`. -/
def inGracePeriod (r : RotatingKeyProvider) (now : Time) : Bool :=
  now - r.rotatedAt ≤ r.gracePeriod

def previousPublicKey (r : RotatingKeyProvider) (now : Time) : Option PublicKey :=
  match r.previous with
  | none => none
  | some key => if r.inGracePeriod now then some key.publicKey else none

def previousKeyID (r : RotatingKeyProvider) (now : Time) : String :=
  if r.previous.isNone || !r.inGracePeriod now then "" else r.previousID

def cleanupExpired (r : RotatingKeyProvider) (now : Time) : RotatingKeyProvider :=
  if r.previous.isSome && !r.inGracePeriod now then { r with previous := none, previousID := "" }
  else r

def resolveKeyByID (r : RotatingKeyProvider) (now : Time) (kid : String) : Option PrivateKey :=
  if kid = r.currentID then some r.current
  else if kid = r.previousID ∧ r.inGracePeriod now then r.previous
  else none

end RotatingKeyProvider

-- ---------------------------------------------------------------------------
-- The published key set
-- ---------------------------------------------------------------------------

/-- An RSA entry of the key set, before base64. -/
structure JWKSKey where
  kty : String
  use : String
  alg : String
  kid : String
  n   : Nat
  e   : Int
  deriving DecidableEq

def publicKeyToJWK (kid : String) (pub : PublicKey) : JWKSKey :=
  ⟨"RSA", "sig", "RS256", kid, pub.n, pub.e⟩

def getJWKS (r : RotatingKeyProvider) (now : Time) : List JWKSKey :=
  let keys := [publicKeyToJWK r.currentID r.current.publicKey]
  match r.previousPublicKey now with
  | none => keys
  | some prevPub =>
    let prevKid := r.previousKeyID now
    if prevKid = "" then keys else keys ++ [publicKeyToJWK prevKid prevPub]

/-- The key is in the published set. -/
def published (r : RotatingKeyProvider) (now : Time) (pub : PublicKey) : Bool :=
  (getJWKS r now).any fun k => k.n = pub.n && k.e = pub.e

-- ---------------------------------------------------------------------------
-- Tokens
-- ---------------------------------------------------------------------------

/-- The `aud` claim, as it is encoded. -/
inductive Audience where
  | string (s : String)
  | array (ss : List String)
  deriving DecidableEq

/-- The claims the service writes or reads; an absent one is empty. -/
structure Claims where
  iss               : String
  sub               : String
  aud               : Audience
  iat               : Int
  exp               : Int
  jti               : String
  tenantID          : String
  scope             : String
  azp               : String
  clientID          : String
  preferredUsername : String
  userID            : String
  sessionID         : String
  deviceID          : String
  riskScore         : Int
  roles             : List String
  permissions       : List String
  deriving DecidableEq

structure Header where
  alg : String
  kid : String
  deriving DecidableEq

structure Token where
  header    : Header
  claims    : Claims
  signature : String
  deriving DecidableEq

/-- Signing and verifying, by the algorithm the header names. -/
structure Jwt where
  sign   : PrivateKey → Header → Claims → String
  verify : PublicKey → Header → Claims → String → Bool

/-- A signature verifies under the key it was made with. -/
def Jwt.VerifiesOwn (jwt : Jwt) : Prop :=
  ∀ key header claims, jwt.verify key.publicKey header claims (jwt.sign key header claims) = true

/-- `Time.Unix`. -/
def unix (t : Time) : Int := t / second

/-- The token has not reached its `exp`. The library takes a zero for no `exp`. -/
def unexpired (now : Time) (claims : Claims) : Bool :=
  claims.exp = 0 || now < claims.exp * second

/-- What every grant does to issue an access token: stamp the claims with issuer and
times, name the current key in the header, sign with it. -/
def signAccessToken (jwt : Jwt) (r : RotatingKeyProvider) (issuer : String) (now : Time)
    (lifetime : Int) (claims : Claims) : Token :=
  let header : Header := ⟨"RS256", r.currentID⟩
  let claims := { claims with iss := issuer, iat := unix now, exp := unix (now + lifetime) }
  ⟨header, claims, jwt.sign r.current header claims⟩

-- ---------------------------------------------------------------------------
-- `ParseAccessToken`
-- ---------------------------------------------------------------------------

inductive ParseError where
  | unexpectedSigningMethod (alg : String)
  | signatureInvalid
  | tokenExpired
  | issuerMismatch (expected got : String)
  | audienceMismatch (expected issuer got : String)
  deriving DecidableEq

def supportedAlgs : List String :=
  ["RS256", "RS384", "RS512", "PS256", "PS384", "PS512", "ES256", "ES384", "ES512", "EdDSA",
    "SM2SM3"]

def isSupportedSigningMethod (alg : String) : Bool := supportedAlgs.contains alg

/-- `getStringClaim(claims, "aud")`. -/
def Audience.asString : Audience → String
  | .string s => s
  | .array _ => ""

/-- The audience that is compared: the string, or the first of the array. -/
def Audience.first : Audience → String
  | .string s => s
  | .array ss => ss.headD ""

/-- `jwt.ParseWithClaims`: the key function sees the header, the signature is
verified with the key it returns, then `exp` is checked. -/
def parseWithClaims (jwt : Jwt) (now : Time) (keyfunc : Header → Except ParseError PublicKey)
    (t : Token) : Except ParseError Claims :=
  match keyfunc t.header with
  | .error err => .error err
  | .ok key =>
    if !jwt.verify key t.header t.claims t.signature then .error .signatureInvalid
    else if !unexpired now t.claims then .error .tokenExpired
    else .ok t.claims

def parseAccessTokenWithAudience (jwt : Jwt) (r : RotatingKeyProvider) (issuer : String)
    (now : Time) (t : Token) (expectedAudience : String) : Except ParseError Claims :=
  -- the key is always the current one, whatever `kid` says
  let keyfunc : Header → Except ParseError PublicKey := fun header =>
    if !isSupportedSigningMethod header.alg then .error (.unexpectedSigningMethod header.alg)
    else .ok r.current.publicKey
  match parseWithClaims jwt now keyfunc t with
  | .error err => .error err
  | .ok claims =>
    if claims.iss ≠ "" ∧ claims.iss ≠ issuer then .error (.issuerMismatch issuer claims.iss)
    else if expectedAudience ≠ "" ∧ claims.aud.first ≠ expectedAudience ∧
        claims.aud.first ≠ issuer then
      .error (.audienceMismatch expectedAudience issuer claims.aud.first)
    else .ok claims

def parseAccessToken (jwt : Jwt) (r : RotatingKeyProvider) (issuer : String) (now : Time)
    (t : Token) : Except ParseError Claims :=
  parseAccessTokenWithAudience jwt r issuer now t ""

-- ---------------------------------------------------------------------------
-- `IntrospectToken`
-- ---------------------------------------------------------------------------

/-- What is known to be revoked: the tokens in Redis or in memory, and the `jti` of
the revoked sessions in the database (none without a database). -/
structure Revocations where
  cached : List Token
  jtis   : List String

def isTokenRevoked (jwt : Jwt) (r : RotatingKeyProvider) (issuer : String) (now : Time)
    (revoked : Revocations) (t : Token) : Bool :=
  if revoked.cached.contains t then true
  else match parseAccessToken jwt r issuer now t with
    | .error _ => false
    | .ok claims => if claims.jti = "" then false else revoked.jtis.contains claims.jti

structure IntrospectionResponse where
  active      : Bool
  scope       : String
  clientID    : String
  username    : String
  tokenType   : String
  exp         : Int
  iat         : Int
  sub         : String
  aud         : String
  iss         : String
  userID      : String
  tenantID    : String
  sessionID   : String
  deviceID    : String
  riskScore   : Int
  roles       : List String
  permissions : List String
  deriving DecidableEq

/-- `IntrospectionResponse{Active: false}`. -/
def IntrospectionResponse.inactive : IntrospectionResponse :=
  ⟨false, "", "", "", "", 0, 0, "", "", "", "", "", "", "", 0, [], []⟩

/-- The client a token was issued to: `azp`, then `client_id`, then the audience. -/
def introspectClientID (claims : Claims) : String :=
  if claims.azp ≠ "" then claims.azp
  else if claims.clientID ≠ "" then claims.clientID
  else claims.aud.asString

def introspectToken (jwt : Jwt) (r : RotatingKeyProvider) (issuer : String) (now : Time)
    (revoked : Revocations) (t : Token) : IntrospectionResponse :=
  if isTokenRevoked jwt r issuer now revoked t then .inactive
  else match parseAccessToken jwt r issuer now t with
    | .error _ => .inactive
    | .ok c => ⟨true, c.scope, introspectClientID c, c.preferredUsername, "Bearer", c.exp, c.iat,
        c.sub, c.aud.asString, c.iss, c.userID, c.tenantID, c.sessionID, c.deviceID, c.riskScore,
        c.roles, c.permissions⟩

-- ---------------------------------------------------------------------------
-- The service over time
-- ---------------------------------------------------------------------------

/-- A token and the key it was signed with. -/
structure Issued where
  token : Token
  key   : PrivateKey
  deriving DecidableEq

/-- A key that was current under `id` until `replacedAt`. -/
structure Replaced where
  key        : PrivateKey
  id         : String
  replacedAt : Time
  deriving DecidableEq

structure KeyState where
  issuer   : String
  keys     : RotatingKeyProvider
  now      : Time
  revoked  : Revocations
  issued   : List Issued
  replaced : List Replaced

/-- A service that starts with one key; nothing is revoked. -/
def KeyState.start (fingerprint : Fingerprint) (issuer : String) (initialKey : PrivateKey)
    (gracePeriod : Int) (now : Time) : KeyState :=
  ⟨issuer, .new fingerprint now initialKey gracePeriod, now, ⟨[], []⟩, [], []⟩

inductive KeyOp where
  | rotateKey (generated : Option PrivateKey)
  | cleanupExpired
  | issue (lifetime : Int) (claims : Claims)
  | advance (elapsed : Nat)

def keyStep (jwt : Jwt) (fingerprint : Fingerprint) (s : KeyState) : KeyOp → KeyState
  | .rotateKey generated =>
    match s.keys.rotateKey fingerprint s.now generated with
    | .error _ => s
    | .ok keys => { s with
        keys := keys, replaced := ⟨s.keys.current, s.keys.currentID, s.now⟩ :: s.replaced }
  | .cleanupExpired => { s with keys := s.keys.cleanupExpired s.now }
  | .issue lifetime claims => { s with
      issued := ⟨signAccessToken jwt s.keys s.issuer s.now lifetime claims, s.keys.current⟩ ::
        s.issued }
  | .advance elapsed => { s with now := s.now + elapsed }

/-- What one tick of `StartAutoRotation` does. A failed rotation skips the clean-up. -/
def autoRotationTick (s : KeyState) (maxAge : Int) (generated : Option PrivateKey) : List KeyOp :=
  if maxAge < s.now - s.keys.rotatedAt then
    match generated with
    | none => [.rotateKey none]
    | some key => [.rotateKey (some key), .cleanupExpired]
  else [.cleanupExpired]

end Ggid.OAuth
