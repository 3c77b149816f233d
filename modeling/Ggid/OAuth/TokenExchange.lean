import Ggid.Go.Json
import Ggid.OAuth.Keys

/-!
# OAuth service — RFC 8693 token exchange

`ExchangeTokenRFC8693` and the legacy `ExchangeToken`, which share
`exchangeTokenInternal`: a token is exchanged for one with a narrower scope, of
another audience, and possibly with an actor.

A token is modelled decoded, as the claims its JSON text is read back as. Parsing one
(signature and expiry, by the JWT library) and signing one are what the outside
contributes; so are the revocation lookup and the client repository.
-/

namespace Ggid.OAuth

open Ggid.Go Ggid.Policy

-- ---------------------------------------------------------------------------
-- Tokens and claims
-- ---------------------------------------------------------------------------

structure SignedToken where
  claims    : GoMap
  signature : String

/-- `claims[key].(string)`, empty if it is not one. -/
def getStringClaim (claims : GoMap) (key : String) : String :=
  match claims.lookup key with
  | some (.string s) => s
  | _ => ""

def getBoolClaim (claims : GoMap) (key : String) : Bool :=
  match claims.lookup key with
  | some (.bool b) => b
  | _ => false

def stringItem : Any → Option String
  | .string s => some s
  | _ => none

def getStringSliceClaim (claims : GoMap) (key : String) : List String :=
  match claims.lookup key with
  | some (.slice xs) => xs.filterMap stringItem
  | some (.string s) => [s]
  | _ => []

namespace SignedToken

def subject (t : SignedToken) : String := getStringClaim t.claims "sub"

/-- The tenant a token names; empty without the claim. -/
def tenant (t : SignedToken) : String := getStringClaim t.claims "tenant_id"

/-- The words of the `scope` claim. -/
def scopes (t : SignedToken) : List String := Strings.fields (getStringClaim t.claims "scope")

def permissions (t : SignedToken) : List String := getStringSliceClaim t.claims "permissions"

def roles (t : SignedToken) : List String := getStringSliceClaim t.claims "roles"

end SignedToken

-- ---------------------------------------------------------------------------
-- What the outside contributes
-- ---------------------------------------------------------------------------

structure ExchangeOutside where
  now       : Time
  /-- `jwt.ParseWithClaims` under the current public key. -/
  accepts   : SignedToken → Except GGIDError Unit
  /-- `IsTokenRevoked`. -/
  revoked   : SignedToken → Bool
  /-- `SignedString` with the current key; `none` when signing fails. -/
  sign      : GoMap → Option String
  /-- `uuid.Parse` accepts the text. -/
  validUUID : String → Bool
  /-- What `GetClientByID` returns. -/
  found     : Option OAuthClient
  /-- `uuid.New()`. -/
  newID     : UUID

/-- `fmt.Errorf("text: %w", err)`. -/
def wrapped (text : String) (err : GGIDError) : GGIDError := .wrap .internal text err

/-- The second look at the expiry in `parseAndValidateJWT`. -/
def expired (now : Time) (claims : GoMap) : Bool :=
  match claims.lookup "exp" with
  | some (.float64 exp) => Float64.zero.lt exp && exp.toInt < unix now
  | _ => false

def parseAndValidateJWT (out : ExchangeOutside) (t : SignedToken) : Except GGIDError GoMap :=
  match out.accepts t with
  | .error err => .error err
  | .ok () => if expired out.now t.claims then .error (.driver "token expired") else .ok t.claims

-- ---------------------------------------------------------------------------
-- `exchangeTokenInternal`
-- ---------------------------------------------------------------------------

structure RFC8693ExchangeRequest where
  tenantID         : UUID
  clientID         : String
  clientSecret     : String
  subjectTokenType : String
  actorToken       : Option SignedToken
  scope            : List String
  resource         : String

structure ExchangeResponse where
  accessToken : SignedToken
  expiresIn   : Int
  scope       : String

def accessTokenType : String := "urn:ietf:params:oauth:token-type:access_token"

/-- The tenant a token names is not the one of the request. -/
def foreignTenant (claims : GoMap) (tenantID : UUID) : Bool :=
  getStringClaim claims "tenant_id" ≠ "" && getStringClaim claims "tenant_id" ≠ tenantID.string

/-- Steps 0a to 1: the claims of a subject token that may be exchanged. -/
def exchangeSubject (out : ExchangeOutside) (req : RFC8693ExchangeRequest) (t : SignedToken) :
    Except GGIDError GoMap :=
  if req.subjectTokenType ≠ "" ∧ req.subjectTokenType ≠ accessTokenType then
    .error (.driver ("unsupported subject_token_type: " ++ req.subjectTokenType))
  else match parseAndValidateJWT out t with
    | .error err => .error (wrapped "invalid subject_token" err)
    | .ok claims =>
      if out.revoked t then .error (.driver "subject token has been revoked")
      else if (claims.lookup "nonce").isSome then
        .error (.driver "ID tokens cannot be used as subject_token")
      else if getStringClaim claims "sub" = "" then
        .error (.driver "subject_token missing sub claim")
      else if foreignTenant claims req.tenantID then
        .error (.driver "subject_token tenant does not match requesting client tenant")
      else .ok claims

/-- The scopes a subject token is taken to have. -/
def subjectScopes (claims : GoMap) : List String :=
  match Strings.fields (getStringClaim claims "scope") with
  | [] => ["openid"]
  | scopes => scopes

/-- Steps 2 and 3: the requested scopes, or those of the subject token. -/
def exchangeScope (claims : GoMap) (requested : List String) : Except GGIDError (List String) :=
  if requested = [] then .ok (subjectScopes claims)
  else match requested.find? fun sc => !(subjectScopes claims).contains sc with
    | some sc => .error (.driver ("invalid_scope: '" ++ sc ++ "' exceeds subject token scope"))
    | none => .ok requested

/-- Step 5. -/
def exchangeAudience (issuer : String) (claims : GoMap) (resource : String) : String :=
  if Strings.trimSpace resource ≠ "" then Strings.trimSpace resource
  else if getStringClaim claims "aud" ≠ "" then getStringClaim claims "aud"
  else issuer

/-- The `act` claim of a token exchanged with an actor: the actor, around the one the
subject token has. -/
def nestAct (actorSub : String) (existing : Option Any) : Any :=
  .map (("sub", .string actorSub) :: (existing.map fun act => ("act", act)).toList)

/-- Step 6: the `act` claim, if there is an actor token. -/
def exchangeAct (out : ExchangeOutside) (req : RFC8693ExchangeRequest) (claims : GoMap) :
    Except GGIDError (Option Any) :=
  match req.actorToken with
  | none => .ok none
  | some actor =>
    match parseAndValidateJWT out actor with
    | .error err => .error (wrapped "invalid actor_token" err)
    | .ok actorClaims =>
      if foreignTenant actorClaims req.tenantID then
        .error (.driver "actor_token tenant does not match requesting client tenant")
      else .ok (some (nestAct (getStringClaim actorClaims "sub") (claims.lookup "act")))

/-- The permissions or roles that lie under one of the scopes. -/
def relevantTo (scopes perms : List String) : List String :=
  if scopes = [] then perms
  else perms.filter fun perm => scopes.any fun sc =>
    perm = sc || Strings.hasPrefix perm.toList (sc ++ ":").toList

/-- A slice that is nil when it is empty. -/
def nilOrStrings (l : List String) : Any := if l = [] then .nil else .strings l

/-- Step 7: the claims of the new token, as fields. -/
def exchangedFields (issuer : String) (out : ExchangeOutside) (req : RFC8693ExchangeRequest)
    (claims : GoMap) (scopes : List String) (act : Option Any) : List (String × Option Any) :=
  [("iss", some (.string issuer)),
    ("sub", some (.string (getStringClaim claims "sub"))),
    ("aud", some (.string (exchangeAudience issuer claims req.resource))),
    ("iat", some (.ofInt (unix out.now))),
    ("exp", some (.ofInt (unix (out.now + 15 * minute)))),
    ("jti", some (.string out.newID.string)),
    ("tenant_id", some (.string req.tenantID.string)),
    ("scope", some (.string (Strings.join " " scopes))),
    ("permissions", some (nilOrStrings
      (relevantTo scopes (getStringSliceClaim claims "permissions")))),
    ("roles", some (nilOrStrings (relevantTo scopes (getStringSliceClaim claims "roles")))),
    ("act", act)]

def exchangedClaims (issuer : String) (out : ExchangeOutside) (req : RFC8693ExchangeRequest)
    (claims : GoMap) (scopes : List String) (act : Option Any) : GoMap :=
  jsonObject (exchangedFields issuer out req claims scopes act)

def exchangeTokenInternal (issuer : String) (out : ExchangeOutside) (req : RFC8693ExchangeRequest)
    (t : SignedToken) : Except GGIDError ExchangeResponse :=
  match exchangeSubject out req t with
  | .error err => .error err
  | .ok claims =>
    match exchangeScope claims req.scope with
    | .error err => .error err
    | .ok scopes =>
      if !out.validUUID (getStringClaim claims "sub") then
        .error (.driver ("subject_token has invalid sub: " ++ getStringClaim claims "sub"))
      else match exchangeAct out req claims with
        | .error err => .error err
        | .ok act =>
          match out.sign (exchangedClaims issuer out req claims scopes act) with
          | none => .error (wrapped "sign exchanged token" (.driver "signing failed"))
          | some signature =>
            .ok ⟨⟨exchangedClaims issuer out req claims scopes act, signature⟩, 15 * 60,
              Strings.join " " scopes⟩

/-- `ExchangeTokenRFC8693`. -/
def exchangeTokenRFC8693 (crypto : Crypto) (issuer : String) (out : ExchangeOutside)
    (req : RFC8693ExchangeRequest) (t : SignedToken) : Except GGIDError ExchangeResponse :=
  if req.clientID = "" then
    .error (unauthenticated "client_id is required for token exchange")
  else match authenticateClient crypto out.found req.clientSecret with
    | .error err => .error err
    | .ok _ => exchangeTokenInternal issuer out req t

end Ggid.OAuth
