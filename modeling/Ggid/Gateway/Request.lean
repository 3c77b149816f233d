import Ggid.Gateway.Token

/-!
# Gateway — requests

A request with its header, as package `net/http` has it, and the context values the gateway's
middleware leaves for what comes after: the verified claims, the user, the tenant.

Every change of a header is a `set` or a `del` of a name; `values_set` and `values_del` say
what either leaves under any name.
-/

namespace Ggid.Gateway

open Ggid.Go

-- ---------------------------------------------------------------------------
-- Headers
-- ---------------------------------------------------------------------------

/-- A character of a header name. -/
def isTokenChar (c : Char) : Bool :=
  c.isAlphanum || "!#$%&'*+-.^_`|~".toList.contains c

/-- Upper case at the start and behind a hyphen, lower case elsewhere. -/
def canonicalChars : Bool → List Char → List Char
  | _, [] => []
  | upper, c :: s =>
    (if upper = true then c.toUpper else c.toLower) :: canonicalChars (c == '-') s

/-- `CanonicalMIMEHeaderKey`. -/
def canonicalKey (name : String) : String :=
  if name.toList.all isTokenChar = true then String.ofList (canonicalChars true name.toList)
  else name

/-- The lines of a header. Their names are compared in canonical form. -/
abbrev Header := List (String × String)

namespace Header

def named (name : String) (line : String × String) : Bool :=
  canonicalKey line.1 == canonicalKey name

def values (h : Header) (name : String) : List String := (h.filter (named name)).map Prod.snd

/-- The first value; empty if there is none. -/
def get (h : Header) (name : String) : String := (h.values name).headD ""

def del (h : Header) (name : String) : Header := h.filter fun line => !named name line

def set (h : Header) (name value : String) : Header := h.del name ++ [(name, value)]

/-- Only the name that is deleted changes. -/
theorem values_del (h : Header) (name name' : String) : (h.del name).values name' =
    if canonicalKey name' = canonicalKey name then [] else h.values name' := by
  unfold del values
  rw [List.filter_filter]
  by_cases hname : canonicalKey name' = canonicalKey name
  · rw [if_pos hname, List.map_eq_nil_iff, List.filter_eq_nil_iff]
    intro line _
    simp [named, hname]
  · rw [if_neg hname]
    congr 1
    refine List.filter_congr fun line _ => ?_
    unfold named
    by_cases hline : canonicalKey line.1 = canonicalKey name'
    · simp [hline, hname]
    · simp [hline]

theorem values_set (h : Header) (name value name' : String) : (h.set name value).values name' =
    if canonicalKey name' = canonicalKey name then [value] else h.values name' := by
  have happend : (h.set name value).values name' =
      (h.del name).values name' ++ Header.values [(name, value)] name' := by
    simp [set, values]
  rw [happend, values_del]
  by_cases hname : canonicalKey name' = canonicalKey name
  · simp [hname, values, named]
  · simp [hname, Ne.symm hname, values, named]

/-- Leaving out lines leaves out values. -/
theorem mem_values_filter {h : Header} {p : String × String → Bool} {name v : String}
    (hv : v ∈ Header.values (h.filter p) name) : v ∈ h.values name := by
  unfold values at hv ⊢
  obtain ⟨line, hline, rfl⟩ := List.mem_map.mp hv
  rw [List.filter_filter, List.mem_filter, Bool.and_eq_true] at hline
  exact List.mem_map_of_mem (List.mem_filter.mpr ⟨hline.1, hline.2.1⟩)

end Header

-- ---------------------------------------------------------------------------
-- Claims
-- ---------------------------------------------------------------------------

/-- `JWTCClaims`, less the fields nothing here reads. -/
structure JWTCClaims where
  subject     : String
  tenantID    : String
  scopes      : List String
  permissions : List String
  roles       : List String
  deriving DecidableEq

/-- `JWTCClaims{}`. -/
def JWTCClaims.empty : JWTCClaims := ⟨"", "", [], [], []⟩

/-- The strings of a `[]any`. -/
def stringItems : Option Any → List String
  | some (.slice xs) => xs.filterMap fun
    | .string s => some s
    | _ => none
  | _ => []

/-- Scopes come as a text, as a list, or as a list under another name. -/
def buildVerifiedClaims (claims : GoMap) : JWTCClaims where
  subject := stringField claims "sub"
  tenantID := stringField claims "tenant_id"
  scopes := (match claims.lookup "scope" with
    | some (.string s) => Strings.fields s
    | v => stringItems v) ++ stringItems (claims.lookup "scopes")
  permissions := stringItems (claims.lookup "permissions")
  roles := stringItems (claims.lookup "roles")

-- ---------------------------------------------------------------------------
-- Requests
-- ---------------------------------------------------------------------------

/-- The context values; `none` where a value was never set. -/
structure Context where
  requestID    : Option String
  userID       : Option String
  tenantID     : Option String
  apiKeyScopes : Option (List String)
  claims       : Option JWTCClaims
  deriving DecidableEq

/-- The context of a request that just came in. -/
def Context.background : Context := ⟨none, none, none, none, none⟩

/-- What `json.Unmarshal` into a map makes of a body. -/
inductive Body
  | absent
  | object (fields : GoMap)
  | other

/-- `query` is `URL.Query()`. -/
structure Request where
  method : String
  host   : String
  path   : String
  query  : List (String × String)
  header : Header
  body   : Body
  ctx    : Context

/-- `ExtractJWTClaims`: claims without a subject count as none. -/
def extractJWTClaims (ctx : Context) : JWTCClaims :=
  match ctx.claims with
  | some c => if c.subject ≠ "" then c else .empty
  | none => .empty

/-- `UserIDFromRequest`; `parseUUID` is `uuid.Parse`. -/
def userIDFromRequest (parseUUID : String → Option UUID) (ctx : Context) : Option UUID :=
  match ctx.userID with
  | some id => if id = "" then none else parseUUID id
  | none => none

/-- `TenantIDFromRequest`. -/
def tenantIDFromRequest (ctx : Context) : Option String :=
  match ctx.tenantID with
  | some id => if id = "" then none else some id
  | none => none

/-- `IsAPIKeyRequest`. -/
def isAPIKeyRequest (h : Header) : Bool :=
  h.get "X-API-Key" ≠ "" || Strings.hasPrefix (h.get "Authorization").toList "ApiKey ".toList

end Ggid.Gateway
