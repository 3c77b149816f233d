import Ggid.Gateway.Token
import Ggid.Lib.Run

/-!
# Gateway — the keys tokens are verified with

`JWKSClient` has a static key, loaded from a file or set by `UpdatePublicKey`, and a key set
that refreshes replace. A token that names a key of the set is verified with it. A token that
names no key is verified with the static one, and so is a token that names a key the set does
not have.

* `accepted_iff` — which tokens are accepted by the key they name, at any time of any run;
* `rotated_out_accepted` — a token of a key that has left the set and is accepted.
-/

namespace Ggid.Gateway

open Ggid.Go Ggid.Lib Ggid.OAuth

-- ---------------------------------------------------------------------------
-- The client
-- ---------------------------------------------------------------------------

/-- The fields that verification reads. `keyID` is the name of the static key. -/
structure JWKSClient where
  jwksURL   : String
  publicKey : Option PublicKey
  keyID     : String
  keys      : List (String × PublicKey)
  deriving DecidableEq

/-- An entry of a fetched key set. -/
structure JWK where
  kty : String
  kid : String
  use : String
  n   : String
  e   : String

/-- `keys[kid] = pub`. -/
def setKey (keys : List (String × PublicKey)) (kid : String) (pub : PublicKey) :
    List (String × PublicKey) :=
  (kid, pub) :: keys.filter fun entry => entry.1 ≠ kid

section Client

-- `decodeKey` is `jwkToRSAPublicKey`.
variable (decodeKey : String → String → Option PublicKey)

/-- The keys of a fetched set that can be used. -/
def usableKeys (fetched : List JWK) : List (String × PublicKey) :=
  fetched.foldl (fun keys k =>
    if k.kty ≠ "RSA" ∨ k.use ≠ "sig" then keys
    else (decodeKey k.n k.e).elim keys fun pub => setKey keys k.kid pub) []

/-- `refreshJWKS`; `none` where the set could not be fetched or decoded. -/
def refreshJWKS (c : JWKSClient) (fetched : Option (List JWK)) : JWKSClient :=
  if c.jwksURL = "" then c
  else fetched.elim c fun ks =>
    if 0 < (usableKeys decodeKey ks).length then { c with keys := usableKeys decodeKey ks } else c

/-- `NewJWKSClient`; `loaded` is the key in the configured file, if there is one. -/
def newJWKSClient (jwksURL : String) (loaded : Option (PublicKey × String))
    (fetched : Option (List JWK)) : JWKSClient :=
  refreshJWKS decodeKey
    (loaded.elim ⟨jwksURL, none, "", []⟩ fun key => ⟨jwksURL, some key.1, key.2, [(key.2, key.1)]⟩)
    fetched

def updatePublicKey (c : JWKSClient) (pub : PublicKey) (keyID : String) : JWKSClient :=
  { c with publicKey := some pub, keyID, keys := setKey c.keys keyID pub }

inductive JWKSEvent
  | refresh (fetched : Option (List JWK))
  | update (pub : PublicKey) (keyID : String)

def jwksStep (c : JWKSClient) : JWKSEvent → JWKSClient
  | .refresh fetched => refreshJWKS decodeKey c fetched
  | .update pub keyID => updatePublicKey c pub keyID

end Client

def JWKSClient.getKey (c : JWKSClient) (keyID : String) : Option PublicKey :=
  match c.keys.lookup keyID with
  | some key => some key
  | none => c.publicKey

/-- The key function of `JWTAuth`. -/
def JWKSClient.keyfunc (c : JWKSClient) (header : GoMap) : Option PublicKey :=
  if ¬ isSupportedSigningMethod (stringField header "alg") then none
  else if stringField header "kid" ≠ "" then c.getKey (stringField header "kid")
  else c.publicKey

/-- The claims of a token `JWTAuth` accepts. -/
def JWKSClient.verifyToken (c : JWKSClient) (jwt : JwtLibrary) (now : Time) (token : String) :
    Option GoMap :=
  parse jwt now c.keyfunc token

-- ---------------------------------------------------------------------------
-- Accepted tokens
-- ---------------------------------------------------------------------------

/-- The token verifies under the key of the set that it names. -/
def VerifiesByKid (jwt : JwtLibrary) (c : JWKSClient) (token : String) : Prop :=
  ∃ header claims key, parseUnverified jwt token = some (header, claims) ∧
    c.keys.lookup (stringField header "kid") = some key ∧ jwt.verify key token = true

/-- A token that is valid under the static key names a key of the set; one that names none has
a key without a name to verify under. -/
def NamesKey (jwt : JwtLibrary) (c : JWKSClient) (now : Time) (token : String) : Prop :=
  ∀ pub header claims, c.publicKey = some pub → parseUnverified jwt token = some (header, claims) →
    isSupportedSigningMethod (stringField header "alg") = true →
    jwt.verify pub token = true → jwt.validate now claims = true →
      ∃ key, c.keys.lookup (stringField header "kid") = some key ∧
        (stringField header "kid" = "" → jwt.verify key token = true)

section Accepted

variable {jwt : JwtLibrary} {c : JWKSClient} {now : Time} {token : String} {header : GoMap}

theorem keyfunc_of_mem {key : PublicKey} (hkid : stringField header "kid" ≠ "")
    (halg : isSupportedSigningMethod (stringField header "alg") = true)
    (hkey : c.keys.lookup (stringField header "kid") = some key) : c.keyfunc header = some key := by
  simp only [JWKSClient.keyfunc, JWKSClient.getKey, halg, hkey]
  rw [if_neg (by simp), if_pos hkid]

/-- Without a key of its name, the static key is used. -/
theorem keyfunc_of_missing (halg : isSupportedSigningMethod (stringField header "alg") = true)
    (h : stringField header "kid" = "" ∨ c.keys.lookup (stringField header "kid") = none) :
    c.keyfunc header = c.publicKey := by
  simp only [JWKSClient.keyfunc, JWKSClient.getKey, halg]
  rw [if_neg (by simp)]
  by_cases hkid : stringField header "kid" = ""
  · rw [if_neg (not_not.mpr hkid)]
  · rw [if_pos hkid, h.resolve_left hkid]

/-- One state of the client. -/
theorem verifiesByKid_iff_namesKey :
    ((c.verifyToken jwt now token).isSome = true → VerifiesByKid jwt c token) ↔
      NamesKey jwt c now token := by
  constructor
  · intro h pub header claims hpub hparsed halg hverify hvalid
    by_cases hfound : stringField header "kid" ≠ "" ∧
        (c.keys.lookup (stringField header "kid")).isSome = true
    · obtain ⟨key, hkey⟩ := Option.isSome_iff_exists.mp hfound.2
      exact ⟨key, hkey, fun hkid => absurd hkid hfound.1⟩
    · have hmissing : stringField header "kid" = "" ∨
          c.keys.lookup (stringField header "kid") = none := by
        by_cases hkid : stringField header "kid" = ""
        · exact .inl hkid
        · exact .inr (Option.not_isSome_iff_eq_none.mp fun hsome => hfound ⟨hkid, hsome⟩)
      have haccepted : c.verifyToken jwt now token = some claims :=
        parse_eq_some.mpr ⟨header, pub, hparsed, halg,
          (keyfunc_of_missing halg hmissing).trans hpub, hverify, hvalid⟩
      obtain ⟨header', claims', key, hparsed', hkey, hverifies⟩ :=
        h (Option.isSome_iff_exists.mpr ⟨_, haccepted⟩)
      rw [hparsed, Option.some.injEq, Prod.mk.injEq] at hparsed'
      obtain ⟨rfl, rfl⟩ := hparsed'
      exact ⟨key, hkey, fun _ => hverifies⟩
  · intro h haccepted
    obtain ⟨claims, hclaims⟩ := Option.isSome_iff_exists.mp haccepted
    obtain ⟨header, used, hparsed, halg, hused, hverify, hvalid⟩ := parse_eq_some.mp hclaims
    cases hkey : c.keys.lookup (stringField header "kid") with
    | some key =>
      by_cases hkid : stringField header "kid" = ""
      · have hstatic := hused
        rw [keyfunc_of_missing halg (.inl hkid)] at hstatic
        obtain ⟨key', hkey', hverifies⟩ := h used header claims hstatic hparsed halg hverify hvalid
        exact ⟨header, claims, key', hparsed, hkey', hverifies hkid⟩
      · rw [keyfunc_of_mem hkid halg hkey] at hused
        obtain rfl := Option.some.inj hused
        exact ⟨header, claims, key, hparsed, hkey, hverify⟩
    | none =>
      rw [keyfunc_of_missing halg (.inr hkey)] at hused
      obtain ⟨key', hkey', -⟩ := h used header claims hused hparsed halg hverify hvalid
      exact absurd (hkey.symm.trans hkey') (by simp)

end Accepted

/-- A token of one key only, which is not in the set. -/
def SignedOutsideSet (jwt : JwtLibrary) (c : JWKSClient) (token : String) : Prop :=
  ∃ pub, (∀ key, jwt.verify key token = true → key = pub) ∧ pub ∉ c.keys.map Prod.snd

/-- **A token is accepted by the key it names**, at every point of every run of refreshes and
updates, exactly if it names one or is not valid under the static key. Then a token of a key
that is not in the set is refused. -/
theorem accepted_iff (jwt : JwtLibrary) (decodeKey : String → String → Option PublicKey)
    (jwksURL : String) (loaded : Option (PublicKey × String)) (fetched : Option (List JWK))
    (events : List JWKSEvent) :
    ∀ c ∈ states (jwksStep decodeKey) (newJWKSClient decodeKey jwksURL loaded fetched) events,
      ∀ now token,
        (((c.verifyToken jwt now token).isSome = true → VerifiesByKid jwt c token) ↔
          NamesKey jwt c now token) ∧
        (NamesKey jwt c now token → SignedOutsideSet jwt c token →
          c.verifyToken jwt now token = none) := by
  intro c _ now token
  refine ⟨verifiesByKid_iff_namesKey, fun hnames ⟨pub, honly, hout⟩ => ?_⟩
  rw [← Option.not_isSome_iff_eq_none]
  intro haccepted
  obtain ⟨header, claims, key, -, hkey, hverify⟩ := verifiesByKid_iff_namesKey.mpr hnames haccepted
  obtain ⟨before, after, hsplit, -⟩ := List.lookup_eq_some_iff.mp hkey
  apply hout
  rw [← honly key hverify, hsplit]
  simp

/-- The static key is the last one that was set: no refresh touches it. -/
theorem publicKey_jwksStep {decodeKey : String → String → Option PublicKey} {c : JWKSClient}
    (fetched : Option (List JWK)) :
    (jwksStep decodeKey c (.refresh fetched)).publicKey = c.publicKey := by
  simp only [jwksStep, refreshJWKS]
  split
  · rfl
  · cases fetched with
    | none => rfl
    | some ks =>
      simp only [Option.elim]
      split <;> rfl

namespace Sample

def oldKey : PublicKey := ⟨33, 3⟩

/-- Key names and keys by their modulus. -/
def decodeModulus (n _ : String) : Option PublicKey :=
  if n = "old" then some oldKey else if n = "new" then some ⟨55, 3⟩ else none

/-- Every header names the old key, and every token is signed by it. -/
def signedByOld : JwtLibrary where
  decodeSegment _ := some [("alg", .string "RS256"), ("kid", .string "old")]
  verify key _ := key = oldKey
  validate _ _ := true

/-- Every header names the new key, and every token is signed by it. -/
def signedByNew : JwtLibrary where
  decodeSegment _ := some [("alg", .string "RS256"), ("kid", .string "new")]
  verify key _ := key = ⟨55, 3⟩
  validate _ _ := true

def oldAndNew : List JWK :=
  [⟨"RSA", "old", "sig", "old", "AQAB"⟩, ⟨"RSA", "new", "sig", "new", "AQAB"⟩]

/-- The old key is loaded from the file; then it leaves the fetched set. -/
def afterRotation : JWKSClient :=
  run (jwksStep decodeModulus)
    (newJWKSClient decodeModulus "http://oauth/jwks" (some (oldKey, "old")) (some oldAndNew))
    [.refresh (some [⟨"RSA", "new", "sig", "new", "AQAB"⟩])]

end Sample

open Sample in
theorem accepted_iff_sample : VerifiesByKid signedByNew afterRotation "header.claims.signature" := by
  have hnames : NamesKey signedByNew afterRotation 0 "header.claims.signature" := by
    intro pub header claims hpub _ _ hverify
    have hold : afterRotation.publicKey = some oldKey := by decide
    rw [hold, Option.some.injEq] at hpub
    rw [← hpub] at hverify
    exact absurd hverify (by decide)
  exact (accepted_iff signedByNew decodeModulus "http://oauth/jwks" (some (oldKey, "old"))
    (some oldAndNew) [.refresh (some [⟨"RSA", "new", "sig", "new", "AQAB"⟩])] afterRotation
    (run_mem_states _ _) 0 "header.claims.signature").1.mpr hnames (by decide)

open Sample in
/-- The old key has left the set, and its token is accepted. -/
theorem rotated_out_accepted :
    afterRotation.keys = [("new", ⟨55, 3⟩)] ∧
    (afterRotation.verifyToken signedByOld 0 "header.claims.signature").isSome = true ∧
    ¬ VerifiesByKid signedByOld afterRotation "header.claims.signature" := by
  have hkeys : afterRotation.keys = [("new", ⟨55, 3⟩)] := by decide
  refine ⟨hkeys, by decide, ?_⟩
  rintro ⟨header, claims, key, hparsed, hkey, hverify⟩
  have hkid : ((parseUnverified signedByOld "header.claims.signature").map fun parsed =>
      stringField parsed.1 "kid") = some "old" := by decide
  rw [hparsed, Option.map_some, Option.some.injEq] at hkid
  rw [hkid, hkeys, show List.lookup "old" [("new", (⟨55, 3⟩ : PublicKey))] = none by decide] at hkey
  exact absurd hkey (by simp)

end Ggid.Gateway
