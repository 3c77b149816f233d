import Ggid.Go.Strings
import Ggid.OAuth.Keys

/-!
# Gateway — tokens

A bearer token is a text of three parts. Decoding a part, checking a signature and checking
the registered claims are the JWT library's, as the fields of `JwtLibrary`; the order in which
it does them is spelled out (`parse`), since the key function of the gateway sits between.
-/

namespace Ggid.Gateway

open Ggid.Go Ggid.OAuth

/-- `m[key].(string)`; empty where it is none. -/
def stringField (m : GoMap) (key : String) : String :=
  match m.lookup key with
  | some (.string s) => s
  | _ => ""

structure JwtLibrary where
  /-- Base64url without padding, then a JSON object. -/
  decodeSegment : String → Option GoMap
  /-- The signature of the token, by the algorithm its header names. -/
  verify        : PublicKey → String → Bool
  /-- `exp`, `nbf`, `iat`, and the issuer and audience the gateway is configured with. -/
  validate      : Time → GoMap → Bool

/-- `strings.Split(token, ".")`. -/
def tokenParts (token : String) : List String :=
  (Strings.split token.toList '.').map String.ofList

/-- `ParseUnverified`: header and claims of a token of three parts. -/
def parseUnverified (jwt : JwtLibrary) (token : String) : Option (GoMap × GoMap) :=
  match tokenParts token with
  | [header, claims, _] =>
    (jwt.decodeSegment header).bind fun h => (jwt.decodeSegment claims).map fun c => (h, c)
  | _ => none

/-- `jwt.Parse`, with the supported algorithms as the valid methods. -/
def parse (jwt : JwtLibrary) (now : Time) (keyfunc : GoMap → Option PublicKey) (token : String) :
    Option GoMap :=
  (parseUnverified jwt token).bind fun parsed =>
    if ¬ isSupportedSigningMethod (stringField parsed.1 "alg") then none
    else (keyfunc parsed.1).bind fun key =>
      if jwt.verify key token && jwt.validate now parsed.2 then some parsed.2 else none

theorem parse_eq_some {jwt : JwtLibrary} {now : Time} {keyfunc : GoMap → Option PublicKey}
    {token : String} {claims : GoMap} : parse jwt now keyfunc token = some claims ↔
      ∃ header key, parseUnverified jwt token = some (header, claims) ∧
        isSupportedSigningMethod (stringField header "alg") = true ∧ keyfunc header = some key ∧
        jwt.verify key token = true ∧ jwt.validate now claims = true := by
  unfold parse
  rw [Option.bind_eq_some_iff]
  constructor
  · rintro ⟨⟨header, payload⟩, hparsed, h⟩
    by_cases halg : isSupportedSigningMethod (stringField header "alg") = true
    · rw [if_neg (not_not.mpr halg)] at h
      obtain ⟨key, hkey, h⟩ := Option.bind_eq_some_iff.mp h
      by_cases hok : (jwt.verify key token && jwt.validate now payload) = true
      · rw [if_pos hok] at h
        obtain rfl := Option.some.inj h
        obtain ⟨hverify, hvalid⟩ := Bool.and_eq_true_iff.mp hok
        exact ⟨header, key, hparsed, halg, hkey, hverify, hvalid⟩
      · rw [if_neg hok] at h
        exact absurd h (by simp)
    · rw [if_pos halg] at h
      exact absurd h (by simp)
  · rintro ⟨header, key, hparsed, halg, hkey, hverify, hvalid⟩
    refine ⟨_, hparsed, ?_⟩
    rw [if_neg (not_not.mpr halg), hkey, Option.bind_some, if_pos (by rw [hverify, hvalid]; rfl)]

end Ggid.Gateway
