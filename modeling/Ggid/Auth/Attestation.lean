import Ggid.Go.Bytes
import Ggid.Go.Strings

/-!
# Auth service — attestation formats

`VerifyAttestationFormat`. Four formats sign the authenticator data and the hash of the client data.
`fido-u2f` signs parts of them, with a credential key that is left out if it is not JSON; of
`android-safetynet` neither is looked at.

* `signed_of_accepts`      — what the key of the certificate has signed in the four formats;
* `accepts_replaceKey`     — a U2F attestation is one for another credential key as well;
* `attestation_binds_iff`  — the formats in which a signature is bound to what it attests.
-/

namespace Ggid.Auth.Attestation

open Ggid.Go

-- ---------------------------------------------------------------------------
-- The standard library
-- ---------------------------------------------------------------------------

/-- The dynamic type of `Certificate.PublicKey`. -/
inductive PublicKey where
  | rsa (key : Bytes)
  | ecdsa (key : Bytes)
  | ed25519 (key : Bytes)
  | other (typeName : String)
  deriving DecidableEq

/-- `x509.Certificate`; the extensions are the texts of their identifiers. -/
structure Certificate where
  publicKey  : PublicKey
  notAfter   : Time
  extensions : List String

structure JWSHeader where
  alg : String
  x5c : List Bytes

/-- What the verifiers call. Errors are texts. -/
structure Library where
  parseCertificate : Bytes → Except String Certificate
  sha256           : Bytes → Bytes
  verifyPKCS1v15   : (key hash sig : Bytes) → Except String Unit
  verifyASN1       : (key hash sig : Bytes) → Bool
  verifyEd25519    : (key message sig : Bytes) → Bool
  /-- `json.Unmarshal` into a `map[int]any`, of which the strings are read. -/
  unmarshalCOSE    : Bytes → Except String (Int → Option Bytes)
  unmarshalHeader  : Bytes → Except String JWSHeader
  /-- The `nonce` of a payload; the other fields are not read. -/
  unmarshalPayload : Bytes → Except String String
  /-- `asn1.Unmarshal` into an algorithm and a signature. -/
  unmarshalASN1    : Bytes → Option Bytes
  rawURLDecode     : Bytes → Except String Bytes
  stdDecode        : Bytes → Except String Bytes

/-- `return err` under a condition. -/
def failIf (b : Bool) (err : String) : Except String Unit := if b = true then .error err else .ok ()

/-- `fmt.Errorf("context: %w", err)`. -/
def wrap {α : Type} (context : String) (x : Except String α) : Except String α :=
  x.mapError fun err => context ++ ": " ++ err

theorem failIf_ok {b : Bool} {err : String} {f : Unit → Except String Unit} :
    failIf b err >>= f = .ok () ↔ b = false ∧ f () = .ok () := by
  cases b with
  | false => simp [failIf, bind, Except.bind]
  | true => simp [failIf, bind, Except.bind]

theorem failIf_done {b : Bool} {err : String} : failIf b err = .ok () ↔ b = false := by
  cases b with
  | false => simp [failIf]
  | true => simp [failIf]

theorem wrap_ok {α : Type} {context : String} {x : Except String α} {a : α} :
    wrap context x = .ok a ↔ x = .ok a := by
  cases x with
  | error err => simp [wrap, Except.mapError]
  | ok b => simp [wrap, Except.mapError]

-- ---------------------------------------------------------------------------
-- Authenticator data
-- ---------------------------------------------------------------------------

/-- The two bytes behind the AAGUID. -/
def credIdLen (authData : Bytes) : Nat :=
  (authData.getD 53 0).toNat * 256 + (authData.getD 54 0).toNat

def credentialId (authData : Bytes) : Bytes := (authData.drop 55).take (credIdLen authData)

def coseKeyBytes (authData : Bytes) : Bytes := authData.drop (55 + credIdLen authData)

namespace Library

variable (lib : Library)

-- ---------------------------------------------------------------------------
-- The verifiers
-- ---------------------------------------------------------------------------

def verifyCertSignature (cert : Certificate) (data sig : Bytes) : Except String Unit :=
  match cert.publicKey with
  | .rsa key =>
    wrap "RSA signature verification failed" (lib.verifyPKCS1v15 key (lib.sha256 data) sig)
  | .ecdsa key =>
    failIf (!lib.verifyASN1 key (lib.sha256 data) sig) "ECDSA signature verification failed"
  | .ed25519 key =>
    failIf (!lib.verifyEd25519 key data sig) "Ed25519 signature verification failed"
  | .other typeName => .error ("unsupported public key type: " ++ typeName)

def verifyPackedAttestation (authData clientDataHash : Bytes) (alg : Int) (sig certBytes : Bytes) :
    Except String Unit := do
  failIf certBytes.isEmpty "packed attestation requires a certificate"
  let cert ← wrap "parse attestation certificate" (lib.parseCertificate certBytes)
  let signedData := authData ++ clientDataHash
  if alg = -7 then
    match cert.publicKey with
    | .ecdsa key =>
      failIf (!lib.verifyASN1 key (lib.sha256 signedData) sig) "ECDSA signature verification failed"
    | _ => .error "expected ECDSA public key for alg -7"
  else if alg = -257 then
    match cert.publicKey with
    | .rsa key =>
      wrap "RSA signature verification failed"
        (lib.verifyPKCS1v15 key (lib.sha256 signedData) sig)
    | _ => .error "expected RSA public key for alg -257"
  else if alg = -8 then
    match cert.publicKey with
    | .ed25519 key =>
      failIf (!lib.verifyEd25519 key signedData sig) "Ed25519 signature verification failed"
    | _ => .error "expected Ed25519 public key for alg -8"
  else .error ("unsupported packed attestation algorithm: " ++ toString alg)

/-- The uncompressed point of a key in JSON. -/
def extractECPublicKeyFromCOSE (coseKeyBytes : Bytes) : Except String Bytes := do
  let coseKey ← wrap "parse COSE key" (lib.unmarshalCOSE coseKeyBytes)
  match coseKey (-2) with
  | none => .error "COSE key missing x-coordinate"
  | some xB64 =>
    match coseKey (-3) with
    | none => .error "COSE key missing y-coordinate"
    | some yB64 =>
      let x ← wrap "decode x-coordinate" (lib.rawURLDecode xB64)
      let y ← wrap "decode y-coordinate" (lib.rawURLDecode yB64)
      return 4 :: x ++ y

/-- A credential key that cannot be extracted is left out. -/
def pubKeyBytes (coseKeyBytes : Bytes) : Bytes :=
  match lib.extractECPublicKeyFromCOSE coseKeyBytes with
  | .ok pubKeyBytes => pubKeyBytes
  | .error _ => []

def u2fSignedData (authData clientDataHash : Bytes) : Bytes :=
  0 :: authData.take 32 ++ clientDataHash ++ credentialId authData ++
    lib.pubKeyBytes (coseKeyBytes authData)

def verifyFidoU2FAttestation (now : Time) (authData clientDataHash sig certBytes : Bytes) :
    Except String Unit := do
  failIf certBytes.isEmpty "fido-u2f: missing attestation certificate"
  let cert ← wrap "fido-u2f: parse cert" (lib.parseCertificate certBytes)
  failIf (cert.notAfter < now) "fido-u2f: attestation cert expired"
  failIf sig.isEmpty "fido-u2f: missing signature"
  match cert.publicKey with
  | .ecdsa pubKey =>
    failIf (authData.length < 37) "fido-u2f: authData too short"
    failIf (authData.length < 55) "fido-u2f: authData missing attested credential data"
    failIf (authData.length < 55 + credIdLen authData) "fido-u2f: authData credential ID truncated"
    failIf (!lib.verifyASN1 pubKey (lib.sha256 (lib.u2fSignedData authData clientDataHash)) sig)
      "fido-u2f: signature verification failed"
  | _ => .error "fido-u2f: cert must be ECDSA P-256"

def verifyAndroidKeyAttestation (authData clientDataHash sig certBytes : Bytes) :
    Except String Unit := do
  failIf certBytes.isEmpty "android-key: missing attestation certificate"
  let cert ← wrap "android-key: parse cert" (lib.parseCertificate certBytes)
  failIf (!cert.extensions.contains "1.3.6.1.4.1.11129.2.1.17")
    "android-key: missing key attestation extension"
  failIf sig.isEmpty "android-key: missing signature"
  lib.verifyCertSignature cert (authData ++ clientDataHash) sig

/-- The signature of a JWS. The whole text is tried as an RSA signature first, and an algorithm that
is not known is accepted. -/
def verifyJWS (alg : String) (leafCert : Certificate) (signedData signature sig : Bytes) :
    Except String Unit :=
  if alg = "RS256" then
    match leafCert.publicKey with
    | .rsa pubKey =>
      match lib.verifyPKCS1v15 pubKey (lib.sha256 signedData) sig with
      | .ok () => .ok ()
      | .error _ => do
        let actualSig ← wrap "android-safetynet: decode JWS signature" (lib.rawURLDecode signature)
        wrap "android-safetynet: RSA signature verification failed"
          (lib.verifyPKCS1v15 pubKey (lib.sha256 signedData) actualSig)
    | _ => .error "android-safetynet: cert must be RSA for RS256"
  else if alg = "ES256" then
    match leafCert.publicKey with
    | .ecdsa pubKey => do
      let actualSig ← wrap "android-safetynet: decode JWS signature" (lib.rawURLDecode signature)
      failIf (!lib.verifyASN1 pubKey (lib.sha256 signedData) actualSig)
        "android-safetynet: ECDSA signature verification failed"
    | _ => .error "android-safetynet: cert must be ECDSA for ES256"
  else .ok ()

/-- The arguments are those of the other verifiers; the first two and the last are not used. -/
def verifyAndroidSafetynetAttestation (_authData _clientDataHash sig _certBytes : Bytes) :
    Except String Unit := do
  failIf sig.isEmpty "android-safetynet: missing JWS response"
  match sig.splitOn 46 with
  | [headerB64, payloadB64, signature] =>
    let headerBytes ← wrap "android-safetynet: decode JWS header" (lib.rawURLDecode headerB64)
    let header ← wrap "android-safetynet: parse JWS header" (lib.unmarshalHeader headerBytes)
    match header.x5c with
    | [] => .error "android-safetynet: JWS header missing x5c certificate chain"
    | leaf :: _ =>
      failIf (header.alg == "") "android-safetynet: JWS header missing alg"
      let leafCertDER ←
        match lib.stdDecode leaf with
        | .ok der => .ok der
        | .error _ => wrap "android-safetynet: decode leaf cert" (lib.rawURLDecode leaf)
      let leafCert ← wrap "android-safetynet: parse leaf cert" (lib.parseCertificate leafCertDER)
      let payloadBytes ←
        wrap "android-safetynet: decode JWS payload" (lib.rawURLDecode payloadB64)
      let nonce ← wrap "android-safetynet: parse JWS payload" (lib.unmarshalPayload payloadBytes)
      failIf (nonce == "") "android-safetynet: payload missing nonce"
      lib.verifyJWS header.alg leafCert (headerB64 ++ 46 :: payloadB64) signature sig
  | parts =>
    .error ("android-safetynet: invalid JWS format (expected 3 parts, got " ++
      toString parts.length ++ ")")

/-- The signature inside an ASN.1 wrapper, if there is one. -/
def unwrapped (sig : Bytes) : Bytes :=
  match lib.unmarshalASN1 sig with
  | some inner => if inner = [] then sig else inner
  | none => sig

def verifyTPMAttestation (authData clientDataHash sig certBytes : Bytes) :
    Except String Unit := do
  failIf certBytes.isEmpty "tpm: missing attestation certificate"
  let cert ← wrap "tpm: parse cert" (lib.parseCertificate certBytes)
  failIf
    (match cert.publicKey with
      | .rsa _ => false
      | .ecdsa _ => false
      | _ => true)
    "tpm: cert must be RSA or ECDSA"
  failIf sig.isEmpty "tpm: missing signature"
  lib.verifyCertSignature cert (authData ++ clientDataHash) (lib.unwrapped sig)

def verifyAppleAttestation (authData clientDataHash sig certBytes : Bytes) :
    Except String Unit := do
  failIf certBytes.isEmpty "apple: missing attestation certificate"
  let cert ← wrap "apple: parse cert" (lib.parseCertificate certBytes)
  failIf (!cert.extensions.any fun id => Strings.hasPrefix id.toList "1.2.840.113635".toList)
    "apple: missing Apple attestation extension"
  failIf sig.isEmpty "apple: missing signature"
  failIf
    (match cert.publicKey with
      | .ecdsa _ => false
      | _ => true)
    "apple: cert must be ECDSA P-256"
  lib.verifyCertSignature cert (authData ++ clientDataHash) sig

end Library

/-- The arguments of `VerifyAttestationFormat`. -/
structure Input where
  format         : String
  authData       : Bytes
  clientDataHash : Bytes
  alg            : Int
  sig            : Bytes
  certBytes      : Bytes

/-- `timeNow` is asked by one verifier only. -/
def Library.verifyAttestationFormat (lib : Library) (now : Time) (x : Input) : Except String Unit :=
  if x.format = "none" then .ok ()
  else if x.format = "packed" then
    lib.verifyPackedAttestation x.authData x.clientDataHash x.alg x.sig x.certBytes
  else if x.format = "fido-u2f" then
    lib.verifyFidoU2FAttestation now x.authData x.clientDataHash x.sig x.certBytes
  else if x.format = "android-key" then
    lib.verifyAndroidKeyAttestation x.authData x.clientDataHash x.sig x.certBytes
  else if x.format = "android-safetynet" then
    lib.verifyAndroidSafetynetAttestation x.authData x.clientDataHash x.sig x.certBytes
  else if x.format = "tpm" then
    lib.verifyTPMAttestation x.authData x.clientDataHash x.sig x.certBytes
  else if x.format = "apple" then
    lib.verifyAppleAttestation x.authData x.clientDataHash x.sig x.certBytes
  else if x.format = "" then .error "missing attestation format"
  else .error ("unsupported attestation format: " ++ x.format)

-- ---------------------------------------------------------------------------
-- What a signature is bound to
-- ---------------------------------------------------------------------------

/-- A signature of the key on a message, checked as the verifiers check it. -/
def Library.Verifies (lib : Library) (key : PublicKey) (message sig : Bytes) : Prop :=
  match key with
  | .rsa key => lib.verifyPKCS1v15 key (lib.sha256 message) sig = .ok ()
  | .ecdsa key => lib.verifyASN1 key (lib.sha256 message) sig = true
  | .ed25519 key => lib.verifyEd25519 key message sig = true
  | .other _ => False

/-- **Ideal signatures**: one of a key is on one message. -/
def Library.Ideal (lib : Library) : Prop :=
  ∀ key message message' sig, lib.Verifies key message sig → lib.Verifies key message' sig →
    message = message'

/-- Package `encoding/json` skips white space behind a value, and no value starts with the byte
`0xff`. -/
structure Library.ReadsJSON (lib : Library) : Prop where
  trailing : ∀ bs coseKey, lib.unmarshalCOSE bs = .ok coseKey →
    lib.unmarshalCOSE (bs ++ [32]) = .ok coseKey
  rejects  : ∀ bs, ∃ err, lib.unmarshalCOSE (255 :: bs) = .error err

/-- The attested credential data: its id and its key; none if there are none. -/
def credentialOf (authData : Bytes) : Option (Bytes × Bytes) :=
  if authData.length < 55 + credIdLen authData then none
  else some (credentialId authData, coseKeyBytes authData)

/-- What an attestation is about: the hash of the client data, that of the relying party, and the
credential. -/
def Input.attested (x : Input) : Bytes × Bytes × Option (Bytes × Bytes) :=
  (x.clientDataHash, x.authData.take 32, credentialOf x.authData)

/-- With the same signature and certificate nothing else is accepted. -/
def Library.Binds (lib : Library) (now : Time) (x : Input) : Prop :=
  ∀ y : Input, y.clientDataHash.length = 32 → y.format = x.format → y.sig = x.sig →
    y.certBytes = x.certBytes → lib.verifyAttestationFormat now y = .ok () →
      y.attested = x.attested

/-- The formats that sign all of the authenticator data. -/
def concatFormats : List String := ["packed", "android-key", "tpm", "apple"]

/-- The signature that is checked. -/
def Library.checkedSig (lib : Library) (x : Input) : Bytes :=
  if x.format = "tpm" then lib.unwrapped x.sig else x.sig

section

variable {lib : Library}

/-- Every verifier that gets a certificate parses it first. -/
theorem certificate_of_ok {missing context : String} {certBytes : Bytes}
    {verify : Certificate → Except String Unit}
    (h : (do
      failIf certBytes.isEmpty missing
      let cert ← wrap context (lib.parseCertificate certBytes)
      verify cert) = .ok ()) :
    ∃ cert, lib.parseCertificate certBytes = .ok cert ∧ verify cert = .ok () := by
  obtain ⟨cert, hcert, hverify⟩ := bind_ok.mp (failIf_ok.mp h).2
  exact ⟨cert, wrap_ok.mp hcert, hverify⟩

theorem verifies_of_verifyCertSignature {cert : Certificate} {data sig : Bytes}
    (h : lib.verifyCertSignature cert data sig = .ok ()) :
    lib.Verifies cert.publicKey data sig := by
  unfold Library.verifyCertSignature at h
  unfold Library.Verifies
  cases hkey : cert.publicKey with
  | rsa key =>
    rw [hkey] at h
    exact wrap_ok.mp h
  | ecdsa key =>
    rw [hkey] at h
    simpa using failIf_done.mp h
  | ed25519 key =>
    rw [hkey] at h
    simpa using failIf_done.mp h
  | other typeName =>
    rw [hkey] at h
    cases h

theorem verifies_of_packed {authData clientDataHash sig certBytes : Bytes} {alg : Int}
    (h : lib.verifyPackedAttestation authData clientDataHash alg sig certBytes = .ok ()) :
    ∃ cert, lib.parseCertificate certBytes = .ok cert ∧
      lib.Verifies cert.publicKey (authData ++ clientDataHash) sig := by
  obtain ⟨cert, hcert, hverify⟩ := certificate_of_ok h
  refine ⟨cert, hcert, ?_⟩
  unfold Library.Verifies
  cases hkey : cert.publicKey with
  | rsa key =>
    rw [hkey] at hverify
    split_ifs at hverify
    · exact wrap_ok.mp hverify
  | ecdsa key =>
    rw [hkey] at hverify
    split_ifs at hverify
    · simpa using failIf_done.mp hverify
  | ed25519 key =>
    rw [hkey] at hverify
    split_ifs at hverify
    · simpa using failIf_done.mp hverify
  | other typeName =>
    rw [hkey] at hverify
    split_ifs at hverify

theorem packed_ES256 {authData clientDataHash sig certBytes key : Bytes} {cert : Certificate}
    (hnonempty : certBytes.isEmpty = false) (hcert : lib.parseCertificate certBytes = .ok cert)
    (hkey : cert.publicKey = .ecdsa key)
    (hsig : lib.verifyASN1 key (lib.sha256 (authData ++ clientDataHash)) sig = true) :
    lib.verifyPackedAttestation authData clientDataHash (-7) sig certBytes = .ok () := by
  refine failIf_ok.mpr ⟨hnonempty, bind_ok.mpr ⟨cert, wrap_ok.mpr hcert, ?_⟩⟩
  rw [hkey]
  exact failIf_done.mpr (by rw [hsig, Bool.not_true])

theorem verifies_of_androidKey {authData clientDataHash sig certBytes : Bytes}
    (h : lib.verifyAndroidKeyAttestation authData clientDataHash sig certBytes = .ok ()) :
    ∃ cert, lib.parseCertificate certBytes = .ok cert ∧
      lib.Verifies cert.publicKey (authData ++ clientDataHash) sig := by
  obtain ⟨cert, hcert, hverify⟩ := certificate_of_ok h
  obtain ⟨-, hsig⟩ := failIf_ok.mp hverify
  exact ⟨cert, hcert, verifies_of_verifyCertSignature (failIf_ok.mp hsig).2⟩

theorem verifies_of_tpm {authData clientDataHash sig certBytes : Bytes}
    (h : lib.verifyTPMAttestation authData clientDataHash sig certBytes = .ok ()) :
    ∃ cert, lib.parseCertificate certBytes = .ok cert ∧
      lib.Verifies cert.publicKey (authData ++ clientDataHash) (lib.unwrapped sig) := by
  obtain ⟨cert, hcert, hverify⟩ := certificate_of_ok h
  obtain ⟨-, hsig⟩ := failIf_ok.mp hverify
  exact ⟨cert, hcert, verifies_of_verifyCertSignature (failIf_ok.mp hsig).2⟩

theorem verifies_of_apple {authData clientDataHash sig certBytes : Bytes}
    (h : lib.verifyAppleAttestation authData clientDataHash sig certBytes = .ok ()) :
    ∃ cert, lib.parseCertificate certBytes = .ok cert ∧
      lib.Verifies cert.publicKey (authData ++ clientDataHash) sig := by
  obtain ⟨cert, hcert, hverify⟩ := certificate_of_ok h
  obtain ⟨-, hsig⟩ := failIf_ok.mp hverify
  obtain ⟨-, hkey⟩ := failIf_ok.mp hsig
  exact ⟨cert, hcert, verifies_of_verifyCertSignature (failIf_ok.mp hkey).2⟩

/-- In these formats the key of the certificate has signed all of the authenticator data and the
hash of the client data. -/
theorem signed_of_accepts {now : Time} {x : Input} (hformat : x.format ∈ concatFormats)
    (h : lib.verifyAttestationFormat now x = .ok ()) :
    ∃ cert, lib.parseCertificate x.certBytes = .ok cert ∧
      lib.Verifies cert.publicKey (x.authData ++ x.clientDataHash) (lib.checkedSig x) := by
  unfold Library.verifyAttestationFormat at h
  unfold Library.checkedSig
  simp only [concatFormats, List.mem_cons, List.not_mem_nil, or_false] at hformat
  obtain hpacked | hkey | htpm | happle := hformat
  · rw [hpacked] at h ⊢
    exact verifies_of_packed h
  · rw [hkey] at h ⊢
    exact verifies_of_androidKey h
  · rw [htpm] at h ⊢
    exact verifies_of_tpm h
  · rw [happle] at h ⊢
    exact verifies_of_apple h

/-- What is signed with ideal signatures is bound. -/
theorem binds_of_concat (hideal : lib.Ideal) {now : Time} {x : Input}
    (hx : x.clientDataHash.length = 32) (hformat : x.format ∈ concatFormats)
    (h : lib.verifyAttestationFormat now x = .ok ()) : lib.Binds now x := by
  intro y hy hsame hsig hcertBytes haccept
  obtain ⟨cert, hcert, hverifies⟩ := signed_of_accepts hformat h
  obtain ⟨cert', hcert', hverifies'⟩ := signed_of_accepts (hsame ▸ hformat) haccept
  have hchecked : lib.checkedSig y = lib.checkedSig x := by
    unfold Library.checkedSig
    rw [hsame, hsig]
  rw [hcertBytes] at hcert'
  obtain rfl : cert' = cert := Except.ok.inj (hcert'.symm.trans hcert)
  rw [hchecked] at hverifies'
  obtain ⟨hauth, hhash⟩ := List.append_inj' (hideal _ _ _ _ hverifies' hverifies) (hy.trans hx.symm)
  unfold Input.attested
  rw [hauth, hhash]

-- ---------------------------------------------------------------------------
-- `fido-u2f`
-- ---------------------------------------------------------------------------

/-- The same authenticator data with another credential key. -/
def replaceKey (authData key : Bytes) : Bytes := authData.take (55 + credIdLen authData) ++ key

section ReplaceKey

variable {authData key : Bytes} (h : 55 + credIdLen authData ≤ authData.length)
include h

theorem length_take_credential :
    (authData.take (55 + credIdLen authData)).length = 55 + credIdLen authData := by
  rw [List.length_take, min_eq_left h]

theorem credIdLen_replaceKey : credIdLen (replaceKey authData key) = credIdLen authData := by
  have hbyte : ∀ i < 55, (replaceKey authData key).getD i 0 = authData.getD i 0 := fun i hi => by
    rw [List.getD_eq_getElem?_getD, List.getD_eq_getElem?_getD, replaceKey,
      List.getElem?_append_left (by rw [length_take_credential h]; omega),
      List.getElem?_take_of_lt (by omega)]
  rw [credIdLen, hbyte 53 (by decide), hbyte 54 (by decide)]
  rfl

theorem take_replaceKey {n : Nat} (hn : n ≤ 55) :
    (replaceKey authData key).take n = authData.take n := by
  rw [replaceKey, List.take_append_of_le_length (by rw [length_take_credential h]; omega),
    List.take_take, min_eq_left (by omega)]

theorem credentialId_replaceKey :
    credentialId (replaceKey authData key) = credentialId authData := by
  rw [credentialId, credentialId, credIdLen_replaceKey h, replaceKey,
    List.drop_append_of_le_length (by rw [length_take_credential h]; omega),
    List.take_append_of_le_length (by rw [List.length_drop, length_take_credential h]; omega),
    List.drop_take, Nat.add_sub_cancel_left, List.take_take, min_self]

theorem coseKeyBytes_replaceKey : coseKeyBytes (replaceKey authData key) = key := by
  rw [coseKeyBytes, credIdLen_replaceKey h, replaceKey, List.drop_left' (length_take_credential h)]

theorem le_length_replaceKey : 55 + credIdLen authData ≤ (replaceKey authData key).length := by
  rw [replaceKey, List.length_append, length_take_credential h]
  omega

end ReplaceKey

theorem fidoU2F_ok_iff {now : Time} {authData clientDataHash sig certBytes : Bytes} :
    lib.verifyFidoU2FAttestation now authData clientDataHash sig certBytes = .ok () ↔
      certBytes.isEmpty = false ∧ ∃ cert key, lib.parseCertificate certBytes = .ok cert ∧
        ¬cert.notAfter < now ∧ sig.isEmpty = false ∧ cert.publicKey = .ecdsa key ∧
          55 + credIdLen authData ≤ authData.length ∧
            lib.Verifies cert.publicKey (lib.u2fSignedData authData clientDataHash) sig := by
  constructor
  · intro h
    obtain ⟨hnonempty, h⟩ := failIf_ok.mp h
    obtain ⟨cert, hcert, h⟩ := bind_ok.mp h
    obtain ⟨hnotAfter, h⟩ := failIf_ok.mp h
    obtain ⟨hsig, h⟩ := failIf_ok.mp h
    cases hkey : cert.publicKey with
    | ecdsa key =>
      rw [hkey] at h
      obtain ⟨-, h⟩ := failIf_ok.mp h
      obtain ⟨-, h⟩ := failIf_ok.mp h
      obtain ⟨hlength, h⟩ := failIf_ok.mp h
      refine ⟨hnonempty, cert, key, wrap_ok.mp hcert, of_decide_eq_false hnotAfter, hsig, hkey,
        not_lt.mp (of_decide_eq_false hlength), ?_⟩
      rw [hkey]
      simpa [Library.Verifies] using failIf_done.mp h
    | rsa key =>
      rw [hkey] at h
      cases h
    | ed25519 key =>
      rw [hkey] at h
      cases h
    | other typeName =>
      rw [hkey] at h
      cases h
  · rintro ⟨hnonempty, cert, key, hcert, hnotAfter, hsig, hkey, hlength, hverifies⟩
    unfold Library.verifyFidoU2FAttestation
    refine failIf_ok.mpr ⟨hnonempty, bind_ok.mpr ⟨cert, wrap_ok.mpr hcert,
      failIf_ok.mpr ⟨decide_eq_false hnotAfter, failIf_ok.mpr ⟨hsig, ?_⟩⟩⟩⟩
    rw [hkey] at hverifies ⊢
    have h37 : ¬authData.length < 37 := by omega
    have h55 : ¬authData.length < 55 := by omega
    have hlong : ¬authData.length < 55 + credIdLen authData := by omega
    refine failIf_ok.mpr ⟨decide_eq_false h37, failIf_ok.mpr ⟨decide_eq_false h55,
      failIf_ok.mpr ⟨decide_eq_false hlong, failIf_done.mpr ?_⟩⟩⟩
    simpa [Library.Verifies] using hverifies

theorem accepts_fidoU2F {now : Time} {x : Input} (hformat : x.format = "fido-u2f") :
    lib.verifyAttestationFormat now x =
      lib.verifyFidoU2FAttestation now x.authData x.clientDataHash x.sig x.certBytes := by
  unfold Library.verifyAttestationFormat
  rw [hformat]
  rfl

/-- A U2F attestation is accepted for every credential key from which the same is extracted. -/
theorem accepts_replaceKey {now : Time} {x : Input} {key : Bytes} (hformat : x.format = "fido-u2f")
    (hkey : lib.pubKeyBytes key = lib.pubKeyBytes (coseKeyBytes x.authData))
    (h : lib.verifyAttestationFormat now x = .ok ()) :
    lib.verifyAttestationFormat now { x with authData := replaceKey x.authData key } = .ok () := by
  rw [accepts_fidoU2F hformat] at h
  obtain ⟨hnonempty, cert, pubKey, hcert, hnotAfter, hsig, hpubKey, hlength, hverifies⟩ :=
    fidoU2F_ok_iff.mp h
  have hsame : lib.u2fSignedData (replaceKey x.authData key) x.clientDataHash =
      lib.u2fSignedData x.authData x.clientDataHash := by
    rw [Library.u2fSignedData, Library.u2fSignedData, take_replaceKey hlength (by decide),
      credentialId_replaceKey hlength, coseKeyBytes_replaceKey hlength, hkey]
  have haccept : lib.verifyFidoU2FAttestation now (replaceKey x.authData key) x.clientDataHash
      x.sig x.certBytes = .ok () := by
    refine fidoU2F_ok_iff.mpr ⟨hnonempty, cert, pubKey, hcert, hnotAfter, hsig, hpubKey, ?_, ?_⟩
    · rw [credIdLen_replaceKey hlength]
      exact le_length_replaceKey hlength
    · rw [hsame]
      exact hverifies
  rw [accepts_fidoU2F (x := { x with authData := replaceKey x.authData key }) hformat]
  exact haccept

theorem attested_replaceKey_ne {x : Input} {key : Bytes}
    (hlength : 55 + credIdLen x.authData ≤ x.authData.length)
    (hne : key ≠ coseKeyBytes x.authData) :
    ({ x with authData := replaceKey x.authData key } : Input).attested ≠ x.attested := by
  intro heq
  have hcred : credentialOf (replaceKey x.authData key) = credentialOf x.authData :=
    congrArg (fun a => a.2.2) heq
  rw [credentialOf, credentialOf, credIdLen_replaceKey hlength,
    if_neg (not_lt.mpr (le_length_replaceKey hlength)), if_neg (not_lt.mpr hlength),
    coseKeyBytes_replaceKey hlength] at hcred
  exact hne (congrArg Prod.snd (Option.some.inj hcred))

/-- No key is the only one from which it is extracted. -/
theorem exists_pubKeyBytes_eq (hjson : lib.ReadsJSON) (key : Bytes) :
    ∃ key', key' ≠ key ∧ lib.pubKeyBytes key' = lib.pubKeyBytes key := by
  have hnone : ∀ bs err, lib.unmarshalCOSE bs = .error err → lib.pubKeyBytes bs = [] :=
    fun bs err h => by
      unfold Library.pubKeyBytes Library.extractECPublicKeyFromCOSE
      rw [h]
      rfl
  cases hkey : lib.unmarshalCOSE key with
  | ok coseKey =>
    refine ⟨key ++ [32], by simp, ?_⟩
    unfold Library.pubKeyBytes Library.extractECPublicKeyFromCOSE
    rw [hjson.trailing key coseKey hkey, hkey]
  | error err =>
    -- one of two texts that are not JSON is another key
    by_cases hone : key = [255]
    · obtain ⟨err', herr'⟩ := hjson.rejects [255]
      refine ⟨[255, 255], by rw [hone]; decide, ?_⟩
      rw [hnone _ _ herr', hnone _ _ hkey]
    · obtain ⟨err', herr'⟩ := hjson.rejects []
      refine ⟨[255], fun h => hone h.symm, ?_⟩
      rw [hnone _ _ herr', hnone _ _ hkey]

theorem not_binds_of_fidoU2F (hjson : lib.ReadsJSON) {now : Time} {x : Input}
    (hx : x.clientDataHash.length = 32) (hformat : x.format = "fido-u2f")
    (h : lib.verifyAttestationFormat now x = .ok ()) : ¬lib.Binds now x := by
  intro hbinds
  obtain ⟨key, hne, hkey⟩ := exists_pubKeyBytes_eq hjson (coseKeyBytes x.authData)
  have haccept := accepts_replaceKey hformat hkey h
  rw [accepts_fidoU2F hformat] at h
  obtain ⟨-, -, -, -, -, -, -, hlength, -⟩ := fidoU2F_ok_iff.mp h
  exact attested_replaceKey_ne hlength hne
    (hbinds { x with authData := replaceKey x.authData key } hx rfl rfl rfl haccept)

-- ---------------------------------------------------------------------------
-- `android-safetynet`
-- ---------------------------------------------------------------------------

/-- Neither the authenticator data nor the hash of the client data is looked at. -/
theorem not_binds_of_safetynet {now : Time} {x : Input} (hformat : x.format = "android-safetynet")
    (h : lib.verifyAttestationFormat now x = .ok ()) : ¬lib.Binds now x := by
  intro hbinds
  have haccept : ∀ clientDataHash, lib.verifyAttestationFormat now
      { x with clientDataHash := clientDataHash } = .ok () := fun clientDataHash => by
    unfold Library.verifyAttestationFormat at h ⊢
    rw [hformat] at h
    dsimp only
    rw [hformat]
    exact h
  have hhash : ∀ clientDataHash : Bytes, clientDataHash.length = 32 →
      clientDataHash = x.clientDataHash := fun clientDataHash hlength =>
    congrArg Prod.fst (hbinds { x with clientDataHash := clientDataHash } hlength rfl rfl rfl
      (haccept clientDataHash))
  have hzero := hhash (List.replicate 32 0) List.length_replicate
  have hone := hhash (List.replicate 32 1) List.length_replicate
  exact absurd (hzero.trans hone.symm) (by decide)

theorem format_cases {now : Time} {x : Input} (hnone : x.format ≠ "none")
    (h : lib.verifyAttestationFormat now x = .ok ()) :
    x.format ∈ concatFormats ∨ x.format = "fido-u2f" ∨ x.format = "android-safetynet" := by
  unfold Library.verifyAttestationFormat at h
  rw [if_neg hnone] at h
  simp only [concatFormats, List.mem_cons, List.not_mem_nil, or_false]
  split_ifs at h with hpacked hu2f hkey hsafetynet htpm happle
  · exact Or.inl (Or.inl hpacked)
  · exact Or.inr (Or.inl hu2f)
  · exact Or.inl (Or.inr (Or.inl hkey))
  · exact Or.inr (Or.inr hsafetynet)
  · exact Or.inl (Or.inr (Or.inr (Or.inl htpm)))
  · exact Or.inl (Or.inr (Or.inr (Or.inr happle)))

end

-- ---------------------------------------------------------------------------
-- Attestation formats
-- ---------------------------------------------------------------------------

/-- What is accepted is bound to what it attests exactly in the formats that sign all of the
authenticator data. There, the key of the certificate has signed it with the hash of the client
data. -/
theorem attestation_binds_iff (lib : Library) (hideal : lib.Ideal) (hjson : lib.ReadsJSON)
    (now : Time) (x : Input) (hx : x.clientDataHash.length = 32) (hnone : x.format ≠ "none")
    (h : lib.verifyAttestationFormat now x = .ok ()) :
    (lib.Binds now x ↔ x.format ∈ concatFormats) ∧
      (x.format ∈ concatFormats → ∃ cert, lib.parseCertificate x.certBytes = .ok cert ∧
        lib.Verifies cert.publicKey (x.authData ++ x.clientDataHash) (lib.checkedSig x)) := by
  refine ⟨⟨fun hbinds => ?_, fun hformat => binds_of_concat hideal hx hformat h⟩,
    fun hformat => signed_of_accepts hformat h⟩
  obtain hconcat | hu2f | hsafetynet := format_cases hnone h
  · exact hconcat
  · exact absurd hbinds (not_binds_of_fidoU2F hjson hx hu2f h)
  · exact absurd hbinds (not_binds_of_safetynet hsafetynet h)

-- ---------------------------------------------------------------------------
-- A U2F token
-- ---------------------------------------------------------------------------

namespace Sample

/-- The bytes of a number, the most significant first. -/
def octets (len n : Nat) : Bytes :=
  (List.range len).map fun i => UInt8.ofNat (n / 256 ^ (len - 1 - i) % 256)

theorem length_octets (len n : Nat) : (octets len n).length = len := by simp [octets]

/-- A certificate for a key on P-256. -/
def certBytes : Bytes :=
  octets 32 0x308201123081b8020101300a06082a8648ce3d04030230143112301006035504 ++
    octets 32 0x030c0955324620546f6b656e3020170d3236313131393039343032375a180f32 ++
    octets 32 0x313236313032363039343032375a30143112301006035504030c095532462054 ++
    octets 32 0x6f6b656e3059301306072a8648ce3d020106082a8648ce3d03010703420004b4 ++
    octets 32 0x4b21c0d77158cc0c5bd044f37128a2a79efebcdc9619eea5a5a30f8356a8f1be ++
    octets 32 0x28ea4fca57e03f6c2678675be11f3340da75b61089f3277f9f3bd3af91adaf30 ++
    octets 32 0x0a06082a8648ce3d040302034900304602210084d8a8d4e9e7174c1055d7cb1a ++
    octets 32 0x9d747d324170f611dba0cd18a6e072a94e7e7f022100c4cafc65648a3882cbbf ++
    octets 22 0xd64973f1b2fe4242b4f1448092c1d92218506e67f917

/-- The key of the certificate. -/
def point : Bytes :=
  octets 32 0x04b44b21c0d77158cc0c5bd044f37128a2a79efebcdc9619eea5a5a30f8356a8 ++
    octets 32 0xf1be28ea4fca57e03f6c2678675be11f3340da75b61089f3277f9f3bd3af91ad ++
    octets 1 0xaf

/-- Of `ggid.dev`. -/
def rpIdHash : Bytes :=
  octets 32 0xb039f94c6d0fc46417f4d02e950a35d8e47167d8c96ddbb88514072ebaccf32e

/-- The flags, the counter, the AAGUID, and the length of the credential id. -/
def head : Bytes := 65 :: List.replicate 20 0 ++ [0, 16]

/-- The credential id. -/
def credential : Bytes :=
  octets 16 0xe265b6f564601a1fe8dc42785cd18a86

/-- A credential key in CBOR, as authenticators write it. -/
def oneKey : Bytes :=
  octets 32 0xa50102032620012158205efc984fa8252be85e75fdf3be6a90aaeccdfe6bdd2b ++
    octets 32 0x77ca162eeb81c6b6e46a225820ac7add3dc9ab0ad295f6e8c240bcb0a989387d ++
    octets 13 0x7fcb1b6b17a2fcc875849abf0f

/-- Another one. -/
def otherKey : Bytes :=
  octets 32 0xa50102032620012158204f26ee0bd5ca6b73ec97a808164f98a320c4a88a6e6d ++
    octets 32 0xeb3deab718feddbf12a32258206e934803fb21eee95c5dfd0a9853ded95f2d14 ++
    octets 13 0x05b5374d9c0f1bbfc58a25970c

/-- Of the client data. -/
def clientDataHash : Bytes :=
  octets 32 0xdf40b90593dbd2dc158e5cc55c6b7e0810e9b46f6dd3ee3494a18d9518b85c81

/-- The signature of a U2F attestation. -/
def sigU2F : Bytes :=
  octets 32 0x3046022100a61bc8deb91258e274aca027e7dc087b6b4bc7ff7125e26b872aee ++
    octets 32 0x30811091c5022100ca7e78c907fdfd8bf2b1e9a55e33a788ee8988b6ef78749a ++
    octets 8 0x7d27ec06ed107dd3

/-- The signature of a packed attestation. -/
def sigPacked : Bytes :=
  octets 32 0x3046022100d827aa6edca84e16d3f17926fe8eca98cd1a7d0226f137cef2314f ++
    octets 32 0x0da738a78402210080959f734d672e3de9e6b89ed555c299caf15fde66682269 ++
    octets 8 0x1a2a52b7be51abd9

/-- The hash of what is signed by the first. -/
def hashU2F : Bytes :=
  octets 32 0xe0f1592e1dd8bb8dad2c8b47629fe299e6056b36551053bffee9e391863b357f

/-- The hash of what is signed by the second. -/
def hashPacked : Bytes :=
  octets 32 0x55b9b69260298b10a1208055e46285cfca3bb4453362444d9248a927ee8c17ce

/-- The authenticator data with a credential key. -/
def authData (key : Bytes) : Bytes := rpIdHash ++ (head ++ (credential ++ key))

def u2fMessage : Bytes := 0 :: rpIdHash ++ clientDataHash ++ credential

def packedMessage : Bytes := authData oneKey ++ clientDataHash

/-- Self-signed, until 26 October 2126. -/
def certificate : Certificate := ⟨.ecdsa point, 4948681227 * second, []⟩

/-- The standard library, as far as it is asked here: the key of the certificate has signed the two
messages and no others. -/
def lib : Library where
  parseCertificate bs :=
    if bs = certBytes then .ok certificate else .error "x509: malformed certificate"
  sha256 message :=
    if message = u2fMessage then hashU2F else if message = packedMessage then hashPacked else []
  verifyPKCS1v15 _ _ _ := .error "crypto/rsa: verification error"
  verifyASN1 key hash sig := key == point &&
    (hash == hashU2F && sig == sigU2F || hash == hashPacked && sig == sigPacked)
  verifyEd25519 _ _ _ := false
  unmarshalCOSE _ := .error "invalid character '¥' looking for beginning of value"
  unmarshalHeader _ := .error "unexpected end of JSON input"
  unmarshalPayload _ := .error "unexpected end of JSON input"
  unmarshalASN1 _ := none
  rawURLDecode _ := .error "illegal base64 data at input byte 0"
  stdDecode _ := .error "illegal base64 data at input byte 0"

theorem sha256_eq_hashU2F {message : Bytes} (h : lib.sha256 message = hashU2F) :
    message = u2fMessage := by
  by_contra hne
  change (if message = u2fMessage then hashU2F
    else if message = packedMessage then hashPacked else []) = hashU2F at h
  rw [if_neg hne] at h
  split at h
  · exact absurd (congrArg List.head? h) (by decide)
  · exact absurd (congrArg List.head? h) (by decide)

theorem sha256_eq_hashPacked {message : Bytes} (h : lib.sha256 message = hashPacked) :
    message = packedMessage := by
  change (if message = u2fMessage then hashU2F
    else if message = packedMessage then hashPacked else []) = hashPacked at h
  split at h
  · exact absurd (congrArg List.head? h) (by decide)
  · split at h
    · rename_i heq
      exact heq
    · exact absurd (congrArg List.head? h) (by decide)

theorem sigU2F_ne_sigPacked : sigU2F ≠ sigPacked := fun h =>
  absurd (congrArg (fun sig => sig[5]?) h) (by decide)

theorem verifies_cases {key : PublicKey} {message sig : Bytes} (h : lib.Verifies key message sig) :
    (message = u2fMessage ∧ sig = sigU2F) ∨ (message = packedMessage ∧ sig = sigPacked) := by
  cases key with
  | rsa key => cases h
  | ecdsa key =>
    have hasn1 : lib.verifyASN1 key (lib.sha256 message) sig = true := h
    change (key == point && (lib.sha256 message == hashU2F && sig == sigU2F ||
      lib.sha256 message == hashPacked && sig == sigPacked)) = true at hasn1
    simp only [Bool.and_eq_true, Bool.or_eq_true, beq_iff_eq] at hasn1
    obtain ⟨-, ⟨hhash, hsig⟩ | ⟨hhash, hsig⟩⟩ := hasn1
    · exact Or.inl ⟨sha256_eq_hashU2F hhash, hsig⟩
    · exact Or.inr ⟨sha256_eq_hashPacked hhash, hsig⟩
  | ed25519 key => cases h
  | other typeName => cases h

theorem lib_ideal : lib.Ideal := by
  intro key message message' sig h h'
  obtain ⟨hm, hsig⟩ | ⟨hm, hsig⟩ := verifies_cases h
  · obtain ⟨hm', -⟩ | ⟨-, hsig'⟩ := verifies_cases h'
    · rw [hm, hm']
    · exact absurd (hsig.symm.trans hsig') sigU2F_ne_sigPacked
  · obtain ⟨-, hsig'⟩ | ⟨hm', -⟩ := verifies_cases h'
    · exact absurd (hsig'.symm.trans hsig) sigU2F_ne_sigPacked
    · rw [hm, hm']

theorem lib_readsJSON : lib.ReadsJSON where
  trailing _ _ h := by cases h
  rejects _ := ⟨_, rfl⟩

theorem length_rpIdHash : rpIdHash.length = 32 := length_octets _ _

theorem length_clientDataHash : clientDataHash.length = 32 := length_octets _ _

theorem length_credential : credential.length = 16 := length_octets _ _

theorem credIdLen_authData (key : Bytes) : credIdLen (authData key) = 16 := by
  have hbyte : ∀ i < 23, (authData key).getD (32 + i) 0 = head.getD i 0 := fun i hi => by
    have hright : rpIdHash.length ≤ 32 + i := by
      rw [length_rpIdHash]
      omega
    rw [List.getD_eq_getElem?_getD, List.getD_eq_getElem?_getD, authData,
      List.getElem?_append_right hright, length_rpIdHash, Nat.add_sub_cancel_left,
      List.getElem?_append_left hi]
  rw [credIdLen, hbyte 21 (by decide), hbyte 22 (by decide)]
  rfl

theorem drop_authData (key : Bytes) : (authData key).drop 55 = credential ++ key := by
  have hlength : (rpIdHash ++ head).length = 55 := by
    rw [List.length_append, length_rpIdHash]
    rfl
  rw [authData, ← List.append_assoc, List.drop_left' hlength]

theorem u2fSignedData_authData (key : Bytes) :
    lib.u2fSignedData (authData key) clientDataHash = u2fMessage := by
  have hid : credentialId (authData key) = credential := by
    rw [credentialId, credIdLen_authData, drop_authData, List.take_left' length_credential]
  have hrp : (authData key).take 32 = rpIdHash := List.take_left' length_rpIdHash
  rw [Library.u2fSignedData, hid, hrp]
  exact List.append_nil _

/-- A U2F attestation of a credential key. -/
def token (key : Bytes) : Input :=
  ⟨"fido-u2f", authData key, clientDataHash, -7, sigU2F, certBytes⟩

/-- A packed attestation. -/
def packed : Input := ⟨"packed", authData oneKey, clientDataHash, -7, sigPacked, certBytes⟩

/-- 15 January 2027. -/
def now : Time := 1800000000 * second

theorem parse_certBytes : lib.parseCertificate certBytes = .ok certificate := by
  simp only [lib, if_true]

theorem sha256_u2fMessage : lib.sha256 u2fMessage = hashU2F := by
  simp only [lib, if_true]

theorem u2fMessage_ne_packedMessage : packedMessage ≠ u2fMessage := fun h => by
  have hhead := congrArg List.head? h
  exact absurd hhead (by decide)

theorem sha256_packedMessage : lib.sha256 packedMessage = hashPacked := by
  simp only [lib, if_neg u2fMessage_ne_packedMessage, if_true]

theorem token_accepted (key : Bytes) : lib.verifyAttestationFormat now (token key) = .ok () := by
  have hsigned : lib.Verifies certificate.publicKey
      (lib.u2fSignedData (authData key) clientDataHash) sigU2F := by
    rw [u2fSignedData_authData]
    change lib.verifyASN1 point (lib.sha256 u2fMessage) sigU2F = true
    rw [sha256_u2fMessage]
    simp only [lib, beq_self_eq_true, Bool.and_self, Bool.true_or]
  have hlength : 55 + credIdLen (authData key) ≤ (authData key).length := by
    have hdrop := congrArg List.length (drop_authData key)
    rw [List.length_drop, List.length_append, length_credential] at hdrop
    rw [credIdLen_authData]
    omega
  rw [accepts_fidoU2F rfl]
  exact fidoU2F_ok_iff.mpr ⟨rfl, certificate, point, parse_certBytes, by decide, rfl, rfl, hlength,
    hsigned⟩

theorem packed_accepted : lib.verifyAttestationFormat now packed = .ok () := by
  have hsigned : lib.verifyASN1 point (lib.sha256 packedMessage) sigPacked = true := by
    rw [sha256_packedMessage]
    simp only [lib, beq_self_eq_true, Bool.and_self, Bool.or_true]
  exact packed_ES256 rfl parse_certBytes rfl hsigned

/-- One signature is accepted for two credential keys. -/
theorem two_keys_attested :
    lib.Ideal ∧ lib.ReadsJSON ∧ clientDataHash.length = 32 ∧
      lib.verifyAttestationFormat now (token oneKey) = .ok () ∧
      lib.verifyAttestationFormat now (token otherKey) = .ok () ∧
      (token otherKey).attested ≠ (token oneKey).attested ∧ ¬lib.Binds now (token oneKey) := by
  have hkeys : otherKey ≠ oneKey := fun h =>
    absurd (congrArg (fun key => key[10]?) h) (by decide)
  have hcred : ∀ key, credentialOf (authData key) = some (credential, key) := fun key => by
    have hdrop := congrArg List.length (drop_authData key)
    rw [List.length_drop, List.length_append, length_credential] at hdrop
    have hlength : ¬(authData key).length < 55 + 16 := by omega
    rw [credentialOf, credIdLen_authData, if_neg hlength, credentialId, coseKeyBytes,
      credIdLen_authData, ← List.drop_drop, drop_authData, List.take_left' length_credential,
      List.drop_left' length_credential]
  have hattested : (token otherKey).attested ≠ (token oneKey).attested := fun h => by
    simp only [Input.attested, token, hcred, Prod.mk.injEq, Option.some.injEq] at h
    exact hkeys h.2.2.2
  refine ⟨lib_ideal, lib_readsJSON, length_clientDataHash, token_accepted _, token_accepted _,
    hattested, fun hbinds => hattested ?_⟩
  exact hbinds (token otherKey) length_clientDataHash rfl rfl rfl (token_accepted _)

end Sample

theorem attestation_binds_iff_packed :
    (Sample.lib.Binds Sample.now Sample.packed ↔ Sample.packed.format ∈ concatFormats) ∧
      (Sample.packed.format ∈ concatFormats →
        ∃ cert, Sample.lib.parseCertificate Sample.packed.certBytes = .ok cert ∧
          Sample.lib.Verifies cert.publicKey
            (Sample.packed.authData ++ Sample.packed.clientDataHash)
            (Sample.lib.checkedSig Sample.packed)) :=
  attestation_binds_iff Sample.lib Sample.lib_ideal Sample.lib_readsJSON Sample.now Sample.packed
    Sample.length_clientDataHash (by decide) Sample.packed_accepted

end Ggid.Auth.Attestation
