import Ggid.Saml.SignedAssertion

/-!
# SAML — signature wrapping

What `VerifySignedAssertion` returns, against what was signed, for any document around assertions
that were signed.

* `strip_eq_assertion` — if the search in the text and the decoder find one digest, the document
  less its signature is an assertion that was signed;
* `content_signed`     — if besides what is cut out is, for the decoder, no more than signatures in
  the root, subject, attributes and conditions are those of that assertion.
-/

namespace Ggid.Saml

open Ggid.Go Ggid.Go.Xml

-- ---------------------------------------------------------------------------
-- What was signed
-- ---------------------------------------------------------------------------

/-- An assertion that was signed, and the `SignedInfo` with its digest. -/
structure Issued where
  assertion  : Bytes
  signedInfo : Bytes

/-- The digest in a `SignedInfo` that is read for itself. -/
def signedDigest (env : SAMLEnv) (signedInfo : Bytes) : Option Bytes :=
  (root env.tables signedInfo).bind fun e =>
    decodeValue (XmlSignedInfo.unmarshal e .zero).reference.digestValue

/-- Digests have no collisions; a signature that verifies is for the digest of a `SignedInfo` that
was signed; and that has the digest of its assertion, which can be read. -/
structure Ideal (env : SAMLEnv) (issued : Set Issued) : Prop where
  collision : ∀ h h' m m', env.hash h m = env.hash h' m' → m = m'
  rsa       : ∀ h m v, env.verifyPKCS1v15 h (env.hash h m) v = true →
    ∃ i ∈ issued, m = i.signedInfo
  ecdsa     : ∀ h m v, env.verifyASN1 (env.hash h m) v = true → ∃ i ∈ issued, m = i.signedInfo
  digest    : ∀ i ∈ issued, ∃ h, signedDigest env i.signedInfo = some (env.hash h i.assertion)
  parses    : ∀ i ∈ issued, ∃ a, parseAssertion env.tables i.assertion = .ok a

def SameContent (a a' : SAMLAssertion) : Prop :=
  a.subject = a'.subject ∧ a.attributeStatement = a'.attributeStatement ∧
    a.conditions = a'.conditions

/-- What is accepted has the content of the assertion whose digest is in the verified
`SignedInfo`. -/
def SignedContent (env : SAMLEnv) (issued : Set Issued) (rawXML : Bytes) : Prop :=
  ∀ cert now a, verifySignedAssertion env cert now rawXML = .ok a →
    ∃ i ∈ issued, extractSignedInfoBytes rawXML = i.signedInfo ∧
      ∃ a', parseAssertion env.tables i.assertion = .ok a' ∧ SameContent a a'

-- ---------------------------------------------------------------------------
-- The two views of a document
-- ---------------------------------------------------------------------------

/-- The digest that the decoder reads is the one in the `SignedInfo` that is found in the text. -/
def SameDigest (env : SAMLEnv) (rawXML : Bytes) : Prop :=
  ∀ info, parseSignature env.tables rawXML = .ok info →
    signedDigest env (extractSignedInfoBytes rawXML) = some info.digestValue

/-- Where the part that is cut out begins and where it ends, the decoder is in the text of the
root, and in between it has read no element of the root but signatures. -/
def CutsSignatures (env : SAMLEnv) (rawXML : Bytes) : Prop :=
  ∀ start stop, envelopedSignature rawXML = some (start, stop) →
    ∃ rev rev' f g, Decoder.read env.tables (rawXML.take start) = ⟨.text rev, .reading [f]⟩ ∧
      Decoder.read env.tables (rawXML.take stop) = ⟨.text rev', .reading [g]⟩ ∧
      g.Similar isContent f

section Views

variable {env : SAMLEnv} {issued : Set Issued} {rawXML : Bytes}

-- ---------------------------------------------------------------------------
-- What is checked
-- ---------------------------------------------------------------------------

theorem parseAssertion_ok {tables : NameTables} {a : SAMLAssertion} :
    parseAssertion tables rawXML = .ok a ↔
      ∃ e, root tables rawXML = some e ∧ e.name.localName = ascii "Assertion" ∧
        SAMLAssertion.unmarshal e = a := by
  unfold parseAssertion assertionRoot
  cases root tables rawXML with
  | none => simp
  | some e =>
    by_cases hname : e.name.localName = ascii "Assertion"
    · simp [Option.filter, hname]
    · simp [Option.filter, hname]

theorem signedInfoBytes_of_parse {tables : NameTables} {info : SignatureInfo}
    (h : parseSignature tables rawXML = .ok info) :
    info.signedInfoBytes = extractSignedInfoBytes rawXML := by
  unfold parseSignature at h
  split at h
  · cases h
  · split at h
    · cases h
    · split_ifs at h
      unfold buildSigInfo at h
      split at h
      · cases h
      · split at h
        · cases h
        · rw [← Except.ok.inj h]

theorem verifyDigest_ok {info : SignatureInfo} {u : Unit}
    (h : verifyDigest env info rawXML = .ok u) :
    ∃ hash, env.hash hash (stripEnvelopedSignature rawXML) = info.digestValue := by
  unfold verifyDigest at h
  split at h
  · cases h
  · rename_i hash _
    split_ifs at h with hdigest
    exact ⟨hash, hdigest⟩

/-- The signature is one of a `SignedInfo` that was signed. -/
theorem verifyCryptoSignature_ok (hideal : Ideal env issued) {info : SignatureInfo}
    {key : PublicKey} {u : Unit} (h : verifyCryptoSignature env info key = .ok u) :
    ∃ i ∈ issued, info.signedInfoBytes = i.signedInfo := by
  unfold verifyCryptoSignature at h
  split at h
  · cases h
  · rename_i hash _
    cases key with
    | other => cases h
    | rsa =>
      dsimp only at h
      split_ifs at h with _ hverify
      exact hideal.rsa hash _ _ hverify
    | ecdsa =>
      dsimp only at h
      split_ifs at h with hverify
      exact hideal.ecdsa hash _ _ hverify

/-- What a document that is accepted has passed. -/
theorem verify_ok {cert : Option PublicKey} {now : Time} {a : SAMLAssertion}
    (h : verifySignedAssertion env cert now rawXML = .ok a) :
    parseAssertion env.tables rawXML = .ok a ∧
      ∃ info key u u', parseSignature env.tables rawXML = .ok info ∧
        verifyDigest env info rawXML = .ok u ∧ verifyCryptoSignature env info key = .ok u' := by
  unfold verifySignedAssertion at h
  cases cert with
  | none => cases h
  | some key =>
    dsimp only at h
    split_ifs at h
    obtain ⟨a', hparse, h⟩ := bind_ok.mp h
    obtain ⟨info, hinfo, h⟩ := bind_ok.mp h
    obtain ⟨_, -, h⟩ := bind_ok.mp h
    split_ifs at h
    obtain ⟨u, hdigest, h⟩ := bind_ok.mp h
    obtain ⟨u', hcrypto, h⟩ := bind_ok.mp h
    obtain ⟨_, -, h⟩ := bind_ok.mp h
    cases h
    exact ⟨hparse, info, key, u, u', hinfo, hdigest, hcrypto⟩

-- ---------------------------------------------------------------------------
-- What was signed is what is left
-- ---------------------------------------------------------------------------

/-- **One digest.** The document less its signature is an assertion that was signed. -/
theorem strip_eq_assertion (hideal : Ideal env issued) (hsame : SameDigest env rawXML)
    {cert : Option PublicKey} {now : Time} {a : SAMLAssertion}
    (h : verifySignedAssertion env cert now rawXML = .ok a) :
    ∃ i ∈ issued, extractSignedInfoBytes rawXML = i.signedInfo ∧
      stripEnvelopedSignature rawXML = i.assertion := by
  obtain ⟨-, info, key, u, u', hinfo, hdigest, hcrypto⟩ := verify_ok h
  obtain ⟨i, hi, hsigned⟩ := verifyCryptoSignature_ok hideal hcrypto
  rw [signedInfoBytes_of_parse hinfo] at hsigned
  obtain ⟨hash, hcontent⟩ := verifyDigest_ok hdigest
  obtain ⟨hash', hissued⟩ := hideal.digest i hi
  have hvalue := hsame info hinfo
  rw [hsigned, hissued, Option.some.injEq] at hvalue
  exact ⟨i, hi, hsigned, hideal.collision hash hash' _ _ (hcontent.trans hvalue.symm)⟩

/-- Where the cut begins one line break earlier, the decoder is in the text of the root as well. -/
theorem read_before_newline {tables : NameTables} {start : Nat} {rev : Bytes} {f : Frame}
    (hstart : 0 < start) (hnewline : rawXML[start - 1]? = some 10)
    (h : Decoder.read tables (rawXML.take start) = ⟨.text rev, .reading [f]⟩) :
    ∃ rev', Decoder.read tables (rawXML.take (start - 1)) = ⟨.text rev', .reading [f]⟩ := by
  have htake : rawXML.take start = rawXML.take (start - 1) ++ [10] := by
    rw [← Nat.sub_add_cancel hstart, List.take_add_one, Nat.add_sub_cancel, hnewline]
    rfl
  rw [htake, Decoder.read_append] at h
  exact text_of_newline h

/-- **Cutting out signatures** leaves everything else of the root. -/
theorem strip_similar (hcuts : CutsSignatures env rawXML) {e e' : Frame}
    (he : root env.tables rawXML = some e)
    (he' : root env.tables (stripEnvelopedSignature rawXML) = some e') :
    e.Similar isContent e' := by
  unfold stripEnvelopedSignature at he'
  split at he'
  · rw [he, Option.some.injEq] at he'
    rw [he']
    exact ⟨rfl, rfl, rfl⟩
  · rename_i start stop hcut
    obtain ⟨rev, rev', f, g, hstart, hstop, hsimilar⟩ := hcuts start stop hcut
    rw [← List.take_append_drop stop rawXML] at he
    dsimp only at he'
    split_ifs at he' with hnewline
    · obtain ⟨rev'', hbefore⟩ := read_before_newline hnewline.1 hnewline.2 hstart
      exact root_similar isContent_text hstop hbefore hsimilar he he'
    · exact root_similar isContent_text hstop hstart hsimilar he he'

/-- With one digest in both views, the content is what was signed if and only if it is that of the
document less its signature. -/
theorem signedContent_iff_strip (hideal : Ideal env issued) (hsame : SameDigest env rawXML) :
    SignedContent env issued rawXML ↔
      ∀ cert now a, verifySignedAssertion env cert now rawXML = .ok a →
        ∃ a', parseAssertion env.tables (stripEnvelopedSignature rawXML) = .ok a' ∧
          SameContent a a' := by
  constructor
  · intro hcontent cert now a h
    obtain ⟨i, hi, hsigned, a', ha', hsameContent⟩ := hcontent cert now a h
    obtain ⟨j, hj, hsigned', hstrip⟩ := strip_eq_assertion hideal hsame h
    -- one `SignedInfo` has one digest, and that is of one assertion
    obtain ⟨hash, hdigest⟩ := hideal.digest i hi
    obtain ⟨hash', hdigest'⟩ := hideal.digest j hj
    rw [← hsigned] at hdigest
    rw [← hsigned', hdigest, Option.some.injEq] at hdigest'
    refine ⟨a', ?_, hsameContent⟩
    rw [hstrip, ← hideal.collision hash hash' _ _ hdigest']
    exact ha'
  · intro hcontent cert now a h
    obtain ⟨i, hi, hsigned, hstrip⟩ := strip_eq_assertion hideal hsame h
    obtain ⟨a', ha', hsameContent⟩ := hcontent cert now a h
    rw [hstrip] at ha'
    exact ⟨i, hi, hsigned, a', ha', hsameContent⟩

end Views

namespace Sample

def words (ws : List String) : Bytes := ws.flatMap ascii

def opening : Bytes := words ["<Assertion", " ID=\"a\">"]

def subject (name : String) : Bytes :=
  words ["<Subject>", "<NameID>", name, "</NameID>", "</Subject>"]

def closing : Bytes := ascii "</Assertion>"

/-- An assertion about a user. -/
def assertion (name : String) : Bytes := opening ++ subject name ++ closing

/-- What is read of it. -/
def about (name : String) : SAMLAssertion :=
  { SAMLAssertion.zero with
    id := ascii "a"
    subject := { SAMLAssertion.zero.subject with nameID := ascii name } }

/-- A reference with the digest of an assertion; the texts differ in one word. -/
def digest (word : String) : Bytes :=
  words ["<DigestValue>", "PEFzc2VydGlvbiBJ", "RD0iYSI+PFN1Ympl", word, "L05hbWVJRD48L1N1",
    "YmplY3Q+PC9Bc3Nl", "cnRpb24+", "</DigestValue>"]

def signedInfo : Bytes :=
  words ["<ds:SignedInfo>", "<SignatureMethod", " Algorithm=\"", "http://www.w3.org", "/2001/04/",
    "xmldsig-more", "#rsa-sha256", "\"/>", "<Reference>", "<DigestMethod", " Algorithm=\"",
    "http://www.w3.org", "/2001/04/", "xmlenc#sha256", "\"/>"] ++ digest "Y3Q+PE5hbWVJRD5ib2I8" ++
    words ["</Reference>", "</ds:SignedInfo>"]

def signatureValue : Bytes := words ["<SignatureValue>", "c2lnbg==", "</SignatureValue>"]

/-- Digests are the texts themselves; one `SignedInfo` was signed. -/
def env : SAMLEnv where
  tables := ⟨fun _ => false, fun _ => false⟩
  hash := fun _ m => m
  verifyPKCS1v15 := fun _ hashed v => decide (hashed = signedInfo ∧ v = ascii "sign")
  verifyASN1 := fun _ _ => false
  parseTime := fun _ => none

def issued : Set Issued := {⟨assertion "bob", signedInfo⟩}

/-- The signed assertion. -/
def honest : Bytes :=
  opening ++ ascii "<ds:Signature>" ++ signedInfo ++ signatureValue ++ ascii "</ds:Signature>" ++
    subject "bob" ++ closing

/-- The signature has a second digest, which the decoder reads last. -/
def twoDigests : Bytes :=
  opening ++ ascii "<ds:Signature>" ++ signedInfo ++ words ["<SignedInfo>", "<Reference>"] ++
    digest "Y3Q+PE5hbWVJRD5ldmU8" ++ words ["</Reference>", "</SignedInfo>"] ++ signatureValue ++
    ascii "</ds:Signature>" ++ subject "eve" ++ closing

/-- The signature ends, for the decoder, before a second subject; in the text, behind it. -/
def twoSubjects : Bytes :=
  opening ++ subject "bob" ++ ascii "<ds:Signature>" ++ signedInfo ++ signatureValue ++
    ascii "</ds:Signature >" ++ subject "eve" ++ words ["<ds:Signature>", "</ds:Signature>"] ++
    closing

theorem parse_bob : parseAssertion env.tables (assertion "bob") = .ok (about "bob") := by
  decide +kernel

theorem digest_bob : signedDigest env signedInfo = some (assertion "bob") := by
  decide +kernel

theorem ideal : Ideal env issued where
  collision := fun _ _ _ _ h => h
  rsa := fun _ _ _ h => ⟨_, rfl, (of_decide_eq_true h).1⟩
  ecdsa := fun _ _ _ h => (by cases h)
  digest := by
    rintro i rfl
    exact ⟨.sha256, digest_bob⟩
  parses := by
    rintro i rfl
    exact ⟨about "bob", parse_bob⟩

/-- A document that is accepted for somebody else. -/
theorem not_signed_of_eve {rawXML : Bytes}
    (h : verifySignedAssertion env (some .rsa) 0 rawXML = .ok (about "eve")) :
    ¬ SignedContent env issued rawXML := by
  intro hsigned
  obtain ⟨i, rfl, -, a', ha', hsubject, -⟩ := hsigned _ _ _ h
  rw [parse_bob, Except.ok.injEq] at ha'
  rw [← ha'] at hsubject
  exact absurd hsubject (by decide)

/-- The decoder is in the text of a root that has no content yet. -/
def empty : Decoder → Bool
  | ⟨.text _, .reading [f]⟩ =>
    decide (f.name = ⟨[], ascii "Assertion"⟩) &&
      decide (f.attrs = [⟨⟨[], ascii "ID"⟩, ascii "a"⟩]) && (f.children.filter isContent).isEmpty
  | _ => false

theorem empty_inv {d : Decoder} (h : empty d = true) : ∃ rev f,
    d = ⟨.text rev, .reading [f]⟩ ∧ f.Similar isContent
      ⟨⟨[], ascii "Assertion"⟩, [⟨⟨[], ascii "ID"⟩, ascii "a"⟩], []⟩ := by
  unfold empty at h
  split at h
  · rename_i rev f
    simp only [Bool.and_eq_true, decide_eq_true_eq, List.isEmpty_iff] at h
    exact ⟨rev, f, rfl, h.1.1, h.1.2, h.2⟩
  · cases h

theorem honest_sameDigest : SameDigest env honest := by
  intro info hinfo
  have hdigest : (parseSignature env.tables honest).toOption.map SignatureInfo.digestValue =
      some (assertion "bob") := by decide +kernel
  have hextract : extractSignedInfoBytes honest = signedInfo := by decide +kernel
  rw [hinfo] at hdigest
  rw [hextract, digest_bob, ← hdigest]
  rfl

theorem honest_cuts : CutsSignatures env honest := by
  intro start stop hcut
  have hwhere : (envelopedSignature honest).all fun cut =>
      empty (Decoder.read env.tables (honest.take cut.1)) &&
        empty (Decoder.read env.tables (honest.take cut.2)) := by decide +kernel
  rw [hcut, Option.all_some, Bool.and_eq_true] at hwhere
  obtain ⟨rev, f, hstart, hf⟩ := empty_inv hwhere.1
  obtain ⟨rev', g, hstop, hg⟩ := empty_inv hwhere.2
  exact ⟨rev, rev', f, g, hstart, hstop, hg.name.trans hf.name.symm, hg.attrs.trans hf.attrs.symm,
    hg.children.trans hf.children.symm⟩

end Sample

end Ggid.Saml
