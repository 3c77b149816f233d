import Ggid.Go.Xml

/-!
# SAML — assertions

`ParseAssertion` and `ValidateConditions`. Fields go by the local name of an attribute or element,
in whatever namespace; of attributes and elements of one name, the last one counts, except where
the field is a list.
-/

namespace Ggid.Saml

open Ggid.Go Ggid.Go.Xml

structure SubjectConfirmationData where
  inResponseTo : Bytes
  recipient    : Bytes
  notOnOrAfter : Bytes
  deriving DecidableEq

structure SubjectConfirmation where
  method                  : Bytes
  subjectConfirmationData : SubjectConfirmationData
  deriving DecidableEq

structure Subject where
  nameID              : Bytes
  subjectConfirmation : SubjectConfirmation
  deriving DecidableEq

structure AudienceRestriction where
  audience : Bytes
  deriving DecidableEq

structure Conditions where
  notBefore           : Bytes
  notOnOrAfter        : Bytes
  audienceRestriction : AudienceRestriction
  deriving DecidableEq

structure Attribute where
  name       : Bytes
  nameFormat : Bytes
  values     : List Bytes
  deriving DecidableEq

structure AttributeStatement where
  attributes : List Attribute
  deriving DecidableEq

structure SAMLAssertion where
  id                 : Bytes
  issueInstant       : Bytes
  version            : Bytes
  issuer             : Bytes
  subject            : Subject
  conditions         : Conditions
  attributeStatement : AttributeStatement
  deriving DecidableEq

def SAMLAssertion.zero : SAMLAssertion :=
  ⟨[], [], [], [], ⟨[], ⟨[], ⟨[], [], []⟩⟩⟩, ⟨[], [], ⟨[]⟩⟩, ⟨[]⟩⟩

-- ---------------------------------------------------------------------------
-- `xml.Unmarshal`
-- ---------------------------------------------------------------------------

def SubjectConfirmationData.unmarshal (e : Frame) (v : SubjectConfirmationData) :
    SubjectConfirmationData where
  inResponseTo := attrField "InResponseTo" e.attrs v.inResponseTo
  recipient := attrField "Recipient" e.attrs v.recipient
  notOnOrAfter := attrField "NotOnOrAfter" e.attrs v.notOnOrAfter

def SubjectConfirmation.unmarshal (e : Frame) (v : SubjectConfirmation) : SubjectConfirmation :=
  e.fields (fun name child v =>
    if name = ascii "SubjectConfirmationData" then
      { v with subjectConfirmationData := v.subjectConfirmationData.unmarshal child }
    else v) { v with method := attrField "Method" e.attrs v.method }

def Subject.unmarshal (e : Frame) (v : Subject) : Subject :=
  e.fields (fun name child v =>
    if name = ascii "NameID" then { v with nameID := child.text }
    else if name = ascii "SubjectConfirmation" then
      { v with subjectConfirmation := v.subjectConfirmation.unmarshal child }
    else v) v

def AudienceRestriction.unmarshal (e : Frame) (v : AudienceRestriction) : AudienceRestriction :=
  e.fields (fun name child v =>
    if name = ascii "Audience" then ⟨child.text⟩ else v) v

def Conditions.unmarshal (e : Frame) (v : Conditions) : Conditions :=
  e.fields (fun name child v =>
    if name = ascii "AudienceRestriction" then
      { v with audienceRestriction := v.audienceRestriction.unmarshal child }
    else v)
    { v with
      notBefore := attrField "NotBefore" e.attrs v.notBefore
      notOnOrAfter := attrField "NotOnOrAfter" e.attrs v.notOnOrAfter }

def Attribute.unmarshal (e : Frame) : Attribute :=
  e.fields (fun name child v =>
    if name = ascii "AttributeValue" then { v with values := v.values ++ [child.text] } else v)
    ⟨attrField "Name" e.attrs [], attrField "NameFormat" e.attrs [], []⟩

def AttributeStatement.unmarshal (e : Frame) (v : AttributeStatement) : AttributeStatement :=
  e.fields (fun name child v =>
    if name = ascii "Attribute" then ⟨v.attributes ++ [Attribute.unmarshal child]⟩ else v) v

/-- The field of an element in an assertion. -/
def SAMLAssertion.field (name : Bytes) (child : Frame) (v : SAMLAssertion) : SAMLAssertion :=
  if name = ascii "Issuer" then { v with issuer := child.text }
  else if name = ascii "Subject" then { v with subject := v.subject.unmarshal child }
  else if name = ascii "Conditions" then { v with conditions := v.conditions.unmarshal child }
  else if name = ascii "AttributeStatement" then
    { v with attributeStatement := v.attributeStatement.unmarshal child }
  else v

def SAMLAssertion.unmarshal (e : Frame) : SAMLAssertion :=
  e.fields SAMLAssertion.field
    { SAMLAssertion.zero with
      id := attrField "ID" e.attrs []
      issueInstant := attrField "IssueInstant" e.attrs []
      version := attrField "Version" e.attrs [] }

/-- The root of a document, if it is an `Assertion`. -/
def assertionRoot (tables : NameTables) (rawXML : Bytes) : Option Frame :=
  (root tables rawXML).filter fun e => e.name.localName = ascii "Assertion"

def parseAssertion (tables : NameTables) (rawXML : Bytes) : Except String SAMLAssertion :=
  match assertionRoot tables rawXML with
  | some e => .ok (SAMLAssertion.unmarshal e)
  | none => .error "parse SAML assertion XML"

-- ---------------------------------------------------------------------------
-- `ValidateConditions`
-- ---------------------------------------------------------------------------

/-- `ValidateConditionsWithAudience("")`; `parse` is `time.Parse` in the format RFC 3339. Times that
cannot be read are not checked. -/
def SAMLAssertion.validateConditions (parse : Bytes → Option Time) (now : Time)
    (a : SAMLAssertion) : Except String Unit :=
  if a.conditions.notBefore ≠ [] ∧
      (parse a.conditions.notBefore).any (fun t => decide (now < t - 2 * minute)) = true then
    .error "assertion not yet valid"
  else if a.conditions.notOnOrAfter ≠ [] ∧
      (parse a.conditions.notOnOrAfter).any (fun t => decide (t ≤ now)) = true then
    .error "assertion expired"
  else
    let confirmation := a.subject.subjectConfirmation
    let data := confirmation.subjectConfirmationData
    if confirmation.method ≠ [] ∧
        confirmation.method ≠ ascii "urn:oasis:names:tc:SAML:2.0:cm:bearer" then
      .error "unsupported SubjectConfirmation method"
    else if data.notOnOrAfter ≠ [] ∧
        (parse data.notOnOrAfter).any (fun t => decide (t ≤ now)) = true then
      .error "subject confirmation expired"
    else .ok ()

-- ---------------------------------------------------------------------------
-- Signatures do not matter for what is read
-- ---------------------------------------------------------------------------

/-- Elements other than a signature. -/
def isContent : Node → Bool
  | .element name _ _ => decide (name.localName ≠ ascii "Signature")
  | .text _ => false

theorem isContent_text (data : Bytes) : isContent (.text data) = false := rfl

/-- **What is read of an assertion** depends on its attributes and on such elements. -/
theorem unmarshal_similar {e e' : Frame} (h : e.Similar isContent e') :
    SAMLAssertion.unmarshal e = SAMLAssertion.unmarshal e' := by
  have hskip : ∀ (name : Name) attrs children (v : SAMLAssertion),
      isContent (.element name attrs children) = false →
        SAMLAssertion.field name.localName ⟨name, attrs, children⟩ v = v := by
    intro name attrs children v hname
    have hname : name.localName = ascii "Signature" := by
      simpa [isContent] using hname
    simp [SAMLAssertion.field, hname, show ascii "Signature" ≠ ascii "Issuer" ∧
      ascii "Signature" ≠ ascii "Subject" ∧ ascii "Signature" ≠ ascii "Conditions" ∧
      ascii "Signature" ≠ ascii "AttributeStatement" from by decide]
  unfold SAMLAssertion.unmarshal
  rw [← Frame.fields_filter e hskip, ← Frame.fields_filter e' hskip, h.children, h.attrs]
  rfl

end Ggid.Saml
