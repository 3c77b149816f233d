import Ggid.Go.XmlElement

/-!
# SAML — the assertion of a response

`ExtractAssertionFromResponse`. The content of the assertion is what the decoder keeps of the first
`Assertion` in the response; the tag in front of it is the first `<Assertion` in the text.

* `extracted_iff` — what is returned is the first assertion, if and only if that tag has its
  attributes.
-/

namespace Ggid.Saml

open Ggid.Go Ggid.Go.Xml

-- ---------------------------------------------------------------------------
-- `samlResponse`
-- ---------------------------------------------------------------------------

structure ResponseStatusCode where
  value : Bytes

structure ResponseStatus where
  statusCode : ResponseStatusCode

structure RawAssertion where
  raw : Bytes

/-- The fields that are read. -/
structure SamlResponse where
  status     : ResponseStatus
  assertions : List RawAssertion

def ResponseStatusCode.unmarshal (e : Frame) (v : ResponseStatusCode) : ResponseStatusCode where
  value := attrField "Value" e.attrs v.value

def ResponseStatus.unmarshal (e : Frame) (v : ResponseStatus) : ResponseStatus :=
  e.fields (fun name child v =>
    if name = ascii "StatusCode" then { v with statusCode := v.statusCode.unmarshal child }
    else v) v

/-- The field `Status` of a response. -/
def responseStatus (e : Frame) : ResponseStatus :=
  e.fields (fun name child v => if name = ascii "Status" then v.unmarshal child else v) ⟨⟨[]⟩⟩

/-- `xml.Unmarshal`. -/
def SamlResponse.unmarshal (tables : NameTables) (responseXML : Bytes) : Option SamlResponse :=
  ((root tables responseXML).filter fun e => e.name.localName = ascii "Response").map fun e =>
    { status := responseStatus e
      assertions :=
        (innerXMLs tables (ascii "Assertion") ⟨.text [], .reading []⟩ responseXML).map
          RawAssertion.mk }

-- ---------------------------------------------------------------------------
-- `ExtractAssertionFromResponse`
-- ---------------------------------------------------------------------------

/-- None stands for `-1`. -/
def indexOfByte (s substr : Bytes) : Option Nat := indexBytes substr s

def indexOfByteFrom (s substr : Bytes) (start : Nat) : Option Nat :=
  (indexBytes substr (s.drop start)).map (start + ·)

def extractAssertionAttrs (responseXML : Bytes) : Bytes :=
  match indexOfByte responseXML (ascii "<Assertion") with
  | none => []
  | some idx =>
    match indexOfByteFrom responseXML (ascii ">") idx with
    | none => []
    | some stop => (responseXML.take stop).drop (idx + (ascii "<Assertion").length)

def statusSuccess : Bytes := ascii "urn:oasis:names:tc:SAML:2.0:status:Success"

/-- What the decoder says about a document it cannot read is left out of the error. -/
def extractAssertionFromResponse (tables : NameTables) (responseXML : Bytes) :
    Except Bytes Bytes :=
  match SamlResponse.unmarshal tables responseXML with
  | none => .error (ascii "parse SAML Response envelope: ")
  | some resp =>
    if resp.status.statusCode.value ≠ statusSuccess then
      .error (ascii "SAML Response status is not Success: " ++ resp.status.statusCode.value)
    else
      match resp.assertions with
      | [] => .error (ascii "no Assertion found in SAML Response")
      | first :: _ =>
        .ok (ascii "<Assertion" ++ extractAssertionAttrs responseXML ++ ascii ">" ++ first.raw ++
          ascii "</Assertion>")

-- ---------------------------------------------------------------------------
-- The first tag in the text
-- ---------------------------------------------------------------------------

/-- What follows the first `<Assertion` of a text up to the next `>`; nothing, if there is none. -/
inductive FirstTag (s : Bytes) : Bytes → Prop
  | found (before attrs after : Bytes)
    (hs : s = before ++ ascii "<Assertion" ++ (attrs ++ ch '>' :: after)) (hend : ch '>' ∉ attrs)
    (hfirst : ∀ before' after', s = before' ++ ascii "<Assertion" ++ after' →
      before.length ≤ before'.length) : FirstTag s attrs
  | absent (h : ∀ before attrs after,
      s ≠ before ++ ascii "<Assertion" ++ (attrs ++ ch '>' :: after)) : FirstTag s []

theorem ascii_assertion :
    ascii "Assertion" = ['A', 's', 's', 'e', 'r', 't', 'i', 'o', 'n'].map ch :=
  ascii_ofList _

theorem ascii_tag : ascii "<Assertion" = ch '<' :: ascii "Assertion" := by
  rw [ascii_assertion]
  exact ascii_ofList ['<', 'A', 's', 's', 'e', 'r', 't', 'i', 'o', 'n']

theorem ascii_gt : ascii ">" = [ch '>'] := ascii_ofList ['>']

theorem gt_not_mem_assertion : ch '>' ∉ ascii "Assertion" := by
  rw [ascii_assertion]
  decide

theorem gt_not_mem_tag : ch '>' ∉ ascii "<Assertion" := by
  rw [ascii_tag, List.mem_cons, not_or]
  exact ⟨by decide, gt_not_mem_assertion⟩

section FirstTag

variable {s a : Bytes}

/-- The first of these bytes. -/
theorem indexBytes_byte {x : Bytes} {b : UInt8} (h : b ∉ x) (y : Bytes) :
    indexBytes [b] (x ++ b :: y) = some x.length := by
  have hsplit : x ++ b :: y = x ++ [b] ++ y := by rw [List.append_assoc, List.singleton_append]
  rw [hsplit]
  refine indexBytes_eq fun before after heq => ?_
  by_contra hlt
  rw [Nat.not_le] at hlt
  rw [← hsplit, List.append_assoc, List.singleton_append] at heq
  have hget : (x ++ b :: y)[before.length]? = some b := by simp [heq]
  rw [List.getElem?_append_left hlt] at hget
  exact h (List.mem_of_getElem? hget)

theorem FirstTag.not_mem (h : FirstTag s a) : ch '>' ∉ a := by
  cases h with
  | found before attrs after hs hend hfirst => exact hend
  | absent hnone => exact List.not_mem_nil

/-- **The text search** finds the first tag. -/
theorem FirstTag.eq_extract (h : FirstTag s a) : extractAssertionAttrs s = a := by
  unfold extractAssertionAttrs indexOfByte indexOfByteFrom
  cases h with
  | found before attrs after hs hend hfirst =>
    have hstart : indexBytes (ascii "<Assertion") s = some before.length := by
      rw [hs]
      exact indexBytes_eq (by rwa [hs] at hfirst)
    have hdrop : s.drop before.length = (ascii "<Assertion" ++ a) ++ ch '>' :: after := by
      rw [hs, List.append_assoc, List.drop_left, List.append_assoc]
    have hname : ch '>' ∉ ascii "<Assertion" ++ a := by
      rw [List.mem_append, not_or]
      exact ⟨gt_not_mem_tag, hend⟩
    rw [hstart]
    dsimp only
    rw [hdrop, ascii_gt, indexBytes_byte hname]
    dsimp only [Option.map_some]
    rw [hs, ← List.append_assoc, List.take_left' (by simp only [List.length_append]; omega),
      List.drop_left' List.length_append]
  | absent hnone =>
    split
    · rfl
    · rename_i idx hidx
      obtain ⟨⟨before, after, hs, hlength⟩, -⟩ := indexBytes_some hidx
      split
      · rfl
      · -- a `>` behind it would end a tag
        rename_i stop hstop
        obtain ⟨k, hk, -⟩ := Option.map_eq_some_iff.mp hstop
        obtain ⟨⟨x, y, hx, -⟩, -⟩ := indexBytes_some hk
        have hmem : ch '>' ∈ ascii "<Assertion" ++ after := by
          have hdrop : s.drop idx = ascii "<Assertion" ++ after := by
            rw [hs, ← hlength, List.append_assoc, List.drop_left]
          rw [← hdrop, hx, ascii_gt]
          simp
        obtain ⟨attrs, rest, rfl⟩ :=
          List.append_of_mem ((List.mem_append.mp hmem).resolve_left gt_not_mem_tag)
        exact absurd hs (hnone before attrs rest)

theorem firstTag_extract (s : Bytes) : FirstTag s (extractAssertionAttrs s) := by
  have hexists : ∃ a, FirstTag s a := by
    cases hidx : indexBytes (ascii "<Assertion") s with
    | none =>
      exact ⟨[], .absent fun before attrs after => indexBytes_none hidx before _⟩
    | some idx =>
      obtain ⟨⟨before, after, hs, hlength⟩, hfirst⟩ := indexBytes_some hidx
      subst hlength
      by_cases hend : ch '>' ∈ after
      · obtain ⟨attrs, rest, rfl, hattrs⟩ := List.eq_append_cons_of_mem hend
        exact ⟨attrs, .found before attrs rest hs hattrs hfirst⟩
      · refine ⟨[], .absent fun before' attrs rest heq => hend ?_⟩
        -- wherever it begins, it does not begin before the first one
        have hle := hfirst before' _ heq
        have hlength := congrArg List.length (hs.symm.trans heq)
        have hsuffix : attrs ++ ch '>' :: rest <:+ after := by
          refine List.suffix_of_suffix_length_le ⟨_, heq.symm⟩ ⟨_, hs.symm⟩ ?_
          simp only [List.length_append] at hlength ⊢
          omega
        exact hsuffix.subset (List.mem_append_right attrs List.mem_cons_self)
  obtain ⟨a, ha⟩ := hexists
  rw [ha.eq_extract]
  exact ha

end FirstTag

-- ---------------------------------------------------------------------------
-- What the returned bytes are read as
-- ---------------------------------------------------------------------------

/-- A text of that form. -/
def assertionText (attrs raw : Bytes) : Bytes :=
  ascii "<Assertion" ++ attrs ++ ascii ">" ++ raw ++ ascii "</Assertion>"

/-- `<Assertion` with this behind it is a tag: of an `Assertion`, with these attributes, or with a
slash at its end, if there is no content. -/
def IsTag (tables : NameTables) (a : Bytes) (attrs : List Attr) (nodes : List Node) : Prop :=
  openQuote (ascii "Assertion" ++ a) = none ∧
    (startTag tables (ascii "Assertion" ++ a) =
        some [.startElement ⟨[], ascii "Assertion"⟩ attrs] ∨
      visible nodes = [] ∧ ∃ name, startTag tables (ascii "Assertion" ++ a) =
        some [.startElement name attrs, .endElement name])

section Output

variable {tables : NameTables} {a raw : Bytes} {attrs : List Attr} {nodes : List Node}

theorem isName_assertion : isName tables (ascii "Assertion") = true := by
  have hrunes : runes (ascii "Assertion") =
      some [65, 115, 115, 101, 114, 116, 105, 111, 110] := by
    rw [ascii_assertion]
    decide
  unfold isName
  rw [hrunes]
  simp [isLetter]

theorem nsname_assertion :
    nsname tables (ascii "Assertion") = some (⟨[], ascii "Assertion"⟩, []) := by
  have hname : (ascii "Assertion").takeWhile isNameByte = ascii "Assertion" := by
    rw [ascii_assertion]
    decide
  have hrest : (ascii "Assertion").dropWhile isNameByte = [] := by
    rw [ascii_assertion]
    decide
  have hsplit : (ascii "Assertion").count (ch ':') ≤ 1 ∧
      splitName (ascii "Assertion") = ⟨[], ascii "Assertion"⟩ := by
    rw [ascii_assertion]
    decide
  unfold nsname
  dsimp only
  rw [hname, hrest, if_pos ⟨isName_assertion, hsplit.1⟩, hsplit.2]

/-- The end tag that is put behind the content. -/
theorem endTag_assertion :
    endTag tables (ascii "Assertion") = some [.endElement ⟨[], ascii "Assertion"⟩] := by
  unfold endTag
  rw [nsname_assertion]
  rfl

theorem assertion_opensTag (a : Bytes) : OpensTag (ascii "Assertion" ++ a) := by
  rw [ascii_assertion]
  exact ⟨ch 'A', _, rfl, by decide⟩

theorem assertion_unended (ha : ch '>' ∉ a) : Unended none (ascii "Assertion" ++ a) := by
  refine .of_not_mem ?_ none
  rw [List.mem_append, not_or]
  exact ⟨gt_not_mem_assertion, ha⟩

/-- The end tag as the decoder reads it. -/
def assertionEnd : Bytes := ch '<' :: ch '/' :: ascii "Assertion" ++ [ch '>']

theorem ascii_end : ascii "</Assertion>" = assertionEnd := by
  rw [assertionEnd, ascii_assertion]
  exact ascii_ofList ['<', '/', 'A', 's', 's', 'e', 'r', 't', 'i', 'o', 'n', '>']

theorem assertionText_eq (a raw : Bytes) :
    assertionText a raw =
      ch '<' :: (ascii "Assertion" ++ a) ++ ch '>' :: (raw ++ assertionEnd) := by
  rw [assertionText, ascii_tag, ascii_gt, ascii_end]
  simp only [List.append_assoc, List.cons_append, List.nil_append]

/-- Content behind an open element of this name. -/
theorem root_end (hraw : content tables raw = some nodes) (name : Name) :
    ((raw ++ assertionEnd).foldl (Decoder.step tables)
        ⟨.text [], .reading [⟨name, attrs, []⟩]⟩).tree.root =
      if name = ⟨[], ascii "Assertion"⟩ then some ⟨name, attrs, nodes⟩ else none := by
  rw [assertionEnd, ← List.append_assoc]
  exact root_content hraw gt_not_mem_assertion endTag_assertion

/-- **With its quotes closed**, what stands in front of the content is one tag. -/
theorem closed_iff (ha : ch '>' ∉ a) (hraw : content tables raw = some nodes)
    (hquote : openQuote (ascii "Assertion" ++ a) = none) :
    (∃ e, root tables (assertionText a raw) = some e ∧ e.attrs = attrs ∧
      visible e.children = visible nodes) ↔ IsTag tables a attrs nodes := by
  rw [assertionText_eq, root_tag (assertion_opensTag a) (assertion_unended ha) hquote]
  unfold IsTag
  cases htag : startTag tables (ascii "Assertion" ++ a) with
  | none => simp
  | some tokens =>
    rw [Option.bind_some]
    obtain ⟨name, attrs', rfl⟩ | ⟨name, attrs', rfl⟩ := startTag_completed htag
    · rw [List.foldl_cons, List.foldl_nil, Tree.feed, root_end hraw]
      constructor
      · rintro ⟨e, he, rfl, -⟩
        split_ifs at he with hname
        cases he
        rw [hname]
        exact ⟨hquote, .inl rfl⟩
      · rintro ⟨-, htag | ⟨-, n, htag⟩⟩
        · cases htag
          exact ⟨_, if_pos rfl, rfl, rfl⟩
        · cases htag
    · rw [root_empty]
      constructor
      · rintro ⟨e, he, rfl, hnodes⟩
        cases he
        exact ⟨hquote, .inr ⟨hnodes.symm, name, rfl⟩⟩
      · rintro ⟨-, htag | ⟨hnodes, n, htag⟩⟩
        · cases htag
        · cases htag
          exact ⟨_, rfl, rfl, hnodes.symm⟩

/-- Where text that is followed by markup has its first `>`. -/
theorem split_before_markup {x y rest : Bytes} (hx : ch '<' ∉ x) {tail : Bytes}
    (h : y ++ ch '<' :: tail = x ++ ch '>' :: rest) :
    ∃ y', y = x ++ ch '>' :: y' ∧ rest = y' ++ ch '<' :: tail := by
  obtain ⟨z, hx', hrest⟩ | ⟨z, hy, hrest⟩ := List.append_eq_append_iff.mp h
  · cases z with
    | nil => cases hrest
    | cons c z =>
      rw [List.cons_append] at hrest
      have hc := (List.cons.inj hrest).1
      refine absurd ?_ hx
      rw [hx', hc]
      simp
  · cases z with
    | nil => cases hrest
    | cons c z =>
      rw [List.cons_append] at hrest
      obtain ⟨rfl, rfl⟩ := List.cons.inj hrest
      exact ⟨z, hy, rfl⟩

/-- **With a quote open**, the tag takes away content. -/
theorem open_ne (ha : ch '>' ∉ a) (hraw : content tables raw = some nodes)
    (hquote : openQuote (ascii "Assertion" ++ a) ≠ none) {e : Frame}
    (he : root tables (assertionText a raw) = some e) : visible e.children ≠ visible nodes := by
  rw [assertionText_eq] at he
  have hopens : ∀ x, OpensTag (ascii "Assertion" ++ a ++ x) := fun x => by
    rw [List.append_assoc]
    exact assertion_opensTag (a ++ x)
  obtain hall | ⟨before, after, hsplit, hbefore, hclosed⟩ :=
    unended_or_ends (openQuote (ascii "Assertion" ++ a)) (ch '>' :: (raw ++ assertionEnd))
  · -- the tag does not end
    have hunended := (assertion_unended ha).append hall
    rw [List.cons_append, root_unended (hopens _) hunended] at he
    cases he
  · cases before with
    | nil => exact absurd hclosed hquote
    | cons b x =>
      obtain ⟨rfl, hrest⟩ := List.cons.inj hsplit
      have hunended := (assertion_unended ha).append hbefore
      have hclosed : openQuote (ascii "Assertion" ++ a ++ ch '>' :: x) = none := by
        rw [openQuote, List.foldl_append]
        exact hclosed
      have hdoc : ch '<' :: (ascii "Assertion" ++ a) ++ ch '>' :: (raw ++ assertionEnd) =
          ch '<' :: (ascii "Assertion" ++ a ++ ch '>' :: x) ++ ch '>' :: after := by
        rw [hsplit]
        simp
      rw [hdoc, root_tag (hopens _) hunended hclosed] at he
      obtain ⟨tokens, htag, he⟩ := Option.bind_eq_some_iff.mp he
      have hx : ch '<' ∉ x := fun hmem =>
        startTag_lt htag (List.mem_append_right _ (List.mem_cons_of_mem _ hmem))
      obtain ⟨y, rfl, hafter⟩ := split_before_markup hx hrest
      have hafter : after = y ++ assertionEnd := hafter
      subst hafter
      obtain ⟨hne, hdiffers⟩ := content_ne_behind hx hraw
      obtain ⟨name, attrs', rfl⟩ | ⟨name, attrs', rfl⟩ := startTag_completed htag
      · rw [List.foldl_cons, List.foldl_nil, Tree.feed] at he
        have hread : ((y ++ assertionEnd).foldl (Decoder.step tables)
            ⟨.text [], .reading [⟨name, attrs', []⟩]⟩).tree ≠ .failed := fun hfailed => by
          rw [hfailed] at he
          cases he
        have hxgt : ch '<' ∉ x ++ [ch '>'] := by
          rw [List.mem_append, not_or]
          exact ⟨hx, by decide⟩
        have hraw' : content tables (x ++ [ch '>'] ++ y) = some nodes := by
          rw [List.append_assoc]
          exact hraw
        obtain ⟨nodes', hleft⟩ := content_of_read hxgt hraw' hread
        rw [root_end hleft] at he
        split_ifs at he
        cases he
        exact hdiffers nodes' hleft
      · rw [root_empty] at he
        cases he
        exact Ne.symm hne

/-- **What the text is read as**: an element with these attributes and this content, if and only if
what stands in front of the content is its tag. -/
theorem assertionText_iff (ha : ch '>' ∉ a) (hraw : content tables raw = some nodes) :
    (∃ e, root tables (assertionText a raw) = some e ∧ e.attrs = attrs ∧
      visible e.children = visible nodes) ↔ IsTag tables a attrs nodes := by
  by_cases hquote : openQuote (ascii "Assertion" ++ a) = none
  · exact closed_iff ha hraw hquote
  · constructor
    · rintro ⟨e, he, -, hnodes⟩
      exact absurd hnodes (open_ne ha hraw hquote he)
    · intro htag
      exact absurd htag.1 hquote

end Output

-- ---------------------------------------------------------------------------
-- The first assertion
-- ---------------------------------------------------------------------------

/-- What is returned is read as an element with the attributes and the children of this one. -/
def Extracts (tables : NameTables) (responseXML : Bytes) (first : Frame) : Prop :=
  ∃ out e, extractAssertionFromResponse tables responseXML = .ok out ∧ root tables out = some e ∧
    e.attrs = first.attrs ∧ visible e.children = visible first.children

/-- A response with status `Success`, and its first assertion. -/
structure IsSuccess (tables : NameTables) (responseXML : Bytes) (resp first : Frame) : Prop where
  root   : root tables responseXML = some resp
  name   : resp.name.localName = ascii "Response"
  status : (responseStatus resp).statusCode.value = statusSuccess
  first  : (named (ascii "Assertion") resp.children).head? = some first

/-- The first `<Assertion` in the text has the attributes of this element. -/
def HasTag (tables : NameTables) (responseXML : Bytes) (first : Frame) : Prop :=
  ∃ a, FirstTag responseXML a ∧ IsTag tables a first.attrs first.children

section Extract

variable {tables : NameTables} {responseXML : Bytes} {resp first : Frame}

theorem extract_ok (h : IsSuccess tables responseXML resp first) :
    ∃ raw, IsContentOf tables raw first ∧ extractAssertionFromResponse tables responseXML =
      .ok (assertionText (extractAssertionAttrs responseXML) raw) := by
  have hkept := innerXMLs_content (ascii "Assertion") h.root
  cases hnamed : named (ascii "Assertion") resp.children with
  | nil =>
    have hfirst := h.first
    rw [hnamed] at hfirst
    cases hfirst
  | cons e rest =>
    have hfirst := h.first
    rw [hnamed] at hfirst hkept
    cases hfirst
    cases hraws : innerXMLs tables (ascii "Assertion") ⟨.text [], .reading []⟩ responseXML with
    | nil =>
      rw [hraws] at hkept
      cases hkept
    | cons raw raws =>
      rw [hraws] at hkept
      refine ⟨raw, (List.forall₂_cons.mp hkept).1, ?_⟩
      simp [extractAssertionFromResponse, SamlResponse.unmarshal, h.root, h.name, h.status, hraws,
        assertionText, Option.filter]

/-- **The first assertion is returned**, with its own attributes, if and only if the first
`<Assertion` in the text has them. -/
theorem extracted_iff (h : IsSuccess tables responseXML resp first) :
    Extracts tables responseXML first ↔ HasTag tables responseXML first := by
  obtain ⟨raw, hcontent, hok⟩ := extract_ok h
  obtain ⟨nodes, hnodes, hvisible⟩ := Option.map_eq_some_iff.mp hcontent
  have hiff : ∀ a, ch '>' ∉ a → ((∃ e, root tables (assertionText a raw) = some e ∧
      e.attrs = first.attrs ∧ visible e.children = visible first.children) ↔
        IsTag tables a first.attrs first.children) := by
    intro a ha
    unfold IsTag
    rw [← hvisible]
    exact assertionText_iff ha hnodes
  constructor
  · rintro ⟨out, e, hout, he⟩
    rw [hok] at hout
    cases hout
    have hfirst := firstTag_extract responseXML
    exact ⟨_, hfirst, (hiff _ hfirst.not_mem).mp ⟨e, he⟩⟩
  · rintro ⟨a, hfirst, htag⟩
    obtain ⟨e, he⟩ := (hiff a hfirst.not_mem).mpr htag
    rw [hfirst.eq_extract] at hok
    exact ⟨_, e, hok, he⟩

end Extract

namespace Sample

/-- No letters beyond ASCII. -/
def ascii7 : NameTables := ⟨fun _ => false, fun _ => false⟩

def response (assertion : List String) : Bytes :=
  (["<Response>", "<Status>", "<StatusCode", " Value=\"", "urn:oasis:", "names:tc:", "SAML:2.0:",
    "status:", "Success", "\"/>", "</Status>"] ++ assertion ++ ["</Response>"]).flatMap ascii

def plain : Bytes := response ["<Assertion", " ID=\"a\">", "x", "</Assertion>"]

/-- The assertion has a prefix. -/
def prefixed : Bytes := response ["<saml:", "Assertion", " ID=\"a\">", "x", "</saml:", "Assertion>"]

/-- The assertion is behind a comment that has a tag in it. -/
def commented : Bytes :=
  response ["<!--", "<Assertion", " ID=\"b\">", "-->", "<Assertion", " ID=\"a\">", "x",
    "</Assertion>"]

def withID (id : String) : List Attr := [⟨⟨[], ascii "ID"⟩, ascii id⟩]

/-- The attributes of the first assertion in a response with status `Success`. -/
def firstAttrs (responseXML : Bytes) : Option (List Attr) :=
  (root ascii7 responseXML).bind fun resp =>
    if resp.name.localName = ascii "Response" ∧
        (responseStatus resp).statusCode.value = statusSuccess then
      (named (ascii "Assertion") resp.children).head?.map Frame.attrs
    else none

/-- The attributes that are read in what is returned. -/
def returnedAttrs (responseXML : Bytes) : Option (List Attr) :=
  ((extractAssertionFromResponse ascii7 responseXML).toOption.bind (root ascii7)).map Frame.attrs

/-- A start tag, if there is no more. -/
def tagOf : List Token → Option (Name × List Attr)
  | [.startElement name attrs] => some (name, attrs)
  | _ => none

theorem isSuccess_of_firstAttrs {responseXML : Bytes} {attrs : List Attr}
    (h : firstAttrs responseXML = some attrs) :
    ∃ resp first, IsSuccess ascii7 responseXML resp first ∧ first.attrs = attrs := by
  obtain ⟨resp, hroot, h⟩ := Option.bind_eq_some_iff.mp h
  split_ifs at h with hresponse
  obtain ⟨first, hfirst, hattrs⟩ := Option.map_eq_some_iff.mp h
  exact ⟨resp, first, ⟨hroot, hresponse.1, hresponse.2, hfirst⟩, hattrs⟩

theorem startTag_of_tagOf {s : Bytes} {name : Name} {attrs : List Attr}
    (h : (startTag ascii7 s).bind tagOf = some (name, attrs)) :
    startTag ascii7 s = some [.startElement name attrs] := by
  obtain ⟨tokens, htag, h⟩ := Option.bind_eq_some_iff.mp h
  obtain ⟨n, as, rfl⟩ | ⟨n, as, rfl⟩ := startTag_completed htag
  · cases h
    exact htag
  · cases h

theorem not_extracts {responseXML : Bytes} {attrs attrs' : List Attr}
    (hfirst : firstAttrs responseXML = some attrs)
    (hreturned : returnedAttrs responseXML = some attrs') (hne : attrs' ≠ attrs) :
    ¬ ∀ resp first, IsSuccess ascii7 responseXML resp first →
      Extracts ascii7 responseXML first := by
  obtain ⟨resp, first, hsuccess, rfl⟩ := isSuccess_of_firstAttrs hfirst
  intro h
  obtain ⟨out, e, hout, he, hattrs, -⟩ := h resp first hsuccess
  rw [returnedAttrs, hout, Except.toOption, Option.bind_some, he, Option.map_some,
    Option.some.injEq] at hreturned
  exact hne (hreturned.symm.trans hattrs)

end Sample

open Sample in
theorem extracted_iff_plain :
    ∃ resp first, IsSuccess ascii7 plain resp first ∧ Extracts ascii7 plain first := by
  have hattrs : firstAttrs plain = some (withID "a") := by decide +kernel
  obtain ⟨resp, first, hsuccess, hfirst⟩ := isSuccess_of_firstAttrs hattrs
  refine ⟨resp, first, hsuccess, (extracted_iff hsuccess).mpr ⟨_, firstTag_extract plain, ?_⟩⟩
  have htext : extractAssertionAttrs plain = ascii " ID=\"a\"" := by decide +kernel
  have htag : startTag ascii7 (ascii "Assertion" ++ ascii " ID=\"a\"") =
      some [.startElement ⟨[], ascii "Assertion"⟩ (withID "a")] :=
    startTag_of_tagOf (by decide +kernel)
  rw [htext]
  unfold IsTag
  rw [hfirst]
  exact ⟨by decide +kernel, .inl htag⟩

open Sample in
/-- With a prefix the attributes are lost; with a tag in a comment there are others. -/
theorem not_extracted :
    (¬ ∀ resp first, IsSuccess ascii7 prefixed resp first → Extracts ascii7 prefixed first) ∧
      ¬ ∀ resp first, IsSuccess ascii7 commented resp first →
        Extracts ascii7 commented first := by
  have hprefixed : firstAttrs prefixed = some (withID "a") := by decide +kernel
  have hlost : returnedAttrs prefixed = some [] := by decide +kernel
  have hcommented : firstAttrs commented = some (withID "a") := by decide +kernel
  have hother : returnedAttrs commented = some (withID "b") := by decide +kernel
  exact ⟨not_extracts hprefixed hlost (by decide), not_extracts hcommented hother (by decide)⟩

end Ggid.Saml
