import Ggid.Go.Xml

/-!
# The content of XML elements

What stands between the tags of an element is read by itself: it comes to the same children in
whatever element it stands, and however deep (`Content.foldl_within`). The text that `innerxml`
keeps of a child of the root is such content (`innerXMLs_content`), and between tags of another
element it is the content of that (`foldl_element`).
-/

namespace Ggid.Go.Xml

-- ---------------------------------------------------------------------------
-- Reading content
-- ---------------------------------------------------------------------------

/-- What has been read of the content of an element: the elements that are open in it, innermost
first, and its children so far. -/
structure Content where
  mode     : Mode
  stack    : List Frame
  children : List Node

namespace Content

/-- One token; none at an end tag that is not of an element in it. -/
def feed (c : Content) (token : Token) : Option Content :=
  match c.stack, token with
  | stack, .startElement name attrs => some { c with stack := ⟨name, attrs, []⟩ :: stack }
  | [], .charData data => some { c with children := c.children ++ [.text data] }
  | f :: stack, .charData data =>
    some { c with stack := { f with children := f.children ++ [.text data] } :: stack }
  | [], .endElement _ => none
  | f :: stack, .endElement name =>
    let node := .element f.name f.attrs f.children
    if f.name = name then
      match stack with
      | [] => some { c with stack := [], children := c.children ++ [node] }
      | g :: stack =>
        some { c with stack := { g with children := g.children ++ [node] } :: stack }
    else none

/-- One byte. -/
def step (tables : NameTables) (c : Content) (b : UInt8) : Option Content :=
  match lex tables c.mode b with
  | none => none
  | some (mode, tokens) => tokens.foldlM feed { c with mode := mode }

/-- The decoder there, in an element with nothing before it. -/
def within (c : Content) (name : Name) (attrs : List Attr) (outer : List Frame) : Decoder :=
  ⟨c.mode, .reading (c.stack ++ ⟨name, attrs, c.children⟩ :: outer)⟩

def empty : Content := ⟨.text [], [], []⟩

/-- The children, if the content ends here. -/
def finish (c : Content) : Option (List Node) :=
  match c.mode, c.stack with
  | .text rev, [] => (charData rev.reverse).map fun data => c.children ++ [.text data]
  | _, _ => none

end Content

/-- The children that a text is, as the content of an element. -/
def content (tables : NameTables) (s : Bytes) : Option (List Node) :=
  (s.foldlM (Content.step tables) .empty).bind Content.finish

-- ---------------------------------------------------------------------------
-- `innerxml`
-- ---------------------------------------------------------------------------

def Mode.isText : Mode → Bool
  | .text _ => true
  | _ => false

section Inner

variable (tables : NameTables)

/-- What is kept of a child of the root: everything up to where its last token begins. `saved` is
what has been read of it, backwards, and `offset` as much of that as came before the current
token. -/
def innerXML (d : Decoder) (saved offset : Bytes) : Bytes → Bytes
  | [] => offset.reverse
  | b :: s =>
    let offset := if d.mode.isText = true then saved else offset
    let d := d.step tables b
    match d.tree with
    | .reading [_] => offset.reverse
    | _ => innerXML d (b :: saved) offset s

/-- The child of the root that begins at a byte, and whether it ends there as well. -/
def childTag (d : Decoder) (b : UInt8) : Option (Name × Bool) :=
  match d.tree, lex tables d.mode b with
  | .reading [_], some (_, [.startElement name _]) => some (name, false)
  | .reading [_], some (_, [.startElement name _, .endElement _]) => some (name, true)
  | _, _ => none

/-- What is kept of each child of the root that has this name. -/
def innerXMLs (name : Bytes) (d : Decoder) : Bytes → List Bytes
  | [] => []
  | b :: s =>
    match childTag tables d b with
    | none => innerXMLs name (d.step tables b) s
    | some (child, isEmpty) =>
      let rest := innerXMLs name (d.step tables b) s
      if child.localName = name then
        (if isEmpty then [] else innerXML tables (d.step tables b) [] [] s) :: rest
      else rest

end Inner

/-- The elements of this name among some nodes. -/
def named (name : Bytes) (nodes : List Node) : List Frame :=
  nodes.filterMap fun
    | .element child attrs children =>
      if child.localName = name then some ⟨child, attrs, children⟩ else none
    | .text _ => none

/-- Text of no characters does not count. -/
def Node.isVisible : Node → Bool
  | .element _ _ _ => true
  | .text data => decide (data ≠ [])

/-- Children without such text. -/
def visible (nodes : List Node) : List Node := nodes.filter Node.isVisible

-- ---------------------------------------------------------------------------
-- What a byte can complete
-- ---------------------------------------------------------------------------

section Completed

variable {tables : NameTables} {mode mode' : Mode} {b : UInt8} {tokens : List Token}

/-- The tokens that one byte can complete. -/
inductive Completed : List Token → Prop
  | nothing : Completed []
  | text (data : Bytes) : Completed [.charData data]
  | start (name : Name) (attrs : List Attr) : Completed [.startElement name attrs]
  | empty (name : Name) (attrs : List Attr) :
    Completed [.startElement name attrs, .endElement name]
  | stop (name : Name) : Completed [.endElement name]

theorem startTag_completed {s : Bytes} (h : startTag tables s = some tokens) :
    (∃ name attrs, tokens = [.startElement name attrs]) ∨
      ∃ name attrs, tokens = [.startElement name attrs, .endElement name] := by
  simp only [startTag, Option.bind_eq_bind, Option.bind_eq_some_iff, Option.pure_def,
    Option.some.injEq] at h
  obtain ⟨⟨name, rest⟩, -, attrs, -, rfl⟩ := h
  split_ifs
  · exact .inr ⟨name, attrs, rfl⟩
  · exact .inl ⟨name, attrs, rfl⟩

theorem endTag_completed {s : Bytes} (h : endTag tables s = some tokens) :
    ∃ name, tokens = [.endElement name] := by
  simp only [endTag, Option.bind_eq_bind, Option.bind_eq_some_iff, Option.pure_def] at h
  obtain ⟨⟨name, rest⟩, -, h⟩ := h
  dsimp only at h
  split_ifs at h
  exact ⟨name, (Option.some.inj h).symm⟩

/-- A byte of a start tag goes on with it, or ends it. -/
theorem startTagByte_inv {rev : Bytes} {quote : Option UInt8}
    (h : startTagByte tables rev quote b = some (mode', tokens)) :
    (mode'.isText = false ∧ tokens = []) ∨
      (mode' = .text [] ∧ startTag tables rev.reverse = some tokens) := by
  unfold startTagByte at h
  split at h
  · cases h
    exact .inl ⟨rfl, rfl⟩
  · split_ifs at h
    · obtain ⟨tokens', htag, h⟩ := Option.map_eq_some_iff.mp h
      cases h
      exact .inr ⟨rfl, htag⟩
    · cases h
      exact .inl ⟨rfl, rfl⟩
    · cases h
      exact .inl ⟨rfl, rfl⟩

/-- In the text between markup. -/
theorem lex_text {rev : Bytes} (h : lex tables (.text rev) b = some (mode', tokens)) :
    (b ≠ ch '<' ∧ mode' = .text (b :: rev) ∧ tokens = []) ∨
      ∃ data, b = ch '<' ∧ mode' = .markup ∧ charData rev.reverse = some data ∧
        tokens = [.charData data] := by
  simp only [lex] at h
  split_ifs at h with hb
  · obtain ⟨data, hdata, h⟩ := Option.map_eq_some_iff.mp h
    cases h
    exact .inr ⟨data, hb, rfl, hdata, rfl⟩
  · cases h
    exact .inl ⟨hb, rfl, rfl⟩

/-- In markup: it goes on, or it ends. -/
theorem lex_markup (hmode : mode.isText = false)
    (h : lex tables mode b = some (mode', tokens)) :
    (mode'.isText = false ∧ tokens = []) ∨ (mode' = .text [] ∧ Completed tokens) := by
  have hstart : ∀ {rev quote}, startTagByte tables rev quote b = some (mode', tokens) →
      (mode'.isText = false ∧ tokens = []) ∨ (mode' = .text [] ∧ Completed tokens) := by
    intro rev quote hbyte
    obtain hgo | ⟨hend, htag⟩ := startTagByte_inv hbyte
    · exact .inl hgo
    · obtain ⟨name, attrs, rfl⟩ | ⟨name, attrs, rfl⟩ := startTag_completed htag
      · exact .inr ⟨hend, .start name attrs⟩
      · exact .inr ⟨hend, .empty name attrs⟩
  cases mode with
  | text rev => cases hmode
  | markup =>
    simp only [lex] at h
    split_ifs at h
    · cases h
      exact .inl ⟨rfl, rfl⟩
    · cases h
      exact .inl ⟨rfl, rfl⟩
    · cases h
      exact .inl ⟨rfl, rfl⟩
    · exact hstart h
  | startTag rev quote => exact hstart h
  | endTag rev =>
    simp only [lex] at h
    split_ifs at h
    · obtain ⟨tokens', htag, h⟩ := Option.map_eq_some_iff.mp h
      cases h
      obtain ⟨name, rfl⟩ := endTag_completed htag
      exact .inr ⟨rfl, .stop name⟩
    · cases h
      exact .inl ⟨rfl, rfl⟩
  | cdata rev =>
    simp only [lex] at h
    split_ifs at h
    · obtain ⟨data, -, h⟩ := Option.map_eq_some_iff.mp h
      cases h
      exact .inr ⟨rfl, .text data⟩
    · cases h
      exact .inl ⟨rfl, rfl⟩
  | procInst rev =>
    simp only [lex] at h
    split_ifs at h <;> cases h
    · exact .inr ⟨rfl, .nothing⟩
    · exact .inl ⟨rfl, rfl⟩
  | bang =>
    simp only [lex] at h
    split_ifs at h <;> cases h <;> exact .inl ⟨rfl, rfl⟩
  | dash =>
    simp only [lex] at h
    split_ifs at h
    cases h
    exact .inl ⟨rfl, rfl⟩
  | comment b0 b1 =>
    simp only [lex] at h
    split_ifs at h <;> cases h
    · exact .inr ⟨rfl, .nothing⟩
    · exact .inl ⟨rfl, rfl⟩
  | cdataOpening matched =>
    simp only [lex] at h
    split_ifs at h <;> cases h <;> exact .inl ⟨rfl, rfl⟩
  | directive d =>
    simp only [lex] at h
    split at h <;> cases h
    · exact .inl ⟨rfl, rfl⟩
    · exact .inr ⟨rfl, .nothing⟩

/-- Behind a tag there is text. -/
theorem mode_of_start {name : Name} {attrs : List Attr} {rest : List Token}
    (h : lex tables mode b = some (mode', .startElement name attrs :: rest)) :
    mode' = .text [] := by
  cases hmode : mode.isText with
  | false =>
    obtain ⟨-, htokens⟩ | ⟨hend, -⟩ := lex_markup hmode h
    · cases htokens
    · exact hend
  | true =>
    cases mode with
    | text rev => obtain ⟨-, -, htokens⟩ | ⟨data, -, -, -, htokens⟩ := lex_text h <;> cases htokens
    | _ => cases hmode

theorem lex_completed (h : lex tables mode b = some (mode', tokens)) : Completed tokens := by
  cases hmode : mode.isText with
  | false =>
    obtain ⟨-, rfl⟩ | ⟨-, hcompleted⟩ := lex_markup hmode h
    · exact .nothing
    · exact hcompleted
  | true =>
    cases mode with
    | text rev =>
      obtain ⟨-, -, rfl⟩ | ⟨data, -, -, -, rfl⟩ := lex_text h
      · exact .nothing
      · exact .text data
    | _ => cases hmode

end Completed

-- ---------------------------------------------------------------------------
-- Wherever it stands
-- ---------------------------------------------------------------------------

namespace Content

variable {tables : NameTables} {c c' : Content} {b : UInt8}

theorem feed_within {token : Token} (h : c.feed token = some c') (name : Name) (attrs : List Attr)
    (outer : List Frame) :
    c'.mode = c.mode ∧ (c.within name attrs outer).tree.feed token =
      (c'.within name attrs outer).tree := by
  obtain ⟨mode, stack, children⟩ := c
  cases token with
  | startElement n as =>
    simp only [feed, Option.some.injEq] at h
    subst h
    exact ⟨rfl, rfl⟩
  | charData data =>
    cases stack with
    | nil =>
      simp only [feed, Option.some.injEq] at h
      subst h
      exact ⟨rfl, rfl⟩
    | cons f stack =>
      simp only [feed, Option.some.injEq] at h
      subst h
      exact ⟨rfl, rfl⟩
  | endElement n =>
    cases stack with
    | nil => cases h
    | cons f stack =>
      simp only [feed] at h
      split_ifs at h with hname
      cases stack with
      | nil =>
        simp only [Option.some.injEq] at h
        subst h
        exact ⟨rfl, by simp [within, Tree.feed, hname]⟩
      | cons g stack =>
        simp only [Option.some.injEq] at h
        subst h
        exact ⟨rfl, by simp [within, Tree.feed, hname]⟩

theorem foldlM_feed_within {tokens : List Token} (h : tokens.foldlM feed c = some c')
    (name : Name) (attrs : List Attr) (outer : List Frame) :
    c'.mode = c.mode ∧ tokens.foldl Tree.feed (c.within name attrs outer).tree =
      (c'.within name attrs outer).tree := by
  induction tokens generalizing c with
  | nil =>
    cases h
    exact ⟨rfl, rfl⟩
  | cons token tokens ih =>
    rw [List.foldlM_cons, Option.bind_eq_bind, Option.bind_eq_some_iff] at h
    obtain ⟨c₁, hfeed, h⟩ := h
    obtain ⟨hmode, htree⟩ := feed_within hfeed name attrs outer
    obtain ⟨hmode', htree'⟩ := ih h
    exact ⟨hmode'.trans hmode, by rw [List.foldl_cons, htree, htree']⟩

/-- **One byte of content**, in whatever element. -/
theorem step_within (h : c.step tables b = some c') (name : Name) (attrs : List Attr)
    (outer : List Frame) :
    (c.within name attrs outer).step tables b = c'.within name attrs outer := by
  unfold step at h
  split at h
  · cases h
  · rename_i mode tokens hlex
    obtain ⟨hmode, htree⟩ := foldlM_feed_within h name attrs outer
    simp only [Decoder.step, within, hlex]
    simp only [within] at hmode htree
    rw [htree, hmode]

/-- **Any content**, in whatever element. -/
theorem foldl_within {s : Bytes} (h : s.foldlM (step tables) c = some c') (name : Name)
    (attrs : List Attr) (outer : List Frame) :
    s.foldl (Decoder.step tables) (c.within name attrs outer) = c'.within name attrs outer := by
  induction s generalizing c with
  | nil =>
    cases h
    rfl
  | cons b s ih =>
    rw [List.foldlM_cons, Option.bind_eq_bind, Option.bind_eq_some_iff] at h
    obtain ⟨c₁, hstep, h⟩ := h
    rw [List.foldl_cons, step_within hstep, ih h]

/-- Where the content ends: the decoder fails, or it reads the end tag of the element. -/
theorem step_none (h : c.step tables b = none) (name : Name) (attrs : List Attr)
    (outer : List Frame) :
    ((c.within name attrs outer).step tables b).tree = .failed ∨
      c.mode.isText = false ∧ c.stack = [] ∧
        (c.within name attrs outer).step tables b = ⟨.text [],
          Tree.feed (.reading (⟨name, attrs, c.children⟩ :: outer)) (.endElement name)⟩ := by
  obtain ⟨mode, stack, children⟩ := c
  unfold step at h
  simp only [Decoder.step, within]
  split at h
  · rename_i hlex
    rw [hlex]
    exact .inl rfl
  · rename_i mode' tokens hlex
    rw [hlex]
    cases lex_completed hlex with
    | nothing => cases h
    | text data => cases stack <;> cases h
    | start n as => cases h
    | empty n as =>
      -- an element that ends where it begins is always complete
      cases stack <;> simp [List.foldlM, feed] at h
    | stop n =>
      cases stack with
      | nil =>
        have hmode : mode.isText = false := by
          cases mode with
          | text rev => obtain ⟨-, -, h⟩ | ⟨data, -, -, -, h⟩ := lex_text hlex <;> cases h
          | _ => rfl
        obtain ⟨-, h⟩ | ⟨rfl, -⟩ := lex_markup hmode hlex
        · cases h
        · by_cases hname : name = n
          · subst hname
            exact .inr ⟨hmode, rfl, rfl⟩
          · left
            simp [Tree.feed, hname]
      | cons f stack =>
        left
        by_cases hname : f.name = n
        · cases stack <;> simp [List.foldlM, feed, hname] at h
        · simp [Tree.feed, hname]

end Content

-- ---------------------------------------------------------------------------
-- What the root has stays
-- ---------------------------------------------------------------------------

section Grown

variable {tables : NameTables} {nodes : List Node} {f r : Frame}

/-- The root has these nodes, and perhaps others behind them. -/
inductive Tree.Grown (nodes : List Node) : Tree → Prop
  | reading (inner : List Frame) {r : Frame} (h : nodes <+: r.children) :
    Grown nodes (.reading (inner ++ [r]))
  | closed {r : Frame} (h : nodes <+: r.children) : Grown nodes (.closed r)
  | failed : Grown nodes .failed

theorem Tree.Grown.feed {t : Tree} (h : t.Grown nodes) (token : Token) :
    (t.feed token).Grown nodes := by
  cases h with
  | closed h => exact .closed h
  | failed => exact .failed
  | @reading inner r h =>
    have hmore : ∀ node, nodes <+: r.children ++ [node] := fun node =>
      h.trans (List.prefix_append r.children [node])
    cases token with
    | startElement name attrs => exact .reading (⟨name, attrs, []⟩ :: inner) h
    | charData data =>
      cases inner with
      | nil => exact .reading [] (r := { r with children := _ }) (hmore _)
      | cons x inner =>
        exact .reading ({ x with children := x.children ++ [.text data] } :: inner) h
    | endElement name =>
      cases inner with
      | nil =>
        simp only [List.nil_append, Tree.feed]
        split_ifs
        · exact .closed h
        · exact .failed
      | cons x inner =>
        simp only [List.cons_append, Tree.feed]
        split_ifs
        · cases inner with
          | nil => exact .reading [] (r := { r with children := _ }) (hmore _)
          | cons y inner =>
            exact .reading
              ({ y with children := y.children ++ [.element x.name x.attrs x.children] } :: inner) h
        · exact .failed

theorem Tree.Grown.feed_all {t : Tree} (h : t.Grown nodes) (tokens : List Token) :
    (tokens.foldl Tree.feed t).Grown nodes := by
  induction tokens generalizing t with
  | nil => exact h
  | cons token tokens ih => exact ih (h.feed token)

theorem Decoder.step_grown {d : Decoder} (h : d.tree.Grown nodes) (b : UInt8) :
    (d.step tables b).tree.Grown nodes := by
  unfold Decoder.step
  split
  · split
    · exact .failed
    · exact h.feed_all _
  · exact h

theorem Decoder.foldl_grown {d : Decoder} (h : d.tree.Grown nodes) (s : Bytes) :
    (s.foldl (step tables) d).tree.Grown nodes := by
  induction s generalizing d with
  | nil => exact h
  | cons b s ih => exact ih (step_grown h b)

/-- **The root only gains children.** -/
theorem prefix_of_closed {mode : Mode} (inner : List Frame) {s : Bytes}
    (h : (s.foldl (Decoder.step tables) ⟨mode, .reading (inner ++ [r])⟩).tree = .closed f) :
    r.children <+: f.children := by
  have hroot : (Tree.reading (inner ++ [r])).Grown r.children :=
    .reading inner (List.prefix_refl r.children)
  have hgrown : (s.foldl (Decoder.step tables) ⟨mode, .reading (inner ++ [r])⟩).tree.Grown
      r.children := Decoder.foldl_grown hroot s
  rw [h] at hgrown
  cases hgrown with
  | closed hprefix => exact hprefix

end Grown

-- ---------------------------------------------------------------------------
-- What is kept is the content
-- ---------------------------------------------------------------------------

section Kept

variable {tables : NameTables} {f r : Frame}

/-- Content as it was when its last token, which is markup, began. -/
def AtMarkup (tables : NameTables) (c : Content) (offset : Bytes) : Prop :=
  c.mode.isText = false → c.stack = [] → content tables offset.reverse = some c.children

theorem AtMarkup.step {c c' : Content} {saved offset : Bytes} {b : UInt8}
    (hsaved : saved.reverse.foldlM (Content.step tables) .empty = some c)
    (h : AtMarkup tables c offset) (hstep : c.step tables b = some c') :
    AtMarkup tables c' (if c.mode.isText = true then saved else offset) := by
  intro hmode hstack
  obtain ⟨mode, stack, children⟩ := c
  unfold Content.step at hstep
  split at hstep
  · cases hstep
  · rename_i mode' tokens hlex
    have hmode' : mode'.isText = false := by
      rw [(Content.foldlM_feed_within hstep ⟨[], []⟩ [] []).1] at hmode
      exact hmode
    cases htext : mode.isText with
    | false =>
      -- the markup goes on
      obtain ⟨-, rfl⟩ | ⟨rfl, -⟩ := lex_markup htext hlex
      · cases hstep
        exact h htext hstack
      · cases hmode'
    | true =>
      cases mode with
      | text rev =>
        obtain ⟨-, rfl, -⟩ | ⟨data, rfl, rfl, hdata, rfl⟩ := lex_text hlex
        · cases hmode'
        · -- the markup begins, behind the text that has been read
          cases stack with
          | nil =>
            cases hstep
            simp [content, Content.finish, hsaved, hdata]
          | cons f stack =>
            cases hstep
            cases hstack
      | _ => cases htext

theorem foldl_closed {d : Decoder} (h : d.tree = .closed f) (s : Bytes) :
    s.foldl (Decoder.step tables) d = d := by
  induction s with
  | nil => rfl
  | cons b s ih =>
    rw [List.foldl_cons]
    unfold Decoder.step
    rw [h]
    exact ih

/-- A document that cannot be read has no root. -/
theorem foldl_ne_closed {d : Decoder} (h : d.tree = .failed) (s : Bytes) :
    (s.foldl (Decoder.step tables) d).tree ≠ .closed f := by
  rw [Decoder.foldl_failed h, h]
  exact Tree.noConfusion

theorem Decoder.step_lex_none {mode : Mode} {stack : List Frame} {b : UInt8}
    (h : lex tables mode b = none) :
    (Decoder.step tables ⟨mode, .reading stack⟩ b).tree = .failed := by
  simp only [Decoder.step, h]

/-- Besides the root, another element is open. -/
theorem within_ne_reading (c : Content) (name : Name) (attrs : List Attr) (g : Frame) :
    (c.within name attrs [r]).tree ≠ .reading [g] := by
  intro h
  have hlength := congrArg List.length (Tree.reading.inj h)
  simp at hlength

/-- **`innerxml`.** What is kept of a child of the root is its content. -/
theorem innerXML_content {c : Content} {saved offset : Bytes} (s : Bytes) {name : Name}
    {attrs : List Attr} (hsaved : saved.reverse.foldlM (Content.step tables) .empty = some c)
    (hmarkup : AtMarkup tables c offset)
    (hclosed : (s.foldl (Decoder.step tables) (c.within name attrs [r])).tree = .closed f) :
    ∃ children, r.children ++ [.element name attrs children] <+: f.children ∧
      content tables (innerXML tables (c.within name attrs [r]) saved offset s) =
        some children := by
  induction s generalizing c saved offset with
  | nil =>
    obtain ⟨mode, stack, children⟩ := c
    cases hclosed
  | cons b s ih =>
    rw [List.foldl_cons] at hclosed
    cases hstep : c.step tables b with
    | some c' =>
      rw [Content.step_within hstep] at hclosed
      have hsaved' : (b :: saved).reverse.foldlM (Content.step tables) .empty = some c' := by
        rw [List.reverse_cons, List.foldlM_append, hsaved]
        simp [hstep]
      obtain ⟨children, hchildren, hcontent⟩ :=
        ih hsaved' (hmarkup.step hsaved hstep) hclosed
      refine ⟨children, hchildren, ?_⟩
      rw [innerXML, Content.step_within hstep]
      split
      · rename_i g hone
        exact absurd hone (within_ne_reading c' name attrs g)
      · exact hcontent
    | none =>
      obtain hfailed | ⟨hmode, hstack, hend⟩ := Content.step_none hstep name attrs [r]
      · exact absurd hclosed (foldl_ne_closed hfailed s)
      · rw [hend] at hclosed
        simp only [Tree.feed, if_true] at hclosed
        refine ⟨c.children, prefix_of_closed [] hclosed, ?_⟩
        have hmode' : (c.within name attrs [r]).mode.isText = false := hmode
        simp only [innerXML, hmode', hend, Tree.feed, if_true, Bool.false_eq_true, if_false]
        exact hmarkup hmode hstack

/-- A text that is the content of an element, but for text of no characters. -/
def IsContentOf (tables : NameTables) (raw : Bytes) (e : Frame) : Prop :=
  (content tables raw).map visible = some (visible e.children)

theorem isContentOf_nil (name : Name) (attrs : List Attr) :
    IsContentOf tables [] ⟨name, attrs, []⟩ := rfl

theorem Decoder.step_lex {mode mode' : Mode} {stack : List Frame} {b : UInt8}
    {tokens : List Token} (h : lex tables mode b = some (mode', tokens)) :
    Decoder.step tables ⟨mode, .reading stack⟩ b =
      ⟨mode', tokens.foldl Tree.feed (.reading stack)⟩ := by
  simp only [Decoder.step, h]

theorem childTag_eq_none {d : Decoder} (h : ∀ g, d.tree ≠ .reading [g]) (b : UInt8) :
    childTag tables d b = none := by
  unfold childTag
  split
  · rename_i htree _
    exact absurd htree (h _)
  · rename_i htree _
    exact absurd htree (h _)
  · rfl

theorem innerXMLs_step {d : Decoder} {b : UInt8} (h : childTag tables d b = none) (name : Bytes)
    (s : Bytes) :
    innerXMLs tables name d (b :: s) = innerXMLs tables name (d.step tables b) s := by
  rw [innerXMLs, h]

theorem innerXMLs_closed {d : Decoder} (h : d.tree = .closed f) (name s : Bytes) :
    innerXMLs tables name d s = [] := by
  induction s with
  | nil => rfl
  | cons b s ih =>
    have hnone : childTag tables d b = none := childTag_eq_none (by simp [h]) b
    have hstay : d.step tables b = d := by
      unfold Decoder.step
      rw [h]
    rw [innerXMLs_step hnone, hstay, ih]

theorem named_cons_pos {name : Bytes} {child : Name} (h : child.localName = name)
    (attrs : List Attr) (children nodes : List Node) :
    named name (.element child attrs children :: nodes) =
      ⟨child, attrs, children⟩ :: named name nodes := by
  simp [named, h]

theorem named_cons_neg {name : Bytes} {child : Name} (h : child.localName ≠ name)
    (attrs : List Attr) (children nodes : List Node) :
    named name (.element child attrs children :: nodes) = named name nodes := by
  simp [named, h]

/-- What is kept of the children that begin in a text, if it is read from the text of the root. -/
def KeptFromRoot (tables : NameTables) (name s : Bytes) : Prop :=
  ∀ mode r f, (s.foldl (Decoder.step tables) ⟨mode, .reading [r]⟩).tree = .closed f →
    ∃ more, f.children = r.children ++ more ∧
      List.Forall₂ (IsContentOf tables) (innerXMLs tables name ⟨mode, .reading [r]⟩ s)
        (named name more)

/-- The same, if it is read from the content of a child. -/
def KeptFromChild (tables : NameTables) (name s : Bytes) : Prop :=
  ∀ (c : Content) child attrs r f,
    (s.foldl (Decoder.step tables) (c.within child attrs [r])).tree = .closed f →
    ∃ children more, f.children = r.children ++ .element child attrs children :: more ∧
      List.Forall₂ (IsContentOf tables) (innerXMLs tables name (c.within child attrs [r]) s)
        (named name more)

theorem keptFromChild_cons {name s : Bytes} (hroot : KeptFromRoot tables name s)
    (hchild : KeptFromChild tables name s) (b : UInt8) : KeptFromChild tables name (b :: s) := by
  intro c child attrs r f h
  rw [List.foldl_cons] at h
  have hnone : childTag tables (c.within child attrs [r]) b = none :=
    childTag_eq_none (within_ne_reading c child attrs) b
  rw [innerXMLs_step hnone]
  cases hstep : c.step tables b with
  | some c' =>
    rw [Content.step_within hstep] at h ⊢
    exact hchild c' child attrs r f h
  | none =>
    obtain hfailed | ⟨-, -, hend⟩ := Content.step_none hstep child attrs [r]
    · exact absurd h (foldl_ne_closed hfailed s)
    · -- the child ends, and the root is read on
      simp only [Tree.feed, if_true] at hend
      rw [hend] at h ⊢
      obtain ⟨more, hmore, hkept⟩ := hroot _ _ f h
      exact ⟨c.children, more, by rw [hmore, List.append_assoc, List.singleton_append], hkept⟩

/-- A child that begins here. -/
theorem kept_of_start {name s : Bytes} (hchild : KeptFromChild tables name s) {d : Decoder}
    {b : UInt8} {child : Name} {attrs : List Attr}
    (hstep : d.step tables b = Content.empty.within child attrs [r])
    (htag : childTag tables d b = some (child, false))
    (h : (s.foldl (Decoder.step tables) (Content.empty.within child attrs [r])).tree = .closed f) :
    ∃ more, f.children = r.children ++ more ∧
      List.Forall₂ (IsContentOf tables) (innerXMLs tables name d (b :: s)) (named name more) := by
  obtain ⟨children, more, hmore, hkept⟩ := hchild _ _ _ _ f h
  have hmarkup : AtMarkup tables .empty [] := fun hmode => (by cases hmode)
  have hsaved : ([] : Bytes).reverse.foldlM (Content.step tables) .empty = some .empty := rfl
  obtain ⟨children', hprefix, hcontent⟩ := innerXML_content s hsaved hmarkup h
  rw [hmore, List.prefix_append_right_inj, List.singleton_prefix_cons_iff] at hprefix
  cases hprefix
  refine ⟨.element child attrs children :: more, hmore, ?_⟩
  rw [innerXMLs, htag]
  dsimp only
  rw [hstep]
  by_cases hname : child.localName = name
  · rw [if_pos hname, named_cons_pos hname attrs children more]
    refine .cons ?_ hkept
    simp [IsContentOf, hcontent]
  · rw [if_neg hname, named_cons_neg hname attrs children more]
    exact hkept

theorem keptFromRoot_cons {name s : Bytes} (hroot : KeptFromRoot tables name s)
    (hchild : KeptFromChild tables name s) (b : UInt8) : KeptFromRoot tables name (b :: s) := by
  intro mode r f h
  rw [List.foldl_cons] at h
  cases hlex : lex tables mode b with
  | none => exact absurd h (foldl_ne_closed (Decoder.step_lex_none hlex) s)
  | some result =>
    obtain ⟨mode', tokens⟩ := result
    have hstep : Decoder.step tables ⟨mode, .reading [r]⟩ b =
        ⟨mode', tokens.foldl Tree.feed (.reading [r])⟩ := Decoder.step_lex hlex
    rw [hstep] at h
    cases lex_completed hlex with
    | nothing =>
      obtain ⟨more, hmore, hkept⟩ := hroot mode' r f h
      refine ⟨more, hmore, ?_⟩
      rw [innerXMLs_step (by simp [childTag, hlex]), hstep]
      exact hkept
    | text data =>
      obtain ⟨more, hmore, hkept⟩ := hroot mode' _ f h
      refine ⟨.text data :: more, by rw [hmore, List.append_assoc, List.singleton_append], ?_⟩
      rw [innerXMLs_step (by simp [childTag, hlex]), hstep]
      exact hkept
    | start child attrs =>
      have hmode : mode' = .text [] := mode_of_start hlex
      subst hmode
      exact kept_of_start hchild hstep (by simp [childTag, hlex]) h
    | empty child attrs =>
      simp only [List.foldl_cons, List.foldl_nil, Tree.feed, if_true] at h hstep
      obtain ⟨more, hmore, hkept⟩ := hroot mode' _ f h
      refine ⟨.element child attrs [] :: more, ?_, ?_⟩
      · rw [hmore, List.append_assoc, List.singleton_append]
      · rw [innerXMLs, show childTag tables ⟨mode, .reading [r]⟩ b = some (child, true) from
          by simp [childTag, hlex]]
        dsimp only
        rw [hstep]
        by_cases hname : child.localName = name
        · rw [if_pos hname, named_cons_pos hname]
          exact .cons (isContentOf_nil child attrs) hkept
        · rw [if_neg hname, named_cons_neg hname]
          exact hkept
    | stop n =>
      rw [innerXMLs_step (by simp [childTag, hlex])]
      simp only [List.foldl_cons, List.foldl_nil, Tree.feed] at h hstep
      split_ifs at h hstep with hname
      · rw [foldl_closed rfl] at h
        cases h
        refine ⟨[], (List.append_nil _).symm, ?_⟩
        rw [hstep, innerXMLs_closed rfl]
        exact .nil
      · exact absurd h (foldl_ne_closed rfl s)

theorem kept (name s : Bytes) : KeptFromRoot tables name s ∧ KeptFromChild tables name s := by
  induction s with
  | nil =>
    constructor
    · intro mode r f h
      cases h
    · intro c child attrs r f h
      cases h
  | cons b s ih => exact ⟨keptFromRoot_cons ih.1 ih.2 b, keptFromChild_cons ih.1 ih.2 b⟩

/-- Before the root begins. -/
theorem kept_before {name s : Bytes} {mode : Mode}
    (h : (s.foldl (Decoder.step tables) ⟨mode, .reading []⟩).tree = .closed f) :
    List.Forall₂ (IsContentOf tables) (innerXMLs tables name ⟨mode, .reading []⟩ s)
      (named name f.children) := by
  induction s generalizing mode with
  | nil => cases h
  | cons b s ih =>
    rw [innerXMLs_step (childTag_eq_none (by simp) b)]
    rw [List.foldl_cons] at h
    cases hlex : lex tables mode b with
    | none => exact absurd h (foldl_ne_closed (Decoder.step_lex_none hlex) s)
    | some result =>
      obtain ⟨mode', tokens⟩ := result
      rw [Decoder.step_lex hlex] at h ⊢
      cases lex_completed hlex with
      | nothing => exact ih h
      | text data => exact ih h
      | start child attrs =>
        obtain ⟨more, hmore, hkept⟩ := (kept name s).1 _ _ _ h
        rw [hmore]
        exact hkept
      | empty child attrs =>
        simp only [List.foldl_cons, List.foldl_nil, Tree.feed, if_true] at h ⊢
        rw [foldl_closed rfl] at h
        cases h
        rw [innerXMLs_closed rfl]
        exact .nil
      | stop n =>
        simp only [List.foldl_cons, List.foldl_nil, Tree.feed] at h
        exact absurd h (foldl_ne_closed rfl s)

/-- **`innerxml` of a field.** What is kept of the children of this name is their content, one text
for each. -/
theorem innerXMLs_content {s : Bytes} (name : Bytes) (h : root tables s = some f) :
    List.Forall₂ (IsContentOf tables) (innerXMLs tables name ⟨.text [], .reading []⟩ s)
      (named name f.children) :=
  kept_before (tree_of_root h)

end Kept

end Ggid.Go.Xml
