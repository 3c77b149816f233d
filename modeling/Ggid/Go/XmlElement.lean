import Ggid.Go.XmlContent
import Mathlib.Data.List.TakeWhile

/-!
# XML documents put together from a tag and content

A document that begins with `<`, some text and `>` has that text as its first tag, if the text
leaves no quote open (`root_tag`). With content behind it and an end tag it is an element with that
content (`root_element`). With a quote left open the tag can end only in the content, in front of
its first markup, and then less is left of the content (`content_ne_behind`).
-/

namespace Ggid.Go.Xml

-- ---------------------------------------------------------------------------
-- Quotes in tags
-- ---------------------------------------------------------------------------

/-- The quote that is open in a tag, behind a byte. -/
def quoteByte (quote : Option UInt8) (b : UInt8) : Option UInt8 :=
  match quote with
  | some q => if b = q then none else some q
  | none => if b = ch '"' ∨ b = ch '\'' then some b else none

/-- The quote that a tag leaves open. -/
def openQuote (s : Bytes) : Option UInt8 := s.foldl quoteByte none

/-- Text that does not end a tag: it has `>` only in quotes. -/
def Unended : Option UInt8 → Bytes → Prop
  | _, [] => True
  | quote, b :: s => (quote = none → b ≠ ch '>') ∧ Unended (quoteByte quote b) s

theorem Unended.of_not_mem {s : Bytes} (h : ch '>' ∉ s) (quote : Option UInt8) :
    Unended quote s := by
  induction s generalizing quote with
  | nil => trivial
  | cons b s ih =>
    rw [List.mem_cons, not_or] at h
    exact ⟨fun _ => Ne.symm h.1, ih h.2 _⟩

theorem Unended.append {s s' : Bytes} {quote : Option UInt8} (h : Unended quote s)
    (h' : Unended (s.foldl quoteByte quote) s') : Unended quote (s ++ s') := by
  induction s generalizing quote with
  | nil => exact h'
  | cons b s ih => exact ⟨h.1, ih h.2 h'⟩

/-- A text does not end a tag, or it does at the first `>` outside quotes. -/
theorem unended_or_ends (quote : Option UInt8) (s : Bytes) :
    Unended quote s ∨ ∃ before after, s = before ++ ch '>' :: after ∧ Unended quote before ∧
      before.foldl quoteByte quote = none := by
  induction s generalizing quote with
  | nil => exact .inl trivial
  | cons b s ih =>
    by_cases hend : quote = none ∧ b = ch '>'
    · obtain ⟨rfl, rfl⟩ := hend
      exact .inr ⟨[], s, rfl, trivial, rfl⟩
    · have hgo : quote = none → b ≠ ch '>' := fun hquote hb => hend ⟨hquote, hb⟩
      obtain hrest | ⟨before, after, rfl, hbefore, hquote⟩ := ih (quoteByte quote b)
      · exact .inl ⟨hgo, hrest⟩
      · exact .inr ⟨b :: before, after, rfl, ⟨hgo, hbefore⟩, hquote⟩

-- ---------------------------------------------------------------------------
-- The first tag of a document
-- ---------------------------------------------------------------------------

/-- Behind a `<` it is no end tag, and no other markup. -/
def OpensTag (s : Bytes) : Prop :=
  ∃ b rest, s = b :: rest ∧ b ≠ ch '/' ∧ b ≠ ch '?' ∧ b ≠ ch '!'

/-- The root, if it has ended. -/
def Tree.root : Tree → Option Frame
  | .closed f => some f
  | _ => none

section Tag

variable {tables : NameTables}

theorem root_eq (s : Bytes) : root tables s = (Decoder.read tables s).tree.root := by
  unfold root Tree.root
  split <;> simp_all

theorem startTagByte_unended {rev : Bytes} {quote : Option UInt8} {b : UInt8}
    (h : quote = none → b ≠ ch '>') :
    startTagByte tables rev quote b = some (.startTag (b :: rev) (quoteByte quote b), []) := by
  cases quote with
  | none =>
    simp only [startTagByte, quoteByte]
    rw [if_neg (h rfl)]
  | some q => rfl

theorem foldl_tag {s : Bytes} {quote : Option UInt8} (h : Unended quote s) (rev : Bytes)
    (stack : List Frame) :
    s.foldl (Decoder.step tables) ⟨.startTag rev quote, .reading stack⟩ =
      ⟨.startTag (s.reverse ++ rev) (s.foldl quoteByte quote), .reading stack⟩ := by
  induction s generalizing quote rev with
  | nil => rfl
  | cons b s ih =>
    have hlex : lex tables (.startTag rev quote) b =
        some (.startTag (b :: rev) (quoteByte quote b), []) := startTagByte_unended h.1
    rw [List.foldl_cons, Decoder.step_lex hlex, List.foldl_nil, ih h.2, List.reverse_cons,
      List.append_assoc, List.singleton_append, List.foldl_cons]

variable {tag : Bytes} (hstart : OpensTag tag) (h : Unended none tag)
include hstart h

theorem read_tag : Decoder.read tables (ch '<' :: tag) =
    ⟨.startTag tag.reverse (openQuote tag), .reading []⟩ := by
  obtain ⟨b, rest, rfl, hb⟩ := hstart
  have hopen : Decoder.step tables ⟨.text [], .reading []⟩ (ch '<') = ⟨.markup, .reading []⟩ := rfl
  have hfirst : lex tables .markup b = some (.startTag [b] (quoteByte none b), []) := by
    simp only [lex, hb, if_false]
    exact startTagByte_unended h.1
  rw [Decoder.read, List.foldl_cons, hopen, List.foldl_cons, Decoder.step_lex hfirst,
    List.reverse_cons]
  exact foldl_tag h.2 [b] []

/-- A tag that does not end. -/
theorem root_unended : root tables (ch '<' :: tag) = none := by
  rw [root_eq, read_tag hstart h]
  rfl

/-- **A tag that ends**: the document is read on behind it. -/
theorem root_tag (hquote : openQuote tag = none) (rest : Bytes) :
    root tables (ch '<' :: tag ++ ch '>' :: rest) =
      (startTag tables tag).bind fun tokens =>
        (rest.foldl (Decoder.step tables)
          ⟨.text [], tokens.foldl Tree.feed (.reading [])⟩).tree.root := by
  rw [root_eq, Decoder.read_append, read_tag hstart h, hquote, List.foldl_cons]
  cases htag : startTag tables tag with
  | none =>
    have hfailed : (Decoder.step tables ⟨.startTag tag.reverse none, .reading []⟩
        (ch '>')).tree = .failed := by
      simp [Decoder.step, lex, startTagByte, htag]
    rw [Decoder.foldl_failed hfailed, hfailed]
    rfl
  | some tokens =>
    have hlex : lex tables (.startTag tag.reverse none) (ch '>') = some (.text [], tokens) := by
      simp [lex, startTagByte, htag]
    rw [Decoder.step_lex hlex]
    rfl

end Tag

-- ---------------------------------------------------------------------------
-- Content and an end tag
-- ---------------------------------------------------------------------------

section Element

variable {tables : NameTables} {name : Name} {attrs : List Attr} {children : List Node}

theorem foldl_endTag {stop : Bytes} (hstop : ch '>' ∉ stop) (rev : Bytes) (stack : List Frame) :
    stop.foldl (Decoder.step tables) ⟨.endTag rev, .reading stack⟩ =
      ⟨.endTag (stop.reverse ++ rev), .reading stack⟩ := by
  induction stop generalizing rev with
  | nil => rfl
  | cons b stop ih =>
    rw [List.mem_cons, not_or] at hstop
    have hlex : lex tables (.endTag rev) b = some (.endTag (b :: rev), []) := by
      simp only [lex]
      rw [if_neg (Ne.symm hstop.1)]
    rw [List.foldl_cons, Decoder.step_lex hlex, List.foldl_nil, ih hstop.2, List.reverse_cons,
      List.append_assoc, List.singleton_append]

/-- **Content and an end tag** make an element, if the end tag is its own. -/
theorem root_content {raw stop : Bytes} (hraw : content tables raw = some children)
    (hstop : ch '>' ∉ stop) {last : Name} (htag : endTag tables stop = some [.endElement last]) :
    ((raw ++ ch '<' :: ch '/' :: stop ++ [ch '>']).foldl (Decoder.step tables)
        ⟨.text [], .reading [⟨name, attrs, []⟩]⟩).tree.root =
      if name = last then some ⟨name, attrs, children⟩ else none := by
  unfold content at hraw
  obtain ⟨⟨mode, stack, nodes⟩, hread, hfinish⟩ := Option.bind_eq_some_iff.mp hraw
  have hwithin : raw.foldl (Decoder.step tables) ⟨.text [], .reading [⟨name, attrs, []⟩]⟩ =
      Content.within ⟨mode, stack, nodes⟩ name attrs [] := Content.foldl_within hread name attrs []
  unfold Content.finish at hfinish
  split at hfinish
  · rename_i rev hmode hstack
    obtain ⟨data, hdata, rfl⟩ := Option.map_eq_some_iff.mp hfinish
    dsimp only at hmode hstack
    subst hmode hstack
    have hlt : lex tables (.text rev) (ch '<') = some (.markup, [.charData data]) := by
      simp [lex, hdata]
    have hslash : lex tables .markup (ch '/') = some (.endTag [], []) := by simp [lex]
    have hgt : lex tables (.endTag stop.reverse) (ch '>') =
        some (.text [], [.endElement last]) := by
      simp [lex, htag]
    rw [List.append_assoc, List.foldl_append, hwithin]
    simp only [Content.within, List.nil_append, List.cons_append, List.foldl_cons,
      Decoder.step_lex hlt, List.foldl_nil, Tree.feed, Decoder.step_lex hslash, List.foldl_append,
      foldl_endTag hstop, List.append_nil, Decoder.step_lex hgt]
    split_ifs <;> rfl
  · cases hfinish

/-- What comes behind an element does not matter. -/
theorem root_empty (rest : Bytes) :
    (rest.foldl (Decoder.step tables) ⟨.text [],
      [.startElement name attrs, .endElement name].foldl Tree.feed (.reading [])⟩).tree.root =
        some ⟨name, attrs, []⟩ := by
  simp only [List.foldl_cons, List.foldl_nil, Tree.feed, if_true]
  rw [foldl_closed rfl]
  rfl

end Element

-- ---------------------------------------------------------------------------
-- Text with a `>` in it
-- ---------------------------------------------------------------------------

section Greater

theorem readReference_eq_none {base : Nat} {s : Bytes} {b : UInt8} (hb : b ∈ s)
    (hdigit : hexValue b = none) : readReference base s = none := by
  obtain ⟨before, after, rfl⟩ := List.append_of_mem hb
  have hnone : ∀ s : Bytes, s.foldl (fun n b => do
      let d ← hexValue b
      if d < base then return (← n) * base + d else none) (none : Option Nat) = none := by
    intro s
    induction s with
    | nil => rfl
    | cons c s ih =>
      rw [List.foldl_cons]
      cases hexValue c with
      | none => exact ih
      | some d =>
        by_cases hd : d < base
        · simpa [hd] using ih
        · simpa [hd] using ih
  unfold readReference
  rw [if_neg (by simp), List.foldl_append, List.foldl_cons, hdigit]
  exact hnone after

/-- No reference has a `>` in its name. -/
theorem entity_eq_none {name : Bytes} (h : ch '>' ∈ name) : entity name = none := by
  have hnumber : ∀ (base : Nat) (mark : Bytes), ch '>' ∉ mark → mark.isPrefixOf name = true →
      readReference base (name.drop mark.length) = none := by
    intro base mark hmark hprefix
    obtain ⟨digits, rfl⟩ := List.isPrefixOf_iff_prefix.mp hprefix
    rw [List.drop_left]
    exact readReference_eq_none ((List.mem_append.mp h).resolve_left hmark) (by decide)
  have hne : ∀ s : Bytes, ch '>' ∉ s → name ≠ s := fun s hs hname => hs (hname ▸ h)
  unfold entity
  dsimp only
  split_ifs with hhex hdecimal hlt hgt hamp hapos hquot
  · rw [show name.drop 2 = name.drop (ascii "#x").length from rfl,
      hnumber 16 (ascii "#x") (by decide) hhex]
    rfl
  · rw [show name.drop 1 = name.drop (ascii "#").length from rfl,
      hnumber 10 (ascii "#") (by decide) hdecimal]
    rfl
  · exact absurd hlt (hne _ (by decide))
  · exact absurd hgt (hne _ (by decide))
  · exact absurd hamp (hne _ (by decide))
  · exact absurd hapos (hne _ (by decide))
  · exact absurd hquot (hne _ (by decide))
  · rfl

theorem expand_name_gt {name : Bytes} (h : ch '>' ∈ name) (s : Bytes) :
    expand (some name) s = none := by
  induction s generalizing name with
  | nil => rfl
  | cons b s ih =>
    rw [expand]
    split_ifs
    · rw [entity_eq_none (List.mem_reverse.mpr h)]
      rfl
    · exact ih (List.mem_cons_of_mem b h)

/-- A `>` in a text stays, and what follows it is resolved by itself. -/
theorem expand_gt {x y text : Bytes} {reference : Option Bytes}
    (h : expand reference (x ++ ch '>' :: y) = some text) :
    ∃ before after, text = before ++ ch '>' :: after ∧ expand none y = some after := by
  induction x generalizing reference text with
  | nil =>
    cases reference with
    | none =>
      rw [List.nil_append, expand, if_neg (by decide)] at h
      obtain ⟨after, hafter, rfl⟩ := Option.map_eq_some_iff.mp h
      exact ⟨[], after, rfl, hafter⟩
    | some name =>
      rw [List.nil_append, expand, if_neg (by decide), expand_name_gt List.mem_cons_self] at h
      cases h
  | cons b x ih =>
    cases reference with
    | none =>
      rw [List.cons_append, expand] at h
      split_ifs at h
      · exact ih h
      · obtain ⟨rest, hrest, rfl⟩ := Option.map_eq_some_iff.mp h
        obtain ⟨before, after, rfl, hafter⟩ := ih hrest
        exact ⟨b :: before, after, rfl, hafter⟩
    | some name =>
      rw [List.cons_append, expand] at h
      split_ifs at h
      · simp only [Option.bind_eq_bind, Option.bind_eq_some_iff, Option.pure_def,
          Option.some.injEq] at h
        obtain ⟨value, -, rest, hrest, rfl⟩ := h
        obtain ⟨before, after, rfl, hafter⟩ := ih hrest
        exact ⟨value ++ before, after, by rw [List.append_assoc], hafter⟩
      · exact ih h

theorem newlines_gt (cr : Bool) (x y : Bytes) :
    ∃ x', newlines cr (x ++ ch '>' :: y) = x' ++ ch '>' :: newlines false y := by
  induction x generalizing cr with
  | nil =>
    have hbreak : ¬ (cr = true ∧ ch '>' = 10) := fun h => absurd h.2 (by decide)
    refine ⟨[], ?_⟩
    rw [List.nil_append, newlines, if_neg (by decide), if_neg hbreak]
    rfl
  | cons b x ih =>
    rw [List.cons_append, newlines]
    split_ifs
    · obtain ⟨x', hx⟩ := ih true
      exact ⟨10 :: x', by rw [hx]; rfl⟩
    · exact ih false
    · obtain ⟨x', hx⟩ := ih false
      exact ⟨b :: x', by rw [hx]; rfl⟩

theorem expand_of_charData {s text : Bytes} (h : charData s = some text) :
    expand none (newlines false s) = some text := by
  unfold charData at h
  split_ifs at h
  obtain ⟨expanded, hexpand, hchecked⟩ := Option.bind_eq_some_iff.mp h
  unfold checked at hchecked
  split at hchecked
  · split_ifs at hchecked
    rw [hexpand, Option.some.inj hchecked]
  · cases hchecked

/-- **Text with a `>`** has the text behind it in it, and more. -/
theorem charData_gt {x y text : Bytes} (h : charData (x ++ ch '>' :: y) = some text) :
    text ≠ [] ∧ ∀ text', charData y = some text' → text'.length < text.length := by
  obtain ⟨x', hx⟩ := newlines_gt false x y
  have hexpand := expand_of_charData h
  rw [hx] at hexpand
  obtain ⟨before, after, rfl, hafter⟩ := expand_gt hexpand
  refine ⟨by simp, ?_⟩
  intro text' htext'
  rw [expand_of_charData htext', Option.some.injEq] at hafter
  rw [hafter, List.length_append, List.length_cons]
  omega

end Greater

-- ---------------------------------------------------------------------------
-- A tag that goes on in the content
-- ---------------------------------------------------------------------------

section Behind

variable {tables : NameTables}

theorem mem_dropWhile {s : Bytes} {b : UInt8} {p : UInt8 → Bool} (hb : b ∈ s)
    (hp : p b = false) : b ∈ s.dropWhile p := by
  rw [← List.takeWhile_append_dropWhile (p := p) (l := s), List.mem_append] at hb
  refine hb.resolve_left fun htake => ?_
  rw [List.mem_takeWhile_imp htake] at hp
  cases hp

theorem nsname_lt {s rest : Bytes} {name : Name} (h : nsname tables s = some (name, rest))
    (hlt : ch '<' ∈ s) : ch '<' ∈ rest := by
  unfold nsname at h
  dsimp only at h
  split_ifs at h
  cases h
  exact mem_dropWhile hlt (by decide)

/-- A value has no `<` in it. -/
theorem attrValue_lt {s value : Bytes} (h : attrValue s = some value) : ch '<' ∉ s := by
  unfold attrValue at h
  split_ifs at h with hlt
  simpa using hlt

/-- Neither has the quote behind it. -/
theorem quoted_lt {q c : UInt8} {s rest value : Bytes} (hq : ch '<' ≠ q)
    (hrest : s.dropWhile (· ≠ q) = c :: rest)
    (hvalue : attrValue (s.takeWhile (· ≠ q)) = some value) (hlt : ch '<' ∈ s) : ch '<' ∈ rest := by
  rw [← List.takeWhile_append_dropWhile (p := (· ≠ q)) (l := s), List.mem_append, hrest] at hlt
  have hlt := hlt.resolve_left (attrValue_lt hvalue)
  have hc : c = q := by
    have hhead := List.head?_dropWhile_not (· ≠ q) s
    rw [hrest] at hhead
    simpa using hhead
  rw [hc] at hlt
  exact (List.mem_cons.mp hlt).resolve_left hq

theorem readAttrs_lt {n : Nat} {s : Bytes} {attrs : List Attr}
    (h : readAttrs tables n s = some attrs) : ch '<' ∉ s := by
  induction n generalizing s attrs with
  | zero => cases h
  | succ n ih =>
    intro hlt
    have hlt := mem_dropWhile (p := isSpace) hlt (by decide)
    unfold readAttrs at h
    dsimp only at h
    split_ifs at h with hnil
    · rw [hnil] at hlt
      cases hlt
    · simp only [Option.bind_eq_bind, Option.bind_eq_some_iff] at h
      obtain ⟨⟨name, rest⟩, hname, h⟩ := h
      have hlt := mem_dropWhile (p := isSpace) (nsname_lt hname hlt) (by decide)
      dsimp only at h
      split at h
      · cases h
      · rename_i b s₁ heq
        rw [heq] at hlt
        split_ifs at h with hequals
        have hlt : ch '<' ∈ s₁ := (List.mem_cons.mp hlt).resolve_left fun hb => by
          rw [← hb] at hequals
          exact hequals (by decide)
        have hlt := mem_dropWhile (p := isSpace) hlt (by decide)
        split at h
        · cases h
        · rename_i q s₂ hquoted
          rw [hquoted] at hlt
          split_ifs at h with hquote
          have hq : ch '<' ≠ q := fun hq => by
            rw [← hq] at hquote
            exact hquote (by decide)
          have hlt : ch '<' ∈ s₂ := (List.mem_cons.mp hlt).resolve_left hq
          split at h
          · cases h
          · rename_i c s₃ hvalue
            simp only [Option.bind_eq_some_iff] at h
            obtain ⟨value, hattr, attrs', hattrs, -⟩ := h
            exact ih hattrs (quoted_lt hq hvalue hattr hlt)

/-- **No tag** has a `<` in it. -/
theorem startTag_lt {s : Bytes} {tokens : List Token} (h : startTag tables s = some tokens) :
    ch '<' ∉ s := by
  intro hlt
  simp only [startTag, Option.bind_eq_bind, Option.bind_eq_some_iff] at h
  obtain ⟨⟨name, rest⟩, hname, attrs, hattrs, -⟩ := h
  refine readAttrs_lt hattrs (nsname_lt hname ?_)
  split_ifs with hempty
  · -- a slash at the end
    rw [← List.dropLast_append_getLast? (ch '/') hempty, List.mem_append] at hlt
    exact hlt.resolve_right (by decide)
  · exact hlt

end Behind

-- ---------------------------------------------------------------------------
-- Content that begins with text
-- ---------------------------------------------------------------------------

section Leading

variable {tables : NameTables}

/-- Behind other children. -/
def Content.behind (nodes : List Node) (c : Content) : Content :=
  { c with children := nodes ++ c.children }

theorem Content.feed_behind (nodes : List Node) (c : Content) (token : Token) :
    (c.behind nodes).feed token = (c.feed token).map (behind nodes) := by
  obtain ⟨mode, stack, children⟩ := c
  cases token with
  | startElement name attrs => rfl
  | charData data => cases stack <;> simp [behind, feed]
  | endElement name =>
    cases stack with
    | nil => rfl
    | cons f stack =>
      by_cases hname : f.name = name
      · cases stack <;> simp [behind, feed, hname]
      · simp [behind, feed, hname]

theorem Content.foldlM_feed_behind (nodes : List Node) (c : Content) (tokens : List Token) :
    tokens.foldlM feed (c.behind nodes) = (tokens.foldlM feed c).map (behind nodes) := by
  induction tokens generalizing c with
  | nil => rfl
  | cons token tokens ih =>
    rw [List.foldlM_cons, List.foldlM_cons, feed_behind]
    cases c.feed token with
    | none => rfl
    | some c' => exact ih c'

/-- **What comes before** does not matter for how content is read. -/
theorem Content.foldlM_behind (nodes : List Node) (c : Content) (s : Bytes) :
    s.foldlM (step tables) (c.behind nodes) = (s.foldlM (step tables) c).map (behind nodes) := by
  induction s generalizing c with
  | nil => rfl
  | cons b s ih =>
    have hstep : step tables (c.behind nodes) b = (step tables c b).map (behind nodes) := by
      unfold step
      rw [show (c.behind nodes).mode = c.mode from rfl]
      cases lex tables c.mode b with
      | none => rfl
      | some result => exact foldlM_feed_behind nodes { c with mode := result.1 } result.2
    rw [List.foldlM_cons, List.foldlM_cons, hstep]
    cases step tables c b with
    | none => rfl
    | some c' => exact ih c'

theorem Content.finish_behind (nodes : List Node) (c : Content) :
    (c.behind nodes).finish = c.finish.map (nodes ++ ·) := by
  obtain ⟨mode, stack, children⟩ := c
  cases mode with
  | text rev =>
    cases stack with
    | nil => simp [finish, behind, Function.comp_def]
    | cons f stack => rfl
  | _ => rfl

/-- Content that begins with markup, less the `<`. -/
def markupContent (tables : NameTables) (s : Bytes) : Option (List Node) :=
  (s.foldlM (Content.step tables) ⟨.markup, [], []⟩).bind Content.finish

theorem foldlM_text {s : Bytes} (h : ch '<' ∉ s) (rev : Bytes) :
    s.foldlM (Content.step tables) ⟨.text rev, [], []⟩ =
      some ⟨.text (s.reverse ++ rev), [], []⟩ := by
  induction s generalizing rev with
  | nil => rfl
  | cons b s ih =>
    rw [List.mem_cons, not_or] at h
    have hstep : Content.step tables ⟨.text rev, [], []⟩ b = some ⟨.text (b :: rev), [], []⟩ := by
      simp only [Content.step, lex]
      rw [if_neg (Ne.symm h.1)]
      rfl
    rw [List.foldlM_cons, hstep, List.reverse_cons, List.append_assoc, List.singleton_append]
    exact ih h.2 (b :: rev)

/-- Text only. -/
theorem content_text {s : Bytes} (h : ch '<' ∉ s) :
    content tables s = (charData s).map fun data => [.text data] := by
  rw [content, Content.empty, foldlM_text h, Option.bind_some]
  simp [Content.finish]

/-- Text, and then markup. -/
theorem content_text_markup {s rest : Bytes} (h : ch '<' ∉ s) :
    content tables (s ++ ch '<' :: rest) =
      (charData s).bind fun data => (markupContent tables rest).map (.text data :: ·) := by
  have hstep : Content.step tables ⟨.text s.reverse, [], []⟩ (ch '<') =
      (charData s).map fun data => Content.behind [.text data] ⟨.markup, [], []⟩ := by
    simp only [Content.step, lex, if_true, List.reverse_reverse]
    cases charData s <;> rfl
  rw [content, List.foldlM_append, Content.empty, foldlM_text h, List.append_nil,
    Option.bind_eq_bind, Option.bind_some, List.foldlM_cons, hstep]
  cases charData s with
  | none => rfl
  | some data =>
    simp only [Option.map_some, Option.bind_eq_bind, Option.bind_some, Content.foldlM_behind,
      markupContent]
    cases rest.foldlM (Content.step tables) ⟨.markup, [], []⟩ with
    | none => rfl
    | some c => exact Content.finish_behind [.text data] c

/-- The text that content begins with, and what the rest comes to: other text may stand in front. -/
theorem leading_text (tables : NameTables) (y : Bytes) :
    ∃ (t : Bytes) (nodes : Option (List Node)), ch '<' ∉ t ∧
      (∀ x, ch '<' ∉ x → content tables (x ++ y) =
        (charData (x ++ t)).bind fun data => nodes.map (.text data :: ·)) ∧
      ∀ rest, ∃ rest', y ++ ch '<' :: rest = t ++ ch '<' :: rest' := by
  by_cases hy : ch '<' ∈ y
  · obtain ⟨t, markup, rfl, ht⟩ := List.eq_append_cons_of_mem hy
    refine ⟨t, markupContent tables markup, ht, ?_, ?_⟩
    · intro x hx
      have hxt : ch '<' ∉ x ++ t := by simp [hx, ht]
      rw [← List.append_assoc, content_text_markup hxt]
    · intro rest
      exact ⟨markup ++ ch '<' :: rest, by rw [List.append_assoc, List.cons_append]⟩
  · refine ⟨y, some [], hy, ?_, fun rest => ⟨rest, rfl⟩⟩
    intro x hx
    have hxy : ch '<' ∉ x ++ y := by simp [hx, hy]
    rw [content_text hxy]
    cases charData (x ++ y) <;> rfl

theorem visible_cons_text {data : Bytes} (h : data ≠ []) (nodes : List Node) :
    visible (.text data :: nodes) = .text data :: visible nodes := by
  simp [visible, Node.isVisible, h]

/-- **Text with a `>`, left out**, makes a difference. -/
theorem content_ne_behind {x y : Bytes} {nodes : List Node} (hx : ch '<' ∉ x)
    (h : content tables (x ++ ch '>' :: y) = some nodes) :
    visible nodes ≠ [] ∧
      ∀ nodes', content tables y = some nodes' → visible nodes' ≠ visible nodes := by
  obtain ⟨t, rest, -, hcontent, -⟩ := leading_text tables y
  have hxgt : ch '<' ∉ x ++ [ch '>'] := by
    rw [List.mem_append, not_or]
    exact ⟨hx, by decide⟩
  have hwhole := hcontent (x ++ [ch '>']) hxgt
  have hleft := hcontent [] List.not_mem_nil
  rw [List.append_assoc, List.singleton_append, h, List.append_assoc, List.singleton_append]
    at hwhole
  obtain ⟨text, htext, hnodes⟩ := Option.bind_eq_some_iff.mp hwhole.symm
  obtain ⟨others, rfl, rfl⟩ := Option.map_eq_some_iff.mp hnodes
  obtain ⟨hne, hshorter⟩ := charData_gt htext
  rw [visible_cons_text hne]
  refine ⟨List.cons_ne_nil _ _, ?_⟩
  intro nodes' h'
  rw [List.nil_append, h', List.nil_append] at hleft
  obtain ⟨text', htext', hnodes'⟩ := Option.bind_eq_some_iff.mp hleft.symm
  cases hnodes'
  have hlength := hshorter text' htext'
  by_cases hnil : text' = []
  · -- nothing is left of the text
    intro heq
    rw [hnil] at heq
    have hcount := congrArg List.length heq
    simp [visible, Node.isVisible] at hcount
  · rw [visible_cons_text hnil]
    intro heq
    rw [Node.text.inj (List.cons.inj heq).1] at hlength
    exact Nat.lt_irrefl _ hlength

/-- What is left of content is content, if the decoder gets through its first text. -/
theorem content_of_read {x y rest : Bytes} {nodes : List Node} {name : Name} {attrs : List Attr}
    (hx : ch '<' ∉ x) (h : content tables (x ++ y) = some nodes)
    (hread : ((y ++ ch '<' :: rest).foldl (Decoder.step tables)
      ⟨.text [], .reading [⟨name, attrs, []⟩]⟩).tree ≠ .failed) :
    ∃ nodes', content tables y = some nodes' := by
  obtain ⟨t, others, ht, hcontent, hmarkup⟩ := leading_text tables y
  obtain ⟨rest', hrest⟩ := hmarkup rest
  have hleft := hcontent [] List.not_mem_nil
  rw [hcontent x hx] at h
  obtain ⟨_, -, hnodes⟩ := Option.bind_eq_some_iff.mp h
  obtain ⟨nodes, rfl, -⟩ := Option.map_eq_some_iff.mp hnodes
  rw [hrest, List.foldl_append] at hread
  have htext : t.foldlM (Content.step tables) ⟨.text [], [], []⟩ =
      some ⟨.text t.reverse, [], []⟩ := by rw [foldlM_text ht, List.append_nil]
  have hwithin : t.foldl (Decoder.step tables) ⟨.text [], .reading [⟨name, attrs, []⟩]⟩ =
      ⟨.text t.reverse, .reading [⟨name, attrs, []⟩]⟩ := Content.foldl_within htext name attrs []
  rw [hwithin, List.foldl_cons] at hread
  cases hdata : charData t with
  | none =>
    refine absurd ?_ (Decoder.tree_ne_failed hread)
    simp [Decoder.step, lex, hdata]
  | some data =>
    rw [List.nil_append, List.nil_append, hdata] at hleft
    exact ⟨_, hleft⟩

end Leading

end Ggid.Go.Xml
