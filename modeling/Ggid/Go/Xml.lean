import Ggid.Go.Base64

/-!
# The XML decoder

`xml.Decoder` of package `encoding/xml`, in its strict mode, byte by byte: the markup that is being
read, the elements that are open, and what they have in them so far. A document is read until its
root element ends, as `Unmarshal` does.

Two readings that differ in what they have in the root element differ in nothing else when they go
on with the same text (`read_similar`).
-/

namespace Ggid.Go.Xml

-- ---------------------------------------------------------------------------
-- Characters and names
-- ---------------------------------------------------------------------------

/-- Length of a UTF-8 sequence by its first byte, and the bounds of the second one. -/
def sequenceOf (b : Nat) : Option (Nat × Nat × Nat) :=
  if 0xC2 ≤ b ∧ b ≤ 0xDF then some (2, 0x80, 0xBF)
  else if b = 0xE0 then some (3, 0xA0, 0xBF)
  else if b = 0xED then some (3, 0x80, 0x9F)
  else if 0xE1 ≤ b ∧ b ≤ 0xEF then some (3, 0x80, 0xBF)
  else if b = 0xF0 then some (4, 0x90, 0xBF)
  else if 0xF1 ≤ b ∧ b ≤ 0xF3 then some (4, 0x80, 0xBF)
  else if b = 0xF4 then some (4, 0x80, 0x8F)
  else none

def continues (b : UInt8) : Bool := decide (0x80 ≤ b.toNat) && decide (b.toNat ≤ 0xBF)

/-- The runes of a text, if it is UTF-8. -/
def runes : Bytes → Option (List Nat)
  | [] => some []
  | b :: s =>
    if b.toNat < 0x80 then (runes s).map (b.toNat :: ·)
    else
      match sequenceOf b.toNat, s with
      | some (2, low, high), c :: s =>
        if low ≤ c.toNat ∧ c.toNat ≤ high then
          (runes s).map ((b.toNat % 32 * 64 + c.toNat % 64) :: ·)
        else none
      | some (3, low, high), c :: d :: s =>
        if low ≤ c.toNat ∧ c.toNat ≤ high ∧ continues d = true then
          (runes s).map ((b.toNat % 16 * 4096 + c.toNat % 64 * 64 + d.toNat % 64) :: ·)
        else none
      | some (4, low, high), c :: d :: e :: s =>
        if low ≤ c.toNat ∧ c.toNat ≤ high ∧ continues d = true ∧ continues e = true then
          (runes s).map ((b.toNat % 8 * 262144 + c.toNat % 64 * 4096 + d.toNat % 64 * 64 +
            e.toNat % 64) :: ·)
        else none
      | _, _ => none

/-- `string(rune(n))`. -/
def encodeRune (n : Nat) : Bytes :=
  let next := fun k => UInt8.ofNat (0x80 + n / k % 64)
  if n < 0x80 then [UInt8.ofNat n]
  else if n < 0x800 then [UInt8.ofNat (0xC0 + n / 64), next 1]
  else if 0xD800 ≤ n ∧ n < 0xE000 then [0xEF, 0xBF, 0xBD]
  else if n < 0x10000 then [UInt8.ofNat (0xE0 + n / 4096), next 64, next 1]
  else [UInt8.ofNat (0xF0 + n / 262144), next 4096, next 64, next 1]

def isInCharacterRange (r : Nat) : Bool :=
  decide (r = 0x09 ∨ r = 0x0A ∨ r = 0x0D ∨ 0x20 ≤ r ∧ r ≤ 0xD7FF ∨ 0xE000 ≤ r ∧ r ≤ 0xFFFD ∨
    0x10000 ≤ r ∧ r ≤ 0x10FFFF)

/-- The tables `first` and `second` beyond ASCII. -/
structure NameTables where
  first  : Nat → Bool
  second : Nat → Bool

def isSpace (b : UInt8) : Bool := b = 32 || b = 13 || b = 10 || b = 9

def isLetter (r : Nat) : Bool :=
  decide (65 ≤ r ∧ r ≤ 90 ∨ 97 ≤ r ∧ r ≤ 122 ∨ r = 95 ∨ r = 58)

/-- A byte that `readName` reads on. -/
def isNameByte (b : UInt8) : Bool :=
  decide (0x80 ≤ b.toNat) || isLetter b.toNat || isDigit b || b = 46 || b = 45

structure Name where
  space     : Bytes
  localName : Bytes
  deriving DecidableEq

structure Attr where
  name  : Name
  value : Bytes
  deriving DecidableEq

section Names

variable (tables : NameTables)

def isName (s : Bytes) : Bool :=
  let first := fun r => if r < 0x80 then isLetter r else tables.first r
  let second := fun r =>
    if r < 0x80 then decide (48 ≤ r ∧ r ≤ 57 ∨ r = 45 ∨ r = 46) else tables.second r
  match runes s with
  | some (r :: rs) => first r && rs.all fun r => first r || second r
  | _ => false

/-- The prefix of a name and what follows its colon. -/
def splitName (s : Bytes) : Name :=
  let space := s.takeWhile (· ≠ ch ':')
  let localName := (s.dropWhile (· ≠ ch ':')).drop 1
  if space = [] ∨ localName = [] then ⟨[], s⟩ else ⟨space, localName⟩

/-- `nsname`, and what is left. -/
def nsname (s : Bytes) : Option (Name × Bytes) :=
  let name := s.takeWhile isNameByte
  if isName tables name = true ∧ name.count (ch ':') ≤ 1 then
    some (splitName name, s.dropWhile isNameByte)
  else none

end Names

-- ---------------------------------------------------------------------------
-- Text
-- ---------------------------------------------------------------------------

/-- `\r` and `\r\n` are line breaks. -/
def newlines : Bool → Bytes → Bytes
  | _, [] => []
  | cr, b :: s =>
    if b = 13 then 10 :: newlines true s
    else if cr = true ∧ b = 10 then newlines false s
    else b :: newlines false s

/-- The number a reference gives, in digits of a base. -/
def readReference (base : Nat) (s : Bytes) : Option Nat :=
  if s = [] then none
  else s.foldl (fun n b => do
    let d ← hexValue b
    if d < base then return (← n) * base + d else none) (some 0)

/-- The text of `&name;`. -/
def entity (name : Bytes) : Option Bytes :=
  let number := fun base digits => (readReference base digits).bind fun n =>
    if n ≤ 0x10FFFF then some (encodeRune n) else none
  if (ascii "#x").isPrefixOf name = true then number 16 (name.drop 2)
  else if (ascii "#").isPrefixOf name = true then number 10 (name.drop 1)
  else if name = ascii "lt" then some (ascii "<")
  else if name = ascii "gt" then some (ascii ">")
  else if name = ascii "amp" then some (ascii "&")
  else if name = ascii "apos" then some (ascii "'")
  else if name = ascii "quot" then some (ascii "\"")
  else none

/-- Resolves the references; the first argument is the one that is being read. -/
def expand : Option Bytes → Bytes → Option Bytes
  | none, [] => some []
  | some _, [] => none
  | none, b :: s =>
    if b = ch '&' then expand (some []) s else (expand none s).map (b :: ·)
  | some name, b :: s =>
    if b = ch ';' then do
      let text ← entity name.reverse
      return text ++ (← expand none s)
    else expand (some (b :: name)) s

/-- Only characters that XML allows. -/
def checked (s : Bytes) : Option Bytes :=
  match runes s with
  | some rs => if rs.all isInCharacterRange = true then some s else none
  | none => none

/-- Text between markup. -/
def charData (s : Bytes) : Option Bytes :=
  if (indexBytes (ascii "]]>") s).isSome = true then none
  else (expand none (newlines false s)).bind checked

/-- A value between quotes. -/
def attrValue (s : Bytes) : Option Bytes :=
  if s.contains (ch '<') = true then none
  else (expand none (newlines false s)).bind checked

-- ---------------------------------------------------------------------------
-- Tags and declarations
-- ---------------------------------------------------------------------------

inductive Token where
  | startElement (name : Name) (attrs : List Attr)
  | endElement (name : Name)
  | charData (data : Bytes)

section Tags

variable (tables : NameTables)

/-- The attributes of a tag; the number bounds how many. -/
def readAttrs : Nat → Bytes → Option (List Attr)
  | 0, _ => none
  | n + 1, s =>
    let s := s.dropWhile isSpace
    if s = [] then some []
    else do
      let (name, s) ← nsname tables s
      match s.dropWhile isSpace with
      | [] => none
      | b :: s =>
        if b ≠ ch '=' then none
        else
          match s.dropWhile isSpace with
          | [] => none
          | q :: s =>
            if q ≠ ch '"' ∧ q ≠ ch '\'' then none
            else
              match s.dropWhile (· ≠ q) with
              | [] => none
              | _ :: rest => do
                let value ← attrValue (s.takeWhile (· ≠ q))
                return ⟨name, value⟩ :: (← readAttrs n rest)

/-- What stands between `<` and `>`; with a slash at its end, it is also the end tag. -/
def startTag (s : Bytes) : Option (List Token) := do
  let empty := s.getLast? = some (ch '/')
  let s := if empty then s.dropLast else s
  let (name, rest) ← nsname tables s
  let attrs ← readAttrs tables (rest.length + 1) rest
  return if empty then [.startElement name attrs, .endElement name] else [.startElement name attrs]

/-- What stands between `</` and `>`. -/
def endTag (s : Bytes) : Option (List Token) := do
  let (name, rest) ← nsname tables s
  if rest.all isSpace then return [.endElement name] else none

/-- `procInst`: the value of a parameter of the XML declaration. -/
def procInst (param : Bytes) : Nat → Bytes → Bytes
  | 0, _ => []
  | n + 1, s =>
    match indexBytes param s with
    | none => []
    | some k =>
      match s.drop (k + param.length) with
      | [] => []
      | q :: rest =>
        if q = ch '"' ∨ q = ch '\'' then
          if rest.contains q = true then rest.takeWhile (· ≠ q) else []
        else procInst param n rest

/-- What stands between `<?` and `?>`: a declaration must be of a version and an encoding that is
supported. -/
def procInstOk (s : Bytes) : Bool :=
  let target := s.takeWhile isNameByte
  let content := (s.dropWhile isNameByte).dropWhile isSpace
  let lower := fun b : UInt8 => if 65 ≤ b.toNat ∧ b.toNat ≤ 90 then b + 32 else b
  isName tables target && (target ≠ ascii "xml" ||
    (let version := procInst (ascii "version=") content.length content
    let encoding := procInst (ascii "encoding=") content.length content
    (version = [] || version = ascii "1.0") &&
      (encoding = [] || encoding.map lower = ascii "utf-8")))

end Tags

-- ---------------------------------------------------------------------------
-- The decoder
-- ---------------------------------------------------------------------------

/-- Where in a directive: in the text, in `<!--`, or in a comment. -/
inductive Directive where
  | plain (depth : Nat) (inquote : Option UInt8)
  | opening (depth : Nat) (matched : Nat)
  | comment (depth : Nat) (b0 b1 : UInt8)
  deriving DecidableEq

/-- What is being read. What has been read of it is kept backwards. -/
inductive Mode where
  | text (rev : Bytes)
  | markup
  | startTag (rev : Bytes) (quote : Option UInt8)
  | endTag (rev : Bytes)
  | procInst (rev : Bytes)
  | bang
  | dash
  | comment (b0 b1 : UInt8)
  | cdataOpening (matched : Nat)
  | cdata (rev : Bytes)
  | directive (d : Directive)
  deriving DecidableEq

/-- A byte of a directive that does not end it. -/
def Directive.handle (depth : Nat) (inquote : Option UInt8) (b : UInt8) : Directive :=
  match inquote with
  | some q => .plain depth (if b = q then none else some q)
  | none =>
    if b = ch '\'' ∨ b = ch '"' then .plain depth (some b)
    else if b = ch '>' then .plain (depth - 1) none
    else if b = ch '<' then .opening depth 0
    else .plain depth none

/-- A byte of a directive; `none` at its end. -/
def Directive.step (d : Directive) (b : UInt8) : Option Directive :=
  match d with
  | .plain depth inquote =>
    if inquote = none ∧ b = ch '>' ∧ depth = 0 then none else some (handle depth inquote b)
  | .opening depth matched =>
    if (ascii "!--")[matched]? = some b then
      some (if matched = 2 then .comment depth 0 0 else .opening depth (matched + 1))
    else some (handle (depth + 1) none b)
  | .comment depth b0 b1 =>
    if b0 = ch '-' ∧ b1 = ch '-' ∧ b = ch '>' then some (.plain depth none)
    else some (.comment depth b1 b)

/-- A byte of a start tag; in quotes, `>` does not end it. -/
def startTagByte (tables : NameTables) (rev : Bytes) (quote : Option UInt8) (b : UInt8) :
    Option (Mode × List Token) :=
  match quote with
  | some q => some (.startTag (b :: rev) (if b = q then none else some q), [])
  | none =>
    if b = ch '>' then (startTag tables rev.reverse).map fun tokens => (.text [], tokens)
    else some (.startTag (b :: rev) (if b = ch '"' ∨ b = ch '\'' then some b else none), [])

/-- One byte, and the tokens it completes; `none` is a syntax error. -/
def lex (tables : NameTables) (mode : Mode) (b : UInt8) : Option (Mode × List Token) :=
  match mode with
  | .text rev =>
    if b = ch '<' then (charData rev.reverse).map fun data => (.markup, [.charData data])
    else some (.text (b :: rev), [])
  | .markup =>
    if b = ch '/' then some (.endTag [], [])
    else if b = ch '?' then some (.procInst [], [])
    else if b = ch '!' then some (.bang, [])
    else startTagByte tables [] none b
  | .startTag rev quote => startTagByte tables rev quote b
  | .endTag rev =>
    if b = ch '>' then (endTag tables rev.reverse).map fun tokens => (.text [], tokens)
    else some (.endTag (b :: rev), [])
  | .procInst rev =>
    if b = ch '>' ∧ rev.head? = some (ch '?') then
      if procInstOk tables rev.tail.reverse = true then some (.text [], []) else none
    else some (.procInst (b :: rev), [])
  | .bang =>
    if b = ch '-' then some (.dash, [])
    else if b = ch '[' then some (.cdataOpening 0, [])
    else some (.directive (.plain 0 none), [])
  | .dash => if b = ch '-' then some (.comment 0 0, []) else none
  | .comment b0 b1 =>
    -- two hyphens only at the end
    if b0 = ch '-' ∧ b1 = ch '-' then if b = ch '>' then some (.text [], []) else none
    else some (.comment b1 b, [])
  | .cdataOpening matched =>
    if (ascii "CDATA[")[matched]? = some b then
      some (if matched = 5 then .cdata [] else .cdataOpening (matched + 1), [])
    else none
  | .cdata rev =>
    if b = ch '>' ∧ (ascii "]]").isPrefixOf rev = true then
      (checked (newlines false (rev.drop 2).reverse)).map fun data => (.text [], [.charData data])
    else some (.cdata (b :: rev), [])
  | .directive d =>
    match d.step b with
    | some d => some (.directive d, [])
    | none => some (.text [], [])

inductive Node where
  | element (name : Name) (attrs : List Attr) (children : List Node)
  | text (data : Bytes)

/-- An element, or what has been read of it. -/
structure Frame where
  name     : Name
  attrs    : List Attr
  children : List Node

/-- The open elements, innermost first; or the root, when it has ended. -/
inductive Tree where
  | reading (stack : List Frame)
  | closed (root : Frame)
  | failed

/-- One token. An end tag must be that of the innermost element. -/
def Tree.feed (tree : Tree) (token : Token) : Tree :=
  match tree, token with
  | .reading stack, .startElement name attrs => .reading (⟨name, attrs, []⟩ :: stack)
  | .reading (f :: stack), .endElement name =>
    if f.name = name then
      match stack with
      | [] => .closed f
      | g :: stack =>
        .reading ({ g with children := g.children ++ [.element f.name f.attrs f.children] } :: stack)
    else .failed
  | .reading [], .endElement _ => .failed
  | .reading (f :: stack), .charData data =>
    .reading ({ f with children := f.children ++ [.text data] } :: stack)
  | .reading [], .charData _ => .reading []
  | .closed root, _ => .closed root
  | .failed, _ => .failed

structure Decoder where
  mode : Mode
  tree : Tree

namespace Decoder

variable (tables : NameTables)

/-- One byte; nothing is read behind the root. -/
def step (d : Decoder) (b : UInt8) : Decoder :=
  match d.tree with
  | .reading _ =>
    match lex tables d.mode b with
    | none => ⟨d.mode, .failed⟩
    | some (mode, tokens) => ⟨mode, tokens.foldl Tree.feed d.tree⟩
  | _ => d

/-- What has been read of a text. -/
def read (s : Bytes) : Decoder := s.foldl (step tables) ⟨.text [], .reading []⟩

end Decoder

/-- The root element of a document. -/
def root (tables : NameTables) (s : Bytes) : Option Frame :=
  match (Decoder.read tables s).tree with
  | .closed f => some f
  | _ => none

/-- The names of elements in the order they begin in, with their depth. -/
def Node.starts (depth : Nat) : Node → List (Nat × Name)
  | .element name _ children => (depth, name) :: startsOf (depth + 1) children
  | .text _ => []
where
  startsOf (depth : Nat) : List Node → List (Nat × Name)
    | [] => []
    | n :: ns => n.starts depth ++ startsOf depth ns

-- ---------------------------------------------------------------------------
-- Fields
-- ---------------------------------------------------------------------------

/-- What an attribute leaves in its field: the last value under that name. -/
def attrField (name : String) (attrs : List Attr) (v : Bytes) : Bytes :=
  attrs.foldl (fun v a => if a.name.localName = ascii name then a.value else v) v

/-- The character data of an element. -/
def Frame.text (e : Frame) : Bytes :=
  e.children.flatMap fun
    | .text data => data
    | .element _ _ _ => []

/-- The child elements in their order, each to the field of its name. -/
def Frame.fields {α : Type} (e : Frame) (field : Bytes → Frame → α → α) (v : α) : α :=
  e.children.foldl (fun v n =>
    match n with
    | .element name attrs children => field name.localName ⟨name, attrs, children⟩ v
    | .text _ => v) v

/-- Elements that have no field do not matter. -/
theorem Frame.fields_filter {α : Type} {keep : Node → Bool} (e : Frame)
    {field : Bytes → Frame → α → α}
    (hskip : ∀ name attrs children v, keep (.element name attrs children) = false →
      field name.localName ⟨name, attrs, children⟩ v = v) (v : α) :
    Frame.fields { e with children := e.children.filter keep } field v = e.fields field v := by
  unfold Frame.fields
  dsimp only
  induction e.children generalizing v with
  | nil => rfl
  | cons n ns ih =>
    rw [List.filter_cons]
    split_ifs with hn
    · rw [List.foldl_cons, List.foldl_cons, ih]
    · rw [List.foldl_cons, ih]
      cases n with
      | text data => rfl
      | element name attrs children =>
        dsimp only
        rw [hskip name attrs children v (Bool.eq_false_iff.mpr hn)]

-- ---------------------------------------------------------------------------
-- Readings that differ in the root
-- ---------------------------------------------------------------------------

section Similar

variable {tables : NameTables} {keep : Node → Bool}

/-- The same element, but for content that is not kept. -/
structure Frame.Similar (keep : Node → Bool) (f g : Frame) : Prop where
  name     : f.name = g.name
  attrs    : f.attrs = g.attrs
  children : f.children.filter keep = g.children.filter keep

theorem Frame.Similar.append {f g : Frame} (h : f.Similar keep g) (n : Node) :
    Frame.Similar keep { f with children := f.children ++ [n] }
      { g with children := g.children ++ [n] } where
  name := h.name
  attrs := h.attrs
  children := by rw [List.filter_append, List.filter_append, h.children]

/-- The same, but for what the root has so far. -/
inductive Tree.Similar (keep : Node → Bool) : Tree → Tree → Prop
  | reading (inner : List Frame) {f g : Frame} (h : f.Similar keep g) :
    Similar keep (.reading (inner ++ [f])) (.reading (inner ++ [g]))
  | closed {f g : Frame} (h : f.Similar keep g) : Similar keep (.closed f) (.closed g)
  | failed : Similar keep .failed .failed

theorem Tree.Similar.feed {t t' : Tree} (h : t.Similar keep t') (token : Token) :
    (t.feed token).Similar keep (t'.feed token) := by
  cases h with
  | closed h => exact .closed h
  | failed => exact .failed
  | reading inner h =>
    cases token with
    | startElement name attrs => exact .reading (⟨name, attrs, []⟩ :: inner) h
    | charData data =>
      cases inner with
      | nil => exact .reading [] (h.append (.text data))
      | cons x inner => exact .reading ({ x with children := x.children ++ [.text data] } :: inner) h
    | endElement name =>
      cases inner with
      | nil =>
        simp only [List.nil_append, Tree.feed, h.name]
        split_ifs
        · exact .closed h
        · exact .failed
      | cons x inner =>
        simp only [List.cons_append, Tree.feed]
        split_ifs
        · -- the element that ends is one of the root, or of another open element
          cases inner with
          | nil => exact .reading [] (h.append (.element x.name x.attrs x.children))
          | cons y inner =>
            exact .reading
              ({ y with children := y.children ++ [.element x.name x.attrs x.children] } :: inner) h
        · exact .failed

theorem Tree.Similar.feed_all {t t' : Tree} (h : t.Similar keep t') (tokens : List Token) :
    (tokens.foldl Tree.feed t).Similar keep (tokens.foldl Tree.feed t') := by
  induction tokens generalizing t t' with
  | nil => exact h
  | cons token tokens ih => exact ih (h.feed token)

namespace Decoder

/-- Nothing is read behind an error. -/
theorem step_failed {d : Decoder} (h : d.tree = .failed) (b : UInt8) : d.step tables b = d := by
  rw [Decoder.step, h]

theorem foldl_failed {d : Decoder} (h : d.tree = .failed) (s : Bytes) :
    s.foldl (step tables) d = d := by
  induction s with
  | nil => rfl
  | cons b s ih =>
    rw [List.foldl_cons, step_failed h]
    exact ih

/-- Where a reading that goes on has not failed yet. -/
theorem tree_ne_failed {d : Decoder} {s : Bytes}
    (h : (s.foldl (step tables) d).tree ≠ .failed) : d.tree ≠ .failed := by
  intro hfailed
  rw [foldl_failed hfailed] at h
  exact h hfailed

/-- The same, but for what the root has so far, or in its text. -/
inductive Similar (keep : Node → Bool) : Decoder → Decoder → Prop
  | same (mode : Mode) {t t' : Tree} (h : t.Similar keep t') : Similar keep ⟨mode, t⟩ ⟨mode, t'⟩
  | text (rev rev' : Bytes) {f g : Frame} (h : f.Similar keep g) :
    Similar keep ⟨.text rev, .reading [f]⟩ ⟨.text rev', .reading [g]⟩

/-- **One byte**, if neither reading fails at it. -/
theorem Similar.step (hkeep : ∀ data, keep (.text data) = false) {d d' : Decoder}
    (h : d.Similar keep d') (b : UInt8) (hok : (d.step tables b).tree ≠ .failed)
    (hok' : (d'.step tables b).tree ≠ .failed) :
    (d.step tables b).Similar keep (d'.step tables b) := by
  cases h with
  | same mode h =>
    cases h with
    | closed h => exact .same mode (.closed h)
    | failed => exact absurd rfl hok
    | reading inner h =>
      simp only [Decoder.step]
      split
      · exact .same mode .failed
      · rename_i mode' tokens _
        exact .same mode' ((Tree.Similar.reading inner h).feed_all tokens)
  | text rev rev' h =>
    simp only [Decoder.step, lex] at hok hok' ⊢
    by_cases hb : b = ch '<'
    · rw [if_pos hb] at hok ⊢
      rw [if_pos hb] at hok' ⊢
      -- the text of the root is not kept, so it may be different
      cases hdata : charData rev.reverse with
      | none =>
        rw [hdata] at hok
        exact absurd rfl hok
      | some data =>
        cases hdata' : charData rev'.reverse with
        | none =>
          rw [hdata'] at hok'
          exact absurd rfl hok'
        | some data' =>
          refine .same .markup (.reading [] ⟨h.name, h.attrs, ?_⟩)
          simp only [List.filter_append, List.filter_singleton, hkeep, h.children, cond_false]
    · rw [if_neg hb, if_neg hb]
      exact .text (b :: rev) (b :: rev') h

/-- **Any text**, if neither reading fails in it. -/
theorem Similar.foldl (hkeep : ∀ data, keep (.text data) = false) (s : Bytes) {d d' : Decoder}
    (h : d.Similar keep d') (hok : (s.foldl (Decoder.step tables) d).tree ≠ .failed)
    (hok' : (s.foldl (Decoder.step tables) d').tree ≠ .failed) :
    (s.foldl (Decoder.step tables) d).Similar keep (s.foldl (Decoder.step tables) d') := by
  induction s generalizing d d' with
  | nil => exact h
  | cons b s ih => exact ih (h.step hkeep b (tree_ne_failed hok) (tree_ne_failed hok')) hok hok'

theorem read_append (s s' : Bytes) :
    read tables (s ++ s') = s'.foldl (step tables) (read tables s) := List.foldl_append

end Decoder

theorem tree_of_root {s : Bytes} {f : Frame} (h : root tables s = some f) :
    (Decoder.read tables s).tree = .closed f := by
  unfold root at h
  split at h
  · rename_i g hclosed
    rw [hclosed, Option.some.inj h]
  · cases h

/-- **Documents with the same end.** If both are in the text of the root where it begins, and have
the same of what is kept there, they have the same of it in the end. -/
theorem root_similar (hkeep : ∀ data, keep (.text data) = false) {pre pre' post : Bytes}
    {rev rev' : Bytes} {f g r r' : Frame}
    (hpre : Decoder.read tables pre = ⟨.text rev, .reading [f]⟩)
    (hpre' : Decoder.read tables pre' = ⟨.text rev', .reading [g]⟩) (h : f.Similar keep g)
    (hroot : root tables (pre ++ post) = some r) (hroot' : root tables (pre' ++ post) = some r') :
    r.Similar keep r' := by
  have hclosed := tree_of_root hroot
  have hclosed' := tree_of_root hroot'
  rw [Decoder.read_append, hpre] at hclosed
  rw [Decoder.read_append, hpre'] at hclosed'
  have hok : (post.foldl (Decoder.step tables) ⟨.text rev, .reading [f]⟩).tree ≠ .failed := by
    rw [hclosed]
    exact Tree.noConfusion
  have hok' : (post.foldl (Decoder.step tables) ⟨.text rev', .reading [g]⟩).tree ≠ .failed := by
    rw [hclosed']
    exact Tree.noConfusion
  have hsimilar := (Decoder.Similar.text rev rev' h).foldl hkeep post hok hok'
  generalize post.foldl (Decoder.step tables) ⟨.text rev, .reading [f]⟩ = d at hsimilar hclosed
  generalize post.foldl (Decoder.step tables) ⟨.text rev', .reading [g]⟩ = d' at hsimilar hclosed'
  cases hsimilar with
  | text rev rev' h => cases hclosed
  | same mode h =>
    cases h with
    | reading inner h => cases hclosed
    | failed => cases hclosed
    | closed h =>
      cases hclosed
      cases hclosed'
      exact h

end Similar

-- ---------------------------------------------------------------------------
-- A line break
-- ---------------------------------------------------------------------------

section Newline

variable {tables : NameTables}

theorem startTagByte_newline {rev rev' : Bytes} {quote : Option UInt8} {tokens : List Token} :
    startTagByte tables rev quote 10 ≠ some (.text rev', tokens) := by
  unfold startTagByte
  split
  · simp
  · rw [if_neg (by decide)]
    simp

theorem directive_newline (d : Directive) : d.step 10 ≠ none := by
  cases d with
  | plain depth inquote => simp [Directive.step, show (10 : UInt8) ≠ ch '>' from by decide]
  | opening depth matched =>
    simp only [Directive.step]
    split_ifs <;> exact Option.some_ne_none _
  | comment depth b0 b1 =>
    simp only [Directive.step]
    split_ifs <;> exact Option.some_ne_none _

/-- A line break ends no markup. -/
theorem lex_newline {mode : Mode} {rev : Bytes} {tokens : List Token}
    (h : lex tables mode 10 = some (.text rev, tokens)) :
    (∃ rev', mode = .text rev') ∧ tokens = [] := by
  have hlt : (10 : UInt8) ≠ ch '<' := by decide
  have hgt : (10 : UInt8) ≠ ch '>' := by decide
  cases mode with
  | text rev' =>
    simp only [lex, hlt, if_false, Option.some.injEq, Prod.mk.injEq] at h
    exact ⟨⟨rev', rfl⟩, h.2.symm⟩
  | markup => exact absurd h (by simp [lex, startTagByte_newline, show (10 : UInt8) ≠ ch '/' ∧
      (10 : UInt8) ≠ ch '?' ∧ (10 : UInt8) ≠ ch '!' from by decide])
  | startTag rev' quote => exact absurd h startTagByte_newline
  | endTag rev' => simp [lex, hgt] at h
  | procInst rev' => simp [lex, hgt] at h
  | bang => simp [lex, show (10 : UInt8) ≠ ch '-' ∧ (10 : UInt8) ≠ ch '[' from by decide] at h
  | dash => simp [lex, show (10 : UInt8) ≠ ch '-' from by decide] at h
  | comment b0 b1 => simp [lex, hgt] at h
  | cdataOpening matched =>
    simp only [lex] at h
    split_ifs at h <;> cases h
  | cdata rev' => simp [lex, hgt] at h
  | directive d =>
    simp only [lex] at h
    split at h
    · cases h
    · rename_i hend
      exact absurd hend (directive_newline d)

/-- Behind a line break in the text of the root, it was in the text of the root before. -/
theorem text_of_newline {d : Decoder} {rev : Bytes} {f : Frame}
    (h : d.step tables 10 = ⟨.text rev, .reading [f]⟩) : ∃ rev', d = ⟨.text rev', .reading [f]⟩ := by
  obtain ⟨mode, tree⟩ := d
  cases tree with
  | closed root => cases h
  | failed => cases h
  | reading stack =>
    simp only [Decoder.step] at h
    split at h
    · cases h
    · rename_i mode' tokens hlex
      obtain ⟨rfl, htree⟩ := Decoder.mk.inj h
      obtain ⟨⟨rev', rfl⟩, rfl⟩ := lex_newline hlex
      exact ⟨rev', by rw [← htree]; rfl⟩

end Newline

end Ggid.Go.Xml
