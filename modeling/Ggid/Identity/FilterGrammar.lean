import Ggid.Identity.Filter

/-!
# Identity service — the grammar of SCIM filters

The sentences of the filter grammar, their syntax trees and their spellings; how the lexer
and `parseAttrPath` read them.

A sentence is derived by left recursion: `and` binds tighter than `or`, and both associate
to the left. Words, numbers and strings are those of the lexer. A value path is part of an
attribute path; by itself it is a filter of the grammar that `parsePrimary` does not know.

* `tokenizeFrom_spelled` — the lexer reads a text of tokens back;
* `parseAttrPath_stop`   — a path is read to its end, brackets and all.
-/

namespace Ggid.Identity

open Ggid.Go

-- ---------------------------------------------------------------------------
-- Words, numbers and values
-- ---------------------------------------------------------------------------

def isIdent : List Char → Bool
  | [] => false
  | ch :: tail => (isAlpha ch || ch = '_') && tail.all isIdentChar

def isNumber : List Char → Bool
  | [] => false
  | ch :: tail => (isDigit ch || (ch = '-' && tail.head?.any isDigit)) && tail.all isNumberChar

/-- An identifier of a kind: a keyword in any case, or none. -/
structure Word (kind : TokenKind) where
  chars    : List Char
  ident    : isIdent chars = true
  kind_eq  : identKind chars = kind

def Word.token {kind : TokenKind} (w : Word kind) : Token := ⟨kind, w.chars⟩

structure Operator (op : ComparisonOp) extends Word .ident where
  op_eq : parseComparisonOp (lower chars) = some op

structure Numeral where
  chars  : List Char
  number : isNumber chars = true

inductive Literal where
  | text (chars : List Char)
  | number (n : Numeral)
  | word (w : Word .ident)

def Literal.token : Literal → Token
  | .text chars => ⟨.string, chars⟩
  | .number n   => ⟨.number, n.chars⟩
  | .word w     => w.token

def Literal.value : Literal → Any
  | .text chars => .string (String.ofList chars)
  | .number n   => .string (String.ofList n.chars)
  | .word w     => identValue w.chars

-- ---------------------------------------------------------------------------
-- Sentences
-- ---------------------------------------------------------------------------

inductive Level where
  | path | primary | not | and | or

inductive Sentence : Level → Type where
  | name (n : Word .ident) : Sentence .path
  | sub (p : Sentence .path) (n : Word .ident) : Sentence .path
  | filtered (p : Sentence .path) (f : Sentence .or) : Sentence .path
  | present (p : Sentence .path) (w : Operator .pr) : Sentence .primary
  | compare (p : Sentence .path) (op : ComparisonOp) (w : Operator op) (hop : op ≠ .pr)
      (v : Literal) : Sentence .primary
  /-- `emails[type eq "work"]`, as a filter. -/
  | valuePath (p : Sentence .path) (f : Sentence .or) : Sentence .primary
  | group (s : Sentence .or) : Sentence .primary
  | primary (s : Sentence .primary) : Sentence .not
  | not (w : Word .not) (s : Sentence .not) : Sentence .not
  | operand (s : Sentence .not) : Sentence .and
  | and (l : Sentence .and) (w : Word .and) (r : Sentence .not) : Sentence .and
  | conjunction (s : Sentence .and) : Sentence .or
  | or (l : Sentence .or) (w : Word .or) (r : Sentence .and) : Sentence .or

namespace Token

def lparen : Token := ⟨.lparen, ['(']⟩
def rparen : Token := ⟨.rparen, [')']⟩
def lbracket : Token := ⟨.lbracket, ['[']⟩
def rbracket : Token := ⟨.rbracket, [']']⟩
def dot : Token := ⟨.dot, ['.']⟩
def eof : Token := ⟨.eof, []⟩

end Token

namespace Sentence

def tokens : {l : Level} → Sentence l → List Token
  | _, .name n => [n.token]
  | _, .sub p n => p.tokens ++ [.dot, n.token]
  | _, .filtered p f => p.tokens ++ .lbracket :: (f.tokens ++ [.rbracket])
  | _, .present p w => p.tokens ++ [w.token]
  | _, .compare p _ w _ v => p.tokens ++ [w.token, v.token]
  | _, .valuePath p f => p.tokens ++ .lbracket :: (f.tokens ++ [.rbracket])
  | _, .group s => .lparen :: (s.tokens ++ [.rparen])
  | _, .primary s => s.tokens
  | _, .not w s => w.token :: s.tokens
  | _, .operand s => s.tokens
  | _, .and l w r => l.tokens ++ w.token :: r.tokens
  | _, .conjunction s => s.tokens
  | _, .or l w r => l.tokens ++ w.token :: r.tokens

end Sentence

/-- Tokens with a space behind each, as an attribute path has them between brackets. -/
def spaced (tokens : List Token) : List Char := tokens.flatMap fun t => t.render ++ [' ']

namespace Sentence

/-- The text of an attribute path in the tree. -/
def pathText : Sentence .path → List Char
  | .name n => n.chars
  | .sub p n => p.pathText ++ '.' :: n.chars
  | .filtered p f => p.pathText ++ '[' :: (spaced f.tokens ++ [']'])

/-- The syntax tree. A path by itself, or a value path, asks for a value that is present. -/
def tree : {l : Level} → Sentence l → FilterExpr
  | _, .name n => .attr (String.ofList (name n).pathText) .pr .nil
  | _, .sub p n => .attr (String.ofList (sub p n).pathText) .pr .nil
  | _, .filtered p f => .attr (String.ofList (filtered p f).pathText) .pr .nil
  | _, .present p _ => .attr (String.ofList p.pathText) .pr .nil
  | _, .compare p op _ _ v => .attr (String.ofList p.pathText) op v.value
  | _, .valuePath p f => .attr (String.ofList (filtered p f).pathText) .pr .nil
  | _, .group s => s.tree
  | _, .primary s => s.tree
  | _, .not _ s => .not s.tree
  | _, .operand s => s.tree
  | _, .and l _ r => .and l.tree r.tree
  | _, .conjunction s => s.tree
  | _, .or l _ r => .or l.tree r.tree

/-- The number of groups, but for those between brackets. -/
def groups : {l : Level} → Sentence l → Nat
  | _, .group s => s.groups + 1
  | _, .primary s => s.groups
  | _, .not _ s => s.groups
  | _, .operand s => s.groups
  | _, .and l _ r => l.groups + r.groups
  | _, .conjunction s => s.groups
  | _, .or l _ r => l.groups + r.groups
  | _, _ => 0

/-- How deep groups are nested. -/
def nesting : {l : Level} → Sentence l → Nat
  | _, .group s => s.nesting + 1
  | _, .primary s => s.nesting
  | _, .not _ s => s.nesting
  | _, .operand s => s.nesting
  | _, .and l _ r => max l.nesting r.nesting
  | _, .conjunction s => s.nesting
  | _, .or l _ r => max l.nesting r.nesting
  | _, _ => 0

/-- No value path stands by itself. -/
def attached : {l : Level} → Sentence l → Bool
  | _, .valuePath _ _ => false
  | _, .group s => s.attached
  | _, .primary s => s.attached
  | _, .not _ s => s.attached
  | _, .operand s => s.attached
  | _, .and l _ r => l.attached && r.attached
  | _, .conjunction s => s.attached
  | _, .or l _ r => l.attached && r.attached
  | _, _ => true

end Sentence

-- ---------------------------------------------------------------------------
-- Spellings
-- ---------------------------------------------------------------------------

/-- How a string goes on behind the opening quote. -/
inductive SpellsString : List Char → List Char → Prop where
  | close : SpellsString [] ['"']
  | plain {ch : Char} {val text : List Char} (hquote : ch ≠ '"') (hescape : ch ≠ '\\')
      (h : SpellsString val text) : SpellsString (ch :: val) (ch :: text)
  | escaped (ch : Char) {val text : List Char} (h : SpellsString val text) :
      SpellsString (ch :: val) ('\\' :: ch :: text)

/-- A text of the token. -/
inductive Spells : Token → List Char → Prop where
  | lparen : Spells .lparen ['(']
  | rparen : Spells .rparen [')']
  | lbracket : Spells .lbracket ['[']
  | rbracket : Spells .rbracket [']']
  | dot : Spells .dot ['.']
  | word {val : List Char} (h : isIdent val = true) : Spells ⟨identKind val, val⟩ val
  | number {val : List Char} (h : isNumber val = true) : Spells ⟨.number, val⟩ val
  | string {val text : List Char} (h : SpellsString val text) :
      Spells ⟨.string, val⟩ ('"' :: text)

/-- The token would go on with the character. -/
def Token.continuedBy (t : Token) (ch : Char) : Bool :=
  match t.kind with
  | .number => isNumberChar ch
  | .ident | .and | .or | .not => isIdentChar ch
  | _ => false

/-- A text of the tokens, with any white space in between. -/
inductive Spelled : List Token → List Char → Prop where
  | last {t : Token} {s : List Char} (h : Spells t s) : Spelled [t] s
  | cons {t : Token} {s gap rest : List Char} {ts : List Token} (h : Spells t s)
      (hgap : gap.all isWhitespace = true) (hend : (gap ++ rest).head?.any t.continuedBy = false)
      (hrest : Spelled ts rest) : Spelled (t :: ts) (s ++ (gap ++ rest))

-- ---------------------------------------------------------------------------
-- Lexing
-- ---------------------------------------------------------------------------

section Lexing

variable {input tail rest val text s : List Char} {t : Token} {ts : List Token} {ch : Char}

theorem readString_spelled (h : SpellsString val text) :
    readString (text ++ rest) = some (val, rest) := by
  induction h with
  | close => rfl
  | plain hquote hescape _ ih =>
    rw [List.cons_append, readString, ih]
    · rfl
    · exact fun _ _ hch => absurd hch hescape
    · exact hquote
  | escaped ch _ ih =>
    rw [List.cons_append, List.cons_append, readString, ih]
    rfl

theorem takeWhile_run {p : Char → Bool} (hrun : tail.all p = true)
    (hend : rest.head?.any p = false) :
    (tail ++ rest).takeWhile p = tail ∧ (tail ++ rest).dropWhile p = rest := by
  have hall : ∀ c ∈ tail, p c = true := List.all_eq_true.mp hrun
  have hstop : rest.takeWhile p = [] ∧ rest.dropWhile p = rest := by
    cases rest with
    | nil => exact ⟨rfl, rfl⟩
    | cons c rest =>
      have hc : p c = false := by simpa using hend
      exact ⟨List.takeWhile_cons_of_neg (by simp [hc]), List.dropWhile_cons_of_neg (by simp [hc])⟩
  rw [List.takeWhile_append_of_pos hall, List.dropWhile_append_of_pos hall, hstop.1, hstop.2,
    List.append_nil]
  exact ⟨rfl, rfl⟩

/-- The characters with a case of their own in the lexer. -/
def punctuation : List Char := ['(', ')', '[', ']', '.', '"']

theorem nextToken_word (hch : ch ∉ punctuation) (hnumber : (isDigit ch ||
      (ch = '-' && tail.head?.any isDigit)) = false) (hword : (isAlpha ch || ch = '_') = true) :
    nextToken input ch tail =
      .ok (⟨identKind (ch :: tail.takeWhile isIdentChar), ch :: tail.takeWhile isIdentChar⟩,
        tail.dropWhile isIdentChar) := by
  simp only [punctuation, List.mem_cons, List.not_mem_nil, or_false, not_or] at hch
  obtain ⟨h1, h2, h3, h4, h5, h6⟩ := hch
  rw [nextToken, if_neg h1, if_neg h2, if_neg h3, if_neg h4, if_neg h5, if_neg h6,
    if_neg (by rw [hnumber]; decide), if_pos hword]

theorem nextToken_number (hch : ch ∉ punctuation) (hnumber : (isDigit ch ||
      (ch = '-' && tail.head?.any isDigit)) = true) :
    nextToken input ch tail =
      .ok (⟨.number, ch :: tail.takeWhile isNumberChar⟩, tail.dropWhile isNumberChar) := by
  simp only [punctuation, List.mem_cons, List.not_mem_nil, or_false, not_or] at hch
  obtain ⟨h1, h2, h3, h4, h5, h6⟩ := hch
  rw [nextToken, if_neg h1, if_neg h2, if_neg h3, if_neg h4, if_neg h5, if_neg h6, if_pos hnumber]

theorem isAlpha_not_punctuation (h : (isAlpha ch || ch = '_') = true) : ch ∉ punctuation := by
  have hnone : punctuation.all (fun c => !(isAlpha c || decide (c = '_'))) = true := by decide
  intro hmem
  have hfalse : (!(isAlpha ch || decide (ch = '_'))) = true := List.all_eq_true.mp hnone ch hmem
  rw [h] at hfalse
  exact absurd hfalse (by decide)

theorem isDigit_not_punctuation {next : Bool} (h : (isDigit ch || (ch = '-' && next)) = true) :
    ch ∉ punctuation := by
  have hnone : punctuation.all (fun c => !isDigit c && c ≠ '-') = true := by decide
  intro hmem
  have hneither : (!isDigit ch && decide (ch ≠ '-')) = true := List.all_eq_true.mp hnone ch hmem
  simp only [Bool.and_eq_true, Bool.not_eq_true', decide_eq_true_eq] at hneither
  simp [hneither.1, hneither.2] at h

theorem isAlpha_iff :
    isAlpha ch = true ↔
      (97 ≤ ch.toNat ∧ ch.toNat ≤ 122) ∨ (65 ≤ ch.toNat ∧ ch.toNat ≤ 90) := by
  simp only [isAlpha, Bool.or_eq_true, Bool.and_eq_true, decide_eq_true_eq]
  exact Iff.rfl

theorem isDigit_iff : isDigit ch = true ↔ 48 ≤ ch.toNat ∧ ch.toNat ≤ 57 := by
  simp only [isDigit, Bool.and_eq_true, decide_eq_true_eq]
  exact Iff.rfl

theorem not_number_of_alpha {next : Bool} (h : (isAlpha ch || ch = '_') = true) :
    (isDigit ch || (ch = '-' && next)) = false := by
  have hdigit : isDigit ch = false := by
    rw [Bool.eq_false_iff, ne_eq, isDigit_iff]
    rw [Bool.or_eq_true, isAlpha_iff, decide_eq_true_eq] at h
    rcases h with h | rfl
    · omega
    · decide
  have hminus : ch ≠ '-' := by
    rintro rfl
    exact absurd h (by decide)
  simp [hdigit, hminus]

/-- What a word, a number or a quote begins with is no white space. -/
theorem not_whitespace_of_start (h : ch ∈ punctuation ∨ isDigit ch = true ∨ ch = '-' ∨
      (isAlpha ch || ch = '_') = true) : isWhitespace ch = false := by
  have hnone : ∀ c, isWhitespace c = true → c ∉ punctuation ∧ isDigit c = false ∧ c ≠ '-' ∧
      (isAlpha c || decide (c = '_')) = false := by
    intro c hc
    have hcases : c = ' ' ∨ c = '\t' ∨ c = '\n' := by
      simpa only [isWhitespace, Bool.or_eq_true, decide_eq_true_eq, or_assoc] using hc
    rcases hcases with rfl | rfl | rfl <;> decide
  rw [Bool.eq_false_iff]
  intro hspace
  obtain ⟨h1, h2, h3, h4⟩ := hnone ch hspace
  rcases h with h | h | h | h
  · exact h1 h
  · exact absurd h (by simp [h2])
  · exact h3 h
  · exact absurd h (by rw [h4]; decide)

theorem continuedBy_word (ch : Char) :
    (Token.mk (identKind val) val).continuedBy ch = isIdentChar ch := by
  unfold Token.continuedBy identKind
  split_ifs <;> rfl

/-- The lexer takes a token off the front, if it ends there. -/
theorem nextToken_spelled (h : Spells t s) (hend : rest.head?.any t.continuedBy = false) :
    ∃ ch tail, s = ch :: tail ∧ isWhitespace ch = false ∧
      ∀ input, nextToken input ch (tail ++ rest) = .ok (t, rest) := by
  cases h with
  | lparen => exact ⟨'(', [], rfl, by decide, fun _ => rfl⟩
  | rparen => exact ⟨')', [], rfl, by decide, fun _ => rfl⟩
  | lbracket => exact ⟨'[', [], rfl, by decide, fun _ => rfl⟩
  | rbracket => exact ⟨']', [], rfl, by decide, fun _ => rfl⟩
  | dot => exact ⟨'.', [], rfl, by decide, fun _ => rfl⟩
  | string hstring =>
    refine ⟨'"', _, rfl, by decide, fun input => ?_⟩
    rw [nextToken]
    simp [readString_spelled hstring]
  | number hnumber =>
    obtain _ | ⟨ch, tail⟩ := s
    · exact absurd hnumber (by decide)
    obtain ⟨hstart, hrun⟩ := Bool.and_eq_true_iff.mp hnumber
    obtain ⟨htake, hdrop⟩ := takeWhile_run hrun hend
    have hstart' : (isDigit ch || (decide (ch = '-') && (tail ++ rest).head?.any isDigit)) = true := by
      cases tail with
      | nil =>
        have hdigit : isDigit ch = true := by simpa using hstart
        rw [hdigit, Bool.true_or]
      | cons c tail => exact hstart
    have hspace : isWhitespace ch = false := by
      apply not_whitespace_of_start
      rw [Bool.or_eq_true, Bool.and_eq_true, decide_eq_true_eq] at hstart
      exact .inr (hstart.imp_right fun hminus => .inl hminus.1)
    refine ⟨ch, tail, rfl, hspace, fun input => ?_⟩
    rw [nextToken_number (isDigit_not_punctuation hstart') hstart', htake, hdrop]
  | word hword =>
    obtain _ | ⟨ch, tail⟩ := s
    · exact absurd hword (by decide)
    obtain ⟨hstart, hrun⟩ := Bool.and_eq_true_iff.mp hword
    have hend' : rest.head?.any isIdentChar = false := by
      rw [← hend]
      exact congrArg rest.head?.any (funext fun c => (continuedBy_word c).symm)
    obtain ⟨htake, hdrop⟩ := takeWhile_run hrun hend'
    refine ⟨ch, tail, rfl, not_whitespace_of_start (.inr (.inr (.inr hstart))), fun input => ?_⟩
    rw [nextToken_word (isAlpha_not_punctuation hstart) (not_number_of_alpha hstart) hstart, htake,
      hdrop]

theorem tokenizeFrom_step {turns : Nat} {gap : List Char} (hgap : gap.all isWhitespace = true)
    (hch : isWhitespace ch = false) :
    tokenizeFrom input (turns + 1) (gap ++ ch :: tail) = (do
      let (tok, rest) ← nextToken input ch tail
      let tokens ← tokenizeFrom input turns rest
      return tok :: tokens) := by
  have hdrop : (gap ++ ch :: tail).dropWhile isWhitespace = ch :: tail :=
    (takeWhile_run hgap (by simp [hch])).2
  rw [tokenizeFrom, hdrop]

theorem tokenizeFrom_nil (turns : Nat) : tokenizeFrom input turns [] = .ok [.eof] := by
  cases turns <;> rfl

/-- **The lexer reads a text of the tokens back.** -/
theorem tokenizeFrom_spelled (h : Spelled ts s) {gap : List Char} {turns : Nat}
    (hgap : gap.all isWhitespace = true) (hturns : s.length ≤ turns) :
    tokenizeFrom input turns (gap ++ s) = .ok (ts ++ [.eof]) := by
  induction h generalizing gap turns with
  | @last t s hspells =>
    have hend : ([] : List Char).head?.any t.continuedBy = false := rfl
    obtain ⟨ch, tail, rfl, hch, htoken⟩ := nextToken_spelled hspells hend
    obtain ⟨turns, rfl⟩ := Nat.exists_eq_add_of_le' (Nat.le_trans (Nat.le_add_left 1 _) hturns)
    rw [List.append_nil] at htoken
    rw [tokenizeFrom_step hgap hch, htoken]
    show (do let tokens ← tokenizeFrom input turns []; return _ :: tokens) = _
    rw [tokenizeFrom_nil]
    rfl
  | cons hspells hgap' hend _ ih =>
    obtain ⟨ch, tail, rfl, hch, htoken⟩ := nextToken_spelled hspells hend
    obtain ⟨turns, rfl⟩ := Nat.exists_eq_add_of_le' (Nat.le_trans (Nat.le_add_left 1 _) hturns)
    simp only [List.length_append, List.length_cons] at hturns
    rw [List.cons_append, tokenizeFrom_step hgap hch, htoken]
    show (do let tokens ← tokenizeFrom input turns _; return _ :: tokens) = _
    rw [ih hgap' (by omega)]
    rfl

end Lexing

-- ---------------------------------------------------------------------------
-- Attribute paths
-- ---------------------------------------------------------------------------

/-- Between brackets, the tokens are taken as they are, whatever is behind them. -/
def Balanced (ts : List Token) : Prop :=
  ∀ depth rest, 0 < depth →
    readBrackets depth (ts ++ rest) =
      (spaced ts ++ (readBrackets depth rest).1, (readBrackets depth rest).2)

section Paths

variable {ts us rest : List Token} {t : Token} {sb : List Char} {l : Level}

theorem Balanced.append (h : Balanced ts) (h' : Balanced us) : Balanced (ts ++ us) := by
  intro depth rest hdepth
  rw [List.append_assoc, h depth _ hdepth, h' depth _ hdepth]
  simp only [spaced, List.flatMap_append, List.append_assoc]

theorem balanced_token (h : t.kind ∉ [TokenKind.eof, .lbracket, .rbracket]) : Balanced [t] := by
  simp only [List.mem_cons, List.not_mem_nil, or_false, not_or] at h
  obtain ⟨heof, hopen, hclose⟩ := h
  intro depth rest _
  simp [readBrackets, heof, hopen, hclose, spaced]

theorem Balanced.brackets (h : Balanced ts) : Balanced (.lbracket :: (ts ++ [.rbracket])) := by
  intro depth rest hdepth
  have hopen : ∀ ts', readBrackets depth (.lbracket :: ts') =
      ('[' :: ' ' :: (readBrackets (depth + 1) ts').1, (readBrackets (depth + 1) ts').2) :=
    fun ts' => rfl
  have hclose : readBrackets (depth + 1) (.rbracket :: rest) =
      (']' :: ' ' :: (readBrackets depth rest).1, (readBrackets depth rest).2) := by
    have hne : depth ≠ 0 := by omega
    simp [readBrackets, Token.rbracket, Token.render, hne]
  rw [List.cons_append, List.append_assoc, hopen, h (depth + 1) _ (by omega),
    List.singleton_append, hclose]
  simp [spaced, Token.render, Token.lbracket, Token.rbracket]

theorem balanced_word {kind : TokenKind} (w : Word kind) : Balanced [w.token] := by
  apply balanced_token
  have hkind : kind ∉ [TokenKind.eof, .lbracket, .rbracket] := by
    rw [← w.kind_eq]
    unfold identKind
    split_ifs <;> decide
  exact hkind

theorem balanced_literal (v : Literal) : Balanced [v.token] := by
  cases v with
  | text chars => exact balanced_token (by simp [Literal.token])
  | number n => exact balanced_token (by simp [Literal.token])
  | word w => exact balanced_word w

theorem balanced_tokens (s : Sentence l) : Balanced s.tokens := by
  induction s with
  | name n => exact balanced_word n
  | sub p n ihp => exact ihp.append ((balanced_token (by decide)).append (balanced_word n))
  | filtered p f ihp ihf => exact ihp.append ihf.brackets
  | present p w ihp => exact ihp.append (balanced_word w.toWord)
  | compare p op w hop v ihp =>
    exact ihp.append ((balanced_word w.toWord).append (balanced_literal v))
  | valuePath p f ihp ihf => exact ihp.append ihf.brackets
  | group s ih =>
    exact (balanced_token (t := .lparen) (by decide)).append (ih.append (balanced_token (by decide)))
  | primary s ih => exact ih
  | not w s ih => exact (balanced_word w).append ih
  | operand s ih => exact ih
  | and l w r ihl ihr => exact ihl.append ((balanced_word w).append ihr)
  | conjunction s ih => exact ih
  | or l w r ihl ihr => exact ihl.append ((balanced_word w).append ihr)

theorem extendPath_dot {turns : Nat} (n : Word .ident) :
    extendPath (turns + 1) sb (.dot :: n.token :: rest) =
      extendPath turns (sb ++ '.' :: n.chars) rest := rfl

theorem extendPath_brackets {turns : Nat} (s : Sentence l) :
    extendPath (turns + 1) sb (.lbracket :: (s.tokens ++ .rbracket :: rest)) =
      extendPath turns (sb ++ '[' :: (spaced s.tokens ++ [']'])) rest := by
  have hread : readBrackets 1 (s.tokens ++ .rbracket :: rest) =
      (spaced s.tokens, .rbracket :: rest) := by
    rw [balanced_tokens s 1 _ (by decide)]
    simp [readBrackets, Token.rbracket]
  have hstep : extendPath (turns + 1) sb (.lbracket :: (s.tokens ++ .rbracket :: rest)) =
      let read := readBrackets 1 (s.tokens ++ .rbracket :: rest)
      if (peek read.2).kind ≠ .rbracket then .error .unterminatedBracket
      else extendPath turns (sb ++ '[' :: (read.1 ++ [']'])) read.2.tail := rfl
  rw [hstep, hread]
  rfl

/-- The path is read, and what is behind it may extend it. -/
theorem parseAttrPath_tokens : ∀ (p : Sentence .path) (rest : List Token),
    ∃ turns, rest.length ≤ turns ∧
      parseAttrPath (p.tokens ++ rest) = extendPath turns p.pathText rest
  | .name n, rest => by
    refine ⟨rest.length + 1, by omega, ?_⟩
    rw [Sentence.tokens, Sentence.pathText]
    rfl
  | .sub p n, rest => by
    obtain ⟨turns, hturns, hparse⟩ := parseAttrPath_tokens p (.dot :: n.token :: rest)
    obtain ⟨turns, rfl⟩ := Nat.exists_eq_add_of_le' (Nat.le_trans (Nat.le_add_left 1 _) hturns)
    simp only [List.length_cons] at hturns
    refine ⟨turns, by omega, ?_⟩
    rw [Sentence.tokens, Sentence.pathText, List.append_assoc]
    exact hparse.trans (extendPath_dot n)
  | .filtered p f, rest => by
    obtain ⟨turns, hturns, hparse⟩ :=
      parseAttrPath_tokens p (.lbracket :: (f.tokens ++ .rbracket :: rest))
    obtain ⟨turns, rfl⟩ := Nat.exists_eq_add_of_le' (Nat.le_trans (Nat.le_add_left 1 _) hturns)
    simp only [List.length_cons, List.length_append] at hturns
    refine ⟨turns, by omega, ?_⟩
    rw [Sentence.tokens, Sentence.pathText, List.append_assoc, List.cons_append, List.append_assoc]
    exact hparse.trans (extendPath_brackets f)

/-- Nothing extends the path. -/
theorem parseAttrPath_stop (p : Sentence .path) (hdot : (peek rest).kind ≠ .dot)
    (hbracket : (peek rest).kind ≠ .lbracket) :
    parseAttrPath (p.tokens ++ rest) = .ok (p.pathText, rest) := by
  obtain ⟨turns, -, hparse⟩ := parseAttrPath_tokens p rest
  rw [hparse]
  cases turns with
  | zero => rfl
  | succ turns => rw [extendPath, if_neg hdot, if_neg hbracket]

theorem parseAttrExpr_present (p : Sentence .path) (w : Operator .pr) :
    parseAttrExpr (p.tokens ++ w.token :: rest) =
      .ok (.attr (String.ofList p.pathText) .pr .nil, rest) := by
  have hkind : (peek (w.token :: rest)).kind = .ident := rfl
  rw [parseAttrExpr, parseAttrPath_stop p (by simp [hkind]) (by simp [hkind])]
  have hop : parseComparisonOp (lower (peek (w.token :: rest)).value) = some .pr := w.op_eq
  simp only [bind, Except.bind, hkind, hop]
  rfl

theorem parseValue_literal (op : List Char) (v : Literal) : parseValue op v.token = .ok v.value := by
  cases v <;> rfl

theorem parseAttrExpr_compare (p : Sentence .path) {op : ComparisonOp} (w : Operator op)
    (hop : op ≠ .pr) (v : Literal) :
    parseAttrExpr (p.tokens ++ w.token :: v.token :: rest) =
      .ok (.attr (String.ofList p.pathText) op v.value, rest) := by
  have hkind : (peek (w.token :: v.token :: rest)).kind = .ident := rfl
  rw [parseAttrExpr, parseAttrPath_stop p (by simp [hkind]) (by simp [hkind])]
  have hparse : parseComparisonOp (lower (peek (w.token :: v.token :: rest)).value) = some op :=
    w.op_eq
  have hvalue : parseValue (lower (peek (w.token :: v.token :: rest)).value)
      (peek (v.token :: rest)) = .ok v.value := parseValue_literal _ v
  simp only [bind, Except.bind, hkind, hparse]
  cases op with
  | pr => exact absurd rfl hop
  | _ => simp only [List.tail_cons, hvalue]; rfl

/-- A value path by itself: no operator follows. -/
theorem parseAttrExpr_valuePath (p : Sentence .path) (f : Sentence .or)
    (hdot : (peek rest).kind ≠ .dot) (hbracket : (peek rest).kind ≠ .lbracket)
    (hident : (peek rest).kind ≠ .ident) :
    ∃ err, parseAttrExpr ((Sentence.filtered p f).tokens ++ rest) = .error err := by
  refine ⟨.expectedOperator (Sentence.filtered p f).pathText (peek rest).value, ?_⟩
  rw [parseAttrExpr, parseAttrPath_stop _ hdot hbracket]
  simp [bind, Except.bind, hident, throw, throwThe, MonadExceptOf.throw]

end Paths

end Ggid.Identity
