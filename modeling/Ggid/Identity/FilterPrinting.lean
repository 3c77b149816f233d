import Ggid.Identity.FilterParsing

/-!
# Identity service — SCIM filters, printed and parsed

Syntax trees are printed with all parentheses, and what is printed is a text of a sentence
with the same tree.

* `parse_sentence_iff`   — the tree of a sentence is returned exactly if the text has no
  more than 4096 bytes, the sentence less than 100 groups, however flat, and no value path
  stands by itself; the printed tree is read back exactly within its own limits;
* `flat_filter_rejected` — a hundred groups side by side.
-/

namespace Ggid.Identity

open Ggid.Go

-- ---------------------------------------------------------------------------
-- Printing
-- ---------------------------------------------------------------------------

def ComparisonOp.text : ComparisonOp → List Char
  | .eq => ['e', 'q']
  | .ne => ['n', 'e']
  | .co => ['c', 'o']
  | .sw => ['s', 'w']
  | .ew => ['e', 'w']
  | .pr => ['p', 'r']
  | .gt => ['g', 't']
  | .ge => ['g', 'e']
  | .lt => ['l', 't']
  | .le => ['l', 'e']

/-- A string, behind the opening quote. -/
def quoted : List Char → List Char
  | [] => ['"']
  | ch :: val => if ch = '"' ∨ ch = '\\' then '\\' :: ch :: quoted val else ch :: quoted val

/-- A value of a comparison. -/
def printValue : Any → List Char
  | .string val => '"' :: quoted val.toList
  | .bool true => ['t', 'r', 'u', 'e']
  | .bool false => ['f', 'a', 'l', 's', 'e']
  | _ => ['n', 'u', 'l', 'l']

def parens (s : List Char) : List Char := '(' :: (s ++ [')'])

/-- The tree, with parentheses around every `and` and `or` and what is negated, and a text
for each value. -/
def FilterExpr.printBy (text : Any → List Char) : FilterExpr → List Char
  | .attr attrPath .pr _ => attrPath.toList ++ ' ' :: ComparisonOp.pr.text
  | .attr attrPath op value => attrPath.toList ++ ' ' :: (op.text ++ ' ' :: text value)
  | .and left right =>
    parens (left.printBy text ++ ' ' :: 'a' :: 'n' :: 'd' :: ' ' :: right.printBy text)
  | .or left right => parens (left.printBy text ++ ' ' :: 'o' :: 'r' :: ' ' :: right.printBy text)
  | .not inner => 'n' :: 'o' :: 't' :: ' ' :: parens (inner.printBy text)

def FilterExpr.print (e : FilterExpr) : List Char := e.printBy printValue

/-- What is compared with. -/
def FilterExpr.values : FilterExpr → List Any
  | .attr _ op value => if op = .pr then [] else [value]
  | .and left right => left.values ++ right.values
  | .or left right => left.values ++ right.values
  | .not inner => inner.values

/-- The number of `and`, `or` and `not`. -/
def FilterExpr.operators : FilterExpr → Nat
  | .attr _ _ _ => 0
  | .and left right => left.operators + right.operators + 1
  | .or left right => left.operators + right.operators + 1
  | .not inner => inner.operators + 1

def Word.and : Word .and := ⟨['a', 'n', 'd'], rfl, rfl⟩
def Word.or : Word .or := ⟨['o', 'r'], rfl, rfl⟩
def Word.not : Word .not := ⟨['n', 'o', 't'], rfl, rfl⟩

def Operator.ofOp : (op : ComparisonOp) → Operator op
  | .eq => ⟨⟨['e', 'q'], rfl, rfl⟩, rfl⟩
  | .ne => ⟨⟨['n', 'e'], rfl, rfl⟩, rfl⟩
  | .co => ⟨⟨['c', 'o'], rfl, rfl⟩, rfl⟩
  | .sw => ⟨⟨['s', 'w'], rfl, rfl⟩, rfl⟩
  | .ew => ⟨⟨['e', 'w'], rfl, rfl⟩, rfl⟩
  | .pr => ⟨⟨['p', 'r'], rfl, rfl⟩, rfl⟩
  | .gt => ⟨⟨['g', 't'], rfl, rfl⟩, rfl⟩
  | .ge => ⟨⟨['g', 'e'], rfl, rfl⟩, rfl⟩
  | .lt => ⟨⟨['l', 't'], rfl, rfl⟩, rfl⟩
  | .le => ⟨⟨['l', 'e'], rfl, rfl⟩, rfl⟩

/-- The literal a value is printed as, in quotes. -/
def Literal.ofValue : Any → Literal
  | .string val => .text val.toList
  | .bool true => .word ⟨['t', 'r', 'u', 'e'], rfl, rfl⟩
  | .bool false => .word ⟨['f', 'a', 'l', 's', 'e'], rfl, rfl⟩
  | _ => .word ⟨['n', 'u', 'l', 'l'], rfl, rfl⟩

/-- A sentence in parentheses. -/
def Sentence.grouped (s : Sentence .and) : Sentence .not := .primary (.group (.conjunction s))

/-- The literal a value is printed as by `String`. -/
def Literal.bare : Any → Literal
  | .string val =>
    if hnumber : isNumber val.toList = true then .number ⟨val.toList, hnumber⟩
    else if hword : isIdent val.toList = true ∧ identKind val.toList = .ident then
      .word ⟨val.toList, hword.1, hword.2⟩
    else .text val.toList
  | v => .ofValue v

/-- `String` prints a literal that stands for the value: a number, or a word that means
itself. -/
def readsBare : Any → Bool
  | .string val =>
    isNumber val.toList || (isIdent val.toList && identKind val.toList = .ident &&
      lower val.toList ∉ [['t', 'r', 'u', 'e'], ['f', 'a', 'l', 's', 'e'], ['n', 'u', 'l', 'l']])
  | .bool _ => true
  | _ => false

/-- The sentence the tree is printed as, with a literal for each value. -/
def Sentence.fullBy (lit : Any → Literal) : {l : Level} → Sentence l → Sentence .not
  | .path, p => .primary (.present p (.ofOp .pr))
  | _, .present p _ => .primary (.present p (.ofOp .pr))
  | _, .compare p op _ hop v => .primary (.compare p op (.ofOp op) hop (lit v.value))
  | _, .valuePath p f => .primary (.present (.filtered p f) (.ofOp .pr))
  | _, .group s => s.fullBy lit
  | _, .primary s => s.fullBy lit
  | _, .not _ s => .not Word.not (grouped (.operand (s.fullBy lit)))
  | _, .operand s => s.fullBy lit
  | _, .and l _ r => grouped (.and (.operand (l.fullBy lit)) Word.and (r.fullBy lit))
  | _, .conjunction s => s.fullBy lit
  | _, .or l _ r => .primary (.group
      (.or (.conjunction (.operand (l.fullBy lit))) Word.or (.operand (r.fullBy lit))))

section Printed

variable {ts us : List Token} {t : Token} {l : Level} {s u gap val : List Char} {ch : Char}
  {lit : Any → Literal} {text : Any → List Char}

theorem value_ofValue (v : Literal) : (Literal.ofValue v.value).value = v.value := by
  have htext : ∀ chars : List Char, (Literal.ofValue (.string (String.ofList chars))).value =
      .string (String.ofList chars) := by
    intro chars
    rw [Literal.ofValue, Literal.value, String.toList_ofList]
  cases v with
  | text chars => exact htext chars
  | number n => exact htext n.chars
  | word w =>
    show (Literal.ofValue (identValue w.chars)).value = identValue w.chars
    unfold identValue
    split_ifs
    · rfl
    · rfl
    · rfl
    · exact htext w.chars

/-- A value of a tree is one a literal has. -/
theorem value_of_mem_values (s : Sentence l) :
    ∀ v ∈ s.tree.values, (Literal.ofValue v).value = v := by
  induction s with
  | name | sub | filtered | present | valuePath => exact fun v hv => absurd hv List.not_mem_nil
  | compare p op w hop v =>
    intro v' hv'
    rw [Sentence.tree, FilterExpr.values, if_neg hop, List.mem_singleton] at hv'
    rw [hv', value_ofValue]
  | group s ih => exact ih
  | primary s ih => exact ih
  | not w s ih => exact ih
  | operand s ih => exact ih
  | and l w r ihl ihr => exact List.forall_mem_append.mpr ⟨ihl, ihr⟩
  | conjunction s ih => exact ih
  | or l w r ihl ihr => exact List.forall_mem_append.mpr ⟨ihl, ihr⟩

theorem tree_fullBy (s : Sentence l) (hlit : ∀ v ∈ s.tree.values, (lit v).value = v) :
    (s.fullBy lit).tree = s.tree := by
  induction s with
  | name | sub | filtered | present | valuePath => rfl
  | compare p op w hop v =>
    have hvalue : (lit v.value).value = v.value := by
      apply hlit
      rw [Sentence.tree, FilterExpr.values, if_neg hop]
      exact List.mem_singleton_self _
    rw [Sentence.fullBy, Sentence.tree, Sentence.tree, Sentence.tree, hvalue]
  | group s ih => exact ih hlit
  | primary s ih => exact ih hlit
  | not w s ih => exact congrArg FilterExpr.not (ih hlit)
  | operand s ih => exact ih hlit
  | and l w r ihl ihr =>
    have hl := ihl fun v hv => hlit v (List.mem_append_left _ hv)
    have hr := ihr fun v hv => hlit v (List.mem_append_right _ hv)
    exact congrArg₂ FilterExpr.and hl hr
  | conjunction s ih => exact ih hlit
  | or l w r ihl ihr =>
    have hl := ihl fun v hv => hlit v (List.mem_append_left _ hv)
    have hr := ihr fun v hv => hlit v (List.mem_append_right _ hv)
    exact congrArg₂ FilterExpr.or hl hr

/-- Every operator is printed with a group. -/
theorem groups_fullBy (s : Sentence l) : (s.fullBy lit).groups = s.tree.operators := by
  induction s with
  | name | sub | filtered | present | compare | valuePath => rfl
  | group s ih => exact ih
  | primary s ih => exact ih
  | not w s ih => exact congrArg (· + 1) ih
  | operand s ih => exact ih
  | and l w r ihl ihr => exact congrArg (· + 1) (congrArg₂ (· + ·) ihl ihr)
  | conjunction s ih => exact ih
  | or l w r ihl ihr => exact congrArg (· + 1) (congrArg₂ (· + ·) ihl ihr)

theorem attached_fullBy (s : Sentence l) : (s.fullBy lit).attached = true := by
  induction s with
  | name | sub | filtered | present | compare | valuePath => rfl
  | group s ih => exact ih
  | primary s ih => exact ih
  | not w s ih => exact ih
  | operand s ih => exact ih
  | and l w r ihl ihr => exact Bool.and_eq_true_iff.mpr ⟨ihl, ihr⟩
  | conjunction s ih => exact ih
  | or l w r ihl ihr => exact Bool.and_eq_true_iff.mpr ⟨ihl, ihr⟩

theorem value_bare {v : Any} (h : readsBare v = true) : (Literal.bare v).value = v := by
  cases v with
  | string val =>
    rw [Literal.bare]
    split_ifs with hnumber hword
    · rw [Literal.value, String.ofList_toList]
    · have hplain : lower val.toList ∉
          [['t', 'r', 'u', 'e'], ['f', 'a', 'l', 's', 'e'], ['n', 'u', 'l', 'l']] := by
        simpa [readsBare, hnumber, hword] using h
      simp only [List.mem_cons, List.not_mem_nil, or_false, not_or] at hplain
      rw [Literal.value, identValue, if_neg hplain.1, if_neg hplain.2.1, if_neg hplain.2.2,
        String.ofList_toList]
    · rw [Literal.value, String.ofList_toList]
  | bool b => cases b <;> rfl
  | _ => exact absurd h Bool.false_ne_true

/-- No token goes on with a space or a parenthesis. -/
theorem not_continuedBy (t : Token) (h : ch ∈ [' ', '(', ')', '[', ']']) :
    t.continuedBy ch = false := by
  have hnone : [' ', '(', ')', '[', ']'].all (fun c => !isNumberChar c && !isIdentChar c) = true := by
    decide
  have hneither : (!isNumberChar ch && !isIdentChar ch) = true := List.all_eq_true.mp hnone ch h
  simp only [Bool.and_eq_true, Bool.not_eq_true'] at hneither
  obtain ⟨hnumber, hident⟩ := hneither
  unfold Token.continuedBy
  split <;> first | assumption | rfl

theorem Spelled.append (h : Spelled ts s) (h' : Spelled us u)
    (hgap : gap.all isWhitespace = true) (hstart : (gap ++ u).head? = some ch)
    (hch : ch ∈ [' ', '(', ')', '[', ']']) : Spelled (ts ++ us) (s ++ (gap ++ u)) := by
  have hend : ∀ t : Token, (gap ++ u).head?.any t.continuedBy = false := by
    intro t
    rw [hstart]
    exact not_continuedBy t hch
  induction h with
  | last h => exact .cons h hgap (hend _) h'
  | @cons t s gap' rest ts h hgap' hend' hrest ih =>
    rw [List.append_assoc, List.append_assoc]
    refine .cons h hgap' ?_ ih
    have hne : gap' ++ rest ≠ [] := by simp [(trimmed_spelled hrest).ne]
    rwa [← List.append_assoc, List.head?_append_of_ne_nil _ hne]

theorem spells_word {kind : TokenKind} (w : Word kind) : Spells w.token w.chars := by
  have hspells := Spells.word w.ident
  rwa [w.kind_eq] at hspells

/-- A word, and a space behind it. -/
theorem Spelled.word_space {kind : TokenKind} (w : Word kind) (h : Spelled ts s) :
    Spelled (w.token :: ts) (w.chars ++ ' ' :: s) := by
  have hgap : [' '].all isWhitespace = true := rfl
  exact .cons (spells_word w) hgap (not_continuedBy _ (by decide)) h

theorem Spelled.parens (h : Spelled ts s) :
    Spelled (.lparen :: (ts ++ [.rparen])) (Ggid.Identity.parens s) := by
  have hgap : [].all isWhitespace = true := rfl
  have hclose : Spelled (ts ++ [.rparen]) (s ++ ([] ++ [')'])) :=
    h.append (.last .rparen) hgap rfl (by decide)
  have hnone : ∀ next : Option Char, next.any Token.lparen.continuedBy = false := by
    intro next
    cases next <;> rfl
  show Spelled _ (['('] ++ ([] ++ (s ++ ([] ++ [')']))))
  exact .cons .lparen hgap (hnone _) hclose

theorem spellsString_quoted (val : List Char) : SpellsString val (quoted val) := by
  induction val with
  | nil => exact .close
  | cons ch val ih =>
    rw [quoted]
    split_ifs with hch
    · exact .escaped ch ih
    · rw [not_or] at hch
      exact .plain hch.1 hch.2 ih

theorem spells_value (v : Any) : Spells (Literal.ofValue v).token (printValue v) := by
  cases v with
  | string val => exact .string (spellsString_quoted val.toList)
  | bool b => cases b <;> exact spells_word _
  | _ => exact spells_word _

theorem spells_bare (std : Stdlib) {v : Any} (h : readsBare v = true) :
    Spells (Literal.bare v).token (sprintV std v).toList := by
  cases v with
  | string val =>
    rw [Literal.bare, sprintV]
    split_ifs with hnumber hword
    · exact .number hnumber
    · exact spells_word ⟨val.toList, hword.1, hword.2⟩
    · simp [readsBare, hnumber] at h
      exact absurd ⟨h.1.1, h.1.2⟩ hword
  | bool b =>
    rw [sprintV]
    cases b <;> exact spells_word _
  | _ => exact absurd h Bool.false_ne_true

/-- Strings between brackets go into a path as they are: they read back if nothing in them
needs an escape. -/
def Token.isPlain (t : Token) : Bool :=
  t.kind ≠ .string || t.value.all fun ch => ch ≠ '"' && ch ≠ '\\'

/-- Every string between brackets is plain. -/
def Sentence.plainBrackets : {l : Level} → Sentence l → Bool
  | _, .name _ => true
  | _, .sub p _ => p.plainBrackets
  | _, .filtered p f => p.plainBrackets && f.tokens.all Token.isPlain
  | _, .present p _ => p.plainBrackets
  | _, .compare p _ _ _ _ => p.plainBrackets
  | _, .valuePath p f => p.plainBrackets && f.tokens.all Token.isPlain
  | _, .group s => s.plainBrackets
  | _, .primary s => s.plainBrackets
  | _, .not _ s => s.plainBrackets
  | _, .operand s => s.plainBrackets
  | _, .and l _ r => l.plainBrackets && r.plainBrackets
  | _, .conjunction s => s.plainBrackets
  | _, .or l _ r => l.plainBrackets && r.plainBrackets

theorem spellsString_plain (h : val.all (fun ch => ch ≠ '"' && ch ≠ '\\') = true) :
    SpellsString val (val ++ ['"']) := by
  induction val with
  | nil => exact .close
  | cons ch val ih =>
    simp only [List.all_cons, Bool.and_eq_true, decide_eq_true_eq] at h
    exact .plain h.1.1 h.1.2 (ih (by simpa using h.2))

/-- A token that has a text has the one an attribute path gives it. -/
theorem spells_render (h : Spells t s) (hplain : t.isPlain = true) : Spells t t.render := by
  cases h with
  | lparen => exact .lparen
  | rparen => exact .rparen
  | lbracket => exact .lbracket
  | rbracket => exact .rbracket
  | dot => exact .dot
  | word h =>
    have hrender : (Token.mk (identKind s) s).render = s := by
      rw [Token.render, if_neg]
      show identKind s ≠ .string
      unfold identKind
      split_ifs <;> decide
    rw [hrender]
    exact .word h
  | number h => exact .number h
  | string h => exact .string (spellsString_plain (by simpa [Token.isPlain] using hplain))

theorem spelled_spaced (hts : ∀ t ∈ ts, Spells t t.render) (h : Spelled us u) :
    Spelled (ts ++ us) (spaced ts ++ u) := by
  induction ts with
  | nil => exact h
  | cons t ts ih =>
    have hrest : Spelled (ts ++ us) (spaced ts ++ u) := ih fun t' ht' => hts t' (.tail t ht')
    have hgap : [' '].all isWhitespace = true := rfl
    have htext : spaced (t :: ts) ++ u = t.render ++ ([' '] ++ (spaced ts ++ u)) := by
      simp [spaced]
    rw [htext]
    exact .cons (hts t (.head ts)) hgap (not_continuedBy t (by decide)) hrest

/-- The tokens of a sentence have texts. -/
theorem exists_spells (s : Sentence l) : ∀ t ∈ s.tokens, ∃ text, Spells t text := by
  have hword : ∀ {kind : TokenKind} (w : Word kind), ∃ text, Spells w.token text :=
    fun w => ⟨_, spells_word w⟩
  have hvalue : ∀ v : Literal, ∃ text, Spells v.token text := by
    intro v
    cases v with
    | text chars => exact ⟨_, .string (spellsString_quoted chars)⟩
    | number n => exact ⟨_, .number n.number⟩
    | word w => exact hword w
  have hdot : ∃ text, Spells .dot text := ⟨_, .dot⟩
  have hlparen : ∃ text, Spells .lparen text := ⟨_, .lparen⟩
  have hrparen : ∃ text, Spells .rparen text := ⟨_, .rparen⟩
  have hlbracket : ∃ text, Spells .lbracket text := ⟨_, .lbracket⟩
  have hrbracket : ∃ text, Spells .rbracket text := ⟨_, .rbracket⟩
  induction s with
    simp only [Sentence.tokens, List.forall_mem_append, List.forall_mem_cons,
      List.not_mem_nil, false_implies, implies_true, and_true]
  | name n => exact hword n
  | sub p n ihp => exact ⟨ihp, hdot, hword n⟩
  | filtered p f ihp ihf => exact ⟨ihp, hlbracket, ihf, hrbracket⟩
  | present p w ihp => exact ⟨ihp, hword w.toWord⟩
  | compare p op w hop v ihp => exact ⟨ihp, hword w.toWord, hvalue v⟩
  | valuePath p f ihp ihf => exact ⟨ihp, hlbracket, ihf, hrbracket⟩
  | group s ih => exact ⟨hlparen, ih, hrparen⟩
  | primary s ih => exact ih
  | not w s ih => exact ⟨hword w, ih⟩
  | operand s ih => exact ih
  | and l w r ihl ihr => exact ⟨ihl, hword w, ihr⟩
  | conjunction s ih => exact ih
  | or l w r ihl ihr => exact ⟨ihl, hword w, ihr⟩

/-- What is written for a path reads as the path, whatever is behind it. -/
theorem spelled_path : ∀ (p : Sentence .path), p.plainBrackets = true →
    ∀ {us : List Token} {gap u : List Char}, gap.all isWhitespace = true →
      (gap ++ u).head?.any isIdentChar = false → Spelled us u →
      Spelled (p.tokens ++ us) (p.pathText ++ (gap ++ u))
  | .name n, _, us, gap, u, hgap, hstart, h => by
    rw [Sentence.tokens, Sentence.pathText]
    exact .cons (spells_word n) hgap hstart h
  | .sub p n, hplain, us, gap, u, hgap, hstart, h => by
    have hnil : [].all isWhitespace = true := rfl
    have hname : Spelled (n.token :: us) (n.chars ++ (gap ++ u)) :=
      .cons (spells_word n) hgap hstart h
    have hdot : Spelled (.dot :: n.token :: us) (['.'] ++ ([] ++ (n.chars ++ (gap ++ u)))) := by
      refine .cons .dot hnil ?_ hname
      generalize ([] ++ (n.chars ++ (gap ++ u)) : List Char).head? = next
      cases next <;> rfl
    rw [Sentence.plainBrackets] at hplain
    have hpath : Spelled (p.tokens ++ .dot :: n.token :: us)
        (p.pathText ++ ([] ++ (['.'] ++ ([] ++ (n.chars ++ (gap ++ u)))))) :=
      spelled_path p hplain hnil rfl hdot
    rw [Sentence.tokens, Sentence.pathText, List.append_assoc, List.append_assoc]
    exact hpath
  | .filtered p f, hplain, us, gap, u, hgap, hstart, h => by
    have hnil : [].all isWhitespace = true := rfl
    rw [Sentence.plainBrackets, Bool.and_eq_true, List.all_eq_true] at hplain
    have hclose : Spelled (.rbracket :: us) ([']'] ++ (gap ++ u)) := by
      refine .cons .rbracket hgap ?_ h
      generalize (gap ++ u).head? = next
      cases next <;> rfl
    have hinner : Spelled (f.tokens ++ .rbracket :: us) (spaced f.tokens ++ ([']'] ++ (gap ++ u))) := by
      refine spelled_spaced (fun t ht => ?_) hclose
      obtain ⟨text, htext⟩ := exists_spells f t ht
      exact spells_render htext (hplain.2 t ht)
    have hopen : Spelled (.lbracket :: (f.tokens ++ .rbracket :: us))
        (['['] ++ ([] ++ (spaced f.tokens ++ ([']'] ++ (gap ++ u))))) := by
      refine .cons .lbracket hnil ?_ hinner
      generalize ([] ++ (spaced f.tokens ++ ([']'] ++ (gap ++ u))) : List Char).head? = next
      cases next <;> rfl
    have hpath : Spelled (p.tokens ++ .lbracket :: (f.tokens ++ .rbracket :: us))
        (p.pathText ++ ([] ++ (['['] ++ ([] ++ (spaced f.tokens ++ ([']'] ++ (gap ++ u))))))) :=
      spelled_path p hplain.1 hnil rfl hopen
    rw [Sentence.tokens, Sentence.pathText, List.append_assoc, List.append_assoc, List.cons_append,
      List.cons_append, List.append_assoc, List.append_assoc]
    exact hpath

theorem spelled_present (p : Sentence .path) (h : p.plainBrackets = true) :
    Spelled (p.tokens ++ [(Operator.ofOp .pr).token])
      ((FilterExpr.attr (String.ofList p.pathText) .pr .nil).printBy text) := by
  have hgap : [' '].all isWhitespace = true := rfl
  rw [FilterExpr.printBy, String.toList_ofList]
  exact spelled_path p h hgap rfl (.last (spells_word (Operator.ofOp .pr).toWord))

theorem printBy_compare {op : ComparisonOp} (hop : op ≠ .pr) (path : String) (value : Any) :
    (FilterExpr.attr path op value).printBy text =
      path.toList ++ ' ' :: ((Operator.ofOp op).chars ++ ' ' :: text value) := by
  cases op <;> first | rfl | exact absurd rfl hop

/-- **A tree is written** as the sentence with all parentheses. -/
theorem spelled_fullBy (s : Sentence l) (hplain : s.plainBrackets = true)
    (htext : ∀ v ∈ s.tree.values, Spells (lit v).token (text v)) :
    Spelled (s.fullBy lit).tokens (s.tree.printBy text) := by
  induction s with
  | name n => exact spelled_present (.name n) hplain
  | sub p n => exact spelled_present (.sub p n) hplain
  | filtered p f => exact spelled_present (.filtered p f) hplain
  | present p w => exact spelled_present p hplain
  | compare p op w hop v =>
    have hgap : [' '].all isWhitespace = true := rfl
    have hvalue : Spells (lit v.value).token (text v.value) := by
      apply htext
      rw [Sentence.tree, FilterExpr.values, if_neg hop]
      exact List.mem_singleton_self _
    have hoperator : Spelled [(Operator.ofOp op).token, (lit v.value).token]
        ((Operator.ofOp op).chars ++ ' ' :: text v.value) :=
      Spelled.word_space (Operator.ofOp op).toWord (.last hvalue)
    rw [Sentence.fullBy, Sentence.tree, printBy_compare hop, String.toList_ofList]
    exact spelled_path p hplain hgap rfl hoperator
  | valuePath p f => exact spelled_present (.filtered p f) hplain
  | group s ih => exact ih hplain htext
  | primary s ih => exact ih hplain htext
  | not w s ih => exact (ih hplain htext).parens.word_space Word.not
  | operand s ih => exact ih hplain htext
  | and l w r ihl ihr =>
    rw [Sentence.plainBrackets, Bool.and_eq_true] at hplain
    have hgap : [' '].all isWhitespace = true := rfl
    have hleft := ihl hplain.1 fun v hv => htext v (List.mem_append_left _ hv)
    have hright := ihr hplain.2 fun v hv => htext v (List.mem_append_right _ hv)
    exact (hleft.append (hright.word_space Word.and) hgap rfl (by decide)).parens
  | conjunction s ih => exact ih hplain htext
  | or l w r ihl ihr =>
    rw [Sentence.plainBrackets, Bool.and_eq_true] at hplain
    have hgap : [' '].all isWhitespace = true := rfl
    have hleft := ihl hplain.1 fun v hv => htext v (List.mem_append_left _ hv)
    have hright := ihr hplain.2 fun v hv => htext v (List.mem_append_right _ hv)
    exact (hleft.append (hright.word_space Word.or) hgap rfl (by decide)).parens

theorem toList_string (std : Stdlib) (e : FilterExpr) :
    (e.string std).toList = e.printBy fun v => (sprintV std v).toList := by
  induction e with
  | attr attrPath op value =>
    cases op <;> simp [FilterExpr.string, FilterExpr.printBy, ComparisonOp.string,
      ComparisonOp.text]
  | and left right ihl ihr =>
    simp [FilterExpr.string, FilterExpr.printBy, parens, ihl, ihr]
  | or left right ihl ihr =>
    simp [FilterExpr.string, FilterExpr.printBy, parens, ihl, ihr]
  | not inner ih => simp [FilterExpr.string, FilterExpr.printBy, parens, ih]

end Printed

-- ---------------------------------------------------------------------------
-- The grammar and the parser
-- ---------------------------------------------------------------------------

section Grammar

variable {d : Sentence .or} {core w w' : List Char}

/-- A printed tree is read back exactly within its own limits. -/
theorem reread_iff {lit : Any → Literal} {text : Any → List Char}
    (hplain : d.plainBrackets = true) (hlit : ∀ v ∈ d.tree.values, (lit v).value = v)
    (htext : ∀ v ∈ d.tree.values, Spells (lit v).token (text v)) :
    parseFilter (String.ofList (d.tree.printBy text)) = .ok (some d.tree) ↔
      byteLength (d.tree.printBy text) ≤ maxFilterLen ∧ d.tree.operators < maxDepth := by
  have hspelled : Spelled (Sentence.conjunction (.operand (d.fullBy lit))).tokens
      (d.tree.printBy text) := spelled_fullBy d hplain htext
  have htree : (Sentence.conjunction (.operand (d.fullBy lit))).tree = d.tree :=
    tree_fullBy d hlit
  have hgroups : (Sentence.conjunction (.operand (d.fullBy lit))).groups = d.tree.operators :=
    groups_fullBy d
  have hattached : (Sentence.conjunction (.operand (d.fullBy lit))).attached = true :=
    attached_fullBy d
  have hread := parseFilter_text_iff hspelled
  rw [htree, hgroups] at hread
  rw [hread]
  exact ⟨fun hlimits => ⟨hlimits.1, hlimits.2.1⟩, fun hlimits => ⟨hlimits.1, hlimits.2, hattached⟩⟩

/-- **`ParseFilter` and the grammar**: the tree of a sentence is returned exactly if the text
is short enough, the groups are few enough, and no value path stands by itself. Printed with
all parentheses, the tree is read back exactly if that text is short enough and has few
enough operators; printed by `String`, under the same limits if the values need no quotes. -/
theorem parse_sentence_iff (std : Stdlib) (h : Spelled d.tokens core)
    (hw : w.all Strings.isSpace = true) (hw' : w'.all Strings.isSpace = true) :
    (parseFilter (String.ofList (w ++ (core ++ w'))) = .ok (some d.tree) ↔
      byteLength core ≤ maxFilterLen ∧ d.groups < maxDepth ∧ d.attached = true) ∧
    (d.plainBrackets = true →
      (parseFilter (String.ofList d.tree.print) = .ok (some d.tree) ↔
        byteLength d.tree.print ≤ maxFilterLen ∧ d.tree.operators < maxDepth)) ∧
    (d.plainBrackets = true → (∀ v ∈ d.tree.values, readsBare v = true) →
      (parseFilter (d.tree.string std) = .ok (some d.tree) ↔
        byteLength (d.tree.string std).toList ≤ maxFilterLen ∧
          d.tree.operators < maxDepth)) := by
  refine ⟨parseFilter_tree_iff h hw hw', fun hplain => ?_, fun hplain hbare => ?_⟩
  · exact reread_iff hplain (value_of_mem_values d) fun v _ => spells_value v
  · have hreread := reread_iff hplain (fun v hv => value_bare (hbare v hv))
      fun v hv => spells_bare std (hbare v hv)
    rwa [← toList_string, String.ofList_toList] at hreread

end Grammar

namespace Sample

def emails : Word .ident := ⟨['e', 'm', 'a', 'i', 'l', 's'], rfl, rfl⟩
def kind : Word .ident := ⟨['t', 'y', 'p', 'e'], rfl, rfl⟩
def active : Word .ident := ⟨['a', 'c', 't', 'i', 'v', 'e'], rfl, rfl⟩

/-- `type eq "work"`. -/
def isWork : Sentence .primary :=
  .compare (.name kind) .eq (.ofOp .eq) (by decide) (.text ['w', 'o', 'r', 'k'])

/-- `emails[type eq "work"]`, as a path. -/
def workEmails : Sentence .path :=
  .filtered (.name emails) (.conjunction (.operand (.primary isWork)))

/-- `emails[type eq "work"] pr and not (active eq false)`. -/
def filter : Sentence .or :=
  .conjunction (.and
    (.operand (.primary (.present workEmails (.ofOp .pr))))
    Word.and
    (.not Word.not (.primary (.group (.conjunction (.operand (.primary
      (.compare (.name active) .eq (.ofOp .eq) (by decide)
        (.word ⟨['f', 'a', 'l', 's', 'e'], rfl, rfl⟩)))))))))

/-- `active pr`, in parentheses. -/
def present : Sentence .and :=
  .operand (.primary (.group (.conjunction (.operand (.primary (.present (.name active)
    (.ofOp .pr)))))))

def presentText : List Char := parens (active.chars ++ ' ' :: ComparisonOp.pr.text)

/-- Groups side by side, one more than `n`. -/
def flat : Nat → Sentence .or
  | 0 => .conjunction present
  | n + 1 => .or (flat n) Word.or present

def flatText : Nat → List Char
  | 0 => presentText
  | n + 1 => flatText n ++ ' ' :: (Word.or.chars ++ ' ' :: presentText)

theorem byteLength_filter : byteLength filter.tree.print ≤ maxFilterLen ∧
    byteLength (filter.tree.string stdlib).toList ≤ maxFilterLen := by
  have htree : filter.tree = .and (.attr (String.ofList workEmails.pathText) .pr .nil)
      (.not (.attr (String.ofList (Sentence.name active).pathText) .eq (.bool false))) := rfl
  simp only [toList_string, htree, FilterExpr.print, FilterExpr.printBy, String.toList_ofList,
    workEmails, Sentence.pathText, sprintV]
  decide

theorem spelled_present : Spelled present.tokens presentText := by
  have hpr : Spelled [(Operator.ofOp .pr).token] ComparisonOp.pr.text :=
    .last (spells_word (Operator.ofOp .pr).toWord)
  exact (hpr.word_space active).parens

theorem spelled_flat (n : Nat) : Spelled (flat n).tokens (flatText n) := by
  induction n with
  | zero => exact spelled_present
  | succ n ih =>
    have hgap : [' '].all isWhitespace = true := rfl
    exact ih.append (spelled_present.word_space Word.or) hgap rfl (by decide)

theorem groups_flat (n : Nat) : (flat n).groups = n + 1 := by
  induction n with
  | zero => rfl
  | succ n ih => exact congrArg (· + 1) ih

theorem nesting_flat (n : Nat) : (flat n).nesting = 1 := by
  induction n with
  | zero => rfl
  | succ n ih =>
    rw [flat, Sentence.nesting, ih]
    rfl

theorem byteLength_flatText (n : Nat) : byteLength (flatText n) = 15 * n + 11 := by
  induction n with
  | zero => rfl
  | succ n ih =>
    have hlast : byteLength (' ' :: (Word.or.chars ++ ' ' :: presentText)) = 15 := rfl
    rw [byteLength] at ih hlast ⊢
    rw [flatText, List.map_append, List.sum_append, ih, hlast]
    omega

end Sample

open Sample in
theorem parse_sentence_iff_sample :
    parseFilter (String.ofList ([' '] ++ (filter.tree.print ++ []))) = .ok (some filter.tree) ∧
      parseFilter (String.ofList filter.tree.print) = .ok (some filter.tree) ∧
      parseFilter (filter.tree.string stdlib) = .ok (some filter.tree) := by
  have hspelled : Spelled (Sentence.conjunction (.operand (filter.fullBy .ofValue))).tokens
      filter.tree.print := spelled_fullBy filter rfl fun v _ => spells_value v
  have hwhite : [' '].all Strings.isSpace = true := by decide
  have hnil : [].all Strings.isSpace = true := rfl
  have htree : (Sentence.conjunction (.operand (filter.fullBy .ofValue))).tree = filter.tree :=
    tree_fullBy filter (value_of_mem_values filter)
  have hbare : ∀ v ∈ filter.tree.values, readsBare v = true := by
    show ∀ v ∈ [Any.bool false], readsBare v = true
    exact List.forall_mem_singleton.mpr rfl
  obtain ⟨hread, hprinted, hstring⟩ := parse_sentence_iff stdlib hspelled hwhite hnil
  rw [htree] at hread hprinted hstring
  exact ⟨hread.mpr ⟨byteLength_filter.1, by decide, by decide⟩,
    (hprinted (by decide)).mpr ⟨byteLength_filter.1, by decide⟩,
    (hstring (by decide) hbare).mpr ⟨byteLength_filter.2, by decide⟩⟩

open Sample in
/-- A hundred groups side by side: nested once, in 1496 characters. -/
theorem flat_filter_rejected :
    Spelled (flat 99).tokens (flatText 99) ∧ byteLength (flatText 99) = 1496 ∧
      (flat 99).nesting = 1 ∧
      parseFilter (String.ofList (flatText 99)) ≠ .ok (some (flat 99).tree) := by
  refine ⟨spelled_flat 99, byteLength_flatText 99, nesting_flat 99, fun hok => ?_⟩
  have hgroups : (flat 99).groups < maxDepth :=
    ((parseFilter_text_iff (spelled_flat 99)).mp hok).2.1
  rw [groups_flat] at hgroups
  exact absurd hgroups (by decide)

end Ggid.Identity
