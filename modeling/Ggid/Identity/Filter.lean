import Ggid.Go.Strings
import Ggid.Go.Value

/-!
# Identity service — SCIM filters

The lexer and the parser for SCIM filters: a recursive descent with one function for each
precedence. `parseOr` counts its calls and gives up beyond 100; the count is never taken
back, so it is the number of groups so far and not how deep they are nested.

Errors are given by their kind and what they quote.
-/

namespace Ggid.Identity

open Ggid.Go

-- ---------------------------------------------------------------------------
-- Expressions
-- ---------------------------------------------------------------------------

inductive ComparisonOp where
  | eq | ne | co | sw | ew | pr | gt | ge | lt | le
  deriving DecidableEq

inductive FilterExpr where
  | attr (attrPath : String) (op : ComparisonOp) (value : Any)
  | and (left right : FilterExpr)
  | or (left right : FilterExpr)
  | not (inner : FilterExpr)

def ComparisonOp.string : ComparisonOp → String
  | .eq => "eq"
  | .ne => "ne"
  | .co => "co"
  | .sw => "sw"
  | .ew => "ew"
  | .pr => "pr"
  | .gt => "gt"
  | .ge => "ge"
  | .lt => "lt"
  | .le => "le"

/-- `String`: a value is printed by `%v`, a string without quotes. -/
def FilterExpr.string (std : Stdlib) : FilterExpr → String
  | .attr attrPath .pr _ => attrPath ++ " pr"
  | .attr attrPath op value => attrPath ++ " " ++ op.string ++ " " ++ sprintV std value
  | .and left right => "(" ++ left.string std ++ " and " ++ right.string std ++ ")"
  | .or left right => "(" ++ left.string std ++ " or " ++ right.string std ++ ")"
  | .not inner => "not (" ++ inner.string std ++ ")"

/-- `%q` marks what is quoted. -/
inductive FilterError where
  /-- `filter expression too long (max 4096 characters)` -/
  | tooLong
  /-- `filter lex error: unexpected character %q at position %d` -/
  | unexpectedCharacter (ch : Char) (position : Nat)
  /-- `filter lex error: unterminated string literal` -/
  | unterminatedString
  /-- `unexpected token %q after filter` -/
  | unexpectedToken (value : List Char)
  /-- `filter expression too complex (max depth 100)` -/
  | tooComplex
  /-- `expected ')' but got %q` -/
  | expectedRParen (got : List Char)
  /-- `expected attribute name but got %q` -/
  | expectedAttribute (got : List Char)
  /-- `expected sub-attribute name after '.' but got %q` -/
  | expectedSubAttribute (got : List Char)
  /-- `unterminated '[' in attribute path` -/
  | unterminatedBracket
  /-- `expected comparison operator after %q but got %q` -/
  | expectedOperator (attrPath got : List Char)
  /-- `unknown comparison operator %q` -/
  | unknownOperator (got : List Char)
  /-- `expected value after operator %q but got %q` -/
  | expectedValue (op got : List Char)
  deriving DecidableEq

-- ---------------------------------------------------------------------------
-- Lexer
-- ---------------------------------------------------------------------------

inductive TokenKind where
  | eof | ident | string | number | lparen | rparen | lbracket | rbracket | dot | and | or | not
  deriving DecidableEq

structure Token where
  kind  : TokenKind
  value : List Char
  deriving DecidableEq

def isDigit (ch : Char) : Bool := '0' ≤ ch && ch ≤ '9'

def isAlpha (ch : Char) : Bool := ('a' ≤ ch && ch ≤ 'z') || ('A' ≤ ch && ch ≤ 'Z')

def isWhitespace (ch : Char) : Bool := ch = ' ' || ch = '\t' || ch = '\n'

def isNumberChar (ch : Char) : Bool := isDigit ch || ch = '.'

def isIdentChar (ch : Char) : Bool := isAlpha ch || isDigit ch || ch = '_'

/-- `strings.ToLower`, of an identifier. -/
def lower (ident : List Char) : List Char := ident.map Char.toLower

/-- `len(s)`. -/
def byteLength (s : List Char) : Nat := (s.map Char.utf8Size).sum

/-- The rest of a string literal, behind the opening quote. -/
def readString : List Char → Option (List Char × List Char)
  | [] => none
  | '\\' :: next :: rest => (readString rest).map fun (val, rest) => (next :: val, rest)
  | '"' :: rest => some ([], rest)
  | ch :: rest => (readString rest).map fun (val, rest) => (ch :: val, rest)

/-- The kind of an identifier. -/
def identKind (val : List Char) : TokenKind :=
  if lower val = ['a', 'n', 'd'] then .and
  else if lower val = ['o', 'r'] then .or
  else if lower val = ['n', 'o', 't'] then .not
  else .ident

/-- One turn of the loop of `tokenize`, at a character that is no white space. -/
def nextToken (input : List Char) (ch : Char) (tail : List Char) :
    Except FilterError (Token × List Char) :=
  if ch = '(' then .ok (⟨.lparen, [ch]⟩, tail)
  else if ch = ')' then .ok (⟨.rparen, [ch]⟩, tail)
  else if ch = '[' then .ok (⟨.lbracket, [ch]⟩, tail)
  else if ch = ']' then .ok (⟨.rbracket, [ch]⟩, tail)
  else if ch = '.' then .ok (⟨.dot, [ch]⟩, tail)
  else if ch = '"' then
    match readString tail with
    | some (val, rest) => .ok (⟨.string, val⟩, rest)
    | none => .error .unterminatedString
  else if isDigit ch || (ch = '-' && tail.head?.any isDigit) then
    .ok (⟨.number, ch :: tail.takeWhile isNumberChar⟩, tail.dropWhile isNumberChar)
  else if isAlpha ch || ch = '_' then
    let val := ch :: tail.takeWhile isIdentChar
    .ok (⟨identKind val, val⟩, tail.dropWhile isIdentChar)
  else .error (.unexpectedCharacter ch (byteLength input - byteLength (ch :: tail)))

/-- Every turn takes a character at least, so as many turns as characters are enough. -/
def tokenizeFrom (input : List Char) : Nat → List Char → Except FilterError (List Token)
  | 0, _ => .ok [⟨.eof, []⟩]
  | turns + 1, rest =>
    match rest.dropWhile isWhitespace with
    | [] => .ok [⟨.eof, []⟩]
    | ch :: tail => do
      let (tok, rest) ← nextToken input ch tail
      let tokens ← tokenizeFrom input turns rest
      return tok :: tokens

def tokenize (input : List Char) : Except FilterError (List Token) :=
  tokenizeFrom input input.length input

-- ---------------------------------------------------------------------------
-- Attribute paths
-- ---------------------------------------------------------------------------

def peek (tokens : List Token) : Token := tokens.head?.getD ⟨.eof, []⟩

/-- A token, as it goes into an attribute path. -/
def Token.render (t : Token) : List Char :=
  if t.kind = .string then '"' :: (t.value ++ ['"']) else t.value

/-- What is between brackets, up to the one that matches, and the tokens from there. -/
def readBrackets : Nat → List Token → List Char × List Token
  | _, [] => ([], [])
  | depth, t :: ts =>
    if t.kind = .eof ∨ (t.kind = .rbracket ∧ depth = 1) then ([], t :: ts)
    else
      let depth := if t.kind = .lbracket then depth + 1
        else if t.kind = .rbracket then depth - 1 else depth
      let (text, rest) := readBrackets depth ts
      (t.render ++ ' ' :: text, rest)

/-- The loop of `parseAttrPath`; every turn takes a token. -/
def extendPath : Nat → List Char → List Token → Except FilterError (List Char × List Token)
  | 0, sb, tokens => .ok (sb, tokens)
  | turns + 1, sb, tokens =>
    if (peek tokens).kind = .dot then
      let subTok := peek tokens.tail
      if subTok.kind ≠ .ident then .error (.expectedSubAttribute subTok.value)
      else extendPath turns (sb ++ '.' :: subTok.value) tokens.tail.tail
    else if (peek tokens).kind = .lbracket then
      let (text, rest) := readBrackets 1 tokens.tail
      if (peek rest).kind ≠ .rbracket then .error .unterminatedBracket
      else extendPath turns (sb ++ '[' :: (text ++ [']'])) rest.tail
    else .ok (sb, tokens)

def parseAttrPath (tokens : List Token) : Except FilterError (List Char × List Token) :=
  let tok := peek tokens
  if tok.kind ≠ .ident then .error (.expectedAttribute tok.value)
  else extendPath tokens.length tok.value tokens.tail

-- ---------------------------------------------------------------------------
-- Parser
-- ---------------------------------------------------------------------------

def parseComparisonOp (s : List Char) : Option ComparisonOp :=
  if s = ['e', 'q'] then some .eq
  else if s = ['n', 'e'] then some .ne
  else if s = ['c', 'o'] then some .co
  else if s = ['s', 'w'] then some .sw
  else if s = ['e', 'w'] then some .ew
  else if s = ['p', 'r'] then some .pr
  else if s = ['g', 't'] then some .gt
  else if s = ['g', 'e'] then some .ge
  else if s = ['l', 't'] then some .lt
  else if s = ['l', 'e'] then some .le
  else none

/-- `true`, `false`, `null`, or an unquoted string. -/
def identValue (val : List Char) : Any :=
  if lower val = ['t', 'r', 'u', 'e'] then .bool true
  else if lower val = ['f', 'a', 'l', 's', 'e'] then .bool false
  else if lower val = ['n', 'u', 'l', 'l'] then .nil
  else .string (String.ofList val)

def parseValue (op : List Char) (tok : Token) : Except FilterError Any :=
  match tok.kind with
  | .string => .ok (.string (String.ofList tok.value))
  | .number => .ok (.string (String.ofList tok.value))
  | .ident => .ok (identValue tok.value)
  | _ => .error (.expectedValue op tok.value)

def parseAttrExpr (tokens : List Token) : Except FilterError (FilterExpr × List Token) := do
  let (attrPath, tokens) ← parseAttrPath tokens
  let opTok := peek tokens
  if opTok.kind ≠ .ident then throw (.expectedOperator attrPath opTok.value)
  match parseComparisonOp (lower opTok.value) with
  | none => throw (.unknownOperator opTok.value)
  | some .pr => return (.attr (String.ofList attrPath) .pr .nil, tokens.tail)
  | some op =>
    let val ← parseValue (lower opTok.value) (peek tokens.tail)
    return (.attr (String.ofList attrPath) op val, tokens.tail.tail)

/-- The tokens that are left, and the calls of `parseOr` so far. -/
structure Parser where
  tokens : List Token
  depth  : Nat

abbrev Parse := Parser → Except FilterError (FilterExpr × Parser)

def Parser.advance (p : Parser) : Parser := { p with tokens := p.tokens.tail }

def parsePrimary (parseOr : Parse) (p : Parser) : Except FilterError (FilterExpr × Parser) :=
  if (peek p.tokens).kind = .lparen then do
    let (expr, p) ← parseOr p.advance
    if (peek p.tokens).kind ≠ .rparen then throw (.expectedRParen (peek p.tokens).value)
    return (expr, p.advance)
  else do
    let (expr, tokens) ← parseAttrExpr p.tokens
    return (expr, { p with tokens := tokens })

def parseNot (parseOr : Parse) (depth : Nat) :
    List Token → Except FilterError (FilterExpr × Parser)
  | [] => parsePrimary parseOr ⟨[], depth⟩
  | t :: ts =>
    if t.kind = .not then do
      let (inner, p) ← parseNot parseOr depth ts
      return (.not inner, p)
    else parsePrimary parseOr ⟨t :: ts, depth⟩

/-- The loop of `parseAnd`; every turn takes a token. -/
def continueAnd (parseOr : Parse) : Nat → FilterExpr → Parse
  | 0, left, p => .ok (left, p)
  | turns + 1, left, p =>
    if (peek p.tokens).kind = .and then do
      let (right, p) ← parseNot parseOr p.depth p.tokens.tail
      continueAnd parseOr turns (.and left right) p
    else .ok (left, p)

def parseAnd (parseOr : Parse) (p : Parser) : Except FilterError (FilterExpr × Parser) := do
  let (left, p) ← parseNot parseOr p.depth p.tokens
  continueAnd parseOr p.tokens.length left p

/-- The loop of `parseOr`. -/
def continueOr (parseOr : Parse) : Nat → FilterExpr → Parse
  | 0, left, p => .ok (left, p)
  | turns + 1, left, p =>
    if (peek p.tokens).kind = .or then do
      let (right, p) ← parseAnd parseOr p.advance
      continueOr parseOr turns (.or left right) p
    else .ok (left, p)

def maxDepth : Nat := 100

/-- Calls are nested no deeper than they are counted, so `maxDepth + 1` levels are
enough. -/
def parseOr : Nat → Parse
  | 0, _ => .error .tooComplex
  | level + 1, p => do
    let p := { p with depth := p.depth + 1 }
    if maxDepth < p.depth then throw .tooComplex
    let (left, p) ← parseAnd (parseOr level) p
    continueOr (parseOr level) p.tokens.length left p

def maxFilterLen : Nat := 4096

/-- No expression stands for no filter. -/
def parseFilter (filter : String) : Except FilterError (Option FilterExpr) :=
  let filter := (Strings.trimSpace filter).toList
  if filter = [] then .ok none
  else if maxFilterLen < byteLength filter then .error .tooLong
  else do
    let tokens ← tokenize filter
    let (expr, p) ← parseOr (maxDepth + 1) ⟨tokens, 0⟩
    if (peek p.tokens).kind ≠ .eof then throw (.unexpectedToken (peek p.tokens).value)
    return some expr

namespace Sample

/-- The conversions, as far as ASCII text without numbers and dates needs them. -/
def stdlib : Stdlib where
  sprintG := fun _ => ""
  sscanG := fun _ => Float64.zero
  equalFold := fun a b => lower a.toList = lower b.toList
  toLower := fun s => String.ofList (lower s.toList)
  trimSpace := Strings.trimSpace
  parseRFC3339 := fun _ => none
  parseDateOnly := fun _ => none
  cidrContains := fun _ _ => false

end Sample

end Ggid.Identity
