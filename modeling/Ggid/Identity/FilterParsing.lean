import Ggid.Identity.FilterGrammar

/-!
# Identity service — parsing the sentences of the filter grammar

Which sentences `ParseFilter` accepts. Every group takes one of the hundred calls of
`parseOr`, and none gives it back; so a sentence is followed with the calls made before it,
and its groups add to them.

* `read_sentence`       — a sentence is read to its end while there are calls left;
* `refuse_sentence`     — and is refused when there are not;
* `parseFilter_tree_iff` — the tree of a sentence is returned exactly within the limits.
-/

namespace Ggid.Identity

open Ggid.Go

-- ---------------------------------------------------------------------------
-- Parsing
-- ---------------------------------------------------------------------------

/-- `parseOr`, behind the check of the depth. -/
def parseAlternatives (parseOr : Parse) (p : Parser) :
    Except FilterError (FilterExpr × Parser) := do
  let (left, p) ← parseAnd parseOr p
  continueOr parseOr p.tokens.length left p

section Parsing

variable {ts rest : List Token} {level depth : Nat} {P : Parse} {left : FilterExpr} {p' : Parser}

theorem parseOr_succ (hdepth : depth < maxDepth) :
    parseOr (level + 1) ⟨ts, depth⟩ = parseAlternatives (parseOr level) ⟨ts, depth + 1⟩ := by
  rw [parseOr, if_neg (by show ¬ maxDepth < depth + 1; omega)]
  rfl

theorem parseOr_deep (hdepth : maxDepth ≤ depth) :
    parseOr level ⟨ts, depth⟩ = .error .tooComplex := by
  cases level with
  | zero => rfl
  | succ level =>
    rw [parseOr, if_pos (by show maxDepth < depth + 1; omega)]
    rfl

theorem continueAnd_stop {turns : Nat} (h : (peek rest).kind ≠ .and) :
    continueAnd P turns left ⟨rest, depth⟩ = .ok (left, ⟨rest, depth⟩) := by
  cases turns with
  | zero => rfl
  | succ turns => rw [continueAnd, if_neg h]

theorem continueOr_stop {turns : Nat} (h : (peek rest).kind ≠ .or) :
    continueOr P turns left ⟨rest, depth⟩ = .ok (left, ⟨rest, depth⟩) := by
  cases turns with
  | zero => rfl
  | succ turns => rw [continueOr, if_neg h]

theorem continueAnd_word {turns : Nat} (w : Word .and) :
    continueAnd P (turns + 1) left ⟨w.token :: rest, depth⟩ = (do
      let (right, p) ← parseNot P depth rest
      continueAnd P turns (.and left right) p) := rfl

theorem continueOr_word {turns : Nat} (w : Word .or) :
    continueOr P (turns + 1) left ⟨w.token :: rest, depth⟩ = (do
      let (right, p) ← parseAnd P ⟨rest, depth⟩
      continueOr P turns (.or left right) p) := rfl

theorem parseNot_word (w : Word .not) :
    parseNot P depth (w.token :: rest) = (do
      let (inner, p) ← parseNot P depth rest
      return (.not inner, p)) := rfl

theorem parsePrimary_group (ts : List Token) :
    parsePrimary P ⟨.lparen :: ts, depth⟩ = (do
      let (expr, p) ← P ⟨ts, depth⟩
      if (peek p.tokens).kind ≠ .rparen then throw (.expectedRParen (peek p.tokens).value)
      return (expr, p.advance)) := rfl

theorem path_starts (p : Sentence .path) : ∃ (n : Word .ident) (us : List Token),
    p.tokens = n.token :: us := by
  match p with
  | .name n => exact ⟨n, [], rfl⟩
  | .sub p n =>
    obtain ⟨n', us, h⟩ := path_starts p
    exact ⟨n', _, by rw [Sentence.tokens, h, List.cons_append]⟩
  | .filtered p f =>
    obtain ⟨n', us, h⟩ := path_starts p
    exact ⟨n', _, by rw [Sentence.tokens, h, List.cons_append]⟩

theorem parsePrimary_attr (p : Sentence .path) (us : List Token) :
    parsePrimary P ⟨p.tokens ++ us, depth⟩ = (do
      let (expr, tokens) ← parseAttrExpr (p.tokens ++ us)
      return (expr, ⟨tokens, depth⟩)) := by
  obtain ⟨n, us', h⟩ := path_starts p
  rw [h]
  rfl

/-- Nothing but `not` is taken for it. -/
theorem parseNot_primary (s : Sentence .primary) :
    parseNot P depth (s.tokens ++ rest) = parsePrimary P ⟨s.tokens ++ rest, depth⟩ := by
  have hpath : ∀ (p : Sentence .path) (us : List Token),
      parseNot P depth (p.tokens ++ us) = parsePrimary P ⟨p.tokens ++ us, depth⟩ := by
    intro p us
    obtain ⟨n, us', h⟩ := path_starts p
    rw [h]
    rfl
  cases s with
  | present p w => rw [Sentence.tokens, List.append_assoc]; exact hpath p _
  | compare p op w hop v => rw [Sentence.tokens, List.append_assoc]; exact hpath p _
  | valuePath p f => rw [Sentence.tokens, List.append_assoc]; exact hpath p _
  | group s => rfl

/-- What a sentence of each level is read by, and where that gets. -/
def ReadAs (level depth : Nat) (rest : List Token) : {l : Level} → Sentence l → Prop
  | .path, _ => True
  | .primary, s => parsePrimary (parseOr level) ⟨s.tokens ++ rest, depth⟩ =
      .ok (s.tree, ⟨rest, depth + s.groups⟩)
  | .not, s => parseNot (parseOr level) depth (s.tokens ++ rest) =
      .ok (s.tree, ⟨rest, depth + s.groups⟩)
  | .and, s => ∃ turns, rest.length ≤ turns ∧
      parseAnd (parseOr level) ⟨s.tokens ++ rest, depth⟩ =
        continueAnd (parseOr level) turns s.tree ⟨rest, depth + s.groups⟩
  | .or, s => (peek rest).kind ≠ .and → ∃ turns, rest.length ≤ turns ∧
      parseAlternatives (parseOr level) ⟨s.tokens ++ rest, depth⟩ =
        continueOr (parseOr level) turns s.tree ⟨rest, depth + s.groups⟩

/-- **A sentence is read to its end**, as long as there are groups left for it. -/
theorem read_sentence {l : Level} (s : Sentence l) (hattached : s.attached = true)
    (hdepth : depth + s.groups ≤ maxDepth) (hlevel : maxDepth < level + depth) :
    ReadAs level depth rest s := by
  induction s generalizing level depth rest with
  | name | sub | filtered => trivial
  | present p w =>
    rw [ReadAs, Sentence.tokens, List.append_assoc, parsePrimary_attr]
    exact congrArg (· >>= _) (parseAttrExpr_present p w)
  | compare p op w hop v =>
    rw [ReadAs, Sentence.tokens, List.append_assoc, parsePrimary_attr]
    exact congrArg (· >>= _) (parseAttrExpr_compare p w hop v)
  | valuePath => exact absurd hattached (Bool.eq_false_iff.mp rfl)
  | group s ih =>
    rw [Sentence.attached] at hattached
    rw [Sentence.groups] at hdepth
    obtain ⟨level, rfl⟩ : ∃ n, level = n + 1 := ⟨level - 1, by omega⟩
    have hclose : (peek (.rparen :: rest)).kind = .rparen := rfl
    have hbody : ReadAs level (depth + 1) (.rparen :: rest) s := ih hattached (by omega) (by omega)
    obtain ⟨turns, -, hread⟩ := hbody (by simp [hclose])
    have hinner : parseOr (level + 1) ⟨s.tokens ++ .rparen :: rest, depth⟩ =
        .ok (s.tree, ⟨.rparen :: rest, depth + 1 + s.groups⟩) := by
      rw [parseOr_succ (by omega), hread]
      exact continueOr_stop (by simp [hclose])
    rw [ReadAs, Sentence.tokens, List.cons_append, List.append_assoc, List.singleton_append,
      parsePrimary_group, hinner, Sentence.tree, Sentence.groups]
    show Except.ok (s.tree, Parser.mk rest (depth + 1 + s.groups)) = _
    rw [Nat.add_right_comm, Nat.add_assoc]
  | primary s ih =>
    rw [Sentence.attached] at hattached
    rw [Sentence.groups] at hdepth
    rw [ReadAs, Sentence.tokens, parseNot_primary]
    exact ih hattached hdepth hlevel
  | not w s ih =>
    rw [Sentence.attached] at hattached
    rw [Sentence.groups] at hdepth
    have hread : parseNot (parseOr level) depth (s.tokens ++ rest) =
      .ok (s.tree, ⟨rest, depth + s.groups⟩) := ih hattached hdepth hlevel
    rw [ReadAs, Sentence.tokens, List.cons_append, parseNot_word, hread]
    rfl
  | operand s ih =>
    rw [Sentence.attached] at hattached
    rw [Sentence.groups] at hdepth
    have hread : parseNot (parseOr level) depth (s.tokens ++ rest) =
      .ok (s.tree, ⟨rest, depth + s.groups⟩) := ih hattached hdepth hlevel
    refine ⟨rest.length, le_refl _, ?_⟩
    rw [parseAnd]
    show (do let (left, p) ← parseNot (parseOr level) depth (s.tokens ++ rest); _) = _
    rw [hread]
    rfl
  | and l w r ihl ihr =>
    rw [Sentence.attached, Bool.and_eq_true] at hattached
    rw [Sentence.groups] at hdepth
    obtain ⟨turns, hturns, hleft⟩ : ReadAs level depth (w.token :: (r.tokens ++ rest)) l :=
      ihl hattached.1 (by omega) hlevel
    have hright : parseNot (parseOr level) (depth + l.groups) (r.tokens ++ rest) =
        .ok (r.tree, ⟨rest, depth + l.groups + r.groups⟩) :=
      ihr hattached.2 (by omega) (by omega)
    obtain ⟨turns, rfl⟩ := Nat.exists_eq_add_of_le' (Nat.le_trans (Nat.le_add_left 1 _) hturns)
    simp only [List.length_cons, List.length_append] at hturns
    refine ⟨turns, by omega, ?_⟩
    rw [Sentence.tokens, List.append_assoc, List.cons_append, hleft, continueAnd_word, hright,
      Sentence.tree, Sentence.groups, ← Nat.add_assoc]
    rfl
  | conjunction s ih =>
    rw [Sentence.attached] at hattached
    rw [Sentence.groups] at hdepth
    intro hstop
    obtain ⟨turns, -, hread⟩ : ReadAs level depth rest s := ih hattached hdepth hlevel
    refine ⟨rest.length, le_refl _, ?_⟩
    rw [parseAlternatives, Sentence.tokens, hread, continueAnd_stop hstop]
    rfl
  | or l w r ihl ihr =>
    rw [Sentence.attached, Bool.and_eq_true] at hattached
    rw [Sentence.groups] at hdepth
    intro hstop
    have hword : (peek (w.token :: (r.tokens ++ rest))).kind = .or := rfl
    have hl : ReadAs level depth (w.token :: (r.tokens ++ rest)) l :=
      ihl hattached.1 (by omega) hlevel
    obtain ⟨turns, hturns, hleft⟩ := hl (by simp [hword])
    obtain ⟨turns', -, hright⟩ : ReadAs level (depth + l.groups) rest r :=
      ihr hattached.2 (by omega) (by omega)
    rw [continueAnd_stop hstop] at hright
    obtain ⟨turns, rfl⟩ := Nat.exists_eq_add_of_le' (Nat.le_trans (Nat.le_add_left 1 _) hturns)
    simp only [List.length_cons, List.length_append] at hturns
    refine ⟨turns, by omega, ?_⟩
    rw [Sentence.tokens, List.append_assoc, List.cons_append, hleft, continueOr_word, hright,
      Sentence.tree, Sentence.groups, ← Nat.add_assoc]
    rfl

/-- What can be behind a sentence. -/
def followers : List TokenKind := [.eof, .and, .or, .rparen]

def RefusedAs (level depth : Nat) (rest : List Token) : {l : Level} → Sentence l → Prop
  | .path, _ => True
  | .primary, s => ∃ err, parsePrimary (parseOr level) ⟨s.tokens ++ rest, depth⟩ = .error err
  | .not, s => ∃ err, parseNot (parseOr level) depth (s.tokens ++ rest) = .error err
  | .and, s => ∃ err, parseAnd (parseOr level) ⟨s.tokens ++ rest, depth⟩ = .error err
  | .or, s => ∃ err, parseAlternatives (parseOr level) ⟨s.tokens ++ rest, depth⟩ = .error err

/-- **A sentence is refused** where a value path stands by itself, or the groups are too
many. -/
theorem refuse_sentence {l : Level} (s : Sentence l) (hdepth : depth ≤ maxDepth)
    (hlevel : maxDepth < level + depth) (hrest : (peek rest).kind ∈ followers)
    (hrefused : ¬ (s.attached = true ∧ depth + s.groups ≤ maxDepth)) :
    RefusedAs level depth rest s := by
  induction s generalizing level depth rest with
  | name | sub | filtered => trivial
  | present p w => exact absurd ⟨rfl, hdepth⟩ hrefused
  | compare p op w hop v => exact absurd ⟨rfl, hdepth⟩ hrefused
  | valuePath p f =>
    have hkinds : (peek rest).kind ≠ .dot ∧ (peek rest).kind ≠ .lbracket ∧
        (peek rest).kind ≠ .ident := by
      refine ⟨?_, ?_, ?_⟩ <;> (intro hkind; rw [hkind] at hrest; exact absurd hrest (by decide))
    obtain ⟨err, herr⟩ := parseAttrExpr_valuePath p f hkinds.1 hkinds.2.1 hkinds.2.2
    rw [Sentence.tokens, List.append_assoc] at herr
    refine ⟨err, ?_⟩
    rw [Sentence.tokens, List.append_assoc, parsePrimary_attr, herr]
    rfl
  | group s ih =>
    rw [Sentence.attached, Sentence.groups] at hrefused
    have hinner : ∃ err, parseOr level ⟨s.tokens ++ .rparen :: rest, depth⟩ = .error err := by
      by_cases hdeep : depth = maxDepth
      · exact ⟨_, parseOr_deep (by omega)⟩
      · obtain ⟨level, rfl⟩ : ∃ n, level = n + 1 := ⟨level - 1, by omega⟩
        rw [parseOr_succ (by omega)]
        exact ih (by omega) (by omega) (show TokenKind.rparen ∈ followers by decide)
          (by rwa [Nat.add_right_comm, Nat.add_assoc])
    obtain ⟨err, herr⟩ := hinner
    refine ⟨err, ?_⟩
    rw [Sentence.tokens, List.cons_append, List.append_assoc, List.singleton_append,
      parsePrimary_group, herr]
    rfl
  | primary s ih =>
    rw [Sentence.attached, Sentence.groups] at hrefused
    rw [RefusedAs, Sentence.tokens, parseNot_primary]
    exact ih hdepth hlevel hrest hrefused
  | not w s ih =>
    rw [Sentence.attached, Sentence.groups] at hrefused
    obtain ⟨err, herr⟩ := ih hdepth hlevel hrest hrefused
    refine ⟨err, ?_⟩
    rw [Sentence.tokens, List.cons_append, parseNot_word, herr]
    rfl
  | operand s ih =>
    rw [Sentence.attached, Sentence.groups] at hrefused
    obtain ⟨err, herr⟩ := ih hdepth hlevel hrest hrefused
    refine ⟨err, ?_⟩
    rw [parseAnd]
    show (do let (left, p) ← parseNot (parseOr level) depth (s.tokens ++ rest); _) = _
    rw [herr]
    rfl
  | and l w r ihl ihr =>
    rw [Sentence.attached, Sentence.groups, Bool.and_eq_true] at hrefused
    rw [RefusedAs, Sentence.tokens, List.append_assoc, List.cons_append]
    by_cases hl : l.attached = true ∧ depth + l.groups ≤ maxDepth
    · obtain ⟨turns, hturns, hleft⟩ : ReadAs level depth (w.token :: (r.tokens ++ rest)) l :=
        read_sentence l hl.1 hl.2 hlevel
      obtain ⟨turns, rfl⟩ := Nat.exists_eq_add_of_le' (Nat.le_trans (Nat.le_add_left 1 _) hturns)
      obtain ⟨err, herr⟩ : RefusedAs level (depth + l.groups) rest r :=
        ihr hl.2 (by omega) hrest
          fun hr => hrefused ⟨⟨hl.1, hr.1⟩, by rw [← Nat.add_assoc]; exact hr.2⟩
      refine ⟨err, ?_⟩
      rw [hleft, continueAnd_word, herr]
      rfl
    · exact ihl hdepth hlevel (show TokenKind.and ∈ followers by decide) hl
  | conjunction s ih =>
    rw [Sentence.attached, Sentence.groups] at hrefused
    obtain ⟨err, herr⟩ := ih hdepth hlevel hrest hrefused
    refine ⟨err, ?_⟩
    rw [parseAlternatives, Sentence.tokens, herr]
    rfl
  | or l w r ihl ihr =>
    rw [Sentence.attached, Sentence.groups, Bool.and_eq_true] at hrefused
    rw [RefusedAs, Sentence.tokens, List.append_assoc, List.cons_append]
    by_cases hl : l.attached = true ∧ depth + l.groups ≤ maxDepth
    · have hword : (peek (w.token :: (r.tokens ++ rest))).kind = .or := rfl
      have hread : ReadAs level depth (w.token :: (r.tokens ++ rest)) l :=
        read_sentence l hl.1 hl.2 hlevel
      obtain ⟨turns, hturns, hleft⟩ := hread (by simp [hword])
      obtain ⟨turns, rfl⟩ := Nat.exists_eq_add_of_le' (Nat.le_trans (Nat.le_add_left 1 _) hturns)
      obtain ⟨err, herr⟩ : RefusedAs level (depth + l.groups) rest r :=
        ihr hl.2 (by omega) hrest
          fun hr => hrefused ⟨⟨hl.1, hr.1⟩, by rw [← Nat.add_assoc]; exact hr.2⟩
      refine ⟨err, ?_⟩
      rw [hleft, continueOr_word, herr]
      rfl
    · exact ihl hdepth hlevel (show TokenKind.or ∈ followers by decide) hl

end Parsing

-- ---------------------------------------------------------------------------
-- White space around a filter
-- ---------------------------------------------------------------------------

section Trimming

variable {ts : List Token} {t : Token} {core s w w' : List Char} {ch : Char}

theorem not_isSpace_of_visible (h : 32 < ch.toNat) (h' : ch.toNat < 128) :
    Strings.isSpace ch = false := by
  rw [Bool.eq_false_iff]
  intro hspace
  simp only [Strings.isSpace, List.mem_cons, List.not_mem_nil, or_false, Bool.or_eq_true,
    Bool.and_eq_true, decide_eq_true_eq] at hspace
  omega

theorem not_isSpace_of_number (h : isNumberChar ch = true ∨ ch = '-') :
    Strings.isSpace ch = false := by
  rw [isNumberChar, Bool.or_eq_true, isDigit_iff, decide_eq_true_eq] at h
  rcases h with (h | rfl) | rfl
  · exact not_isSpace_of_visible (by omega) (by omega)
  · decide
  · decide

theorem not_isSpace_of_ident (h : isIdentChar ch = true) : Strings.isSpace ch = false := by
  rw [isIdentChar, Bool.or_eq_true, Bool.or_eq_true, isAlpha_iff, isDigit_iff,
    decide_eq_true_eq] at h
  rcases h with (h | h) | rfl
  · exact not_isSpace_of_visible (by omega) (by omega)
  · exact not_isSpace_of_visible (by omega) (by omega)
  · decide

/-- No white space at either end. -/
structure Trimmed (s : List Char) : Prop where
  head : s.head?.any Strings.isSpace = false
  last : s.getLast?.any Strings.isSpace = false
  ne   : s ≠ []

theorem trimmed_of_all (hne : s ≠ []) (h : ∀ ch ∈ s, Strings.isSpace ch = false) : Trimmed s := by
  refine ⟨?_, ?_, hne⟩
  · rw [List.head?_eq_some_head hne]
    simp [h _ (List.head_mem hne)]
  · rw [List.getLast?_eq_some_getLast hne]
    simp [h _ (List.getLast_mem hne)]

theorem Trimmed.append (h : Trimmed s) (h' : Trimmed core) (gap : List Char) :
    Trimmed (s ++ (gap ++ core)) := by
  refine ⟨?_, ?_, by simp [h.ne]⟩
  · rw [List.head?_append_of_ne_nil _ h.ne]
    exact h.head
  · rw [List.getLast?_append_of_ne_nil _ (by simp [h'.ne]), List.getLast?_append_of_ne_nil _ h'.ne]
    exact h'.last

theorem trimmed_quoted {val : List Char} (h : SpellsString val s) : Trimmed ('"' :: s) := by
  have hlast : s.getLast? = some '"' := by
    induction h with
    | close => rfl
    | plain _ _ _ ih => rw [List.getLast?_cons, ih]; rfl
    | escaped _ _ ih => rw [List.getLast?_cons, List.getLast?_cons, ih]; rfl
  refine ⟨show Strings.isSpace '"' = false by decide, ?_, by simp⟩
  rw [List.getLast?_cons, hlast]
  decide

theorem trimmed_token (h : Spells t s) : Trimmed s := by
  cases h with
  | lparen | rparen | lbracket | rbracket | dot => exact ⟨by decide, by decide, by decide⟩
  | string h => exact trimmed_quoted h
  | word h =>
    obtain _ | ⟨ch, tail⟩ := s
    · exact absurd h (by decide)
    obtain ⟨hstart, hrun⟩ := Bool.and_eq_true_iff.mp h
    refine trimmed_of_all (by simp) fun c hc => not_isSpace_of_ident ?_
    rcases List.mem_cons.mp hc with rfl | hc
    · rw [isIdentChar, Bool.or_right_comm, hstart, Bool.true_or]
    · exact List.all_eq_true.mp hrun c hc
  | number h =>
    obtain _ | ⟨ch, tail⟩ := s
    · exact absurd h (by decide)
    obtain ⟨hstart, hrun⟩ := Bool.and_eq_true_iff.mp h
    refine trimmed_of_all (by simp) fun c hc => not_isSpace_of_number ?_
    rcases List.mem_cons.mp hc with rfl | hc
    · rw [Bool.or_eq_true, Bool.and_eq_true, decide_eq_true_eq] at hstart
      exact hstart.imp (fun h => by rw [isNumberChar, h, Bool.true_or]) And.left
    · exact .inl (List.all_eq_true.mp hrun c hc)

theorem trimmed_spelled (h : Spelled ts s) : Trimmed s := by
  induction h with
  | last h => exact trimmed_token h
  | cons h _ _ _ ih => exact (trimmed_token h).append ih _

theorem trimSpace_trimmed (h : Trimmed core) (hw : w.all Strings.isSpace = true)
    (hw' : w'.all Strings.isSpace = true) :
    Strings.trimSpace (String.ofList (w ++ (core ++ w'))) = String.ofList core := by
  have hhead : (core ++ w').head?.any Strings.isSpace = false := by
    rw [List.head?_append_of_ne_nil _ h.ne]
    exact h.head
  have hlast : core.reverse.head?.any Strings.isSpace = false := by
    rw [List.head?_reverse]
    exact h.last
  rw [Strings.trimSpace, String.toList_ofList, (takeWhile_run hw hhead).2, List.rdropWhile,
    List.reverse_append, (takeWhile_run (by simpa using hw') hlast).2, List.reverse_reverse]

end Trimming

-- ---------------------------------------------------------------------------
-- Accepted sentences
-- ---------------------------------------------------------------------------

section Accepted

variable {d : Sentence .or} {core w w' : List Char}

theorem parseFilter_spelled (h : Spelled d.tokens core) (hw : w.all Strings.isSpace = true)
    (hw' : w'.all Strings.isSpace = true) (hlength : byteLength core ≤ maxFilterLen) :
    parseFilter (String.ofList (w ++ (core ++ w'))) = (do
      let (expr, p) ← parseAlternatives (parseOr maxDepth) ⟨d.tokens ++ [Token.eof], 1⟩
      if (peek p.tokens).kind ≠ .eof then throw (.unexpectedToken (peek p.tokens).value)
      return some expr) := by
  have htrimmed : Trimmed core := trimmed_spelled h
  have htokens : tokenize core = .ok (d.tokens ++ [.eof]) :=
    tokenizeFrom_spelled h (List.all_nil) (le_refl _)
  rw [parseFilter, trimSpace_trimmed htrimmed hw hw']
  simp only [String.toList_ofList, if_neg htrimmed.ne, if_neg (Nat.not_lt.mpr hlength), htokens]
  show (do let (expr, p) ← parseOr (maxDepth + 1) ⟨d.tokens ++ [Token.eof], 0⟩; _) = _
  rw [parseOr_succ (by decide)]

/-- Within the limits the tree of a sentence is returned, and outside them an error. -/
theorem parseFilter_cases (h : Spelled d.tokens core) (hw : w.all Strings.isSpace = true)
    (hw' : w'.all Strings.isSpace = true) :
    (parseFilter (String.ofList (w ++ (core ++ w'))) = .ok (some d.tree) ∧
      byteLength core ≤ maxFilterLen ∧ d.groups < maxDepth ∧ d.attached = true) ∨
    (∃ err, parseFilter (String.ofList (w ++ (core ++ w'))) = .error err) ∧
      ¬ (byteLength core ≤ maxFilterLen ∧ d.groups < maxDepth ∧ d.attached = true) := by
  have heof : (peek [Token.eof]).kind = .eof := rfl
  by_cases hlength : byteLength core ≤ maxFilterLen
  · rw [parseFilter_spelled h hw hw' hlength]
    by_cases hread : d.attached = true ∧ 1 + d.groups ≤ maxDepth
    · have hsentence : ReadAs maxDepth 1 [.eof] d := read_sentence d hread.1 hread.2 (by omega)
      obtain ⟨turns, -, hparse⟩ := hsentence (by simp [heof])
      rw [hparse, continueOr_stop (by simp [heof])]
      exact Or.inl ⟨rfl, hlength, by omega, hread.1⟩
    · obtain ⟨err, herr⟩ : RefusedAs maxDepth 1 [.eof] d :=
        refuse_sentence d (by decide) (by omega) (by decide) hread
      rw [herr]
      exact Or.inr ⟨⟨err, rfl⟩, fun hlimits => hread ⟨hlimits.2.2, by omega⟩⟩
  · have hlong : parseFilter (String.ofList (w ++ (core ++ w'))) = .error .tooLong := by
      have htrimmed : Trimmed core := trimmed_spelled h
      rw [parseFilter, trimSpace_trimmed htrimmed hw hw']
      simp only [String.toList_ofList, if_neg htrimmed.ne, if_pos (Nat.lt_of_not_le hlength)]
    exact Or.inr ⟨⟨_, hlong⟩, fun hlimits => hlength hlimits.1⟩

/-- **The tree of a sentence is returned** exactly within the limits. -/
theorem parseFilter_tree_iff (h : Spelled d.tokens core) (hw : w.all Strings.isSpace = true)
    (hw' : w'.all Strings.isSpace = true) :
    parseFilter (String.ofList (w ++ (core ++ w'))) = .ok (some d.tree) ↔
      byteLength core ≤ maxFilterLen ∧ d.groups < maxDepth ∧ d.attached = true := by
  rcases parseFilter_cases h hw hw' with ⟨hok, hlimits⟩ | ⟨⟨err, herr⟩, hnot⟩
  · exact iff_of_true hok hlimits
  · rw [herr]
    exact iff_of_false (fun hok => nomatch hok) hnot

/-- Nothing else is returned for it. -/
theorem eq_tree_of_parseFilter {e : FilterExpr} (h : Spelled d.tokens core)
    (hw : w.all Strings.isSpace = true) (hw' : w'.all Strings.isSpace = true)
    (he : parseFilter (String.ofList (w ++ (core ++ w'))) = .ok (some e)) : e = d.tree := by
  rcases parseFilter_cases h hw hw' with ⟨hok, -⟩ | ⟨⟨err, herr⟩, -⟩
  · rw [hok, Except.ok.injEq, Option.some.injEq] at he
    exact he.symm
  · rw [herr] at he
    exact nomatch he

theorem parseFilter_text_iff (h : Spelled d.tokens core) :
    parseFilter (String.ofList core) = .ok (some d.tree) ↔
      byteLength core ≤ maxFilterLen ∧ d.groups < maxDepth ∧ d.attached = true := by
  have hnil : [].all Strings.isSpace = true := rfl
  have hread := parseFilter_tree_iff h hnil hnil
  rwa [List.nil_append, List.append_nil] at hread

end Accepted

end Ggid.Identity
