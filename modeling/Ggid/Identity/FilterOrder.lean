import Mathlib.Data.String.Basic
import Ggid.Identity.ValuePath
import Ggid.Lib.Numerals

/-!
# Identity service — comparing numbers in filters

What `gt`, `ge`, `lt` and `le` make of two integers. Both are compared as texts: the one in the
filter as it is written, the attribute as it is if it is a string, and as `%g` prints it if it
is a number. Large numbers are printed with an exponent.

Texts come in the order of their signs, then of their leading digits, then of their lengths; for
negative numbers too. An attribute that is missing is the empty text, which comes before all.

* `text_lt_iff`     — which texts come before a numeral;
* `orderings_iff`   — when the four operators are those of the integers.
-/

namespace Ggid.Identity

open Ggid.Go Ggid.Lib

-- ---------------------------------------------------------------------------
-- Integers as texts
-- ---------------------------------------------------------------------------

/-- The decimal digits. -/
def decimal : Digits Char 10 where
  digit := Nat.digitChar
  two_le := by decide
  lt_iff := by decide

/-- How the digits of a number are printed: all of them, or the leading one, those behind the
point, and an exponent. -/
inductive Printed where
  | whole (n : Nat)
  | exponent (leading : Nat) (more exp : List Char)

namespace Printed

def text : Printed → List Char
  | .whole n => Nat.toDigits 10 n
  | .exponent leading more exp =>
    Nat.digitChar leading :: ((if more = [] then [] else '.' :: more) ++ 'e' :: '+' :: exp)

/-- The digits are those of the number, or any with an exponent. -/
def Of (n : Nat) : Printed → Prop
  | .whole m => m = n
  | .exponent leading more exp =>
    1 ≤ leading ∧ leading ≤ 9 ∧ more.all Char.isDigit = true ∧ exp.all Char.isDigit = true

/-- The digits come before those of `v`. -/
def Before (v : Nat) : Printed → Prop
  | .whole u => decimal.lead u v < decimal.lead v u ∨
      decimal.lead u v = decimal.lead v u ∧ decimal.size u < decimal.size v
  | .exponent leading more _ => leading < v / 10 ^ (decimal.size v - 1) ∨
      leading = v / 10 ^ (decimal.size v - 1) ∧ more ≠ [] ∧ 10 ≤ v

end Printed

/-- A printed number. -/
structure NumberText where
  negative : Bool
  digits   : Printed

namespace NumberText

def text (t : NumberText) : List Char := (if t.negative then ['-'] else []) ++ t.digits.text

/-- The text is one of the integer; zero may have a sign. -/
structure Of (t : NumberText) (a : Int) : Prop where
  of_neg : a < 0 → t.negative = true
  of_pos : 0 < a → t.negative = false
  digits : t.digits.Of a.natAbs

/-- The text comes before that of `b`. -/
def Before (t : NumberText) (b : Int) : Prop :=
  t.negative = true ∧ 0 ≤ b ∨ (t.negative = true ↔ b < 0) ∧ t.digits.Before b.natAbs

/-- The text is that of `b`. -/
def Same (t : NumberText) (b : Int) : Prop :=
  (t.negative = true ↔ b < 0) ∧ t.digits = .whole b.natAbs

/-- The text is where the number is. -/
def InOrder (t : NumberText) (a b : Int) : Prop := (a < b ↔ t.Before b) ∧ (a = b ↔ t.Same b)

/-- How an integer is written in full. -/
def ofInt (a : Int) : NumberText := ⟨decide (a < 0), .whole a.natAbs⟩

theorem Of.ofInt (a : Int) : (ofInt a).Of a where
  of_neg h := decide_eq_true h
  of_pos h := decide_eq_false h.not_gt
  digits := rfl

end NumberText

section Texts

variable {t : NumberText} {a b : Int} {p : Printed} {v : Nat}

theorem toDigits_eq_numeral (n : Nat) : Nat.toDigits 10 n = decimal.numeral n := by
  induction n using Nat.strongRecOn with
  | ind n ih =>
    rcases Nat.lt_or_ge n 10 with h | h
    · rw [Nat.toDigits_of_lt_base h, decimal.numeral_of_lt h]
      rfl
    · rw [Nat.toDigits_of_base_le (by decide) h, decimal.numeral_of_le h, ih (n / 10) (by omega)]
      rfl

theorem toList_toString (a : Int) : (toString a).toList = (NumberText.ofInt a).text := by
  rw [Int.toString_eq_repr, Int.repr_eq_if, NumberText.text, NumberText.ofInt, Printed.text]
  by_cases ha : 0 ≤ a
  · rw [if_pos ha, Nat.toList_repr, if_neg (by simpa using ha), List.nil_append]
    congr 1
    omega
  · rw [if_neg ha, String.toList_append, Nat.toList_repr, if_pos (by simpa using ha)]
    congr 2
    omega

theorem toDigits_digit {c : Char} (hc : c ∈ Nat.toDigits 10 v) : 48 ≤ c.toNat ∧ c.toNat ≤ 57 := by
  have hdigit := Nat.isDigit_of_mem_toDigits (by decide) (by decide) hc
  simp only [Char.isDigit, Bool.and_eq_true, decide_eq_true_eq] at hdigit
  exact hdigit

/-- A numeral and its leading digit. -/
theorem toDigits_cons (v : Nat) : ∃ tail, v / 10 ^ (decimal.size v - 1) < 10 ∧
    Nat.toDigits 10 v = Nat.digitChar (v / 10 ^ (decimal.size v - 1)) :: tail ∧
      (tail = [] ↔ v < 10) := by
  have hpos := decimal.size_pos v
  obtain ⟨tail, hlength, hsplit⟩ := decimal.numeral_split v (decimal.size v - 1) (by omega)
  have hsize := congrArg List.length hsplit
  rw [List.length_append, hlength] at hsize
  have hone : decimal.size (v / 10 ^ (decimal.size v - 1)) = 1 := by
    have hv : (decimal.numeral v).length = decimal.size v := rfl
    show (decimal.numeral (v / 10 ^ (decimal.size v - 1))).length = 1
    omega
  have hlt := decimal.size_eq_one_iff.mp hone
  refine ⟨tail, hlt, ?_, ?_⟩
  · rw [toDigits_eq_numeral, hsplit, decimal.numeral_of_lt hlt]
    rfl
  · rw [← List.length_eq_zero_iff, hlength, ← decimal.size_eq_one_iff]
    omega

/-- Which digits come before those of `v`. -/
theorem Printed.text_lt_iff {n : Nat} (hp : p.Of n) : p.text < Nat.toDigits 10 v ↔ p.Before v := by
  cases p with
  | whole u =>
    rw [Printed.text, toDigits_eq_numeral, toDigits_eq_numeral]
    exact decimal.numeral_lt_iff u v
  | exponent leading more exp =>
    obtain ⟨tail, hlt, hcons, htail⟩ := toDigits_cons v
    obtain ⟨-, hle, -, -⟩ := hp
    have hdigit : ∀ c ∈ tail, 48 ≤ c.toNat ∧ c.toNat ≤ 57 :=
      fun c hc => toDigits_digit (hcons ▸ List.mem_cons_of_mem _ hc)
    have hleading : leading < 10 := Nat.lt_succ_of_le hle
    have hrest : (if more = [] then [] else '.' :: more) ++ 'e' :: '+' :: exp < tail ↔
        more ≠ [] ∧ 10 ≤ v := by
      rw [← Nat.not_lt, ← htail]
      cases tail with
      | nil => simp
      | cons c tail =>
        have hc := hdigit c List.mem_cons_self
        -- a point comes before a digit, and the letter behind it
        have hpoint : '.' < c := show 46 < c.toNat by omega
        have hletter : ¬ 'e' < c ∧ 'e' ≠ c := by
          refine ⟨show ¬ 101 < c.toNat by omega, ?_⟩
          rintro rfl
          exact absurd hc (by decide)
        by_cases hmore : more = []
        · rw [if_pos hmore, List.nil_append, List.cons_lt_cons_iff]
          simp [hletter, hmore]
        · rw [if_neg hmore, List.cons_append, List.cons_lt_cons_iff]
          simp [hpoint, hmore]
    have hfirst := decimal.lt_iff leading hleading _ hlt
    have heq : Nat.digitChar leading = Nat.digitChar (v / 10 ^ (decimal.size v - 1)) ↔
        leading = v / 10 ^ (decimal.size v - 1) :=
      ⟨decimal.digit_inj hleading hlt, fun h => by rw [h]⟩
    rw [Printed.text, Printed.Before, hcons, List.cons_lt_cons_iff, hrest, heq]
    exact or_congr_left hfirst

theorem Printed.text_eq_iff {n : Nat} (hp : p.Of n) :
    p.text = Nat.toDigits 10 v ↔ p = .whole v := by
  cases p with
  | whole u =>
    rw [Printed.text, toDigits_eq_numeral, toDigits_eq_numeral, Printed.whole.injEq]
    exact ⟨decimal.numeral_inj, fun h => by rw [h]⟩
  | exponent leading more exp =>
    refine iff_of_false (fun htext => ?_) (fun h => nomatch h)
    have he : 'e' ∈ Nat.toDigits 10 v := by
      rw [← htext, Printed.text]
      simp
    exact absurd (toDigits_digit he) (by decide)

theorem Printed.text_cons {n : Nat} (hp : p.Of n) :
    ∃ c tail, p.text = c :: tail ∧ 48 ≤ c.toNat ∧ c.toNat ≤ 57 := by
  cases p with
  | whole u =>
    obtain ⟨tail, -, hcons, -⟩ := toDigits_cons u
    exact ⟨_, tail, hcons, toDigits_digit (hcons ▸ List.mem_cons_self)⟩
  | exponent leading more exp =>
    obtain ⟨-, hle, -, -⟩ := hp
    refine ⟨_, _, rfl, ?_⟩
    rw [Nat.toNat_digitChar_of_lt_ten (Nat.lt_succ_of_le hle)]
    omega

theorem NumberText.text_ofInt (b : Int) : (NumberText.ofInt b).text =
    (if b < 0 then ['-'] else []) ++ Nat.toDigits 10 b.natAbs := by
  simp [NumberText.text, NumberText.ofInt, Printed.text]

/-- **Which texts come before** that of an integer. -/
theorem NumberText.text_lt_iff (ht : t.Of a) (b : Int) :
    t.text < (NumberText.ofInt b).text ↔ t.Before b := by
  have hdigits := Printed.text_lt_iff (v := b.natAbs) ht.digits
  obtain ⟨c, tail, hc, hlow, -⟩ := Printed.text_cons ht.digits
  obtain ⟨tail', -, hb, -⟩ := toDigits_cons b.natAbs
  have hlow' := (toDigits_digit (hb ▸ List.mem_cons_self)).1
  rw [NumberText.text_ofInt, NumberText.text, NumberText.Before]
  cases hneg : t.negative with
  | true =>
    rcases Int.lt_or_le b 0 with hb' | hb'
    · rw [if_pos rfl, if_pos hb', List.singleton_append, List.singleton_append,
        List.cons_lt_cons_iff, hdigits]
      have hnot : ¬ (0 ≤ b) := Int.not_le.mpr hb'
      simp [hb', hnot]
    · -- the sign comes before any digit
      refine iff_of_true ?_ (.inl ⟨rfl, hb'⟩)
      rw [if_pos rfl, if_neg (Int.not_lt.mpr hb'), List.singleton_append, List.nil_append, hb]
      exact List.cons_lt_cons_iff.mpr (.inl (Nat.lt_of_lt_of_le (show 45 < 48 by decide) hlow'))
  | false =>
    rw [if_neg Bool.false_ne_true, List.nil_append]
    rcases Int.lt_or_le b 0 with hb' | hb'
    · rw [if_pos hb', hc, List.singleton_append, List.cons_lt_cons_iff]
      refine iff_of_false ?_ (by simp [hb'])
      rintro (hlt | ⟨rfl, -⟩)
      · exact absurd (Nat.lt_of_lt_of_le hlt (show 45 ≤ 48 by decide)) (Nat.not_lt.mpr hlow)
      · exact absurd hlow (by decide)
    · rw [if_neg (Int.not_lt.mpr hb'), List.nil_append, hdigits]
      simp [hb']

theorem NumberText.text_eq_iff (ht : t.Of a) (b : Int) :
    t.text = (NumberText.ofInt b).text ↔ t.Same b := by
  have hdigits := Printed.text_eq_iff (v := b.natAbs) ht.digits
  obtain ⟨c, tail, hc, hlow, -⟩ := Printed.text_cons ht.digits
  obtain ⟨tail', -, hb, -⟩ := toDigits_cons b.natAbs
  have hlow' := (toDigits_digit (hb ▸ List.mem_cons_self)).1
  rw [NumberText.text_ofInt, NumberText.text, NumberText.Same]
  cases hneg : t.negative with
  | true =>
    rcases Int.lt_or_le b 0 with hb' | hb'
    · rw [if_pos rfl, if_pos hb', List.singleton_append, List.singleton_append, List.cons.injEq,
        hdigits]
      simp [hb']
    · rw [if_pos rfl, if_neg (Int.not_lt.mpr hb'), List.singleton_append, List.nil_append, hb]
      refine iff_of_false (fun heq => ?_) fun h => absurd (h.1.mp rfl) (Int.not_lt.mpr hb')
      rw [← (List.cons.inj heq).1] at hlow'
      exact absurd hlow' (by decide)
  | false =>
    rw [if_neg Bool.false_ne_true, List.nil_append]
    rcases Int.lt_or_le b 0 with hb' | hb'
    · rw [if_pos hb', hc, List.singleton_append]
      refine iff_of_false (fun heq => ?_) fun h => nomatch h.1.mpr hb'
      rw [(List.cons.inj heq).1] at hlow
      exact absurd hlow (by decide)
    · rw [if_neg (Int.not_lt.mpr hb'), List.nil_append, hdigits]
      simp [hb']

/-- No text of a number has a `T` in it. -/
theorem NumberText.not_mem_text (ht : t.Of a) : 'T' ∉ t.text := by
  have hdigit : ∀ l : List Char, l.all Char.isDigit = true → 'T' ∉ l := by
    intro l hl hmem
    exact absurd (List.all_eq_true.mp hl _ hmem) (by decide)
  have hnumeral : ∀ n, 'T' ∉ Nat.toDigits 10 n := by
    intro n hmem
    exact absurd (toDigits_digit hmem) (by decide)
  have hsign : 'T' ∉ if t.negative = true then ['-'] else [] := by
    cases t.negative <;> decide
  rw [NumberText.text, List.mem_append, not_or]
  refine ⟨hsign, ?_⟩
  have hof := ht.digits
  cases hp : t.digits with
  | whole n => exact hnumeral n
  | exponent leading more exp =>
    rw [hp] at hof
    obtain ⟨-, hle, hmore, hexp⟩ := hof
    have hlead : 'T' ≠ Nat.digitChar leading := by
      intro heq
      have hlow := Nat.toNat_digitChar_of_lt_ten (Nat.lt_succ_of_le hle)
      rw [← heq] at hlow
      exact absurd (show 84 = 48 + leading from hlow) (by omega)
    have hexp' := hdigit exp hexp
    have hmore' : 'T' ∉ if more = [] then [] else '.' :: more := by
      have hmore'' := hdigit more hmore
      split_ifs <;> simp [hmore'']
    simp [Printed.text, hlead, hmore', hexp']

end Texts

-- ---------------------------------------------------------------------------
-- The four operators
-- ---------------------------------------------------------------------------

inductive Inequality where
  | gt | ge | lt | le

namespace Inequality

def op : Inequality → ComparisonOp
  | .gt => .gt
  | .ge => .ge
  | .lt => .lt
  | .le => .le

def holds (a b : Int) : Inequality → Prop
  | .gt => b < a
  | .ge => b ≤ a
  | .lt => a < b
  | .le => a ≤ b

/-- `attr op b`, by its tree. -/
def expr (c : Inequality) (p : Sentence .path) (b : Int) : FilterExpr :=
  .attr (String.ofList p.pathText) c.op (.string (toString b))

theorem op_ne_pr (c : Inequality) : c.op ≠ .pr := by
  cases c <;> decide

/-- `attr op b`. -/
def sentence (c : Inequality) (p : Sentence .path) (w : Operator c.op) (v : Literal) :
    Sentence .or :=
  .conjunction (.operand (.primary (.compare p c.op w c.op_ne_pr v)))

/-- What the operator makes of a comparison. -/
def accepts : Inequality → Ordering → Bool
  | .gt, o => o = .gt
  | .ge, o => o ≠ .lt
  | .lt, o => o = .lt
  | .le, o => o ≠ .gt

end Inequality

/-- The value an attribute path has in a resource. -/
def valueAt (std : Stdlib) (attrs : GoMap) (p : Sentence .path) : Any :=
  resolveAttrPath std (2 * p.pathText.length + 2) attrs p.pathText

/-- The number is finite and has nothing behind the point. -/
structure IsWhole (x : Float64) (a : Int) : Prop where
  finite   : x.magnitude < Float64.infinity
  truncate : x.truncate = a
  whole    : 2 ^ (1075 - max (x.magnitude / 2 ^ 52) 1) ∣
    if x.magnitude / 2 ^ 52 = 0 then x.magnitude % 2 ^ 52 else x.magnitude % 2 ^ 52 + 2 ^ 52

/-- The attribute is the integer: as a string, or as a number. -/
def HoldsInteger (a : Int) (actual : Any) : Prop :=
  actual = .string (toString a) ∨ ∃ x, actual = .float64 x ∧ IsWhole x a

/-- `%g` prints all digits of an integer, or some of them and an exponent. -/
def PrintsIntegers (std : Stdlib) : Prop :=
  ∀ x a, IsWhole x a → ∃ t : NumberText, t.Of a ∧ std.sprintG x = String.ofList t.text

/-- In a time there is a `T` between the date and the clock. -/
def TimesHaveT (std : Stdlib) : Prop := ∀ s : String, 'T' ∉ s.toList → std.parseRFC3339 s = none

section Orders

variable {std : Stdlib} {a b : Int} {o : Ordering}

theorem compare_lt_iff (s t : String) : compare s t = .lt ↔ s.toList < t.toList := by
  show compareOfLessAndEq s t = .lt ↔ s < t
  rw [compareOfLessAndEq]
  split_ifs <;> simp_all

/-- What an operator compares. -/
theorem Inequality.evaluate_expr (c : Inequality) (p : Sentence .path) (attrs : GoMap) (b : Int) :
    (c.expr p b).evaluate std attrs =
      c.accepts (compareValues std (valueAt std attrs p) (.string (toString b))) := by
  have hop : ∀ actual expected, evaluateComparison std actual c.op expected =
      c.accepts (compareValues std actual expected) := by
    intro actual expected
    cases c <;> rfl
  rw [← hop]
  show evaluateComparison std (resolveAttrPath std _ attrs (String.ofList _).toList) c.op _ = _
  rw [String.toList_ofList]
  rfl

/-- The four operators determine a comparison. -/
theorem Inequality.forall_accepts_iff :
    (∀ c : Inequality, c.accepts o = true ↔ c.holds a b) ↔
      (a < b ↔ o = .lt) ∧ (a = b ↔ o = .eq) := by
  constructor
  · intro h
    have hlt : o = .lt ↔ a < b := by simpa [accepts, holds] using h .lt
    have hle : o ≠ .gt ↔ a ≤ b := by simpa [accepts, holds] using h .le
    refine ⟨hlt.symm, ?_⟩
    cases o <;> simp at hlt hle ⊢ <;> omega
  · rintro ⟨hlt, heq⟩ c
    cases o <;> cases c <;> simp [accepts, holds] at hlt heq ⊢ <;> omega

/-- Texts without a `T` are compared as such. -/
theorem compareValues_text (htime : TimesHaveT std) {actual : Any}
    (h : 'T' ∉ (toStr std actual).toList) (expected : Any) :
    compareValues std actual expected = compare (toStr std actual) (toStr std expected) := by
  rw [compareValues, htime _ h]

/-- How an attribute that is an integer is compared. -/
theorem HoldsInteger.text (hprint : PrintsIntegers std) {actual : Any} (h : HoldsInteger a actual) :
    ∃ t : NumberText, t.Of a ∧ toStr std actual = String.ofList t.text := by
  rcases h with rfl | ⟨x, rfl, hx⟩
  · refine ⟨.ofInt a, .ofInt a, ?_⟩
    rw [← toList_toString, String.ofList_toList]
    rfl
  · exact hprint x a hx

theorem NumberText.forall_accepts_iff {t : NumberText} (ht : t.Of a) (b : Int) :
    (∀ c : Inequality, c.accepts (compare (String.ofList t.text) (toString b)) = true ↔
      c.holds a b) ↔ t.InOrder a b := by
  have hlt := compare_lt_iff (String.ofList t.text) (toString b)
  have heq : compare (String.ofList t.text) (toString b) = .eq ↔
      t.text = (NumberText.ofInt b).text := by
    rw [Std.compare_eq_iff_eq, ← toList_toString, ← String.toList_inj, String.toList_ofList]
  rw [String.toList_ofList, toList_toString, NumberText.text_lt_iff ht] at hlt
  rw [NumberText.text_eq_iff ht] at heq
  rw [Inequality.forall_accepts_iff, hlt, heq]
  rfl

theorem toString_ne_empty (b : Int) : (toString b).toList ≠ [] := by
  rw [toList_toString, NumberText.text_ofInt]
  obtain ⟨tail, -, hb, -⟩ := toDigits_cons b.natAbs
  rw [hb]
  simp

end Orders

/-- **The order of integers in filters.** The four operators are those of the integers exactly if
the text of the attribute is where the number is: by its sign, its leading digits and its
length. Where the attribute is missing, `lt` and `le` always hold. -/
theorem orderings_iff (std : Stdlib) (hprint : PrintsIntegers std) (htime : TimesHaveT std)
    (p : Sentence .path) (attrs : GoMap) (b : Int) :
    (∀ (c : Inequality) (op : Operator c.op) (v : Literal) (core w w' : List Char)
      (e : FilterExpr), v.value = .string (toString b) →
      Spelled (c.sentence p op v).tokens core → w.all Strings.isSpace = true →
      w'.all Strings.isSpace = true →
      parseFilter (String.ofList (w ++ (core ++ w'))) = .ok (some e) → e = c.expr p b) ∧
    (∀ a : Int, HoldsInteger a (valueAt std attrs p) →
      ∃ t : NumberText, t.Of a ∧ toStr std (valueAt std attrs p) = String.ofList t.text ∧
        ((∀ c : Inequality, (c.expr p b).evaluate std attrs = true ↔ c.holds a b) ↔
          t.InOrder a b)) ∧
    (valueAt std attrs p = .nil → ∀ c : Inequality,
      (c.expr p b).evaluate std attrs = true ↔ c = .lt ∨ c = .le) := by
  refine ⟨fun c op v core w w' e hv hcore hw hw' he => ?_, fun a ha => ?_, fun hnil c => ?_⟩
  · rw [eq_tree_of_parseFilter hcore hw hw' he, Inequality.expr, ← hv]
    rfl
  · obtain ⟨t, ht, htext⟩ := ha.text hprint
    refine ⟨t, ht, htext, ?_⟩
    have hT : 'T' ∉ (toStr std (valueAt std attrs p)).toList := by
      rw [htext, String.toList_ofList]
      exact NumberText.not_mem_text ht
    simp only [Inequality.evaluate_expr, compareValues_text htime hT, htext]
    exact NumberText.forall_accepts_iff ht b
  · have hempty : toStr std .nil = "" := rfl
    have hlt : compare "" (toString b) = .lt := by
      rw [compare_lt_iff]
      cases hb : (toString b).toList with
      | nil => exact absurd hb (toString_ne_empty b)
      | cons ch tail => exact List.nil_lt_cons ch tail
    have hT : 'T' ∉ (toStr std .nil).toList := by
      rw [hempty]
      decide
    rw [Inequality.evaluate_expr, hnil, compareValues_text htime hT, hempty]
    show c.accepts (compare "" (toString b)) = true ↔ _
    rw [hlt]
    cases c <;> simp [Inequality.accepts]

-- ---------------------------------------------------------------------------
-- Nine and ten
-- ---------------------------------------------------------------------------

namespace Sample

/-- The conversions, with integers in full. -/
def printing : Stdlib := { stdlib with sprintG := fun x => toString x.truncate }

theorem printing_printsIntegers : PrintsIntegers printing := by
  intro x a hx
  refine ⟨.ofInt a, .ofInt a, ?_⟩
  rw [← toList_toString, String.ofList_toList, ← hx.truncate]
  rfl

theorem printing_timesHaveT : TimesHaveT printing := fun _ _ => rfl

def age : Word .ident := ⟨['a', 'g', 'e'], rfl, rfl⟩

/-- `9`, as a number. -/
def nine : Float64 := ⟨0x4022000000000000#64⟩

theorem isWhole_nine : IsWhole nine 9 where
  finite := by decide
  truncate := by decide
  whole := by decide

def aged : GoMap := [("age", .float64 nine)]

theorem valueAt_aged : valueAt printing aged (.name age) = .float64 nine := by
  rw [valueAt, Sentence.pathText, resolveAttrPath_word]
  rfl

def ten : Numeral := ⟨['1', '0'], rfl⟩

/-- `age gt 10`. -/
def ageGtTen : List Char :=
  (Sentence.name age).pathText ++ ([' '] ++ (['g', 't'] ++ ' ' :: ten.chars))

theorem parse_ageGtTen : parseFilter (String.ofList ageGtTen) =
    .ok (some (Inequality.gt.expr (.name age) 10)) := by
  have hten : Spelled [(Literal.number ten).token] ten.chars := .last (.number rfl)
  have htest : Spelled [(Operator.ofOp .gt).token, (Literal.number ten).token]
      (['g', 't'] ++ ' ' :: ten.chars) := hten.word_space (Operator.ofOp .gt).toWord
  have hgap : [' '].all isWhitespace = true := rfl
  have hspelled : Spelled (Inequality.gt.sentence (.name age) (.ofOp .gt) (.number ten)).tokens
      ageGtTen := spelled_path (.name age) rfl hgap rfl htest
  have hlength : byteLength ageGtTen ≤ maxFilterLen := by
    rw [ageGtTen, Sentence.pathText]
    decide
  exact (parseFilter_text_iff hspelled).mpr ⟨hlength, Nat.zero_lt_succ 99, rfl⟩

theorem valueAt_nobody : valueAt printing [] (.name age) = .nil := by
  rw [valueAt, Sentence.pathText, resolveAttrPath_word]
  rfl

end Sample

open Sample in
/-- The texts of nine and eight are in their order. -/
theorem orderings_iff_eight : HoldsInteger 9 (valueAt printing aged (.name age)) ∧
    ∀ c : Inequality, (c.expr (.name age) 8).evaluate printing aged = true ↔ c.holds 9 8 := by
  have hnine : HoldsInteger 9 (valueAt printing aged (.name age)) :=
    .inr ⟨nine, valueAt_aged, isWhole_nine⟩
  refine ⟨hnine, ?_⟩
  obtain ⟨-, hholds, -⟩ := orderings_iff printing printing_printsIntegers printing_timesHaveT
    (.name age) aged 8
  obtain ⟨t, ht, htext, horder⟩ := hholds 9 hnine
  rw [valueAt_aged] at htext
  have hnines : t.text = ['9'] := by
    rw [← String.toList_ofList (l := t.text), ← htext]
    decide
  have hlt : ¬ t.text < (NumberText.ofInt 8).text := by
    rw [hnines]
    decide
  have hne : t.text ≠ (NumberText.ofInt 8).text := by
    rw [hnines]
    decide
  rw [NumberText.text_lt_iff ht] at hlt
  rw [ne_eq, NumberText.text_eq_iff ht] at hne
  exact horder.mpr ⟨iff_of_false (by decide) hlt, iff_of_false (by decide) hne⟩

open Sample in
/-- Nine is greater than ten, and an age that is missing is below it. -/
theorem nine_greater_than_ten :
    parseFilter (String.ofList ageGtTen) = .ok (some (Inequality.gt.expr (.name age) 10)) ∧
      ¬ ((Inequality.gt.expr (.name age) 10).evaluate printing aged = true ↔
        Inequality.gt.holds 9 10) ∧
      (Inequality.lt.expr (.name age) 10).evaluate printing [] = true := by
  refine ⟨parse_ageGtTen, fun h => ?_, ?_⟩
  · have heval : (Inequality.gt.expr (.name age) 10).evaluate printing aged = true := by
      rw [Inequality.evaluate_expr, valueAt_aged]
      decide
    exact absurd (h.mp heval) (show ¬ (10 : Int) < 9 by decide)
  · rw [Inequality.evaluate_expr, valueAt_nobody]
    decide

end Ggid.Identity
