import Ggid.Go.Value
import Mathlib.Data.Nat.Digits.Lemmas

/-!
# Bytes

Byte strings, where it matters that a Go string is one, with the decimal and the
hexadecimal texts that go into them. Each of these texts determines what it was made
of; a reader gives the value back.
-/

namespace Ggid.Go

/-- `[]byte`, and a `string` whose bytes are counted. -/
abbrev Bytes := List UInt8

/-- The bytes of an ASCII text. -/
def ascii (s : String) : Bytes := s.toList.map fun c => UInt8.ofNat c.toNat

/-- `'-'`. -/
def dash : UInt8 := 45

/-- `':'`. -/
def colon : UInt8 := 58

/-- `'|'`. -/
def bar : UInt8 := 124

/-- `strings.LastIndex`, of one byte; none stands for `-1`. -/
def lastIndexByte (bs : Bytes) (b : UInt8) : Option Nat :=
  (bs.reverse.idxOf? b).map fun i => bs.length - 1 - i

-- ---------------------------------------------------------------------------
-- Digits
-- ---------------------------------------------------------------------------

/-- A digit, as a byte. -/
def digitByte (n : Nat) : UInt8 := UInt8.ofNat (hexDigit n).toNat

/-- The value of a digit. -/
def digitValue (b : UInt8) : Nat := if b.toNat < 58 then b.toNat - 48 else b.toNat - 87

theorem digitValue_digitByte : ∀ n < 16, digitValue (digitByte n) = n := by decide

theorem digitByte_ne_dash : ∀ n < 16, digitByte n ≠ dash := by decide

/-- The digits of a number, most significant first; none for zero. -/
def digitBytes (base n : Nat) : Bytes := (Nat.digits base n).reverse.map digitByte

/-- Reads digits in a base. -/
def readDigits (base : Nat) (bs : Bytes) : Nat := Nat.ofDigits base (bs.reverse.map digitValue)

theorem map_digitValue {base n : Nat} (h1 : 1 < base) (h16 : base ≤ 16) :
    ((Nat.digits base n).map digitByte).map digitValue = Nat.digits base n := by
  rw [List.map_map, List.map_congr_left (g := id), List.map_id]
  intro d hd
  exact digitValue_digitByte d (lt_of_lt_of_le (Nat.digits_lt_base h1 hd) h16)

/-- Leading zeros do not matter. -/
theorem readDigits_padded {base n k : Nat} (h1 : 1 < base) (h16 : base ≤ 16) :
    readDigits base (List.replicate k (digitByte 0) ++ digitBytes base n) = n := by
  rw [readDigits, digitBytes, List.reverse_append, List.reverse_replicate, ← List.map_reverse,
    List.reverse_reverse, List.map_append, map_digitValue h1 h16, List.map_replicate,
    digitValue_digitByte 0 (by decide), Nat.ofDigits_append_replicate_zero, Nat.ofDigits_digits]

theorem readDigits_digitBytes {base n : Nat} (h1 : 1 < base) (h16 : base ≤ 16) :
    readDigits base (digitBytes base n) = n :=
  readDigits_padded (k := 0) h1 h16

theorem dash_not_mem_digitBytes {base n : Nat} (h1 : 1 < base) (h16 : base ≤ 16) :
    dash ∉ digitBytes base n := by
  intro hmem
  obtain ⟨d, hd, heq⟩ := List.mem_map.mp hmem
  have hlt : d < 16 := lt_of_lt_of_le (Nat.digits_lt_base h1 (List.mem_reverse.mp hd)) h16
  exact digitByte_ne_dash d hlt heq

-- ---------------------------------------------------------------------------
-- `fmt.Sprintf`
-- ---------------------------------------------------------------------------

/-- `fmt.Sprintf("%04x", n)`: at least four digits. -/
def sprint04x (n : Nat) : Bytes :=
  List.replicate (4 - (digitBytes 16 n).length) (digitByte 0) ++ digitBytes 16 n

theorem sprint04x_injective : Function.Injective sprint04x := by
  intro n m h
  have hread := congrArg (readDigits 16) h
  unfold sprint04x at hread
  rwa [readDigits_padded (by decide) (by decide), readDigits_padded (by decide) (by decide)]
    at hread

/-- Sixteen bits fit into four digits. -/
theorem sprint04x_length {n : Nat} (h : n < 2 ^ 16) : (sprint04x n).length = 4 := by
  have hdigits : (digitBytes 16 n).length ≤ 4 := by
    rw [digitBytes, List.length_map, List.length_reverse]
    exact (Nat.digits_length_le_iff (by decide) n).mpr (by simpa using h)
  rw [sprint04x, List.length_append, List.length_replicate]
  omega

theorem sprint04x_length_mono : Monotone fun n => (sprint04x n).length := by
  intro n m hle
  have hdigits : (digitBytes 16 n).length ≤ (digitBytes 16 m).length := by
    rw [digitBytes, digitBytes, List.length_map, List.length_map, List.length_reverse,
      List.length_reverse]
    exact Nat.le_length_digits_le 16 n m hle
  simp only [sprint04x, List.length_append, List.length_replicate]
  omega

theorem dash_not_mem_sprint04x (n : Nat) : dash ∉ sprint04x n := by
  rw [sprint04x, List.mem_append, not_or]
  refine ⟨fun hmem => ?_, dash_not_mem_digitBytes (by decide) (by decide)⟩
  exact digitByte_ne_dash 0 (by decide) (List.eq_of_mem_replicate hmem).symm

/-- `fmt.Sprintf("%d", n)` of a natural number. -/
def decimal (n : Nat) : Bytes := if n = 0 then [digitByte 0] else digitBytes 10 n

theorem readDigits_decimal (n : Nat) : readDigits 10 (decimal n) = n := by
  unfold decimal
  split
  · rename_i hzero
    rw [hzero]
    decide
  · exact readDigits_digitBytes (by decide) (by decide)

theorem dash_not_mem_decimal (n : Nat) : dash ∉ decimal n := by
  unfold decimal
  split
  · decide
  · exact dash_not_mem_digitBytes (by decide) (by decide)

/-- `fmt.Sprintf("%d", i)`. -/
def sprintD (i : Int) : Bytes := if i < 0 then dash :: decimal i.natAbs else decimal i.natAbs

theorem sprintD_injective : Function.Injective sprintD := by
  intro i j h
  unfold sprintD at h
  have habs : ∀ {n m : Nat}, decimal n = decimal m → n = m := fun {n m} heq => by
    rw [← readDigits_decimal n, heq, readDigits_decimal]
  have hsign : ∀ {n m : Nat}, dash :: decimal n ≠ decimal m := fun {n m} heq =>
    dash_not_mem_decimal m (heq ▸ List.mem_cons_self)
  split at h <;> split at h
  · have hsame := habs (List.cons.inj h).2
    omega
  · exact absurd h hsign
  · exact absurd h.symm hsign
  · have hsame := habs h
    omega

-- ---------------------------------------------------------------------------
-- `strconv.ParseInt`
-- ---------------------------------------------------------------------------

def isDigit (b : UInt8) : Bool := decide (48 ≤ b.toNat) && decide (b.toNat ≤ 57)

/-- The sign of a number, and what comes behind it. -/
def readSign : Bytes → Bool × Bytes
  | [] => (false, [])
  | b :: rest => if b = dash then (true, rest) else if b = 43 then (false, rest)
    else (false, b :: rest)

/-- `strconv.ParseInt(s, 10, 64)`; none is an error. -/
def parseInt64 (s : Bytes) : Option Int :=
  let (negative, digits) := readSign s
  if digits = [] || !digits.all isDigit then none
  else
    let n := readDigits 10 digits
    if negative then (if n ≤ 2 ^ 63 then some (-(n : Int)) else none)
    else if n < 2 ^ 63 then some n else none

theorem isDigit_digitByte : ∀ n < 10, isDigit (digitByte n) = true := by decide

theorem isDigit_of_mem_decimal {n : Nat} {b : UInt8} (h : b ∈ decimal n) : isDigit b = true := by
  unfold decimal at h
  split at h
  · rw [List.mem_singleton.mp h]
    decide
  · obtain ⟨d, hd, rfl⟩ := List.mem_map.mp h
    exact isDigit_digitByte d (Nat.digits_lt_base (by decide) (List.mem_reverse.mp hd))

theorem decimal_ne_nil (n : Nat) : decimal n ≠ [] := by
  unfold decimal
  split
  · exact List.cons_ne_nil _ _
  · rename_i hne
    simpa [digitBytes, Nat.digits_ne_nil_iff_ne_zero] using hne

/-- A number in the text of which there is no sign. -/
theorem readSign_decimal (n : Nat) : readSign (decimal n) = (false, decimal n) := by
  cases hdigits : decimal n with
  | nil => rfl
  | cons b rest =>
    have hdigit : isDigit b = true := isDigit_of_mem_decimal (n := n) (by simp [hdigits])
    have hdash : b ≠ dash := by
      rintro rfl
      exact absurd hdigit (by decide)
    have hplus : b ≠ 43 := by
      rintro rfl
      exact absurd hdigit (by decide)
    rw [readSign, if_neg hdash, if_neg hplus]

/-- **A natural number** is read back. -/
theorem parseInt64_sprintD {n : Nat} (h : n < 2 ^ 63) : parseInt64 (sprintD n) = some (n : Int) := by
  have htext : sprintD n = decimal n := by
    rw [sprintD, if_neg (by omega), Int.natAbs_natCast]
  have hdigits : (decimal n).all isDigit = true :=
    List.all_eq_true.mpr fun b hb => isDigit_of_mem_decimal hb
  rw [htext, parseInt64, readSign_decimal]
  simpa [decimal_ne_nil, hdigits, readDigits_decimal] using h

/-- What is read as a number has digits and a sign only. -/
theorem not_mem_of_parseInt64 {s : Bytes} {i : Int} (h : parseInt64 s = some i) {b : UInt8}
    (hdash : b ≠ dash) (hplus : b ≠ 43) (hdigit : isDigit b = false) : b ∉ s := by
  have hread : ∀ digits : Bytes, digits.all isDigit = true → b ∉ digits := by
    intro digits hall hmem
    rw [List.all_eq_true.mp hall b hmem] at hdigit
    cases hdigit
  intro hmem
  cases s with
  | nil => cases hmem
  | cons c rest =>
    have hall : (readSign (c :: rest)).2.all isDigit = true := by
      by_contra hbad
      rw [Bool.not_eq_true] at hbad
      simp only [parseInt64, hbad, Bool.not_false, Bool.or_true, if_true] at h
      cases h
    rw [readSign] at hall
    split_ifs at hall with hc hc
    · rcases List.mem_cons.mp hmem with heq | hrest
      · exact hdash (heq.trans hc)
      · exact hread _ hall hrest
    · rcases List.mem_cons.mp hmem with heq | hrest
      · exact hplus (heq.trans hc)
      · exact hread _ hall hrest
    · exact hread _ hall hmem

-- ---------------------------------------------------------------------------
-- `encoding/hex`
-- ---------------------------------------------------------------------------

def hexEncodeToString (bs : Bytes) : Bytes :=
  bs.flatMap fun b => [digitByte (b.toNat / 16), digitByte (b.toNat % 16)]

theorem hexEncodeToString_injective : Function.Injective hexEncodeToString := by
  intro bs
  induction bs with
  | nil =>
    intro bs' h
    cases bs' with
    | nil => rfl
    | cons b' bs' => simp [hexEncodeToString] at h
  | cons b bs ih =>
    intro bs' h
    cases bs' with
    | nil => simp [hexEncodeToString] at h
    | cons b' bs' =>
      simp only [hexEncodeToString, List.flatMap_cons, List.cons_append, List.nil_append,
        List.cons.injEq] at h
      obtain ⟨hhigh, hlow, hrest⟩ := h
      have hbyte := UInt8.toNat_lt b
      have hbyte' := UInt8.toNat_lt b'
      have hdiv : b.toNat / 16 = b'.toNat / 16 := by
        rw [← digitValue_digitByte (b.toNat / 16) (by omega), hhigh,
          digitValue_digitByte _ (by omega)]
      have hmod : b.toNat % 16 = b'.toNat % 16 := by
        rw [← digitValue_digitByte (b.toNat % 16) (by omega), hlow,
          digitValue_digitByte _ (by omega)]
      have heq : b = b' := UInt8.toNat_inj.mp (by omega)
      rw [heq, ih hrest]

theorem dash_not_mem_hexEncodeToString (bs : Bytes) : dash ∉ hexEncodeToString bs := by
  intro hmem
  obtain ⟨b, -, hdigit⟩ := List.mem_flatMap.mp hmem
  have hbyte := UInt8.toNat_lt b
  simp only [List.mem_cons, List.not_mem_nil, or_false] at hdigit
  rcases hdigit with heq | heq
  · exact digitByte_ne_dash (b.toNat / 16) (by omega) heq.symm
  · exact digitByte_ne_dash (b.toNat % 16) (by omega) heq.symm

/-- The value of a hexadecimal digit, in either case. -/
def hexValue (b : UInt8) : Option Nat :=
  if 48 ≤ b.toNat ∧ b.toNat ≤ 57 then some (b.toNat - 48)
  else if 97 ≤ b.toNat ∧ b.toNat ≤ 102 then some (b.toNat - 87)
  else if 65 ≤ b.toNat ∧ b.toNat ≤ 70 then some (b.toNat - 55)
  else none

def hexDecodeString : Bytes → Option Bytes
  | [] => some []
  | [_] => none
  | high :: low :: rest =>
    match hexValue high, hexValue low, hexDecodeString rest with
    | some h, some l, some bs => some (UInt8.ofNat (16 * h + l) :: bs)
    | _, _, _ => none

theorem hexValue_digitByte : ∀ n < 16, hexValue (digitByte n) = some n := by decide

/-- **What was encoded** is decoded. -/
theorem hexDecodeString_encode (bs : Bytes) :
    hexDecodeString (hexEncodeToString bs) = some bs := by
  induction bs with
  | nil => rfl
  | cons b bs ih =>
    have hbyte := UInt8.toNat_lt b
    have hjoin : 16 * (b.toNat / 16) + b.toNat % 16 = b.toNat := Nat.div_add_mod _ _
    unfold hexEncodeToString at ih ⊢
    rw [List.flatMap_cons, List.cons_append, List.cons_append, List.nil_append, hexDecodeString,
      hexValue_digitByte _ (by omega), hexValue_digitByte _ (by omega), ih]
    simp [hjoin]

-- ---------------------------------------------------------------------------
-- UUIDs
-- ---------------------------------------------------------------------------

/-- The digits of a UUID, as bytes. -/
def UUID.digits (u : UUID) : Bytes :=
  (List.range 32).map fun i => digitByte (u.toNat / 16 ^ (31 - i) % 16)

theorem UUID.ascii_string (u : UUID) :
    ascii u.string = u.digits.take 8 ++ [dash] ++ (u.digits.drop 8).take 4 ++ [dash] ++
      (u.digits.drop 12).take 4 ++ [dash] ++ (u.digits.drop 16).take 4 ++ [dash] ++
        u.digits.drop 20 := by
  have hdigits : u.hexDigits.map (fun c => UInt8.ofNat c.toNat) = u.digits := by
    rw [UUID.hexDigits, List.map_map]
    rfl
  simp only [ascii, UUID.string, String.toList_ofList, List.map_append, List.map_take,
    List.map_drop, hdigits]
  rfl

theorem UUID.length_digits (u : UUID) : u.digits.length = 32 := by
  rw [UUID.digits, List.length_map, List.length_range]

theorem UUID.length_ascii_string (u : UUID) : (ascii u.string).length = 36 := by
  rw [UUID.ascii_string]
  simp [UUID.length_digits]

theorem UUID.dash_not_mem_digits (u : UUID) : dash ∉ u.digits := by
  intro hmem
  obtain ⟨i, -, heq⟩ := List.mem_map.mp hmem
  exact digitByte_ne_dash _ (Nat.mod_lt _ (by decide)) heq

/-- Without the dashes the digits are left. -/
theorem UUID.filter_ascii_string (u : UUID) :
    (ascii u.string).filter (· ≠ dash) = u.digits := by
  have hkeep : ∀ part : Bytes, (∀ b ∈ part, b ∈ u.digits) → part.filter (· ≠ dash) = part := by
    intro part hpart
    rw [List.filter_eq_self]
    intro b hb
    simpa using fun heq : b = dash => u.dash_not_mem_digits (heq ▸ hpart b hb)
  have hjoin : ∀ n, (u.digits.drop n).take 4 ++ u.digits.drop (n + 4) = u.digits.drop n := by
    intro n
    rw [← List.drop_drop]
    exact List.take_append_drop 4 _
  have htake : ∀ n, ∀ b ∈ (u.digits.drop n).take 4, b ∈ u.digits :=
    fun n b hb => List.mem_of_mem_drop (List.mem_of_mem_take hb)
  rw [UUID.ascii_string]
  simp only [List.filter_append, hkeep _ fun b => List.mem_of_mem_take, hkeep _ (htake _),
    hkeep _ fun b => List.mem_of_mem_drop]
  rw [show [dash].filter (· ≠ dash) = [] by decide]
  simp only [List.append_nil, List.append_assoc]
  rw [hjoin 16, hjoin 12, hjoin 8]
  exact List.take_append_drop 8 _

/-- The last `k` digits of a number, from the last one on. -/
theorem ofDigits_range (n k : Nat) :
    Nat.ofDigits 16 ((List.range k).map fun i => n / 16 ^ i % 16) = n % 16 ^ k := by
  induction k with
  | zero => simp [Nat.mod_one]
  | succ k ih =>
    rw [List.range_succ, List.map_append, Nat.ofDigits_append, ih, List.length_map,
      List.length_range, Nat.mod_pow_succ]
    simp

/-- The digits of a UUID are read back. -/
theorem UUID.readDigits_digits (u : UUID) : readDigits 16 u.digits = u.toNat := by
  have hvalues : u.digits.reverse.map digitValue =
      (List.range 32).map fun i => u.toNat / 16 ^ i % 16 := by
    apply List.ext_getElem
    · simp [u.length_digits]
    · intro i h1 h2
      simp only [List.length_map, List.length_reverse, u.length_digits] at h1
      simp only [List.getElem_map, List.getElem_reverse, UUID.digits, List.getElem_range,
        List.length_map, List.length_range]
      rw [digitValue_digitByte _ (Nat.mod_lt _ (by decide)), show 31 - (32 - 1 - i) = i by omega]
  rw [readDigits, hvalues, ofDigits_range]
  exact Nat.mod_eq_of_lt u.isLt

theorem UUID.ascii_string_injective : Function.Injective fun u : UUID => ascii u.string := by
  intro u v h
  have htext : ascii u.string = ascii v.string := h
  have hdigits : u.digits = v.digits := by
    rw [← u.filter_ascii_string, htext, v.filter_ascii_string]
  apply BitVec.eq_of_toNat_eq
  rw [← u.readDigits_digits, hdigits, v.readDigits_digits]

end Ggid.Go
