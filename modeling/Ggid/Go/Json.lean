import Ggid.Go.Value

/-!
# JSON values

What a value looks like after it was encoded as JSON and decoded into `any`: numbers
become `float64`, structs become maps without the fields that `omitempty` leaves out.

A `float64` has 53 bits for a significand, so an integer comes back as it was up to
`2 ^ 53` (`toInt_ofInt`) and rounded beyond.
-/

namespace Ggid.Go

-- ---------------------------------------------------------------------------
-- Integers
-- ---------------------------------------------------------------------------

namespace Float64

/-- Exponent and mantissa of the value nearest to a natural number; of two that are
equally near, the one with the even mantissa. -/
def magnitudeOf (n : Nat) : Nat :=
  let e := n.log2
  if n = 0 then 0
  else if e ≤ 52 then (1023 + e) * 2 ^ 52 + (n * 2 ^ (52 - e) - 2 ^ 52)
  else
    let unit := 2 ^ (e - 52)
    let half := if unit < 2 * (n % unit) ∨ (2 * (n % unit) = unit ∧ n / unit % 2 = 1) then 1 else 0
    min infinity ((1023 + e) * 2 ^ 52 + (n / unit + half - 2 ^ 52))

/-- The value a decoder reads from the decimal text of an integer. -/
def ofInt (i : Int) : Float64 :=
  ⟨BitVec.ofNat 64 (magnitudeOf i.natAbs + if i < 0 then 2 ^ 63 else 0)⟩

/-- With the exponent of an integer below `2 ^ 53` the mantissa holds all its bits. -/
theorem mantissa_bounds {n : Nat} (hn : n ≠ 0) (he : n.log2 ≤ 52) :
    2 ^ 52 ≤ n * 2 ^ (52 - n.log2) ∧ n * 2 ^ (52 - n.log2) < 2 ^ 53 := by
  have hlow : 2 ^ n.log2 ≤ n := Nat.log2_self_le hn
  have hhigh : n < 2 ^ (n.log2 + 1) := Nat.lt_log2_self
  have hpos : 0 < 2 ^ (52 - n.log2) := Nat.two_pow_pos _
  constructor
  · calc 2 ^ 52 = 2 ^ n.log2 * 2 ^ (52 - n.log2) := by rw [← Nat.pow_add]; congr 1; omega
      _ ≤ n * 2 ^ (52 - n.log2) := Nat.mul_le_mul_right _ hlow
  · calc n * 2 ^ (52 - n.log2) < 2 ^ (n.log2 + 1) * 2 ^ (52 - n.log2) :=
          Nat.mul_lt_mul_of_pos_right hhigh hpos
      _ = 2 ^ 53 := by rw [← Nat.pow_add]; congr 1; omega

theorem magnitudeOf_small {n : Nat} (hn : n ≠ 0) (he : n.log2 ≤ 52) :
    magnitudeOf n = (1023 + n.log2) * 2 ^ 52 + (n * 2 ^ (52 - n.log2) - 2 ^ 52) := by
  unfold magnitudeOf
  rw [if_neg hn, if_pos he]

theorem ofInt_natCast (n : Nat) : ofInt n = ⟨BitVec.ofNat 64 (magnitudeOf n)⟩ := by
  have hsign : ¬ (n : Int) < 0 := by omega
  rw [ofInt, if_neg hsign, Int.natAbs_natCast, Nat.add_zero]

/-- What `toInt` makes of a non-negative value with a given exponent and mantissa. -/
theorem toInt_of_fields {x : Float64} {exponent fraction : Nat} (hfraction : fraction < 2 ^ 52)
    (hlow : 1023 ≤ exponent) (hhigh : exponent ≤ 1075)
    (hbits : x.bits.toNat = exponent * 2 ^ 52 + fraction) :
    x.toInt = ((fraction + 2 ^ 52) / 2 ^ (1075 - exponent) : Nat) := by
  have hmagnitude : x.magnitude = exponent * 2 ^ 52 + fraction := by
    unfold magnitude
    omega
  have hpositive : x.negative = false := by
    rw [negative, BitVec.msb_eq_decide, decide_eq_false_iff_not]
    omega
  have hexponent : x.magnitude / 2 ^ 52 = exponent := by omega
  have hrest : x.magnitude % 2 ^ 52 = fraction := by omega
  have htruncate : x.truncate = ((fraction + 2 ^ 52) / 2 ^ (1075 - exponent) : Nat) := by
    unfold truncate
    simp only [hexponent, hrest, hpositive]
    rw [if_neg (show ¬ exponent = 0 by omega)]
    rcases Nat.lt_or_ge exponent 1075 with hlt | hge
    · rw [if_neg (show ¬ 1075 ≤ exponent by omega), Nat.max_eq_left (show 1 ≤ exponent by omega)]
      rfl
    · obtain rfl : exponent = 1075 := by omega
      simp
  have hsmall : (fraction + 2 ^ 52) / 2 ^ (1075 - exponent) < 2 ^ 53 :=
    lt_of_le_of_lt (Nat.div_le_self _ _) (by omega)
  generalize (fraction + 2 ^ 52) / 2 ^ (1075 - exponent) = value at htruncate hsmall ⊢
  unfold toInt infinity
  rw [htruncate, if_neg (by omega), if_neg (by omega)]

/-- **Integers up to `2 ^ 53` come back as they were.** -/
theorem toInt_ofInt {i : Int} (h0 : 0 ≤ i) (h : i ≤ 2 ^ 53) : (ofInt i).toInt = i := by
  obtain ⟨n, rfl⟩ := Int.eq_ofNat_of_zero_le h0
  rcases Nat.eq_zero_or_pos n with rfl | hpos
  · decide +kernel
  rcases Nat.lt_or_ge n (2 ^ 53) with hlt | hge
  · have hn : n ≠ 0 := by omega
    have he : n.log2 ≤ 52 := by
      have := (Nat.log2_lt hn).mpr hlt
      omega
    obtain ⟨hlow, hhigh⟩ := mantissa_bounds hn he
    have hbits : (ofInt n).bits.toNat =
        (1023 + n.log2) * 2 ^ 52 + (n * 2 ^ (52 - n.log2) - 2 ^ 52) := by
      rw [ofInt_natCast, magnitudeOf_small hn he, BitVec.toNat_ofNat]
      apply Nat.mod_eq_of_lt
      omega
    rw [toInt_of_fields (by omega) (by omega) (by omega) hbits,
      show n * 2 ^ (52 - n.log2) - 2 ^ 52 + 2 ^ 52 = n * 2 ^ (52 - n.log2) by omega,
      show 1075 - (1023 + n.log2) = 52 - n.log2 by omega,
      Nat.mul_div_cancel _ (Nat.two_pow_pos _)]
  · obtain rfl : n = 2 ^ 53 := by omega
    decide

/-- What the mantissa adds stays below the next exponent. -/
theorem magnitudeOf_bounds {n : Nat} (hn : n ≠ 0) (hsmall : n < 2 ^ 53) :
    (1023 + n.log2) * 2 ^ 52 ≤ magnitudeOf n ∧ magnitudeOf n < (1024 + n.log2) * 2 ^ 52 := by
  have he : n.log2 ≤ 52 := Nat.le_of_lt_succ ((Nat.log2_lt hn).mpr hsmall)
  obtain ⟨hlow, hhigh⟩ := mantissa_bounds hn he
  rw [magnitudeOf_small hn he]
  omega

theorem magnitudeOf_le_infinity (n : Nat) : magnitudeOf n ≤ infinity := by
  rcases eq_or_ne n 0 with rfl | hn
  · decide
  rcases Nat.lt_or_ge n.log2 53 with he | he
  · have hhigh := (magnitudeOf_bounds hn ((Nat.log2_lt hn).mp he)).2
    unfold infinity
    omega
  · unfold magnitudeOf
    rw [if_neg hn, if_neg (by omega)]
    exact Nat.min_le_left _ _

/-- A larger exponent makes a larger value. -/
theorem le_magnitudeOf {m : Nat} (hm : m ≤ 2 ^ 63) (he : 53 ≤ m.log2) :
    (1023 + m.log2) * 2 ^ 52 ≤ magnitudeOf m := by
  have hpos : m ≠ 0 := by
    rintro rfl
    exact absurd he (by decide)
  have hlog : m.log2 < 64 := (Nat.log2_lt hpos).mpr (by omega)
  unfold magnitudeOf
  rw [if_neg hpos, if_neg (by omega)]
  refine Nat.le_min.mpr ⟨?_, Nat.le_add_right _ _⟩
  unfold infinity
  omega

theorem magnitudeOf_strictMono {n m : Nat} (hlt : n < m) (hsmall : n < 2 ^ 53)
    (hm : m ≤ 2 ^ 63) : magnitudeOf n < magnitudeOf m := by
  have hm0 : m ≠ 0 := by omega
  have hlow : (1023 + m.log2) * 2 ^ 52 ≤ magnitudeOf m := by
    rcases Nat.lt_or_ge m.log2 53 with he | he
    · exact (magnitudeOf_bounds hm0 ((Nat.log2_lt hm0).mp he)).1
    · exact le_magnitudeOf hm he
  rcases eq_or_ne n 0 with rfl | hn
  · have hzero : magnitudeOf 0 = 0 := rfl
    omega
  have hhigh := (magnitudeOf_bounds hn hsmall).2
  have hn52 : n.log2 ≤ 52 := Nat.le_of_lt_succ ((Nat.log2_lt hn).mpr hsmall)
  rcases Nat.lt_or_ge n.log2 m.log2 with hlog | hlog
  · omega
  · -- the same exponent
    have hsame : m.log2 = n.log2 := by
      refine le_antisymm hlog ((Nat.le_log2 hm0).mpr ?_)
      exact le_trans (Nat.log2_self_le hn) hlt.le
    have hm52 : m.log2 ≤ 52 := hsame ▸ hn52
    have hscaled : n * 2 ^ (52 - n.log2) < m * 2 ^ (52 - m.log2) := by
      rw [hsame]
      exact Nat.mul_lt_mul_of_pos_right hlt (Nat.two_pow_pos _)
    have hbound := (mantissa_bounds hn hn52).1
    rw [magnitudeOf_small hn hn52, magnitudeOf_small hm0 hm52, hsame]
    rw [hsame] at hscaled
    omega

theorem magnitude_ofInt (i : Int) : (ofInt i).magnitude = magnitudeOf i.natAbs := by
  have hle := magnitudeOf_le_infinity i.natAbs
  unfold infinity at hle
  unfold magnitude ofInt
  rw [BitVec.toNat_ofNat]
  split_ifs <;> omega

theorem ordinal_abs (x : Float64) : (abs x).ordinal = x.magnitude := by
  have hlt : x.magnitude < 2 ^ 63 := Nat.mod_lt _ (Nat.two_pow_pos 63)
  have hbits : (abs x).bits.toNat = x.magnitude := by
    rw [abs, BitVec.toNat_ofNat]
    omega
  have hpositive : (abs x).negative = false := by
    rw [negative, BitVec.msb_eq_decide, decide_eq_false_iff_not]
    omega
  rw [ordinal, hpositive, magnitude, hbits]
  simp only [Bool.false_eq_true, if_false]
  omega

/-- **A comparison** with an integer that the type holds exactly. -/
theorem lt_abs_ofInt_iff {n : Nat} {i : Int} (hn : n < 2 ^ 53) (hi : i.natAbs ≤ 2 ^ 63) :
    lt (ofInt n) (abs (ofInt i)) = true ↔ n < i.natAbs := by
  have hnan : ∀ {x : Float64}, x.magnitude ≤ infinity → x.isNaN = false := fun hle =>
    decide_eq_false (Nat.not_lt.mpr hle)
  have hpositive : (ofInt (n : Int)).ordinal = magnitudeOf n := by
    have habs : abs (ofInt (n : Int)) = ofInt n := by
      rw [abs, magnitude_ofInt, Int.natAbs_natCast, ofInt_natCast]
    rw [← habs, ordinal_abs, magnitude_ofInt, Int.natAbs_natCast]
  have hmagnitude : (abs (ofInt i)).magnitude = (ofInt i).magnitude := by
    have hlt : (ofInt i).magnitude < 2 ^ 63 := Nat.mod_lt _ (Nat.two_pow_pos 63)
    rw [abs, magnitude, BitVec.toNat_ofNat]
    omega
  rw [lt, hnan (magnitude_ofInt n ▸ magnitudeOf_le_infinity _),
    hnan (hmagnitude ▸ magnitude_ofInt i ▸ magnitudeOf_le_infinity _), hpositive, ordinal_abs,
    magnitude_ofInt]
  simp only [Bool.not_false, Bool.true_and, decide_eq_true_eq, Int.ofNat_lt]
  constructor
  · intro hlt
    by_contra hge
    rcases Nat.eq_or_lt_of_le (Nat.not_lt.mp hge) with heq | hgt
    · rw [heq] at hlt
      exact absurd hlt (lt_irrefl _)
    · have hback := magnitudeOf_strictMono hgt (by omega) (by omega)
      omega
  · exact fun hlt => magnitudeOf_strictMono hlt hn hi

/-- Beyond, an integer can come back larger. -/
example : (ofInt (2 ^ 53 + 3)).toInt = 2 ^ 53 + 4 := by decide

end Float64

-- ---------------------------------------------------------------------------
-- Objects
-- ---------------------------------------------------------------------------

namespace Any

def ofInt (i : Int) : Any := .float64 (Float64.ofInt i)

def strings (l : List String) : Any := .slice (l.map .string)

end Any

/-- The fields of a struct that are not left out. -/
def jsonObject (fields : List (String × Option Any)) : GoMap :=
  fields.filterMap fun field => field.2.map fun v => (field.1, v)

/-- A string field with `omitempty`. -/
def nonEmptyString (s : String) : Option Any := if s = "" then none else some (.string s)

/-- An integer field with `omitempty`. -/
def nonZero (i : Int) : Option Any := if i = 0 then none else some (.ofInt i)

/-- A boolean field with `omitempty`. -/
def ifTrue (b : Bool) : Option Any := if b then some (.bool true) else none

/-- A slice field with `omitempty`. -/
def nonEmptySlice (xs : List Any) : Option Any := if xs = [] then none else some (.slice xs)

@[simp] theorem jsonObject_cons_some (k : String) (v : Any) (fields : List (String × Option Any)) :
    jsonObject ((k, some v) :: fields) = (k, v) :: jsonObject fields := rfl

@[simp] theorem jsonObject_cons_none (k : String) (fields : List (String × Option Any)) :
    jsonObject ((k, none) :: fields) = jsonObject fields := rfl

theorem lookup_jsonObject {fields : List (String × Option Any)}
    (h : (fields.map Prod.fst).Nodup) (key : String) :
    (jsonObject fields).lookup key = (fields.lookup key).join := by
  induction fields with
  | nil => rfl
  | cons field fields ih =>
    obtain ⟨k, v⟩ := field
    obtain ⟨hnew, hnodup⟩ := List.nodup_cons.mp h
    have hrest := ih hnodup
    by_cases hk : key = k
    · subst hk
      rw [List.lookup_cons_self, Option.join_some]
      cases v with
      | some v => rw [jsonObject_cons_some, List.lookup_cons_self]
      | none =>
        -- a field that is left out is not found further on either
        have hnone : fields.lookup key = none := by
          rw [List.lookup_eq_none_iff]
          intro field hfield
          have hmem : field.1 ∈ fields.map Prod.fst := List.mem_map_of_mem hfield
          have hne : key ≠ field.1 := fun heq => hnew (heq ▸ hmem)
          simpa using hne
        rw [jsonObject_cons_none, hrest, hnone]
        rfl
    · have hbeq : (key == k) = false := by simpa using hk
      rw [List.lookup_cons, hbeq]
      cases v with
      | some v =>
        rw [jsonObject_cons_some, List.lookup_cons, hbeq]
        exact hrest
      | none =>
        rw [jsonObject_cons_none]
        exact hrest

end Ggid.Go
