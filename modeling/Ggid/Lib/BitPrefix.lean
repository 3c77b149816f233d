import Mathlib.Data.List.TakeDrop
import Mathlib.Data.UInt

/-!
# Prefixes of bit strings

Byte strings as strings of bits, the most significant first. Two byte strings agree under a mask of
leading ones exactly if they agree in as many bits.

* `masked_eq_iff`  — masks against prefixes;
* `samePrefix_add` — a prefix that goes over whole bytes.
-/

namespace Ggid.Lib

/-- The bits of a byte, the most significant first. -/
def byteBits (b : UInt8) : List Bool := (List.range 8).map b.toBitVec.getMsbD

def bits (bs : List UInt8) : List Bool := bs.flatMap byteBits

/-- Two byte strings agree in their first `n` bits. -/
def SamePrefix (n : Nat) (a b : List UInt8) : Prop := (bits a).take n = (bits b).take n

instance (n : Nat) (a b : List UInt8) : Decidable (SamePrefix n a b) :=
  inferInstanceAs (Decidable ((bits a).take n = (bits b).take n))

/-- A byte of a mask, with `ones` ones to go. -/
def maskByte (ones : Nat) : UInt8 := if 8 ≤ ones then 255 else ~~~(255 >>> UInt8.ofNat ones)

/-- `len` bytes with `ones` leading ones. -/
def mask (ones : Nat) : (len : Nat) → List UInt8
  | 0 => []
  | len + 1 => maskByte ones :: mask (ones - 8) len

def masked (m bs : List UInt8) : List UInt8 := List.zipWith (fun b m => b &&& m) bs m

-- ---------------------------------------------------------------------------
-- One byte
-- ---------------------------------------------------------------------------

theorem length_byteBits (b : UInt8) : (byteBits b).length = 8 := by simp [byteBits]

theorem take_byteBits_eq_iff {n : Nat} {a b : UInt8} :
    (byteBits a).take n = (byteBits b).take n ↔
      ∀ i < min n 8, a.toBitVec.getMsbD i = b.toBitVec.getMsbD i := by
  rw [byteBits, byteBits, ← List.map_take, ← List.map_take, List.take_range, List.map_inj_left]
  simp only [List.mem_range]

theorem byteBits_injective : Function.Injective byteBits := by
  intro a b h
  have hbits : ∀ i < min 8 8, a.toBitVec.getMsbD i = b.toBitVec.getMsbD i :=
    take_byteBits_eq_iff.mp (by rw [h])
  refine UInt8.toBitVec_inj.mp (BitVec.eq_of_getMsbD_eq fun i hi => ?_)
  exact hbits i hi

/-- The bits of a byte of a mask. -/
theorem getMsbD_maskByte {ones i : Nat} (hi : i < 8) :
    (maskByte ones).toBitVec.getMsbD i = decide (i < ones) := by
  by_cases hones : 8 ≤ ones
  · rw [maskByte, if_pos hones, decide_eq_true (by omega)]
    have hall : ∀ i < 8, (255 : UInt8).toBitVec.getMsbD i = true := by decide
    exact hall i hi
  · have hall : ∀ n < 8, ∀ i < 8, (maskByte n).toBitVec.getMsbD i = decide (i < n) := by decide
    exact hall ones (by omega) i hi

theorem and_maskByte_eq_iff {ones : Nat} {a b : UInt8} :
    a &&& maskByte ones = b &&& maskByte ones ↔
      (byteBits a).take ones = (byteBits b).take ones := by
  rw [take_byteBits_eq_iff, ← UInt8.toBitVec_inj, UInt8.toBitVec_and, UInt8.toBitVec_and]
  constructor
  · intro h i hi
    have hbit := congrArg (fun v => BitVec.getMsbD v i) h
    simpa only [BitVec.getMsbD_and, @getMsbD_maskByte ones i (by omega),
      decide_eq_true (by omega : i < ones), Bool.and_true] using hbit
  · intro h
    refine BitVec.eq_of_getMsbD_eq fun i hi => ?_
    rw [BitVec.getMsbD_and, BitVec.getMsbD_and, getMsbD_maskByte hi]
    by_cases hones : i < ones
    · rw [h i (by omega)]
    · rw [decide_eq_false hones, Bool.and_false, Bool.and_false]

-- ---------------------------------------------------------------------------
-- Byte strings
-- ---------------------------------------------------------------------------

theorem bits_cons (b : UInt8) (bs : List UInt8) : bits (b :: bs) = byteBits b ++ bits bs := rfl

theorem bits_append (a b : List UInt8) : bits (a ++ b) = bits a ++ bits b := List.flatMap_append

theorem length_bits (bs : List UInt8) : (bits bs).length = 8 * bs.length := by
  induction bs with
  | nil => rfl
  | cons b bs ih =>
    rw [bits_cons, List.length_append, length_byteBits, ih, List.length_cons]
    omega

theorem bits_injective : Function.Injective bits := by
  intro a
  induction a with
  | nil =>
    intro b h
    have hlength := congrArg List.length h
    rw [length_bits, length_bits] at hlength
    exact (List.eq_nil_of_length_eq_zero (by simpa using hlength.symm)).symm
  | cons x a ih =>
    intro b h
    cases b with
    | nil =>
      have hlength := congrArg List.length h
      rw [length_bits, length_bits] at hlength
      simp at hlength
    | cons y b =>
      rw [bits_cons, bits_cons] at h
      obtain ⟨hxy, hab⟩ := List.append_inj h (by rw [length_byteBits, length_byteBits])
      rw [byteBits_injective hxy, ih hab]

theorem samePrefix_cons {n : Nat} {x y : UInt8} {a b : List UInt8} :
    SamePrefix n (x :: a) (y :: b) ↔
      (byteBits x).take n = (byteBits y).take n ∧ SamePrefix (n - 8) a b := by
  unfold SamePrefix
  rw [bits_cons, bits_cons, List.take_append, List.take_append, length_byteBits, length_byteBits]
  refine ⟨fun h => List.append_inj h ?_, fun h => by rw [h.1, h.2]⟩
  rw [List.length_take, List.length_take, length_byteBits, length_byteBits]

theorem SamePrefix.symm {n : Nat} {a b : List UInt8} (h : SamePrefix n a b) : SamePrefix n b a :=
  Eq.symm h

/-- A prefix of all bits is everything. -/
theorem samePrefix_all {n : Nat} {a b : List UInt8} (ha : 8 * a.length ≤ n)
    (hb : 8 * b.length ≤ n) : SamePrefix n a b ↔ a = b := by
  unfold SamePrefix
  rw [List.take_of_length_le (by rwa [length_bits]), List.take_of_length_le (by rwa [length_bits])]
  exact bits_injective.eq_iff

/-- A prefix that goes over `k` bytes. -/
theorem samePrefix_add (k : Nat) {n : Nat} {a b : List UInt8} (ha : k ≤ a.length)
    (hb : k ≤ b.length) : SamePrefix (8 * k + n) a b ↔
      a.take k = b.take k ∧ SamePrefix n (a.drop k) (b.drop k) := by
  have hsplit : ∀ {c : List UInt8}, k ≤ c.length → (bits c).take (8 * k + n) =
      bits (c.take k) ++ (bits (c.drop k)).take n := by
    intro c hc
    have hlength : (bits (c.take k)).length = 8 * k := by
      rw [length_bits, List.length_take, min_eq_left hc]
    conv_lhs => rw [← List.take_append_drop k c, bits_append]
    rw [List.take_append, hlength, Nat.add_sub_cancel_left,
      List.take_of_length_le (by rw [hlength]; omega)]
  unfold SamePrefix
  rw [hsplit ha, hsplit hb]
  refine ⟨fun h => ?_, fun h => by rw [h.1, h.2]⟩
  have hparts := List.append_inj h (by
    rw [length_bits, length_bits, List.length_take, List.length_take, min_eq_left ha,
      min_eq_left hb])
  exact ⟨bits_injective hparts.1, hparts.2⟩

-- ---------------------------------------------------------------------------
-- Masks
-- ---------------------------------------------------------------------------

theorem length_mask (ones len : Nat) : (mask ones len).length = len := by
  induction len generalizing ones with
  | zero => rfl
  | succ len ih => rw [mask, List.length_cons, ih]

theorem length_masked (m bs : List UInt8) : (masked m bs).length = min bs.length m.length :=
  List.length_zipWith

/-- Masking twice is masking once. -/
theorem masked_masked (m bs : List UInt8) : masked m (masked m bs) = masked m bs := by
  induction bs generalizing m with
  | nil => rfl
  | cons b bs ih =>
    cases m with
    | nil => rfl
    | cons k m =>
      have hbyte : b &&& k &&& k = b &&& k := by rw [UInt8.and_assoc, UInt8.and_self]
      unfold masked at ih ⊢
      rw [List.zipWith_cons_cons, List.zipWith_cons_cons, ih, hbyte]

theorem masked_eq_iff {ones : Nat} {a b : List UInt8} (h : a.length = b.length) :
    masked (mask ones a.length) a = masked (mask ones a.length) b ↔ SamePrefix ones a b := by
  induction a generalizing b ones with
  | nil =>
    have hb : b = [] := List.eq_nil_of_length_eq_zero h.symm
    rw [hb]
    exact ⟨fun _ => rfl, fun _ => rfl⟩
  | cons x a ih =>
    cases b with
    | nil => exact absurd h (by simp)
    | cons y b =>
      rw [samePrefix_cons, ← ih (by simpa using h), ← and_maskByte_eq_iff, masked, masked,
        List.length_cons, mask, List.zipWith_cons_cons, List.zipWith_cons_cons, List.cons.injEq]
      rfl

/-- The bytes under the ones of a mask are kept. -/
theorem take_masked {k ones : Nat} {bs : List UInt8} (h : 8 * k ≤ ones) :
    (masked (mask ones bs.length) bs).take k = bs.take k := by
  induction k generalizing bs ones with
  | zero => rw [List.take_zero, List.take_zero]
  | succ k ih =>
    cases bs with
    | nil => rfl
    | cons b bs =>
      have hbyte : b &&& maskByte ones = b := by
        have hself : (255 : UInt8) = -1 := rfl
        rw [maskByte, if_pos (by omega), hself, UInt8.and_neg_one]
      have hrest : (masked (mask (ones - 8) bs.length) bs).take k = bs.take k := ih (by omega)
      unfold masked at hrest ⊢
      rw [List.length_cons, mask, List.zipWith_cons_cons, List.take_succ_cons, List.take_succ_cons,
        hbyte, hrest]

/-- A byte that is still full is under the ones. -/
theorem le_of_full {k ones : Nat} {bs : List UInt8}
    (h : (masked (mask ones bs.length) bs)[k]? = some 255) : 8 * (k + 1) ≤ ones := by
  induction k generalizing bs ones with
  | zero =>
    cases bs with
    | nil => cases h
    | cons b bs =>
      have hbyte : b &&& maskByte ones = 255 := Option.some.inj h
      have hlast := congrArg (fun v => (UInt8.toBitVec v).getMsbD 7) hbyte
      simp only [UInt8.toBitVec_and, BitVec.getMsbD_and,
        @getMsbD_maskByte ones 7 (by decide)] at hlast
      have hone := (Bool.and_eq_true_iff.mp (hlast.trans (by decide))).2
      have hlt := of_decide_eq_true hone
      omega
  | succ k ih =>
    cases bs with
    | nil => cases h
    | cons b bs =>
      have hrest : 8 * (k + 1) ≤ ones - 8 := ih h
      omega

theorem drop_mask (k ones len : Nat) : (mask ones (k + len)).drop k = mask (ones - 8 * k) len := by
  induction k generalizing ones with
  | zero => simp
  | succ k ih =>
    rw [Nat.succ_add, mask, List.drop_succ_cons, ih]
    congr 1
    omega

theorem drop_masked (k : Nat) (m bs : List UInt8) :
    (masked m bs).drop k = masked (m.drop k) (bs.drop k) := by
  unfold masked
  rw [List.drop_zipWith]

end Ggid.Lib
