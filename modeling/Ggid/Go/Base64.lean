import Ggid.Go.Bytes

/-!
# Base64, and text as bytes

`base64.StdEncoding.DecodeString`, and what package `strings` does to texts that are bytes.
-/

namespace Ggid.Go

/-- An ASCII character as a byte. -/
def ch (c : Char) : UInt8 := UInt8.ofNat c.toNat

theorem ascii_ofList (cs : List Char) : ascii (String.ofList cs) = cs.map ch := by
  rw [ascii, String.toList_ofList]
  rfl

/-- `strings.Index`. -/
def indexBytes (sub : Bytes) : Bytes → Option Nat
  | [] => if sub = [] then some 0 else none
  | b :: s => if sub.isPrefixOf (b :: s) = true then some 0 else (indexBytes sub s).map (· + 1)

/-- Where it is found, and that it is not found earlier. -/
theorem indexBytes_some {sub s : Bytes} {i : Nat} (h : indexBytes sub s = some i) :
    (∃ before after, s = before ++ sub ++ after ∧ before.length = i) ∧
      ∀ before after, s = before ++ sub ++ after → i ≤ before.length := by
  induction s generalizing i with
  | nil =>
    rw [indexBytes] at h
    split_ifs at h with hsub
    cases h
    exact ⟨⟨[], [], by rw [hsub]; rfl, rfl⟩, fun _ _ _ => Nat.zero_le _⟩
  | cons b s ih =>
    rw [indexBytes] at h
    split_ifs at h with hprefix
    · cases h
      obtain ⟨after, hafter⟩ := List.isPrefixOf_iff_prefix.mp hprefix
      exact ⟨⟨[], after, hafter.symm, rfl⟩, fun _ _ _ => Nat.zero_le _⟩
    · obtain ⟨j, hj, rfl⟩ := Option.map_eq_some_iff.mp h
      obtain ⟨⟨before, after, hs, hlength⟩, hfirst⟩ := ih hj
      refine ⟨⟨b :: before, after, by rw [hs]; rfl, by rw [List.length_cons, hlength]⟩, ?_⟩
      intro before' after' heq
      cases before' with
      | nil => exact absurd (List.isPrefixOf_iff_prefix.mpr ⟨after', heq.symm⟩) hprefix
      | cons c before' => exact Nat.succ_le_succ (hfirst before' after' (List.cons.inj heq).2)

theorem indexBytes_none {sub s : Bytes} (h : indexBytes sub s = none) (before after : Bytes) :
    s ≠ before ++ sub ++ after := by
  induction s generalizing before with
  | nil =>
    rw [indexBytes] at h
    split_ifs at h with hsub
    intro heq
    have hnil := List.append_eq_nil_iff.mp (List.append_eq_nil_iff.mp heq.symm).1
    exact hsub hnil.2
  | cons b s ih =>
    rw [indexBytes] at h
    split_ifs at h with hprefix
    rw [Option.map_eq_none_iff] at h
    intro heq
    cases before with
    | nil => exact hprefix (List.isPrefixOf_iff_prefix.mpr ⟨after, heq.symm⟩)
    | cons c before => exact ih h before (List.cons.inj heq).2

/-- The first place is where it is found. -/
theorem indexBytes_eq {sub before after : Bytes}
    (hfirst : ∀ before' after', before ++ sub ++ after = before' ++ sub ++ after' →
      before.length ≤ before'.length) :
    indexBytes sub (before ++ sub ++ after) = some before.length := by
  cases h : indexBytes sub (before ++ sub ++ after) with
  | none => exact absurd rfl (indexBytes_none h before after)
  | some i =>
    obtain ⟨⟨before', after', hs, hlength⟩, hleast⟩ := indexBytes_some h
    have hle := hfirst before' after' hs
    have hge := hleast before after rfl
    rw [show i = before.length by omega]

/-- White space in UTF-8, as Unicode has it. -/
def spaces : List Bytes :=
  [[9], [10], [11], [12], [13], [32], [0xC2, 0x85], [0xC2, 0xA0], [0xE1, 0x9A, 0x80]] ++
    (List.range 11).map (fun n => [0xE2, 0x80, UInt8.ofNat (0x80 + n)]) ++
    [[0xE2, 0x80, 0xA8], [0xE2, 0x80, 0xA9], [0xE2, 0x80, 0xAF], [0xE2, 0x81, 0x9F],
      [0xE3, 0x80, 0x80]]

/-- Leaves out what the text begins with, while it is one of these. -/
def trimPrefixes (cut : List Bytes) : Nat → Bytes → Bytes
  | 0, s => s
  | n + 1, s =>
    match cut.find? fun c => c.isPrefixOf s with
    | some c => trimPrefixes cut n (s.drop c.length)
    | none => s

/-- `strings.TrimSpace`, of a text that is UTF-8. -/
def trimSpaceBytes (s : Bytes) : Bytes :=
  let left := trimPrefixes spaces s.length s
  (trimPrefixes (spaces.map List.reverse) left.length left.reverse).reverse

namespace Base64

/-- The value of a digit. -/
def digit (b : UInt8) : Option Nat :=
  let n := b.toNat
  if 65 ≤ n ∧ n ≤ 90 then some (n - 65)
  else if 97 ≤ n ∧ n ≤ 122 then some (n - 71)
  else if 48 ≤ n ∧ n ≤ 57 then some (n + 4)
  else if n = 43 then some 62
  else if n = 47 then some 63
  else none

/-- The three bytes of four digits. -/
def quantum (a b c d : Nat) : Bytes :=
  [UInt8.ofNat (a * 4 + b / 16), UInt8.ofNat (b % 16 * 16 + c / 4), UInt8.ofNat (c % 4 * 64 + d)]

/-- Four digits at a time; the last ones may be padded. -/
def decodeQuanta : Bytes → Option Bytes
  | [] => some []
  | a :: b :: c :: d :: rest =>
    if d = ch '=' then
      if rest ≠ [] then none
      else if c = ch '=' then do
        return (quantum (← digit a) (← digit b) 0 0).take 1
      else do
        return (quantum (← digit a) (← digit b) (← digit c) 0).take 2
    else do
      let bytes := quantum (← digit a) (← digit b) (← digit c) (← digit d)
      return bytes ++ (← decodeQuanta rest)
  | _ => none

/-- `StdEncoding.DecodeString`: line breaks do not count. -/
def decodeString (s : Bytes) : Option Bytes :=
  decodeQuanta (s.filter fun b => decide (b ≠ 10) && decide (b ≠ 13))

example : decodeString (ascii "c2ln\nbg==") = some (ascii "sign") := by decide

end Base64

end Ggid.Go
