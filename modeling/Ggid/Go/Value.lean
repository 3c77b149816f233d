import Mathlib.Algebra.Order.Ring.Int
import Mathlib.Data.List.Sort
import Mathlib.Data.List.Basic

/-!
# Go values

The Go-level vocabulary the services share: UUIDs, instants, `float64`, and the
dynamically typed values (`any`) that `encoding/json` produces for request
bodies and JSONB columns.

Strings are Lean strings. The source's byte-wise operations on them (prefix,
suffix, substring, splitting at an ASCII separator, lexicographic order) agree
with the character-wise ones used here because UTF-8 is self-synchronising and
orders like its code points.

A handful of standard-library text conversions are not spelled out: they are
the fields of `Stdlib`, and everything proved about code that calls them holds
for every value of that structure.
-/

namespace Ggid.Go

/-! ## Errors -/

/-- A call whose error is returned at once. -/
theorem bind_ok {ε α β : Type} {x : Except ε α} {f : α → Except ε β} {b : β} :
    x >>= f = .ok b ↔ ∃ a, x = .ok a ∧ f a = .ok b := by
  cases x with
  | error err => simp [bind, Except.bind]
  | ok a => simp [bind, Except.bind]

/-! ## Identifiers and time -/

/-- `uuid.UUID`: sixteen bytes. -/
abbrev UUID := BitVec 128

/-- `uuid.Nil`. -/
def UUID.nil : UUID := 0#128

/-- Lower-case hexadecimal digit. -/
def hexDigit (n : Nat) : Char :=
  if n < 10 then Char.ofNat ('0'.toNat + n) else Char.ofNat ('a'.toNat + n - 10)

/-- The 32 hexadecimal digits of a UUID, most significant first. -/
def UUID.hexDigits (u : UUID) : List Char :=
  (List.range 32).map fun i => hexDigit (u.toNat / 16 ^ (31 - i) % 16)

/-- `UUID.String`: the 8-4-4-4-12 form. -/
def UUID.string (u : UUID) : String :=
  let d := u.hexDigits
  String.ofList (d.take 8 ++ ['-'] ++ (d.drop 8).take 4 ++ ['-'] ++ (d.drop 12).take 4 ++ ['-'] ++
    (d.drop 16).take 4 ++ ['-'] ++ d.drop 20)

theorem UUID.string_ne_empty (u : UUID) : u.string ≠ "" := by
  intro h
  have hchars : u.string.toList = [] := by rw [h]; rfl
  rw [UUID.string, String.toList_ofList] at hchars
  exact absurd hchars (by simp)

/-- `time.Time`, as nanoseconds since the Unix epoch. -/
abbrev Time := Int

/-- `time.Time{}`: midnight, 1 January of year 1. -/
def Time.zero : Time := -62135596800 * 1000000000

/-- `time.Second`. -/
def second : Int := 1000000000

/-- `time.Minute`. -/
def minute : Int := 60 * 1000000000

/-! ## `float64` -/

/-- An IEEE 754 binary64 value, by its bits. -/
structure Float64 where
  bits : BitVec 64
  deriving DecidableEq

namespace Float64

def negative (x : Float64) : Bool := x.bits.msb

/-- Exponent and mantissa fields, read as one number: it orders magnitudes. -/
def magnitude (x : Float64) : Nat := x.bits.toNat % 2 ^ 63

/-- The magnitude of `+Inf`; anything larger is a NaN. -/
def infinity : Nat := 0x7FF * 2 ^ 52

def isNaN (x : Float64) : Bool := decide (infinity < x.magnitude)

/-- Position on the number line: signed magnitude, so both zeros are `0`. -/
def ordinal (x : Float64) : Int :=
  if x.negative then -(x.magnitude : Int) else x.magnitude

/-- `x == y`: false whenever a NaN is involved. -/
def eq (x y : Float64) : Bool := !x.isNaN && !y.isNaN && decide (x.ordinal = y.ordinal)

/-- `x < y`. -/
def lt (x y : Float64) : Bool := !x.isNaN && !y.isNaN && decide (x.ordinal < y.ordinal)

/-- `x <= y`. -/
def le (x y : Float64) : Bool := !x.isNaN && !y.isNaN && decide (x.ordinal ≤ y.ordinal)

/-- `0.0`. -/
def zero : Float64 := ⟨0#64⟩

/-- `math.Abs(x)`. -/
def abs (x : Float64) : Float64 := ⟨BitVec.ofNat 64 x.magnitude⟩

/-- The integer part of a finite value, rounded towards zero. -/
def truncate (x : Float64) : Int :=
  let exponent := x.magnitude / 2 ^ 52
  let fraction := x.magnitude % 2 ^ 52
  let significand := if exponent = 0 then fraction else fraction + 2 ^ 52
  -- value = significand * 2 ^ (exponent - 1075), subnormals sharing exponent 1
  let n : Nat := if 1075 ≤ exponent then significand * 2 ^ (exponent - 1075)
    else significand / 2 ^ (1075 - max exponent 1)
  if x.negative then -(n : Int) else n

/-- `int(x)`. Out of range the language leaves the result to the platform; amd64
yields the smallest integer. -/
def toInt (x : Float64) : Int :=
  if infinity ≤ x.magnitude then -2 ^ 63
  else if x.truncate < -2 ^ 63 ∨ 2 ^ 63 ≤ x.truncate then -2 ^ 63
  else x.truncate

end Float64

/-! ## Dynamically typed values -/

/-- `any`, restricted to the dynamic types `encoding/json` produces. -/
inductive Any where
  | nil
  | bool (b : Bool)
  | float64 (x : Float64)
  | string (s : String)
  | slice (xs : List Any)
  | map (fields : List (String × Any))

/-- `map[string]any`. Lookups go through the key, so the order of the entries is
immaterial to the code that reads them. -/
abbrev GoMap := List (String × Any)

/-! ## Standard-library conversions -/

/-- Text conversions of the Go standard library that the model leaves open. -/
structure Stdlib where
  /-- `fmt.Sprintf("%g", x)`, which is also how `%v` prints a float. -/
  sprintG : Float64 → String
  /-- `fmt.Sscanf(s, "%g", &f)`, with `f` starting at zero. -/
  sscanG : String → Float64
  /-- `strings.EqualFold`. -/
  equalFold : String → String → Bool
  /-- `strings.ToLower`. -/
  toLower : String → String
  /-- `strings.TrimSpace`. -/
  trimSpace : String → String
  /-- `time.Parse(time.RFC3339, s)`. -/
  parseRFC3339 : String → Option Time
  /-- `time.Parse("2006-01-02", s)`. -/
  parseDateOnly : String → Option Time
  /-- `net.ParseCIDR(cidr)` and `net.ParseIP(ip)` succeed and the network
  contains the address. -/
  cidrContains : String → String → Bool

variable (std : Stdlib)

/-- `map[k1:v1 k2:v2]`, the entries ordered by key as package `fmt` prints them. -/
def printMap (fields : List (String × String)) : String :=
  "map[" ++ " ".intercalate
    ((fields.insertionSort fun a b => a.1 ≤ b.1).map fun kv => kv.1 ++ ":" ++ kv.2) ++ "]"

mutual

/-- `fmt.Sprintf("%v", v)`. -/
def sprintV : Any → String
  | .nil => "<nil>"
  | .bool b => if b then "true" else "false"
  | .float64 x => std.sprintG x
  | .string s => s
  | .slice xs => "[" ++ " ".intercalate (sprintVs xs) ++ "]"
  | .map fields => printMap (sprintFields fields)

def sprintVs : List Any → List String
  | [] => []
  | x :: xs => sprintV x :: sprintVs xs

def sprintFields : List (String × Any) → List (String × String)
  | [] => []
  | (k, v) :: rest => (k, sprintV v) :: sprintFields rest

end

end Ggid.Go
