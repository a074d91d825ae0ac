/-!
# Floating-point values as bits

Column buffers hold floats as their IEEE-754 bit patterns, a 32-bit word for single and a
64-bit word for double precision. This module works on the patterns as natural numbers:

* `widen` turns a single into the double of the same value. Every single is a double, so
  the value is kept exactly; a NaN keeps its payload and becomes quiet, as the conversion
  instruction of the platform does.
* `eq32` and `eq64` are the comparison of values, not of patterns: a NaN equals nothing,
  and the two zeros are equal.
-/

namespace Columnar

namespace FloatBits

/-- The sign, exponent and fraction fields of a single. -/
def fields32 (b : Nat) : Bool × Nat × Nat :=
  (b / Nat.pow 2 31 % 2 = 1, b / Nat.pow 2 23 % Nat.pow 2 8, b % Nat.pow 2 23)

/-- The sign, exponent and fraction fields of a double. -/
def fields64 (b : Nat) : Bool × Nat × Nat :=
  (b / Nat.pow 2 63 % 2 = 1, b / Nat.pow 2 52 % Nat.pow 2 11, b % Nat.pow 2 52)

/-- The pattern of the double nearest `±mantissa · 10 ^ exponent`. -/
def ofDecimal (negative : Bool) (mantissa : Nat) (exponent : Int) : Nat :=
  let magnitude : Float :=
    if 0 ≤ exponent then Float.ofScientific mantissa false exponent.toNat
    else Float.ofScientific mantissa true (-exponent).toNat
  (if negative then -magnitude else magnitude).toBits.toNat

/-- The pattern of a double from its fields. -/
def double (sign : Bool) (exponent fraction : Nat) : Nat :=
  (if sign then Nat.pow 2 63 else 0) + exponent * Nat.pow 2 52 + fraction

/-- The position of the highest set bit of a positive number. -/
def topBit (m : Nat) : Nat :=
  Nat.log2 m

/-- The double with the value of a single. -/
def widen (b : Nat) : Nat :=
  let (s, e, f) := fields32 b
  if e = 255 then
    if f = 0 then double s 2047 0
    else double s 2047 ((f ||| Nat.pow 2 22) * Nat.pow 2 29)
  else if e = 0 then
    if f = 0 then double s 0 0
    else
      -- a subnormal single f · 2^-149 is the normal double 1.r · 2^(k - 149), k = topBit f
      let k := topBit f
      double s (k + 1023 - 149) ((f - Nat.pow 2 k) * Nat.pow 2 (52 - k))
  else double s (e + 1023 - 127) (f * Nat.pow 2 29)

/-- Whether a double is a NaN. -/
def isNaN64 (b : Nat) : Bool :=
  let (_, e, f) := fields64 b
  e = 2047 ∧ f ≠ 0

/-- Whether a single is a NaN. -/
def isNaN32 (b : Nat) : Bool :=
  let (_, e, f) := fields32 b
  e = 255 ∧ f ≠ 0

/-- Equality of the values of two doubles. -/
def eq64 (a b : Nat) : Bool :=
  if isNaN64 a ∨ isNaN64 b then false
  else a = b ∨ (a % Nat.pow 2 63 = 0 ∧ b % Nat.pow 2 63 = 0)

/-- Equality of the values of two singles. -/
def eq32 (a b : Nat) : Bool :=
  if isNaN32 a ∨ isNaN32 b then false
  else a = b ∨ (a % Nat.pow 2 31 = 0 ∧ b % Nat.pow 2 31 = 0)

/-- The quiet NaN that arithmetic produces, as a double. -/
def nan64 : Nat := 0x7ff8000000000000

/-- The quiet NaN that arithmetic produces, as a single. -/
def nan32 : Nat := 0x7fc00000

/-- Positive infinity as a double. -/
def inf64 : Nat := 0x7ff0000000000000

/-- Positive infinity as a single. -/
def inf32 : Nat := 0x7f800000

/-- The pattern written as `0x` and sixteen lowercase hex digits. -/
def hexText (b : Nat) : String :=
  let d (k : Nat) : Char := "0123456789abcdef".toList.getD (b / Nat.pow 16 k % 16) '0'
  "0x" ++ String.ofList ((List.range 16).reverse.map d)

end FloatBits

end Columnar
