import Columnar.Value.Float

/-!
# Floats as shortest decimal text

A finite float is written with the fewest significant digits that still read back as the
same float, and among those, the digits closest to its value. Two candidates can be equally
close; debugging output then takes the larger, the host language the one whose last digit
is even. Reading back rounds to nearest, ties to even, so a float with an even significand
also owns the two midpoints to its neighbours.

The search is exact: with `v = mant · 2^exp` and its interval
`[(mant - minus) · 2^exp, (mant + plus) · 2^exp]`, the largest power `10^q` of which the
interval holds a multiple gives the shortest digits, and the multiple nearest `v` is the
answer. Every comparison is one of natural numbers, scaled by powers of 2 and 10.

The text is plain decimals with at least one fractional digit (`0.1`, `100.0`, `-0.0`),
and exponent form for magnitudes from `10^16` up or below `10^-4`. A `FloatStyle` says how
the exponent and a NaN are written: debugging output writes `1e16`, `3.8204714e-37` and
`NaN`; the host language writes `1e+16`, `1e-05` and `nan`. Both write `inf` and `-inf`.
-/

namespace Columnar

namespace FloatBits

/-- The layout of a binary float format, and the magnitudes, as bit patterns, from which
its debugging text takes the exponent form: at or above `large`, or below `small`. -/
structure FloatFormat where
  fractionBits : Nat
  exponentBits : Nat
  bias : Nat
  small : Nat
  large : Nat

/-- Double precision. -/
def double64 : FloatFormat := ⟨52, 11, 1023, 0x3F1A36E2EB1C432D, 0x4341C37937E08000⟩

/-- Single precision. -/
def single32 : FloatFormat := ⟨23, 8, 127, 0x38D1B717, 0x5A0E1BCA⟩

/-- A positive finite float as `mant · 2^exp`, with the reach `minus · 2^exp` and
`plus · 2^exp` of the values that read back as it; the ends belong to it when
`inclusive`. -/
structure Decoded where
  mant : Nat
  minus : Nat
  plus : Nat
  exp : Int
  inclusive : Bool

/-- What a bit pattern holds. -/
inductive Decoding where
  | nan
  | infinite
  | zero
  | finite (d : Decoded)

/-- Splits a pattern of the format into its sign and what it holds. A normal float with
the smallest significand has a neighbour below at half the distance of the one above. -/
def FloatFormat.decode (fmt : FloatFormat) (b : Nat) : Bool × Decoding :=
  let sign := b / Nat.pow 2 (fmt.fractionBits + fmt.exponentBits) % 2 = 1
  let e := b / Nat.pow 2 fmt.fractionBits % Nat.pow 2 fmt.exponentBits
  let f := b % Nat.pow 2 fmt.fractionBits
  let shift : Int := fmt.bias + fmt.fractionBits
  let held :=
    if e = Nat.pow 2 fmt.exponentBits - 1 then (if f = 0 then Decoding.infinite else .nan)
    else if e = 0 then
      if f = 0 then .zero else .finite ⟨2 * f, 1, 1, -shift, true⟩
    else
      let m := f + Nat.pow 2 fmt.fractionBits
      let x : Int := (e : Int) - shift
      if f = 0 then .finite ⟨4 * m, 1, 2, x - 2, true⟩
      else .finite ⟨2 * m, 1, 1, x - 1, m % 2 = 0⟩
  (sign, held)

/-- `x · 2^exp` scaled by `10^-q` where that is a fraction, as a natural number to compare
with multiples of `unitAt exp q`. -/
def scaledAt (exp q : Int) (x : Nat) : Nat :=
  x * Nat.pow 2 exp.toNat * Nat.pow 10 (-q).toNat

/-- `10^q` on the scale of `scaledAt exp q`. -/
def unitAt (exp q : Int) : Nat :=
  Nat.pow 10 q.toNat * Nat.pow 2 (-exp).toNat

/-- The multiple of `10^q` nearest the value among those in its interval, if any; a tie
between two multiples goes to the even one when `evenTies`, else up. -/
def digitsAt (evenTies : Bool) (x : Decoded) (q : Int) : Option Nat :=
  let u := unitAt x.exp q
  let lo := scaledAt x.exp q (x.mant - x.minus)
  let hi := scaledAt x.exp q (x.mant + x.plus)
  let first := max 1 (if x.inclusive then (lo + u - 1) / u else lo / u + 1)
  let last := if x.inclusive then hi / u else (hi - 1) / u
  if first ≤ last then
    let v := scaledAt x.exp q x.mant
    let below := v / u
    let twice := 2 * (v % u)
    let nearest :=
      if u < twice ∨ (twice = u ∧ (!evenTies || below % 2 = 1)) then below + 1 else below
    some (min last (max first nearest))
  else none

/-- The exponent of the largest power of ten not above `n`, for positive `n`: one less
than its number of digits. -/
def decimalLog (n : Nat) : Nat :=
  (Nat.toDigits 10 n).length - 1

/-- A power of ten no smaller than the top of the value's interval, as its exponent. -/
def topExponent (x : Decoded) : Int :=
  let top := x.mant + x.plus
  if 0 ≤ x.exp then decimalLog (top * Nat.pow 2 x.exp.toNat)
  else
    let den := Nat.pow 2 (-x.exp).toNat
    if den ≤ top then decimalLog (top / den) else -(decimalLog (den / top) : Int)

/-- The first exponent from `q` down, within `fuel` steps, at which the interval holds a
multiple, with that multiple. -/
def searchDown (evenTies : Bool) (x : Decoded) : Nat → Int → Option (Nat × Int)
  | 0, _ => none
  | fuel + 1, q =>
    match digitsAt evenTies x q with
    | some d => some (d, q)
    | none => searchDown evenTies x fuel (q - 1)

/-- The shortest digits of a positive finite float and their exponent: the value reads
back from `digits · 10^q`. The search starts at a power no smaller than the value, and a
float's interval always holds a multiple of a power within seventeen steps below it, so
sixty-four steps end the search. -/
def shortest (evenTies : Bool) (x : Decoded) : Nat × Int :=
  (searchDown evenTies x 64 (topExponent x)).getD (x.mant, 0)

/-- `n` zero characters. -/
def zeros (n : Nat) : String :=
  String.ofList (List.replicate n '0')

/-- Digits `s` worth `0.s · 10^k`, as a decimal with at least one fractional digit. -/
def decimalText (s : String) (k : Int) : String :=
  let n := s.length
  if k ≤ 0 then "0." ++ zeros (-k).toNat ++ s
  else if k < n then String.ofList (s.toList.take k.toNat) ++ "." ++
    String.ofList (s.toList.drop k.toNat)
  else s ++ zeros (k.toNat - n) ++ ".0"

/-- How a float's text writes its exponent and a NaN. -/
structure FloatStyle where
  /-- A non-negative exponent carries `+`. -/
  plusSign : Bool
  /-- The exponent has at least this many digits. -/
  exponentDigits : Nat
  nan : String
  /-- Of two equally close shortest digit strings, the even one is taken, not the larger. -/
  evenTies : Bool

/-- The style of debugging output: `1e16`, `1e-5`, `NaN`, ties up. -/
def FloatStyle.debug : FloatStyle := ⟨false, 1, "NaN", false⟩

/-- The style of the host language: `1e+16`, `1e-05`, `nan`, ties to even. -/
def FloatStyle.host : FloatStyle := ⟨true, 2, "nan", true⟩

/-- An exponent written in a style. -/
def FloatStyle.exponent (st : FloatStyle) (x : Int) : String :=
  let digits := toString x.natAbs
  let sign := if x < 0 then "-" else if st.plusSign then "+" else ""
  sign ++ zeros (st.exponentDigits - digits.length) ++ digits

/-- Digits `s` worth `0.s · 10^k`, in exponent form: `d.ddde-x`, no point for one digit. -/
def exponentText (st : FloatStyle) (s : String) (k : Int) : String :=
  let rest := s.toList.drop 1
  String.ofList (s.toList.take 1) ++ (if rest.isEmpty then "" else "." ++ String.ofList rest) ++
    "e" ++ st.exponent (k - 1)

/-- The text of a float of the format, in a style. -/
def FloatFormat.text (fmt : FloatFormat) (st : FloatStyle) (b : Nat) : String :=
  let (sign, held) := fmt.decode b
  let minus := if sign then "-" else ""
  match held with
  | .nan => st.nan
  | .infinite => minus ++ "inf"
  | .zero => minus ++ "0.0"
  | .finite x =>
    let (d, q) := shortest st.evenTies x
    let s := toString d
    let k := q + s.length
    let magnitude := b % Nat.pow 2 (fmt.fractionBits + fmt.exponentBits)
    if magnitude < fmt.small ∨ fmt.large ≤ magnitude then minus ++ exponentText st s k
    else minus ++ decimalText s k

/-- The debugging text of a float of the format. -/
def FloatFormat.debugText (fmt : FloatFormat) (b : Nat) : String :=
  fmt.text .debug b

end FloatBits

end Columnar
