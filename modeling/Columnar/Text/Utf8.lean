/-!
# UTF-8 text (RFC 3629)

Names, format strings, metadata keys and string values cross the interchange boundary as
UTF-8 bytes. `encode` writes a string's code points; `decode?` reads bytes back as text and
refuses exactly what RFC 3629 excludes:

> a stray continuation byte, a lead byte `C0`, `C1` or above `F4`, an overlong form,
> a surrogate `D800`–`DFFF`, a code point above `10FFFF`, a truncated sequence.

The second byte of a sequence carries the exclusions: `secondRange` gives the bytes it may
be after each lead byte, and every later byte is a plain continuation `80`–`BF`.
`decodeLossy` reads any bytes, putting `U+FFFD` for each ill-formed part.
-/

namespace Columnar.Utf8

/-- The bytes of one code point, shortest form. -/
def encodeChar (c : Char) : List UInt8 :=
  let n := c.toNat
  if n < 0x80 then [n.toUInt8]
  else if n < 0x800 then [(0xC0 + n / 64).toUInt8, (0x80 + n % 64).toUInt8]
  else if n < 0x10000 then
    [(0xE0 + n / 4096).toUInt8, (0x80 + n / 64 % 64).toUInt8, (0x80 + n % 64).toUInt8]
  else
    [(0xF0 + n / 262144).toUInt8, (0x80 + n / 4096 % 64).toUInt8,
      (0x80 + n / 64 % 64).toUInt8, (0x80 + n % 64).toUInt8]

/-- The UTF-8 bytes of a string. -/
def encode (s : String) : List UInt8 :=
  s.toList.flatMap encodeChar

/-- A continuation byte, `80`–`BF`. -/
def isTail (b : UInt8) : Bool :=
  0x80 ≤ b && b ≤ 0xBF

/-- How many bytes a sequence opened by `a` has, or `none` for a byte that opens none. -/
def width (a : UInt8) : Option Nat :=
  if a < 0x80 then some 1
  else if 0xC2 ≤ a && a ≤ 0xDF then some 2
  else if 0xE0 ≤ a && a ≤ 0xEF then some 3
  else if 0xF0 ≤ a && a ≤ 0xF4 then some 4
  else none

/-- The bytes allowed second after the lead byte `a`: narrower than `80`–`BF` exactly where
overlong forms, surrogates and code points past `10FFFF` would start. -/
def secondRange (a : UInt8) : UInt8 × UInt8 :=
  if a = 0xE0 then (0xA0, 0xBF)
  else if a = 0xED then (0x80, 0x9F)
  else if a = 0xF0 then (0x90, 0xBF)
  else if a = 0xF4 then (0x80, 0x8F)
  else (0x80, 0xBF)

/-- Whether `b` may follow the lead byte `a`. -/
def secondOk (a b : UInt8) : Bool :=
  (secondRange a).1 ≤ b && b ≤ (secondRange a).2

/-- The code point of a well-formed sequence, from its lead byte and continuation bytes. -/
def codePoint (a : UInt8) (tails : List UInt8) : Nat :=
  let lead := match tails.length with
    | 0 => a.toNat
    | 1 => a.toNat % 32
    | 2 => a.toNat % 16
    | _ => a.toNat % 8
  tails.foldl (fun acc t => acc * 64 + t.toNat % 64) lead

/-- The code points of a byte list, or `none` if it is not UTF-8. -/
def decodeChars : List UInt8 → Option (List Char)
  | [] => some []
  | a :: r =>
    match width a with
    | some 1 => (decodeChars r).map (Char.ofNat a.toNat :: ·)
    | some 2 =>
      match r with
      | b :: r2 =>
        if secondOk a b then (decodeChars r2).map (Char.ofNat (codePoint a [b]) :: ·) else none
      | [] => none
    | some 3 =>
      match r with
      | b :: c :: r3 =>
        if secondOk a b && isTail c then
          (decodeChars r3).map (Char.ofNat (codePoint a [b, c]) :: ·)
        else none
      | _ => none
    | some 4 =>
      match r with
      | b :: c :: d :: r4 =>
        if secondOk a b && isTail c && isTail d then
          (decodeChars r4).map (Char.ofNat (codePoint a [b, c, d]) :: ·)
        else none
      | _ => none
    | _ => none

/-- The text a byte list spells, or `none` if it is not UTF-8. -/
def decode? (bytes : List UInt8) : Option String :=
  (decodeChars bytes).map String.ofList

/-- How many of the bytes after the lead byte `a` continue its sequence, at most `need`:
the first must be allowed after `a`, every later one must be a continuation byte. -/
def tailCount (a : UInt8) (need : Nat) (r : List UInt8) : Nat :=
  match need, r with
  | 0, _ => 0
  | _, [] => 0
  | k + 1, b :: rest => if secondOk a b then 1 + ((rest.take k).takeWhile isTail).length else 0

/-- The replacement character `U+FFFD`. -/
def replacement : Char := Char.ofNat 0xFFFD

/-- The code points of a byte list, each ill-formed part read as `U+FFFD`. A lead byte and
the bytes that continue it as far as they fit make one replacement when the sequence stops
short (the maximal subpart, as Unicode recommends); any other byte that starts no sequence
is one replacement of its own. Well-formed input reads as `decodeChars` reads it. -/
def decodeLossyChars (bytes : List UInt8) : List Char :=
  match bytes with
  | [] => []
  | a :: r =>
    match width a with
    | some 1 => Char.ofNat a.toNat :: decodeLossyChars r
    | some w =>
      let t := tailCount a (w - 1) r
      (if t = w - 1 then Char.ofNat (codePoint a (r.take t)) else replacement) ::
        decodeLossyChars (r.drop t)
    | none => replacement :: decodeLossyChars r
termination_by bytes.length
decreasing_by
  all_goals simp only [List.length_drop, List.length_cons]
  all_goals omega

/-- The text a byte list spells, with each ill-formed part read as `U+FFFD`. -/
def decodeLossy (bytes : List UInt8) : String :=
  String.ofList (decodeLossyChars bytes)

end Columnar.Utf8
