import Columnar.Error

/-!
# Bitmaps

A `Bitmap` is `len` bits read from a byte string starting at bit `offset`, least significant
bit first: bit `i` is bit `(offset + i) % 8` of byte `(offset + i) / 8`. Bitmaps hold
validity (1 = valid) and boolean values.

The bytes are kept as they are stored, padding bits included, because an exported bitmap
shows its bytes: a window at a byte boundary shares them, and only a window off a byte
boundary is packed anew (`toAligned`). Equality of bitmaps is equality of their logical
bits (`bits`), whatever the offset and padding.

A byte missing from the stored bytes reads as zero, bit by bit in `get` as in the byte-wise
count of `countOnes`; bitmaps the library builds have every bit they cover in their bytes.
A caller reading one bit (`read`) checks it: the bit lies below the length, in a stored byte.

`foreign` marks bytes that are a view of memory a foreign producer still owns.
-/

namespace Columnar

/-- `len` bits of `bytes` from bit `offset` on. -/
structure Bitmap where
  bytes : List UInt8
  offset : Nat
  len : Nat
  foreign : Bool := false
  deriving DecidableEq, Repr, Inhabited

namespace Bitmap

/-- The byte whose bits, least significant first, are `bs` (at most eight). -/
def byteOf (bs : List Bool) : UInt8 :=
  (bs.foldr (fun (b : Bool) (acc : Nat) => (if b then 1 else 0) + 2 * acc) 0).toUInt8

/-- Packs bits into bytes, eight to a byte, the last byte padded with zeros. -/
def pack (bs : List Bool) : List UInt8 :=
  (List.range ((bs.length + 7) / 8)).map fun i => byteOf ((bs.drop (8 * i)).take 8)

/-- The bitmap of a list of bits. -/
def ofBools (bs : List Bool) : Bitmap :=
  ⟨pack bs, 0, bs.length, false⟩

/-- `len` bits all equal to `b`; the padding bits are clear. -/
def setAll (len : Nat) (b : Bool) : Bitmap :=
  ofBools (List.replicate len b)

/-- The empty bitmap. -/
def empty : Bitmap := ofBools []

/-- Bit `j` of the byte string (a missing byte reads as zero). -/
def storedBit (bytes : List UInt8) (j : Nat) : Bool :=
  (bytes.getD (j / 8) 0).toNat / Nat.pow 2 (j % 8) % 2 = 1

/-- Logical bit `i`. -/
def get (m : Bitmap) (i : Nat) : Bool :=
  storedBit m.bytes (m.offset + i)

/-- Logical bit `i` as a caller reads it: past the length it breaks the precondition, and so
does a bit whose byte is not stored. -/
def read (m : Bitmap) (i : Nat) : Outcome Bool :=
  if m.len ≤ i then
    .error (.panic ("Bitmask::get: index " ++ toString i ++ " out of bounds for " ++
      toString m.len))
  else if m.bytes.length ≤ (m.offset + i) / 8 then
    .error (Failure.outOfBounds m.bytes.length ((m.offset + i) / 8))
  else .ok (m.get i)

/-- The logical bits in order. -/
def bits (m : Bitmap) : List Bool :=
  (List.range m.len).map m.get

/-- The set bits of a byte. -/
def byteOnes (b : UInt8) : Nat :=
  b.toBitVec.cpop.toNat

/-- The number of set bits. At a byte boundary the bytes are counted whole: the `len / 8`
full bytes from the first one, then the low `len % 8` bits of the next byte, its padding
masked off; elsewhere the bits are counted one at a time. -/
def countOnes (m : Bitmap) : Nat :=
  if m.offset % 8 = 0 then
    let start := m.offset / 8
    let full := m.len / 8
    let whole := (((m.bytes.drop start).take full).map byteOnes).foldr (· + ·) 0
    let rem := m.len % 8
    if rem ≠ 0 then whole + byteOnes (m.bytes.getD (start + full) 0 &&& ((1 <<< rem.toUInt8) - 1))
    else whole
  else (m.bits.filter id).length

/-- The number of clear bits: the null count of a validity bitmap. -/
def countZeros (m : Bitmap) : Nat :=
  m.len - m.countOnes

/-- Whether the bitmap has no bits. -/
def isEmpty (m : Bitmap) : Bool :=
  m.len == 0

/-- Wraps stored bytes; refused when they are too short for `len` bits from `offset`. -/
def new (bytes : List UInt8) (offset len : Nat) (foreign : Bool := false) : Except Error Bitmap :=
  if bytes.length < (offset + len + 7) / 8 then
    .error (.malformed ("bitmap of " ++ toString bytes.length ++ " bytes is too short for " ++
      toString len ++ " bits at offset " ++ toString offset))
  else .ok ⟨bytes, offset, len, foreign⟩

/-- `new` where the end of the bits, `offset + len`, is first taken as a word sum. -/
def wrap (bytes : List UInt8) (offset len : Nat) : Outcome Bitmap := do
  let _ ← addWords offset len
  Outcome.ofResult (new bytes offset len)

/-- The bits `[o, o + l)`, sharing the stored bytes from the byte that holds bit `o`. The
caller has checked that the window lies inside. -/
def window (m : Bitmap) (o l : Nat) : Bitmap :=
  let start := m.offset + o
  ⟨(m.bytes.drop (start / 8)).take ((start % 8 + l + 7) / 8), start % 8, l, m.foreign⟩

/-- The bits `[o, o + l)`; a window past the end breaks the caller's precondition. Inside,
the window's bytes run from the byte of bit `offset + o` for as many bytes as its bits reach
from there, and taking them checks that they lie in the stored bytes. -/
def slice (m : Bitmap) (o l : Nat) : Outcome Bitmap := do
  if (← addWords o l) ≤ m.len then
    let start ← addWords m.offset o
    let reach ← addWords (start % 8) l
    checkElements (start / 8) ((reach + 7) / 8) m.bytes.length
    pure (m.window o l)
  else throw (.panic ("Bitmask::slice: " ++ toString o ++ "+" ++ toString l ++
    " out of bounds for " ++ toString m.len))

/-- The same bits from bit 0 of the first byte: shared when the offset is a byte boundary,
packed anew otherwise. -/
def toAligned (m : Bitmap) : Bitmap :=
  if m.offset % 8 = 0 then
    ⟨(m.bytes.drop (m.offset / 8)).take ((m.len + 7) / 8), 0, m.len, m.foreign⟩
  else ofBools m.bits

/-- Equality of logical bits. -/
def same (a b : Bitmap) : Bool :=
  a.bits == b.bits

/-- The bits written `Bitmask[1011]`, one digit per bit. -/
def debug (m : Bitmap) : String :=
  "Bitmask[" ++ String.ofList (m.bits.map fun b => if b then '1' else '0') ++ "]"

/-- The bits as a string of `0` and `1`. -/
def digits (m : Bitmap) : String :=
  String.ofList (m.bits.map fun b => if b then '1' else '0')

end Bitmap

end Columnar
