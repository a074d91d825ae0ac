/-!
# Little-endian words

Every integer inside a buffer (values, offsets, lengths, counts) is a little-endian word of
1, 2, 4 or 8 bytes. A word is kept as the natural number its bytes spell; a signed reading
takes it in two's complement.

> `value (bytes w n) = n % 256 ^ w`, and `toInt w (ofInt w i) = i` for `i` in range.
-/

namespace Columnar.LittleEndian

/-- The `width` bytes of `n`, least significant first (higher bytes of `n` are dropped). -/
def bytes (width : Nat) (n : Nat) : List UInt8 :=
  (List.range width).map fun i => (n / Nat.pow 256 i % 256).toUInt8

/-- The number little-endian bytes spell. -/
def value : List UInt8 → Nat
  | [] => 0
  | b :: rest => b.toNat + 256 * value rest

/-- The two's-complement word of `i` in `width` bytes. -/
def ofInt (width : Nat) (i : Int) : Nat :=
  (i % Int.pow 2 (8 * width)).toNat

/-- A `width`-byte word read as a signed integer. -/
def toInt (width : Nat) (w : Nat) : Int :=
  if w < Nat.pow 2 (8 * width - 1) then (w : Int) else (w : Int) - Int.pow 2 (8 * width)

/-- Splits bytes into words of `width` bytes; a short tail is dropped. -/
def words (width : Nat) (bs : List UInt8) : List Nat :=
  if _hw : width = 0 then []
  else if bs.length < width then []
  else
    value (bs.take width) :: words width (bs.drop width)
termination_by bs.length
decreasing_by
  simp only [List.length_drop]
  omega

/-- The bytes of a list of words, each `width` bytes. -/
def ofWords (width : Nat) (ws : List Nat) : List UInt8 :=
  ws.flatMap (bytes width)

/-- `count` bytes of a region starting at `start`, reading zeros past its end. -/
def region (bs : List UInt8) (start count : Nat) : List UInt8 :=
  let avail := (bs.drop start).take count
  avail ++ List.replicate (count - avail.length) 0

end Columnar.LittleEndian
