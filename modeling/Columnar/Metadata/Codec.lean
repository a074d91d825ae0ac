import Columnar.Metadata.Basic
import Columnar.Bytes.LittleEndian
import Columnar.Text.Utf8
import Columnar.Error

/-!
# The metadata byte layout

A schema node carries its metadata as one byte string:

> a signed 32-bit little-endian pair count, then for each pair a signed 32-bit key length,
> the key's UTF-8 bytes, a signed 32-bit value length and the value's UTF-8 bytes.

Empty metadata is written as no byte string at all (a null pointer). Pairs are written in
key order. Reading refuses a negative count or length and bytes that are not UTF-8; it
reads zeros past the end of the given bytes, as a foreign buffer does past its contents,
and keeps the last value of a repeated key.
-/

namespace Columnar

namespace Metadata

/-- The largest count or length the layout can hold. -/
def maxLength : Nat := Nat.pow 2 31 - 1

/-- A length as four bytes, refused above `maxLength`. -/
def lengthBytes (what : String) (n : Nat) : Except Error (List UInt8) :=
  if n ≤ maxLength then .ok (LittleEndian.bytes 4 n)
  else .error (.schema (what ++ " " ++ toString n ++ " exceeds i32::MAX"))

/-- The bytes of one pair. -/
def pairBytes (p : String × String) : Except Error (List UInt8) := do
  let k := Utf8.encode p.1
  let v := Utf8.encode p.2
  let kl ← lengthBytes "metadata key length" k.length
  let vl ← lengthBytes "metadata value length" v.length
  pure (kl ++ k ++ vl ++ v)

/-- The byte string of the metadata, or `none` when there are no pairs. -/
def encode (m : Metadata) : Except Error (Option (List UInt8)) :=
  if m.isEmpty then .ok none
  else do
    let count ← lengthBytes "metadata pair count" m.size
    let pairs ← m.entries.mapM pairBytes
    pure (some (count ++ pairs.flatten))

/-- Reads a signed 32-bit length; a negative one is refused. -/
def readLength (what : String) (rest : List UInt8) : Except Error (Nat × List UInt8) :=
  let n := LittleEndian.toInt 4 (LittleEndian.value (LittleEndian.region rest 0 4))
  if n < 0 then .error (.schema (what ++ " is negative (" ++ toString n ++ ")"))
  else .ok (n.toNat, rest.drop 4)

/-- Reads a length and that many bytes of UTF-8 text. -/
def readText (what : String) (rest : List UInt8) : Except Error (String × List UInt8) := do
  let (n, rest) ← readLength what rest
  match Utf8.decode? (LittleEndian.region rest 0 n) with
  | some s => pure (s, rest.drop n)
  | none => .error (.schema (what ++ " is not valid UTF-8"))

/-- Reads `count` pairs into `acc`. Past the end of the bytes every pair is empty, so the
first such pair stands for all that follow. -/
def readPairs : Nat → List UInt8 → Metadata → Except Error Metadata
  | 0, _, acc => .ok acc
  | _ + 1, [], acc => .ok (acc.insert "" "")
  | n + 1, rest@(_ :: _), acc => do
    let (k, rest) ← readText "metadata key" rest
    let (v, rest) ← readText "metadata value" rest
    readPairs n rest (acc.insert k v)

/-- The metadata of a byte string; no byte string means no pairs. -/
def decode : Option (List UInt8) → Except Error Metadata
  | none => .ok empty
  | some bytes => do
    let (n, rest) ← readLength "metadata pair count" bytes
    readPairs n rest empty

/-- A signed 32-bit word at byte `pos` of `bytes`, reading zeros past their end and before
their start. -/
def wordAt (bytes : List UInt8) (pos : Int) : Int :=
  if pos < 0 then 0
  else LittleEndian.toInt 4 (LittleEndian.value (LittleEndian.region bytes pos.toNat 4))

/-- Where the pairs from `pos` on end, `k` pairs left: past each pair's key length, key,
value length and value. A pair that leaves the position where it was leaves every later
one there too, and past the end of the bytes every length reads as zero, so each pair
there is eight bytes. -/
def pairsEnd (bytes : List UInt8) : Nat → Int → Int
  | 0, pos => pos
  | k + 1, pos =>
    if (bytes.length : Int) ≤ pos then pos + 8 * (k + 1)
    else
      let afterKey := pos + 4 + wordAt bytes pos
      let next := afterKey + 4 + wordAt bytes afterKey
      if next = pos then pos else pairsEnd bytes k next

/-- Where the layout in `bytes` ends, as a reader that trusts it finds out: past the count,
then past every pair, taking each count and length as a signed word, so that a negative
length steps back, and reading zeros past the end of the bytes. For bytes that
`encode` wrote this is their length. -/
def extent (bytes : List UInt8) : Int :=
  pairsEnd bytes (wordAt bytes 0).toNat 4

/-- The bytes such a reader takes for the layout: up to `extent`, zeros past the end. -/
def covered (bytes : List UInt8) : List UInt8 :=
  LittleEndian.region bytes 0 (extent bytes).toNat

end Metadata

end Columnar
