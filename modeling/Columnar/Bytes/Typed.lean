import Columnar.Bytes.Shared
import Columnar.Bytes.LittleEndian
import Columnar.Column.Kind
import Columnar.Value.Decimal

/-!
# Typed buffers over shared bytes

A typed buffer reads a byte buffer as fixed-width little-endian elements. The bytes must
be a whole number of elements. A buffer whose first byte is not aligned for its element
type is copied into fresh storage, which is aligned; an aligned one shares its storage.
-/

namespace Columnar

namespace NumericKind

/-- The kind an element name names: `u8`, `i16`, `u16`, `i32`, `u32`, `i64`, `u64`, `f32`
or `f64`. -/
def ofElementName? : String → Option NumericKind
  | "u8" => some .uint8
  | "i8" => some .int8
  | "i16" => some .int16
  | "u16" => some .uint16
  | "i32" => some .int32
  | "u32" => some .uint32
  | "i64" => some .int64
  | "u64" => some .uint64
  | "f32" => some .float32
  | "f64" => some .float64
  | _ => none

/-- An element as debugging output writes it: an integer in decimal, a float by its
shortest text. -/
def debugText (k : NumericKind) (w : Nat) : String :=
  match k with
  | .float32 => FloatBits.single32.debugText w
  | .float64 => FloatBits.double64.debugText w
  | k => toString (k.integer w)

end NumericKind

/-- Elements read from shared bytes: their kind and words, and whether they had to be
copied to be aligned. -/
structure TypedBuffer where
  kind : NumericKind
  words : List Nat
  copied : Bool
  /-- The first element is on a 64-byte boundary, or there is none. -/
  aligned64 : Bool

namespace TypedBuffer

/-- Reads a byte buffer as elements of a kind: refused when the bytes are not a whole
number of elements; copied when the first byte is not aligned for the element. -/
def ofShared (k : NumericKind) (b : SharedBytes) (s : Storage) : Except Error TypedBuffer :=
  if b.len % k.width ≠ 0 then
    .error (.malformed ("buffer of " ++ toString b.len ++ " bytes is not a whole number of " ++
      toString k.width ++ "-byte values"))
  else
    let copied := 0 < b.len ∧ b.start % k.width ≠ 0
    .ok ⟨k, LittleEndian.words k.width (b.read s), copied, copied || b.aligned64⟩

/-- The number of elements. -/
def len (t : TypedBuffer) : Nat := t.words.length

/-- Every element equals itself: false when a float element is a NaN. -/
def selfEqual (t : TypedBuffer) : Bool :=
  t.words.all fun w => t.kind.sameValue w w

/-- The elements as debugging output lists them: `[1, 2, 3]`. -/
def debugText (t : TypedBuffer) : String :=
  "[" ++ ", ".intercalate (t.words.map t.kind.debugText) ++ "]"

/-- The words of elements `[o, o + l)`, checked to lie in the buffer. -/
def slice (t : TypedBuffer) (o l : Nat) : Outcome (List Nat) := do
  checkElements o l t.len
  pure ((t.words.drop o).take l)

end TypedBuffer

end Columnar
