import Columnar.Type.Basic
import Columnar.Value.Scalar
import Columnar.Value.Float
import Columnar.Bytes.LittleEndian

/-!
# Kinds of fixed-width columns

A numeric column holds words of one `NumericKind`: signed or unsigned integers of 1 to 8
bytes, or singles and doubles as their bit patterns. A temporal column holds signed words of
one `TemporalKind`, 4 bytes for 32-bit dates and times and 8 bytes for the rest.

A word is kept as the natural number its little-endian bytes spell; `NumericKind.scalar`
reads it as the slot's value: two's complement for signed kinds, a double for floats.
-/

namespace Columnar

/-- The element type of a numeric column. -/
inductive NumericKind where
  | int8
  | int16
  | int32
  | int64
  | uint8
  | uint16
  | uint32
  | uint64
  | float32
  | float64
  deriving DecidableEq, Repr, Inhabited

namespace NumericKind

/-- Bytes per element. -/
def width : NumericKind → Nat
  | .int8 | .uint8 => 1
  | .int16 | .uint16 => 2
  | .int32 | .uint32 | .float32 => 4
  | .int64 | .uint64 | .float64 => 8

/-- The logical type of a column of this kind. -/
def type : NumericKind → DataType
  | .int8 => .int8
  | .int16 => .int16
  | .int32 => .int32
  | .int64 => .int64
  | .uint8 => .uint8
  | .uint16 => .uint16
  | .uint32 => .uint32
  | .uint64 => .uint64
  | .float32 => .float32
  | .float64 => .float64

/-- The kind of a numeric type. -/
def ofType? : DataType → Option NumericKind
  | .int8 => some .int8
  | .int16 => some .int16
  | .int32 => some .int32
  | .int64 => some .int64
  | .uint8 => some .uint8
  | .uint16 => some .uint16
  | .uint32 => some .uint32
  | .uint64 => some .uint64
  | .float32 => some .float32
  | .float64 => some .float64
  | _ => none

/-- Whether the kind is a signed integer. -/
def isSigned : NumericKind → Bool
  | .int8 | .int16 | .int32 | .int64 => true
  | _ => false

/-- Whether the kind is a float. -/
def isFloat : NumericKind → Bool
  | .float32 | .float64 => true
  | _ => false

/-- The index type of an integer kind. -/
def index? (k : NumericKind) : Option IndexType :=
  IndexType.ofKeyType? k.type

/-- The integer a word of an integer kind spells. -/
def integer (k : NumericKind) (w : Nat) : Int :=
  if k.isSigned then LittleEndian.toInt k.width w else w

/-- The scalar of a word. -/
def scalar (k : NumericKind) (w : Nat) : Scalar :=
  match k with
  | .float32 => .float (FloatBits.widen w)
  | .float64 => .float w
  | .uint8 | .uint16 | .uint32 | .uint64 => .uint w
  | _ => .int (LittleEndian.toInt k.width w)

/-- Equality of two words as values: floats compare as numbers, integers as words. -/
def sameValue (k : NumericKind) (a b : Nat) : Bool :=
  match k with
  | .float32 => FloatBits.eq32 a b
  | .float64 => FloatBits.eq64 a b
  | _ => a == b

end NumericKind

/-- The numeric kind of an index type's keys. -/
def IndexType.kind : IndexType → NumericKind
  | .int8 => .int8
  | .int16 => .int16
  | .int32 => .int32
  | .int64 => .int64
  | .uint8 => .uint8
  | .uint16 => .uint16
  | .uint32 => .uint32
  | .uint64 => .uint64

/-- The element type of a temporal column. -/
inductive TemporalKind where
  | date32
  | date64
  | time32
  | time64
  | timestamp
  | duration
  deriving DecidableEq, Repr, Inhabited

namespace TemporalKind

/-- Bytes per element. -/
def width : TemporalKind → Nat
  | .date32 | .time32 => 4
  | _ => 8

/-- The logical type of a column of this kind with the given unit and zone. -/
def type (k : TemporalKind) (unit : TimeUnit) (zone : Option String) : DataType :=
  match k with
  | .date32 => .date32
  | .date64 => .date64
  | .time32 => .time32 unit
  | .time64 => .time64 unit
  | .timestamp => .timestamp unit zone
  | .duration => .duration unit

end TemporalKind

end Columnar
