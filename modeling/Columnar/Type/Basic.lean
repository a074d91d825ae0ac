import Columnar.Type.Unit
import Columnar.Metadata.Basic

/-!
# Logical types and fields

A `DataType` is the logical type of a column; a `Field` names a type and says whether it may
hold nulls and what metadata it carries. Struct and list types hold fields, so the two are
defined together.

Two derived views matter across the library:

> `materialise` replaces the string-view type by the plain string type at every depth,
> since imported string views are copied into plain strings;
> `display` writes a type as the library's messages show it: `Timestamp(Seconds, UTC)`,
> `Dictionary(Int32, String, ordered)`, `Struct(a: Int32, b: List(Utf8View))`.

Equality of types is the structural `beq` below; it reduces by `decide`, which the derived
instances of nested types do not.
-/

namespace Columnar

/-- The integer types a dictionary may use for its keys. -/
inductive IndexType where
  | int8
  | int16
  | int32
  | int64
  | uint8
  | uint16
  | uint32
  | uint64
  deriving DecidableEq, Repr, Inhabited

namespace IndexType

/-- The name of the index type. -/
def name : IndexType → String
  | .int8 => "Int8"
  | .int16 => "Int16"
  | .int32 => "Int32"
  | .int64 => "Int64"
  | .uint8 => "UInt8"
  | .uint16 => "UInt16"
  | .uint32 => "UInt32"
  | .uint64 => "UInt64"

end IndexType

mutual

/-- The logical type of a column. -/
inductive DataType where
  | null
  | boolean
  | int8
  | int16
  | int32
  | int64
  | uint8
  | uint16
  | uint32
  | uint64
  | float32
  | float64
  /-- UTF-8 strings with 32-bit offsets. -/
  | string
  /-- UTF-8 strings with 64-bit offsets. -/
  | largeString
  /-- UTF-8 strings laid out as 16-byte views. -/
  | stringView
  /-- Days since the epoch, 32-bit. -/
  | date32
  /-- Milliseconds since the epoch, 64-bit. -/
  | date64
  | time32 (unit : TimeUnit)
  | time64 (unit : TimeUnit)
  | timestamp (unit : TimeUnit) (zone : Option String)
  | duration (unit : TimeUnit)
  | interval (unit : IntervalUnit)
  /-- Integer keys into a column of `values`. -/
  | dictionary (index : IndexType) (values : DataType) (ordered : Bool)
  | struct (fields : List Field)
  | list (item : Field)
  | largeList (item : Field)

/-- A named, typed slot of a schema. -/
structure Field where
  name : String
  type : DataType
  nullable : Bool
  metadata : Metadata

end

instance : Inhabited DataType := ⟨.null⟩

instance : Inhabited Field := ⟨⟨"", .null, true, Metadata.empty⟩⟩

mutual

/-- Structural equality of types. -/
def DataType.beq : DataType → DataType → Bool
  | .null, .null | .boolean, .boolean | .int8, .int8 | .int16, .int16 | .int32, .int32
  | .int64, .int64 | .uint8, .uint8 | .uint16, .uint16 | .uint32, .uint32
  | .uint64, .uint64 | .float32, .float32 | .float64, .float64 | .string, .string
  | .largeString, .largeString | .stringView, .stringView | .date32, .date32
  | .date64, .date64 => true
  | .time32 a, .time32 b | .time64 a, .time64 b | .duration a, .duration b => a == b
  | .timestamp a z, .timestamp b w => a == b && z == w
  | .interval a, .interval b => a == b
  | .dictionary i v o, .dictionary j w p => i == j && DataType.beq v w && o == p
  | .struct fs, .struct gs => Field.beqList fs gs
  | .list f, .list g | .largeList f, .largeList g => Field.beq f g
  | _, _ => false

/-- Structural equality of fields. -/
def Field.beq : Field → Field → Bool
  | ⟨n, t, u, m⟩, ⟨n', t', u', m'⟩ => n == n' && DataType.beq t t' && u == u' && m == m'

/-- Structural equality of field lists. -/
def Field.beqList : List Field → List Field → Bool
  | [], [] => true
  | f :: fs, g :: gs => Field.beq f g && Field.beqList fs gs
  | _, _ => false

end

instance : BEq DataType := ⟨DataType.beq⟩
instance : BEq Field := ⟨Field.beq⟩

namespace IndexType

/-- The integer type of the keys. -/
def keyType : IndexType → DataType
  | .int8 => .int8
  | .int16 => .int16
  | .int32 => .int32
  | .int64 => .int64
  | .uint8 => .uint8
  | .uint16 => .uint16
  | .uint32 => .uint32
  | .uint64 => .uint64

/-- The index type of an integer type; `none` for every other type. -/
def ofKeyType? : DataType → Option IndexType
  | .int8 => some .int8
  | .int16 => some .int16
  | .int32 => some .int32
  | .int64 => some .int64
  | .uint8 => some .uint8
  | .uint16 => some .uint16
  | .uint32 => some .uint32
  | .uint64 => some .uint64
  | _ => none

end IndexType

mutual

/-- The type with every string-view type replaced by the plain string type. -/
def DataType.materialise : DataType → DataType
  | .stringView => .string
  | .dictionary i v o => .dictionary i (DataType.materialise v) o
  | .struct fs => .struct (Field.materialiseList fs)
  | .list f => .list (Field.materialise f)
  | .largeList f => .largeList (Field.materialise f)
  | t => t

/-- The field with its type materialised. -/
def Field.materialise : Field → Field
  | ⟨n, t, u, m⟩ => ⟨n, DataType.materialise t, u, m⟩

/-- Every field of a list materialised. -/
def Field.materialiseList : List Field → List Field
  | [] => []
  | f :: fs => Field.materialise f :: Field.materialiseList fs

end

mutual

/-- The type as messages show it. -/
def DataType.display : DataType → String
  | .null => "Null"
  | .boolean => "Boolean"
  | .int8 => "Int8"
  | .int16 => "Int16"
  | .int32 => "Int32"
  | .int64 => "Int64"
  | .uint8 => "UInt8"
  | .uint16 => "UInt16"
  | .uint32 => "UInt32"
  | .uint64 => "UInt64"
  | .float32 => "Float32"
  | .float64 => "Float64"
  | .string => "String"
  | .largeString => "LargeString"
  | .stringView => "Utf8View"
  | .date32 => "Date32"
  | .date64 => "Date64"
  | .time32 u => "Time32(" ++ u.name ++ ")"
  | .time64 u => "Time64(" ++ u.name ++ ")"
  | .timestamp u none => "Timestamp(" ++ u.name ++ ")"
  | .timestamp u (some z) => "Timestamp(" ++ u.name ++ ", " ++ z ++ ")"
  | .duration u => "Duration(" ++ u.name ++ ")"
  | .interval u => "Interval(" ++ u.name ++ ")"
  | .dictionary i v o =>
    "Dictionary(" ++ i.name ++ ", " ++ DataType.display v ++ (if o then ", ordered" else "") ++ ")"
  | .struct fs => "Struct(" ++ Field.displayMembers fs ++ ")"
  | .list f => "List(" ++ Field.displayType f ++ ")"
  | .largeList f => "LargeList(" ++ Field.displayType f ++ ")"

/-- The displayed type of a field. -/
def Field.displayType : Field → String
  | ⟨_, t, _, _⟩ => DataType.display t

/-- Struct members as `a: Int32, b: String`. -/
def Field.displayMembers : List Field → String
  | [] => ""
  | [f] => f.name ++ ": " ++ Field.displayType f
  | f :: fs => f.name ++ ": " ++ Field.displayType f ++ ", " ++ Field.displayMembers fs

end

namespace DataType

/-- Struct and list types, whose columns hold child columns. -/
def isNested : DataType → Bool
  | .struct _ | .list _ | .largeList _ => true
  | _ => false

end DataType

namespace Field

/-- A field with empty metadata. -/
def plain (name : String) (type : DataType) (nullable : Bool) : Field :=
  ⟨name, type, nullable, Metadata.empty⟩

/-- The field as messages show it: `Field "x": Int32 (nullable) [metadata: {"k": "v"}]`. -/
def display (f : Field) : String :=
  "Field \"" ++ f.name ++ "\": " ++ f.type.display ++
    (if f.nullable then " (nullable)" else "") ++
    (if f.metadata.isEmpty then "" else " [metadata: " ++ f.metadata.display ++ "]")

/-- The field with `extra` added to its metadata. -/
def withMetadata (f : Field) (extra : Metadata) : Field :=
  { f with metadata := f.metadata.extend extra }

end Field

end Columnar
