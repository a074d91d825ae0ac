import Columnar.Json.Type
import Columnar.Json.Error
import Columnar.Column.Build

/-!
# Columns as JSON

A request describes a column to build by a `kind` and that kind's members; `Column.ofSpec`
reads the description and builds the column, so a refused construction is an answer of the
library while an unreadable description is malformed input. A `slice` member takes a
window of the built column.

Float values are read as a JSON number (rounded to the nearest double, then for singles to
the nearest single), as `"NaN"`, `"inf"`, `"-inf"`, or as `"0x"` and the hex digits of the
bit pattern.

An answer shows a column as its summary `{"type","len","null_count","values"}`, each slot
as a scalar: `null`, `{"Int":i}`, `{"Float":"0x…"}`, `{"Struct":[[name, scalar], …]}`.
-/

namespace Columnar

namespace Doc

/-- The bits of the double a JSON value names. -/
def toDoubleBits : Doc → Decode Nat
  | .num neg m e _ => .ok (FloatBits.ofDecimal neg m e)
  | .str "NaN" => .ok FloatBits.nan64
  | .str "inf" => .ok FloatBits.inf64
  | .str "-inf" => .ok (FloatBits.inf64 + Nat.pow 2 63)
  | .str s =>
    match s.toList with
    | '0' :: 'x' :: digits =>
      let even := if digits.length % 2 = 1 then '0' :: digits else digits
      match Hex.decode? (String.ofList even) with
      | some bytes => .ok (LittleEndian.value bytes.reverse)
      | none => .error "bad float bits"
    | _ => .error "bad float"
  | _ => .error "expected a float"

/-- The bits of the single a JSON value names: a number is rounded to a double and then
to a single. -/
def toSingleBits : Doc → Decode Nat
  | .str "NaN" => .ok FloatBits.nan32
  | .str "inf" => .ok FloatBits.inf32
  | .str "-inf" => .ok (FloatBits.inf32 + Nat.pow 2 31)
  | .str s => toDoubleBits (.str s)
  | d => do
    let bits ← toDoubleBits d
    pure (Float.ofBits bits.toUInt64).toFloat32.toBits.toNat

/-- An optional value read by `f`; `null` is a missing value. -/
def optional {α : Type} (f : Doc → Decode α) : Doc → Decode (Option α)
  | .null => .ok none
  | d => some <$> f d

/-- The bitmap of a list of booleans. -/
def toBitmap (d : Doc) : Decode Bitmap := do
  pure (Bitmap.ofBools (← d.mapItems Doc.toBool))

end Doc

/-- The word of an integer of `width` bytes. -/
def wordOfDoc (width : Nat) (d : Doc) : Decode Nat := do
  pure (LittleEndian.ofInt width (← d.toInt))

namespace Doc

/-- A 32-bit signed integer, its value cut to 32 bits. -/
def toInt32 (d : Doc) : Decode Int32 := do
  pure (Int32.ofInt (← d.toInt))

/-- A day-time interval value, `[days, ms]`. -/
def toDaysMs (d : Doc) : Decode (Int32 × Int32) := do
  match ← d.toList with
  | [a, b] => pure (← a.toInt32, ← b.toInt32)
  | _ => .error "a day-time interval is [days, ms]"

/-- A month-day-nano interval value, `[months, days, nanos]`, the nanoseconds cut to 64 bits. -/
def toMonthDayNanos (d : Doc) : Decode (Int32 × Int32 × Int64) := do
  match ← d.toList with
  | [a, b, c] =>
    let n := Int64.ofInt (← c.toInt)
    pure (← a.toInt32, ← b.toInt32, n)
  | _ => .error "a month-day-nano interval is [months, days, nanos]"

end Doc

/-- A fixed-width column of a type from its optional JSON values. -/
def primOfDoc (type : DataType) (values : List Doc) (masked : Bool) : Decode Column := do
  let words (f : Doc → Decode Nat) : Decode (List (Option Nat)) := values.mapM (Doc.optional f)
  let temporal (k : TemporalKind) (u : TimeUnit) (z : Option String) : Decode Column := do
    pure (Column.fixedOf (.temporal k u z) (← words (wordOfDoc k.width)) masked)
  match type with
  | .boolean => pure (Column.booleansOf (← values.mapM (Doc.optional Doc.toBool)) masked)
  | .float32 => pure (Column.fixedOf (.numeric .float32) (← words Doc.toSingleBits) masked)
  | .float64 => pure (Column.fixedOf (.numeric .float64) (← words Doc.toDoubleBits) masked)
  | .date32 => temporal .date32 .days none
  | .date64 => temporal .date64 .milliseconds none
  | .time32 u => temporal .time32 u none
  | .time64 u => temporal .time64 u none
  | .timestamp u z => temporal .timestamp u z
  | .duration u => temporal .duration u none
  | .interval .yearMonth => pure (Column.ofMonths (← values.mapM (Doc.optional Doc.toInt32)))
  | .interval .daysTime => pure (Column.ofDaysMs (← values.mapM (Doc.optional Doc.toDaysMs)))
  | .interval .monthDayNano =>
    pure (Column.ofMonthDayNanos (← values.mapM (Doc.optional Doc.toMonthDayNanos)))
  | t =>
    match NumericKind.ofType? t with
    | some k => pure (Column.fixedOf (.numeric k) (← words (wordOfDoc k.width)) masked)
    | none => .error ("no values of type " ++ t.display)

namespace Column

/-- Builds the column a description names, with `fuel` levels of nesting left. -/
def ofSpecFuel : Nat → Doc → Decode (Outcome Column)
  | 0, _ => .error "column description too deep"
  | fuel + 1, d => do
    let built : Outcome Column ← match ← d.get "kind" Doc.toStr with
      | "null" => pure (.ok (.null (← d.get "len" Doc.toNat)))
      | "prim" => do
        let values ← d.get "values" Doc.toList
        let masked ← d.getD "mask" Doc.toBool (values.any fun v => match v with
          | .null => true
          | _ => false)
        pure (.ok (← primOfDoc (← d.get "type" DataType.ofDoc) values masked))
      | "str" => do
        let values ← d.get "values" (Doc.mapItems (Doc.optional Doc.toStr))
        let large ← d.getD "large" Doc.toBool false
        pure (Outcome.ofResult (stringsOf large values))
      | "str_parts" => do
        let large ← d.getD "large" Doc.toBool false
        let offsets ← d.get "offsets" (Doc.mapItems Doc.toNat)
        let data ← d.get "data" Doc.toBytes
        let validity ← d.get? "validity" Doc.toBitmap
        pure (Outcome.ofResult
          (stringsOfParts large (Buffer.ofList offsets) (Buffer.ofList data) validity))
      | "str_raw" => do
        let large ← d.getD "large" Doc.toBool false
        let offsets ← d.get "offsets" (Doc.mapItems Doc.toNat)
        let data ← d.get "data" Doc.toBytes
        let validity ← d.get? "validity" Doc.toBitmap
        pure (.ok (.text large (Buffer.ofList offsets) (Buffer.ofList data) validity))
      | "dict" => do
        let keys ← ofSpecFuel fuel (← d.need "keys")
        let values ← ofSpecFuel fuel (← d.need "values")
        let ordered ← d.getD "ordered" Doc.toBool false
        pure (do Outcome.ofResult (dictionaryOf (← keys) (← values) ordered))
      | "dict_strs" => do
        let values ← d.get "values" (Doc.mapItems (Doc.optional Doc.toStr))
        pure (dictionaryOfStrings values)
      | "struct" => do
        let fields ← d.get "fields" (Doc.mapItems Field.ofDoc)
        let children ← (← d.get "children" Doc.toList).mapM (ofSpecFuel fuel)
        let validity ← d.get? "validity" Doc.toBitmap
        let len ← d.get? "len" Doc.toNat
        pure (do
          let cs ← children.mapM id
          Outcome.ofResult (match len with
            | some n => structOfLen fields cs validity n
            | none => structOf fields cs validity))
      | "interval_raw" => do
        let unit ← IntervalUnit.ofName (← d.get "unit" Doc.toStr)
        let words ← d.get "words" (Doc.mapItems (wordOfDoc 4))
        let validity ← d.get? "validity" Doc.toBitmap
        pure (Outcome.ofResult (intervalsOfWords unit (Buffer.ofList words) validity))
      | "list" => do
        let large ← d.getD "large" Doc.toBool false
        let item ← d.get "field" Field.ofDoc
        let values ← ofSpecFuel fuel (← d.need "values")
        match ← d.get? "lengths" (Doc.mapItems (Doc.optional Doc.toNat)) with
        | some lengths => pure (do listOfLengths large item (← values) lengths)
        | none =>
          let offsets ← d.get "offsets" (Doc.mapItems Doc.toNat)
          let validity ← d.get? "validity" Doc.toBitmap
          pure (do
            let v ← values
            Outcome.ofResult (listOf large item (Buffer.ofList offsets) v validity))
      | other => .error ("unknown column kind '" ++ other ++ "'")
    let window ← d.get? "slice" Doc.toWindow
    pure (do
      let c ← built
      match window with
      | some (o, l) => c.slice o l
      | none => pure c)

end Column

/-- Builds the column a description names. -/
def Column.ofSpec (d : Doc) : Decode (Outcome Column) :=
  Column.ofSpecFuel d.depth d

mutual

/-- The scalar as JSON. -/
def Scalar.toDoc : Scalar → Doc
  | .null => .null
  | .boolean b => .obj [("Boolean", .bool b)]
  | .int i => .obj [("Int", .int i)]
  | .uint n => .obj [("UInt", .nat n)]
  | .float b => .obj [("Float", .str (FloatBits.hexText b))]
  | .string s => .obj [("String", .str s)]
  | .temporal t => .obj [("Temporal", .int t)]
  | .interval m d n => .obj [("Interval", .arr [.int m, .int d, .int n])]
  | .list xs => .obj [("List", .arr (Scalar.toDocs xs))]
  | .struct ms => .obj [("Struct", .arr (Scalar.memberDocs ms))]

/-- Each scalar of a list as JSON. -/
def Scalar.toDocs : List Scalar → List Doc
  | [] => []
  | x :: xs => Scalar.toDoc x :: Scalar.toDocs xs

/-- Each named scalar as a `[name, scalar]` pair. -/
def Scalar.memberDocs : List (String × Scalar) → List Doc
  | [] => []
  | (n, x) :: ms => .arr [.str n, Scalar.toDoc x] :: Scalar.memberDocs ms

end

/-- A scalar as a plain JSON value: integers bare, anything else as its tagged form. -/
def Scalar.plainDoc : Scalar → Doc
  | .int i => .int i
  | .uint n => .nat n
  | s => s.toDoc

/-- The column's summary: type, length, null count and every slot. -/
def Column.summaryMembers (c : Column) : List (String × Doc) :=
  [("type", c.type.toDoc), ("len", .nat c.len), ("null_count", .nat c.nullCount),
    ("values", .arr (Scalar.toDocs c.toList))]

/-- The column's summary as an object. -/
def Column.summary (c : Column) : Doc :=
  .obj c.summaryMembers

end Columnar
