import Columnar.Column.Kind
import Columnar.Column.Bitmap
import Columnar.Text.Utf8

/-!
# Columns

A `Column` is the data of one column in the interchange layout: a family of physical
layouts, each with its buffers and an optional validity bitmap (bit `i` clear: slot `i`
is null).

| layout | buffers |
|---|---|
| null | none: every slot is null |
| numeric, temporal, interval | fixed-width words (an interval is 1, 2 or 4 32-bit words) |
| boolean | a bitmap of values |
| text | offsets (32- or 64-bit) into UTF-8 bytes |
| dictionary | integer keys into a column of values |
| struct | one child column per field |
| list | offsets into one child column |

Windows (`window`, checked by `slice`) share their buffers: fixed-width words and bitmaps
are cut to the window, while offsets stay absolute into the data or child column, which is
kept whole. So `(c.window o l).value j = c.value (o + j)`, and a list slot reads its items
straight from the child.
-/

namespace Columnar

/-- The elements of one buffer, and whether they are a view of memory a foreign producer
still owns. -/
structure Buffer (α : Type) where
  items : List α
  foreign : Bool := false
  deriving DecidableEq, Repr, Inhabited

namespace Buffer

/-- A buffer of owned elements. -/
def ofList {α : Type} (xs : List α) : Buffer α := ⟨xs, false⟩

/-- The number of elements. -/
def size {α : Type} (b : Buffer α) : Nat := b.items.length

/-- The elements `[o, o + l)`, sharing the storage. -/
def window {α : Type} (b : Buffer α) (o l : Nat) : Buffer α :=
  ⟨(b.items.drop o).take l, b.foreign⟩

/-- Element `i`, or `default` past the end. -/
def get {α : Type} [Inhabited α] (b : Buffer α) (i : Nat) : α :=
  b.items.getD i default

/-- Element `i`, as indexing reads it: past the end it breaks the precondition. -/
def read {α : Type} [Inhabited α] (b : Buffer α) (i : Nat) : Outcome α :=
  if i < b.size then .ok (b.get i) else .error (Failure.outOfBounds b.size i)

end Buffer

/-- The data of one column. -/
inductive Column where
  /-- `len` slots, all null, with no buffers. -/
  | null (len : Nat)
  | numeric (kind : NumericKind) (data : Buffer Nat) (validity : Option Bitmap)
  | boolean (data : Bitmap) (validity : Option Bitmap)
  /-- Strings: slot `i` is the bytes `[offsets i, offsets (i + 1))` of `data`. -/
  | text (large : Bool) (offsets : Buffer Nat) (data : Buffer UInt8) (validity : Option Bitmap)
  /-- Slot `i` is slot `keys i` of `values`; a null key is a null slot. -/
  | dictionary (index : IndexType) (keys : Buffer Nat) (keyValidity : Option Bitmap)
      (values : Column) (ordered : Bool)
  | temporal (kind : TemporalKind) (unit : TimeUnit) (zone : Option String) (data : Buffer Nat)
      (validity : Option Bitmap)
  /-- Calendar intervals, `unit.words` 32-bit words per slot. -/
  | interval (unit : IntervalUnit) (data : Buffer Nat) (validity : Option Bitmap)
  | struct (fields : List Field) (children : List Column) (validity : Option Bitmap) (len : Nat)
  /-- Lists: slot `i` is the child slots `[offsets i, offsets (i + 1))`. -/
  | list (large : Bool) (item : Field) (offsets : Buffer Nat) (values : Column)
      (validity : Option Bitmap)
  deriving Inhabited

namespace Column

/-- The number of slots. -/
def len : Column → Nat
  | .null n => n
  | .numeric _ d _ => d.size
  | .boolean d _ => d.len
  | .text _ o _ _ => o.size - 1
  | .dictionary _ k _ _ _ => k.size
  | .temporal _ _ _ d _ => d.size
  | .interval u d _ => d.size / u.words
  | .struct _ _ _ n => n
  | .list _ _ o _ _ => o.size - 1

/-- The validity bitmap, if the column has one. -/
def validity : Column → Option Bitmap
  | .null _ => none
  | .numeric _ _ v | .boolean _ v | .text _ _ _ v | .dictionary _ _ v _ _
  | .temporal _ _ _ _ v | .interval _ _ v | .struct _ _ v _ | .list _ _ _ _ v => v

/-- The number of null slots: every slot of a null column, the clear bits of a validity
bitmap otherwise. -/
def nullCount : Column → Nat
  | .null n => n
  | c => (c.validity.map Bitmap.countZeros).getD 0

/-- The logical type. -/
def type : Column → DataType
  | .null _ => .null
  | .numeric k _ _ => k.type
  | .boolean _ _ => .boolean
  | .text large _ _ _ => if large then .largeString else .string
  | .dictionary i _ _ v o => .dictionary i v.type o
  | .temporal k u z _ _ => k.type u z
  | .interval u _ _ => .interval u
  | .struct fs _ _ _ => .struct fs
  | .list large f _ _ _ => if large then .largeList f else .list f

end Column

/-- Whether slot `i` is null under a validity bitmap. -/
def Bitmap.isNullAt : Option Bitmap → Nat → Bool
  | some m, i => !m.get i
  | none, _ => false

/-- The window of an optional bitmap. -/
def Bitmap.windowOpt (v : Option Bitmap) (o l : Nat) : Option Bitmap :=
  v.map fun m => m.window o l

/-- The scalar of interval slot `i`: months, days and nanoseconds, a day-time interval's
milliseconds counted in nanoseconds. -/
def IntervalUnit.scalar (u : IntervalUnit) (d : Buffer Nat) (i : Nat) : Scalar :=
  let w := u.words
  let word (k : Nat) : Int := LittleEndian.toInt 4 (d.get (i * w + k))
  match u with
  | .yearMonth => .interval (word 0) 0 0
  | .daysTime => .interval 0 (word 0) (word 1 * 1000000)
  | .monthDayNano =>
    .interval (word 0) (word 1)
      (LittleEndian.toInt 8 (d.get (i * w + 2) + d.get (i * w + 3) * Nat.pow 2 32))

/-- The text of bytes `[s, e)` of a string column's data. -/
def textAt (data : Buffer UInt8) (s e : Nat) : String :=
  (Utf8.decode? ((data.items.drop s).take (e - s))).getD ""

namespace Column

mutual

/-- The slots `[o, o + l)`, sharing the buffers; the caller has checked the bounds. -/
def window : Column → Nat → Nat → Column
  | .null _, _, l => .null l
  | .numeric k d v, o, l => .numeric k (d.window o l) (Bitmap.windowOpt v o l)
  | .boolean d v, o, l => .boolean (d.window o l) (Bitmap.windowOpt v o l)
  | .text large off d v, o, l => .text large (off.window o (l + 1)) d (Bitmap.windowOpt v o l)
  | .dictionary i k kv vals ord, o, l =>
    .dictionary i (k.window o l) (Bitmap.windowOpt kv o l) vals ord
  | .temporal k u z d v, o, l => .temporal k u z (d.window o l) (Bitmap.windowOpt v o l)
  | .interval u d v, o, l =>
    .interval u (d.window (o * u.words) (l * u.words)) (Bitmap.windowOpt v o l)
  | .struct fs cs v _, o, l => .struct fs (windowAll cs o l) (Bitmap.windowOpt v o l) l
  | .list large f off vals v, o, l =>
    .list large f (off.window o (l + 1)) vals (Bitmap.windowOpt v o l)

/-- The same window of each column. -/
def windowAll : List Column → Nat → Nat → List Column
  | [], _, _ => []
  | c :: cs, o, l => window c o l :: windowAll cs o l

end

/-- The slot of the values a dictionary key names: the key taken as a machine word, its low
64 bits. -/
def keySlot (k : Int) : Nat :=
  (k % Int.pow 2 64).toNat

mutual

/-- The scalar of slot `i`, for `i` below the length. -/
def value : Column → Nat → Scalar
  | .null _, _ => .null
  | .numeric k d v, i =>
    if d.size ≤ i ∨ Bitmap.isNullAt v i then .null else k.scalar (d.get i)
  | .boolean d v, i =>
    if d.len ≤ i ∨ Bitmap.isNullAt v i then .null else .boolean (d.get i)
  | .text _ off d v, i =>
    if Bitmap.isNullAt v i then .null else .string (textAt d (off.get i) (off.get (i + 1)))
  | .dictionary idx k kv vals _, i =>
    if k.size ≤ i ∨ Bitmap.isNullAt kv i then .null
    else value vals (keySlot (idx.kind.integer (k.get i)))
  | .temporal kind _ _ d v, i =>
    if d.size ≤ i ∨ Bitmap.isNullAt v i then .null
    else .temporal (LittleEndian.toInt kind.width (d.get i))
  | .interval u d v, i =>
    if d.size / u.words ≤ i ∨ Bitmap.isNullAt v i then .null else u.scalar d i
  | .struct fs cs v _, i =>
    if Bitmap.isNullAt v i then .null else .struct (members fs cs i)
  | .list _ _ off vals v, i =>
    if Bitmap.isNullAt v i then .null
    else
      let s := off.get i
      .list ((List.range (off.get (i + 1) - s)).map fun j => value vals (s + j))

/-- Slot `i` of each child, named by its field. -/
def members : List Field → List Column → Nat → List (String × Scalar)
  | f :: fs, c :: cs, i => (f.name, value c i) :: members fs cs i
  | _, _, _ => []

end

/-- Every slot's scalar in order. -/
def toList (c : Column) : List Scalar :=
  (List.range c.len).map c.value

/-- The broken precondition of a window `[o, o + l)` past the end of `n` slots. -/
def windowPanic (o l n : Nat) : Failure :=
  .panic ("Array::slice: " ++ toString o ++ "+" ++ toString l ++ " out of bounds for length " ++
    toString n)

/-- The slots `[o, o + l)`; a window past the end breaks the caller's precondition. -/
def slice (c : Column) (o l : Nat) : Outcome Column := do
  if (← addWords o l) ≤ c.len then pure (c.window o l)
  else throw (windowPanic o l c.len)

end Column

end Columnar
