import Columnar.Column.Basic

/-!
# Reading slots

Reading slot `i` of a column (`valueAt`) first checks that `i` lies below the length, then
reads the slot as its layout does (`readSlot`), and every step of that read checks its own
precondition:

* a bit of a validity or value bitmap lies below the bitmap's length, in a stored byte
  (`Bitmap.read`);
* the offsets `i` and `i + 1` of a string or list slot are among the offsets, and the bytes
  between a string's two offsets are a range of the data;
* the slot a dictionary key names is read from the values as `valueAt` reads it, its index
  checked against their length;
* each member of a struct slot is read from its child as `valueAt` reads it;
* the items of a list slot are a window of the child, checked as `slice` checks it, and read
  in order; the window's slot `j` is the child's slot `start + j`.

A fixed-width slot past its buffer, or null, reads as null without reading further. The
scalar a read returns is the slot's `value`; a column whose offsets, keys or bitmaps do not
fit its parts breaks one of these preconditions instead. `readAll` reads every slot in order,
and `readable` is a column once all its slots read.
-/

namespace Columnar

/-- Whether slot `i` is null, read through the validity bitmap if there is one. -/
def Bitmap.readNull : Option Bitmap → Nat → Outcome Bool
  | some m, i => (fun b => !b) <$> m.read i
  | none, _ => .ok false

/-- Checks that the bytes `[s, e)` are a range of `len` bytes. -/
def checkRange (s e len : Nat) : Outcome Unit :=
  if e < s then .error (.panic ("slice index starts at " ++ toString s ++ " but ends at " ++
    toString e))
  else if len < e then
    .error (.panic ("range end index " ++ toString e ++ " out of range for slice of length " ++
      toString len))
  else .ok ()

namespace Column

/-- Checks that slot `i` lies below the `n` slots of a column. -/
def checkSlot (i n : Nat) : Outcome Unit :=
  if i < n then .ok ()
  else .error (.panic ("Array::value: index " ++ toString i ++ " out of bounds for length " ++
    toString n))

mutual

/-- Slot `i` as its layout reads it, once the index is known to be below the length. -/
def readSlot : Column → Nat → Outcome Scalar
  | .null _, _ => .ok .null
  | .numeric k d v, i => do
    if d.size ≤ i then return .null
    if ← Bitmap.readNull v i then return .null
    pure (k.scalar (d.get i))
  | .boolean d v, i => do
    if d.len ≤ i then return .null
    if ← Bitmap.readNull v i then return .null
    pure (.boolean (← d.read i))
  | .text _ off d v, i => do
    if ← Bitmap.readNull v i then return .null
    let s ← off.read i
    let e ← off.read (i + 1)
    checkRange s e d.size
    pure (.string (textAt d s e))
  | .dictionary idx k kv vals _, i => do
    if k.size ≤ i then return .null
    if ← Bitmap.readNull kv i then return .null
    let j := keySlot (idx.kind.integer (k.get i))
    checkSlot j vals.len
    readSlot vals j
  | .temporal kind _ _ d v, i => do
    if d.size ≤ i then return .null
    if ← Bitmap.readNull v i then return .null
    pure (.temporal (LittleEndian.toInt kind.width (d.get i)))
  | .interval u d v, i => do
    if d.size / u.words ≤ i then return .null
    if ← Bitmap.readNull v i then return .null
    checkRange (i * u.words) ((i + 1) * u.words) d.size
    pure (u.scalar d i)
  | .struct fs cs v _, i => do
    if ← Bitmap.readNull v i then return .null
    pure (.struct (← readMembers fs cs i))
  | .list _ _ off vals v, i => do
    if ← Bitmap.readNull v i then return .null
    let s ← off.read i
    let e ← off.read (i + 1)
    let l ← subWords e s
    if vals.len < s + l then throw (windowPanic s l vals.len)
    pure (.list (← (List.range l).mapM fun j => readSlot vals (s + j)))

/-- Slot `i` of each child, named by its field, each read as `valueAt` reads it. -/
def readMembers : List Field → List Column → Nat → Outcome (List (String × Scalar))
  | f :: fs, c :: cs, i => do
    checkSlot i c.len
    let x ← readSlot c i
    pure ((f.name, x) :: (← readMembers fs cs i))
  | _, _, _ => .ok []

end

/-- The scalar of slot `i`; an index past the end breaks the caller's precondition. -/
def valueAt (c : Column) (i : Nat) : Outcome Scalar := do
  checkSlot i c.len
  c.readSlot i

/-- Every slot's scalar in order, each read as `valueAt` reads it. -/
def readAll (c : Column) : Outcome (List Scalar) :=
  (List.range c.len).mapM c.valueAt

/-- The column, once every slot reads. -/
def readable (c : Column) : Outcome Column := do
  let _ ← c.readAll
  pure c

/-- The first and the last of a string column's offsets, read in that order: a column with no
offsets at all breaks the first read. -/
def offsetBounds (off : Buffer Nat) : Outcome (Nat × Nat) := do
  let first ← off.read 0
  let last ← off.read (off.size - 1)
  pure (first, last)

/-- Reads every slot of each column in turn. -/
def readEach (cs : List Column) : Outcome Unit :=
  cs.forM fun c => do
    let _ ← c.readAll

end Column

end Columnar
