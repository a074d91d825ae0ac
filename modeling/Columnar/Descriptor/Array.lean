import Columnar.Column.Table
import Columnar.Column.Read
import Columnar.Descriptor.Schema

/-!
# Array descriptors and export

An `ArrayNode` is an array descriptor of the C data interface as a consumer sees it:
length, null count, offset, buffer pointers, child descriptors and a dictionary
descriptor. A buffer pointer is null or points at a `Region` of memory; reading past a
region's bytes reads zeros, and a region may sit off the alignment that elements wider
than a byte need.

Exporting a column writes one node per column in the tree with offset 0:

| layout | buffers |
|---|---|
| null | none |
| numeric, temporal, interval | validity, values |
| boolean | validity, value bits |
| text | validity, offsets, data |
| dictionary | validity, keys; the values are the dictionary |
| struct | validity; a child per field |
| list | validity, offsets; the items are the child |

A validity bitmap is exported aligned (`Bitmap.toAligned`), and a missing one is a null
pointer. Offsets are exported as they are, absolute into the whole data or child.

Before writing, export checks what a consumer could not read: 32-bit string and list
offsets past `2^31 - 1`, nulls in a child whose field is not nullable, and temporal types
without a format string. Checking a 32-bit string column reads its first and last offsets
(`exportArray`), a read that breaks on a column with no offsets at all.
-/

namespace Columnar

/-- The memory a buffer pointer points at. -/
structure Region where
  bytes : List UInt8
  /-- The address is off the alignment elements wider than a byte need. -/
  misaligned : Bool := false
  deriving Inhabited, Repr

/-- An array descriptor. -/
structure ArrayNode where
  length : Int
  nullCount : Int
  offset : Int
  nBuffers : Int
  buffers : Option (List (Option Region))
  nChildren : Int
  children : Option (List (Option ArrayNode))
  dictionary : Option ArrayNode
  released : Bool := false
  /-- Made outside the library: a ledger counts the releases of such a root. -/
  foreign : Bool := false
  deriving Inhabited

namespace ArrayNode

/-- A count as a descriptor stores it: a machine word taken as a signed 64-bit integer, so a
count of `2^63` or more wraps to a negative one. -/
def wordToInt64 (n : Nat) : Int :=
  LittleEndian.toInt 8 (n % Nat.pow 2 64)

/-- A node of offset 0 with the given parts. -/
def assemble (length nulls : Nat) (buffers : List (Option Region)) (children : List ArrayNode)
    (dictionary : Option ArrayNode) : ArrayNode :=
  ⟨wordToInt64 length, wordToInt64 nulls, 0, buffers.length, some buffers, children.length,
    if children.isEmpty then none else some (children.map some), dictionary, false, false⟩

/-- The node with its release callback gone. -/
def release (a : ArrayNode) : ArrayNode :=
  { a with released := true }

end ArrayNode

/-- The exported validity pointer: the aligned bitmap, or null. -/
def validityRegion : Option Bitmap → Option Region
  | none => none
  | some m => some ⟨m.toAligned.bytes, false⟩

/-- The exported bytes of a buffer of words. -/
def wordsRegion (width : Nat) (b : Buffer Nat) : Region :=
  ⟨LittleEndian.ofWords width b.items, false⟩

/-- The width in bytes of an offset. -/
def offsetWidth (large : Bool) : Nat :=
  if large then 8 else 4

namespace Column

mutual

/-- The descriptor tree of a column. -/
def toNode (c : Column) : ArrayNode :=
  match c with
  | .null n => .assemble n n [] [] none
  | .numeric k d v =>
    .assemble c.len c.nullCount [validityRegion v, some (wordsRegion k.width d)] [] none
  | .boolean d v =>
    .assemble c.len c.nullCount [validityRegion v, validityRegion (some d)] [] none
  | .text large off d v =>
    .assemble c.len c.nullCount
      [validityRegion v, some (wordsRegion (offsetWidth large) off), some ⟨d.items, false⟩]
      [] none
  | .dictionary i k kv vals _ =>
    .assemble c.len c.nullCount [validityRegion kv, some (wordsRegion i.kind.width k)] []
      (some (toNode vals))
  | .temporal kind _ _ d v =>
    .assemble c.len c.nullCount [validityRegion v, some (wordsRegion kind.width d)] [] none
  | .interval _ d v =>
    .assemble c.len c.nullCount [validityRegion v, some (wordsRegion 4 d)] [] none
  | .struct _ cs v _ => .assemble c.len c.nullCount [validityRegion v] (toNodes cs) none
  | .list large _ off vals v =>
    .assemble c.len c.nullCount [validityRegion v, some (wordsRegion (offsetWidth large) off)]
      [toNode vals] none

/-- The descriptor trees of columns. -/
def toNodes : List Column → List ArrayNode
  | [] => []
  | c :: cs => toNode c :: toNodes cs

end

end Column

/-- Refuses 32-bit offsets past the largest a consumer reads as non-negative. -/
def checkOffset (last : Nat) : Except Error Unit :=
  if Nat.pow 2 31 - 1 < last then .error (.overflow last (Nat.pow 2 31 - 1)) else .ok ()

/-- Refuses nulls in a column whose field is not nullable. -/
def checkNullable (f : Field) (c : Column) : Except Error Unit :=
  if f.nullable ∨ c.nullCount = 0 then .ok ()
  else .error (.schema ("field '" ++ f.name ++ "' is not nullable but holds " ++
    toString c.nullCount ++ " nulls"))

namespace Column

mutual

/-- Checks that a consumer could read the exported column. -/
def checkExportable : Column → Except Error Unit
  | .text false off _ _ => checkOffset (off.items.getLastD 0)
  | .dictionary _ _ _ vals _ => checkExportable vals
  | .temporal kind u z _ _ => do
    let _ ← Format.encode (kind.type u z)
    pure ()
  | .struct fs cs _ _ => checkMembersExportable fs cs
  | .list false f off vals _ => do
    checkOffset (off.items.getLastD 0)
    checkNullable f vals
    checkExportable vals
  | .list true f _ vals _ => do
    checkNullable f vals
    checkExportable vals
  | _ => .ok ()

/-- Checks each child of a struct against its field, then its own contents. -/
def checkMembersExportable : List Field → List Column → Except Error Unit
  | f :: fs, c :: cs => do
    checkNullable f c
    checkExportable c
    checkMembersExportable fs cs
  | _, _ => .ok ()

end

/-- Exports a column, checked. -/
def toDescriptor (c : Column) : Except Error ArrayNode := do
  c.checkExportable
  pure c.toNode

mutual

/-- The checks of `checkExportable` as export runs them: a 32-bit string column's last offset
is read through `offsetBounds`, so a string column with no offsets at all breaks that read
where the checks reach it. -/
def exportCheck : Column → Outcome Unit
  | .text false off _ _ => do
    let (_, last) ← offsetBounds off
    Outcome.ofResult (checkOffset last)
  | .dictionary _ _ _ vals _ => exportCheck vals
  | .struct fs cs _ _ => exportCheckMembers fs cs
  | .list false f off vals _ => do
    Outcome.ofResult (checkOffset (off.items.getLastD 0))
    Outcome.ofResult (checkNullable f vals)
    exportCheck vals
  | .list true f _ vals _ => do
    Outcome.ofResult (checkNullable f vals)
    exportCheck vals
  | c => Outcome.ofResult c.checkExportable

/-- The checks of each child of a struct as export runs them. -/
def exportCheckMembers : List Field → List Column → Outcome Unit
  | f :: fs, c :: cs => do
    Outcome.ofResult (checkNullable f c)
    exportCheck c
    exportCheckMembers fs cs
  | _, _ => .ok ()

end

/-- Exports a column as export runs: checked, reads included, then written. -/
def exportArray (c : Column) : Outcome ArrayNode := do
  c.exportCheck
  pure c.toNode

end Column

end Columnar
