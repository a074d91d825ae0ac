import Columnar.Descriptor.Array

/-!
# Importing array descriptors

`ArrayNode.read node t` reads a descriptor tree as a column of type `t`. Each node is
checked before its buffers are read: it is live, its length and offset are not negative and
their sum fits, its null count is `-1` (unknown) or at most its length, it has the number of
buffers and children the type's layout needs, and the buffer and child pointer arrays are
set where that number is positive.

A node describes the slots `[offset, offset + length)` of its buffers. The reader takes
exactly the bytes those slots need from each buffer: `⌈(offset + length) / 8⌉` bytes of a
bitmap, `(offset + length) · width` bytes of fixed-width values, one more offset than slots,
and string data up to the last offset. A null pointer is accepted only where nothing would be
read from it.

A reader checks everything (`Scrutiny.full`) or the layout only (`Scrutiny.layout`), which
takes string offsets and text as they are, as a consumer that trusts its producer does.

What is read is shared with the producer, not copied (`foreign` in the column's buffers),
except values at an address unfit for their width and string views, which are copied
into plain strings. A column that still shares a buffer keeps the producer's memory alive.
-/

namespace Columnar

/-- How much a reader checks: everything, or the layout only, taking string offsets and
text as they are. -/
inductive Scrutiny where
  | full
  | layout
  deriving Inhabited, DecidableEq

/-- A buffer's bytes as read, with where they sit and whether they are shared with a
foreign producer. -/
structure Piece where
  bytes : List UInt8
  misaligned : Bool
  foreign : Bool

/-- The words of a piece: refused when the bytes are not whole words; copied (so no longer
shared) when they sit off the alignment of words wider than a byte. -/
def Piece.words (p : Piece) (width : Nat) : Except Error (Buffer Nat) :=
  if p.bytes.length % width ≠ 0 then
    .error (.malformed ("buffer of " ++ toString p.bytes.length ++
      " bytes is not a whole number of " ++ toString width ++ "-byte values"))
  else
    let copied := 0 < p.bytes.length ∧ p.misaligned ∧ 1 < width
    .ok ⟨LittleEndian.words width p.bytes, p.foreign && !copied⟩

/-- The buffers and children a node of each type has. -/
def DataType.layout : DataType → Int × Int
  | .null => (0, 0)
  | .string | .largeString | .stringView => (3, 0)
  | .struct fs => (1, fs.length)
  | .list _ | .largeList _ => (2, 1)
  | _ => (2, 0)

/-- A live node, checked, read as a type: its slot window and what it reports. -/
structure NodeView where
  type : DataType
  len : Nat
  offset : Nat
  nullCount : Option Nat
  buffers : Option (List (Option Region))
  nBuffers : Int

namespace NodeView

/-- One past the last slot the node describes. -/
def stop (w : NodeView) : Nat := w.offset + w.len

/-- The largest byte count a buffer may have. -/
def maxBytes : Nat := Nat.pow 2 63 - 1

/-- The bytes `count` values of `width` bytes take; refused past `maxBytes`. -/
def byteCount (w : NodeView) (count width : Nat) : Except Error Nat :=
  if count * width ≤ maxBytes then .ok (count * width)
  else .error (.malformed (w.type.display ++ " length " ++ toString w.len ++ " at offset " ++
    toString w.offset ++ " overflows a buffer of " ++ toString width ++ "-byte values"))

/-- The region buffer pointer `i` points at, if it is set. -/
def slot (w : NodeView) (i : Nat) : Option Region :=
  match w.buffers with
  | some slots => slots.getD i none
  | none => none

/-- The first `n` bytes at buffer pointer `i`; nothing is shared when `n` is zero. -/
def raw (w : NodeView) (i n : Nat) : Option Piece :=
  (w.slot i).map fun r =>
    if n = 0 then ⟨[], false, false⟩
    else ⟨LittleEndian.region r.bytes 0 n, r.misaligned, true⟩

/-- The first `n` bytes at buffer pointer `i`, which must be set unless `n` is zero. -/
def required (w : NodeView) (i n : Nat) (what : String) : Except Error Piece :=
  match w.raw i n with
  | some p => .ok p
  | none =>
    if n = 0 then .ok ⟨[], false, false⟩
    else .error (.malformed (w.type.display ++ " " ++ what ++ " buffer is null"))

/-- The validity bitmap: a null pointer means no nulls, which the reported count must
allow; a bitmap must agree with a reported count. -/
def validity (w : NodeView) : Except Error (Option Bitmap) :=
  match w.raw 0 ((w.stop + 7) / 8) with
  | none =>
    match w.nullCount with
    | some n =>
      if 0 < n then
        .error (.malformed (w.type.display ++ " reports " ++ toString n ++
          " nulls but has no validity bitmap"))
      else .ok none
    | none => .ok none
  | some p => do
    let m ← Bitmap.new p.bytes w.offset w.len p.foreign
    match w.nullCount with
    | some n =>
      if m.countZeros ≠ n then
        throw (.malformed ("null_count " ++ toString n ++ " disagrees with the validity bitmap (" ++
          toString m.countZeros ++ " nulls)"))
      else pure (some m)
    | none => pure (some m)

/-- The words of the node's slots in buffer `i`. -/
def values (w : NodeView) (i width : Nat) : Except Error (Buffer Nat) := do
  let p ← w.required i (← w.byteCount w.stop width) "values"
  let all ← p.words width
  pure (all.window w.offset w.len)

/-- The bits of the node's slots in buffer `i`. -/
def bits (w : NodeView) (i : Nat) : Except Error Bitmap := do
  let p ← w.required i ((w.stop + 7) / 8) "values"
  Bitmap.new p.bytes w.offset w.len p.foreign

/-- The offsets of the node's slots in buffer `i`, one more than the slots; a null pointer
is one zero offset when there are no slots. Every offset must read as non-negative. -/
def offsets (w : NodeView) (i width : Nat) : Except Error (Buffer Nat) := do
  match w.raw i (← w.byteCount (w.stop + 1) width) with
  | none =>
    if w.len = 0 then pure (Buffer.ofList [0])
    else throw (.malformed (w.type.display ++ " offsets buffer is null"))
  | some p => do
    let all ← p.words width
    let window := all.window w.offset (w.len + 1)
    match window.items.find? (fun o => Nat.pow 2 (8 * width - 1) - 1 < o) with
    | some bad =>
      throw (.malformed ("offset " ++ toString bad ++ " is negative as a signed " ++
        toString (8 * width) ++ "-bit offset"))
    | none => pure window

/-- A numeric column: values, then validity. -/
def numeric (w : NodeView) (k : NumericKind) : Except Error Column := do
  let d ← w.values 1 k.width
  let v ← w.validity
  pure (.numeric k d v)

/-- A temporal column: values, then validity. -/
def temporal (w : NodeView) (k : TemporalKind) (u : TimeUnit) (z : Option String) :
    Except Error Column := do
  let d ← w.values 1 k.width
  let v ← w.validity
  pure (.temporal k u z d v)

/-- An interval column: the slots' words, then validity. -/
def intervals (w : NodeView) (u : IntervalUnit) : Except Error Column := do
  let p ← w.required 1 (← w.byteCount w.stop (u.words * 4)) "values"
  let all ← p.words 4
  let v ← w.validity
  Column.intervalsOfWords u (all.window (w.offset * u.words) (w.len * u.words)) v

/-- A string column: offsets, data up to the last offset, then validity; the offsets and
the text are checked unless the reader checks the layout only. -/
def strings (w : NodeView) (sc : Scrutiny) (large : Bool) : Except Error Column := do
  let off ← w.offsets 1 (offsetWidth large)
  let p ← w.required 2 (off.items.getLastD 0) "data"
  let v ← w.validity
  match sc with
  | .full => Column.stringsOfParts large off ⟨p.bytes, p.foreign⟩ v
  | .layout => pure (.text large off ⟨p.bytes, p.foreign⟩ v)

/-- The bytes of string view `i`: inline up to 12 bytes, else a range of a data buffer. -/
def viewBytes (views : List UInt8) (variadic : List Piece) (i start : Nat) :
    Except Error (List UInt8) := do
  let view := LittleEndian.region views start 16
  let word (k : Nat) : Int := LittleEndian.toInt 4 (LittleEndian.value ((view.drop k).take 4))
  let n := word 0
  if n < 0 then throw (.malformed ("string view " ++ toString i ++ " has negative length " ++
    toString n))
  let n := n.toNat
  if n ≤ 12 then pure ((view.drop 4).take n)
  else
    let buf := word 8
    let first := word 12
    let bytes ← match (if buf < 0 then none else variadic[buf.toNat]?) with
      | some b => pure b.bytes
      | none => throw (.malformed ("string view " ++ toString i ++ " names buffer " ++
          toString buf ++ " of " ++ toString variadic.length))
    if first < 0 then throw (.malformed ("string view " ++ toString i ++ " has negative offset " ++
      toString first))
    let first := first.toNat
    if bytes.length < first + n then
      throw (.malformed ("string view " ++ toString i ++ " reads " ++ toString n ++ " bytes at " ++
        toString first ++ ", past its " ++ toString bytes.length ++ "-byte buffer"))
    pure ((bytes.drop first).take n)

/-- Copies string views into data and offsets, slot by slot; refused past 32-bit offsets. -/
def copyViews (views : List UInt8) (variadic : List Piece) (validity : Option Bitmap)
    (offset : Nat) :
    Nat → List Nat → List UInt8 → Nat → Except Error (List Nat × List UInt8)
  | 0, offs, data, _ => .ok (offs, data)
  | remaining + 1, offs, data, i =>
    if Bitmap.isNullAt validity i then
      copyViews views variadic validity offset remaining (offs ++ [data.length]) data (i + 1)
    else do
      let bytes ← viewBytes views variadic i ((offset + i) * 16)
      let data := data ++ bytes
      if Nat.pow 2 31 - 1 < data.length then throw (.overflow data.length (Nat.pow 2 31 - 1))
      copyViews views variadic validity offset remaining (offs ++ [data.length]) data (i + 1)

/-- Reads the data buffers a view node names, with their sizes. -/
def variadicBuffers (w : NodeView) (k : Nat) : List Nat → Except Error (List Piece)
  | [] => .ok []
  | s :: rest => do
    let size := LittleEndian.toInt 8 s
    if size < 0 then
      throw (.malformed ("variadic buffer " ++ toString k ++ " has negative size " ++
        toString size))
    let p ← w.required (2 + k) size.toNat "variadic data"
    let ps ← variadicBuffers w (k + 1) rest
    pure (p :: ps)

/-- A string-view column, copied into a plain string column: validity first, then views,
data sizes and data buffers. -/
def stringViews (w : NodeView) : Except Error Column := do
  let v ← w.validity
  if w.len = 0 then
    Column.stringsOfParts false (Buffer.ofList []) (Buffer.ofList []) v
  else
    let views ← w.required 1 (← w.byteCount w.stop 16) "views"
    let nVariadic := (w.nBuffers - 3).toNat
    let sizes ← w.required (2 + nVariadic) (nVariadic * 8) "variadic sizes"
    let sizes ← sizes.words 8
    let variadic ← w.variadicBuffers 0 sizes.items
    let (offs, data) ← copyViews views.bytes variadic v w.offset w.len [0] [] 0
    Column.stringsOfParts false (Buffer.ofList offs) (Buffer.ofList data) v

end NodeView

namespace ArrayNode

/-- Checks a node before reading its slots: it is live, its length and offset are not negative
and fit, and its null count is unknown or at most the length. Yields the null count, when the
producer reported one. -/
def checkSlots (a : ArrayNode) (t : DataType) : Except Error (Option Nat) := do
  if a.released then throw (.malformed (t.display ++ " descriptor has already been released"))
  if a.length < 0 then throw (.malformed ("negative length " ++ toString a.length))
  if a.offset < 0 then throw (.malformed ("negative offset " ++ toString a.offset))
  let len := a.length.toNat
  let offset := a.offset.toNat
  if NodeView.maxBytes < offset + len then
    throw (.malformed ("length " ++ toString len ++ " at offset " ++ toString offset ++
      " overflows"))
  if a.nullCount = -1 then pure none
  else if 0 ≤ a.nullCount ∧ a.nullCount ≤ len then pure (some a.nullCount.toNat)
  else throw (.malformed ("null_count " ++ toString a.nullCount ++ " is outside -1..=" ++
    toString len))

/-- Checks a node's buffer and child counts against the type's layout, and that the pointers
the layout needs are set. -/
def checkLayout (a : ArrayNode) (t : DataType) : Except Error Unit := do
  let (nb, nc) := t.layout
  if t == .stringView then
    if a.nBuffers < nb then
      throw (.malformed (t.display ++ " requires at least " ++ toString nb ++ " buffers, found " ++
        toString a.nBuffers))
  else if a.nBuffers ≠ nb then
    throw (.malformed (t.display ++ " requires " ++ toString nb ++ " buffers, found " ++
      toString a.nBuffers))
  if a.nChildren ≠ nc then
    throw (.schema (t.display ++ " requires " ++ toString nc ++ " children, found " ++
      toString a.nChildren))
  if 0 < nb ∧ a.buffers.isNone then throw (.nullPointer "ArrowArray.buffers")
  if 0 < nc ∧ a.children.isNone then throw (.nullPointer "ArrowArray.children")

/-- Checks a node before reading it as a type. -/
def view (a : ArrayNode) (t : DataType) : Except Error NodeView := do
  let nullCount ← a.checkSlots t
  a.checkLayout t
  pure ⟨t, a.length.toNat, a.offset.toNat, nullCount, a.buffers, a.nBuffers⟩

/-- Folds the failures of struct children into one error: a single failure stands for
itself, several are listed by field. -/
def childFailures : List (String × Error) → Option Error
  | [] => none
  | [(_, e)] => some e
  | fs => some (.malformed (toString fs.length ++ " columns failed to import: " ++
      "; ".intercalate (fs.map fun (n, e) => "'" ++ n ++ "': " ++ e.message)))

/-- Every struct child missing: a null child pointer for each field. -/
def missingMembers (fields : List Field) : List (String × Except Error Column) :=
  fields.map fun f => (f.name, .error (.nullPointer "ArrowArray child"))

mutual

/-- Reads a descriptor tree as a column of the type. -/
def read (sc : Scrutiny) : ArrayNode → DataType → Except Error Column
  | a@⟨_, _, _, _, _, _, children, dictionary, _, _⟩, t => do
    let w ← a.view t
    match t with
    | .null => pure (.null w.len)
    | .boolean => do
      let d ← w.bits 1
      let v ← w.validity
      pure (.boolean d v)
    | .string => w.strings sc false
    | .largeString => w.strings sc true
    | .stringView => w.stringViews
    | .date32 => w.temporal .date32 .days none
    | .date64 => w.temporal .date64 .milliseconds none
    | .time32 u => w.temporal .time32 u none
    | .time64 u => w.temporal .time64 u none
    | .timestamp u z => w.temporal .timestamp u z
    | .duration u => w.temporal .duration u none
    | .interval u => w.intervals u
    | .dictionary index valueType ordered => do
      let keys ← { w with type := index.keyType }.numeric index.kind
      let values ← readDictionary sc dictionary valueType
      Column.dictionaryOf keys values ordered
    | .struct fields => do
      let results := readSlots sc w fields children
      match childFailures (results.filterMap fun (n, r) => match r with
          | .error e => some (n, e)
          | .ok _ => none) with
      | some e => throw e
      | none => pure ()
      let cs := results.filterMap fun (_, r) => match r with
        | .ok c => some c
        | .error _ => none
      let v ← w.validity
      Column.structOfLen (Field.materialiseList fields) cs v w.len
    | .list item => readList sc w false item children
    | .largeList item => readList sc w true item children
    | other =>
      match NumericKind.ofType? other with
      | some k => w.numeric k
      | none => throw (.unsupported other.display)

/-- Reads the dictionary of a dictionary node; its pointer must be set. -/
def readDictionary (sc : Scrutiny) : Option ArrayNode → DataType → Except Error Column
  | none, _ => .error (.nullPointer "ArrowArray.dictionary")
  | some d, t => read sc d t

/-- Reads the struct children a node's child pointers give. -/
def readSlots (sc : Scrutiny) (w : NodeView) (fields : List Field) :
    Option (List (Option ArrayNode)) → List (String × Except Error Column)
  | none => missingMembers fields
  | some slots => readMembers sc w fields slots

/-- Reads each struct child under its field, checked to reach the parent's window, and
cut to it; a slot past the list is a null pointer. -/
def readMembers (sc : Scrutiny) (w : NodeView) : List Field → List (Option ArrayNode) →
    List (String × Except Error Column)
  | [], _ => []
  | f :: fs, [] => missingMembers (f :: fs)
  | f :: fs, none :: rest =>
    (f.name, .error (.nullPointer "ArrowArray child")) :: readMembers sc w fs rest
  | f :: fs, some c :: rest =>
    let child : Except Error Column := do
      let col ← read sc c f.type
      if col.len < w.stop then
        throw (.malformed ("struct child '" ++ f.name ++ "' has " ++ toString col.len ++
          " rows, parent window ends at " ++ toString w.stop))
      pure (col.window w.offset w.len)
    (f.name, child) :: readMembers sc w fs rest

/-- Reads a list: offsets, the child under the item type, then validity, checked. -/
def readList (sc : Scrutiny) (w : NodeView) (large : Bool) (item : Field) :
    Option (List (Option ArrayNode)) → Except Error Column
  | some (some c :: _) => do
    let off ← w.offsets 1 (offsetWidth large)
    let values ← read sc c item.type
    let v ← w.validity
    Column.listOf large item.materialise off values v
  | _ => do
    let _ ← w.offsets 1 (offsetWidth large)
    throw (.nullPointer "ArrowArray child")

end

end ArrayNode

/-- Whether an optional bitmap shares foreign bytes. -/
def sharesValidity : Option Bitmap → Bool
  | some m => m.foreign
  | none => false

namespace Column

mutual

/-- Whether the column still shares a buffer with a foreign producer. -/
def sharesForeign : Column → Bool
  | .null _ => false
  | .numeric _ d v | .temporal _ _ _ d v | .interval _ d v => d.foreign || sharesValidity v
  | .boolean d v => d.foreign || sharesValidity v
  | .text _ o d v => o.foreign || d.foreign || sharesValidity v
  | .dictionary _ k v vals _ => k.foreign || sharesValidity v || sharesForeign vals
  | .struct _ cs v _ => sharesValidity v || sharesAny cs
  | .list _ _ o vals v => o.foreign || sharesValidity v || sharesForeign vals

/-- Whether any of the columns shares a foreign buffer. -/
def sharesAny : List Column → Bool
  | [] => false
  | c :: cs => sharesForeign c || sharesAny cs

end

end Column

/-! ## Importing columns, series and tables -/

namespace ArrayNode

/-- Imports a column of a known type with some scrutiny; the root must be live. -/
def importChecked (sc : Scrutiny) (a : ArrayNode) (t : DataType) : Except Error Column :=
  if a.released then .error (.malformed "ArrowArray has already been released") else a.read sc t

/-- Imports a column of a known type, checked in full; the root must be live. -/
def importTyped (a : ArrayNode) (t : DataType) : Except Error Column :=
  a.importChecked .full t

/-- Imports a column under a schema descriptor's type. -/
def importWith (a : ArrayNode) (s : SchemaNode) : Except Error Column := do
  let f ← s.toField
  a.importTyped f.type

/-- Imports a series with some scrutiny: the schema gives the field, materialised as the
column is. -/
def importSeriesChecked (sc : Scrutiny) (a : ArrayNode) (s : SchemaNode) :
    Except Error Series := do
  let f ← s.toField
  let c ← a.importChecked sc f.type
  pure ⟨f.materialise, c⟩

/-- Imports a series, checked in full. -/
def importSeries (a : ArrayNode) (s : SchemaNode) : Except Error Series :=
  a.importSeriesChecked .full s

/-- Imports a table with some scrutiny: a series whose field is a struct and whose column is
a struct without null rows. -/
def importTableChecked (sc : Scrutiny) (a : ArrayNode) (s : SchemaNode) :
    Except Error Table := do
  let series ← a.importSeriesChecked sc s
  let (name, schema) ← Schema.ofRootField series.field
  Table.ofStruct name series.column schema.metadata

/-- Imports a table, checked in full. -/
def importTable (a : ArrayNode) (s : SchemaNode) : Except Error Table :=
  a.importTableChecked .full s

/-- Imports a series from boxed descriptors, either of which may be a null pointer; a missing
array is reported before a missing schema. -/
def importOwned : Option ArrayNode → Option SchemaNode → Except Error Series
  | some a, some s => a.importSeries s
  | some _, none => .error (.nullPointer "ArrowSchema")
  | none, _ => .error (.nullPointer "ArrowArray")

end ArrayNode

end Columnar
