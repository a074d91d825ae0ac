import Columnar.Json.Column
import Columnar.Json.Schema
import Columnar.Descriptor.Import
import Columnar.Descriptor.Ownership

/-!
# Array descriptors, series and tables as JSON

A request describes a foreign array descriptor node by node: `length`, `null_count` and
`offset` default to 0; `buffers` is `null` (a null pointer) or a list of buffers, each
`null`, hex bytes, or `{"hex": …, "misalign": true}`; `n_buffers` defaults to the list's
length; children and dictionary follow the schema rules.

An answer shows a descriptor as its dump under a type: for `n = offset + length`, a bitmap
is `⌈n / 8⌉` bytes, fixed-width values `n · width` bytes, offsets `n + 1` words, and string
data the bytes up to the last offset.

A series is described as `{"array": column}` with either `"field"` or a `"name"` (and
optional `"metadata"`), in which case the field is derived from the column. A table is
`{"name","cols":[series, …],"metadata"}`.
-/

namespace Columnar

/-- A buffer of a foreign descriptor: hex bytes, or `{"hex","misalign"}`. -/
def regionOfDoc : Doc → Decode (Option Region)
  | .null => .ok none
  | .str s => do pure (some ⟨← (Doc.str s).toBytes, false⟩)
  | d => do pure (some ⟨← d.get "hex" Doc.toBytes, ← d.getD "misalign" Doc.toBool false⟩)

namespace ArrayNode

/-- Reads a foreign array descriptor, with `fuel` levels of nesting left. -/
def ofDocFuel : Nat → Doc → Decode ArrayNode
  | 0, _ => .error "array description too deep"
  | fuel + 1, d => do
    let length ← d.getD "length" Doc.toInt 0
    let nullCount ← d.getD "null_count" Doc.toInt 0
    let offset ← d.getD "offset" Doc.toInt 0
    let buffers ← d.get? "buffers" (Doc.mapItems regionOfDoc)
    let nBuffers ← d.getD "n_buffers" Doc.toInt ((buffers.map List.length).getD 0)
    let children ← d.get? "children" fun cs => do
      (← cs.toList).mapM fun c => match c with
        | .null => pure none
        | c => some <$> ofDocFuel fuel c
    let nChildren ← d.getD "n_children" Doc.toInt ((children.map List.length).getD 0)
    let dictionary ← d.get? "dictionary" (ofDocFuel fuel)
    let released ← d.getD "released" Doc.toBool false
    pure ⟨length, nullCount, offset, nBuffers, buffers, nChildren, children, dictionary, released,
      true⟩

/-- Reads a foreign array descriptor. -/
def ofDoc (d : Doc) : Decode ArrayNode :=
  ofDocFuel d.depth d

/-- The bytes of each buffer a node of the type has, for `n` slots from 0; string data
runs up to the last offset, read from the offsets buffer. -/
def readSizes (t : DataType) (n : Nat) (slots : List (Option Region)) : List Nat :=
  let bitmap := (n + 7) / 8
  let lastOffset (width : Nat) : Nat :=
    match slots.getD 1 none with
    | some r => LittleEndian.value (LittleEndian.region r.bytes (n * width) width)
    | none => 0
  match t with
  | .null => []
  | .boolean => [bitmap, bitmap]
  | .string => [bitmap, (n + 1) * 4, lastOffset 4]
  | .largeString => [bitmap, (n + 1) * 8, lastOffset 8]
  | .dictionary i _ _ => [bitmap, n * i.kind.width]
  | .struct _ => [bitmap]
  | .list _ => [bitmap, (n + 1) * 4]
  | .largeList _ => [bitmap, (n + 1) * 8]
  | .interval u => [bitmap, n * u.words * 4]
  | .date32 | .time32 _ => [bitmap, n * 4]
  | other => [bitmap, n * ((NumericKind.ofType? other).map NumericKind.width).getD 8]

/-- The dump of one buffer slot: `null`, or the hex of the bytes read. -/
def bufferDump : Option Region → Nat → Doc
  | none, _ => .null
  | some r, k => .str (Hex.encode (LittleEndian.region r.bytes 0 k))

mutual

/-- The dump of a descriptor tree read under a type. -/
def dump : ArrayNode → DataType → Doc
  | ⟨length, nullCount, offset, nBuffers, buffers, nChildren, children, dictionary, _, _⟩, t =>
    let slots := buffers.getD []
    let n := (offset + length).toNat
    let sizes := readSizes t n slots
    .obj [("length", .int length), ("null_count", .int nullCount), ("offset", .int offset),
      ("n_buffers", .int nBuffers), ("n_children", .int nChildren),
      ("buffers", .arr ((slots.zip (sizes ++ List.replicate (slots.length - sizes.length) 0)).map
        fun (r, k) => bufferDump r k)),
      ("children", .arr (dumpChildren t children)),
      ("dictionary", dumpDictionary t dictionary)]

/-- The dumps of a node's children under the child types of the type. -/
def dumpChildren (t : DataType) : Option (List (Option ArrayNode)) → List Doc
  | none => []
  | some slots =>
    match t with
    | .struct fs => dumpMembers fs slots
    | .list f | .largeList f => dumpMembers [f] slots
    | _ => dumpMembers [] slots

/-- The dumps of child slots under fields' types. -/
def dumpMembers : List Field → List (Option ArrayNode) → List Doc
  | _, [] => []
  | fs, none :: rest => .null :: dumpMembers fs.tail rest
  | fs, some c :: rest => dump c (fs.headD default).type :: dumpMembers fs.tail rest

/-- The dump of a dictionary slot under the dictionary's value type. -/
def dumpDictionary (t : DataType) : Option ArrayNode → Doc
  | none => .null
  | some d =>
    match t with
    | .dictionary _ v _ => dump d v
    | other => dump d other

end

end ArrayNode

namespace Series

/-- The series' summary: the column's summary and the field. -/
def summary (s : Series) : Doc :=
  .obj (s.column.summaryMembers ++ [("field", s.field.toDoc)])

/-- Builds the series a description names. -/
def ofSpec (d : Doc) : Decode (Outcome Series) := do
  let built ← Column.ofSpec (← d.need "array")
  match d.member? "field" with
  | some f =>
    let field ← Field.ofDoc f
    pure (do pure ⟨field, ← built⟩)
  | none =>
    let name ← d.getD "name" Doc.toStr ""
    let metadata ← d.getD "metadata" Metadata.ofDoc .empty
    pure (do pure (ofColumn name (← built) metadata))

end Series

namespace Table

/-- The table's summary: name, metadata, rows and each column's summary. -/
def summary (t : Table) : Doc :=
  .obj [("name", .str t.name), ("metadata", t.metadata.toDoc), ("n_rows", .nat t.rows),
    ("columns", .list Series.summary t.columns)]

/-- Builds the table a description names: its series, checked to have equal lengths, then
its metadata. -/
def ofSpec (d : Doc) : Decode (Outcome Table) := do
  let name ← d.getD "name" Doc.toStr ""
  let cols ← (← d.getD "cols" Doc.toList []).mapM Series.ofSpec
  let metadata ← d.getD "metadata" Metadata.ofDoc .empty
  pure (do
    let series ← cols.mapM id
    let t ← Outcome.ofResult (ofSeries name series)
    pure (t.withMetadata metadata))

end Table

end Columnar
