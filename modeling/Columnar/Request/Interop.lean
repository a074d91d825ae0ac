import Columnar.Json.Array

/-!
# Requests that send values through another implementation

An `arrow_rs` request exports a series or a table through descriptors to another
implementation of the interface (a `Peer`), which reads them as its own array or record
batch, and then takes the value back from the descriptors that implementation exports in
turn. What the peer does is its own: the requests take it as a parameter.

The peer the requests run against (`Peer.layoutOnly`) reads the same layout, so a value comes
back with the same field and values. It differs in four places:

* its types do not say whether the values of a dictionary are ordered, so every
  dictionary comes back unordered;
* it checks the layout only, taking string offsets and text as they are, so a string
  column it cannot have checked is refused only when it comes back;
* it counts no nulls in a column of the null type, which has no validity bitmap;
* it refuses a record batch with no columns, since it could not tell how many rows the
  batch has.
-/

namespace Columnar

mutual

/-- The type with every dictionary unordered. -/
def DataType.withoutOrder : DataType → DataType
  | .dictionary i v _ => .dictionary i v.withoutOrder false
  | .struct fs => .struct (Field.listWithoutOrder fs)
  | .list f => .list f.withoutOrder
  | .largeList f => .largeList f.withoutOrder
  | t => t

/-- The field with every dictionary of its type unordered. -/
def Field.withoutOrder : Field → Field
  | ⟨n, t, nullable, m⟩ => ⟨n, t.withoutOrder, nullable, m⟩

/-- The fields with every dictionary of their types unordered. -/
def Field.listWithoutOrder : List Field → List Field
  | [] => []
  | f :: fs => f.withoutOrder :: Field.listWithoutOrder fs

end

namespace ArrayNode

/-- Reads a series as the layout-only peer does: under the schema's field with every
dictionary unordered, checking the layout only. -/
def importForeign (a : ArrayNode) (s : SchemaNode) : Except Error Series := do
  let f := (← s.toField).withoutOrder
  let c ← a.importChecked .layout f.type
  pure ⟨f.materialise, c⟩

/-- Reads a record batch as the layout-only peer does. -/
def importForeignTable (a : ArrayNode) (s : SchemaNode) : Except Error Table := do
  let series ← a.importForeign s
  let (name, schema) ← Schema.ofRootField series.field
  Table.ofStruct name series.column schema.metadata

end ArrayNode

/-- The null count the layout-only peer reports: none for the null type. -/
def Column.foreignNullCount : Column → Nat
  | .null _ => 0
  | c => c.nullCount

/-- Another implementation of the interface, as the library exchanges values with it: it reads
exported descriptors as a series or a record batch of its own, exports what it holds in turn,
and reports null counts of its own. -/
structure Peer where
  importSeries : ArrayNode → SchemaNode → Except Error Series
  importBatch : ArrayNode → SchemaNode → Except Error Table
  exportSeries : Series → Except Error (ArrayNode × SchemaNode)
  exportBatch : Table → Except Error (ArrayNode × SchemaNode)
  nullCount : Column → Nat

/-- The peer the requests run against: it reads what the library writes checking the layout
only, exports as the library does, and cannot read a record batch with no columns, since it
could not tell how many rows the batch has. -/
def Peer.layoutOnly : Peer where
  importSeries := ArrayNode.importForeign
  importBatch a s := do
    let held ← a.importForeignTable s
    if held.columns.isEmpty then
      throw (.malformed
        "arrow-rs: Invalid argument error: must either specify a row count or at least one column")
    pure held
  exportSeries := Series.toDescriptors
  exportBatch := Table.toDescriptors
  nullCount := Column.foreignNullCount

namespace Series

/-- The series as a peer holds it, and as it comes back from there. -/
def throughPeer (p : Peer) (s : Series) : Except Error (Series × Except Error Series) := do
  let (array, schema) ← s.toDescriptors
  let held ← p.importSeries array schema
  pure (held, do
    let (array, schema) ← p.exportSeries held
    array.importSeries schema)

/-- What a peer says of a series it holds, and the series back. -/
def peerReport (p : Peer) (held : Series) (back : Except Error Series) : Doc :=
  .obj [("len", .nat held.len), ("null_count", .nat (p.nullCount held.column)),
    ("name", .str held.field.name), ("nullable", .bool held.field.nullable),
    ("back", resultDoc summary back)]

end Series

namespace Table

/-- The table as a record batch of a peer, and as it comes back from there under a new
name. -/
def throughPeer (p : Peer) (t : Table) (name : String) :
    Except Error (Table × Except Error Table) := do
  let (array, schema) ← t.toDescriptors
  let held ← p.importBatch array schema
  pure (held, do
    let (array, schema) ← p.exportBatch { held with name := name }
    array.importTable schema)

/-- What a peer says of a record batch it holds, and the table back. -/
def peerReport (held : Table) (back : Except Error Table) : Doc :=
  .obj [("rows", .nat held.rows), ("columns", .nat held.width),
    ("metadata", held.metadata.toDoc), ("back", resultDoc summary back)]

end Table

namespace Request

/-- Sends a series or a table through a peer and back. -/
def interop (p : Peer) (req : Doc) : Decode Doc := do
  match req.member? "table" with
  | some spec =>
    let built ← Table.ofSpec spec
    let name ← req.getD "name" Doc.toStr ""
    pure (outcomeDoc id (do
      let (held, back) ← Outcome.ofResult ((← built).throughPeer p name)
      pure (Table.peerReport held back)))
  | none =>
    let built ← Series.ofSpec (← req.need "field_array")
    pure (outcomeDoc id (do
      let (held, back) ← Outcome.ofResult ((← built).throughPeer p)
      pure (Series.peerReport p held back)))

end Request

end Columnar
