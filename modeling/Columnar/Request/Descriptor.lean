import Columnar.Stream.Move
import Columnar.Json.Array

/-!
# Requests that move and release descriptors

A `descriptor_api` request exports a series and follows its descriptors through moves and
releases:

* the array is moved out, then both the moved one and the one left behind are released,
  the moved one twice;
* a schema with children has its first child moved out; the parent is released, and the
  child is read and released. A schema without children is moved out and read;
* a stream of the series is moved out and released twice.

It also answers the struct type and the root field of a schema of the series' field alone.
-/

namespace Columnar

namespace Request

/-- What a moved array and the one left behind say. -/
def arrayMoves (a : ArrayNode) : Doc :=
  let (moved, source) := a.take
  let source := source.release
  let afterOnce := moved.release
  .obj [("source_released_after_take", .bool source.released),
    ("moved_released", .bool moved.released),
    ("moved_released_after_release", .bool afterOnce.release.released)]

/-- What a moved schema, or its moved first child, says. -/
def schemaMoves (s : SchemaNode) : Doc :=
  if 0 < s.nChildren then
    let (child, parent) := s.takeChild 0
    let child := child.getD SchemaNode.vacant
    let field := child.toField
    .obj [("parent_released", .bool parent.release.released),
      ("moved_child", resultDoc Field.toDoc field),
      ("child_released", .bool child.release.released)]
  else
    let (moved, source) := s.take
    .obj [("source_released", .bool source.released),
      ("moved", resultDoc Field.toDoc moved.toField)]

/-- What a moved stream says, released twice. -/
def streamMoves (s : ArrayStream) : Doc :=
  let (moved, source) := s.take
  let once := moved.release
  let twice := once.release
  .obj [("source_released", .bool source.isReleased), ("moved_released", .bool moved.isReleased),
    ("after", .arr [.bool source.release.isReleased, .bool once.isReleased,
      .bool twice.isReleased, .bool source.isReleased])]

/-- Exports a series and follows its descriptors through moves and releases. -/
def descriptorApi (req : Doc) : Decode Doc := do
  let built ← Series.ofSpec (← req.need "field_array")
  pure (outcomeDoc id (do
    let s ← built
    let (array, schema) ← Outcome.ofResult s.toDescriptors
    let p ← Outcome.ofResult (exportStream s.field [.ok s.column])
    let only : Schema := ⟨[s.field], .empty⟩
    pure (.obj [("array", arrayMoves array), ("schema", schemaMoves schema),
      ("stream", streamMoves (.exported p)),
      ("schema_from_fields", .obj [("struct_type", only.structType.toDoc),
        ("root", (only.rootField "r").toDoc)])])))

end Request

end Columnar
