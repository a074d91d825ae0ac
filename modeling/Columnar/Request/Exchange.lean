import Columnar.Json.Array
import Columnar.Descriptor.Owner

/-!
# Requests that export and import columns

* `export` builds a series, a column or a table, exports it, dumps the descriptors and
  imports them back;
* `import` imports foreign descriptors as a column of a given type, a column under a
  schema, a series, a table, or a series from owned pointers, and counts the releases the
  producer sees.

A producer's array is released once when the importer lets go of it: at once when the import
fails or keeps nothing of its memory, later when the imported column still shares a buffer.
A released root has no callback to call. The importer of a series or table releases the
schema itself; after an import under a schema the caller releases it.
-/

namespace Columnar

namespace Request

/-- The answer of an export and its import back: the dumps and the import's summary. -/
def exchanged (array : ArrayNode) (type : DataType) (schema : Option SchemaNode)
    (imported : Doc) : Doc :=
  .obj ([("array", array.dump type)] ++
    (match schema with
      | some s => [("schema", s.dump)]
      | none => []) ++
    [("import", imported)])

/-- Exports what a request builds, dumps it and imports it back. -/
def exportRequest (req : Doc) : Decode Doc := do
  match ← req.getD "how" Doc.toStr "field_array" with
  | "array" =>
    let built ← Column.ofSpec (← req.need "array")
    pure (outcomeDoc id (do
      let c ← built
      let node ← c.exportArray
      pure (exchanged node c.type none (resultDoc Column.summary (node.importTyped c.type)))))
  | "table" =>
    let built ← Table.ofSpec (← req.need "table")
    pure (outcomeDoc id (do
      let t ← built
      let (node, schema) ← Outcome.ofResult t.toDescriptors
      pure (exchanged node t.schema.structType (some schema)
        (resultDoc Table.summary (node.importTable schema)))))
  | _ =>
    let built ← Series.ofSpec req
    pure (outcomeDoc id (do
      let s ← built
      let (node, schema) ← Outcome.ofResult s.toDescriptors
      pure (exchanged node s.field.type (some schema)
        (resultDoc Series.summary (node.importSeries schema)))))

/-- The answer of an import: its result, the root array's release calls at return and once
the result is let go, and the schema's at return. -/
def importAnswer {α : Type} (run : ImportRun α) (write : α → Doc) : Doc :=
  .obj [("result", resultDoc write run.result),
    ("array_releases_at_return", .nat run.holders.owner.root.releases),
    ("array_releases", .nat run.holders.letGo.owner.root.releases),
    ("schema_releases_at_return", .nat ((run.schema.map (·.releases)).getD 0))]

/-- A member an import mode cannot do without. -/
def needed {α : Type} (what : String) : Option α → Decode α
  | some a => .ok a
  | none => .error ("mode needs '" ++ what ++ "'")

/-- Imports foreign descriptors in one of the import modes. Only boxed pointers may be missing;
every other mode needs the array, and all but a typed import the schema. -/
def importRequest (req : Doc) : Decode Doc := do
  let mode ← req.getD "mode" Doc.toStr "field"
  let array ← req.get? "array" ArrayNode.ofDoc
  let schema ← req.get? "schema" SchemaNode.ofDoc
  if mode = "c_owned" then
    return importAnswer (ArrayNode.ownedRun array schema) Series.summary
  let a ← needed "array" array
  match mode with
  | "typed" =>
    let t ← req.get "type" DataType.ofDoc
    pure (importAnswer (a.typedRun t) Column.summary)
  | "array" =>
    let s ← needed "schema" schema
    let run := a.withRun s
    -- the caller releases the schema it lent once the import has returned
    pure (importAnswer { run with schema := run.schema.map Root.release } Column.summary)
  | "table" =>
    let s ← needed "schema" schema
    pure (importAnswer (a.tableRun s) Table.summary)
  | _ =>
    let s ← needed "schema" schema
    pure (importAnswer (a.seriesRun s) Series.summary)

end Request

end Columnar
