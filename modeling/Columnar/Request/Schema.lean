import Columnar.Json.Schema

/-!
# Requests on schema descriptors

* `schema_export` exports a field, a type under a name, or a schema under a batch name, and
  answers the descriptor's dump, the import of the descriptor and whether it was released;
* `schema_import` imports a foreign descriptor as a field or as a named schema. Importing
  only reads the descriptor, so nothing is released during it.
-/

namespace Columnar

namespace Request

/-- Exports a field, a type or a schema, dumps the descriptor and imports it back. -/
def schemaExport (req : Doc) : Decode Doc := do
  let exported : Except Error (SchemaNode × Doc) ← match req.member? "schema" with
    | some s => do
      let schema ← Schema.ofDoc s
      let name ← req.getD "name" Doc.toStr ""
      pure (do
        let node ← schema.toNode name
        pure (node, resultDoc Schema.namedDoc (Schema.ofNode node)))
    | none =>
      match req.member? "field" with
      | some f => do
        let field ← Field.ofDoc f
        pure (do
          let node ← SchemaNode.ofField field
          pure (node, resultDoc Field.toDoc node.toField))
      | none => do
        let t ← req.get "type" DataType.ofDoc
        let name ← req.getD "name" Doc.toStr ""
        let nullable ← req.getD "nullable" Doc.toBool true
        pure (do
          let node ← SchemaNode.ofType t name nullable .empty
          pure (node, resultDoc Field.toDoc node.toField))
  pure (resultDoc (fun (node, imported) =>
    .obj [("schema", node.dump), ("import", imported), ("released", .bool node.release.released)])
    exported)

/-- Imports a foreign schema descriptor as a field or a named schema. -/
def schemaImport (req : Doc) : Decode Doc := do
  let node ← req.get "schema" SchemaNode.ofDoc
  let result := match ← req.getD "as" Doc.toStr "field" with
    | "schema" => resultDoc Schema.namedDoc (Schema.ofNode node)
    | _ => resultDoc Field.toDoc node.toField
  pure (.obj [("result", result), ("releases_during_import", .nat 0)])

end Request

end Columnar
