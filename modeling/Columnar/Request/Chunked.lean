import Columnar.Json.Stream
import Columnar.Column.Read

/-!
# Requests on chunked series and batched tables

A `super_api` request builds a chunked series (`super_array`) or a batched table
(`super_table`), appends the items of `push` one at a time, and answers what the value's
accessors say. A refused item is noted in `push` and leaves the value as it was; a value
that cannot be built answers the whole request with its error, and one with a slot that
cannot be read answers it with that fault.
-/

namespace Columnar

/-- Appends items one at a time, noting `"ok"` or the error of each; a refused item
leaves the value as it was. -/
def pushEach {α β : Type} (push : α → β → Except Error α) :
    α → List β → α × List Doc
  | a, [] => (a, [])
  | a, x :: xs =>
    match push a x with
    | .ok a' =>
      let (r, notes) := pushEach push a' xs
      (r, .str "ok" :: notes)
    | .error e =>
      let (r, notes) := pushEach push a xs
      (r, e.toDoc :: notes)

namespace ChunkedSeries

/-- The chunked series, once every slot of every chunk reads. -/
def readable (a : ChunkedSeries) : Outcome ChunkedSeries := do
  Column.readEach a.chunks
  pure a

/-- What the accessors of a chunked series say, with the notes of the appends: chunks are
looked up one past the last, where there is none. -/
def report (a : ChunkedSeries) (pushed : List Doc) : Doc :=
  .obj [("push", .arr pushed), ("display", .str a.display), ("type", a.type.toDoc),
    ("n_chunks", .nat a.count), ("len", .nat a.len), ("is_empty", .bool (a.len == 0)),
    ("null_count", .nat a.nullCount),
    ("chunk", .arr ((List.range (a.count + 1)).map fun i =>
      match a.chunks[i]? with
      | some c => c.summary
      | none => .null)),
    ("field_arrays", .list Series.summary a.series), ("to_list", a.valuesDoc)]

end ChunkedSeries

namespace BatchedTable

/-- The batched table, once every slot of every column of every batch reads. -/
def readable (b : BatchedTable) : Outcome BatchedTable := do
  Column.readEach (b.tables.flatMap fun t => t.columns.map (·.column))
  pure b

/-- A column across the batches: its display and values. -/
def columnDoc (a : ChunkedSeries) : Doc :=
  .obj [("display", .str a.display), ("values", a.valuesDoc)]

/-- What the accessors of a batched table say, with the notes of the appends: columns
are looked up one past the last, where there is none. -/
def report (b : BatchedTable) (pushed : List Doc) : Doc :=
  .obj [("push", .arr pushed), ("display", .str b.display), ("n_batches", .nat b.count),
    ("n_cols", .nat b.width), ("n_rows", .nat b.rows), ("is_empty", .bool (b.rows == 0)),
    ("columns", .arr ((List.range (b.width + 1)).map fun i => resultDoc columnDoc (b.column i))),
    ("tables", .list Table.summary b.tables), ("default", .str BatchedTable.empty.display)]

end BatchedTable

namespace Request

/-- Builds a chunked series or a batched table, appends to it and reports on it. -/
def superApi (req : Doc) : Decode Doc := do
  let pushes ← req.getD "push" Doc.toList []
  match req.member? "super_array" with
  | some spec =>
    let built ← ChunkedSeries.ofSpec spec
    let items ← pushes.mapM Column.ofSpec
    pure (outcomeDoc id (do
      let (a, pushed) := pushEach ChunkedSeries.push (← built) (← items.mapM id)
      pure ((← a.readable).report pushed)))
  | none =>
    let built ← BatchedTable.ofSpec (← req.need "super_table")
    let items ← pushes.mapM Table.ofSpec
    pure (outcomeDoc id (do
      let (b, pushed) := pushEach BatchedTable.push (← built) (← items.mapM id)
      pure ((← b.readable).report pushed)))

end Request

end Columnar
