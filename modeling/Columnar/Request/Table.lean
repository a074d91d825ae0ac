import Columnar.Json.Array
import Columnar.Column.Equality
import Columnar.Column.Read

/-!
# Requests on tables

A `table_api` request builds a table and answers what its accessors say: its columns by
name (and a name it lacks), its schema, its windows, whether it comes back equal from
its struct column, and, given a validity for the rows, the table read back from a struct
column with that validity, which a null row makes refuse. A validity of the wrong length
answers the whole request with the struct's error, and a column with a slot that cannot be
read answers it with that fault.
-/

namespace Columnar

namespace Table

/-- The table sent through its struct column and back is equal to itself: false when it
holds a NaN. -/
def roundTrips (t : Table) : Except Error Bool := do
  let c ← t.toStruct
  let back ← Table.ofStruct t.name c t.metadata
  pure (back.same t)

/-- The table read back, under the name `n`, from a struct column of its columns with the
given validity. -/
def withRowValidity (t : Table) (valid : List Bool) : Except Error (Except Error Table) := do
  let c ← Column.structOfLen (t.columns.map (·.field)) (t.columns.map (·.column))
    (some (Bitmap.ofBools valid)) t.rows
  pure (Table.ofStruct "n" c .empty)

/-- The table, once every slot of every column reads. -/
def readable (t : Table) : Outcome Table := do
  Column.readEach (t.columns.map (·.column))
  pure t

/-- What the accessors of a table say. -/
def report (t : Table) (windows : List (Nat × Nat)) (rowNulls : Doc) : Doc :=
  .obj [("summary", t.summary), ("n_cols", .nat t.width), ("is_empty", .bool (t.rows == 0)),
    ("col_names", .list .str t.names),
    ("col", .arr ((t.names ++ ["no such column"]).map fun n =>
      .arr [.str n, .opt Series.summary (t.column? n)])),
    ("schema", t.schema.toDoc), ("display", .str t.display),
    ("to_columns", .arr (t.columns.map fun s => .arr [.str s.field.name, s.column.summary])),
    ("struct_round_trip", resultDoc .bool t.roundTrips),
    ("slices", .arr (windows.map fun (o, l) => outcomeDoc summary (t.slice o l))),
    ("empty", .arr [.nat Table.empty.width, .bool (Table.empty.rows == 0),
      .str Table.empty.display]),
    ("null_rows", rowNulls)]

end Table

namespace Request

/-- Builds a table and reports on it. -/
def tableApi (req : Doc) : Decode Doc := do
  let built ← Table.ofSpec (← req.need "table")
  let windows ← req.getD "slices" (Doc.mapItems Doc.toWindow) []
  let valid ← req.get? "null_rows" (Doc.mapItems Doc.toBool)
  pure (outcomeDoc id (do
    let t ← (← built).readable
    let rowNulls ← match valid with
      | some bs => Outcome.ofResult ((t.withRowValidity bs).map (resultDoc Table.summary))
      | none => pure .null
    pure (t.report windows rowNulls)))

end Request

end Columnar
