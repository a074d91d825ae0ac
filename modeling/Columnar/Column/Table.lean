import Columnar.Column.Build
import Columnar.Descriptor.Schema

/-!
# Series and tables

A `Series` is a column under a field: the field names it and declares its type,
nullability and metadata. A `Table` is a named batch of series of equal length, with
metadata of its own; as a single column it is a non-nullable struct of its series.

> `Table.ofStruct` reads back what `Table.toStruct` writes, provided the struct has no null
> rows.
-/

namespace Columnar

/-- A column under a field. -/
structure Series where
  field : Field
  column : Column
  deriving Inhabited

namespace Series

/-- A field named `name` for a column: its type, nullable when it has a validity bitmap
(always for a null column), and the given metadata. -/
def fieldFor (name : String) (c : Column) (metadata : Metadata := .empty) : Field :=
  let nullable := match c with
    | .null _ => true
    | c => c.validity.isSome
  ⟨name, c.type, nullable, metadata⟩

/-- A series named `name`, with the field `fieldFor` gives. -/
def ofColumn (name : String) (c : Column) (metadata : Metadata := .empty) : Series :=
  ⟨fieldFor name c metadata, c⟩

/-- The number of rows. -/
def len (s : Series) : Nat := s.column.len

/-- The number of null rows. -/
def nullCount (s : Series) : Nat := s.column.nullCount

/-- The series as messages show it: `Field "x": Int32 (nullable) [3 rows, 1 nulls]`. -/
def display (s : Series) : String :=
  s.field.display ++ " [" ++ toString s.len ++ " rows, " ++ toString s.nullCount ++ " nulls]"

/-- The rows `[o, o + l)` under the same field. -/
def slice (s : Series) (o l : Nat) : Outcome Series := do
  pure ⟨s.field, ← s.column.slice o l⟩

end Series

/-- A named batch of series of equal length. -/
structure Table where
  columns : List Series
  rows : Nat
  name : String
  metadata : Metadata
  deriving Inhabited

namespace Table

/-- The first series whose length differs from the first series'. -/
def raggedColumn (rows : Nat) : List Series → Option Series
  | [] => none
  | s :: rest => if s.len ≠ rows then some s else raggedColumn rows rest

/-- A table of series, checked to have equal lengths; no metadata. -/
def ofSeries (name : String) (columns : List Series) : Except Error Table :=
  let rows := match columns with
    | s :: _ => s.len
    | [] => 0
  match raggedColumn rows columns with
  | some s =>
    .error (.schema ("column '" ++ s.field.name ++ "' has " ++ toString s.len ++
      " rows, expected " ++ toString rows))
  | none => .ok ⟨columns, rows, name, .empty⟩

/-- The table with its metadata replaced. -/
def withMetadata (t : Table) (m : Metadata) : Table :=
  { t with metadata := m }

/-- The table with no columns, rows or name. -/
def empty : Table := ⟨[], 0, "", .empty⟩

/-- The number of columns. -/
def width (t : Table) : Nat := t.columns.length

/-- The column names in order. -/
def names (t : Table) : List String := t.columns.map (·.field.name)

/-- The first series with the given name. -/
def column? (t : Table) (name : String) : Option Series :=
  t.columns.find? (·.field.name == name)

/-- The fields of the columns and the table's metadata. -/
def schema (t : Table) : Schema :=
  ⟨t.columns.map (·.field), t.metadata⟩

/-- The table as one struct column of its rows, checked against the fields. -/
def toStruct (t : Table) : Except Error Column :=
  Column.structOfLen (t.columns.map (·.field)) (t.columns.map (·.column)) none t.rows

/-- The table of a struct column's children; a struct with null rows is refused. -/
def ofStruct (name : String) (c : Column) (metadata : Metadata) : Except Error Table :=
  match c with
  | .struct fields children validity len =>
    let nulls := (validity.map Bitmap.countZeros).getD 0
    if 0 < nulls then
      .error (.malformed ("record batch root has " ++ toString nulls ++ " null rows"))
    else .ok ⟨(fields.zip children).map fun (f, c) => ⟨f, c⟩, len, name, metadata⟩
  | other => .error (.schema ("record batch must be a struct array, found " ++ other.type.display))

/-- The rows `[o, o + l)` of every column. -/
def slice (t : Table) (o l : Nat) : Outcome Table := do
  if (← addWords o l) ≤ t.rows then
    pure ⟨← t.columns.mapM (·.slice o l), l, t.name, t.metadata⟩
  else throw (.panic "Table::slice out of bounds")

/-- The table as messages show it: a heading line, then one line per column. -/
def display (t : Table) : String :=
  "Table \"" ++ t.name ++ "\" [" ++ toString t.rows ++ " rows x " ++ toString t.width ++
    " cols]\n" ++
    String.join (t.columns.map fun s => "  " ++ s.display ++ "\n")

end Table

end Columnar
