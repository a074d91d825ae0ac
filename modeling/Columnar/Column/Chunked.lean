import Columnar.Column.Table

/-!
# Chunked series and batched tables

A `ChunkedSeries` is one logical column split into chunks of varying length, all of the
type its field declares. A `BatchedTable` is a sequence of tables that share one schema;
each batch is checked against the schema's field names and types as it is appended, and
the batched table counts the rows of all of them.

Both cross the interchange boundary as a stream: the chunks, or the batches as struct
columns, one per stream batch.
-/

namespace Columnar

/-- One logical column held as chunks of one type. -/
structure ChunkedSeries where
  field : Field
  chunks : List Column
  deriving Inhabited

namespace ChunkedSeries

/-- The first chunk, with its position, whose type differs from `t`. -/
def mistypedChunk (t : DataType) : Nat → List Column → Option (Nat × Column)
  | _, [] => none
  | i, c :: rest => if c.type == t then mistypedChunk t (i + 1) rest else some (i, c)

/-- A chunked series, checked: every chunk has the field's type. -/
def ofChunks (field : Field) (chunks : List Column) : Except Error ChunkedSeries :=
  match mistypedChunk field.type 0 chunks with
  | some (i, c) =>
    .error (.schema ("chunk " ++ toString i ++ " of '" ++ field.name ++ "' is " ++
      c.type.display ++ ", field declares " ++ field.type.display))
  | none => .ok ⟨field, chunks⟩

/-- The first series whose field differs from `f`. -/
def strangerField (f : Field) : List Series → Option Series
  | [] => none
  | s :: rest => if s.field == f then strangerField f rest else some s

/-- A chunked series of series, under the first one's field; every field must be equal. -/
def ofSeries : List Series → Except Error ChunkedSeries
  | [] => .error (.schema "cannot infer a field from zero chunks")
  | first :: rest =>
    match strangerField first.field rest with
    | some s =>
      .error (.schema ("chunk field " ++ s.field.display ++ " differs from " ++
        first.field.display))
    | none => ofChunks first.field (first.column :: rest.map (·.column))

/-- Appends a chunk of the field's type. -/
def push (a : ChunkedSeries) (c : Column) : Except Error ChunkedSeries :=
  if c.type == a.field.type then .ok { a with chunks := a.chunks ++ [c] }
  else .error (.schema ("chunk of '" ++ a.field.name ++ "' is " ++ c.type.display ++
    ", field declares " ++ a.field.type.display))

/-- Appends chunks in order, stopping at the first of another type. -/
def pushAll (a : ChunkedSeries) : List Column → Except Error ChunkedSeries
  | [] => .ok a
  | c :: cs => do pushAll (← a.push c) cs

/-- The declared type. -/
def type (a : ChunkedSeries) : DataType := a.field.type

/-- The number of chunks. -/
def count (a : ChunkedSeries) : Nat := a.chunks.length

/-- The number of rows across the chunks. -/
def len (a : ChunkedSeries) : Nat := (a.chunks.map Column.len).foldr (· + ·) 0

/-- The number of null rows across the chunks. -/
def nullCount (a : ChunkedSeries) : Nat := (a.chunks.map Column.nullCount).foldr (· + ·) 0

/-- Every chunk as a series under the shared field. -/
def series (a : ChunkedSeries) : List Series :=
  a.chunks.map fun c => ⟨a.field, c⟩

/-- The values of every row, chunk after chunk. -/
def toList (a : ChunkedSeries) : List Scalar :=
  a.chunks.flatMap Column.toList

/-- The chunked series as messages show it. -/
def display (a : ChunkedSeries) : String :=
  "SuperArray " ++ a.field.display ++ " [" ++ toString a.len ++ " rows in " ++
    toString a.count ++ " chunks]"

end ChunkedSeries

/-- Tables that share one schema. -/
structure BatchedTable where
  batches : List Table
  schema : Schema
  rows : Nat
  name : String
  deriving Inhabited

namespace BatchedTable

/-- The first column whose field's name or type differs from the schema's field. -/
def strayColumn : List Series → List Field → Option (Series × Field)
  | s :: ss, f :: fs =>
    if s.field.name == f.name && s.field.type == f.type then strayColumn ss fs
    else some (s, f)
  | _, _ => none

/-- Appends a batch whose columns match the schema's fields by name and type. -/
def push (b : BatchedTable) (t : Table) : Except Error BatchedTable :=
  if t.width ≠ b.schema.fields.length then
    .error (.schema ("batch has " ++ toString t.width ++ " columns, schema has " ++
      toString b.schema.fields.length))
  else match strayColumn t.columns b.schema.fields with
    | some (s, f) =>
      .error (.schema ("batch column " ++ s.field.display ++ " does not match schema field " ++
        f.display))
    | none => .ok { b with batches := b.batches ++ [t], rows := b.rows + t.rows }

/-- Appends the batches in order, stopping at the first that does not match. -/
def pushAll (b : BatchedTable) : List Table → Except Error BatchedTable
  | [] => .ok b
  | t :: ts => do pushAll (← b.push t) ts

/-- A batched table under a schema, each batch checked. -/
def ofBatches (name : String) (schema : Schema) (batches : List Table) :
    Except Error BatchedTable :=
  pushAll ⟨[], schema, 0, name⟩ batches

/-- A batched table named after its first batch, under the first batch's schema. -/
def ofFirstBatch : List Table → Except Error BatchedTable
  | [] => .error (.schema "cannot infer a schema from zero batches")
  | first :: rest => ofBatches first.name first.schema (first :: rest)

/-- The batched table with nothing in it. -/
def empty : BatchedTable := ⟨[], ⟨[], .empty⟩, 0, ""⟩

/-- The number of batches. -/
def count (b : BatchedTable) : Nat := b.batches.length

/-- The number of columns. -/
def width (b : BatchedTable) : Nat := b.schema.fields.length

/-- Column `i` across the batches, as a chunked series under the schema's field. -/
def column (b : BatchedTable) (i : Nat) : Except Error ChunkedSeries :=
  match b.schema.fields[i]? with
  | none => .error (.schema ("no column " ++ toString i))
  | some f => ChunkedSeries.ofChunks f (b.batches.map fun t => (t.columns.getD i default).column)

/-- The batches, each named after the batched table and carrying the schema's metadata. -/
def tables (b : BatchedTable) : List Table :=
  b.batches.map fun t => { t with name := b.name, metadata := b.schema.metadata }

/-- The batched table as messages show it. -/
def display (b : BatchedTable) : String :=
  "SuperTable \"" ++ b.name ++ "\" [" ++ toString b.rows ++ " rows in " ++ toString b.count ++
    " batches x " ++ toString b.width ++ " cols]"

end BatchedTable

end Columnar
