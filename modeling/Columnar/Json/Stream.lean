import Columnar.Json.Array
import Columnar.Stream.Reader

/-!
# Streams, chunked series and batched tables as JSON

A request names an error by its kind and text (`{"kind","message"}`; an offset overflow
takes `len` and `max`, a capsule name mismatch takes `found`). A chunked series is
described by a field and chunks, appended one by one (or checked in one go with
`"direct"`), or by series sharing one field; a batched table by its batches and, unless
it is taken from the first batch, a name and schema.

A stream source is one of:

* `{"field","batches":[{"ok":column}|{"err":error}]}`: batches exported under a field;
* `{"table_stream":{"schema","tables"}}`: tables exported as struct batches;
* `{"super_table":…}` and `{"super_array":…}`: a batched table or a chunked series;
* `{"foreign":…}`: a scripted foreign stream.

A scripted stream is `{"schema","schema_code","next":[step],"last_error","no_get_schema",
"no_get_next","no_get_last_error","released"}`; a step with an array hands it over, a
step with a non-zero code fails, and any other step ends the stream. Codes are C `int`s:
only their low 32 bits count, read signed, so a code that is a multiple of `2^32` is a
success. The last error is handed over as a NUL-terminated string, so a reader sees it up
to its first NUL.
-/

namespace Columnar

/-- Reads an error a request names. -/
def Error.ofDoc (d : Doc) : Decode Error := do
  let message ← d.getD "message" Doc.toStr ""
  match ← d.get "kind" Doc.toStr with
  | "UnsupportedType" => pure (.unsupported message)
  | "SchemaError" => pure (.schema message)
  | "ImportError" => pure (.malformed message)
  | "CapsuleConsumed" => pure (.consumed message)
  | "CapsuleName" => pure (.wrongCapsule message (← d.getD "found" Doc.toStr ""))
  | "StreamError" => pure (.stream message)
  | "OverflowError" => pure (.overflow (← d.get "len" Doc.toNat) (← d.get "max" Doc.toNat))
  | "NullPointer" => pure (.nullPointer message)
  | other => throw ("unknown error kind '" ++ other ++ "'")

/-- Builds the chunked series a description names. -/
def ChunkedSeries.ofSpec (d : Doc) : Decode (Outcome ChunkedSeries) := do
  match d.member? "field_arrays" with
  | some items =>
    let series ← (← items.toList).mapM Series.ofSpec
    pure (do Outcome.ofResult (ChunkedSeries.ofSeries (← series.mapM id)))
  | none =>
    let field ← d.get "field" Field.ofDoc
    let chunks ← (← d.getD "chunks" Doc.toList []).mapM Column.ofSpec
    let direct ← d.getD "direct" Doc.toBool false
    pure (do
      let cs ← chunks.mapM id
      Outcome.ofResult
        (if direct then ChunkedSeries.ofChunks field cs
          else ChunkedSeries.pushAll ⟨field, []⟩ cs))

/-- Builds the batched table a description names. -/
def BatchedTable.ofSpec (d : Doc) : Decode (Outcome BatchedTable) := do
  let batches ← (← d.getD "batches" Doc.toList []).mapM Table.ofSpec
  let schema ← d.get? "schema" Schema.ofDoc
  let name ← d.getD "name" Doc.toStr ""
  pure (do
    let ts ← batches.mapM id
    Outcome.ofResult (match schema with
      | some s => BatchedTable.ofBatches name s ts
      | none => BatchedTable.ofFirstBatch ts))

/-- Reads one batch of a stream source: a column to build, or an error. -/
def batchOfDoc (d : Doc) : Decode (Outcome (Except Error Column)) := do
  match d.member? "err" with
  | some e => pure (.ok (.error (← Error.ofDoc e)))
  | none => pure ((← Column.ofSpec (← d.need "ok")).map .ok)

/-- Builds the producer a stream source names. -/
def Producer.ofSource (d : Doc) : Decode (Outcome (Producer BatchList)) := do
  match d.member? "table_stream", d.member? "super_table", d.member? "super_array" with
  | some t, _, _ =>
    let schema ← t.get "schema" Schema.ofDoc
    let tables ← (← t.getD "tables" Doc.toList []).mapM Table.ofSpec
    pure (do Outcome.ofResult (exportTables "" schema (← tables.mapM id)))
  | none, some b, _ =>
    let built ← BatchedTable.ofSpec b
    pure (do Outcome.ofResult (← built).toStream)
  | none, none, some a =>
    let built ← ChunkedSeries.ofSpec a
    pure (do Outcome.ofResult (← built).toStream)
  | none, none, none =>
    let field ← d.get "field" Field.ofDoc
    let batches ← (← d.getD "batches" Doc.toList []).mapM batchOfDoc
    pure (do Outcome.ofResult (exportStream field (← batches.mapM id)))

/-- A callback's return code: a C `int`, so the low 32 bits of the integer read signed. -/
def returnCode (i : Int) : Int :=
  LittleEndian.toInt 4 (LittleEndian.ofInt 4 i)

/-- Reads one step of a script. -/
def Step.ofDoc (d : Doc) : Decode Step := do
  let code := returnCode (← d.getD "code" Doc.toInt 0)
  if code ≠ 0 then pure (.fail code)
  else match ← d.get? "array" ArrayNode.ofDoc with
    | some a => pure (.batch a)
    | none => pure .finish

/-- Reads a scripted foreign stream, which makes the arrays of all its steps from the start. -/
def ScriptedStream.ofDocPremade (d : Doc) : Decode { s : ScriptedStream // s.Premade } := do
  let schema ← d.get? "schema" SchemaNode.ofDoc
  let schemaCode := returnCode (← d.getD "schema_code" Doc.toInt 0)
  let steps ← d.getD "next" (Doc.mapItems Step.ofDoc) []
  let lastError := (← d.get? "last_error" Doc.toStr).map fun t =>
    String.ofList (t.toList.takeWhile (· ≠ '\x00'))
  let noSchema ← d.getD "no_get_schema" Doc.toBool false
  let noNext ← d.getD "no_get_next" Doc.toBool false
  let noLastError ← d.getD "no_get_last_error" Doc.toBool false
  let released ← d.getD "released" Doc.toBool false
  pure ⟨ScriptedStream.ofSteps schema schemaCode steps lastError (!noSchema) (!noNext)
    (!noLastError) (!released), ScriptedStream.ofSteps_premade _ _ _ _ _ _ _ _⟩

/-- Reads a scripted foreign stream. -/
def ScriptedStream.ofDoc (d : Doc) : Decode ScriptedStream :=
  Subtype.val <$> ScriptedStream.ofDocPremade d

/-- Builds the stream a source names: a producer of this library or a scripted stream. -/
def ArrayStream.ofSource (d : Doc) : Decode (Outcome ArrayStream) := do
  match d.member? "foreign" with
  | some f => pure (.ok (.scripted (← ScriptedStream.ofDoc f)))
  | none => pure ((← Producer.ofSource d).map .exported)

/-- The ledger's counts as answer members. -/
def Ledger.members (l : Ledger) : List (String × Doc) :=
  [("stream_releases", .nat l.streams), ("array_releases", .nat l.arrays),
    ("schema_releases", .nat l.schemas)]

/-- The summary of a chunked series: field, chunk count, rows, nulls and chunks. -/
def ChunkedSeries.summary (a : ChunkedSeries) : Doc :=
  .obj [("field", a.field.toDoc), ("n_chunks", .nat a.count), ("len", .nat a.len),
    ("null_count", .nat a.nullCount), ("chunks", .list Column.summary a.chunks)]

/-- The values of a chunked series. -/
def ChunkedSeries.valuesDoc (a : ChunkedSeries) : Doc :=
  .arr (Scalar.toDocs a.toList)

/-- The summary of a batched table: its name, schema, counts, batches and column values. -/
def BatchedTable.summary (b : BatchedTable) : Doc :=
  .obj [("name", .str b.name), ("schema", b.schema.toDoc), ("n_rows", .nat b.rows),
    ("n_batches", .nat b.count), ("batches", .list Table.summary b.tables),
    ("columns", .arr ((List.range b.width).map fun i =>
      resultDoc ChunkedSeries.valuesDoc (b.column i)))]

end Columnar
