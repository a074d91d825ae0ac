import Columnar.Json.Stream

/-!
# Requests that drive streams

* `stream_ops` calls a producer's callbacks one by one and answers each: a schema with its
  import, a batch with its dump and import, the end, a status code, the last error, or
  whether the stream is released. The callbacks stay callable after a release.
* `stream_read` consumes a stream: with the reader, batch by batch, or to the end as
  tables, a batched table or a chunked series. A scripted foreign stream also answers the
  releases its descriptors saw.
-/

namespace Columnar

namespace Request

/-- The answer of a callback that failed or had nowhere to write. -/
def codeDoc (code : Int) : Doc :=
  .obj [("code", .int code)]

/-- Calls one callback of a producer and answers it. -/
def streamOp (p : Producer BatchList) : String → Decode (Doc × Producer BatchList)
  | "get_schema" =>
    match p.getSchema with
    | (.ok node, p) =>
      pure (.obj [("code", .nat 0), ("schema", node.dump),
        ("field", resultDoc Field.toDoc node.toField)], p)
    | (.error code, p) => pure (codeDoc code, p)
  | "get_next" =>
    match p.getNext with
    | (.ok a, p) =>
      if a.released then pure (.obj [("code", .nat 0), ("end", .bool true)], p)
      else pure (.obj [("code", .nat 0), ("array", a.dump p.field.type),
        ("import", resultDoc Column.summary (a.importTyped p.field.type))], p)
    | (.error code, p) => pure (codeDoc code, p)
  | "get_schema_null" =>
    let (code, p) := p.nullOut "get_schema output"
    pure (codeDoc code, p)
  | "get_next_null" =>
    let (code, p) := p.nullOut "get_next output"
    pure (codeDoc code, p)
  | "get_last_error" => pure (.opt .str p.lastErrorText, p)
  | "release" =>
    let p := if p.live then p.release else p
    pure (.obj [("released", .bool !p.live)], p)
  | other => throw ("unknown stream op '" ++ other ++ "'")

/-- Calls callbacks in order, each on the state the one before left. -/
def streamOpList (p : Producer BatchList) : List String → Decode (List Doc)
  | [] => pure []
  | op :: ops => do
    let (answer, p) ← streamOp p op
    pure (answer :: (← streamOpList p ops))

/-- Builds a producer and drives its callbacks. -/
def streamOps (req : Doc) : Decode Doc := do
  let built ← Producer.ofSource (← req.need "source")
  let ops ← (← req.getD "ops" Doc.toList []).mapM Doc.toStr
  match built with
  | .ok p => pure (.obj [("results", .arr (← streamOpList p ops))])
  | .error f => pure f.toDoc

/-- Reads a stream with the reader, up to `take` batches, then one more batch. -/
def readerAnswer (s : ArrayStream) (take : Option Nat) : Doc × Leftover :=
  match StreamReader.start s with
  | .error (e, l) => (e.toDoc, l)
  | .ok r =>
    let (batches, early, r) := StreamReader.readUpTo (r.stream.budget + 1) take r
    let (after, r) := r.next
    (.obj [("field", r.field.toDoc), ("batches", .list (resultDoc Column.summary) batches),
      ("closed_early", .bool early), ("after_end", .opt (resultDoc Column.summary) after)],
      r.close.leftover)

/-- Consumes a stream in one of the reading modes. -/
def readStream (mode : String) (take : Option Nat) (s : ArrayStream) : Decode (Doc × Leftover) :=
  match mode with
  | "reader" => pure (readerAnswer s take)
  | "tables" =>
    let (r, l) := importTableStream s
    pure (resultDoc (.list Table.summary) r, l)
  | "super_table" =>
    let (r, l) := importBatchedStream s
    pure (resultDoc BatchedTable.summary r, l)
  | "super_array" =>
    let (r, l) := importChunkedStream s
    pure (resultDoc ChunkedSeries.summary r, l)
  | other => throw ("unknown read mode '" ++ other ++ "'")

/-- Builds or scripts a stream and consumes it. -/
def streamRead (req : Doc) : Decode Doc := do
  let source ← req.need "source"
  let built ← ArrayStream.ofSource source
  let mode ← req.getD "mode" Doc.toStr "reader"
  let take ← req.get? "take" Doc.toNat
  match built with
  | .error f => pure f.toDoc
  | .ok s =>
    let (result, l) ← readStream mode take s
    let releases := if source.has "foreign" then l.total.members else []
    pure (.obj ([("result", result)] ++ releases))

end Request

end Columnar
