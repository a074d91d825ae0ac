import Columnar.Stream.Script
import Columnar.Descriptor.Owner

/-!
# Array streams and the stream reader

An `ArrayStream` is a stream of the C stream interface as a consumer sees it: an exported
producer of this library, or a scripted foreign stream. Its callbacks answer a status code
and, on success, a schema or an array; an array without a release callback signals the end.

`StreamReader` consumes a stream. Opening it reads the schema, imports it as the stream
field and releases it; each `next` imports one batch under the field's type. The reader
releases the stream exactly once: at the end, at the first error, when it is closed, or
when it is let go. Opening a stream that fails releases it before the error is returned.

The reader owns what the stream hands over. Each batch is imported as `ArrayNode.typedRun`
does, and the reader keeps what holds each imported batch at the import's return (`batches`).
It counts in `released` the foreign releases it has made (the schema, and each batch whose
array the import released at return), and in `kept` those the imported batches owe: their
arrays are released when the batches are let go. It also counts the `get_next` calls it made
(`asked`), as a record of how far it read the stream.
-/

namespace Columnar

/-- A stream as its consumer sees it. -/
inductive ArrayStream where
  | exported (p : Producer BatchList)
  | scripted (s : ScriptedStream)
  deriving Inhabited

namespace ArrayStream

/-- The `get_schema` callback, or `none` when the stream has none. -/
def getSchema? : ArrayStream → Option (Reply SchemaNode × ArrayStream)
  | .exported p => let (r, p) := p.getSchema; some (r, .exported p)
  | .scripted s =>
    if s.hasGetSchema then let (r, s) := s.getSchema; some (r, .scripted s) else none

/-- The `get_next` callback, or `none` when the stream has none. -/
def getNext? : ArrayStream → Option (Reply ArrayNode × ArrayStream)
  | .exported p => let (r, p) := p.getNext; some (r, .exported p)
  | .scripted s =>
    if s.hasGetNext then let (r, s) := s.getNext; some (r, .scripted s) else none

/-- The `get_last_error` callback, or `none` when the stream has none. -/
def lastError? : ArrayStream → Option (Option String)
  | .exported p => some p.lastErrorText
  | .scripted s => if s.hasGetLastError then some s.lastErrorText else none

/-- The stream's release callback is gone. -/
def isReleased : ArrayStream → Bool
  | .exported p => !p.live
  | .scripted s => !s.live

/-- Runs the release callback, if there still is one. -/
def release : ArrayStream → ArrayStream
  | .exported p => .exported (if p.live then p.release else p)
  | .scripted s => .scripted s.release

/-- The releases of a scripted stream's descriptors so far. -/
def ledger : ArrayStream → Ledger
  | .exported _ => {}
  | .scripted s => s.ledger

/-- The stream with its ledger emptied, once its counts were taken elsewhere. -/
def clearLedger : ArrayStream → ArrayStream
  | .exported p => .exported p
  | .scripted s => .scripted { s with ledger := {} }

/-- How many more `get_next` calls a reader of the whole stream makes at most: an exported
stream has its remaining batches, and a scripted one the steps whose arrays it already made;
a script that goes on past those is read no further. -/
def budget : ArrayStream → Nat
  | .exported p => match p.phase with
    | .ready pending _ => pending.length + 1
    | _ => 1
  | .scripted s => s.made + 1

/-- The text of the stream's last error, as a consumer quotes it. -/
def errorText (s : ArrayStream) : String :=
  match s.lastError? with
  | some (some t) => t
  | _ => "no error message"

end ArrayStream

/-- What a consumer leaves of a stream: the stream, the foreign releases the consumer made,
those the values it returned still owe, what holds each batch it imported, and the number of
`get_next` calls it made. -/
structure Leftover where
  stream : ArrayStream
  released : Ledger := {}
  kept : Ledger := {}
  batches : List Holders := []
  asked : Nat := 0
  deriving Inhabited

/-- Every release, once the values returned are let go too. -/
def Leftover.total (l : Leftover) : Ledger :=
  (l.stream.ledger.merge l.released).merge l.kept

/-- A consumer of a stream, after its schema was read. -/
structure StreamReader where
  stream : ArrayStream
  field : Field
  done : Bool := false
  released : Ledger := {}
  kept : Ledger := {}
  /-- What holds each batch imported so far, at the import's return. -/
  batches : List Holders := []
  /-- The `get_next` calls made so far. -/
  asked : Nat := 0
  deriving Inhabited

namespace StreamReader

/-- What the reader leaves. -/
def leftover (r : StreamReader) : Leftover :=
  ⟨r.stream, r.released, r.kept, r.batches, r.asked⟩

/-- Opens a stream: reads and imports its schema, which is then released. A failure
releases the stream and comes with what is left of it. -/
def start (s : ArrayStream) : Except (Error × Leftover) StreamReader :=
  if s.isReleased then .error (.stream "stream has already been released", { stream := s }) else
  match s.getSchema? with
  | none => .error (.nullPointer "ArrowArrayStream.get_schema", { stream := s.release })
  | some (.error code, s) =>
    .error (.stream ("get_schema failed (" ++ toString code ++ "): " ++ s.errorText),
      { stream := s.release })
  | some (.ok node, s) =>
    let released := Ledger.schema {} node
    match node.toField with
    | .ok f => .ok { stream := s, field := f, released := released }
    | .error e => .error (e, { stream := s.release, released := released })

/-- Releases the stream now; later calls do nothing. -/
def close (r : StreamReader) : StreamReader :=
  if r.done then r else { r with done := true, stream := r.stream.release }

/-- Imports a batch the stream handed over. Its array is released at the import's return
when the import fails or reads none of its buffers in place, and otherwise when the last
holder of such a buffer goes. -/
def importBatch (r : StreamReader) (a : ArrayNode) : Except Error Column × StreamReader :=
  let run := a.typedRun r.field.type
  let r := { r with batches := r.batches ++ [run.holders] }
  if run.holders.owner.root.releases = 0 then (run.result, { r with kept := r.kept.array a })
  else (run.result, { r with released := r.released.array a })

/-- Asks the stream for its next batch: an imported column, the end, or an error. -/
def pull (r : StreamReader) : Except Error (Option Column) × StreamReader :=
  match r.stream.getNext? with
  | none => (.error (.nullPointer "ArrowArrayStream.get_next"), r)
  | some (.error code, s) =>
    (.error (.stream ("get_next failed (" ++ toString code ++ "): " ++ s.errorText)),
      { r with stream := s, asked := r.asked + 1 })
  | some (.ok a, s) =>
    let r := { r with stream := s, asked := r.asked + 1 }
    if a.released then (.ok none, r)
    else
      let (c, r) := r.importBatch a
      (c.map some, r)

/-- The next batch, or `none` after the end; the end and the first error close the
reader. -/
def next (r : StreamReader) : Option (Except Error Column) × StreamReader :=
  if r.done then (none, r) else
  match r.pull with
  | (.ok (some c), r) => (some (.ok c), r)
  | (.ok none, r) => (none, r.close)
  | (.error e, r) => (some (.error e), r.close)

/-- Reads batches until the end, or until `limit` batches were read, in which case the
reader is closed early; with `fuel` reads at most. Also says whether it closed early. -/
def readUpTo : Nat → Option Nat → StreamReader →
    List (Except Error Column) × Bool × StreamReader
  | _, some 0, r => ([], true, r.close)
  | 0, _, r => ([], false, r)
  | fuel + 1, limit, r =>
    match r.next with
    | (none, r) => ([], false, r)
    | (some b, r) =>
      let (rest, early, r) := readUpTo fuel (limit.map (· - 1)) r
      (b :: rest, early, r)

/-- Reads batches up to `fuel`, stopping after the end. -/
def readFuel : Nat → StreamReader → List (Except Error Column) × StreamReader
  | 0, r => ([], r)
  | fuel + 1, r =>
    match r.next with
    | (none, r) => ([], r)
    | (some b, r) =>
      let (rest, r) := readFuel fuel r
      (b :: rest, r)

/-- Reads every batch to the end: the last one may be the error that ended the stream. The
reader is closed afterwards. -/
def readAll (r : StreamReader) : List (Except Error Column) × StreamReader :=
  let (batches, r) := readFuel (r.stream.budget + 1) r
  (batches, r.close)

/-- Reads batches until the first error, which is returned instead; the reader is closed
afterwards. -/
def collect (r : StreamReader) : Except Error (List Column) × StreamReader :=
  let (batches, r) := r.readAll
  (batches.mapM id, r)

end StreamReader

namespace StreamReader

/-- Reads record batches as tables until the end, with `fuel` reads at most. A batch that
fails, or that is not a record batch, is returned as the error at once: no later batch is
asked for. -/
def readTablesFuel (name : String) (metadata : Metadata) :
    Nat → StreamReader → Except Error (List Table) × StreamReader
  | 0, r => (.ok [], r)
  | fuel + 1, r =>
    match r.next with
    | (none, r) => (.ok [], r)
    | (some b, r) =>
      match b >>= fun c => Table.ofStruct name c metadata with
      | .error e => (.error e, r)
      | .ok t =>
        let (rest, r) := readTablesFuel name metadata fuel r
        (rest.map (t :: ·), r)

end StreamReader

/-- The record batches of a struct stream as tables, with the stream's batch name and
schema. The stream is released at the end or at the first failure, and the reader is let go
on return. -/
def readTables (s : ArrayStream) : Except Error (String × Schema × List Table) × Leftover :=
  match StreamReader.start s with
  | .error (e, l) => (.error e, l)
  | .ok r =>
    match Schema.ofRootField r.field.materialise with
    | .error e => (.error e, r.close.leftover)
    | .ok (name, schema) =>
      let (tables, r) := r.readTablesFuel name schema.metadata (r.stream.budget + 1)
      (tables.map fun ts => (name, schema, ts), r.close.leftover)

/-- Reads a record batch stream to the end, one table per batch. -/
def importTableStream (s : ArrayStream) : Except Error (List Table) × Leftover :=
  let (r, l) := readTables s
  (r.map fun (_, _, ts) => ts, l)

/-- Reads a record batch stream to the end as one batched table. -/
def importBatchedStream (s : ArrayStream) : Except Error BatchedTable × Leftover :=
  let (r, l) := readTables s
  (do let (name, schema, ts) ← r; BatchedTable.ofBatches name schema ts, l)

/-- Reads a stream to the end as one chunked series under its materialised field. -/
def importChunkedStream (s : ArrayStream) : Except Error ChunkedSeries × Leftover :=
  match StreamReader.start s with
  | .error (e, l) => (.error e, l)
  | .ok r =>
    let field := r.field.materialise
    let (chunks, r) := r.collect
    (do ChunkedSeries.ofChunks field (← chunks), r.leftover)

end Columnar
