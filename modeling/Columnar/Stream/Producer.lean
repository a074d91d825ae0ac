import Columnar.Column.Chunked
import Columnar.Descriptor.Ownership

/-!
# Stream producers

An exported array stream hands out a fixed schema and a sequence of batches. Its state is a
small machine:

* `ready source position`: the source of the batches still to come, and the position of
  the next;
* `exhausted`: the end was reached, and every later `get_next` signals the end again;
* `failed e`: a batch failed, and every later `get_next` or `get_schema` reports `e` again.

The source is any iterator: a state and a `pull` that yields the next batch and the state
after it, or nothing at the end. It is pulled once per `get_next` while the stream is ready,
and never again once the stream has ended or failed; a finite list of batches is one such
source, and so is one that never ends.

A batch is a column or a refusal. A refusal becomes a stream error naming its position. A
column must have the stream field's type, may hold nulls only if the field is nullable,
and must be exportable; any of these failures fails the stream.

Each reported failure also becomes the text `get_last_error` answers, with NUL characters
replaced by blanks. Releasing the stream drops its state: later calls answer `EINVAL` and
`get_last_error` answers nothing.
-/

namespace Columnar

/-- A status code of the stream interface: 0 for success, an error number otherwise. -/
abbrev Reply (α : Type) := Except Int α

/-- The array a producer writes to signal the end of the stream: one without a release
callback. -/
def ArrayNode.ended : ArrayNode :=
  { (default : ArrayNode) with released := true }

/-- Where a producer is in its batches, drawn from a source whose state is `σ`. -/
inductive Phase (σ : Type) where
  | ready (source : σ) (position : Nat)
  | exhausted
  | failed (e : Error)
  deriving Inhabited

/-- The private state of an exported stream whose batches come from a source of state `σ`. -/
structure Producer (σ : Type) where
  field : Field
  /-- The next batch and the source after it, or nothing at the end of the source. -/
  pull : σ → Option (Except Error Column × σ)
  phase : Phase σ
  lastError : Option String
  /-- The state is still held: the stream was not released. -/
  live : Bool := true
  deriving Inhabited

namespace Producer

variable {σ : Type}

/-- The error number of invalid arguments. -/
def einval : Int := 22

/-- Records an error for `get_last_error` and gives its code. -/
def report (p : Producer σ) (e : Error) : Int × Producer σ :=
  (e.errno, { p with lastError := some (e.message.map fun c => if c = '\x00' then ' ' else c) })

/-- Records an error and fails the stream for good. -/
def fail (p : Producer σ) (e : Error) : Int × Producer σ :=
  let (code, p) := p.report e
  (code, { p with phase := .failed e })

/-- Checks a batch against the stream field: its type, then its nulls. -/
def checkBatch (field : Field) (c : Column) : Except Error Unit :=
  if !(c.type == field.type) then
    .error (.schema ("stream '" ++ field.name ++ "' declares " ++ field.type.display ++
      " but a batch is " ++ c.type.display))
  else if field.nullable ∨ c.nullCount = 0 then .ok ()
  else .error (.schema ("stream '" ++ field.name ++ "' is not nullable but a batch holds " ++
    toString c.nullCount ++ " nulls"))

/-- The batch at a position, checked and exported. -/
def exportBatch (field : Field) (position : Nat) (item : Except Error Column) :
    Except Error ArrayNode := do
  let c ← match item with
    | .ok c => pure c
    | .error e => throw (.stream ("batch " ++ toString position ++ ": " ++ e.message))
  checkBatch field c
  c.toDescriptor

/-- The `get_schema` callback. -/
def getSchema (p : Producer σ) : Reply SchemaNode × Producer σ :=
  if !p.live then (.error einval, p) else
  match p.phase with
  | .failed e =>
    let (code, p) := p.report e
    (.error code, p)
  | _ =>
    match SchemaNode.ofField p.field with
    | .ok s => (.ok s, p)
    | .error e =>
      let (code, p) := p.report e
      (.error code, p)

/-- The `get_next` callback. -/
def getNext (p : Producer σ) : Reply ArrayNode × Producer σ :=
  if !p.live then (.error einval, p) else
  match p.phase with
  | .exhausted => (.ok ArrayNode.ended, p)
  | .failed e =>
    let (code, p) := p.report e
    (.error code, p)
  | .ready source position =>
    match p.pull source with
    | none => (.ok ArrayNode.ended, { p with phase := .exhausted })
    | some (item, rest) =>
      let p := { p with phase := .ready rest (position + 1) }
      match exportBatch p.field position item with
      | .ok a => (.ok a, p)
      | .error e =>
        let (code, p) := p.fail e
        (.error code, p)

/-- A callback called without a place to write its result. -/
def nullOut (p : Producer σ) (what : String) : Int × Producer σ :=
  if p.live then p.report (.nullPointer what) else (einval, p)

/-- The `get_last_error` callback. -/
def lastErrorText (p : Producer σ) : Option String :=
  if p.live then p.lastError else none

/-- The `release` callback: the state is dropped. -/
def release (p : Producer σ) : Producer σ :=
  { p with live := false, phase := .exhausted, lastError := none }

end Producer

/-- Exports the batches a source yields as a stream under a field; the field must have a
schema encoding. -/
def exportSource {σ : Type} (field : Field) (pull : σ → Option (Except Error Column × σ))
    (source : σ) : Except Error (Producer σ) := do
  let _ ← SchemaNode.ofField field
  pure ⟨field, pull, .ready source 0, none, true⟩

/-- A list of batches, the source of the library's own streams. -/
abbrev BatchList := List (Except Error Column)

/-- The first of a list of batches and the rest, as a source yields them. -/
def BatchList.pull : BatchList → Option (Except Error Column × BatchList)
  | [] => none
  | b :: rest => some (b, rest)

/-- Exports a list of batches as a stream under a field. -/
def exportStream (field : Field) (batches : BatchList) : Except Error (Producer BatchList) :=
  exportSource field BatchList.pull batches

/-- The struct column of a table's columns under fields, checked. -/
def batchColumn (fields : List Field) (t : Table) : Except Error Column :=
  Column.structOfLen fields (t.columns.map (·.column)) none t.rows

/-- Exports tables as a stream of struct batches under a schema's root field. -/
def exportTables (name : String) (schema : Schema) (tables : List Table) :
    Except Error (Producer BatchList) :=
  exportStream (schema.rootField name) (tables.map (batchColumn schema.fields))

/-- Exports each batch of a batched table, under a root field named after it. -/
def BatchedTable.toStream (b : BatchedTable) : Except Error (Producer BatchList) :=
  exportTables b.name b.schema b.batches

/-- Exports each chunk of a chunked series as one batch, under its field. -/
def ChunkedSeries.toStream (a : ChunkedSeries) : Except Error (Producer BatchList) :=
  exportStream a.field (a.chunks.map .ok)

end Columnar
