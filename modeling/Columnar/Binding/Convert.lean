import Columnar.Binding.Protocol

/-!
# Converting session objects into columns and tables

The binding turns a session object into a library value along fixed paths:

* a column (`arrayOf`): through `__arrow_c_array__`, else through `_export_to_c`;
* a record batch (`batchOf`): through `__arrow_c_array__` as a struct column, else through
  `__arrow_c_stream__` (no batch gives an empty table, two or more are refused), else
  through `_export_to_c` as a struct column;
* a batched table (`tableOf`): through `__arrow_c_stream__`, else from `to_batches()`;
* a chunked series (`chunkedOf`): through `__arrow_c_stream__`, else from `.chunks`.

Descriptors are moved out of capsules, which keep released ones. The binding then owns
them: an imported schema is released at once, and an imported array once nothing keeps
its memory. A converted value carries what its memory owes (`Kept.owed`); a value dropped
on the way, because a later step failed, settles it.
-/

namespace Columnar

/-- A converted value with what its memory owes. -/
structure Kept (α : Type) where
  value : α
  owed : Ledger := {}

/-- The released descriptor a capsule keeps after its descriptor was moved out. -/
def Payload.emptied : Payload → Payload
  | .schema _ => .schema SchemaNode.vacant
  | .array _ => .array ArrayNode.ended
  | .stream _ => .stream ArrayStream.empty

/-- Some chunk keeps imported memory. -/
def ChunkedSeries.keepsMemory (a : ChunkedSeries) : Bool :=
  Column.sharesAny a.chunks

/-- Some column of the table keeps imported memory. -/
def Table.keepsMemory (t : Table) : Bool :=
  Column.sharesAny (t.columns.map (·.column))

/-- Some batch keeps imported memory. -/
def BatchedTable.keepsMemory (b : BatchedTable) : Bool :=
  b.batches.any Table.keepsMemory

namespace Host

variable {O : Type} [World O]

/-- Moves the descriptor out of a capsule read under the name of a kind, with what its
memory owes. -/
def takeFrom (v : HostValue) (k : CapsuleKind) : Host O (Payload × Ledger) := do
  let (id, c) ← capsuleNamed v k.name
  store id (.capsule { c with payload := c.payload.emptied, owed := {} })
  pure (c.payload, c.owed)

/-- Drops a converted value: what its memory owes is settled. -/
def discard {α : Type} (k : Kept α) : Host O Unit :=
  settle k.owed

/-- A converted value that keeps imported memory keeps its debts; otherwise they are
settled now. -/
def keepIf {α : Type} (keeps : Bool) (a : α) (owed : Ledger) : Host O (Kept α) := do
  if keeps then pure ⟨a, owed⟩
  else
    settle owed
    pure ⟨a, {}⟩

/-- Imports a series from a schema and an array the binding owns. -/
def adoptSeries (a : ArrayNode) (aOwed : Ledger) (s : SchemaNode) (sOwed : Ledger) :
    Host O (Kept Series) := do
  settle ((Ledger.schema {} s).merge sOwed)
  let owed := (Ledger.array {} a).merge aOwed
  match a.importSeries s with
  | .ok x => keepIf x.column.sharesForeign x owed
  | .error e =>
    settle owed
    refuse e

/-- Calls `__arrow_c_array__` and moves the schema and the array out of the capsules.
When the array cannot be taken, the schema already taken is released. -/
def pairOf (v : HostValue) : Host O ((SchemaNode × Ledger) × (ArrayNode × Ledger)) := do
  match ← cArray v [] with
  | .tuple [s, a] =>
    let (sp, sOwed) ← takeFrom s .schema
    let schema := match sp with
      | .schema n => n
      | _ => { (default : SchemaNode) with released := true }
    let (ap, aOwed) ← tryCatch (takeFrom a .array) fun e => do
      settle ((Ledger.schema {} schema).merge sOwed)
      throw e
    let array := match ap with
      | .array n => n
      | _ => ArrayNode.ended
    pure ((schema, sOwed), (array, aOwed))
  | _ => protocol "__arrow_c_array__ must return a (schema, array) tuple"

/-- Imports a column through `_export_to_c`. -/
def legacyOf (v : HostValue) : Host O (Kept Series) := do
  let (a, s) ← exportToC v
  adoptSeries a {} s {}

/-- Converts an object into a column. -/
def arrayOf (v : HostValue) : Host O (Kept Series) := do
  if ← hasAttr v "__arrow_c_array__" then
    let ((s, sOwed), (a, aOwed)) ← pairOf v
    adoptSeries a aOwed s sOwed
  else legacyOf v

/-- The table of a struct column; any other column is refused. -/
def structTable (k : Kept Series) : Host O (Kept Table) := do
  match k.value.column with
  | .struct _ _ _ _ =>
    match Table.ofStruct k.value.field.name k.value.column k.value.field.metadata with
    | .ok t => pure ⟨t, k.owed⟩
    | .error e =>
      discard k
      refuse e
  | _ =>
    discard k
    protocol ("expected a struct array for a record batch, found " ++ k.value.field.type.display)

/-- Calls `__arrow_c_stream__` and moves the stream out of the capsule. -/
def streamOf (v : HostValue) : Host O (ArrayStream × Ledger) := do
  let (p, owed) ← takeFrom (← cStream v []) .stream
  match p with
  | .stream s => pure (s, owed)
  | _ => pure (ArrayStream.empty, owed)

/-- Settles what a read of a stream released, and gives what its values owe: the debts of
the batches kept, and those of the stream's own memory. -/
def afterRead (l : Leftover) (streamOwed : Ledger) : Host O Ledger := do
  settle (l.stream.ledger.merge l.released)
  pure (l.kept.merge streamOwed)

/-- Reads a value from a stream: settles what the read released, and keeps the debts of
what the value keeps; a failed read settles everything. -/
def readWith {α : Type} (read : ArrayStream → Except Error α × Leftover) (keeps : α → Bool)
    (v : HostValue) : Host O (Kept α) := do
  let (s, streamOwed) ← streamOf v
  let (result, l) := read s
  let owed ← afterRead l streamOwed
  match result with
  | .ok a => keepIf (keeps a) a owed
  | .error e =>
    settle owed
    refuse e

/-- Converts an object into a record batch. -/
def batchOf (v : HostValue) : Host O (Kept Table) := do
  if ← hasAttr v "__arrow_c_array__" then
    let ((s, sOwed), (a, aOwed)) ← pairOf v
    structTable (← adoptSeries a aOwed s sOwed)
  else if ← hasAttr v "__arrow_c_stream__" then
    let k ← readWith importTableStream (·.any Table.keepsMemory) v
    match k.value with
    | [] =>
      discard k
      pure ⟨Table.empty, {}⟩
    | [t] => pure ⟨t, k.owed⟩
    | ts =>
      discard k
      protocol ("expected one record batch, the stream held " ++ toString ts.length)
  else structTable (← legacyOf v)

/-- The items of a sequence the host hands over. -/
def items (v : HostValue) : Host O (List HostValue) := do
  match v with
  | .list xs => pure xs
  | .tuple xs => pure xs
  | .str _ => raise "TypeError" "Can't extract `str` to `Vec`"
  | other =>
    raise "TypeError" ("'" ++ (← className other) ++ "' object cannot be converted to 'Sequence'")

/-- Converts every item in order; when one fails, those converted before it are
dropped. -/
def convertAll {α : Type} (f : HostValue → Host O (Kept α)) :
    List HostValue → Host O (List (Kept α))
  | [] => pure []
  | v :: vs => do
    let k ← f v
    let rest ← tryCatch (convertAll f vs) fun e => do
      discard k
      throw e
    pure (k :: rest)

/-- The debts of converted values together. -/
def owedOf {α : Type} (ks : List (Kept α)) : Ledger :=
  ks.foldl (fun l k => l.merge k.owed) {}

/-- Converts an object into a batched table. -/
def tableOf (v : HostValue) : Host O (Kept BatchedTable) := do
  if ← hasAttr v "__arrow_c_stream__" then
    readWith importBatchedStream BatchedTable.keepsMemory v
  else
    let batches ← convertAll batchOf (← items (← toBatches v))
    let owed := owedOf batches
    match batches with
    | [] => pure ⟨BatchedTable.empty, {}⟩
    | _ =>
      match BatchedTable.ofFirstBatch (batches.map (·.value)) with
      | .ok b => pure ⟨b, owed⟩
      | .error e =>
        settle owed
        refuse e

/-- Converts an object into a chunked series. -/
def chunkedOf (v : HostValue) : Host O (Kept ChunkedSeries) := do
  if ← hasAttr v "__arrow_c_stream__" then
    readWith importChunkedStream ChunkedSeries.keepsMemory v
  else
    let chunks ← convertAll arrayOf (← items (← chunksOf v))
    let owed := owedOf chunks
    match ChunkedSeries.ofSeries (chunks.map (·.value)) with
    | .ok a => pure ⟨a, owed⟩
    | .error e =>
      settle owed
      refuse e

end Host

end Columnar
