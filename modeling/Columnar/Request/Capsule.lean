import Columnar.Capsule.Handle
import Columnar.Request.Stream

/-!
# Requests that drive capsules

A `capsule` request builds a source, makes an array handle (for a series or a table) and a
stream handle of it, and runs operations on capsules kept in named slots. A capsule put
into a slot lets the one there go; every capsule still in a slot is let go at the end. A
pair import takes the capsules of both the `schema` and the `array` slot, and lets go the
one it took when the other slot is empty. The answer lists each operation's answer and how many releases the foreign descriptors the
operations made saw.

A requested schema is given as a type (exported as a nullable field named `requested`), a
foreign schema, an array capsule (`wrong_kind`), or a schema capsule already taken
(`consumed`); it is let go after the operation.
-/

namespace Columnar

/-- The state capsule operations work on. -/
structure CapsuleSession where
  arrays : Option ArrayHandle
  streams : StreamHandle
  slots : List (String × Capsule)
  ledger : Ledger
  deriving Inhabited

namespace CapsuleSession

/-- The capsule in a slot. -/
def slot? (s : CapsuleSession) (name : String) : Option Capsule :=
  (s.slots.find? (·.1 == name)).map (·.2)

/-- Empties a slot, without letting its capsule go. -/
def vacate (s : CapsuleSession) (name : String) : CapsuleSession :=
  { s with slots := s.slots.filter (·.1 != name) }

/-- Puts a capsule into a slot, letting the one there go. -/
def put (s : CapsuleSession) (name : String) (c : Capsule) : CapsuleSession :=
  let ledger := match s.slot? name with
    | some old => Capsule.drop s.ledger old
    | none => s.ledger
  { s with slots := (s.slots.filter (·.1 != name)) ++ [(name, c)], ledger := ledger }

/-- Puts back the capsule of a slot after its payload was taken. -/
def restore (s : CapsuleSession) (name : String) (c : Capsule) : CapsuleSession :=
  { s with slots := s.slots.map fun (n, old) => (n, if n == name then c else old) }

/-- Lets a capsule go. -/
def dropCapsule (s : CapsuleSession) (c : Capsule) : CapsuleSession :=
  { s with ledger := Capsule.drop s.ledger c }

/-- Adds the releases of a ledger. -/
def record (s : CapsuleSession) (l : Ledger) : CapsuleSession :=
  { s with ledger := s.ledger.merge l }

/-- Lets every capsule in the slots go. -/
def close (s : CapsuleSession) : CapsuleSession :=
  { s with slots := [], ledger := s.slots.foldl (fun l (_, c) => Capsule.drop l c) s.ledger }

end CapsuleSession

namespace Request

/-- Reads a requested schema. -/
def requestedOfDoc (d : Doc) : Decode Capsule := do
  if let some t := d.member? "type" then
    match SchemaNode.ofType (← DataType.ofDoc t) "requested" true .empty with
    | .ok node => pure (Capsule.wrap (.schema node))
    | .error e => throw ("requested type has no schema: " ++ e.message)
  else if let some f := d.member? "foreign" then
    pure (Capsule.wrap (.schema (← SchemaNode.ofDoc f)))
  else if d.has "wrong_kind" then
    pure (Capsule.wrap (.array ArrayNode.ended))
  else pure ⟨.schema, none⟩

/-- The answer of a taken array descriptor. -/
def takenArrayDoc (a : ArrayNode) : Doc :=
  .obj [("length", .int a.length), ("null_count", .int a.nullCount), ("offset", .int a.offset),
    ("n_buffers", .int a.nBuffers), ("n_children", .int a.nChildren),
    ("released", .bool a.released)]

/-- The answer of a taken schema descriptor: its dump and its import. -/
def takenSchemaDoc (s : SchemaNode) : Doc :=
  .obj [("schema", s.dump), ("field", resultDoc Field.toDoc s.toField)]

/-- An export's answer: success, or the error, with whether the handle is consumed. -/
def exportedDoc (result : Except Error Unit) (consumed : Bool) : Doc :=
  match result with
  | .ok () => .obj [("ok", .bool true), ("handle_consumed", .bool consumed)]
  | .error e => .obj [("error", .str e.kind), ("message", .str e.message),
      ("handle_consumed", .bool consumed)]

/-- The answer to an operation on an empty slot. -/
def emptySlot : Doc := .obj [("empty_slot", .bool true)]

/-- Takes the payload of a capsule in a slot and answers it; the taken descriptor is then
released. -/
def takeFrom (s : CapsuleSession) (name : String) (c : Capsule) (as : String) :
    Decode (Doc × CapsuleSession) :=
  match as with
  | "schema" =>
    match c.takeSchema with
    | .ok (n, c) => pure (takenSchemaDoc n, (s.restore name c).record (Ledger.schema {} n))
    | .error e => pure (e.toDoc, s)
  | "array" =>
    match c.takeArray with
    | .ok (a, c) => pure (takenArrayDoc a, (s.restore name c).record (Ledger.array {} a))
    | .error e => pure (e.toDoc, s)
  | "stream" =>
    match c.takeStream with
    | .ok (st, c) =>
      let (answer, l) := readerAnswer st none
      pure (answer, (s.restore name c).record l.total)
    | .error e => pure (e.toDoc, s)
  | other => throw ("unknown descriptor kind '" ++ other ++ "'")

/-- Runs one capsule operation. -/
def capsuleOp (s : CapsuleSession) (op : Doc) : Decode (Doc × CapsuleSession) := do
  let slot ← op.getD "slot" Doc.toStr ""
  let requested ← op.get? "requested" requestedOfDoc
  let letGo (s : CapsuleSession) : CapsuleSession := match requested with
    | some c => s.dropCapsule c
    | none => s
  match ← op.get "op" Doc.toStr with
  | "c_array" =>
    match s.arrays with
    | none => throw "the source has no array export"
    | some h =>
      let (result, h) := h.export? requested
      let s := { s with arrays := some h }
      match result with
      | .ok (schema, array) =>
        pure (exportedDoc (.ok ()) h.isConsumed, letGo ((s.put "schema" schema).put "array" array))
      | .error e => pure (exportedDoc (.error e) h.isConsumed, letGo s)
  | "c_stream" =>
    let (result, h) := s.streams.export? requested
    let s := { s with streams := h }
    match result with
    | .ok c => pure (exportedDoc (.ok ()) h.isConsumed, letGo (s.put "stream" c))
    | .error e => pure (exportedDoc (.error e) h.isConsumed, letGo s)
  | "import_pair" =>
    let emptied := (s.vacate "schema").vacate "array"
    match s.slot? "schema", s.slot? "array" with
    | some schema, some array =>
      let (result, released) := importCapsulePair schema array
      pure (resultDoc Series.summary result, emptied.record released)
    | schema, array =>
      let dropIf (s : CapsuleSession) : Option Capsule → CapsuleSession
        | some c => s.dropCapsule c
        | none => s
      pure (emptySlot, dropIf (dropIf emptied schema) array)
  | "import_stream" =>
    match s.slot? "stream" with
    | none => pure (emptySlot, s)
    | some c =>
      let s := s.vacate "stream"
      match c.takeStream with
      | .error e => pure (e.toDoc, s.dropCapsule c)
      | .ok (st, _) =>
        let (answer, l) := readerAnswer st none
        pure (answer, s.record l.total)
  | "wrap_array" =>
    let a ← op.get "array" ArrayNode.ofDoc
    pure (.obj [("ok", .bool true)], s.put slot (Capsule.wrap (.array a)))
  | "wrap_schema" =>
    let n ← op.get "schema" SchemaNode.ofDoc
    pure (.obj [("ok", .bool true)], s.put slot (Capsule.wrap (.schema n)))
  | name =>
    match s.slot? slot with
    | none => pure (emptySlot, s)
    | some c =>
      match name with
      | "take" => takeFrom s slot c (← op.getD "as" Doc.toStr "schema")
      | "consumed" => pure (.bool c.isConsumed, s)
      | "name" => pure (.str c.name, s)
      | "borrow_schema" =>
        pure (resultDoc Field.toDoc (do (← c.schema?).toField), s)
      | "raw" =>
        let s := s.vacate slot
        match c.intoRaw with
        | .error e => pure (e.toDoc, s)
        | .ok (kind, payload) =>
          match Capsule.ofRaw (← op.getD "name" Doc.toStr kind.name) payload with
          | .error e => pure (e.toDoc, s)
          | .ok c => pure (.obj [("name", .str c.name)], s.put slot c)
      | "drop" => pure (.obj [("dropped", .bool true)], (s.vacate slot).dropCapsule c)
      | other => throw ("unknown capsule op '" ++ other ++ "'")

/-- Runs capsule operations in order. -/
def capsuleOps (s : CapsuleSession) : List Doc → Decode (List Doc × CapsuleSession)
  | [] => pure ([], s)
  | op :: ops => do
    let (answer, s) ← capsuleOp s op
    let (rest, s) ← capsuleOps s ops
    pure (answer :: rest, s)

/-- Builds the handles a capsule source names. -/
def handlesOfDoc (d : Doc) : Decode (Outcome (Option ArrayHandle × StreamHandle)) := do
  match d.member? "field_array", d.member? "table", d.member? "super_table" with
  | some f, _, _ =>
    let built ← Series.ofSpec f
    pure (do let s ← built; pure (some ⟨some (.series s)⟩, ⟨some (.series s)⟩))
  | none, some t, _ =>
    let built ← Table.ofSpec t
    pure (do let t ← built; pure (some ⟨some (.table t)⟩, ⟨some (.table t)⟩))
  | none, none, some b =>
    let built ← BatchedTable.ofSpec b
    pure (do pure (none, ⟨some (.batched (← built))⟩))
  | none, none, none =>
    let built ← ChunkedSeries.ofSpec (← d.need "super_array")
    pure (do pure (none, ⟨some (.chunked (← built))⟩))

/-- Runs a capsule request. -/
def capsule (req : Doc) : Decode Doc := do
  let built ← handlesOfDoc (← req.need "source")
  let ops ← req.getD "ops" Doc.toList []
  match built with
  | .error f => pure f.toDoc
  | .ok (arrays, streams) =>
    let (answers, s) ← capsuleOps ⟨arrays, streams, [], {}⟩ ops
    let l := s.close.ledger
    pure (.obj [("results", .arr answers),
      ("foreign_releases", .nat (l.arrays + l.schemas + l.streams))])

end Request

end Columnar
