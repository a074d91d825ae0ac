import Columnar.Stream.Move

/-!
# Capsules

A capsule owns one descriptor under the capability name a consumer recognises it by:
`arrow_schema` for a schema, `arrow_array` for an array and `arrow_array_stream` for a
stream. Taking the payload moves it to the caller and leaves the capsule consumed; a second
take is refused, and so is a take under another name. A capsule let go while it still holds
its payload releases it.

A capsule can also hand its payload over as a raw pointer with its name, and a payload can
be wrapped again under a name; an unknown name is refused, and the payload is then lost
without a release.
-/

namespace Columnar

/-- The kinds of capsule. -/
inductive CapsuleKind where
  | schema
  | array
  | stream
  deriving DecidableEq, Repr, Inhabited

namespace CapsuleKind

/-- The capability name of the kind. -/
def name : CapsuleKind → String
  | .schema => "arrow_schema"
  | .array => "arrow_array"
  | .stream => "arrow_array_stream"

/-- The kind a capability name stands for. -/
def ofName? : String → Option CapsuleKind
  | "arrow_schema" => some .schema
  | "arrow_array" => some .array
  | "arrow_array_stream" => some .stream
  | _ => none

end CapsuleKind

/-- A descriptor a capsule holds. -/
inductive Payload where
  | schema (s : SchemaNode)
  | array (a : ArrayNode)
  | stream (s : ArrayStream)
  deriving Inhabited

namespace Payload

/-- The kind of capsule that holds the payload. -/
def kind : Payload → CapsuleKind
  | .schema _ => .schema
  | .array _ => .array
  | .stream _ => .stream

/-- The ledger after the payload is released. A stream's release also releases what it
still holds, and its own counts join the ledger. -/
def release (l : Ledger) : Payload → Ledger
  | .schema s => l.schema s
  | .array a => l.array a
  | .stream s => l.merge s.release.ledger

end Payload

/-- A named owner of one descriptor; `payload` is empty once taken. -/
structure Capsule where
  kind : CapsuleKind
  payload : Option Payload
  deriving Inhabited

namespace Capsule

/-- The capsule holding a payload. -/
def wrap (p : Payload) : Capsule :=
  ⟨p.kind, some p⟩

/-- The capability name. -/
def name (c : Capsule) : String :=
  c.kind.name

/-- The payload was taken. -/
def isConsumed (c : Capsule) : Bool :=
  c.payload.isNone

/-- Checks that the capsule has the expected kind and still holds its payload. -/
def expect (c : Capsule) (k : CapsuleKind) : Except Error Unit :=
  if c.kind ≠ k then .error (.wrongCapsule k.name c.kind.name)
  else if c.payload.isNone then .error (.consumed k.name)
  else .ok ()

/-- Reads the schema without taking it. -/
def schema? (c : Capsule) : Except Error SchemaNode := do
  c.expect .schema
  match c.payload with
  | some (.schema s) => pure s
  | _ => throw (.consumed "arrow_schema")

/-- Takes the payload of the expected kind; the capsule is then consumed. -/
def take (c : Capsule) (k : CapsuleKind) : Except Error (Payload × Capsule) := do
  c.expect k
  match c.payload with
  | some p =>
    if p.kind = k then pure (p, { c with payload := none }) else throw (.consumed k.name)
  | none => throw (.consumed k.name)

/-- Takes the schema. -/
def takeSchema (c : Capsule) : Except Error (SchemaNode × Capsule) := do
  match ← c.take .schema with
  | (.schema s, c) => pure (s, c)
  | _ => throw (.consumed "arrow_schema")

/-- Takes the array. -/
def takeArray (c : Capsule) : Except Error (ArrayNode × Capsule) := do
  match ← c.take .array with
  | (.array a, c) => pure (a, c)
  | _ => throw (.consumed "arrow_array")

/-- Takes the stream. -/
def takeStream (c : Capsule) : Except Error (ArrayStream × Capsule) := do
  match ← c.take .stream with
  | (.stream s, c) => pure (s, c)
  | _ => throw (.consumed "arrow_array_stream")

/-- The ledger after the capsule is let go: a payload still held is released. -/
def drop (l : Ledger) (c : Capsule) : Ledger :=
  match c.payload with
  | some p => p.release l
  | none => l

/-- Hands the payload over with the capsule's kind. -/
def intoRaw (c : Capsule) : Except Error (CapsuleKind × Payload) :=
  match c.payload with
  | some p => .ok (c.kind, p)
  | none => .error (.consumed c.kind.name)

/-- Wraps a payload again under a capability name. -/
def ofRaw (name : String) (p : Payload) : Except Error Capsule :=
  match CapsuleKind.ofName? name with
  | some k => .ok ⟨k, some p⟩
  | none => .error (.schema ("unknown capsule name '" ++ name ++ "'"))

end Capsule

/-- Imports a series from a schema capsule and an array capsule. Both capsules are let go
afterwards, releasing what they still hold; the import releases the schema and, once the
series is let go, the array. -/
def importCapsulePair (schema array : Capsule) : Except Error Series × Ledger :=
  match schema.takeSchema with
  | .error e => (.error e, Capsule.drop (Capsule.drop {} schema) array)
  | .ok (s, schema) =>
    let held := Capsule.drop (Ledger.schema {} s) schema
    match array.takeArray with
    | .error e => (.error e, Capsule.drop held array)
    | .ok (a, array) => (a.importSeries s, Capsule.drop (held.array a) array)

/-- Opens a reader on a stream capsule; the capsule is let go afterwards. A failure comes
with what is left of the stream. -/
def importStreamCapsule (c : Capsule) : Except (Error × Ledger) StreamReader :=
  match c.takeStream with
  | .error e => .error (e, Capsule.drop {} c)
  | .ok (s, _) =>
    match StreamReader.start s with
    | .error (e, l) => .error (e, l.total)
    | .ok r => .ok r

end Columnar
