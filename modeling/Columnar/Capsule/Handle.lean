import Columnar.Capsule.Basic

/-!
# Export handles

An export handle hands its source out once, as capsules: an array handle as a schema
capsule and an array capsule, a stream handle as one stream capsule. A failed export
leaves the handle as it was; a second export after a successful one is refused.

A consumer may pass a requested schema: a schema capsule that is read without being
taken. Its type must be the one exported, since casting is not supported.

Series and tables export as arrays; series, tables, batched tables and chunked series
export as streams. A series streams as one batch, a table as one struct batch under an
unnamed root, a batched table batch by batch and a chunked series chunk by chunk.
-/

namespace Columnar

/-- What an array handle exports. -/
inductive ArraySource where
  | series (s : Series)
  | table (t : Table)
  deriving Inhabited

/-- What a stream handle exports. -/
inductive StreamSource where
  | series (s : Series)
  | table (t : Table)
  | batched (b : BatchedTable)
  | chunked (a : ChunkedSeries)
  deriving Inhabited

/-- Checks a requested schema, if any, against the type to export. -/
def checkRequested (requested : Option Capsule) (actual : DataType) : Except Error Unit := do
  match requested with
  | none => pure ()
  | some c =>
    let f ← (← c.schema?).toField
    if !(f.type == actual) then
      throw (.schema ("requested schema " ++ f.type.display ++ " differs from " ++
        actual.display ++ ", casting is not supported"))

/-- The schema and array capsules of an export. -/
def capsulePair (exported : ArrayNode × SchemaNode) : Capsule × Capsule :=
  (Capsule.wrap (.schema exported.2), Capsule.wrap (.array exported.1))

namespace ArraySource

/-- Exports as a schema capsule and an array capsule. -/
def toCapsules (requested : Option Capsule) : ArraySource → Except Error (Capsule × Capsule)
  | .series s => do
    checkRequested requested s.field.type
    pure (capsulePair (← s.toDescriptors))
  | .table t => do
    checkRequested requested t.schema.structType
    pure (capsulePair (← t.toDescriptors))

end ArraySource

namespace StreamSource

/-- Exports as a stream capsule. -/
def toCapsule (requested : Option Capsule) (source : StreamSource) : Except Error Capsule := do
  let producer ← match source with
    | .series s => do
      checkRequested requested s.field.type
      exportStream s.field [.ok s.column]
    | .table t => do
      checkRequested requested t.schema.structType
      exportTables "" t.schema [t]
    | .batched b => do
      checkRequested requested b.schema.structType
      b.toStream
    | .chunked a => do
      checkRequested requested a.field.type
      a.toStream
  pure (Capsule.wrap (.stream (.exported producer)))

end StreamSource

/-- A single-use array export. -/
structure ArrayHandle where
  source : Option ArraySource
  deriving Inhabited

/-- A single-use stream export. -/
structure StreamHandle where
  source : Option StreamSource
  deriving Inhabited

namespace ArrayHandle

/-- The source was handed out. -/
def isConsumed (h : ArrayHandle) : Bool := h.source.isNone

/-- Exports on the first successful call. -/
def export? (h : ArrayHandle) (requested : Option Capsule) :
    Except Error (Capsule × Capsule) × ArrayHandle :=
  match h.source with
  | none => (.error (.consumed "__arrow_c_array__"), h)
  | some s =>
    match s.toCapsules requested with
    | .ok pair => (.ok pair, ⟨none⟩)
    | .error e => (.error e, h)

end ArrayHandle

namespace StreamHandle

/-- The source was handed out. -/
def isConsumed (h : StreamHandle) : Bool := h.source.isNone

/-- Exports on the first successful call. -/
def export? (h : StreamHandle) (requested : Option Capsule) :
    Except Error Capsule × StreamHandle :=
  match h.source with
  | none => (.error (.consumed "__arrow_c_stream__"), h)
  | some s =>
    match s.toCapsule requested with
    | .ok c => (.ok c, ⟨none⟩)
    | .error e => (.error e, h)

end StreamHandle

end Columnar
