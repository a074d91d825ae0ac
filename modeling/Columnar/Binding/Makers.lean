import Columnar.Binding.Protocol

/-!
# Objects that make descriptors

A world of outside objects that make foreign descriptors when asked, as a host program would
hand them to the binding:

* an array maker answers `__arrow_c_array__` with a fresh schema and a fresh array in
  capsules without destructors, or breaks the protocol as its mode says;
* a stream maker answers `__arrow_c_stream__` with a fresh scripted stream in a capsule
  without a destructor, its batches built up front, or breaks the protocol;
* a legacy object writes its descriptors through the pointers `_export_to_c` is given, or
  raises `ValueError` with its text;
* a batch list answers `to_batches()` with its items, and a chunk list holds its items as
  `chunks`;
* a plain object has no attribute.

Each maker counts what it hands over as it puts it into the session.
-/

namespace Columnar

/-- How a descriptor maker answers the capsule protocol. -/
inductive MakerMode where
  /-- Answers as the protocol says. -/
  | normal
  /-- Answers `5` instead of a pair. -/
  | notTuple
  /-- Answers `(1, 2, 3)`. -/
  | triple
  /-- Raises `RuntimeError` with its message. -/
  | raise
  /-- Names the schema capsule `arrow_array`. -/
  | schemaWrongName
  /-- Names the array capsule `arrow_schema`. -/
  | arrayWrongName
  /-- Answers a string in place of the array capsule. -/
  | arrayNotCapsule
  /-- Answers `7` in place of the stream capsule. -/
  | notCapsule
  /-- Names the stream capsule `arrow_array`. -/
  | wrongName
  deriving Inhabited, DecidableEq, Repr

/-- An object whose `__arrow_c_array__` makes a fresh schema and array each call. -/
structure ArrayMaker where
  schema : SchemaNode
  array : ArrayNode
  mode : MakerMode
  message : String
  deriving Inhabited

/-- An object whose `__arrow_c_stream__` makes a fresh scripted stream each call, with its
schema and all its batches built up front. -/
structure StreamMaker where
  stream : ScriptedStream
  mode : MakerMode
  message : String
  premade : stream.Premade

/-- An object that writes descriptors through the pointer handshake, or raises
`ValueError` with its text. -/
structure LegacyMaker where
  schema : Option SchemaNode
  array : Option ArrayNode
  failure : Option String
  deriving Inhabited

/-- An object of the makers' world. -/
inductive Maker where
  | array (m : ArrayMaker)
  | stream (m : StreamMaker)
  | legacy (m : LegacyMaker)
  | batches (items : List HostValue)
  | chunks (items : List HostValue)
  | plain
  deriving Inhabited

namespace Maker

/-- The name of the object's class. -/
def className : Maker → String
  | .array _ => "ArrayObj"
  | .stream _ => "StreamObj"
  | .legacy _ => "LegacyObj"
  | .batches _ => "BatchesObj"
  | .chunks _ => "ChunksObj"
  | .plain => "Plain"

/-- The attributes the object has. -/
def attributes : Maker → List String
  | .array _ => ["__arrow_c_array__"]
  | .stream _ => ["__arrow_c_stream__"]
  | .legacy _ => ["_export_to_c"]
  | .batches _ => ["to_batches"]
  | .chunks _ => ["chunks"]
  | .plain => []

/-- The heap objects the object refers to. -/
def refs : Maker → List Nat
  | .batches items => HostValue.refsOf items
  | .chunks items => HostValue.refsOf items
  | _ => []

/-- A fresh foreign descriptor in a new capsule without a destructor, counted as handed
over. -/
def makeCapsule (name : String) (p : Payload) : Host Maker HostValue := do
  let v ← Host.capsule name p none
  Host.handOver (p.release {})
  pure v

/-- `__arrow_c_array__` of an array maker. -/
def answerArray (m : ArrayMaker) : Host Maker HostValue := do
  match m.mode with
  | .notTuple => pure (.int 5)
  | .triple => pure (.tuple [.int 1, .int 2, .int 3])
  | .raise => Host.raise "RuntimeError" m.message
  | mode =>
    let schemaName := if mode = .schemaWrongName then "arrow_array" else "arrow_schema"
    let s ← makeCapsule schemaName (.schema m.schema)
    if mode = .arrayNotCapsule then pure (.tuple [s, .str "not a capsule"])
    else
      let arrayName := if mode = .arrayWrongName then "arrow_schema" else "arrow_array"
      let a ← makeCapsule arrayName (.array m.array)
      pure (.tuple [s, a])

/-- `__arrow_c_stream__` of a stream maker. -/
def answerStream (m : StreamMaker) : Host Maker HostValue := do
  match m.mode with
  | .raise => Host.raise "RuntimeError" m.message
  | .notCapsule => pure (.int 7)
  | mode =>
    let name := if mode = .wrongName then "arrow_array" else "arrow_array_stream"
    makeCapsule name (.stream (.scripted m.stream))

/-- `_export_to_c` of a legacy object: it writes what it has, counted as handed over. -/
def writeLegacy (m : LegacyMaker) : Host Maker Written := do
  match m.failure with
  | some text => Host.raise "ValueError" text
  | none =>
    let w : Written := { array := m.array.getD ArrayNode.ended,
                         schema := m.schema.getD SchemaNode.vacant }
    Host.handOver ((Ledger.array {} w.array).merge (Ledger.schema {} w.schema))
    pure w

end Maker

/-- The makers' world: each method a maker does not have refuses as a missing attribute. -/
instance : World Maker where
  className := Maker.className
  attributes := Maker.attributes
  refs := Maker.refs
  cArray _ o args :=
    match o with
    | .array m => do
      discard (Host.optionalArgument "ArrayObj.__arrow_c_array__" true args)
      Maker.answerArray m
    | o => Host.noAttribute o.className "__arrow_c_array__"
  cStream _ o args :=
    match o with
    | .stream m => do
      discard (Host.optionalArgument "StreamObj.__arrow_c_stream__" true args)
      Maker.answerStream m
    | o => Host.noAttribute o.className "__arrow_c_stream__"
  exportToC _ o :=
    match o with
    | .legacy m => Maker.writeLegacy m
    | o => Host.noAttribute o.className "_export_to_c"
  toBatches _ o :=
    match o with
    | .batches items => pure (.list items)
    | o => Host.noAttribute o.className "to_batches"
  chunks _ o :=
    match o with
    | .chunks items => pure (.list items)
    | o => Host.noAttribute o.className "chunks"

end Columnar
