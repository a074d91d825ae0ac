import Columnar.Binding.Host

/-!
# The capsule protocol of session objects

An object answers `__arrow_c_array__` with a schema capsule and an array capsule, and
`__arrow_c_stream__` with a stream capsule. The binding's export objects hand out their
source once, as capsules with destructors; what the source's memory owes moves to the
capsule of the array or of the stream. A failed export leaves the object as it was.

A requested schema must be a capsule named `arrow_schema`; it is read where it is, without
being taken. The checks of the host's capsule access come first: a value that is not a
capsule, then a capsule of another name.

An object of the outside world answers each method as the world says. When its
`_export_to_c` raises, the binding releases whatever it wrote before the exception passes on.
-/

namespace Columnar

namespace Host

variable {O : Type} [World O]

/-- The text of the host's refusal to read a value that is not a capsule. -/
def invalidCapsule : String :=
  "PyCapsule_GetPointer called with invalid PyCapsule object"

/-- The text of the host's refusal to read a capsule under another name. -/
def incorrectName : String :=
  "PyCapsule_GetPointer called with incorrect name"

/-- The capsule a value refers to, read under a name. -/
def capsuleNamed (v : HostValue) (name : String) : Host O (Nat × HostCapsule) := do
  match v with
  | .ref id =>
    match ← fetch id with
    | .capsule c =>
      if c.name = name then pure (id, c) else raise "ValueError" incorrectName
    | _ => raise "ValueError" invalidCapsule
  | _ => raise "ValueError" invalidCapsule

/-- The requested schema a value stands for: nothing for `None`, else a view of the
schema capsule's descriptor. -/
def requested (v : HostValue) : Host O (Option Capsule) := do
  if v.isNone then pure none
  else
    let (_, c) ← capsuleNamed v "arrow_schema"
    pure (some ⟨.schema, some c.payload⟩)

/-- A new capsule on the heap. -/
def capsule (name : String) (payload : Payload) (destructor : Option Destructor)
    (owed : Ledger := {}) : Host O HostValue :=
  alloc (.capsule ⟨name, payload, destructor, owed⟩)

/-- The descriptor a library capsule holds. -/
def payloadOf (c : Capsule) : Payload :=
  c.payload.getD (.schema default)

/-- `__arrow_c_array__` of one of the binding's array export objects. -/
def exportArray (id : Nat) (h : ArrayHandle) (owed : Ledger) (req : HostValue) :
    Host O HostValue := do
  let view ← requested req
  let (result, h) := h.export? view
  match result with
  | .ok (schema, array) =>
    store id (.arrayExport h {})
    let s ← capsule "arrow_schema" (payloadOf schema) (some dropPayload)
    let a ← capsule "arrow_array" (payloadOf array) (some dropPayload) owed
    pure (.tuple [s, a])
  | .error e => refuse e

/-- `__arrow_c_stream__` of one of the binding's stream export objects. -/
def exportStream (id : Nat) (h : StreamHandle) (owed : Ledger) (req : HostValue) :
    Host O HostValue := do
  let view ← requested req
  let (result, h) := h.export? view
  match result with
  | .ok c =>
    store id (.streamExport h {})
    capsule "arrow_array_stream" (payloadOf c) (some dropPayload) owed
  | .error e => refuse e

/-- The one optional argument of a capsule method, the requested schema, `None` when it is
not given. A method written in the host counts the object itself among its arguments
(`withSelf`); one of the binding does not. -/
def optionalArgument (method : String) (withSelf : Bool) : List HostValue → Host O HostValue
  | [] => pure .none
  | [v] => pure v
  | vs =>
    let own := if withSelf then 1 else 0
    raise "TypeError" (method ++ "() takes from " ++ toString own ++ " to " ++ toString (own + 1) ++
      " positional arguments but " ++ toString (vs.length + own) ++ " were given")

/-- Calls `__arrow_c_array__` of a value with its arguments. -/
def cArray (v : HostValue) (args : List HostValue) : Host O HostValue := do
  needAttr v "__arrow_c_array__"
  match v with
  | .ref id =>
    match ← fetch id with
    | .arrayExport h owed =>
      exportArray id h owed
        (← optionalArgument "ArrowArrayExport.__arrow_c_array__" false args)
    | .outside o => World.cArray id o args
    | o => noAttribute o.className "__arrow_c_array__"
  | _ => noAttribute (← className v) "__arrow_c_array__"

/-- Calls `__arrow_c_stream__` of a value with its arguments. -/
def cStream (v : HostValue) (args : List HostValue) : Host O HostValue := do
  needAttr v "__arrow_c_stream__"
  match v with
  | .ref id =>
    match ← fetch id with
    | .streamExport h owed =>
      exportStream id h owed
        (← optionalArgument "ArrowStreamExport.__arrow_c_stream__" false args)
    | .outside o => World.cStream id o args
    | o => noAttribute o.className "__arrow_c_stream__"
  | _ => noAttribute (← className v) "__arrow_c_stream__"

/-- Calls `is_consumed` of an export object. -/
def isConsumed (v : HostValue) : Host O HostValue := do
  needAttr v "is_consumed"
  match v with
  | .ref id =>
    match ← fetch id with
    | .arrayExport h _ => pure (.bool h.isConsumed)
    | .streamExport h _ => pure (.bool h.isConsumed)
    | o => noAttribute o.className "is_consumed"
  | _ => noAttribute (← className v) "is_consumed"

/-- Calls `to_batches()` of an object. -/
def toBatches (v : HostValue) : Host O HostValue := do
  needAttr v "to_batches"
  match v with
  | .ref id =>
    match ← fetch id with
    | .outside o => World.toBatches id o
    | o => noAttribute o.className "to_batches"
  | _ => noAttribute (← className v) "to_batches"

/-- Reads the attribute `chunks` of an object. -/
def chunksOf (v : HostValue) : Host O HostValue := do
  needAttr v "chunks"
  match v with
  | .ref id =>
    match ← fetch id with
    | .outside o => World.chunks id o
    | o => noAttribute o.className "chunks"
  | _ => noAttribute (← className v) "chunks"

/-- Calls `_export_to_c` of an outside object with pointers to an empty array and an empty
schema: the array and the schema it writes, where a descriptor it does not write stays
released. When it raises, both are released before the exception passes on. -/
def exportToC (v : HostValue) : Host O (ArrayNode × SchemaNode) := do
  needAttr v "_export_to_c"
  match v with
  | .ref id =>
    match ← fetch id with
    | .outside o =>
      let w ← World.exportToC id o
      match w.raised with
      | some e =>
        settle ((Ledger.array {} w.array).merge (Ledger.schema {} w.schema))
        throw e
      | none => pure (w.array, w.schema)
    | o => noAttribute o.className "_export_to_c"
  | _ => noAttribute (← className v) "_export_to_c"

end Host

end Columnar
