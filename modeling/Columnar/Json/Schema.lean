import Columnar.Json.Type
import Columnar.Json.Error
import Columnar.Descriptor.Schema

/-!
# Schema descriptors and schemas as JSON

A request describes a foreign schema descriptor node by node: `format` and `name` are text
(a C string of its UTF-8 bytes), `{"hex": …}` (raw bytes) or `null` (a null pointer);
`metadata` is hex bytes or `null`; `flags` defaults to 0; `children` is `null` (a null
pointer) or a list of nodes and nulls, with `n_children` defaulting to its length; a
`released` node has no release callback.

An answer shows a descriptor as its dump: texts, metadata hex, flags, child count, children
and dictionary, read as a consumer that trusts the counts and lengths it declares reads
them. A schema is `{"fields": [field, …], "metadata": {…}}`.
-/

namespace Columnar

/-- The bytes of a C string member: text, `{"hex": …}`, or `null` for a null pointer. -/
def cBytesOfDoc : Doc → Decode (Option (List UInt8))
  | .null => .ok none
  | .str s => .ok (some (Utf8.encode s))
  | d => do pure (some (← d.get "hex" Doc.toBytes))

namespace SchemaNode

/-- Reads a foreign schema descriptor, with `fuel` levels of nesting left. -/
def ofDocFuel : Nat → Doc → Decode SchemaNode
  | 0, _ => .error "schema description too deep"
  | fuel + 1, d => do
    let format ← (d.member? "format").elim (pure none) cBytesOfDoc
    let name ← (d.member? "name").elim (pure none) cBytesOfDoc
    let metadata ← d.get? "metadata" Doc.toBytes
    let flags ← d.getD "flags" Doc.toInt 0
    let children ← d.get? "children" fun cs => do
      (← cs.toList).mapM fun c => match c with
        | .null => pure none
        | c => some <$> ofDocFuel fuel c
    let nChildren ← d.getD "n_children" Doc.toInt ((children.map List.length).getD 0)
    let dictionary ← d.get? "dictionary" (ofDocFuel fuel)
    let released ← d.getD "released" Doc.toBool false
    pure ⟨format, name, metadata, flags, nChildren, children, dictionary, released, true⟩

/-- Reads a foreign schema descriptor. -/
def ofDoc (d : Doc) : Decode SchemaNode :=
  ofDocFuel d.depth d

/-- A C string as JSON text, each ill-formed part of its UTF-8 read as `U+FFFD`; `null`
for a null pointer. -/
def cTextDoc : Option (List UInt8) → Doc
  | none => .null
  | some bytes => .str (Utf8.decodeLossy (bytes.takeWhile (· ≠ 0)))

mutual

/-- The dump of a descriptor tree; a `marked` dump also says of each node whether it is
released. The dump reads what the node declares: as many child slots as its child count
says, and its metadata as far as the layout's lengths reach. -/
def dumpAs (marked : Bool) : SchemaNode → Doc
  | ⟨format, name, metadata, flags, nChildren, children, dictionary, released, _⟩ =>
    .obj ([("format", cTextDoc format), ("name", cTextDoc name),
      ("metadata", Doc.opt (fun m => .str (Hex.encode (Metadata.covered m))) metadata),
      ("flags", .int flags), ("n_children", .int nChildren),
      ("children", .arr (dumpSlots marked nChildren.toNat children)),
      ("dictionary", dumpDictionary marked dictionary)] ++
      (if marked then [("released", .bool released)] else []))

/-- The dumps of the first `k` child slots, none for a null list. -/
def dumpSlots (marked : Bool) (k : Nat) : Option (List (Option SchemaNode)) → List Doc
  | none => []
  | some slots => dumpList marked k slots

/-- The dumps of the first `k` slots of a list of child slots; a null slot, or one past the
list, is `null`. -/
def dumpList (marked : Bool) : Nat → List (Option SchemaNode) → List Doc
  | 0, _ => []
  | k + 1, [] => List.replicate (k + 1) .null
  | k + 1, none :: rest => .null :: dumpList marked k rest
  | k + 1, some c :: rest => dumpAs marked c :: dumpList marked k rest

/-- The dump of a dictionary slot. -/
def dumpDictionary (marked : Bool) : Option SchemaNode → Doc
  | none => .null
  | some d => dumpAs marked d

end

/-- The dump of a descriptor tree. -/
def dump (s : SchemaNode) : Doc :=
  dumpAs false s

end SchemaNode

namespace Schema

/-- The schema as `{"fields","metadata"}`. -/
def toDoc (s : Schema) : Doc :=
  .obj [("fields", .arr (Field.toDocs s.fields)), ("metadata", s.metadata.toDoc)]

/-- The schema of `{"fields","metadata"}`; metadata is optional. -/
def ofDoc (d : Doc) : Decode Schema := do
  pure ⟨← d.get "fields" (Doc.mapItems Field.ofDoc),
    ← d.getD "metadata" Metadata.ofDoc .empty⟩

/-- A batch name and schema as `{"name","schema"}`. -/
def namedDoc (p : String × Schema) : Doc :=
  .obj [("name", .str p.1), ("schema", p.2.toDoc)]

end Schema

end Columnar
