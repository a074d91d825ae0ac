import Columnar.Type.Format
import Columnar.Metadata.Codec
import Columnar.Text.Utf8

/-!
# Schema descriptors

A `SchemaNode` is a schema descriptor of the C data interface as a consumer sees it: a
format string, a name, metadata bytes, flags, child descriptors and a dictionary
descriptor. A pointer may be null (`none`); the child pointers are `nChildren` slots, each
of which may be null. A released descriptor has lost its release callback.

Exporting a field writes one node per type in the tree: a struct or list node has a child
per field, a dictionary node has the values' node (unnamed, nullable) as its dictionary,
and the nullable bit joins the format's flags. Importing reads the tree back:

> `importField (exportField f) = .ok f` whenever the export succeeds.

Import checks, in order: the node is live, the format pointer is set, format and name are
UTF-8 (text ends at the first zero byte), the metadata reads, the child count is not
negative, every child slot is set and imports, the dictionary imports, and the format
names a type.
-/

namespace Columnar

/-- A schema descriptor. -/
structure SchemaNode where
  format : Option (List UInt8)
  name : Option (List UInt8)
  metadata : Option (List UInt8)
  flags : Int
  nChildren : Int
  children : Option (List (Option SchemaNode))
  dictionary : Option SchemaNode
  released : Bool := false
  /-- Made outside the library: a ledger counts the releases of such a root. -/
  foreign : Bool := false
  deriving Inhabited

namespace SchemaNode

/-- Refuses text that holds a zero byte, which a C string cannot. -/
def cText (text what : String) : Except Error (List UInt8) :=
  if text.toList.contains (Char.ofNat 0) then
    .error (.schema (what ++ " '" ++ text ++ "' contains a NUL byte"))
  else .ok (Utf8.encode text)

/-- A node with the given parts. -/
def assemble (format name : String) (metadata : Metadata) (flags : Int)
    (children : List SchemaNode) (dictionary : Option SchemaNode) : Except Error SchemaNode := do
  let f ← cText format "format"
  let n ← cText name "field name"
  let m ← Metadata.encode metadata
  pure ⟨some f, some n, m, flags, children.length,
    if children.isEmpty then none else some (children.map some), dictionary, false, false⟩

mutual

/-- The descriptor tree of a type under a name, nullability and metadata. Children come
before the node's own texts, so a child's refusal wins. -/
def ofType (t : DataType) (name : String) (nullable : Bool) (metadata : Metadata) :
    Except Error SchemaNode := do
  let node ← Format.encode t
  let children ← match t with
    | .struct fs => ofFields fs
    | .list f | .largeList f => do pure [← ofField f]
    | _ => pure []
  let dictionary ← match t with
    | .dictionary _ v _ => some <$> ofType v "" true Metadata.empty
    | _ => pure none
  assemble node.format name metadata (node.flags + if nullable then (flagNullable : Int) else 0)
    children dictionary

/-- The descriptor tree of a field. -/
def ofField : Field → Except Error SchemaNode
  | ⟨n, t, u, m⟩ => ofType t n u m

/-- The descriptor trees of fields. -/
def ofFields : List Field → Except Error (List SchemaNode)
  | [] => .ok []
  | f :: fs => do
    let n ← ofField f
    let ns ← ofFields fs
    pure (n :: ns)

end

/-- The text of a C string: the bytes before the first zero byte, if they are UTF-8. -/
def cString (bytes : List UInt8) : Option String :=
  Utf8.decode? (bytes.takeWhile (· ≠ 0))

mutual

/-- The field a descriptor tree describes. -/
def toField : SchemaNode → Except Error Field
  | ⟨format, name, metadata, flags, nChildren, children, dictionary, released, _⟩ => do
    if released then throw (.schema "ArrowSchema has already been released")
    let format ← match format with
      | none => throw (.nullPointer "ArrowSchema.format")
      | some bytes =>
        match cString bytes with
        | some f => pure f
        | none => throw (.schema "format string is not valid UTF-8")
    let name ← match name with
      | none => pure ""
      | some bytes =>
        match cString bytes with
        | some n => pure n
        | none => throw (.schema "field name is not valid UTF-8")
    let metadata ← Metadata.decode metadata
    if nChildren < 0 then throw (.schema ("negative child count " ++ toString nChildren))
    let children ← if nChildren = 0 then pure [] else
      match children with
      | none => throw (.nullPointer "ArrowSchema.children")
      | some slots => childFields nChildren.toNat slots
    let dictionary ← dictionaryType dictionary
    let t ← Format.decode ⟨format, children, dictionary, flags⟩
    pure ⟨name, t, flags / 2 % 2 = 1, metadata⟩

/-- The fields of the first `n` child slots; a slot past the list is a null pointer. -/
def childFields : Nat → List (Option SchemaNode) → Except Error (List Field)
  | 0, _ => .ok []
  | _ + 1, [] => .error (.nullPointer "ArrowSchema child")
  | _ + 1, none :: _ => .error (.nullPointer "ArrowSchema child")
  | n + 1, some c :: rest => do
    let f ← toField c
    let fs ← childFields n rest
    pure (f :: fs)

/-- The value type of a dictionary descriptor. -/
def dictionaryType : Option SchemaNode → Except Error (Option DataType)
  | none => .ok none
  | some d => do pure (some (← toField d).type)

end

/-- The node with its release callback gone. -/
def release (s : SchemaNode) : SchemaNode :=
  { s with released := true }

end SchemaNode

/-- The fields of a record batch and the batch's metadata. -/
structure Schema where
  fields : List Field
  metadata : Metadata
  deriving Inhabited

namespace Schema

/-- The struct type of the fields. -/
def structType (s : Schema) : DataType :=
  .struct s.fields

/-- The non-nullable struct field that stands for the whole batch. -/
def rootField (s : Schema) (name : String) : Field :=
  ⟨name, s.structType, false, s.metadata⟩

/-- The batch name and schema of a root field; only a struct can be a batch. -/
def ofRootField (root : Field) : Except Error (String × Schema) :=
  match root.type with
  | .struct fs => .ok (root.name, ⟨fs, root.metadata⟩)
  | other => .error (.schema ("record batch schema must be a struct, found " ++ other.display))

/-- Exports the schema under a batch name. -/
def toNode (s : Schema) (name : String) : Except Error SchemaNode :=
  SchemaNode.ofField (s.rootField name)

/-- Imports a batch name and schema. -/
def ofNode (node : SchemaNode) : Except Error (String × Schema) := do
  ofRootField (← node.toField)

end Schema

end Columnar
