import Columnar.Json.Type
import Columnar.Json.Error
import Columnar.Type.Format
import Columnar.Metadata.Codec
import Columnar.Bytes.Hex

/-!
# Requests on types, format strings and metadata

These requests exercise the schema vocabulary alone, with no column data:

* `format_decode` reads a format node (format string, children, dictionary values, flags)
  into a type;
* `format_encode` writes a type as its format node;
* `type_info` shows a type's display, materialised form, nesting and key use, or a field's
  display and materialised form;
* `metadata` writes metadata as bytes or reads bytes back.
-/

namespace Columnar

namespace FormatNode

/-- The format node as `{"format","children","dictionary","flags"}`. -/
def toDoc (n : FormatNode) : Doc :=
  .obj [("format", .str n.format), ("children", .arr (Field.toDocs n.children)),
    ("dictionary", Doc.opt DataType.toDoc n.dictionary), ("flags", .int n.flags)]

/-- The format node of a request; children, dictionary and flags are optional. -/
def ofDoc (req : Doc) : Decode FormatNode := do
  let format ← req.get "format" Doc.toStr
  let children ← req.getD "children" (Doc.mapItems Field.ofDoc) []
  let dictionary ← req.get? "dictionary" DataType.ofDoc
  let flags ← req.getD "flags" Doc.toInt 0
  pure ⟨format, children, dictionary, flags⟩

end FormatNode

namespace Request

/-- Reads a format node into a type. -/
def formatDecode (req : Doc) : Decode Doc := do
  let node ← FormatNode.ofDoc req
  pure (resultDoc (fun t => .obj [("type", t.toDoc)]) (Format.decode node))

/-- Writes a type as its format node. -/
def formatEncode (req : Doc) : Decode Doc := do
  let t ← req.get "type" DataType.ofDoc
  pure (resultDoc FormatNode.toDoc (Format.encode t))

/-- What a dictionary over `t` with keys of `index` looks like. -/
def dictionaryInfo (index : IndexType) (t : DataType) : Doc :=
  let d := DataType.dictionary index t false
  .obj [("type", d.toDoc), ("display", .str d.display), ("key_type", index.keyType.toDoc),
    ("format", resultDoc (fun n => .str n.format) (Format.encode d))]

/-- Shows a type, or a field. -/
def typeInfo (req : Doc) : Decode Doc := do
  match req.member? "field" with
  | some fd =>
    let f ← Field.ofDoc fd
    pure (.obj [("display", .str f.display), ("materialised", f.materialise.toDoc)])
  | none =>
    let t ← req.get "type" DataType.ofDoc
    let base : List (String × Doc) :=
      [("display", .str t.display), ("materialised", t.materialise.toDoc),
        ("is_nested", .bool t.isNested),
        ("index_type", Doc.opt (fun i => .str (IndexType.name i)) (IndexType.ofKeyType? t))]
    match ← req.get? "dict_index" fun d => do IndexType.ofName (← d.toStr) with
    | some index => pure (.obj (base ++ [("dictionary", dictionaryInfo index t)]))
    | none => pure (.obj base)

/-- Writes metadata as bytes, or reads bytes (none: a null pointer) as metadata. -/
def metadata (req : Doc) : Decode Doc := do
  match req.member? "metadata" with
  | some md =>
    let m ← Metadata.ofDoc md
    pure (resultDoc (fun b => .obj [("hex", Doc.opt (fun bs => .str (Hex.encode bs)) b)])
      (Metadata.encode m))
  | none =>
    let bytes ← req.get? "hex" Doc.toBytes
    pure (resultDoc (fun m => .obj [("metadata", m.toDoc)]) (Metadata.decode bytes))

end Request

end Columnar
