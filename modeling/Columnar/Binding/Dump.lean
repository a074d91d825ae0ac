import Columnar.Json.Schema
import Columnar.Json.Array

/-!
# Dumps read by format string

A host reader of a schema and array pair does not know the library's types: it reads the
buffers, children and dictionary of an array that the schema's format string says it has,
whatever the array itself declares. For `n = offset + length`:

| format | buffers read | children read |
|---|---|---|
| `n` | none | none |
| `b` | validity and bits, `⌈n / 8⌉` bytes each | none |
| `u`, `U` | validity, `n + 1` offsets of 4 or 8 bytes, data up to the last offset | none |
| `+s` | validity | each child, under its child schema |
| `+l`, `+L` | validity, offsets | the first child, under the first child schema |
| anything else | validity, then `n` values of the format's width | none |

A buffer past the array's declared count, or with a null pointer, reads as nothing. The
width is 1 for `c C`, 2 for `s S`, 4 for `i I f tdD tts ttm tiM`, 16 for `tin` and 8 for
every other format. Only an array of a format of the last row is read as indices into a
dictionary: when the schema has a dictionary, the array's dictionary is dumped under it.

A struct's children are the first `n_children` slots of its child list; a list's child is
the first slot when `n_children` is at least one, and `null` otherwise. A slot past the
given ones is a null pointer.
A null child reads as `null`. A child is read by the child schema in the same slot; when the
schema has no such slot, the reader meets a null schema pointer and the whole dump fails.
-/

namespace Columnar

/-- The width in bytes of a value of a fixed-width format. -/
def formatWidth (format : String) : Nat :=
  if ["c", "C"].contains format then 1
  else if ["s", "S"].contains format then 2
  else if ["i", "I", "f", "tdD", "tts", "ttm", "tiM"].contains format then 4
  else if format = "tin" then 16
  else 8

/-- The bytes a host reader reads of each buffer of a node of a format, for `n` slots: one
entry per buffer the format has. -/
def formatSizes (format : String) (n : Nat) (slots : List (Option Region)) : List Nat :=
  let bitmap := (n + 7) / 8
  let lastOffset (width : Nat) : Nat :=
    match slots.getD 1 none with
    | some r => LittleEndian.value (LittleEndian.region r.bytes (n * width) width)
    | none => 0
  match format with
  | "n" => []
  | "b" => [bitmap, bitmap]
  | "u" => [bitmap, (n + 1) * 4, lastOffset 4]
  | "U" => [bitmap, (n + 1) * 8, lastOffset 8]
  | "+s" => [bitmap]
  | "+l" => [bitmap, (n + 1) * 4]
  | "+L" => [bitmap, (n + 1) * 8]
  | f => [bitmap, n * formatWidth f]

/-- Whether an array of a format can be read as indices into a dictionary. -/
def formatIndexes (format : String) : Bool :=
  !(["n", "b", "u", "U", "+s", "+l", "+L"].contains format)

/-- The format string of a schema node, empty for a null pointer. -/
def SchemaNode.formatText (s : SchemaNode) : String :=
  match s.format with
  | some bytes => (cString bytes).getD ""
  | none => ""

namespace ArrayNode

mutual

/-- The dump of a descriptor tree read by the formats of a schema tree, or `none` when the
reader meets a child with no child schema to read it by. -/
def dumpByFormat : ArrayNode → SchemaNode → Option Doc
  | ⟨length, nullCount, offset, nBuffers, buffers, nChildren, children, dictionary, _, _⟩, s => do
    let slots := buffers.getD []
    let n := (offset + length).toNat
    let format := s.formatText
    let sizes := formatSizes format n slots
    let declared := (List.range sizes.length).map fun (i : Nat) =>
      if ((i : Nat) : Int) < nBuffers then slots.getD i none else none
    let kids ← match format with
      | "+s" => dumpSlotsByFormat nChildren.toNat children s.children
      | "+l" | "+L" =>
        if 1 ≤ nChildren then do pure [← dumpFirstByFormat children s.children]
        else pure [.null]
      | _ => pure []
    let dict ← if formatIndexes format then dumpDictionaryByFormat dictionary s.dictionary
      else pure .null
    pure (.obj [("length", .int length), ("null_count", .int nullCount), ("offset", .int offset),
      ("n_buffers", .int nBuffers), ("n_children", .int nChildren),
      ("buffers", .arr ((declared.zip sizes).map fun (r, k) => bufferDump r k)),
      ("children", .arr kids), ("dictionary", dict)])

/-- The dumps of the first `k` child slots of a struct, none for a null list. -/
def dumpSlotsByFormat (k : Nat) :
    Option (List (Option ArrayNode)) → Option (List (Option SchemaNode)) → Option (List Doc)
  | none, _ => some []
  | some slots, ss => dumpChildrenByFormat k slots ((ss.getD []).map some)

/-- The dumps of the first `k` child slots under the child schema slots: a null child, or
one past the list, is `null`; a child past the schema slots, or with a null one, has no
schema to be read by. -/
def dumpChildrenByFormat :
    Nat → List (Option ArrayNode) → List (Option (Option SchemaNode)) → Option (List Doc)
  | 0, _, _ => some []
  | k + 1, [], _ => some (List.replicate (k + 1) .null)
  | k + 1, none :: rest, ss => do
    pure (.null :: (← dumpChildrenByFormat k rest ss.tail))
  | k + 1, some c :: rest, ss => do
    let sc ← (ss.headD none).join
    let d ← dumpByFormat c sc
    pure (d :: (← dumpChildrenByFormat k rest ss.tail))

/-- The dump of the first child slot of a list under the first child schema slot. -/
def dumpFirstByFormat :
    Option (List (Option ArrayNode)) → Option (List (Option SchemaNode)) → Option Doc
  | some slots, ss => dumpHeadByFormat slots ((ss.getD []).headD none)
  | none, _ => some .null

/-- The dump of the first of a list of child slots under a schema slot. -/
def dumpHeadByFormat : List (Option ArrayNode) → Option SchemaNode → Option Doc
  | some c :: _, some sc => dumpByFormat c sc
  | some _ :: _, none => none
  | _, _ => some .null

/-- The dump of a dictionary slot under the schema's dictionary, if the schema has one. -/
def dumpDictionaryByFormat : Option ArrayNode → Option SchemaNode → Option Doc
  | some d, some s => dumpByFormat d s
  | _, _ => some .null

end

end ArrayNode

end Columnar
