import Columnar.Descriptor.Array

/-!
# What an exported descriptor owns

The release callback of an exported descriptor frees what the export attached to it. The
descriptor's private data owns a box for each child descriptor and one for the dictionary
descriptor, and keeps alive what the descriptor points into: for an array a clone of its
column and the bitmaps re-packed for export, for a schema the texts of its field.

Releasing a live descriptor goes through its child boxes in order and then the dictionary
box: it releases the descriptor in the box (which does nothing if a consumer moved it out and
left a released one behind) and frees the box. It then drops the private data and marks the
descriptor released. Releasing a released descriptor does nothing.

A consumer holds the root and every descriptor it moved out. It may move out any descriptor
it reaches through live descriptors, leaving a released one in its place, and call the release
callback of anything it holds, in any order. A node of an export is named by its path from the
root (a list of `Slot`s), and keeps that name when it is moved.

A column is exported with its schema by building the schema first. When the column is then
refused, the exporter calls the schema's release callback itself before it returns the error
(`Column.exportPair`); what that callback does is recorded with the outcome.
-/

namespace Columnar

/-- Where a descriptor sits under its parent: in child slot `i`, or as the dictionary. -/
inductive Slot where
  | child (i : Nat)
  | dictionary
  deriving DecidableEq, Repr

/-- An exported descriptor as its release callback sees it. -/
inductive Exported (α : Type) where
  /-- No release callback and no private data. -/
  | released
  /-- A live descriptor exported at `path`, whose private data keeps `data` alive and owns the
  boxes of its children and of its dictionary. -/
  | live (path : List Slot) (data : α) (children : List (Exported α))
      (dictionary : Option (Exported α))

/-- What a release callback does to memory. -/
inductive ReleaseEvent (α : Type) where
  /-- The box that held the descriptor exported at `path` is freed. -/
  | free (path : List Slot)
  /-- The private data of the descriptor exported at `path` is dropped, and `data` with it. -/
  | drop (path : List Slot) (data : α)

namespace Exported

variable {α : Type}

mutual

/-- The release callback: what it frees and drops, children first, then the dictionary, then
the descriptor's own private data. -/
def release : Exported α → List (ReleaseEvent α)
  | .released => []
  | .live p d cs dict => releaseBoxes p 0 cs ++ releaseDictionary p dict ++ [.drop p d]

/-- Releases the descriptors in the child boxes from slot `i` on, freeing each box. -/
def releaseBoxes (p : List Slot) : Nat → List (Exported α) → List (ReleaseEvent α)
  | _, [] => []
  | i, c :: cs => release c ++ .free (p ++ [.child i]) :: releaseBoxes p (i + 1) cs

/-- Releases the descriptor in the dictionary box, if any, freeing the box. -/
def releaseDictionary (p : List Slot) : Option (Exported α) → List (ReleaseEvent α)
  | none => []
  | some d => release d ++ [.free (p ++ [.dictionary])]

end

/-- Moves the descriptor at `path` below a descriptor out (with the empty path, the descriptor
itself), leaving a released one in its place: the moved descriptor and what is left. The path
must lead through live descriptors to a box; `none` when it does not, where the consumer would
touch memory it does not own. -/
def take : Exported α → List Slot → Option (Exported α × Exported α)
  | t, [] => some (t, .released)
  | .live p d cs dict, .child i :: rest => do
    let c ← cs[i]?
    let (m, c') ← take c rest
    pure (m, .live p d (cs.set i c') dict)
  | .live p d cs dict, .dictionary :: rest => do
    let c ← dict
    let (m, c') ← take c rest
    pure (m, .live p d cs (some c'))
  | .released, _ :: _ => none

end Exported

/-- What a consumer of an exported descriptor does: move the descriptor at `path` below the
`r`-th descriptor it holds out, or call the release callback of the `r`-th. -/
inductive Handling where
  | take (r : Nat) (path : List Slot)
  | release (r : Nat)
  deriving DecidableEq, Repr

/-- What a consumer holds (the root first, then each descriptor it moved out) and what the
release callbacks did so far. -/
structure Holding (α : Type) where
  held : List (Exported α)
  events : List (ReleaseEvent α)

namespace Holding

variable {α : Type}

/-- A consumer given the root of an export. -/
def start (t : Exported α) : Holding α :=
  ⟨[t], []⟩

/-- One handling; `none` when it touches a descriptor the consumer does not hold. -/
def step (h : Holding α) : Handling → Option (Holding α)
  | .take r path => do
    let t ← h.held[r]?
    let (m, t') ← t.take path
    pure ⟨h.held.set r t' ++ [m], h.events⟩
  | .release r => do
    let t ← h.held[r]?
    pure ⟨h.held.set r .released, h.events ++ t.release⟩

/-- Handlings in order. -/
def run (h : Holding α) : List Handling → Option (Holding α)
  | [] => some h
  | a :: acts => (h.step a).bind (run · acts)

/-- Calls the release callback of everything still held, in order. -/
def finish (h : Holding α) : Holding α :=
  ⟨h.held.map fun _ => .released, h.events ++ h.held.flatMap Exported.release⟩

end Holding

/-! ## The trees exports build -/

/-- The bitmaps an array export re-packs and keeps: the validity bitmap, and a boolean
column's values after it. -/
def Column.exportBitmaps : Column → List Bitmap
  | .boolean d v => (v.map Bitmap.toAligned).toList ++ [d.toAligned]
  | c => (c.validity.map Bitmap.toAligned).toList

/-- What the private data of an exported array node keeps alive besides its boxes. -/
structure ArrayKeep where
  column : Column
  bitmaps : List Bitmap

namespace Column

mutual

/-- The ownership tree of a column's export at `path`: a node per column, the dictionary's
values in the dictionary box, a struct's children and a list's items in child boxes. -/
def exportTree (path : List Slot) (c : Column) : Exported ArrayKeep :=
  match c with
  | .dictionary _ _ _ vals _ =>
    .live path ⟨c, c.exportBitmaps⟩ [] (some (exportTree (path ++ [.dictionary]) vals))
  | .struct _ cs _ _ => .live path ⟨c, c.exportBitmaps⟩ (exportTrees path 0 cs) none
  | .list _ _ _ vals _ =>
    .live path ⟨c, c.exportBitmaps⟩ [exportTree (path ++ [.child 0]) vals] none
  | _ => .live path ⟨c, c.exportBitmaps⟩ [] none

/-- The ownership trees of columns in the child boxes from slot `i` on. -/
def exportTrees (path : List Slot) : Nat → List Column → List (Exported ArrayKeep)
  | _, [] => []
  | i, c :: cs => exportTree (path ++ [.child i]) c :: exportTrees path (i + 1) cs

end

end Column

mutual

/-- The ownership tree of a schema export at `path` of a type under a name, nullability and
metadata: a node per field, whose private data keeps the field's texts; a struct's fields and
a list's item in child boxes, a dictionary's value type (unnamed, nullable) in the dictionary
box. -/
def DataType.exportTree (path : List Slot) (t : DataType) (name : String) (nullable : Bool)
    (metadata : Metadata) : Exported Field :=
  .live path ⟨name, t, nullable, metadata⟩
    (match t with
      | .struct fs => Field.exportTrees path 0 fs
      | .list f | .largeList f => [Field.exportTree (path ++ [.child 0]) f]
      | _ => [])
    (match t with
      | .dictionary _ v _ => some (DataType.exportTree (path ++ [.dictionary]) v "" true .empty)
      | _ => none)

/-- The ownership tree of a field's export at `path`. -/
def Field.exportTree (path : List Slot) : Field → Exported Field
  | ⟨n, t, u, m⟩ => DataType.exportTree path t n u m

/-- The ownership trees of fields in the child boxes from slot `i` on. -/
def Field.exportTrees (path : List Slot) : Nat → List Field → List (Exported Field)
  | _, [] => []
  | i, f :: fs => Field.exportTree (path ++ [.child i]) f :: Field.exportTrees path (i + 1) fs

end

/-! ## Exporting a column with its schema -/

/-- A column exported with its schema: the two descriptors or the error, and the events of
the release callbacks the export ran before it returned. -/
structure PairExport where
  result : Except Error (ArrayNode × SchemaNode)
  released : List (ReleaseEvent Field) := []

/-- An export refused before anything was built. -/
def PairExport.refuse (e : Error) : PairExport :=
  ⟨.error e, []⟩

/-- Exports a column under a field: the schema first, then the column. A column refused after
its schema was built has that schema released before the error is returned. -/
def Column.exportPair (c : Column) (f : Field) : PairExport :=
  match SchemaNode.ofField f with
  | .error e => .refuse e
  | .ok schema =>
    match c.toDescriptor with
    | .ok array => ⟨.ok (array, schema), []⟩
    | .error e => ⟨.error e, (f.exportTree []).release⟩

/-- The descriptors of a column exported under a field. -/
def descriptorsOf (c : Column) (f : Field) : Except Error (ArrayNode × SchemaNode) :=
  (c.exportPair f).result

/-- A column exports under a field as its schema, then its own node. -/
theorem descriptorsOf_eq (c : Column) (f : Field) :
    descriptorsOf c f = (SchemaNode.ofField f >>= fun schema =>
      c.toDescriptor >>= fun array => pure (array, schema)) := by
  unfold descriptorsOf Column.exportPair
  cases SchemaNode.ofField f with
  | error e => rfl
  | ok schema => cases c.toDescriptor <;> rfl

namespace Series

/-- What a series must pass before its export: its column has the field's type, and holds
nulls only if the field is nullable. -/
def checkExport (s : Series) : Except Error Unit := do
  if !(s.column.type == s.field.type) then
    throw (.schema ("field '" ++ s.field.name ++ "' declares " ++ s.field.type.display ++
      " but the array is " ++ s.column.type.display))
  checkNullable s.field s.column

/-- Exports a series: checked, then its column under its field. -/
def exportPair (s : Series) : PairExport :=
  match s.checkExport with
  | .error e => .refuse e
  | .ok () => s.column.exportPair s.field

/-- The descriptors of a series. -/
def toDescriptors (s : Series) : Except Error (ArrayNode × SchemaNode) :=
  s.exportPair.result

/-- A series exports as its checks, then its column under its field. -/
theorem toDescriptors_eq (s : Series) :
    s.toDescriptors = (s.checkExport >>= fun _ => descriptorsOf s.column s.field) := by
  unfold toDescriptors exportPair
  cases s.checkExport <;> rfl

end Series

namespace Table

/-- The first series whose column's type differs from its field's. -/
def mistypedColumn : List Series → Option Series
  | [] => none
  | s :: rest => if !(s.column.type == s.field.type) then some s else mistypedColumn rest

/-- Exports a table as one struct column under the root field of its schema. -/
def exportPair (t : Table) : PairExport :=
  match mistypedColumn t.columns with
  | some s =>
    .refuse (.schema ("column '" ++ s.field.name ++ "' declares " ++ s.field.type.display ++
      " but the array is " ++ s.column.type.display))
  | none =>
    match t.toStruct with
    | .error e => .refuse e
    | .ok batch => batch.exportPair (t.schema.rootField t.name)

/-- The descriptors of a table. -/
def toDescriptors (t : Table) : Except Error (ArrayNode × SchemaNode) :=
  t.exportPair.result

/-- A table whose series all have their fields' types exports as its struct column under its
root field. -/
theorem toDescriptors_of_typed {t : Table} (h : mistypedColumn t.columns = none) :
    t.toDescriptors =
      (t.toStruct >>= fun batch => descriptorsOf batch (t.schema.rootField t.name)) := by
  unfold toDescriptors exportPair
  rw [h]
  cases t.toStruct <;> rfl

end Table

end Columnar
