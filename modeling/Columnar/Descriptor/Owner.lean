import Columnar.Descriptor.Import

/-!
# Who releases an imported array

The release callback of a foreign root descriptor may run once. A `Root` is such a root as its
producer sees it: live while it still has its callback, and the calls made so far.

An import wraps a live root at once in one shared owner (`Owner`): a reference count whose last
drop calls the root's release callback. The importer holds one reference while it runs, and
every buffer the import reads in place takes one more. A failed import drops the buffers it had
read, so only its own reference is left, and dropping that at return releases the root before
the error is returned. A successful import drops its own reference at return too: the root is
released then if no buffer was read in place, and otherwise when the last such buffer goes.

The buffers an import returns are shared in turn (`Holders`). The caller may clone what it
holds, keep a part of it (a slice, a child column, one buffer) and drop any of it, in any order
(`Use`). Each buffer counts the handles on it and gives its reference to the owner back when the
last one is dropped. The buffers an import reads in place are numbered from 0, in the order
`Column.inPlace` counts them: a node's children's buffers before its own, so that the columns of
a table made of an imported struct hold the first ones.

Each entry point also does something with the schema descriptor it is given (`ImportRun`):
an import under a schema only borrows it; importing a series or a table releases it at once,
before its field is read; and a series from boxed pointers releases whichever pointer it was
given when the other one is missing.
-/

namespace Columnar

/-- A foreign root descriptor as its producer counts it. -/
structure Root where
  /-- The root still has its release callback. -/
  live : Bool
  /-- Calls of the release callback so far. -/
  releases : Nat := 0
  deriving DecidableEq, Repr

namespace Root

/-- Calls the release callback, if there still is one; the callback clears itself. -/
def release (r : Root) : Root :=
  if r.live then ⟨false, r.releases + 1⟩ else r

end Root

/-- An array descriptor handed to an importer, not yet released by it. -/
def ArrayNode.root (a : ArrayNode) : Root :=
  ⟨!a.released, 0⟩

/-- A schema descriptor handed to an importer, not yet released by it. -/
def SchemaNode.root (s : SchemaNode) : Root :=
  ⟨!s.released, 0⟩

/-- The shared owner of an imported root: the references held to it, and the root. -/
structure Owner where
  refs : Nat
  root : Root
  deriving DecidableEq, Repr

namespace Owner

/-- Wraps a root in a fresh owner, held once by the importer. -/
def wrap (r : Root) : Owner :=
  ⟨1, r⟩

/-- One more reference. -/
def share (o : Owner) : Owner :=
  { o with refs := o.refs + 1 }

/-- `n` more references. -/
def shareN (o : Owner) : Nat → Owner
  | 0 => o
  | n + 1 => (o.shareN n).share

/-- Drops a reference; the last one releases the root. -/
def drop (o : Owner) : Owner :=
  match o.refs with
  | 0 => o
  | 1 => ⟨0, o.root.release⟩
  | n + 2 => ⟨n + 1, o.root⟩

end Owner

/-- One if a bitmap was read in place. -/
def bitmapInPlace : Option Bitmap → Nat
  | some m => m.foreign.toNat
  | none => 0

namespace Column

mutual

/-- The buffers of a column read in place from a foreign producer: a node's children's before its
own (validity, then values or offsets and data). -/
def inPlace : Column → Nat
  | .null _ => 0
  | .numeric _ d v | .temporal _ _ _ d v | .interval _ d v => bitmapInPlace v + d.foreign.toNat
  | .boolean d v => bitmapInPlace v + d.foreign.toNat
  | .text _ o d v => bitmapInPlace v + o.foreign.toNat + d.foreign.toNat
  | .dictionary _ k v vals _ => inPlace vals + bitmapInPlace v + k.foreign.toNat
  | .struct _ cs v _ => inPlaceAll cs + bitmapInPlace v
  | .list _ _ o vals v => inPlace vals + bitmapInPlace v + o.foreign.toNat

/-- The buffers of columns read in place, in order. -/
def inPlaceAll : List Column → Nat
  | [] => 0
  | c :: cs => inPlace c + inPlaceAll cs

end

end Column

/-- What the caller does with what an import returned, by the index of a handle it holds:
clone it, keep the part of it that refers to the buffers `keep` as a new handle, or drop it. -/
inductive Use where
  | clone (h : Nat)
  | part (h : Nat) (keep : List Nat)
  | drop (h : Nat)
  deriving DecidableEq, Repr

/-- The handles on the buffers an import read in place, the count of handles on each buffer,
and the owner of the imported root. -/
structure Holders where
  handles : List (List Nat)
  counts : Nat → Nat
  owner : Owner

namespace Holders

/-- Nothing holds any buffer; the root's owner is `o`. -/
def bare (o : Owner) : Holders :=
  ⟨[], fun _ => 0, o⟩

/-- What a successful import returns with: one handle on the `k` buffers it read in place,
each held once, and the owner after the importer dropped its own reference. -/
def imported (r : Root) (k : Nat) : Holders :=
  ⟨[List.range k], fun i => if i < k then 1 else 0, ((Owner.wrap r).shareN k).drop⟩

/-- A new handle on the buffers `bs`: each gains one. -/
def hold (s : Holders) (bs : List Nat) : Holders :=
  { s with handles := s.handles ++ [bs],
           counts := fun i => if i ∈ bs then s.counts i + 1 else s.counts i }

/-- Lets go of one handle on buffer `i`; the last one gives the buffer's reference to the owner
back. -/
def unref (s : Holders) (i : Nat) : Holders :=
  { s with counts := fun j => if j = i then s.counts j - 1 else s.counts j,
           owner := if s.counts i = 1 then s.owner.drop else s.owner }

@[simp] theorem hold_handles (s : Holders) (bs : List Nat) :
    (s.hold bs).handles = s.handles ++ [bs] := rfl

@[simp] theorem hold_counts (s : Holders) (bs : List Nat) (i : Nat) :
    (s.hold bs).counts i = if i ∈ bs then s.counts i + 1 else s.counts i := rfl

@[simp] theorem hold_owner (s : Holders) (bs : List Nat) : (s.hold bs).owner = s.owner := rfl

@[simp] theorem unref_handles (s : Holders) (i : Nat) : (s.unref i).handles = s.handles := rfl

theorem unref_counts (s : Holders) (i : Nat) :
    (s.unref i).counts = fun j => if j = i then s.counts j - 1 else s.counts j := rfl

theorem unref_owner (s : Holders) (i : Nat) :
    (s.unref i).owner = if s.counts i = 1 then s.owner.drop else s.owner := rfl

/-- One use; `none` when it names a handle that is not held. -/
def step (s : Holders) : Use → Option Holders
  | .clone h => s.handles[h]?.map s.hold
  | .part h keep => s.handles[h]?.map fun bs => s.hold (bs.filter (· ∈ keep))
  | .drop h => s.handles[h]?.map fun bs =>
    bs.foldl unref { s with handles := s.handles.eraseIdx h }

/-- Uses in order. -/
def run (s : Holders) : List Use → Option Holders
  | [] => some s
  | u :: us => (s.step u).bind (run · us)

/-- Drops the first handle, as a caller that lets go of an import's result. -/
def letGo (s : Holders) : Holders :=
  (s.step (.drop 0)).getD s

end Holders

/-- What an import entry point leaves at its return: its result, what holds the imported
array's memory, and the schema descriptor it was given, if any. -/
structure ImportRun (α : Type) where
  result : Except Error α
  holders : Holders
  schema : Option Root

namespace ArrayNode

/-- Imports a column of a known type: a released root is refused as it is; a live one is
wrapped before anything is read, and the result holds the buffers read in place. -/
def typedRun (a : ArrayNode) (t : DataType) : ImportRun Column :=
  if a.released then ⟨a.importTyped t, .bare ⟨0, a.root⟩, none⟩ else
  match a.importTyped t with
  | .ok c => ⟨.ok c, .imported a.root c.inPlace, none⟩
  | .error e => ⟨.error e, .bare (Owner.wrap a.root).drop, none⟩

/-- Imports a column under a schema it only borrows; a schema that cannot be read has the array
released as it is. -/
def withRun (a : ArrayNode) (s : SchemaNode) : ImportRun Column :=
  match s.toField with
  | .error e => ⟨.error e, .bare ⟨0, a.root.release⟩, some s.root⟩
  | .ok f => { a.typedRun f.type with schema := some s.root }

/-- Imports a series: the schema is released at once, after its field was read and before the
array is. -/
def seriesRun (a : ArrayNode) (s : SchemaNode) : ImportRun Series :=
  match s.toField with
  | .error e => ⟨.error e, .bare ⟨0, a.root.release⟩, some s.root.release⟩
  | .ok f =>
    let run := a.typedRun f.type
    ⟨run.result.map fun c => ⟨f.materialise, c⟩, run.holders, some s.root.release⟩

/-- Imports a table: a series whose struct column becomes the table's columns. The table keeps
its columns' buffers, the first ones; the struct itself is let go at return, and with it the
whole series when no table is made of it. -/
def tableRun (a : ArrayNode) (s : SchemaNode) : ImportRun Table :=
  let run := a.seriesRun s
  match run.result with
  | .error e => ⟨.error e, run.holders, run.schema⟩
  | .ok x =>
    match (do
        let (name, schema) ← Schema.ofRootField x.field
        Table.ofStruct name x.column schema.metadata) with
    | .ok t =>
      let kept := List.range (Column.inPlaceAll (t.columns.map (·.column)))
      ⟨.ok t, ((run.holders.step (.part 0 kept)).getD run.holders).letGo, run.schema⟩
    | .error e => ⟨.error e, run.holders.letGo, run.schema⟩

/-- Imports a series from boxed descriptors, either of which may be a null pointer: the one given
is released when the other is missing. -/
def ownedRun : Option ArrayNode → Option SchemaNode → ImportRun Series
  | some a, some s => a.seriesRun s
  | some a, none => ⟨.error (.nullPointer "ArrowSchema"), .bare ⟨0, a.root.release⟩, none⟩
  | none, some s => ⟨.error (.nullPointer "ArrowArray"), .bare ⟨0, ⟨false, 0⟩⟩, some s.root.release⟩
  | none, none => ⟨.error (.nullPointer "ArrowArray"), .bare ⟨0, ⟨false, 0⟩⟩, none⟩

end ArrayNode

end Columnar
