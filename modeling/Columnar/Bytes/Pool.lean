import Columnar.Bytes.Typed

/-!
# Buffers a program holds

A program holds its buffers through handles. A handle refers to one storage and a range of its
bytes; a typed buffer also reads a window of elements from those bytes. A `Pool` is every
storage made so far and every handle made so far, in the order they were made, a handle
becoming `none` once it is let go. Storages and handles are named by their position.

Each operation a program makes on its buffers is a `BufferOp`:

* `owned` and `static` make a storage and a first handle on all of it: counted storage (over
  an owner, a vector copied into aligned storage, or an aligned vector moved), or data that
  lives for the whole program;
* `clone` makes one more handle on the same bytes, and `slice` one on a range of them, checked
  before anything is made;
* `drop` lets a handle go, and with its storage's last reference the storage's owner;
* `typed` takes a handle over as elements of a kind: bytes that are not a whole number of
  elements are refused and the handle goes; bytes whose start is not aligned for the element
  are copied into fresh storage and the handle goes; aligned bytes keep the handle's storage;
* `window` makes a typed handle on elements `[o, o + l)` of a typed handle, checked.

A handle that was let go cannot be named again, which the language enforces: an operation
that names one changes nothing.
-/

namespace Columnar

/-- The elements a typed buffer reads: their kind, and elements `[first, first + count)` of its
bytes read at the kind's width. -/
structure ElementWindow where
  kind : NumericKind
  first : Nat
  count : Nat
  deriving DecidableEq, Repr

/-- A buffer a program holds: a range of the bytes of storage `storage`, read as elements when
the buffer is typed. -/
structure Handle where
  storage : Nat
  bytes : SharedBytes
  elements : Option ElementWindow := none
  deriving DecidableEq, Repr

/-- Every storage made so far, and every handle made so far, `none` once let go. -/
structure Pool where
  storages : List Storage := []
  handles : List (Option Handle) := []
  deriving Repr

/-- An operation of a program on its buffers, naming handles by position. -/
inductive BufferOp where
  /-- A buffer over new counted storage. -/
  | owned (bytes : List UInt8)
  /-- A buffer over data that lives for the whole program. -/
  | static (bytes : List UInt8)
  | clone (handle : Nat)
  | slice (handle : Nat) (range : ByteRange)
  | drop (handle : Nat)
  /-- Takes a buffer over as elements of a kind. -/
  | typed (handle : Nat) (kind : NumericKind)
  /-- A typed buffer of elements `[o, o + l)` of a typed buffer. -/
  | window (handle : Nat) (o l : Nat)

namespace Pool

/-- The pool of a program that holds nothing yet. -/
def empty : Pool := {}

/-- Handle `i`, while it is held. -/
def handle? (p : Pool) (i : Nat) : Option Handle :=
  (p.handles[i]?).join

/-- Storage `k`, if it was made. -/
def storage? (p : Pool) (k : Nat) : Option Storage :=
  p.storages[k]?

/-- The number of handles held on storage `k`. -/
def holders (p : Pool) (k : Nat) : Nat :=
  p.handles.countP fun h => h.any (·.storage == k)

/-- The references storage `k` reports, as any handle on it answers: none for static data. -/
def refCount (p : Pool) (k : Nat) : Nat :=
  ((p.storage? k).map Storage.refCount).getD 0

/-- How many times the owner of storage `k` was dropped. -/
def drops (p : Pool) (k : Nat) : Nat :=
  ((p.storage? k).map Storage.drops).getD 0

/-- The position the next handle takes. -/
def fresh (p : Pool) : Nat :=
  p.handles.length

/-- Makes a storage with one handle on all of its bytes. -/
def make (p : Pool) (s : Storage) (elements : Option ElementWindow := none) : Pool :=
  ⟨p.storages ++ [s], p.handles ++ [some ⟨p.storages.length, SharedBytes.whole s, elements⟩]⟩

/-- Holds one more handle, with one more reference to its storage. -/
def hold (p : Pool) (h : Handle) : Pool :=
  ⟨p.storages.modify h.storage Storage.retain, p.handles ++ [some h]⟩

/-- Lets handle `i`, which is `h`, go, with one reference to its storage. -/
def letGo (p : Pool) (i : Nat) (h : Handle) : Pool :=
  ⟨p.storages.modify h.storage Storage.release, p.handles.set i none⟩

/-- Moves handle `i` into `h`, a handle on the same storage: no reference is made or lost. -/
def move (p : Pool) (i : Nat) (h : Handle) : Pool :=
  ⟨p.storages, p.handles.set i none ++ [some h]⟩

/-- Takes handle `i`, which is `h` over storage `s`, as elements of kind `k`: refused when its
bytes are not whole elements, copied into fresh storage when their start is not aligned for the
element, kept otherwise. -/
def takeTyped (p : Pool) (i : Nat) (h : Handle) (s : Storage) (k : NumericKind) :
    Outcome Unit × Pool :=
  match TypedBuffer.ofShared k h.bytes s with
  | .error e => (.error (.error e), p.letGo i h)
  | .ok t =>
    let elements : ElementWindow := ⟨k, 0, t.len⟩
    if t.copied then (.ok (), (p.make (Storage.owned (h.bytes.read s)) (some elements)).letGo i h)
    else (.ok (), p.move i { h with elements := some elements })

/-- One operation: whether it went through, and the pool after it. A broken precondition is
caught before anything is made, so it leaves the pool as it was. -/
def step (p : Pool) : BufferOp → Outcome Unit × Pool
  | .owned bytes => (.ok (), p.make (Storage.owned bytes))
  | .static bytes => (.ok (), p.make (Storage.static bytes))
  | .clone i =>
    match p.handle? i with
    | some h => (.ok (), p.hold h)
    | none => (.ok (), p)
  | .slice i r =>
    match p.handle? i with
    | some h =>
      match h.bytes.cut r with
      | .ok b => (.ok (), p.hold ⟨h.storage, b, none⟩)
      | .error f => (.error f, p)
    | none => (.ok (), p)
  | .drop i =>
    match p.handle? i with
    | some h => (.ok (), p.letGo i h)
    | none => (.ok (), p)
  | .typed i k =>
    match p.handle? i with
    | some h =>
      match p.storage? h.storage with
      | some s => p.takeTyped i h s k
      | none => (.ok (), p)
    | none => (.ok (), p)
  | .window i o l =>
    match p.handle? i with
    | some h =>
      match h.elements with
      | some w =>
        match checkElements o l w.count with
        | .ok () => (.ok (), p.hold { h with elements := some ⟨w.kind, w.first + o, l⟩ })
        | .error f => (.error f, p)
      | none => (.ok (), p)
    | none => (.ok (), p)

/-- Runs operations in order: what each answered, and the pool after them. -/
def run (p : Pool) : List BufferOp → List (Outcome Unit) × Pool
  | [] => ([], p)
  | op :: ops =>
    let (r, q) := p.step op
    let (rs, q') := q.run ops
    (r :: rs, q')

/-- The range of bytes of handle `i`, empty once it was let go. -/
def bytesOf (p : Pool) (i : Nat) : SharedBytes :=
  ((p.handle? i).map (·.bytes)).getD ⟨0, 0⟩

/-- The references the storage of handle `i` reports: what `ref_count` answers on it. -/
def refsOf (p : Pool) (i : Nat) : Nat :=
  ((p.handle? i).map fun h => p.refCount h.storage).getD 0

/-- The bytes handle `i` holds. -/
def read (p : Pool) (i : Nat) : List UInt8 :=
  match p.handle? i with
  | some h => ((p.storage? h.storage).map h.bytes.read).getD []
  | none => []

end Pool

end Columnar
