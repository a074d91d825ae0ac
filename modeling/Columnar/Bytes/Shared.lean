import Columnar.Error
import Columnar.Bytes.Hex

/-!
# Shared byte storage

Buffers share their storage: cloning or cutting a buffer makes one more reference to the
same bytes, and dropping a buffer removes one. Storage that lives for the whole program
keeps no count and reports none; counted storage frees its owner when the last reference
goes, and `drops` records how many times that happened (once at most, as no reference
can be made to freed storage).

Every storage starts on a 64-byte boundary, so a buffer `start` bytes in is aligned for
any element whose width divides `start`.
-/

namespace Columnar

/-- How a storage is kept alive. -/
inductive Backing where
  /-- For the whole program: no count of references is kept. -/
  | static
  /-- Until its last reference goes: `refs` references are live. -/
  | counted (refs : Nat)
  deriving DecidableEq, Repr

/-- A byte storage, how it is kept alive, and how many times its owner was dropped. -/
structure Storage where
  bytes : List UInt8
  backing : Backing
  drops : Nat := 0
  deriving Repr

namespace Storage

/-- Storage owned by one buffer. -/
def owned (bytes : List UInt8) : Storage := ⟨bytes, .counted 1, 0⟩

/-- Storage for the whole program. -/
def static (bytes : List UInt8) : Storage := ⟨bytes, .static, 0⟩

/-- The live references the storage reports: none for static storage. -/
def refCount (s : Storage) : Nat :=
  match s.backing with
  | .static => 0
  | .counted n => n

/-- A buffer is the only owner of its storage: static storage always counts as such. -/
def isUnique (s : Storage) : Bool :=
  s.refCount ≤ 1

/-- One more reference. -/
def retain (s : Storage) : Storage :=
  match s.backing with
  | .static => s
  | .counted n => { s with backing := .counted (n + 1) }

/-- One reference less; the owner is dropped with the last one. -/
def release (s : Storage) : Storage :=
  match s.backing with
  | .static => s
  | .counted n =>
    { s with backing := .counted (n - 1), drops := if n = 1 then s.drops + 1 else s.drops }

end Storage

/-- A buffer: the bytes `[start, start + len)` of its storage. -/
structure SharedBytes where
  start : Nat
  len : Nat
  deriving DecidableEq, Repr

/-- The bounds of a range of bytes: each end may be missing (open), and the start may be
excluded or the end included. -/
structure ByteRange where
  start : Option Nat := none
  excludeStart : Bool := false
  stop : Option Nat := none
  includeStop : Bool := false

namespace ByteRange

/-- The first byte a range selects: its start, the byte after it when the start is excluded, or
byte 0 when there is none. -/
def firstByte (r : ByteRange) : Outcome Nat :=
  match r.start with
  | none => pure 0
  | some n => if r.excludeStart then addWords n 1 else pure n

/-- Where the bytes a range selects from `len` bytes end: its end, the byte after it when the
end is included, or `len` when there is none. -/
def stopByte (r : ByteRange) (len : Nat) : Outcome Nat :=
  match r.stop with
  | none => pure len
  | some n => if r.includeStop then addWords n 1 else pure n

end ByteRange

namespace SharedBytes

/-- The whole of a storage. -/
def whole (s : Storage) : SharedBytes := ⟨0, s.bytes.length⟩

/-- The bytes of the buffer. -/
def read (b : SharedBytes) (s : Storage) : List UInt8 :=
  (s.bytes.drop b.start).take b.len

/-- The hex text of the buffer's bytes. -/
def hex (b : SharedBytes) (s : Storage) : String :=
  Hex.encode (b.read s)

/-- The buffer starts on a 64-byte boundary, or holds nothing. -/
def aligned64 (b : SharedBytes) : Bool :=
  b.len == 0 || b.start % 64 == 0

/-- The bytes a range selects, `[first, last)` relative to the buffer, checked to lie in
it. -/
def cut (b : SharedBytes) (r : ByteRange) : Outcome SharedBytes := do
  let first ← r.firstByte
  let last ← r.stopByte b.len
  if first ≤ last ∧ last ≤ b.len then pure ⟨b.start + first, last - first⟩
  else throw (.panic ("SharedBuffer::slice: " ++ toString first ++ ".." ++ toString last ++
    " out of bounds for length " ++ toString b.len))

end SharedBytes

end Columnar
