import Columnar.Descriptor.Array

/-!
# Release ledgers

Descriptors made outside the library (foreign arrays, schemas and streams) count the calls
of their root release callbacks. A `Ledger` holds those counts. A root whose callback is
already gone (a released descriptor) counts nothing when it is let go, and neither does a
descriptor the library made itself.

Every consumer in the library takes ownership of the descriptors it is handed and releases
each exactly once, so a descriptor handed to a consumer is counted at hand-over.
-/

namespace Columnar

/-- Counts of release calls on foreign root descriptors. -/
structure Ledger where
  arrays : Nat := 0
  schemas : Nat := 0
  streams : Nat := 0
  deriving Inhabited, DecidableEq, Repr

namespace Ledger

/-- The ledger after an array root is let go. -/
def array (l : Ledger) (a : ArrayNode) : Ledger :=
  if a.released ∨ !a.foreign then l else { l with arrays := l.arrays + 1 }

/-- The ledger after array roots are let go. -/
def arrayList (l : Ledger) (as : List ArrayNode) : Ledger :=
  as.foldl array l

/-- The ledger after a schema root is let go. -/
def schema (l : Ledger) (s : SchemaNode) : Ledger :=
  if s.released ∨ !s.foreign then l else { l with schemas := l.schemas + 1 }

/-- The ledger after a stream's release callback ran. -/
def stream (l : Ledger) : Ledger :=
  { l with streams := l.streams + 1 }

/-- Counts of two ledgers together. -/
def merge (l m : Ledger) : Ledger :=
  ⟨l.arrays + m.arrays, l.schemas + m.schemas, l.streams + m.streams⟩

end Ledger

end Columnar
