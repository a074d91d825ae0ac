import Columnar.Text.Quote

/-!
# Key/value metadata

Fields and schemas carry string-to-string metadata. Keys are unique and kept in increasing
order (code-point order, which is also the order of their UTF-8 bytes), so two metadata
maps with the same pairs are equal as values and are written the same way.

> `insert` keeps `entries` strictly increasing by key; a key inserted again takes the new
> value, so building from a list keeps the last value of each key.
-/

namespace Columnar

/-- String-to-string metadata, sorted by key, one entry per key. -/
structure Metadata where
  entries : List (String × String)
  deriving DecidableEq, Repr, Inhabited

namespace Metadata

/-- No pairs. -/
def empty : Metadata := ⟨[]⟩

/-- Inserts a pair into a key-sorted list, replacing the value of an equal key. -/
def insertEntry (k v : String) : List (String × String) → List (String × String)
  | [] => [(k, v)]
  | (k', v') :: rest =>
    if k < k' then (k, v) :: (k', v') :: rest
    else if k = k' then (k, v) :: rest
    else (k', v') :: insertEntry k v rest

/-- The map with `k` bound to `v`. -/
def insert (m : Metadata) (k v : String) : Metadata :=
  ⟨insertEntry k v m.entries⟩

/-- The map of a list of pairs; of repeated keys the last value stays. -/
def ofList (pairs : List (String × String)) : Metadata :=
  pairs.foldl (fun m p => m.insert p.1 p.2) empty

/-- Whether there are no pairs. -/
def isEmpty (m : Metadata) : Bool :=
  m.entries.isEmpty

/-- The number of pairs. -/
def size (m : Metadata) : Nat :=
  m.entries.length

/-- `m` with every pair of `other` added, `other` winning on equal keys. -/
def extend (m other : Metadata) : Metadata :=
  other.entries.foldl (fun acc p => acc.insert p.1 p.2) m

/-- The map written as `{"k": "v", ...}`, keys and values quoted. -/
def display (m : Metadata) : String :=
  "\x7b" ++ ", ".intercalate (m.entries.map fun p => Quote.quote p.1 ++ ": " ++ Quote.quote p.2) ++
    "\x7d"

end Metadata

end Columnar
