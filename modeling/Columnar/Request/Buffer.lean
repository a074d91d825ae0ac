import Columnar.Bytes.Pool
import Columnar.Json.Column

/-!
# Requests on shared buffers

A `buffer_api` request follows buffers through their references, in one of three forms:

* `owner`: a buffer over counted storage, a clone, and the first half held as a window;
  the tail from byte 1 is read and let go. The buffer, the clone and the window are then
  dropped in that order, and the storage's owner is dropped with the last of them;
* `typed_values`: elements written as little-endian bytes, into storage copied from a
  vector and into storage moved from an aligned vector;
* otherwise: a buffer over static storage or owned storage (a vector is copied and an
  aligned vector moved, both into aligned storage), cut by each range in turn while the
  cut is held, and, given an element type, read as typed elements after `skip` bytes.

A typed read holds the cut it reads and a clone handed to it, so shared storage then has
three references. A read that copies has fresh storage of its own.
-/

namespace Columnar

namespace Request

/-- Reads a byte range: `start`, `end`, `inclusive` (the end is in the range) and
`exclusive_start` (the start is not). -/
def byteRangeOfDoc (d : Doc) : Decode ByteRange := do
  pure ⟨← d.get? "start" Doc.toNat, ← d.getD "exclusive_start" Doc.toBool false,
    ← d.get? "end" Doc.toNat, ← d.getD "inclusive" Doc.toBool false⟩

/-- The element kind an element name names. -/
def elementKind (name : String) : Decode NumericKind :=
  match NumericKind.ofElementName? name with
  | some k => pure k
  | none => throw ("unknown element type '" ++ name ++ "'")

/-- The word of an element value: floats by the float rules, integers in two's
complement. -/
def elementWord (k : NumericKind) (d : Doc) : Decode Nat :=
  match k with
  | .float32 => d.toSingleBits
  | .float64 => d.toDoubleBits
  | k => wordOfDoc k.width d

/-- Elements as JSON values. -/
def wordsDoc (k : NumericKind) (ws : List Nat) : Doc :=
  .arr (ws.map fun w => (k.scalar w).plainDoc)

/-- Slices handle `i` by a range, reads the slice and lets it go: the slice's bytes in hex, or
the panic of the slice. -/
def readSlice (p : Pool) (i : Nat) (r : ByteRange) : Doc × Pool :=
  match p.step (.slice i r) with
  | (.ok (), q) => (.str (Hex.encode (q.read p.fresh)), (q.step (.drop p.fresh)).2)
  | (.error f, q) => (f.toDoc, q)

/-- The references a storage reports at each drop of a buffer, its clone and a window of
its first half. -/
def ownerReport (bytes : List UInt8) : Doc :=
  -- the buffer is handle 0 and its clone handle 1; the tail is read and let go, and the window
  -- of the first half is held until the end
  let p := (Pool.empty.run [.owned bytes, .clone 0]).2
  let (tail, p) := readSlice p 0 ⟨some 1, false, none, false⟩
  let held := p.fresh
  let p := (p.step (.slice 0 ⟨none, false, some ((p.bytesOf 0).len / 2), false⟩)).2
  let first := Doc.obj [("refs", .nat (p.refsOf 0)), ("unique", .bool (p.refsOf 0 ≤ 1)),
    ("drops", .nat (p.drops 0)), ("tail", tail)]
  let p := (p.step (.drop 0)).2
  let second := Doc.obj [("refs", .nat (p.refsOf 1)), ("drops", .nat (p.drops 0))]
  let p := (p.step (.drop 1)).2
  let third := Doc.obj [("refs", .nat (p.refsOf held)), ("unique", .bool (p.refsOf held ≤ 1)),
    ("drops", .nat (p.drops 0)), ("hex", .str (Hex.encode (p.read held)))]
  let p := (p.step (.drop held)).2
  .obj [("owner", .arr [first, second, third, .obj [("drops", .nat (p.drops 0))]])]

/-- Elements written into storage copied from a vector and storage moved from an aligned
vector. -/
def typedValuesReport (k : NumericKind) (words : List Nat) : Doc :=
  let bytes := LittleEndian.ofWords k.width words
  let p := (Pool.empty.run [.owned bytes, .owned bytes]).2
  let empty := Pool.empty.make (Storage.static [])
  .obj [("hex", .str (Hex.encode bytes)), ("len", .nat bytes.length),
    ("eq_vec64", .bool (p.read 0 == p.read 1)),
    ("refs", .arr [.nat (p.refsOf 0), .nat (p.refsOf 1)]),
    ("aligned64", .arr [.bool (p.bytesOf 0).aligned64, .bool (p.bytesOf 1).aligned64]),
    ("as_slice_len", .nat (empty.bytesOf 0).len)]

/-- The cut of handle 0 from `skip` bytes on, held while a clone of it is read as elements of a
kind. -/
def typedReport (p : Pool) (k : NumericKind) (skip : Nat) (windows : List (Nat × Nat)) : Doc :=
  match p.step (.slice 0 ⟨some skip, false, none, false⟩) with
  | (.error f, _) => f.toDoc
  | (.ok (), q) =>
    let region := p.fresh
    let q := (q.step (.clone region)).2
    let read := TypedBuffer.ofShared k (q.bytesOf region) ((q.storage? 0).getD (.static []))
    let (taken, q) := q.step (.typed (region + 1) k)
    match taken, read with
    | .error f, _ => f.toDoc
    | .ok (), .error e => e.toDoc
    | .ok (), .ok t =>
      let same := Doc.bool t.selfEqual
      .obj [("values", wordsDoc k t.words), ("len", .nat t.len), ("is_empty", .bool (t.len == 0)),
        ("owner_refs", .nat (q.refsOf (q.fresh - 1))), ("eq_from_slice", same),
        ("eq_from_vec", same), ("eq_from_ref", same), ("eq_collect", same), ("eq_vec64", same),
        ("eq_into_vec64", same), ("eq_as_ref", same), ("debug", .str t.debugText),
        ("aligned64", .bool t.aligned64), ("default_len", .nat 0),
        ("empty_ptr_non_null", .bool true),
        ("slices", .arr (windows.map fun (o, l) => outcomeDoc (wordsDoc k) (t.slice o l)))]

/-- Each range's slice of handle 0, held while it is reported, then let go. -/
def rangeReports : Pool → List ByteRange → List Doc × Pool
  | p, [] => ([], p)
  | p, r :: rs =>
    let (d, p) := match p.step (.slice 0 r) with
      | (.ok (), q) =>
        let w := p.fresh
        (.obj [("hex", .str (Hex.encode (q.read w))), ("len", .nat (q.bytesOf w).len),
          ("refs_while_held", .nat (q.refsOf 0)), ("is_unique", .bool (q.refsOf 0 ≤ 1))],
          (q.step (.drop w)).2)
      | (.error f, q) => (f.toDoc, q)
    let (ds, p) := rangeReports p rs
    (d :: ds, p)

/-- A buffer over a storage: its accessors, a clone, cuts by ranges, and a typed read. -/
def sharedReport (s : Storage) (ranges : List ByteRange)
    (typed : Option (NumericKind × Nat × List (Nat × Nat))) : Doc :=
  -- the buffer is handle 0; its clone is handle 1, reported and let go
  let p := Pool.empty.make s
  let cloned := (p.step (.clone 0)).2
  let b := p.bytesOf 0
  let (rangeDocs, after) := rangeReports (cloned.step (.drop 1)).2 ranges
  let typedMembers := match typed with
    | some (k, skip, windows) => [("typed", typedReport after k skip windows)]
    | none => []
  .obj ([("len", .nat b.len), ("is_empty", .bool (b.len == 0)), ("ref_count", .nat (p.refsOf 0)),
    ("is_unique", .bool (p.refsOf 0 ≤ 1)),
    ("debug", .str ("SharedBuffer \x7b len: " ++ toString b.len ++ ", refs: " ++
      toString (p.refsOf 0) ++ " \x7d")),
    ("eq_vec", .bool (p.read 0 == (Pool.empty.make (Storage.owned (p.read 0))).read 0)),
    ("clone_refs", .arr [.nat (cloned.refsOf 1), .nat (cloned.refsOf 0), .bool true]),
    ("deref_hex", .str (Hex.encode (p.read 0))), ("as_ref_len", .nat (p.read 0).length),
    ("new_empty", .bool (((Pool.empty.make (Storage.static [])).bytesOf 0).len == 0)),
    ("default_len", .nat 0),
    ("ranges", .arr rangeDocs), ("after_ranges_refs", .nat (after.refsOf 0))] ++ typedMembers)

/-- Follows buffers through their references. -/
def bufferApi (req : Doc) : Decode Doc := do
  if let some owner := req.member? "owner" then
    return ownerReport (← owner.toBytes)
  if let some tv := req.member? "typed_values" then
    let k ← elementKind (← tv.get "elem" Doc.toStr)
    return typedValuesReport k (← tv.get "values" (Doc.mapItems (elementWord k)))
  let bytes ← req.get "hex" Doc.toBytes
  let static ← req.getD "static" Doc.toBool false
  let storage := if static then Storage.static bytes else Storage.owned bytes
  let ranges ← req.getD "ranges" (Doc.mapItems byteRangeOfDoc) []
  let typed ← match ← req.get? "elem" Doc.toStr with
    | some name =>
      let k ← elementKind name
      let skip ← req.getD "skip" Doc.toNat 0
      let windows ← req.getD "slices" (Doc.mapItems Doc.toWindow) []
      pure (some (k, skip, windows))
    | none => pure none
  pure (sharedReport storage ranges typed)

end Request

end Columnar
