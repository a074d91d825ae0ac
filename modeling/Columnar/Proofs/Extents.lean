import Columnar.Descriptor.Import
import Columnar.Proofs.Basic
import Columnar.Proofs.Window
/-!
# The bytes a reader may touch

The C data interface fixes, for each buffer of a node read as a type, how many bytes a
consumer may read: with `n = offset + length` slots up to the window's end,

* a validity or boolean bitmap holds `⌈n / 8⌉` bytes,
* fixed-width values (and dictionary keys) hold `n * width` bytes,
* offsets hold `(n + 1) * width` bytes, and string data as many bytes as offset `n` says,
* string views hold `16 * n` bytes, the variadic sizes `8` bytes per data buffer, and data
  buffer `k` as many bytes as size `k` says.

`ArrayNode.extent` is that table, and `ArrayNode.clip` cuts a whole descriptor tree to it:
every buffer to its extent, no buffer pointer past `nBuffers`, no child past `nChildren` or
past the children the type has, and no dictionary unless the type is a dictionary. A node
that holds fewer bytes than its extent is cut to what it holds.

This module shows that each buffer reader of a checked view reads inside the extents it is
given: the same reader on `w.clipTo e` returns what it returns on `w`,

> `(w.clipTo e).strings sc large = w.strings sc large` once `e` covers the prescribed bytes,

and likewise for validity, values, bits, offsets, intervals and string views.
-/

namespace Columnar

/-- The bytes of one value of a fixed-width type as the C data interface lays it out; zero for
the types whose values are not fixed-width words. -/
def DataType.valueWidth : DataType → Nat
  | .int8 | .uint8 => 1
  | .int16 | .uint16 => 2
  | .int32 | .uint32 | .float32 | .date32 | .time32 _ => 4
  | .int64 | .uint64 | .float64 | .date64 | .time64 _ | .timestamp _ _ | .duration _ => 8
  | _ => 0

/-- The types of a node's children: a struct's fields, or a list's item. -/
def DataType.childTypes : DataType → List DataType
  | .struct fs => fs.map Field.type
  | .list item | .largeList item => [item.type]
  | _ => []

namespace Region

/-- The first `n` bytes of a region. -/
def cut (r : Region) (n : Nat) : Region :=
  ⟨r.bytes.take n, r.misaligned⟩

/-- Word `k` of a region of `width`-byte little-endian words, zero past its end. -/
def wordAt (r : Region) (width k : Nat) : Nat :=
  LittleEndian.value (LittleEndian.region r.bytes (k * width) width)

end Region

/-- Buffer pointers `0` to `n - 1`, each cut to its extent. -/
def cutSlots (n : Nat) (e : Nat → Nat) (bs : List (Option Region)) : List (Option Region) :=
  (bs.take n).mapIdx fun i r => r.map (·.cut (e i))

namespace ArrayNode

/-- The region buffer pointer `i` of a node points at. -/
def slotAt (a : ArrayNode) (i : Nat) : Option Region :=
  match a.buffers with
  | some bs => bs.getD i none
  | none => none

/-- The bytes the C data interface prescribes for buffer `i` of a node read as type `t`. -/
def extent (a : ArrayNode) (t : DataType) (i : Nat) : Nat :=
  let n := a.offset.toNat + a.length.toNat
  match t, i with
  | _, 0 => (n + 7) / 8
  | .boolean, 1 => (n + 7) / 8
  | .string, 1 | .list _, 1 => (n + 1) * 4
  | .largeString, 1 | .largeList _, 1 => (n + 1) * 8
  | .string, 2 => ((a.slotAt 1).map (·.wordAt 4 n)).getD 0
  | .largeString, 2 => ((a.slotAt 1).map (·.wordAt 8 n)).getD 0
  | .stringView, 1 => 16 * n
  | .stringView, k + 2 =>
    -- the sizes buffer follows the data buffers, one signed 64-bit size per data buffer
    let count := (a.nBuffers - 3).toNat
    if k = count then count * 8
    else ((a.slotAt (count + 2)).map fun r => (LittleEndian.toInt 8 (r.wordAt 8 k)).toNat).getD 0
  | .interval u, 1 => n * (u.words * 4)
  | .dictionary index _ _, 1 => n * index.kind.width
  | t, 1 => n * t.valueWidth
  | _, _ => 0

/-- A string-view node's sizes buffer holds one 8-byte size per data buffer. -/
theorem extent_stringView_sizes (a : ArrayNode) :
    a.extent .stringView ((a.nBuffers - 3).toNat + 2) = (a.nBuffers - 3).toNat * 8 := by
  simp [extent]

/-- A string-view node's data buffer `k` holds as many bytes as its size says. -/
theorem extent_stringView_data {a : ArrayNode} {k : Nat} (hk : k ≠ (a.nBuffers - 3).toNat) :
    a.extent .stringView (k + 2) = ((a.slotAt ((a.nBuffers - 3).toNat + 2)).map fun r =>
      (LittleEndian.toInt 8 (r.wordAt 8 k)).toNat).getD 0 := by
  simp [extent, hk]

mutual

/-- A descriptor tree cut to what a reader of type `t` may read: each buffer to its extent, no
buffer pointer past `nBuffers`, no child past `nChildren` or the type's children, each child cut
for its own type, and the dictionary kept only for a dictionary type. -/
def clip : ArrayNode → DataType → ArrayNode
  | a@⟨length, nullCount, offset, nBuffers, buffers, nChildren, children, dictionary, released,
      foreign⟩, t =>
    ⟨length, nullCount, offset, nBuffers, buffers.map (cutSlots nBuffers.toNat (a.extent t)),
      nChildren, clipChildren nChildren.toNat t.childTypes children,
      clipDictionary t dictionary, released, foreign⟩

/-- The dictionary of a node of type `t`, cut for the dictionary's value type. -/
def clipDictionary : DataType → Option ArrayNode → Option ArrayNode
  | .dictionary _ v _, some d => some (clip d v)
  | _, _ => none

/-- The first `n` child pointers, each child cut for its type. -/
def clipChildren (n : Nat) (tys : List DataType) : Option (List (Option ArrayNode)) →
    Option (List (Option ArrayNode))
  | some slots => some (clipSlots n tys slots)
  | none => none

/-- Child pointers cut to the first `n` and to the types given, each child cut for its type. -/
def clipSlots : Nat → List DataType → List (Option ArrayNode) → List (Option ArrayNode)
  | n + 1, t :: ts, c :: cs => clipSlot t c :: clipSlots n ts cs
  | _, _, _ => []

/-- One child pointer, its child cut for the type. -/
def clipSlot (t : DataType) : Option ArrayNode → Option ArrayNode
  | some c => some (clip c t)
  | none => none

end

theorem clipSlots_nil (n : Nat) (tys : List DataType) : clipSlots n tys [] = [] := by
  cases n <;> cases tys <;> rfl

theorem isNone_clipChildren (n : Nat) (tys : List DataType)
    (ch : Option (List (Option ArrayNode))) : (clipChildren n tys ch).isNone = ch.isNone := by
  cases ch <;> rfl

theorem clipDictionary_dictionary (i : IndexType) (v : DataType) (o : Bool)
    (d : Option ArrayNode) : clipDictionary (.dictionary i v o) d = d.map (clip · v) := by
  cases d <;> rfl

end ArrayNode

/-- Words split from a piece are the little-endian words of its bytes. -/
theorem Piece.items_of_words {p : Piece} {width : Nat} {s : Buffer Nat}
    (h : p.words width = .ok s) : s.items = LittleEndian.words width p.bytes := by
  unfold Piece.words at h
  split at h
  · cases h
  · cases h
    rfl

namespace NodeView

/-- A view with its buffer pointers `0` to `nBuffers - 1` each cut to its extent. -/
def clipTo (w : NodeView) (e : Nat → Nat) : NodeView :=
  { w with buffers := w.buffers.map (cutSlots w.nBuffers.toNat e) }

variable {w : NodeView} {e : Nat → Nat}

@[simp] theorem clipTo_type : (w.clipTo e).type = w.type := rfl
@[simp] theorem clipTo_len : (w.clipTo e).len = w.len := rfl
@[simp] theorem clipTo_offset : (w.clipTo e).offset = w.offset := rfl
@[simp] theorem clipTo_nullCount : (w.clipTo e).nullCount = w.nullCount := rfl
@[simp] theorem clipTo_nBuffers : (w.clipTo e).nBuffers = w.nBuffers := rfl
@[simp] theorem clipTo_stop : (w.clipTo e).stop = w.stop := rfl

/-- Reading a cut view as another type is reading the view as that type, cut. -/
theorem clipTo_withType (k : DataType) :
    ({ w.clipTo e with type := k } : NodeView) = ({ w with type := k } : NodeView).clipTo e := rfl

theorem slot_clipTo {i : Nat} (hi : i < w.nBuffers.toNat) :
    (w.clipTo e).slot i = (w.slot i).map (·.cut (e i)) := by
  cases hb : w.buffers with
  | none => simp [clipTo, slot, hb]
  | some bs =>
    simp only [clipTo, slot, hb, Option.map_some, cutSlots]
    simp only [List.getD_eq_getElem?_getD, List.getElem?_mapIdx, List.getElem?_take, if_pos hi]
    cases bs[i]? <;> rfl

/-- A read of `n ≤ e i` bytes at pointer `i` sees only the pointer's first `e i` bytes. -/
theorem raw_clipTo {i n : Nat} (hi : i < w.nBuffers.toNat) (hn : n ≤ e i) :
    (w.clipTo e).raw i n = w.raw i n := by
  rw [raw, raw, slot_clipTo hi]
  cases w.slot i with
  | none => rfl
  | some r => simp only [Option.map_some, Region.cut, LittleEndian.region_take hn]

theorem required_clipTo {i n : Nat} (hi : i < w.nBuffers.toNat) (hn : n ≤ e i) (what : String) :
    (w.clipTo e).required i n what = w.required i n what := by
  simp only [required, raw_clipTo hi hn, clipTo_type]

theorem byteCount_clipTo (count width : Nat) :
    (w.clipTo e).byteCount count width = w.byteCount count width := rfl

theorem byteCount_eq_ok {count width n : Nat} (h : w.byteCount count width = .ok n) :
    n = count * width := by
  unfold byteCount at h
  split at h
  · cases h
    rfl
  · cases h

/-! ## Fixed-width buffers -/

/-- The validity bitmap reads its `⌈stop / 8⌉` prescribed bytes. -/
theorem validity_clipTo (h0 : 0 < w.nBuffers.toNat) (he : (w.stop + 7) / 8 ≤ e 0) :
    (w.clipTo e).validity = w.validity := by
  simp only [validity, clipTo_stop, raw_clipTo h0 he, clipTo_nullCount, clipTo_type,
    clipTo_offset, clipTo_len]

theorem values_clipTo {width : Nat} (h1 : 1 < w.nBuffers.toNat) (he : w.stop * width ≤ e 1) :
    (w.clipTo e).values 1 width = w.values 1 width := by
  simp only [values, byteCount_clipTo, clipTo_stop, clipTo_offset, clipTo_len]
  cases hc : w.byteCount w.stop width with
  | error err => rfl
  | ok n =>
    rw [byteCount_eq_ok hc]
    simp only [bind, Except.bind, required_clipTo h1 he]

theorem bits_clipTo (h1 : 1 < w.nBuffers.toNat) (he : (w.stop + 7) / 8 ≤ e 1) :
    (w.clipTo e).bits 1 = w.bits 1 := by
  simp only [bits, clipTo_stop, required_clipTo h1 he, clipTo_offset, clipTo_len]

theorem offsets_clipTo {width : Nat} (h1 : 1 < w.nBuffers.toNat)
    (he : (w.stop + 1) * width ≤ e 1) :
    (w.clipTo e).offsets 1 width = w.offsets 1 width := by
  simp only [offsets, byteCount_clipTo, clipTo_stop, clipTo_offset, clipTo_len, clipTo_type]
  cases hc : w.byteCount (w.stop + 1) width with
  | error err => rfl
  | ok n =>
    rw [byteCount_eq_ok hc]
    simp only [bind, Except.bind, raw_clipTo h1 he]
    rfl

theorem numeric_clipTo {k : NumericKind} (h1 : 1 < w.nBuffers.toNat)
    (he0 : (w.stop + 7) / 8 ≤ e 0) (he1 : w.stop * k.width ≤ e 1) :
    (w.clipTo e).numeric k = w.numeric k := by
  simp only [numeric, values_clipTo h1 he1, validity_clipTo (by omega) he0]

theorem temporal_clipTo {k : TemporalKind} {u : TimeUnit} {z : Option String}
    (h1 : 1 < w.nBuffers.toNat) (he0 : (w.stop + 7) / 8 ≤ e 0) (he1 : w.stop * k.width ≤ e 1) :
    (w.clipTo e).temporal k u z = w.temporal k u z := by
  simp only [temporal, values_clipTo h1 he1, validity_clipTo (by omega) he0]

theorem intervals_clipTo {u : IntervalUnit} (h1 : 1 < w.nBuffers.toNat)
    (he0 : (w.stop + 7) / 8 ≤ e 0) (he1 : w.stop * (u.words * 4) ≤ e 1) :
    (w.clipTo e).intervals u = w.intervals u := by
  simp only [intervals, byteCount_clipTo, clipTo_stop, clipTo_offset, clipTo_len,
    validity_clipTo (by omega) he0]
  cases hc : w.byteCount w.stop (u.words * 4) with
  | error err => rfl
  | ok n =>
    rw [byteCount_eq_ok hc]
    simp only [bind, Except.bind, required_clipTo h1 he1]

/-! ## Variable-length buffers

The string data a node may read ends at its last offset, and each data buffer of a string-view
node at the size the sizes buffer gives it: the extents of these buffers are read from other
buffers, inside those buffers' own extents. -/

/-- The last offset of the node's slots is offset `stop` of the buffer, or zero when the
pointer is null. -/
theorem offsets_getLastD {width : Nat} (hw : 0 < width) {off : Buffer Nat}
    (h : w.offsets 1 width = .ok off) :
    off.items.getLastD 0 = ((w.slot 1).map (·.wordAt width w.stop)).getD 0 := by
  unfold offsets at h
  cases hc : w.byteCount (w.stop + 1) width with
  | error err => rw [hc] at h; cases h
  | ok c =>
    rw [hc, byteCount_eq_ok hc] at h
    simp only [bind, Except.bind] at h
    cases hs : w.slot 1 with
    | none =>
      -- a null pointer holds no offsets but the one of an empty node
      have hraw : w.raw 1 ((w.stop + 1) * width) = none := by simp [raw, hs]
      simp only [hraw] at h
      split at h
      · cases h
        rfl
      · cases h
    | some r =>
      have hpos : (w.stop + 1) * width ≠ 0 := Nat.mul_ne_zero (Nat.succ_ne_zero _) (by omega)
      have hraw : w.raw 1 ((w.stop + 1) * width) =
          some ⟨LittleEndian.region r.bytes 0 ((w.stop + 1) * width), r.misaligned, true⟩ := by
        simp [raw, hs, hpos]
      have hmod : (LittleEndian.region r.bytes 0 ((w.stop + 1) * width)).length % width = 0 := by
        rw [LittleEndian.length_region, Nat.mul_mod_left]
      obtain ⟨fl, hwords⟩ : ∃ fl, (⟨LittleEndian.region r.bytes 0 ((w.stop + 1) * width),
          r.misaligned, true⟩ : Piece).words width =
          .ok ⟨LittleEndian.words width (LittleEndian.region r.bytes 0 ((w.stop + 1) * width)),
            fl⟩ := by
        rw [Piece.words, if_neg fun hne => hne hmod]
        exact ⟨_, rfl⟩
      simp only [hraw, hwords] at h
      split at h
      · cases h
      · cases h
        -- the window's last offset is word `stop` of the bytes read
        have hsize : (⟨LittleEndian.words width
            (LittleEndian.region r.bytes 0 ((w.stop + 1) * width)), fl⟩ : Buffer Nat).size =
            w.stop + 1 := by
          rw [Buffer.size, LittleEndian.length_words hw, LittleEndian.length_region,
            Nat.mul_div_cancel _ hw]
        rw [Buffer.getLastD_eq_get (Buffer.size_window _ (by rw [hsize]; exact Nat.le_refl _)),
          Buffer.get_window _ _ (Nat.lt_succ_self _)]
        exact LittleEndian.getD_words_region hw (Nat.le_refl _)

theorem strings_clipTo (sc : Scrutiny) (large : Bool) (h2 : 2 < w.nBuffers.toNat)
    (he0 : (w.stop + 7) / 8 ≤ e 0) (he1 : (w.stop + 1) * offsetWidth large ≤ e 1)
    (he2 : ((w.slot 1).map (·.wordAt (offsetWidth large) w.stop)).getD 0 ≤ e 2) :
    (w.clipTo e).strings sc large = w.strings sc large := by
  simp only [strings, offsets_clipTo (by omega) he1, validity_clipTo (by omega) he0]
  cases hoff : w.offsets 1 (offsetWidth large) with
  | error err => rfl
  | ok off =>
    -- the data is read up to the last offset, which is offset `stop` of the buffer
    have hlast := offsets_getLastD (by cases large <;> decide) hoff
    simp only [bind, Except.bind, required_clipTo h2 (hlast ▸ he2)]

/-- Words read from the first `m` words' bytes at pointer `i` are the pointer's words `0` to
`m - 1`. -/
theorem words_of_required {i m width : Nat} (hw : 0 < width) {what : String} {p : Piece}
    {s : Buffer Nat} (hp : w.required i (m * width) what = .ok p) (hs : p.words width = .ok s) :
    ∀ j < s.items.length, j < m ∧
      ∃ r, w.slot i = some r ∧ s.items.getD j 0 = r.wordAt width j := by
  intro j hj
  rw [Piece.items_of_words hs] at hj ⊢
  unfold required at hp
  cases hraw : w.raw i (m * width) with
  | none =>
    -- no pointer: only an empty read succeeds, and it holds no words
    simp only [hraw] at hp
    split at hp
    · cases hp
      simp [LittleEndian.words_nil] at hj
    · cases hp
  | some q =>
    simp only [hraw, Except.ok.injEq] at hp
    subst hp
    unfold raw at hraw
    cases hslot : w.slot i with
    | none => rw [hslot] at hraw; cases hraw
    | some r =>
      rw [hslot] at hraw
      simp only [Option.map_some, Option.some.injEq] at hraw
      split at hraw
      · subst hraw
        simp [LittleEndian.words_nil] at hj
      · subst hraw
        have hlen : j < m := by
          rw [LittleEndian.length_words hw, LittleEndian.length_region, Nat.mul_div_cancel _ hw]
            at hj
          exact hj
        exact ⟨hlen, r, rfl, LittleEndian.getD_words_region hw (Nat.mul_le_mul_right _ hlen)⟩

theorem variadicBuffers_clipTo : ∀ (k : Nat) (ss : List Nat),
    (∀ j < ss.length, 2 + k + j < w.nBuffers.toNat ∧
      (LittleEndian.toInt 8 (ss.getD j 0)).toNat ≤ e (2 + k + j)) →
    (w.clipTo e).variadicBuffers k ss = w.variadicBuffers k ss
  | _, [], _ => rfl
  | k, s :: rest, h => by
    obtain ⟨hlt, hle⟩ := h 0 (by simp)
    simp only [List.getD_cons_zero, Nat.add_zero] at hlt hle
    have hrest := variadicBuffers_clipTo (k + 1) rest fun j hj => by
      have hj' := h (j + 1) (by simp only [List.length_cons]; omega)
      simp only [List.getD_cons_succ] at hj'
      rw [show 2 + (k + 1) + j = 2 + k + (j + 1) by omega]
      exact hj'
    simp only [variadicBuffers, required_clipTo hlt hle, hrest]

/-- A string-view node reads its views, its data sizes and each data buffer up to its size. -/
theorem stringViews_clipTo (h3 : 3 ≤ w.nBuffers.toNat) (he0 : (w.stop + 7) / 8 ≤ e 0)
    (he1 : 16 * w.stop ≤ e 1)
    (hes : (w.nBuffers - 3).toNat * 8 ≤ e ((w.nBuffers - 3).toNat + 2))
    (hev : ∀ k < (w.nBuffers - 3).toNat,
      ((w.slot ((w.nBuffers - 3).toNat + 2)).map fun r =>
        (LittleEndian.toInt 8 (r.wordAt 8 k)).toNat).getD 0 ≤ e (k + 2)) :
    (w.clipTo e).stringViews = w.stringViews := by
  have hcount : (w.nBuffers - 3).toNat + 2 < w.nBuffers.toNat := by omega
  simp only [stringViews, validity_clipTo (by omega) he0, clipTo_len, byteCount_clipTo,
    clipTo_stop, clipTo_nBuffers, clipTo_offset]
  cases w.validity with
  | error err => rfl
  | ok v =>
    simp only [bind, Except.bind]
    by_cases hl : w.len = 0
    · simp only [hl, if_true]
    · simp only [hl, if_false]
      cases hc : w.byteCount w.stop 16 with
      | error err => rfl
      | ok n =>
        have hn := byteCount_eq_ok hc
        subst hn
        dsimp only
        rw [required_clipTo (i := 1) (by omega) (by rw [Nat.mul_comm]; exact he1),
          Nat.add_comm 2, required_clipTo hcount hes]
        cases w.required 1 (w.stop * 16) "views" with
        | error err => rfl
        | ok views =>
          dsimp only
          cases hsz : w.required ((w.nBuffers - 3).toNat + 2) ((w.nBuffers - 3).toNat * 8)
              "variadic sizes" with
          | error err => rfl
          | ok sizesPiece =>
            dsimp only
            cases hwords : sizesPiece.words 8 with
            | error err => rfl
            | ok sizes =>
              dsimp only
              -- each data buffer is read up to the size the sizes buffer gives it
              have hvar := variadicBuffers_clipTo (w := w) (e := e) 0 sizes.items fun j hj => by
                obtain ⟨hjm, r, hr, hget⟩ := words_of_required (by decide) hsz hwords j hj
                have hev' := hev j hjm
                rw [hr, Option.map_some, Option.getD_some, ← hget] at hev'
                exact ⟨by omega, by rw [show 2 + 0 + j = j + 2 by omega]; exact hev'⟩
              rw [hvar]

end NodeView

end Columnar
