import Columnar.Proofs.Checked
import Columnar.Proofs.Locality

/-!
# Imported columns have the declared type and the descriptor's shape

A consumer reads a foreign descriptor tree as a type it declares. Whatever the tree holds, a
column that import returns has the declared type with every string view read as a plain
string (`DataType.materialise`), has as many slots as the root reports, and counts as null
exactly the slots its validity bitmap clears in the root's window:

> `a.importTyped t = .ok c → c.type = t.materialise ∧ c.len = a.length ∧`
> `c.nullCount = a.windowNulls` (for every type but null), which is `a.nullCount` whenever
> the producer reported one.

The type holds because each layout rebuilds the type it was asked for: keys under their index
type with the values' own type, struct fields and list items materialised, units and zones
copied onto temporal columns. Only a dictionary's values are read by recursion, so the type is
an induction on the reader (`ArrayNode.read.induct`) whose only inductive step is the
dictionary. Lengths and null counts are local: every layout takes exactly the window's slots
from its buffers and the validity bitmap the node's first buffer holds, and the reader's
validity check refuses a bitmap that disagrees with a reported count.
-/

namespace Columnar

namespace ArrayNode

/-- The validity pointer of a node: its first buffer pointer, if the pointer array is set. -/
def validitySlot (a : ArrayNode) : Option Region :=
  match a.buffers with
  | some slots => slots.getD 0 none
  | none => none

/-- The nulls a node's validity bitmap marks in its window `[offset, offset + length)`: the
clear bits there, none when the validity pointer is null. -/
def windowNulls (a : ArrayNode) : Nat :=
  match a.validitySlot with
  | none => 0
  | some r =>
    (List.range a.length.toNat).countP fun j => !Bitmap.storedBit r.bytes (a.offset.toNat + j)

end ArrayNode

namespace NodeView

variable {w : NodeView}

/-- The clear bits of the validity buffer in the view's window; none without a buffer. -/
def windowNulls (w : NodeView) : Nat :=
  match w.slot 0 with
  | none => 0
  | some r => (List.range w.len).countP fun j => !Bitmap.storedBit r.bytes (w.offset + j)

/-! ## Buffers give the window's slots -/

theorem required_length {i n : Nat} {what : String} {p : Piece}
    (h : w.required i n what = .ok p) : p.bytes.length = n := by
  unfold required at h
  cases hr : w.raw i n with
  | none =>
    rw [hr] at h
    by_cases hn : n = 0
    · rw [if_pos hn] at h
      cases h
      exact hn.symm
    · rw [if_neg hn] at h
      cases h
  | some p' =>
    rw [hr] at h
    cases h
    cases hs : w.slot i with
    | none => simp [raw, hs] at hr
    | some r =>
      obtain ⟨q, hq, hbytes⟩ := raw_of_slot hs n
      rw [hr] at hq
      cases hq
      rw [hbytes, LittleEndian.length_region]

theorem Piece.size_words {p : Piece} {width : Nat} {b : Buffer Nat} (hw : 0 < width)
    (h : p.words width = .ok b) : b.size = p.bytes.length / width := by
  unfold Piece.words at h
  split at h
  · cases h
  · cases h
    exact LittleEndian.length_words hw p.bytes

/-- The words read from a buffer are one per slot of the window. -/
theorem values_size {i width : Nat} {d : Buffer Nat} (hw : 0 < width)
    (h : w.values i width = .ok d) : d.size = w.len := by
  obtain ⟨n, hn, h⟩ := Except.bind_eq_ok.1 h
  obtain ⟨p, hp, h⟩ := Except.bind_eq_ok.1 h
  obtain ⟨all, hall, h⟩ := Except.bind_eq_ok.1 h
  cases Except.pure_eq_ok.1 h
  have hsize : all.size = w.stop := by
    rw [Piece.size_words hw hall, required_length hp, byteCount_eq_ok hn,
      Nat.mul_div_cancel _ hw]
  exact Buffer.size_window all (by rw [hsize]; exact Nat.le_refl _)

/-- The bits read from a buffer are one per slot of the window. -/
theorem bits_len {i : Nat} {m : Bitmap} (h : w.bits i = .ok m) : m.len = w.len := by
  obtain ⟨p, -, h⟩ := Except.bind_eq_ok.1 h
  unfold Bitmap.new at h
  split at h
  · cases h
  · cases h
    rfl

/-- The offsets read from a buffer are one more than the slots of the window. -/
theorem offsets_size {i width : Nat} {off : Buffer Nat} (hw : 0 < width)
    (h : w.offsets i width = .ok off) : off.size = w.len + 1 := by
  obtain ⟨n, hn, h⟩ := Except.bind_eq_ok.1 h
  cases hr : w.raw i n with
  | none =>
    rw [hr] at h
    by_cases hlen : w.len = 0
    · rw [if_pos hlen] at h
      cases h
      simp [Buffer.ofList, Buffer.size, hlen]
    · rw [if_neg hlen] at h
      cases h
  | some p =>
    rw [hr] at h
    obtain ⟨all, hall, h⟩ := Except.bind_eq_ok.1 h
    have hbytes : p.bytes.length = n := by
      have hreq : w.required i n "offsets" = .ok p := by rw [required, hr]
      exact required_length hreq
    have hsize : all.size = w.stop + 1 := by
      rw [Piece.size_words hw hall, hbytes, byteCount_eq_ok hn, Nat.mul_div_cancel _ hw]
    dsimp only at h
    split at h
    · cases h
    · cases h
      exact Buffer.size_window all (by rw [hsize, stop]; omega)

/-! ## The validity bitmap -/

/-- The validity bitmap read from a node has a bit per slot, clears exactly the bits its
buffer clears in the window, and agrees with a reported null count. -/
theorem validity_nulls {v : Option Bitmap} (h : w.validity = .ok v) :
    (∀ m ∈ v, m.len = w.len) ∧ (v.map Bitmap.countZeros).getD 0 = w.windowNulls ∧
      ∀ n ∈ w.nullCount, (v.map Bitmap.countZeros).getD 0 = n := by
  unfold validity at h
  cases hs : w.slot 0 with
  | none =>
    -- no buffer: no bitmap, and a reported count must be zero
    have hraw : w.raw 0 ((w.stop + 7) / 8) = none := by simp [raw, hs]
    rw [hraw] at h
    dsimp only at h
    have hwin : w.windowNulls = 0 := by simp [windowNulls, hs]
    cases hn : w.nullCount with
    | none =>
      rw [hn] at h
      cases h
      exact ⟨by simp, hwin.symm, by simp⟩
    | some n =>
      rw [hn] at h
      dsimp only at h
      by_cases hpos : 0 < n
      · rw [if_pos hpos] at h
        cases h
      · rw [if_neg hpos] at h
        cases h
        exact ⟨by simp, hwin.symm, fun n' hn' => by cases hn'; show 0 = n; omega⟩
  | some r =>
    obtain ⟨p, hp, hbytes⟩ := raw_of_slot hs ((w.stop + 7) / 8)
    rw [hp] at h
    dsimp only at h
    obtain ⟨m, hm, h⟩ := Except.bind_eq_ok.1 h
    have hmeq : m = ⟨p.bytes, w.offset, w.len, p.foreign⟩ := by
      unfold Bitmap.new at hm
      split at hm
      · cases hm
      · cases hm
        rfl
    -- the bitmap's bits are the buffer's bits of the window
    have hcount : m.countZeros = w.windowNulls := by
      rw [Bitmap.countZeros_eq_countP, windowNulls, hs, hmeq]
      apply List.countP_congr
      intro j hj
      have hjlt : j < w.len := List.mem_range.1 hj
      have hj' : (w.offset + j) / 8 < (w.stop + 7) / 8 := by
        simp only [stop]
        omega
      simp only [Bitmap.get, hbytes, Bitmap.storedBit_region hj']
    cases hn : w.nullCount with
    | none =>
      rw [hn] at h
      cases h
      exact ⟨fun m' hm' => by cases hm'; rw [hmeq], hcount, by simp⟩
    | some n =>
      rw [hn] at h
      dsimp only at h
      by_cases hne : m.countZeros ≠ n
      · rw [if_pos hne] at h
        cases h
      · simp only [ne_eq, Decidable.not_not] at hne
        simp only [hne, ne_eq, not_true_eq_false, if_false] at h
        cases h
        refine ⟨fun m' hm' => by cases hm'; rw [hmeq], hcount, fun n' hn' => ?_⟩
        cases hn'
        exact hne

/-! ## Each layout keeps the window -/

/-- What a layout reader gives when it succeeds: a column of the window's slots that counts as
null the clear bits of the node's validity bitmap in the window, as many as a reported count. -/
structure Shaped (w : NodeView) (c : Column) : Prop where
  len_eq : c.len = w.len
  nullCount_eq : c.nullCount = w.windowNulls
  reported : ∀ n ∈ w.nullCount, c.nullCount = n

/-- A column of the window's slots whose nulls are those of the node's validity bitmap. -/
theorem shaped_of {c : Column} (hlen : c.len = w.len) (hv : w.validity = .ok c.validity)
    (hnc : c.nullCount = (c.validity.map Bitmap.countZeros).getD 0) : Shaped w c := by
  obtain ⟨-, hwin, hrep⟩ := validity_nulls hv
  exact ⟨hlen, hnc.trans hwin, fun n hn => hnc.trans (hrep n hn)⟩

theorem numeric_ok {k : NumericKind} {c : Column} (h : w.numeric k = .ok c) :
    ∃ d v, c = .numeric k d v ∧ Shaped w c := by
  obtain ⟨d, hd, h⟩ := Except.bind_eq_ok.1 h
  obtain ⟨v, hv, h⟩ := Except.bind_eq_ok.1 h
  cases Except.pure_eq_ok.1 h
  have hwidth : 0 < k.width := by cases k <;> decide
  exact ⟨d, v, rfl, shaped_of (values_size hwidth hd) hv rfl⟩

theorem temporal_ok {k : TemporalKind} {u : TimeUnit} {z : Option String} {c : Column}
    (h : w.temporal k u z = .ok c) : c.type = k.type u z ∧ Shaped w c := by
  obtain ⟨d, hd, h⟩ := Except.bind_eq_ok.1 h
  obtain ⟨v, hv, h⟩ := Except.bind_eq_ok.1 h
  cases Except.pure_eq_ok.1 h
  have hwidth : 0 < k.width := by cases k <;> decide
  exact ⟨rfl, shaped_of (values_size hwidth hd) hv rfl⟩

theorem boolean_ok {c : Column} (h : (do
      let d ← w.bits 1
      let v ← w.validity
      pure (Column.boolean d v) : Except Error Column) = .ok c) :
    c.type = .boolean ∧ Shaped w c := by
  obtain ⟨d, hd, h⟩ := Except.bind_eq_ok.1 h
  obtain ⟨v, hv, h⟩ := Except.bind_eq_ok.1 h
  cases Except.pure_eq_ok.1 h
  exact ⟨rfl, shaped_of (bits_len hd) hv rfl⟩

theorem intervals_ok {u : IntervalUnit} {c : Column} (h : w.intervals u = .ok c) :
    c.type = .interval u ∧ Shaped w c := by
  obtain ⟨n, hn, h⟩ := Except.bind_eq_ok.1 h
  obtain ⟨p, hp, h⟩ := Except.bind_eq_ok.1 h
  obtain ⟨all, hall, h⟩ := Except.bind_eq_ok.1 h
  obtain ⟨v, hv, h⟩ := Except.bind_eq_ok.1 h
  obtain ⟨rfl, -, -⟩ := Column.intervalsOfWords_ok h
  have hwords : 0 < u.words := IntervalUnit.words_pos u
  -- the buffer holds the window's words, `u.words` to a slot
  have hsize : all.size = w.stop * u.words := by
    rw [Piece.size_words (by decide) hall, required_length hp, byteCount_eq_ok hn,
      ← Nat.mul_assoc, Nat.mul_div_cancel _ (by decide)]
  have hwindow : (all.window (w.offset * u.words) (w.len * u.words)).size = w.len * u.words :=
    Buffer.size_window all (by rw [hsize, stop, Nat.add_mul])
  refine ⟨rfl, shaped_of ?_ hv rfl⟩
  simp only [Column.len, hwindow, Nat.mul_div_cancel _ hwords]

theorem strings_ok {sc : Scrutiny} {large : Bool} {c : Column} (h : w.strings sc large = .ok c) :
    c.type = (if large then .largeString else .string) ∧ Shaped w c := by
  obtain ⟨off, hoff, h⟩ := Except.bind_eq_ok.1 h
  obtain ⟨p, -, h⟩ := Except.bind_eq_ok.1 h
  obtain ⟨v, hv, h⟩ := Except.bind_eq_ok.1 h
  have hsize : off.size = w.len + 1 := offsets_size (by cases large <;> decide) hoff
  have hne : off.items ≠ [] := fun hnil => by simp [Buffer.size, hnil] at hsize
  -- checked or not, the column is the offsets, the data and the bitmap as read
  have hc : c = .text large off ⟨p.bytes, p.foreign⟩ v := by
    cases sc with
    | full =>
      obtain ⟨off', rfl, hoff', -⟩ := Column.stringsOfParts_ok h
      rw [hoff', if_neg (by simpa using hne)]
    | layout => exact (Except.pure_eq_ok.1 h).symm
  subst hc
  exact ⟨rfl, shaped_of (by simp only [Column.len, hsize, Nat.add_sub_cancel]) hv rfl⟩

/-- Copying string views adds one offset per slot. -/
theorem length_copyViews {views : List UInt8} {variadic : List Piece}
    {validity : Option Bitmap} {offset : Nat} :
    ∀ {n : Nat} {offs : List Nat} {data : List UInt8} {i : Nat} {r : List Nat × List UInt8},
      copyViews views variadic validity offset n offs data i = .ok r →
        r.1.length = offs.length + n
  | 0, offs, data, i, r, h => by
    cases h
    rfl
  | n + 1, offs, data, i, r, h => by
    unfold copyViews at h
    split at h
    · rw [length_copyViews h, List.length_append, List.length_singleton]
      omega
    · obtain ⟨bytes, -, h⟩ := Except.bind_eq_ok.1 h
      dsimp only at h
      split at h
      · cases h
      · rw [length_copyViews h, List.length_append, List.length_singleton]
        omega

theorem stringViews_ok {c : Column} (h : w.stringViews = .ok c) :
    c.type = .string ∧ Shaped w c := by
  obtain ⟨v, hv, h⟩ := Except.bind_eq_ok.1 h
  -- both branches check parts: no offsets for an empty window, the copied views otherwise
  have hparts : ∃ offs : List Nat, ∃ data : List UInt8,
      Column.stringsOfParts false (Buffer.ofList offs) (Buffer.ofList data) v = .ok c ∧
        (Buffer.ofList offs).items = [] ∧ w.len = 0 ∨
      Column.stringsOfParts false (Buffer.ofList offs) (Buffer.ofList data) v = .ok c ∧
        offs.length = w.len + 1 := by
    split at h
    · exact ⟨[], [], .inl ⟨h, rfl, by assumption⟩⟩
    · obtain ⟨_, -, h⟩ := Except.bind_eq_ok.1 h
      obtain ⟨_, -, h⟩ := Except.bind_eq_ok.1 h
      obtain ⟨_, -, h⟩ := Except.bind_eq_ok.1 h
      obtain ⟨_, -, h⟩ := Except.bind_eq_ok.1 h
      obtain ⟨_, -, h⟩ := Except.bind_eq_ok.1 h
      obtain ⟨⟨offs, data⟩, hcopy, h⟩ := Except.bind_eq_ok.1 h
      exact ⟨offs, data, .inr ⟨h, by rw [length_copyViews hcopy, List.length_singleton,
        Nat.add_comm]⟩⟩
  obtain ⟨offs, data, hc⟩ := hparts
  -- the checked offsets are one more than the slots
  have hshape : ∃ off d, c = .text false off d v ∧ off.size = w.len + 1 := by
    rcases hc with ⟨hc, hnil, hlen⟩ | ⟨hc, hlen⟩
    · obtain ⟨off', rfl, hoff', -⟩ := Column.stringsOfParts_ok hc
      refine ⟨off', _, rfl, ?_⟩
      rw [hoff', if_pos (by simp [hnil]), hlen]
      rfl
    · obtain ⟨off', rfl, hoff', -⟩ := Column.stringsOfParts_ok hc
      have hne : offs ≠ [] := fun hnil => by simp [hnil] at hlen
      refine ⟨off', _, rfl, ?_⟩
      rw [hoff', if_neg (by simpa [Buffer.ofList] using hne)]
      exact hlen
  obtain ⟨off, d, rfl, hsize⟩ := hshape
  exact ⟨rfl, shaped_of (by simp only [Column.len, hsize, Nat.add_sub_cancel]) hv rfl⟩

end NodeView

theorem IndexType.kind_injective {i j : IndexType} (h : i.kind = j.kind) : i = j := by
  have hij : some i = some j := by rw [← IndexType.kind_index?, h, IndexType.kind_index?]
  exact Option.some.inj hij

namespace ArrayNode

open NodeView

variable {sc : Scrutiny} {a : ArrayNode} {t : DataType}

/-- A node that passes its checks has a length that is not negative, and yields the null count
its producer reported, if it reported one. -/
theorem checkSlots_ok {nc : Option Nat} (h : a.checkSlots t = .ok nc) :
    0 ≤ a.length ∧ (a.nullCount ≠ -1 → nc = some a.nullCount.toNat ∧ 0 ≤ a.nullCount) := by
  simp only [checkSlots, bind, Except.bind, pure, Except.pure, throw, throwThe,
    MonadExceptOf.throw] at h
  -- released, negative length, negative offset, overflow: each a throw
  split at h
  · cases h
  split at h
  · cases h
  rename_i hlen
  split at h
  · cases h
  split at h
  · cases h
  have hlen : 0 ≤ a.length := Int.not_lt.1 hlen
  split at h
  · rename_i hunknown
    exact ⟨hlen, fun hne => absurd hunknown hne⟩
  split at h
  · rename_i hrange
    cases h
    exact ⟨hlen, fun _ => ⟨rfl, hrange.1⟩⟩
  · cases h

/-- The view of a node that passes its checks is the node's header: its window, its validity
pointer, and the null count its producer reported. -/
theorem view_header {w : NodeView} (h : a.view t = .ok w) :
    w.len = a.length.toNat ∧ w.windowNulls = a.windowNulls ∧ 0 ≤ a.length ∧
      (a.nullCount ≠ -1 → w.nullCount = some a.nullCount.toNat ∧ 0 ≤ a.nullCount) := by
  obtain ⟨nc, hslots, h⟩ := Except.bind_eq_ok.1 h
  obtain ⟨u, -, h⟩ := Except.bind_eq_ok.1 h
  cases Except.pure_eq_ok.1 h
  exact ⟨rfl, rfl, checkSlots_ok hslots⟩

/-- A list reads as the list of its materialised item field, over the view's window. -/
theorem readList_ok {w : NodeView} {large : Bool} {item : Field}
    {children : Option (List (Option ArrayNode))} {c : Column}
    (h : readList sc w large item children = .ok c) :
    c.type = (if large then .largeList item.materialise else .list item.materialise) ∧
      Shaped w c := by
  unfold readList at h
  split at h
  · obtain ⟨off, hoff, h⟩ := Except.bind_eq_ok.1 h
    obtain ⟨values, -, h⟩ := Except.bind_eq_ok.1 h
    obtain ⟨v, hv, h⟩ := Except.bind_eq_ok.1 h
    obtain ⟨off', rfl, hoff', -, -, -⟩ := Column.listOf_ok h
    -- the offsets cover the window and one more, so they are never the empty buffer
    have hsize : off.size = w.len + 1 := offsets_size (by cases large <;> decide) hoff
    have hne : off.items.isEmpty = false := by
      rw [List.isEmpty_eq_false_iff, ← List.length_pos_iff]
      show 0 < off.size
      omega
    rw [hne, if_neg Bool.false_ne_true] at hoff'
    subst hoff'
    refine ⟨by cases large <;> rfl, shaped_of ?_ hv rfl⟩
    simp only [Column.len, hsize, Nat.add_sub_cancel]
  · obtain ⟨_, -, h⟩ := Except.bind_eq_ok.1 h
    cases h

/-- A successful read gives the type materialised, and the shape of the node's view: its
length, and for every type but null the window's clear bits as its null count. -/
theorem read_shape {c : Column} (h : a.read sc t = .ok c) :
    c.type = t.materialise ∧ ∃ w, a.view t = .ok w ∧ c.len = w.len ∧ (t ≠ .null → Shaped w c) := by
  -- only a dictionary's values are read by recursion and reach the result's type
  refine ArrayNode.read.induct sc
    (fun a t => ∀ c, a.read sc t = .ok c →
      c.type = t.materialise ∧ ∃ w, a.view t = .ok w ∧ c.len = w.len ∧ (t ≠ .null → Shaped w c))
    (fun _ _ _ _ => True) (fun _ _ _ => True) (fun _ _ _ => True)
    (fun d t => ∀ c, readDictionary sc d t = .ok c → c.type = t.materialise)
    ?node (fun _ _ _ _ _ _ => trivial) (fun _ _ _ _ _ => trivial) (fun _ _ => trivial)
    (fun _ _ _ _ => trivial) ?dictNone ?dictSome (fun _ _ => trivial) (fun _ _ _ => trivial)
    (fun _ _ _ _ _ => trivial) (fun _ _ _ _ _ _ _ => trivial) a t c h
  case dictNone =>
    intro t c h
    cases h
  case dictSome =>
    intro d t ih c h
    exact (ih c h).1
  case node =>
    intro length nullCount offset nBuffers buffers nChildren children dictionary released foreign t
      ihDict _ _ _ c h
    rw [read] at h
    generalize ha : (⟨length, nullCount, offset, nBuffers, buffers, nChildren, children,
      dictionary, released, foreign⟩ : ArrayNode) = a at h
    obtain ⟨w, hv, h⟩ := Except.bind_eq_ok.1 h
    -- every layout but null gives a shaped column, whose length is the window's
    suffices hs : c.type = t.materialise ∧ (t = .null → c.len = w.len) ∧ (t ≠ .null → Shaped w c) by
      refine ⟨hs.1, w, hv, ?_, hs.2.2⟩
      by_cases hnull : t = .null
      · exact hs.2.1 hnull
      · exact (hs.2.2 hnull).len_eq
    cases t with
    | null =>
      cases Except.pure_eq_ok.1 h
      exact ⟨rfl, fun _ => rfl, fun hne => absurd rfl hne⟩
    | boolean =>
      obtain ⟨ht, hs⟩ := boolean_ok h
      exact ⟨ht, DataType.noConfusion, fun _ => hs⟩
    | string =>
      obtain ⟨ht, hs⟩ := strings_ok h
      exact ⟨ht, DataType.noConfusion, fun _ => hs⟩
    | largeString =>
      obtain ⟨ht, hs⟩ := strings_ok h
      exact ⟨ht, DataType.noConfusion, fun _ => hs⟩
    | stringView =>
      obtain ⟨ht, hs⟩ := stringViews_ok h
      exact ⟨ht, DataType.noConfusion, fun _ => hs⟩
    | date32 | date64 | time32 u | time64 u | timestamp u z | duration u =>
      obtain ⟨ht, hs⟩ := temporal_ok h
      exact ⟨ht, DataType.noConfusion, fun _ => hs⟩
    | interval u =>
      obtain ⟨ht, hs⟩ := intervals_ok h
      exact ⟨ht, DataType.noConfusion, fun _ => hs⟩
    | int8 | int16 | int32 | int64 | uint8 | uint16 | uint32 | uint64 | float32 | float64 =>
      obtain ⟨d, v, rfl, hs⟩ := numeric_ok h
      exact ⟨rfl, DataType.noConfusion, fun _ => hs⟩
    | dictionary index valueType ordered =>
      obtain ⟨keys, hkeys, h⟩ := Except.bind_eq_ok.1 h
      obtain ⟨values, hvalues, h⟩ := Except.bind_eq_ok.1 h
      obtain ⟨d, v, rfl, hs⟩ := numeric_ok hkeys
      obtain ⟨i, k, kv, hkeys', rfl, -⟩ := Column.dictionaryOf_ok h
      -- the keys were read under the node's own index type
      obtain ⟨hkind, rfl, rfl⟩ := Column.numeric.inj hkeys'
      cases IndexType.kind_injective hkind
      have hvt : values.type = valueType.materialise := by
        subst ha
        exact ihDict valueType values hvalues
      refine ⟨by rw [Column.type, hvt]; rfl, DataType.noConfusion, fun _ => ?_⟩
      -- the keys' view differs from the node's only in its type
      exact ⟨hs.len_eq, hs.nullCount_eq, hs.reported⟩
    | struct fields =>
      dsimp only at h
      -- a child that failed fails the struct
      split at h
      · obtain ⟨_, hthrow, -⟩ := Except.bind_eq_ok.1 h
        cases hthrow
      obtain ⟨v, hv, h⟩ := Except.bind_eq_ok.1 h
      obtain ⟨rfl, -, -⟩ := Column.structOfLen_ok h
      exact ⟨rfl, DataType.noConfusion, fun _ => shaped_of rfl hv rfl⟩
    | list item =>
      obtain ⟨ht, hs⟩ := readList_ok h
      exact ⟨ht, DataType.noConfusion, fun _ => hs⟩
    | largeList item =>
      obtain ⟨ht, hs⟩ := readList_ok h
      exact ⟨ht, DataType.noConfusion, fun _ => hs⟩

/-- An imported column has the declared type with string views materialised at every depth,
the descriptor's length, and, for every type but null, as many nulls as the validity bitmap
clears in the window `[offset, offset + length)`; that is the producer's count whenever it
reported one. -/
theorem importTyped_shape {c : Column} (h : a.importTyped t = .ok c) :
    c.type = t.materialise ∧ (c.len : Int) = a.length ∧
      (t ≠ .null → c.nullCount = a.windowNulls ∧
        (a.nullCount ≠ -1 → (c.nullCount : Int) = a.nullCount)) := by
  have hread : a.read .full t = .ok c := by
    unfold importTyped importChecked at h
    split at h
    · cases h
    · exact h
  obtain ⟨ht, w, hv, hlen, hshape⟩ := read_shape hread
  obtain ⟨hwlen, hwin, hnonneg, hrep⟩ := view_header hv
  refine ⟨ht, by rw [hlen, hwlen, Int.toNat_of_nonneg hnonneg], fun hnull => ?_⟩
  have hs := hshape hnull
  refine ⟨hs.nullCount_eq.trans hwin, fun hknown => ?_⟩
  obtain ⟨hnc, hpos⟩ := hrep hknown
  rw [hs.reported _ hnc, Int.toNat_of_nonneg hpos]

/-- Four boolean slots from offset 1, two of them cleared in the bitmap. -/
theorem importTyped_shape_boolean :
    let a : ArrayNode :=
      ⟨4, 2, 1, 2, some [some ⟨[0b1011], false⟩, some ⟨[0b0110], false⟩], 0, none, none, false, true⟩
    let c : Column := .boolean ⟨[0b0110], 1, 4, true⟩ (some ⟨[0b1011], 1, 4, true⟩)
    a.importTyped .boolean = .ok c ∧ c.type = DataType.boolean.materialise ∧
      (c.len : Int) = a.length ∧ (DataType.boolean ≠ .null → c.nullCount = a.windowNulls ∧
        (a.nullCount ≠ -1 → (c.nullCount : Int) = a.nullCount)) := by
  intro a c
  have h : a.importTyped .boolean = .ok c := by
    dsimp only [a, c]
    rfl
  exact ⟨h, importTyped_shape h⟩

end ArrayNode

end Columnar
