import Columnar.Proofs.Build
import Columnar.Proofs.Reader

/-!
# Reading an exported column back, layout by layout

A consumer reads an exported column at any window `[o, o + l)` by setting the root's offset
and length, with an unknown null count (`-1`) or the window's own. For each layout, the
reader gives back a column that holds the window (`ReadsBack`): the column's type, `l` slots,
and the values and nulls of slots `o` to `o + l - 1`.

* fixed-width words and bitmaps are read at the window from the exported bytes
  (`fixed_of_slots`, shared by numbers, times and dictionary keys);
* string offsets stay absolute, and the data is read up to the window's last offset, which
  holds every string of the window (`textAt_take`);
* dictionary values and list items are read whole, struct children are read whole and cut
  by the reader to the parent's window (`readMembers_toNodes`).

The nested layouts take as a hypothesis that the columns they hold are read back whole;
`Columnar.Proofs.RoundTrip` discharges it by induction on the column.
-/

namespace Columnar

theorem NumericKind.width_pos (k : NumericKind) : 0 < k.width := by
  cases k <;> decide

theorem TemporalKind.width_pos (k : TemporalKind) : 0 < k.width := by
  cases k <;> decide

namespace Column

/-- `b` holds the slots `[o, o + l)` of `c`: the same type, `l` slots with the same values
and the same nulls, in the shape windows rely on. -/
structure ReadsBack (b c : Column) (o l : Nat) : Prop where
  type_eq : b.type = c.type
  len_eq : b.len = l
  regular : b.Regular
  value_eq : ∀ j < l, b.value j = c.value (o + j)
  nullAt_eq : ∀ j < l, b.nullAt j = c.nullAt (o + j)

/-- A window of a column that holds all of `c` holds the same window of `c`. -/
theorem ReadsBack.window {b c : Column} {n : Nat} (h : b.ReadsBack c 0 n) {o l : Nat}
    (hol : o + l ≤ n) : (b.window o l).ReadsBack c o l := by
  have hin : o + l ≤ b.len := by rw [h.len_eq]; exact hol
  refine ⟨by rw [type_window, h.type_eq], len_window hin, h.regular.window hin,
    fun j hj => ?_, fun j hj => ?_⟩
  · rw [value_window h.regular hin hj, h.value_eq (o + j) (by omega), Nat.zero_add]
  · rw [nullAt_window b o hj, h.nullAt_eq (o + j) (by omega), Nat.zero_add]

/-- The null count a reader is given for a window: unknown, or the window's own. It reads as
no count or as the number of null slots the window covers. -/
theorem reported_nullCount {c : Column} {o l : Nat} {nc : Int}
    (hnc : nc = -1 ∨ nc = (c.window o l).nullCount) :
    (nc = -1 ∨ (0 ≤ nc ∧ nc ≤ l)) ∧
      ∀ n ∈ (if nc = -1 then none else some nc.toNat),
        n = (List.range l).countP fun j => c.nullAt (o + j) := by
  have hle : (c.window o l).nullCount ≤ l := by
    rw [nullCount_window]
    exact Nat.le_trans List.countP_le_length (Nat.le_of_eq (List.length_range ..))
  rcases hnc with rfl | rfl
  · exact ⟨.inl rfl, fun n hn => by simp at hn⟩
  · refine ⟨.inr ⟨by omega, by omega⟩, fun n hn => ?_⟩
    have hne : ((c.window o l).nullCount : Int) ≠ -1 := by omega
    simp only [hne, if_false, Option.mem_def, Option.some.injEq] at hn
    rw [← hn, Int.toNat_natCast, nullCount_window]

/-- Reading the export of `c` back at window `[o, o + l)`, with reported null count `nc`,
gives a column that holds the window. -/
def ReadsWindow (sc : Scrutiny) (c : Column) (o l : Nat) (nc : Int) : Prop :=
  ∃ b, (c.toNode.atWindow o l nc).read sc c.type = .ok b ∧ b.ReadsBack c o l

/-! ## Fixed-width layouts -/

theorem fit_of_lt {o l n : Nat} (hol : o + l ≤ n) (hn : n < 2 ^ 63) :
    o + l ≤ NodeView.maxBytes := by
  rw [NodeView.maxBytes, Nat.pow_eq]
  omega

/-- The slots of a window of exported fixed-width words, with their validity. -/
theorem fixed_of_slots {w : NodeView} {width : Nat} {d : Buffer Nat} {v : Option Bitmap}
    (hbuf : w.buffers = some [validityRegion v, some (wordsRegion width d)])
    (hwidth : 0 < width) (hd : d.Fits width) (hv : ∀ m ∈ v, m.len = d.size)
    (hstop : w.stop ≤ d.size)
    (hnc : ∀ n ∈ w.nullCount,
      n = (List.range w.len).countP fun j => Bitmap.isNullAt v (w.offset + j)) :
    ∃ d' v', w.values 1 width = .ok d' ∧ w.validity = .ok v' ∧ d'.size = w.len ∧
      (∀ j < w.len, d'.get j = d.get (w.offset + j)) ∧ (∀ m ∈ v', m.len = w.len) ∧
      ∀ j < w.len, Bitmap.isNullAt v' j = Bitmap.isNullAt v (w.offset + j) := by
  obtain ⟨d', hd', hitems⟩ := NodeView.values_of_slot (by simp [NodeView.slot, hbuf]) hwidth hd.1
    hd.2 hstop
  obtain ⟨v', hv', hvlen, hvnull⟩ := NodeView.validity_of_slot (by simp [NodeView.slot, hbuf])
    (fun m hm => (hv m hm).symm ▸ hstop) hnc
  refine ⟨d', v', hd', hv', ?_, fun j hj => ?_, hvlen, hvnull⟩
  · rw [Buffer.size_of_items hitems, Buffer.size_window d hstop]
  · rw [Buffer.get_of_items hitems, Buffer.get_window d _ hj]

theorem readsWindow_null (n : Nat) (sc : Scrutiny) {o l : Nat} (hol : o + l ≤ n)
    (hn : n < 2 ^ 63) {nc : Int} (hnc : nc = -1 ∨ nc = ((null n).window o l).nullCount) :
    ReadsWindow sc (null n) o l nc := by
  obtain ⟨hnc', -⟩ := reported_nullCount hnc
  have hview : ((null n).toNode.atWindow o l nc).view .null =
      .ok ⟨.null, l, o, if nc = -1 then none else some nc.toNat, some [], 0⟩ :=
    ArrayNode.view_assemble (fit_of_lt hol hn) hnc' nofun rfl
  exact ⟨.null l, ArrayNode.read_null hview, rfl, rfl, .null l, fun _ _ => rfl, fun _ _ => rfl⟩

theorem numeric_type_ne (k : NumericKind) : k.type ≠ .stringView := by
  cases k <;> nofun

theorem readsWindow_numeric {k : NumericKind} {d : Buffer Nat} {v : Option Bitmap}
    (hd : d.Fits k.width) (hv : ∀ m ∈ v, m.len = d.size) (sc : Scrutiny) {o l : Nat}
    (hol : o + l ≤ d.size) {nc : Int}
    (hnc : nc = -1 ∨ nc = ((numeric k d v).window o l).nullCount) :
    ReadsWindow sc (numeric k d v) o l nc := by
  obtain ⟨hnc', hcount⟩ := reported_nullCount hnc
  have hfit : o + l ≤ NodeView.maxBytes :=
    Nat.le_trans hol (Nat.le_trans (Nat.le_mul_of_pos_right _ (NumericKind.width_pos k)) hd.2)
  let w : NodeView := ⟨k.type, l, o, if nc = -1 then none else some nc.toNat,
    some [validityRegion v, some (wordsRegion k.width d)], 2⟩
  have hview : ((numeric k d v).toNode.atWindow o l nc).view k.type = .ok w :=
    ArrayNode.view_assemble hfit hnc' (numeric_type_ne k) (by cases k <;> rfl)
  obtain ⟨d', v', hd', hv', hsize, hget, hvlen, hvnull⟩ :=
    fixed_of_slots (w := w) rfl (NumericKind.width_pos k) hd hv hol hcount
  refine ⟨.numeric k d' v', ?_, rfl, hsize, .numeric k d' v' fun m hm => (hvlen m hm).trans hsize.symm,
    fun j hj => ?_, fun j hj => ?_⟩
  · show ((numeric k d v).toNode.atWindow o l nc).read sc k.type = _
    rw [ArrayNode.read_numeric k hview]
    simp only [NodeView.numeric, hd', hv', bind, Except.bind, pure, Except.pure]
  · have hin : ¬ d.size ≤ o + j := by omega
    have hjw : ¬ w.len ≤ j := Nat.not_le.2 hj
    simp only [value, hsize, hget j hj, hvnull j hj, hjw, hin, false_or]
    rfl
  · exact hvnull j hj

theorem readsWindow_boolean {d : Bitmap} {v : Option Bitmap} (hv : ∀ m ∈ v, m.len = d.len)
    (sc : Scrutiny) {o l : Nat} (hol : o + l ≤ d.len) (hn : d.len < 2 ^ 63) {nc : Int}
    (hnc : nc = -1 ∨ nc = ((boolean d v).window o l).nullCount) :
    ReadsWindow sc (boolean d v) o l nc := by
  obtain ⟨hnc', hcount⟩ := reported_nullCount hnc
  let w : NodeView := ⟨.boolean, l, o, if nc = -1 then none else some nc.toNat,
    some [validityRegion v, validityRegion (some d)], 2⟩
  have hview : ((boolean d v).toNode.atWindow o l nc).view .boolean = .ok w :=
    ArrayNode.view_assemble (fit_of_lt hol hn) hnc' nofun rfl
  obtain ⟨b, hb, hblen, hbget⟩ := NodeView.bits_of_slot (w := w) rfl hol
  obtain ⟨v', hv', hvlen, hvnull⟩ :=
    NodeView.validity_of_slot (w := w) rfl (fun m hm => (hv m hm).symm ▸ hol) hcount
  refine ⟨.boolean b v', ?_, rfl, hblen, .boolean b v' fun m hm => (hvlen m hm).trans hblen.symm,
    fun j hj => ?_, fun j hj => hvnull j hj⟩
  · show ((boolean d v).toNode.atWindow o l nc).read sc .boolean = _
    rw [ArrayNode.read_boolean hview]
    simp only [hb, hv', bind, Except.bind, pure, Except.pure]
  · have hin : ¬ d.len ≤ o + j := by omega
    have hjw : ¬ b.len ≤ j := by rw [hblen]; exact Nat.not_le.2 hj
    simp only [value, hbget j hj, hvnull j hj, hjw, hin, false_or]
    rfl

theorem temporal_type_ne (kind : TemporalKind) (u : TimeUnit) (z : Option String) :
    kind.type u z ≠ .stringView := by
  cases kind <;> nofun

theorem readsWindow_temporal {kind : TemporalKind} {u : TimeUnit} {z : Option String}
    {d : Buffer Nat} {v : Option Bitmap} (hd : d.Fits kind.width)
    (hv : ∀ m ∈ v, m.len = d.size) (sc : Scrutiny) {o l : Nat} (hol : o + l ≤ d.size) {nc : Int}
    (hnc : nc = -1 ∨ nc = ((temporal kind u z d v).window o l).nullCount) :
    ReadsWindow sc (temporal kind u z d v) o l nc := by
  obtain ⟨hnc', hcount⟩ := reported_nullCount hnc
  have hfit : o + l ≤ NodeView.maxBytes :=
    Nat.le_trans hol (Nat.le_trans (Nat.le_mul_of_pos_right _ (TemporalKind.width_pos kind)) hd.2)
  let w : NodeView := ⟨kind.type u z, l, o, if nc = -1 then none else some nc.toNat,
    some [validityRegion v, some (wordsRegion kind.width d)], 2⟩
  have hview : ((temporal kind u z d v).toNode.atWindow o l nc).view (kind.type u z) = .ok w :=
    ArrayNode.view_assemble hfit hnc' (temporal_type_ne kind u z) (by cases kind <;> rfl)
  obtain ⟨u', z', htype, hread⟩ := @ArrayNode.read_temporal sc _ _ kind u z hview
  obtain ⟨d', v', hd', hv', hsize, hget, hvlen, hvnull⟩ :=
    fixed_of_slots (w := w) rfl (TemporalKind.width_pos kind) hd hv hol hcount
  refine ⟨.temporal kind u' z' d' v', ?_, htype, hsize,
    .temporal kind u' z' d' v' fun m hm => (hvlen m hm).trans hsize.symm,
    fun j hj => ?_, fun j hj => hvnull j hj⟩
  · show ((temporal kind u z d v).toNode.atWindow o l nc).read sc (kind.type u z) = _
    rw [hread]
    simp only [NodeView.temporal, hd', hv', bind, Except.bind, pure, Except.pure]
  · have hin : ¬ d.size ≤ o + j := by omega
    have hjw : ¬ w.len ≤ j := Nat.not_le.2 hj
    simp only [value, hsize, hget j hj, hvnull j hj, hjw, hin, false_or]
    rfl

/-- The words read for a window of an interval column, `words` per slot, with the window's
validity, pass the interval checks and hold the window. -/
theorem interval_parts_window {u : IntervalUnit} {d d' : Buffer Nat} {v v' : Option Bitmap}
    {o l : Nat} (hol : o + l ≤ d.size / u.words)
    (hitems : d'.items = (d.window (o * u.words) (l * u.words)).items)
    (hvlen : ∀ m ∈ v', m.len = l)
    (hvnull : ∀ j < l, Bitmap.isNullAt v' j = Bitmap.isNullAt v (o + j)) :
    intervalsOfWords u d' v' = .ok (.interval u d' v') ∧
      (interval u d' v').ReadsBack (interval u d v) o l := by
  have hwords := IntervalUnit.words_pos u
  have hstop : (o + l) * u.words ≤ d.size := (Nat.le_div_iff_mul_le hwords).1 hol
  have hsize : d'.size = l * u.words := by
    rw [Buffer.size_of_items hitems, Buffer.size_window d (by rw [← Nat.add_mul]; exact hstop)]
  have hlen : d'.size / u.words = l := by rw [hsize, Nat.mul_div_cancel _ hwords]
  have hv' : ∀ m ∈ v', m.len = d'.size / u.words := fun m hm => (hvlen m hm).trans hlen.symm
  refine ⟨intervalsOfWords_eq_ok (by rw [hsize, Nat.mul_mod_left]) hv', rfl, hlen,
    .interval u d' v' hv', fun j hj => ?_, hvnull⟩
  have hin : ¬ d.size / u.words ≤ o + j := by omega
  -- slot `j` of the words read is slot `o + j` of the exported words
  have hscalar : u.scalar d' j = u.scalar d (o + j) := by
    rw [← IntervalUnit.scalar_window u d hj]
    cases u <;> simp only [IntervalUnit.scalar, Buffer.get_of_items hitems]
  simp only [value, hlen, hvnull j hj, hscalar, Nat.not_le.2 hj, hin, false_or]

theorem readsWindow_interval {u : IntervalUnit} {d : Buffer Nat} {v : Option Bitmap}
    (hd : d.Fits 4) (hv : ∀ m ∈ v, m.len = d.size / u.words) (sc : Scrutiny) {o l : Nat}
    (hol : o + l ≤ d.size / u.words) {nc : Int}
    (hnc : nc = -1 ∨ nc = ((interval u d v).window o l).nullCount) :
    ReadsWindow sc (interval u d v) o l nc := by
  obtain ⟨hnc', hcount⟩ := reported_nullCount hnc
  have hwords := IntervalUnit.words_pos u
  -- the window's words end inside the buffer
  have hstop : (o + l) * u.words ≤ d.size := (Nat.le_div_iff_mul_le hwords).1 hol
  have hfit : o + l ≤ NodeView.maxBytes :=
    Nat.le_trans (Nat.le_mul_of_pos_right _ hwords)
      (Nat.le_trans hstop (Nat.le_trans (Nat.le_mul_of_pos_right _ (by decide)) hd.2))
  let w : NodeView := ⟨.interval u, l, o, if nc = -1 then none else some nc.toNat,
    some [validityRegion v, some (wordsRegion 4 d)], 2⟩
  have hview : ((interval u d v).toNode.atWindow o l nc).view (.interval u) = .ok w :=
    ArrayNode.view_assemble hfit hnc' nofun rfl
  -- the words of every slot up to the window's end are read, then cut to the window
  have hbytes : w.byteCount w.stop (u.words * 4) = .ok ((o + l) * u.words * 4) := by
    have hsw : w.stop = o + l := rfl
    rw [NodeView.byteCount, hsw, ← Nat.mul_assoc,
      if_pos (Nat.le_trans (Nat.mul_le_mul_right 4 hstop) hd.2)]
  obtain ⟨p, hp, hpbytes⟩ :=
    NodeView.required_of_slot (w := w) (i := 1) rfl ((o + l) * u.words * 4) "values"
  obtain ⟨fl, hall⟩ := NodeView.words_of_piece (by decide) hd.1 hstop hpbytes
  obtain ⟨v', hv', hvlen, hvnull⟩ := NodeView.validity_of_slot (w := w) rfl
    (fun m hm => (hv m hm).symm ▸ hol) hcount
  have hitems : (Buffer.window ⟨d.items.take ((o + l) * u.words), fl⟩ (o * u.words)
      (l * u.words)).items = (d.window (o * u.words) (l * u.words)).items := by
    simp only [Buffer.window, List.drop_take, List.take_take]
    congr 1
    rw [Nat.add_mul, Nat.add_sub_cancel_left, Nat.min_self]
  obtain ⟨hparts, hback⟩ := interval_parts_window hol hitems hvlen hvnull
  refine ⟨_, ?_, hback⟩
  show ((interval u d v).toNode.atWindow o l nc).read sc (.interval u) = _
  rw [ArrayNode.read_interval u hview]
  simp only [NodeView.intervals, hbytes, hp, hall, hv', bind, Except.bind]
  exact hparts

/-! ## Strings -/

/-- Bytes cut at `e` hold every slice that ends by `e`. -/
theorem slice_take (xs : List UInt8) {e s t : Nat} (ht : t ≤ e) :
    ((xs.take e).drop s).take (t - s) = (xs.drop s).take (t - s) := by
  rw [List.drop_take, List.take_take, Nat.min_eq_left (Nat.sub_le_sub_right ht s)]

theorem textAt_take {d d' : Buffer UInt8} {e : Nat} (h : d'.items = d.items.take e) {s t : Nat}
    (ht : t ≤ e) : textAt d' s t = textAt d s t := by
  rw [textAt, textAt, h, slice_take d.items ht]

/-- The parts read for a window of a string column, the offsets of slots `[o, o + l]`, the
data up to the last of them and the window's validity, pass the string checks and hold the
window. -/
theorem text_parts_window (large : Bool) {off off' : Buffer Nat} {d d' : Buffer UInt8}
    {v v' : Option Bitmap} (hoff : off.Offsets d.size)
    (htext : ∀ i < off.size - 1, Bitmap.isNullAt v i = false →
      (Utf8.decode? ((d.items.drop (off.get i)).take (off.get (i + 1) - off.get i))).isSome)
    {o l : Nat} (hol : o + l + 1 ≤ off.size) (hitems : off'.items = (off.window o (l + 1)).items)
    (hdata : d'.items = d.items.take (off.get (o + l))) (hvlen : ∀ m ∈ v', m.len = l)
    (hvnull : ∀ j < l, Bitmap.isNullAt v' j = Bitmap.isNullAt v (o + j)) :
    stringsOfParts large off' d' v' = .ok (.text large off' d' v') ∧
      (text large off' d' v').ReadsBack (text large off d v) o l := by
  obtain ⟨hoffs', hsize', hget'⟩ := hoff.window hol hitems
  have he : off.get (o + l) ≤ d.size := hoff.2.2 _ (Buffer.get_mem (by omega))
  -- a slot's offsets are read at the window's slot, inside the data read
  have hslot : ∀ j < l, off'.get j = off.get (o + j) ∧ off'.get (j + 1) = off.get (o + j + 1) ∧
      off.get (o + j + 1) ≤ off.get (o + l) := fun j hj =>
    ⟨hget' j (by omega), by rw [hget' (j + 1) (by omega), Nat.add_assoc],
      hoff.get_le (by omega) (by omega)⟩
  have hbound' : ∀ x ∈ off'.items, x ≤ d'.size := by
    intro x hx
    have hdsize : d'.size = off.get (o + l) := by
      rw [Buffer.size, hdata, List.length_take]
      exact Nat.min_eq_left he
    rw [hdsize]
    exact hoffs'.2.2 x hx
  have hv' : ∀ m ∈ v', m.len = off'.size - 1 := fun m hm => by rw [hvlen m hm, hsize']; rfl
  refine ⟨stringsOfParts_eq_ok hoffs'.1 hoffs'.2.1 hbound' hv' fun i hi hnull => ?_,
    rfl, by show off'.size - 1 = l; omega, .text large off' d' v' hv', fun j hj => ?_, hvnull⟩
  · have hil : i < l := by rw [hsize'] at hi; exact hi
    obtain ⟨hs, ht, hte⟩ := hslot i hil
    rw [hvnull i hil] at hnull
    rw [hs, ht, hdata, slice_take d.items hte]
    exact htext (o + i) (by omega) hnull
  · obtain ⟨hs, ht, hte⟩ := hslot j hj
    simp only [value, hvnull j hj, hs, ht, textAt_take hdata hte]

theorem readsWindow_text {large : Bool} {off : Buffer Nat} {d : Buffer UInt8}
    {v : Option Bitmap} (hoff : off.Offsets d.size)
    (hmem : off.size * offsetWidth large ≤ NodeView.maxBytes)
    (htext : ∀ i < off.size - 1, Bitmap.isNullAt v i = false →
      (Utf8.decode? ((d.items.drop (off.get i)).take (off.get (i + 1) - off.get i))).isSome)
    (hv : ∀ m ∈ v, m.len = off.size - 1)
    (hsmall : ∀ x ∈ off.items, x ≤ 2 ^ (8 * offsetWidth large - 1) - 1) (sc : Scrutiny)
    {o l : Nat} (hol : o + l ≤ off.size - 1) (hn : off.size - 1 < 2 ^ 63) {nc : Int}
    (hnc : nc = -1 ∨ nc = ((text large off d v).window o l).nullCount) :
    ReadsWindow sc (text large off d v) o l nc := by
  obtain ⟨hnc', hcount⟩ := reported_nullCount hnc
  have hwidth : 0 < offsetWidth large := by cases large <;> decide
  have hpos : 0 < off.size := List.length_pos_of_ne_nil hoff.1
  let w : NodeView := ⟨if large then .largeString else .string, l, o,
    if nc = -1 then none else some nc.toNat,
    some [validityRegion v, some (wordsRegion (offsetWidth large) off), some ⟨d.items, false⟩], 3⟩
  have hview : ((text large off d v).toNode.atWindow o l nc).view
      (if large then .largeString else .string) = .ok w :=
    ArrayNode.view_assemble (fit_of_lt hol hn) hnc' (by cases large <;> nofun)
      (by cases large <;> rfl)
  obtain ⟨off', hoff', hitems⟩ :=
    NodeView.offsets_of_slot (w := w) rfl hwidth hsmall hmem (by omega : o + l + 1 ≤ off.size)
  replace hitems : off'.items = (off.window o (l + 1)).items := hitems
  -- the data is read up to the window's last offset
  obtain ⟨-, hsize', hget'⟩ := hoff.window (by omega) hitems
  have hlast : off'.items.getLastD 0 = off.get (o + l) := by
    rw [Buffer.getLastD_eq_get hsize', hget' l (Nat.lt_succ_self l)]
  have he : off.get (o + l) ≤ d.size := hoff.2.2 _ (Buffer.get_mem (by omega))
  obtain ⟨p, hp, hpbytes⟩ :=
    NodeView.required_of_slot (w := w) (i := 2) rfl (off'.items.getLastD 0) "data"
  rw [hlast, LittleEndian.region_of_le he] at hpbytes
  obtain ⟨v', hv', hvlen, hvnull⟩ := NodeView.validity_of_slot (w := w) rfl
    (fun m hm => by rw [hv m hm]; show o + l ≤ _; omega) hcount
  obtain ⟨hparts, hback⟩ := text_parts_window large hoff htext (by omega) hitems
    (show (⟨p.bytes, p.foreign⟩ : Buffer UInt8).items = _ from hpbytes) hvlen hvnull
  refine ⟨_, ?_, hback⟩
  show ((text large off d v).toNode.atWindow o l nc).read sc
    (if large then .largeString else .string) = _
  rw [ArrayNode.read_text large hview]
  simp only [NodeView.strings, hoff', hp, hv', bind, Except.bind]
  cases sc with
  | full => exact hparts
  | layout => rfl

/-! ## Dictionaries and lists -/

/-- The parts read for a window of a dictionary column, the keys and validity of the window
and the values read whole, name a value at every present key and hold the window. -/
theorem dictionary_parts_window {i : IndexType} {k d' : Buffer Nat} {kv v' : Option Bitmap}
    {vals b : Column} (ord : Bool)
    (hkeys : ∀ j < k.size, Bitmap.isNullAt kv j = false →
      0 ≤ i.kind.integer (k.get j) ∧ i.kind.integer (k.get j) < vals.len)
    {o l : Nat} (hol : o + l ≤ k.size) (hsize : d'.size = l)
    (hget : ∀ j < l, d'.get j = k.get (o + j)) (hvlen : ∀ m ∈ v', m.len = l)
    (hvnull : ∀ j < l, Bitmap.isNullAt v' j = Bitmap.isNullAt kv (o + j))
    (hback : b.ReadsBack vals 0 vals.len) :
    dictionaryOf (.numeric i.kind d' v') b ord = .ok (.dictionary i d' v' b ord) ∧
      (dictionary i d' v' b ord).ReadsBack (dictionary i k kv vals ord) o l := by
  have hkeys' : ∀ j < d'.size, Bitmap.isNullAt v' j = false →
      0 ≤ i.kind.integer (d'.get j) ∧ i.kind.integer (d'.get j) < b.len := by
    intro j hj hnull
    rw [hsize] at hj
    rw [hvnull j hj] at hnull
    rw [hget j hj, hback.len_eq]
    exact hkeys (o + j) (by omega) hnull
  refine ⟨dictionaryOf_eq_ok ord hkeys', by simp only [type, hback.type_eq], hsize,
    .dictionary i d' v' b ord fun m hm => (hvlen m hm).trans hsize.symm, fun j hj => ?_, hvnull⟩
  have hjw : ¬ d'.size ≤ j := by rw [hsize]; exact Nat.not_le.2 hj
  have hin : ¬ k.size ≤ o + j := by omega
  simp only [value, hjw, hin, false_or, hvnull j hj, hget j hj]
  -- a present key names a value inside the values read back
  cases hnull : Bitmap.isNullAt kv (o + j) with
  | true => rfl
  | false =>
    obtain ⟨h0, hlt⟩ := hkeys (o + j) (by omega) hnull
    simp only [Bool.false_eq_true, if_false]
    rw [hback.value_eq _ (keySlot_lt h0 hlt), Nat.zero_add]

theorem readsWindow_dictionary {i : IndexType} {k : Buffer Nat} {kv : Option Bitmap}
    {vals : Column} {ord : Bool} (hk : k.Fits i.kind.width) (hkv : ∀ m ∈ kv, m.len = k.size)
    (hkeys : ∀ j < k.size, Bitmap.isNullAt kv j = false →
      0 ≤ i.kind.integer (k.get j) ∧ i.kind.integer (k.get j) < vals.len) {sc : Scrutiny}
    (hvals : ∃ b, vals.toNode.read sc vals.type = .ok b ∧ b.ReadsBack vals 0 vals.len)
    {o l : Nat} (hol : o + l ≤ k.size) {nc : Int}
    (hnc : nc = -1 ∨ nc = ((dictionary i k kv vals ord).window o l).nullCount) :
    ReadsWindow sc (dictionary i k kv vals ord) o l nc := by
  obtain ⟨hnc', hcount⟩ := reported_nullCount hnc
  obtain ⟨b, hb, hback⟩ := hvals
  have hfit : o + l ≤ NodeView.maxBytes :=
    Nat.le_trans hol (Nat.le_trans (Nat.le_mul_of_pos_right _ (NumericKind.width_pos _)) hk.2)
  let w : NodeView := ⟨.dictionary i vals.type ord, l, o, if nc = -1 then none else some nc.toNat,
    some [validityRegion kv, some (wordsRegion i.kind.width k)], 2⟩
  have hview : ((dictionary i k kv vals ord).toNode.atWindow o l nc).view
      (.dictionary i vals.type ord) = .ok w :=
    ArrayNode.view_assemble hfit hnc' nofun rfl
  -- the keys are read as integers of the index type, at the window
  obtain ⟨d', v', hd', hv', hsize, hget, hvlen, hvnull⟩ :=
    fixed_of_slots (w := { w with type := i.keyType }) rfl (NumericKind.width_pos i.kind) hk hkv
      hol hcount
  obtain ⟨hparts, hback'⟩ := dictionary_parts_window ord hkeys hol hsize hget hvlen hvnull hback
  have hdict : ((dictionary i k kv vals ord).toNode.atWindow o l nc).dictionary =
      some vals.toNode := rfl
  refine ⟨_, ?_, hback'⟩
  show ((dictionary i k kv vals ord).toNode.atWindow o l nc).read sc
    (.dictionary i vals.type ord) = _
  rw [ArrayNode.read_dictionary i vals.type ord hview, hdict]
  simp only [NodeView.numeric, hd', hv', ArrayNode.readDictionary, hb, bind, Except.bind, pure,
    Except.pure]
  exact hparts

/-- The parts read for a window of a list column, the offsets of slots `[o, o + l]`, the
items read whole and the window's validity, pass the list checks and hold the window. -/
theorem list_parts_window (large : Bool) {f : Field} {off off' : Buffer Nat} {vals b : Column}
    {v v' : Option Bitmap} (htype : vals.type = f.type) (hoff : off.Offsets vals.len) {o l : Nat}
    (hol : o + l + 1 ≤ off.size) (hitems : off'.items = (off.window o (l + 1)).items)
    (hvlen : ∀ m ∈ v', m.len = l)
    (hvnull : ∀ j < l, Bitmap.isNullAt v' j = Bitmap.isNullAt v (o + j))
    (hback : b.ReadsBack vals 0 vals.len) :
    listOf large f off' b v' = .ok (.list large f off' b v') ∧
      (list large f off' b v').ReadsBack (list large f off vals v) o l := by
  obtain ⟨hoffs', hsize', hget'⟩ := hoff.window hol hitems
  have he : off.get (o + l) ≤ vals.len := hoff.2.2 _ (Buffer.get_mem (by omega))
  have hv' : ∀ m ∈ v', m.len = off'.size - 1 := fun m hm => by rw [hvlen m hm, hsize']; rfl
  refine ⟨listOf_eq_ok (hback.type_eq.trans htype) hoffs'.1 hoffs'.2.1
      (fun x hx => by rw [hback.len_eq]; exact Nat.le_trans (hoffs'.2.2 x hx) he) hv',
    by cases large <;> rfl, by show off'.size - 1 = l; omega, .list large f off' b v' hv',
    fun j hj => ?_, hvnull⟩
  -- the slot's items are read at their absolute positions in the items read back
  have hs := hget' j (by omega)
  have ht : off'.get (j + 1) = off.get (o + j + 1) := by
    rw [hget' (j + 1) (by omega), Nat.add_assoc]
  have hte : off.get (o + j + 1) ≤ off.get (o + l) := hoff.get_le (by omega) (by omega)
  simp only [value, hvnull j hj, hs, ht]
  congr 2
  refine List.map_congr_left fun k hk => ?_
  rw [hback.value_eq _ (by rw [List.mem_range] at hk; omega), Nat.zero_add]

theorem readsWindow_list {large : Bool} {f : Field} {off : Buffer Nat} {vals : Column}
    {v : Option Bitmap} (htype : vals.type = f.type) (hoff : off.Offsets vals.len)
    (hmem : off.size * offsetWidth large ≤ NodeView.maxBytes)
    (hv : ∀ m ∈ v, m.len = off.size - 1)
    (hsmall : ∀ x ∈ off.items, x ≤ 2 ^ (8 * offsetWidth large - 1) - 1)
    (hmat : f.materialise = f) {sc : Scrutiny}
    (hvals : ∃ b, vals.toNode.read sc vals.type = .ok b ∧ b.ReadsBack vals 0 vals.len)
    {o l : Nat} (hol : o + l ≤ off.size - 1) (hn : off.size - 1 < 2 ^ 63) {nc : Int}
    (hnc : nc = -1 ∨ nc = ((list large f off vals v).window o l).nullCount) :
    ReadsWindow sc (list large f off vals v) o l nc := by
  obtain ⟨hnc', hcount⟩ := reported_nullCount hnc
  obtain ⟨b, hb, hback⟩ := hvals
  have hwidth : 0 < offsetWidth large := by cases large <;> decide
  have hpos : 0 < off.size := List.length_pos_of_ne_nil hoff.1
  let w : NodeView := ⟨if large then .largeList f else .list f, l, o,
    if nc = -1 then none else some nc.toNat,
    some [validityRegion v, some (wordsRegion (offsetWidth large) off)], 2⟩
  have hview : ((list large f off vals v).toNode.atWindow o l nc).view
      (if large then .largeList f else .list f) = .ok w :=
    ArrayNode.view_assemble (fit_of_lt hol hn) hnc' (by cases large <;> nofun)
      (by cases large <;> rfl)
  obtain ⟨off', hoff', hitems⟩ :=
    NodeView.offsets_of_slot (w := w) rfl hwidth hsmall hmem (by omega : o + l + 1 ≤ off.size)
  replace hitems : off'.items = (off.window o (l + 1)).items := hitems
  obtain ⟨v', hv', hvlen, hvnull⟩ := NodeView.validity_of_slot (w := w) rfl
    (fun m hm => by rw [hv m hm]; show o + l ≤ _; omega) hcount
  obtain ⟨hparts, hback'⟩ :=
    list_parts_window large htype hoff (by omega) hitems hvlen hvnull hback
  have hchildren : ((list large f off vals v).toNode.atWindow o l nc).children =
      some [some vals.toNode] := rfl
  refine ⟨_, ?_, hback'⟩
  show ((list large f off vals v).toNode.atWindow o l nc).read sc
    (if large then .largeList f else .list f) = _
  rw [ArrayNode.read_list large f hview, hchildren]
  simp only [ArrayNode.readList, hoff', ← htype, hb, hv', hmat, bind, Except.bind]
  exact hparts

/-! ## Structs -/

theorem length_toNodes (cs : List Column) : (toNodes cs).length = cs.length := by
  induction cs with
  | nil => rfl
  | cons c cs ih => simp only [toNodes, List.length_cons, ih]

section Members

variable {o l : Nat}

/-- Columns that hold the window of struct children have the fields' types. -/
theorem forall₂_fields : ∀ {fs : List Field} {cs cs' : List Column},
    cs.map type = fs.map Field.type → List.Forall₂ (fun c b => b.ReadsBack c o l) cs cs' →
      List.Forall₂ (fun f b => b.len = l ∧ b.type = f.type) fs cs'
  | [], _, _, _, .nil => .nil
  | f :: fs, c :: cs, b :: cs', htypes, .cons hb hrest => by
    simp only [List.map_cons, List.cons.injEq] at htypes
    exact .cons ⟨hb.len_eq, hb.type_eq.trans htypes.1⟩ (forall₂_fields htypes.2 hrest)
  | [], _ :: _, _, htypes, _ => by simp at htypes
  | _ :: _, [], _, htypes, _ => by simp at htypes

theorem ReadsBack.forall_mem {cs cs' : List Column}
    (h : List.Forall₂ (fun c b => b.ReadsBack c o l) cs cs') :
    ∀ b ∈ cs', b.len = l ∧ b.Regular := by
  induction h with
  | nil => exact fun _ hb => nomatch hb
  | cons hb _ ih =>
    intro b' hb'
    rcases List.mem_cons.1 hb' with rfl | hrest
    · exact ⟨hb.len_eq, hb.regular⟩
    · exact ih b' hrest

theorem members_reads {fs : List Field} {cs cs' : List Column}
    (h : List.Forall₂ (fun c b => b.ReadsBack c o l) cs cs') {j : Nat} (hj : j < l) :
    members fs cs' j = members fs cs (o + j) := by
  induction h generalizing fs with
  | nil => cases fs <;> rfl
  | cons hb _ ih =>
    cases fs with
    | nil => rfl
    | cons f fs => simp only [members, hb.value_eq j hj, ih]

end Members

/-- Struct children read back whole, then cut by the reader to the parent's window. -/
theorem readMembers_toNodes {sc : Scrutiny} {w : NodeView} {n : Nat} (hstop : w.stop ≤ n) :
    ∀ {fs : List Field} {cs : List Column}, cs.map type = fs.map Field.type →
      (∀ c ∈ cs, c.len = n) →
      (∀ c ∈ cs, ∃ b, c.toNode.read sc c.type = .ok b ∧ b.ReadsBack c 0 c.len) →
      ∃ cs', (ArrayNode.readMembers sc w fs ((toNodes cs).map some)).map Prod.snd =
          cs'.map Except.ok ∧ List.Forall₂ (fun c b => b.ReadsBack c w.offset w.len) cs cs'
  | [], [], _, _, _ => ⟨[], by simp [ArrayNode.readMembers], .nil⟩
  | [], _ :: _, htypes, _, _ => by simp at htypes
  | _ :: _, [], htypes, _, _ => by simp at htypes
  | f :: fs, c :: cs, htypes, hlen, hread => by
    simp only [List.map_cons, List.cons.injEq] at htypes
    have hc : c.len = n := hlen c (List.mem_cons_self ..)
    obtain ⟨b, hb, hback⟩ := hread c (List.mem_cons_self ..)
    obtain ⟨cs', hres, hall⟩ := readMembers_toNodes hstop htypes.2
      (fun c' h => hlen c' (List.mem_cons_of_mem _ h))
      (fun c' h => hread c' (List.mem_cons_of_mem _ h))
    have hkeep : ¬ b.len < w.stop := by rw [hback.len_eq, hc]; omega
    refine ⟨b.window w.offset w.len :: cs', ?_, .cons (hback.window (by rw [hc]; exact hstop)) hall⟩
    simp only [toNodes, List.map_cons, ArrayNode.readMembers, ← htypes.1, hb, hkeep, if_false,
      bind, Except.bind, pure, Except.pure, hres]

/-- The parts read for a window of a struct column, the children cut to the window and the
window's validity, pass the struct checks and hold the window. -/
theorem struct_parts_window {fs : List Field} {cs cs' : List Column} {v v' : Option Bitmap}
    {n o l : Nat} (htypes : cs.map type = fs.map Field.type)
    (hall : List.Forall₂ (fun c b => b.ReadsBack c o l) cs cs') (hvlen : ∀ m ∈ v', m.len = l)
    (hvnull : ∀ j < l, Bitmap.isNullAt v' j = Bitmap.isNullAt v (o + j)) :
    structOfLen fs cs' v' l = .ok (.struct fs cs' v' l) ∧
      (struct fs cs' v' l).ReadsBack (struct fs cs v n) o l := by
  have hmembers := ReadsBack.forall_mem hall
  refine ⟨structOfLen_eq_ok (forall₂_fields htypes hall) hvlen, rfl, rfl,
    .struct fs cs' v' l hvlen (fun b hb => (hmembers b hb).1) (fun b hb => (hmembers b hb).2),
    fun j hj => ?_, hvnull⟩
  simp only [value, hvnull j hj, members_reads hall hj]

/-- Reading a window of an exported struct gives a struct of the same fields, of the window's
length, whose children hold the window of the children. -/
theorem read_struct_window {fs : List Field} {cs : List Column} {v : Option Bitmap} {n : Nat}
    (htypes : cs.map type = fs.map Field.type) (hlen : ∀ c ∈ cs, c.len = n)
    (hv : ∀ m ∈ v, m.len = n) (hmat : Field.materialiseList fs = fs) {sc : Scrutiny}
    (hcs : ∀ c ∈ cs, ∃ b, c.toNode.read sc c.type = .ok b ∧ b.ReadsBack c 0 c.len)
    {o l : Nat} (hol : o + l ≤ n) (hn : n < 2 ^ 63) {nc : Int}
    (hnc : nc = -1 ∨ nc = ((struct fs cs v n).window o l).nullCount) :
    ∃ cs' v', ((struct fs cs v n).toNode.atWindow o l nc).read sc (.struct fs) =
        .ok (.struct fs cs' v' l) ∧ List.Forall₂ (fun c b => b.ReadsBack c o l) cs cs' ∧
      (struct fs cs' v' l).ReadsBack (struct fs cs v n) o l := by
  obtain ⟨hnc', hcount⟩ := reported_nullCount hnc
  have hfl : fs.length = cs.length := by simpa using (congrArg List.length htypes).symm
  let w : NodeView := ⟨.struct fs, l, o, if nc = -1 then none else some nc.toNat,
    some [validityRegion v], 1⟩
  have hview : ((struct fs cs v n).toNode.atWindow o l nc).view (.struct fs) = .ok w :=
    ArrayNode.view_assemble (fit_of_lt hol hn) hnc' nofun
      (by simp [DataType.layout, hfl, length_toNodes])
  obtain ⟨cs', hres, hall⟩ := readMembers_toNodes (w := w) hol htypes hlen hcs
  -- with no children there are no child pointers, and nothing to read
  have hslots : (ArrayNode.readSlots sc w fs
      ((struct fs cs v n).toNode.atWindow o l nc).children).map Prod.snd = cs'.map Except.ok := by
    cases cs with
    | nil =>
      have hfs : fs = [] := List.length_eq_zero_iff.1 hfl
      cases hall
      subst hfs
      rfl
    | cons c cs => exact hres
  obtain ⟨v', hv', hvlen, hvnull⟩ := NodeView.validity_of_slot (w := w) rfl
    (fun m hm => by rw [hv m hm]; exact hol) hcount
  obtain ⟨hparts, hback⟩ := struct_parts_window (n := n) htypes hall hvlen hvnull
  refine ⟨cs', v', ?_, hall, hback⟩
  rw [ArrayNode.read_struct fs hview hslots]
  simp only [hv', hmat, bind, Except.bind]
  exact hparts

theorem readsWindow_struct {fs : List Field} {cs : List Column} {v : Option Bitmap} {n : Nat}
    (htypes : cs.map type = fs.map Field.type) (hlen : ∀ c ∈ cs, c.len = n)
    (hv : ∀ m ∈ v, m.len = n) (hmat : Field.materialiseList fs = fs) {sc : Scrutiny}
    (hcs : ∀ c ∈ cs, ∃ b, c.toNode.read sc c.type = .ok b ∧ b.ReadsBack c 0 c.len)
    {o l : Nat} (hol : o + l ≤ n) (hn : n < 2 ^ 63) {nc : Int}
    (hnc : nc = -1 ∨ nc = ((struct fs cs v n).window o l).nullCount) :
    ReadsWindow sc (struct fs cs v n) o l nc := by
  obtain ⟨cs', v', hread, -, hback⟩ := read_struct_window htypes hlen hv hmat hcs hol hn hnc
  exact ⟨_, hread, hback⟩

end Column

end Columnar
