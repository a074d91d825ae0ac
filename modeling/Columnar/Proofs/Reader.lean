import Columnar.Descriptor.Import
import Columnar.Proofs.Bitmap

/-!
# What a consumer reads from exported buffers

The reader checks a node, then reads each buffer the type's layout names. This module says
what each step gives when the node was written by export and is read back at any window
`[offset, offset + len)` inside it:

* `view_assemble`: an exported node taken at another window passes every check of `view`;
* `read_null` ... `read_struct`: `read` dispatches on the type, one equation per layout;
* `values_of_slot`, `bits_of_slot`, `offsets_of_slot`, `validity_of_slot`: the words, bits,
  offsets and validity of the window's slots, read from the exported bytes.

The buffers are the exported ones: words written at their width (`wordsRegion`) and
bitmaps written aligned (`validityRegion`).
-/

namespace Columnar

theorem DataType.beq_stringView {t : DataType} (ht : t ≠ .stringView) :
    (t == .stringView) = false := by
  cases t with
  | stringView => exact absurd rfl ht
  | _ => rfl

/-- A node taken at the window `[offset, offset + length)` with a reported null count, as a
consumer may take an exported root to read part of it. -/
def ArrayNode.atWindow (a : ArrayNode) (offset length : Nat) (nullCount : Int) : ArrayNode :=
  { a with offset := offset, length := length, nullCount := nullCount }

/-- An exported node taken at a window inside `2^63 - 1` slots, with an unknown or
plausible null count, passes every check of `view`. -/
theorem ArrayNode.view_assemble {n m : Nat} {bufs : List (Option Region)} {ch : List ArrayNode}
    {dict : Option ArrayNode} {t : DataType} {o l : Nat} {nc : Int}
    (hfit : o + l ≤ NodeView.maxBytes) (hnc : nc = -1 ∨ (0 ≤ nc ∧ nc ≤ l))
    (ht : t ≠ .stringView) (hlayout : t.layout = ((bufs.length : Int), (ch.length : Int))) :
    ((ArrayNode.assemble n m bufs ch dict).atWindow o l nc).view t =
      .ok ⟨t, l, o, if nc = -1 then none else some nc.toNat, some bufs, bufs.length⟩ := by
  have hnb : t.layout.1 = bufs.length := by rw [hlayout]
  have hnc' : t.layout.2 = ch.length := by rw [hlayout]
  -- a positive child count means the exported child pointers are set
  have hchildren : ¬ (0 < ch.length ∧ ch = []) := by
    cases ch <;> simp
  have hfit' : ¬ NodeView.maxBytes < o + l := by omega
  have hl0 : ¬ (l : Int) < 0 := by omega
  have ho0 : ¬ (o : Int) < 0 := by omega
  rcases hnc with rfl | ⟨h0, hl⟩
  · simp [ArrayNode.view, ArrayNode.checkSlots, ArrayNode.checkLayout, ArrayNode.atWindow,
      ArrayNode.assemble, DataType.beq_stringView ht, hnb, hnc', hfit', hchildren, hl0, ho0]
  · have hne : nc ≠ -1 := by omega
    simp [ArrayNode.view, ArrayNode.checkSlots, ArrayNode.checkLayout, ArrayNode.atWindow,
      ArrayNode.assemble, DataType.beq_stringView ht, hnb, hnc', hfit', hchildren, hne, h0, hl,
      hl0, ho0]

namespace ArrayNode

variable {sc : Scrutiny} {a : ArrayNode} {w : NodeView}

theorem read_null (h : a.view .null = .ok w) : a.read sc .null = .ok (.null w.len) := by
  cases a
  rw [read, h]
  rfl

theorem read_boolean (h : a.view .boolean = .ok w) :
    a.read sc .boolean = (do
      let d ← w.bits 1
      let v ← w.validity
      pure (.boolean d v)) := by
  cases a
  rw [read, h]
  rfl

theorem read_text (large : Bool) (h : a.view (if large then .largeString else .string) = .ok w) :
    a.read sc (if large then .largeString else .string) = w.strings sc large := by
  cases a
  cases large <;> (rw [read, h]; rfl)

theorem read_numeric (k : NumericKind) (h : a.view k.type = .ok w) :
    a.read sc k.type = w.numeric k := by
  cases a
  cases k <;> (rw [read, h]; rfl)

theorem read_temporal (kind : TemporalKind) (u : TimeUnit) (z : Option String)
    (h : a.view (kind.type u z) = .ok w) :
    ∃ u' z', kind.type u' z' = kind.type u z ∧ a.read sc (kind.type u z) = w.temporal kind u' z' := by
  cases a
  cases kind with
  | date32 => exact ⟨.days, none, rfl, by simp only [TemporalKind.type] at h ⊢; rw [read, h]; rfl⟩
  | date64 => exact ⟨.milliseconds, none, rfl, by simp only [TemporalKind.type] at h ⊢; rw [read, h]; rfl⟩
  | time32 => exact ⟨u, none, rfl, by simp only [TemporalKind.type] at h ⊢; rw [read, h]; rfl⟩
  | time64 => exact ⟨u, none, rfl, by simp only [TemporalKind.type] at h ⊢; rw [read, h]; rfl⟩
  | timestamp => exact ⟨u, z, rfl, by simp only [TemporalKind.type] at h ⊢; rw [read, h]; rfl⟩
  | duration => exact ⟨u, none, rfl, by simp only [TemporalKind.type] at h ⊢; rw [read, h]; rfl⟩

theorem read_interval (u : IntervalUnit) (h : a.view (.interval u) = .ok w) :
    a.read sc (.interval u) = w.intervals u := by
  cases a
  rw [read, h]
  rfl

theorem read_dictionary (i : IndexType) (t : DataType) (ord : Bool)
    (h : a.view (.dictionary i t ord) = .ok w) :
    a.read sc (.dictionary i t ord) = (do
      let keys ← { w with type := i.keyType }.numeric i.kind
      let values ← readDictionary sc a.dictionary t
      Column.dictionaryOf keys values ord) := by
  cases a
  rw [read, h]
  rfl

theorem read_list (large : Bool) (item : Field)
    (h : a.view (if large then .largeList item else .list item) = .ok w) :
    a.read sc (if large then .largeList item else .list item) =
      readList sc w large item a.children := by
  cases a
  cases large <;> (rw [read, h]; rfl)

/-- Struct children that all read: filtering out the failures keeps every column. -/
theorem filterMap_of_map_snd {β : Type} {rs : List (String × Except Error Column)}
    {cs : List Column} (hres : rs.map Prod.snd = cs.map Except.ok)
    (f : String × Except Error Column → Option β) (b : Column → Option β)
    (hf : ∀ n c, f (n, .ok c) = b c) : rs.filterMap f = cs.filterMap b := by
  induction rs generalizing cs with
  | nil =>
    cases cs with
    | nil => rfl
    | cons c cs => cases hres
  | cons r rs ih =>
    cases cs with
    | nil => cases hres
    | cons c cs =>
      obtain ⟨n, r⟩ := r
      simp only [List.map_cons, List.cons.injEq] at hres
      obtain ⟨rfl, hrest⟩ := hres
      rw [List.filterMap_cons, List.filterMap_cons, hf, ih hrest]

theorem read_struct (fs : List Field) (h : a.view (.struct fs) = .ok w) {cs : List Column}
    (hres : (readSlots sc w fs a.children).map Prod.snd = cs.map Except.ok) :
    a.read sc (.struct fs) = (do
      let v ← w.validity
      Column.structOfLen (Field.materialiseList fs) cs v w.len) := by
  cases a with
  | mk length nullCount offset nBuffers buffers nChildren children dictionary released foreign =>
  rw [read, h]
  dsimp only [bind, Except.bind]
  have hnone : cs.filterMap (fun _ => (none : Option (String × Error))) = [] :=
    List.filterMap_eq_nil_iff.2 fun _ _ => rfl
  rw [filterMap_of_map_snd hres _ (fun _ => none) (fun _ _ => rfl), hnone,
    filterMap_of_map_snd hres _ some (fun _ _ => rfl), List.filterMap_some]
  rfl
end ArrayNode

namespace NodeView

variable {w : NodeView}

/-- A set pointer yields the first `n` bytes of its region, zeros past its end. -/
theorem raw_of_slot {i : Nat} {r : Region} (h : w.slot i = some r) (n : Nat) :
    ∃ p, w.raw i n = some p ∧ p.bytes = LittleEndian.region r.bytes 0 n := by
  by_cases hn : n = 0
  · refine ⟨⟨[], false, false⟩, by simp [raw, h, hn], ?_⟩
    subst hn
    simp [LittleEndian.region]
  · exact ⟨⟨LittleEndian.region r.bytes 0 n, r.misaligned, true⟩, by simp [raw, h, hn], rfl⟩

theorem required_of_slot {i : Nat} {r : Region} (h : w.slot i = some r) (n : Nat)
    (what : String) :
    ∃ p, w.required i n what = .ok p ∧ p.bytes = LittleEndian.region r.bytes 0 n := by
  obtain ⟨p, hp, hbytes⟩ := raw_of_slot h n
  exact ⟨p, by simp [required, hp], hbytes⟩

/-- The first `k` words of an exported buffer of words, read as a piece, are the words. -/
theorem words_of_piece {p : Piece} {width k : Nat} {d : Buffer Nat} (hw : 0 < width)
    (hd : ∀ x ∈ d.items, x < 256 ^ width) (hk : k ≤ d.size)
    (hbytes : p.bytes = LittleEndian.region (wordsRegion width d).bytes 0 (k * width)) :
    ∃ fl, p.words width = .ok ⟨d.items.take k, fl⟩ := by
  have hlen : k * width ≤ (wordsRegion width d).bytes.length := by
    simp only [wordsRegion, LittleEndian.length_ofWords, Buffer.size] at hk ⊢
    rw [Nat.mul_comm]
    exact Nat.mul_le_mul_left _ hk
  have hbytesOf : p.bytes = LittleEndian.ofWords width (d.items.take k) := by
    rw [hbytes, LittleEndian.region_of_le hlen]
    exact LittleEndian.take_ofWords width d.items k
  have hwords : LittleEndian.words width p.bytes = d.items.take k := by
    rw [hbytesOf]
    exact LittleEndian.words_ofWords hw fun x hx => hd x (List.mem_of_mem_take hx)
  have hwhole : p.bytes.length % width = 0 := by
    simp [hbytesOf, LittleEndian.length_ofWords]
  rw [Piece.words, if_neg (by omega), hwords]
  exact ⟨_, rfl⟩

/-- The words of the slots `[offset, offset + len)` of an exported buffer of words. -/
theorem values_of_slot {width : Nat} {d : Buffer Nat} (h : w.slot 1 = some (wordsRegion width d))
    (hw : 0 < width) (hd : ∀ x ∈ d.items, x < 256 ^ width)
    (hmem : d.size * width ≤ maxBytes) (hstop : w.stop ≤ d.size) :
    ∃ d', w.values 1 width = .ok d' ∧ d'.items = (d.window w.offset w.len).items := by
  have hcount : w.byteCount w.stop width = .ok (w.stop * width) := by
    rw [byteCount, if_pos (Nat.le_trans (Nat.mul_le_mul_right _ hstop) hmem)]
  obtain ⟨p, hp, hbytes⟩ := required_of_slot h (w.stop * width) "values"
  obtain ⟨fl, hwords⟩ := words_of_piece hw hd hstop hbytes
  refine ⟨Buffer.window ⟨d.items.take w.stop, fl⟩ w.offset w.len,
    by simp only [values, hcount, hp, hwords, bind, Except.bind, pure, Except.pure], ?_⟩
  simp only [Buffer.window, stop, List.drop_take, Nat.add_sub_cancel_left, List.take_take,
    Nat.min_self]

/-- The bits of the slots `[offset, offset + len)` of an exported bitmap. -/
theorem bits_of_slot {d : Bitmap} (h : w.slot 1 = validityRegion (some d))
    (hstop : w.stop ≤ d.len) :
    ∃ b, w.bits 1 = .ok b ∧ b.len = w.len ∧ ∀ j < w.len, b.get j = d.get (w.offset + j) := by
  obtain ⟨p, hp, hbytes⟩ := required_of_slot h ((w.stop + 7) / 8) "values"
  have hnew : Bitmap.new p.bytes w.offset w.len p.foreign =
      .ok ⟨p.bytes, w.offset, w.len, p.foreign⟩ :=
    Bitmap.new_of_le p.foreign (by rw [hbytes, LittleEndian.length_region]; exact Nat.le_refl _)
  refine ⟨⟨p.bytes, w.offset, w.len, p.foreign⟩, by simp only [bits, hp, hnew, bind, Except.bind],
    rfl, fun j hj => ?_⟩
  rw [← Bitmap.get_readBack d hstop hj p.foreign, hbytes]
  rfl

/-- The validity of the slots `[offset, offset + len)` of an exported bitmap, or none when
none was exported; a reported null count that counts the covered null slots is accepted. -/
theorem validity_of_slot {v : Option Bitmap} (h : w.slot 0 = validityRegion v)
    (hv : ∀ m ∈ v, w.stop ≤ m.len)
    (hnc : ∀ n ∈ w.nullCount,
      n = (List.range w.len).countP fun j => Bitmap.isNullAt v (w.offset + j)) :
    ∃ v', w.validity = .ok v' ∧ (∀ m ∈ v', m.len = w.len) ∧
      ∀ j < w.len, Bitmap.isNullAt v' j = Bitmap.isNullAt v (w.offset + j) := by
  cases v with
  | none =>
    -- no bitmap: a reported count can only be zero
    have hraw : w.raw 0 ((w.stop + 7) / 8) = none := by simp [raw, h, validityRegion]
    refine ⟨none, ?_, fun m hm => (nomatch hm), fun j _ => rfl⟩
    rw [validity, hraw]
    cases hn : w.nullCount with
    | none => rfl
    | some n =>
      have hzero : n = 0 := by
        rw [hnc n hn]
        exact List.countP_eq_zero.2 fun _ _ => Bool.false_ne_true
      simp [hzero]
  | some m =>
    obtain ⟨p, hp, hbytes⟩ := raw_of_slot h ((w.stop + 7) / 8)
    have hnew : Bitmap.new p.bytes w.offset w.len p.foreign =
        .ok ⟨p.bytes, w.offset, w.len, p.foreign⟩ :=
      Bitmap.new_of_le p.foreign (by rw [hbytes, LittleEndian.length_region]; exact Nat.le_refl _)
    have hget : ∀ j < w.len, (⟨p.bytes, w.offset, w.len, p.foreign⟩ : Bitmap).get j =
        m.get (w.offset + j) := by
      intro j hj
      rw [← Bitmap.get_readBack m (hv m rfl) hj p.foreign, hbytes]
      rfl
    have hcount : (⟨p.bytes, w.offset, w.len, p.foreign⟩ : Bitmap).countZeros =
        (List.range w.len).countP fun j => Bitmap.isNullAt (some m) (w.offset + j) := by
      rw [Bitmap.countZeros_eq_countP]
      apply List.countP_congr
      intro j hj
      rw [hget j (List.mem_range.1 hj)]
      rfl
    refine ⟨some ⟨p.bytes, w.offset, w.len, p.foreign⟩, ?_, fun m' hm' => by cases hm'; rfl,
      fun j hj => by simp only [Bitmap.isNullAt, hget j hj]⟩
    rw [validity, hp]
    cases hn : w.nullCount with
    | none => simp only [bind, Except.bind, hnew]; rfl
    | some n =>
      have hagree : (⟨p.bytes, w.offset, w.len, p.foreign⟩ : Bitmap).countZeros = n := by
        rw [hcount, hnc n hn]
      simp only [bind, Except.bind, hnew, hagree, ne_eq, not_true_eq_false, if_false]
      rfl

/-- The offsets of the slots `[offset, offset + len]` of an exported buffer of offsets that all
read as non-negative. -/
theorem offsets_of_slot {width : Nat} {off : Buffer Nat}
    (h : w.slot 1 = some (wordsRegion width off)) (hw : 0 < width)
    (hsmall : ∀ x ∈ off.items, x ≤ 2 ^ (8 * width - 1) - 1)
    (hmem : off.size * width ≤ maxBytes) (hstop : w.stop + 1 ≤ off.size) :
    ∃ off', w.offsets 1 width = .ok off' ∧
      off'.items = (off.window w.offset (w.len + 1)).items := by
  have hcount : w.byteCount (w.stop + 1) width = .ok ((w.stop + 1) * width) := by
    rw [byteCount, if_pos (Nat.le_trans (Nat.mul_le_mul_right _ hstop) hmem)]
  have hfit : ∀ x ∈ off.items, x < 256 ^ width := by
    intro x hx
    have hpow : 256 ^ width = 2 ^ (8 * width) := by rw [Nat.pow_mul]
    calc x ≤ 2 ^ (8 * width - 1) - 1 := hsmall x hx
      _ < 2 ^ (8 * width - 1) := Nat.sub_lt (Nat.two_pow_pos _) (by decide)
      _ < 2 ^ (8 * width) := Nat.pow_lt_pow_right (by decide) (by omega)
      _ = 256 ^ width := hpow.symm
  obtain ⟨p, hp, hbytes⟩ := raw_of_slot h ((w.stop + 1) * width)
  obtain ⟨fl, hwords⟩ := words_of_piece hw hfit hstop hbytes
  have hwindow : (Buffer.window ⟨off.items.take (w.stop + 1), fl⟩ w.offset (w.len + 1)).items =
      (off.window w.offset (w.len + 1)).items := by
    simp only [Buffer.window, stop, List.drop_take, List.take_take]
    congr 1
    omega
  -- every offset of the window is one of the exported offsets, so none reads as negative
  have hnone : (Buffer.window ⟨off.items.take (w.stop + 1), fl⟩ w.offset (w.len + 1)).items.find?
      (fun o => 2 ^ (8 * width - 1) - 1 < o) = none := by
    rw [List.find?_eq_none]
    intro x hx
    rw [hwindow] at hx
    have hle := hsmall x (List.mem_of_mem_drop (List.mem_of_mem_take hx))
    simp only [decide_eq_true_eq]
    omega
  refine ⟨_, ?_, hwindow⟩
  simp only [offsets, hcount, hp, hwords, Nat.pow_eq, hnone, bind, Except.bind, pure, Except.pure]

end NodeView

end Columnar
