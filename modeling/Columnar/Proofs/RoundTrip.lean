import Columnar.Proofs.ReadBack

/-!
# Export and import agree on every window

A column is exported as a tree of descriptors with offset 0, and a consumer may read any
window `[o, o + l)` of it by setting the root's offset and length. For a well-formed column
whose every count fits a descriptor (`CountsFit`) and that exports, the root reports the
column's length, null count and layout, and every window reads back as the column's slice:

> `(d.atWindow o l (-1)).importTyped c.type = .ok b` with `b.toList = s.toList`, where
> `c.slice o l = .ok s`.

The proof is an induction on `WellFormed` over the layouts of `Columnar.Proofs.ReadBack`; the
columns a column holds are read whole, at the window they are exported at.

A descriptor stores its counts as signed 64-bit integers, so a column of `2^63` slots or more
somewhere in the tree exports a negative length, and its export is refused on import.
-/

namespace Columnar

theorem ArrayNode.wordToInt64_of_lt {n : Nat} (h : n < 2 ^ 63) : ArrayNode.wordToInt64 n = n := by
  rw [ArrayNode.wordToInt64, Nat.pow_eq, Nat.mod_eq_of_lt (by omega)]
  exact LittleEndian.toInt_of_lt h

namespace Column

/-! ## The exported root -/

@[simp] theorem toNode_offset (c : Column) : c.toNode.offset = 0 := by
  cases c <;> rfl

@[simp] theorem toNode_length (c : Column) : c.toNode.length = ArrayNode.wordToInt64 c.len := by
  cases c <;> rfl

@[simp] theorem toNode_nullCount (c : Column) :
    c.toNode.nullCount = ArrayNode.wordToInt64 c.nullCount := by
  cases c <;> rfl

theorem nullCount_le_len {c : Column} (h : c.Regular) : c.nullCount ≤ c.len := by
  rw [nullCount_eq_countP h]
  exact Nat.le_trans List.countP_le_length (Nat.le_of_eq (List.length_range ..))

/-- The exported node of a column, taken at its whole window with its own null count, is the
node itself. -/
theorem toNode_whole {c : Column} (hreg : c.Regular) (hlen : c.len < 2 ^ 63) :
    c.toNode.atWindow 0 c.len (c.window 0 c.len).nullCount = c.toNode := by
  have hcount : (c.window 0 c.len).nullCount = c.nullCount := by
    rw [nullCount_window, nullCount_eq_countP hreg]
    simp only [Nat.zero_add]
  have hoff : ((0 : Nat) : Int) = c.toNode.offset := by simp
  have hl : (c.len : Int) = c.toNode.length := by
    rw [toNode_length, ArrayNode.wordToInt64_of_lt hlen]
  have hn : ((c.window 0 c.len).nullCount : Int) = c.toNode.nullCount := by
    rw [toNode_nullCount, hcount,
      ArrayNode.wordToInt64_of_lt (Nat.lt_of_le_of_lt (nullCount_le_len hreg) hlen)]
  rw [ArrayNode.atWindow, hoff, hl, hn]
  cases c.toNode
  rfl

/-- A column whose reading at its whole window holds it is read back whole from its export. -/
theorem ReadsWindow.whole {sc : Scrutiny} {c : Column} (hreg : c.Regular) (hlen : c.len < 2 ^ 63)
    (h : ReadsWindow sc c 0 c.len (c.window 0 c.len).nullCount) :
    ∃ b, c.toNode.read sc c.type = .ok b ∧ b.ReadsBack c 0 c.len := by
  rw [ReadsWindow, toNode_whole hreg hlen] at h
  exact h

theorem toNode_released (c : Column) : c.toNode.released = false := by
  cases c <;> rfl

theorem importTyped_atWindow {c : Column} (o l : Nat) (nc : Int) (t : DataType) :
    (c.toNode.atWindow o l nc).importTyped t = (c.toNode.atWindow o l nc).read .full t := by
  simp only [ArrayNode.importTyped, ArrayNode.importChecked, ArrayNode.atWindow, toNode_released,
    Bool.false_eq_true, if_false]

theorem importTyped_toNode (c : Column) (t : DataType) :
    c.toNode.importTyped t = c.toNode.read .full t := by
  simp only [ArrayNode.importTyped, ArrayNode.importChecked, toNode_released, Bool.false_eq_true,
    if_false]

/-- The exported root has the buffers and children the column's type lays out. -/
theorem toNode_layout {c : Column} (h : c.WellFormed) :
    (c.toNode.nBuffers, c.toNode.nChildren) = c.type.layout := by
  cases h with
  | numeric k => cases k <;> rfl
  | text large => cases large <;> rfl
  | temporal kind => cases kind <;> rfl
  | struct fs cs v n htypes =>
    have hfl : fs.length = cs.length := by simpa using (congrArg List.length htypes).symm
    simp [toNode, ArrayNode.assemble, type, DataType.layout, length_toNodes, hfl]
  | list large => cases large <;> rfl
  | _ => rfl

/-- Only a dictionary column exports a dictionary. -/
theorem toNode_dictionary (c : Column) :
    c.toNode.dictionary.isSome ↔ ∃ i k kv vals ord, c = .dictionary i k kv vals ord := by
  cases c <;> simp [toNode, ArrayNode.assemble]

/-! ## What export checks -/

theorem checkExportable_dictionary {i : IndexType} {k : Buffer Nat} {kv : Option Bitmap}
    {vals : Column} {ord : Bool} (h : (dictionary i k kv vals ord).checkExportable = .ok ()) :
    vals.checkExportable = .ok () := by
  simpa only [checkExportable] using h

theorem checkMembersExportable_cons {f : Field} {fs : List Field} {c : Column}
    {cs : List Column} (h : checkMembersExportable (f :: fs) (c :: cs) = .ok ()) :
    c.checkExportable = .ok () ∧ checkMembersExportable fs cs = .ok () := by
  simp only [checkMembersExportable, Except.bind_eq_ok] at h
  obtain ⟨_, -, _, hc, hrest⟩ := h
  exact ⟨hc, hrest⟩

/-- Exported 32-bit offsets are at most `2^31 - 1`. -/
theorem checkOffset_le {last : Nat} (h : checkOffset last = .ok ()) : last ≤ 2 ^ 31 - 1 := by
  rw [checkOffset, Nat.pow_eq] at h
  split at h
  · cases h
  · omega

theorem checkExportable_text {off : Buffer Nat} {d : Buffer UInt8} {v : Option Bitmap}
    (h : (text false off d v).checkExportable = .ok ()) : off.items.getLastD 0 ≤ 2 ^ 31 - 1 :=
  checkOffset_le h

theorem checkExportable_list {large : Bool} {f : Field} {off : Buffer Nat} {vals : Column}
    {v : Option Bitmap} (h : (list large f off vals v).checkExportable = .ok ()) :
    vals.checkExportable = .ok () ∧ (large = false → off.items.getLastD 0 ≤ 2 ^ 31 - 1) := by
  cases large with
  | false =>
    simp only [checkExportable, Except.bind_eq_ok] at h
    obtain ⟨_, hoff, _, -, hvals⟩ := h
    exact ⟨hvals, fun _ => checkOffset_le hoff⟩
  | true =>
    simp only [checkExportable, Except.bind_eq_ok] at h
    obtain ⟨_, -, hvals⟩ := h
    exact ⟨hvals, by rintro ⟨⟩⟩

theorem checkMembersExportable_mem : ∀ {fs : List Field} {cs : List Column},
    fs.length = cs.length → checkMembersExportable fs cs = .ok () →
      ∀ c ∈ cs, c.checkExportable = .ok ()
  | [], [], _, _ => fun _ hc => nomatch hc
  | f :: fs, c :: cs, hlen, h => by
    obtain ⟨hc, hrest⟩ := checkMembersExportable_cons h
    intro c' hc'
    rcases List.mem_cons.1 hc' with rfl | hmem
    · exact hc
    · exact checkMembersExportable_mem (Nat.succ.inj hlen) hrest c' hmem

/-- Offsets that the export accepts read back as non-negative at their width. -/
theorem offsets_small {large : Bool} {off : Buffer Nat} {bound : Nat} (hoff : off.Offsets bound)
    (hbound : bound < 2 ^ 63) (hlast : large = false → off.items.getLastD 0 ≤ 2 ^ 31 - 1) :
    ∀ x ∈ off.items, x ≤ 2 ^ (8 * offsetWidth large - 1) - 1 := by
  intro x hx
  cases large with
  | false => exact Nat.le_trans (Buffer.le_getLastD hoff.2.1 x hx) (hlast rfl)
  | true =>
    have hle := hoff.2.2 x hx
    show x ≤ 2 ^ 63 - 1
    omega

/-! ## Every window of the export -/

/-- Every window of a well-formed column whose counts fit and that exports is read back from
the export, with an unknown null count or the window's own. -/
theorem readsWindow_of_wellFormed (sc : Scrutiny) {c : Column} (hwf : c.WellFormed) :
    c.CountsFit → c.checkExportable = .ok () → ∀ (o l : Nat) (nc : Int), o + l ≤ c.len →
      (nc = -1 ∨ nc = (c.window o l).nullCount) → ReadsWindow sc c o l nc := by
  induction hwf with
  | null n =>
    intro hfit _ o l nc hol hnc
    exact readsWindow_null n sc hol hfit.len_lt hnc
  | numeric k d v hd hv =>
    intro _ _ o l nc hol hnc
    exact readsWindow_numeric hd hv sc hol hnc
  | boolean d v hv =>
    intro hfit _ o l nc hol hnc
    exact readsWindow_boolean hv sc hol hfit.len_lt hnc
  | text large off d v hoff hmem hd htext hv =>
    intro hfit hexp o l nc hol hnc
    have hsmall : ∀ x ∈ off.items, x ≤ 2 ^ (8 * offsetWidth large - 1) - 1 := offsets_small hoff (by rw [NodeView.maxBytes, Nat.pow_eq] at hd; omega)
      fun hl => by subst hl; exact checkExportable_text hexp
    exact readsWindow_text hoff hmem htext hv hsmall sc hol hfit.len_lt hnc
  | dictionary i k kv vals ord hk hkv hkeys hvals ih =>
    intro hfit hexp o l nc hol hnc
    have hvfit : vals.CountsFit := hfit.sub vals (List.mem_singleton_self _)
    have hwhole := ReadsWindow.whole hvals.regular hvfit.len_lt
      (ih hvfit (checkExportable_dictionary hexp) 0 vals.len _ (Nat.le_of_eq (Nat.zero_add _)) (.inr rfl))
    exact readsWindow_dictionary hk hkv hkeys hwhole hol hnc
  | temporal kind u z d v hd hv =>
    intro _ _ o l nc hol hnc
    exact readsWindow_temporal hd hv sc hol hnc
  | interval u d v hd hv =>
    intro _ _ o l nc hol hnc
    exact readsWindow_interval hd hv sc hol hnc
  | struct fs cs v n htypes hlen hv hcs ih =>
    intro hfit hexp o l nc hol hnc
    have hfl : fs.length = cs.length := by simpa using (congrArg List.length htypes).symm
    have hexps := checkMembersExportable_mem hfl hexp
    have hmat : Field.materialiseList fs = fs := by
      have h := (WellFormed.struct fs cs v n htypes hlen hv hcs).materialise_type
      simpa [type, DataType.materialise] using h
    refine readsWindow_struct htypes hlen hv hmat (fun c hc => ?_) hol hfit.len_lt hnc
    have hcfit : c.CountsFit := hfit.sub c hc
    exact ReadsWindow.whole (hcs c hc).regular hcfit.len_lt
      (ih c hc hcfit (hexps c hc) 0 c.len _ (Nat.le_of_eq (Nat.zero_add _)) (.inr rfl))
  | list large f off vals v htype hoff hmem hv hvals ih =>
    intro hfit hexp o l nc hol hnc
    have hvfit : vals.CountsFit := hfit.sub vals (List.mem_singleton_self _)
    obtain ⟨hvexp, hlast⟩ := checkExportable_list hexp
    have hwhole := ReadsWindow.whole hvals.regular hvfit.len_lt
      (ih hvfit hvexp 0 vals.len _ (Nat.le_of_eq (Nat.zero_add _)) (.inr rfl))
    have hmat : f.materialise = f := Field.materialise_of (htype ▸ hvals.materialise_type)
    exact readsWindow_list htype hoff hmem hv (offsets_small hoff hvfit.len_lt hlast) hmat
      hwhole hol hfit.len_lt hnc

/-! ## Windows as slices -/

theorem ReadsBack.toList_eq {b c : Column} {o l : Nat} (h : b.ReadsBack c o l) :
    b.toList = (List.range l).map fun j => c.value (o + j) := by
  rw [toList, h.len_eq]
  exact List.map_congr_left fun j hj => h.value_eq j (List.mem_range.1 hj)

theorem ReadsBack.nullCount_eq {b c : Column} {o l : Nat} (h : b.ReadsBack c o l) :
    b.nullCount = (List.range l).countP fun j => c.nullAt (o + j) := by
  rw [nullCount_eq_countP h.regular, h.len_eq]
  exact List.countP_congr fun j hj => by rw [h.nullAt_eq j (List.mem_range.1 hj)]

theorem toList_window {c : Column} (hreg : c.Regular) {o l : Nat} (hol : o + l ≤ c.len) :
    (c.window o l).toList = (List.range l).map fun j => c.value (o + j) := by
  rw [toList, len_window hol]
  exact List.map_congr_left fun j hj => value_window hreg hol (List.mem_range.1 hj)

theorem slice_eq_ok {c : Column} {o l : Nat} (hol : o + l ≤ c.len) (hlen : c.len ≤ wordMax) :
    c.slice o l = .ok (c.window o l) := by
  have hadd : addWords o l = .ok (o + l) := if_pos (Nat.le_trans hol hlen)
  simp [slice, hadd, hol]

/-! ## The round trip -/

/-- Export and import agree: a well-formed column whose counts fit a descriptor exports a root
at offset 0 with its length, null count and layout, and a dictionary only if it is one; every
window of that root reads back as the column's slice, and the root itself as the column. -/
theorem exported_windows_read_back {c : Column} {d : ArrayNode} (hwf : c.WellFormed)
    (hfit : c.CountsFit) (hexp : c.toDescriptor = .ok d) :
    d.offset = 0 ∧ d.length = c.len ∧ d.nullCount = c.nullCount ∧
      (d.nBuffers, d.nChildren) = c.type.layout ∧
      (d.dictionary.isSome ↔ ∃ i k kv vals ord, c = .dictionary i k kv vals ord) ∧
      (∀ o l, o + l ≤ c.len → ∃ b s, (d.atWindow o l (-1)).importTyped c.type = .ok b ∧
        c.slice o l = .ok s ∧ b.type = c.type ∧ b.len = l ∧ b.nullCount = s.nullCount ∧
        b.toList = s.toList) ∧
      ∃ b, d.importTyped c.type = .ok b ∧ b.type = c.type ∧ b.len = c.len ∧
        b.nullCount = c.nullCount ∧ b.toList = c.toList := by
  have hd : (∃ u, c.checkExportable = .ok u) ∧ c.toNode = d := by
    simpa [toDescriptor] using hexp
  obtain ⟨⟨⟨⟩, hchk⟩, rfl⟩ := hd
  have hreg := hwf.regular
  have hlen := hfit.len_lt
  have hread := readsWindow_of_wellFormed .full hwf hfit hchk
  refine ⟨toNode_offset c, by rw [toNode_length, ArrayNode.wordToInt64_of_lt hlen],
    by rw [toNode_nullCount,
      ArrayNode.wordToInt64_of_lt (Nat.lt_of_le_of_lt (nullCount_le_len hreg) hlen)],
    toNode_layout hwf, toNode_dictionary c, fun o l hol => ?_, ?_⟩
  · -- a window, with an unknown null count
    obtain ⟨b, hb, hback⟩ := hread o l (-1) hol (.inl rfl)
    refine ⟨b, c.window o l, by rw [importTyped_atWindow]; exact hb,
      slice_eq_ok hol (by rw [wordMax, Nat.pow_eq]; omega), hback.type_eq, hback.len_eq, ?_, ?_⟩
    · rw [hback.nullCount_eq, nullCount_window]
    · rw [hback.toList_eq, toList_window hreg hol]
  · -- the root as exported
    obtain ⟨b, hb, hback⟩ := ReadsWindow.whole hreg hlen
      (hread 0 c.len _ (Nat.le_of_eq (Nat.zero_add _)) (.inr rfl))
    refine ⟨b, by rw [importTyped_toNode]; exact hb, hback.type_eq, hback.len_eq, ?_, ?_⟩
    · rw [hback.nullCount_eq, nullCount_eq_countP hreg]
      simp only [Nat.zero_add]
    · rw [hback.toList_eq, toList]
      simp only [Nat.zero_add]

theorem exported_windows_read_back_list :
    let c := list false ⟨"item", .int32, true, .empty⟩ (Buffer.ofList [0, 2, 3])
      (numeric .int32 (Buffer.ofList [7, 8, 9]) none) none
    c.WellFormed ∧ c.CountsFit ∧ c.toDescriptor = .ok c.toNode ∧
      ∃ b s, (c.toNode.atWindow 1 1 (-1)).importTyped c.type = .ok b ∧ c.slice 1 1 = .ok s ∧
        b.toList = s.toList := by
  intro c
  have hvals : (numeric .int32 (Buffer.ofList [7, 8, 9]) none).WellFormed :=
    .numeric _ _ _ ⟨by decide, by decide⟩ (by rintro _ ⟨⟩)
  have hwf : c.WellFormed :=
    .list _ _ _ _ _ rfl ⟨by decide, by decide, by decide⟩ (by decide) (by rintro _ ⟨⟩) hvals
  have hfit : c.CountsFit := .intro (by decide) fun c' hc' => by
    simp only [c, subcolumns, List.mem_singleton] at hc'
    subst hc'
    exact .intro (by decide) (by rintro _ ⟨⟩)
  have hexp : c.toDescriptor = .ok c.toNode := rfl
  obtain ⟨b, s, hb, hs, -, -, -, hlist⟩ :=
    (exported_windows_read_back hwf hfit hexp).2.2.2.2.2.1 1 1 (by decide)
  exact ⟨hwf, hfit, hexp, b, s, hb, hs, hlist⟩

/-- A list of `2^63` null items exports, but the item count is stored as a negative length and
the export is refused on import. -/
theorem huge_items_not_read_back :
    let c := list false ⟨"item", .null, true, .empty⟩ (Buffer.ofList [0, 0]) (null (2 ^ 63)) none
    c.WellFormed ∧ ¬ c.CountsFit ∧ c.toDescriptor = .ok c.toNode ∧
      c.toNode.importTyped c.type = .error (.malformed "negative length -9223372036854775808") := by
  intro c
  refine ⟨.list _ _ _ _ _ rfl ⟨by decide, by decide, by decide⟩ (by decide) nofun (.null _),
    fun h => ?_, rfl, ?_⟩
  · have hitems := (h.sub (null (2 ^ 63)) (List.mem_singleton_self _)).len_lt
    exact Nat.lt_irrefl _ hitems
  · -- the root and its offsets read, the item node does not
    let w : NodeView := ⟨.list ⟨"item", .null, true, .empty⟩, 1, 0, some 0,
      some [validityRegion none, some (wordsRegion 4 (Buffer.ofList [0, 0]))], 2⟩
    have hview : c.toNode.view (if false then .largeList ⟨"item", .null, true, .empty⟩
        else .list ⟨"item", .null, true, .empty⟩) = .ok w := rfl
    obtain ⟨off', hoff', -⟩ := NodeView.offsets_of_slot (w := w) rfl (by decide) (by decide)
      (by decide) (by decide)
    have hchild : (null (2 ^ 63)).toNode.read .full .null =
        .error (.malformed "negative length -9223372036854775808") := by
      have hmsg : "negative length " ++ toString (-2 ^ 63 : Int) =
          "negative length -9223372036854775808" := by decide
      rw [← hmsg]
      rfl
    have hchildren : c.toNode.children = some [some (null (2 ^ 63)).toNode] := rfl
    rw [importTyped_toNode]
    show c.toNode.read .full (if false then .largeList ⟨"item", .null, true, .empty⟩
      else .list ⟨"item", .null, true, .empty⟩) = _
    rw [ArrayNode.read_list false _ hview, hchildren]
    simp only [ArrayNode.readList, offsetWidth, Bool.false_eq_true, if_false, hoff', hchild, bind,
      Except.bind]

end Column

end Columnar
