import Columnar.Proofs.Representation

/-!
# Reading string views

A string-view node keeps one 16-byte view per slot in its second buffer. A view starts with its
length, a signed 32-bit word: a view of at most 12 bytes holds them inline after the length, a
longer one names a data buffer (the word at byte 8) and a start in it (the word at byte 12). The
data buffers follow the views, and the node's last buffer gives their sizes as signed 64-bit
words. The reader copies the bytes that the views of the valid slots select into a plain
string column.

Main statement: a node of at least one slot that passes its checks, with validity bitmap `V`,
is read exactly when its views fit a buffer and it holds what `NodeView.ViewsReadable` asks;
the column then reads as null at each null slot and as the text of the selected bytes at each
valid one:

> `(∃ c, a.importTyped .stringView = .ok c) ↔ w.stop * 16 ≤ maxBytes ∧ w.ViewsReadable V`

The proof follows the reader. The views and sizes buffers are read when they are set
(`required_ok_iff`), the data buffers by induction on the sizes (`variadicBuffers_ok_iff`), and
one view as `viewBytes_eq_ok` says. The copy is an induction on the slots left
(`copyViews_eq_ok`) whose invariant is that the offsets and bytes so far are the running sums
and the concatenation of the chunks copied so far; a null slot adds an empty chunk, and its view
is never read. The checked constructor takes running sums as they are, so only UTF-8 is left
for it to refuse (`stringsOfParts_ofBytes`).
-/

namespace Columnar

/-! ## Strings laid out from their bytes -/

/-- Strings laid out from their bytes are accepted exactly when every present slot's bytes are
UTF-8, and the column is then those offsets and bytes. -/
theorem stringsOfParts_ofBytes {large : Bool} {bytes : List (List UInt8)} {v : Option Bitmap}
    (hv : ∀ m ∈ v, m.len = bytes.length) {c : Column} :
    Column.stringsOfParts large (Buffer.ofList (offsetsOf (bytes.map List.length)))
        (Buffer.ofList bytes.flatten) v = .ok c ↔
      (∀ i (hi : i < bytes.length), Bitmap.isNullAt v i = false →
        (Utf8.decode? bytes[i]).isSome) ∧
      c = .text large (Buffer.ofList (offsetsOf (bytes.map List.length)))
        (Buffer.ofList bytes.flatten) v := by
  have hsize : (Buffer.ofList (offsetsOf (bytes.map List.length))).size - 1 = bytes.length := by
    simp only [Buffer.size, Buffer.ofList, length_offsetsOf, List.length_map, Nat.add_sub_cancel]
  -- the running sums are never empty, so the constructor takes them as they are
  have hne : (Buffer.ofList (offsetsOf (bytes.map List.length))).items.isEmpty = false := by
    rw [List.isEmpty_eq_false_iff, ← List.length_pos_iff]
    show 0 < (offsetsOf (bytes.map List.length)).length
    rw [length_offsetsOf]
    omega
  constructor
  · intro h
    obtain ⟨off', rfl, hoff', -, -, htext⟩ := Column.stringsOfParts_ok h
    rw [hne, if_neg Bool.false_ne_true] at hoff'
    subst hoff'
    refine ⟨fun i hi hnull => ?_, rfl⟩
    have ht := htext i (by omega) hnull
    rwa [slice_offsetsOf hi] at ht
  · rintro ⟨htext, rfl⟩
    obtain ⟨-, hsorted, hbound⟩ := offsets_offsetsOf (bytes.map List.length)
    obtain ⟨c', hc'⟩ : ∃ c', Column.stringsOfParts large
        (Buffer.ofList (offsetsOf (bytes.map List.length))) (Buffer.ofList bytes.flatten) v =
          .ok c' := Column.stringsOfParts_accepts_iff.2 (by
      rw [hne, if_neg Bool.false_ne_true, hsize]
      refine ⟨hsorted, fun x hx => ?_, hv, fun i hi hnull => ?_⟩
      · rw [show (Buffer.ofList bytes.flatten).size = (bytes.map List.length).sum from
          List.length_flatten]
        exact hbound x hx
      · rw [slice_offsetsOf hi]
        exact htext i hi hnull)
    obtain ⟨off', rfl, hoff', -⟩ := Column.stringsOfParts_ok hc'
    rw [hne, if_neg Bool.false_ne_true] at hoff'
    rw [hoff'] at hc'
    exact hc'

/-- A slot of strings laid out from their bytes reads as the text its bytes spell. -/
theorem value_ofBytes {large : Bool} {bytes : List (List UInt8)} {v : Option Bitmap} {i : Nat}
    (hi : i < bytes.length) :
    (Column.text large (Buffer.ofList (offsetsOf (bytes.map List.length)))
      (Buffer.ofList bytes.flatten) v).value i =
      if Bitmap.isNullAt v i then .null else .string ((Utf8.decode? bytes[i]).getD "") := by
  simp only [Column.value, textAt]
  rw [slice_offsetsOf hi]

/-! ## What a string-view node holds -/

/-- Field `k` of a string view, a signed 32-bit word: the length at byte 0, the data buffer
at byte 8 and the start in it at byte 12. -/
def viewField (v : List UInt8) (k : Nat) : Int :=
  LittleEndian.toInt 4 (LittleEndian.value ((v.drop k).take 4))

namespace NodeView

/-- The data buffers a view node names: its buffers between the views and the sizes. -/
def dataCount (w : NodeView) : Nat := (w.nBuffers - 3).toNat

/-- The size the node's last buffer gives data buffer `j`, a signed 64-bit word. -/
def dataSize (w : NodeView) (j : Nat) : Int :=
  ((w.slot (2 + w.dataCount)).map fun r => LittleEndian.toInt 8 (r.wordAt 8 j)).getD 0

/-- Data buffer `j` as far as its size. -/
def dataBytes (w : NodeView) (j : Nat) : List UInt8 :=
  ((w.slot (2 + j)).map fun r => LittleEndian.region r.bytes 0 (w.dataSize j).toNat).getD []

/-- The 16-byte view of slot `i` of the window. -/
def viewAt (w : NodeView) (i : Nat) : List UInt8 :=
  ((w.slot 1).map fun r => LittleEndian.region r.bytes ((w.offset + i) * 16) 16).getD []

/-- The bytes a view selects: up to 12 inline after its length, or as many from its start in
the data buffer it names. -/
def selected (w : NodeView) (v : List UInt8) : List UInt8 :=
  let n := (viewField v 0).toNat
  if n ≤ 12 then (v.drop 4).take n
  else ((w.dataBytes (viewField v 8).toNat).drop (viewField v 12).toNat).take n

/-- A view the reader can follow: its length is not negative, and a view longer than 12 bytes
names one of the data buffers and a start from which its bytes stay inside that buffer. -/
def ViewReadable (w : NodeView) (v : List UInt8) : Prop :=
  0 ≤ viewField v 0 ∧ (12 < viewField v 0 →
    0 ≤ viewField v 8 ∧ viewField v 8 < w.dataCount ∧ 0 ≤ viewField v 12 ∧
      viewField v 12 + viewField v 0 ≤ w.dataSize (viewField v 8).toNat)

/-- What slot `j` adds to the copied bytes: nothing for a null slot, its selected bytes
otherwise. -/
def copied (V : Option Bitmap) (sel : Nat → List UInt8) (j : Nat) : List UInt8 :=
  if Bitmap.isNullAt V j then [] else sel j

/-- The bytes each slot of the window selects, in order: none for a null slot. -/
def chunks (w : NodeView) (V : Option Bitmap) : List (List UInt8) :=
  (List.range w.len).map (copied V fun i => w.selected (w.viewAt i))

/-- The bytes the window's valid slots select, one slot after another. -/
def selection (w : NodeView) (V : Option Bitmap) : List UInt8 := (w.chunks V).flatten

/-- What a string-view node must hold for its window to be read: the views buffer; the sizes
buffer when there are data buffers; sizes that are not negative; each data buffer with bytes;
a view the reader can follow at every valid slot; selected bytes that 32-bit offsets reach;
and UTF-8 at every valid slot. -/
structure ViewsReadable (w : NodeView) (V : Option Bitmap) : Prop where
  views : w.slot 1 ≠ none
  sizes : 0 < w.dataCount → w.slot (2 + w.dataCount) ≠ none
  sizes_nonneg : ∀ j < w.dataCount, 0 ≤ w.dataSize j
  data : ∀ j < w.dataCount, 0 < w.dataSize j → w.slot (2 + j) ≠ none
  readable : ∀ i < w.len, Bitmap.isNullAt V i = false → w.ViewReadable (w.viewAt i)
  fits : (w.selection V).length ≤ 2 ^ 31 - 1
  utf8 : ∀ i < w.len, Bitmap.isNullAt V i = false →
    (Utf8.decode? (w.selected (w.viewAt i))).isSome

variable {w : NodeView}

theorem length_chunks (V : Option Bitmap) : (w.chunks V).length = w.len := by
  simp [chunks]

/-- A valid slot's chunk is the bytes its view selects. -/
theorem getElem_chunks {V : Option Bitmap} {i : Nat} (hi : i < (w.chunks V).length)
    (hnull : Bitmap.isNullAt V i = false) : (w.chunks V)[i] = w.selected (w.viewAt i) := by
  simp [chunks, copied, hnull]

/-! ## The buffers -/

theorem byteCount_of_le {count width : Nat} (h : count * width ≤ maxBytes) :
    w.byteCount count width = .ok (count * width) := by
  simp [byteCount, h]

theorem le_of_byteCount {count width n : Nat} (h : w.byteCount count width = .ok n) :
    count * width ≤ maxBytes := by
  unfold byteCount at h
  split at h
  · assumption
  · cases h

/-- A buffer is read exactly when it is set or nothing is read from it. -/
theorem required_ok_iff {i n : Nat} {what : String} :
    (∃ p, w.required i n what = .ok p) ↔ (0 < n → w.slot i ≠ none) := by
  cases hs : w.slot i with
  | none =>
    have hraw : w.raw i n = none := by simp [raw, hs]
    simp only [required, hraw]
    by_cases hn : n = 0
    · simp [hn]
    · simp [hn, Nat.pos_of_ne_zero hn]
  | some r =>
    obtain ⟨p, hp, -⟩ := required_of_slot hs n what
    exact iff_of_true ⟨p, hp⟩ fun _ => Option.some_ne_none r

/-- What is read from a buffer is its first bytes, none from a null pointer. -/
theorem required_bytes {i n : Nat} {what : String} {p : Piece}
    (h : w.required i n what = .ok p) :
    p.bytes = ((w.slot i).map fun r => LittleEndian.region r.bytes 0 n).getD [] := by
  cases hs : w.slot i with
  | none =>
    have hraw : w.raw i n = none := by simp [raw, hs]
    simp only [required, hraw] at h
    split at h
    · cases h
      rfl
    · cases h
  | some r =>
    obtain ⟨q, hq, hbytes⟩ := required_of_slot hs n what
    rw [hq, Except.ok.injEq] at h
    subst h
    exact hbytes

/-- The sizes buffer reads as one word per data buffer, the size `dataSize` gives it. -/
theorem sizes_words {p : Piece}
    (hp : w.required (2 + w.dataCount) (w.dataCount * 8) "variadic sizes" = .ok p) :
    ∃ s, p.words 8 = .ok s ∧ s.items.length = w.dataCount ∧
      ∀ j < w.dataCount, LittleEndian.toInt 8 (s.items.getD j 0) = w.dataSize j := by
  have hlen : p.bytes.length = w.dataCount * 8 := required_length hp
  have hwords : p.words 8 = .ok ⟨LittleEndian.words 8 p.bytes,
      p.foreign && !decide (0 < p.bytes.length ∧ p.misaligned ∧ 1 < 8)⟩ := by
    simp [Piece.words, hlen]
  have hcount : (LittleEndian.words 8 p.bytes).length = w.dataCount := by
    rw [LittleEndian.length_words (by decide), hlen, Nat.mul_div_cancel _ (by decide)]
  refine ⟨_, hwords, hcount, fun j hj => ?_⟩
  obtain ⟨-, r, hr, hget⟩ := words_of_required (by decide) hp hwords j (by rw [hcount]; exact hj)
  rw [hget, dataSize, hr]
  rfl

/-- The data buffers are read exactly when no size is negative and each buffer with bytes is
set. -/
theorem variadicBuffers_ok_iff : ∀ (k : Nat) (ss : List Nat),
    (∃ ps, w.variadicBuffers k ss = .ok ps) ↔
      ∀ j < ss.length, 0 ≤ LittleEndian.toInt 8 (ss.getD j 0) ∧
        (0 < LittleEndian.toInt 8 (ss.getD j 0) → w.slot (2 + k + j) ≠ none)
  | k, [] => by simp [variadicBuffers]
  | k, s :: rest => by
    have ih := variadicBuffers_ok_iff (k + 1) rest
    rw [List.length_cons, Nat.forall_lt_succ_left]
    simp only [List.getD_cons_zero, List.getD_cons_succ, Nat.add_zero,
      show ∀ j, 2 + (k + 1) + j = 2 + k + (j + 1) from fun j => by omega] at ih ⊢
    by_cases hneg : LittleEndian.toInt 8 s < 0
    · simp [variadicBuffers, hneg, throw, throwThe, MonadExceptOf.throw, bind, Except.bind]
    · have hsize : (0 < (LittleEndian.toInt 8 s).toNat) ↔ 0 < LittleEndian.toInt 8 s := by omega
      simp only [variadicBuffers, hneg, if_false, bind, Except.bind]
      rw [← ih, ← hsize, ← required_ok_iff]
      -- the head's read and the tail's reads each succeed or not
      cases w.required (2 + k) (LittleEndian.toInt 8 s).toNat "variadic data" <;>
        cases w.variadicBuffers (k + 1) rest <;> simp [pure, Except.pure, Int.not_lt.1 hneg]

/-- Each data buffer is read as far as its size. -/
theorem variadicBuffers_bytes : ∀ (k : Nat) (ss : List Nat) (ps : List Piece),
    w.variadicBuffers k ss = .ok ps →
      ps.map Piece.bytes = (List.range ss.length).map fun j =>
        ((w.slot (2 + k + j)).map fun r =>
          LittleEndian.region r.bytes 0 (LittleEndian.toInt 8 (ss.getD j 0)).toNat).getD []
  | k, [], ps, h => by
    cases h
    rfl
  | k, s :: rest, ps, h => by
    simp only [variadicBuffers, bind, Except.bind] at h
    split at h
    · cases h
    obtain ⟨p, hp, h⟩ := Except.bind_eq_ok.1 h
    obtain ⟨ps', hps', h⟩ := Except.bind_eq_ok.1 h
    cases Except.pure_eq_ok.1 h
    rw [List.map_cons, required_bytes hp, variadicBuffers_bytes (k + 1) rest ps' hps',
      List.length_cons, List.range_succ_eq_map, List.map_cons, List.map_map]
    congr 1
    refine List.map_congr_left fun j _ => ?_
    simp only [Function.comp_apply, List.getD_cons_succ,
      show 2 + (k + 1) + j = 2 + k + (j + 1) by omega]

/-- The data buffers are read exactly when their sizes are not negative and each with bytes is
set; each is then read as far as its size. -/
theorem dataBuffers_ok {sp : Piece} {s : Buffer Nat}
    (hsp : w.required (2 + w.dataCount) (w.dataCount * 8) "variadic sizes" = .ok sp)
    (hs : sp.words 8 = .ok s) :
    ((∃ ps, w.variadicBuffers 0 s.items = .ok ps) ↔
      ∀ j < w.dataCount, 0 ≤ w.dataSize j ∧ (0 < w.dataSize j → w.slot (2 + j) ≠ none)) ∧
    ∀ ps, w.variadicBuffers 0 s.items = .ok ps →
      ps.map Piece.bytes = (List.range w.dataCount).map w.dataBytes := by
  obtain ⟨s', hs', hlen, hsize⟩ := sizes_words hsp
  rw [hs] at hs'
  cases hs'
  refine ⟨?_, fun ps hps => ?_⟩
  · rw [variadicBuffers_ok_iff, hlen]
    refine forall₂_congr fun j hj => ?_
    rw [hsize j hj, Nat.add_zero]
  · rw [variadicBuffers_bytes 0 s.items ps hps, hlen]
    refine List.map_congr_left fun j hj => ?_
    rw [hsize j (List.mem_range.1 hj), Nat.add_zero]
    rfl

/-! ## One view -/

theorem length_dataBytes {j : Nat} (h : 0 < w.dataSize j → w.slot (2 + j) ≠ none) :
    (w.dataBytes j).length = (w.dataSize j).toNat := by
  unfold dataBytes
  cases hs : w.slot (2 + j) with
  | none =>
    have hle : w.dataSize j ≤ 0 := Int.not_lt.1 fun hpos => h hpos hs
    simp only [Option.map_none, Option.getD_none, List.length_nil]
    omega
  | some r => simp

/-- Given the data buffers as read, a view reads exactly when the reader can follow it, and
gives the bytes it selects. -/
theorem viewBytes_eq_ok {views : List UInt8} {ps : List Piece} {i start : Nat}
    {bs : List UInt8} (hps : ps.map Piece.bytes = (List.range w.dataCount).map w.dataBytes)
    (hsz : ∀ j < w.dataCount, 0 < w.dataSize j → w.slot (2 + j) ≠ none) :
    viewBytes views ps i start = .ok bs ↔ w.ViewReadable (LittleEndian.region views start 16) ∧
      bs = w.selected (LittleEndian.region views start 16) := by
  -- the data buffer a view names, as the reader holds it
  have hbuf : ∀ b, (ps[b]?).map Piece.bytes =
      if b < w.dataCount then some (w.dataBytes b) else none := by
    intro b
    rw [← List.getElem?_map, hps, List.getElem?_map]
    by_cases hb : b < w.dataCount
    · rw [if_pos hb, List.getElem?_range hb]
      rfl
    · rw [if_neg hb, List.getElem?_eq_none (by simpa using hb)]
      rfl
  unfold viewBytes ViewReadable selected
  generalize LittleEndian.region views start 16 = v
  simp only [show ∀ k, LittleEndian.toInt 4 (LittleEndian.value (List.take 4 (List.drop k v))) =
    viewField v k from fun _ => rfl]
  generalize viewField v 0 = n
  generalize viewField v 8 = b
  generalize viewField v 12 = st
  simp only [bind, Except.bind, throw, throwThe, MonadExceptOf.throw, pure, Except.pure]
  -- the checks in the reader's order: length, then inline or buffer, start and extent
  by_cases hneg : n < 0
  · simp [hneg]
  have hnn : 0 ≤ n := Int.not_lt.1 hneg
  by_cases hsmall : n.toNat ≤ 12
  · have hle : ¬ 12 < n := by omega
    simp [hneg, hsmall, hle, hnn, eq_comm]
  have hbig : 12 < n := by omega
  simp only [hneg, hsmall, hbig, hnn, if_false, true_implies, true_and]
  by_cases hb0 : b < 0
  · simp [hb0]
  rw [if_neg hb0]
  by_cases hbk : b.toNat < w.dataCount
  · have hsome := hbuf b.toNat
    rw [if_pos hbk] at hsome
    obtain ⟨p, hp, hpb⟩ := Option.map_eq_some_iff.1 hsome
    have hlen : p.bytes.length = (w.dataSize b.toNat).toNat := by
      rw [hpb]
      exact length_dataBytes (hsz _ hbk)
    rw [hp]
    dsimp only
    by_cases hs0 : st < 0
    · simp [hs0]
    by_cases hfit : p.bytes.length < st.toNat + n.toNat
    · simp only [hs0, hfit, if_true, if_false, reduceCtorEq, false_iff]
      omega
    · have hconds : 0 ≤ b ∧ b < w.dataCount ∧ 0 ≤ st ∧ st + n ≤ w.dataSize b.toNat := by omega
      rw [if_neg hs0, if_neg hfit, Except.ok.injEq, hpb]
      simp only [hconds, true_and]
      exact eq_comm
  · have hnone := hbuf b.toNat
    rw [if_neg hbk, Option.map_eq_none_iff] at hnone
    rw [hnone]
    simp only [reduceCtorEq, false_iff]
    omega

/-! ## The copy -/

section Copy

variable {views : List UInt8} {ps : List Piece} (V : Option Bitmap) {o N : Nat}
  {R : Nat → Prop} {sel : Nat → List UInt8}

/-- One more chunk adds one offset: the length of all the bytes so far. -/
theorem offsetsOf_append_one (prev : List (List UInt8)) (c : List UInt8) :
    offsetsOf ((prev ++ [c]).map List.length) =
      offsetsOf (prev.map List.length) ++ [(prev.flatten ++ c).length] := by
  rw [List.map_append, List.map_singleton, offsetsOf_concat, List.length_append,
    List.length_flatten]

/-- Given what each view reads (`R` and `sel`), the copy succeeds exactly when every valid
slot's view reads and the bytes stay within 32-bit offsets; it then holds the running offsets
and the bytes of all the chunks. Induction on the slots left, from any chunks copied before. -/
theorem copyViews_eq_ok
    (hview : ∀ j < N, ∀ bs, viewBytes views ps j ((o + j) * 16) = .ok bs ↔ R j ∧ bs = sel j) :
    ∀ (rem i : Nat) (prev : List (List UInt8)) (r : List Nat × List UInt8), i + rem ≤ N →
      prev.flatten.length ≤ 2 ^ 31 - 1 →
      (copyViews views ps V o rem (offsetsOf (prev.map List.length)) prev.flatten i = .ok r ↔
        (∀ j ∈ List.range' i rem, Bitmap.isNullAt V j = false → R j) ∧
        (prev ++ (List.range' i rem).map (copied V sel)).flatten.length ≤ 2 ^ 31 - 1 ∧
        r = (offsetsOf ((prev ++ (List.range' i rem).map (copied V sel)).map List.length),
          (prev ++ (List.range' i rem).map (copied V sel)).flatten))
  | 0, i, prev, r, _, hprev => by
    simp only [copyViews, List.range'_zero, List.map_nil, List.append_nil, Except.ok.injEq,
      List.not_mem_nil, false_implies, implies_true, hprev, true_and]
    exact eq_comm
  | rem + 1, i, prev, r, hi, hprev => by
    -- slot `i` first, then the rest from a list of chunks one longer
    rw [List.range'_succ, List.forall_mem_cons, List.map_cons, ← List.singleton_append,
      ← List.append_assoc]
    unfold copyViews
    by_cases hnull : Bitmap.isNullAt V i = true
    · have hc : copied V sel i = [] := by simp [copied, hnull]
      rw [if_pos hnull, hc]
      have ih := copyViews_eq_ok hview rem (i + 1) (prev ++ [[]]) r (by omega)
        (by simpa using hprev)
      rw [offsetsOf_append_one, List.flatten_append, List.flatten_singleton,
        List.append_nil] at ih
      -- slot `i` is null, so its view is never read
      simp only [ih, hnull, Bool.true_eq_false, false_implies, true_and]
    · have hvalid : Bitmap.isNullAt V i = false := by simpa using hnull
      have hc : copied V sel i = sel i := by simp [copied, hvalid]
      rw [if_neg hnull, hc]
      simp only [Except.bind_eq_ok, hview i (by omega), hvalid, true_implies, and_assoc,
        exists_and_left, exists_eq_left, Nat.pow_eq]
      -- the bytes so far are a prefix of all the bytes copied
      have hprefix : (prev.flatten ++ sel i).length ≤
          (prev ++ [sel i] ++ (List.range' (i + 1) rem).map (copied V sel)).flatten.length := by
        simp only [List.flatten_append, List.flatten_singleton, List.length_append]
        omega
      by_cases hover : 2 ^ 31 - 1 < (prev.flatten ++ sel i).length
      · simp only [if_pos hover, throw, throwThe, MonadExceptOf.throw, bind, Except.bind,
          reduceCtorEq, and_false, false_iff, not_and]
        omega
      · have ih := copyViews_eq_ok hview rem (i + 1) (prev ++ [sel i]) r (by omega)
          (by simpa using hover)
        rw [offsetsOf_append_one, List.flatten_append, List.flatten_singleton] at ih
        rw [if_neg hover, ih]

end Copy

/-- The window's views are copied exactly when every valid slot's view reads and the selected
bytes fit 32-bit offsets; the copy is then the running offsets and the selected bytes. -/
theorem copyViews_window {views : Piece} {ps : List Piece} {V : Option Bitmap}
    {r : List Nat × List UInt8}
    (hviews : w.required 1 (w.stop * 16) "views" = .ok views)
    (hps : ps.map Piece.bytes = (List.range w.dataCount).map w.dataBytes)
    (hsz : ∀ j < w.dataCount, 0 < w.dataSize j → w.slot (2 + j) ≠ none) :
    copyViews views.bytes ps V w.offset w.len [0] [] 0 = .ok r ↔
      ((∀ i < w.len, Bitmap.isNullAt V i = false → w.ViewReadable (w.viewAt i)) ∧
        (w.selection V).length ≤ 2 ^ 31 - 1) ∧
      r = (offsetsOf ((w.chunks V).map List.length), w.selection V) := by
  -- each slot's view is the one the views buffer holds at its place
  have hview : ∀ i < w.len, ∀ bs, viewBytes views.bytes ps i ((w.offset + i) * 16) = .ok bs ↔
      w.ViewReadable (w.viewAt i) ∧ bs = w.selected (w.viewAt i) := by
    intro i hi bs
    have hset : w.slot 1 ≠ none :=
      required_ok_iff.1 ⟨views, hviews⟩ (Nat.mul_pos (by unfold stop; omega) (by decide))
    obtain ⟨r1, hr1⟩ := Option.ne_none_iff_exists'.1 hset
    have hat : LittleEndian.region views.bytes ((w.offset + i) * 16) 16 = w.viewAt i := by
      rw [required_bytes hviews, viewAt, hr1, Option.map_some, Option.getD_some,
        Option.map_some, Option.getD_some]
      refine LittleEndian.region_region ?_
      rw [← Nat.succ_mul]
      exact Nat.mul_le_mul_right 16 (by unfold stop; omega)
    rw [viewBytes_eq_ok hps hsz, hat]
  have hcopy := copyViews_eq_ok V hview w.len 0 [] r (by omega) (by simp)
  simp only [List.nil_append, List.map_nil, ← List.range_eq_range', List.mem_range] at hcopy
  rw [selection, chunks, and_assoc]
  exact hcopy

/-! ## The window -/

section Window

variable {V : Option Bitmap}

/-- A validity bitmap read from the node has a bit for each chunk. -/
theorem covers_chunks (hv : w.validity = .ok V) : ∀ m ∈ V, m.len = (w.chunks V).length :=
  fun m hm => by
    rw [length_chunks]
    exact (validity_covers hv m hm).2

/-- UTF-8 at the valid chunks is UTF-8 of the bytes the valid slots' views select. -/
theorem chunks_utf8_iff :
    (∀ i (hi : i < (w.chunks V).length), Bitmap.isNullAt V i = false →
      (Utf8.decode? (w.chunks V)[i]).isSome) ↔
    ∀ i < w.len, Bitmap.isNullAt V i = false → (Utf8.decode? (w.selected (w.viewAt i))).isSome := by
  refine forall_congr' fun i => ⟨fun h hi hnull => ?_, fun h hi hnull => ?_⟩
  · have hi' : i < (w.chunks V).length := by rwa [length_chunks]
    rw [← getElem_chunks hi' hnull]
    exact h hi' hnull
  · rw [getElem_chunks hi hnull]
    exact h (by rwa [length_chunks] at hi) hnull

/-- What a string-view window that reads must hold, and the column it reads as. -/
theorem readable_of_stringViews (hv : w.validity = .ok V) (hn : 0 < w.len) {c : Column}
    (h : w.stringViews = .ok c) :
    (w.stop * 16 ≤ maxBytes ∧ w.ViewsReadable V) ∧
      c = .text false (Buffer.ofList (offsetsOf ((w.chunks V).map List.length)))
        (Buffer.ofList (w.selection V)) V := by
  obtain ⟨v, hv', h⟩ := Except.bind_eq_ok.1 h
  rw [hv, Except.ok.injEq] at hv'
  subst hv'
  rw [if_neg (Nat.pos_iff_ne_zero.1 hn)] at h
  -- the reads in order: views, sizes, data buffers, the copy and the check
  obtain ⟨n, hcount, h⟩ := Except.bind_eq_ok.1 h
  obtain ⟨views, hviews, h⟩ := Except.bind_eq_ok.1 h
  rw [byteCount_eq_ok hcount] at hviews
  obtain ⟨sp, hsp, h⟩ := Except.bind_eq_ok.1 h
  obtain ⟨s, hs, h⟩ := Except.bind_eq_ok.1 h
  obtain ⟨ps, hps, h⟩ := Except.bind_eq_ok.1 h
  obtain ⟨r, hr, h⟩ := Except.bind_eq_ok.1 h
  obtain ⟨hdata, hbytes⟩ := dataBuffers_ok hsp hs
  have hsz := hdata.1 ⟨ps, hps⟩
  obtain ⟨⟨hread, hfits⟩, rfl⟩ :=
    (copyViews_window hviews (hbytes ps hps) fun j hj => (hsz j hj).2).1 hr
  obtain ⟨htext, rfl⟩ := (stringsOfParts_ofBytes (covers_chunks hv)).1 h
  refine ⟨⟨le_of_byteCount hcount, ?_⟩, rfl⟩
  exact {
    views := required_ok_iff.1 ⟨views, hviews⟩ (Nat.mul_pos (by unfold stop; omega) (by decide))
    sizes := fun hk => required_ok_iff.1 ⟨sp, hsp⟩ (Nat.mul_pos hk (by decide))
    sizes_nonneg := fun j hj => (hsz j hj).1
    data := fun j hj => (hsz j hj).2
    readable := hread
    fits := hfits
    utf8 := chunks_utf8_iff.1 htext }

/-- A string-view window whose views fit a buffer and that holds what `ViewsReadable` asks
reads as the selected bytes, slot by slot. -/
theorem stringViews_of_readable (hv : w.validity = .ok V) (hn : 0 < w.len)
    (hfit : w.stop * 16 ≤ maxBytes) (hr : w.ViewsReadable V) :
    w.stringViews = .ok (.text false (Buffer.ofList (offsetsOf ((w.chunks V).map List.length)))
      (Buffer.ofList (w.selection V)) V) := by
  -- each read succeeds in turn: views, sizes, data buffers, the copy and the check
  obtain ⟨views, hviews⟩ : ∃ p, w.required 1 (w.stop * 16) "views" = .ok p :=
    required_ok_iff.2 fun _ => hr.views
  obtain ⟨sp, hsp⟩ :
      ∃ p, w.required (2 + w.dataCount) (w.dataCount * 8) "variadic sizes" = .ok p :=
    required_ok_iff.2 fun hpos => hr.sizes (by omega)
  obtain ⟨s, hs, -⟩ := sizes_words hsp
  obtain ⟨hdata, hbytes⟩ := dataBuffers_ok hsp hs
  obtain ⟨ps, hps⟩ := hdata.2 fun j hj => ⟨hr.sizes_nonneg j hj, hr.data j hj⟩
  have hcopy :=
    (copyViews_window hviews (hbytes ps hps) hr.data).2 ⟨⟨hr.readable, hr.fits⟩, rfl⟩
  have hcheck : Column.stringsOfParts false _ _ V = .ok _ :=
    (stringsOfParts_ofBytes (covers_chunks hv)).2 ⟨chunks_utf8_iff.2 hr.utf8, rfl⟩
  refine Except.bind_eq_ok.2 ⟨V, hv, ?_⟩
  rw [if_neg (Nat.pos_iff_ne_zero.1 hn)]
  refine Except.bind_eq_ok.2 ⟨_, byteCount_of_le hfit, Except.bind_eq_ok.2 ⟨views, hviews, ?_⟩⟩
  refine Except.bind_eq_ok.2 ⟨sp, hsp, Except.bind_eq_ok.2 ⟨s, hs, ?_⟩⟩
  exact Except.bind_eq_ok.2 ⟨ps, hps, Except.bind_eq_ok.2 ⟨_, hcopy, hcheck⟩⟩

/-- A string-view window of at least one slot reads exactly when its views fit a buffer and it
holds what `ViewsReadable` asks; the column is then the selected bytes, slot by slot. -/
theorem stringViews_eq_ok (hv : w.validity = .ok V) (hn : 0 < w.len) {c : Column} :
    w.stringViews = .ok c ↔ (w.stop * 16 ≤ maxBytes ∧ w.ViewsReadable V) ∧
      c = .text false (Buffer.ofList (offsetsOf ((w.chunks V).map List.length)))
        (Buffer.ofList (w.selection V)) V := by
  refine ⟨readable_of_stringViews hv hn, ?_⟩
  rintro ⟨⟨hfit, hr⟩, rfl⟩
  exact stringViews_of_readable hv hn hfit hr

end Window

end NodeView

namespace ArrayNode

/-- A node that passes its checks as a string view is imported as its view reads. -/
theorem importTyped_stringView {a : ArrayNode} {w : NodeView}
    (hw : a.view .stringView = .ok w) : a.importTyped .stringView = w.stringViews := by
  have hlive : a.released = false := by
    obtain ⟨nc, hslots, -⟩ := Except.bind_eq_ok.1 hw
    cases hrel : a.released
    · rfl
    · simp [checkSlots, hrel, throw, throwThe, MonadExceptOf.throw, bind, Except.bind] at hslots
  unfold importTyped importChecked
  rw [hlive, if_neg Bool.false_ne_true]
  cases a
  rw [read, hw]
  rfl

/-- Reading a string-view node of at least one slot that passes its checks, with the validity
bitmap `V` read from it: the import succeeds exactly when the window's views fit a buffer and
the node holds what `ViewsReadable` asks. It then gives a 32-bit string column with the bitmap
`V` and a slot for each slot of the window, where a null slot reads as null and a valid slot as
the text of the bytes its view selects. -/
theorem string_views_import_exactly {a : ArrayNode} {w : NodeView} {V : Option Bitmap}
    (hw : a.view .stringView = .ok w) (hv : w.validity = .ok V) (hn : 0 < w.len) :
    ((∃ c, a.importTyped .stringView = .ok c) ↔
      w.stop * 16 ≤ NodeView.maxBytes ∧ w.ViewsReadable V) ∧
    ∀ c, a.importTyped .stringView = .ok c →
      c.type = .string ∧ c.validity = V ∧ c.len = w.len ∧
      ∀ i < w.len, (Bitmap.isNullAt V i = true → c.value i = .null) ∧
        (Bitmap.isNullAt V i = false →
          ∃ s, c.value i = .string s ∧ Utf8.encode s = w.selected (w.viewAt i)) := by
  rw [importTyped_stringView hw]
  refine ⟨⟨fun ⟨c, h⟩ => ((NodeView.stringViews_eq_ok hv hn).1 h).1,
    fun h => ⟨_, (NodeView.stringViews_eq_ok hv hn).2 ⟨h, rfl⟩⟩⟩, fun c h => ?_⟩
  obtain ⟨⟨-, hr⟩, rfl⟩ := (NodeView.stringViews_eq_ok hv hn).1 h
  have hlen : ∀ i < w.len, i < (w.chunks V).length := fun i hi => by
    rwa [NodeView.length_chunks]
  refine ⟨rfl, rfl, ?_, fun i hi => ⟨fun hnull => ?_, fun hnull => ?_⟩⟩
  · simp only [Column.len, Buffer.size, Buffer.ofList, length_offsetsOf, List.length_map,
      NodeView.length_chunks, Nat.add_sub_cancel]
  · rw [NodeView.selection, value_ofBytes (hlen i hi), if_pos hnull]
  · -- a valid slot's bytes were checked to be UTF-8, and spell its text
    obtain ⟨s, hs⟩ := Option.isSome_iff_exists.1 (hr.utf8 i hi hnull)
    refine ⟨s, ?_, Utf8.encode_of_decode? hs⟩
    rw [NodeView.selection, value_ofBytes (hlen i hi), if_neg (by simp [hnull]),
      NodeView.getElem_chunks (hlen i hi) hnull, hs]
    rfl

/-- Three slots: a two-byte string inline, a null slot whose view is garbage, and a 13-byte
string in the node's one data buffer. -/
theorem string_views_import_three :
    let a : ArrayNode := ⟨3, 1, 0, 4, some [some ⟨[0b101], false⟩,
      some ⟨[2, 0, 0, 0, 104, 105, 0, 0, 0, 0, 0, 0, 0, 0, 0, 0,
        255, 255, 255, 255, 0, 0, 0, 0, 0, 0, 0, 0, 0, 0, 0, 0,
        13, 0, 0, 0, 104, 101, 108, 108, 0, 0, 0, 0, 0, 0, 0, 0], false⟩,
      some ⟨[104, 101, 108, 108, 111, 44, 32, 119, 111, 114, 108, 100, 33], false⟩,
      some ⟨[13, 0, 0, 0, 0, 0, 0, 0], false⟩], 0, none, none, false, true⟩
    let w : NodeView := ⟨.stringView, 3, 0, some 1, a.buffers, 4⟩
    let V : Option Bitmap := some ⟨[0b101], 0, 3, true⟩
    a.view .stringView = .ok w ∧ w.validity = .ok V ∧ 0 < w.len ∧
      ((∃ c, a.importTyped .stringView = .ok c) ↔
        w.stop * 16 ≤ NodeView.maxBytes ∧ w.ViewsReadable V) ∧
      ∀ c, a.importTyped .stringView = .ok c →
        c.type = .string ∧ c.validity = V ∧ c.len = w.len ∧
        ∀ i < w.len, (Bitmap.isNullAt V i = true → c.value i = .null) ∧
          (Bitmap.isNullAt V i = false →
            ∃ s, c.value i = .string s ∧ Utf8.encode s = w.selected (w.viewAt i)) := by
  intro a w V
  have hw : a.view .stringView = .ok w := by
    dsimp only [a, w]
    rfl
  have hv : w.validity = .ok V := by
    dsimp only [w, a, V]
    rfl
  exact ⟨hw, hv, by decide, string_views_import_exactly hw hv (by decide)⟩

end ArrayNode

end Columnar
