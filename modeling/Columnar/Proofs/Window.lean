import Columnar.Column.Basic
import Columnar.Proofs.Bitmap

/-!
# Windows read the slots they cover

`Column.window o l` shares a column's buffers: fixed-width words and bitmaps are cut to the
window, offsets are cut but stay absolute into the data or child, and struct children are
windowed alike. Whatever the column, the window has the slots `[o, o + l)`:

> `(c.window o l).value j = c.value (o + j)` and `(c.window o l).nullAt j = c.nullAt (o + j)`.

The values need one fact about the column, `Regular`: a validity bitmap has one bit per slot
and the children of a struct are as long as the struct, at every depth. A window keeps that
shape, and the null count of a regular column is the number of its null slots
(`nullCount_eq_countP`), so the count of a window follows from its slots.
-/

namespace Columnar

namespace Buffer

variable {α : Type}

theorem size_window (b : Buffer α) {o l : Nat} (h : o + l ≤ b.size) :
    (b.window o l).size = l := by
  simp only [window, size, List.length_take, List.length_drop] at h ⊢
  omega

theorem get_window [Inhabited α] (b : Buffer α) (o : Nat) {l j : Nat} (hj : j < l) :
    (b.window o l).get j = b.get (o + j) := by
  simp only [window, get, List.getD_eq_getElem?_getD, List.getElem?_take, if_pos hj,
    List.getElem?_drop]

/-- The flag of a buffer plays no part in its slots. -/
theorem get_of_items [Inhabited α] {b b' : Buffer α} (h : b.items = b'.items) (i : Nat) :
    b.get i = b'.get i := by
  simp only [get, h]

theorem size_of_items {b b' : Buffer α} (h : b.items = b'.items) : b.size = b'.size := by
  simp only [size, h]

theorem get_mem [Inhabited α] {b : Buffer α} {i : Nat} (h : i < b.size) : b.get i ∈ b.items := by
  simp only [get, List.getD_eq_getElem?_getD, List.getElem?_eq_getElem h, Option.getD_some]
  exact List.getElem_mem h

theorem getLastD_eq_get {b : Buffer Nat} {n : Nat} (h : b.size = n + 1) :
    b.items.getLastD 0 = b.get n := by
  simp only [size] at h
  rw [List.getLastD_eq_getLast?, List.getLast?_eq_getElem?]
  simp only [get, List.getD_eq_getElem?_getD, h, Nat.add_sub_cancel]
  -- the default of a natural number is zero
  rfl

end Buffer

namespace Bitmap

theorem isNullAt_windowOpt (v : Option Bitmap) (o : Nat) {l j : Nat} (hj : j < l) :
    isNullAt (windowOpt v o l) j = isNullAt v (o + j) := by
  cases v with
  | none => rfl
  | some m => simp only [windowOpt, Option.map_some, isNullAt, get_window m o hj]

end Bitmap

theorem IntervalUnit.words_pos (u : IntervalUnit) : 0 < u.words := by
  cases u <;> decide

/-- An interval slot reads the unit's words of that slot and nothing else. -/
theorem IntervalUnit.scalar_congr (u : IntervalUnit) {d d' : Buffer Nat} {i i' : Nat}
    (hword : ∀ k < u.words, d.get (i * u.words + k) = d'.get (i' * u.words + k)) :
    u.scalar d i = u.scalar d' i' := by
  cases u with
  | yearMonth => simp only [scalar, hword 0 (by decide)]
  | daysTime => simp only [scalar, hword 0 (by decide), hword 1 (by decide)]
  | monthDayNano =>
    simp only [scalar, hword 0 (by decide), hword 1 (by decide), hword 2 (by decide),
      hword 3 (by decide)]

/-- An interval slot of a window reads the words of slot `o + j`. -/
theorem IntervalUnit.scalar_window (u : IntervalUnit) (d : Buffer Nat) {o l j : Nat}
    (hj : j < l) : u.scalar (d.window (o * u.words) (l * u.words)) j = u.scalar d (o + j) := by
  apply u.scalar_congr
  intro k hk
  have hlt : j * u.words + k < l * u.words := by
    have hmul := Nat.mul_le_mul_right u.words (Nat.succ_le_of_lt hj)
    rw [Nat.succ_mul] at hmul
    omega
  rw [Buffer.get_window d _ hlt, Nat.add_mul, Nat.add_assoc]

namespace Column

/-- Whether slot `i` is null: every slot of a null column, a slot whose validity bit is
clear otherwise. -/
def nullAt : Column → Nat → Bool
  | .null _, _ => true
  | c, i => Bitmap.isNullAt c.validity i

/-- The shape windows rely on: a validity bitmap has a bit per slot, and a struct's children
are as long as the struct and of this shape too. -/
inductive Regular : Column → Prop
  | null (n : Nat) : Regular (.null n)
  | numeric (k : NumericKind) (d : Buffer Nat) (v : Option Bitmap)
      (hv : ∀ m ∈ v, m.len = d.size) : Regular (.numeric k d v)
  | boolean (d : Bitmap) (v : Option Bitmap) (hv : ∀ m ∈ v, m.len = d.len) :
      Regular (.boolean d v)
  | text (large : Bool) (off : Buffer Nat) (d : Buffer UInt8) (v : Option Bitmap)
      (hv : ∀ m ∈ v, m.len = off.size - 1) : Regular (.text large off d v)
  | dictionary (i : IndexType) (k : Buffer Nat) (kv : Option Bitmap) (vals : Column)
      (ord : Bool) (hv : ∀ m ∈ kv, m.len = k.size) : Regular (.dictionary i k kv vals ord)
  | temporal (kind : TemporalKind) (u : TimeUnit) (z : Option String) (d : Buffer Nat)
      (v : Option Bitmap) (hv : ∀ m ∈ v, m.len = d.size) : Regular (.temporal kind u z d v)
  | interval (u : IntervalUnit) (d : Buffer Nat) (v : Option Bitmap)
      (hv : ∀ m ∈ v, m.len = d.size / u.words) : Regular (.interval u d v)
  | struct (fs : List Field) (cs : List Column) (v : Option Bitmap) (n : Nat)
      (hv : ∀ m ∈ v, m.len = n) (hlen : ∀ c ∈ cs, c.len = n) (hcs : ∀ c ∈ cs, Regular c) :
      Regular (.struct fs cs v n)
  | list (large : Bool) (f : Field) (off : Buffer Nat) (vals : Column) (v : Option Bitmap)
      (hv : ∀ m ∈ v, m.len = off.size - 1) : Regular (.list large f off vals v)

/-- A key below `n` names a slot below `n`: a key that is not negative is never wider than
its low 64 bits. -/
theorem keySlot_lt {k : Int} {n : Nat} (h0 : 0 ≤ k) (hlt : k < n) : keySlot k < n := by
  have hpow : Int.pow 2 64 = 18446744073709551616 := by decide
  rw [keySlot, hpow]
  omega

/-- A key that fits a machine word names its own slot. -/
theorem keySlot_of_lt {k : Int} (h0 : 0 ≤ k) (hlt : k < Int.pow 2 64) : keySlot k = k.toNat := by
  have hpow : Int.pow 2 64 = 18446744073709551616 := by decide
  rw [hpow] at hlt
  rw [keySlot, hpow]
  omega

theorem windowAll_eq_map (cs : List Column) (o l : Nat) :
    windowAll cs o l = cs.map fun c => c.window o l := by
  induction cs with
  | nil => rfl
  | cons c cs ih => rw [windowAll, ih, List.map_cons]

/-! ## What a window keeps -/

@[simp] theorem type_window (c : Column) (o l : Nat) : (c.window o l).type = c.type := by
  cases c <;> rfl

/-- A window inside the column has as many slots as asked for. -/
theorem len_window {c : Column} {o l : Nat} (h : o + l ≤ c.len) : (c.window o l).len = l := by
  cases c with
  | null n => rfl
  | numeric k d v | dictionary i d v vals ord | temporal kind u z d v =>
    exact Buffer.size_window d h
  | boolean d v => rfl
  | text large off d v | list large f off d v =>
    simp only [len, window, Buffer.window, Buffer.size, List.length_take,
      List.length_drop] at h ⊢
    omega
  | interval u d v =>
    have hw := IntervalUnit.words_pos u
    simp only [len, window] at h ⊢
    have hfit : (o + l) * u.words ≤ d.size := by
      calc (o + l) * u.words ≤ d.size / u.words * u.words := Nat.mul_le_mul_right _ h
        _ ≤ d.size := Nat.div_mul_le_self _ _
    rw [Buffer.size_window d (by rw [← Nat.add_mul]; exact hfit), Nat.mul_div_cancel _ hw]
  | struct fs cs v n => rfl

/-- Slot `j` of a window is null exactly when slot `o + j` of the column is. -/
theorem nullAt_window (c : Column) (o : Nat) {l j : Nat} (hj : j < l) :
    (c.window o l).nullAt j = c.nullAt (o + j) := by
  cases c <;> simp only [window, nullAt, validity, Bitmap.isNullAt_windowOpt _ o hj]

/-- The null count of a window counts the null slots it covers. -/
theorem nullCount_window (c : Column) (o l : Nat) :
    (c.window o l).nullCount = (List.range l).countP fun j => c.nullAt (o + j) := by
  have hslots : ∀ v : Option Bitmap, ((Bitmap.windowOpt v o l).map Bitmap.countZeros).getD 0 =
      (List.range l).countP fun j => Bitmap.isNullAt v (o + j) := by
    intro v
    cases v with
    | none => simp [Bitmap.windowOpt, Bitmap.isNullAt]
    | some m =>
      simp only [Bitmap.windowOpt, Option.map_some, Option.getD_some,
        Bitmap.countZeros_eq_countP, Bitmap.len_window]
      apply List.countP_congr
      intro j hj
      rw [Bitmap.get_window m o (List.mem_range.1 hj), Bitmap.isNullAt]
  cases c with
  | null n => simp [window, nullCount, nullAt]
  | _ => simp only [window, nullCount, validity, nullAt, hslots]

/-- The null count of a regular column is the number of its null slots. -/
theorem nullCount_eq_countP {c : Column} (h : c.Regular) :
    c.nullCount = (List.range c.len).countP c.nullAt := by
  have hslots : ∀ (v : Option Bitmap) (n : Nat), (∀ m ∈ v, m.len = n) →
      (v.map Bitmap.countZeros).getD 0 = (List.range n).countP (Bitmap.isNullAt v) := by
    intro v n hv
    cases v with
    | none => exact (List.countP_eq_zero.2 fun _ _ => Bool.false_ne_true).symm
    | some m =>
      simp only [Option.map_some, Option.getD_some, Bitmap.countZeros_eq_countP,
        hv m rfl]
      rfl
  cases h with
  | null n =>
    -- every slot of a null column is null
    have hall : ∀ i ∈ List.range n, (Column.null n).nullAt i = true := fun _ _ => rfl
    show n = (List.range n).countP (Column.null n).nullAt
    rw [List.countP_eq_length.2 hall, List.length_range]
  | numeric _ _ _ hv | boolean _ _ hv | text _ _ _ _ hv | dictionary _ _ _ _ _ hv
  | temporal _ _ _ _ _ hv | interval _ _ _ hv | struct _ _ _ _ hv _ _ | list _ _ _ _ _ hv =>
    exact hslots _ _ hv

/-! ## Windows of regular columns -/

theorem members_windowAll {fs : List Field} {cs : List Column} {o l j : Nat}
    (hcs : ∀ c ∈ cs, (c.window o l).value j = c.value (o + j)) :
    members fs (windowAll cs o l) j = members fs cs (o + j) := by
  induction fs generalizing cs with
  | nil => cases cs <;> rfl
  | cons f fs ih =>
    cases cs with
    | nil => rfl
    | cons c cs =>
      rw [windowAll, members, members, hcs c (List.mem_cons_self ..),
        ih fun c' hc' => hcs c' (List.mem_cons_of_mem _ hc')]

/-- A window inside a regular column reads the column's slots from `o` on. -/
theorem value_window {c : Column} (h : c.Regular) {o l : Nat} (hol : o + l ≤ c.len) {j : Nat}
    (hj : j < l) : (c.window o l).value j = c.value (o + j) := by
  induction h generalizing o l j with
  | null n => rfl
  | numeric k d v _ | temporal kind u z d v _ =>
    have hsize : (d.window o l).size = l := Buffer.size_window d hol
    have hin : ¬ d.size ≤ o + j := by simp only [len] at hol; omega
    simp only [window, value, hsize, Bitmap.isNullAt_windowOpt v o hj, Buffer.get_window d o hj,
      hin, Nat.not_le.2 hj, false_or]
  | boolean d v _ =>
    have hin : ¬ d.len ≤ o + j := by simp only [len] at hol; omega
    simp only [window, value, Bitmap.len_window, Bitmap.isNullAt_windowOpt v o hj,
      Bitmap.get_window d o hj, hin, Nat.not_le.2 hj, false_or]
  | dictionary i k kv vals ord _ =>
    have hsize : (k.window o l).size = l := Buffer.size_window k hol
    have hin : ¬ k.size ≤ o + j := by simp only [len] at hol; omega
    simp only [window, value, hsize, Bitmap.isNullAt_windowOpt kv o hj,
      Buffer.get_window k o hj, hin, Nat.not_le.2 hj, false_or]
  | text large off d v _ =>
    simp only [window, value, Bitmap.isNullAt_windowOpt v o hj,
      Buffer.get_window off o (Nat.lt_succ_of_lt hj),
      Buffer.get_window off o (Nat.succ_lt_succ hj), Nat.add_assoc]
  | list large f off vals v _ =>
    simp only [window, value, Bitmap.isNullAt_windowOpt v o hj,
      Buffer.get_window off o (Nat.lt_succ_of_lt hj),
      Buffer.get_window off o (Nat.succ_lt_succ hj), Nat.add_assoc]
  | interval u d v _ =>
    have hwin : ((interval u d v).window o l).len = l := len_window hol
    have hin : ¬ d.size / u.words ≤ o + j := by simp only [len] at hol; omega
    simp only [window, len] at hwin
    simp only [window, value, hwin, Bitmap.isNullAt_windowOpt v o hj,
      IntervalUnit.scalar_window u d hj, hin, Nat.not_le.2 hj, false_or]
  | struct fs cs v n _ hlen _ ih =>
    have hmem : ∀ c ∈ cs, (c.window o l).value j = c.value (o + j) := fun c hc =>
      ih c hc (by rw [hlen c hc]; exact hol) hj
    simp only [window, value, Bitmap.isNullAt_windowOpt v o hj, members_windowAll hmem]

theorem windowOpt_len (v : Option Bitmap) (o l : Nat) :
    ∀ m ∈ Bitmap.windowOpt v o l, m.len = l := by
  intro m hm
  cases v with
  | none => cases hm
  | some m' =>
    cases hm
    rfl

/-- A window inside a regular column is regular. -/
theorem Regular.window {c : Column} (h : c.Regular) {o l : Nat} (hol : o + l ≤ c.len) :
    (c.window o l).Regular := by
  have hwin := len_window hol
  induction h generalizing o l with
  | null n => exact .null l
  | numeric k d v _ => exact .numeric _ _ _ (fun m hm => (windowOpt_len v o l m hm).trans hwin.symm)
  | boolean d v _ => exact .boolean _ _ (windowOpt_len v o l)
  | text large off d v _ => exact .text _ _ _ _ (fun m hm => (windowOpt_len v o l m hm).trans hwin.symm)
  | dictionary i k kv vals ord _ => exact .dictionary _ _ _ _ _ (fun m hm => (windowOpt_len kv o l m hm).trans hwin.symm)
  | temporal kind u z d v _ => exact .temporal _ _ _ _ _ (fun m hm => (windowOpt_len v o l m hm).trans hwin.symm)
  | interval u d v _ => exact .interval _ _ _ (fun m hm => (windowOpt_len v o l m hm).trans hwin.symm)
  | list large f off vals v _ => exact .list _ _ _ _ _ (fun m hm => (windowOpt_len v o l m hm).trans hwin.symm)
  | struct fs cs v n _ hlen _ ih =>
    -- each child is windowed alike, inside its own length
    refine .struct _ _ _ _ (windowOpt_len v o l) ?_ ?_
    · intro c' hc'
      rw [windowAll_eq_map] at hc'
      obtain ⟨c, hc, rfl⟩ := List.mem_map.1 hc'
      exact len_window (by rw [hlen c hc]; exact hol)
    · intro c' hc'
      rw [windowAll_eq_map] at hc'
      obtain ⟨c, hc, rfl⟩ := List.mem_map.1 hc'
      have hin : o + l ≤ c.len := by rw [hlen c hc]; exact hol
      exact ih c hc hin (len_window hin)

end Column

end Columnar
