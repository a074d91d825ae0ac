import Columnar.Column.Read
import Columnar.Proofs.WellFormed

/-!
# The representation invariant of columns

A column's readers index its buffers without checking them: a bit of a bitmap, a word of a
buffer, the bytes between two offsets, the child slots a list covers, the value a dictionary
key names. `Column.Valid` is what the parts must satisfy for each of those reads to stay
inside what is stored, asked of every column of the tree:

* a bitmap's stored bytes hold every bit it covers, and a validity bitmap has a bit per slot;
* string offsets are at least one, never decrease and end inside the data, and the bytes of
  every present slot are UTF-8;
* list offsets likewise end inside the item column, which has the item field's type;
* struct children have their fields' types and the struct's length;
* every present dictionary key names a value, and interval words come in whole values.

A window inside a valid column is valid (`Valid.window`).
-/

namespace Columnar

namespace Bitmap

/-- The stored bytes hold every bit the bitmap covers. -/
def Stored (m : Bitmap) : Prop :=
  (m.offset + m.len + 7) / 8 ≤ m.bytes.length

/-- A validity bitmap, if there is one, stored in full with a bit for each of `n` slots. -/
def Covers (v : Option Bitmap) (n : Nat) : Prop :=
  ∀ m ∈ v, m.Stored ∧ m.len = n

theorem stored_ofBools (bs : List Bool) : (ofBools bs).Stored := by
  simp only [Stored, ofBools, pack, List.length_map, List.length_range, Nat.zero_add,
    Nat.le_refl]

/-- A bitmap that `new` accepts holds its bits. -/
theorem stored_of_new {bytes : List UInt8} {offset len : Nat} {fl : Bool} {m : Bitmap}
    (h : new bytes offset len fl = .ok m) : m.Stored ∧ m.len = len := by
  unfold new at h
  split at h
  · cases h
  · rename_i hfit
    cases h
    exact ⟨Nat.not_lt.1 hfit, rfl⟩

/-- A window inside a stored bitmap keeps the bytes its bits need. -/
theorem Stored.window {m : Bitmap} (h : m.Stored) {o l : Nat} (hol : o + l ≤ m.len) :
    (m.window o l).Stored := by
  unfold Stored at h ⊢
  simp only [Bitmap.window, List.length_take, List.length_drop]
  -- the cut starts at the byte of bit `offset + o` and ends at the byte of its last bit
  omega

theorem covers_none (n : Nat) : Covers none n := nofun

theorem covers_ofBools (bs : List Bool) : Covers (some (ofBools bs)) bs.length := by
  intro m hm
  cases hm
  exact ⟨stored_ofBools bs, rfl⟩

theorem Covers.len_eq {v : Option Bitmap} {n : Nat} (h : Covers v n) : ∀ m ∈ v, m.len = n :=
  fun m hm => (h m hm).2

theorem Covers.window {v : Option Bitmap} {n : Nat} (h : Covers v n) {o l : Nat}
    (hol : o + l ≤ n) : Covers (windowOpt v o l) l := by
  intro m hm
  cases v with
  | none => cases hm
  | some m' =>
    cases hm
    obtain ⟨hstored, hlen⟩ := h m' rfl
    exact ⟨hstored.window (hlen ▸ hol), rfl⟩

end Bitmap

namespace Buffer

/-- Offsets into a part are offsets into anything that holds it. -/
theorem Offsets.mono {off : Buffer Nat} {bound bound' : Nat} (h : off.Offsets bound)
    (hle : bound ≤ bound') : off.Offsets bound' :=
  ⟨h.1, h.2.1, fun x hx => Nat.le_trans (h.2.2 x hx) hle⟩

theorem Offsets.get_le_bound {off : Buffer Nat} {bound i : Nat} (h : off.Offsets bound)
    (hi : i < off.size) : off.get i ≤ bound :=
  h.2.2 _ (get_mem hi)

end Buffer

namespace Column

/-- The representation invariant: every index a reader of the column takes is inside what is
stored, at every depth of the tree. -/
inductive Valid : Column → Prop
  | null (n : Nat) : Valid (.null n)
  | numeric (k : NumericKind) (d : Buffer Nat) (v : Option Bitmap)
      (hv : Bitmap.Covers v d.size) : Valid (.numeric k d v)
  | boolean (d : Bitmap) (v : Option Bitmap) (hd : d.Stored) (hv : Bitmap.Covers v d.len) :
      Valid (.boolean d v)
  | text (large : Bool) (off : Buffer Nat) (d : Buffer UInt8) (v : Option Bitmap)
      (hoff : off.Offsets d.size)
      (htext : ∀ i < off.size - 1, Bitmap.isNullAt v i = false →
        (Utf8.decode? ((d.items.drop (off.get i)).take (off.get (i + 1) - off.get i))).isSome)
      (hv : Bitmap.Covers v (off.size - 1)) : Valid (.text large off d v)
  | dictionary (i : IndexType) (k : Buffer Nat) (kv : Option Bitmap) (vals : Column)
      (ord : Bool) (hkv : Bitmap.Covers kv k.size)
      (hkeys : ∀ j < k.size, Bitmap.isNullAt kv j = false →
        0 ≤ i.kind.integer (k.get j) ∧ i.kind.integer (k.get j) < vals.len)
      (hvals : Valid vals) : Valid (.dictionary i k kv vals ord)
  | temporal (kind : TemporalKind) (u : TimeUnit) (z : Option String) (d : Buffer Nat)
      (v : Option Bitmap) (hv : Bitmap.Covers v d.size) : Valid (.temporal kind u z d v)
  | interval (u : IntervalUnit) (d : Buffer Nat) (v : Option Bitmap)
      (hd : d.size % u.words = 0) (hv : Bitmap.Covers v (d.size / u.words)) :
      Valid (.interval u d v)
  | struct (fs : List Field) (cs : List Column) (v : Option Bitmap) (n : Nat)
      (htypes : cs.map type = fs.map Field.type) (hlen : ∀ c ∈ cs, c.len = n)
      (hv : Bitmap.Covers v n) (hcs : ∀ c ∈ cs, Valid c) : Valid (.struct fs cs v n)
  | list (large : Bool) (f : Field) (off : Buffer Nat) (vals : Column) (v : Option Bitmap)
      (htype : vals.type = f.type) (hoff : off.Offsets vals.len)
      (hv : Bitmap.Covers v (off.size - 1)) (hvals : Valid vals) :
      Valid (.list large f off vals v)

/-- The shape windows rely on is part of validity. -/
theorem Valid.regular {c : Column} (h : c.Valid) : c.Regular := by
  induction h with
  | null n => exact .null n
  | numeric k d v hv => exact .numeric k d v hv.len_eq
  | boolean d v _ hv => exact .boolean d v hv.len_eq
  | text large off d v _ _ hv => exact .text large off d v hv.len_eq
  | dictionary i k kv vals ord hkv _ _ _ => exact .dictionary i k kv vals ord hkv.len_eq
  | temporal kind u z d v hv => exact .temporal kind u z d v hv.len_eq
  | interval u d v _ hv => exact .interval u d v hv.len_eq
  | struct fs cs v n _ hlen hv _ ih => exact .struct fs cs v n hv.len_eq hlen ih
  | list large f off vals v _ _ hv _ _ => exact .list large f off vals v hv.len_eq

/-! ## Windows -/

/-- The offsets of a window of `l` slots from `o`: offsets into the same part, one more than
the slots, read from slot `o` on. -/
theorem Offsets.window_of {off : Buffer Nat} {bound : Nat} (h : off.Offsets bound) {o l : Nat}
    (hol : o + l ≤ off.size - 1) :
    (off.window o (l + 1)).Offsets bound ∧ (off.window o (l + 1)).size - 1 = l ∧
      ∀ i < l + 1, (off.window o (l + 1)).get i = off.get (o + i) := by
  -- offsets are never empty, so the window of `l + 1` of them lies inside
  have hne : 0 < off.size := List.length_pos_iff.2 h.1
  have hfit : o + l + 1 ≤ off.size := by omega
  obtain ⟨hoff, hsize, hget⟩ := @Buffer.Offsets.window off (off.window o (l + 1)) _ h o l hfit rfl
  exact ⟨hoff.mono (h.get_le_bound (by omega)), by omega, hget⟩

/-- A window inside a valid column is valid: every part is cut to the window, offsets stay
into the same data or child, and a key, a text or a child slot of the window is the column's
slot `o` further on. -/
theorem Valid.window {c : Column} (h : c.Valid) {o l : Nat} (hol : o + l ≤ c.len) :
    (c.window o l).Valid := by
  induction h generalizing o l with
  | null n => exact .null l
  | numeric k d v hv =>
    have hsize : (d.window o l).size = l := Buffer.size_window d hol
    refine .numeric _ _ _ ?_
    rw [hsize]
    exact hv.window hol
  | temporal kind u z d v hv =>
    have hsize : (d.window o l).size = l := Buffer.size_window d hol
    refine .temporal _ _ _ _ _ ?_
    rw [hsize]
    exact hv.window hol
  | boolean d v hd hv => exact .boolean _ _ (hd.window hol) (hv.window hol)
  | text large off d v hoff htext hv =>
    have hol' : o + l ≤ off.size - 1 := hol
    obtain ⟨hoff', hsize, hget⟩ := Offsets.window_of hoff hol'
    refine .text _ _ _ _ hoff' (fun i hi hnull => ?_) (by rw [hsize]; exact hv.window hol)
    -- slot `i` of the window is slot `o + i` of the column, bytes and validity bit alike
    rw [hsize] at hi
    rw [Bitmap.isNullAt_windowOpt v o hi] at hnull
    rw [hget i (by omega), hget (i + 1) (by omega), ← Nat.add_assoc]
    exact htext (o + i) (by omega) hnull
  | dictionary i k kv vals ord hkv hkeys hvals _ =>
    have hol' : o + l ≤ k.size := hol
    have hsize : (k.window o l).size = l := Buffer.size_window k hol
    refine .dictionary _ _ _ _ _ (by rw [hsize]; exact hkv.window hol)
      (fun j hj hnull => ?_) hvals
    rw [hsize] at hj
    rw [Bitmap.isNullAt_windowOpt kv o hj] at hnull
    rw [Buffer.get_window k o hj]
    exact hkeys (o + j) (by omega) hnull
  | interval u d v hd hv =>
    have hw := IntervalUnit.words_pos u
    -- the window's words are the `l` values from value `o` on
    have hfit : o * u.words + l * u.words ≤ d.size := by
      have hol' : o + l ≤ d.size / u.words := hol
      calc o * u.words + l * u.words = (o + l) * u.words := (Nat.add_mul _ _ _).symm
        _ ≤ d.size / u.words * u.words := Nat.mul_le_mul_right _ hol'
        _ ≤ d.size := Nat.div_mul_le_self _ _
    have hsize : (d.window (o * u.words) (l * u.words)).size = l * u.words :=
      Buffer.size_window d hfit
    refine .interval _ _ _ (by rw [hsize, Nat.mul_mod_left]) ?_
    rw [hsize, Nat.mul_div_cancel _ hw]
    exact hv.window hol
  | struct fs cs v n htypes hlen hv _ ih =>
    -- each child is windowed alike, inside its own length
    refine .struct _ _ _ _ ?_ ?_ (hv.window hol) ?_
    · rw [windowAll_eq_map, List.map_map, ← htypes]
      exact List.map_congr_left fun c _ => type_window c o l
    · intro c' hc'
      rw [windowAll_eq_map] at hc'
      obtain ⟨c, hc, rfl⟩ := List.mem_map.1 hc'
      exact len_window (by rw [hlen c hc]; exact hol)
    · intro c' hc'
      rw [windowAll_eq_map] at hc'
      obtain ⟨c, hc, rfl⟩ := List.mem_map.1 hc'
      exact ih c hc (by rw [hlen c hc]; exact hol)
  | list large f off vals v htype hoff hv hvals =>
    obtain ⟨hoff', hsize, -⟩ := Offsets.window_of hoff hol
    exact .list _ _ _ _ _ htype hoff' (by rw [hsize]; exact hv.window hol) hvals

end Column

end Columnar
