import Columnar.Descriptor.Import
import Columnar.Proofs.Window

/-!
# Well-formed columns

The columns the library builds, and their windows, satisfy more than their types say. The
checked constructors refuse offsets that decrease or run past their data, text that is not
UTF-8, bitmaps of the wrong length, struct children of the wrong type or length, and
dictionary keys outside the values; a buffer holds words of its width and, like every
allocation, at most `2^63 - 1` bytes. `WellFormed` collects these facts, constructor by
constructor, and asks them of every column of the tree.

`CountsFit` is a separate condition: every column of the tree has fewer than `2^63` slots.
A descriptor stores counts as signed 64-bit integers, so only such counts survive export.

Types of well-formed columns hold no string views, so `materialise`, which import applies
to the types it reads, leaves them as they are.
-/

namespace Columnar

/-! ## Types -/

mutual

theorem DataType.beq_self (t : DataType) : DataType.beq t t = true := by
  cases t with
  | dictionary i v o => simp [DataType.beq, DataType.beq_self v]
  | struct fs => simp [DataType.beq, Field.beqList_self fs]
  | list f => simp [DataType.beq, Field.beq_self f]
  | largeList f => simp [DataType.beq, Field.beq_self f]
  | _ => simp [DataType.beq]

theorem Field.beq_self (f : Field) : Field.beq f f = true := by
  cases f with
  | mk n t u m => simp [Field.beq, DataType.beq_self t]

theorem Field.beqList_self (fs : List Field) : Field.beqList fs fs = true := by
  cases fs with
  | nil => rfl
  | cons f fs => simp [Field.beqList, Field.beq_self f, Field.beqList_self fs]

end

@[simp] theorem DataType.beq_self_eq_true (t : DataType) : (t == t) = true :=
  DataType.beq_self t

mutual

/-- Types that compare equal are equal: `beq` is structural equality. -/
theorem DataType.eq_of_beq : ∀ {t t' : DataType}, DataType.beq t t' = true → t = t'
  | .dictionary i v o, t', h => by
    cases t' with
    | dictionary j w p =>
      simp only [DataType.beq, Bool.and_eq_true, beq_iff_eq] at h
      obtain ⟨⟨rfl, hv⟩, rfl⟩ := h
      rw [DataType.eq_of_beq hv]
    | _ => cases h
  | .struct fs, t', h => by
    cases t' with
    | struct gs => rw [Field.eq_of_beqList h]
    | _ => cases h
  | .list f, t', h => by
    cases t' with
    | list g => rw [Field.eq_of_beq h]
    | _ => cases h
  | .largeList f, t', h => by
    cases t' with
    | largeList g => rw [Field.eq_of_beq h]
    | _ => cases h
  | .timestamp a z, t', h => by
    cases t' with
    | timestamp b w =>
      simp only [DataType.beq, Bool.and_eq_true, beq_iff_eq] at h
      rw [h.1, h.2]
    | _ => cases h
  | .time32 a, t', h | .time64 a, t', h | .duration a, t', h | .interval a, t', h => by
    cases t' <;> first | cases h | rw [eq_of_beq h]
  | .null, t', h | .boolean, t', h | .int8, t', h | .int16, t', h | .int32, t', h
  | .int64, t', h | .uint8, t', h | .uint16, t', h | .uint32, t', h | .uint64, t', h
  | .float32, t', h | .float64, t', h | .string, t', h | .largeString, t', h
  | .stringView, t', h | .date32, t', h | .date64, t', h => by
    cases t' <;> first | rfl | cases h

theorem Field.eq_of_beq : ∀ {f g : Field}, Field.beq f g = true → f = g
  | ⟨n, t, u, m⟩, ⟨n', t', u', m'⟩, h => by
    simp only [Field.beq, Bool.and_eq_true, beq_iff_eq] at h
    obtain ⟨⟨⟨rfl, ht⟩, rfl⟩, rfl⟩ := h
    rw [DataType.eq_of_beq ht]

theorem Field.eq_of_beqList : ∀ {fs gs : List Field}, Field.beqList fs gs = true → fs = gs
  | [], [], _ => rfl
  | f :: fs, g :: gs, h => by
    simp only [Field.beqList, Bool.and_eq_true] at h
    rw [Field.eq_of_beq h.1, Field.eq_of_beqList h.2]
  | [], _ :: _, h | _ :: _, [], h => by cases h

end

@[simp] theorem DataType.beq_iff_eq {t t' : DataType} : (t == t') = true ↔ t = t' :=
  ⟨DataType.eq_of_beq, fun h => h ▸ DataType.beq_self t⟩

/-- A field whose type has no string view is its own materialisation. -/
theorem Field.materialise_of {f : Field} (h : f.type.materialise = f.type) :
    f.materialise = f := by
  cases f with
  | mk n t u m =>
    simp only [Field.materialise, h]

theorem Field.materialiseList_of {fs : List Field}
    (h : ∀ f ∈ fs, f.type.materialise = f.type) : Field.materialiseList fs = fs := by
  induction fs with
  | nil => rfl
  | cons f fs ih =>
    rw [Field.materialiseList, Field.materialise_of (h f (List.mem_cons_self ..)),
      ih fun g hg => h g (List.mem_cons_of_mem _ hg)]

/-! ## Buffers -/

namespace Buffer

/-- Words that fit their width, in a buffer that fits in memory. -/
def Fits (b : Buffer Nat) (width : Nat) : Prop :=
  (∀ x ∈ b.items, x < 256 ^ width) ∧ b.size * width ≤ NodeView.maxBytes

/-- Offsets into something of `bound` items: at least one, never decreasing, and none past
the bound. -/
def Offsets (off : Buffer Nat) (bound : Nat) : Prop :=
  off.items ≠ [] ∧ off.items.Pairwise (· ≤ ·) ∧ ∀ x ∈ off.items, x ≤ bound

/-- Offsets that never decrease are at most the last one. -/
theorem le_getLastD {off : Buffer Nat} (hsorted : off.items.Pairwise (· ≤ ·)) :
    ∀ x ∈ off.items, x ≤ off.items.getLastD 0 := by
  intro x hx
  rw [List.getLastD_eq_getLast?, List.getLast?_eq_some_getLast (List.ne_nil_of_mem hx)]
  exact hsorted.rel_getLast hx

theorem Offsets.get_le {off : Buffer Nat} {bound : Nat} (h : off.Offsets bound) {a b : Nat}
    (hab : a ≤ b) (hb : b < off.size) : off.get a ≤ off.get b := by
  rcases Nat.lt_or_eq_of_le hab with hlt | rfl
  · have ha : a < off.items.length := Nat.lt_trans hlt hb
    simp only [get, List.getD_eq_getElem?_getD, List.getElem?_eq_getElem ha,
      List.getElem?_eq_getElem hb, Option.getD_some]
    exact List.pairwise_iff_getElem.1 h.2.1 a b ha hb hlt
  · exact Nat.le_refl _

/-- The offsets `[o, o + l]` of offsets into something are offsets into the part that ends at
the last of them. -/
theorem Offsets.window {off off' : Buffer Nat} {bound : Nat} (h : off.Offsets bound)
    {o l : Nat} (hol : o + l + 1 ≤ off.size) (hitems : off'.items = (off.window o (l + 1)).items) :
    off'.Offsets (off.get (o + l)) ∧ off'.size = l + 1 ∧
      ∀ i < l + 1, off'.get i = off.get (o + i) := by
  have hsize : off'.size = l + 1 := by
    rw [size_of_items hitems, size_window off (by omega)]
  have hget : ∀ i < l + 1, off'.get i = off.get (o + i) := fun i hi => by
    rw [get_of_items hitems, get_window off _ hi]
  have hsorted : off'.items.Pairwise (· ≤ ·) := by
    rw [hitems]
    exact h.2.1.drop.take
  have hlast : off'.items.getLastD 0 = off.get (o + l) := by
    rw [getLastD_eq_get hsize, hget l (Nat.lt_succ_self l)]
  refine ⟨⟨fun hnil => ?_, hsorted, fun x hx => hlast ▸ le_getLastD hsorted x hx⟩, hsize, hget⟩
  simp only [size, hnil, List.length_nil] at hsize
  omega

end Buffer

namespace Column

/-- The facts the checked constructors establish, for every column of the tree. -/
inductive WellFormed : Column → Prop
  | null (n : Nat) : WellFormed (.null n)
  | numeric (k : NumericKind) (d : Buffer Nat) (v : Option Bitmap) (hd : d.Fits k.width)
      (hv : ∀ m ∈ v, m.len = d.size) : WellFormed (.numeric k d v)
  | boolean (d : Bitmap) (v : Option Bitmap) (hv : ∀ m ∈ v, m.len = d.len) :
      WellFormed (.boolean d v)
  | text (large : Bool) (off : Buffer Nat) (d : Buffer UInt8) (v : Option Bitmap)
      (hoff : off.Offsets d.size) (hmem : off.size * offsetWidth large ≤ NodeView.maxBytes)
      (hd : d.size ≤ NodeView.maxBytes)
      (htext : ∀ i < off.size - 1, Bitmap.isNullAt v i = false →
        (Utf8.decode? ((d.items.drop (off.get i)).take (off.get (i + 1) - off.get i))).isSome)
      (hv : ∀ m ∈ v, m.len = off.size - 1) : WellFormed (.text large off d v)
  | dictionary (i : IndexType) (k : Buffer Nat) (kv : Option Bitmap) (vals : Column)
      (ord : Bool) (hk : k.Fits i.kind.width) (hkv : ∀ m ∈ kv, m.len = k.size)
      (hkeys : ∀ j < k.size, Bitmap.isNullAt kv j = false →
        0 ≤ i.kind.integer (k.get j) ∧ i.kind.integer (k.get j) < vals.len)
      (hvals : WellFormed vals) : WellFormed (.dictionary i k kv vals ord)
  | temporal (kind : TemporalKind) (u : TimeUnit) (z : Option String) (d : Buffer Nat)
      (v : Option Bitmap) (hd : d.Fits kind.width) (hv : ∀ m ∈ v, m.len = d.size) :
      WellFormed (.temporal kind u z d v)
  | interval (u : IntervalUnit) (d : Buffer Nat) (v : Option Bitmap) (hd : d.Fits 4)
      (hv : ∀ m ∈ v, m.len = d.size / u.words) : WellFormed (.interval u d v)
  | struct (fs : List Field) (cs : List Column) (v : Option Bitmap) (n : Nat)
      (htypes : cs.map type = fs.map Field.type) (hlen : ∀ c ∈ cs, c.len = n)
      (hv : ∀ m ∈ v, m.len = n) (hcs : ∀ c ∈ cs, WellFormed c) :
      WellFormed (.struct fs cs v n)
  | list (large : Bool) (f : Field) (off : Buffer Nat) (vals : Column) (v : Option Bitmap)
      (htype : vals.type = f.type) (hoff : off.Offsets vals.len)
      (hmem : off.size * offsetWidth large ≤ NodeView.maxBytes)
      (hv : ∀ m ∈ v, m.len = off.size - 1) (hvals : WellFormed vals) :
      WellFormed (.list large f off vals v)

/-- The columns a column holds: dictionary values, struct children, list items. -/
def subcolumns : Column → List Column
  | .dictionary _ _ _ vals _ => [vals]
  | .struct _ cs _ _ => cs
  | .list _ _ _ vals _ => [vals]
  | _ => []

/-- Every column of the tree has fewer than `2^63` slots, the counts a descriptor stores. -/
inductive CountsFit : Column → Prop
  | intro {c : Column} (hlen : c.len < 2 ^ 63) (hsub : ∀ c' ∈ c.subcolumns, CountsFit c') :
      CountsFit c

theorem CountsFit.len_lt {c : Column} (h : c.CountsFit) : c.len < 2 ^ 63 := by
  cases h with
  | intro hlen _ => exact hlen

theorem CountsFit.sub {c : Column} (h : c.CountsFit) : ∀ c' ∈ c.subcolumns, c'.CountsFit := by
  cases h with
  | intro _ hsub => exact hsub

/-- The shape windows rely on is part of well-formedness. -/
theorem WellFormed.regular {c : Column} (h : c.WellFormed) : c.Regular := by
  induction h with
  | null n => exact .null n
  | numeric k d v _ hv => exact .numeric k d v hv
  | boolean d v hv => exact .boolean d v hv
  | text large off d v _ _ _ _ hv => exact .text large off d v hv
  | dictionary i k kv vals ord _ hkv _ _ _ => exact .dictionary i k kv vals ord hkv
  | temporal kind u z d v _ hv => exact .temporal kind u z d v hv
  | interval u d v _ hv => exact .interval u d v hv
  | struct fs cs v n _ hlen hv _ ih => exact .struct fs cs v n hv hlen ih
  | list large f off vals v _ _ _ hv _ _ => exact .list large f off vals v hv

/-- The type of a well-formed column holds no string view. -/
theorem WellFormed.materialise_type {c : Column} (h : c.WellFormed) :
    c.type.materialise = c.type := by
  induction h with
  | numeric k _ _ _ _ => cases k <;> rfl
  | temporal kind u z _ _ _ _ => cases kind <;> rfl
  | text large _ _ _ _ _ _ _ _ => cases large <;> rfl
  | dictionary i k kv vals ord _ _ _ _ ih => simp only [type, DataType.materialise, ih]
  | struct fs cs v n htypes _ _ _ ih =>
    -- each field has the type of some child
    have hfs : ∀ f ∈ fs, f.type.materialise = f.type := by
      intro f hf
      have hmem : f.type ∈ cs.map type := htypes ▸ List.mem_map_of_mem hf
      obtain ⟨c, hc, hct⟩ := List.mem_map.1 hmem
      rw [← hct]
      exact ih c hc
    simp only [type, DataType.materialise, Field.materialiseList_of hfs]
  | list large f off vals v htype _ _ _ _ ih =>
    have hf : f.materialise = f := Field.materialise_of (htype ▸ ih)
    cases large <;> simp [type, DataType.materialise, hf]
  | _ => rfl

end Column

end Columnar
