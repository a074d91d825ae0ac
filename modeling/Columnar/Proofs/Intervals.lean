import Columnar.Proofs.Slice

/-!
# Interval columns read back their values

`Column.ofMonths`, `ofDaysMs` and `ofMonthDayNanos` lay calendar intervals out as 32-bit words,
one, two and four to a value: the months; the days and milliseconds; the months, the days and
the low and high words of the nanoseconds' eight two's-complement bytes. A missing value takes
zero words and a clear validity bit. Reading slot `i` takes the unit's words from word
`i * words` on, reads each as a signed word and joins the two halves of the nanoseconds, so
every value comes back, at the extremes of its width too:

> slot `i` of a slice `[o, o + l)` is null where `vs[o + i]` is missing, and otherwise the
> interval `(m, 0, 0)`, `(0, d, ms · 10^6)` or `(m, d, ns)` of the value; past the end it is null.

A slice counts values, not words: it shares the words `[o · words, (o + l) · words)`. The
widened milliseconds stay within 64 bits, since `2^31 · 10^6 < 2^63`.
-/

namespace Columnar

namespace LittleEndian

/-- A signed integer that fits `w` bytes reads back from its two's-complement word. -/
theorem toInt_ofInt {w : Nat} (hw : 0 < w) {i : Int} (hlo : -(2 : Int) ^ (8 * w - 1) ≤ i)
    (hhi : i < (2 : Int) ^ (8 * w - 1)) : toInt w (ofInt w i) = i := by
  have hsign : (2 : Int) ^ (8 * w) = 2 * 2 ^ (8 * w - 1) := by
    rw [← Int.pow_succ']
    congr 1
    omega
  have hcast : ((2 ^ (8 * w - 1) : Nat) : Int) = (2 : Int) ^ (8 * w - 1) := by
    push_cast
    rfl
  rw [toInt_eq, ofInt_eq, hsign]
  by_cases hneg : i < 0
  · -- a negative integer is stored as itself plus `2 ^ (8 * w)`, at or above the sign bit
    have hmod : i % (2 * 2 ^ (8 * w - 1)) = i + 2 * 2 ^ (8 * w - 1) := by
      rw [← Int.add_mul_emod_self_right i 1, Int.one_mul, Int.emod_eq_of_lt (by omega) (by omega)]
    have hnat : (((i + 2 * 2 ^ (8 * w - 1)).toNat : Nat) : Int) = i + 2 * 2 ^ (8 * w - 1) :=
      Int.toNat_of_nonneg (by omega)
    rw [hmod, if_neg (by omega)]
    omega
  · have hmod : i % (2 * 2 ^ (8 * w - 1)) = i := Int.emod_eq_of_lt (by omega) (by omega)
    have hnat : ((i.toNat : Nat) : Int) = i := Int.toNat_of_nonneg (by omega)
    rw [hmod, if_pos (by omega)]
    exact hnat

end LittleEndian

namespace Column

theorem toInt_int32Word (m : Int32) : LittleEndian.toInt 4 (int32Word m) = m.toInt :=
  LittleEndian.toInt_ofInt (by decide) m.le_toInt m.toInt_lt

/-- The low and high words of a 64-bit integer join back into it. -/
theorem toInt_nanoWords (n : Int64) :
    LittleEndian.toInt 8 (LittleEndian.ofInt 8 n.toInt % 2 ^ 32 +
      LittleEndian.ofInt 8 n.toInt / 2 ^ 32 * 2 ^ 32) = n.toInt := by
  rw [Nat.mod_add_div']
  exact LittleEndian.toInt_ofInt (by decide) n.le_toInt n.toInt_lt

/-! ## Words laid out value by value -/

/-- In lists of `w` items each, item `k` of list `i` is item `i * w + k` of their concatenation. -/
theorem getD_flatMap_uniform {α : Type} {f : α → List Nat} {w : Nat} :
    ∀ {xs : List α}, (∀ x ∈ xs, (f x).length = w) → ∀ {i k : Nat} (hi : i < xs.length),
      k < w → (xs.flatMap f).getD (i * w + k) 0 = (f xs[i]).getD k 0
  | [], _, _, _, hi, _ => absurd hi (Nat.not_lt_zero _)
  | x :: xs, hf, i, k, hi, hk => by
    have hx : (f x).length = w := hf x List.mem_cons_self
    rw [List.flatMap_cons]
    cases i with
    | zero =>
      rw [Nat.zero_mul, Nat.zero_add, List.getD_append _ _ _ _ (by omega)]
      rfl
    | succ i =>
      -- past the first value's `w` words, the rest are laid out from word 0 again
      rw [List.getD_append_right _ _ _ _ (by rw [hx, Nat.succ_mul]; omega), hx,
        show (i + 1) * w + k - w = i * w + k by rw [Nat.succ_mul]; omega]
      exact getD_flatMap_uniform (fun y hy => hf y (List.mem_cons_of_mem x hy))
        (Nat.lt_of_succ_lt_succ hi) hk

variable {u : IntervalUnit} {α : Type} {push : α → List Nat}

/-- Slot `i` of words laid out value by value reads the words of value `i`. -/
theorem scalar_flatMap {β : Type} {f : β → List Nat} {xs : List β}
    (hf : ∀ x ∈ xs, (f x).length = u.words) {i : Nat} (hi : i < xs.length) :
    u.scalar (Buffer.ofList (xs.flatMap f)) i = u.scalar (Buffer.ofList (f xs[i])) 0 := by
  apply u.scalar_congr
  intro k hk
  rw [Nat.zero_mul, Nat.zero_add]
  exact getD_flatMap_uniform hf hi hk

theorem len_intervalsOf {values : List (Option (List Nat))}
    (hwords : ∀ v ∈ values, ∀ ws ∈ v, ws.length = u.words) :
    (intervalsOf u values).len = values.length := by
  rw [intervalsOf, len, size_intervalsOf hwords, Nat.mul_div_cancel _ (IntervalUnit.words_pos u)]

/-- Values whose words all have the unit's length. -/
theorem words_of_push (hpush : ∀ v, (push v).length = u.words) (vs : List (Option α)) :
    ∀ v ∈ vs.map (Option.map push), ∀ ws ∈ v, ws.length = u.words := by
  intro v hv ws hws
  obtain ⟨x, -, rfl⟩ := List.mem_map.1 hv
  cases x with
  | none => cases hws
  | some a =>
    cases hws
    exact hpush a

/-- Slot `i` of an interval column built from values is null where value `i` is missing, and
reads the value's words where it is present. -/
theorem value_intervalsOf (hpush : ∀ v, (push v).length = u.words) {vs : List (Option α)}
    {i : Nat} (hi : i < vs.length) :
    (intervalsOf u (vs.map (Option.map push))).value i =
      vs[i].elim Scalar.null fun v => u.scalar (Buffer.ofList (push v)) 0 := by
  have hwords := words_of_push hpush vs
  have hlen : (vs.map (Option.map push)).length = vs.length := List.length_map ..
  have hin : ¬ (intervalsOf u (vs.map (Option.map push))).len ≤ i := by
    rw [len_intervalsOf hwords, hlen]
    omega
  have hnull : Bitmap.isNullAt (validityIfMissing (vs.map (Option.map push))) i = vs[i].isNone := by
    rw [isNullAt_validityIfMissing (by rw [hlen]; exact hi), List.getElem_map, Option.isNone_map]
  -- the words laid out, a missing value's zeros included, are each the unit's length
  have hall : ∀ v ∈ vs.map (Option.map push),
      (v.getD (List.replicate u.words 0)).length = u.words := by
    intro v hv
    cases v with
    | none => exact List.length_replicate
    | some ws => exact hwords _ hv ws rfl
  simp only [intervalsOf, value, len] at hin ⊢
  cases hv : vs[i] with
  | none =>
    -- a missing value is a null slot
    rw [hv] at hnull
    simp [hnull]
  | some a =>
    rw [hv] at hnull
    rw [hnull, if_neg (by simp [hin]),
      scalar_flatMap hall (by rw [hlen]; exact hi), List.getElem_map, hv]
    rfl

/-- An interval slot at or past the length reads as null. -/
theorem value_interval_of_len_le {d : Buffer Nat} {v : Option Bitmap} {i : Nat}
    (h : (Column.interval u d v).len ≤ i) : (Column.interval u d v).value i = .null := by
  simp only [len] at h
  simp only [value, h, true_or, if_true]

/-! ## Reading the values back -/

/-- A column reads as the values `vs`, a present value read by `decode`: it has a slot per
value and reads null past them, and every slice inside it has a slot per value it covers,
null where the value is missing and `decode` of it where present, and null past them. -/
structure ReadsValues {β : Type} (c : Column) (vs : List (Option β)) (decode : β → Scalar) :
    Prop where
  len_eq : c.len = vs.length
  null_past : ∀ i, vs.length ≤ i → c.value i = .null
  slices : ∀ o l, o + l ≤ vs.length → ∃ s, c.slice o l = .ok s ∧ s.len = l ∧
    (∀ i < l, s.value i = (vs.getD (o + i) none).elim .null decode) ∧
    ∀ i, l ≤ i → s.value i = .null

/-- Values laid out by `push`, whose words `decode` reads back, read back as the values. -/
theorem readsValues_intervalsOf {decode : α → Scalar}
    (hpush : ∀ v, (push v).length = u.words)
    (hdecode : ∀ v, u.scalar (Buffer.ofList (push v)) 0 = decode v) {vs : List (Option α)}
    (hvs : vs.length ≤ wordMax) :
    ReadsValues (intervalsOf u (vs.map (Option.map push))) vs decode := by
  have hwords := words_of_push hpush vs
  have hlen : (intervalsOf u (vs.map (Option.map push))).len = vs.length := by
    rw [len_intervalsOf hwords, List.length_map]
  -- a present value reads as `decode` of it
  have hslot : ∀ i (hi : i < vs.length), (intervalsOf u (vs.map (Option.map push))).value i =
      (vs.getD i none).elim .null decode := by
    intro i hi
    rw [value_intervalsOf hpush hi, List.getD_eq_getElem?_getD, List.getElem?_eq_getElem hi,
      Option.getD_some]
    cases vs[i] with
    | none => rfl
    | some v => exact hdecode v
  refine ⟨hlen, fun i hi => value_interval_of_len_le (by rw [← hlen] at hi; exact hi),
    fun o l hol => ?_⟩
  have hreg := (valid_intervalsOf hwords).regular
  have hin : o + l ≤ (intervalsOf u (vs.map (Option.map push))).len := by rw [hlen]; exact hol
  have hwin := len_window hin
  refine ⟨_, slice_eq_ok hin (by rw [hlen]; exact hvs), hwin, fun i hi => ?_, fun i hi => ?_⟩
  · rw [value_window hreg hin hi, hslot (o + i) (by omega)]
  · -- the window is itself an interval column of `l` slots
    exact value_interval_of_len_le (by rw [← hwin] at hi; exact hi)

/-! ## The three layouts -/

theorem scalar_monthsWords (m : Int32) :
    IntervalUnit.yearMonth.scalar (Buffer.ofList (monthsWords m)) 0 = .interval m.toInt 0 0 := by
  show Scalar.interval (LittleEndian.toInt 4 (int32Word m)) 0 0 = _
  rw [toInt_int32Word]

/-- Day-time milliseconds are widened to nanoseconds. -/
theorem scalar_daysMsWords (v : Int32 × Int32) :
    IntervalUnit.daysTime.scalar (Buffer.ofList (daysMsWords v)) 0 =
      .interval 0 v.1.toInt (v.2.toInt * 1000000) := by
  show Scalar.interval 0 (LittleEndian.toInt 4 (int32Word v.1))
    (LittleEndian.toInt 4 (int32Word v.2) * 1000000) = _
  rw [toInt_int32Word, toInt_int32Word]

/-- The nanoseconds survive their split into a low and a high word. -/
theorem scalar_monthDayNanosWords (v : Int32 × Int32 × Int64) :
    IntervalUnit.monthDayNano.scalar (Buffer.ofList (monthDayNanosWords v)) 0 =
      .interval v.1.toInt v.2.1.toInt v.2.2.toInt := by
  show Scalar.interval (LittleEndian.toInt 4 (int32Word v.1))
    (LittleEndian.toInt 4 (int32Word v.2.1))
    (LittleEndian.toInt 8 (LittleEndian.ofInt 8 v.2.2.toInt % 2 ^ 32 +
      LittleEndian.ofInt 8 v.2.2.toInt / 2 ^ 32 * 2 ^ 32)) = _
  rw [toInt_int32Word, toInt_int32Word, toInt_nanoWords]

/-- Interval builders and reading agree. An interval column built from month counts, from days
and milliseconds, or from months, days and nanoseconds has a slot per value and reads null past
them; a slice inside it reads, at each of its slots, null where the value is missing and
otherwise the interval of the value: `(m, 0, 0)`, `(0, d, ms · 10^6)` or `(m, d, ns)`, for
every 32-bit `m`, `d`, `ms` and 64-bit `ns`, and null past its own end. -/
theorem interval_builders_read_back :
    (∀ vs : List (Option Int32), vs.length ≤ wordMax →
      ReadsValues (ofMonths vs) vs fun m => .interval m.toInt 0 0) ∧
    (∀ vs : List (Option (Int32 × Int32)), vs.length ≤ wordMax →
      ReadsValues (ofDaysMs vs) vs fun v => .interval 0 v.1.toInt (v.2.toInt * 1000000)) ∧
    (∀ vs : List (Option (Int32 × Int32 × Int64)), vs.length ≤ wordMax →
      ReadsValues (ofMonthDayNanos vs) vs fun v => .interval v.1.toInt v.2.1.toInt v.2.2.toInt) :=
  ⟨fun _ hvs => readsValues_intervalsOf (fun _ => rfl) scalar_monthsWords hvs,
    fun _ hvs => readsValues_intervalsOf (fun _ => rfl) scalar_daysMsWords hvs,
    fun _ hvs => readsValues_intervalsOf (fun _ => rfl) scalar_monthDayNanosWords hvs⟩

/-- The extremes of each width, with a missing value in each column. -/
theorem interval_builders_read_back_extremes :
    let months : List (Option Int32) := [some Int32.minValue, none, some Int32.maxValue]
    let daysMs : List (Option (Int32 × Int32)) := [some (1, Int32.minValue), none, some (3, 30)]
    let nanos : List (Option (Int32 × Int32 × Int64)) :=
      [some (-1, 0, -5), none, some (0, 0, Int64.minValue)]
    (months.length ≤ wordMax ∧ ReadsValues (ofMonths months) months fun m =>
        .interval m.toInt 0 0) ∧
      (daysMs.length ≤ wordMax ∧ ReadsValues (ofDaysMs daysMs) daysMs fun v =>
        .interval 0 v.1.toInt (v.2.toInt * 1000000)) ∧
      (nanos.length ≤ wordMax ∧ ReadsValues (ofMonthDayNanos nanos) nanos fun v =>
        .interval v.1.toInt v.2.1.toInt v.2.2.toInt) := by
  intro months daysMs nanos
  have h1 : months.length ≤ wordMax := by decide
  have h2 : daysMs.length ≤ wordMax := by decide
  have h3 : nanos.length ≤ wordMax := by decide
  exact ⟨⟨h1, interval_builders_read_back.1 months h1⟩,
    ⟨h2, interval_builders_read_back.2.1 daysMs h2⟩,
    ⟨h3, interval_builders_read_back.2.2 nanos h3⟩⟩

end Column

end Columnar
