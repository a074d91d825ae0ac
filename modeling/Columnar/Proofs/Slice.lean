import Columnar.Column.Table
import Columnar.Proofs.Representation

/-!
# Slices are windows on the decoded values

`Column.slice o l` checks that `[o, o + l)` lies inside the column, with the end `o + l` taken
as a word, and then shares the column's buffers (`Column.window`). On a regular column whose
length is a word, slicing stops with a broken precondition exactly when the window ends past
the column, and otherwise gives the window: the same type, `l` slots, the column's values from
`o` on, and as null count the null slots it covers (`IsWindow`):

> `c.slice o l = .ok s` with `s.toList = (c.toList.drop o).take l` whenever `o + l ≤ c.len`.

A slice of a slice is a window of the column at the summed offset, so it decodes as the slice
taken at once. A series slices its column under the same field, its null count recounted from
the window; a table whose series all have its row count slices every series alike and keeps
its name and metadata.
-/

namespace Columnar

namespace Column

/-- `s` decodes as the slots `[o, o + l)` of `c`: it has `c`'s type and `l` slots, the values of
`c` from `o` on, and as null count the slots of the window where `c` is null, a cleared
validity bit or any slot of a null column. -/
structure IsWindow (s c : Column) (o l : Nat) : Prop where
  type_eq : s.type = c.type
  len_eq : s.len = l
  toList_eq : s.toList = (c.toList.drop o).take l
  nullCount_eq : s.nullCount = (List.range l).countP fun j => c.nullAt (o + j)

/-- The values `[o, o + l)` of a column are its slots read from `o` on. -/
theorem toList_drop_take {c : Column} {o l : Nat} (hol : o + l ≤ c.len) :
    (c.toList.drop o).take l = (List.range l).map fun j => c.value (o + j) := by
  apply List.ext_getElem
  · simp only [toList, List.length_take, List.length_drop, List.length_map, List.length_range]
    omega
  · intro i _ _
    simp only [toList, List.getElem_take, List.getElem_drop, List.getElem_map,
      List.getElem_range]

/-- A window inside a regular column decodes as the column's slots it covers. -/
theorem isWindow_window {c : Column} (h : c.Regular) {o l : Nat} (hol : o + l ≤ c.len) :
    (c.window o l).IsWindow c o l where
  type_eq := type_window c o l
  len_eq := len_window hol
  toList_eq := by rw [toList_window h hol, toList_drop_take hol]
  nullCount_eq := nullCount_window c o l

/-- A window of a window is the window of the column at the summed offset. -/
theorem isWindow_window_window {c : Column} (h : c.Regular) {o l o' l' : Nat}
    (hol : o + l ≤ c.len) (hol' : o' + l' ≤ l) :
    ((c.window o l).window o' l').IsWindow c (o + o') l' := by
  have hlen : (c.window o l).len = l := len_window hol
  have hin : o + o' + l' ≤ c.len := by omega
  -- slot `j` of the inner window is slot `o' + j` of the outer one, so slot `o + o' + j` of `c`
  have hslot : ∀ j < l', o + (o' + j) = o + o' + j := fun _ _ => (Nat.add_assoc ..).symm
  have hin' : o' + l' ≤ (c.window o l).len := by rw [hlen]; exact hol'
  refine ⟨by simp only [type_window], len_window hin', ?_, ?_⟩
  · rw [toList_window (h.window hol) hin', toList_drop_take hin]
    refine List.map_congr_left fun j hj => ?_
    have hj' : j < l' := List.mem_range.1 hj
    rw [value_window h hol (by omega), hslot j hj']
  · rw [nullCount_window]
    refine List.countP_congr fun j hj => ?_
    have hj' : j < l' := List.mem_range.1 hj
    rw [nullAt_window c o (by omega : o' + j < l), hslot j hj']

/-! ## Slicing checks the window -/

/-- A slice past the end stops with a broken precondition: its end `o + l` overflows a word, or
lies past the column. -/
theorem slice_panics {c : Column} {o l : Nat} (h : c.len < o + l) :
    ∃ m, c.slice o l = .error (.panic m) := by
  by_cases hw : o + l ≤ wordMax
  · have hadd : addWords o l = .ok (o + l) := if_pos hw
    exact ⟨_, by simp only [slice, hadd, bind, Except.bind, if_neg (Nat.not_le.2 h)]; rfl⟩
  · have hadd : addWords o l = .error (.panic "attempt to add with overflow") := if_neg hw
    exact ⟨"attempt to add with overflow", by simp only [slice, hadd, bind, Except.bind]⟩

/-- On a column whose length is a word, slicing stops with a broken precondition exactly when
the window ends past the column. -/
theorem slice_panics_iff {c : Column} (hlen : c.len ≤ wordMax) (o l : Nat) :
    (∃ m, c.slice o l = .error (.panic m)) ↔ c.len < o + l := by
  refine ⟨fun ⟨m, hm⟩ => Nat.lt_of_not_le fun hol => ?_, slice_panics⟩
  rw [slice_eq_ok hol hlen] at hm
  cases hm

/-- How slicing a column behaves: it stops with a broken precondition exactly past the end,
gives a window of the column inside it, and a slice of a slice is a window of the column at the
summed offset, which slicing there at once gives too. -/
structure SlicesAsWindows (c : Column) : Prop where
  panics_iff : ∀ o l, (∃ m, c.slice o l = .error (.panic m)) ↔ c.len < o + l
  inside : ∀ o l, o + l ≤ c.len → ∃ s, c.slice o l = .ok s ∧ s.IsWindow c o l
  twice : ∀ o l o' l' s s', c.slice o l = .ok s → s.slice o' l' = .ok s' →
    s'.IsWindow c (o + o') l' ∧ ∃ s'', c.slice (o + o') l' = .ok s'' ∧ s''.IsWindow c (o + o') l'

/-- Every regular column whose length is a word slices as windows. -/
theorem Regular.slicesAsWindows {c : Column} (h : c.Regular) (hlen : c.len ≤ wordMax) :
    c.SlicesAsWindows where
  panics_iff := slice_panics_iff hlen
  inside o l hol := ⟨c.window o l, slice_eq_ok hol hlen, isWindow_window h hol⟩
  twice o l o' l' s s' hs hs' := by
    obtain ⟨hol, rfl⟩ := window_of_slice hs
    obtain ⟨hol', rfl⟩ := window_of_slice hs'
    rw [len_window hol] at hol'
    have hin : o + o' + l' ≤ c.len := by omega
    exact ⟨isWindow_window_window h hol hol', c.window (o + o') l', slice_eq_ok hin hlen,
      isWindow_window h hin⟩

end Column

/-! ## Series and tables -/

namespace Series

/-- A series slices its column and keeps its field. -/
theorem slice_eq (s : Series) (o l : Nat) :
    s.slice o l = (s.column.slice o l).map fun c => ⟨s.field, c⟩ := by
  simp only [slice, bind, pure]
  cases s.column.slice o l <;> rfl

end Series

namespace Table

/-- Slicing series that each hold the window slices each one's column to the window. -/
theorem mapM_slice {ss : List Series} {o l : Nat} (hfit : ∀ s ∈ ss, o + l ≤ s.len)
    (hlen : ∀ s ∈ ss, s.len ≤ wordMax) :
    ss.mapM (·.slice o l) = .ok (ss.map fun s => ⟨s.field, s.column.window o l⟩) := by
  induction ss with
  | nil => rfl
  | cons s ss ih =>
    have hs : s.slice o l = .ok ⟨s.field, s.column.window o l⟩ := by
      rw [Series.slice_eq, Column.slice_eq_ok (hfit s (List.mem_cons_self ..))
        (hlen s (List.mem_cons_self ..))]
      rfl
    rw [List.mapM_cons, hs, ih (fun s' h' => hfit s' (List.mem_cons_of_mem _ h'))
      (fun s' h' => hlen s' (List.mem_cons_of_mem _ h'))]
    rfl

/-- A table slice past the end stops with a broken precondition, before any series is sliced. -/
theorem slice_panics {t : Table} {o l : Nat} (h : t.rows < o + l) :
    ∃ m, t.slice o l = .error (.panic m) := by
  by_cases hw : o + l ≤ wordMax
  · have hadd : addWords o l = .ok (o + l) := if_pos hw
    exact ⟨_, by simp only [slice, hadd, bind, Except.bind, if_neg (Nat.not_le.2 h)]; rfl⟩
  · have hadd : addWords o l = .error (.panic "attempt to add with overflow") := if_neg hw
    exact ⟨"attempt to add with overflow", by simp only [slice, hadd, bind, Except.bind]⟩

/-- A table whose series all have its row count, a word, slices every series to the window. -/
theorem slice_eq_ok {t : Table} (hrows : ∀ s ∈ t.columns, s.len = t.rows)
    (hlen : t.rows ≤ wordMax) {o l : Nat} (hol : o + l ≤ t.rows) :
    t.slice o l = .ok ⟨t.columns.map (fun s => ⟨s.field, s.column.window o l⟩), l, t.name,
      t.metadata⟩ := by
  have hadd : addWords o l = .ok (o + l) := if_pos (Nat.le_trans hol hlen)
  have hcols : t.columns.mapM (·.slice o l) =
      .ok (t.columns.map fun s => ⟨s.field, s.column.window o l⟩) :=
    mapM_slice (fun s hs => hrows s hs ▸ hol) (fun s hs => hrows s hs ▸ hlen)
  simp only [slice, hadd, bind, Except.bind, if_pos hol, hcols]
  rfl

end Table

/-- Slicing is a window on the decoded values. A valid column whose length is a word slices as
windows: it stops with a broken precondition exactly past its end, and otherwise gives a column
of its type with the `l` values from `o` on and the null slots of that window as null count; a
slice of a slice decodes as the slice at the summed offset. A series slices its column under its
field, and a table whose series have its row count slices all of them, with `l` rows, its name
and its metadata. -/
theorem slices_are_windows :
    (∀ c : Column, c.Valid → c.len ≤ wordMax → c.SlicesAsWindows) ∧
    (∀ s : Series, s.column.Valid → s.len ≤ wordMax → ∀ o l,
      ((∃ m, s.slice o l = .error (.panic m)) ↔ s.len < o + l) ∧
      (o + l ≤ s.len → ∃ s', s.slice o l = .ok s' ∧ s'.field = s.field ∧
        s'.column.IsWindow s.column o l)) ∧
    (∀ t : Table, (∀ s ∈ t.columns, s.column.Valid ∧ s.len = t.rows) → t.rows ≤ wordMax →
      ∀ o l, ((∃ m, t.slice o l = .error (.panic m)) ↔ t.rows < o + l) ∧
      (o + l ≤ t.rows → ∃ t', t.slice o l = .ok t' ∧ t'.rows = l ∧ t'.name = t.name ∧
        t'.metadata = t.metadata ∧ List.Forall₂ (fun s s' => s'.field = s.field ∧
          s'.column.IsWindow s.column o l) t.columns t'.columns)) := by
  refine ⟨fun c hc hlen => hc.regular.slicesAsWindows hlen, fun s hs hlen o l => ?_,
    fun t ht hlen o l => ?_⟩
  · -- a series: its column's slice under the same field
    have hlaw := hs.regular.slicesAsWindows hlen
    refine ⟨?_, fun hol => ?_⟩
    · show _ ↔ s.column.len < o + l
      rw [Series.slice_eq, ← hlaw.panics_iff o l]
      constructor
      · rintro ⟨m, hm⟩
        cases hc : s.column.slice o l with
        | error f => rw [hc] at hm; cases hm; exact ⟨m, rfl⟩
        | ok c => rw [hc] at hm; cases hm
      · rintro ⟨m, hm⟩
        exact ⟨m, by rw [hm]; rfl⟩
    · obtain ⟨c, hc, hwin⟩ := hlaw.inside o l hol
      exact ⟨⟨s.field, c⟩, by rw [Series.slice_eq, hc]; rfl, rfl, hwin⟩
  · -- a table: checked once against its rows, then every series alike
    have hrows : ∀ s ∈ t.columns, s.len = t.rows := fun s hs => (ht s hs).2
    refine ⟨⟨fun ⟨m, hm⟩ => Nat.lt_of_not_le fun hol => ?_, Table.slice_panics⟩, fun hol => ?_⟩
    · rw [Table.slice_eq_ok hrows hlen hol] at hm
      cases hm
    · refine ⟨_, Table.slice_eq_ok hrows hlen hol, rfl, rfl, rfl, ?_⟩
      rw [List.forall₂_map_right_iff]
      refine List.forall₂_same.2 fun s hs => ⟨rfl, ?_⟩
      have hin : o + l ≤ s.len := by rw [(ht s hs).2]; exact hol
      exact Column.isWindow_window (ht s hs).1.regular hin

end Columnar
