import Columnar.Proofs.RoundTrip
import Columnar.Proofs.Checked
import Columnar.Descriptor.Ownership

/-!
# Tables cross as record batches

A table is exported as one struct column, a record batch: its series are the struct's children
under their fields, the struct has the table's rows and no validity, and the table's name and
metadata ride on the root field of its schema. Importing reads the struct back and takes its
children as series.

For a table whose series have their fields' types and the table's rows, with well-formed
columns whose counts fit a descriptor (`Column.CountsFit`), and whose root field reads back from
its schema, export then import gives a table exactly when every series passes the export's
checks, and then a table of the same name, metadata and rows whose series read back the
table's series (`Table.import_export`):

> each series has its field, and a column of the same type, length, null count and values
> (`Series.Same`).

The struct is read back whole as a struct of the same fields whose children hold the columns
(`Column.import_struct`); that is what the stream round trips of record batches rest on too.
-/

namespace Columnar

namespace Column

/-- `b` holds what `c` holds: the same type, length, null count and values. -/
structure SameValues (b c : Column) : Prop where
  type_eq : b.type = c.type
  len_eq : b.len = c.len
  nullCount_eq : b.nullCount = c.nullCount
  toList_eq : b.toList = c.toList

/-- A column that holds all of a regular column holds the same values. -/
theorem ReadsBack.sameValues {b c : Column} (hreg : c.Regular) {n : Nat} (hn : c.len = n)
    (h : b.ReadsBack c 0 n) : b.SameValues c := by
  subst hn
  refine ⟨h.type_eq, h.len_eq, ?_, ?_⟩
  · rw [h.nullCount_eq, nullCount_eq_countP hreg]
    simp only [Nat.zero_add]
  · rw [h.toList_eq, toList]
    simp only [Nat.zero_add]

/-- A well-formed column whose counts fit and that exports is read back whole from its
export. -/
theorem readsBack_export {c : Column} (hwf : c.WellFormed) (hfit : c.CountsFit)
    (hexp : c.checkExportable = .ok ()) :
    ∃ b, c.toNode.importTyped c.type = .ok b ∧ b.ReadsBack c 0 c.len := by
  rw [importTyped_toNode]
  exact ReadsWindow.whole hwf.regular hfit.len_lt
    (readsWindow_of_wellFormed .full hwf hfit hexp 0 c.len _ (Nat.le_of_eq (Nat.zero_add _))
      (.inr rfl))

/-- Children of `n` slots, each of its field's type, in the form a well-formed struct takes. -/
theorem struct_children {fs : List Field} {cs : List Column} {n : Nat}
    (hcs : List.Forall₂ (fun f c => c.len = n ∧ c.type = f.type) fs cs) :
    cs.map type = fs.map Field.type ∧ ∀ c ∈ cs, c.len = n := by
  induction hcs with
  | nil => exact ⟨rfl, fun _ hc => nomatch hc⟩
  | cons hc _ ih =>
    refine ⟨by rw [List.map_cons, List.map_cons, hc.2, ih.1], fun c' hc' => ?_⟩
    rcases List.mem_cons.1 hc' with rfl | hmem
    · exact hc.1
    · exact ih.2 c' hmem

/-- A struct of well-formed columns that fit and export, with no validity of its own, is read
back from its export as a struct of the same fields, with no null row, whose children hold the
columns. -/
theorem import_struct {fs : List Field} {cs : List Column} {n : Nat}
    (hcs : List.Forall₂ (fun f c => c.len = n ∧ c.type = f.type) fs cs)
    (hwf : ∀ c ∈ cs, c.WellFormed ∧ c.CountsFit) (hexp : ∀ c ∈ cs, c.checkExportable = .ok ())
    (hn : n < 2 ^ 63) :
    ∃ cs' v', (struct fs cs none n).toNode.importTyped (.struct fs) = .ok (.struct fs cs' v' n) ∧
      List.Forall₂ (fun c b => b.ReadsBack c 0 n) cs cs' ∧ (struct fs cs' v' n).nullCount = 0 := by
  obtain ⟨htypes, hlen⟩ := struct_children hcs
  -- the fields have the children's types, which hold no string view
  have hmat : Field.materialiseList fs = fs := by
    refine Field.materialiseList_of fun f hf => ?_
    have hmem : f.type ∈ cs.map type := htypes ▸ List.mem_map_of_mem hf
    obtain ⟨c, hc, hct⟩ := List.mem_map.1 hmem
    rw [← hct]
    exact (hwf c hc).1.materialise_type
  have hwfs : (struct fs cs none n).WellFormed :=
    .struct fs cs none n htypes hlen (fun _ hm => by cases hm) fun c hc => (hwf c hc).1
  have hread : ∀ c ∈ cs, ∃ b, c.toNode.read .full c.type = .ok b ∧ b.ReadsBack c 0 c.len := by
    intro c hc
    obtain ⟨b, hb, hback⟩ := readsBack_export (hwf c hc).1 (hwf c hc).2 (hexp c hc)
    exact ⟨b, by rw [← importTyped_toNode]; exact hb, hback⟩
  obtain ⟨cs', v', hb, hall, hback⟩ := read_struct_window (v := none) htypes hlen
    (fun _ hm => by cases hm) hmat hread (Nat.le_of_eq (Nat.zero_add n)) hn (.inr rfl)
  refine ⟨cs', v', ?_, hall, ?_⟩
  · rw [importTyped_toNode, ← toNode_whole hwfs.regular hn]
    exact hb
  · -- the struct read back is null where the struct is, which is nowhere
    rw [hback.nullCount_eq]
    simp [nullAt, validity, Bitmap.isNullAt]

/-- The export's checks pass on children paired with as many fields exactly when each child
holds nulls only where its field allows them and passes the checks itself. -/
theorem checkMembersExportable_eq_ok_iff : ∀ {fs : List Field} {cs : List Column},
    fs.length = cs.length → (checkMembersExportable fs cs = .ok () ↔
      List.Forall₂ (fun f c => (f.nullable = true ∨ c.nullCount = 0) ∧
        c.checkExportable = .ok ()) fs cs)
  | [], [], _ => iff_of_true rfl .nil
  | f :: fs, c :: cs, hlen => by
    have hcons : checkMembersExportable (f :: fs) (c :: cs) = (checkNullable f c >>= fun _ =>
        c.checkExportable >>= fun _ => checkMembersExportable fs cs) := rfl
    rw [hcons, List.forall₂_cons,
      ← checkMembersExportable_eq_ok_iff (Nat.succ.inj hlen)]
    unfold checkNullable
    by_cases hnull : f.nullable = true ∨ c.nullCount = 0
    · simp only [hnull, true_and, Except.bind_eq_ok]
      constructor
      · rintro ⟨⟨⟩, -, ⟨⟩, hc, hrest⟩
        exact ⟨hc, hrest⟩
      · rintro ⟨hc, hrest⟩
        exact ⟨(), rfl, (), hc, hrest⟩
    · simp only [hnull, false_and, iff_false]
      intro h
      cases h

/-- A column exports exactly when it passes the export's checks. -/
theorem toDescriptor_ok_iff {c : Column} :
    (∃ d, c.toDescriptor = .ok d) ↔ c.checkExportable = .ok () := by
  constructor
  · rintro ⟨d, hd⟩
    have h : (∃ u, c.checkExportable = .ok u) ∧ c.toNode = d := by
      simpa [toDescriptor] using hd
    obtain ⟨⟨⟨⟩, hc⟩, -⟩ := h
    exact hc
  · intro hc
    exact ⟨c.toNode, by simp [toDescriptor, hc]⟩

end Column

namespace Series

/-- Series `s'` is series `s` read back: the same field, and a column holding the same values. -/
structure Same (s' s : Series) : Prop where
  field_eq : s'.field = s.field
  column : s'.column.SameValues s.column

end Series

namespace Table

open Column

/-- The export checks every series of a table against its field: nulls only where the field
allows them, and a column the export can write. -/
theorem checkMembersExportable_series (cols : List Series) :
    checkMembersExportable (cols.map (·.field)) (cols.map (·.column)) = .ok () ↔
      ∀ s ∈ cols, (s.field.nullable = true ∨ s.column.nullCount = 0) ∧
        s.column.checkExportable = .ok () := by
  rw [checkMembersExportable_eq_ok_iff (by rw [List.length_map, List.length_map]),
    List.forall₂_map_left_iff, List.forall₂_map_right_iff, List.forall₂_same]

theorem mistypedColumn_eq_none : ∀ {cols : List Series},
    (∀ s ∈ cols, s.column.type = s.field.type) → mistypedColumn cols = none
  | [], _ => rfl
  | s :: cols, h => by
    have hs := h s (List.mem_cons_self ..)
    simp only [mistypedColumn, hs, DataType.beq_self_eq_true, Bool.not_true, Bool.false_eq_true,
      if_false]
    exact mistypedColumn_eq_none fun s' hs' => h s' (List.mem_cons_of_mem _ hs')

/-- A table read from a struct without null rows: one series per field and child, and the
struct's rows. -/
theorem ofStruct_struct {name : String} {md : Metadata} {fs : List Field} {cs : List Column}
    {v : Option Bitmap} {n : Nat} (hnulls : (struct fs cs v n).nullCount = 0) :
    Table.ofStruct name (.struct fs cs v n) md =
      .ok ⟨(fs.zip cs).map fun (f, c) => ⟨f, c⟩, n, name, md⟩ := by
  have hv : (v.map Bitmap.countZeros).getD 0 = 0 := hnulls
  simp only [Table.ofStruct, hv, Nat.lt_irrefl, if_false]

/-- The series of a table read back from the children of its struct: each field with the
child that holds its column. -/
theorem zip_same {n : Nat} : ∀ {cols : List Series} {cs' : List Column},
    (∀ s ∈ cols, s.column.len = n ∧ s.column.Regular) →
    List.Forall₂ (fun c b => b.ReadsBack c 0 n) (cols.map (·.column)) cs' →
      List.Forall₂ Series.Same (((cols.map (·.field)).zip cs').map fun (f, c) => ⟨f, c⟩) cols
  | [], [], _, _ => .nil
  | s :: cols, b :: cs', hcols, .cons hb hrest => by
    have hs := hcols s (List.mem_cons_self ..)
    exact .cons ⟨rfl, hb.sameValues hs.2 hs.1⟩
      (zip_same (fun s' hs' => hcols s' (List.mem_cons_of_mem _ hs')) hrest)

/-- The series of a table as the fields and children of its struct. -/
theorem forall₂_fields_columns {cols : List Series} {n : Nat}
    (h : ∀ s ∈ cols, s.column.len = n ∧ s.column.type = s.field.type) :
    List.Forall₂ (fun f c => c.len = n ∧ c.type = f.type) (cols.map (·.field))
      (cols.map (·.column)) := by
  rw [List.forall₂_map_left_iff, List.forall₂_map_right_iff]
  exact List.forall₂_same.2 h

/-- A table whose series have their fields' types, as many rows as the table, and well-formed
columns whose counts fit, and whose root field reads back from its schema: export and import
give a table exactly when every series passes the export's checks, and then it has the
table's name, metadata and rows, and series that read back the table's series. -/
theorem import_export {t : Table}
    (hcols : ∀ s ∈ t.columns, s.column.type = s.field.type ∧ s.column.len = t.rows ∧
      s.column.WellFormed ∧ s.column.CountsFit)
    (hrows : t.rows < 2 ^ 63) {node : SchemaNode}
    (hnode : SchemaNode.ofField (t.schema.rootField t.name) = .ok node)
    (hroot : node.toField = .ok (t.schema.rootField t.name)) :
    ((∃ u, (t.toDescriptors >>= fun d => d.1.importTable d.2) = .ok u) ↔
      ∀ s ∈ t.columns, (s.field.nullable = true ∨ s.column.nullCount = 0) ∧
        ∃ d, s.column.toDescriptor = .ok d) ∧
    ∀ u, (t.toDescriptors >>= fun d => d.1.importTable d.2) = .ok u →
      u.name = t.name ∧ u.metadata = t.metadata ∧ u.rows = t.rows ∧
        List.Forall₂ Series.Same u.columns t.columns := by
  let fs := t.columns.map (·.field)
  let cs := t.columns.map (·.column)
  have hF : List.Forall₂ (fun f c => c.len = t.rows ∧ c.type = f.type) fs cs :=
    forall₂_fields_columns fun s hs => ⟨(hcols s hs).2.1, (hcols s hs).1⟩
  have hstruct : t.toStruct = .ok (.struct fs cs none t.rows) :=
    structOfLen_eq_ok hF fun _ hm => by cases hm
  have hchecks : ∀ s ∈ t.columns, ((s.field.nullable = true ∨ s.column.nullCount = 0) ∧
      ∃ d, s.column.toDescriptor = .ok d) ↔
        ((s.field.nullable = true ∨ s.column.nullCount = 0) ∧ s.column.checkExportable = .ok ()) :=
    fun s _ => and_congr_right fun _ => toDescriptor_ok_iff
  rw [forall_congr' fun s => imp_congr_right fun hs => hchecks s hs,
    ← checkMembersExportable_series]
  -- the export is the struct's node under the root's schema, once the members pass
  have hdesc : ∀ r, checkMembersExportable fs cs = r → t.toDescriptors =
      r >>= fun _ => .ok ((struct fs cs none t.rows).toNode, node) := by
    intro r hexp
    simp only [toDescriptors_of_typed (mistypedColumn_eq_none fun s hs => (hcols s hs).1),
      hstruct, descriptorsOf_eq, hnode, toDescriptor, checkExportable, hexp, bind, Except.bind]
    cases r <;> rfl
  cases hexp : checkMembersExportable fs cs with
  | error e =>
    rw [hdesc _ hexp]
    exact ⟨iff_of_false (by rintro ⟨_, ⟨⟩⟩) (by rintro ⟨⟩), by rintro _ ⟨⟩⟩
  | ok u =>
    cases u
    -- the members pass: the struct reads back, and so does the table
    have hmembers := checkMembersExportable_mem hF.length_eq hexp
    obtain ⟨cs', v', himp, hall, hnull⟩ := import_struct hF
      (fun c hc => by
        obtain ⟨s, hs, rfl⟩ := List.mem_map.1 hc
        exact ⟨(hcols s hs).2.2.1, (hcols s hs).2.2.2⟩) hmembers hrows
    have hu : (t.toDescriptors >>= fun d => d.1.importTable d.2) =
        .ok ⟨(fs.zip cs').map fun (f, c) => ⟨f, c⟩, t.rows, t.name, t.metadata⟩ := by
      rw [hdesc _ hexp]
      simp only [ArrayNode.importTable, ArrayNode.importTableChecked,
        ArrayNode.importSeriesChecked, hroot, bind, Except.bind]
      rw [show (t.schema.rootField t.name).type = .struct fs from rfl]
      rw [show ArrayNode.importChecked .full (struct fs cs none t.rows).toNode (.struct fs) =
        .ok (.struct fs cs' v' t.rows) from himp]
      simp only [Field.materialise, Schema.rootField, Schema.structType, DataType.materialise,
        Schema.ofRootField, ofStruct_struct hnull, pure, Except.pure]
      rfl
    refine ⟨iff_of_true ⟨_, hu⟩ rfl, fun u' hu' => ?_⟩
    rw [hu] at hu'
    cases hu'
    exact ⟨rfl, rfl, rfl, zip_same (fun s hs => ⟨(hcols s hs).2.1, (hcols s hs).2.2.1.regular⟩)
      hall⟩

end Table

end Columnar
