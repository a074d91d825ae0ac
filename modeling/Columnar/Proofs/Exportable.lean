import Columnar.Proofs.RecordBatch
import Columnar.Proofs.Valid
import Columnar.Proofs.ExportRelease

/-!
# What export refuses

Export checks a column's whole tree before it writes a single descriptor, and refuses exactly
the trees a consumer could not read. Three things are refused, wherever they sit in the tree
(`Column.Within`: the column itself and, at every depth, dictionary values, struct children
and list items):

* 32-bit string or list offsets whose last one is past `2^31 - 1`, as an overflow;
* a struct child or list item column holding nulls under a field that is not nullable, as a
  schema error naming the field;
* a temporal column whose type has no format string, as an unsupported type.

`Column.Refuses d e` says that `d` itself holds one of these and is refused with `e`. For a
valid column, where a struct has one child per field, export fails exactly when some column
of its tree is refused, and the error it gives is the refusal of such a column:

> `c.Valid → ((∃ e, c.toDescriptor = .error e) ↔ ∃ d e, Within d c ∧ Refuses d e)`.

A series is exported with the schema of its field. That fails exactly when the column's type
is not the field's, the field forbids the nulls the column holds, or the schema or the column
fails to export. A column that fails after the schema was built gives its own error, and the
export releases that schema, whole and once, before it returns; on no other path does it
release anything (`Series.exportPair_released`).
-/

namespace Columnar

/-- A type is refused a format string only as an unsupported type, named by its display. -/
theorem Format.encode_error {t : DataType} {e : Error} (h : Format.encode t = .error e) :
    e = .unsupported t.display := by
  unfold Format.encode at h
  dsimp only at h
  split at h <;> (try split at h) <;> cases h <;> rfl

theorem checkOffset_error {n : Nat} {e : Error} (h : checkOffset n = .error e) :
    2 ^ 31 - 1 < n ∧ e = .overflow n (2 ^ 31 - 1) := by
  unfold checkOffset at h
  split_ifs at h with hn
  cases h
  exact ⟨hn, rfl⟩

namespace Column

/-- The refusal of a column holding nulls under a field that forbids them. -/
def nullsRefusal (f : Field) (c : Column) : Error :=
  .schema ("field '" ++ f.name ++ "' is not nullable but holds " ++ toString c.nullCount ++
    " nulls")

theorem checkNullable_eq (f : Field) (c : Column) :
    checkNullable f c =
      if f.nullable = true ∨ c.nullCount = 0 then .ok () else .error (nullsRefusal f c) :=
  rfl

theorem checkNullable_error {f : Field} {c : Column} {e : Error}
    (h : checkNullable f c = .error e) :
    f.nullable = false ∧ 0 < c.nullCount ∧ e = nullsRefusal f c := by
  rw [checkNullable_eq] at h
  split_ifs at h with hok
  cases h
  simp only [not_or, Bool.not_eq_true] at hok
  exact ⟨hok.1, Nat.pos_of_ne_zero hok.2, rfl⟩

theorem checkNullable_ok {f : Field} {c : Column} (h : checkNullable f c = .ok ()) :
    f.nullable = true ∨ c.nullCount = 0 := by
  rw [checkNullable_eq] at h
  split_ifs at h with hok
  exact hok

/-! ## Refused columns and the columns of a tree -/

/-- The fields a column declares over the columns it holds: a struct's fields with its
children, a list's item field with its items. -/
def declared : Column → List (Field × Column)
  | .struct fs cs _ _ => fs.zip cs
  | .list _ f _ vals _ => [(f, vals)]
  | _ => []

/-- What export refuses in a column itself, with the error it gives. -/
inductive Refuses : Column → Error → Prop
  | text {off : Buffer Nat} {d : Buffer UInt8} {v : Option Bitmap}
      (h : 2 ^ 31 - 1 < off.items.getLastD 0) :
      Refuses (.text false off d v) (.overflow (off.items.getLastD 0) (2 ^ 31 - 1))
  | list {f : Field} {off : Buffer Nat} {vals : Column} {v : Option Bitmap}
      (h : 2 ^ 31 - 1 < off.items.getLastD 0) :
      Refuses (.list false f off vals v) (.overflow (off.items.getLastD 0) (2 ^ 31 - 1))
  | temporal {kind : TemporalKind} {u : TimeUnit} {z : Option String} {d : Buffer Nat}
      {v : Option Bitmap} (h : ∀ n, Format.encode (kind.type u z) ≠ .ok n) :
      Refuses (.temporal kind u z d v) (.unsupported (kind.type u z).display)
  | nulls {c : Column} {f : Field} {d : Column} (hmem : (f, d) ∈ c.declared)
      (hf : f.nullable = false) (hd : 0 < d.nullCount) : Refuses c (nullsRefusal f d)

/-- `d` is a column of the tree `c` heads. -/
inductive Within : Column → Column → Prop
  | self (c : Column) : Within c c
  | sub {c c' d : Column} (hc' : c' ∈ c.subcolumns) (hd : Within d c') : Within d c

/-- A refused column of a subcolumn's tree is a refused column of the tree. -/
theorem Within.refuses_of_sub {c c' : Column} {e : Error} (hc' : c' ∈ c.subcolumns) :
    (∃ d, Within d c' ∧ Refuses d e) → ∃ d, Within d c ∧ Refuses d e
  | ⟨d, hd, hr⟩ => ⟨d, .sub hc' hd, hr⟩

/-- The subcolumns of a valid column are valid. -/
theorem Valid.sub {c c' : Column} (hc : c.Valid) (hc' : c' ∈ c.subcolumns) : c'.Valid := by
  cases hc with
  | dictionary _ _ _ _ _ _ _ hvals =>
    rw [subcolumns, List.mem_singleton] at hc'
    exact hc' ▸ hvals
  | struct _ _ _ _ _ _ _ hcs => exact hcs c' hc'
  | list _ _ _ _ _ _ _ _ hvals =>
    rw [subcolumns, List.mem_singleton] at hc'
    exact hc' ▸ hvals
  | _ => simp [subcolumns] at hc'

/-- A valid struct has as many children as fields. -/
theorem length_children {fs : List Field} {cs : List Column} (htypes : cs.map type = fs.map Field.type) :
    fs.length = cs.length := by
  simpa using (congrArg List.length htypes).symm

/-! ## Every refusal comes from a refused column of the tree -/

/-- A refusal of the checks from a struct's children: a child holding nulls its field forbids,
or a refused column of a child's tree. -/
def MemberRefusal (fs : List Field) (cs : List Column) (e : Error) : Prop :=
  ∃ p ∈ fs.zip cs, (p.1.nullable = false ∧ 0 < p.2.nullCount ∧ e = nullsRefusal p.1 p.2) ∨
    ∃ d, Within d p.2 ∧ Refuses d e

theorem MemberRefusal.cons {f : Field} {fs : List Field} {c : Column} {cs : List Column}
    {e : Error} (h : MemberRefusal fs cs e) : MemberRefusal (f :: fs) (c :: cs) e := by
  obtain ⟨p, hp, hr⟩ := h
  exact ⟨p, List.mem_cons_of_mem _ hp, hr⟩

/-- The struct a member refusal is found in is refused, or holds a refused column. -/
theorem MemberRefusal.within {fs : List Field} {cs : List Column} {v : Option Bitmap} {n : Nat}
    {e : Error} (h : MemberRefusal fs cs e) : ∃ d, Within d (.struct fs cs v n) ∧ Refuses d e := by
  obtain ⟨⟨f, c⟩, hp, hnulls | ⟨d, hd, hr⟩⟩ := h
  · obtain ⟨hf, hc, rfl⟩ := hnulls
    exact ⟨_, .self _, .nulls hp hf hc⟩
  · exact Within.refuses_of_sub (List.of_mem_zip hp).2 ⟨d, hd, hr⟩

/-- Every error of the checks is the refusal of a column of the tree. -/
theorem checkExportable_error {c : Column} {e : Error} (h : c.checkExportable = .error e) :
    ∃ d, Within d c ∧ Refuses d e := by
  refine Column.checkExportable.induct
    (fun c => ∀ e, c.checkExportable = .error e → ∃ d, Within d c ∧ Refuses d e)
    (fun fs cs => ∀ e, checkMembersExportable fs cs = .error e → MemberRefusal fs cs e)
    ?text ?dictionary ?temporal ?struct ?listSmall ?listLarge ?other ?cons ?rest c e h
  case text =>
    intro off d v e h
    obtain ⟨hlast, rfl⟩ := checkOffset_error h
    exact ⟨_, .self _, .text hlast⟩
  case dictionary =>
    intro i k kv vals o ih e h
    exact Within.refuses_of_sub (List.mem_singleton_self _) (ih e h)
  case temporal =>
    intro kind u z d v e h
    obtain h | ⟨_, _, h⟩ := Except.bind_eq_error.1 h
    · -- the type has no format string at all
      have hnone : ∀ n, Format.encode (kind.type u z) ≠ .ok n := fun n hn => by
        rw [h] at hn
        cases hn
      exact ⟨_, .self _, (Format.encode_error h) ▸ .temporal hnone⟩
    · cases h
  case struct =>
    intro fs cs v len ih e h
    exact (ih e h).within
  case listSmall =>
    intro f off vals v ih e h
    obtain h | ⟨_, _, h⟩ := Except.bind_eq_error.1 h
    · obtain ⟨hlast, rfl⟩ := checkOffset_error h
      exact ⟨_, .self _, .list hlast⟩
    obtain h | ⟨_, _, h⟩ := Except.bind_eq_error.1 h
    · obtain ⟨hf, hc, rfl⟩ := checkNullable_error h
      exact ⟨_, .self _, .nulls (List.mem_singleton_self _) hf hc⟩
    exact Within.refuses_of_sub (List.mem_singleton_self _) (ih e h)
  case listLarge =>
    intro f off vals v ih e h
    obtain h | ⟨_, _, h⟩ := Except.bind_eq_error.1 h
    · obtain ⟨hf, hc, rfl⟩ := checkNullable_error h
      exact ⟨_, .self _, .nulls (List.mem_singleton_self _) hf hc⟩
    exact Within.refuses_of_sub (List.mem_singleton_self _) (ih e h)
  case other =>
    intro t htext hdict htemp hstruct hsmall hlarge e h
    -- every column the other cases leave is exported unchecked
    unfold Column.checkExportable at h
    split at h
    · exact (htext _ _ _ rfl).elim
    · exact (hdict _ _ _ _ _ rfl).elim
    · exact (htemp _ _ _ _ _ rfl).elim
    · exact (hstruct _ _ _ _ rfl).elim
    · exact (hsmall _ _ _ _ rfl).elim
    · exact (hlarge _ _ _ _ rfl).elim
    · cases h
  case cons =>
    intro f fs c cs ihc ih e h
    obtain h | ⟨_, _, h⟩ := Except.bind_eq_error.1 h
    · obtain ⟨hf, hc, rfl⟩ := checkNullable_error h
      exact ⟨(f, c), List.mem_cons_self .., .inl ⟨hf, hc, rfl⟩⟩
    obtain h | ⟨_, _, h⟩ := Except.bind_eq_error.1 h
    · obtain ⟨d, hd, hr⟩ := ihc e h
      exact ⟨(f, c), List.mem_cons_self .., .inr ⟨d, hd, hr⟩⟩
    exact (ih e h).cons
  case rest =>
    intro fs cs hcons e h
    unfold checkMembersExportable at h
    split at h
    · exact (hcons _ _ _ _ rfl rfl).elim
    · cases h

/-! ## A valid column that passes holds no refused column -/

/-- The subcolumns of a valid column that passes the checks pass them too. -/
theorem checkExportable_sub {c c' : Column} (hc : c.Valid) (hok : c.checkExportable = .ok ())
    (hc' : c' ∈ c.subcolumns) : c'.checkExportable = .ok () := by
  cases hc with
  | dictionary =>
    rw [subcolumns, List.mem_singleton] at hc'
    exact hc' ▸ checkExportable_dictionary hok
  | struct fs cs _ _ htypes =>
    simp only [checkExportable] at hok
    exact checkMembersExportable_mem (length_children htypes) hok c' hc'
  | list =>
    rw [subcolumns, List.mem_singleton] at hc'
    exact hc' ▸ (checkExportable_list hok).1
  | _ => simp [subcolumns] at hc'

/-- A valid column that passes the checks is not refused itself. -/
theorem not_refuses_of_checkExportable {c : Column} {e : Error} (hc : c.Valid)
    (hok : c.checkExportable = .ok ()) : ¬ Refuses c e := by
  intro hr
  cases hr with
  | text hlast => exact absurd (checkExportable_text hok) (Nat.not_le.2 hlast)
  | list hlast => exact absurd ((checkExportable_list hok).2 rfl) (Nat.not_le.2 hlast)
  | temporal hnone =>
    simp only [checkExportable, Except.bind_eq_ok] at hok
    obtain ⟨n, hn, -⟩ := hok
    exact hnone n hn
  | nulls hmem hf hd =>
    -- the nulls a member holds were checked against its field
    have hallowed : ∀ {f d}, (f, d) ∈ c.declared → f.nullable = true ∨ d.nullCount = 0 := by
      intro f d hmem
      cases hc with
      | struct fs cs _ _ htypes =>
        simp only [checkExportable] at hok
        have hpairs := (checkMembersExportable_eq_ok_iff (length_children htypes)).1 hok
        exact (List.forall₂_iff_zip.1 hpairs).2 hmem |>.1
      | list large =>
        simp only [declared, List.mem_singleton, Prod.mk.injEq] at hmem
        obtain ⟨rfl, rfl⟩ := hmem
        cases large <;> simp only [checkExportable, Except.bind_eq_ok] at hok
        · obtain ⟨_, -, _, hnull, -⟩ := hok
          exact checkNullable_ok hnull
        · obtain ⟨_, hnull, -⟩ := hok
          exact checkNullable_ok hnull
      | _ => simp [declared] at hmem
    rcases hallowed hmem with hnullable | hzero
    · rw [hf] at hnullable
      cases hnullable
    · omega

/-- No column of the tree of a valid column that passes the checks is refused: each step
down the tree keeps validity and passing. -/
theorem not_refuses_of_within {c d : Column} {e : Error} (hd : Within d c) :
    c.Valid → c.checkExportable = .ok () → ¬ Refuses d e := by
  induction hd with
  | self => exact not_refuses_of_checkExportable
  | sub hsub _ ih => exact fun hc hok => ih (hc.sub hsub) (checkExportable_sub hc hok hsub)

/-! ## Exporting columns and series -/

theorem toDescriptor_error_iff {c : Column} {e : Error} :
    c.toDescriptor = .error e ↔ c.checkExportable = .error e := by
  unfold toDescriptor
  cases c.checkExportable <;> simp [bind, Except.bind, pure, Except.pure]

/-- A valid column fails to export exactly when a column of its tree is refused. -/
theorem toDescriptor_fails_iff {c : Column} (hc : c.Valid) :
    (∃ e, c.toDescriptor = .error e) ↔ ∃ d e, Within d c ∧ Refuses d e := by
  constructor
  · rintro ⟨e, he⟩
    obtain ⟨d, hd, hr⟩ := checkExportable_error (toDescriptor_error_iff.1 he)
    exact ⟨d, e, hd, hr⟩
  · rintro ⟨d, e, hd, hr⟩
    cases hok : c.checkExportable with
    | error e' => exact ⟨e', toDescriptor_error_iff.2 hok⟩
    | ok u => exact absurd hr (not_refuses_of_within hd hc hok)

end Column

/-- A column exported under a field fails exactly when the field's schema or the column
fails; the schema is built first. -/
theorem descriptorsOf_fails_iff {c : Column} {f : Field} :
    (∃ e, descriptorsOf c f = .error e) ↔
      (∃ e, SchemaNode.ofField f = .error e) ∨ ∃ e, c.toDescriptor = .error e := by
  cases hs : SchemaNode.ofField f <;> cases ha : c.toDescriptor <;>
    simp [descriptorsOf_eq, hs, ha, bind, Except.bind, pure, Except.pure]

/-- A column refused after its field's schema was built gives its own refusal, and no
descriptor. -/
theorem descriptorsOf_of_column_error {c : Column} {f : Field} {n : SchemaNode} {e : Error}
    (hs : SchemaNode.ofField f = .ok n) (ha : c.toDescriptor = .error e) :
    descriptorsOf c f = .error e := by
  simp [descriptorsOf_eq, hs, ha, bind, Except.bind]

/-- Releasing a field's schema export always does something: it drops the root's texts. -/
theorem Field.exportTree_release_ne_nil (p : List Slot) (f : Field) :
    (f.exportTree p).release ≠ [] := by
  obtain ⟨n, t, u, m⟩ := f
  unfold Field.exportTree DataType.exportTree
  simp [Exported.release]

/-- A column exported under a field releases something before it returns exactly when the
field's schema was built and the column then refused, and what it releases is that schema,
whole. -/
theorem Column.exportPair_released {c : Column} {f : Field} :
    ((c.exportPair f).released ≠ [] ↔
      (∃ n, SchemaNode.ofField f = .ok n) ∧ ∃ e, c.toDescriptor = .error e) ∧
    ((c.exportPair f).released = [] ∨ (c.exportPair f).released = (f.exportTree []).release) := by
  unfold Column.exportPair
  cases SchemaNode.ofField f with
  | error e => simp [PairExport.refuse]
  | ok n =>
    cases c.toDescriptor with
    | ok a => simp
    | error e => simp [Field.exportTree_release_ne_nil]

namespace Series

/-- A series passes its export's checks exactly when its column has the field's type and
holds nulls only if the field allows them. -/
theorem checkExport_ok_iff {s : Series} :
    s.checkExport = .ok () ↔ s.column.type = s.field.type ∧
      (s.field.nullable = true ∨ s.column.nullCount = 0) := by
  by_cases htype : s.column.type = s.field.type
  · simp only [checkExport, htype, DataType.beq_self_eq_true, Bool.not_true, Bool.false_eq_true,
      if_false, Column.checkNullable_eq, true_and]
    cases s.field.nullable <;> simp
  · have hbeq : (s.column.type == s.field.type) = false := by
      rw [← Bool.not_eq_true, DataType.beq_iff_eq]
      exact htype
    simp [checkExport, hbeq, htype, bind, Except.bind, throw, throwThe, MonadExceptOf.throw]

/-- A series that passes its checks exports as its column under its field. -/
theorem exportPair_of_checks {s : Series} (h : s.checkExport = .ok ()) :
    s.exportPair = s.column.exportPair s.field := by
  rw [exportPair, h]

/-- A series that has its field's type and only the nulls its field allows exports as its
column under its field. -/
theorem toDescriptors_of_checks {s : Series} (htype : s.column.type = s.field.type)
    (hnull : s.field.nullable = true ∨ s.column.nullCount = 0) :
    s.toDescriptors = descriptorsOf s.column s.field := by
  rw [toDescriptors, exportPair_of_checks (checkExport_ok_iff.2 ⟨htype, hnull⟩), descriptorsOf]

/-- A series' export releases something before it returns exactly when the series passed its
checks, its field's schema was built and its column was then refused; and what it releases
then is that schema, exactly once. -/
theorem exportPair_released {s : Series} :
    (s.exportPair.released ≠ [] ↔ s.column.type = s.field.type ∧
      (s.field.nullable = true ∨ s.column.nullCount = 0) ∧
      (∃ n, SchemaNode.ofField s.field = .ok n) ∧ ∃ e, s.column.toDescriptor = .error e) ∧
    (s.exportPair.released ≠ [] →
      ReleasesOnce (s.field.exportTree []) ⟨[], s.exportPair.released⟩) := by
  cases hc : s.checkExport with
  | error e =>
    -- refused by its own checks: nothing was built, so nothing is released
    have hfail : ¬ (s.column.type = s.field.type ∧
        (s.field.nullable = true ∨ s.column.nullCount = 0)) := by
      rw [← checkExport_ok_iff, hc]
      intro h
      cases h
    have hnil : s.exportPair.released = [] := by
      rw [exportPair, hc]
      rfl
    simp only [hnil, ne_eq, not_true_eq_false, false_iff, false_imp_iff, and_true]
    exact fun ⟨ht, hn, _⟩ => hfail ⟨ht, hn⟩
  | ok u =>
    have hchecks := checkExport_ok_iff.1 hc
    obtain ⟨hiff, hwhole⟩ := Column.exportPair_released (c := s.column) (f := s.field)
    rw [exportPair_of_checks hc]
    refine ⟨by simp only [hiff, hchecks, true_and], fun hne => ?_⟩
    rw [hwhole.resolve_left hne]
    exact releasesOnce_release (Field.placed_exportTree [] s.field)

/-- A series fails to export exactly when its column's type is not its field's, its field
forbids the nulls the column holds, or the schema or the column fails to export. -/
theorem toDescriptors_fails_iff {s : Series} :
    (∃ e, s.toDescriptors = .error e) ↔ s.column.type ≠ s.field.type ∨
      (s.field.nullable = false ∧ 0 < s.column.nullCount) ∨
      (∃ e, SchemaNode.ofField s.field = .error e) ∨ ∃ e, s.column.toDescriptor = .error e := by
  by_cases htype : s.column.type = s.field.type
  · by_cases hnull : s.field.nullable = true ∨ s.column.nullCount = 0
    · -- both checks pass: what is left is the export of the pair
      have hnulls : ¬ (s.field.nullable = false ∧ 0 < s.column.nullCount) := by
        rintro ⟨hf, hc⟩
        rcases hnull with h | h
        · rw [hf] at h
          cases h
        · omega
      rw [toDescriptors_of_checks htype hnull, descriptorsOf_fails_iff]
      simp only [htype, ne_eq, not_true_eq_false, hnulls, false_or]
    · have hnulls : s.field.nullable = false ∧ 0 < s.column.nullCount := by
        simp only [not_or, Bool.not_eq_true] at hnull
        exact ⟨hnull.1, Nat.pos_of_ne_zero hnull.2⟩
      have hbeq : (s.column.type == s.field.type) = true := DataType.beq_iff_eq.2 htype
      refine iff_of_true ⟨Column.nullsRefusal s.field s.column, ?_⟩ (.inr (.inl hnulls))
      simp [toDescriptors_eq, checkExport, hbeq, Column.checkNullable_eq, hnull, bind, Except.bind]
  · have hbeq : (s.column.type == s.field.type) = false := by
      rw [← Bool.not_eq_true, DataType.beq_iff_eq]
      exact htype
    refine iff_of_true ⟨.schema ("field '" ++ s.field.name ++ "' declares " ++
      s.field.type.display ++ " but the array is " ++ s.column.type.display), ?_⟩ (.inl htype)
    simp [toDescriptors_eq, checkExport, hbeq, bind, Except.bind, throw, throwThe,
      MonadExceptOf.throw]

end Series

namespace Column

/-- Export fails fast exactly on the trees a consumer could not read. A valid column fails to
export exactly when a column of its tree is refused (long 32-bit offsets, nulls under a field
that forbids them, a temporal type with no format string), and with that column's refusal. A
series fails exactly when its column is not of its field's type, holds nulls its field
forbids, or its schema or its column fails; a column failing after the schema was built gives
its own error and hands back no descriptor. -/
theorem export_refuses_exactly_faults :
    (∀ c : Column, c.Valid →
      ((∃ e, c.toDescriptor = .error e) ↔ ∃ d e, Within d c ∧ Refuses d e) ∧
      ∀ e, c.toDescriptor = .error e → ∃ d, Within d c ∧ Refuses d e) ∧
    ∀ s : Series,
      ((∃ e, s.toDescriptors = .error e) ↔ s.column.type ≠ s.field.type ∨
        (s.field.nullable = false ∧ 0 < s.column.nullCount) ∨
        (∃ e, SchemaNode.ofField s.field = .error e) ∨ ∃ e, s.column.toDescriptor = .error e) ∧
      (∀ n e, s.column.type = s.field.type → (s.field.nullable = true ∨ s.column.nullCount = 0) →
        SchemaNode.ofField s.field = .ok n → s.column.toDescriptor = .error e →
        s.toDescriptors = .error e ∧
          ReleasesOnce (s.field.exportTree []) ⟨[], s.exportPair.released⟩) ∧
      (s.exportPair.released ≠ [] ↔ s.column.type = s.field.type ∧
        (s.field.nullable = true ∨ s.column.nullCount = 0) ∧
        (∃ n, SchemaNode.ofField s.field = .ok n) ∧ ∃ e, s.column.toDescriptor = .error e) := by
  refine ⟨fun c hc => ⟨toDescriptor_fails_iff hc, fun e he => ?_⟩, fun s => ⟨?_, ?_, ?_⟩⟩
  · exact checkExportable_error (toDescriptor_error_iff.1 he)
  · exact Series.toDescriptors_fails_iff
  · intro n e htype hnull hs ha
    have hreleased : s.exportPair.released ≠ [] :=
      Series.exportPair_released.1.2 ⟨htype, hnull, ⟨n, hs⟩, ⟨e, ha⟩⟩
    refine ⟨?_, Series.exportPair_released.2 hreleased⟩
    rw [Series.toDescriptors_of_checks htype hnull]
    exact descriptorsOf_of_column_error hs ha
  · exact Series.exportPair_released.1

/-- A struct whose one field, `Int32` and not nullable, holds a null: export refuses it with a
schema error naming the field, alone or as a series under a nullable field. -/
theorem export_refuses_nested_nulls :
    let c : Column := .struct [⟨"a", .int32, false, Metadata.empty⟩]
      [.numeric .int32 (Buffer.ofList [0]) (some ⟨[0], 0, 1, false⟩)] none 1
    let s : Series := ⟨⟨"s", c.type, true, Metadata.empty⟩, c⟩
    let e : Error := .schema "field 'a' is not nullable but holds 1 nulls"
    c.Valid ∧ (∃ d, Within d c ∧ Refuses d e) ∧ s.toDescriptors = .error e := by
  intro c s e
  have hc : c.Valid := by
    refine .struct _ _ _ _ rfl (by simp [Column.len, Buffer.ofList, Buffer.size])
      (Bitmap.covers_none 1) fun c' hc' => ?_
    rw [List.mem_singleton] at hc'
    subst hc'
    exact .numeric _ _ _ fun m hm => by
      cases hm
      exact ⟨by simp [Bitmap.Stored], rfl⟩
  have he : c.toDescriptor = .error e := by
    dsimp only [c, e]
    rfl
  obtain ⟨n, hn⟩ : ∃ n, SchemaNode.ofField s.field = .ok n := ⟨_, rfl⟩
  exact ⟨hc, (export_refuses_exactly_faults.1 c hc).2 e he,
    ((export_refuses_exactly_faults.2 s).2.1 n e rfl (.inl rfl) hn he).1⟩

end Column

end Columnar
