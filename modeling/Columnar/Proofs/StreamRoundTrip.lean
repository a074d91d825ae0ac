import Columnar.Proofs.RecordBatch
import Columnar.Proofs.ExportedStream

/-!
# Round trips through a stream

A chunked series is exported as a stream of its chunks under its field, and a batched table as
a stream of record batches, one struct column per batch, under its schema's root field. Read
back to the end, the stream gives back what went in, once every batch passes the stream's
checks.

For a chunked series whose field reads back from its schema, with well-formed chunks of the
field's type whose counts fit a descriptor (`chunked_stream_round_trip`):

> the stream is released, the read gives a series exactly when every chunk passes the checks
> (`Column.Passes`), and then one under the field materialised with chunks holding the same
> values; the first chunk that does not pass fails the read with the stream's report of it,
> whatever comes after it.

For record batches under a schema whose root field reads back, each batch a table whose columns
are carried under the schema's fields (`Table.BatchOf`), the stream reads back one table per
batch, in order, with the batch's rows and columns holding the same values (`Table.ReadFrom`);
read as a batched table, it has the schema materialised, which is the schema itself once
there is a batch (`record_batch_round_trips`).
-/

namespace Columnar

/-! ## Lists of checks -/

/-- The first member of a list that fails a property, after members that all have it. -/
theorem exists_first_not {α : Type} {P : α → Prop} :
    ∀ {l : List α}, ¬ (∀ x ∈ l, P x) →
      ∃ pre x rest, l = pre ++ x :: rest ∧ (∀ y ∈ pre, P y) ∧ ¬ P x
  | [], h => absurd (fun _ hx => nomatch hx) h
  | x :: l, h => by
    by_cases hx : P x
    · have hl : ¬ ∀ y ∈ l, P y := fun hl => h fun y hy => by
        rcases List.mem_cons.1 hy with rfl | hy
        · exact hx
        · exact hl y hy
      obtain ⟨pre, z, rest, rfl, hpre, hz⟩ := exists_first_not hl
      refine ⟨x :: pre, z, rest, rfl, fun y hy => ?_, hz⟩
      rcases List.mem_cons.1 hy with rfl | hy
      · exact hx
      · exact hpre y hy
    · exact ⟨[], x, l, rfl, fun _ hy => (nomatch hy), hx⟩

/-- A member of a list related pairwise to another is related to a member of the other. -/
theorem exists_mem_of_forall₂ {α β : Type} {R : α → β → Prop} :
    ∀ {xs : List α} {ys : List β}, List.Forall₂ R xs ys → ∀ x ∈ xs, ∃ y ∈ ys, R x y
  | _, _, .nil => fun _ hx => nomatch hx
  | _, _, .cons hxy hrest => fun x hx => by
    rcases List.mem_cons.1 hx with rfl | hx
    · exact ⟨_, List.mem_cons_self .., hxy⟩
    · obtain ⟨y, hy, hR⟩ := exists_mem_of_forall₂ hrest x hx
      exact ⟨y, List.mem_cons_of_mem _ hy, hR⟩

namespace Except

variable {ε α β : Type}

/-- Successes collected in order are one success. -/
theorem mapM_id_map_ok (bs : List α) :
    (bs.map Except.ok).mapM id = (.ok bs : Except ε (List α)) := by
  induction bs with
  | nil => rfl
  | cons b bs ih => simp [List.mapM_cons, ih]

/-- A check that succeeds on each member of a list, with a value related to the matching member
of another list, succeeds on the whole list with values related to them in order. -/
theorem mapM_ok_of_forall₂ {γ : Type} {g : α → Except ε β} {R : β → γ → Prop} :
    ∀ {xs : List α} {ys : List γ},
      List.Forall₂ (fun x y => ∃ u, g x = .ok u ∧ R u y) xs ys →
      ∃ us, xs.mapM g = .ok us ∧ List.Forall₂ R us ys
  | [], [], .nil => ⟨[], rfl, .nil⟩
  | _ :: _, _ :: _, .cons ⟨u, hu, hR⟩ hrest => by
    obtain ⟨us, hus, hall⟩ := mapM_ok_of_forall₂ hrest
    exact ⟨u :: us, by simp [List.mapM_cons, hu, hus], .cons hR hall⟩

end Except

/-! ## Exported streams -/

/-- An exported stream is live, ready at its first batch, and pulls its batches in order under
its field. -/
theorem exportStream_eq {field : Field} {bs : BatchList} {p : Producer BatchList}
    (h : exportStream field bs = .ok p) :
    p.field = field ∧ p.pull = BatchList.pull ∧ p.phase = .ready bs 0 ∧ p.live = true := by
  simp only [exportStream, exportSource, Except.bind_eq_ok, Except.pure_eq_ok] at h
  obtain ⟨_, -, rfl⟩ := h
  exact ⟨rfl, rfl, rfl, rfl⟩

@[simp] theorem Field.type_materialise (f : Field) : f.materialise.type = f.type.materialise := by
  cases f
  rfl

/-- A schema's root field materialised reads back as the batch name and the schema with its
fields materialised. -/
theorem Schema.ofRootField_materialise (schema : Schema) (name : String) :
    Schema.ofRootField (schema.rootField name).materialise =
      .ok (name, ⟨Field.materialiseList schema.fields, schema.metadata⟩) := by
  simp only [Schema.rootField, Schema.structType, Field.materialise, DataType.materialise,
    Schema.ofRootField]

/-- Column `c` passes a stream's checks under field `f`: it holds nulls only where the field
allows them, and exports. -/
def Column.Passes (c : Column) (f : Field) : Prop :=
  (f.nullable = true ∨ c.nullCount = 0) ∧ ∃ d, c.toDescriptor = .ok d

/-- A stream sends a batch of its field's type exactly when the batch passes its checks. -/
theorem Column.good_iff_passes {c : Column} {f : Field} (ht : c.type = f.type) :
    Producer.Good f (.ok c) ↔ c.Passes f :=
  ⟨fun h => h.2, fun h => ⟨ht, h⟩⟩

/-! ## Chunked series -/

namespace ChunkedSeries

theorem mistypedChunk_of_same {t : DataType} : ∀ {i : Nat} {bs cs : List Column},
    List.Forall₂ Column.SameValues bs cs → (∀ c ∈ cs, c.type = t) →
      mistypedChunk t i bs = none
  | _, [], [], .nil, _ => rfl
  | i, b :: bs, c :: cs, .cons hb hrest, ht => by
    have hbt : b.type = t := hb.type_eq.trans (ht c (List.mem_cons_self ..))
    simp only [mistypedChunk, hbt, DataType.beq_self_eq_true, if_true]
    exact mistypedChunk_of_same hrest fun c' hc' => ht c' (List.mem_cons_of_mem _ hc')

/-- Chunks that hold the same values as another series' chunks give it its count, rows, nulls
and values. -/
theorem same_chunks {sb a : ChunkedSeries}
    (h : List.Forall₂ Column.SameValues sb.chunks a.chunks) :
    sb.count = a.count ∧ sb.len = a.len ∧ sb.nullCount = a.nullCount ∧
      sb.toList = a.toList := by
  unfold count len nullCount toList
  generalize sb.chunks = bs at h
  generalize a.chunks = cs at h
  induction h with
  | nil => exact ⟨rfl, rfl, rfl, rfl⟩
  | cons hb _ ih =>
    obtain ⟨h1, h2, h3, h4⟩ := ih
    simp only [List.length_cons, List.map_cons, List.foldr_cons, List.flatMap_cons, h1, h2, h3, h4,
      hb.len_eq, hb.nullCount_eq, hb.toList_eq, and_self]

/-- A chunk of a field's type, well-formed with counts that fit, that passes the stream's checks
is imported back from its export with the same values. -/
theorem import_chunk {f : Field} {c : Column}
    (hc : c.type = f.type ∧ c.WellFormed ∧ c.CountsFit) (hpass : c.Passes f) :
    ∃ b, c.toNode.importTyped f.type = .ok b ∧ b.SameValues c := by
  obtain ⟨htype, hwf, hfit⟩ := hc
  obtain ⟨b, hb, hback⟩ :=
    Column.readsBack_export hwf hfit (Column.toDescriptor_ok_iff.1 hpass.2)
  exact ⟨b, htype ▸ hb, hback.sameValues hwf.regular rfl⟩

section Yielded

variable {a : ChunkedSeries}

/-- Chunks read off a stream up to the first that does not pass its checks: the read fails with
the stream's report of that chunk, which is the first yield that is not a batch, and only the
chunks before it were handed over. -/
theorem ofChunks_yields_first_bad
    (hchunks : ∀ c ∈ a.chunks, c.type = a.field.type ∧ c.WellFormed ∧ c.CountsFit)
    {pre : List Column} {c : Column} {rest : List Column} (hsplit : a.chunks = pre ++ c :: rest)
    (hpre : ∀ c' ∈ pre, c'.Passes a.field) (hbad : ¬ c.Passes a.field) :
    ∃ e, Producer.exportBatch a.field pre.length (.ok c) = .error e ∧
      ((BatchList.yields a.field a.field.type 0 (a.chunks.map .ok)).mapM id >>=
        ofChunks a.field.materialise) = .error (.stream ("get_next failed (" ++
          toString (e.errno : Int) ++ "): " ++ Producer.errorText e)) ∧
      isBatch (BatchList.yields a.field a.field.type 0 (a.chunks.map .ok))[pre.length]? = false ∧
      BatchList.handedOver a.field a.field.type 0 (a.chunks.map .ok) = pre.length := by
  have hmem : ∀ c' ∈ pre, c' ∈ a.chunks := fun c' hc' => by
    rw [hsplit]
    exact List.mem_append_left _ hc'
  have hc : c ∈ a.chunks := by
    rw [hsplit]
    exact List.mem_append_right _ (List.mem_cons_self ..)
  obtain ⟨bs, e, he, hys, hlen, hcount⟩ := BatchList.yields_of_first_bad (t := a.field.type) 0
    (l := rest)
    (fun c' hc' => ⟨(Column.good_iff_passes (hchunks c' (hmem c' hc')).1).2 (hpre c' hc'),
      (import_chunk (hchunks c' (hmem c' hc')) (hpre c' hc')).imp fun _ h => h.1⟩)
    (fun h => hbad ((Column.good_iff_passes (hchunks c hc).1).1 h))
  refine ⟨e, by rw [← Nat.zero_add pre.length]; exact he, ?_, ?_, by rw [hsplit, hcount]⟩
  · rw [hsplit, hys, List.mapM_append, Except.mapM_id_map_ok]
    rfl
  · -- the report comes right after the batches of the chunks before it
    rw [hsplit, hys, ← hlen, List.getElem?_append_right (by simp), List.length_map, Nat.sub_self]
    rfl

/-- Chunks read off a stream when every chunk passes its checks: a series under the field
materialised, with chunks holding the same values. -/
theorem ofChunks_yields_of_passes
    (hchunks : ∀ c ∈ a.chunks, c.type = a.field.type ∧ c.WellFormed ∧ c.CountsFit)
    (hall : ∀ c ∈ a.chunks, c.Passes a.field) :
    ∃ bs, ((BatchList.yields a.field a.field.type 0 (a.chunks.map .ok)).mapM id >>=
        ofChunks a.field.materialise) = .ok ⟨a.field.materialise, bs⟩ ∧
      List.Forall₂ Column.SameValues bs a.chunks ∧
      BatchList.handedOver a.field a.field.type 0 (a.chunks.map .ok) = a.chunks.length := by
  obtain ⟨bs, hys, hsame, hcount⟩ := BatchList.yields_of_good (f := id) (R := Column.SameValues) 0
    fun c hc => ⟨(Column.good_iff_passes (hchunks c hc).1).2 (hall c hc),
      import_chunk (hchunks c hc) (hall c hc)⟩
  replace hys : BatchList.yields a.field a.field.type 0 (a.chunks.map .ok) = bs.map .ok := hys
  -- the chunks have the field's type, which holds no string view
  have htypes : ∀ c ∈ a.chunks, c.type = a.field.materialise.type := by
    intro c hc
    obtain ⟨htype, hwf, -⟩ := hchunks c hc
    rw [Field.type_materialise, ← htype, hwf.materialise_type]
  refine ⟨bs, ?_, hsame, hcount⟩
  rw [hys, Except.mapM_id_map_ok]
  simp only [bind, Except.bind, ofChunks, mistypedChunk_of_same hsame htypes]

end Yielded

end ChunkedSeries

/-- A chunked series through a stream: exported under its field, which reads back from its
schema, with well-formed chunks of the field's type whose counts fit a descriptor, and read back
to the end, the stream is released and gives a chunked series exactly when every chunk passes
the stream's checks. It then has the field materialised and chunks holding the same values, and
the descriptor of every chunk was handed over. At the first chunk that does not pass, the read
fails with the stream's report of that chunk: the descriptors of the chunks before it were
handed over, and no later chunk is asked for. Every descriptor handed over owes its release
once: whatever is done with its chunk's buffers it is released at most once, and letting the
chunk go releases it. -/
theorem chunked_stream_round_trip {a : ChunkedSeries} {p : Producer BatchList}
    (hexp : a.toStream = .ok p)
    (hschema : ∃ node, SchemaNode.ofField a.field = .ok node ∧ node.toField = .ok a.field)
    (hchunks : ∀ c ∈ a.chunks, c.type = a.field.type ∧ c.WellFormed ∧ c.CountsFit) :
    (importChunkedStream (.exported p)).2.stream.isReleased = true ∧
    (∀ h ∈ (importChunkedStream (.exported p)).2.batches, h.OwesOnce) ∧
    ((∃ sb, (importChunkedStream (.exported p)).1 = .ok sb) ↔ ∀ c ∈ a.chunks, c.Passes a.field) ∧
    (∀ sb, (importChunkedStream (.exported p)).1 = .ok sb →
      sb.field = a.field.materialise ∧ List.Forall₂ Column.SameValues sb.chunks a.chunks ∧
        sb.count = a.count ∧ sb.len = a.len ∧ sb.nullCount = a.nullCount ∧ sb.toList = a.toList ∧
        (importChunkedStream (.exported p)).2.batches.length = a.chunks.length) ∧
    ∀ pre c rest, a.chunks = pre ++ c :: rest → (∀ c' ∈ pre, c'.Passes a.field) →
      ¬ c.Passes a.field →
        ∃ e, Producer.exportBatch a.field pre.length (.ok c) = .error e ∧
          (importChunkedStream (.exported p)).1 = .error (.stream ("get_next failed (" ++
            toString (e.errno : Int) ++ "): " ++ Producer.errorText e)) ∧
          (importChunkedStream (.exported p)).2.batches.length = pre.length ∧
          (importChunkedStream (.exported p)).2.asked ≤ pre.length + 1 := by
  obtain ⟨hfield, hpull, hph, hlive⟩ := exportStream_eq hexp
  obtain ⟨node, hnode, hroot⟩ := hschema
  obtain ⟨hread, hrel, hcount, howe, hasked⟩ :=
    importChunkedStream_exported hlive hpull hph (hfield ▸ hnode) hroot
  rw [hfield] at hread hcount hasked
  have hfirst : ∀ pre c rest, a.chunks = pre ++ c :: rest →
      (∀ c' ∈ pre, c'.Passes a.field) → ¬ c.Passes a.field →
        ∃ e, Producer.exportBatch a.field pre.length (.ok c) = .error e ∧
          (importChunkedStream (.exported p)).1 = .error (.stream ("get_next failed (" ++
            toString (e.errno : Int) ++ "): " ++ Producer.errorText e)) ∧
          (importChunkedStream (.exported p)).2.batches.length = pre.length ∧
          (importChunkedStream (.exported p)).2.asked ≤ pre.length + 1 := by
    intro pre c rest hsplit hpre hbad
    obtain ⟨e, he, hys, hstop, hhanded⟩ :=
      ChunkedSeries.ofChunks_yields_first_bad hchunks hsplit hpre hbad
    exact ⟨e, he, hread.trans hys, hcount.trans hhanded, hasked _ hstop⟩
  -- a read that succeeds saw every chunk pass: the first that did not would have failed it
  have hpasses : (∃ sb, (importChunkedStream (.exported p)).1 = .ok sb) →
      ∀ c ∈ a.chunks, c.Passes a.field := by
    rintro ⟨sb, hsb⟩
    by_contra hnot
    obtain ⟨pre, c, rest, hsplit, hpre, hbad⟩ := exists_first_not hnot
    obtain ⟨e, -, herr, -⟩ := hfirst pre c rest hsplit hpre hbad
    rw [herr] at hsb
    cases hsb
  refine ⟨hrel, howe, ⟨hpasses, fun hall => ?_⟩, fun sb hsb => ?_, hfirst⟩
  · obtain ⟨bs, hbs, -⟩ := ChunkedSeries.ofChunks_yields_of_passes hchunks hall
    exact ⟨_, hread.trans hbs⟩
  · obtain ⟨bs, hbs, hsame, hhanded⟩ :=
      ChunkedSeries.ofChunks_yields_of_passes hchunks (hpasses ⟨sb, hsb⟩)
    rw [hread, hbs] at hsb
    cases hsb
    obtain ⟨h1, h2, h3, h4⟩ := @ChunkedSeries.same_chunks ⟨_, bs⟩ a hsame
    exact ⟨rfl, hsame, h1, h2, h3, h4, hcount.trans hhanded⟩

/-- Two chunks of 32-bit integers under a nullable field stream back as a series. -/
theorem chunked_stream_round_trip_int32 :
    let a : ChunkedSeries := ⟨⟨"x", .int32, true, .empty⟩,
      [.numeric .int32 (Buffer.ofList [1, 2]) none, .numeric .int32 (Buffer.ofList [3]) none]⟩
    ∃ p, a.toStream = .ok p ∧
      (∃ node, SchemaNode.ofField a.field = .ok node ∧ node.toField = .ok a.field) ∧
      (∀ c ∈ a.chunks, c.type = a.field.type ∧ c.WellFormed ∧ c.CountsFit) ∧
      ∃ sb, (importChunkedStream (.exported p)).1 = .ok sb := by
  intro a
  have hexp : a.toStream =
      .ok ⟨a.field, BatchList.pull, .ready (a.chunks.map .ok) 0, none, true⟩ := rfl
  have hschema : ∃ node, SchemaNode.ofField a.field = .ok node ∧ node.toField = .ok a.field :=
    ⟨_, rfl, rfl⟩
  have hchunks : ∀ c ∈ a.chunks, c.type = a.field.type ∧ c.WellFormed ∧ c.CountsFit := by
    intro c hc
    simp only [a, List.mem_cons, List.not_mem_nil, or_false] at hc
    rcases hc with rfl | rfl
    · exact ⟨rfl, .numeric _ _ _ ⟨by decide, by decide⟩ (by rintro _ ⟨⟩),
        .intro (by decide) (by rintro _ ⟨⟩)⟩
    · exact ⟨rfl, .numeric _ _ _ ⟨by decide, by decide⟩ (by rintro _ ⟨⟩),
        .intro (by decide) (by rintro _ ⟨⟩)⟩
  refine ⟨_, hexp, hschema, hchunks, (chunked_stream_round_trip hexp hschema hchunks).2.2.1.2 ?_⟩
  intro c hc
  simp only [a, List.mem_cons, List.not_mem_nil, or_false] at hc
  rcases hc with rfl | rfl
  · exact ⟨.inl rfl, _, rfl⟩
  · exact ⟨.inl rfl, _, rfl⟩

/-! ## Record batches -/

/-- Column `c` under field `f` in a record batch of `n` rows that a stream carries and reads
back whole: it has the field's type and the batch's rows, is well-formed with counts that fit a
descriptor, and passes the stream's checks under the field. -/
structure Column.Carries (n : Nat) (f : Field) (c : Column) : Prop where
  type_eq : c.type = f.type
  len_eq : c.len = n
  wellFormed : c.WellFormed
  countsFit : c.CountsFit
  passes : c.Passes f

namespace Table

/-- Table `t` is a record batch of `schema` that a stream carries: one column per field of the
schema, each carried under it, and rows that a descriptor's length holds. -/
structure BatchOf (schema : Schema) (t : Table) : Prop where
  columns : List.Forall₂ (fun f s => s.column.Carries t.rows f) schema.fields t.columns
  rows_lt : t.rows < 2 ^ 63

/-- Table `u` is record batch `t` read from a stream under batch name `name` and `schema`: it
has the name, the schema's metadata and fields, the batch's rows, and columns holding the same
values as the batch's. -/
structure ReadFrom (name : String) (schema : Schema) (u t : Table) : Prop where
  name_eq : u.name = name
  metadata_eq : u.metadata = schema.metadata
  rows_eq : u.rows = t.rows
  fields_eq : u.columns.map (·.field) = schema.fields
  columns : List.Forall₂ Column.SameValues (u.columns.map (·.column)) (t.columns.map (·.column))

end Table

namespace Table.BatchOf

variable {schema : Schema} {t : Table}

/-- The columns of a batch as the children of a struct under the schema's fields. -/
theorem children (h : t.BatchOf schema) :
    List.Forall₂ (fun f c => c.len = t.rows ∧ c.type = f.type) schema.fields
      (t.columns.map (·.column)) := by
  rw [List.forall₂_map_right_iff]
  exact h.columns.imp fun _ _ hc => ⟨hc.len_eq, hc.type_eq⟩

/-- A batch is streamed as the struct of its columns under the schema's fields. -/
theorem batchColumn_eq (h : t.BatchOf schema) :
    batchColumn schema.fields t =
      .ok (.struct schema.fields (t.columns.map (·.column)) none t.rows) :=
  Column.structOfLen_eq_ok h.children fun _ hm => by cases hm

/-- The struct of a batch passes the stream's checks under the schema's root field: it has the
root's type, no null row, and children that pass the export's checks. -/
theorem good (h : t.BatchOf schema) (name : String) :
    Producer.Good (schema.rootField name)
      (.ok (.struct schema.fields (t.columns.map (·.column)) none t.rows)) := by
  refine ⟨rfl, .inr rfl, Column.toDescriptor_ok_iff.2 ?_⟩
  show Column.checkMembersExportable schema.fields (t.columns.map (·.column)) = .ok ()
  rw [Column.checkMembersExportable_eq_ok_iff h.children.length_eq, List.forall₂_map_right_iff]
  exact h.columns.imp fun _ _ hc => ⟨hc.passes.1, Column.toDescriptor_ok_iff.1 hc.passes.2⟩

/-- The fields of a schema that has a batch hold no string view: each has the type of a
well-formed column. -/
theorem materialise_fields (h : t.BatchOf schema) :
    Field.materialiseList schema.fields = schema.fields := by
  refine Field.materialiseList_of fun f hf => ?_
  obtain ⟨s, -, hc⟩ := exists_mem_of_forall₂ h.columns f hf
  rw [← hc.type_eq]
  exact hc.wellFormed.materialise_type

/-- The struct of a batch is imported back from its export, and read as a table under any
batch name it reads the batch back. -/
theorem readFrom (h : t.BatchOf schema) (name : String) :
    ∃ b, (Column.struct schema.fields (t.columns.map (·.column)) none t.rows).toNode.importTyped
        (.struct schema.fields) = .ok b ∧
      ∃ u, Table.ofStruct name b schema.metadata = .ok u ∧ u.ReadFrom name schema t := by
  have hcs : List.Forall₂ (fun f c => c.Carries t.rows f) schema.fields
      (t.columns.map (·.column)) := List.forall₂_map_right_iff.2 h.columns
  have hcarried : ∀ c ∈ t.columns.map (·.column), ∃ f, c.Carries t.rows f := fun c hc =>
    (exists_mem_of_forall₂ (List.Forall₂.flip (R := flip _) hcs) c hc).imp fun _ hf => hf.2
  obtain ⟨cs', v', himp, hall, hnull⟩ := Column.import_struct h.children
    (fun c hc => (hcarried c hc).elim fun _ hf => ⟨hf.wellFormed, hf.countsFit⟩)
    (fun c hc => (hcarried c hc).elim fun _ hf => Column.toDescriptor_ok_iff.1 hf.passes.2)
    h.rows_lt
  have hlen : schema.fields.length = cs'.length := hcs.length_eq.trans hall.length_eq
  -- each child read back holds what its column holds
  have hsame : List.Forall₂ Column.SameValues cs' (t.columns.map (·.column)) := by
    refine List.Forall₂.flip
      (((List.forall₂_and_left _ _).2 ⟨fun c hc => hcarried c hc, hall⟩).imp ?_)
    rintro c b ⟨⟨f, hf⟩, hb⟩
    exact hb.sameValues hf.wellFormed.regular hf.len_eq
  refine ⟨_, himp, _, Table.ofStruct_struct hnull, rfl, rfl, rfl, ?_, ?_⟩
  · rw [List.map_map]
    exact List.map_fst_zip (Nat.le_of_eq hlen)
  · rw [List.map_map]
    rw [show (Series.column ∘ fun (p : Field × Column) => (⟨p.1, p.2⟩ : Series)) = Prod.snd
      from rfl, List.map_snd_zip (Nat.le_of_eq hlen.symm)]
    exact hsame

end Table.BatchOf

/-- Record batches exported as a stream under a schema whose root field reads back, read to the
end: the stream is released, and the read gives the batch name, the schema with its fields
materialised, and one table per batch, in order, that reads the batch back. -/
theorem readTables_exportTables {name : String} {schema : Schema} {ts : List Table}
    {p : Producer BatchList} (hexp : exportTables name schema ts = .ok p)
    (hroot : ∃ node, SchemaNode.ofField (schema.rootField name) = .ok node ∧
      node.toField = .ok (schema.rootField name))
    (hts : ∀ t ∈ ts, t.BatchOf schema) :
    (readTables (.exported p)).2.stream.isReleased = true ∧
      ∃ us, (readTables (.exported p)).1 =
          .ok (name, ⟨Field.materialiseList schema.fields, schema.metadata⟩, us) ∧
        List.Forall₂ (Table.ReadFrom name schema) us ts := by
  obtain ⟨hfield, hpull, hph, hlive⟩ := exportStream_eq hexp
  obtain ⟨node, hnode, hnf⟩ := hroot
  obtain ⟨hread, hrel⟩ := readTables_exported hlive hpull hph (hfield ▸ hnode) hnf
    (Schema.ofRootField_materialise schema name)
  -- each batch is the struct of its columns, sent and read back as a table
  have hgood : ∀ t ∈ ts, Producer.Good (schema.rootField name)
        (.ok (.struct schema.fields (t.columns.map (·.column)) none t.rows)) ∧
      ∃ b, (Column.struct schema.fields (t.columns.map (·.column)) none t.rows).toNode.importTyped
          (schema.rootField name).type = .ok b ∧
        ∃ u, Table.ofStruct name b schema.metadata = .ok u ∧ u.ReadFrom name schema t :=
    fun t ht => ⟨(hts t ht).good name, (hts t ht).readFrom name⟩
  obtain ⟨bs, hys, hall, -⟩ := BatchList.yields_of_good
    (f := fun t => .struct schema.fields (t.columns.map (·.column)) none t.rows)
    (R := fun b t => ∃ u, Table.ofStruct name b schema.metadata = .ok u ∧
      u.ReadFrom name schema t) 0 hgood
  have hbatches : ts.map (batchColumn schema.fields) =
      ts.map fun t => .ok (.struct schema.fields (t.columns.map (·.column)) none t.rows) :=
    List.map_congr_left fun t ht => (hts t ht).batchColumn_eq
  obtain ⟨us, hus, hread'⟩ := Except.mapM_ok_of_forall₂ hall
  refine ⟨hrel, us, ?_, hread'⟩
  rw [hread, hfield, hbatches, hys, List.mapM_map]
  rw [show ((fun b => do Table.ofStruct name (← b) schema.metadata) ∘ Except.ok) =
    fun b => Table.ofStruct name b schema.metadata from rfl, hus]
  rfl

namespace BatchedTable

theorem strayColumn_map_field :
    ∀ cols : List Series, strayColumn cols (cols.map (·.field)) = none
  | [] => rfl
  | s :: cols => by
    simp only [List.map_cons, strayColumn, beq_self_eq_true, DataType.beq_self_eq_true,
      Bool.and_self, if_true]
    exact strayColumn_map_field cols

/-- Batches whose columns have the schema's fields are all appended, their rows added up. -/
theorem pushAll_eq_ok : ∀ {b : BatchedTable} {us : List Table},
    (∀ u ∈ us, u.columns.map (·.field) = b.schema.fields) →
      b.pushAll us =
        .ok { b with batches := b.batches ++ us, rows := b.rows + (us.map Table.rows).sum }
  | b, [], _ => by
    cases b
    simp [pushAll]
  | b, u :: us, h => by
    have hu := h u (List.mem_cons_self ..)
    have hpush :
        b.push u = .ok { b with batches := b.batches ++ [u], rows := b.rows + u.rows } := by
      have hwidth : u.width = b.schema.fields.length := by rw [Table.width, ← hu, List.length_map]
      simp only [push, hwidth, ne_eq, not_true_eq_false, if_false]
      rw [← hu, strayColumn_map_field]
    have hrest : pushAll { b with batches := b.batches ++ [u], rows := b.rows + u.rows } us =
        .ok { b with
          batches := b.batches ++ [u] ++ us
          rows := b.rows + u.rows + (us.map Table.rows).sum } :=
      pushAll_eq_ok fun u' hu' => h u' (List.mem_cons_of_mem _ hu')
    have hcons : b.pushAll (u :: us) = (b.push u >>= fun b' => b'.pushAll us) := rfl
    rw [hcons, hpush]
    simp only [bind, Except.bind, hrest, List.append_assoc, List.singleton_append, List.map_cons,
      List.sum_cons, Nat.add_assoc]

end BatchedTable

/-- Tables read back from a stream have the batches' rows. -/
theorem rows_of_readFrom {name : String} {schema : Schema} {us ts : List Table}
    (h : List.Forall₂ (Table.ReadFrom name schema) us ts) :
    us.map (·.rows) = ts.map (·.rows) := by
  rw [← List.forall₂_eq_eq_eq, List.forall₂_map_left_iff, List.forall₂_map_right_iff]
  exact h.imp fun _ _ hu => hu.rows_eq

/-- Record batches through a stream under a schema whose root field reads back, each batch
carried under the schema, read back to the end as tables: the stream is released and gives one
table per batch, in order, named after the stream with the schema's metadata and fields. -/
theorem Table.stream_round_trip {schema : Schema} {ts : List Table} {p : Producer BatchList}
    (hexp : exportTables "" schema ts = .ok p)
    (hroot : ∃ node, SchemaNode.ofField (schema.rootField "") = .ok node ∧
      node.toField = .ok (schema.rootField ""))
    (hts : ∀ t ∈ ts, t.BatchOf schema) :
    (importTableStream (.exported p)).2.stream.isReleased = true ∧
      ∃ us, (importTableStream (.exported p)).1 = .ok us ∧
        List.Forall₂ (Table.ReadFrom "" schema) us ts := by
  obtain ⟨hrel, us, hread, hall⟩ := readTables_exportTables hexp hroot hts
  refine ⟨hrel, us, ?_, hall⟩
  show (readTables (.exported p)).1.map (fun r => r.2.2) = _
  rw [hread]
  rfl

/-- A batched table through a stream, under a schema whose root field reads back, each batch
carried under the schema, read back to the end as a batched table: the stream is released and
gives one with the table's name, the schema with its fields materialised (the schema itself
once there is a batch), the batches' rows, and batches read back in order. -/
theorem BatchedTable.stream_round_trip {st : BatchedTable} {p : Producer BatchList}
    (hexp : st.toStream = .ok p)
    (hroot : ∃ node, SchemaNode.ofField (st.schema.rootField st.name) = .ok node ∧
      node.toField = .ok (st.schema.rootField st.name))
    (hts : ∀ t ∈ st.batches, t.BatchOf st.schema) :
    (importBatchedStream (.exported p)).2.stream.isReleased = true ∧
      ∃ sb, (importBatchedStream (.exported p)).1 = .ok sb ∧ sb.name = st.name ∧
        sb.schema = ⟨Field.materialiseList st.schema.fields, st.schema.metadata⟩ ∧
        (st.batches ≠ [] → sb.schema = st.schema) ∧
        sb.rows = (st.batches.map (·.rows)).sum ∧
        List.Forall₂ (Table.ReadFrom st.name st.schema) sb.batches st.batches := by
  obtain ⟨hrel, us, hread, hall⟩ := readTables_exportTables hexp hroot hts
  -- every table read back has the schema's fields, materialised or not
  have hfields :
      ∀ u ∈ us, u.columns.map (·.field) = Field.materialiseList st.schema.fields := by
    intro u hu
    obtain ⟨t, ht, hut⟩ := exists_mem_of_forall₂ hall u hu
    rw [hut.fields_eq, (hts t ht).materialise_fields]
  have hbatched : (importBatchedStream (.exported p)).1 = BatchedTable.ofBatches st.name
      ⟨Field.materialiseList st.schema.fields, st.schema.metadata⟩ us := by
    show ((readTables (.exported p)).1 >>= fun r =>
      BatchedTable.ofBatches r.1 r.2.1 r.2.2) = _
    rw [hread]
    rfl
  rw [BatchedTable.ofBatches, BatchedTable.pushAll_eq_ok hfields] at hbatched
  refine ⟨hrel, _, hbatched, rfl, rfl, fun hne => ?_, ?_, ?_⟩
  · obtain ⟨t, ht⟩ := List.exists_mem_of_ne_nil _ hne
    show (⟨Field.materialiseList st.schema.fields, st.schema.metadata⟩ : Schema) = st.schema
    rw [(hts t ht).materialise_fields]
  · show 0 + (us.map (·.rows)).sum = _
    rw [Nat.zero_add, rows_of_readFrom hall]
  · exact hall

/-- Tables and batched tables through record batches: a table exported and imported gives a
table exactly when each of its columns passes the export's checks, and then one with its name,
metadata, rows and columns; tables sent as a stream under a schema are read back one per batch;
a batched table sent as a stream is read back with its name, its schema materialised, its rows
and its batches. -/
theorem record_batch_round_trips (t : Table) (schema : Schema) (ts : List Table)
    (st : BatchedTable) (p q : Producer BatchList) :
    ((∀ s ∈ t.columns, s.column.type = s.field.type ∧ s.column.len = t.rows ∧
        s.column.WellFormed ∧ s.column.CountsFit) →
      t.rows < 2 ^ 63 →
      (∃ node, SchemaNode.ofField (t.schema.rootField t.name) = .ok node ∧
        node.toField = .ok (t.schema.rootField t.name)) →
      ((∃ u, (t.toDescriptors >>= fun d => d.1.importTable d.2) = .ok u) ↔
        ∀ s ∈ t.columns, s.column.Passes s.field) ∧
      ∀ u, (t.toDescriptors >>= fun d => d.1.importTable d.2) = .ok u →
        u.name = t.name ∧ u.metadata = t.metadata ∧ u.rows = t.rows ∧
          List.Forall₂ Series.Same u.columns t.columns) ∧
    (exportTables "" schema ts = .ok p →
      (∃ node, SchemaNode.ofField (schema.rootField "") = .ok node ∧
        node.toField = .ok (schema.rootField "")) →
      (∀ t ∈ ts, t.BatchOf schema) →
      (importTableStream (.exported p)).2.stream.isReleased = true ∧
        ∃ us, (importTableStream (.exported p)).1 = .ok us ∧
          List.Forall₂ (Table.ReadFrom "" schema) us ts) ∧
    (st.toStream = .ok q →
      (∃ node, SchemaNode.ofField (st.schema.rootField st.name) = .ok node ∧
        node.toField = .ok (st.schema.rootField st.name)) →
      (∀ t ∈ st.batches, t.BatchOf st.schema) →
      st.rows = (st.batches.map (·.rows)).sum →
      (importBatchedStream (.exported q)).2.stream.isReleased = true ∧
        ∃ sb, (importBatchedStream (.exported q)).1 = .ok sb ∧ sb.name = st.name ∧
          sb.schema = ⟨Field.materialiseList st.schema.fields, st.schema.metadata⟩ ∧
          (st.batches ≠ [] → sb.schema = st.schema) ∧ sb.rows = st.rows ∧
          List.Forall₂ (Table.ReadFrom st.name st.schema) sb.batches st.batches) := by
  refine ⟨fun hcols hrows ⟨node, hnode, hroot⟩ => ?_, fun hexp hroot hts =>
    Table.stream_round_trip hexp hroot hts, fun hexp hroot hts hrows => ?_⟩
  · exact Table.import_export hcols hrows hnode hroot
  · obtain ⟨hrel, sb, hsb, hname, hschema, hsome, hsum, hall⟩ :=
      BatchedTable.stream_round_trip hexp hroot hts
    exact ⟨hrel, sb, hsb, hname, hschema, hsome, hsum.trans hrows.symm, hall⟩

/-- A table of one column of 32-bit integers crosses as a record batch, and as a stream of one
batch, read as tables and as a batched table. -/
theorem record_batch_round_trips_int32 :
    let x : Field := ⟨"x", .int32, true, .empty⟩
    let t : Table := ⟨[⟨x, .numeric .int32 (Buffer.ofList [1, 2]) none⟩], 2, "t", .empty⟩
    let st : BatchedTable := ⟨[t], ⟨[x], .empty⟩, 2, ""⟩
    (∃ u, (t.toDescriptors >>= fun d => d.1.importTable d.2) = .ok u) ∧
      ∃ p, st.toStream = .ok p ∧ (∃ us, (importTableStream (.exported p)).1 = .ok us) ∧
        ∃ sb, (importBatchedStream (.exported p)).1 = .ok sb ∧ sb.rows = 2 := by
  intro x t st
  have hwf : (Column.numeric .int32 (Buffer.ofList [1, 2]) none).WellFormed :=
    .numeric _ _ _ ⟨by decide, by decide⟩ nofun
  have hfit : (Column.numeric .int32 (Buffer.ofList [1, 2]) none).CountsFit :=
    .intro (by decide) fun _ h => nomatch h
  have hcols : ∀ s ∈ t.columns, s.column.type = s.field.type ∧ s.column.len = t.rows ∧
      s.column.WellFormed ∧ s.column.CountsFit := by
    intro s hs
    simp only [t, List.mem_cons, List.not_mem_nil, or_false] at hs
    subst hs
    exact ⟨rfl, rfl, hwf, hfit⟩
  have hpasses : ∀ s ∈ t.columns, s.column.Passes s.field := by
    intro s hs
    simp only [t, List.mem_cons, List.not_mem_nil, or_false] at hs
    subst hs
    exact ⟨.inl rfl, _, rfl⟩
  have hbatch : ∀ t' ∈ st.batches, t'.BatchOf st.schema := by
    intro t' ht'
    simp only [st, List.mem_cons, List.not_mem_nil, or_false] at ht'
    subst ht'
    exact ⟨.cons ⟨rfl, rfl, hwf, hfit, .inl rfl, _, rfl⟩ .nil, by decide⟩
  have hexp : st.toStream = .ok ⟨st.schema.rootField "", BatchList.pull,
      .ready (st.batches.map (batchColumn st.schema.fields)) 0, none, true⟩ := by
    dsimp only [st, t, x]
    rfl
  have hroot : ∃ node, SchemaNode.ofField (st.schema.rootField st.name) = .ok node ∧
      node.toField = .ok (st.schema.rootField st.name) := by
    dsimp only [st, x]
    refine ⟨_, rfl, ?_⟩
    rfl
  have htable : ∃ node, SchemaNode.ofField (t.schema.rootField t.name) = .ok node ∧
      node.toField = .ok (t.schema.rootField t.name) := by
    dsimp only [t, x]
    refine ⟨_, rfl, ?_⟩
    rfl
  obtain ⟨h1, h2, h3⟩ := record_batch_round_trips t st.schema st.batches st _ _
  obtain ⟨-, us, hus, -⟩ := h2 hexp hroot hbatch
  obtain ⟨-, sb, hsb, -, -, -, hrows, -⟩ := h3 hexp hroot hbatch rfl
  exact ⟨(h1 hcols (by decide) htable).1.2 hpasses, _, hexp, ⟨us, hus⟩, sb, hsb, hrows⟩

end Columnar
