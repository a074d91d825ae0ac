import Columnar.Proofs.HostBalance
import Columnar.Proofs.StreamReader

/-!
# A stream reader takes over what its stream owes

Releasing a stream counts what the stream still owes: its own release, and the releases of
the schema and arrays it holds. A reader that takes a stream over takes these debts with
it. A callback moves a debt from the stream to the reader: `get_schema` the schema's,
`get_next` a batch's. The reader settles the debt (`released`) or passes it to the batch it
returns (`kept`). So the sum

> `r.stream.release.ledger + r.released + r.kept`

is the same after every call (`Conserves`), and once the reader is done its stream is
released and the stream's ledger is the part of the sum the stream settled. The drivers
that read a whole stream therefore leave a `Leftover` whose `total` is what releasing the
stream they were given counts, whatever the stream does.

A stream this library exported owes nothing: the library made everything it hands over. A
script owes what it holds; the sum is kept when it hands over only arrays it already holds
(`ScriptedStream.Premade`), as every script of a finite list of steps does. A script that makes
the arrays of later steps when asked adds each one's debt to the sum as it makes it.
-/

namespace Columnar

/-! ## What the library makes is live and not foreign -/

theorem SchemaNode.assemble_made {format name : String} {metadata : Metadata} {flags : Int}
    {children : List SchemaNode} {dictionary : Option SchemaNode} {n : SchemaNode}
    (h : SchemaNode.assemble format name metadata flags children dictionary = .ok n) :
    n.released = false ∧ n.foreign = false := by
  unfold SchemaNode.assemble at h
  simp only [bind, Except.bind] at h
  repeat' split at h
  all_goals first | contradiction | (cases h; exact ⟨rfl, rfl⟩)

theorem SchemaNode.ofType_made {t : DataType} {name : String} {u : Bool} {m : Metadata}
    {n : SchemaNode} (h : SchemaNode.ofType t name u m = .ok n) :
    n.released = false ∧ n.foreign = false := by
  unfold SchemaNode.ofType at h
  simp only [bind, Except.bind] at h
  -- every step before the last can only refuse; the last one assembles the node
  repeat' split at h
  all_goals first | contradiction | exact SchemaNode.assemble_made h

theorem SchemaNode.ofField_made {f : Field} {n : SchemaNode}
    (h : SchemaNode.ofField f = .ok n) : n.released = false ∧ n.foreign = false := by
  obtain ⟨name, t, u, m⟩ := f
  exact SchemaNode.ofType_made h

theorem Column.toNode_made (c : Column) :
    c.toNode.released = false ∧ c.toNode.foreign = false := by
  unfold Column.toNode
  split <;> exact ⟨rfl, rfl⟩

theorem Column.toDescriptor_made {c : Column} {a : ArrayNode} (h : c.toDescriptor = .ok a) :
    a.released = false ∧ a.foreign = false := by
  unfold Column.toDescriptor at h
  simp only [bind, Except.bind] at h
  split at h
  · contradiction
  · cases h
    exact c.toNode_made

namespace Ledger

theorem arrayList_eq (l : Ledger) (as : List ArrayNode) :
    l.arrayList as = l + (as.map ofArray).sum := by
  induction as generalizing l with
  | nil => simp [arrayList]
  | cons a as ih =>
    simp only [arrayList, List.foldl_cons] at ih ⊢
    rw [ih, array_eq, List.map_cons, List.sum_cons, add_assoc]

theorem stream_eq (l : Ledger) : l.stream = l + { streams := 1 } := by
  apply ext <;> simp [stream]

theorem ofArray_of_not_foreign {a : ArrayNode} (h : a.foreign = false) : ofArray a = 0 := by
  simp [ofArray, array, h]

theorem ofSchema_of_not_foreign {s : SchemaNode} (h : s.foreign = false) : ofSchema s = 0 := by
  simp [ofSchema, schema, h]

@[simp] theorem ofArray_ended : ofArray ArrayNode.ended = 0 :=
  ofArray_of_released rfl

end Ledger

namespace Producer

variable {σ : Type} {p p' : Producer σ}

theorem getSchema_foreign {n : SchemaNode} (h : p.getSchema = (.ok n, p')) :
    n.foreign = false := by
  unfold getSchema at h
  split at h
  · simp at h
  · split at h
    · simp at h
    · split at h
      · next s hs =>
        simp only [Prod.mk.injEq, Except.ok.injEq] at h
        rw [← h.1]
        exact (SchemaNode.ofField_made hs).2
      · simp at h

theorem exportBatch_foreign {field : Field} {position : Nat} {item : Except Error Column}
    {a : ArrayNode} (h : exportBatch field position item = .ok a) : a.foreign = false := by
  unfold exportBatch at h
  simp only [bind, Except.bind] at h
  repeat' split at h
  all_goals first | contradiction | exact (Column.toDescriptor_made h).2

/-- A batch an exported stream hands over counts nothing when it is released: it is the
end, or an export of the library. -/
theorem getNext_ofArray {a : ArrayNode} (h : p.getNext = (.ok a, p')) : Ledger.ofArray a = 0 := by
  unfold getNext at h
  split at h
  · simp at h
  · split at h
    · simp only [Prod.mk.injEq, Except.ok.injEq] at h
      simp [← h.1]
    · simp at h
    · split at h
      · simp only [Prod.mk.injEq, Except.ok.injEq] at h
        simp [← h.1]
      · dsimp only at h
        split at h
        · next a' ha =>
          simp only [Prod.mk.injEq, Except.ok.injEq] at h
          exact Ledger.ofArray_of_not_foreign (h.1 ▸ exportBatch_foreign ha)
        · simp at h

end Producer

/-! ## What a stream owes -/

namespace ScriptedStream

@[simp] theorem advance_live (s : ScriptedStream) : s.advance.live = s.live := rfl

@[simp] theorem advance_ledger (s : ScriptedStream) : s.advance.ledger = s.ledger := rfl

@[simp] theorem advance_schema (s : ScriptedStream) : s.advance.schema = s.schema := rfl

/-- The arrays a script holds: its first step's, if it made it, then those the script after that
step holds. -/
theorem heldArrays_eq (s : ScriptedStream) : s.heldArrays =
    (if 0 < s.made then (s.steps 0).array?.toList else []) ++ s.advance.heldArrays := by
  unfold heldArrays advance
  cases s.made with
  | zero => rfl
  | succ m =>
    rw [List.range_succ_eq_map, List.filterMap_cons, List.filterMap_map]
    cases (s.steps 0).array? <;> rfl

theorem Premade.advance {s : ScriptedStream} (h : s.Premade) : s.advance.Premade := by
  intro hlive i hi
  exact h hlive (i + 1) (by simp only [ScriptedStream.advance] at hi; omega)

/-- Releasing a live script counts what it held and its own release; releasing a released
one counts nothing more. -/
theorem release_ledger (s : ScriptedStream) : s.release.ledger =
    if s.live then s.ledger + (s.heldArrays.map Ledger.ofArray).sum + { streams := 1 } +
      (s.schema.map Ledger.ofSchema).getD 0 else s.ledger := by
  unfold release
  cases hlive : s.live
  · simp
  · simp only [Bool.not_true, Bool.false_eq_true, if_false, if_true]
    cases s.schema <;> simp [Ledger.arrayList_eq, Ledger.stream_eq, add_assoc]

variable {s s' : ScriptedStream}

theorem getSchema_ok {n : SchemaNode} (h : s.getSchema = (.ok n, s')) :
    s'.release.ledger + Ledger.ofSchema n = s.release.ledger := by
  unfold getSchema at h
  split at h
  · simp at h
  · rename_i hlive
    simp only [Bool.not_eq_true', Bool.not_eq_false] at hlive
    split at h
    · simp at h
    · split at h
      · next n' hn =>
        simp only [Prod.mk.injEq, Except.ok.injEq] at h
        obtain ⟨rfl, rfl⟩ := h
        simp [release_ledger, heldArrays, hlive, hn, add_right_comm]
      · simp at h

theorem getSchema_error {c : Int} (h : s.getSchema = (.error c, s')) : s' = s := by
  unfold getSchema at h
  repeat' split at h
  all_goals simp only [Prod.mk.injEq, reduceCtorEq, false_and] at h
  all_goals exact h.2.symm

/-- Handing over the first step's array moves its debt out of a script that made it. -/
theorem getNext_ok {a : ArrayNode} (hpre : s.Premade) (h : s.getNext = (.ok a, s')) :
    s'.release.ledger + Ledger.ofArray a = s.release.ledger := by
  cases hlive : s.live
  · simp [getNext, hlive] at h
  · rw [getNext_of_live hlive, Prod.mk.injEq] at h
    obtain ⟨hrep, rfl⟩ := h
    have hheld := heldArrays_eq s
    simp only [release_ledger, advance_live, hlive, if_true, advance_ledger, advance_schema]
    cases h0 : s.steps 0 with
    | batch b =>
      -- a batch's array was made, so the script held it
      cases hrep.symm.trans (congrArg Step.reply h0)
      have hmade : 0 < s.made := Nat.pos_of_ne_zero fun hz =>
        absurd (hpre hlive 0 (by omega)) (by rw [h0]; exact Option.some_ne_none _)
      rw [h0, if_pos hmade] at hheld
      rw [hheld]
      simp only [Step.array?, Option.toList_some, List.singleton_append, List.map_cons,
        List.sum_cons]
      abel
    | finish =>
      cases hrep.symm.trans (congrArg Step.reply h0)
      rw [h0] at hheld
      simp only [Step.array?, Option.toList_none, ite_self, List.nil_append] at hheld
      rw [hheld, Ledger.ofArray_ended, add_zero]
    | fail code => cases hrep.symm.trans (congrArg Step.reply h0)

theorem getNext_error {c : Int} (h : s.getNext = (.error c, s')) :
    s'.release.ledger = s.release.ledger := by
  cases hlive : s.live
  · simp only [getNext, hlive, Bool.not_false, if_true, Prod.mk.injEq] at h
    rw [h.2]
  · rw [getNext_of_live hlive, Prod.mk.injEq] at h
    obtain ⟨hrep, rfl⟩ := h
    have hheld := heldArrays_eq s
    -- only a failed step answers an error, and it hands over no array
    cases h0 : s.steps 0 with
    | fail code =>
      rw [h0] at hheld
      simp only [Step.array?, Option.toList_none, ite_self, List.nil_append] at hheld
      rw [release_ledger, release_ledger, hheld, advance_live, advance_ledger, advance_schema]
    | batch b => cases hrep.symm.trans (congrArg Step.reply h0)
    | finish => cases hrep.symm.trans (congrArg Step.reply h0)

end ScriptedStream

namespace ArrayStream

variable {st st' : ArrayStream}

/-- A stream hands over only arrays it already holds: an exported one always does. -/
def Premade : ArrayStream → Prop
  | .exported _ => True
  | .scripted s => s.Premade

theorem Premade.release (h : st.Premade) : st.release.Premade := by
  cases st with
  | exported p => trivial
  | scripted s =>
    show s.release.Premade
    cases hl : s.live
    · have hs : s.release = s := by simp [ScriptedStream.release, hl]
      rw [hs]
      exact h
    · intro hlive
      rw [(ScriptedStream.release_of_live hl).1] at hlive
      cases hlive

theorem Premade.getSchema? {rep : Reply SchemaNode} (h : st.Premade)
    (hs : st.getSchema? = some (rep, st')) : st'.Premade := by
  cases st with
  | exported p =>
    simp only [getSchema?, Option.some.injEq, Prod.mk.injEq] at hs
    rw [← hs.2]
    trivial
  | scripted s =>
    simp only [getSchema?] at hs
    split at hs
    · simp only [Option.some.injEq, Prod.mk.injEq] at hs
      rw [← hs.2]
      show s.getSchema.2.Premade
      unfold ScriptedStream.getSchema
      repeat' split
      all_goals exact h
    · contradiction

theorem Premade.getNext? {rep : Reply ArrayNode} (h : st.Premade)
    (hs : st.getNext? = some (rep, st')) : st'.Premade := by
  cases st with
  | exported p =>
    simp only [getNext?, Option.some.injEq, Prod.mk.injEq] at hs
    rw [← hs.2]
    trivial
  | scripted s =>
    simp only [getNext?] at hs
    split at hs
    · simp only [Option.some.injEq, Prod.mk.injEq] at hs
      rw [← hs.2]
      show s.getNext.2.Premade
      cases hlive : s.live
      · simp only [ScriptedStream.getNext, hlive, Bool.not_false, if_true]
        exact h
      · rw [ScriptedStream.getNext_of_live hlive]
        exact ScriptedStream.Premade.advance h
    · contradiction

@[simp] theorem release_exported_ledger (p : Producer BatchList) :
    (ArrayStream.exported p).release.ledger = 0 :=
  rfl

theorem release_release (st : ArrayStream) : st.release.release = st.release := by
  cases st with
  | exported p => by_cases h : p.live <;> simp [release, Producer.release, h]
  | scripted s =>
    cases h : s.live <;> simp [release, ScriptedStream.release, h]

theorem release_of_isReleased (h : st.isReleased = true) : st.release = st := by
  cases st with
  | exported p =>
    simp only [isReleased, Bool.not_eq_true'] at h
    simp [release, h]
  | scripted s =>
    simp only [isReleased, Bool.not_eq_true'] at h
    simp [release, ScriptedStream.release, h]

/-- `get_schema` moves the debt of the schema it hands over out of the stream. -/
theorem getSchema?_ok {n : SchemaNode} (h : st.getSchema? = some (.ok n, st')) :
    st'.release.ledger + Ledger.ofSchema n = st.release.ledger := by
  cases st with
  | exported p =>
    simp only [getSchema?, Option.some.injEq, Prod.mk.injEq] at h
    obtain ⟨hn, rfl⟩ := h
    have hp : p.getSchema = (.ok n, p.getSchema.2) := Prod.ext hn rfl
    simp [Ledger.ofSchema_of_not_foreign (Producer.getSchema_foreign hp)]
  | scripted s =>
    simp only [getSchema?] at h
    split at h
    · simp only [Option.some.injEq, Prod.mk.injEq] at h
      obtain ⟨hn, rfl⟩ := h
      exact ScriptedStream.getSchema_ok (Prod.ext hn rfl)
    · contradiction

theorem getSchema?_error {c : Int} (h : st.getSchema? = some (.error c, st')) :
    st'.release.ledger = st.release.ledger := by
  cases st with
  | exported p =>
    simp only [getSchema?, Option.some.injEq, Prod.mk.injEq] at h
    obtain ⟨-, rfl⟩ := h
    rfl
  | scripted s =>
    simp only [getSchema?] at h
    split at h
    · simp only [Option.some.injEq, Prod.mk.injEq] at h
      obtain ⟨hc, rfl⟩ := h
      have hs : s.getSchema.2 = s := ScriptedStream.getSchema_error (Prod.ext hc rfl)
      rw [hs]
    · contradiction

/-- `get_next` moves the debt of the batch it hands over out of a stream that holds it. -/
theorem getNext?_ok {a : ArrayNode} (hpre : st.Premade) (h : st.getNext? = some (.ok a, st')) :
    st'.release.ledger + Ledger.ofArray a = st.release.ledger := by
  cases st with
  | exported p =>
    simp only [getNext?, Option.some.injEq, Prod.mk.injEq] at h
    obtain ⟨ha, rfl⟩ := h
    have hp : p.getNext = (.ok a, p.getNext.2) := Prod.ext ha rfl
    simp [Producer.getNext_ofArray hp]
  | scripted s =>
    simp only [getNext?] at h
    split at h
    · simp only [Option.some.injEq, Prod.mk.injEq] at h
      obtain ⟨ha, rfl⟩ := h
      exact ScriptedStream.getNext_ok hpre (Prod.ext ha rfl)
    · contradiction

theorem getNext?_error {c : Int} (h : st.getNext? = some (.error c, st')) :
    st'.release.ledger = st.release.ledger := by
  cases st with
  | exported p =>
    simp only [getNext?, Option.some.injEq, Prod.mk.injEq] at h
    obtain ⟨-, rfl⟩ := h
    rfl
  | scripted s =>
    simp only [getNext?] at h
    split at h
    · simp only [Option.some.injEq, Prod.mk.injEq] at h
      obtain ⟨hc, rfl⟩ := h
      exact ScriptedStream.getNext_error (Prod.ext hc rfl)
    · contradiction

end ArrayStream

/-! ## The reader keeps the sum -/

namespace StreamReader

/-- What a reader and its stream owe together: what releasing the stream counts, the
releases the reader made, and those its batches keep. -/
def owing (r : StreamReader) : Ledger :=
  r.stream.release.ledger + r.released + r.kept

/-- The reader and its stream owe `T`, and a done reader's stream is released. -/
structure Conserves (T : Ledger) (r : StreamReader) : Prop where
  owing : r.owing = T
  released : r.done = true → r.stream.release = r.stream
  premade : r.stream.Premade

variable {T : Ledger} {r : StreamReader}

theorem owing_importBatch (r : StreamReader) (a : ArrayNode) :
    (r.importBatch a).2.owing = r.owing + Ledger.ofArray a := by
  unfold importBatch owing
  dsimp only
  split <;> simp only [Ledger.array_eq] <;> abel

theorem owing_pull (hpre : r.stream.Premade) : r.pull.2.owing = r.owing := by
  unfold pull
  split
  · rfl
  · next c st h =>
    simp only [StreamReader.owing, ArrayStream.getNext?_error h]
  · next a st h =>
    have hmove := ArrayStream.getNext?_ok hpre h
    dsimp only
    split
    · next hrel =>
      simp only [owing, ← hmove, Ledger.ofArray_of_released hrel, add_zero]
    · rw [owing_importBatch]
      simp only [owing, ← hmove]
      abel

@[simp] theorem done_pull (r : StreamReader) : r.pull.2.done = r.done := by
  unfold pull
  split
  · rfl
  · rfl
  · dsimp only
    split
    · rfl
    · exact importBatch_done _ _

theorem premade_pull (h : r.stream.Premade) : r.pull.2.stream.Premade := by
  rcases hn : r.stream.getNext? with _ | ⟨code | a, st⟩
  · rw [pull_of_none hn]
    exact h
  · rw [pull_of_error hn]
    exact h.getNext? hn
  · cases hrel : a.released
    · rw [pull_of_batch hn hrel, importBatch_stream]
      exact h.getNext? hn
    · rw [pull_of_ended hn hrel]
      exact h.getNext? hn

theorem Conserves.close (h : Conserves T r) : Conserves T r.close ∧ r.close.done = true := by
  unfold StreamReader.close
  split
  · next hdone => exact ⟨h, hdone⟩
  · refine ⟨⟨?_, fun _ => ArrayStream.release_release _, h.premade.release⟩, rfl⟩
    rw [← h.owing]
    simp only [StreamReader.owing, ArrayStream.release_release]

theorem Conserves.next (h : Conserves T r) : Conserves T r.next.2 := by
  cases hdone : r.done
  case true => rwa [next_of_done hdone]
  case false =>
    have hpull : Conserves T r.pull.2 :=
      ⟨(owing_pull h.premade).trans h.owing, by simp [hdone], premade_pull h.premade⟩
    unfold StreamReader.next
    simp only [hdone, Bool.false_eq_true, if_false]
    -- a batch leaves the reader open; the end and an error close it
    rcases hp : r.pull with ⟨_ | _ | c, r'⟩
    all_goals rw [hp] at hpull
    · exact hpull.close.1
    · exact hpull.close.1
    · exact hpull

theorem Conserves.readAll (h : Conserves T r) :
    Conserves T r.readAll.2 ∧ r.readAll.2.done = true :=
  (readFuel_preserves (fun _ h => Conserves.next h) (r.stream.budget + 1) h).close

/-- A done reader leaves everything its stream owed: settled by the stream, settled by the
reader, or kept by its batches. -/
theorem Conserves.total (h : Conserves T r) (hdone : r.done = true) : r.leftover.total = T := by
  rw [← h.owing]
  simp only [leftover, Leftover.total, StreamReader.owing, h.released hdone, Ledger.merge_eq_add]

theorem start_error_total {st : ArrayStream} {e : Error} {l : Leftover}
    (h : start st = .error (e, l)) : l.total = st.release.ledger := by
  unfold start at h
  split at h
  · next hrel =>
    simp only [Except.error.injEq, Prod.mk.injEq] at h
    obtain ⟨-, rfl⟩ := h
    simp [Leftover.total, ArrayStream.release_of_isReleased hrel]
  · split at h
    · simp only [Except.error.injEq, Prod.mk.injEq] at h
      obtain ⟨-, rfl⟩ := h
      simp [Leftover.total]
    · next c st' hc =>
      simp only [Except.error.injEq, Prod.mk.injEq] at h
      obtain ⟨-, rfl⟩ := h
      simp [Leftover.total, ArrayStream.getSchema?_error hc]
    · next n st' hn =>
      have hmove := ArrayStream.getSchema?_ok hn
      dsimp only at h
      split at h
      · contradiction
      · simp only [Except.error.injEq, Prod.mk.injEq] at h
        obtain ⟨-, rfl⟩ := h
        simp [Leftover.total, ← hmove]

theorem start_ok_conserves {st : ArrayStream} (hpre : st.Premade) (h : start st = .ok r) :
    Conserves st.release.ledger r ∧ r.done = false := by
  unfold start at h
  split at h
  · contradiction
  · split at h
    · contradiction
    · contradiction
    · next n st' hn =>
      have hmove := ArrayStream.getSchema?_ok hn
      dsimp only at h
      split at h
      · simp only [Except.ok.injEq] at h
        subst h
        refine ⟨⟨?_, fun h => absurd h Bool.false_ne_true, hpre.getSchema? hn⟩, rfl⟩
        simp [owing, ← hmove]
      · contradiction

end StreamReader

/-! ## The drivers -/

/-- Reading a stream that holds what it hands over as tables leaves everything it owed. -/
theorem readTables_total {st : ArrayStream} (hpre : st.Premade) :
    (readTables st).2.total = st.release.ledger := by
  unfold readTables
  cases hstart : StreamReader.start st with
  | error el => exact StreamReader.start_error_total hstart
  | ok r =>
    obtain ⟨h, -⟩ := StreamReader.start_ok_conserves hpre hstart
    dsimp only
    cases Schema.ofRootField r.field.materialise with
    | error e => exact h.close.1.total h.close.2
    | ok named =>
      have hread := StreamReader.readTablesFuel_preserves
        (fun _ h => StreamReader.Conserves.next h) named.1 named.2.metadata (r.stream.budget + 1) h
      dsimp only
      generalize r.readTablesFuel named.1 named.2.metadata (r.stream.budget + 1) = q at hread ⊢
      obtain ⟨tables, r'⟩ := q
      exact hread.close.1.total hread.close.2

theorem importTableStream_total {st : ArrayStream} (hpre : st.Premade) :
    (importTableStream st).2.total = st.release.ledger :=
  readTables_total hpre

theorem importBatchedStream_total {st : ArrayStream} (hpre : st.Premade) :
    (importBatchedStream st).2.total = st.release.ledger :=
  readTables_total hpre

theorem importChunkedStream_total {st : ArrayStream} (hpre : st.Premade) :
    (importChunkedStream st).2.total = st.release.ledger := by
  unfold importChunkedStream
  cases hstart : StreamReader.start st with
  | error el => exact StreamReader.start_error_total hstart
  | ok r =>
    obtain ⟨h, -⟩ := StreamReader.start_ok_conserves hpre hstart
    exact h.readAll.1.total h.readAll.2

end Columnar
