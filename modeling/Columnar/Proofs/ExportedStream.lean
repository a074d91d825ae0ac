import Columnar.Proofs.StreamProducer
import Columnar.Proofs.StreamReader
import Columnar.Proofs.RoundTrip

/-!
# Reading an exported stream

A stream exported by this library hands out the batches of a list under a field. A reader that
opens it reads the field back from the stream's schema and imports every batch under that
field's type. What the reader yields is a function of the list alone (`BatchList.yields`): each
batch exported and imported in order, up to the end of the list, or up to the first batch that
fails the stream's checks or the import, which is yielded last, and which ends the stream:

> no batch after the first failure is read.

The reader follows the stream with an invariant, `StreamReader.Follows`: what it has still to
yield, and that once done it yields nothing and the stream is released. One `next` yields the
first of it and keeps the invariant for the rest (`Follows.next`); reading to the end yields all
of it and releases the stream (`Follows.readAll`). The drivers that read a whole stream as a
chunked series or as tables are then equations over `BatchList.yields`
(`importChunkedStream_exported`, `readTables_exported`).
-/

namespace Columnar

/-- What a reader yields from a list of batches exported under `field` from position `pos`,
imported as type `t`: each batch exported and imported in order, up to the end of the list,
or up to the first batch that fails to export or to import, which is yielded last. A batch
that fails to export is quoted as the stream reports it. -/
def BatchList.yields (field : Field) (t : DataType) : Nat → BatchList → List (Except Error Column)
  | _, [] => []
  | pos, b :: rest =>
    match Producer.exportBatch field pos b with
    | .error e =>
      [.error (.stream ("get_next failed (" ++ toString (e.errno : Int) ++ "): " ++
        Producer.errorText e))]
    | .ok a =>
      if a.released then []
      else match a.importTyped t with
        | .ok c => .ok c :: BatchList.yields field t (pos + 1) rest
        | .error e => [.error e]

/-- How many arrays a stream of a list of batches exported under `field` from position `pos`
hands over to a reader that imports them as type `t`: each batch exported, up to the first that
fails to export or to import; one that fails to import was handed over too. -/
def BatchList.handedOver (field : Field) (t : DataType) : Nat → BatchList → Nat
  | _, [] => 0
  | pos, b :: rest =>
    match Producer.exportBatch field pos b with
    | .error _ => 0
    | .ok a =>
      if a.released then 0
      else match a.importTyped t with
        | .ok _ => BatchList.handedOver field t (pos + 1) rest + 1
        | .error _ => 1

namespace Producer

variable {p : Producer BatchList} {b : Except Error Column} {rest : BatchList} {pos : Nat}

/-- At the end of its list a live stream signals the end and is exhausted. -/
theorem getNext_nil (hlive : p.live = true) (hpull : p.pull = BatchList.pull)
    (hph : p.phase = .ready [] pos) :
    p.getNext = (.ok ArrayNode.ended, { p with phase := .exhausted }) := by
  simp only [getNext, hlive, hph, hpull, BatchList.pull, Bool.not_true, Bool.false_eq_true,
    if_false]

/-- A live stream hands out the export of the first batch of its list and moves past it. -/
theorem getNext_cons_ok (hlive : p.live = true) (hpull : p.pull = BatchList.pull)
    (hph : p.phase = .ready (b :: rest) pos) {a : ArrayNode}
    (ha : exportBatch p.field pos b = .ok a) :
    p.getNext = (.ok a, { p with phase := .ready rest (pos + 1) }) := by
  simp only [getNext, hlive, hph, hpull, BatchList.pull, Bool.not_true, Bool.false_eq_true,
    if_false, ha]

/-- A live stream whose first batch fails to export fails with its error number, leaving its
text for `get_last_error`, and stays live. -/
theorem getNext_cons_error (hlive : p.live = true) (hpull : p.pull = BatchList.pull)
    (hph : p.phase = .ready (b :: rest) pos) {e : Error}
    (he : exportBatch p.field pos b = .error e) :
    ∃ p', p.getNext = (.error e.errno, p') ∧ p'.live = true ∧
      p'.lastErrorText = some (errorText e) := by
  have hreply : p.getNext.1 = .error e.errno := by
    rw [(getNext_step hlive).1, hph]
    simp only [nextReply, hpull, BatchList.pull, he]
  obtain ⟨e', hph', hcode, htext⟩ := getNext_error hlive hreply
  have hstep := (getNext_step hlive).2.1
  rw [hph', hph] at hstep
  simp only [nextPhase, hpull, BatchList.pull, he, Phase.failed.injEq] at hstep
  subst hstep
  exact ⟨p.getNext.2, Prod.ext hreply rfl, (getNext_step hlive).2.2.live_eq.trans hlive, htext⟩

/-- Short of a failure, a live stream answers its field's schema and stays as it was. -/
theorem getSchema_ready (hlive : p.live = true) {bs : BatchList} (hph : p.phase = .ready bs pos)
    {node : SchemaNode} (hsch : SchemaNode.ofField p.field = .ok node) :
    p.getSchema = (.ok node, p) := by
  simp only [getSchema, hlive, hph, hsch, Bool.not_true, Bool.false_eq_true, if_false]

end Producer

theorem BatchList.length_yields_le (field : Field) (t : DataType) :
    ∀ (pos : Nat) (bs : BatchList), (BatchList.yields field t pos bs).length ≤ bs.length
  | _, [] => Nat.le_refl _
  | pos, b :: rest => by
    unfold BatchList.yields
    split
    · simp
    · split
      · simp
      · split
        · simpa using BatchList.length_yields_le field t (pos + 1) rest
        · simp

namespace BatchList

variable {field : Field} {t : DataType}

/-- A column's batch that passes the stream's checks, and whose export imports as `b`, is
yielded as `b`, its export handed over, and the list goes on. -/
theorem yields_cons_of_import {i : Nat} {c b : Column} {l : BatchList}
    (hgood : Producer.Good field (.ok c)) (himp : c.toNode.importTyped t = .ok b) :
    yields field t i (.ok c :: l) = .ok b :: yields field t (i + 1) l ∧
      handedOver field t i (.ok c :: l) = handedOver field t (i + 1) l + 1 := by
  obtain ⟨a, ha⟩ := hgood.2.2
  have hexp : Producer.exportBatch field i (.ok c) = .ok a := Producer.exportBatch_of_good hgood ha
  have hnode : c.toNode = a := by
    have hd : (∃ u, c.checkExportable = .ok u) ∧ c.toNode = a := by
      simpa [Column.toDescriptor] using ha
    exact hd.2
  subst hnode
  simp only [yields, handedOver, hexp, Column.toNode_released, Bool.false_eq_true, if_false,
    himp, and_self]

/-- A batch that fails the stream's checks ends what is yielded, with the stream's report of
its failure, and nothing of it is handed over. -/
theorem yields_cons_of_bad (i : Nat) (l : BatchList) {b : Except Error Column}
    (hbad : ¬ Producer.Good field b) :
    ∃ e, Producer.exportBatch field i b = .error e ∧
      yields field t i (b :: l) = [.error (.stream ("get_next failed (" ++
        toString (e.errno : Int) ++ "): " ++ Producer.errorText e))] ∧
      handedOver field t i (b :: l) = 0 := by
  obtain ⟨e, he, -⟩ := Producer.exportBatch_of_not_good i hbad
  exact ⟨e, he, by simp only [yields, he], by simp only [handedOver, he]⟩

/-- Columns that all pass the stream's checks and import are yielded as their imports, each
export handed over: here the columns `f x` of the members of a list, related to their imports
by `R`. -/
theorem yields_of_good {α : Type} {f : α → Column} {R : Column → α → Prop} :
    ∀ (i : Nat) {xs : List α}, (∀ x ∈ xs, Producer.Good field (.ok (f x)) ∧
      ∃ b, (f x).toNode.importTyped t = .ok b ∧ R b x) →
        ∃ bs : List Column, yields field t i (xs.map fun x => .ok (f x)) = bs.map .ok ∧
          List.Forall₂ R bs xs ∧ handedOver field t i (xs.map fun x => .ok (f x)) = xs.length
  | _, [], _ => ⟨[], rfl, .nil, rfl⟩
  | i, x :: xs, h => by
    obtain ⟨hgood, b, himp, hR⟩ := h x (List.mem_cons_self ..)
    obtain ⟨bs, hys, hall, hcount⟩ := yields_of_good (i + 1)
      fun x' hx' => h x' (List.mem_cons_of_mem _ hx')
    obtain ⟨hy, hc⟩ := yields_cons_of_import (l := xs.map fun x => .ok (f x)) (i := i) hgood himp
    exact ⟨b :: bs, by rw [List.map_cons, hy, hys]; rfl, .cons hR hall,
      by rw [List.map_cons, hc, hcount, List.length_cons]⟩

/-- Columns yielded up to the first that fails the stream's checks, which ends them with the
stream's report of its failure: what comes after it is never read, and only the exports before
it are handed over. -/
theorem yields_of_first_bad : ∀ (i : Nat) {pre : List Column} {c : Column} {l : List Column},
    (∀ c ∈ pre, Producer.Good field (.ok c) ∧ ∃ b, c.toNode.importTyped t = .ok b) →
    ¬ Producer.Good field (.ok c) →
      ∃ (bs : List Column) (e : Error), Producer.exportBatch field (i + pre.length) (.ok c) =
          .error e ∧
        yields field t i ((pre ++ c :: l).map .ok) = bs.map .ok ++
          [.error (.stream ("get_next failed (" ++ toString (e.errno : Int) ++ "): " ++
            Producer.errorText e))] ∧
        bs.length = pre.length ∧ handedOver field t i ((pre ++ c :: l).map .ok) = pre.length
  | i, [], c, l, _, hbad => by
    obtain ⟨e, he, hys, hcount⟩ := yields_cons_of_bad (t := t) i (l.map .ok) hbad
    exact ⟨[], e, he, hys, rfl, hcount⟩
  | i, c' :: pre, c, l, h, hbad => by
    obtain ⟨hgood, b, himp⟩ := h c' (List.mem_cons_self ..)
    obtain ⟨bs, e, he, hys, hlen, hcount⟩ := yields_of_first_bad (i + 1) (l := l)
      (fun c'' hc'' => h c'' (List.mem_cons_of_mem _ hc'')) hbad
    obtain ⟨hy, hc⟩ := yields_cons_of_import (l := (pre ++ c :: l).map .ok) (i := i) hgood himp
    refine ⟨b :: bs, e, by rw [List.length_cons, ← Nat.add_assoc, Nat.add_right_comm]; exact he,
      ?_, by rw [List.length_cons, List.length_cons, hlen], ?_⟩
    · rw [List.cons_append, List.map_cons, hy, hys]
      rfl
    · rw [List.cons_append, List.map_cons, hc, hcount, List.length_cons]

end BatchList

namespace StreamReader

open Producer

variable {r : StreamReader} {field : Field}

/-- A reader that is not done and holds a live exported stream under `field`, whose batches
still to come are `bs`, from position `pos`. -/
structure Pending (r : StreamReader) (field : Field) (bs : BatchList) (pos : Nat) : Prop where
  not_done : r.done = false
  holds : ∃ p : Producer BatchList, r.stream = .exported p ∧ p.live = true ∧
    p.pull = BatchList.pull ∧ p.field = field ∧ p.phase = .ready bs pos

/-- Closing a reader that holds a live exported stream releases the stream. -/
theorem close_of_exported {p : Producer BatchList} (hdone : r.done = false)
    (hs : r.stream = .exported p) (hlive : p.live = true) :
    r.close.done = true ∧ r.close.stream.isReleased = true := by
  unfold close
  rw [if_neg (by rw [hdone]; exact Bool.false_ne_true)]
  refine ⟨rfl, ?_⟩
  show r.stream.release.isReleased = true
  rw [hs]
  simp [ArrayStream.release, ArrayStream.isReleased, hlive, Producer.release]

/-- A reader of an exported stream under `field` that has still to yield `ys` and to be handed
`k` arrays: once done it yields nothing, is handed nothing, and its stream is released; until
then it holds the live stream, whose batches still to come yield `ys` and hand over `k` arrays. -/
structure Follows (field : Field) (ys : List (Except Error Column)) (k : Nat) (r : StreamReader) :
    Prop where
  finished : r.done = true → ys = [] ∧ k = 0 ∧ r.stream.isReleased = true
  pending : r.done = false → ∃ bs pos, r.Pending field bs pos ∧
    ys = BatchList.yields field r.field.type pos bs ∧
    k = BatchList.handedOver field r.field.type pos bs

theorem follows_of_closed (hdone : r.done = true) (hrel : r.stream.isReleased = true) :
    Follows field [] 0 r :=
  ⟨fun _ => ⟨rfl, rfl, hrel⟩, fun h => absurd (h.symm.trans hdone) Bool.false_ne_true⟩

/-- Letting go of a reader that follows an exported stream releases the stream. -/
theorem Follows.close_released {ys : List (Except Error Column)} {k : Nat}
    (h : Follows field ys k r) : r.close.stream.isReleased = true := by
  cases hdone : r.done
  · obtain ⟨_, _, ⟨-, p, hs, hlive, -⟩, -⟩ := h.pending hdone
    exact (close_of_exported hdone hs hlive).2
  · rw [close_of_done hdone]
    exact (h.finished hdone).2.2

/-- A `next` whose pull keeps the stream live and yields anything but a batch closes the reader
and releases the stream, and records what the pull recorded. -/
theorem next_closes (p' : Producer BatchList) (hdone : r.done = false)
    (hst : r.pull.2.stream = .exported p') (hlive : p'.live = true) (hd : r.pull.2.done = false)
    (hy : isBatch (yieldOfPull r.pull.1) = false) :
    r.next.1 = yieldOfPull r.pull.1 ∧ r.next.2.done = true ∧ r.next.2.stream.isReleased = true ∧
      r.next.2.field = r.pull.2.field ∧ r.next.2.batches = r.pull.2.batches := by
  rw [next_eq hdone]
  dsimp only
  rw [if_neg (by rw [hy]; exact Bool.false_ne_true)]
  have hc := close_of_exported hd hst hlive
  exact ⟨rfl, hc.1, hc.2, close_field _, close_batches _⟩

/-- One `next` of a reader that follows an exported stream yields the first of what it has
still to yield, or `none` once there is nothing, and the reader after it follows the rest; the
arrays it was handed are recorded, one batch each. -/
theorem Follows.next {ys : List (Except Error Column)} {k : Nat} (h : Follows field ys k r) :
    r.next.2.field = r.field ∧ r.next.1 = ys.head? ∧
      (∃ k', Follows field ys.tail k' r.next.2 ∧
        r.next.2.batches.length + k' = r.batches.length + k) ∧
      (ys = [] → r.next.2.done = true) := by
  cases hdone : r.done
  case true =>
    -- a done reader answers nothing and changes nothing
    obtain ⟨rfl, rfl, -⟩ := h.finished hdone
    rw [next_of_done hdone]
    exact ⟨rfl, rfl, ⟨0, h, rfl⟩, fun _ => hdone⟩
  case false =>
  obtain ⟨bs, pos, ⟨-, p, hs, hlive, hpull, hfield, hph⟩, rfl, rfl⟩ := h.pending hdone
  cases bs with
  | nil =>
    -- the end of the list: the reader yields nothing and closes
    have hn : r.stream.getNext? =
        some (.ok ArrayNode.ended, .exported { p with phase := .exhausted }) := by
      simp only [hs, ArrayStream.getNext?, getNext_nil hlive hpull hph]
    have hp := pull_of_ended hn rfl
    obtain ⟨hy, hd, hrel, hfld, hb⟩ := next_closes { p with phase := .exhausted } hdone
      (by rw [hp]) hlive (by rw [hp]; exact hdone) (by rw [hp]; rfl)
    rw [hp] at hy hfld hb
    exact ⟨hfld, hy, ⟨0, follows_of_closed hd hrel, by rw [hb]; rfl⟩, fun _ => hd⟩
  | cons b rest =>
    cases hexp : exportBatch field pos b with
    | error e =>
      -- a batch that fails to export fails the stream, and the reader quotes its error
      obtain ⟨p', hgn, hlive', htext⟩ := getNext_cons_error hlive hpull hph (hfield ▸ hexp)
      have hn : r.stream.getNext? = some (.error e.errno, .exported p') := by
        simp only [hs, ArrayStream.getNext?, hgn]
      have hp := pull_of_error hn
      obtain ⟨hy, hd, hrel, hfld, hb⟩ := next_closes p' hdone (by rw [hp]) hlive'
        (by rw [hp]; exact hdone) (by rw [hp]; rfl)
      rw [hp] at hy hfld hb
      simp only [BatchList.yields, BatchList.handedOver, hexp]
      refine ⟨hfld, ?_, ⟨0, follows_of_closed hd hrel, by rw [hb]⟩,
        fun h' => absurd h' (List.cons_ne_nil _ _)⟩
      rw [hy]
      simp only [yieldOfPull, ArrayStream.errorText, ArrayStream.lastError?, htext,
        List.head?_cons]
    | ok a =>
      have hn : r.stream.getNext? =
          some (.ok a, .exported { p with phase := .ready rest (pos + 1) }) := by
        simp only [hs, ArrayStream.getNext?, getNext_cons_ok hlive hpull hph (hfield ▸ hexp)]
      cases hrel : a.released
      case true =>
        -- a released array is the end of the stream
        have hp := pull_of_ended hn hrel
        obtain ⟨hy, hd, hrel', hfld, hb⟩ := next_closes { p with phase := .ready rest (pos + 1) }
          hdone (by rw [hp]) hlive (by rw [hp]; exact hdone) (by rw [hp]; rfl)
        rw [hp] at hy hfld hb
        simp only [BatchList.yields, BatchList.handedOver, hexp, hrel, if_true]
        exact ⟨hfld, hy, ⟨0, follows_of_closed hd hrel', by rw [hb]⟩, fun _ => hd⟩
      case false =>
      have hp := pull_of_batch hn hrel
      cases himp : a.importTyped r.field.type with
      | error e =>
        -- a batch that fails to import is the reader's last, and was handed over
        obtain ⟨hy, hd, hrel', hfld, hb⟩ := next_closes { p with phase := .ready rest (pos + 1) }
          hdone (by rw [hp, importBatch_stream]) hlive (by rw [hp, importBatch_done]; exact hdone)
          (by rw [hp, himp]; rfl)
        rw [hp, himp] at hy
        rw [hp, importBatch_field] at hfld
        rw [hp, importBatch_batches] at hb
        simp only [BatchList.yields, BatchList.handedOver, hexp, hrel, Bool.false_eq_true,
          if_false, himp]
        refine ⟨hfld, hy, ⟨0, follows_of_closed hd hrel', ?_⟩,
          fun h' => absurd h' (List.cons_ne_nil _ _)⟩
        rw [hb, List.length_append, List.length_singleton]
      | ok c =>
        -- an imported batch is handed out and the reader goes on with the rest of the list
        have hnext : r.next = (some (.ok c), r.pull.2) := by
          rw [next_eq hdone, hp, himp]
          rfl
        have hfld : r.pull.2.field = r.field := by rw [hp, importBatch_field]
        have hd : r.pull.2.done = false := by rw [hp, importBatch_done]; exact hdone
        have hst : r.pull.2.stream = .exported { p with phase := .ready rest (pos + 1) } := by
          rw [hp, importBatch_stream]
        have hb : r.pull.2.batches.length = r.batches.length + 1 := by
          rw [hp, importBatch_batches, List.length_append, List.length_singleton]
        rw [hnext]
        simp only [BatchList.yields, BatchList.handedOver, hexp, hrel, Bool.false_eq_true,
          if_false, himp]
        refine ⟨hfld, rfl, ⟨BatchList.handedOver field r.field.type (pos + 1) rest,
          ⟨fun h' => absurd (hd.symm.trans h') Bool.false_ne_true, fun _ => ?_⟩, by omega⟩,
          fun h' => absurd h' (List.cons_ne_nil _ _)⟩
        exact ⟨rest, pos + 1, ⟨hd, _, hst, hlive, hpull, hfield, rfl⟩, by rw [hfld]; rfl,
          by rw [hfld]⟩

/-- What a reader that follows an exported stream yields one call after another is what it has
still to yield, then nothing. -/
theorem Follows.nextYields : ∀ (i : Nat) {ys : List (Except Error Column)} {k : Nat}
    {r : StreamReader}, Follows field ys k r → r.nextYields i = ys[i]?
  | 0, ys, _, _, h => by
    rw [StreamReader.nextYields, h.next.2.1]
    cases ys <;> rfl
  | i + 1, ys, _, _, h => by
    obtain ⟨-, -, ⟨k', h', -⟩, -⟩ := h.next
    rw [StreamReader.nextYields, Follows.nextYields i h']
    cases ys <;> simp

/-- With more fuel than it has still to yield, a reader that follows an exported stream yields
all of it, is handed all it has still to be handed, and is left done, its stream released. -/
theorem Follows.readFuel : ∀ (fuel : Nat) {ys : List (Except Error Column)} {k : Nat}
    {r : StreamReader}, Follows field ys k r → ys.length < fuel →
      (r.readFuel fuel).1 = ys ∧ (r.readFuel fuel).2.field = r.field ∧
        (r.readFuel fuel).2.done = true ∧ (r.readFuel fuel).2.stream.isReleased = true ∧
        (r.readFuel fuel).2.batches.length = r.batches.length + k
  | 0, _, _, _, _, hlt => absurd hlt (Nat.not_lt_zero _)
  | fuel + 1, ys, k, r, h, hlt => by
    obtain ⟨hfld, hhead, ⟨k', htail, hcount⟩, hdone⟩ := h.next
    unfold StreamReader.readFuel
    cases ys with
    | nil =>
      -- the end: nothing more is read
      rw [show r.next = (none, r.next.2) from Prod.ext hhead rfl]
      obtain ⟨-, rfl, hrel⟩ := htail.finished (hdone rfl)
      exact ⟨rfl, hfld, hdone rfl, hrel, hcount⟩
    | cons y ys =>
      rw [show r.next = (some y, r.next.2) from Prod.ext hhead rfl]
      obtain ⟨h1, h2, h3, h4, h5⟩ := Follows.readFuel fuel htail (by simpa using hlt)
      dsimp only
      generalize StreamReader.readFuel fuel r.next.2 = q at h1 h2 h3 h4 h5
      obtain ⟨rest, r'⟩ := q
      exact ⟨congrArg (y :: ·) h1, h2.trans hfld, h3, h4, by rw [h5]; omega⟩

/-- With more fuel than it has still to yield, a reader that follows an exported stream reads
tables up to the first batch that does not become one, and letting it go releases the
stream. -/
theorem Follows.readTablesFuel (name : String) (md : Metadata) :
    ∀ (fuel : Nat) {ys : List (Except Error Column)} {k : Nat} {r : StreamReader},
      Follows field ys k r → ys.length < fuel →
        (r.readTablesFuel name md fuel).1 =
            ys.mapM (fun b => do Table.ofStruct name (← b) md) ∧
          (r.readTablesFuel name md fuel).2.field = r.field ∧
          (r.readTablesFuel name md fuel).2.close.stream.isReleased = true
  | 0, _, _, _, _, hlt => absurd hlt (Nat.not_lt_zero _)
  | fuel + 1, ys, k, r, h, hlt => by
    obtain ⟨hfld, hhead, ⟨k', htail, -⟩, -⟩ := h.next
    unfold StreamReader.readTablesFuel
    cases ys with
    | nil =>
      rw [show r.next = (none, r.next.2) from Prod.ext hhead rfl]
      exact ⟨rfl, hfld, htail.close_released⟩
    | cons y ys =>
      rw [List.tail_cons] at htail
      rw [show r.next = (some y, r.next.2) from Prod.ext hhead rfl]
      dsimp only
      rw [List.mapM_cons]
      -- a batch that does not become a table is the read's error; one that does goes on
      cases hy : y >>= fun c => Table.ofStruct name c md with
      | error e => exact ⟨rfl, hfld, htail.close_released⟩
      | ok tb =>
        obtain ⟨h1, h2, h3⟩ := Follows.readTablesFuel name md fuel htail (by simpa using hlt)
        dsimp only
        generalize StreamReader.readTablesFuel name md fuel r.next.2 = q at h1 h2 h3
        obtain ⟨rest, r'⟩ := q
        refine ⟨?_, h2.trans hfld, h3⟩
        dsimp only at h1 ⊢
        rw [h1]
        cases ys.mapM (fun b => do Table.ofStruct name (← b) md) <;> rfl

theorem Follows.length_le_budget {ys : List (Except Error Column)} {k : Nat}
    (h : Follows field ys k r) : ys.length ≤ r.stream.budget := by
  cases hdone : r.done
  case true =>
    rw [(h.finished hdone).1]
    exact Nat.zero_le _
  case false =>
    obtain ⟨bs, pos, ⟨-, p, hs, -, -, -, hph⟩, rfl, -⟩ := h.pending hdone
    rw [hs]
    simp only [ArrayStream.budget, hph]
    exact Nat.le_succ_of_le (BatchList.length_yields_le ..)

/-- Reading a stream that the reader follows to its end yields all it has still to yield,
records all the arrays it has still to be handed, and releases the stream. -/
theorem Follows.readAll {ys : List (Except Error Column)} {k : Nat} (h : Follows field ys k r) :
    r.readAll.1 = ys ∧ r.readAll.2.field = r.field ∧ r.readAll.2.stream.isReleased = true ∧
      r.readAll.2.batches.length = r.batches.length + k := by
  obtain ⟨h1, h2, h3, h4, h5⟩ :=
    h.readFuel (r.stream.budget + 1) (Nat.lt_succ_of_le h.length_le_budget)
  unfold StreamReader.readAll
  generalize r.readFuel (r.stream.budget + 1) = q at h1 h2 h3 h4 h5
  obtain ⟨ys', r'⟩ := q
  dsimp only at h1 h2 h3 h4 h5 ⊢
  rw [close_of_done h3]
  exact ⟨h1, h2, h4, h5⟩

/-- Opening a live exported stream that has not failed reads its field back from its schema,
and the reader follows the stream from there, having imported nothing and asked for nothing. -/
theorem start_exported {p : Producer BatchList} (hlive : p.live = true)
    (hpull : p.pull = BatchList.pull) {bs : BatchList} {pos : Nat} (hph : p.phase = .ready bs pos)
    {node : SchemaNode} (hsch : SchemaNode.ofField p.field = .ok node) {f : Field}
    (hf : node.toField = .ok f) :
    ∃ r, start (.exported p) = .ok r ∧ r.field = f ∧ r.batches = [] ∧ r.asked = 0 ∧
      Follows p.field (BatchList.yields p.field f.type pos bs)
        (BatchList.handedOver p.field f.type pos bs) r := by
  refine ⟨⟨.exported p, f, false, Ledger.schema {} node, {}, [], 0⟩, ?_, rfl, rfl, rfl,
    ⟨fun h => absurd h Bool.false_ne_true,
      fun _ => ⟨bs, pos, ⟨rfl, p, rfl, hlive, hpull, rfl, hph⟩, rfl, rfl⟩⟩⟩
  simp only [start, ArrayStream.isReleased, hlive, Bool.not_true, Bool.false_eq_true, if_false,
    ArrayStream.getSchema?, Producer.getSchema_ready hlive hph hsch, hf]

end StreamReader

section Drivers

variable {p : Producer BatchList} {bs : BatchList} {pos : Nat} {node : SchemaNode} {f : Field}

/-- Reading a live exported stream to the end as a chunked series: the batches it yields,
checked as chunks of its field read back and materialised; the stream is released; every array
it hands over is recorded, and owes its release once; and no batch is asked for past the first
yield that is not one. -/
theorem importChunkedStream_exported (hlive : p.live = true) (hpull : p.pull = BatchList.pull)
    (hph : p.phase = .ready bs pos) (hsch : SchemaNode.ofField p.field = .ok node)
    (hf : node.toField = .ok f) :
    (importChunkedStream (.exported p)).1 =
        ((BatchList.yields p.field f.type pos bs).mapM id >>= ChunkedSeries.ofChunks f.materialise) ∧
      (importChunkedStream (.exported p)).2.stream.isReleased = true ∧
      (importChunkedStream (.exported p)).2.batches.length =
        BatchList.handedOver p.field f.type pos bs ∧
      (∀ h ∈ (importChunkedStream (.exported p)).2.batches, h.OwesOnce) ∧
      ∀ k, isBatch (BatchList.yields p.field f.type pos bs)[k]? = false →
        (importChunkedStream (.exported p)).2.asked ≤ k + 1 := by
  obtain ⟨r, hstart, rfl, hnil, hasked, hfollow⟩ := StreamReader.start_exported hlive hpull hph hsch hf
  obtain ⟨h1, -, h3, h4⟩ := hfollow.readAll
  have howe : r.BatchesOwe := fun _ hh => by rw [hnil] at hh; cases hh
  have howe' := StreamReader.readFuel_preserves (fun _ h => StreamReader.BatchesOwe.next h)
    (r.stream.budget + 1) howe
  have hstop : ∀ k, isBatch (BatchList.yields p.field r.field.type pos bs)[k]? = false →
      (r.readFuel (r.stream.budget + 1)).2.asked ≤ k + 1 := fun k hk => by
    have := StreamReader.readFuel_asked (r.stream.budget + 1) k r (by rw [hfollow.nextYields k]; exact hk)
    rwa [hasked, Nat.zero_add] at this
  rw [hnil, List.length_nil, Nat.zero_add] at h4
  unfold importChunkedStream StreamReader.collect
  rw [hstart]
  dsimp only
  rw [h1]
  refine ⟨rfl, h3, h4, ?_, fun k hk => ?_⟩
  · rw [StreamReader.readAll_snd]
    exact howe'.close
  · rw [StreamReader.readAll_snd]
    exact (StreamReader.close_asked _).trans_le (hstop k hk)

/-- Reading a live exported stream of record batches to the end: the batches it yields, each
read as a table under the batch name and schema of its field read back and materialised; the
stream is released. -/
theorem readTables_exported (hlive : p.live = true) (hpull : p.pull = BatchList.pull)
    (hph : p.phase = .ready bs pos) (hsch : SchemaNode.ofField p.field = .ok node)
    (hf : node.toField = .ok f) {name : String} {schema : Schema}
    (hroot : Schema.ofRootField f.materialise = .ok (name, schema)) :
    (readTables (.exported p)).1 =
        ((BatchList.yields p.field f.type pos bs).mapM
          (fun b => do Table.ofStruct name (← b) schema.metadata)).map
          (fun ts => (name, schema, ts)) ∧
      (readTables (.exported p)).2.stream.isReleased = true := by
  obtain ⟨r, hstart, rfl, -, -, hfollow⟩ := StreamReader.start_exported hlive hpull hph hsch hf
  obtain ⟨h1, -, h3⟩ := hfollow.readTablesFuel name schema.metadata (r.stream.budget + 1)
    (Nat.lt_succ_of_le hfollow.length_le_budget)
  unfold readTables
  rw [hstart]
  dsimp only
  rw [hroot]
  dsimp only
  generalize StreamReader.readTablesFuel name schema.metadata (r.stream.budget + 1) r = q at h1 h3
  obtain ⟨tables, r'⟩ := q
  dsimp only at h1 h3 ⊢
  rw [h1]
  exact ⟨rfl, h3⟩

end Drivers

end Columnar
