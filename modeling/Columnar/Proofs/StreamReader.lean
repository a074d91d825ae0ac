import Columnar.Stream.Reader
import Columnar.Proofs.Release

/-!
# A stream reader releases its stream exactly once

A consumer opens a foreign stream with `StreamReader.start`, calls `next` and `close` in any
order, and lets the reader go, which closes it. The stream follows a script: a schema, then an
answer for each `get_next` call, without end: hand over an array, signal the end, or fail with
a code. Whatever the script and whatever the calls:

* opening a stream that fails releases it before the error is returned;
* the reader is done exactly when its stream was released, and the stream's release
  callback has run once by then and never before: at the first `next` that yields the end
  or an error, or at the first `close`, or when the reader is let go;
* once done, the reader answers `none` and changes nothing, so no callback of the stream runs
  after its release;
* `next` yields the script's batches imported under the field's type, in order, up to its
  end, or up to its first failure, which it yields once, and then nothing for ever
  (`ScriptedStream.yields`);
* every batch the reader imported owes the release of its array once (`Holders.OwesOnce`).

The drivers that read a whole stream into tables or chunks release it once too, whether
they succeed or stop at an error, and ask for no batch after the first that ends their read.

The proof follows the reader with an invariant, `Tracks`: what the reader has still to
yield, and that its stream was released once exactly when the reader is done. `next` keeps
it and yields the first item (`Tracks.next`), `close` keeps it and empties what is left
(`Tracks.close`); the run lemma follows by induction on the calls. What holds of a reader
whatever its stream (the batches it owes, the calls it makes) is kept by `next` and `close`
alone, and so by every run and every driver (`runCalls_preserves`, `readFuel_preserves`,
`readTablesFuel_preserves`).
-/

namespace Columnar

namespace Ledger

@[simp] theorem streams_array (l : Ledger) (a : ArrayNode) : (l.array a).streams = l.streams := by
  unfold array
  split <;> rfl

@[simp] theorem streams_arrayList (l : Ledger) (as : List ArrayNode) :
    (l.arrayList as).streams = l.streams := by
  induction as generalizing l with
  | nil => rfl
  | cons a as ih => exact (ih (l.array a)).trans (streams_array l a)

@[simp] theorem streams_schema (l : Ledger) (n : SchemaNode) :
    (l.schema n).streams = l.streams := by
  unfold schema
  split <;> rfl

@[simp] theorem streams_stream (l : Ledger) : l.stream.streams = l.streams + 1 := rfl

end Ledger

@[simp] theorem ArrayNode.ended_released : ArrayNode.ended.released = true := rfl

/-- A yield after which a reader reads on: an imported batch. -/
def isBatch : Option (Except Error Column) → Bool
  | some (.ok _) => true
  | _ => false

theorem isBatch_eq_false_iff {y : Option (Except Error Column)} :
    isBatch y = false ↔ ∀ c, y ≠ some (.ok c) := by
  rcases y with _ | (e | c) <;> simp [isBatch]

/-- What a step of a script answers `get_next`. -/
def Step.reply : Step → Reply ArrayNode
  | .batch a => .ok a
  | .finish => .ok ArrayNode.ended
  | .fail code => .error code

namespace ScriptedStream

/-- What `next` yields for one answer of a script under a field type: a batch imported, nothing
at the end (an array without its release callback is an end too), or the failure, quoted with
`quoted`, the stream's last error as the consumer reads it. -/
def yieldOf (t : DataType) (quoted : String) : Step → Option (Except Error Column)
  | .batch a => if a.released then none else some (a.importTyped t)
  | .finish => none
  | .fail code => some (.error (.stream ("get_next failed (" ++ toString code ++ "): " ++ quoted)))

/-- What the `i`-th `get_next` from now yields over the answers of a script: each batch imported
in order, up to the first end or failure; a failure is yielded, and nothing comes after either. -/
def yieldsOf (t : DataType) (quoted : String) :
    (Nat → Step) → Nat → Option (Except Error Column)
  | steps, 0 => yieldOf t quoted (steps 0)
  | steps, i + 1 =>
    if isBatch (yieldOf t quoted (steps 0)) then yieldsOf t quoted (fun j => steps (j + 1)) i
    else none

/-- What the `i`-th `next` from now yields over a script: the yields of its answers, or the
missing callback, once. -/
def yields (t : DataType) (s : ScriptedStream) : Nat → Option (Except Error Column) :=
  if s.hasGetNext then yieldsOf t (ArrayStream.scripted s).errorText s.steps
  else fun i => if i = 0 then some (.error (.nullPointer "ArrowArrayStream.get_next")) else none

variable {s : ScriptedStream} {t : DataType} {quoted : String} {steps : Nat → Step}

@[simp] theorem yieldsOf_zero : yieldsOf t quoted steps 0 = yieldOf t quoted (steps 0) := rfl

theorem yieldsOf_succ (i : Nat) : yieldsOf t quoted steps (i + 1) =
    if isBatch (yieldOf t quoted (steps 0)) then yieldsOf t quoted (fun j => steps (j + 1)) i
    else none := rfl

/-- The text a consumer quotes for a script's last error does not depend on its answers. -/
@[simp] theorem errorText_advance (s : ScriptedStream) :
    (ArrayStream.scripted s.advance).errorText = (ArrayStream.scripted s).errorText := rfl

@[simp] theorem hasGetNext_advance (s : ScriptedStream) : s.advance.hasGetNext = s.hasGetNext := rfl

theorem yields_of_getNext (hg : s.hasGetNext = true) :
    s.yields t = yieldsOf t (ArrayStream.scripted s).errorText s.steps := by
  simp only [yields, hg, if_true]

/-- After a batch, what is left to yield is what the script after its answer yields. -/
theorem yields_succ (h : isBatch (s.yields t 0) = true) (i : Nat) :
    s.yields t (i + 1) = s.advance.yields t i := by
  cases hg : s.hasGetNext
  · simp [yields, hg, isBatch] at h
  · rw [yields_of_getNext hg, yieldsOf_zero] at h
    rw [yields_of_getNext hg, yields_of_getNext (s := s.advance) hg, yieldsOf_succ, if_pos h,
      errorText_advance]
    rfl

/-- After anything but a batch, nothing more is yielded. -/
theorem yields_succ_of_stop (h : isBatch (s.yields t 0) = false) (i : Nat) :
    s.yields t (i + 1) = none := by
  cases hg : s.hasGetNext
  · simp [yields, hg]
  · rw [yields_of_getNext hg, yieldsOf_zero] at h
    rw [yields_of_getNext hg, yieldsOf_succ, h, if_neg Bool.false_ne_true]

/-- A script's yields settle: after the end or a failure, only nothing. -/
theorem yields_settle : ∀ (i : Nat) {s : ScriptedStream}, isBatch (s.yields t i) = false →
    ∀ j, i < j → s.yields t j = none
  | i, s, h, 0, hij => absurd hij (Nat.not_lt_zero i)
  | 0, s, h, j + 1, _ => yields_succ_of_stop h j
  | i + 1, s, h, j + 1, hij => by
    -- the first yield either stops the script, or the rest is the script after it
    cases h0 : isBatch (s.yields t 0)
    · exact yields_succ_of_stop h0 j
    · rw [yields_succ h0] at h ⊢
      exact yields_settle i h j (by omega)

/-- A live script answers its first step and moves on by one. -/
theorem getNext_of_live (hlive : s.live = true) : s.getNext = ((s.steps 0).reply, s.advance) := by
  unfold getNext
  rw [if_neg (by rw [hlive]; exact Bool.false_ne_true)]
  cases s.steps 0 <;> rfl

theorem release_of_live (hlive : s.live = true) :
    s.release.live = false ∧ s.release.ledger.streams = s.ledger.streams + 1 := by
  unfold release
  rw [if_neg (by rw [hlive]; exact Bool.false_ne_true)]
  refine ⟨rfl, ?_⟩
  dsimp only
  split <;> simp

end ScriptedStream

namespace StreamReader

open ScriptedStream

/-- A stream released once more than `n` times: its release callback ran and is gone. -/
def ReleasedOnce (n : Nat) (st : ArrayStream) : Prop :=
  st.isReleased = true ∧ st.ledger.streams = n + 1

variable {r : StreamReader} {s : ScriptedStream}

/-- Releasing a live script releases it once more. -/
theorem releasedOnce_release (hlive : s.live = true) :
    ReleasedOnce s.ledger.streams (.scripted s.release) := by
  obtain ⟨hrel, hcount⟩ := release_of_live hlive
  refine ⟨?_, hcount⟩
  simp only [ArrayStream.isReleased, hrel, Bool.not_false]

/-! ## One call, whatever the stream -/

/-- What `next` yields for what `pull` answered. -/
def yieldOfPull : Except Error (Option Column) → Option (Except Error Column)
  | .ok none => none
  | .ok (some c) => some (.ok c)
  | .error e => some (.error e)

@[simp] theorem close_field (r : StreamReader) : r.close.field = r.field := by
  unfold close
  split <;> rfl

@[simp] theorem close_batches (r : StreamReader) : r.close.batches = r.batches := by
  unfold close
  split <;> rfl

@[simp] theorem close_asked (r : StreamReader) : r.close.asked = r.asked := by
  unfold close
  split <;> rfl

@[simp] theorem close_done (r : StreamReader) : r.close.done = true := by
  unfold close
  split
  · assumption
  · rfl

theorem next_of_done (hdone : r.done = true) : r.next = (none, r) := by
  simp only [next, hdone, if_true]

theorem close_of_done (hdone : r.done = true) : r.close = r := by
  simp only [close, hdone, if_true]

/-- `next` yields what `pull` answered, and closes the reader unless it was a batch. -/
theorem next_eq (hdone : r.done = false) :
    r.next = (yieldOfPull r.pull.1,
      if isBatch (yieldOfPull r.pull.1) then r.pull.2 else r.pull.2.close) := by
  unfold next
  rw [if_neg (by rw [hdone]; exact Bool.false_ne_true)]
  generalize r.pull = p
  rcases p with ⟨e | _ | c, r'⟩ <;> rfl

/-- A `next` that yields anything but a batch leaves the reader done. -/
theorem next_done_of_stop (h : isBatch r.next.1 = false) : r.next.2.done = true := by
  cases hdone : r.done
  · rw [next_eq hdone] at h ⊢
    dsimp only at h ⊢
    rw [h, if_neg Bool.false_ne_true]
    exact close_done _
  · rw [next_of_done hdone]
    exact hdone

@[simp] theorem importBatch_stream (r : StreamReader) (a : ArrayNode) :
    (r.importBatch a).2.stream = r.stream := by
  unfold importBatch
  dsimp only
  split <;> rfl

@[simp] theorem importBatch_field (r : StreamReader) (a : ArrayNode) :
    (r.importBatch a).2.field = r.field := by
  unfold importBatch
  dsimp only
  split <;> rfl

@[simp] theorem importBatch_done (r : StreamReader) (a : ArrayNode) :
    (r.importBatch a).2.done = r.done := by
  unfold importBatch
  dsimp only
  split <;> rfl

@[simp] theorem importBatch_asked (r : StreamReader) (a : ArrayNode) :
    (r.importBatch a).2.asked = r.asked := by
  unfold importBatch
  dsimp only
  split <;> rfl

/-- Importing a batch records what holds it at the import's return. -/
theorem importBatch_batches (r : StreamReader) (a : ArrayNode) :
    (r.importBatch a).2.batches = r.batches ++ [(a.typedRun r.field.type).holders] := by
  unfold importBatch
  dsimp only
  split <;> rfl

theorem importBatch_fst (r : StreamReader) (a : ArrayNode) :
    (r.importBatch a).1 = a.importTyped r.field.type := by
  unfold importBatch
  dsimp only
  split <;> exact ArrayNode.typedRun_result a _

section Pull

variable {a : ArrayNode} {st : ArrayStream}

/-- Without `get_next` the pull fails and nothing changes. -/
theorem pull_of_none (h : r.stream.getNext? = none) :
    r.pull = (.error (.nullPointer "ArrowArrayStream.get_next"), r) := by
  simp only [pull, h]

/-- A failed `get_next` is reported with the stream's last error. -/
theorem pull_of_error {code : Int} (h : r.stream.getNext? = some (.error code, st)) :
    r.pull = (.error (.stream ("get_next failed (" ++ toString code ++ "): " ++ st.errorText)),
      { r with stream := st, asked := r.asked + 1 }) := by
  simp only [pull, h]

/-- An array without its release callback is the end. -/
theorem pull_of_ended (h : r.stream.getNext? = some (.ok a, st)) (hrel : a.released = true) :
    r.pull = (.ok none, { r with stream := st, asked := r.asked + 1 }) := by
  simp only [pull, h, hrel, if_true]

/-- A live array is imported under the field's type. -/
theorem pull_of_batch (h : r.stream.getNext? = some (.ok a, st)) (hrel : a.released = false) :
    r.pull = ((a.importTyped r.field.type).map some,
      ({ r with stream := st, asked := r.asked + 1 }.importBatch a).2) := by
  have hfst := importBatch_fst { r with stream := st, asked := r.asked + 1 } a
  simp only [pull, h, hrel, Bool.false_eq_true, if_false]
  revert hfst
  generalize ({ r with stream := st, asked := r.asked + 1 }.importBatch a) = q
  obtain ⟨c, r'⟩ := q
  intro hfst
  dsimp only at hfst ⊢
  rw [hfst]

/-- A pull makes one `get_next` call at most. -/
theorem pull_asked (r : StreamReader) : r.pull.2.asked ≤ r.asked + 1 := by
  rcases hn : r.stream.getNext? with _ | ⟨code | a, st⟩
  · rw [pull_of_none hn]
    exact Nat.le_succ _
  · rw [pull_of_error hn]
  · cases hrel : a.released
    · rw [pull_of_batch hn hrel, importBatch_asked]
    · rw [pull_of_ended hn hrel]

end Pull

theorem next_asked (r : StreamReader) : r.next.2.asked ≤ r.asked + 1 := by
  cases hdone : r.done
  · rw [next_eq hdone]
    dsimp only
    split
    · exact pull_asked r
    · rw [close_asked]
      exact pull_asked r
  · rw [next_of_done hdone]
    exact Nat.le_succ _

/-- Every batch a reader imported owes the release of its array once. -/
def BatchesOwe (r : StreamReader) : Prop :=
  ∀ h ∈ r.batches, h.OwesOnce

theorem BatchesOwe.pull (hr : r.BatchesOwe) : r.pull.2.BatchesOwe := by
  rcases hn : r.stream.getNext? with _ | ⟨code | a, st⟩
  · rw [pull_of_none hn]
    exact hr
  · rw [pull_of_error hn]
    exact hr
  · cases hrel : a.released
    · -- only a live array is imported, and its import owes its release once
      rw [pull_of_batch hn hrel]
      intro h hh
      rw [importBatch_batches] at hh
      rcases List.mem_append.1 hh with hh | hh
      · exact hr h hh
      · rw [List.mem_singleton.1 hh]
        exact ArrayNode.typedRun_owesOnce hrel _
    · rw [pull_of_ended hn hrel]
      exact hr

theorem BatchesOwe.close (hr : r.BatchesOwe) : r.close.BatchesOwe := by
  unfold BatchesOwe
  rw [close_batches]
  exact hr

theorem BatchesOwe.next (hr : r.BatchesOwe) : r.next.2.BatchesOwe := by
  cases hdone : r.done
  · rw [next_eq hdone]
    dsimp only
    split
    · exact hr.pull
    · exact hr.pull.close
  · rw [next_of_done hdone]
    exact hr

/-! ## Runs of calls, whatever the stream -/

/-- A call a consumer makes on a reader. -/
inductive Call where
  | next
  | close
  deriving DecidableEq

/-- Runs calls on a reader: what each `next` yields, and the reader after them. -/
def runCalls : List Call → StreamReader → List (Option (Except Error Column)) × StreamReader
  | [], r => ([], r)
  | .next :: calls, r => (r.next.1 :: (runCalls calls r.next.2).1, (runCalls calls r.next.2).2)
  | .close :: calls, r => runCalls calls r.close

/-- What the reader's `next` calls yield from now on, one call after another. -/
def nextYields : StreamReader → Nat → Option (Except Error Column)
  | r, 0 => r.next.1
  | r, i + 1 => nextYields r.next.2 i

section Preserved

variable {P : StreamReader → Prop}

/-- What `next` and `close` keep holds after any run of calls. -/
theorem runCalls_preserves (hnext : ∀ r, P r → P r.next.2) (hclose : ∀ r, P r → P r.close) :
    ∀ (calls : List Call) {r : StreamReader}, P r → P (r.runCalls calls).2
  | [], _, h => h
  | .next :: calls, r, h => runCalls_preserves hnext hclose calls (hnext r h)
  | .close :: calls, r, h => runCalls_preserves hnext hclose calls (hclose r h)

/-- What `next` keeps holds after reading to the end. -/
theorem readFuel_preserves (hnext : ∀ r, P r → P r.next.2) :
    ∀ (fuel : Nat) {r : StreamReader}, P r → P (r.readFuel fuel).2
  | 0, _, h => h
  | fuel + 1, r, h => by
    have h' := hnext r h
    unfold readFuel
    rcases hn : r.next with ⟨_ | b, r'⟩
    · rw [hn] at h'
      exact h'
    · rw [hn] at h'
      have ih := readFuel_preserves hnext fuel h'
      dsimp only
      generalize r'.readFuel fuel = q at ih ⊢
      obtain ⟨rest, r''⟩ := q
      exact ih

/-- What `next` keeps holds after reading tables. -/
theorem readTablesFuel_preserves (hnext : ∀ r, P r → P r.next.2) (name : String)
    (md : Metadata) :
    ∀ (fuel : Nat) {r : StreamReader}, P r → P (r.readTablesFuel name md fuel).2
  | 0, _, h => h
  | fuel + 1, r, h => by
    have h' := hnext r h
    unfold readTablesFuel
    rcases hn : r.next with ⟨_ | b, r'⟩
    · rw [hn] at h'
      exact h'
    · rw [hn] at h'
      dsimp only
      cases b >>= fun c => Table.ofStruct name c md with
      | error e => exact h'
      | ok tb =>
        have ih := readTablesFuel_preserves hnext name md fuel h'
        dsimp only
        generalize r'.readTablesFuel name md fuel = q at ih ⊢
        obtain ⟨rest, r''⟩ := q
        exact ih

end Preserved

theorem readFuel_of_done (hdone : r.done = true) : ∀ fuel : Nat, r.readFuel fuel = ([], r)
  | 0 => rfl
  | _ + 1 => by simp only [readFuel, next_of_done hdone]

theorem readAll_snd (r : StreamReader) :
    r.readAll.2 = (r.readFuel (r.stream.budget + 1)).2.close := rfl

/-- Reading to the end asks for no batch past the first yield that ends the read: with `k`
yields before it, it makes at most `k + 1` `get_next` calls. -/
theorem readFuel_asked : ∀ (fuel k : Nat) (r : StreamReader), isBatch (r.nextYields k) = false →
    (r.readFuel fuel).2.asked ≤ r.asked + k + 1
  | 0, _, _, _ => by simp only [readFuel]; omega
  | fuel + 1, k, r, hk => by
    have ha := next_asked r
    have hstop : isBatch r.next.1 = false → r.next.2.done = true := next_done_of_stop
    unfold readFuel
    rcases hn : r.next with ⟨_ | b, r'⟩
    · rw [hn] at ha
      dsimp only at ha ⊢
      omega
    · rw [hn] at ha hstop
      dsimp only at ha hstop ⊢
      cases k with
      | zero =>
        -- the first yield ends the read: the reader is done and asks for nothing more
        have hk' : isBatch r.next.1 = false := hk
        rw [hn] at hk'
        rw [readFuel_of_done (hstop hk')]
        dsimp only
        omega
      | succ k =>
        have hk' : isBatch (r.next.2.nextYields k) = false := hk
        rw [hn] at hk'
        have ih := readFuel_asked fuel k r' hk'
        generalize r'.readFuel fuel = q at ih ⊢
        obtain ⟨rest, r''⟩ := q
        dsimp only at ih ⊢
        omega

/-- Reading tables asks for no batch past the first that does not become a table: with `k`
yields before it, it makes at most `k + 1` `get_next` calls. -/
theorem readTablesFuel_asked (name : String) (md : Metadata) :
    ∀ (fuel k : Nat) (r : StreamReader),
      (∀ c tb, r.nextYields k = some (.ok c) → Table.ofStruct name c md ≠ .ok tb) →
      (r.readTablesFuel name md fuel).2.asked ≤ r.asked + k + 1
  | 0, _, _, _ => by simp only [readTablesFuel]; omega
  | fuel + 1, k, r, hk => by
    have ha := next_asked r
    unfold readTablesFuel
    rcases hn : r.next with ⟨_ | b, r'⟩
    · rw [hn] at ha
      dsimp only at ha ⊢
      omega
    · rw [hn] at ha
      dsimp only at ha ⊢
      cases hb : b >>= fun c => Table.ofStruct name c md with
      | error e =>
        dsimp only
        omega
      | ok tb =>
        obtain ⟨c, rfl, htb⟩ := Except.bind_eq_ok.1 hb
        cases k with
        | zero =>
          -- the first yield became a table, so it is not the one that stops the read
          have hy : r.nextYields 0 = some (.ok c) := by
            show r.next.1 = _
            rw [hn]
          exact absurd htb (hk c tb hy)
        | succ k =>
          have hk' : ∀ c tb, r'.nextYields k = some (.ok c) →
              Table.ofStruct name c md ≠ .ok tb := by
            intro c' tb' h'
            have h'' : r.nextYields (k + 1) = some (.ok c') := by
              show r.next.2.nextYields k = _
              rw [hn]
              exact h'
            exact hk c' tb' h''
          have ih := readTablesFuel_asked name md fuel k r' hk'
          dsimp only
          generalize r'.readTablesFuel name md fuel = q at ih ⊢
          obtain ⟨rest, r''⟩ := q
          dsimp only at ih ⊢
          omega

/-! ## One call on a scripted stream -/

/-- Closing a reader that is not done releases its stream. -/
theorem close_of_scripted (hdone : r.done = false) (hs : r.stream = .scripted s) :
    r.close.done = true ∧ r.close.stream = .scripted s.release := by
  unfold close
  rw [if_neg (by rw [hdone]; exact Bool.false_ne_true)]
  refine ⟨rfl, ?_⟩
  show r.stream.release = _
  rw [hs]
  rfl

/-- Asking a live script for its next batch: the reader holds the script after its answer,
still live and with the same releases, and what `next` makes of the answer is the first of the
script's yields; after a batch, the script left yields the rest. -/
theorem pull_of_scripted (hs : r.stream = .scripted s) (hlive : s.live = true) :
    ∃ s' : ScriptedStream, s'.live = true ∧ s'.ledger = s.ledger ∧
      r.pull.2.stream = .scripted s' ∧ r.pull.2.done = r.done ∧ r.pull.2.field = r.field ∧
      yieldOfPull r.pull.1 = s.yields r.field.type 0 ∧
      (isBatch (s.yields r.field.type 0) = true →
        ∀ i, s'.yields r.field.type i = s.yields r.field.type (i + 1)) := by
  by_cases hg : s.hasGetNext = true
  case neg =>
    -- without `get_next` the reader fails at once, holding the script as it was
    have hy : s.yields r.field.type 0 =
        some (.error (.nullPointer "ArrowArrayStream.get_next")) := by
      simp only [yields, hg, Bool.false_eq_true, if_false, if_true]
    have hpull := pull_of_none (r := r)
      (by simp only [hs, ArrayStream.getNext?, hg, Bool.false_eq_true, if_false])
    rw [hy, hpull]
    exact ⟨s, hlive, rfl, hs, rfl, rfl, rfl, fun h => absurd h Bool.false_ne_true⟩
  case pos =>
    have hy : s.yields r.field.type 0 =
        yieldOf r.field.type (ArrayStream.scripted s).errorText (s.steps 0) := by
      simp only [yields, hg, if_true, yieldsOf_zero]
    have hn : r.stream.getNext? = some ((s.steps 0).reply, .scripted s.advance) := by
      simp only [hs, ArrayStream.getNext?, hg, if_true, getNext_of_live hlive]
    -- whatever the answer, the script moves on by one, and the rest is its yields after it
    suffices r.pull.2.stream = .scripted s.advance ∧ r.pull.2.done = r.done ∧
        r.pull.2.field = r.field ∧
        yieldOfPull r.pull.1 =
          yieldOf r.field.type (ArrayStream.scripted s).errorText (s.steps 0) by
      obtain ⟨h1, h2, h3, h4⟩ := this
      exact ⟨s.advance, hlive, rfl, h1, h2, h3, h4.trans hy.symm,
        fun hb i => (yields_succ hb i).symm⟩
    cases h0 : s.steps 0 with
    | finish =>
      rw [h0] at hn
      dsimp only [Step.reply] at hn
      rw [pull_of_ended (a := ArrayNode.ended) hn rfl]
      exact ⟨rfl, rfl, rfl, rfl⟩
    | fail code =>
      -- the failure is quoted with the stream's last error, which no answer changes
      rw [h0] at hn
      dsimp only [Step.reply] at hn
      rw [pull_of_error hn]
      exact ⟨rfl, rfl, rfl, rfl⟩
    | batch a =>
      rw [h0] at hn
      dsimp only [Step.reply] at hn
      cases hrel : a.released
      · rw [pull_of_batch hn hrel]
        simp only [importBatch_stream, importBatch_done, importBatch_field, yieldOf, hrel,
          Bool.false_eq_true, if_false, true_and]
        cases a.importTyped r.field.type <;> rfl
      · -- an array without its release callback is the end of the stream
        rw [pull_of_ended hn hrel]
        refine ⟨rfl, rfl, rfl, ?_⟩
        simp only [yieldOf, hrel, if_true]
        rfl

/-- One `next` of a reader that is not done, over a live script: it yields the first of the
script's yields. After a batch the reader holds the rest of the script; after the end or a
failure it is done and its stream released. -/
theorem next_of_scripted (hdone : r.done = false) (hs : r.stream = .scripted s)
    (hlive : s.live = true) :
    ∃ s' : ScriptedStream, s'.live = true ∧ s'.ledger = s.ledger ∧
      r.next.2.field = r.field ∧ r.next.1 = s.yields r.field.type 0 ∧
      (isBatch (s.yields r.field.type 0) = true → r.next.2.done = false ∧
        r.next.2.stream = .scripted s' ∧
        ∀ i, s'.yields r.field.type i = s.yields r.field.type (i + 1)) ∧
      (isBatch (s.yields r.field.type 0) = false → r.next.2.done = true ∧
        r.next.2.stream = .scripted s'.release) := by
  obtain ⟨s', hlive', hledger, hstream, hdone', hfield, hy, htail⟩ := pull_of_scripted hs hlive
  have hclose := close_of_scripted (hdone'.trans hdone) hstream
  refine ⟨s', hlive', hledger, ?_, ?_, fun hb => ?_, fun hb => ?_⟩ <;> rw [next_eq hdone] <;>
    dsimp only
  · split
    · exact hfield
    · rw [close_field, hfield]
  · exact hy
  · rw [hy, if_pos hb]
    exact ⟨hdone'.trans hdone, hstream, htail hb⟩
  · rw [hy, if_neg (by rw [hb]; exact Bool.false_ne_true)]
    exact hclose

/-- Opening a live script: either it fails, leaving the script released, or the reader holds
it, not done. Either way the script is the one it was, short of the schema it handed over. -/
theorem start_of_scripted (hlive : s.live = true) :
    ∃ s' : ScriptedStream, s'.live = true ∧ s'.ledger = s.ledger ∧
      (∀ t, s'.yields t = s.yields t) ∧
      match start (.scripted s) with
      | .error (_, l) => l.stream = (ArrayStream.scripted s').release
      | .ok r => r.stream = .scripted s' ∧ r.done = false := by
  have hopen : (ArrayStream.scripted s).isReleased = false := by
    simp only [ArrayStream.isReleased, hlive, Bool.not_true]
  unfold start
  rw [hopen, if_neg Bool.false_ne_true]
  by_cases hg : s.hasGetSchema = true
  case neg =>
    refine ⟨s, hlive, rfl, fun _ => rfl, ?_⟩
    simp only [ArrayStream.getSchema?, hg, Bool.false_eq_true, if_false]
  case pos =>
    have hcall : (ArrayStream.scripted s).getSchema? =
        some (s.getSchema.1, .scripted s.getSchema.2) := by
      simp only [ArrayStream.getSchema?, hg, if_true]
    have hlive' : ¬ (!s.live) = true := by
      rw [hlive]
      exact Bool.false_ne_true
    rw [hcall]
    by_cases hcode : s.schemaCode ≠ 0
    case pos =>
      -- the script refuses its schema
      have hstep : s.getSchema = (.error s.schemaCode, s) := by
        unfold ScriptedStream.getSchema
        rw [if_neg hlive', if_pos hcode]
      rw [hstep]
      exact ⟨s, hlive, rfl, fun _ => rfl, rfl⟩
    case neg =>
      cases hschema : s.schema with
      | none =>
        have hstep : s.getSchema = (.error Producer.einval, s) := by
          unfold ScriptedStream.getSchema
          rw [if_neg hlive', if_neg hcode, hschema]
        rw [hstep]
        exact ⟨s, hlive, rfl, fun _ => rfl, rfl⟩
      | some node =>
        -- the schema is handed over; the script keeps everything else
        have hstep : s.getSchema = (.ok node, { s with schema := none }) := by
          unfold ScriptedStream.getSchema
          rw [if_neg hlive', if_neg hcode, hschema]
        rw [hstep]
        refine ⟨{ s with schema := none }, hlive, rfl, fun _ => rfl, ?_⟩
        dsimp only
        cases node.toField with
        | ok f => exact ⟨rfl, rfl⟩
        | error e => rfl

/-! ## The invariant -/

/-- A reader of a script that had been released `n` times when it was opened, and that has
still to yield `ys`: its stream is released, once more, exactly when the reader is done;
until then it holds a live script whose yields are `ys`, and once done it yields nothing. -/
structure Tracks (n : Nat) (ys : Nat → Option (Except Error Column)) (r : StreamReader) :
    Prop where
  released_iff : r.stream.isReleased = r.done
  counted : r.stream.ledger.streams = n + if r.done then 1 else 0
  holds : r.done = false →
    ∃ s : ScriptedStream, r.stream = .scripted s ∧ s.live = true ∧ ys = s.yields r.field.type
  finished : r.done = true → ∀ i, ys i = none

variable {n : Nat} {ys : Nat → Option (Except Error Column)}

/-- A done reader tracks nothing left to yield, whatever it was said to have left. -/
theorem Tracks.of_done (h : Tracks n ys r) (hdone : r.done = true)
    {ys' : Nat → Option (Except Error Column)} (hys' : ∀ i, ys' i = none) : Tracks n ys' r :=
  ⟨h.released_iff, h.counted, fun h' => absurd (h'.symm.trans hdone) Bool.false_ne_true,
    fun _ => hys'⟩

/-- A done reader whose script was released once more than `n` times yields nothing more. -/
theorem tracks_of_release {s' : ScriptedStream} (hdone : r.done = true)
    (hs : r.stream = .scripted s'.release) (hlive : s'.live = true) (hn : s'.ledger.streams = n)
    (hys : ∀ i, ys i = none) : Tracks n ys r := by
  obtain ⟨hrel, hcount⟩ := releasedOnce_release hlive
  refine ⟨by rw [hs, hdone, hrel], ?_, fun h => absurd (h.symm.trans hdone) Bool.false_ne_true,
    fun _ => hys⟩
  rw [hs, hdone, if_pos rfl, ← hn]
  exact hcount

/-- A reader that is not done, over a live script released `n` times, has the script's
yields left. -/
theorem tracks_of_live (hdone : r.done = false) (hs : r.stream = .scripted s)
    (hlive : s.live = true) (hn : s.ledger.streams = n) : Tracks n (s.yields r.field.type) r := by
  refine ⟨?_, ?_, fun _ => ⟨s, hs, hlive, rfl⟩,
    fun h => absurd (hdone.symm.trans h) Bool.false_ne_true⟩
  · rw [hs, hdone]
    simp only [ArrayStream.isReleased, hlive, Bool.not_true]
  · rw [hs, hdone, ArrayStream.ledger, hn]
    rfl

/-- The live script a reader that is not done holds, with its count of releases. -/
theorem Tracks.script (h : Tracks n ys r) (hdone : r.done = false) :
    ∃ s : ScriptedStream, r.stream = .scripted s ∧ s.live = true ∧ s.ledger.streams = n ∧
      ys = s.yields r.field.type := by
  obtain ⟨s, hs, hlive, hys⟩ := h.holds hdone
  have hcount := h.counted
  rw [hs, hdone] at hcount
  exact ⟨s, hs, hlive, hcount, hys⟩

/-- `next` keeps the invariant: it yields the first item left, and the reader becomes done
exactly when it yields anything but a batch. -/
theorem Tracks.next (h : Tracks n ys r) :
    r.next.1 = ys 0 ∧ Tracks n (fun i => ys (i + 1)) r.next.2 ∧
      (r.next.2.done = true ↔ r.done = true ∨ isBatch r.next.1 = false) := by
  cases hdone : r.done
  case true =>
    have hys := h.finished hdone
    rw [next_of_done hdone]
    exact ⟨(hys 0).symm, h.of_done hdone fun i => hys (i + 1), iff_of_true hdone (.inl rfl)⟩
  case false =>
    obtain ⟨s, hs, hlive, hn, rfl⟩ := h.script hdone
    obtain ⟨s', hlive', hledger, hfield, hy, hgo, hstop⟩ := next_of_scripted hdone hs hlive
    have hn' : s'.ledger.streams = n := by rw [hledger, hn]
    rw [hy]
    refine ⟨rfl, ?_⟩
    cases hb : isBatch (s.yields r.field.type 0)
    · -- the end or a failure: the reader is done, and nothing more is yielded
      obtain ⟨hd, hst⟩ := hstop hb
      exact ⟨tracks_of_release hd hst hlive' hn' (yields_succ_of_stop hb),
        iff_of_true hd (.inr rfl)⟩
    · -- a batch: the reader holds the script after it
      obtain ⟨hd, hst, hshift⟩ := hgo hb
      have htracks := tracks_of_live hd hst hlive' hn'
      rw [hfield, funext hshift] at htracks
      refine ⟨htracks, ?_⟩
      rw [hd]
      simp

/-- `close` keeps the invariant, with nothing left to yield. -/
theorem Tracks.close (h : Tracks n ys r) : Tracks n (fun _ => none) r.close := by
  cases hdone : r.done
  case true =>
    rw [close_of_done hdone]
    exact h.of_done hdone fun _ => rfl
  case false =>
    obtain ⟨s, hs, hlive, hn, -⟩ := h.script hdone
    obtain ⟨hd, hst⟩ := close_of_scripted hdone hs
    exact tracks_of_release hd hst hlive hn fun _ => rfl

/-- Letting a reader go releases its stream, once. -/
theorem Tracks.dropped (h : Tracks n ys r) : ReleasedOnce n r.close.stream := by
  have h' := h.close
  refine ⟨h'.released_iff.trans (close_done r), ?_⟩
  rw [h'.counted, close_done, if_pos rfl]

/-- What the reader yields one call after another is what it has still to yield. -/
theorem Tracks.nextYields : ∀ (i : Nat) {ys : Nat → Option (Except Error Column)}
    {r : StreamReader}, Tracks n ys r → r.nextYields i = ys i
  | 0, _, _, h => h.next.1
  | i + 1, _, _, h => Tracks.nextYields i h.next.2.1

/-! ## Runs of calls on a scripted stream -/

/-- What calls yield from what a reader has still to yield: each `next` the first item, and
`close` leaves nothing. -/
def expectedYields : List Call → (Nat → Option (Except Error Column)) →
    List (Option (Except Error Column))
  | [], _ => []
  | .next :: calls, ys => ys 0 :: expectedYields calls fun i => ys (i + 1)
  | .close :: calls, _ => expectedYields calls fun _ => none

/-- Once done, a reader answers every call with nothing and stays as it is: no callback of its
stream runs again. -/
theorem runCalls_of_done (hdone : r.done = true) :
    ∀ calls : List Call, r.runCalls calls = (List.replicate (calls.count .next) none, r)
  | [] => rfl
  | .next :: calls => by
    simp only [runCalls, next_of_done hdone, runCalls_of_done hdone calls, List.count_cons_self,
      List.replicate_succ]
  | .close :: calls => by
    rw [runCalls, close_of_done hdone, runCalls_of_done hdone calls, List.count_cons]
    rfl

/-- Any calls keep the invariant: they yield what the reader had left, in order, and the
reader is done after them exactly when it was before, or one of them was a `close`, or one
yielded anything but a batch. -/
theorem Tracks.run : ∀ (calls : List Call) {ys : Nat → Option (Except Error Column)}
    {r : StreamReader}, Tracks n ys r →
      (r.runCalls calls).1 = expectedYields calls ys ∧
      (∃ ys', Tracks n ys' (r.runCalls calls).2) ∧
      ((r.runCalls calls).2.done = true ↔
        r.done = true ∨ .close ∈ calls ∨ ∃ y ∈ (r.runCalls calls).1, isBatch y = false)
  | [], ys, r, h => ⟨rfl, ⟨ys, h⟩, by simp [runCalls]⟩
  | .next :: calls, ys, r, h => by
    obtain ⟨hy, hnext, hdone⟩ := h.next
    obtain ⟨hys, htracks, hdone'⟩ := Tracks.run calls hnext
    refine ⟨by rw [runCalls, expectedYields, hy, hys], htracks, ?_⟩
    -- the reader is done after the run if it was after the first `next`, or the rest did it
    simp only [runCalls, hdone', hdone, List.mem_cons, reduceCtorEq, false_or, exists_eq_or_imp]
    rw [or_assoc]
    exact or_congr_right or_left_comm
  | .close :: calls, ys, r, h => by
    have hclosed := h.close
    obtain ⟨hys, htracks, hdone'⟩ := Tracks.run calls hclosed
    refine ⟨hys, htracks, ?_⟩
    rw [runCalls, hdone', close_done]
    simp

/-! ## Opening and reading a whole stream -/

/-- What a consumer leaves of a stream that had been released `n` times: the stream released
once more, and every batch it imported owing the release of its array once. -/
structure LeavesOnce (n : Nat) (l : Leftover) : Prop where
  stream : ReleasedOnce n l.stream
  batches : ∀ h ∈ l.batches, h.OwesOnce

/-- A reader that was opened has imported nothing and asked for nothing yet. -/
theorem start_ok_fresh {st : ArrayStream} (h : start st = .ok r) :
    r.batches = [] ∧ r.asked = 0 := by
  unfold start at h
  repeat' split at h
  all_goals first | cases h; done | (cases h; exact ⟨rfl, rfl⟩)

theorem start_error_batches {st : ArrayStream} {e : Error} {l : Leftover}
    (h : start st = .error (e, l)) : l.batches = [] := by
  unfold start at h
  repeat' split at h
  all_goals first | cases h; done | (cases h; rfl)

/-- Opening a live script that fails releases it once, before the error is returned. -/
theorem start_error_leaves (hlive : s.live = true) {e : Error} {l : Leftover}
    (h : start (.scripted s) = .error (e, l)) : LeavesOnce s.ledger.streams l := by
  obtain ⟨s', hlive', hledger, -, hcase⟩ := start_of_scripted hlive
  rw [h] at hcase
  dsimp only at hcase
  refine ⟨?_, fun _ hh => by rw [start_error_batches h] at hh; cases hh⟩
  rw [hcase, ← hledger]
  exact releasedOnce_release hlive'

/-- A reader opened on a live script is not done, owes nothing yet, and has the script's
yields left. -/
theorem start_ok_tracks (hlive : s.live = true) (h : start (.scripted s) = .ok r) :
    r.done = false ∧ r.BatchesOwe ∧ Tracks s.ledger.streams (s.yields r.field.type) r := by
  obtain ⟨s', hlive', hledger, hyields, hcase⟩ := start_of_scripted hlive
  rw [h] at hcase
  obtain ⟨hs, hdone⟩ := hcase
  have htracks := tracks_of_live hdone hs hlive' (by rw [hledger])
  rw [hyields] at htracks
  refine ⟨hdone, fun _ hh => ?_, htracks⟩
  rw [(start_ok_fresh h).1] at hh
  cases hh

/-- What reading keeps: the script tracked, and the batches owed. -/
def Reading (n : Nat) (r : StreamReader) : Prop :=
  (∃ ys, Tracks n ys r) ∧ r.BatchesOwe

theorem Reading.next (h : Reading n r) : Reading n r.next.2 :=
  ⟨⟨_, (h.1.choose_spec.next).2.1⟩, h.2.next⟩

/-- Letting go of a reader that kept reading leaves the stream released once, and the batches
owed. -/
theorem Reading.leaves (h : Reading n r) : LeavesOnce n r.close.leftover :=
  ⟨h.1.choose_spec.dropped, h.2.close⟩

/-- Reading a live script as tables releases it once, whether the reading succeeds or not. -/
theorem readTables_leaves (hlive : s.live = true) :
    LeavesOnce s.ledger.streams (readTables (.scripted s)).2 := by
  unfold readTables
  cases hstart : start (.scripted s) with
  | error el => exact start_error_leaves hlive hstart
  | ok r =>
    obtain ⟨-, howe, h⟩ := start_ok_tracks hlive hstart
    have hreading : Reading s.ledger.streams r := ⟨⟨_, h⟩, howe⟩
    dsimp only
    cases Schema.ofRootField r.field.materialise with
    | error e => exact hreading.leaves
    | ok named =>
      have hread := readTablesFuel_preserves (fun _ h => Reading.next h) named.1
        named.2.metadata (r.stream.budget + 1) hreading
      dsimp only
      generalize r.readTablesFuel named.1 named.2.metadata (r.stream.budget + 1) = q at hread ⊢
      obtain ⟨tables, r'⟩ := q
      exact hread.leaves

/-- Reading a live script as one chunked series releases it once. -/
theorem importChunkedStream_leaves (hlive : s.live = true) :
    LeavesOnce s.ledger.streams (importChunkedStream (.scripted s)).2 := by
  unfold importChunkedStream collect readAll
  cases hstart : start (.scripted s) with
  | error el => exact start_error_leaves hlive hstart
  | ok r =>
    obtain ⟨-, howe, h⟩ := start_ok_tracks hlive hstart
    have hread := readFuel_preserves (fun _ h => Reading.next h) (r.stream.budget + 1)
      (⟨⟨_, h⟩, howe⟩ : Reading s.ledger.streams r)
    dsimp only
    generalize r.readFuel (r.stream.budget + 1) = q at hread ⊢
    obtain ⟨batches, r'⟩ := q
    exact hread.leaves

/-- Reading a live script as tables asks for no batch past the first that does not become a
table. -/
theorem readTables_asked (hlive : s.live = true) (h : start (.scripted s) = .ok r)
    {name : String} {schema : Schema}
    (hroot : Schema.ofRootField r.field.materialise = .ok (name, schema)) {k : Nat}
    (hk : ∀ c tb, s.yields r.field.type k = some (.ok c) →
      Table.ofStruct name c schema.metadata ≠ .ok tb) :
    (readTables (.scripted s)).2.asked ≤ k + 1 := by
  obtain ⟨-, -, htracks⟩ := start_ok_tracks hlive h
  have hasked := readTablesFuel_asked name schema.metadata (r.stream.budget + 1) k r
    (by rw [htracks.nextYields k]; exact hk)
  rw [(start_ok_fresh h).2, Nat.zero_add] at hasked
  unfold readTables
  rw [h]
  dsimp only
  rw [hroot]
  dsimp only
  generalize r.readTablesFuel name schema.metadata (r.stream.budget + 1) = q at hasked ⊢
  obtain ⟨tables, r'⟩ := q
  exact (close_asked r').trans_le hasked

/-- Reading a live script as one chunked series asks for no batch past the first yield that is
not one. -/
theorem importChunkedStream_asked (hlive : s.live = true) (h : start (.scripted s) = .ok r)
    {k : Nat}
    (hk : ∀ c, s.yields r.field.type k ≠ some (.ok c)) :
    (importChunkedStream (.scripted s)).2.asked ≤ k + 1 := by
  obtain ⟨-, -, htracks⟩ := start_ok_tracks hlive h
  have hasked := readFuel_asked (r.stream.budget + 1) k r
    (by rw [htracks.nextYields k]; exact isBatch_eq_false_iff.2 hk)
  rw [(start_ok_fresh h).2, Nat.zero_add] at hasked
  unfold importChunkedStream collect readAll
  rw [h]
  dsimp only
  generalize r.readFuel (r.stream.budget + 1) = q at hasked ⊢
  obtain ⟨batches, r'⟩ := q
  exact (close_asked r').trans_le hasked

/-! ## Every consumer releases its stream once -/

/-- What a consumer's calls on a reader give, the reader having `ys` left to yield and its
stream `n` releases when it was opened. -/
structure ReadsOnce (n : Nat) (ys : Nat → Option (Except Error Column)) (r : StreamReader)
    (calls : List Call) : Prop where
  /-- `next` yields what is left, in order; after a `close`, only `none`. -/
  yields : (r.runCalls calls).1 = expectedYields calls ys
  /-- The stream is released exactly when the reader is done, and then once. -/
  released_iff_done : (r.runCalls calls).2.stream.isReleased = (r.runCalls calls).2.done
  counted : (r.runCalls calls).2.stream.ledger.streams =
    n + if (r.runCalls calls).2.done then 1 else 0
  /-- The reader is done from the first `close`, or the first `next` that yields the end or an
  error. -/
  done_iff : (r.runCalls calls).2.done = true ↔
    Call.close ∈ calls ∨ ∃ y ∈ (r.runCalls calls).1, ∀ c, y ≠ some (.ok c)
  /-- Once done, no later call changes anything: no callback runs after the release. -/
  quiet : (r.runCalls calls).2.done = true → ∀ more : List Call,
    (r.runCalls calls).2.runCalls more =
      (List.replicate (more.count .next) none, (r.runCalls calls).2)
  /-- Letting the reader go releases the stream, once, and every batch it imported owes the
  release of its array once. -/
  dropped : LeavesOnce n (r.runCalls calls).2.close.leftover

theorem Tracks.readsOnce (h : Tracks n ys r) (hdone : r.done = false) (howe : r.BatchesOwe)
    (calls : List Call) : ReadsOnce n ys r calls := by
  obtain ⟨hys, ⟨_, h'⟩, hd⟩ := h.run calls
  have howe' := runCalls_preserves (fun _ h => BatchesOwe.next h) (fun _ h => BatchesOwe.close h)
    calls howe
  refine ⟨hys, h'.released_iff, h'.counted, ?_, fun hd' more => runCalls_of_done hd' more,
    (show Reading n _ from ⟨⟨_, h'⟩, howe'⟩).leaves⟩
  rw [hd, hdone]
  simp only [Bool.false_eq_true, false_or, isBatch_eq_false_iff]

/-- What consumers do with a live script: opening it fails and releases it once, or every run
of calls on the reader goes as `ReadsOnce` says, over yields that settle once they stop; reading
it whole, as tables, as one batched table or as one chunked series, releases it once, with
every batch imported owing its release once; and reading it whole asks for no batch past the
first that ends the read. -/
structure ConsumesOnce (s : ScriptedStream) (calls : List Call) : Prop where
  opening_fails : ∀ e l, start (.scripted s) = .error (e, l) → LeavesOnce s.ledger.streams l
  reads : ∀ r, start (.scripted s) = .ok r →
    ReadsOnce s.ledger.streams (s.yields r.field.type) r calls
  settles : ∀ t i, (∀ c, s.yields t i ≠ some (.ok c)) → ∀ j, i < j → s.yields t j = none
  tables : LeavesOnce s.ledger.streams (importTableStream (.scripted s)).2
  batched : LeavesOnce s.ledger.streams (importBatchedStream (.scripted s)).2
  chunked : LeavesOnce s.ledger.streams (importChunkedStream (.scripted s)).2
  tables_stop : ∀ r, start (.scripted s) = .ok r → ∀ name schema,
    Schema.ofRootField r.field.materialise = .ok (name, schema) → ∀ k,
      (∀ c tb, s.yields r.field.type k = some (.ok c) →
        Table.ofStruct name c schema.metadata ≠ .ok tb) →
        (readTables (.scripted s)).2.asked ≤ k + 1
  chunked_stop : ∀ r, start (.scripted s) = .ok r → ∀ k,
    (∀ c, s.yields r.field.type k ≠ some (.ok c)) →
      (importChunkedStream (.scripted s)).2.asked ≤ k + 1

end StreamReader

end Columnar
