import Columnar.Stream.Producer
import Columnar.Proofs.WellFormed

/-!
# An exported stream answers as its source decides

A consumer calls an exported stream's callbacks in any order: `get_next` and `get_schema`,
with or without somewhere to write, and `get_last_error`. Whatever the order, the answers
depend only on the source and on how many batches were asked for so far. Call the source's
batches `r 0, r 1, …`, batch `k` good when it is a column of the field's type, holding nulls
only if the field allows them, that exports. Then the `j`-th `get_next`

* exports `r j` while every batch before it was good;
* signals the end, again and again, once a source of good batches ran out;
* fails with the first batch `f` that was not good, and with it every later call, each time
  leaving its text for `get_last_error`: a refusal of the source as a stream error naming
  `f` (`EIO`), any other failure as `EINVAL`.

`get_schema` answers the field's schema except once the stream failed, and the source is
pulled exactly once per `get_next` until it ends or fails: the stream holds the source after
`j` pulls.

The proof runs a small machine beside the stream: the phase one `get_next` leaves
(`nextPhase`) and what it answers in a phase (`nextReply`). Each callback either takes that
step or keeps the phase (`perform_run`), so after `j` calls of `get_next` the stream is in the
phase of `j` steps; the phase of `j` steps is then read off the source (`iterate_ready`,
`iterate_ended`, `iterate_failed`).
-/

namespace Columnar

namespace Producer

variable {σ : Type} {pull : σ → Option (Except Error Column × σ)} {field : Field}

/-! ## The source -/

/-- The source's state after `k` pulls, if it yields `k` batches. -/
def sourceAfter (pull : σ → Option (Except Error Column × σ)) : σ → Nat → Option σ
  | s, 0 => some s
  | s, k + 1 =>
    match pull s with
    | none => none
    | some (_, rest) => sourceAfter pull rest k

/-- Batch `k` of the source, if it yields that many. -/
def batchAt (pull : σ → Option (Except Error Column × σ)) (s : σ) (k : Nat) :
    Option (Except Error Column) :=
  (sourceAfter pull s k).bind fun s' => (pull s').map Prod.fst

theorem batchAt_zero (s : σ) : batchAt pull s 0 = (pull s).map Prod.fst := rfl

theorem batchAt_succ_of_pull {s rest : σ} {item : Except Error Column} (k : Nat)
    (h : pull s = some (item, rest)) : batchAt pull s (k + 1) = batchAt pull rest k := by
  simp only [batchAt, sourceAfter, h]

theorem sourceAfter_succ_of_pull {s rest : σ} {item : Except Error Column} (k : Nat)
    (h : pull s = some (item, rest)) : sourceAfter pull s (k + 1) = sourceAfter pull rest k := by
  simp only [sourceAfter, h]

/-! ## Good batches -/

/-- A batch is good under a field: a column of the field's type, holding nulls only if the
field allows them, that exports. -/
def Good (field : Field) : Except Error Column → Prop
  | .ok b => b.type = field.type ∧ (field.nullable = true ∨ b.nullCount = 0) ∧
      ∃ a, b.toDescriptor = .ok a
  | .error _ => False

/-- The source yields at least `n` batches, and all of them are good. -/
def GoodBefore (field : Field) (pull : σ → Option (Except Error Column × σ)) (s : σ)
    (n : Nat) : Prop :=
  ∀ k < n, ∃ r, batchAt pull s k = some r ∧ Good field r

/-- How a stream reports its first batch `f` that is not good: a refusal of the source as a
stream error naming `f`, which is `EIO`; any other failure as `EINVAL`. -/
def Reports (f : Nat) : Except Error Column → Error → Prop
  | .error e₀, e => e = .stream ("batch " ++ toString f ++ ": " ++ e₀.message) ∧ e.errno = 5
  | .ok _, e => e.errno = 22

theorem checkOffset_errno {n : Nat} {e : Error} (h : checkOffset n = .error e) :
    e.errno = 22 := by
  unfold checkOffset at h
  split_ifs at h
  cases h
  rfl

theorem checkNullable_errno {f : Field} {c : Column} {e : Error}
    (h : checkNullable f c = .error e) : e.errno = 22 := by
  unfold checkNullable at h
  split_ifs at h
  cases h
  rfl

theorem Format.encode_errno {t : DataType} {e : Error} (h : Format.encode t = .error e) :
    e.errno = 22 := by
  unfold Format.encode at h
  dsimp only at h
  split at h <;> (try split at h) <;> cases h <;> rfl

/-- Exporting a column never fails as a stream error: each of its refusals is `EINVAL`. -/
theorem checkExportable_errno {c : Column} {e : Error} (h : c.checkExportable = .error e) :
    e.errno = 22 := by
  refine Column.checkExportable.induct
    (fun c => ∀ e, c.checkExportable = .error e → e.errno = 22)
    (fun fs cs => ∀ e, Column.checkMembersExportable fs cs = .error e → e.errno = 22)
    ?text ?dictionary ?temporal ?struct ?listSmall ?listLarge ?other ?cons ?rest c e h
  case text =>
    intro off d v e h
    exact checkOffset_errno h
  case dictionary =>
    intro i k kv vals o ih e h
    exact ih e h
  case temporal =>
    intro kind u z d v e h
    obtain h | ⟨_, _, h⟩ := Except.bind_eq_error.1 h
    · exact Format.encode_errno h
    · cases h
  case struct =>
    intro fs cs v len ih e h
    exact ih e h
  case listSmall =>
    intro f off vals v ih e h
    obtain h | ⟨_, _, h⟩ := Except.bind_eq_error.1 h
    · exact checkOffset_errno h
    obtain h | ⟨_, _, h⟩ := Except.bind_eq_error.1 h
    · exact checkNullable_errno h
    exact ih e h
  case listLarge =>
    intro f off vals v ih e h
    obtain h | ⟨_, _, h⟩ := Except.bind_eq_error.1 h
    · exact checkNullable_errno h
    exact ih e h
  case other =>
    intro t htext hdict htemp hstruct hsmall hlarge e h
    -- every column the other cases leave is exported unchecked
    unfold Column.checkExportable at h
    split at h
    · exact (htext _ _ _ rfl).elim
    · exact (hdict _ _ _ _ _ rfl).elim
    · exact (htemp _ _ _ _ _ rfl).elim
    · exact (hstruct _ _ _ _ rfl).elim
    · exact (hsmall _ _ _ _ rfl).elim
    · exact (hlarge _ _ _ _ rfl).elim
    · cases h
  case cons =>
    intro f fs c cs ihc ih e h
    obtain h | ⟨_, _, h⟩ := Except.bind_eq_error.1 h
    · exact checkNullable_errno h
    obtain h | ⟨_, _, h⟩ := Except.bind_eq_error.1 h
    · exact ihc e h
    exact ih e h
  case rest =>
    intro cs fs hcons e h
    unfold Column.checkMembersExportable at h
    split at h
    · exact (hcons _ _ _ _ rfl rfl).elim
    · cases h

/-- A column passes the stream's check exactly when it has the field's type and holds nulls
only if the field allows them. -/
theorem checkBatch_eq_ok {b : Column} :
    checkBatch field b = .ok () ↔
      b.type = field.type ∧ (field.nullable = true ∨ b.nullCount = 0) := by
  unfold checkBatch
  split_ifs with ht hn
  · refine iff_of_false (fun h => nomatch h) fun ⟨h, _⟩ => ?_
    rw [h, DataType.beq_self_eq_true] at ht
    exact Bool.false_ne_true ht
  · exact iff_of_true rfl ⟨by simpa using ht, hn⟩
  · exact iff_of_false (fun h => nomatch h) fun h => hn h.2

theorem checkBatch_errno {b : Column} {e : Error} (h : checkBatch field b = .error e) :
    e.errno = 22 := by
  unfold checkBatch at h
  split_ifs at h <;> cases h <;> rfl

/-- A refusal of the source is exported as a stream error naming the batch's position. -/
theorem exportBatch_refusal (pos : Nat) (e : Error) :
    exportBatch field pos (.error e) =
      .error (.stream ("batch " ++ toString pos ++ ": " ++ e.message)) := rfl

/-- A column is exported when it passes the stream's check, as its descriptor. -/
theorem exportBatch_column (pos : Nat) (b : Column) :
    exportBatch field pos (.ok b) = checkBatch field b >>= fun _ => b.toDescriptor := rfl

theorem exportBatch_of_good {pos : Nat} {b : Column} {a : ArrayNode} (hgood : Good field (.ok b))
    (ha : b.toDescriptor = .ok a) : exportBatch field pos (.ok b) = .ok a := by
  rw [exportBatch_column, Except.bind_eq_ok]
  exact ⟨(), checkBatch_eq_ok.2 ⟨hgood.1, hgood.2.1⟩, ha⟩

/-- A batch that is not good fails to export, and the stream reports it as `Reports` says. -/
theorem exportBatch_of_not_good (pos : Nat) {r : Except Error Column} (hbad : ¬ Good field r) :
    ∃ e, exportBatch field pos r = .error e ∧ Reports pos r e := by
  cases r with
  | error e₀ => exact ⟨_, exportBatch_refusal pos e₀, rfl, rfl⟩
  | ok b =>
    cases hexp : exportBatch field pos (.ok b) with
    | ok a =>
      -- a column that exports passed the check and exported: it was good
      rw [exportBatch_column, Except.bind_eq_ok] at hexp
      obtain ⟨_, hcheck, ha⟩ := hexp
      obtain ⟨htype, hnulls⟩ := checkBatch_eq_ok.1 hcheck
      exact (hbad ⟨htype, hnulls, a, ha⟩).elim
    | error e =>
      refine ⟨e, rfl, ?_⟩
      rw [exportBatch_column] at hexp
      obtain h | ⟨_, _, h⟩ := Except.bind_eq_error.1 hexp
      · exact checkBatch_errno h
      unfold Column.toDescriptor at h
      obtain h | ⟨_, _, h⟩ := Except.bind_eq_error.1 h
      · exact checkExportable_errno h
      · cases h

/-- The text `get_last_error` answers for an error: its message, NULs as blanks. -/
def errorText (e : Error) : String :=
  e.message.map fun c => if c = '\x00' then ' ' else c

/-! ## The phase machine -/

/-- The phase one `get_next` leaves: a ready source is pulled and its batch exported, and the
end or a failure is kept. -/
def nextPhase (field : Field) (pull : σ → Option (Except Error Column × σ)) :
    Phase σ → Phase σ
  | .ready s pos =>
    match pull s with
    | none => .exhausted
    | some (item, rest) =>
      match exportBatch field pos item with
      | .ok _ => .ready rest (pos + 1)
      | .error e => .failed e
  | .exhausted => .exhausted
  | .failed e => .failed e

/-- What one `get_next` answers in a phase. -/
def nextReply (field : Field) (pull : σ → Option (Except Error Column × σ)) :
    Phase σ → Reply ArrayNode
  | .ready s pos =>
    match pull s with
    | none => .ok ArrayNode.ended
    | some (item, _) =>
      match exportBatch field pos item with
      | .ok a => .ok a
      | .error e => .error e.errno
  | .exhausted => .ok ArrayNode.ended
  | .failed e => .error e.errno

/-- The parts of a stream no callback short of `release` changes. -/
structure Keeps (p p' : Producer σ) : Prop where
  field_eq : p'.field = p.field
  pull_eq : p'.pull = p.pull
  live_eq : p'.live = p.live

theorem Keeps.refl (p : Producer σ) : Keeps p p := ⟨rfl, rfl, rfl⟩

theorem Keeps.trans {p p' p'' : Producer σ} (h : Keeps p p') (h' : Keeps p' p'') :
    Keeps p p'' :=
  ⟨h'.field_eq.trans h.field_eq, h'.pull_eq.trans h.pull_eq, h'.live_eq.trans h.live_eq⟩

theorem keeps_report (p : Producer σ) (e : Error) : Keeps p (p.report e).2 := ⟨rfl, rfl, rfl⟩

variable {p : Producer σ}

/-- A live stream takes the branch of its callbacks that does the work. -/
theorem not_released (hlive : p.live = true) : ¬ (!p.live) = true := by
  rw [hlive]
  exact Bool.false_ne_true

/-- One `get_next` of a live stream takes one step of the phase machine and answers as it
says. -/
theorem getNext_step (hlive : p.live = true) :
    p.getNext.1 = nextReply p.field p.pull p.phase ∧
      p.getNext.2.phase = nextPhase p.field p.pull p.phase ∧ Keeps p p.getNext.2 := by
  unfold getNext
  rw [if_neg (not_released hlive)]
  cases hph : p.phase with
  | exhausted => exact ⟨rfl, hph, .refl p⟩
  | failed e => exact ⟨rfl, hph, keeps_report p e⟩
  | ready s pos =>
    dsimp only [nextReply, nextPhase]
    cases hpull : p.pull s with
    | none => exact ⟨rfl, rfl, ⟨rfl, rfl, rfl⟩⟩
    | some next =>
      obtain ⟨item, rest⟩ := next
      dsimp only
      cases exportBatch p.field pos item with
      | ok a => exact ⟨rfl, rfl, ⟨rfl, rfl, rfl⟩⟩
      | error e => exact ⟨rfl, rfl, ⟨rfl, rfl, rfl⟩⟩

/-- A `get_next` that fails leaves the stream failed with the error it reports, and its text
for `get_last_error`. -/
theorem getNext_error (hlive : p.live = true) {code : Int} (h : p.getNext.1 = .error code) :
    ∃ e, p.getNext.2.phase = .failed e ∧ code = e.errno ∧
      p.getNext.2.lastErrorText = some (errorText e) := by
  have hkeep := (getNext_step hlive).2.2
  unfold lastErrorText
  rw [hkeep.live_eq, hlive, if_pos rfl]
  unfold getNext at h ⊢
  rw [if_neg (not_released hlive)] at h ⊢
  cases hph : p.phase with
  | exhausted =>
    rw [hph] at h
    cases h
  | failed e =>
    rw [hph] at h
    cases h
    exact ⟨e, hph, rfl, rfl⟩
  | ready s pos =>
    rw [hph] at h
    dsimp only at h ⊢
    cases hpull : p.pull s with
    | none =>
      rw [hpull] at h
      cases h
    | some next =>
      obtain ⟨item, rest⟩ := next
      rw [hpull] at h
      dsimp only at h ⊢
      -- a batch that exports answers success; one that does not fails the stream
      cases hexp : exportBatch p.field pos item with
      | ok a =>
        rw [hexp] at h
        cases h
      | error e =>
        rw [hexp] at h
        cases h
        exact ⟨e, rfl, rfl, rfl⟩

/-- `get_schema` keeps the phase and answers the field's schema, or the failure of a failed
stream. -/
theorem getSchema_step (hlive : p.live = true) :
    p.getSchema.2.phase = p.phase ∧ Keeps p p.getSchema.2 ∧
      p.getSchema.1 = (match p.phase with
        | .failed e => .error e.errno
        | _ => (SchemaNode.ofField p.field).mapError fun e => (e.errno : Int)) := by
  unfold getSchema
  rw [if_neg (not_released hlive)]
  cases hph : p.phase with
  | failed e => exact ⟨hph, keeps_report p e, rfl⟩
  | ready s pos | exhausted =>
    dsimp only
    cases SchemaNode.ofField p.field with
    | ok sch => exact ⟨hph, .refl p, rfl⟩
    | error e => exact ⟨hph, keeps_report p e, rfl⟩

/-- In a failed stream `get_schema` reports the failure again, with its text. -/
theorem getSchema_failed (hlive : p.live = true) {e : Error} (hph : p.phase = .failed e) :
    p.getSchema.1 = .error e.errno ∧ p.getSchema.2.lastErrorText = some (errorText e) := by
  unfold getSchema lastErrorText
  rw [if_neg (not_released hlive), hph]
  exact ⟨rfl, if_pos hlive⟩

/-! ## Runs of calls -/

/-- A callback a consumer calls on an exported stream, short of releasing it. -/
inductive Call where
  /-- `get_next`, with somewhere to write the batch. -/
  | next
  /-- `get_schema`, with somewhere to write the schema. -/
  | schema
  /-- `get_next` or `get_schema` with a null output. -/
  | nullOut (what : String)
  /-- `get_last_error`. -/
  | lastError
  deriving DecidableEq

/-- The stream after a callback. -/
def perform (p : Producer σ) : Call → Producer σ
  | .next => p.getNext.2
  | .schema => p.getSchema.2
  | .nullOut what => (p.nullOut what).2
  | .lastError => p

/-- Every callback keeps the stream's parts, and only `get_next` moves its phase, by one
step of the machine. -/
theorem perform_step (hlive : p.live = true) (c : Call) :
    Keeps p (p.perform c) ∧
      (p.perform c).phase = (nextPhase p.field p.pull)^[if c = .next then 1 else 0] p.phase := by
  cases c with
  | next => exact ⟨(getNext_step hlive).2.2, (getNext_step hlive).2.1⟩
  | schema => exact ⟨(getSchema_step hlive).2.1, (getSchema_step hlive).1⟩
  | nullOut what =>
    simp only [perform, nullOut, if_pos hlive]
    exact ⟨keeps_report p _, rfl⟩
  | lastError => exact ⟨.refl p, rfl⟩

/-- After any calls, a live stream keeps its parts and is in the phase of as many steps as
it had calls of `get_next`. -/
theorem perform_run : ∀ (calls : List Call) {p : Producer σ}, p.live = true →
    Keeps p (calls.foldl perform p) ∧
      (calls.foldl perform p).phase = (nextPhase p.field p.pull)^[calls.count .next] p.phase
  | [], p, _ => ⟨.refl p, rfl⟩
  | c :: calls, p, hlive => by
    obtain ⟨hkeep, hphase⟩ := perform_step hlive c
    obtain ⟨hkeep', hphase'⟩ := perform_run calls (hkeep.live_eq.trans hlive)
    refine ⟨hkeep.trans hkeep', ?_⟩
    -- the first call's steps come first
    rw [List.foldl_cons, hphase', hkeep.field_eq, hkeep.pull_eq, hphase,
      ← Function.iterate_add_apply, List.count_cons]
    simp only [beq_iff_eq]

/-! ## The phase of `j` steps, read off the source -/

/-- Batch `k` of the source, exported at position `pos + k`, is `a`. -/
def ExportsAt (field : Field) (pull : σ → Option (Except Error Column × σ)) (s : σ)
    (pos k : Nat) (a : ArrayNode) : Prop :=
  ∃ r, batchAt pull s k = some r ∧ exportBatch field (pos + k) r = .ok a

theorem exportsAt_succ {s rest : σ} {item : Except Error Column} {pos k : Nat} {a : ArrayNode}
    (h : pull s = some (item, rest)) :
    ExportsAt field pull s pos (k + 1) a ↔ ExportsAt field pull rest (pos + 1) k a := by
  unfold ExportsAt
  rw [batchAt_succ_of_pull k h, Nat.add_right_comm, Nat.add_assoc]

/-- While the batches export, `j` steps leave the source after `j` pulls, ready at position
`pos + j`. -/
theorem iterate_ready : ∀ {j : Nat} {s : σ} {pos : Nat},
    (∀ k < j, ∃ a, ExportsAt field pull s pos k a) →
      ∃ s', sourceAfter pull s j = some s' ∧
        (nextPhase field pull)^[j] (.ready s pos) = .ready s' (pos + j)
  | 0, s, pos, _ => ⟨s, rfl, rfl⟩
  | j + 1, s, pos, hgood => by
    -- the first batch exports, so one step moves to the rest of the source
    obtain ⟨a, r, hr, hexp⟩ := hgood 0 (Nat.succ_pos j)
    rw [batchAt_zero, Option.map_eq_some_iff] at hr
    obtain ⟨⟨item, rest⟩, hpull, rfl⟩ := hr
    have hexp' : exportBatch field pos item = .ok a := hexp
    have hstep : nextPhase field pull (.ready s pos) = .ready rest (pos + 1) := by
      simp only [nextPhase, hpull]
      rw [hexp']
    obtain ⟨s', hs', hiter⟩ : ∃ s', sourceAfter pull rest j = some s' ∧
        (nextPhase field pull)^[j] (.ready rest (pos + 1)) = .ready s' (pos + 1 + j) :=
      iterate_ready fun k hk =>
        (hgood (k + 1) (Nat.succ_lt_succ hk)).imp fun _ => (exportsAt_succ hpull).1
    refine ⟨s', by rw [sourceAfter_succ_of_pull j hpull, hs'], ?_⟩
    rw [Function.iterate_succ_apply, hstep, hiter, Nat.add_right_comm, Nat.add_assoc]

theorem iterate_exhausted (n : Nat) :
    (nextPhase field pull)^[n] (.exhausted : Phase σ) = .exhausted :=
  Function.iterate_fixed rfl n

theorem iterate_failed (n : Nat) (e : Error) :
    (nextPhase field pull)^[n] (.failed e : Phase σ) = .failed e :=
  Function.iterate_fixed rfl n

/-- Past the end of a source whose batches all exported, the phase is the end. -/
theorem iterate_ended {s : σ} {pos m j : Nat} (hgood : ∀ k < m, ∃ a, ExportsAt field pull s pos k a)
    (hend : batchAt pull s m = none) (hmj : m < j) :
    (nextPhase field pull)^[j] (.ready s pos) = .exhausted := by
  obtain ⟨s', hs', hiter⟩ := iterate_ready hgood
  have hpull : pull s' = none := by
    simp only [batchAt, hs', Option.bind_some, Option.map_eq_none_iff] at hend
    exact hend
  have hstep : nextPhase field pull (.ready s' (pos + m)) = .exhausted := by
    simp only [nextPhase, hpull]
  obtain ⟨d, rfl⟩ := Nat.exists_eq_add_of_lt hmj
  rw [show m + d + 1 = d + (m + 1) by omega, Function.iterate_add_apply,
    Function.iterate_succ_apply', hiter, hstep, iterate_exhausted]

/-- At and past the first batch that does not export, the phase is its failure. -/
theorem iterate_fails {s : σ} {pos f j : Nat} {r : Except Error Column} {e : Error}
    (hgood : ∀ k < f, ∃ a, ExportsAt field pull s pos k a) (hr : batchAt pull s f = some r)
    (hexp : exportBatch field (pos + f) r = .error e) (hfj : f < j) :
    (nextPhase field pull)^[j] (.ready s pos) = .failed e := by
  obtain ⟨s', hs', hiter⟩ := iterate_ready hgood
  simp only [batchAt, hs', Option.bind_some, Option.map_eq_some_iff] at hr
  obtain ⟨⟨item, rest⟩, hpull, rfl⟩ := hr
  have hstep : nextPhase field pull (.ready s' (pos + f)) = .failed e := by
    simp only [nextPhase, hpull]
    rw [hexp]
  obtain ⟨d, rfl⟩ := Nat.exists_eq_add_of_lt hfj
  rw [show f + d + 1 = d + (f + 1) by omega, Function.iterate_add_apply,
    Function.iterate_succ_apply', hiter, hstep, iterate_failed]

/-! ## What the stream answers -/

/-- A `get_next` that leaves the end answers the end. -/
theorem nextReply_of_exhausted {ph : Phase σ} (h : nextPhase field pull ph = .exhausted) :
    nextReply field pull ph = .ok ArrayNode.ended := by
  cases ph with
  | ready s pos =>
    cases hpull : pull s with
    | none => simp only [nextReply, hpull]
    | some next =>
      simp only [nextPhase, hpull] at h
      split at h <;> cases h
  | exhausted => rfl
  | failed e => cases h

/-- A `get_next` that leaves a failure answers its code. -/
theorem nextReply_of_failed {ph : Phase σ} {e : Error} (h : nextPhase field pull ph = .failed e) :
    nextReply field pull ph = .error e.errno := by
  cases ph with
  | ready s pos =>
    cases hpull : pull s with
    | none =>
      simp only [nextPhase, hpull] at h
      cases h
    | some next =>
      obtain ⟨item, rest⟩ := next
      simp only [nextPhase, hpull] at h
      simp only [nextReply, hpull]
      split at h
      · cases h
      · cases h
        rfl
  | exhausted => cases h
  | failed e' =>
    cases h
    rfl

/-- A `get_next` that leaves a failure reports it, and leaves its text. -/
theorem getNext_of_failed (hlive : p.live = true) {e : Error}
    (h : nextPhase p.field p.pull p.phase = .failed e) :
    p.getNext.1 = .error e.errno ∧ p.getNext.2.lastErrorText = some (errorText e) := by
  have hstep := getNext_step hlive
  have hreply : p.getNext.1 = .error e.errno := by rw [hstep.1, nextReply_of_failed h]
  obtain ⟨e', hph, -, htext⟩ := getNext_error hlive hreply
  rw [hstep.2.1, h] at hph
  cases hph
  exact ⟨hreply, htext⟩

/-- Short of a failure, `get_schema` answers the field's schema. -/
theorem getSchema_of_not_failed (hlive : p.live = true) {sch : SchemaNode}
    (hsch : SchemaNode.ofField p.field = .ok sch) (h : ∀ e, p.phase ≠ .failed e) :
    p.getSchema.1 = .ok sch := by
  rw [(getSchema_step hlive).2.2]
  cases hph : p.phase with
  | failed e => exact absurd hph (h e)
  | ready s pos | exhausted =>
    simp only [hsch]
    rfl

theorem goodBefore_exports {s : σ} {n : Nat} (h : GoodBefore field pull s n) :
    ∀ k < n, ∃ a, ExportsAt field pull s 0 k a := by
  intro k hk
  obtain ⟨r, hr, hgood⟩ := h k hk
  cases r with
  | error e => exact hgood.elim
  | ok b =>
    obtain ⟨a, ha⟩ := hgood.2.2
    exact ⟨a, .ok b, hr, by rw [Nat.zero_add]; exact exportBatch_of_good hgood ha⟩

/-- What a stream answers once `j` of its `get_next` calls are done, as the source `s₀` of
its batches decides: its next `get_next`, its `get_schema`, and the state it holds. -/
structure AnswersAfter (field : Field) (pull : σ → Option (Except Error Column × σ)) (s₀ : σ)
    (j : Nat) (p : Producer σ) : Prop where
  /-- While the first `j` batches are good the stream holds the source after `j` pulls, and
  answers the field's schema. -/
  holds : GoodBefore field pull s₀ j →
    (∃ s, sourceAfter pull s₀ j = some s ∧ p.phase = .ready s j) ∧
      ∃ sch, SchemaNode.ofField field = .ok sch ∧ p.getSchema.1 = .ok sch
  /-- A good batch `j` after good ones is exported as its column's descriptor. -/
  exports : ∀ b, GoodBefore field pull s₀ j → batchAt pull s₀ j = some (.ok b) →
    Good field (.ok b) → ∃ a, b.toDescriptor = .ok a ∧ p.getNext.1 = .ok a
  /-- Once a source of good batches ran out the stream answers the end, and the schema. -/
  ends : ∀ m ≤ j, GoodBefore field pull s₀ m → batchAt pull s₀ m = none →
    p.getNext.1 = .ok ArrayNode.ended ∧ (m < j → p.phase = .exhausted) ∧
      ∃ sch, SchemaNode.ofField field = .ok sch ∧ p.getSchema.1 = .ok sch
  /-- From the first batch `f` that is not good on, every `get_next` reports its failure and
  leaves its text, and once it was reported so does `get_schema`. -/
  fails : ∀ f ≤ j, ∀ r, GoodBefore field pull s₀ f → batchAt pull s₀ f = some r →
    ¬ Good field r → ∃ e, Reports f r e ∧
      p.getNext.1 = .error e.errno ∧ p.getNext.2.lastErrorText = some (errorText e) ∧
      (f < j → p.phase = .failed e ∧ p.getSchema.1 = .error e.errno ∧
        p.getSchema.2.lastErrorText = some (errorText e))

/-- A live stream in the phase of `j` steps from a ready source answers as that source
decides. -/
theorem answersAfter_of_phase {s₀ : σ} {j : Nat} (hfield : p.field = field) (hpull : p.pull = pull)
    (hlive : p.live = true) (hsch : ∃ sch, SchemaNode.ofField field = .ok sch)
    (hphase : p.phase = (nextPhase field pull)^[j] (.ready s₀ 0)) :
    AnswersAfter field pull s₀ j p := by
  subst hfield hpull
  obtain ⟨sch, hsch⟩ := hsch
  -- the phase `get_next` leaves is one step more
  have hnext : nextPhase p.field p.pull p.phase = (nextPhase p.field p.pull)^[j + 1] (.ready s₀ 0) := by
    rw [hphase, Function.iterate_succ_apply']
  refine ⟨fun hgood => ?holds, fun b hgood hb hbgood => ?exports,
    fun m hmj hgood hend => ?ends, fun f hfj r hgood hr hbad => ?fails⟩
  case holds =>
    obtain ⟨s, hs, hiter⟩ := iterate_ready (goodBefore_exports hgood)
    rw [Nat.zero_add] at hiter
    refine ⟨⟨s, hs, hphase.trans hiter⟩, sch, hsch, getSchema_of_not_failed hlive hsch ?_⟩
    rw [hphase, hiter]
    exact fun e => nofun
  case exports =>
    obtain ⟨s, hs, hiter⟩ := iterate_ready (goodBefore_exports hgood)
    obtain ⟨a, ha⟩ := hbgood.2.2
    -- batch `j` is the one the held source yields next
    simp only [batchAt, hs, Option.bind_some, Option.map_eq_some_iff] at hb
    obtain ⟨⟨item, rest⟩, hpull, hitem⟩ := hb
    cases hitem
    refine ⟨a, ha, ?_⟩
    rw [(getNext_step hlive).1, hphase, hiter, Nat.zero_add]
    simp only [nextReply, hpull]
    rw [exportBatch_of_good hbgood ha]
  case ends =>
    have hended : ∀ i, m < i → (nextPhase p.field p.pull)^[i] (.ready s₀ 0) = .exhausted :=
      fun i hi => iterate_ended (goodBefore_exports hgood) hend hi
    refine ⟨?_, fun hlt => hphase.trans (hended j hlt), sch, hsch,
      getSchema_of_not_failed hlive hsch ?_⟩
    · rw [(getNext_step hlive).1]
      exact nextReply_of_exhausted (hnext.trans (hended (j + 1) (Nat.lt_succ_of_le hmj)))
    -- before the call the stream is ready at the end of the source, or already ended
    rcases Nat.lt_or_eq_of_le hmj with hlt | rfl
    · rw [hphase, hended j hlt]
      exact fun e => nofun
    · obtain ⟨s, -, hiter⟩ := iterate_ready (goodBefore_exports hgood)
      rw [hphase, hiter]
      exact fun e => nofun
  case fails =>
    obtain ⟨e, hexp, hrep⟩ := exportBatch_of_not_good f hbad
    have hfailed : ∀ i, f < i → (nextPhase p.field p.pull)^[i] (.ready s₀ 0) = .failed e :=
      fun i hi => iterate_fails (goodBefore_exports hgood) hr (by rwa [Nat.zero_add]) hi
    obtain ⟨hreply, htext⟩ :=
      getNext_of_failed hlive (hnext.trans (hfailed (j + 1) (Nat.lt_succ_of_le hfj)))
    refine ⟨e, hrep, hreply, htext, fun hlt => ?_⟩
    -- the failure was reported by an earlier `get_next`, and the stream kept it
    have hph := hphase.trans (hfailed j hlt)
    exact ⟨hph, getSchema_failed hlive hph⟩

/-- An exported stream answers every interleaving of its callbacks as its source decides:
once `j` of its `get_next` calls are done, whatever other calls came between them, its next
`get_next` and its `get_schema` answer by the first `j + 1` batches alone. -/
theorem exportSource_answers {s₀ : σ} {p₀ : Producer σ}
    (hexport : exportSource field pull s₀ = .ok p₀) (calls : List Call) :
    AnswersAfter field pull s₀ (calls.count .next) (calls.foldl perform p₀) := by
  -- the stream starts ready at the source, position 0
  rw [exportSource, Except.bind_eq_ok] at hexport
  obtain ⟨sch, hsch, hp₀⟩ := hexport
  cases Except.pure_eq_ok.1 hp₀
  obtain ⟨hkeep, hphase⟩ := perform_run calls
    (show (⟨field, pull, .ready s₀ 0, none, true⟩ : Producer σ).live = true from rfl)
  exact answersAfter_of_phase hkeep.field_eq hkeep.pull_eq hkeep.live_eq ⟨sch, hsch⟩ hphase

/-- Three batches under a field that holds no nulls: a good one, one with a null, and a
refusal. Two calls of `get_next`, with a call of `get_schema` with no output between them,
leave the stream failed on the second batch. -/
theorem exportSource_answers_after_two :
    let field : Field := ⟨"x", .int32, false, .empty⟩
    let batches : BatchList :=
      [.ok (.numeric .int32 (Buffer.ofList [1, 2]) none),
        .ok (.numeric .int32 (Buffer.ofList [1, 0]) (some ⟨[0b01], 0, 2, false⟩)),
        .error (.malformed "gone")]
    let p₀ : Producer BatchList := ⟨field, BatchList.pull, .ready batches 0, none, true⟩
    exportSource field BatchList.pull batches = .ok p₀ ∧
      AnswersAfter field BatchList.pull batches 2
        ([.next, .nullOut "schema", .next].foldl perform p₀) := by
  intro field batches p₀
  exact ⟨rfl, exportSource_answers rfl [.next, .nullOut "schema", .next]⟩

end Producer

end Columnar
