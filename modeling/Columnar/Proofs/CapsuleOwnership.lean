import Columnar.Capsule.Handle
import Columnar.Proofs.Basic

/-!
# Capsules and export handles have one owner

A capsule holds one descriptor and hands it to one caller at most. Over any calls a holder
makes on it (takes under each kind's name, borrows of the schema):

* a take under another kind's name is refused with both names and leaves the payload where it
  was, so the first take under the capsule's own name moves the payload out;
* once the payload is gone every take is refused: under another name as such, under its own
  as consumed;
* letting the capsule go releases the payload exactly when no call moved it out, and handing
  it over as a raw pointer and wrapping it again gives the capsule back.

Importing a schema capsule and an array capsule, in whatever state and order, releases every
descriptor the two capsules hold exactly once: the import takes both when both are full and
of the right kinds, and otherwise the capsules are let go with what they still hold.

An export handle succeeds once: a failed export leaves it as it was, and every call after the
success is refused as consumed.

All three are owners that hand their one possession over at the first call that takes it. The
answers of such an owner are `onceAnswers`, told at each call whether the possession is gone
(`runInputs_once`); each fact above is a fact about `onceAnswers`.
-/

namespace Columnar

/-! ## Owners that hand one thing over once -/

section Once

variable {σ ι ο : Type}

/-- The answers of a machine to inputs in order, and the state they leave. -/
def runInputs (step : σ → ι → ο × σ) : σ → List ι → List ο × σ
  | s, [] => ([], s)
  | s, x :: xs => ((step s x).1 :: (runInputs step (step s x).2 xs).1, (runInputs step (step s x).2 xs).2)

variable (answer : Bool → ι → ο) (moves : ι → Bool)

/-- The answers of an owner that gives its possession away at the first input that `moves`
it: each input is answered as `answer` says, told whether the possession is gone. -/
def onceAnswers : Bool → List ι → List ο
  | _, [] => []
  | gone, x :: xs => answer gone x :: onceAnswers (gone || moves x) xs

/-- The answer to the `i`-th input is told whether an earlier input moved the possession. -/
theorem getElem?_onceAnswers : ∀ (gone : Bool) (xs : List ι) (i : Nat),
    (onceAnswers answer moves gone xs)[i]? = xs[i]?.map (answer (gone || (xs.take i).any moves))
  | _, [], _ => rfl
  | gone, x :: xs, 0 => by simp [onceAnswers]
  | gone, x :: xs, i + 1 => by
    simp [onceAnswers, getElem?_onceAnswers (gone || moves x) xs i, Bool.or_assoc]

theorem take_onceAnswers : ∀ (gone : Bool) (xs : List ι) (i : Nat),
    (onceAnswers answer moves gone xs).take i = onceAnswers answer moves gone (xs.take i)
  | _, [], _ => by simp [onceAnswers]
  | _, _ :: _, 0 => rfl
  | gone, x :: xs, i + 1 => by
    simp only [onceAnswers, List.take_succ_cons, take_onceAnswers (gone || moves x) xs i]

variable {answer moves}

/-- A machine whose steps are those of such an owner answers a run as the owner does. -/
theorem runInputs_once {step : σ → ι → ο × σ} {state : Bool → σ}
    (hstep : ∀ g x, step (state g) x = (answer g x, state (g || moves x))) :
    ∀ (gone : Bool) (xs : List ι),
      runInputs step (state gone) xs =
        (onceAnswers answer moves gone xs, state (gone || xs.any moves))
  | gone, [] => by simp [runInputs, onceAnswers]
  | gone, x :: xs => by
    simp only [runInputs, hstep, runInputs_once hstep _ xs, onceAnswers, List.any_cons,
      Bool.or_assoc]

theorem mem_onceAnswers {gone : Bool} {xs : List ι} {a : ο}
    (h : a ∈ onceAnswers answer moves gone xs) : ∃ g, ∃ x ∈ xs, a = answer g x := by
  induction xs generalizing gone with
  | nil => cases h
  | cons x xs ih =>
    rcases List.mem_cons.1 h with rfl | h
    · exact ⟨gone, x, List.mem_cons_self .., rfl⟩
    · obtain ⟨g, y, hy, rfl⟩ := ih h
      exact ⟨g, y, List.mem_cons_of_mem _ hy, rfl⟩

section Counted

variable {P : ο → Bool} (hP : ∀ g x, P (answer g x) = true ↔ g = false ∧ moves x = true)
include hP

/-- An answer that counts (`P`) is one that moves the possession: there is one such answer
when some input moves it while it is still there, and none otherwise. -/
theorem countP_onceAnswers : ∀ (gone : Bool) (xs : List ι),
    (onceAnswers answer moves gone xs).countP P = if !gone && xs.any moves then 1 else 0
  | gone, [] => by simp [onceAnswers]
  | gone, x :: xs => by
    rw [onceAnswers, List.countP_cons, countP_onceAnswers (gone || moves x) xs]
    cases gone <;> cases hx : moves x <;> simp [hP, hx]

theorem any_onceAnswers (gone : Bool) (xs : List ι) :
    (onceAnswers answer moves gone xs).any P = (!gone && xs.any moves) := by
  have hcount := countP_onceAnswers hP gone xs
  cases h : (onceAnswers answer moves gone xs).any P
  · rw [List.any_eq_false] at h
    rw [List.countP_eq_zero.2 (by simpa using h)] at hcount
    cases hm : (!gone && xs.any moves) <;> simp_all
  · obtain ⟨a, ha, hPa⟩ := List.any_eq_true.1 h
    have hpos : 0 < (onceAnswers answer moves gone xs).countP P :=
      List.countP_pos_iff.2 ⟨a, ha, hPa⟩
    cases hm : (!gone && xs.any moves) <;> simp_all

end Counted

theorem any_take_of_lt {xs : List ι} {i j : Nat} {x : ι} (hij : i < j) (hi : xs[i]? = some x)
    (hx : moves x = true) : (xs.take j).any moves = true :=
  List.any_eq_true.2 ⟨x, List.mem_of_getElem? ((List.getElem?_take_of_lt hij).trans hi), hx⟩

end Once

/-! ## Capsules -/

namespace Capsule

/-- A call a holder makes on a capsule it keeps: a take under a kind's name, or a borrow of
the schema. -/
inductive Call where
  | take (k : CapsuleKind)
  | borrow
  deriving DecidableEq

/-- What a call answers: the descriptor moved out, the schema borrowed, or a refusal. -/
inductive Answer where
  | moved (p : Payload)
  | borrowed
  | refused (e : Error)

/-- The answer moved a descriptor out. -/
def Answer.isMoved : Answer → Bool
  | .moved _ => true
  | _ => false

/-- A call on a capsule, with the capsule it leaves; a refused call leaves it as it was. -/
def call (c : Capsule) : Call → Answer × Capsule
  | .take .schema =>
    match c.takeSchema with
    | .ok (s, c') => (.moved (.schema s), c')
    | .error e => (.refused e, c)
  | .take .array =>
    match c.takeArray with
    | .ok (a, c') => (.moved (.array a), c')
    | .error e => (.refused e, c)
  | .take .stream =>
    match c.takeStream with
    | .ok (s, c') => (.moved (.stream s), c')
    | .error e => (.refused e, c)
  | .borrow =>
    match c.schema? with
    | .ok _ => (.borrowed, c)
    | .error e => (.refused e, c)

/-- The capsule of `p`'s kind, holding `p` until it is `gone`. Every capsule is one of these:
the library only wraps a payload under its own kind's name. -/
def held (p : Payload) (gone : Bool) : Capsule :=
  ⟨p.kind, if gone then none else some p⟩

@[simp] theorem isConsumed_held (p : Payload) (gone : Bool) : (held p gone).isConsumed = gone := by
  cases gone <;> rfl

/-- The call takes under the payload's own kind's name. -/
def takesOwn (p : Payload) (x : Call) : Bool :=
  x == .take p.kind

/-- What a call answers on a capsule of `p`: the name is checked before the payload. -/
def expectedAnswer (p : Payload) (gone : Bool) : Call → Answer
  | .take k =>
    if k ≠ p.kind then .refused (.wrongCapsule k.name p.kind.name)
    else if gone then .refused (.consumed k.name) else .moved p
  | .borrow =>
    if p.kind ≠ .schema then .refused (.wrongCapsule "arrow_schema" p.kind.name)
    else if gone then .refused (.consumed "arrow_schema") else .borrowed

/-- One call, for every kind of payload, capsule state and call. -/
theorem call_held (p : Payload) (gone : Bool) (x : Call) :
    (held p gone).call x = (expectedAnswer p gone x, held p (gone || takesOwn p x)) := by
  rcases p with s | a | s <;> cases gone <;> rcases x with (_ | _ | _) | _ <;> rfl

theorem run_held (p : Payload) (gone : Bool) (xs : List Call) :
    runInputs call (held p gone) xs =
      (onceAnswers (expectedAnswer p) (takesOwn p) gone xs, held p (gone || xs.any (takesOwn p))) :=
  runInputs_once (call_held p) gone xs

theorem isMoved_expectedAnswer_iff (p : Payload) (gone : Bool) (x : Call) :
    (expectedAnswer p gone x).isMoved = true ↔ gone = false ∧ takesOwn p x = true := by
  rcases x with k | _
  · by_cases hk : k = p.kind <;> cases gone <;>
      simp [expectedAnswer, takesOwn, hk, Answer.isMoved]
  · by_cases hk : p.kind = .schema <;> cases gone <;>
      simp [expectedAnswer, takesOwn, hk, Answer.isMoved]

theorem eq_of_expectedAnswer_moved {p q : Payload} {gone : Bool} {x : Call}
    (h : expectedAnswer p gone x = .moved q) : q = p ∧ gone = false ∧ x = .take p.kind := by
  obtain ⟨rfl, hx⟩ := (isMoved_expectedAnswer_iff p gone x).1 (by rw [h]; rfl)
  obtain rfl : x = .take p.kind := by simpa [takesOwn] using hx
  simp only [expectedAnswer, ne_eq, not_true_eq_false, if_false, Bool.false_eq_true,
    Answer.moved.injEq] at h
  exact ⟨h.symm, rfl, rfl⟩

theorem any_takesOwn_eq_false {p : Payload} {xs : List Call} (h : Call.take p.kind ∉ xs) :
    xs.any (takesOwn p) = false := by
  rw [List.any_eq_false]
  intro x hx hown
  obtain rfl : x = .take p.kind := by simpa [takesOwn] using hown
  exact h hx

theorem drop_held (l : Ledger) (p : Payload) (gone : Bool) :
    Capsule.drop l (held p gone) = if gone then l else p.release l := by
  cases gone <;> rfl

/-- Wrapping a payload again under its own kind's name gives the capsule that held it. -/
theorem intoRaw_ofRaw_held (p : Payload) (gone : Bool) :
    ((held p gone).intoRaw >>= fun r => Capsule.ofRaw r.1.name r.2) =
      if gone then .error (.consumed p.kind.name) else .ok (held p gone) := by
  cases gone
  · rcases p with s | a | s <;> rfl
  · rfl

/-- What a capsule that holds `p` (or held it, once `gone`) answers to calls `xs`, and the
capsule `final` they leave: it hands `p` over once at most. -/
structure SingleOwner (p : Payload) (gone : Bool) (xs : List Call) (answers : List Answer)
    (final : Capsule) : Prop where
  /-- At most one call moves the payload out, none once it is gone, and what moves is `p`. -/
  movesOnce : answers.countP Answer.isMoved + (if gone then 1 else 0) ≤ 1
  movesPayload : ∀ q, Answer.moved q ∈ answers → q = p
  /-- A take under another kind's name is refused with both names. -/
  wrongName : ∀ (i : Nat) k, xs[i]? = some (Call.take k) → k ≠ p.kind →
    answers[i]? = some (Answer.refused (.wrongCapsule k.name p.kind.name))
  /-- A refused call leaves the payload in place: the first take under the capsule's own
  name moves it out, whatever came before. -/
  firstTakeMoves : ∀ i : Nat, gone = false → xs[i]? = some (Call.take p.kind) →
    Call.take p.kind ∉ xs.take i → answers[i]? = some (Answer.moved p)
  /-- Once the payload is gone every take is refused: under another name as such, under the
  capsule's own as consumed. -/
  refusedAfter : ∀ (j : Nat) k, (gone = true ∨ ∃ i < j, answers[i]? = some (Answer.moved p)) →
    xs[j]? = some (Call.take k) →
    answers[j]? = some (Answer.refused
      (if k = p.kind then .consumed k.name else .wrongCapsule k.name p.kind.name))
  /-- The capsule still holds the payload exactly when no call moved it out. -/
  keeps : final.isConsumed = true ↔ gone = true ∨ ∃ q, Answer.moved q ∈ answers
  /-- Letting the capsule go releases the payload exactly when it still holds it. -/
  drops : ∀ l, Capsule.drop l final = if final.isConsumed then l else p.release l
  /-- Handing the payload over as a raw pointer and wrapping it again under its name gives
  the capsule back; once the payload is gone the hand-over is refused. -/
  rawRoundTrip : (final.intoRaw >>= fun r => Capsule.ofRaw r.1.name r.2) =
    if final.isConsumed then .error (.consumed p.kind.name) else .ok final

theorem run_single_owner (p : Payload) (gone : Bool) (xs : List Call) :
    SingleOwner p gone xs (runInputs call (held p gone) xs).1 (runInputs call (held p gone) xs).2 := by
  rw [run_held]
  have hcount := countP_onceAnswers (isMoved_expectedAnswer_iff p) gone xs
  have hget := getElem?_onceAnswers (expectedAnswer p) (takesOwn p) gone xs
  refine ⟨?movesOnce, ?movesPayload, ?wrongName, ?first, ?after, ?keeps, ?drops, ?raw⟩
  case movesOnce =>
    rw [hcount]
    cases gone <;> cases xs.any (takesOwn p) <;> simp
  case movesPayload =>
    intro q hq
    obtain ⟨g, x, -, hx⟩ := mem_onceAnswers hq
    exact (eq_of_expectedAnswer_moved hx.symm).1
  case wrongName =>
    intro i k hi hk
    simp [hget, hi, expectedAnswer, hk]
  case first =>
    intro i hgone hi hfresh
    rw [hget, hi, hgone, any_takesOwn_eq_false hfresh]
    simp [expectedAnswer]
  case after =>
    intro j k hgone hj
    -- the payload is gone by the `j`-th call
    have hflag : (gone || (xs.take j).any (takesOwn p)) = true := by
      rcases hgone with rfl | ⟨i, hij, hi⟩
      · rfl
      · rw [hget, Option.map_eq_some_iff] at hi
        obtain ⟨x, hx, hmoved⟩ := hi
        obtain ⟨-, -, rfl⟩ := eq_of_expectedAnswer_moved hmoved
        rw [any_take_of_lt hij hx (by simp [takesOwn]), Bool.or_true]
    rw [hget, hj, hflag]
    by_cases hk : k = p.kind <;> simp [expectedAnswer, hk]
  case keeps =>
    have hmoved : (∃ q, Answer.moved q ∈ onceAnswers (expectedAnswer p) (takesOwn p) gone xs) ↔
        (!gone && xs.any (takesOwn p)) = true := by
      rw [← any_onceAnswers (isMoved_expectedAnswer_iff p) gone xs, List.any_eq_true]
      constructor
      · rintro ⟨q, hq⟩
        exact ⟨_, hq, rfl⟩
      · rintro ⟨a, ha, hmv⟩
        cases a with
        | moved q => exact ⟨q, ha⟩
        | _ => cases hmv
    rw [isConsumed_held, hmoved]
    cases gone <;> simp
  case drops =>
    intro l
    rw [isConsumed_held, drop_held]
  case raw =>
    rw [isConsumed_held, intoRaw_ofRaw_held]

/-! ## Importing a pair of capsules -/

theorem expect_eq_ok {c : Capsule} {k : CapsuleKind} (h : c.expect k = .ok ()) : c.kind = k := by
  unfold expect at h
  split_ifs at h with hk
  exact Decidable.of_not_not hk

theorem take_eq_ok {c c' : Capsule} {k : CapsuleKind} {p : Payload} (h : c.take k = .ok (p, c')) :
    c.kind = k ∧ c.payload = some p ∧ p.kind = k ∧ c'.payload = none := by
  rw [take, Except.bind_eq_ok] at h
  obtain ⟨⟨⟩, hexp, h⟩ := h
  cases hp : c.payload with
  | none => simp [hp] at h
  | some q =>
    rw [hp] at h
    dsimp only at h
    -- a payload of another kind is refused, which `split_ifs` sees at once
    split_ifs at h with hq
    simp only [Except.pure_eq_ok, Prod.mk.injEq] at h
    obtain ⟨rfl, rfl⟩ := h
    exact ⟨expect_eq_ok hexp, rfl, hq, rfl⟩

theorem takeSchema_eq_ok {c c' : Capsule} {s : SchemaNode} (h : c.takeSchema = .ok (s, c')) :
    c = held (.schema s) false ∧ c'.payload = none := by
  rw [takeSchema, Except.bind_eq_ok] at h
  obtain ⟨⟨p, c''⟩, ht, h⟩ := h
  obtain ⟨hk, hp, hpk, hc''⟩ := take_eq_ok ht
  cases p with
  | schema s' =>
    simp only [Except.pure_eq_ok, Prod.mk.injEq] at h
    obtain ⟨rfl, rfl⟩ := h
    cases c
    simp_all [held, Payload.kind]
  | _ => cases hpk

theorem takeArray_eq_ok {c c' : Capsule} {a : ArrayNode} (h : c.takeArray = .ok (a, c')) :
    c = held (.array a) false ∧ c'.payload = none := by
  rw [takeArray, Except.bind_eq_ok] at h
  obtain ⟨⟨p, c''⟩, ht, h⟩ := h
  obtain ⟨hk, hp, hpk, hc''⟩ := take_eq_ok ht
  cases p with
  | array a' =>
    simp only [Except.pure_eq_ok, Prod.mk.injEq] at h
    obtain ⟨rfl, rfl⟩ := h
    cases c
    simp_all [held, Payload.kind]
  | _ => cases hpk

theorem drop_of_consumed {c : Capsule} (h : c.payload = none) (l : Ledger) :
    Capsule.drop l c = l := by
  simp [Capsule.drop, h]

/-- Whatever the import does, each descriptor the two capsules hold is released exactly once:
by the import, which owns what it took, or when the capsules are let go. -/
theorem importCapsulePair_ledger (schema array : Capsule) :
    (importCapsulePair schema array).2 = Capsule.drop (Capsule.drop {} schema) array := by
  unfold importCapsulePair
  cases hs : schema.takeSchema with
  | error e => rfl
  | ok r =>
    obtain ⟨s, schema'⟩ := r
    obtain ⟨rfl, hs'⟩ := takeSchema_eq_ok hs
    -- once the schema is taken its capsule releases nothing more
    have hheld : Capsule.drop (Ledger.schema {} s) schema' =
        Capsule.drop {} (held (.schema s) false) := by
      rw [drop_of_consumed hs']
      rfl
    cases ha : array.takeArray with
    | error e => simp only [hheld]
    | ok r' =>
      obtain ⟨a, array'⟩ := r'
      obtain ⟨rfl, ha'⟩ := takeArray_eq_ok ha
      simp only [hheld, drop_of_consumed ha']
      rfl

theorem importCapsulePair_held (s : SchemaNode) (a : ArrayNode) :
    (importCapsulePair (held (.schema s) false) (held (.array a) false)).1 = a.importSeries s :=
  rfl

/-- Unless both capsules are full and of the right kinds the import refuses, taking nothing. -/
theorem importCapsulePair_refused {schema array : Capsule}
    (h : ¬ ∃ s a, schema = held (.schema s) false ∧ array = held (.array a) false) :
    ∃ e, (importCapsulePair schema array).1 = .error e := by
  unfold importCapsulePair
  cases hs : schema.takeSchema with
  | error e => exact ⟨e, rfl⟩
  | ok r =>
    obtain ⟨s, schema'⟩ := r
    cases ha : array.takeArray with
    | error e => exact ⟨e, rfl⟩
    | ok r' =>
      obtain ⟨a, array'⟩ := r'
      exact absurd ⟨s, a, (takeSchema_eq_ok hs).1, (takeArray_eq_ok ha).1⟩ h

end Capsule

/-! ## Export handles -/

/-- An export of a handle with `out` as its source's export, refused as consumed once it is
`gone`. -/
def exportAnswer {β : Type} (name : String) (out : Option Capsule → Except Error β) (gone : Bool)
    (r : Option Capsule) : Except Error β :=
  if gone then .error (.consumed name) else out r

/-- What a handle answers to exports with requested schemas `reqs`, and whether it is consumed
after them: it exports once. -/
structure UsedOnce {β : Type} (name : String) (out : Option Capsule → Except Error β)
    (reqs : List (Option Capsule)) (answers : List (Except Error β)) (consumed : Bool) : Prop where
  /-- At most one export succeeds. -/
  succeedsOnce : answers.countP Except.isOk ≤ 1
  /-- Until one succeeds, each call exports the source. -/
  exportsUntilDone : ∀ (i : Nat) r, reqs[i]? = some r → (answers.take i).any Except.isOk = false →
    answers[i]? = some (out r)
  /-- Every call after a success is refused as consumed. -/
  refusedAfter : ∀ (i j : Nat) b, i < j → answers[i]? = some (Except.ok b) →
    ∀ a, answers[j]? = some a → a = Except.error (.consumed name)
  /-- The handle is consumed exactly when an export succeeded: failed exports leave it
  unconsumed. -/
  consumedIff : consumed = answers.any Except.isOk

theorem isOk_exportAnswer_iff {β : Type} (name : String) (out : Option Capsule → Except Error β)
    (g : Bool) (r : Option Capsule) :
    (exportAnswer name out g r).isOk = true ↔ g = false ∧ (out r).isOk = true := by
  cases g <;> simp [exportAnswer, Except.isOk, Except.toBool]

theorem usedOnce_onceAnswers {β : Type} (name : String) (out : Option Capsule → Except Error β)
    (reqs : List (Option Capsule)) :
    UsedOnce name out reqs (onceAnswers (exportAnswer name out) (fun r => (out r).isOk) false reqs)
      (reqs.any fun r => (out r).isOk) := by
  have hP := isOk_exportAnswer_iff name out
  have hget := getElem?_onceAnswers (exportAnswer name out) (fun r => (out r).isOk) false reqs
  refine ⟨?once, ?exports, ?after, ?iff⟩
  case once =>
    rw [countP_onceAnswers hP]
    split <;> simp
  case exports =>
    intro i r hr hnone
    rw [take_onceAnswers, any_onceAnswers hP, Bool.not_false, Bool.true_and] at hnone
    simp [hget, hr, hnone, exportAnswer]
  case after =>
    intro i j b hij hi a hj
    rw [hget, Option.map_eq_some_iff] at hi
    obtain ⟨r, hr, hok⟩ := hi
    have hout : (out r).isOk = true := ((hP _ r).1 (by rw [hok]; rfl)).2
    rw [hget, Bool.false_or, any_take_of_lt hij hr hout] at hj
    simp only [Option.map_eq_some_iff, exportAnswer, if_true] at hj
    obtain ⟨_, _, rfl⟩ := hj
    rfl
  case iff =>
    rw [any_onceAnswers hP, Bool.not_false, Bool.true_and]

namespace ArrayHandle

/-- The handle of a source, unconsumed until `gone`. -/
def after (s : ArraySource) (gone : Bool) : ArrayHandle :=
  ⟨if gone then none else some s⟩

theorem export?_after (s : ArraySource) (gone : Bool) (r : Option Capsule) :
    (after s gone).export? r =
      (exportAnswer "__arrow_c_array__" (s.toCapsules ·) gone r,
        after s (gone || (s.toCapsules r).isOk)) := by
  cases gone
  · cases h : s.toCapsules r <;> simp [after, export?, exportAnswer, h, Except.isOk, Except.toBool]
  · rfl

theorem exports_usedOnce (s : ArraySource) (reqs : List (Option Capsule)) :
    UsedOnce "__arrow_c_array__" (s.toCapsules ·) reqs (runInputs export? (after s false) reqs).1
      (runInputs export? (after s false) reqs).2.isConsumed := by
  rw [runInputs_once (export?_after s) false reqs]
  have h := usedOnce_onceAnswers "__arrow_c_array__" (s.toCapsules ·) reqs
  cases hany : reqs.any fun r => (s.toCapsules r).isOk <;> simp_all [after, isConsumed]

end ArrayHandle

namespace StreamHandle

/-- The handle of a source, unconsumed until `gone`. -/
def after (s : StreamSource) (gone : Bool) : StreamHandle :=
  ⟨if gone then none else some s⟩

theorem export?_after (s : StreamSource) (gone : Bool) (r : Option Capsule) :
    (after s gone).export? r =
      (exportAnswer "__arrow_c_stream__" (s.toCapsule ·) gone r,
        after s (gone || (s.toCapsule r).isOk)) := by
  cases gone
  · cases h : s.toCapsule r <;> simp [after, export?, exportAnswer, h, Except.isOk, Except.toBool]
  · rfl

theorem exports_usedOnce (s : StreamSource) (reqs : List (Option Capsule)) :
    UsedOnce "__arrow_c_stream__" (s.toCapsule ·) reqs (runInputs export? (after s false) reqs).1
      (runInputs export? (after s false) reqs).2.isConsumed := by
  rw [runInputs_once (export?_after s) false reqs]
  have h := usedOnce_onceAnswers "__arrow_c_stream__" (s.toCapsule ·) reqs
  cases hany : reqs.any fun r => (s.toCapsule r).isOk <;> simp_all [after, isConsumed]

end StreamHandle

/-! ## One owner for every descriptor -/

/-- Capsules and export handles have one owner. A capsule in any state hands its payload to
one caller at most, refuses takes under another name without moving it, and releases it when
let go exactly when no one took it; a pair import releases every descriptor the two capsules
hold exactly once, taking both into the import only when both are full and of the right
kinds; and each export handle exports once. -/
theorem capsules_have_one_owner (p : Payload) (gone : Bool) (calls : List Capsule.Call)
    (schema array : Capsule) (a : ArraySource) (t : StreamSource)
    (reqs : List (Option Capsule)) :
    Capsule.SingleOwner p gone calls (runInputs Capsule.call (Capsule.held p gone) calls).1
      (runInputs Capsule.call (Capsule.held p gone) calls).2 ∧
    (importCapsulePair schema array).2 = Capsule.drop (Capsule.drop {} schema) array ∧
    (∀ s n, schema = Capsule.held (.schema s) false → array = Capsule.held (.array n) false →
      (importCapsulePair schema array).1 = n.importSeries s) ∧
    ((¬ ∃ s n, schema = Capsule.held (.schema s) false ∧ array = Capsule.held (.array n) false) →
      ∃ e, (importCapsulePair schema array).1 = .error e) ∧
    UsedOnce "__arrow_c_array__" (a.toCapsules ·) reqs
      (runInputs ArrayHandle.export? (ArrayHandle.after a false) reqs).1
      (runInputs ArrayHandle.export? (ArrayHandle.after a false) reqs).2.isConsumed ∧
    UsedOnce "__arrow_c_stream__" (t.toCapsule ·) reqs
      (runInputs StreamHandle.export? (StreamHandle.after t false) reqs).1
      (runInputs StreamHandle.export? (StreamHandle.after t false) reqs).2.isConsumed := by
  refine ⟨Capsule.run_single_owner p gone calls, Capsule.importCapsulePair_ledger schema array,
    ?_, Capsule.importCapsulePair_refused, ArrayHandle.exports_usedOnce a reqs,
    StreamHandle.exports_usedOnce t reqs⟩
  rintro s n rfl rfl
  exact Capsule.importCapsulePair_held s n

end Columnar
