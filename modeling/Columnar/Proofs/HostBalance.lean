import Columnar.Binding.Convert
import Columnar.Proofs.Basic

/-!
# What a session owes

A session releases descriptors made outside the library, and its ledger counts those
releases. Some releases are still to come: a capsule's descriptor is released by whoever
moves it out, or by the capsule's destructor, and memory imported without copying is
settled when what keeps it goes. The *balance* of a session counts both, the releases made
and those still owed by its objects:

> `balance s = s.ledger + Σ (owes of each object on the heap)`.

An ownership discipline is a statement about the balance. Moving a descriptor out of a
capsule moves what it owes from the heap into the hands of the code that took it; settling
moves it into the ledger; keeping it in a converted value leaves it owed by that value. None
of these changes the balance. Only the outside world adds to it, when it hands over fresh
descriptors, and it counts what it hands over in the session (`handed`).

`Settles x ob m s` says this of a computation `x` of the session run from `s`: the balance
at the end, plus what the result owes (`ob`), is the balance at the start plus `m` plus what
the outside world handed over meanwhile. The combinators below (`Settles.bind`,
`Settles.tryCatch`, ...) follow the shape of the code, so each function's statement is proved
from those of the functions it calls.

Ledgers add up componentwise; they form a commutative monoid, and the balance is a sum in
it.
-/

namespace Columnar

/-! ## Ledgers add up -/

namespace Ledger

instance : Add Ledger := ⟨merge⟩

instance : Zero Ledger := ⟨{}⟩

@[simp] theorem add_arrays (l m : Ledger) : (l + m).arrays = l.arrays + m.arrays := rfl

@[simp] theorem add_schemas (l m : Ledger) : (l + m).schemas = l.schemas + m.schemas := rfl

@[simp] theorem add_streams (l m : Ledger) : (l + m).streams = l.streams + m.streams := rfl

@[simp] theorem zero_arrays : (0 : Ledger).arrays = 0 := rfl

@[simp] theorem zero_schemas : (0 : Ledger).schemas = 0 := rfl

@[simp] theorem zero_streams : (0 : Ledger).streams = 0 := rfl

theorem ext {l m : Ledger} (ha : l.arrays = m.arrays) (hs : l.schemas = m.schemas)
    (ht : l.streams = m.streams) : l = m := by
  cases l
  cases m
  simp_all

instance : AddCommMonoid Ledger where
  add_assoc a b c := ext (Nat.add_assoc ..) (Nat.add_assoc ..) (Nat.add_assoc ..)
  zero_add a := ext (Nat.zero_add _) (Nat.zero_add _) (Nat.zero_add _)
  add_zero a := ext (Nat.add_zero _) (Nat.add_zero _) (Nat.add_zero _)
  add_comm a b := ext (Nat.add_comm ..) (Nat.add_comm ..) (Nat.add_comm ..)
  nsmul := nsmulRec

@[simp] theorem merge_eq_add (l m : Ledger) : l.merge m = l + m := rfl

@[simp] theorem mk_zero : (⟨0, 0, 0⟩ : Ledger) = 0 := rfl

/-- The release of one schema root: one count for a live foreign root, none otherwise. -/
def ofSchema (s : SchemaNode) : Ledger :=
  Ledger.schema 0 s

/-- The release of one array root. -/
def ofArray (a : ArrayNode) : Ledger :=
  Ledger.array 0 a

@[simp] theorem schema_eq (l : Ledger) (s : SchemaNode) : l.schema s = l + ofSchema s := by
  unfold ofSchema schema
  split_ifs <;> apply ext <;> simp

@[simp] theorem array_eq (l : Ledger) (a : ArrayNode) : l.array a = l + ofArray a := by
  unfold ofArray array
  split_ifs <;> apply ext <;> simp

@[simp] theorem ofSchema_of_released {s : SchemaNode} (h : s.released = true) :
    ofSchema s = 0 := by
  simp [ofSchema, schema, h]

@[simp] theorem ofArray_of_released {a : ArrayNode} (h : a.released = true) :
    ofArray a = 0 := by
  simp [ofArray, array, h]

end Ledger

/-- What releasing a payload counts. -/
def Payload.owes (p : Payload) : Ledger :=
  p.release 0

@[simp] theorem Payload.release_eq (l : Ledger) (p : Payload) : p.release l = l + p.owes := by
  cases p <;> simp [Payload.release, Payload.owes, Ledger.schema_eq, Ledger.array_eq]

/-- The session with the object of an identifier replaced, as `Host.store` leaves it. -/
def Session.put {O : Type} (s : Session O) (id : Nat) (o : HostObject O) : Session O :=
  { s with heap := s.heap.map fun (i, old) => (i, if i == id then o else old) }

/-- The session with an object added under the next identifier, as `Host.alloc` leaves it. -/
def Session.push {O : Type} (s : Session O) (o : HostObject O) : Session O :=
  { s with heap := s.heap ++ [(s.fresh, o)], fresh := s.fresh + 1 }

/-! ## Running computations of the session -/

namespace Host

variable {O : Type}

/-- What a computation gives and leaves, run from a session. -/
def exec {α : Type} (x : Host O α) (s : Session O) : Except Raised α × Session O :=
  x.run.run s

variable {α β : Type}

@[simp] theorem exec_pure (a : α) (s : Session O) : exec (pure a : Host O α) s = (.ok a, s) := rfl

@[simp] theorem exec_throw (e : Raised) (s : Session O) :
    exec (throw e : Host O α) s = (.error e, s) := rfl

@[simp] theorem exec_raise (type message : String) (s : Session O) :
    exec (raise type message : Host O α) s = (.error ⟨type, message⟩, s) := rfl

@[simp] theorem exec_get (s : Session O) : exec (get : Host O (Session O)) s = (.ok s, s) := rfl

@[simp] theorem exec_modify (f : Session O → Session O) (s : Session O) :
    exec (modify f : Host O PUnit) s = (.ok ⟨⟩, f s) := rfl

theorem exec_bind (x : Host O α) (f : α → Host O β) (s : Session O) :
    exec (x >>= f) s = match exec x s with
      | (.ok a, s') => exec (f a) s'
      | (.error e, s') => (.error e, s') := by
  simp only [exec, ExceptT.run_bind, StateT.run_bind]
  rcases (x.run.run s) with ⟨r, s'⟩
  cases r <;> rfl

@[simp] theorem exec_map (f : α → β) (x : Host O α) (s : Session O) :
    exec (f <$> x) s = ((exec x s).1.map f, (exec x s).2) := by
  rw [map_eq_pure_bind, exec_bind]
  rcases exec x s with ⟨_ | a, s'⟩ <;> rfl

theorem exec_tryCatch (x : Host O α) (h : Raised → Host O α) (s : Session O) :
    exec (tryCatch x h) s = match exec x s with
      | (.ok a, s') => (.ok a, s')
      | (.error e, s') => exec (h e) s' := by
  change (ExceptT.tryCatch x h).run.run s = _
  simp only [exec, ExceptT.tryCatch, ExceptT.run_mk, StateT.run_bind]
  rcases hx : (x.run.run s) with ⟨r, s'⟩
  have hx' : StateT.run x s = (r, s') := hx
  rw [hx']
  cases r <;> rfl

@[simp] theorem exec_settle (l : Ledger) (s : Session O) :
    exec (settle l) s = (.ok (), { s with ledger := s.ledger + l }) := rfl

@[simp] theorem exec_handOver (l : Ledger) (s : Session O) :
    exec (handOver l) s = (.ok (), { s with handed := s.handed + l }) := rfl

@[simp] theorem exec_store (id : Nat) (o : HostObject O) (s : Session O) :
    exec (store id o) s = (.ok (), s.put id o) :=
  rfl

@[simp] theorem exec_alloc (o : HostObject O) (s : Session O) :
    exec (alloc o) s = (.ok (.ref s.fresh), s.push o) :=
  rfl

@[simp] theorem exec_fetch (id : Nat) (s : Session O) :
    exec (fetch id) s = (match s.object? id with
      | some o => .ok o
      | none => .error ⟨"ReferenceError", "weakly-referenced object no longer exists"⟩, s) := by
  unfold fetch
  rw [exec_bind, exec_get]
  dsimp only
  cases s.object? id <;> rfl

end Host

/-! ## The balance of a session -/

/-- What a capsule owes: the release of the descriptor it holds, and what that descriptor's
memory owes. -/
def HostCapsule.owes (c : HostCapsule) : Ledger :=
  c.payload.owes + c.owed

/-- What an object owes: a capsule what its descriptor owes, an export object what the
memory of its source owes. An outside object owes nothing the session holds. -/
def HostObject.owes {O : Type} : HostObject O → Ledger
  | .capsule c => c.owes
  | .arrayExport _ owed => owed
  | .streamExport _ owed => owed
  | .outside _ => 0

namespace Session

variable {O : Type}

/-- The releases made, and those the objects of the heap still owe. -/
def balance (s : Session O) : Ledger :=
  s.ledger + (s.heap.map fun e => e.2.owes).sum

/-- The identifiers of the heap are distinct and below the next one. -/
structure WF (s : Session O) : Prop where
  nodup : (s.heap.map Prod.fst).Nodup
  below : ∀ e ∈ s.heap, e.1 < s.fresh

variable {s : Session O} {id j : Nat} {o o' : HostObject O}

/-- An entry of a heap whose identifiers are distinct is what the heap holds there. -/
theorem object?_eq_some_iff (hwf : s.WF) : s.object? id = some o ↔ (id, o) ∈ s.heap := by
  unfold object?
  constructor
  · intro h
    obtain ⟨e, he, rfl⟩ := Option.map_eq_some_iff.mp h
    have hid := List.find?_some he
    simp only [beq_iff_eq] at hid
    rw [← hid]
    exact List.mem_of_find?_eq_some he
  · intro h
    obtain ⟨e, he⟩ : ∃ e, s.heap.find? (·.1 == id) = some e := by
      cases hf : s.heap.find? (·.1 == id) with
      | none =>
        have := List.find?_eq_none.mp hf (id, o) h
        simp at this
      | some e => exact ⟨e, rfl⟩
    have hid : e.1 = id := by simpa using List.find?_some he
    have hmem := List.mem_of_find?_eq_some he
    have heq : e = (id, o) := by
      have := (List.inj_on_of_nodup_map hwf.nodup) hmem h hid
      exact this
    simp [he, heq]

/-- Replacing the object of an identifier the heap does not hold changes nothing. -/
theorem map_put_of_not_mem {l : List (Nat × HostObject O)} (h : id ∉ l.map Prod.fst) :
    (l.map fun (i, old) => (i, if i == id then o else old)) = l := by
  induction l with
  | nil => rfl
  | cons e l ih =>
    simp only [List.map_cons, List.mem_cons, not_or] at h ⊢
    have hne : (e.1 == id) = false := by simpa using fun he => h.1 he.symm
    rw [ih h.2, hne]
    rfl

/-- Replacing the object of an identifier that a heap with distinct identifiers holds moves
what the heap owes from the old object to the new one. -/
theorem sum_owes_put {l : List (Nat × HostObject O)} (hnd : (l.map Prod.fst).Nodup)
    (h : (id, o) ∈ l) :
    ((l.map fun (i, old) => (i, if i == id then o' else old)).map fun e => e.2.owes).sum +
      o.owes = (l.map fun e => e.2.owes).sum + o'.owes := by
  induction l with
  | nil => simp at h
  | cons e l ih =>
    simp only [List.map_cons, List.nodup_cons] at hnd
    rcases List.mem_cons.mp h with rfl | h
    · -- the replaced entry is the head: the tail holds no other entry of `id`
      have hnot : id ∉ l.map Prod.fst := hnd.1
      simp only [List.map_cons, List.sum_cons, beq_self_eq_true, if_true]
      rw [map_put_of_not_mem hnot]
      abel
    · have hne : (e.1 == id) = false := by
        simp only [beq_eq_false_iff_ne]
        rintro rfl
        exact hnd.1 (by simpa using List.mem_map_of_mem (f := Prod.fst) h)
      simp only [List.map_cons, List.sum_cons, hne, Bool.false_eq_true, if_false]
      rw [add_assoc, ih hnd.2 h, ← add_assoc]

theorem WF.put (hwf : s.WF) : (s.put id o).WF := by
  have hkeys : ((s.put id o).heap.map Prod.fst) = s.heap.map Prod.fst := by
    simp [Session.put, Function.comp_def]
  refine ⟨hkeys ▸ hwf.nodup, ?_⟩
  intro e he
  simp only [Session.put, List.mem_map] at he
  obtain ⟨e', he', rfl⟩ := he
  exact hwf.below e' he'

theorem balance_put (hwf : s.WF) (h : s.object? id = some o) :
    (s.put id o').balance + o.owes = s.balance + o'.owes := by
  have hmem := (object?_eq_some_iff hwf).mp h
  simp only [balance, Session.put, add_assoc]
  rw [sum_owes_put hwf.nodup hmem]

theorem object?_put_self (hwf : s.WF) (h : s.object? id = some o) :
    (s.put id o').object? id = some o' := by
  rw [object?_eq_some_iff hwf.put]
  have hmem := (object?_eq_some_iff hwf).mp h
  simp only [Session.put, List.mem_map]
  exact ⟨(id, o), hmem, by simp⟩

theorem object?_put_ne (hne : j ≠ id) : (s.put id o).object? j = s.object? j := by
  unfold object? Session.put
  dsimp only
  induction s.heap with
  | nil => rfl
  | cons e l ih =>
    obtain ⟨i, x⟩ := e
    by_cases hj : i = j
    · subst hj
      have hid : (i == id) = false := by simpa using hne
      simp only [List.map_cons, List.find?_cons, beq_self_eq_true, hid]
      rfl
    · have hij : (i == j) = false := by simpa using hj
      simp only [List.map_cons, List.find?_cons, hij]
      exact ih

theorem balance_push : (s.push o).balance = s.balance + o.owes := by
  simp [balance, Session.push, add_assoc]

theorem WF.push (hwf : s.WF) : (s.push o).WF := by
  refine ⟨?_, ?_⟩
  · simp only [Session.push, List.map_append, List.map_cons, List.map_nil]
    refine List.nodup_append.mpr ⟨hwf.nodup, by simp, ?_⟩
    intro a ha b hb hab
    simp only [List.mem_singleton] at hb
    obtain ⟨e, he, rfl⟩ := List.mem_map.mp ha
    have := hwf.below e he
    omega
  · intro e he
    simp only [Session.push, List.mem_append, List.mem_singleton] at he
    rcases he with he | rfl
    · exact Nat.lt_succ_of_lt (hwf.below e he)
    · exact Nat.lt_succ_self _

theorem object?_push_self (hwf : s.WF) : (s.push o).object? s.fresh = some o := by
  rw [object?_eq_some_iff hwf.push]
  simp [Session.push]

theorem object?_push_ne (hne : j ≠ s.fresh) : (s.push o).object? j = s.object? j := by
  unfold object? Session.push
  simp only [List.find?_append, List.find?_cons, List.find?_nil]
  have hfj : (s.fresh == j) = false := by simpa using Ne.symm hne
  cases s.heap.find? (·.1 == j) with
  | some e => rfl
  | none => simp [hfj]

end Session

/-! ## Computations that settle what they take -/

namespace Host

variable {O : Type} {α β : Type} {s : Session O}

/-- What the outcome of a computation owes: what a success owes, nothing for a raise. -/
def owing (ob : α → Ledger) : Except Raised α → Ledger
  | .ok a => ob a
  | .error _ => 0

/-- Run from a well-formed session `s`, `x` leaves a well-formed session; the outside world
hands over `d` meanwhile, and the balance at the end, plus what the outcome owes, is the
balance at the start plus `m` and `d`. So whatever `x` took it settled, kept in its result
or left in the session, once, and what it added beyond what it was handed is `m`. -/
def Settles (x : Host O α) (ob : α → Ledger) (m : Ledger) (s : Session O) : Prop :=
  s.WF → (x.exec s).2.WF ∧ ∃ d, (x.exec s).2.handed = s.handed + d ∧
    (x.exec s).2.balance + owing ob (x.exec s).1 = s.balance + m + d

/-- What a settling computation leaves is well-formed. -/
theorem Settles.wf {x : Host O α} {ob : α → Ledger} {m : Ledger} (h : Settles x ob m s)
    (hwf : s.WF) {r : Except Raised α} {s' : Session O} (hx : x.exec s = (r, s')) : s'.WF := by
  have := (h hwf).1
  rwa [hx] at this

/-- A computation of the binding alone: nothing is handed over while it runs. -/
theorem Settles.of_balance {x : Host O α} {ob : α → Ledger} {m : Ledger}
    (hh : (x.exec s).2.handed = s.handed)
    (h : s.WF → (x.exec s).2.WF ∧ (x.exec s).2.balance + owing ob (x.exec s).1 = s.balance + m) :
    Settles x ob m s := by
  intro hwf
  obtain ⟨hwf', hb⟩ := h hwf
  exact ⟨hwf', 0, by rw [hh, add_zero], by rw [hb, add_zero]⟩

/-- A computation that leaves the session as it was and owes nothing settles everything. -/
theorem Settles.of_reads {x : Host O α} (h : (x.exec s).2 = s) : Settles x (fun _ => 0) 0 s := by
  refine Settles.of_balance (by rw [h]) fun hwf => ?_
  rw [h]
  refine ⟨hwf, ?_⟩
  cases (x.exec s).1 <;> simp [owing]

theorem settles_pure (a : α) (ob : α → Ledger) (s : Session O) :
    Settles (Pure.pure a : Host O α) ob (ob a) s :=
  Settles.of_balance rfl fun hwf => ⟨hwf, by simp [owing, add_comm]⟩

theorem settles_throw (e : Raised) (ob : α → Ledger) (s : Session O) :
    Settles (MonadExcept.throw e : Host O α) ob 0 s :=
  Settles.of_balance rfl fun hwf => ⟨hwf, by simp [owing]⟩

/-- Settling a ledger moves it into the session's ledger. -/
theorem settles_settle (l : Ledger) (s : Session O) : Settles (settle l) (fun _ => 0) l s := by
  refine Settles.of_balance rfl fun hwf => ?_
  rw [exec_settle]
  exact ⟨⟨hwf.nodup, hwf.below⟩, by simp [owing, Session.balance, add_right_comm]⟩

/-- Changing the names of the amounts. -/
theorem Settles.congr {x : Host O α} {ob ob' : α → Ledger} {m m' : Ledger}
    (h : Settles x ob m s) (hob : ∀ a, ob a = ob' a) (hm : m = m') : Settles x ob' m' s := by
  have hob' : ob = ob' := funext hob
  subst hob' hm
  exact h

/-- A step that takes over what `x` owes: `f` settles or keeps what the result of `x` owes,
and adds `mf`, which must be nothing when `x` raises. -/
theorem Settles.bind {x : Host O α} {f : α → Host O β} {obx : α → Ledger} {obf : β → Ledger}
    {mx mf : Ledger} (hx : Settles x obx mx s)
    (hf : ∀ a s', x.exec s = (.ok a, s') → Settles (f a) obf (obx a + mf) s')
    (hz : ∀ e s', x.exec s = (.error e, s') → mf = 0) :
    Settles (x >>= f) obf (mx + mf) s := by
  intro hwf
  obtain ⟨hwf₁, d₁, hh₁, hb₁⟩ := hx hwf
  rw [exec_bind]
  rcases hr : x.exec s with ⟨r, s₁⟩
  rw [hr] at hwf₁ hh₁ hb₁
  cases r with
  | ok a =>
    obtain ⟨hwf₂, d₂, hh₂, hb₂⟩ := hf a s₁ hr hwf₁
    refine ⟨hwf₂, d₁ + d₂, by rw [hh₂, hh₁, add_assoc], ?_⟩
    simp only [owing] at hb₁
    -- what `x` handed back is what `f` took over
    rw [hb₂, ← add_assoc, hb₁]
    abel
  | error e =>
    obtain rfl := hz e s₁ hr
    exact ⟨hwf₁, d₁, hh₁, by simpa [owing] using hb₁⟩

/-- A handler that settles `K` when `x` raises: either way `K` is accounted for, in the
result of a success or in the ledger. -/
theorem Settles.tryCatch {x : Host O α} {h : Raised → Host O α} {ob : α → Ledger} {m K : Ledger}
    (hx : Settles x ob m s)
    (hh : ∀ e s', x.exec s = (.error e, s') → Settles (h e) (fun a => ob a + K) K s') :
    Settles (tryCatch x h) (fun a => ob a + K) (m + K) s := by
  intro hwf
  obtain ⟨hwf₁, d₁, hh₁, hb₁⟩ := hx hwf
  rw [exec_tryCatch]
  rcases hr : x.exec s with ⟨r, s₁⟩
  rw [hr] at hwf₁ hh₁ hb₁
  cases r with
  | ok a =>
    refine ⟨hwf₁, d₁, hh₁, ?_⟩
    simp only [owing] at hb₁ ⊢
    rw [← add_assoc, hb₁]
    abel
  | error e =>
    obtain ⟨hwf₂, d₂, hh₂, hb₂⟩ := hh e s₁ hr hwf₁
    refine ⟨hwf₂, d₁ + d₂, by rw [hh₂, hh₁, add_assoc], ?_⟩
    simp only [owing, add_zero] at hb₁
    rw [hb₂, hb₁]
    abel

/-- `Settles.bind`, with the amount added named by an equation, for use with `apply`. -/
theorem Settles.bind_of_eq {x : Host O α} {f : α → Host O β} {obx : α → Ledger}
    {obf : β → Ledger} {mx mf m : Ledger} (hx : Settles x obx mx s)
    (hf : ∀ a s', x.exec s = (.ok a, s') → Settles (f a) obf (obx a + mf) s')
    (hz : ∀ e s', x.exec s = (.error e, s') → mf = 0) (hm : mx + mf = m) :
    Settles (x >>= f) obf m s :=
  hm ▸ Settles.bind hx hf hz

/-- A step, then a continuation that takes over exactly what the step's result owes. -/
theorem Settles.bind_owed {x : Host O α} {f : α → Host O β} {obx : α → Ledger}
    {obf : β → Ledger} {m : Ledger} (hx : Settles x obx m s)
    (hf : ∀ a s', x.exec s = (.ok a, s') → Settles (f a) obf (obx a) s') :
    Settles (x >>= f) obf m s :=
  Settles.bind_of_eq hx (fun a s' h => (hf a s' h).congr (fun _ => rfl) (add_zero _).symm)
    (fun _ _ _ => rfl) (add_zero m)

/-- Settling a ledger, then raising, settles it. -/
theorem settles_settle_throw (l : Ledger) (e : Raised) (ob : β → Ledger) (s : Session O) :
    Settles (settle l >>= fun _ => (throw e : Host O β)) ob l s :=
  (Settles.bind (settles_settle l s) (fun _ _ _ => settles_throw e ob _) (fun _ _ _ => rfl)).congr
    (fun _ => rfl) (add_zero l)

/-- A step that succeeds without touching the session passes the balance on to the next. -/
theorem Settles.bind_ok {x : Host O α} {f : α → Host O β} {a : α} {ob : β → Ledger} {m : Ledger}
    (hx : x.exec s = (.ok a, s)) (hf : Settles (f a) ob m s) : Settles (x >>= f) ob m s := by
  intro hwf
  rw [exec_bind, hx]
  exact hf hwf

theorem Settles.of_exec_eq {x y : Host O β} {ob : β → Ledger} {m : Ledger}
    (h : x.exec s = y.exec s) (hy : Settles y ob m s) : Settles x ob m s := by
  intro hwf
  rw [h]
  exact hy hwf

theorem Settles.of_wf {x : Host O β} {ob : β → Ledger} {m : Ledger}
    (h : s.WF → Settles x ob m s) : Settles x ob m s :=
  fun hwf => h hwf hwf

/-- A computation that raises without changing anything settles nothing. -/
theorem Settles.of_error {x : Host O β} {e : Raised} (ob : β → Ledger)
    (h : x.exec s = (.error e, s)) : Settles x ob 0 s :=
  Settles.of_balance (by rw [h]) fun hwf => by
    rw [h]
    exact ⟨hwf, by simp [owing]⟩

end Host

end Columnar
