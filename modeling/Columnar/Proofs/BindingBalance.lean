import Columnar.Proofs.StreamLedger

/-!
# The binding settles what it takes

The binding's conversions ask an object for descriptors through the capsule protocol, the
stream protocol or the older pointer handshake, move the descriptors out of the capsules
they come in, and import them. The objects of the outside world may answer as they like;
what the binding needs of them is stated once, as `World.Honest`: whatever a method adds to
the session it counts as handed over, the capsules it answers with hold what their names
say, and a stream it hands over makes no array it did not already have.

Whatever happens on the way (a capsule of the wrong name, an answer that is no pair, a
refused import, an exception of the object), each conversion keeps the balance of the
session (`HostBalance`): the balance at the end, plus what the converted value still owes,
is the balance at the start plus what the outside world handed over meanwhile. A descriptor
handed over is then released once: by the conversion, by the value that keeps its memory,
or by whoever holds the capsule the conversion left it in.

Moving a descriptor out of a capsule leaves a released one behind, so a destructor that
releases only live descriptors releases nothing more when the capsule dies. The capsules the
binding's own export objects hand out hold live descriptors and have the binding's
destructor, so such a descriptor is released by the consumer that takes it or by the
capsule's death. The export methods change no capsule that already exists and release
nothing, so a requested schema is only read.

Each function of the binding gets one statement, proved from those of the functions it
calls with the combinators of `HostBalance`.
-/

namespace Columnar

namespace Host

variable {O : Type} {α β : Type} {s s' : Session O}

/-! ## Computations that only read -/

/-- A computation that leaves every session as it was. -/
def ReadOnly (x : Host O α) : Prop :=
  ∀ s, (x.exec s).2 = s

theorem ReadOnly.eq_of_exec {x : Host O α} (hx : ReadOnly x) {r : Except Raised α}
    (h : x.exec s = (r, s')) : s' = s := by
  rw [← hx s, h]

theorem ReadOnly.pure (a : α) : ReadOnly (Pure.pure a : Host O α) :=
  fun _ => rfl

theorem ReadOnly.throw (e : Raised) : ReadOnly (MonadExcept.throw e : Host O α) :=
  fun _ => rfl

theorem ReadOnly.raise (type message : String) : ReadOnly (raise type message : Host O α) :=
  fun _ => rfl

theorem ReadOnly.bind {x : Host O α} {f : α → Host O β} (hx : ReadOnly x)
    (hf : ∀ a, ReadOnly (f a)) : ReadOnly (x >>= f) := by
  intro s
  rw [exec_bind]
  rcases h : x.exec s with ⟨r, s'⟩
  have hs : s' = s := hx.eq_of_exec h
  subst hs
  cases r with
  | ok a => exact hf a _
  | error e => rfl

theorem ReadOnly.fetch (id : Nat) : ReadOnly (fetch id : Host O (HostObject O)) := by
  intro s
  simp

/-- A read that gives nothing to owe settles nothing. -/
theorem Settles.of_readOnly {x : Host O α} (h : ReadOnly x) (s : Session O) :
    Settles x (fun _ => 0) 0 s :=
  Settles.of_reads (h s)

variable [World O]

theorem ReadOnly.className (v : HostValue) : ReadOnly (className v : Host O String) := by
  cases v <;> first
    | exact ReadOnly.pure _
    | exact (ReadOnly.fetch _).bind fun _ => ReadOnly.pure _

theorem ReadOnly.hasAttr (v : HostValue) (p : String) : ReadOnly (hasAttr v p : Host O Bool) := by
  cases v <;> first
    | exact ReadOnly.pure _
    | exact (ReadOnly.fetch _).bind fun _ => ReadOnly.pure _

theorem ReadOnly.needAttr (v : HostValue) (p : String) : ReadOnly (needAttr v p : Host O Unit) := by
  refine (ReadOnly.hasAttr v p).bind fun b => ?_
  cases b
  · exact (ReadOnly.className v).bind fun _ => ReadOnly.raise _ _
  · exact ReadOnly.pure _


/-! ## Attributes -/

/-- The value refers to an object with the attribute. -/
def Has (s : Session O) (v : HostValue) (p : String) : Prop :=
  ∃ id o, v = .ref id ∧ s.object? id = some o ∧ p ∈ o.attributes

theorem hasAttr_ok {v : HostValue} {p : String} {b : Bool}
    (h : (hasAttr v p).exec s = (.ok b, s')) : (b = true ↔ Has s v p) := by
  cases v
  case ref id =>
    unfold hasAttr at h
    rw [exec_bind, exec_fetch] at h
    cases ho : s.object? id with
    | none => simp [ho] at h
    | some o =>
      simp only [ho, exec_pure, Prod.mk.injEq, Except.ok.injEq] at h
      rw [← h.1]
      simp [Has, ho]
  all_goals
    simp only [hasAttr, exec_pure, Prod.mk.injEq, Except.ok.injEq] at h
    simp [← h.1, Has]

theorem hasAttr_error {v : HostValue} {p : String} {e : Raised}
    (h : (hasAttr v p).exec s = (.error e, s')) : ¬ Has s v p := by
  rintro ⟨id, o, rfl, ho, -⟩
  unfold hasAttr at h
  rw [exec_bind, exec_fetch, ho] at h
  simp at h

theorem needAttr_ok {v : HostValue} {p : String} {u : Unit}
    (h : (needAttr v p).exec s = (.ok u, s')) : Has s v p := by
  unfold needAttr at h
  rw [exec_bind] at h
  rcases hb : (hasAttr v p).exec s with ⟨_ | b, s₁⟩
  · simp [hb] at h
  · have hs₁ : s₁ = s := (ReadOnly.hasAttr v p).eq_of_exec hb
    subst hs₁
    cases b
    · rw [hb] at h
      simp only [Bool.not_false, if_true] at h
      rw [exec_bind] at h
      rcases hc : (className v).exec s₁ with ⟨_ | c, s₂⟩ <;> simp [hc, noAttribute] at h
    · exact (hasAttr_ok hb).mp rfl

theorem needAttr_error {v : HostValue} {p : String} {e : Raised}
    (h : (needAttr v p).exec s = (.error e, s')) : ¬ Has s v p := by
  unfold needAttr at h
  rw [exec_bind] at h
  rcases hb : (hasAttr v p).exec s with ⟨_ | b, s₁⟩
  · exact hasAttr_error hb
  · cases b
    · exact fun hv => absurd ((hasAttr_ok hb).mpr hv) Bool.false_ne_true
    · simp [hb] at h

/-- `needAttr` leaves the session as it was: it raises when the value has no such attribute,
and passes when the value refers to an object that has it. -/
theorem needAttr_exec (v : HostValue) (p : String) (s : Session O) :
    (∃ e, (needAttr v p).exec s = (.error e, s) ∧ ¬ Has s v p) ∨
      ∃ id o, v = .ref id ∧ s.object? id = some o ∧ p ∈ o.attributes ∧
        (needAttr v p).exec s = (.ok (), s) := by
  rcases hn : (needAttr v p).exec s with ⟨_ | u, s₁⟩ <;>
    obtain rfl := (ReadOnly.needAttr v p).eq_of_exec hn
  · exact .inl ⟨_, rfl, needAttr_error hn⟩
  · obtain ⟨id, o, rfl, ho, hp⟩ := needAttr_ok hn
    exact .inr ⟨id, o, rfl, ho, hp, rfl⟩

end Host

/-! ## Capsules -/

namespace Payload

@[simp] theorem owes_schema (n : SchemaNode) : (Payload.schema n).owes = Ledger.ofSchema n :=
  rfl

@[simp] theorem owes_array (a : ArrayNode) : (Payload.array a).owes = Ledger.ofArray a :=
  rfl

@[simp] theorem owes_stream (st : ArrayStream) : (Payload.stream st).owes = st.release.ledger := by
  simp [owes, release]

/-- The released descriptor a capsule keeps after a take owes nothing. -/
@[simp] theorem owes_emptied (p : Payload) : p.emptied.owes = 0 := by
  cases p <;> rfl

@[simp] theorem isLive_emptied (p : Payload) : p.emptied.isLive = false := by
  cases p <;> rfl

@[simp] theorem kind_emptied (p : Payload) : p.emptied.kind = p.kind := by
  cases p <;> rfl

end Payload

/-- A destructor that releases nothing for a released descriptor with no debts, as a
destructor that releases only live descriptors does. -/
def Destructor.SparesReleased (d : Destructor) : Prop :=
  ∀ p, p.isLive = false → d p {} = {}

theorem dropPayload_sparesReleased : dropPayload.SparesReleased := by
  intro p hp
  simp [dropPayload, hp]

/-- The capsule with its descriptor moved out, as a take leaves it: its death releases
nothing, whatever destructor it has, as long as that destructor releases only live
descriptors. -/
theorem HostCapsule.finalize_emptied (c : HostCapsule)
    (hd : ∀ d, c.destructor = some d → d.SparesReleased) (l : Ledger) :
    HostCapsule.finalize { c with payload := c.payload.emptied, owed := {} } l = l := by
  unfold HostCapsule.finalize
  cases hc : c.destructor with
  | none => rfl
  | some d =>
    dsimp only
    rw [hd d hc _ (Payload.isLive_emptied c.payload)]
    rfl

namespace Host

variable {O : Type} {α : Type} {s s' : Session O} {v : HostValue}

@[simp] theorem exec_capsule (name : String) (p : Payload) (d : Option Destructor) (o : Ledger)
    (s : Session O) :
    (capsule name p d o).exec s = (.ok (.ref s.fresh), s.push (.capsule ⟨name, p, d, o⟩)) :=
  rfl

/-- A new capsule adds what its descriptor owes to the heap. -/
theorem settles_capsule (name : String) (p : Payload) (d : Option Destructor) (o : Ledger)
    (s : Session O) : Settles (capsule name p d o) (fun _ => 0) (p.owes + o) s := by
  refine Settles.of_balance rfl fun hwf => ?_
  rw [exec_capsule]
  refine ⟨hwf.push, ?_⟩
  simp [owing, Session.balance_push, HostObject.owes, HostCapsule.owes]

theorem ReadOnly.capsuleNamed (v : HostValue) (name : String) :
    ReadOnly (capsuleNamed v name : Host O _) := by
  unfold Host.capsuleNamed
  cases v
  case ref id =>
    refine (ReadOnly.fetch id).bind fun o => ?_
    cases o
    case capsule c =>
      dsimp only
      split
      · exact ReadOnly.pure _
      · exact ReadOnly.raise _ _
    all_goals exact ReadOnly.raise _ _
  all_goals exact ReadOnly.raise _ _

theorem capsuleNamed_ok {name : String} {id : Nat} {c : HostCapsule}
    (h : (capsuleNamed v name).exec s = (.ok (id, c), s')) :
    v = .ref id ∧ s.object? id = some (.capsule c) ∧ c.name = name := by
  unfold Host.capsuleNamed at h
  cases v
  case ref j =>
    rw [exec_bind, exec_fetch] at h
    cases ho : s.object? j with
    | none => simp [ho] at h
    | some o =>
      simp only [ho] at h
      cases o
      case capsule c' =>
        dsimp only at h
        split at h
        · next hname =>
          simp only [exec_pure, Prod.mk.injEq, Except.ok.injEq] at h
          obtain ⟨⟨rfl, rfl⟩, -⟩ := h
          exact ⟨rfl, ho, hname⟩
        · simp at h
      all_goals simp at h
  all_goals simp at h

theorem ReadOnly.requested (v : HostValue) : ReadOnly (requested v : Host O _) := by
  unfold Host.requested
  split
  · exact ReadOnly.pure _
  · exact (ReadOnly.capsuleNamed v _).bind fun _ => ReadOnly.pure _

theorem takeFrom_ok {k : CapsuleKind} {p : Payload} {o : Ledger}
    (h : (takeFrom v k).exec s = (.ok (p, o), s')) :
    ∃ id c, v = .ref id ∧ s.object? id = some (.capsule c) ∧ c.name = k.name ∧
      p = c.payload ∧ o = c.owed ∧
      s' = s.put id (.capsule { c with payload := c.payload.emptied, owed := {} }) := by
  unfold takeFrom at h
  rw [exec_bind] at h
  rcases hc : (capsuleNamed v k.name).exec s with ⟨_ | ⟨id, c⟩, s₁⟩
  · simp [hc] at h
  · have hs₁ : s₁ = s := (ReadOnly.capsuleNamed v k.name).eq_of_exec hc
    subst hs₁
    obtain ⟨hv, ho, hname⟩ := capsuleNamed_ok hc
    simp only [hc, exec_bind, exec_store, exec_pure, Prod.mk.injEq, Except.ok.injEq] at h
    obtain ⟨⟨rfl, rfl⟩, rfl⟩ := h
    exact ⟨id, c, hv, ho, hname, rfl, rfl, rfl⟩

theorem takeFrom_error {k : CapsuleKind} {e : Raised}
    (h : (takeFrom v k).exec s = (.error e, s')) : s' = s := by
  unfold takeFrom at h
  rw [exec_bind] at h
  rcases hc : (capsuleNamed v k.name).exec s with ⟨_ | ⟨id, c⟩, s₁⟩
  · have hs₁ : s₁ = s := (ReadOnly.capsuleNamed v k.name).eq_of_exec hc
    simp only [hc, Prod.mk.injEq] at h
    rw [← h.2, hs₁]
  · simp only [hc, exec_bind, exec_store, exec_pure, Prod.mk.injEq, reduceCtorEq, false_and] at h

/-- Taking a descriptor moves what its capsule owed into the hands of the taker. -/
theorem settles_takeFrom (v : HostValue) (k : CapsuleKind) (s : Session O) :
    Settles (takeFrom v k) (fun r => r.1.owes + r.2) 0 s := by
  rcases h : (Host.takeFrom v k).exec s with ⟨_ | ⟨p, o⟩, s'⟩
  · obtain rfl := takeFrom_error h
    exact Settles.of_balance (by rw [h]) fun hwf => by
      rw [h]
      exact ⟨hwf, by simp [owing]⟩
  · obtain ⟨id, c, -, ho, -, rfl, rfl, rfl⟩ := takeFrom_ok h
    refine Settles.of_balance (by rw [h]; rfl) fun hwf => ?_
    rw [h]
    refine ⟨hwf.put, ?_⟩
    have hb : (s.put id (.capsule { c with payload := c.payload.emptied, owed := {} })).balance +
        (HostObject.capsule c).owes =
        s.balance + (HostObject.capsule { c with payload := c.payload.emptied, owed := {} }).owes :=
      Session.balance_put hwf ho
    simp only [HostObject.owes, HostCapsule.owes, Payload.owes_emptied] at hb
    simpa [owing, HostCapsule.owes] using hb

end Host

/-! ## What exports hand out: live descriptors the library made -/

theorem descriptorsOf_made {c : Column} {f : Field} {a : ArrayNode} {n : SchemaNode}
    (h : descriptorsOf c f = .ok (a, n)) :
    (a.released = false ∧ a.foreign = false) ∧ (n.released = false ∧ n.foreign = false) := by
  simp only [descriptorsOf_eq, Except.bind_eq_ok, Except.pure_eq_ok, Prod.mk.injEq] at h
  obtain ⟨n', hn, a', ha, rfl, rfl⟩ := h
  exact ⟨Column.toDescriptor_made ha, SchemaNode.ofField_made hn⟩

theorem Series.toDescriptors_made {s : Series} {a : ArrayNode} {n : SchemaNode}
    (h : s.toDescriptors = .ok (a, n)) :
    (a.released = false ∧ a.foreign = false) ∧ (n.released = false ∧ n.foreign = false) := by
  unfold Series.toDescriptors Series.exportPair at h
  split at h
  · cases h
  · exact descriptorsOf_made h

theorem Table.toDescriptors_made {t : Table} {a : ArrayNode} {n : SchemaNode}
    (h : t.toDescriptors = .ok (a, n)) :
    (a.released = false ∧ a.foreign = false) ∧ (n.released = false ∧ n.foreign = false) := by
  unfold Table.toDescriptors Table.exportPair at h
  repeat' split at h
  all_goals first | cases h | exact descriptorsOf_made h

theorem ArraySource.toCapsules_made {req : Option Capsule} {src : ArraySource} {sc ac : Capsule}
    (h : src.toCapsules req = .ok (sc, ac)) :
    ∃ a n, sc = Capsule.wrap (.schema n) ∧ ac = Capsule.wrap (.array a) ∧
      (a.released = false ∧ a.foreign = false) ∧ (n.released = false ∧ n.foreign = false) := by
  cases src with
  | series s =>
    simp only [toCapsules, Except.bind_eq_ok, Except.pure_eq_ok] at h
    obtain ⟨-, -, ⟨a, n⟩, hd, hp⟩ := h
    simp only [capsulePair, Prod.mk.injEq] at hp
    obtain ⟨rfl, rfl⟩ := hp
    exact ⟨a, n, rfl, rfl, Series.toDescriptors_made hd⟩
  | table t =>
    simp only [toCapsules, Except.bind_eq_ok, Except.pure_eq_ok] at h
    obtain ⟨-, -, ⟨a, n⟩, hd, hp⟩ := h
    simp only [capsulePair, Prod.mk.injEq] at hp
    obtain ⟨rfl, rfl⟩ := hp
    exact ⟨a, n, rfl, rfl, Table.toDescriptors_made hd⟩

theorem exportSource_live {σ : Type} {field : Field} {pull : σ → Option (Except Error Column × σ)}
    {source : σ} {p : Producer σ} (h : exportSource field pull source = .ok p) : p.live = true := by
  simp only [exportSource, Except.bind_eq_ok, Except.pure_eq_ok] at h
  obtain ⟨-, -, rfl⟩ := h
  rfl

theorem StreamSource.toCapsule_made {req : Option Capsule} {src : StreamSource} {c : Capsule}
    (h : src.toCapsule req = .ok c) :
    ∃ p : Producer BatchList, c = Capsule.wrap (.stream (.exported p)) ∧ p.live = true := by
  -- every source is exported by `exportSource`, after its requested schema is checked
  cases src <;> simp only [toCapsule, Except.bind_eq_ok, Except.pure_eq_ok] at h
  all_goals
    obtain ⟨-, -, p, hp, rfl⟩ := h
    exact ⟨p, rfl, exportSource_live hp⟩

theorem ArrayHandle.export?_ok {h h' : ArrayHandle} {req : Option Capsule}
    {pair : Capsule × Capsule} (hx : h.export? req = (.ok pair, h')) :
    ∃ src, h.source = some src ∧ src.toCapsules req = .ok pair := by
  unfold export? at hx
  split at hx
  · simp at hx
  · next src hs =>
    split at hx
    · next pair' hp =>
      simp only [Prod.mk.injEq, Except.ok.injEq] at hx
      exact ⟨src, hs, hx.1 ▸ hp⟩
    · simp at hx

theorem StreamHandle.export?_ok {h h' : StreamHandle} {req : Option Capsule} {c : Capsule}
    (hx : h.export? req = (.ok c, h')) :
    ∃ src, h.source = some src ∧ src.toCapsule req = .ok c := by
  unfold export? at hx
  split at hx
  · simp at hx
  · next src hs =>
    split at hx
    · next c' hc =>
      simp only [Prod.mk.injEq, Except.ok.injEq] at hx
      exact ⟨src, hs, hx.1 ▸ hc⟩
    · simp at hx

/-! ## What the export objects do -/

@[simp] theorem Session.fresh_put (s : Session O) (id : Nat) (o : HostObject O) :
    (s.put id o).fresh = s.fresh := rfl

@[simp] theorem Session.fresh_push (s : Session O) (o : HostObject O) :
    (s.push o).fresh = s.fresh + 1 := rfl

@[simp] theorem Host.payloadOf_wrap (p : Payload) : Host.payloadOf (Capsule.wrap p) = p := rfl

namespace Host

variable {O : Type} {s s₁ : Session O}

theorem exportArray_ok {id : Nat} {hd : ArrayHandle} {owed : Ledger} {req r : HostValue}
    (h : (exportArray id hd owed req).exec s = (.ok r, s₁)) :
    ∃ hd' n a, (n.released = false ∧ n.foreign = false) ∧
      (a.released = false ∧ a.foreign = false) ∧
      r = .tuple [.ref s.fresh, .ref (s.fresh + 1)] ∧
      s₁ = ((s.put id (.arrayExport hd' {})).push
        (.capsule ⟨"arrow_schema", .schema n, some dropPayload, {}⟩)).push
          (.capsule ⟨"arrow_array", .array a, some dropPayload, owed⟩) := by
  unfold exportArray at h
  rw [exec_bind] at h
  rcases hq : (requested req).exec s with ⟨_ | view, s₀⟩
  · simp [hq] at h
  · have hs₀ : s₀ = s := (ReadOnly.requested req).eq_of_exec hq
    subst hs₀
    simp only [hq] at h
    rcases hx : hd.export? view with ⟨_ | ⟨sc, ac⟩, hd'⟩
    · simp [hx, refuse] at h
    · obtain ⟨src, -, hsrc⟩ := ArrayHandle.export?_ok hx
      obtain ⟨a, n, rfl, rfl, ha, hn⟩ := ArraySource.toCapsules_made hsrc
      simp only [hx, exec_bind, exec_store, exec_capsule, exec_pure, payloadOf_wrap,
        Session.fresh_push, Session.fresh_put, Prod.mk.injEq, Except.ok.injEq] at h
      obtain ⟨rfl, rfl⟩ := h
      exact ⟨hd', n, a, hn, ha, rfl, rfl⟩

theorem exportArray_error {id : Nat} {hd : ArrayHandle} {owed : Ledger} {req : HostValue}
    {e : Raised} (h : (exportArray id hd owed req).exec s = (.error e, s₁)) : s₁ = s := by
  unfold exportArray at h
  rw [exec_bind] at h
  rcases hq : (requested req).exec s with ⟨_ | view, s₀⟩
  · have hs₀ : s₀ = s := (ReadOnly.requested req).eq_of_exec hq
    simp only [hq, Prod.mk.injEq] at h
    rw [← h.2, hs₀]
  · have hs₀ : s₀ = s := (ReadOnly.requested req).eq_of_exec hq
    subst hs₀
    simp only [hq] at h
    rcases hx : hd.export? view with ⟨_ | ⟨sc, ac⟩, hd'⟩
    · simp only [hx, refuse, exec_throw, Prod.mk.injEq] at h
      exact h.2.symm
    · simp only [hx, exec_bind, exec_store, exec_capsule, exec_pure, Prod.mk.injEq,
        reduceCtorEq, false_and] at h

theorem exportStream_ok {id : Nat} {hd : StreamHandle} {owed : Ledger} {req r : HostValue}
    (h : (exportStream id hd owed req).exec s = (.ok r, s₁)) :
    ∃ hd', ∃ p : Producer BatchList, p.live = true ∧ r = .ref s.fresh ∧
      s₁ = (s.put id (.streamExport hd' {})).push
        (.capsule ⟨"arrow_array_stream", .stream (.exported p), some dropPayload, owed⟩) := by
  unfold exportStream at h
  rw [exec_bind] at h
  rcases hq : (requested req).exec s with ⟨_ | view, s₀⟩
  · simp [hq] at h
  · have hs₀ : s₀ = s := (ReadOnly.requested req).eq_of_exec hq
    subst hs₀
    simp only [hq] at h
    rcases hx : hd.export? view with ⟨_ | c, hd'⟩
    · simp [hx, refuse] at h
    · obtain ⟨src, -, hsrc⟩ := StreamHandle.export?_ok hx
      obtain ⟨p, rfl, hlive⟩ := StreamSource.toCapsule_made hsrc
      simp only [hx, exec_bind, exec_store, exec_capsule, payloadOf_wrap,
        Session.fresh_put, Prod.mk.injEq, Except.ok.injEq] at h
      obtain ⟨rfl, rfl⟩ := h
      exact ⟨hd', p, hlive, rfl, rfl⟩

theorem exportStream_error {id : Nat} {hd : StreamHandle} {owed : Ledger} {req : HostValue}
    {e : Raised} (h : (exportStream id hd owed req).exec s = (.error e, s₁)) : s₁ = s := by
  unfold exportStream at h
  rw [exec_bind] at h
  rcases hq : (requested req).exec s with ⟨_ | view, s₀⟩
  · have hs₀ : s₀ = s := (ReadOnly.requested req).eq_of_exec hq
    simp only [hq, Prod.mk.injEq] at h
    rw [← h.2, hs₀]
  · have hs₀ : s₀ = s := (ReadOnly.requested req).eq_of_exec hq
    subst hs₀
    simp only [hq] at h
    rcases hx : hd.export? view with ⟨_ | c, hd'⟩
    · simp only [hx, refuse, exec_throw, Prod.mk.injEq] at h
      exact h.2.symm
    · simp only [hx, exec_bind, exec_store, exec_capsule, Prod.mk.injEq,
        reduceCtorEq, false_and] at h

end Host

/-! ## Capsule shapes and spared capsules -/

/-- A descriptor the binding can take as it is: any schema or array, and a stream that hands
over only arrays it already holds. -/
def Payload.Sound : Payload → Prop
  | .stream st => st.Premade
  | _ => True

@[simp] theorem Payload.sound_emptied (p : Payload) : p.emptied.Sound := by
  cases p
  case stream => exact fun h => absurd h Bool.false_ne_true
  all_goals trivial

namespace Session

variable {O : Type} {s s' s₂ : Session O} {k : CapsuleKind} {v : HostValue} {id i j : Nat}
  {c : HostCapsule} {o x : HostObject O}

theorem object?_push_of_some (h : s.object? j = some x) : (s.push o).object? j = some x := by
  unfold object? at h ⊢
  simp only [Session.push, List.find?_append]
  cases hf : s.heap.find? (·.1 == j) with
  | none => simp [hf] at h
  | some e => simpa [hf] using h

theorem mem_push_self (s : Session O) (o : HostObject O) : (s.fresh, o) ∈ (s.push o).heap := by
  simp [Session.push]

theorem mem_push_of_mem {e : Nat × HostObject O} (h : e ∈ s.heap) (o : HostObject O) :
    e ∈ (s.push o).heap := by
  simp [Session.push, h]

/-- The capsule a value refers to, if it is named for kind `k`, holds a sound descriptor of
that kind. -/
def Fits (s : Session O) (k : CapsuleKind) (v : HostValue) : Prop :=
  ∀ id c, v = .ref id → s.object? id = some (.capsule c) → c.name = k.name →
    c.payload.kind = k ∧ c.payload.Sound

theorem fits_of_mem (hwf : s.WF) (h : (i, .capsule c) ∈ s.heap) (hk : c.payload.kind = k)
    (hp : c.payload.Sound) : s.Fits k (.ref i) := by
  rintro j c' hj hc' -
  cases hj
  rw [(object?_eq_some_iff hwf).mpr h] at hc'
  cases hc'
  exact ⟨hk, hp⟩

theorem fits_of_not_ref (hv : ∀ id, v ≠ .ref id) : s.Fits k v :=
  fun id _ h => absurd h (hv id)

/-- A take leaves the kinds of what capsules hold as they were. -/
theorem Fits.put_emptied (hf : s.Fits k v) (hwf : s.WF) (hc : s.object? id = some (.capsule c)) :
    (s.put id (.capsule { c with payload := c.payload.emptied, owed := {} })).Fits k v := by
  rintro j c' rfl hj hname
  by_cases hji : j = id
  · subst hji
    rw [object?_put_self hwf hc] at hj
    cases hj
    exact ⟨by simpa using (hf j c rfl hc hname).1, Payload.sound_emptied _⟩
  · rw [object?_put_ne hji] at hj
    exact hf j c' rfl hj hname

/-- `s'` has every capsule of `s` as it was, and the same ledger: nothing was taken out of a
capsule and nothing was released. -/
structure Spares (s s' : Session O) : Prop where
  ledger : s'.ledger = s.ledger
  capsule : ∀ j c, s.object? j = some (.capsule c) → s'.object? j = some (.capsule c)

theorem Spares.refl (s : Session O) : Spares s s :=
  ⟨rfl, fun _ _ h => h⟩

theorem Spares.trans (h₁ : Spares s s') (h₂ : Spares s' s₂) : Spares s s₂ :=
  ⟨h₂.ledger.trans h₁.ledger, fun j c h => h₂.capsule j c (h₁.capsule j c h)⟩

theorem spares_push (s : Session O) (o : HostObject O) : Spares s (s.push o) :=
  ⟨rfl, fun _ _ h => object?_push_of_some h⟩

/-- Replacing an object that is no capsule spares every capsule. -/
theorem spares_put (h : ∀ c, s.object? id ≠ some (.capsule c)) (o : HostObject O) :
    Spares s (s.put id o) := by
  refine ⟨rfl, fun j c hj => ?_⟩
  by_cases hji : j = id
  · subst hji
    exact absurd hj (h c)
  · rw [object?_put_ne hji]
    exact hj

end Session

/-! ## What the binding needs of the outside world -/

/-- The outside world is honest with the binding when each method the binding calls on one of
its objects, run from any session that holds the object:

* counts as handed over whatever it adds to the balance, and answers with nothing that owes
  (`_export_to_c` answers with what it wrote, which then owes its release);
* answers `__arrow_c_array__` with a pair whose first capsule, if named for a schema, holds a
  schema, and whose second, if named for an array, holds an array;
* answers `__arrow_c_stream__` with a capsule that, if named for a stream, holds one that
  hands over only arrays it already holds.

The methods may raise, make objects and change the objects they made in any way. -/
structure World.Honest (O : Type) [World O] : Prop where
  cArray : ∀ id o args (s : Session O), s.object? id = some (.outside o) →
    Host.Settles (World.cArray id o args) (fun _ => 0) 0 s
  cArray_fits : ∀ id o args (s s' : Session O) sv av, s.WF → s.object? id = some (.outside o) →
    (World.cArray id o args).exec s = (.ok (.tuple [sv, av]), s') →
    s'.Fits .schema sv ∧ s'.Fits .array av
  cStream : ∀ id o args (s : Session O), s.object? id = some (.outside o) →
    Host.Settles (World.cStream id o args) (fun _ => 0) 0 s
  cStream_fits : ∀ id o args (s s' : Session O) r, s.WF → s.object? id = some (.outside o) →
    (World.cStream id o args).exec s = (.ok r, s') → s'.Fits .stream r
  exportToC : ∀ id o (s : Session O), s.object? id = some (.outside o) →
    Host.Settles (World.exportToC id o)
      (fun w => Ledger.ofArray w.array + Ledger.ofSchema w.schema) 0 s
  toBatches : ∀ id o (s : Session O), s.object? id = some (.outside o) →
    Host.Settles (World.toBatches id o) (fun _ => 0) 0 s
  chunks : ∀ id o (s : Session O), s.object? id = some (.outside o) →
    Host.Settles (World.chunks id o) (fun _ => 0) 0 s

/-! ## The export objects -/

namespace Host

variable {O : Type} {s s₁ : Session O}

/-- An export hands out its source: what the source's memory owed moves from the export
object to the array capsule, and the descriptors themselves owe nothing. -/
theorem settles_exportArray {id : Nat} {hd : ArrayHandle} {owed : Ledger} (req : HostValue)
    (ho : s.object? id = some (.arrayExport hd owed)) :
    Settles (exportArray id hd owed req) (fun _ => 0) 0 s := by
  rcases h : (exportArray id hd owed req).exec s with ⟨_ | r, s₁⟩
  · obtain rfl := exportArray_error h
    exact Settles.of_balance (by rw [h]) fun hwf => by
      rw [h]
      exact ⟨hwf, by simp [owing]⟩
  · obtain ⟨hd', n, a, hn, ha, rfl, rfl⟩ := exportArray_ok h
    refine Settles.of_balance (by rw [h]; rfl) fun hwf => ?_
    rw [h]
    have hput : (s.put id (.arrayExport hd' {})).balance + owed = s.balance + 0 :=
      Session.balance_put hwf ho
    refine ⟨hwf.put.push.push, ?_⟩
    simp only [Session.balance_push, owing, HostObject.owes, HostCapsule.owes, Payload.owes_schema,
      Payload.owes_array, Ledger.ofSchema_of_not_foreign hn.2, Ledger.ofArray_of_not_foreign ha.2,
      Ledger.mk_zero, zero_add, add_zero] at hput ⊢
    rw [← hput, add_comm]

theorem settles_exportStream {id : Nat} {hd : StreamHandle} {owed : Ledger} (req : HostValue)
    (ho : s.object? id = some (.streamExport hd owed)) :
    Settles (exportStream id hd owed req) (fun _ => 0) 0 s := by
  rcases h : (exportStream id hd owed req).exec s with ⟨_ | r, s₁⟩
  · obtain rfl := exportStream_error h
    exact Settles.of_balance (by rw [h]) fun hwf => by
      rw [h]
      exact ⟨hwf, by simp [owing]⟩
  · obtain ⟨hd', p, -, rfl, rfl⟩ := exportStream_ok h
    refine Settles.of_balance (by rw [h]; rfl) fun hwf => ?_
    rw [h]
    have hput : (s.put id (.streamExport hd' {})).balance + owed = s.balance + 0 :=
      Session.balance_put hwf ho
    refine ⟨hwf.put.push, ?_⟩
    simp only [Session.balance_push, owing, HostObject.owes, HostCapsule.owes, Payload.owes_stream,
      ArrayStream.release_exported_ledger, Ledger.mk_zero, zero_add, add_zero] at hput ⊢
    rw [← hput, add_comm]

theorem exportArray_spares {id : Nat} {hd : ArrayHandle} {owed : Ledger} (req : HostValue)
    (ho : s.object? id = some (.arrayExport hd owed)) :
    Session.Spares s ((exportArray id hd owed req).exec s).2 := by
  rcases h : (exportArray id hd owed req).exec s with ⟨_ | r, s₁⟩
  · obtain rfl := exportArray_error h
    exact Session.Spares.refl _
  · obtain ⟨hd', n, a, -, -, rfl, rfl⟩ := exportArray_ok h
    exact ((Session.spares_put (by simp [ho]) _).trans (Session.spares_push _ _)).trans
      (Session.spares_push _ _)

theorem exportStream_spares {id : Nat} {hd : StreamHandle} {owed : Ledger} (req : HostValue)
    (ho : s.object? id = some (.streamExport hd owed)) :
    Session.Spares s ((exportStream id hd owed req).exec s).2 := by
  rcases h : (exportStream id hd owed req).exec s with ⟨_ | r, s₁⟩
  · obtain rfl := exportStream_error h
    exact Session.Spares.refl _
  · obtain ⟨hd', p, -, rfl, rfl⟩ := exportStream_ok h
    exact (Session.spares_put (by simp [ho]) _).trans (Session.spares_push _ _)

theorem exportArray_fits {id : Nat} {hd : ArrayHandle} {owed : Ledger} {req sv av : HostValue}
    (h : (exportArray id hd owed req).exec s = (.ok (.tuple [sv, av]), s₁)) (hwf : s₁.WF) :
    s₁.Fits .schema sv ∧ s₁.Fits .array av := by
  obtain ⟨hd', n, a, -, -, hr, rfl⟩ := exportArray_ok h
  simp only [HostValue.tuple.injEq, List.cons.injEq, and_true] at hr
  obtain ⟨rfl, rfl⟩ := hr
  exact ⟨Session.fits_of_mem hwf (Session.mem_push_of_mem (Session.mem_push_self _ _) _) rfl
      trivial,
    Session.fits_of_mem hwf (Session.mem_push_self _ _) rfl trivial⟩

theorem exportStream_fits {id : Nat} {hd : StreamHandle} {owed : Ledger} {req r : HostValue}
    (h : (exportStream id hd owed req).exec s = (.ok r, s₁)) (hwf : s₁.WF) :
    s₁.Fits .stream r := by
  obtain ⟨hd', p, -, rfl, rfl⟩ := exportStream_ok h
  exact Session.fits_of_mem hwf (Session.mem_push_self _ _) rfl trivial

end Host

/-! ## The capsule methods -/

namespace Host

variable {O : Type} {α : Type} {s s₁ : Session O} {v : HostValue}

theorem exec_discard (x : Host O α) (s : Session O) :
    (Functor.discard x).exec s = ((x.exec s).1.map fun _ => (), (x.exec s).2) := by
  show (Function.const α PUnit.unit <$> x).exec s = _
  rw [exec_map]

theorem ReadOnly.optionalArgument (method : String) (w : Bool) (args : List HostValue) :
    ReadOnly (optionalArgument method w args : Host O HostValue) := by
  unfold Host.optionalArgument
  split
  · exact ReadOnly.pure _
  · exact ReadOnly.pure _
  · exact ReadOnly.raise _ _

/-- Reading the optional argument leaves the session as it was. -/
theorem optionalArgument_exec (method : String) (w : Bool) (args : List HostValue)
    (s : Session O) :
    (∃ e, (optionalArgument method w args).exec s = (.error e, s)) ∨
      ∃ req, (optionalArgument method w args).exec s = (.ok req, s) := by
  rcases ha : (optionalArgument method w args).exec s with ⟨_ | req, s₁⟩ <;>
    obtain rfl := (ReadOnly.optionalArgument method w args).eq_of_exec ha
  · exact .inl ⟨_, rfl⟩
  · exact .inr ⟨req, rfl⟩

/-- A method that reads its optional argument first and then succeeds ran the rest from the
session it was called in. -/
theorem exec_of_optionalArgument_bind {method : String} {w : Bool} {args : List HostValue}
    {x : Host O α} {s s' : Session O} {r : α}
    (h : (Functor.discard (optionalArgument method w args) >>= fun _ => x).exec s =
      (.ok r, s')) :
    x.exec s = (.ok r, s') := by
  rw [exec_bind, exec_discard] at h
  rcases optionalArgument_exec method w args s with ⟨e, ha⟩ | ⟨req, ha⟩ <;> rw [ha] at h
  · simp [Except.map] at h
  · exact h

theorem Payload.eq_schema {p : Payload} (h : p.kind = .schema) : ∃ n, p = .schema n := by
  cases p <;> simp_all [Payload.kind]

theorem Payload.eq_array {p : Payload} (h : p.kind = .array) : ∃ a, p = .array a := by
  cases p <;> simp_all [Payload.kind]

theorem Payload.eq_stream {p : Payload} (h : p.kind = .stream) : ∃ st, p = .stream st := by
  cases p <;> simp_all [Payload.kind]

/-- A take from a capsule that fits gives a sound descriptor of its kind. -/
theorem takeFrom_fits {k : CapsuleKind} {p : Payload} {o : Ledger} (hf : s.Fits k v)
    (h : (takeFrom v k).exec s = (.ok (p, o), s₁)) : p.kind = k ∧ p.Sound := by
  obtain ⟨id, c, hv, hc, hname, rfl, -, -⟩ := takeFrom_ok h
  exact hf id c hv hc hname

theorem takeFrom_keeps_fits {k k' : CapsuleKind} {p : Payload} {o : Ledger} {w : HostValue}
    (hf : s.Fits k' w) (hwf : s.WF) (h : (takeFrom v k).exec s = (.ok (p, o), s₁)) :
    s₁.Fits k' w := by
  obtain ⟨id, c, -, hc, -, -, -, rfl⟩ := takeFrom_ok h
  exact hf.put_emptied hwf hc

variable [World O]

/-- `__arrow_c_array__` raises before it changes anything, or it is the export of an export
object, or the method of an outside object. -/
theorem cArray_cases (v : HostValue) (args : List HostValue) (s : Session O) :
    (∃ e, (cArray v args).exec s = (.error e, s)) ∨
    (∃ id hd owed req, v = .ref id ∧ s.object? id = some (.arrayExport hd owed) ∧
      (cArray v args).exec s = (exportArray id hd owed req).exec s) ∨
    (∃ id o, v = .ref id ∧ s.object? id = some (.outside o) ∧
      (cArray v args).exec s = (World.cArray id o args).exec s) := by
  unfold cArray
  rw [exec_bind]
  rcases needAttr_exec v "__arrow_c_array__" s with ⟨e, hn, -⟩ | ⟨id, o, rfl, ho, hp, hn⟩ <;>
    rw [hn]
  · exact .inl ⟨_, rfl⟩
  · dsimp only
    rw [exec_bind, exec_fetch, ho]
    dsimp only
    -- only export objects and outside objects answer the protocol
    cases o
    case arrayExport hd owed =>
      rw [exec_bind]
      rcases optionalArgument_exec "ArrowArrayExport.__arrow_c_array__" false args s with
        ⟨e, ha⟩ | ⟨req, ha⟩ <;> rw [ha]
      · exact .inl ⟨_, rfl⟩
      · exact .inr (.inl ⟨id, hd, owed, req, rfl, ho, rfl⟩)
    case outside o => exact .inr (.inr ⟨id, o, rfl, ho, rfl⟩)
    all_goals simp [HostObject.attributes] at hp

/-- `__arrow_c_stream__` raises before it changes anything, or it is the export of an export
object, or the method of an outside object. -/
theorem cStream_cases (v : HostValue) (args : List HostValue) (s : Session O) :
    (∃ e, (cStream v args).exec s = (.error e, s)) ∨
    (∃ id hd owed req, v = .ref id ∧ s.object? id = some (.streamExport hd owed) ∧
      (cStream v args).exec s = (exportStream id hd owed req).exec s) ∨
    (∃ id o, v = .ref id ∧ s.object? id = some (.outside o) ∧
      (cStream v args).exec s = (World.cStream id o args).exec s) := by
  unfold cStream
  rw [exec_bind]
  rcases needAttr_exec v "__arrow_c_stream__" s with ⟨e, hn, -⟩ | ⟨id, o, rfl, ho, hp, hn⟩ <;>
    rw [hn]
  · exact .inl ⟨_, rfl⟩
  · dsimp only
    rw [exec_bind, exec_fetch, ho]
    dsimp only
    -- only export objects and outside objects answer the protocol
    cases o
    case streamExport hd owed =>
      rw [exec_bind]
      rcases optionalArgument_exec "ArrowStreamExport.__arrow_c_stream__" false args s with
        ⟨e, ha⟩ | ⟨req, ha⟩ <;> rw [ha]
      · exact .inl ⟨_, rfl⟩
      · exact .inr (.inl ⟨id, hd, owed, req, rfl, ho, rfl⟩)
    case outside o => exact .inr (.inr ⟨id, o, rfl, ho, rfl⟩)
    all_goals simp [HostObject.attributes] at hp

section Honest

variable (hw : World.Honest O)
include hw

/-- `__arrow_c_array__` adds what the outside world hands over, and nothing else. -/
theorem settles_cArray (v : HostValue) (args : List HostValue) (s : Session O) :
    Settles (cArray v args) (fun _ => 0) 0 s := by
  rcases cArray_cases v args s with ⟨e, h⟩ | ⟨id, hd, owed, req, -, ho, h⟩ | ⟨id, o, -, ho, h⟩
  · exact Settles.of_reads (by rw [h])
  · exact Settles.of_exec_eq h (settles_exportArray req ho)
  · exact Settles.of_exec_eq h (hw.cArray id o args s ho)

/-- A pair `__arrow_c_array__` answers holds a schema and an array, where they are capsules
named for them. -/
theorem cArray_fits {args : List HostValue} {sv av : HostValue} (hwf : s.WF)
    (h : (cArray v args).exec s = (.ok (.tuple [sv, av]), s₁)) :
    s₁.Fits .schema sv ∧ s₁.Fits .array av := by
  rcases cArray_cases v args s with ⟨e, h'⟩ | ⟨id, hd, owed, req, -, ho, h'⟩ | ⟨id, o, -, ho, h'⟩
  · rw [h'] at h
    simp at h
  · have hwf₁ := (settles_exportArray req ho hwf).1
    rw [← h', h] at hwf₁
    exact exportArray_fits (h' ▸ h) hwf₁
  · exact hw.cArray_fits id o args s s₁ sv av hwf ho (h' ▸ h)

/-- `__arrow_c_stream__` adds what the outside world hands over, and nothing else. -/
theorem settles_cStream (v : HostValue) (args : List HostValue) (s : Session O) :
    Settles (cStream v args) (fun _ => 0) 0 s := by
  rcases cStream_cases v args s with ⟨e, h⟩ | ⟨id, hd, owed, req, -, ho, h⟩ | ⟨id, o, -, ho, h⟩
  · exact Settles.of_reads (by rw [h])
  · exact Settles.of_exec_eq h (settles_exportStream req ho)
  · exact Settles.of_exec_eq h (hw.cStream id o args s ho)

/-- A capsule `__arrow_c_stream__` answers holds a sound stream, if it is named for one. -/
theorem cStream_fits {args : List HostValue} {r : HostValue} (hwf : s.WF)
    (h : (cStream v args).exec s = (.ok r, s₁)) : s₁.Fits .stream r := by
  rcases cStream_cases v args s with ⟨e, h'⟩ | ⟨id, hd, owed, req, -, ho, h'⟩ | ⟨id, o, -, ho, h'⟩
  · rw [h'] at h
    simp at h
  · have hwf₁ := (settles_exportStream req ho hwf).1
    rw [← h', h] at hwf₁
    exact exportStream_fits (h' ▸ h) hwf₁
  · exact hw.cStream_fits id o args s s₁ r hwf ho (h' ▸ h)

end Honest

/-- The export methods take no capsule and release nothing, whatever their arguments: a
requested schema is only read. -/
theorem cArray_spares_export {id : Nat} {hd : ArrayHandle} {owed : Ledger}
    (ho : s.object? id = some (.arrayExport hd owed)) (args : List HostValue) :
    Session.Spares s ((cArray (.ref id) args).exec s).2 := by
  rcases cArray_cases (.ref id) args s with ⟨e, h⟩ | ⟨id', hd', owed', req, hid, ho', h⟩ |
    ⟨id', o, hid, ho', h⟩
  · rw [h]
    exact Session.Spares.refl s
  · rw [h]
    exact exportArray_spares req ho'
  · cases hid
    rw [ho] at ho'
    cases ho'

theorem cStream_spares_export {id : Nat} {hd : StreamHandle} {owed : Ledger}
    (ho : s.object? id = some (.streamExport hd owed)) (args : List HostValue) :
    Session.Spares s ((cStream (.ref id) args).exec s).2 := by
  rcases cStream_cases (.ref id) args s with ⟨e, h⟩ | ⟨id', hd', owed', req, hid, ho', h⟩ |
    ⟨id', o, hid, ho', h⟩
  · rw [h]
    exact Session.Spares.refl s
  · rw [h]
    exact exportStream_spares req ho'
  · cases hid
    rw [ho] at ho'
    cases ho'

end Host

end Columnar
