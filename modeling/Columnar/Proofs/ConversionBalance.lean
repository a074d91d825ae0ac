import Columnar.Proofs.MakerWorld

/-!
# The conversions settle what the object hands over

The four conversions of the binding (`arrayOf`, `batchOf`, `tableOf`, `chunkedOf`) keep the
balance of the session in every honest world, whatever the object does: the balance at the
end, plus what the converted value owes, is the balance at the start plus what the outside
world handed over meanwhile. A descriptor handed over is so released once: by the
conversion, by the value that keeps its memory, or by the capsule the conversion left it in.

Each function gets one statement, proved from those of the functions it calls:

* `pairOf` takes the schema, then the array; when the array cannot be taken the schema is
  settled (`settles_pairOf`);
* `adoptSeries` settles the schema, and the array unless the imported column keeps its
  memory;
* `_export_to_c` that raises has what it wrote released before the exception passes on;
* a stream is read by a reader that passes on everything it owes (`StreamLedger`), so
  `readWith` settles it;
* `convertAll` settles what the values it got to hand over: a failure drops what was
  converted before it.

`tableOf` and `chunkedOf` have one shape (`settles_streamOrListed`): a stream when the object
has one, else the values the object lists, converted one by one.

Objects die clean when their deaths release what they owe; then any collection keeps the
balance. The binding's export objects always die clean, and so do its capsules while they
hold a live descriptor.
-/

namespace Columnar
namespace Host

variable {O : Type} {α : Type} {s s₁ : Session O} {v : HostValue}

theorem settles_keepIf {β : Type} (keeps : Bool) (a : β) (owed : Ledger) (s : Session O) :
    Settles (keepIf keeps a owed) (fun k => k.owed) owed s := by
  unfold keepIf
  cases keeps
  · -- the memory is not kept: what it owed is settled now
    simp only [Bool.false_eq_true, if_false]
    exact (Settles.bind (settles_settle owed s) (fun _ _ _ => settles_pure _ _ _)
      (fun _ _ _ => rfl)).congr (fun _ => rfl) (by simp)
  · exact settles_pure _ _ s

/-- Adopting a schema and an array settles the schema at once, and the array once nothing
keeps its memory. -/
theorem settles_adoptSeries (a : ArrayNode) (ao : Ledger) (n : SchemaNode) (so : Ledger)
    (s : Session O) :
    Settles (adoptSeries a ao n so) (fun k => k.owed)
      (Ledger.ofSchema n + so + (Ledger.ofArray a + ao)) s := by
  unfold adoptSeries
  apply Settles.bind_of_eq (settles_settle _ s)
  case hf =>
    intro _ s₁ _
    dsimp only
    -- the import keeps the array's memory or not; a refused import settles the array now
    split
    · exact (settles_keepIf _ _ _ s₁).congr (fun _ => rfl) (zero_add _).symm
    · exact (settles_settle_throw _ _ _ s₁).congr (fun _ => rfl) (zero_add _).symm
  case hz => exact fun _ _ h => by simp at h
  case hm => simp

theorem settles_structTable (k : Kept Series) (s : Session O) :
    Settles (structTable k) (fun k => k.owed) k.owed s := by
  unfold structTable
  split
  · split
    · exact settles_pure _ _ s
    · exact settles_settle_throw _ _ _ s
  · exact settles_settle_throw _ _ _ s

theorem settles_afterRead (l : Leftover) (so : Ledger) (s : Session O) :
    Settles (afterRead l so) (fun o => o) (l.total + so) s := by
  unfold afterRead
  apply Settles.bind_of_eq (settles_settle _ s)
  case hf => exact fun _ s₁ _ => (settles_pure _ _ s₁).congr (fun _ => rfl) (zero_add _).symm
  case hz => exact fun _ _ h => by simp at h
  case hm => simp [Leftover.total, add_assoc]

/-- A step that only reads the session, followed by one that settles everything. -/
theorem Settles.readOnly_bind {β : Type} {x : Host O α} {f : α → Host O β} {ob : β → Ledger}
    (hx : ReadOnly x) (hf : ∀ a, x.exec s = (.ok a, s) → Settles (f a) ob 0 s) :
    Settles (x >>= f) ob 0 s := by
  rcases h : x.exec s with ⟨_ | a, s₀⟩ <;> obtain rfl := hx.eq_of_exec h
  · exact Settles.of_error ob (by rw [exec_bind, h])
  · exact Settles.bind_ok h (hf a h)

theorem fetch_ok {id : Nat} {o : HostObject O} (h : (fetch id).exec s = (.ok o, s₁)) :
    s.object? id = some o := by
  rw [exec_fetch] at h
  cases ho : s.object? id <;> simp_all

/-- The debts of converted values add up. -/
theorem owedOf_eq {β : Type} (ks : List (Kept β)) : owedOf ks = (ks.map (·.owed)).sum := by
  unfold owedOf
  suffices h : ∀ l : Ledger, ks.foldl (fun l k => l.merge k.owed) l = l + (ks.map (·.owed)).sum by
    simpa using h 0
  induction ks with
  | nil => simp
  | cons k ks ih =>
    intro l
    rw [List.foldl_cons, ih]
    simp [add_assoc]

/-- Converting values in order settles what each conversion settles. A failure drops the
values converted before it, settling their debts. -/
theorem settles_convertAll {β : Type} {f : HostValue → Host O (Kept β)}
    (hf : ∀ v s, Settles (f v) (fun k => k.owed) 0 s) (vs : List HostValue) (s : Session O) :
    Settles (convertAll f vs) (fun ks => (ks.map (·.owed)).sum) 0 s := by
  induction vs generalizing s with
  | nil => exact (settles_pure _ _ s).congr (fun _ => rfl) (by simp)
  | cons v vs ih =>
    unfold convertAll
    apply Settles.bind_of_eq (hf v s)
    case hz => exact fun _ _ _ => rfl
    case hm => exact zero_add _
    case hf =>
      intro k s₁ _
      -- the rest is converted next; a failure there settles what `k` owes
      apply Settles.bind_of_eq (Settles.tryCatch (K := k.owed) (ih s₁)
        (fun e s₂ _ => settles_settle_throw k.owed e _ s₂))
      case hz => exact fun _ _ _ => rfl
      case hf =>
        intro rest s₂ _
        exact (settles_pure _ _ s₂).congr (fun _ => rfl) (by simp [add_comm])
      case hm => simp

theorem ReadOnly.items (v : HostValue) [World O] : ReadOnly (items v : Host O _) := by
  unfold Host.items
  split
  · exact ReadOnly.pure _
  · exact ReadOnly.pure _
  · exact ReadOnly.raise _ _
  · exact (ReadOnly.className _).bind fun _ => ReadOnly.raise _ _

variable [World O]

/-- A method the binding reads a list from: the world's, or a missing attribute. -/
theorem settles_lister {name : String} {method : Nat → O → Host O HostValue}
    (hm : ∀ id o (s : Session O), s.object? id = some (.outside o) →
      Settles (method id o) (fun _ => 0) 0 s) (v : HostValue) (s : Session O) :
    Settles (do
        needAttr v name
        match v with
        | .ref id =>
          match ← fetch id with
          | .outside o => method id o
          | o => noAttribute o.className name
        | _ => noAttribute (← className v) name) (fun _ => 0) 0 s := by
  refine Settles.readOnly_bind (ReadOnly.needAttr v _) fun _ hn => ?_
  split
  · next id =>
    refine Settles.readOnly_bind (ReadOnly.fetch id) fun o ho => ?_
    cases o
    case outside o => exact hm id o s (fetch_ok ho)
    all_goals exact settles_throw _ _ _
  · exact Settles.readOnly_bind (ReadOnly.className v) fun _ _ => settles_throw _ _ _

section Honest

variable (hw : World.Honest O)
include hw

/-- The schema and the array of a pair: the schema is taken first, and when the array cannot
be taken the schema is settled. Each comes with what its memory owed. -/
theorem settles_pairOf (v : HostValue) (s : Session O) :
    Settles (pairOf v) (fun r => Ledger.ofSchema r.1.1 + r.1.2 + (Ledger.ofArray r.2.1 + r.2.2))
      0 s := by
  unfold pairOf
  refine Settles.of_wf fun hwf => ?_
  refine (Settles.bind (settles_cArray hw v [] s) (fun r s₁ hr => ?_) (fun _ _ _ => rfl)).congr
    (fun _ => rfl) (add_zero _)
  have hwf₁ := (settles_cArray hw v [] s).wf hwf hr
  split
  · next sv av =>
    obtain ⟨hfs, hfa⟩ := cArray_fits hw hwf hr
    refine (Settles.bind (settles_takeFrom sv .schema s₁) (fun spo s₂ hs => ?_)
      (fun _ _ _ => rfl)).congr (fun _ => rfl) (zero_add _)
    obtain ⟨sp, so⟩ := spo
    obtain ⟨n, rfl⟩ := Payload.eq_schema (takeFrom_fits hfs hs).1
    have hfa₂ := takeFrom_keeps_fits hfa hwf₁ hs
    dsimp only
    -- the array is taken next; a failed take settles the schema taken
    refine (Settles.bind (Settles.tryCatch (K := (Ledger.schema {} n).merge so)
      (settles_takeFrom av .array s₂) (fun e s₃ _ => ?_))
      (fun apo s₃ ha => ?_) (fun _ _ _ => rfl)).congr (fun _ => rfl) ?_
    · exact settles_settle_throw _ e _ s₃
    · obtain ⟨ap, ao⟩ := apo
      have htake : (takeFrom av .array).exec s₂ = (.ok (ap, ao), s₃) := by
        rw [exec_tryCatch] at ha
        rcases ht : (takeFrom av .array).exec s₂ with ⟨_ | _, _⟩ <;> rw [ht] at ha
        · simp [exec_bind] at ha
        · exact ha
      obtain ⟨arr, rfl⟩ := Payload.eq_array (takeFrom_fits hfa₂ htake).1
      refine (settles_pure _ _ _).congr (fun _ => rfl) ?_
      simp only [Payload.owes_array, Ledger.schema_eq, Ledger.merge_eq_add, add_zero]
      abel
    · simp
  · exact (settles_throw _ _ _).congr (fun _ => rfl) (zero_add 0).symm

/-- The older handshake hands over what the object writes. When the object raises after
writing, what it wrote is released before the exception passes on. -/
theorem settles_exportToC (v : HostValue) (s : Session O) :
    Settles (exportToC v) (fun r => Ledger.ofArray r.1 + Ledger.ofSchema r.2) 0 s := by
  unfold exportToC
  refine Settles.readOnly_bind (ReadOnly.needAttr v _) fun _ hn => ?_
  split
  · next id =>
    refine Settles.readOnly_bind (ReadOnly.fetch id) fun o ho => ?_
    cases o
    case outside o =>
      refine Settles.bind_owed (hw.exportToC id o s (fetch_ok ho)) fun w s₁ _ => ?_
      split
      · exact (settles_settle_throw _ _ _ s₁).congr (fun _ => rfl) (by simp)
      · exact settles_pure _ _ s₁
    all_goals exact settles_throw _ _ _
  · exact Settles.readOnly_bind (ReadOnly.className v) fun _ _ => settles_throw _ _ _

theorem settles_legacyOf (v : HostValue) (s : Session O) :
    Settles (legacyOf v) (fun k => k.owed) 0 s := by
  unfold legacyOf
  refine Settles.bind_owed (settles_exportToC hw v s) ?_
  rintro ⟨a, n⟩ s₁ -
  exact (settles_adoptSeries a {} n {} s₁).congr (fun _ => rfl) (by simp [add_comm])

/-- A column comes through the capsule protocol, else through the older handshake. -/
theorem settles_arrayOf (v : HostValue) (s : Session O) :
    Settles (arrayOf v) (fun k => k.owed) 0 s := by
  unfold arrayOf
  refine Settles.readOnly_bind (ReadOnly.hasAttr v _) fun b _ => ?_
  cases b
  · exact settles_legacyOf hw v s
  · refine Settles.bind_owed (settles_pairOf hw v s) ?_
    rintro ⟨⟨n, so⟩, ⟨a, ao⟩⟩ s₁ -
    exact settles_adoptSeries a ao n so s₁

/-- The stream comes out of its capsule with what it owes: its own release and what it
holds, and what its memory owed. -/
theorem settles_streamOf (v : HostValue) (s : Session O) :
    Settles (streamOf v) (fun r => r.1.release.ledger + r.2) 0 s := by
  unfold streamOf
  refine Settles.of_wf fun hwf => ?_
  refine Settles.bind_owed (settles_cStream hw v [] s) fun r s₁ hr => ?_
  refine Settles.bind_owed (settles_takeFrom r .stream s₁) ?_
  rintro ⟨p, o⟩ s₂ ht
  obtain ⟨st, rfl⟩ := Payload.eq_stream (takeFrom_fits (cStream_fits hw hwf hr) ht).1
  exact (settles_pure _ _ s₂).congr (fun _ => rfl) (by simp)

/-- The stream a capsule hands the binding makes no array it did not hold. -/
theorem streamOf_premade {st : ArrayStream} {so : Ledger} (hwf : s.WF)
    (h : (streamOf v).exec s = (.ok (st, so), s₁)) : st.Premade := by
  unfold streamOf at h
  rw [exec_bind] at h
  rcases hr : (cStream v []).exec s with ⟨_ | r, s₀⟩ <;> rw [hr] at h
  · simp at h
  · dsimp only at h
    rw [exec_bind] at h
    rcases ht : (takeFrom r .stream).exec s₀ with ⟨_ | ⟨p, o⟩, s₂⟩ <;> rw [ht] at h
    · simp at h
    · obtain ⟨hk, hsound⟩ := takeFrom_fits (cStream_fits hw hwf hr) ht
      obtain ⟨st', rfl⟩ := Payload.eq_stream hk
      simp only [exec_pure, Prod.mk.injEq, Except.ok.injEq] at h
      obtain ⟨⟨rfl, -⟩, -⟩ := h
      exact hsound

/-- Reading a stream settles what the stream owed, whatever the read does, given a read that
passes on everything a stream that holds its arrays owes (`StreamLedger`). -/
theorem settles_readWith {β : Type} {read : ArrayStream → Except Error β × Leftover}
    (hread : ∀ st, st.Premade → (read st).2.total = st.release.ledger) (keeps : β → Bool)
    (v : HostValue) (s : Session O) :
    Settles (readWith read keeps v) (fun k => k.owed) 0 s := by
  unfold readWith
  refine Settles.of_wf fun hwf => ?_
  refine Settles.bind_owed (settles_streamOf hw v s) ?_
  rintro ⟨st, so⟩ s₁ hst
  dsimp only
  rw [← hread st (streamOf_premade hw hwf hst)]
  rcases hr : read st with ⟨result, l⟩
  dsimp only
  refine Settles.bind_owed (settles_afterRead l so s₁) fun owed s₂ _ => ?_
  split
  · exact settles_keepIf _ _ _ s₂
  · exact settles_settle_throw _ _ _ s₂

/-- A record batch comes through the capsule protocol, else as the one batch of a stream,
else through the older handshake. -/
theorem settles_batchOf (v : HostValue) (s : Session O) :
    Settles (batchOf v) (fun k => k.owed) 0 s := by
  unfold batchOf
  refine Settles.readOnly_bind (ReadOnly.hasAttr v _) fun b _ => ?_
  cases b
  · simp only [Bool.false_eq_true, if_false]
    refine Settles.readOnly_bind (ReadOnly.hasAttr v _) fun b' _ => ?_
    cases b'
    · exact Settles.bind_owed (settles_legacyOf hw v s) fun k s₂ _ => settles_structTable k s₂
    · refine Settles.bind_owed
        (settles_readWith hw (fun _ hpre => importTableStream_total hpre) _ v s) fun k s₂ _ => ?_
      -- no batch gives an empty table, two or more are refused
      split
      · exact (Settles.bind (settles_settle _ s₂) (fun _ _ _ => settles_pure _ _ _)
          (fun _ _ _ => rfl)).congr (fun _ => rfl) (by simp)
      · exact settles_pure _ _ s₂
      · exact settles_settle_throw _ _ _ s₂
  · refine Settles.bind_owed (settles_pairOf hw v s) ?_
    rintro ⟨⟨n, so⟩, ⟨a, ao⟩⟩ s₁ -
    exact Settles.bind_owed (settles_adoptSeries a ao n so s₁) fun k s₂ _ =>
      settles_structTable k s₂

theorem settles_toBatches (v : HostValue) (s : Session O) :
    Settles (toBatches v) (fun _ => 0) 0 s :=
  settles_lister hw.toBatches v s

theorem settles_chunksOf (v : HostValue) (s : Session O) :
    Settles (chunksOf v) (fun _ => 0) 0 s :=
  settles_lister hw.chunks v s

end Honest

/-- The shape `tableOf` and `chunkedOf` share: read the object's stream when it has one,
else convert each value the object lists and combine the converted values. -/
theorem settles_streamOrListed {β γ : Type} {read : ArrayStream → Except Error γ × Leftover}
    {keeps : γ → Bool}
    (hread : ∀ v (s : Session O), Settles (readWith read keeps v) (fun k => k.owed) 0 s)
    {lister : HostValue → Host O HostValue}
    (hlister : ∀ v s, Settles (lister v) (fun _ => 0) 0 s)
    {f : HostValue → Host O (Kept β)} (hf : ∀ v s, Settles (f v) (fun k => k.owed) 0 s)
    {g : List (Kept β) → Host O (Kept γ)}
    (hg : ∀ ks s, Settles (g ks) (fun k => k.owed) ((ks.map (·.owed)).sum) s)
    (v : HostValue) (s : Session O) :
    Settles (do
        if ← hasAttr v "__arrow_c_stream__" then readWith read keeps v
        else g (← convertAll f (← items (← lister v))))
      (fun k => k.owed) 0 s := by
  refine Settles.readOnly_bind (ReadOnly.hasAttr v _) fun b _ => ?_
  cases b
  · -- no stream: the object's list is converted value by value
    simp only [Bool.false_eq_true, if_false]
    refine Settles.bind_owed (hlister v s) fun r s₁ _ => ?_
    refine Settles.readOnly_bind (ReadOnly.items r) fun vs _ => ?_
    exact Settles.bind_owed (settles_convertAll hf vs s₁) fun ks s₂ _ => hg ks s₂
  · exact hread v s

section Honest

variable (hw : World.Honest O)
include hw

/-- A batched table comes from the object's stream, else from its batches, each converted as
a record batch. -/
theorem settles_tableOf (v : HostValue) (s : Session O) :
    Settles (tableOf v) (fun k => k.owed) 0 s := by
  unfold tableOf
  refine settles_streamOrListed
    (settles_readWith hw (fun _ hpre => importBatchedStream_total hpre) _)
    (settles_toBatches hw) (settles_batchOf hw) (fun ks s => ?_) v s
  dsimp only
  split
  · exact (settles_pure _ _ s).congr (fun _ => rfl) (by simp)
  · split
    · exact (settles_pure _ _ s).congr (fun _ => rfl) (owedOf_eq _)
    · exact (settles_settle_throw _ _ _ s).congr (fun _ => rfl) (owedOf_eq _)

/-- A chunked series comes from the object's stream, else from its chunks, each converted as
a column. -/
theorem settles_chunkedOf (v : HostValue) (s : Session O) :
    Settles (chunkedOf v) (fun k => k.owed) 0 s := by
  unfold chunkedOf
  refine settles_streamOrListed
    (settles_readWith hw (fun _ hpre => importChunkedStream_total hpre) _)
    (settles_chunksOf hw) (settles_arrayOf hw) (fun ks s => ?_) v s
  dsimp only
  split
  · exact (settles_pure _ _ s).congr (fun _ => rfl) (owedOf_eq _)
  · exact (settles_settle_throw _ _ _ s).congr (fun _ => rfl) (owedOf_eq _)

end Honest

end Host

/-! ## Deaths and the capsules of the export objects -/

/-- The object's death releases exactly what it owes. -/
def HostObject.DiesClean {O : Type} (o : HostObject O) : Prop :=
  ∀ l, o.finalize l = l + o.owes

/-- A capsule the binding issued: it holds a live descriptor and has the binding's
destructor, so its death releases the descriptor unless a consumer moved it out first. -/
def HostCapsule.Issued (c : HostCapsule) : Prop :=
  c.destructor = some dropPayload ∧ c.payload.isLive = true

theorem HostCapsule.Issued.diesClean {O : Type} {c : HostCapsule} (h : c.Issued) :
    (HostObject.capsule c : HostObject O).DiesClean := by
  intro l
  have hfin : c.finalize l = l.merge ((c.payload.release {}).merge c.owed) := by
    simp only [HostCapsule.finalize, h.1, dropPayload, h.2, if_true]
  rw [HostObject.finalize, hfin]
  rfl

/-- A capsule a take emptied dies clean, whatever destructor it has, as long as that
destructor releases only live descriptors. -/
theorem HostCapsule.diesClean_emptied {O : Type} (c : HostCapsule)
    (hd : ∀ d, c.destructor = some d → d.SparesReleased) :
    (HostObject.capsule { c with payload := c.payload.emptied, owed := {} } :
      HostObject O).DiesClean := by
  intro l
  rw [HostObject.finalize, HostCapsule.finalize_emptied c hd]
  simp [HostObject.owes, HostCapsule.owes]

theorem HostObject.diesClean_arrayExport {O : Type} (hd : ArrayHandle) (owed : Ledger) :
    (HostObject.arrayExport hd owed : HostObject O).DiesClean :=
  fun _ => rfl

theorem HostObject.diesClean_streamExport {O : Type} (hd : StreamHandle) (owed : Ledger) :
    (HostObject.streamExport hd owed : HostObject O).DiesClean :=
  fun _ => rfl

namespace Session

variable {O : Type}

/-- Objects that die clean release, as they die, what they owed. -/
theorem foldl_finalize (es : List (Nat × HostObject O)) (h : ∀ e ∈ es, e.2.DiesClean)
    (l : Ledger) :
    es.foldl (fun l (e : Nat × HostObject O) => e.2.finalize l) l =
      l + (es.map fun e => e.2.owes).sum := by
  induction es generalizing l with
  | nil => simp
  | cons e es ih =>
    rw [List.foldl_cons, h e List.mem_cons_self,
      ih (fun e' he' => h e' (List.mem_cons_of_mem e he'))]
    simp [add_assoc]

/-- A collection in which every dying object dies clean keeps the balance: what left the heap
was released. -/
theorem balance_sweep (s : Session O) (dead : Nat → Bool)
    (h : ∀ e ∈ s.heap, dead e.1 = true → e.2.DiesClean) : (s.sweep dead).balance = s.balance := by
  have hgone : ∀ e ∈ s.heap.filter (fun e => dead e.1), e.2.DiesClean := fun e he => by
    rw [List.mem_filter] at he
    exact h e he.1 he.2
  have hpart := List.sum_map_filter_add_sum_map_filter_not (fun e => dead e.1 = true)
    (fun e : Nat × HostObject O => e.2.owes) s.heap
  simp only [Bool.decide_eq_true, decide_not] at hpart
  simp only [sweep, balance]
  rw [foldl_finalize _ hgone, add_assoc, hpart]

end Session

namespace Host

variable {O : Type} [World O] {s s₁ : Session O}

/-- `__arrow_c_array__` of an export object hands out two capsules the binding issued, the
array's owing what the source's memory owed. -/
theorem cArray_issued {id : Nat} {hd : ArrayHandle} {owed : Ledger} {args : List HostValue}
    {r : HostValue} (hwf : s.WF) (ho : s.object? id = some (.arrayExport hd owed))
    (h : (cArray (.ref id) args).exec s = (.ok r, s₁)) :
    ∃ i j cs ca, r = .tuple [.ref i, .ref j] ∧ s₁.object? i = some (.capsule cs) ∧
      s₁.object? j = some (.capsule ca) ∧ cs.Issued ∧ ca.Issued ∧ ca.owed = owed := by
  rcases cArray_cases (.ref id) args s with ⟨e, h'⟩ | ⟨id', hd', owed', req, hid, ho', h'⟩ |
    ⟨id', o, hid, ho', h'⟩
  · rw [h'] at h
    simp at h
  · cases hid
    rw [ho] at ho'
    cases ho'
    rw [h'] at h
    obtain ⟨hd₂, n, a, hn, ha, rfl, rfl⟩ := exportArray_ok h
    exact ⟨_, _, _, _, rfl,
      (Session.object?_eq_some_iff hwf.put.push.push).mpr
        (Session.mem_push_of_mem (Session.mem_push_self _ _) _),
      (Session.object?_eq_some_iff hwf.put.push.push).mpr (Session.mem_push_self _ _),
      ⟨rfl, by simp [Payload.isLive, hn.1]⟩, ⟨rfl, by simp [Payload.isLive, ha.1]⟩, rfl⟩
  · cases hid
    rw [ho] at ho'
    cases ho'

/-- `__arrow_c_stream__` of an export object hands out a capsule the binding issued, owing
what the source's memory owed. -/
theorem cStream_issued {id : Nat} {hd : StreamHandle} {owed : Ledger} {args : List HostValue}
    {r : HostValue} (hwf : s.WF) (ho : s.object? id = some (.streamExport hd owed))
    (h : (cStream (.ref id) args).exec s = (.ok r, s₁)) :
    ∃ i c, r = .ref i ∧ s₁.object? i = some (.capsule c) ∧ c.Issued ∧ c.owed = owed := by
  rcases cStream_cases (.ref id) args s with ⟨e, h'⟩ | ⟨id', hd', owed', req, hid, ho', h'⟩ |
    ⟨id', o, hid, ho', h'⟩
  · rw [h'] at h
    simp at h
  · cases hid
    rw [ho] at ho'
    cases ho'
    rw [h'] at h
    obtain ⟨hd₂, p, hlive, rfl, rfl⟩ := exportStream_ok h
    exact ⟨_, _, rfl, (Session.object?_eq_some_iff hwf.put.push).mpr (Session.mem_push_self _ _),
      ⟨rfl, by simp [Payload.isLive, ArrayStream.isReleased, hlive]⟩, rfl⟩
  · cases hid
    rw [ho] at ho'
    cases ho'

/-! ## Ownership across the binding -/

end Host

end Columnar
