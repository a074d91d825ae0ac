import Columnar.Bytes.Pool
import Columnar.Proofs.Basic

/-!
# Shared buffers keep their books

A program holds buffers through handles on storages (`Pool`). A counted storage keeps a count of
the references to it, and its owner is dropped with the last one; static data keeps none. This
file proves that the counts are the handles: whatever operations a program makes, starting from
nothing (`run_sound`),

* the references a counted storage counts are the handles held on it, and the count a handle
  reports is that number, or none for static data (`StorageLaw.refCount_eq`);
* the owner of a counted storage was dropped once if no handle on it is left, and never while
  one is (`StorageLaw.drops_eq`), and an operation drops it exactly when it lets the last handle
  on it go (`StorageLaw.drops_step`);
* a slice stops exactly when its range runs backwards or past the end of the handle sliced,
  and otherwise lies inside it (`SliceLaw`), and a window on a typed handle likewise stays in its
  elements (`WindowLaw`).

Every operation is one of a few changes to the pool (`Change`, `step_change`). The books
(`Consistent`: each handle inside its storage, each storage's count equal to its holders) are
kept by each change, hence by every run; what a change does to one storage (`Effect`) gives how
its references and drops move.
-/

namespace Columnar

/-- Splitting bytes into words takes no more bytes than there are. -/
theorem LittleEndian.length_words_mul_le (w : Nat) (bs : List UInt8) :
    (LittleEndian.words w bs).length * w ≤ bs.length := by
  rcases Nat.eq_zero_or_pos w with rfl | hw
  · rw [Nat.mul_zero]
    exact Nat.zero_le _
  · rw [LittleEndian.length_words hw]
    exact Nat.div_mul_le_self _ _

/-- A typed read holds as many elements as fit in the bytes it reads. -/
theorem TypedBuffer.len_ofShared {k : NumericKind} {b : SharedBytes} {s : Storage}
    {t : TypedBuffer} (h : TypedBuffer.ofShared k b s = .ok t) :
    t.len * k.width ≤ (b.read s).length := by
  unfold TypedBuffer.ofShared at h
  split at h
  · cases h
  · cases h
    exact LittleEndian.length_words_mul_le _ _

/-! ## Ranges of bytes -/

namespace ByteRange

/-- The first byte a range selects, read without the bound on words. -/
def first (r : ByteRange) : Nat :=
  match r.start with
  | none => 0
  | some n => if r.excludeStart then n + 1 else n

/-- Where the bytes a range selects from `len` bytes end, read without the bound on words. -/
def last (r : ByteRange) (len : Nat) : Nat :=
  match r.stop with
  | none => len
  | some n => if r.includeStop then n + 1 else n

/-- The first byte is read as it is, or stops the program when it is past the last word. -/
theorem firstByte_cases (r : ByteRange) :
    r.firstByte = .ok r.first ∨ (wordMax < r.first ∧ ∃ m, r.firstByte = .error (.panic m)) := by
  rcases r with ⟨_ | n, _ | _, stop, inc⟩
  · exact .inl rfl
  · exact .inl rfl
  · exact .inl rfl
  · show addWords n 1 = .ok (n + 1) ∨ (wordMax < n + 1 ∧ ∃ m, addWords n 1 = .error (.panic m))
    unfold addWords
    split
    · exact .inl rfl
    · exact .inr ⟨by omega, _, rfl⟩

/-- The end is read as it is, or stops the program when it is past the last word. -/
theorem stopByte_cases (r : ByteRange) (len : Nat) :
    r.stopByte len = .ok (r.last len) ∨
      (wordMax < r.last len ∧ ∃ m, r.stopByte len = .error (.panic m)) := by
  rcases r with ⟨start, ex, _ | n, _ | _⟩
  · exact .inl rfl
  · exact .inl rfl
  · exact .inl rfl
  · show addWords n 1 = .ok (n + 1) ∨ (wordMax < n + 1 ∧ ∃ m, addWords n 1 = .error (.panic m))
    unfold addWords
    split
    · exact .inl rfl
    · exact .inr ⟨by omega, _, rfl⟩

end ByteRange

namespace SharedBytes

variable {b b' : SharedBytes} {r : ByteRange}

/-- A range that runs forwards and ends inside the buffer cuts out its bytes. -/
theorem cut_eq_ok (hfirst : r.first ≤ r.last b.len) (hlast : r.last b.len ≤ b.len)
    (hlen : b.len ≤ wordMax) :
    b.cut r = .ok ⟨b.start + r.first, r.last b.len - r.first⟩ := by
  have h1 : r.firstByte = .ok r.first := by
    rcases r.firstByte_cases with h | ⟨hw, -⟩
    · exact h
    · omega
  have h2 : r.stopByte b.len = .ok (r.last b.len) := by
    rcases r.stopByte_cases b.len with h | ⟨hw, -⟩
    · exact h
    · omega
  simp only [cut, h1, h2, bind, Except.bind, if_pos (And.intro hfirst hlast)]
  rfl

/-- A range that runs backwards or past the end of the buffer stops the program. -/
theorem cut_panics (h : r.last b.len < r.first ∨ b.len < r.last b.len) :
    ∃ m, b.cut r = .error (.panic m) := by
  rcases r.firstByte_cases with h1 | ⟨-, m, h1⟩
  · rcases r.stopByte_cases b.len with h2 | ⟨-, m, h2⟩
    · have hout : ¬ (r.first ≤ r.last b.len ∧ r.last b.len ≤ b.len) := by omega
      exact ⟨_, by simp only [cut, h1, h2, bind, Except.bind, if_neg hout]; rfl⟩
    · exact ⟨m, by simp only [cut, h1, h2, bind, Except.bind]⟩
  · exact ⟨m, by simp only [cut, h1, bind, Except.bind]⟩

/-- What a cut gives lies inside the buffer cut. -/
theorem cut_inside (h : b.cut r = .ok b') :
    b.start ≤ b'.start ∧ b'.start + b'.len ≤ b.start + b.len := by
  rcases r.firstByte_cases with h1 | ⟨-, m, h1⟩
  · rcases r.stopByte_cases b.len with h2 | ⟨-, m, h2⟩
    · simp only [cut, h1, h2, bind, Except.bind] at h
      split at h
      · cases h
        dsimp only
        omega
      · cases h
    · simp only [cut, h1, h2, bind, Except.bind] at h
      cases h
  · simp only [cut, h1, bind, Except.bind] at h
    cases h

end SharedBytes

/-! ## The books of one storage -/

namespace Storage

variable {s : Storage} {n : Nat}

/-- The books of a storage with `n` handles held on it: a counted storage counts `n`
references, and its owner was dropped once if `n` is zero, never otherwise. -/
structure Books (s : Storage) (n : Nat) : Prop where
  counts : ∀ m, s.backing = .counted m → m = n
  drops_eq : s.drops = if s.backing = .static ∨ 0 < n then 0 else 1

@[simp] theorem retain_bytes (s : Storage) : s.retain.bytes = s.bytes := by
  unfold retain
  split <;> rfl

@[simp] theorem release_bytes (s : Storage) : s.release.bytes = s.bytes := by
  unfold release
  split <;> rfl

theorem books_owned (bytes : List UInt8) : (owned bytes).Books 1 :=
  ⟨fun _ hm => by cases hm; rfl, rfl⟩

theorem books_static (bytes : List UInt8) : (static bytes).Books 1 :=
  ⟨fun _ hm => (nomatch hm), rfl⟩

theorem Books.retain (h : s.Books n) (hn : 0 < n) : s.retain.Books (n + 1) := by
  unfold Storage.retain
  split
  · next hs =>
    refine ⟨fun m hm => (nomatch hs.symm.trans hm), ?_⟩
    rw [h.drops_eq, if_pos (.inl hs), if_pos (.inl hs)]
  · next m hs =>
    refine ⟨fun m' hm' => ?_, ?_⟩
    · cases hm'
      rw [h.counts m hs]
    · show s.drops = if Backing.counted (m + 1) = .static ∨ 0 < n + 1 then 0 else 1
      rw [h.drops_eq, if_pos (.inr hn), if_pos (.inr (Nat.succ_pos n))]

theorem Books.release (h : s.Books n) (hn : 0 < n) : s.release.Books (n - 1) := by
  unfold Storage.release
  split
  · next hs =>
    refine ⟨fun m hm => (nomatch hs.symm.trans hm), ?_⟩
    rw [h.drops_eq, if_pos (.inl hs), if_pos (.inl hs)]
  · next m hs =>
    have hm : m = n := h.counts m hs
    subst hm
    refine ⟨fun m' hm' => ?_, ?_⟩
    · cases hm'
      rfl
    · show (if m = 1 then s.drops + 1 else s.drops) =
        if Backing.counted (m - 1) = .static ∨ 0 < m - 1 then 0 else 1
      have hstatic : ¬ Backing.counted (m - 1) = .static := nofun
      rw [h.drops_eq, if_pos (Or.inr hn)]
      by_cases h1 : m = 1
      · rw [if_pos h1, if_neg (not_or.2 ⟨hstatic, by omega⟩)]
      · rw [if_neg h1, if_pos (Or.inr (by omega))]

@[simp] theorem retain_drops (s : Storage) : s.retain.drops = s.drops := by
  unfold Storage.retain
  split <;> rfl

/-- Letting a reference go drops the owner exactly when it was the last of a counted storage. -/
theorem Books.release_drops (h : s.Books n) :
    s.release.drops = s.drops + if s.backing ≠ .static ∧ n = 1 then 1 else 0 := by
  unfold Storage.release
  split
  · next hs => simp [hs]
  · next m hs =>
    rw [h.counts m hs, hs]
    by_cases h1 : n = 1 <;> simp [h1]

/-- The references a storage reports are the handles its books count, none for static data. -/
theorem Books.refCount_eq (h : s.Books n) :
    s.refCount = if s.backing = .static then 0 else n := by
  unfold refCount
  split
  · next hs => simp [hs]
  · next m hs => simp [hs, h.counts m hs]

end Storage

namespace Handle

/-- A handle lies inside storage `s`: its bytes are bytes of `s`, and a typed handle's elements
lie inside its bytes. -/
def Inside (h : Handle) (s : Storage) : Prop :=
  h.bytes.start + h.bytes.len ≤ s.bytes.length ∧
    ∀ w ∈ h.elements, (w.first + w.count) * w.kind.width ≤ h.bytes.len

/-- Whether a handle lies inside a storage depends on the storage's bytes alone. -/
theorem Inside.of_bytes {h : Handle} {s s' : Storage} (hin : h.Inside s) (hb : s'.bytes = s.bytes) :
    h.Inside s' := by
  unfold Inside at hin ⊢
  rw [hb]
  exact hin

end Handle

namespace Pool

variable {p q : Pool} {i j k : Nat} {h h' : Handle} {s : Storage}

theorem handle?_eq_some : p.handle? i = some h ↔ p.handles[i]? = some (some h) :=
  Option.join_eq_some_iff

theorem lt_of_handle? (hi : p.handle? i = some h) : i < p.handles.length :=
  (List.getElem?_eq_some_iff.1 (handle?_eq_some.1 hi)).1

/-- A held handle on storage `k` is one of its holders. -/
theorem holders_pos (hi : p.handle? i = some h) : 0 < p.holders h.storage :=
  List.countP_pos_iff.2 ⟨some h, List.mem_of_getElem? (handle?_eq_some.1 hi), by simp⟩

/-- A storage no held handle is on has no holders. -/
theorem holders_eq_zero (hk : ∀ i h, p.handle? i = some h → h.storage ≠ k) : p.holders k = 0 := by
  refine List.countP_eq_zero.2 fun o ho hany => ?_
  obtain ⟨i, hi⟩ := List.mem_iff_getElem?.1 ho
  cases o with
  | none => cases hany
  | some h =>
    have hk' : h.storage = k := by simpa using hany
    exact hk i h (handle?_eq_some.2 hi) hk'

theorem holders_make (e : Option ElementWindow) (k : Nat) :
    (p.make s e).holders k = p.holders k + if p.storages.length = k then 1 else 0 := by
  simp only [holders, make, List.countP_append, List.countP_singleton, Option.any_some, beq_iff_eq]

theorem holders_make_of_lt (e : Option ElementWindow) (hk : k < p.storages.length) :
    (p.make s e).holders k = p.holders k := by
  rw [holders_make, if_neg (Nat.ne_of_gt hk), Nat.add_zero]

theorem holders_hold (h : Handle) (k : Nat) :
    (p.hold h).holders k = p.holders k + if h.storage = k then 1 else 0 := by
  simp only [holders, hold, List.countP_append, List.countP_singleton, Option.any_some, beq_iff_eq]

theorem holders_set_none (hi : p.handle? i = some h) (k : Nat) :
    (p.handles.set i none).countP (fun o => o.any (·.storage == k)) +
      (if h.storage = k then 1 else 0) = p.holders k := by
  have hlt := lt_of_handle? hi
  have hget : p.handles[i] = some h := (List.getElem?_eq_some_iff.1 (handle?_eq_some.1 hi)).2
  rw [List.countP_set hlt, hget]
  by_cases hk : h.storage = k
  · have hpos : 0 < p.holders k := hk ▸ holders_pos hi
    simp only [Option.any_some, Option.any_none, hk, beq_self_eq_true, if_true,
      Bool.false_eq_true, if_false, Nat.add_zero]
    unfold holders at hpos ⊢
    omega
  · simp [hk]
    rfl

theorem holders_letGo (hi : p.handle? i = some h) (k : Nat) :
    (p.letGo i h).holders k + (if h.storage = k then 1 else 0) = p.holders k :=
  holders_set_none hi k

theorem holders_move (hi : p.handle? i = some h) (hs : h'.storage = h.storage) (k : Nat) :
    (p.move i h').holders k = p.holders k := by
  have hset := holders_set_none hi k
  simp only [holders, move, List.countP_append, List.countP_singleton, Option.any_some,
    beq_iff_eq, hs] at hset ⊢
  exact hset

/-! ## Where handles and storages go -/

/-- A handle of the list with one entry pushed is a handle of the list or the pushed one. -/
theorem handle?_push {l : List (Option Handle)} {o : Option Handle}
    (hj : (l ++ [o])[j]?.join = some h) : l[j]?.join = some h ∨ o = some h := by
  by_cases hlt : j < l.length
  · rw [List.getElem?_append_left hlt] at hj
    exact .inl hj
  · rw [List.getElem?_append_right (Nat.le_of_not_lt hlt)] at hj
    right
    cases hd : j - l.length with
    | zero => simpa [hd] using hj
    | succ n => simp [hd] at hj

theorem handle?_push_of_lt {l : List (Option Handle)} {o : Option Handle} (hj : j < l.length) :
    (l ++ [o])[j]?.join = l[j]?.join := by
  rw [List.getElem?_append_left hj]

/-- Letting a handle go keeps every other handle, and no other. -/
theorem handle?_set_none {l : List (Option Handle)} (hj : (l.set i none)[j]?.join = some h) :
    l[j]?.join = some h ∧ j ≠ i := by
  rw [List.getElem?_set] at hj
  by_cases hji : i = j
  · subst hji
    rw [if_pos rfl] at hj
    split at hj <;> cases hj
  · rw [if_neg hji] at hj
    exact ⟨hj, fun h => hji h.symm⟩

theorem storage?_make_of_lt (e : Option ElementWindow) (hk : k < p.storages.length) :
    (p.make s e).storage? k = p.storage? k :=
  List.getElem?_append_left hk

theorem storage?_make_self (e : Option ElementWindow) :
    (p.make s e).storage? p.storages.length = some s := by
  simp [storage?, make]

theorem storage?_make_of_gt (e : Option ElementWindow) (hk : p.storages.length < k) :
    (p.make s e).storage? k = none := by
  simp only [storage?, make]
  rw [List.getElem?_eq_none]
  simp only [List.length_append, List.length_singleton]
  omega

theorem storage?_hold (h : Handle) (k : Nat) :
    (p.hold h).storage? k = (p.storage? k).map fun s => if h.storage = k then s.retain else s :=
  List.getElem?_modify ..

theorem storage?_letGo (i : Nat) (h : Handle) (k : Nat) :
    (p.letGo i h).storage? k = (p.storage? k).map fun s => if h.storage = k then s.release else s :=
  List.getElem?_modify ..

/-! ## The books of a pool -/

/-- The pool keeps its books: every held handle lies inside a storage of the pool, and every
storage's books count the handles held on it. -/
structure Consistent (p : Pool) : Prop where
  inside : ∀ i h, p.handle? i = some h → ∃ s, p.storage? h.storage = some s ∧ h.Inside s
  books : ∀ k s, p.storage? k = some s → s.Books (p.holders k)

theorem Consistent.storage_lt (hp : p.Consistent) (hi : p.handle? i = some h) :
    h.storage < p.storages.length := by
  obtain ⟨s, hs, -⟩ := hp.inside i h hi
  exact (List.getElem?_eq_some_iff.1 hs).1

theorem consistent_empty : Pool.empty.Consistent where
  inside i h hi := by simp [handle?, empty] at hi
  books k s hs := by simp [storage?, empty] at hs

/-- Making a storage whose books count one handle, with a handle inside it, keeps the books. -/
theorem Consistent.make (hp : p.Consistent) {e : Option ElementWindow} (hs : s.Books 1)
    (he : ∀ w ∈ e, (w.first + w.count) * w.kind.width ≤ s.bytes.length) :
    (p.make s e).Consistent where
  inside j h' hj := by
    rcases handle?_push hj with hj | hj
    · obtain ⟨s', hs', hin⟩ := hp.inside j h' hj
      exact ⟨s', by rw [storage?_make_of_lt e (hp.storage_lt hj)]; exact hs', hin⟩
    · cases hj
      refine ⟨s, storage?_make_self e, ?_, he⟩
      simp [SharedBytes.whole]
  books k s' hk := by
    rcases Nat.lt_trichotomy k p.storages.length with hlt | rfl | hgt
    · rw [storage?_make_of_lt e hlt] at hk
      rw [holders_make_of_lt e hlt]
      exact hp.books k s' hk
    · rw [storage?_make_self] at hk
      cases hk
      rw [holders_make, if_pos rfl,
        holders_eq_zero fun _ _ hi => Nat.ne_of_lt (hp.storage_lt hi)]
      exact hs
    · rw [storage?_make_of_gt e hgt] at hk
      cases hk

/-- Holding one more handle, inside the storage of a held one, keeps the books. -/
theorem Consistent.hold (hp : p.Consistent) (hi : p.handle? i = some h) {h' : Handle}
    (hs : h'.storage = h.storage) (hin : ∀ s, p.storage? h.storage = some s → h'.Inside s) :
    (p.hold h').Consistent where
  inside j h'' hj := by
    rcases handle?_push hj with hj | hj
    · obtain ⟨s', hs', hin'⟩ := hp.inside j h'' hj
      refine ⟨_, by rw [storage?_hold, hs']; rfl, hin'.of_bytes ?_⟩
      split <;> simp
    · cases hj
      obtain ⟨s', hs', -⟩ := hp.inside i h hi
      refine ⟨_, by rw [storage?_hold, hs, hs']; rfl, (hin s' hs').of_bytes ?_⟩
      simp
  books k s' hk := by
    rw [storage?_hold] at hk
    obtain ⟨s₀, hs₀, rfl⟩ := Option.map_eq_some_iff.1 hk
    rw [holders_hold]
    by_cases hk' : h'.storage = k
    · rw [if_pos hk', if_pos hk']
      have hpos : 0 < p.holders k := by rw [← hk', hs]; exact holders_pos hi
      exact (hp.books k s₀ hs₀).retain hpos
    · rw [if_neg hk', if_neg hk', Nat.add_zero]
      exact hp.books k s₀ hs₀

/-- Letting a held handle go keeps the books. -/
theorem Consistent.letGo (hp : p.Consistent) (hi : p.handle? i = some h) :
    (p.letGo i h).Consistent where
  inside j h' hj := by
    obtain ⟨hj, -⟩ := handle?_set_none hj
    obtain ⟨s', hs', hin⟩ := hp.inside j h' hj
    refine ⟨_, by rw [storage?_letGo, hs']; rfl, hin.of_bytes ?_⟩
    split <;> simp
  books k s' hk := by
    rw [storage?_letGo] at hk
    obtain ⟨s₀, hs₀, rfl⟩ := Option.map_eq_some_iff.1 hk
    have hcount := holders_letGo hi k
    by_cases hk' : h.storage = k
    · rw [if_pos hk'] at hcount ⊢
      have hpos : 0 < p.holders k := by rw [← hk']; exact holders_pos hi
      have hn : (p.letGo i h).holders k = p.holders k - 1 := by omega
      rw [hn]
      exact (hp.books k s₀ hs₀).release hpos
    · rw [if_neg hk', Nat.add_zero] at hcount
      rw [if_neg hk', hcount]
      exact hp.books k s₀ hs₀

/-- Moving a held handle into another on the same storage, inside it, keeps the books. -/
theorem Consistent.move (hp : p.Consistent) (hi : p.handle? i = some h) {h' : Handle}
    (hs : h'.storage = h.storage) (hin : ∀ s, p.storage? h.storage = some s → h'.Inside s) :
    (p.move i h').Consistent where
  inside j h'' hj := by
    rcases handle?_push hj with hj | hj
    · exact hp.inside j h'' (handle?_set_none hj).1
    · cases hj
      obtain ⟨s', hs', -⟩ := hp.inside i h hi
      exact ⟨s', by rw [hs]; exact hs', hin s' hs'⟩
  books k s' hk := by
    rw [holders_move hi hs]
    exact hp.books k s' hk

theorem Consistent.inside_of (hp : p.Consistent) (hi : p.handle? i = some h)
    (hs : p.storage? h.storage = some s) : h.Inside s := by
  obtain ⟨s', hs', hin⟩ := hp.inside i h hi
  rw [hs] at hs'
  cases hs'
  exact hin

theorem handle?_make_of_held {e : Option ElementWindow} (hi : p.handle? i = some h) :
    (p.make s e).handle? i = some h := by
  show ((p.handles ++ _)[i]?).join = _
  rw [handle?_push_of_lt (lt_of_handle? hi)]
  exact hi

/-- Taking a held handle over as elements keeps the books: refused, it goes; copied, fresh
storage holds the elements and the handle goes; kept, it moves into a typed handle. -/
theorem Consistent.takeTyped (hp : p.Consistent) (hi : p.handle? i = some h)
    (hs : p.storage? h.storage = some s) (k : NumericKind) :
    (p.takeTyped i h s k).2.Consistent := by
  unfold Pool.takeTyped
  cases ht : TypedBuffer.ofShared k h.bytes s with
  | error e => exact hp.letGo hi
  | ok t =>
    have hlen := TypedBuffer.len_ofShared ht
    dsimp only
    split
    · -- the fresh storage holds the elements read
      have hfresh : (p.make (Storage.owned (h.bytes.read s)) (some ⟨k, 0, t.len⟩)).Consistent :=
        hp.make (Storage.books_owned _) fun w hw => by
          cases hw
          simpa [Storage.owned] using hlen
      exact hfresh.letGo (handle?_make_of_held hi)
    · -- the handle's own bytes hold the elements read
      refine hp.move hi rfl fun s' hs' => ⟨(hp.inside_of hi hs').1, fun w hw => ?_⟩
      cases hw
      rw [hs] at hs'
      cases hs'
      simpa using Nat.le_trans hlen (List.length_take_le _ _)

/-! ## What one operation does -/

/-- What one operation does to a pool whose books are kept: make a storage whose books count
one handle, with a handle inside it; hold one more handle, inside the storage of a held one;
let a held handle go; take a held handle over as elements; or nothing. -/
inductive Change (p : Pool) : Pool → Prop
  | make {s : Storage} {e : Option ElementWindow} (hs : s.Books 1)
      (he : ∀ w ∈ e, (w.first + w.count) * w.kind.width ≤ s.bytes.length) : Change p (p.make s e)
  | hold {i : Nat} {h h' : Handle} (hi : p.handle? i = some h) (hs : h'.storage = h.storage)
      (hin : ∀ s, p.storage? h.storage = some s → h'.Inside s) : Change p (p.hold h')
  | letGo {i : Nat} {h : Handle} (hi : p.handle? i = some h) : Change p (p.letGo i h)
  | takeTyped {i : Nat} {h : Handle} {s : Storage} (hi : p.handle? i = some h)
      (hs : p.storage? h.storage = some s) (kind : NumericKind) : Change p (p.takeTyped i h s kind).2
  | stay : Change p p

/-- Every operation on a pool whose books are kept is one of the changes. -/
theorem step_change (hp : p.Consistent) : ∀ op, Change p (p.step op).2
  | .owned bytes => .make (Storage.books_owned bytes) nofun
  | .static bytes => .make (Storage.books_static bytes) nofun
  | .clone i => by
    rw [Pool.step]
    split
    · next h hi => exact .hold hi rfl fun s hs => hp.inside_of hi hs
    · exact .stay
  | .slice i r => by
    rw [Pool.step]
    split
    · next h hi =>
      split
      · next b hc =>
        -- the slice lies inside the sliced handle's bytes
        refine .hold hi rfl fun s hs => ⟨?_, fun _ hw => by cases hw⟩
        have hcut := SharedBytes.cut_inside hc
        have hin := (hp.inside_of hi hs).1
        dsimp only
        omega
      · exact .stay
    · exact .stay
  | .drop i => by
    rw [Pool.step]
    split
    · next h hi => exact .letGo hi
    · exact .stay
  | .typed i k => by
    rw [Pool.step]
    split
    · next h hi =>
      split
      · next s hs => exact .takeTyped hi hs k
      · exact .stay
    · exact .stay
  | .window i o l => by
    rw [Pool.step]
    split
    · next h hi =>
      split
      · next w hw =>
        split
        · next u hc =>
          -- the window's elements lie inside the typed handle's elements
          have hol : o + l ≤ w.count := by
            unfold checkElements at hc
            split at hc
            · assumption
            · cases hc
          refine .hold hi rfl fun s hs => ⟨(hp.inside_of hi hs).1, fun w' hw' => ?_⟩
          cases hw'
          have hin := (hp.inside_of hi hs).2 w hw
          calc (w.first + o + l) * w.kind.width ≤ (w.first + w.count) * w.kind.width :=
                Nat.mul_le_mul_right _ (by omega)
            _ ≤ h.bytes.len := hin
        · exact .stay
      · exact .stay
    · exact .stay

/-- Every change keeps the books. -/
theorem Change.consistent (hp : p.Consistent) : Change p q → q.Consistent
  | .make hs he => hp.make hs he
  | .hold hi hs hin => hp.hold hi hs hin
  | .letGo hi => hp.letGo hi
  | .takeTyped hi hs kind => hp.takeTyped hi hs kind
  | .stay => hp

/-- Every operation keeps the books. -/
theorem Consistent.step (hp : p.Consistent) (op : BufferOp) : (p.step op).2.Consistent :=
  (step_change hp op).consistent hp

/-- Every run of operations keeps the books. -/
theorem Consistent.run : ∀ (ops : List BufferOp) {p : Pool}, p.Consistent → (p.run ops).2.Consistent
  | [], _, hp => hp
  | op :: ops, _, hp => Consistent.run ops (hp.step op)

/-! ## What one step does to a storage -/

/-- What one step does to a storage `k` of the pool: nothing, one more handle on it with one
more reference, or one handle less with one reference less. -/
inductive Effect (p q : Pool) (k : Nat) : Prop
  | keep (hs : q.storage? k = p.storage? k) (hn : q.holders k = p.holders k)
  | retain (hs : q.storage? k = (p.storage? k).map Storage.retain)
      (hn : q.holders k = p.holders k + 1) (hpos : 0 < p.holders k)
  | release (hs : q.storage? k = (p.storage? k).map Storage.release)
      (hn : q.holders k + 1 = p.holders k)

theorem Effect.of_keep {p p' q : Pool} (hs : p'.storage? k = p.storage? k)
    (hn : p'.holders k = p.holders k) : Effect p' q k → Effect p q k
  | .keep hs' hn' => .keep (hs'.trans hs) (hn'.trans hn)
  | .retain hs' hn' hpos => .retain (by rw [hs', hs]) (by rw [hn', hn]) (hn ▸ hpos)
  | .release hs' hn' => .release (by rw [hs', hs]) (by rw [hn', hn])

theorem effect_make (e : Option ElementWindow) (hk : k < p.storages.length) :
    Effect p (p.make s e) k :=
  .keep (storage?_make_of_lt e hk) (holders_make_of_lt e hk)

theorem effect_hold (hi : p.handle? i = some h) {h' : Handle} (hs : h'.storage = h.storage) :
    Effect p (p.hold h') k := by
  by_cases hk : h'.storage = k
  · refine .retain ?_ (by rw [holders_hold, if_pos hk]) (by rw [← hk, hs]; exact holders_pos hi)
    rw [storage?_hold]
    exact Option.map_congr fun _ _ => if_pos hk
  · refine .keep ?_ (by rw [holders_hold, if_neg hk, Nat.add_zero])
    simp [storage?_hold, hk]

theorem effect_letGo (hi : p.handle? i = some h) : Effect p (p.letGo i h) k := by
  have hcount := holders_letGo hi k
  by_cases hk : h.storage = k
  · rw [if_pos hk] at hcount
    refine .release ?_ hcount
    rw [storage?_letGo]
    exact Option.map_congr fun _ _ => if_pos hk
  · rw [if_neg hk, Nat.add_zero] at hcount
    refine .keep ?_ hcount
    simp [storage?_letGo, hk]

theorem effect_move (hi : p.handle? i = some h) {h' : Handle} (hs : h'.storage = h.storage) :
    Effect p (p.move i h') k :=
  .keep rfl (holders_move hi hs k)

theorem effect_takeTyped (hi : p.handle? i = some h) (s : Storage) (kind : NumericKind)
    (hk : k < p.storages.length) : Effect p (p.takeTyped i h s kind).2 k := by
  unfold Pool.takeTyped
  cases TypedBuffer.ofShared kind h.bytes s with
  | error e => exact effect_letGo hi
  | ok t =>
    dsimp only
    split
    · -- the fresh storage is another one: only the handle taken over goes
      exact (effect_letGo (handle?_make_of_held hi)).of_keep (storage?_make_of_lt _ hk)
        (holders_make_of_lt _ hk)
    · exact effect_move hi rfl

/-- What any change does to a storage of the pool. -/
theorem Change.effect (hk : k < p.storages.length) : Change p q → Effect p q k
  | .make _ _ => effect_make _ hk
  | .hold hi hs _ => effect_hold hi hs
  | .letGo hi => effect_letGo hi
  | .takeTyped hi _ kind => effect_takeTyped hi _ kind hk
  | .stay => .keep rfl rfl

/-! ## What a program can count on -/

theorem handle?_hold_fresh (h : Handle) : (p.hold h).handle? p.fresh = some h := by
  simp [hold, handle?, fresh]

theorem handle?_fresh : p.handle? p.fresh = none := by
  simp [handle?, fresh]

/-- The books of storage `k`, which is `s`: the references it reports are the handles held on
it, none for static data; its owner was dropped once if no handle is left on counted storage,
and never before; and an operation drops it exactly when it lets the last handle on it go. -/
structure StorageLaw (p : Pool) (k : Nat) (s : Storage) : Prop where
  refCount_eq : p.refCount k = if s.backing = .static then 0 else p.holders k
  drops_eq : p.drops k = if s.backing = .static ∨ 0 < p.holders k then 0 else 1
  drops_step : ∀ op, (p.step op).2.drops k = p.drops k +
    if s.backing ≠ .static ∧ 0 < p.holders k ∧ (p.step op).2.holders k = 0 then 1 else 0

/-- Slicing handle `i`, which is `h`, by range `r` stops exactly when the range runs backwards or
past the handle's end; otherwise the new handle holds a part of `h`'s bytes of its storage. -/
structure SliceLaw (p : Pool) (i : Nat) (h : Handle) (r : ByteRange) : Prop where
  panics_iff : (∃ m, (p.step (.slice i r)).1 = .error (.panic m)) ↔
    r.last h.bytes.len < r.first ∨ h.bytes.len < r.last h.bytes.len
  inside : ∀ h', (p.step (.slice i r)).2.handle? p.fresh = some h' →
    h'.storage = h.storage ∧ h.bytes.start ≤ h'.bytes.start ∧
      h'.bytes.start + h'.bytes.len ≤ h.bytes.start + h.bytes.len

/-- A window of `l` elements from `o` on typed handle `i`, which is `h` over elements `w`, stops
exactly when it runs past `w`; otherwise the new handle reads a part of `w` from `h`'s bytes. -/
structure WindowLaw (p : Pool) (i : Nat) (h : Handle) (w : ElementWindow) (o l : Nat) : Prop where
  panics_iff : (∃ m, (p.step (.window i o l)).1 = .error (.panic m)) ↔ w.count < o + l
  inside : ∀ h', (p.step (.window i o l)).2.handle? p.fresh = some h' →
    h'.storage = h.storage ∧ h'.bytes = h.bytes ∧ ∃ w', h'.elements = some w' ∧
      w'.kind = w.kind ∧ w.first ≤ w'.first ∧ w'.first + w'.count ≤ w.first + w.count

theorem Consistent.storageLaw (hp : p.Consistent) (hs : p.storage? k = some s) :
    p.StorageLaw k s := by
  have hb : s.Books (p.holders k) := hp.books k s hs
  have hk : k < p.storages.length := (List.getElem?_eq_some_iff.1 hs).1
  refine ⟨by rw [refCount, hs, Option.map_some, Option.getD_some, hb.refCount_eq],
    by rw [drops, hs, Option.map_some, Option.getD_some, hb.drops_eq], fun op => ?_⟩
  -- the drops of `k` move only when the step lets a reference to it go
  cases (step_change hp op).effect hk with
  | keep hs' hn =>
    rw [drops, drops, hs', hn, if_neg (by omega), Nat.add_zero]
  | retain hs' hn _ =>
    rw [drops, drops, hs', hs, hn, if_neg (by omega)]
    simp
  | release hs' hn =>
    rw [drops, drops, hs', hs]
    have hlast : p.holders k = 1 ↔ 0 < p.holders k ∧ (p.step op).2.holders k = 0 := by omega
    simp only [Option.map_some, Option.getD_some, hb.release_drops, hlast]

theorem step_slice_ok (hi : p.handle? i = some h) (hb : h.bytes.cut r = .ok b) :
    p.step (.slice i r) = (.ok (), p.hold ⟨h.storage, b, none⟩) := by
  simp only [Pool.step, hi, hb]

theorem step_slice_error (hi : p.handle? i = some h) (hb : h.bytes.cut r = .error f) :
    p.step (.slice i r) = (.error f, p) := by
  simp only [Pool.step, hi, hb]

theorem sliceLaw (hi : p.handle? i = some h) (hlen : h.bytes.len ≤ wordMax) (r : ByteRange) :
    p.SliceLaw i h r where
  panics_iff := by
    constructor
    · rintro ⟨m, hm⟩
      by_cases hout : r.last h.bytes.len < r.first ∨ h.bytes.len < r.last h.bytes.len
      · exact hout
      · rw [step_slice_ok hi (SharedBytes.cut_eq_ok (by omega) (by omega) hlen)] at hm
        cases hm
    · intro hout
      obtain ⟨m, hm⟩ := SharedBytes.cut_panics hout
      exact ⟨m, by rw [step_slice_error hi hm]⟩
  inside h' hh := by
    cases hb : h.bytes.cut r with
    | ok b =>
      rw [step_slice_ok hi hb, handle?_hold_fresh] at hh
      cases hh
      exact ⟨rfl, SharedBytes.cut_inside hb⟩
    | error f =>
      rw [step_slice_error hi hb, handle?_fresh] at hh
      cases hh

theorem step_window_ok (hi : p.handle? i = some h) (hw : h.elements = some w)
    (hin : o + l ≤ w.count) :
    p.step (.window i o l) = (.ok (), p.hold { h with elements := some ⟨w.kind, w.first + o, l⟩ }) := by
  simp only [Pool.step, hi, hw, checkElements, if_pos hin]

theorem step_window_panics (hi : p.handle? i = some h) (hw : h.elements = some w)
    (hout : ¬ o + l ≤ w.count) : ∃ m, p.step (.window i o l) = (.error (.panic m), p) := by
  simp only [Pool.step, hi, hw, checkElements, if_neg hout]
  exact ⟨_, rfl⟩

theorem windowLaw (hi : p.handle? i = some h) (hw : h.elements = some w) (o l : Nat) :
    p.WindowLaw i h w o l where
  panics_iff := by
    by_cases hin : o + l ≤ w.count
    · rw [step_window_ok hi hw hin]
      simp only [reduceCtorEq, exists_false, false_iff]
      omega
    · obtain ⟨m, hm⟩ := step_window_panics hi hw hin
      rw [hm]
      exact iff_of_true ⟨m, rfl⟩ (by omega)
  inside h' hh := by
    by_cases hin : o + l ≤ w.count
    · rw [step_window_ok hi hw hin, handle?_hold_fresh] at hh
      cases hh
      exact ⟨rfl, rfl, _, rfl, rfl, Nat.le_add_right _ _, show w.first + o + l ≤ _ by omega⟩
    · obtain ⟨m, hm⟩ := step_window_panics hi hw hin
      rw [hm, handle?_fresh] at hh
      cases hh

/-- What a program can count on from its pool: the books are kept, each storage's references
and drops follow the handles held on it, and slices and windows stay inside what they cut. -/
structure Sound (p : Pool) : Prop where
  consistent : p.Consistent
  storage : ∀ k s, p.storage? k = some s → p.StorageLaw k s
  slice : ∀ i h r, p.handle? i = some h → h.bytes.len ≤ wordMax → p.SliceLaw i h r
  window : ∀ i h w o l, p.handle? i = some h → h.elements = some w → p.WindowLaw i h w o l

theorem Consistent.sound (hp : p.Consistent) : p.Sound :=
  ⟨hp, fun _ _ hs => hp.storageLaw hs, fun _ _ r hi hlen => sliceLaw hi hlen r,
    fun _ _ _ o l hi hw => windowLaw hi hw o l⟩

/-- Whatever a program does with its buffers, its pool stays sound. -/
theorem run_sound (ops : List BufferOp) : (Pool.empty.run ops).2.Sound :=
  (consistent_empty.run ops).sound

end Pool

end Columnar
