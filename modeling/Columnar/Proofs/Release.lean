import Columnar.Request.Exchange
import Columnar.Proofs.Reader
/-!
# Each import releases the producer's array once

A consumer that takes a foreign array takes the duty to call its release callback exactly once:
at return when the import fails or reads nothing in place, and otherwise when the last handle on
the buffers it read in place goes. The library meets it with reference counts: one shared owner
of the root, referenced by the importer and by each buffer read in place, and a count of handles
on each buffer (`Owner`, `Holders`).

`Holders.Counted n pending s` is what those counts keep true over the `n` buffers of an import:
each buffer counts the handles on it (and the pending let-gos of a drop under way), the owner is
referenced once for each buffer still held, and the root has been released exactly when no
reference is left. A successful import starts it (`counted_imported`); cloning, taking a part
and dropping keep it (`Counted.step`), so every run of uses does (`Counted.run`). From it, the
root has been released at most once, and exactly once when no handle holds a buffer any more
(`Counted.released_iff`).

`ImportRun.ReleasesOnce` states the duty of one entry point, and `imports_release_once` proves it
of all five, with what each does with the schema it is given: borrowed, or released exactly once.

Which results read a buffer in place is the reader's business. A string-view column is copied
into plain strings, but its validity bitmap is not copied: a string-view import keeps a buffer
of the producer's exactly when it keeps a validity bitmap read in place
(`NodeView.stringViews_inPlace`).
-/

namespace Columnar

/-! ## Owners -/

namespace Owner

@[simp] theorem shareN_refs (o : Owner) : ∀ n, (o.shareN n).refs = o.refs + n
  | 0 => rfl
  | n + 1 => by simp [shareN, share, shareN_refs o n, Nat.add_assoc]

@[simp] theorem shareN_root (o : Owner) : ∀ n, (o.shareN n).root = o.root
  | 0 => rfl
  | n + 1 => by simp [shareN, share, shareN_root o n]

/-- Dropping the last reference releases the root; dropping another leaves the root alone. -/
theorem drop_of_pos {o : Owner} (h : 0 < o.refs) :
    o.drop = if o.refs = 1 then ⟨0, o.root.release⟩ else ⟨o.refs - 1, o.root⟩ := by
  obtain ⟨r, root⟩ := o
  cases r with
  | zero => cases h
  | succ r => cases r <;> simp [drop]

end Owner

/-! ## Reference counts -/

namespace Holders

/-- The buffers below `n` that some handle still holds. -/
def alive (counts : Nat → Nat) (n : Nat) : Nat :=
  (List.range n).countP fun i => 0 < counts i

theorem alive_congr {f g : Nat → Nat} {n : Nat} (h : ∀ i < n, (0 < f i ↔ 0 < g i)) :
    alive f n = alive g n := by
  unfold alive
  apply List.countP_congr
  intro i hi
  simpa using h i (List.mem_range.1 hi)

/-- Changing the count of one buffer below `n` changes the number held by that buffer alone. -/
theorem alive_update {f g : Nat → Nat} {i : Nat} (hfg : ∀ j, j ≠ i → g j = f j) :
    ∀ {n}, i < n →
      alive g n + (if 0 < f i then 1 else 0) = alive f n + (if 0 < g i then 1 else 0)
  | 0, h => absurd h (Nat.not_lt_zero i)
  | n + 1, h => by
    have hsplit (c : Nat → Nat) : alive c (n + 1) = alive c n + if 0 < c n then 1 else 0 := by
      simp [alive, List.range_succ, List.countP_append]
    rw [hsplit f, hsplit g]
    by_cases hin : i = n
    · subst hin
      have hrest : alive g i = alive f i :=
        alive_congr fun j hj => by rw [hfg j (Nat.ne_of_lt hj)]
      rw [hrest]
      omega
    · have ih := alive_update hfg (n := n) (by omega)
      rw [hfg n (Ne.symm hin)]
      omega

theorem alive_eq_zero_iff {f : Nat → Nat} {n : Nat} : alive f n = 0 ↔ ∀ i < n, f i = 0 := by
  simp [alive, List.countP_eq_zero]

/-- The reference counts over the `n` buffers an import of a live root read in place, while the
buffers `pending` still wait to be let go of by a drop under way: each buffer counts the handles
on it and its pending let-gos, handles name distinct buffers below `n`, the owner is referenced
once for each buffer still held, and the root has been released exactly when no reference is
left. -/
structure Counted (n : Nat) (pending : List Nat) (s : Holders) : Prop where
  counts_eq : ∀ i, s.counts i = s.handles.countP (i ∈ ·) + pending.count i
  nodup : ∀ b ∈ s.handles, b.Nodup
  bound : ∀ b ∈ s.handles, ∀ i ∈ b, i < n
  pending_bound : ∀ i ∈ pending, i < n
  refs_eq : s.owner.refs = alive s.counts n
  root_eq : s.owner.root = if s.owner.refs = 0 then ⟨false, 1⟩ else ⟨true, 0⟩

variable {n : Nat} {s s' : Holders}

/-- What a successful import of a live root returns with is counted over its buffers. -/
theorem counted_imported (k : Nat) : Counted k [] (imported ⟨true, 0⟩ k) := by
  have halive : alive (fun i => if i < k then 1 else 0) k = k := by
    rw [alive, List.countP_eq_length.2 fun i hi => by simp [List.mem_range.1 hi]]
    exact List.length_range
  have hdrop : ((Owner.wrap ⟨true, 0⟩).shareN k).drop =
      if k = 0 then ⟨0, ⟨false, 1⟩⟩ else ⟨k, ⟨true, 0⟩⟩ := by
    rw [Owner.drop_of_pos (by simp [Owner.wrap])]
    by_cases hk : k = 0 <;> simp [Owner.wrap, hk, Root.release]
  refine ⟨fun i => ?_, ?_, ?_, by simp, ?_, ?_⟩
  · by_cases hi : i < k <;> simp [imported, hi]
  · simpa [imported] using List.nodup_range
  · simp [imported]
  · show (((Owner.wrap ⟨true, 0⟩).shareN k).drop).refs = alive (fun i => if i < k then 1 else 0) k
    rw [hdrop, halive]
    by_cases hk : k = 0 <;> simp [hk]
  · show (((Owner.wrap ⟨true, 0⟩).shareN k).drop).root =
      if (((Owner.wrap ⟨true, 0⟩).shareN k).drop).refs = 0 then ⟨false, 1⟩ else ⟨true, 0⟩
    rw [hdrop]
    by_cases hk : k = 0 <;> simp [hk]

/-- Letting go of a pending handle on buffer `i` keeps the counts right: the owner loses a
reference exactly when it was the buffer's last. -/
theorem Counted.unref {i : Nat} {pending : List Nat} (h : Counted n (i :: pending) s) :
    Counted n pending (s.unref i) := by
  have hi : i < n := h.pending_bound i List.mem_cons_self
  have hpos : 0 < s.counts i := by rw [h.counts_eq i, List.count_cons_self]; omega
  have halive := alive_update (f := s.counts) (g := (s.unref i).counts)
    (fun j hj => by simp [unref_counts, hj]) hi
  have hrefs_pos : 0 < s.owner.refs := by
    rw [h.refs_eq]
    exact Nat.pos_of_ne_zero fun hz => by
      have := alive_eq_zero_iff.1 hz i hi
      omega
  have hroot : s.owner.root = ⟨true, 0⟩ := by
    rw [h.root_eq, if_neg (Nat.ne_of_gt hrefs_pos)]
  refine ⟨fun j => ?_, h.nodup, h.bound, fun j hj => h.pending_bound j (List.mem_cons_of_mem _ hj),
    ?_, ?_⟩
  · by_cases hj : j = i
    · subst hj
      simp only [unref_counts, unref_handles, if_true, h.counts_eq j, List.count_cons_self]
      omega
    · simp [unref_counts, hj, h.counts_eq j, List.count_cons_of_ne (Ne.symm hj)]
  · -- the last handle on `i` takes the owner's reference with it
    rw [unref_owner]
    by_cases hlast : s.counts i = 1
    · have hgone : (s.unref i).counts i = 0 := by simp [unref_counts, hlast]
      rw [if_pos hpos, hgone, if_neg (Nat.lt_irrefl 0)] at halive
      rw [if_pos hlast, Owner.drop_of_pos hrefs_pos, h.refs_eq]
      split <;> simp <;> omega
    · have hkept : 0 < (s.unref i).counts i := by simp [unref_counts]; omega
      rw [if_pos hpos, if_pos hkept] at halive
      rw [if_neg hlast, h.refs_eq]
      omega
  · rw [unref_owner]
    by_cases hlast : s.counts i = 1
    · rw [if_pos hlast, Owner.drop_of_pos hrefs_pos]
      split
      · simp [hroot, Root.release]
      · simp only [hroot, if_neg (show s.owner.refs - 1 ≠ 0 by omega)]
    · rw [if_neg hlast]
      exact h.root_eq

/-- A drop under way lets go of every pending handle. -/
theorem Counted.foldl_unref : ∀ {pending : List Nat} {s : Holders}, Counted n pending s →
    Counted n [] (pending.foldl Holders.unref s)
  | [], _, h => h
  | _ :: _, _, h => h.unref.foldl_unref

/-- The handle at `k` counts the same as the rest of the handles and its own buffers pending. -/
theorem countP_eraseIdx {l : List (List Nat)} {k : Nat} {b : List Nat} (hk : l[k]? = some b)
    (i : Nat) : l.countP (i ∈ ·) = (l.eraseIdx k).countP (i ∈ ·) + if i ∈ b then 1 else 0 := by
  obtain ⟨hlt, rfl⟩ := List.getElem?_eq_some_iff.1 hk
  conv_lhs => rw [← List.take_append_drop k l, ← List.getElem_cons_drop hlt]
  rw [List.eraseIdx_eq_take_drop_succ, List.countP_append, List.countP_append, List.countP_cons]
  simp only [decide_eq_true_eq]
  omega

/-- Taking a handle away to drop it leaves its buffers pending. -/
theorem Counted.eraseIdx {k : Nat} {b : List Nat} (h : Counted n [] s) (hk : s.handles[k]? = some b) :
    Counted n b { s with handles := s.handles.eraseIdx k } := by
  have hb : b ∈ s.handles := List.mem_of_getElem? hk
  refine ⟨fun i => ?_, fun c hc => h.nodup c (List.mem_of_mem_eraseIdx hc),
    fun c hc => h.bound c (List.mem_of_mem_eraseIdx hc), h.bound b hb, h.refs_eq, h.root_eq⟩
  rw [h.counts_eq i, countP_eraseIdx hk i, (h.nodup b hb).count]
  simp

/-- A new handle on buffers some handle already holds changes no buffer's being held, so the
owner keeps its references. -/
theorem Counted.hold {b bs : List Nat} (h : Counted n [] s) (hb : b ∈ s.handles)
    (hsub : ∀ i ∈ bs, i ∈ b) (hnd : bs.Nodup) : Counted n [] (s.hold bs) := by
  have hheld : ∀ i ∈ bs, 0 < s.counts i := fun i hi => by
    rw [h.counts_eq i]
    exact Nat.lt_of_lt_of_le (List.countP_pos_iff.2 ⟨b, hb, by simpa using hsub i hi⟩)
      (Nat.le_add_right _ _)
  refine ⟨fun i => ?_, ?_, ?_, by simp, ?_, h.root_eq⟩
  · by_cases hi : i ∈ bs <;> simp [Holders.hold, hi, h.counts_eq i, List.countP_append]
  · intro c hc
    rcases List.mem_append.1 hc with hc | hc
    · exact h.nodup c hc
    · rw [List.mem_singleton.1 hc]
      exact hnd
  · intro c hc
    rcases List.mem_append.1 hc with hc | hc
    · exact h.bound c hc
    · rw [List.mem_singleton.1 hc]
      exact fun i hi => h.bound b hb i (hsub i hi)
  · rw [hold_owner, h.refs_eq]
    apply alive_congr
    intro i _
    by_cases hi : i ∈ bs
    · simp [Holders.hold, hi, hheld i hi]
    · simp [Holders.hold, hi]

/-- Every use keeps the counts right. -/
theorem Counted.step (h : Counted n [] s) : ∀ {u : Use}, s.step u = some s' → Counted n [] s'
  | .clone k, hs => by
    obtain ⟨b, hk, rfl⟩ := Option.map_eq_some_iff.1 hs
    have hb : b ∈ s.handles := List.mem_of_getElem? hk
    exact h.hold hb (fun _ hi => hi) (h.nodup b hb)
  | .part k keep, hs => by
    obtain ⟨b, hk, rfl⟩ := Option.map_eq_some_iff.1 hs
    have hb : b ∈ s.handles := List.mem_of_getElem? hk
    exact h.hold hb (fun _ hi => (List.mem_filter.1 hi).1) ((h.nodup b hb).filter _)
  | .drop k, hs => by
    obtain ⟨b, hk, rfl⟩ := Option.map_eq_some_iff.1 hs
    exact (h.eraseIdx hk).foldl_unref

/-- Every run of uses keeps the counts right. -/
theorem Counted.run : ∀ {us : List Use} {s s' : Holders}, Counted n [] s → s.run us = some s' →
    Counted n [] s'
  | [], _, _, h, hr => by
    cases hr
    exact h
  | _ :: _, _, _, h, hr => by
    obtain ⟨s₁, hs, hr⟩ := Option.bind_eq_some_iff.1 hr
    exact (h.step hs).run hr

/-- The root has been released at most once. -/
theorem Counted.releases_le (h : Counted n [] s) : s.owner.root.releases ≤ 1 := by
  rw [h.root_eq]
  split <;> simp

/-- The root has been released exactly when no handle holds a buffer any more. -/
theorem Counted.released_iff (h : Counted n [] s) :
    s.owner.root.releases = 1 ↔ ∀ b ∈ s.handles, b = [] := by
  have hroot : s.owner.root.releases = 1 ↔ s.owner.refs = 0 := by
    rw [h.root_eq]
    split <;> simp_all
  rw [hroot, h.refs_eq, alive_eq_zero_iff]
  constructor
  · intro hz b hb
    rw [List.eq_nil_iff_forall_not_mem]
    intro i hi
    have hzero := hz i (h.bound b hb i hi)
    rw [h.counts_eq, List.count_nil, Nat.add_zero, List.countP_eq_zero] at hzero
    exact hzero b hb (by simpa using hi)
  · intro hall i _
    rw [h.counts_eq, List.count_nil, Nat.add_zero, List.countP_eq_zero]
    intro b hb hib
    rw [hall b hb] at hib
    simp at hib

/-- Dropping a handle changes no other handle. -/
theorem foldl_unref_handles : ∀ (bs : List Nat) (s : Holders), (bs.foldl unref s).handles = s.handles
  | [], _ => rfl
  | _ :: bs, s => foldl_unref_handles bs (s.unref _)

end Holders

/-! ## Import entry points -/

namespace ArrayNode

variable {a : ArrayNode} {s : SchemaNode}

/-- A released root is refused before anything of it is read. -/
theorem importChecked_of_released (sc : Scrutiny) (t : DataType) (h : a.released = true) :
    a.importChecked sc t = .error (.malformed "ArrowArray has already been released") := by
  simp [importChecked, h]

/-- Only a live root imports. -/
theorem released_of_importChecked {sc : Scrutiny} {t : DataType} {c : Column}
    (h : a.importChecked sc t = .ok c) : a.released = false := by
  cases hr : a.released with
  | false => rfl
  | true =>
    rw [importChecked_of_released sc t hr] at h
    cases h

/-- The root of a live array still has its callback and has not been released. -/
theorem root_of_live (h : a.released = false) : a.root = ⟨true, 0⟩ := by
  simp [root, h]

/-- Releasing a handed-over root calls its callback once, unless it was released on entry. -/
theorem root_release_releases (a : ArrayNode) :
    a.root.release.releases = if !a.released then 1 else 0 := by
  cases h : a.released <;> simp [root, h, Root.release]

theorem SchemaNode.root_release_releases (s : SchemaNode) :
    s.root.release.releases = if s.released then 0 else 1 := by
  cases h : s.released <;> simp [SchemaNode.root, h, Root.release]

end ArrayNode

/-- What an import owes the producer's array, given whether the array was live when handed over
and how many buffers a result reads in place. A failed import holds nothing and has released the
array once, or never if it was released on entry. A successful one returns one handle on exactly
the buffers its result read in place; and whatever the caller then does with them, the array has
been released at most once, and exactly once when nothing holds any of its buffers. -/
structure ImportRun.ReleasesOnce {α : Type} (live : Bool) (count : α → Nat) (run : ImportRun α) : Prop where
  failed : ∀ e, run.result = .error e →
    run.holders.handles = [] ∧ run.holders.owner.root.releases = if live then 1 else 0
  returned : ∀ x, run.result = .ok x → run.holders.handles = [List.range (count x)]
  held : ∀ x us s, run.result = .ok x → run.holders.run us = some s →
    s.owner.root.releases ≤ 1 ∧ (s.owner.root.releases = 1 ↔ ∀ b ∈ s.handles, b = [])

namespace ImportRun.ReleasesOnce

variable {α β : Type} {live : Bool}

/-- A run whose successful results are counted over their buffers owes what `ImportRun.ReleasesOnce`
says. -/
theorem intro {count : α → Nat} {run : ImportRun α}
    (failed : ∀ e, run.result = .error e →
      run.holders.handles = [] ∧ run.holders.owner.root.releases = if live then 1 else 0)
    (ok : ∀ x, run.result = .ok x →
      (∃ n, Holders.Counted n [] run.holders) ∧ run.holders.handles = [List.range (count x)]) :
    ImportRun.ReleasesOnce live count run where
  failed := failed
  returned x hx := (ok x hx).2
  held x _ _ hx hrun := by
    obtain ⟨⟨n, hc⟩, -⟩ := ok x hx
    have hc' := hc.run hrun
    exact ⟨hc'.releases_le, hc'.released_iff⟩

/-- What a run owes does not depend on what it did with the schema. -/
theorem withSchema {count : α → Nat} {run : ImportRun α} (h : ImportRun.ReleasesOnce live count run)
    (schema : Option Root) : ImportRun.ReleasesOnce live count { run with schema := schema } :=
  ⟨h.failed, h.returned, h.held⟩

/-- What a run owes carries over to its results mapped into another kind. -/
theorem map {f : α → β} {count : β → Nat} {run : ImportRun α} (h : ImportRun.ReleasesOnce live (count ∘ f) run)
    (schema : Option Root) : ImportRun.ReleasesOnce live count ⟨run.result.map f, run.holders, schema⟩ where
  failed e he := by
    cases hr : run.result with
    | ok x => rw [hr] at he; cases he
    | error e' => exact h.failed e' hr
  returned y hy := by
    cases hr : run.result with
    | ok x =>
      rw [hr] at hy
      cases hy
      exact h.returned x hr
    | error e' => rw [hr] at hy; cases hy
  held y us s hy hrun := by
    cases hr : run.result with
    | ok x => exact h.held x us s hr hrun
    | error e' => rw [hr] at hy; cases hy

end ImportRun.ReleasesOnce

namespace ArrayNode

variable {a : ArrayNode} {s : SchemaNode}

theorem typedRun_result (a : ArrayNode) (t : DataType) : (a.typedRun t).result = a.importTyped t := by
  unfold typedRun
  split
  · rfl
  · split <;> simp_all

/-- A column of a type releases as it owes. -/
theorem typedRun_releasesOnce (a : ArrayNode) (t : DataType) :
    ImportRun.ReleasesOnce (!a.released) Column.inPlace (a.typedRun t) := by
  unfold typedRun
  cases hr : a.released with
  | true =>
    -- refused as it is: never wrapped, never released
    refine ⟨fun _ _ => ⟨rfl, by simp [Holders.bare, root, hr]⟩, fun x hx => ?_,
      fun x _ _ hx _ => ?_⟩ <;>
      · simp only [if_true] at hx
        rw [importTyped, importChecked_of_released .full t hr] at hx
        cases hx
  | false =>
    simp only [Bool.false_eq_true, if_false]
    cases himp : a.importTyped t with
    | ok c =>
      refine ImportRun.ReleasesOnce.intro (fun _ he => by cases he) fun x hx => ?_
      cases hx
      rw [root_of_live hr]
      exact ⟨⟨_, Holders.counted_imported c.inPlace⟩, rfl⟩
    | error e =>
      refine ImportRun.ReleasesOnce.intro (fun _ _ => ⟨rfl, ?_⟩) fun _ hx => by cases hx
      simp [Holders.bare, Owner.drop, Owner.wrap, root_of_live hr, Root.release]

/-- A column under a borrowed schema releases as it owes. -/
theorem withRun_releasesOnce (a : ArrayNode) (s : SchemaNode) :
    ImportRun.ReleasesOnce (!a.released) Column.inPlace (a.withRun s) := by
  unfold withRun
  split
  · exact ImportRun.ReleasesOnce.intro (fun _ _ => ⟨rfl, root_release_releases a⟩) fun _ hx => by cases hx
  · exact (typedRun_releasesOnce a _).withSchema _

/-- A series releases as it owes. -/
theorem seriesRun_releasesOnce (a : ArrayNode) (s : SchemaNode) :
    ImportRun.ReleasesOnce (!a.released) (·.column.inPlace) (a.seriesRun s) := by
  unfold seriesRun
  split
  · exact ImportRun.ReleasesOnce.intro (fun _ _ => ⟨rfl, root_release_releases a⟩) fun _ hx => by cases hx
  · next f _ =>
    exact (typedRun_releasesOnce a f.type).map (f := fun c => (⟨f.materialise, c⟩ : Series)) _

/-- A column of a type imported: the root was live, and the result holds its buffers read in
place, each once. -/
theorem typedRun_of_ok {t : DataType} {c : Column} (h : (a.typedRun t).result = .ok c) :
    a.released = false ∧ (a.typedRun t).holders = .imported ⟨true, 0⟩ c.inPlace := by
  have hlive : a.released = false := by
    rw [typedRun_result] at h
    exact released_of_importChecked h
  refine ⟨hlive, ?_⟩
  rw [typedRun_result] at h
  simp [typedRun, hlive, h, root_of_live hlive]

/-- A series imported: the root was live, and the result holds its column's buffers read in
place, each once. -/
theorem seriesRun_of_ok {x : Series} (h : (a.seriesRun s).result = .ok x) :
    a.released = false ∧ (a.seriesRun s).holders = .imported ⟨true, 0⟩ x.column.inPlace := by
  unfold seriesRun at h ⊢
  split at h
  · cases h
  · next f _ =>
    obtain ⟨c, hc, rfl⟩ := Except.map_eq_ok.1 h
    exact typedRun_of_ok hc

end ArrayNode

/-! ## Tables -/

namespace Holders

/-- The buffers of an import that read `k ≥ m` that lie below `m`. -/
theorem filter_range_lt {m : Nat} : ∀ {k : Nat}, m ≤ k →
    (List.range k).filter (fun i => decide (i < m)) = List.range m
  | 0, h => by rw [Nat.le_zero.1 h]; rfl
  | k + 1, h => by
    rw [List.range_succ, List.filter_append]
    by_cases hk : k < m
    · have hm : m = k + 1 := by omega
      subst hm
      rw [List.filter_eq_self.2 fun i hi => by simpa using Nat.lt_succ_of_lt (List.mem_range.1 hi)]
      simp [List.range_succ]
    · rw [filter_range_lt (by omega)]
      simp [hk]

/-- Keeping a part of an import's result and then letting the result go leaves one handle on
that part, counted. -/
theorem imported_part_letGo {k m : Nat} (hm : m ≤ k) :
    Counted k [] (((imported ⟨true, 0⟩ k).step (.part 0 (List.range m))).getD
        (imported ⟨true, 0⟩ k)).letGo ∧
      (((imported ⟨true, 0⟩ k).step (.part 0 (List.range m))).getD
        (imported ⟨true, 0⟩ k)).letGo.handles = [List.range m] := by
  let s₁ := (imported ⟨true, 0⟩ k).hold ((List.range k).filter (· ∈ List.range m))
  have hpart : (imported ⟨true, 0⟩ k).step (.part 0 (List.range m)) = some s₁ := rfl
  have hdrop : s₁.step (.drop 0) =
      some (((List.range k).foldl unref { s₁ with handles := s₁.handles.eraseIdx 0 })) := rfl
  have hc₁ := (counted_imported k).step hpart
  rw [hpart, Option.getD_some, letGo, hdrop, Option.getD_some]
  refine ⟨hc₁.step hdrop, ?_⟩
  rw [foldl_unref_handles]
  simp [s₁, imported, filter_range_lt hm]

/-- Letting an import's result go lets every buffer go: the root is released. -/
theorem imported_letGo (k : Nat) :
    (imported ⟨true, 0⟩ k).letGo.handles = [] ∧ (imported ⟨true, 0⟩ k).letGo.owner.root.releases = 1 := by
  have hdrop : (imported ⟨true, 0⟩ k).step (.drop 0) =
      some ((List.range k).foldl unref { imported ⟨true, 0⟩ k with handles := [] }) := rfl
  have hc := (counted_imported k).step hdrop
  have hnil : (imported ⟨true, 0⟩ k).letGo.handles = [] := by
    rw [letGo, hdrop, Option.getD_some, foldl_unref_handles]
  refine ⟨hnil, ?_⟩
  rw [letGo, hdrop, Option.getD_some] at hnil ⊢
  exact hc.released_iff.2 fun b hb => by rw [hnil] at hb; cases hb

/-- What holds an imported array owes its release once: whatever the caller does with what it
holds, the array has been released at most once, and exactly once when no handle holds a buffer;
letting the import's result go releases it. -/
structure OwesOnce (s : Holders) : Prop where
  held : ∀ us s', s.run us = some s' →
    s'.owner.root.releases ≤ 1 ∧ (s'.owner.root.releases = 1 ↔ ∀ b ∈ s'.handles, b = [])
  let_go : s.letGo.owner.root.releases = 1

/-- Without a handle no use applies. -/
theorem run_of_no_handles {s s' : Holders} (h : s.handles = []) : ∀ {us : List Use}, s.run us = some s' → s' = s
  | [], hr => by cases hr; rfl
  | u :: _, hr => by
    have hstep : s.step u = none := by cases u <;> simp [step, h]
    simp [run, hstep] at hr

/-- Nothing held, and the root released once: nothing more is owed. -/
theorem owesOnce_of_released {s : Holders} (h : s.handles = []) (hr : s.owner.root.releases = 1) :
    s.OwesOnce where
  held _ _ hrun := by
    obtain rfl := run_of_no_handles h hrun
    exact ⟨Nat.le_of_eq hr, iff_of_true hr fun b hb => by rw [h] at hb; cases hb⟩
  let_go := by
    have hstep : s.step (.drop 0) = none := by simp [step, h]
    rw [letGo, hstep, Option.getD_none, hr]

theorem owesOnce_imported (k : Nat) : (imported ⟨true, 0⟩ k).OwesOnce where
  held _ _ hrun :=
    have hc := (counted_imported k).run hrun
    ⟨hc.releases_le, hc.released_iff⟩
  let_go := (imported_letGo k).2

end Holders

/-- A table is made of a struct column alone, and its columns are the struct's children, paired
with its fields. -/
theorem Table.ofStruct_ok {name : String} {c : Column} {md : Metadata} {t : Table}
    (h : Table.ofStruct name c md = .ok t) :
    ∃ fs cs v len, c = .struct fs cs v len ∧ t.columns.map (·.column) = (fs.zip cs).map Prod.snd := by
  unfold Table.ofStruct at h
  split at h
  · dsimp only at h
    split at h
    · cases h
    · cases h
      exact ⟨_, _, _, _, rfl, by simp⟩
  · cases h

/-- A table's columns read no more buffers in place than the struct it is made of. -/
theorem Column.inPlaceAll_zip_le : ∀ (fs : List Field) (cs : List Column),
    Column.inPlaceAll ((fs.zip cs).map Prod.snd) ≤ Column.inPlaceAll cs
  | [], _ => by simp [Column.inPlaceAll]
  | _ :: _, [] => by simp [Column.inPlaceAll]
  | _ :: fs, c :: cs => by
    have := Column.inPlaceAll_zip_le fs cs
    simp only [List.zip_cons_cons, List.map_cons, Column.inPlaceAll]
    omega

namespace ArrayNode

variable {a : ArrayNode} {s : SchemaNode}

/-- A table releases as it owes: it keeps its columns' buffers and lets the struct go, or lets the
whole series go when no table is made of it. -/
theorem tableRun_releasesOnce (a : ArrayNode) (s : SchemaNode) :
    ImportRun.ReleasesOnce (!a.released) (fun x => Column.inPlaceAll (x.columns.map (·.column)))
      (a.tableRun s) := by
  have hseries := seriesRun_releasesOnce a s
  unfold tableRun
  dsimp only
  split
  · next e he =>
    exact ImportRun.ReleasesOnce.intro (fun _ _ => hseries.failed e he) fun _ hx => by cases hx
  · next x hx =>
    obtain ⟨hlive, hheld⟩ := seriesRun_of_ok hx
    rw [hheld]
    split
    · next t ht =>
      -- the table's columns are the struct's children, whose buffers come first
      obtain ⟨⟨name, schema⟩, -, hstruct⟩ := Except.bind_eq_ok.1 ht
      obtain ⟨fs, cs, v, len, hcol, hcols⟩ := Table.ofStruct_ok hstruct
      have hm : Column.inPlaceAll (t.columns.map (·.column)) ≤ x.column.inPlace := by
        rw [hcols, hcol, Column.inPlace]
        exact Nat.le_add_right_of_le (Column.inPlaceAll_zip_le fs cs)
      obtain ⟨hc, hhandles⟩ := Holders.imported_part_letGo hm
      exact ImportRun.ReleasesOnce.intro (fun _ he => by cases he) fun _ hy => by
        cases hy
        exact ⟨⟨_, hc⟩, hhandles⟩
    · next e he =>
      obtain ⟨hnil, hrel⟩ := Holders.imported_letGo x.column.inPlace
      refine ImportRun.ReleasesOnce.intro (fun _ _ => ⟨hnil, ?_⟩) fun _ hy => by cases hy
      simp [hrel, hlive]

/-- A series from boxed pointers releases as it owes; a missing array has nothing to release. -/
theorem ownedRun_releasesOnce (array : Option ArrayNode) (schema : Option SchemaNode) :
    ImportRun.ReleasesOnce (array.any (!·.released)) (·.column.inPlace) (ownedRun array schema) := by
  cases array with
  | none =>
    cases schema <;>
      exact ImportRun.ReleasesOnce.intro (fun _ _ => ⟨rfl, rfl⟩) fun _ hx => by cases hx
  | some a =>
    cases schema with
    | none =>
      exact ImportRun.ReleasesOnce.intro (fun _ _ => ⟨rfl, root_release_releases a⟩) fun _ hx => by cases hx
    | some s => exact seriesRun_releasesOnce a s

/-- A live array imported as a column of a type owes its release once, whether the import
succeeds or fails. -/
theorem typedRun_owesOnce (h : a.released = false) (t : DataType) :
    (a.typedRun t).holders.OwesOnce := by
  cases hr : (a.typedRun t).result with
  | ok c =>
    rw [(typedRun_of_ok hr).2]
    exact Holders.owesOnce_imported _
  | error e =>
    obtain ⟨hnil, hrel⟩ := (typedRun_releasesOnce a t).failed e hr
    rw [h] at hrel
    exact Holders.owesOnce_of_released hnil hrel

/-! ## Schemas -/

theorem withRun_schema (a : ArrayNode) (s : SchemaNode) : (a.withRun s).schema = some s.root := by
  unfold withRun
  split <;> rfl

theorem seriesRun_schema (a : ArrayNode) (s : SchemaNode) :
    (a.seriesRun s).schema = some s.root.release := by
  unfold seriesRun
  split <;> rfl

theorem tableRun_schema (a : ArrayNode) (s : SchemaNode) :
    (a.tableRun s).schema = some s.root.release := by
  unfold tableRun
  dsimp only
  split
  · exact seriesRun_schema a s
  · split <;> exact seriesRun_schema a s

theorem ownedRun_schema (array : Option ArrayNode) (schema : Option SchemaNode) :
    (ownedRun array schema).schema = schema.map (·.root.release) := by
  cases array with
  | none => cases schema <;> rfl
  | some a =>
    cases schema with
    | none => rfl
    | some s => exact seriesRun_schema a s

end ArrayNode

/-- Every import entry point releases the producer's array exactly once: a column of a type, a
column under a schema, a series, a table, and a series from boxed pointers. A failed import
holds nothing and has released the array before returning, once, or never if it was released on
entry. A successful one returns one handle on exactly the buffers its result read in place; the
array was released at return if there were none, and otherwise, whatever the caller clones, keeps
a part of or drops, in any order, it is released at most once, and exactly when no handle holds a
buffer any more. An import under a schema only borrows it and never releases it; the others
release the schema they are given exactly once, on every path, unless it was released on
entry. -/
theorem imports_release_once (a : ArrayNode) (s : SchemaNode) (t : DataType)
    (array : Option ArrayNode) (schema : Option SchemaNode) :
    ImportRun.ReleasesOnce (!a.released) Column.inPlace (a.typedRun t) ∧
    ImportRun.ReleasesOnce (!a.released) Column.inPlace (a.withRun s) ∧
    ImportRun.ReleasesOnce (!a.released) (·.column.inPlace) (a.seriesRun s) ∧
    ImportRun.ReleasesOnce (!a.released) (fun x => Column.inPlaceAll (x.columns.map (·.column)))
      (a.tableRun s) ∧
    ImportRun.ReleasesOnce (array.any (!·.released)) (·.column.inPlace) (ArrayNode.ownedRun array schema) ∧
    (a.withRun s).schema = some s.root ∧
    (a.seriesRun s).schema.map (·.releases) = some (if s.released then 0 else 1) ∧
    (a.tableRun s).schema.map (·.releases) = some (if s.released then 0 else 1) ∧
    (ArrayNode.ownedRun array schema).schema.map (·.releases) =
      schema.map fun s => if s.released then 0 else 1 := by
  refine ⟨ArrayNode.typedRun_releasesOnce a t, ArrayNode.withRun_releasesOnce a s,
    ArrayNode.seriesRun_releasesOnce a s, ArrayNode.tableRun_releasesOnce a s,
    ArrayNode.ownedRun_releasesOnce array schema, ArrayNode.withRun_schema a s, ?_, ?_, ?_⟩
  · rw [ArrayNode.seriesRun_schema, Option.map_some, ArrayNode.SchemaNode.root_release_releases]
  · rw [ArrayNode.tableRun_schema, Option.map_some, ArrayNode.SchemaNode.root_release_releases]
  · rw [ArrayNode.ownedRun_schema, Option.map_map]
    congr 1
    funext s
    exact ArrayNode.SchemaNode.root_release_releases s

/-! ## What a string-view import keeps -/

/-- Checked string parts become the text column of those parts, with offsets `[0]` in place of
none. -/
theorem Column.stringsOfParts_text {large : Bool} {off : Buffer Nat} {data : Buffer UInt8}
    {v : Option Bitmap} {c : Column} (h : Column.stringsOfParts large off data v = .ok c) :
    ∃ off', c = .text large off' data v ∧ (off' = off ∨ off' = Buffer.ofList [0]) := by
  unfold Column.stringsOfParts at h
  generalize hoff' : (if off.items.isEmpty = true then Buffer.ofList [0] else off) = off' at h
  refine ⟨off', ?_, by rw [← hoff']; split <;> simp⟩
  dsimp only at h
  -- past the bitmap check, the offsets and data are checked and taken as they are
  cases v with
  | none =>
    dsimp only at h
    obtain ⟨_, -, h⟩ := Except.bind_eq_ok.1 h
    split at h
    · cases h
    · cases h
      rfl
  | some m =>
    dsimp only at h
    split at h
    · cases h
    · obtain ⟨_, -, h⟩ := Except.bind_eq_ok.1 h
      split at h
      · cases h
      · cases h
        rfl

/-- Strings built from copied offsets and data read only their validity bitmap in place. -/
theorem Column.stringsOfParts_inPlace {large : Bool} {offs : List Nat} {data : List UInt8}
    {v : Option Bitmap} {c : Column}
    (h : Column.stringsOfParts large (Buffer.ofList offs) (Buffer.ofList data) v = .ok c) :
    c.inPlace = bitmapInPlace v := by
  obtain ⟨off', rfl, hoff'⟩ := Column.stringsOfParts_text h
  have hfresh : off'.foreign = false := by
    rcases hoff' with rfl | rfl <;> rfl
  simp [Column.inPlace, hfresh, Buffer.ofList]

/-- A string-view column is copied into plain strings, all but its validity bitmap: it reads a
buffer of the producer's in place exactly when that bitmap is read in place. -/
theorem NodeView.stringViews_inPlace {w : NodeView} {c : Column} (h : w.stringViews = .ok c) :
    ∃ v, w.validity = .ok v ∧ c.inPlace = bitmapInPlace v := by
  obtain ⟨v, hv, h⟩ := Except.bind_eq_ok.1 h
  refine ⟨v, hv, ?_⟩
  split at h
  · exact Column.stringsOfParts_inPlace h
  · -- past the views, the sizes and the data buffers, the copied parts meet the same bitmap
    obtain ⟨_, -, h⟩ := Except.bind_eq_ok.1 h
    obtain ⟨_, -, h⟩ := Except.bind_eq_ok.1 h
    obtain ⟨_, -, h⟩ := Except.bind_eq_ok.1 h
    obtain ⟨_, -, h⟩ := Except.bind_eq_ok.1 h
    obtain ⟨_, -, h⟩ := Except.bind_eq_ok.1 h
    obtain ⟨⟨offs, data⟩, -, h⟩ := Except.bind_eq_ok.1 h
    exact Column.stringsOfParts_inPlace h

/-- A one-slot string-view node with a validity bitmap: the import copies the string but reads
the bitmap in place, so the producer's array is released when the result is let go, not at
return. -/
theorem NodeView.viewed_strings_keep_validity :
    let a : ArrayNode := ⟨1, 0, 0, 3, some [some ⟨[1], false⟩,
      some ⟨[1, 0, 0, 0, 97, 0, 0, 0, 0, 0, 0, 0, 0, 0, 0, 0], false⟩, none], 0, none, none,
      false, true⟩
    let c : Column :=
      .text false (Buffer.ofList [0, 1]) (Buffer.ofList [97]) (some ⟨[1], 0, 1, true⟩)
    a.importTyped .stringView = .ok c ∧ c.inPlace = 1 ∧
      Request.importAnswer (a.typedRun .stringView) Column.summary =
        .obj [("result", Column.summary c), ("array_releases_at_return", .nat 0),
          ("array_releases", .nat 1), ("schema_releases_at_return", .nat 0)] := by
  intro a c
  -- the root reads as a string view; its (empty) list of data sizes is split into words by a
  -- well-founded recursion, which is the one step evaluation does not pass
  let w : NodeView := ⟨.stringView, 1, 0, some 0, a.buffers, 3⟩
  have hread : a.importTyped .stringView = w.stringViews := by
    dsimp only [a, w]
    rfl
  have hlen : (w.len = 0) = False := eq_false (by decide)
  have hnv : (w.nBuffers - 3).toNat = 0 := rfl
  have hsizes : w.required 2 0 "variadic sizes" = .ok ⟨[], false, false⟩ := rfl
  have hwords : Piece.words ⟨[], false, false⟩ 8 = .ok ⟨[], false⟩ := by
    simp [Piece.words, LittleEndian.words_nil]
  have himport : a.importTyped .stringView = .ok c := by
    rw [hread]
    unfold NodeView.stringViews
    simp only [hlen, hnv, hsizes, Nat.zero_mul, Nat.add_zero, if_false, bind, Except.bind, hwords]
    dsimp only [w, a, c]
    rfl
  have hrun : a.typedRun .stringView = ⟨.ok c, .imported a.root 1, none⟩ := by
    unfold ArrayNode.typedRun
    rw [himport]
    rfl
  refine ⟨himport, rfl, ?_⟩
  rw [hrun]
  rfl

end Columnar
