import Columnar.Proofs.Extents
import Columnar.Proofs.Reader
/-!
# Import reads only the prescribed bytes

A consumer trusts nothing in a foreign descriptor: lengths, offsets, counts, buffer contents,
children and dictionaries are all the producer's. Import must still read only the bytes the C
data interface prescribes, never a buffer pointer past `nBuffers` and never a child past
`nChildren`, on every path of its recursive reader. Stated as a frame property:

> `(a.clip t).importTyped t = a.importTyped t`

for every descriptor tree `a` and every type `t`, where `clip` cuts the whole tree to its
prescribed extents (`Extents`). Whatever lies outside them, and whether the producer's buffers
are as long as they should be, cannot change what import returns.

The proof follows the reader's own recursion (`ArrayNode.read.induct`): the checks of a node
read only its header, so the cut node passes them exactly when the node does; each layout then
reads its buffers through a reader that `Extents` shows stays inside the extents; and the
children, list item and dictionary are read under the same induction.
-/

namespace Columnar

namespace ArrayNode

variable {a : ArrayNode} {t : DataType}

/-! ## The checks of a node -/

/-- A node that passes the layout checks has the type's child count, and its buffer count:
exactly, or at least for string views, whose data buffers come in any number. -/
theorem checkLayout_eq_ok (h : a.checkLayout t = .ok ()) :
    a.nChildren = t.layout.2 ∧ (t = .stringView → t.layout.1 ≤ a.nBuffers) ∧
      (t ≠ .stringView → a.nBuffers = t.layout.1) := by
  unfold checkLayout at h
  dsimp only at h
  -- each check that fails throws, so every check that ran passed
  have hchildren : a.nChildren = t.layout.2 := by
    apply Decidable.of_not_not
    intro hnc
    simp only [hnc, ne_eq, not_false_eq_true, if_true] at h
    split_ifs at h <;> cases h
  by_cases hsv : t = .stringView
  · have hnb : ¬ a.nBuffers < t.layout.1 := by
      intro hlt
      subst hsv
      simp only [hlt, if_true, show (DataType.stringView == .stringView) = true from rfl] at h
      split_ifs at h <;> cases h
    exact ⟨hchildren, fun _ => Int.not_lt.1 hnb, fun hne => absurd hsv hne⟩
  · have hnb : a.nBuffers = t.layout.1 := by
      apply Decidable.of_not_not
      intro hne
      simp only [DataType.beq_stringView hsv, hne, ne_eq, not_false_eq_true, if_true,
        Bool.false_eq_true, if_false] at h
      split_ifs at h <;> cases h
    exact ⟨hchildren, fun hsv' => absurd hsv' hsv, fun _ => hnb⟩

/-- A node's view is its header as it is: the window and the buffer pointers, unread. -/
theorem view_eq_ok {w : NodeView} (h : a.view t = .ok w) :
    a.checkLayout t = .ok () ∧
      ∃ nc, w = ⟨t, a.length.toNat, a.offset.toNat, nc, a.buffers, a.nBuffers⟩ := by
  obtain ⟨nc, -, h⟩ := Except.bind_eq_ok.1 h
  obtain ⟨u, hl, h⟩ := Except.bind_eq_ok.1 h
  cases u
  cases Except.pure_eq_ok.1 h
  exact ⟨hl, nc, rfl⟩

theorem checkSlots_clip : (a.clip t).checkSlots t = a.checkSlots t := by
  cases a
  rfl

theorem checkLayout_clip : (a.clip t).checkLayout t = a.checkLayout t := by
  cases a with
  | mk length nullCount offset nBuffers buffers nChildren children dictionary released foreign =>
    simp only [checkLayout, clip, Option.isNone_map, isNone_clipChildren]

/-- The cut node passes the same checks, and its view is the view with each buffer cut to its
extent. -/
theorem view_clip : (a.clip t).view t = (a.view t).map (·.clipTo (a.extent t)) := by
  rw [view, view, checkSlots_clip, checkLayout_clip]
  cases a.checkSlots t with
  | error err => rfl
  | ok nc =>
    cases a.checkLayout t with
    | error err => rfl
    | ok u =>
      cases a
      rfl

/-! ## The whole tree -/

variable (sc : Scrutiny)

/-- A list node without its first child refuses, after reading its offsets. -/
theorem readList_of_ne {w : NodeView} {large : Bool} {item : Field}
    {ch : Option (List (Option ArrayNode))} (h : ∀ c tail, ch ≠ some (some c :: tail)) :
    readList sc w large item ch = (do
      let _ ← w.offsets 1 (offsetWidth large)
      throw (.nullPointer "ArrowArray child")) := by
  unfold readList
  split
  · exact absurd rfl (h _ _)
  · rfl

/-- Reading a descriptor tree reads nothing outside its extents: the tree cut to them reads as
the tree does. The induction follows the reader: a node, a list's first child, a struct's
children, and a dictionary, each read from the cut tree as from the tree. -/
theorem read_clip (a : ArrayNode) (t : DataType) : (a.clip t).read sc t = a.read sc t := by
  refine ArrayNode.read.induct sc (fun a t => (a.clip t).read sc t = a.read sc t)
    (fun w large item ch => ∀ w' : NodeView,
      w'.offsets 1 (offsetWidth large) = w.offsets 1 (offsetWidth large) →
      w'.validity = w.validity →
      readList sc w' large item (clipChildren 1 [item.type] ch) = readList sc w large item ch)
    (fun w fields ch => ∀ e, readSlots sc (w.clipTo e) fields
      (clipChildren fields.length (fields.map Field.type) ch) = readSlots sc w fields ch)
    (fun w fields slots => ∀ e, readMembers sc (w.clipTo e) fields
      (clipSlots fields.length (fields.map Field.type) slots) = readMembers sc w fields slots)
    (fun d t => readDictionary sc (d.map (clip · t)) t = readDictionary sc d t)
    ?node ?listSome ?listOther ?slotsNone ?slotsSome ?dictNone ?dictSome ?membersNil
    ?membersMissing ?membersNull ?membersSome a t
  case node =>
    intro length nullCount offset nBuffers buffers nChildren children dictionary released foreign t
      ihDict ihSlots ihList ihLarge
    have hvc := view_clip (a := ⟨length, nullCount, offset, nBuffers, buffers, nChildren,
      children, dictionary, released, foreign⟩) (t := t)
    rw [clip] at hvc ⊢
    rw [read, read, hvc]
    generalize ha : (⟨length, nullCount, offset, nBuffers, buffers, nChildren, children,
      dictionary, released, foreign⟩ : ArrayNode) = a
    have hnc : a.nChildren = nChildren := by rw [← ha]
    cases hv : a.view t with
    | error err => rfl
    | ok w =>
      -- the view is the node's header, so each extent below is the one its reader asks for
      obtain ⟨hlayout, nc, rfl⟩ := view_eq_ok hv
      obtain ⟨hch, hsv, hnsv⟩ := checkLayout_eq_ok hlayout
      -- outside string views, every buffer the layout names is below the node's buffer count
      have hslot : ∀ {k : Nat}, t ≠ .stringView → k < t.layout.1.toNat →
          k < a.nBuffers.toNat := by
        intro k hne hk
        rw [hnsv hne]
        exact hk
      dsimp only [Except.map, bind, Except.bind]
      cases t with
      | null => rfl
      | int8 | int16 | int32 | int64 | uint8 | uint16 | uint32 | uint64 | float32 | float64 =>
        simp only [NumericKind.ofType?]
        exact NodeView.numeric_clipTo (hslot DataType.noConfusion (Nat.lt_succ_self 1))
          (Nat.le_refl _) (Nat.le_refl _)
      | boolean =>
        rw [NodeView.bits_clipTo (hslot DataType.noConfusion (Nat.lt_succ_self 1)) (Nat.le_refl _),
          NodeView.validity_clipTo (hslot DataType.noConfusion (Nat.zero_lt_succ 1)) (Nat.le_refl _)]
      | date32 | date64 | time32 u | time64 u | timestamp u z | duration u =>
        exact NodeView.temporal_clipTo (hslot DataType.noConfusion (Nat.lt_succ_self 1))
          (Nat.le_refl _) (Nat.le_refl _)
      | interval u =>
        exact NodeView.intervals_clipTo (hslot DataType.noConfusion (Nat.lt_succ_self 1))
          (Nat.le_refl _) (Nat.le_refl _)
      | string =>
        exact NodeView.strings_clipTo sc false (hslot DataType.noConfusion (Nat.lt_succ_self 2))
          (Nat.le_refl _) (Nat.le_refl _) (Nat.le_refl _)
      | largeString =>
        exact NodeView.strings_clipTo sc true (hslot DataType.noConfusion (Nat.lt_succ_self 2))
          (Nat.le_refl _) (Nat.le_refl _) (Nat.le_refl _)
      | stringView =>
        have h3 : 3 ≤ a.nBuffers := hsv rfl
        refine NodeView.stringViews_clipTo (by show 3 ≤ a.nBuffers.toNat; omega) (Nat.le_refl _)
          (Nat.le_refl _) ?_ ?_
        · exact Nat.le_of_eq (extent_stringView_sizes a).symm
        · intro k hk
          exact Nat.le_of_eq (extent_stringView_data (Nat.ne_of_lt hk)).symm
      | dictionary i v o =>
        dsimp only
        rw [clipDictionary_dictionary, ihDict v, NodeView.clipTo_withType,
          NodeView.numeric_clipTo (hslot DataType.noConfusion (Nat.lt_succ_self 1)) (Nat.le_refl _)
            (Nat.le_refl _)]
      | struct fs =>
        have hn : nChildren.toNat = fs.length := by
          rw [← hnc, hch]
          simp [DataType.layout]
        dsimp only
        rw [hn, show (DataType.struct fs).childTypes = fs.map Field.type from rfl, ihSlots _ fs,
          NodeView.validity_clipTo (hslot DataType.noConfusion (Nat.zero_lt_succ 0)) (Nat.le_refl _)]
        rfl
      | list item =>
        have hn : nChildren.toNat = 1 := by
          rw [← hnc, hch]
          rfl
        rw [hn]
        exact ihList _ item _
          (NodeView.offsets_clipTo (hslot DataType.noConfusion (Nat.lt_succ_self 1)) (Nat.le_refl _))
          (NodeView.validity_clipTo (hslot DataType.noConfusion (Nat.zero_lt_succ 1)) (Nat.le_refl _))
      | largeList item =>
        have hn : nChildren.toNat = 1 := by
          rw [← hnc, hch]
          rfl
        rw [hn]
        exact ihLarge _ item _
          (NodeView.offsets_clipTo (hslot DataType.noConfusion (Nat.lt_succ_self 1)) (Nat.le_refl _))
          (NodeView.validity_clipTo (hslot DataType.noConfusion (Nat.zero_lt_succ 1)) (Nat.le_refl _))
  case listSome =>
    intro w large item c tail ihc w' hoff hval
    show readList sc w' large item (some [some (c.clip item.type)]) = _
    rw [readList, readList, hoff, ihc, hval]
  case listOther =>
    intro ch w large item hne w' hoff hval
    -- the cut keeps the first child pointer as it is: absent, null or set
    have hne' : ∀ c tail, clipChildren 1 [item.type] ch ≠ some (some c :: tail) := by
      intro c tail hc
      rcases ch with _ | _ | ⟨_ | c', tail'⟩
      · cases hc
      · cases hc
      · cases hc
      · exact hne c' tail' rfl
    rw [readList_of_ne sc hne, readList_of_ne sc hne', hoff]
  case slotsNone => intro w fields e; rfl
  case slotsSome =>
    intro w fields slots ih e
    exact ih e
  case dictNone => intro t; rfl
  case dictSome =>
    intro d t ih
    exact ih
  case membersNil => intro slots w e; simp only [readMembers]
  case membersMissing => intro w f fs e; simp only [clipSlots_nil, readMembers]
  case membersNull =>
    intro w f fs rest ih e
    show readMembers sc _ (f :: fs) (none :: clipSlots fs.length (fs.map Field.type) rest) = _
    rw [readMembers, readMembers, ih e]
  case membersSome =>
    intro w f fs c rest ihc ih e
    show readMembers sc _ (f :: fs)
      (some (c.clip f.type) :: clipSlots fs.length (fs.map Field.type) rest) = _
    -- the child is checked against the parent's window, which the cut leaves alone
    rw [readMembers, readMembers, ihc, ih e]
    rfl

theorem importChecked_clip (a : ArrayNode) (t : DataType) :
    (a.clip t).importChecked sc t = a.importChecked sc t := by
  have hreleased : (a.clip t).released = a.released := by
    cases a
    rfl
  rw [importChecked, importChecked, hreleased, read_clip]

/-- Two descriptor trees that agree on every byte, buffer pointer and child the C data interface
prescribes for a type import alike as that type. -/
theorem importChecked_eq_of_clip_eq {b : ArrayNode} (h : a.clip t = b.clip t) :
    a.importChecked sc t = b.importChecked sc t := by
  rw [← importChecked_clip, h, importChecked_clip]

/-- Import as a type reads only what the C data interface prescribes for the descriptor tree:
each buffer's prescribed bytes, buffer pointers below `nBuffers` and children below
`nChildren`, at every depth. The tree cut to that imports as the tree does, and import
answers with a column or an error on every tree. -/
theorem importTyped_clip (a : ArrayNode) (t : DataType) :
    (a.clip t).importTyped t = a.importTyped t :=
  importChecked_clip .full a t

end ArrayNode

end Columnar
