import Columnar.Proofs.Representation

/-!
# Struct import reports every failing column

A struct node that passes its own checks is read child by child: child `j` is read under
field `j`'s type from child pointer `j`, checked to reach the end of the parent's window, and
cut to it (`readMember`). Every child is read, whatever became of the ones before it, and only
then are the failures folded into one error:

> no child fails: the struct is its validity bitmap over the children, and fails only when
> the bitmap does; one child fails: its error, unchanged; `m ≥ 2` children fail:
> `m columns failed to import: 'n₁': e₁; …; 'nₘ': eₘ`, the failing children in field order
> (`struct_import_reports_members`).

A node that fails its own checks fails with that error before any child is read.
-/

namespace Columnar

namespace ArrayNode

/-- Child pointer `j` of a node's child pointer array; a missing array, or a slot past its
end, is a null pointer. -/
def childAt (children : Option (List (Option ArrayNode))) (j : Nat) : Option ArrayNode :=
  (children.getD []).getD j none

/-- Struct child `f` read from a child pointer under the parent's view: a null pointer is an
error, and a child is read under the field's type, must reach the end of the parent's window,
and is cut to that window. -/
def readMember (sc : Scrutiny) (w : NodeView) (f : Field) : Option ArrayNode →
    Except Error Column
  | none => .error (.nullPointer "ArrowArray child")
  | some c => do
    let col ← read sc c f.type
    if col.len < w.stop then
      throw (.malformed ("struct child '" ++ f.name ++ "' has " ++ toString col.len ++
        " rows, parent window ends at " ++ toString w.stop))
    pure (col.window w.offset w.len)

/-- The failed results among struct children, with their fields' names, in field order. -/
def memberFailures (results : List (String × Except Error Column)) : List (String × Error) :=
  results.filterMap fun (n, r) => match r with
    | .error e => some (n, e)
    | .ok _ => none

variable {sc : Scrutiny} {a : ArrayNode} {w : NodeView}

/-! ## Every child is read -/

/-- Children with no pointers are each read from a null pointer. -/
theorem missingMembers_eq_mapIdx (sc : Scrutiny) (w : NodeView) (fields : List Field) :
    missingMembers fields = fields.mapIdx fun _ f => (f.name, readMember sc w f none) := by
  induction fields with
  | nil => rfl
  | cons f fs ih =>
    rw [List.mapIdx_cons, ← ih]
    rfl

/-- Child `j` of a list of child pointers is read from pointer `j`, whatever became of the
children before it. -/
theorem readMembers_eq_mapIdx : ∀ (fields : List Field) (slots : List (Option ArrayNode)),
    readMembers sc w fields slots =
      fields.mapIdx fun j f => (f.name, readMember sc w f (slots.getD j none))
  | [], _ => by simp [readMembers]
  | f :: fs, [] => by
    rw [readMembers, missingMembers_eq_mapIdx sc w]
    simp only [List.getD_nil]
  | f :: fs, none :: rest => by
    rw [readMembers, List.mapIdx_cons, readMembers_eq_mapIdx fs rest]
    rfl
  | f :: fs, some c :: rest => by
    rw [readMembers, List.mapIdx_cons, readMembers_eq_mapIdx fs rest]
    rfl

/-- Child `j` of a struct node is read from its child pointer `j`. -/
theorem readSlots_eq_mapIdx (fields : List Field) (children : Option (List (Option ArrayNode))) :
    readSlots sc w fields children =
      fields.mapIdx fun j f => (f.name, readMember sc w f (childAt children j)) := by
  cases children with
  | none =>
    rw [readSlots, missingMembers_eq_mapIdx sc w]
    simp only [childAt, Option.getD_none, List.getD_nil]
  | some slots => exact readMembers_eq_mapIdx fields slots

/-! ## Folding the failures -/

theorem Field.type_materialise (f : Field) : f.materialise.type = f.type.materialise := by
  cases f
  rfl

theorem childFailures_of_two_le {fs : List (String × Error)} (h : 2 ≤ fs.length) :
    childFailures fs = some (.malformed (toString fs.length ++ " columns failed to import: " ++
      "; ".intercalate (fs.map fun (n, e) => "'" ++ n ++ "': " ++ e.message))) := by
  match fs with
  | [] | [_] => simp at h
  | _ :: _ :: _ => rfl

/-- A struct node that passes its own checks fails with the fold of its children's failures,
when there are any. -/
theorem read_struct_of_failures (fields : List Field) (hw : a.view (.struct fields) = .ok w)
    {e : Error} (hf : childFailures (memberFailures (readSlots sc w fields a.children)) = some e) :
    a.read sc (.struct fields) = .error e := by
  cases a with
  | mk length nullCount offset nBuffers buffers nChildren children dictionary released foreign =>
  rw [read, hw]
  dsimp only [bind, Except.bind]
  -- the reader folds exactly `memberFailures`, up to unfolding
  erw [hf]
  rfl

/-- Children with no failure are exactly their columns, in order. -/
theorem map_snd_of_memberFailures : ∀ {rs : List (String × Except Error Column)},
    memberFailures rs = [] → rs.map Prod.snd = (rs.filterMap fun p => p.2.toOption).map .ok
  | [], _ => rfl
  | (n, .ok c) :: rs, h => by
    have hrest : memberFailures rs = [] := h
    rw [List.map_cons, List.filterMap_cons, map_snd_of_memberFailures hrest]
    rfl
  | (n, .error e) :: rs, h => by cases h

/-- A child that reads has the field's type materialised and the parent's window. -/
theorem readMember_ok {f : Field} {slot : Option ArrayNode} {c : Column}
    (h : readMember sc w f slot = .ok c) : c.len = w.len ∧ c.type = f.type.materialise := by
  cases slot with
  | none => cases h
  | some child =>
    obtain ⟨col, hcol, h⟩ := Except.bind_eq_ok.1 h
    by_cases hshort : col.len < w.stop
    · rw [if_pos hshort] at h
      cases h
    · rw [if_neg hshort] at h
      cases h
      have hin : w.offset + w.len ≤ col.len := Nat.le_of_not_lt hshort
      exact ⟨Column.len_window hin, by rw [Column.type_window, (read_shape hcol).1]⟩

/-- Children that all read pass the struct's checks against the materialised fields. -/
theorem members_checked : ∀ (fields : List Field) (slot : Nat → Option ArrayNode),
    memberFailures (fields.mapIdx fun j f => (f.name, readMember sc w f (slot j))) = [] →
      List.Forall₂ (fun f c => c.len = w.len ∧ c.type = f.type) (Field.materialiseList fields)
        ((fields.mapIdx fun j f => (f.name, readMember sc w f (slot j))).filterMap
          fun p => p.2.toOption)
  | [], _, _ => .nil
  | f :: fs, slot, h => by
    rw [List.mapIdx_cons] at h ⊢
    cases hf : readMember sc w f (slot 0) with
    | error e =>
      rw [hf] at h
      cases h
    | ok c =>
      rw [hf] at h
      obtain ⟨hlen, htype⟩ := readMember_ok hf
      refine .cons ⟨hlen, ?_⟩ (members_checked fs (fun j => slot (j + 1)) h)
      rw [htype, Field.type_materialise]

/-! ## What the struct import returns -/

/-- Importing a struct reads every child and reports the failures exactly. A node that fails
its own checks fails with that error. Otherwise child `j` is read from child pointer `j` under
field `j`, whatever became of the others, and:

* when no child fails, the import is the struct of the children over the node's validity
  bitmap, so it fails exactly when the bitmap is refused;
* when one child fails, the import fails with that child's error, unchanged;
* when `m ≥ 2` children fail, the import fails with one error that lists exactly the failing
  children, in field order, each with its own error's message. -/
theorem struct_import_reports_members (a : ArrayNode) (fields : List Field) :
    (∀ e, a.view (.struct fields) = .error e →
      a.importTyped (.struct fields) =
        .error (if a.released then .malformed "ArrowArray has already been released" else e)) ∧
    ∀ w, a.view (.struct fields) = .ok w →
      let results := fields.mapIdx fun j f => (f.name, readMember .full w f (childAt a.children j))
      let failed := memberFailures results
      (failed = [] → a.importTyped (.struct fields) =
        w.validity.map fun v => .struct (Field.materialiseList fields)
          (results.filterMap fun p => p.2.toOption) v w.len) ∧
      (∀ n e, failed = [(n, e)] → a.importTyped (.struct fields) = .error e) ∧
      (2 ≤ failed.length → a.importTyped (.struct fields) =
        .error (.malformed (toString failed.length ++ " columns failed to import: " ++
          "; ".intercalate (failed.map fun (n, e) => "'" ++ n ++ "': " ++ e.message)))) := by
  refine ⟨fun e he => ?_, fun w hw => ?_⟩
  · -- the node's own checks come before any child
    unfold importTyped importChecked
    split
    · rfl
    · cases a with
      | mk length nullCount offset nBuffers buffers nChildren children dictionary released foreign =>
      rw [read, he]
      rfl
  · -- a node that passes its checks is live, so the import is its read
    have hlive : a.released = false := by
      cases hrel : a.released
      · rfl
      · simp [view, checkSlots, hrel] at hw
    have himport : a.importTyped (.struct fields) = a.read .full (.struct fields) := by
      simp [importTyped, importChecked, hlive]
    dsimp only
    refine ⟨fun hnone => ?_, fun n e hone => ?_, fun htwo => ?_⟩
    · -- no failure: the children pass the struct's checks, and only the bitmap is left
      have hchecked := members_checked fields (childAt a.children) hnone
      rw [← readSlots_eq_mapIdx] at hnone hchecked ⊢
      rw [himport, read_struct fields hw (map_snd_of_memberFailures hnone)]
      cases hv : w.validity with
      | error e => rfl
      | ok v =>
        have hmask : ∀ m ∈ v, m.len = w.len := fun m hm => (NodeView.validity_covers hv m hm).2
        exact Column.structOfLen_eq_ok hchecked hmask
    · rw [himport, read_struct_of_failures fields hw (by rw [readSlots_eq_mapIdx, hone]; rfl)]
    · rw [himport, read_struct_of_failures fields hw
        (by rw [readSlots_eq_mapIdx]; exact childFailures_of_two_le htwo)]

/-- Two string children with a buffer missing, around a null child that reads: the import
names both failing children, in field order, and skips the one that read. -/
theorem struct_import_reports_two_members :
    let text : ArrayNode :=
      ⟨1, 0, 0, 2, some [none, some ⟨[7, 0, 0, 0], false⟩], 0, none, none, false, false⟩
    let blank : ArrayNode := ⟨1, 1, 0, 0, none, 0, none, none, false, false⟩
    let a : ArrayNode :=
      ⟨1, 0, 0, 1, some [none], 3, some [some text, some blank, some text], none, false, true⟩
    let fields : List Field := [⟨"a", .string, false, Metadata.empty⟩,
      ⟨"b", .null, true, Metadata.empty⟩, ⟨"c", .string, false, Metadata.empty⟩]
    ∃ w, a.view (.struct fields) = .ok w ∧
      2 ≤ (memberFailures (fields.mapIdx fun j f =>
        (f.name, readMember .full w f (childAt a.children j)))).length ∧
      a.importTyped (.struct fields) = .error (.malformed ("2 columns failed to import: " ++
        "'a': import error: String requires 3 buffers, found 2; " ++
        "'c': import error: String requires 3 buffers, found 2")) := by
  intro text blank a fields
  refine ⟨_, rfl, by decide, ?_⟩
  rw [((struct_import_reports_members a fields).2 _ rfl).2.2 (by decide)]
  congr 2
  decide

end ArrayNode

end Columnar
