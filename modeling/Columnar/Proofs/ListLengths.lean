import Columnar.Proofs.Slice

/-!
# Lists from lengths

`Column.listOfLengths large item values lengths` lays a list column over `values` in which
list `i` takes the next `lengths[i]` values; a missing length is a null list that takes none.
The offsets are the running sums of the lengths, each cut to the offset width (`2^32`, or
`2^64` for large lists), so they describe the requested lists while the total stays below the
width:

> when `∑ lengths < width`, building never stops on a broken precondition, succeeds exactly
> when `values` has the item type and holds `∑ lengths` values, and then has a list per
> length: list `i` is null where `lengths[i]` is missing, and is the `n` values from the sum of
> the lengths before it where `lengths[i] = n` (`lists_of_lengths`).

Past the width, cut offsets can still pass the list checks: with 32-bit offsets the lengths
`[2^32, 1]` over a single value give an empty list and a list of that value
(`lengths_wrap_past_offsets`).
-/

namespace Columnar

theorem Outcome.ofResult_eq_ok_iff {α : Type} {r : Except Error α} {a : α} :
    Outcome.ofResult r = .ok a ↔ r = .ok a := by
  cases r <;> simp [Outcome.ofResult]

namespace Column

variable {large : Bool} {item : Field} {values : Column} {lengths : List (Option Nat)}

/-- Offsets below the width are unchanged by the cut to it. -/
theorem offsetsOf_mod {ls : List Nat} {width : Nat} (h : ls.sum < width) :
    (offsetsOf ls).map (· % width) = offsetsOf ls := by
  conv_rhs => rw [← List.map_id (offsetsOf ls)]
  refine List.map_congr_left fun x hx => Nat.mod_eq_of_lt ?_
  exact Nat.lt_of_le_of_lt ((offsets_offsetsOf ls).2.2 x hx) h

/-- Running sums always hold the leading zero, so the list checks never take them for absent
offsets. -/
theorem isEmpty_offsetsOf (ls : List Nat) : (Buffer.ofList (offsetsOf ls)).items.isEmpty = false :=
  List.isEmpty_eq_false_iff.2 (offsets_offsetsOf ls).1

/-- Lengths that sum below the offset width are laid out as their running sums, which the list
constructor checks; nothing stops the build before that. -/
theorem listOfLengths_eq
    (hfit : (lengths.map (·.getD 0)).sum < if large then 2 ^ 64 else 2 ^ 32) :
    listOfLengths large item values lengths =
      Outcome.ofResult (listOf large item (Buffer.ofList (offsetsOf (lengths.map (·.getD 0))))
        values (validityIfMissing lengths)) := by
  have hword : ¬ wordMax < (lengths.map (·.getD 0)).sum := by
    rw [wordMax, Nat.pow_eq]
    split at hfit <;> omega
  unfold listOfLengths
  dsimp only
  rw [← List.sum_eq_foldr, if_neg hword]
  simp only [Nat.pow_eq, offsetsOf_mod hfit]

/-- The offsets of the lengths, with one offset more than lengths, pass the list checks exactly
when the values have the item type and hold the lengths' sum. -/
theorem listOf_lengths_ok_iff :
    (∃ l, listOf large item (Buffer.ofList (offsetsOf (lengths.map (·.getD 0)))) values
        (validityIfMissing lengths) = .ok l) ↔
      values.type = item.type ∧ (lengths.map (·.getD 0)).sum ≤ values.len := by
  have hoff := offsets_offsetsOf (lengths.map (·.getD 0))
  have hsize : (Buffer.ofList (offsetsOf (lengths.map (·.getD 0)))).size - 1 = lengths.length := by
    simp only [Buffer.size, Buffer.ofList, length_offsetsOf, List.length_map, Nat.add_sub_cancel]
  refine listOf_accepts_iff.trans ?_
  simp only [isEmpty_offsetsOf, if_false, Bool.false_eq_true]
  -- the offsets never decrease, end at the sum, and the bitmap has a bit per length
  have hmask : ∀ m ∈ validityIfMissing lengths,
      m.len = (Buffer.ofList (offsetsOf (lengths.map (·.getD 0)))).size - 1 := fun m hm => by
    rw [hsize]
    exact (covers_validityIfMissing lengths m hm).2
  have hlast : (offsetsOf (lengths.map (·.getD 0))).getLastD 0 = (lengths.map (·.getD 0)).sum :=
    getLastD_offsetsOf _
  exact ⟨fun h => ⟨h.1, hlast ▸ h.2.2.1⟩, fun h => ⟨h.1, hoff.2.1, hlast ▸ h.2, hmask⟩⟩

/-- List `i` of lists laid out from lengths that the values hold: null where the length is
missing, else the values from the sum of the lengths before it, as many as its length. -/
theorem value_ofLengths (hsum : (lengths.map (·.getD 0)).sum ≤ values.len) {i : Nat}
    (hi : i < lengths.length) :
    (Column.list large item (Buffer.ofList (offsetsOf (lengths.map (·.getD 0)))) values
        (validityIfMissing lengths)).value i =
      lengths[i].elim .null fun n =>
        .list ((values.toList.drop ((lengths.take i).map (·.getD 0)).sum).take n) := by
  have him : i < (lengths.map (·.getD 0)).length := by rw [List.length_map]; exact hi
  rw [value, isNullAt_validityIfMissing hi]
  cases hl : lengths[i] with
  | none => rfl
  | some n =>
    -- list `i` runs from the sum of the lengths before it, for its own length
    have hstart : (Buffer.ofList (offsetsOf (lengths.map (·.getD 0)))).get i =
        ((lengths.take i).map (·.getD 0)).sum := by
      rw [List.map_take]
      exact getD_offsetsOf (Nat.le_of_lt him)
    have hend : (Buffer.ofList (offsetsOf (lengths.map (·.getD 0)))).get (i + 1) =
        ((lengths.take i).map (·.getD 0)).sum + n := by
      show (offsetsOf _).getD (i + 1) 0 = _
      rw [getD_offsetsOf him, List.sum_take_succ _ _ him, List.getElem_map, hl, List.map_take]
      rfl
    -- and ends inside the values, which hold every list
    have hin : ((lengths.take i).map (·.getD 0)).sum + n ≤ values.len := by
      rw [← hend]
      exact (offsets_offsetsOf _).get_le_bound
        (by simp only [Buffer.size, Buffer.ofList, length_offsetsOf, List.length_map]; omega)
        |>.trans hsum
    simp only [Option.isNone_some, Bool.false_eq_true, if_false, hstart, hend,
      Nat.add_sub_cancel_left, Option.elim_some]
    rw [toList_drop_take hin]

/-- Lists from lengths that sum below the offset width: building never stops on a broken
precondition; it succeeds exactly when the values have the item type and hold the lengths'
sum; and then there is a list per length, null where the length is missing, and otherwise the
values from the sum of the lengths before it, as many as its length. -/
theorem lists_of_lengths (large : Bool) (item : Field) (values : Column)
    (lengths : List (Option Nat))
    (hfit : (lengths.map (·.getD 0)).sum < if large then 2 ^ 64 else 2 ^ 32) :
    (∀ m, listOfLengths large item values lengths ≠ .error (.panic m)) ∧
    ((∃ l, listOfLengths large item values lengths = .ok l) ↔
      values.type = item.type ∧ (lengths.map (·.getD 0)).sum ≤ values.len) ∧
    ∀ l, listOfLengths large item values lengths = .ok l →
      l.len = lengths.length ∧ ∀ i (hi : i < lengths.length),
        (lengths[i] = none → l.value i = .null) ∧
        ∀ n, lengths[i] = some n →
          l.value i = .list ((values.toList.drop ((lengths.take i).map (·.getD 0)).sum).take n) := by
  rw [listOfLengths_eq hfit]
  refine ⟨fun m h => ?_, ?_, fun l hl => ?_⟩
  · -- a refusal of the list checks is an error, never a broken precondition
    cases hr : listOf large item (Buffer.ofList (offsetsOf (lengths.map (·.getD 0)))) values
        (validityIfMissing lengths) <;> rw [hr] at h <;> cases h
  · simp only [Outcome.ofResult_eq_ok_iff]
    exact listOf_lengths_ok_iff
  · rw [Outcome.ofResult_eq_ok_iff] at hl
    have hsum := (listOf_lengths_ok_iff.1 ⟨l, hl⟩).2
    obtain ⟨off', rfl, hoff', -, -, -⟩ := listOf_ok hl
    rw [isEmpty_offsetsOf, if_neg Bool.false_ne_true] at hoff'
    subst hoff'
    refine ⟨by simp [len, Buffer.size, Buffer.ofList, length_offsetsOf],
      fun i hi => ⟨fun hnone => ?_, fun n hn => ?_⟩⟩
    · rw [value_ofLengths hsum hi, hnone]
      rfl
    · rw [value_ofLengths hsum hi, hn]
      rfl

/-- Four lengths over three values, one missing and one empty, as the lists of values they
cover. -/
theorem lists_of_lengths_mixed :
    let item : Field := ⟨"item", .int32, true, Metadata.empty⟩
    let values : Column := .numeric .int32 (Buffer.ofList [1, 2, 3]) none
    let lengths : List (Option Nat) := [some 2, none, some 1, some 0]
    (lengths.map (·.getD 0)).sum < (if false then 2 ^ 64 else 2 ^ 32) ∧
    (∀ m, listOfLengths false item values lengths ≠ .error (.panic m)) ∧
    ((∃ l, listOfLengths false item values lengths = .ok l) ↔
      values.type = item.type ∧ (lengths.map (·.getD 0)).sum ≤ values.len) ∧
    ∀ l, listOfLengths false item values lengths = .ok l →
      l.len = lengths.length ∧ ∀ i (hi : i < lengths.length),
        (lengths[i] = none → l.value i = .null) ∧
        ∀ n, lengths[i] = some n →
          l.value i = .list ((values.toList.drop ((lengths.take i).map (·.getD 0)).sum).take n) :=
  ⟨by decide, lists_of_lengths false _ _ _ (by decide)⟩

/-- With 32-bit offsets a length of `2^32` is cut to nothing: the lengths `[2^32, 1]` over a
single null value pass the list checks although they sum past it, and the first list comes
out empty. -/
theorem lengths_wrap_past_offsets :
    let item : Field := ⟨"item", .null, true, Metadata.empty⟩
    let lengths : List (Option Nat) := [some (2 ^ 32), some 1]
    (Column.null 1).len < (lengths.map (·.getD 0)).sum ∧
      ∃ l, listOfLengths false item (.null 1) lengths = .ok l ∧ l.value 0 = .list [] := by
  intro item lengths
  refine ⟨by decide, _, rfl, rfl⟩

end Column

end Columnar
