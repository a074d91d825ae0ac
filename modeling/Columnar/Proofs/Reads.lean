import Columnar.Proofs.Valid

/-!
# Valid columns read without breaking a precondition

`Column.valueAt` reads a slot as the library does, checking every index, range and window it
takes on the way (`Columnar.Column.Read`). On a valid column none of those checks fails, each
discharged by the part of `Column.Valid` that its index needs:

| read | what validity gives |
|---|---|
| a bit of a bitmap | its byte is stored, and a validity bitmap has a bit per slot |
| string offsets `i`, `i + 1` | there is one offset more than slots |
| the bytes between them | offsets never decrease and end inside the data |
| a dictionary value | a present key names a value |
| a struct member | the children are as long as the struct |
| a list's items | offsets never decrease and end inside the child |

So on a valid column `valueAt` returns the slot's `value` for every slot below the length
(`Valid.valueAt_eq`), and `readAll` the whole of `toList`. On any column, a read that goes
through returns the slot's `value` (`readSlot_ok`): the checks only decide whether it does.

Export reads the first and last offsets of each 32-bit string column its checks reach; on a
valid column those are there, and export refuses only with the errors the checks name
(`Valid.exportArray_eq`).
-/

namespace Columnar

/-- Each element read by a check that succeeds with the value a function gives, the whole list
reads as the list of values. -/
theorem Except.mapM_eq_ok_map {ε α β : Type} {f : α → Except ε β} {g : α → β} :
    ∀ {xs : List α}, (∀ x ∈ xs, f x = .ok (g x)) → xs.mapM f = .ok (xs.map g)
  | [], _ => rfl
  | x :: xs, h => by
    rw [List.mapM_cons, h x (List.mem_cons_self ..),
      Except.mapM_eq_ok_map fun y hy => h y (List.mem_cons_of_mem _ hy)]
    rfl

theorem Outcome.ofResult_bind {α β : Type} (x : Except Error α) (f : α → Except Error β) :
    Outcome.ofResult (x >>= f) = Outcome.ofResult x >>= fun a => Outcome.ofResult (f a) := by
  cases x <;> rfl

/-- Reads that succeed on each element with the value a function gives collect those values. -/
theorem Except.mapM_ok_eq_map {ε α β : Type} {f : α → Except ε β} {g : α → β}
    (hf : ∀ a b, f a = .ok b → b = g a) :
    ∀ {xs : List α} {ys : List β}, xs.mapM f = .ok ys → ys = xs.map g
  | [], _, h => by
    cases h
    rfl
  | x :: xs, ys, h => by
    simp only [List.mapM_cons, Except.bind_eq_ok, Except.pure_eq_ok] at h
    obtain ⟨y, hy, ys', hys, rfl⟩ := h
    rw [hf x y hy, Except.mapM_ok_eq_map hf hys]
    rfl

theorem Buffer.read_of_lt {α : Type} [Inhabited α] {b : Buffer α} {i : Nat} (h : i < b.size) :
    b.read i = .ok (b.get i) :=
  if_pos h

theorem Buffer.read_ok {α : Type} [Inhabited α] {b : Buffer α} {i : Nat} {a : α}
    (h : b.read i = .ok a) : a = b.get i := by
  unfold Buffer.read at h
  split at h
  · exact (Except.ok.inj h).symm
  · cases h

theorem checkRange_of_le {s e len : Nat} (hse : s ≤ e) (hel : e ≤ len) :
    checkRange s e len = .ok () := by
  simp only [checkRange, Nat.not_lt.2 hse, Nat.not_lt.2 hel, if_false]

namespace Bitmap

/-- A bit below the length of a stored bitmap reads. -/
theorem read_of_stored {m : Bitmap} (h : m.Stored) {i : Nat} (hi : i < m.len) :
    m.read i = .ok (m.get i) := by
  -- the byte of bit `offset + i` comes before the byte of the last bit the bitmap covers
  have hbyte : ¬ m.bytes.length ≤ (m.offset + i) / 8 := by
    unfold Stored at h
    omega
  simp only [read, Nat.not_le.2 hi, hbyte, if_false]

/-- A bit that reads is the bit. -/
theorem read_ok {m : Bitmap} {i : Nat} {b : Bool} (h : m.read i = .ok b) : b = m.get i := by
  unfold read at h
  split at h
  · cases h
  · split at h
    · cases h
    · exact (Except.ok.inj h).symm

/-- A null flag that reads is the flag. -/
theorem readNull_ok {v : Option Bitmap} {i : Nat} {b : Bool} (h : Bitmap.readNull v i = .ok b) :
    b = isNullAt v i := by
  cases v with
  | none => exact (Except.ok.inj h).symm
  | some m =>
    obtain ⟨b', hb', rfl⟩ := Except.map_eq_ok.1 h
    rw [read_ok hb']
    rfl

/-- A slot below the count a validity bitmap covers reads whether it is null. -/
theorem Covers.readNull_eq {v : Option Bitmap} {n : Nat} (h : Covers v n) {i : Nat}
    (hi : i < n) : Bitmap.readNull v i = .ok (isNullAt v i) := by
  cases v with
  | none => rfl
  | some m =>
    obtain ⟨hstored, hlen⟩ := h m rfl
    simp only [Bitmap.readNull, read_of_stored hstored (hlen ▸ hi)]
    rfl

end Bitmap

namespace Column

theorem checkSlot_of_lt {i n : Nat} (h : i < n) : checkSlot i n = .ok () :=
  if_pos h

/-! ## A read that goes through reads the value -/

/-- A read that first asks whether the slot is null: a null slot reads null, and a present
slot reads whatever the rest of the read gives. -/
theorem ok_of_readNull {v : Option Bitmap} {i : Nat} {rest : Outcome Scalar} {x : Scalar}
    (h : (Bitmap.readNull v i >>= fun b => if b = true then pure .null else rest) = .ok x) :
    (Bitmap.isNullAt v i = true ∧ x = .null) ∨ (Bitmap.isNullAt v i = false ∧ rest = .ok x) := by
  obtain ⟨b, hb, h⟩ := Except.bind_eq_ok.1 h
  cases Bitmap.readNull_ok hb
  cases hnull : Bitmap.isNullAt v i
  · simp only [hnull, Bool.false_eq_true, if_false] at h
    exact .inr ⟨rfl, h⟩
  · simp only [hnull, if_true, Except.pure_eq_ok] at h
    exact .inl ⟨rfl, h.symm⟩

/-- Whatever the column, a read of a slot that goes through returns the slot's `value`: every
check on the way only decides whether the read goes on. The induction follows the read. -/
theorem readSlot_ok {c : Column} {i : Nat} {x : Scalar} (h : c.readSlot i = .ok x) :
    x = c.value i := by
  refine readSlot.induct (fun c i => ∀ x, c.readSlot i = .ok x → x = c.value i)
    (fun fs cs i => ∀ ms, readMembers fs cs i = .ok ms → ms = members fs cs i)
    ?null ?numericPast ?numeric ?booleanPast ?boolean ?text ?dictionaryPast ?dictionary
    ?temporalPast ?temporal ?intervalPast ?interval ?struct ?list ?cons ?nil c i x h
  case null => exact fun _ _ x h => (Except.ok.inj h).symm
  -- a fixed-width slot past its buffer reads null without reading further
  case numericPast =>
    intro k d v i hpast x h
    simp only [readSlot, hpast, if_true, Except.pure_eq_ok] at h
    simp only [value, hpast, true_or, if_true, h]
  case booleanPast =>
    intro d v i hpast x h
    simp only [readSlot, hpast, if_true, Except.pure_eq_ok] at h
    simp only [value, hpast, true_or, if_true, h]
  case dictionaryPast =>
    intro idx k kv vals ord i hpast x h
    simp only [readSlot, hpast, if_true, Except.pure_eq_ok] at h
    simp only [value, hpast, true_or, if_true, h]
  case temporalPast =>
    intro kind u z d v i hpast x h
    simp only [readSlot, hpast, if_true, Except.pure_eq_ok] at h
    simp only [value, hpast, true_or, if_true, h]
  case intervalPast =>
    intro u d v i hpast x h
    simp only [readSlot, hpast, if_true, Except.pure_eq_ok] at h
    simp only [value, hpast, true_or, if_true, h]
  -- every other read asks first whether the slot is null
  case numeric =>
    intro k d v i hin x h
    simp only [readSlot, hin, if_false] at h
    rcases ok_of_readNull h with ⟨hnull, rfl⟩ | ⟨hnull, h⟩
    · simp only [value, hnull, or_true, if_true]
    · simp only [Except.pure_eq_ok] at h
      simp only [value, hin, hnull, false_or, Bool.false_eq_true, if_false, h]
  case temporal =>
    intro kind u z d v i hin x h
    simp only [readSlot, hin, if_false] at h
    rcases ok_of_readNull h with ⟨hnull, rfl⟩ | ⟨hnull, h⟩
    · simp only [value, hnull, or_true, if_true]
    · simp only [Except.pure_eq_ok] at h
      simp only [value, hin, hnull, false_or, Bool.false_eq_true, if_false, h]
  case interval =>
    intro u d v i hin x h
    simp only [readSlot, hin, if_false] at h
    rcases ok_of_readNull h with ⟨hnull, rfl⟩ | ⟨hnull, h⟩
    · simp only [value, hnull, or_true, if_true]
    · obtain ⟨_, -, h⟩ := Except.bind_eq_ok.1 h
      simp only [Except.pure_eq_ok] at h
      simp only [value, hin, hnull, false_or, Bool.false_eq_true, if_false, h]
  case boolean =>
    intro d v i hin x h
    simp only [readSlot, hin, if_false] at h
    rcases ok_of_readNull h with ⟨hnull, rfl⟩ | ⟨hnull, h⟩
    · simp only [value, hnull, or_true, if_true]
    · obtain ⟨b, hb, h⟩ := Except.bind_eq_ok.1 h
      simp only [Except.pure_eq_ok] at h
      simp only [value, hin, hnull, false_or, Bool.false_eq_true, if_false, ← h,
        ← Bitmap.read_ok hb]
  case text =>
    intro large off d v i x h
    simp only [readSlot] at h
    rcases ok_of_readNull h with ⟨hnull, rfl⟩ | ⟨hnull, h⟩
    · simp only [value, hnull, if_true]
    · simp only [Except.bind_eq_ok, Except.pure_eq_ok] at h
      obtain ⟨s, hs, e, he, -, -, rfl⟩ := h
      simp only [value, hnull, Bool.false_eq_true, if_false, Buffer.read_ok hs, Buffer.read_ok he]
  case dictionary =>
    intro idx k kv vals ord i hin ih x h
    simp only [readSlot, hin, if_false] at h
    rcases ok_of_readNull h with ⟨hnull, rfl⟩ | ⟨hnull, h⟩
    · simp only [value, hnull, or_true, if_true]
    · obtain ⟨_, -, h⟩ := Except.bind_eq_ok.1 h
      simp only [value, hin, hnull, false_or, Bool.false_eq_true, if_false]
      exact ih x h
  case struct =>
    intro fs cs v n i ih x h
    simp only [readSlot] at h
    rcases ok_of_readNull h with ⟨hnull, rfl⟩ | ⟨hnull, h⟩
    · simp only [value, hnull, if_true]
    · obtain ⟨ms, hms, h⟩ := Except.bind_eq_ok.1 h
      simp only [Except.pure_eq_ok] at h
      simp only [value, hnull, Bool.false_eq_true, if_false, ← h, ih ms hms]
  case list =>
    intro large item off vals v i ih x h
    simp only [readSlot] at h
    rcases ok_of_readNull h with ⟨hnull, rfl⟩ | ⟨hnull, h⟩
    · simp only [value, hnull, if_true]
    · -- the items read are the child's slots from the first offset on
      obtain ⟨s, hs, e, he, l, hl, h⟩ := by simpa only [Except.bind_eq_ok] using h
      cases Buffer.read_ok hs
      cases Buffer.read_ok he
      have hl' : l = off.get (i + 1) - off.get i := by
        unfold subWords at hl
        split at hl
        · exact (Except.ok.inj hl).symm
        · cases hl
      subst hl'
      split at h
      · cases h
      · obtain ⟨xs, hxs, h⟩ := Except.bind_eq_ok.1 h
        simp only [Except.pure_eq_ok] at h
        simp only [value, hnull, Bool.false_eq_true, if_false, ← h,
          Except.mapM_ok_eq_map (fun j y hy => ih _ j y hy) hxs]
  case cons =>
    intro f fs c cs i ihc ihcs ms h
    simp only [readMembers, Except.bind_eq_ok, Except.pure_eq_ok] at h
    obtain ⟨_, -, x, hx, ms', hms', rfl⟩ := h
    simp only [members, ihc x hx, ihcs ms' hms']
  case nil =>
    intro cs fs i hnot ms h
    -- a field or a child is missing, so there are no members
    cases fs with
    | nil => simp only [readMembers, members, Except.ok.injEq] at h ⊢; exact h.symm
    | cons f fs =>
      cases cs with
      | nil => simp only [readMembers, members, Except.ok.injEq] at h ⊢; exact h.symm
      | cons c cs => exact (hnot f fs c cs rfl rfl).elim

/-- A slot that reads, reads its value. -/
theorem valueAt_ok {c : Column} {i : Nat} {x : Scalar} (h : c.valueAt i = .ok x) :
    x = c.value i := by
  obtain ⟨_, -, h⟩ := Except.bind_eq_ok.1 h
  exact readSlot_ok h

/-- What `readAll` returns, when it returns, is `toList`: the summary of a column whose slots
all read shows what the reads give. -/
theorem readAll_ok {c : Column} {xs : List Scalar} (h : c.readAll = .ok xs) : xs = c.toList :=
  Except.mapM_ok_eq_map (fun _ _ hx => valueAt_ok hx) h

/-! ## Valid columns read -/

/-- A struct slot reads its members from children that each read the slot. -/
theorem readMembers_eq {i : Nat} : ∀ {fs : List Field} {cs : List Column},
    (∀ c ∈ cs, i < c.len ∧ c.readSlot i = .ok (c.value i)) →
      readMembers fs cs i = .ok (members fs cs i)
  | [], _, _ => by simp only [readMembers, members]
  | _ :: _, [], _ => by simp only [readMembers, members]
  | f :: fs, c :: cs, h => by
    obtain ⟨hi, hc⟩ := h c (List.mem_cons_self ..)
    have hrest : readMembers fs cs i = .ok (members fs cs i) :=
      readMembers_eq fun c' hc' => h c' (List.mem_cons_of_mem _ hc')
    simp only [readMembers, checkSlot_of_lt hi, hc, hrest, members]
    rfl

/-- Every slot of a valid column reads as its value: each index, range and window the read
takes is inside what is stored. The induction is on validity, whose steps are the values a
dictionary key names, the members of a struct and the items of a list. -/
theorem Valid.readSlot_eq {c : Column} (h : c.Valid) :
    ∀ i < c.len, c.readSlot i = .ok (c.value i) := by
  induction h with
  | null n => exact fun _ _ => rfl
  | numeric k d v hv =>
    intro i hi
    have hi' : i < d.size := hi
    simp only [readSlot, value, Nat.not_le.2 hi', hv.readNull_eq hi', false_or, if_false]
    cases Bitmap.isNullAt v i <;> rfl
  | temporal kind u z d v hv =>
    intro i hi
    have hi' : i < d.size := hi
    simp only [readSlot, value, Nat.not_le.2 hi', hv.readNull_eq hi', false_or, if_false]
    cases Bitmap.isNullAt v i <;> rfl
  | boolean d v hd hv =>
    intro i hi
    have hi' : i < d.len := hi
    simp only [readSlot, value, Nat.not_le.2 hi', hv.readNull_eq hi', false_or, if_false,
      Bitmap.read_of_stored hd hi']
    cases Bitmap.isNullAt v i <;> rfl
  | text large off d v hoff _ hv =>
    intro i hi
    have hi' : i < off.size - 1 := hi
    -- the slot's offsets are stored, in order, and end inside the data
    have hse : off.get i ≤ off.get (i + 1) := hoff.get_le (Nat.le_succ i) (by omega)
    have hed : off.get (i + 1) ≤ d.size := hoff.get_le_bound (by omega)
    simp only [readSlot, value, hv.readNull_eq hi', Buffer.read_of_lt (by omega : i < off.size),
      Buffer.read_of_lt (by omega : i + 1 < off.size), bind, Except.bind,
      checkRange_of_le hse hed]
    cases Bitmap.isNullAt v i <;> rfl
  | dictionary idx k kv vals ord hkv hkeys _ ih =>
    intro i hi
    have hi' : i < k.size := hi
    simp only [readSlot, value, Nat.not_le.2 hi', hkv.readNull_eq hi', false_or, if_false]
    cases hnull : Bitmap.isNullAt kv i with
    | true => rfl
    | false =>
      -- a present key names a slot of the values, read as its value
      obtain ⟨h0, hlt⟩ := hkeys i hi' hnull
      have hj := keySlot_lt h0 hlt
      simp only [checkSlot_of_lt hj, ih _ hj]
      rfl
  | interval u d v _ hv =>
    intro i hi
    have hi' : i < d.size / u.words := hi
    -- the words of slot `i` end inside the buffer
    have hend : (i + 1) * u.words ≤ d.size :=
      (Nat.le_div_iff_mul_le (IntervalUnit.words_pos u)).1 hi'
    have hstart : i * u.words ≤ (i + 1) * u.words := Nat.mul_le_mul_right _ (Nat.le_succ i)
    simp only [readSlot, value, Nat.not_le.2 hi', hv.readNull_eq hi', false_or, if_false,
      checkRange_of_le hstart hend]
    cases Bitmap.isNullAt v i <;> rfl
  | struct fs cs v n _ hlen hv _ ih =>
    intro i hi
    have hi' : i < n := hi
    have hmembers : readMembers fs cs i = .ok (members fs cs i) :=
      readMembers_eq fun c hc => ⟨hlen c hc ▸ hi', ih c hc i (hlen c hc ▸ hi')⟩
    simp only [readSlot, value, hv.readNull_eq hi', hmembers]
    cases Bitmap.isNullAt v i <;> rfl
  | list large f off vals v _ hoff hv _ ih =>
    intro i hi
    have hi' : i < off.size - 1 := hi
    -- the slot's items are a window of the child, every item inside it
    have hse : off.get i ≤ off.get (i + 1) := hoff.get_le (Nat.le_succ i) (by omega)
    have hev : off.get (i + 1) ≤ vals.len := hoff.get_le_bound (by omega)
    have hsub : subWords (off.get (i + 1)) (off.get i) = .ok (off.get (i + 1) - off.get i) :=
      if_pos hse
    have hwin : ¬ vals.len < off.get i + (off.get (i + 1) - off.get i) := by omega
    have hitems : (List.range (off.get (i + 1) - off.get i)).mapM
        (fun j => readSlot vals (off.get i + j)) =
        .ok ((List.range (off.get (i + 1) - off.get i)).map fun j => value vals (off.get i + j)) :=
      Except.mapM_eq_ok_map fun j hj => ih _ (by have := List.mem_range.1 hj; omega)
    simp only [readSlot, value, hv.readNull_eq hi', Buffer.read_of_lt (by omega : i < off.size),
      Buffer.read_of_lt (by omega : i + 1 < off.size), bind, Except.bind, hsub, hwin, if_false,
      hitems]
    cases Bitmap.isNullAt v i <;> rfl

/-- A slot below the length of a valid column reads as its value. -/
theorem Valid.valueAt_eq {c : Column} (h : c.Valid) {i : Nat} (hi : i < c.len) :
    c.valueAt i = .ok (c.value i) := by
  rw [valueAt, checkSlot_of_lt hi]
  exact h.readSlot_eq i hi

/-- A valid column reads every slot in order as `toList`. -/
theorem Valid.readAll_eq {c : Column} (h : c.Valid) : c.readAll = .ok c.toList :=
  Except.mapM_eq_ok_map fun _ hi => h.valueAt_eq (List.mem_range.1 hi)

theorem Valid.readable_eq {c : Column} (h : c.Valid) : c.readable = .ok c := by
  rw [readable, h.readAll_eq]
  rfl

/-! ## Export -/

/-- Offsets that are there read their first and last. -/
theorem offsetBounds_of_ne {off : Buffer Nat} (h : off.items ≠ []) :
    offsetBounds off = .ok (off.get 0, off.items.getLastD 0) := by
  have hpos : 0 < off.size := List.length_pos_iff.2 h
  have hlast : off.items.getLastD 0 = off.get (off.size - 1) :=
    Buffer.getLastD_eq_get (by omega)
  simp only [offsetBounds, Buffer.read_of_lt hpos,
    Buffer.read_of_lt (by omega : off.size - 1 < off.size), hlast, bind, Except.bind]
  rfl

/-- The children of a struct whose checks read nothing missing check as `checkExportable`. -/
theorem exportCheckMembers_eq : ∀ {fs : List Field} {cs : List Column},
    (∀ c ∈ cs, c.exportCheck = Outcome.ofResult c.checkExportable) →
      exportCheckMembers fs cs = Outcome.ofResult (checkMembersExportable fs cs)
  | [], _, _ => by simp only [exportCheckMembers, checkMembersExportable]; rfl
  | _ :: _, [], _ => by simp only [exportCheckMembers, checkMembersExportable]; rfl
  | f :: fs, c :: cs, h => by
    have hrest : exportCheckMembers fs cs = Outcome.ofResult (checkMembersExportable fs cs) :=
      exportCheckMembers_eq fun c' hc' => h c' (List.mem_cons_of_mem _ hc')
    simp only [exportCheckMembers, checkMembersExportable, Outcome.ofResult_bind,
      h c (List.mem_cons_self ..), hrest]

/-- Export checks a valid column as `checkExportable` does: every offset it reads is there. -/
theorem Valid.exportCheck_eq {c : Column} (h : c.Valid) :
    c.exportCheck = Outcome.ofResult c.checkExportable := by
  induction h with
  | text large off d v hoff _ _ =>
    cases large
    · simp only [exportCheck, checkExportable, offsetBounds_of_ne hoff.1, bind, Except.bind]
    · rfl
  | dictionary _ _ _ _ _ _ _ _ ih => simp only [exportCheck, checkExportable, ih]
  | struct fs cs _ _ _ _ _ _ ih =>
    simp only [exportCheck, checkExportable, exportCheckMembers_eq ih]
  | list large f off vals v _ _ _ _ ih =>
    cases large <;> simp only [exportCheck, checkExportable, Outcome.ofResult_bind, ih]
  | _ => rfl

/-- Exporting a valid column never breaks a precondition: it writes the descriptor tree, or
refuses with the error its checks name. -/
theorem Valid.exportArray_eq {c : Column} (h : c.Valid) :
    c.exportArray = Outcome.ofResult c.toDescriptor := by
  rw [exportArray, toDescriptor, Outcome.ofResult_bind, h.exportCheck_eq]
  rfl

end Column

end Columnar
