import Columnar.Proofs.Slice

/-!
# Strings and dictionaries built from values

The string constructor lays out optional strings as the running sums of their UTF-8 byte
lengths over their bytes one after another, with a bitmap only when some string is missing.
The dictionary constructor keeps each distinct present string once, in the order the strings
first appear (`firstSeen`), and keys every present slot by the place of its string there.

> `strings_of_values`: optional strings build exactly when the bytes of the present ones fit
> the offsets, and then into a valid column that decodes to them, whose offsets start at zero
> and step by each string's byte length (zero for a missing one), with a bitmap exactly when
> one is missing; strings that are all present build the column of present strings.

> `dictionary_of_strings`: when the distinct strings' bytes fit 32-bit offsets, the dictionary
> decodes to the strings, lists the distinct ones once each in order of first appearance, keys
> each present slot by the place of its string, has a bitmap exactly when a string is missing,
> passes the dictionary check as it is, and every slice of it decodes to the strings it covers.

Both rest on one decoding lemma: slot `i` of strings laid out from their bytes reads exactly
the bytes of string `i` (`value_text_of_bytes`).
-/

namespace Columnar

/-- The scalar of an optional string: the string, or null where it is missing. -/
def Scalar.ofText : Option String → Scalar
  | some s => .string s
  | none => .null

/-- `uniques` lists each string present in `values` once, in the order of the strings' first
appearances there. -/
structure FirstAppearances (uniques : List String) (values : List (Option String)) : Prop where
  mem_iff : ∀ s, s ∈ uniques ↔ some s ∈ values
  ordered : uniques.Pairwise fun s t => values.idxOf (some s) < values.idxOf (some t)

namespace Column

/-- A column decodes to a list of scalars when it has a slot for each and slot `i` reads
scalar `i`. -/
theorem toList_eq_of_value {c : Column} {xs : List Scalar} (hlen : c.len = xs.length)
    (hval : ∀ i (hi : i < xs.length), c.value i = xs[i]) : c.toList = xs := by
  apply List.ext_getElem
  · rw [toList, List.length_map, List.length_range, hlen]
  · intro i hi _
    simp only [toList, List.getElem_map, List.getElem_range]
    exact hval i (by simpa only [toList, List.length_map, List.length_range, hlen] using hi)

/-! ## Strings laid out from bytes -/

theorem len_text_of_bytes (large : Bool) (bytes : List (List UInt8)) (v : Option Bitmap) :
    (Column.text large (Buffer.ofList (offsetsOf (bytes.map List.length)))
      (Buffer.ofList bytes.flatten) v).len = bytes.length := by
  simp only [len, Buffer.size, Buffer.ofList, length_offsetsOf, List.length_map,
    Nat.add_sub_cancel]

/-- Slot `i` of strings laid out from their bytes is null where the bitmap says so, and
otherwise the text of exactly the bytes of string `i`. -/
theorem value_text_of_bytes (large : Bool) {bytes : List (List UInt8)} (v : Option Bitmap)
    {i : Nat} (hi : i < bytes.length) :
    (Column.text large (Buffer.ofList (offsetsOf (bytes.map List.length)))
      (Buffer.ofList bytes.flatten) v).value i =
      if Bitmap.isNullAt v i then .null else .string ((Utf8.decode? bytes[i]).getD "") := by
  rw [value, textAt, slice_offsetsOf hi]

/-- Optional strings laid out from their bytes, with the bitmap of the missing ones, decode
to themselves. -/
theorem toList_text_of_options (large : Bool) (vs : List (Option String)) :
    (Column.text large
      (Buffer.ofList (offsetsOf ((vs.map fun v => (v.map Utf8.encode).getD []).map List.length)))
      (Buffer.ofList (vs.map fun v => (v.map Utf8.encode).getD []).flatten)
      (validityIfMissing vs)).toList = vs.map Scalar.ofText := by
  have hlen := len_text_of_bytes large (vs.map fun v => (v.map Utf8.encode).getD [])
    (validityIfMissing vs)
  rw [List.length_map] at hlen
  refine toList_eq_of_value (by rw [hlen, List.length_map]) fun i hi => ?_
  rw [List.length_map] at hi
  rw [value_text_of_bytes large _ (by rw [List.length_map]; exact hi),
    isNullAt_validityIfMissing hi, List.getElem_map, List.getElem_map]
  -- a present string reads back from its own bytes
  cases vs[i] with
  | none => rfl
  | some s => simp [Utf8.decode?_encode, Scalar.ofText]

/-- Present string `k` laid out with no bitmap reads back as itself. -/
theorem value_stringsOfPresent (large : Bool) {ss : List String} {k : Nat} (hk : k < ss.length) :
    (stringsOfPresent large ss).value k = .string ss[k] := by
  simp only [stringsOfPresent]
  rw [value_text_of_bytes large _ (by rw [List.length_map]; exact hk)]
  simp [Bitmap.isNullAt, Utf8.decode?_encode]

theorem len_stringsOfPresent (large : Bool) (ss : List String) :
    (stringsOfPresent large ss).len = ss.length := by
  simp only [stringsOfPresent]
  rw [len_text_of_bytes, List.length_map]

/-- Present strings laid out with no bitmap decode to themselves. -/
theorem toList_stringsOfPresent (large : Bool) (ss : List String) :
    (stringsOfPresent large ss).toList = ss.map .string := by
  refine toList_eq_of_value (by rw [len_stringsOfPresent, List.length_map]) fun i hi => ?_
  rw [List.length_map] at hi
  rw [value_stringsOfPresent large hi, List.getElem_map]

/-- The bytes of the present strings, counted over all slots with none for a missing one. -/
theorem sum_present_bytes (vs : List (Option String)) :
    ((vs.map fun v => (v.map Utf8.encode).getD []).map List.length).sum =
      ((vs.filterMap id).map fun s => (Utf8.encode s).length).sum := by
  induction vs with
  | nil => rfl
  | cons v vs ih =>
    cases v with
    | none =>
      simpa only [List.map_cons, Option.map_none, Option.getD_none, List.length_nil,
        List.sum_cons, Nat.zero_add, List.filterMap_cons, id] using ih
    | some s =>
      simp only [List.map_cons, Option.map_some, Option.getD_some, List.sum_cons,
        List.filterMap_cons, id, ih]

/-- Offsets laid out from byte lengths start at zero and step by each length. -/
theorem offsetsOf_steps (ls : List Nat) :
    (Buffer.ofList (offsetsOf ls)).get 0 = 0 ∧
      ∀ i (hi : i < ls.length),
        (Buffer.ofList (offsetsOf ls)).get (i + 1) - (Buffer.ofList (offsetsOf ls)).get i =
          ls[i] := by
  refine ⟨?_, fun i hi => ?_⟩
  · show (offsetsOf ls).getD 0 0 = 0
    rw [getD_offsetsOf (Nat.zero_le _)]
    rfl
  show (offsetsOf ls).getD (i + 1) 0 - (offsetsOf ls).getD i 0 = _
  rw [getD_offsetsOf hi, getD_offsetsOf (Nat.le_of_lt hi), List.sum_take_succ _ _ hi,
    Nat.add_sub_cancel_left]

/-! ## Strings from optional values -/

/-- Optional values have a bitmap exactly when one of them is missing. -/
theorem isSome_validityIfMissing {α : Type} (xs : List (Option α)) :
    (validityIfMissing xs).isSome ↔ none ∈ xs := by
  unfold validityIfMissing
  by_cases hmiss : xs.any Option.isNone = true
  · simp only [hmiss, if_true, Option.isSome_some, true_iff]
    obtain ⟨x, hx, hnone⟩ := List.any_eq_true.1 hmiss
    exact Option.isNone_iff_eq_none.1 hnone ▸ hx
  · simp only [hmiss, Bool.false_eq_true, if_false, Option.isSome_none, false_iff]
    exact fun hmem => hmiss (List.any_eq_true.2 ⟨none, hmem, rfl⟩)

/-- The string constructor checks the bytes of the present strings against the offsets, and
lays out every string's bytes, none for a missing one. -/
theorem stringsOf_eq (large : Bool) (vs : List (Option String)) :
    stringsOf large vs =
      if maxOffset large < ((vs.filterMap id).map fun s => (Utf8.encode s).length).sum then
        .error (.overflow ((vs.filterMap id).map fun s => (Utf8.encode s).length).sum
          (maxOffset large))
      else .ok (.text large
        (Buffer.ofList (offsetsOf ((vs.map fun v => (v.map Utf8.encode).getD []).map
          List.length)))
        (Buffer.ofList (vs.map fun v => (v.map Utf8.encode).getD []).flatten)
        (validityIfMissing vs)) := by
  rw [← sum_present_bytes]
  rfl

/-- Optional strings build exactly when the bytes of the present ones fit the offsets, into a
valid column that decodes to them: its offsets start at zero and step by each string's byte
length, none for a missing one, and it has a bitmap exactly when a string is missing. Strings
that are all present build, when they fit, the column of present strings, with no bitmap. -/
theorem strings_of_values (large : Bool) (vs : List (Option String)) :
    let total := ((vs.filterMap id).map fun s => (Utf8.encode s).length).sum
    (stringsOf large vs = .error (.overflow total (maxOffset large)) ↔ maxOffset large < total) ∧
    (total ≤ maxOffset large → ∃ off data v, stringsOf large vs = .ok (.text large off data v) ∧
      (Column.text large off data v).Valid ∧ (Column.text large off data v).len = vs.length ∧
      (Column.text large off data v).toList = vs.map Scalar.ofText ∧
      off.get 0 = 0 ∧
      (∀ i (hi : i < vs.length),
        off.get (i + 1) - off.get i = (vs[i].map fun s => (Utf8.encode s).length).getD 0) ∧
      (v.isSome ↔ none ∈ vs)) ∧
    ∀ ss : List String,
      stringsOf large (ss.map some) =
        if maxOffset large < (ss.map fun s => (Utf8.encode s).length).sum then
          .error (.overflow (ss.map fun s => (Utf8.encode s).length).sum (maxOffset large))
        else .ok (stringsOfPresent large ss) := by
  intro total
  refine ⟨?_, fun hfit => ?_, fun ss => ?_⟩
  · -- only the overflow check refuses
    rw [stringsOf_eq]
    split
    · exact ⟨fun _ => ‹_›, fun _ => rfl⟩
    · exact ⟨nofun, fun h => absurd h ‹_›⟩
  · have hok := stringsOf_eq large vs
    rw [if_neg (Nat.not_lt.2 hfit)] at hok
    refine ⟨_, _, _, hok, valid_stringsOf hok, ?_, toList_text_of_options large vs,
      (offsetsOf_steps _).1, fun i hi => ?_, isSome_validityIfMissing vs⟩
    · rw [len_text_of_bytes, List.length_map]
    · rw [(offsetsOf_steps _).2 i (by simpa using hi), List.getElem_map, List.getElem_map]
      cases vs[i] <;> rfl
  · -- all present: the same bytes, and no bitmap
    have hbytes : (ss.map some).map (fun v => (v.map Utf8.encode).getD []) =
        ss.map Utf8.encode := by
      simp [List.map_map, Function.comp_def]
    have hnone : validityIfMissing (ss.map some) = none := by
      simp [validityIfMissing]
    have hpresent : (ss.map some).filterMap id = ss := by
      simp [List.filterMap_map]
    rw [stringsOf_eq, hbytes, hnone, hpresent]
    rfl

/-! ## Distinct strings in order of first appearance -/

/-- Past the strings already seen, `firstSeen` appends the strings it meets for the first
time, in the order it meets them. -/
theorem firstSeen_fresh : ∀ (seen : List String) (vs : List (Option String)),
    ∃ fresh, firstSeen seen vs = seen ++ fresh ∧ (∀ s ∈ fresh, s ∉ seen ∧ some s ∈ vs) ∧
      fresh.Pairwise fun s t => vs.idxOf (some s) < vs.idxOf (some t)
  | seen, [] => ⟨[], by simp [firstSeen]⟩
  | seen, none :: rest => by
    obtain ⟨fresh, heq, hnew, hord⟩ := firstSeen_fresh seen rest
    -- a missing slot moves every first appearance one place on
    have hshift : ∀ s, (none :: rest).idxOf (some s) = rest.idxOf (some s) + 1 := fun s => by
      simp
    refine ⟨fresh, heq, fun s hs => ⟨(hnew s hs).1, List.mem_cons_of_mem _ (hnew s hs).2⟩, ?_⟩
    exact hord.imp fun {s t} hst => by rw [hshift, hshift]; omega
  | seen, some x :: rest => by
    have hshift : ∀ s, s ≠ x → (some x :: rest).idxOf (some s) = rest.idxOf (some s) + 1 :=
      fun s hsx => by simp [Ne.symm hsx]
    by_cases hx : seen.contains x = true
    · -- `x` was seen: the fresh strings are those of the rest, none of them `x`
      obtain ⟨fresh, heq, hnew, hord⟩ := firstSeen_fresh seen rest
      have hne : ∀ s ∈ fresh, s ≠ x := fun s hs hsx =>
        (hnew s hs).1 (hsx ▸ List.elem_iff.1 hx)
      refine ⟨fresh, by rw [firstSeen, if_pos hx, heq],
        fun s hs => ⟨(hnew s hs).1, List.mem_cons_of_mem _ (hnew s hs).2⟩, ?_⟩
      exact List.Pairwise.imp_of_mem (fun {s t} hs ht hst => by
        rw [hshift s (hne s hs), hshift t (hne t ht)]; omega) hord
    · -- `x` is new: it comes first among the fresh strings, at place zero
      obtain ⟨fresh, heq, hnew, hord⟩ := firstSeen_fresh (seen ++ [x]) rest
      have hxseen : x ∉ seen := fun hmem => hx (List.elem_iff.2 hmem)
      have hne : ∀ s ∈ fresh, s ≠ x := fun s hs hsx =>
        (hnew s hs).1 (by rw [hsx]; exact List.mem_append_right _ (List.mem_singleton_self x))
      refine ⟨x :: fresh, by rw [firstSeen, if_neg hx, heq, List.append_assoc]; rfl,
        fun s hs => ?_, ?_⟩
      · rcases List.mem_cons.1 hs with rfl | hs
        · exact ⟨hxseen, List.mem_cons_self ..⟩
        · exact ⟨fun h => (hnew s hs).1 (List.mem_append_left _ h),
            List.mem_cons_of_mem _ (hnew s hs).2⟩
      · refine List.pairwise_cons.2 ⟨fun t ht => ?_, List.Pairwise.imp_of_mem
          (fun {s t} hs ht hst => by rw [hshift s (hne s hs), hshift t (hne t ht)]; omega) hord⟩
        rw [hshift t (hne t ht)]
        simp

/-- The distinct strings lists each present string once, in order of first appearance. -/
theorem firstAppearances_firstSeen (vs : List (Option String)) :
    FirstAppearances (firstSeen [] vs) vs := by
  obtain ⟨fresh, heq, hnew, hord⟩ := firstSeen_fresh [] vs
  rw [List.nil_append] at heq
  refine ⟨fun s => ⟨fun hs => ?_, mem_firstSeen⟩, heq ▸ hord⟩
  rw [heq] at hs
  exact (hnew s hs).2

/-- The bytes of the distinct strings, in any order. -/
theorem sum_firstSeen_bytes (vs : List (Option String)) :
    ((firstSeen [] vs).map fun s => (Utf8.encode s).length).sum =
      (vs.filterMap id).toFinset.sum fun s => (Utf8.encode s).length := by
  have hset : (firstSeen [] vs).toFinset = (vs.filterMap id).toFinset := by
    ext s
    simp only [List.mem_toFinset, List.mem_filterMap, id]
    rw [(firstAppearances_firstSeen vs).mem_iff s]
    exact ⟨fun h => ⟨_, h, rfl⟩, fun ⟨v, hv, hvs⟩ => hvs ▸ hv⟩
  rw [← hset, List.sum_toFinset _ (nodup_firstSeen vs List.nodup_nil)]

/-! ## Dictionaries of strings -/

/-- A key read as an `int32` is the place it stores when that place is below `2^31`. -/
theorem int32_integer_of_lt {n : Nat} (h : n < 2 ^ 31) : NumericKind.int32.integer n = n :=
  LittleEndian.toInt_of_lt h

/-- The keys of optional strings: the place of each present string among `uniques`. -/
theorem get_keys {vs : List (Option String)} {uniques : List String} {i : Nat} {s : String}
    (hi : i < vs.length) (hv : vs[i] = some s) :
    (Buffer.ofList ((vs.map fun v => v.map fun s => uniques.idxOf s).map (·.getD 0))).get i =
      uniques.idxOf s := by
  simp [Buffer.get, Buffer.ofList, List.getD_eq_getElem?_getD, hi, hv]

/-- Strings keyed by their places among the distinct strings decode to themselves. -/
theorem value_dictionaryOfStrings {vs : List (Option String)} {uniques : List String}
    (hmem : ∀ s, some s ∈ vs → s ∈ uniques) (hplaces : uniques.length ≤ 2 ^ 31) {i : Nat}
    (hi : i < vs.length) :
    (Column.dictionary .int32
      (Buffer.ofList ((vs.map fun v => v.map fun s => uniques.idxOf s).map (·.getD 0)))
      (validityIfMissing (vs.map fun v => v.map fun s => uniques.idxOf s))
      (stringsOfPresent false uniques) false).value i = Scalar.ofText vs[i] := by
  have hik : i < (vs.map fun v => v.map fun s => uniques.idxOf s).length := by simpa using hi
  have hsize : ¬ (Buffer.ofList ((vs.map fun v => v.map fun s => uniques.idxOf s).map
      (·.getD 0))).size ≤ i := by
    simp only [Buffer.size, Buffer.ofList, List.length_map]
    omega
  rw [value, isNullAt_validityIfMissing hik, List.getElem_map]
  cases hv : vs[i] with
  | none => simp [Scalar.ofText]
  | some s =>
    -- the key of `s` is its place among the distinct strings, read back as itself
    have hplace : uniques.idxOf s < uniques.length :=
      List.idxOf_lt_length_of_mem (hmem s (hv ▸ List.getElem_mem hi))
    rw [if_neg (by simpa only [Option.map_some, Option.isNone_some, Bool.false_eq_true,
      or_false] using hsize), get_keys hi hv]
    have hn : uniques.idxOf s < 2 ^ 31 := Nat.lt_of_lt_of_le hplace hplaces
    have hword : (uniques.idxOf s : Int) < Int.pow 2 64 := by
      have hpow : Int.pow 2 64 = 18446744073709551616 := by decide
      rw [hpow]
      omega
    show (stringsOfPresent false uniques).value
      (keySlot (NumericKind.int32.integer (uniques.idxOf s))) = Scalar.ofText (some s)
    rw [int32_integer_of_lt hn, keySlot_of_lt (Int.natCast_nonneg _) hword, Int.toNat_natCast,
      value_stringsOfPresent false hplace, List.getElem_idxOf hplace]
    rfl

/-- A dictionary of the distinct strings, keyed by their places, when their bytes fit. -/
theorem dictionaryOfStrings_eq {vs : List (Option String)}
    (hfit : ((vs.filterMap id).toFinset.sum fun s => (Utf8.encode s).length) ≤ maxOffset false) :
    dictionaryOfStrings vs = .ok (.dictionary .int32
      (Buffer.ofList ((vs.map fun v => v.map fun s => (firstSeen [] vs).idxOf s).map (·.getD 0)))
      (validityIfMissing (vs.map fun v => v.map fun s => (firstSeen [] vs).idxOf s))
      (stringsOfPresent false (firstSeen [] vs)) false) := by
  have hbytes : ¬ maxOffset false < ((firstSeen [] vs).map fun s => (Utf8.encode s).length).sum := by
    rw [sum_firstSeen_bytes]
    omega
  unfold dictionaryOfStrings
  dsimp only
  rw [← List.sum_eq_foldr, if_neg hbytes]

/-- Slices of a valid column whose length is a word decode to the slots they cover. -/
theorem toList_slice {c : Column} (hc : c.Valid) (hlen : c.len ≤ wordMax) {o l : Nat}
    (hol : o + l ≤ c.len) : ∃ s, c.slice o l = .ok s ∧ s.toList = (c.toList.drop o).take l :=
  ⟨_, slice_eq_ok hol hlen, (isWindow_window hc.regular hol).toList_eq⟩

/-- Optional strings keyed at the places of their strings have a bitmap exactly when a string
is missing. -/
theorem isSome_validity_keys (vs : List (Option String)) (place : String → Nat) :
    (validityIfMissing (vs.map fun v => v.map place)).isSome ↔ none ∈ vs := by
  rw [isSome_validityIfMissing, List.mem_map]
  exact ⟨fun ⟨v, hv, hnone⟩ => Option.map_eq_none_iff.1 hnone ▸ hv, fun h => ⟨none, h, rfl⟩⟩

/-- The dictionary `c` encodes the optional strings `vs`: it decodes to them slot by slot, its
values are the distinct strings once each in order of first appearance, the `int32` key of each
present slot is the place of its string among them, it has a bitmap exactly when a string is
missing, the dictionary check takes its keys and values as they are, and every slice of it
decodes to the strings the slice covers. -/
structure EncodesStrings (c : Column) (vs : List (Option String)) : Prop where
  len_eq : c.len = vs.length
  toList_eq : c.toList = vs.map Scalar.ofText
  validity_iff : c.validity.isSome ↔ none ∈ vs
  parts : ∃ keys uniques,
    c = .dictionary .int32 keys c.validity (stringsOfPresent false uniques) false ∧
    FirstAppearances uniques vs ∧ (stringsOfPresent false uniques).toList = uniques.map .string ∧
    (∀ i (hi : i < vs.length) s, vs[i] = some s →
      NumericKind.int32.integer (keys.get i) = uniques.idxOf s) ∧
    dictionaryOf (.numeric .int32 keys c.validity) (stringsOfPresent false uniques) false = .ok c
  slices : vs.length ≤ wordMax → ∀ o l, o + l ≤ vs.length →
    ∃ s, c.slice o l = .ok s ∧ s.toList = ((vs.drop o).take l).map Scalar.ofText

/-- Optional strings whose distinct present strings have bytes that fit 32-bit offsets are
encoded as a dictionary of those strings. -/
theorem dictionary_of_strings (vs : List (Option String))
    (hfit : ((vs.filterMap id).toFinset.sum fun s => (Utf8.encode s).length) ≤ maxOffset false) :
    ∃ c, dictionaryOfStrings vs = .ok c ∧ c.EncodesStrings vs := by
  have hok := dictionaryOfStrings_eq hfit
  have hfirst := firstAppearances_firstSeen vs
  have hvalid := valid_dictionaryOfStrings hok
  -- distinct strings number at most one more than their bytes, so their places are `int32`s
  have hplaces : (firstSeen [] vs).length ≤ 2 ^ 31 := by
    have hcount := length_le_bytes (nodup_firstSeen vs List.nodup_nil)
    rw [sum_firstSeen_bytes] at hcount
    simp only [maxOffset, Nat.pow_eq, Bool.false_eq_true, if_false] at hfit
    omega
  have hlen : (Column.dictionary .int32
      (Buffer.ofList ((vs.map fun v => v.map fun s => (firstSeen [] vs).idxOf s).map (·.getD 0)))
      (validityIfMissing (vs.map fun v => v.map fun s => (firstSeen [] vs).idxOf s))
      (stringsOfPresent false (firstSeen [] vs)) false).len = vs.length := by
    simp [len, Buffer.size, Buffer.ofList]
  have hdecode : (Column.dictionary .int32
      (Buffer.ofList ((vs.map fun v => v.map fun s => (firstSeen [] vs).idxOf s).map (·.getD 0)))
      (validityIfMissing (vs.map fun v => v.map fun s => (firstSeen [] vs).idxOf s))
      (stringsOfPresent false (firstSeen [] vs)) false).toList = vs.map Scalar.ofText := by
    refine toList_eq_of_value (by rw [hlen, List.length_map]) fun i hi => ?_
    rw [List.length_map] at hi
    rw [value_dictionaryOfStrings (fun s => (hfirst.mem_iff s).2) hplaces hi, List.getElem_map]
  refine ⟨_, hok, ⟨hlen, hdecode, isSome_validity_keys vs _, ⟨_, _, rfl, hfirst,
    toList_stringsOfPresent false _, fun i hi s hs => ?_, ?_⟩, fun hword o l hol => ?_⟩⟩
  · -- a present slot's key is the place of its string
    have hplace : (firstSeen [] vs).idxOf s < (firstSeen [] vs).length :=
      List.idxOf_lt_length_of_mem ((hfirst.mem_iff s).2 (hs ▸ List.getElem_mem hi))
    rw [get_keys hi hs, int32_integer_of_lt (Nat.lt_of_lt_of_le hplace hplaces)]
  · -- the keys that make it valid are those the dictionary check asks for
    cases hvalid with
    | dictionary _ _ _ _ _ _ hkeys _ => exact dictionaryOf_eq_ok false hkeys
  · obtain ⟨s, hs, htoList⟩ := toList_slice hvalid (hlen ▸ hword) (hlen ▸ hol)
    rw [hdecode, ← List.map_drop, ← List.map_take] at htoList
    exact ⟨s, hs, htoList⟩

/-- Four strings, one missing and one repeated, encode as a dictionary of two. -/
theorem dictionary_of_strings_cats :
    let vs : List (Option String) := [some "cat", some "dog", none, some "cat"]
    ((vs.filterMap id).toFinset.sum fun s => (Utf8.encode s).length) ≤ maxOffset false ∧
      ∃ c, dictionaryOfStrings vs = .ok c ∧ c.EncodesStrings vs :=
  ⟨by decide, dictionary_of_strings _ (by decide)⟩

end Column

end Columnar
