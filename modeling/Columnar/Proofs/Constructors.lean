import Columnar.Proofs.Valid
import Columnar.Proofs.Checked
import Columnar.Proofs.Utf8

/-!
# Every constructor builds a valid column

The constructors from values lay out their buffers themselves: offsets are the running sums
of the values' lengths, the data is the values one after another, and a validity bitmap has a
bit per value. The constructors from parts check what they are given. Either way the column
they return satisfies `Column.Valid`, given valid children and bitmaps that hold their bits.

The one constructor that counts is `dictionaryOfStrings`: its keys are 32-bit, so each must
read as a non-negative `int32`. They index the distinct strings, and distinct strings are
all but one non-empty, so there are at most one more of them than their bytes, which the
constructor keeps below `2^31`.
-/

namespace Columnar

theorem Outcome.eq_ok_of_ofResult {α : Type} {r : Except Error α} {a : α}
    (h : Outcome.ofResult r = .ok a) : r = .ok a := by
  cases r with
  | error e => cases h
  | ok b =>
    cases h
    rfl

/-! ## Running sums -/

/-- The offsets of consecutive lengths are their running sums from zero. -/
theorem offsetsOf_eq_scanl (ls : List Nat) : offsetsOf ls = ls.scanl (· + ·) 0 := by
  -- from any start, the fold appends the sums that follow the start's last offset
  have hfold : ∀ (ls acc : List Nat),
      ls.foldl (fun acc l => acc ++ [acc.getLastD 0 + l]) acc =
        acc ++ (ls.scanl (· + ·) (acc.getLastD 0)).tail := by
    intro ls
    induction ls with
    | nil => intro acc; simp
    | cons l ls ih =>
      intro acc
      rw [List.foldl_cons, ih, List.getLastD_concat, List.append_assoc]
      -- a scan is its start followed by the rest
      cases ls <;> simp [List.scanl_cons]
  rw [offsetsOf, hfold]
  cases ls <;> simp [List.scanl_cons]

theorem length_offsetsOf (ls : List Nat) : (offsetsOf ls).length = ls.length + 1 := by
  rw [offsetsOf_eq_scanl, List.length_scanl]

theorem getD_offsetsOf {ls : List Nat} {i : Nat} (hi : i ≤ ls.length) :
    (offsetsOf ls).getD i 0 = (ls.take i).sum := by
  rw [offsetsOf_eq_scanl, List.getD_eq_getElem?_getD, List.getElem?_scanl, if_pos hi,
    Option.getD_some, List.sum_eq_foldl]

theorem getLastD_offsetsOf (ls : List Nat) : (offsetsOf ls).getLastD 0 = ls.sum := by
  rw [List.getLastD_eq_getLast?, List.getLast?_eq_getElem?, length_offsetsOf, Nat.add_sub_cancel,
    ← List.getD_eq_getElem?_getD, getD_offsetsOf (Nat.le_refl _), List.take_length]

/-- One more length adds one offset: the sum of all the lengths so far. -/
theorem offsetsOf_concat (ls : List Nat) (l : Nat) :
    offsetsOf (ls ++ [l]) = offsetsOf ls ++ [ls.sum + l] := by
  rw [offsetsOf, List.foldl_append, List.foldl_cons, List.foldl_nil, ← offsetsOf,
    getLastD_offsetsOf]

/-- Running sums from zero are offsets into their total. -/
theorem offsets_offsetsOf (ls : List Nat) : (Buffer.ofList (offsetsOf ls)).Offsets ls.sum := by
  have hlen := length_offsetsOf ls
  have hget : ∀ i (h : i < (offsetsOf ls).length), (offsetsOf ls)[i] = (ls.take i).sum := by
    intro i h
    rw [← @getD_offsetsOf ls i (by omega), List.getD_eq_getElem?_getD,
      List.getElem?_eq_getElem h, Option.getD_some]
  refine ⟨List.ne_nil_of_length_pos (by simp only [Buffer.ofList]; omega), ?_, fun x hx => ?_⟩
  · -- the sums of longer prefixes are larger
    show (offsetsOf ls).Pairwise (· ≤ ·)
    refine List.pairwise_iff_getElem.2 fun i j hi hj hij => ?_
    rw [hget i hi, hget j hj]
    exact List.monotone_sum_take ls (Nat.le_of_lt hij)
  · change x ∈ offsetsOf ls at hx
    obtain ⟨i, hi, rfl⟩ := List.getElem_of_mem hx
    rw [hget i hi]
    calc (ls.take i).sum ≤ (ls.take (i + ls.length)).sum :=
          List.monotone_sum_take ls (Nat.le_add_right _ _)
      _ = ls.sum := by rw [List.take_of_length_le (Nat.le_add_left _ _)]

/-- The bytes between two running sums of the lengths are the value between them. -/
theorem slot_flatten {α : Type} : ∀ (bs : List (List α)) {i : Nat} (hi : i < bs.length),
    (bs.flatten.drop ((bs.map List.length).take i).sum).take bs[i].length = bs[i]
  | b :: bs, 0, _ => by simp
  | b :: bs, i + 1, hi => by
    have hi' : i < bs.length := Nat.lt_of_succ_lt_succ hi
    rw [List.flatten_cons, List.map_cons, List.take_succ_cons, List.sum_cons, List.drop_append,
      List.drop_eq_nil_of_le (by omega), List.nil_append, Nat.add_sub_cancel_left]
    exact slot_flatten bs hi'

/-- Slot `i` of strings laid out from their bytes runs over exactly its own bytes. -/
theorem slice_offsetsOf {bytes : List (List UInt8)} {i : Nat} (hi : i < bytes.length) :
    let off := Buffer.ofList (offsetsOf (bytes.map List.length))
    ((Buffer.ofList bytes.flatten).items.drop (off.get i)).take (off.get (i + 1) - off.get i) =
      bytes[i] := by
  intro off
  -- slot `i` runs from the sum of the lengths before it, for its own length
  have hstart : off.get i = ((bytes.map List.length).take i).sum :=
    getD_offsetsOf (by simp only [List.length_map]; omega)
  have hend : off.get (i + 1) - off.get i = bytes[i].length := by
    rw [hstart]
    show (offsetsOf (bytes.map List.length)).getD (i + 1) 0 - _ = _
    rw [getD_offsetsOf (by simp only [List.length_map]; omega),
      List.sum_take_succ _ _ (by simp only [List.length_map]; omega), List.getElem_map,
      Nat.add_sub_cancel_left]
  rw [hend, hstart]
  exact slot_flatten bytes hi

/-! ## Validity bitmaps of values -/

theorem covers_validityOf {α : Type} (xs : List (Option α)) :
    Bitmap.Covers (some (validityOf xs)) xs.length := by
  have h := Bitmap.covers_ofBools (xs.map Option.isSome)
  rwa [List.length_map] at h

theorem covers_validityIfMissing {α : Type} (xs : List (Option α)) :
    Bitmap.Covers (validityIfMissing xs) xs.length := by
  unfold validityIfMissing
  split
  · exact covers_validityOf xs
  · exact Bitmap.covers_none _

/-- Under the bitmap of optional values, a slot is null exactly when its value is missing. -/
theorem isNullAt_validityIfMissing {α : Type} {xs : List (Option α)} {j : Nat}
    (hj : j < xs.length) : Bitmap.isNullAt (validityIfMissing xs) j = xs[j].isNone := by
  unfold validityIfMissing
  split
  · simp [Bitmap.isNullAt, validityOf, Bitmap.get_ofBools, List.getD_eq_getElem?_getD, hj]
  · -- no bitmap: every value is present
    rename_i hnone
    simp only [List.any_eq_true, not_exists, not_and, Bool.not_eq_true] at hnone
    rw [hnone _ (List.getElem_mem hj)]
    rfl

/-- A slot that the bitmap of optional values leaves present holds a value. -/
theorem isSome_of_validityIfMissing {α : Type} {xs : List (Option α)} {j : Nat}
    (hj : j < xs.length) (hnull : Bitmap.isNullAt (validityIfMissing xs) j = false) :
    xs[j].isSome := by
  rw [isNullAt_validityIfMissing hj] at hnull
  simpa using hnull

/-! ## Distinct strings -/

theorem Utf8.encode_eq_nil {s : String} (h : Utf8.encode s = []) : s = "" := by
  have hdec := Utf8.decode?_encode s
  rw [h] at hdec
  -- the empty bytes decode to the empty string
  have hnil : Utf8.decode? [] = some "" := rfl
  exact (Option.some.inj (hnil.symm.trans hdec)).symm

/-- Non-empty strings have at least a byte each. -/
theorem length_le_bytes_of_nonempty : ∀ {L : List String}, (∀ t ∈ L, t ≠ "") →
    L.length ≤ (L.map fun s => (Utf8.encode s).length).sum
  | [], _ => Nat.zero_le _
  | s :: L, h => by
    have hs : 0 < (Utf8.encode s).length :=
      List.length_pos_iff.2 fun he => h s (List.mem_cons_self ..) (Utf8.encode_eq_nil he)
    have ih := length_le_bytes_of_nonempty fun t ht => h t (List.mem_cons_of_mem _ ht)
    simp only [List.length_cons, List.map_cons, List.sum_cons]
    omega

/-- Distinct strings are at most one more than their bytes: only one of them is empty. -/
theorem length_le_bytes : ∀ {L : List String}, L.Nodup →
    L.length ≤ (L.map fun s => (Utf8.encode s).length).sum + 1
  | [], _ => Nat.zero_le _
  | s :: L, h => by
    obtain ⟨hnotin, hnodup⟩ := List.nodup_cons.1 h
    simp only [List.length_cons, List.map_cons, List.sum_cons]
    by_cases hs : s = ""
    · -- the empty string is the head, so every other string has a byte
      have hrest := length_le_bytes_of_nonempty fun t ht hte => hnotin (hs ▸ hte ▸ ht)
      omega
    · have hpos : 0 < (Utf8.encode s).length :=
        List.length_pos_iff.2 fun he => hs (Utf8.encode_eq_nil he)
      have ih := length_le_bytes hnodup
      omega

namespace Column

theorem nodup_firstSeen : ∀ {seen : List String} (values : List (Option String)),
    seen.Nodup → (firstSeen seen values).Nodup
  | _, [], h => h
  | _, none :: rest, h => nodup_firstSeen rest h
  | seen, some s :: rest, h => by
    rw [firstSeen]
    apply nodup_firstSeen rest
    split
    · exact h
    · rename_i hs
      rw [← List.concat_eq_append]
      exact h.concat (by simpa using hs)

theorem mem_firstSeen_of_mem : ∀ {seen : List String} (values : List (Option String))
    {s : String}, s ∈ seen → s ∈ firstSeen seen values
  | _, [], _, h => h
  | _, none :: rest, _, h => mem_firstSeen_of_mem rest h
  | seen, some t :: rest, _, h => by
    rw [firstSeen]
    apply mem_firstSeen_of_mem rest
    split
    · exact h
    · exact List.mem_append_left _ h

/-- Every present string is among the distinct strings. -/
theorem mem_firstSeen : ∀ {seen : List String} {values : List (Option String)} {s : String},
    some s ∈ values → s ∈ firstSeen seen values
  | _, [], _, h => absurd h List.not_mem_nil
  | _, none :: rest, _, h => by
    rw [firstSeen]
    rcases List.mem_cons.1 h with h | h
    · cases h
    · exact mem_firstSeen h
  | seen, some t :: rest, s, h => by
    rw [firstSeen]
    rcases List.mem_cons.1 h with heq | hrest
    · cases heq
      apply mem_firstSeen_of_mem
      split
      · rename_i hc
        simpa using hc
      · exact List.mem_append_right _ (List.mem_singleton_self _)
    · exact mem_firstSeen hrest

/-! ## Constructors from values -/

theorem valid_fixedOf_numeric (k : NumericKind) (words : List (Option Nat)) (masked : Bool) :
    (fixedOf (.numeric k) words masked).Valid := by
  refine .numeric _ _ _ ?_
  have hsize : (Buffer.ofList (words.map (·.getD 0))).size = words.length := List.length_map ..
  rw [hsize]
  split
  · exact covers_validityOf words
  · exact Bitmap.covers_none _

theorem valid_fixedOf_temporal (kind : TemporalKind) (u : TimeUnit) (z : Option String)
    (words : List (Option Nat)) (masked : Bool) :
    (fixedOf (.temporal kind u z) words masked).Valid := by
  refine .temporal _ _ _ _ _ ?_
  have hsize : (Buffer.ofList (words.map (·.getD 0))).size = words.length := List.length_map ..
  rw [hsize]
  split
  · exact covers_validityOf words
  · exact Bitmap.covers_none _

theorem valid_booleansOf (values : List (Option Bool)) (masked : Bool) :
    (booleansOf values masked).Valid := by
  refine .boolean _ _ (Bitmap.stored_ofBools _) ?_
  have hlen : (Bitmap.ofBools (values.map (·.getD false))).len = values.length :=
    List.length_map ..
  rw [hlen]
  split
  · exact covers_validityOf values
  · exact Bitmap.covers_none _

/-- Every interval value, present or not, takes the unit's words. -/
theorem size_intervalsOf {u : IntervalUnit} {values : List (Option (List Nat))}
    (hwords : ∀ v ∈ values, ∀ ws ∈ v, ws.length = u.words) :
    (Buffer.ofList (values.flatMap fun v =>
      v.getD (List.replicate u.words 0))).size = values.length * u.words := by
  have hconst : values.map (fun v => (v.getD (List.replicate u.words 0)).length) =
      values.map fun _ => u.words := List.map_congr_left fun v hv => by
    cases v with
    | none => simp
    | some ws => exact hwords _ hv ws rfl
  simp only [Buffer.size, Buffer.ofList, List.length_flatMap, hconst, List.map_const',
    List.sum_replicate_nat]

/-- Intervals given as whole values, each of the unit's words, are valid. -/
theorem valid_intervalsOf {u : IntervalUnit} {values : List (Option (List Nat))}
    (hwords : ∀ v ∈ values, ∀ ws ∈ v, ws.length = u.words) : (intervalsOf u values).Valid := by
  have hw := IntervalUnit.words_pos u
  have hsize := size_intervalsOf hwords
  refine .interval _ _ _ (by rw [hsize, Nat.mul_mod_left]) ?_
  rw [hsize, Nat.mul_div_cancel _ hw]
  exact covers_validityIfMissing values

/-- Strings laid out from their bytes are valid when every present slot's bytes are UTF-8:
the offsets are the running sums of the byte lengths, and the data is the bytes in order. -/
theorem valid_text_of_bytes (large : Bool) {bytes : List (List UInt8)} {v : Option Bitmap}
    (hv : Bitmap.Covers v bytes.length)
    (htext : ∀ i (hi : i < bytes.length), Bitmap.isNullAt v i = false →
      (Utf8.decode? bytes[i]).isSome) :
    (Column.text large (Buffer.ofList (offsetsOf (bytes.map List.length)))
      (Buffer.ofList bytes.flatten) v).Valid := by
  have hsize : (Buffer.ofList (offsetsOf (bytes.map List.length))).size - 1 = bytes.length := by
    simp only [Buffer.size, Buffer.ofList, length_offsetsOf, List.length_map, Nat.add_sub_cancel]
  have hdata : (Buffer.ofList bytes.flatten).size = (bytes.map List.length).sum :=
    List.length_flatten
  refine .text _ _ _ _ (hdata ▸ offsets_offsetsOf _) (fun i hi hnull => ?_) (hsize ▸ hv)
  rw [hsize] at hi
  rw [slice_offsetsOf hi]
  exact htext i hi hnull

/-- Strings built from values are valid: each present slot holds the bytes of its value. -/
theorem valid_stringsOf {large : Bool} {values : List (Option String)} {c : Column}
    (h : stringsOf large values = .ok c) : c.Valid := by
  unfold stringsOf at h
  dsimp only at h
  split at h
  · cases h
  cases h
  have hlen : (values.map fun v => (v.map Utf8.encode).getD []).length = values.length :=
    List.length_map ..
  refine valid_text_of_bytes large (hlen ▸ covers_validityIfMissing values) fun i hi hnull => ?_
  obtain ⟨s, hs⟩ := Option.isSome_iff_exists.1
    (isSome_of_validityIfMissing (hlen ▸ hi) hnull)
  simp only [List.getElem_map, hs, Option.map_some, Option.getD_some, Utf8.decode?_encode,
    Option.isSome_some]

theorem valid_stringsOfPresent (large : Bool) (values : List String) :
    (stringsOfPresent large values).Valid := by
  have hlen : (values.map Utf8.encode).length = values.length := List.length_map ..
  refine valid_text_of_bytes large (Bitmap.covers_none _) fun i hi _ => ?_
  simp only [List.getElem_map, Utf8.decode?_encode, Option.isSome_some]

/-! ## Constructors from parts -/

/-- A numeric column `new` takes, over a bitmap that holds its bits, is valid. -/
theorem valid_new_numeric {k : NumericKind} {d : Buffer Nat} {v : Option Bitmap} {c : Column}
    (hv : ∀ m ∈ v, m.Stored) (h : (Column.numeric k d v).new = .ok c) : c.Valid := by
  obtain ⟨rfl, hlen⟩ := new_ok h
  exact .numeric k d v fun m hm => ⟨hv m hm, hlen m hm⟩

theorem valid_new_temporal {kind : TemporalKind} {u : TimeUnit} {z : Option String}
    {d : Buffer Nat} {v : Option Bitmap} {c : Column} (hv : ∀ m ∈ v, m.Stored)
    (h : (Column.temporal kind u z d v).new = .ok c) : c.Valid := by
  obtain ⟨rfl, hlen⟩ := new_ok h
  exact .temporal kind u z d v fun m hm => ⟨hv m hm, hlen m hm⟩

theorem valid_new_boolean {d : Bitmap} {v : Option Bitmap} {c : Column} (hd : d.Stored)
    (hv : ∀ m ∈ v, m.Stored) (h : (Column.boolean d v).new = .ok c) : c.Valid := by
  obtain ⟨rfl, hlen⟩ := new_ok h
  exact .boolean d v hd fun m hm => ⟨hv m hm, hlen m hm⟩

theorem valid_stringsOfParts {large : Bool} {off : Buffer Nat} {data : Buffer UInt8}
    {v : Option Bitmap} {c : Column} (hv : ∀ m ∈ v, m.Stored)
    (h : stringsOfParts large off data v = .ok c) : c.Valid := by
  obtain ⟨off', rfl, -, hoff, hlen, htext⟩ := stringsOfParts_ok h
  exact .text _ _ _ _ hoff htext fun m hm => ⟨hv m hm, hlen m hm⟩

theorem valid_intervalsOfWords {u : IntervalUnit} {words : Buffer Nat} {v : Option Bitmap}
    {c : Column} (hv : ∀ m ∈ v, m.Stored) (h : intervalsOfWords u words v = .ok c) :
    c.Valid := by
  obtain ⟨rfl, hdiv, hlen⟩ := intervalsOfWords_ok h
  exact .interval _ _ _ hdiv fun m hm => ⟨hv m hm, hlen m hm⟩

/-- Keys that pass the dictionary's check index its values. -/
theorem valid_dictionaryOf {keys values : Column} {ordered : Bool} {c : Column}
    (hkeys : keys.Valid) (hvalues : values.Valid)
    (h : dictionaryOf keys values ordered = .ok c) : c.Valid := by
  obtain ⟨i, k, kv, rfl, rfl, hrange⟩ := dictionaryOf_ok h
  cases hkeys with
  | numeric _ _ _ hkv => exact .dictionary _ _ _ _ _ hkv hrange hvalues

/-- Children that pass the struct's check have the fields' types and the struct's length. -/
theorem types_of_checked {fs : List Field} {cs : List Column} {len : Nat}
    (h : List.Forall₂ (fun f c => c.len = len ∧ c.type = f.type) fs cs) :
    cs.map type = fs.map Field.type ∧ ∀ c ∈ cs, c.len = len := by
  induction h with
  | nil => exact ⟨rfl, nofun⟩
  | cons hfc _ ih =>
    refine ⟨by rw [List.map_cons, List.map_cons, hfc.2, ih.1], fun c hc => ?_⟩
    rcases List.mem_cons.1 hc with rfl | hc
    · exact hfc.1
    · exact ih.2 c hc

theorem valid_structOfLen {fs : List Field} {cs : List Column} {v : Option Bitmap} {len : Nat}
    {c : Column} (hcs : ∀ c ∈ cs, c.Valid) (hv : ∀ m ∈ v, m.Stored)
    (h : structOfLen fs cs v len = .ok c) : c.Valid := by
  obtain ⟨rfl, hchecked, hlen⟩ := structOfLen_ok h
  obtain ⟨htypes, hclen⟩ := types_of_checked hchecked
  exact .struct _ _ _ _ htypes hclen (fun m hm => ⟨hv m hm, hlen m hm⟩) hcs

theorem valid_structOf {fs : List Field} {cs : List Column} {v : Option Bitmap} {c : Column}
    (hcs : ∀ c ∈ cs, c.Valid) (hv : ∀ m ∈ v, m.Stored) (h : structOf fs cs v = .ok c) :
    c.Valid :=
  valid_structOfLen hcs hv h

theorem valid_listOf {large : Bool} {item : Field} {off : Buffer Nat} {values : Column}
    {v : Option Bitmap} {c : Column} (hvalues : values.Valid) (hv : ∀ m ∈ v, m.Stored)
    (h : listOf large item off values v = .ok c) : c.Valid := by
  obtain ⟨off', rfl, -, htype, hoff, hlen⟩ := listOf_ok h
  exact .list _ _ _ _ _ htype hoff (fun m hm => ⟨hv m hm, hlen m hm⟩) hvalues

theorem valid_listOfLengths {large : Bool} {item : Field} {values : Column}
    {lengths : List (Option Nat)} {c : Column} (hvalues : values.Valid)
    (h : listOfLengths large item values lengths = .ok c) : c.Valid := by
  unfold listOfLengths at h
  dsimp only at h
  split at h
  · obtain ⟨_, hthrow, -⟩ := Except.bind_eq_ok.1 h
    cases hthrow
  -- the lengths' bitmap is built from them, so it holds its bits
  exact valid_listOf hvalues (fun m hm => (covers_validityIfMissing lengths m hm).1)
    (Outcome.eq_ok_of_ofResult h)

/-! ## Dictionaries of strings -/

/-- The keys' bitmap has a bit per key, and a key it leaves present is the index of the value
in its slot. -/
theorem key_of_present {values : List (Option String)} {uniques : List String} {j : Nat}
    (hj : j < (values.map fun v => v.map fun s => uniques.idxOf s).length)
    (hnull : Bitmap.isNullAt (validityIfMissing
      (values.map fun v => v.map fun s => uniques.idxOf s)) j = false) :
    ∃ s, some s ∈ values ∧
      (Buffer.ofList ((values.map fun v => v.map fun s => uniques.idxOf s).map (·.getD 0))).get j =
        uniques.idxOf s := by
  have hjv : j < values.length := by rwa [List.length_map] at hj
  have hsome := isSome_of_validityIfMissing hj hnull
  rw [List.getElem_map] at hsome
  obtain ⟨s, hs⟩ := Option.isSome_iff_exists.1 (Option.isSome_map.symm.trans hsome)
  refine ⟨s, hs ▸ List.getElem_mem hjv, ?_⟩
  simp only [Buffer.get, Buffer.ofList, List.getD_eq_getElem?_getD, List.getElem?_map,
    List.getElem?_eq_getElem hjv, hs, Option.map_some, Option.getD_some]

/-- A dictionary of strings is valid: its keys index the distinct strings, and there are at
most `2^31` of those, so each key reads as itself as an `int32`. -/
theorem valid_dictionaryOfStrings {values : List (Option String)} {c : Column}
    (h : dictionaryOfStrings values = .ok c) : c.Valid := by
  unfold dictionaryOfStrings at h
  dsimp only at h
  rw [← List.sum_eq_foldr] at h
  split at h
  · cases h
  rename_i hfit
  cases h
  generalize huniq : firstSeen [] values = uniques at hfit ⊢
  -- distinct strings number at most one more than their bytes, which fit 32-bit offsets
  have hcount : uniques.length ≤ 2 ^ 31 := by
    have hbytes : uniques.length ≤ (uniques.map fun s => (Utf8.encode s).length).sum + 1 :=
      length_le_bytes (huniq ▸ nodup_firstSeen values List.nodup_nil)
    simp only [maxOffset, Nat.pow_eq, Bool.false_eq_true, if_false] at hfit
    omega
  have hvals : (stringsOfPresent false uniques).len = uniques.length := by
    simp only [stringsOfPresent, len, Buffer.size, Buffer.ofList, length_offsetsOf,
      List.length_map, Nat.add_sub_cancel]
  refine .dictionary _ _ _ _ _ ?_ (fun j hj hnull => ?_) (valid_stringsOfPresent false uniques)
  · have hsize : (Buffer.ofList ((values.map fun v => v.map fun s => uniques.idxOf s).map
        (·.getD 0))).size = (values.map fun v => v.map fun s => uniques.idxOf s).length :=
      List.length_map ..
    rw [hsize]
    exact covers_validityIfMissing _
  · have hj' : j < (values.map fun v => v.map fun s => uniques.idxOf s).length := by
      simpa only [Buffer.size, Buffer.ofList, List.length_map] using hj
    obtain ⟨s, hs, hget⟩ := key_of_present hj' hnull
    have hidx : uniques.idxOf s < uniques.length :=
      List.idxOf_lt_length_of_mem (huniq ▸ mem_firstSeen hs)
    have hsigned : NumericKind.int32.integer (uniques.idxOf s) = uniques.idxOf s := by
      show LittleEndian.toInt 4 _ = _
      exact LittleEndian.toInt_of_lt (by omega)
    rw [hget, hvals]
    show 0 ≤ NumericKind.int32.integer _ ∧ NumericKind.int32.integer _ < _
    rw [hsigned]
    omega

end Column

end Columnar
