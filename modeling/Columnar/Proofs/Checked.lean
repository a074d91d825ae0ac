import Columnar.Proofs.Build

/-!
# What a checked constructor's success says

Columns assembled from parts are checked before they are taken. A constructor that succeeds
returns the parts as they are, with offsets `[0]` in place of none, and every check it ran
holds of them:

> `stringsOfParts large off data v = .ok c → c = .text large off' data v`, with `off'`
> offsets into the data that frame UTF-8 at every present slot and a bitmap of a bit per slot,

and likewise for `new`, `intervalsOfWords`, `dictionaryOf`, `structOfLen` and `listOf`. These are the
converses of `Columnar.Proofs.Build`: import and the builders reach their columns through
these constructors, so what a successful one establishes is what the library knows of every
column it holds.

Put together with `Columnar.Proofs.Build`, each check is exactly the condition of success: a
constructor accepts its parts if and only if they pass (`checked_constructors_accept_exactly`).
Offsets `[0]` stand in for none before anything is checked, so an empty offsets buffer is one
empty slot range, never a refusal.
-/

namespace Columnar

/-- The numeric kind of an index type's keys is the only one that names it. -/
theorem NumericKind.eq_kind_of_index? {k : NumericKind} {i : IndexType} (h : k.index? = some i) :
    k = i.kind := by
  cases k <;> cases i <;> first | rfl | cases h

namespace Column

/-! ## Offsets -/

/-- Offsets with no first decrease never decrease from one to the next. -/
theorem isChain_of_firstDecrease : ∀ {i : Nat} {l : List Nat},
    firstDecrease i l = none → l.IsChain (· ≤ ·)
  | _, [], _ => List.IsChain.nil
  | _, [_], _ => List.isChain_singleton _
  | i, a :: b :: rest, h => by
    by_cases hba : b < a
    · rw [firstDecrease, if_pos hba] at h
      cases h
    · rw [firstDecrease, if_neg hba] at h
      exact List.isChain_cons_cons.2 ⟨Nat.le_of_not_lt hba, isChain_of_firstDecrease h⟩

/-- What passing the string checks from slot `i` on says of the offsets `l`: they never
decrease, every one after the first lies inside the data, and every present slot frames
UTF-8. -/
theorem checkStrings_ok {offsets : List Nat} {data : List UInt8} {v : Option Bitmap} :
    ∀ {i : Nat} {l : List Nat}, checkStrings offsets data v i l = .ok () →
      l.IsChain (· ≤ ·) ∧ (∀ x ∈ l.tail, x ≤ data.length) ∧
        ∀ k, k + 1 < l.length → Bitmap.isNullAt v (i + k) = false →
          (Utf8.decode? ((data.drop (l.getD k 0)).take (l.getD (k + 1) 0 - l.getD k 0))).isSome
  | _, [], _ => ⟨List.IsChain.nil, nofun, fun _ hk => absurd hk (by simp)⟩
  | _, [_], _ => ⟨List.isChain_singleton _, nofun, fun _ hk => absurd hk (by simp)⟩
  | i, s :: e :: rest, h => by
    -- each check of the first slot that failed would have refused
    have hes : ¬ e < s := fun hlt => by
      rw [checkStrings, if_pos hlt] at h
      cases h
    have he : ¬ data.length < e := fun hlt => by
      rw [checkStrings, if_neg hes, if_pos hlt] at h
      cases h
    by_cases hbad : (!Bitmap.isNullAt v i &&
        (Utf8.decode? ((data.drop s).take (e - s))).isNone) = true
    · rw [checkStrings, if_neg hes, if_neg he, if_pos hbad] at h
      cases h
    rw [checkStrings, if_neg hes, if_neg he, if_neg hbad] at h
    obtain ⟨hchain, hbound, htext⟩ := checkStrings_ok h
    refine ⟨List.isChain_cons_cons.2 ⟨Nat.le_of_not_lt hes, hchain⟩, ?_, ?_⟩
    · intro x hx
      rcases List.mem_cons.1 hx with rfl | hrest
      · exact Nat.le_of_not_lt he
      · exact hbound x hrest
    · intro k hk hnull
      cases k with
      | zero =>
        simp only [Nat.add_zero] at hnull
        simp only [hnull, Bool.not_false, Bool.true_and, Bool.not_eq_true,
          Option.isNone_eq_false_iff] at hbad
        simpa only [List.getD_cons_zero, List.getD_cons_succ] using hbad
      | succ k =>
        have hnext := htext k (by simp only [List.length_cons] at hk ⊢; omega)
          (by rw [← hnull]; congr 1; omega)
        simpa only [List.getD_cons_succ] using hnext

/-! ## The constructors -/

/-- A checked string column is its parts, with offsets `[0]` in place of none: offsets into
the data that frame UTF-8 at every present slot, and a bitmap of a bit per slot. -/
theorem stringsOfParts_ok {large : Bool} {off : Buffer Nat} {data : Buffer UInt8}
    {v : Option Bitmap} {c : Column} (h : stringsOfParts large off data v = .ok c) :
    ∃ off', c = .text large off' data v ∧
      off' = (if off.items.isEmpty then Buffer.ofList [0] else off) ∧
      off'.Offsets data.size ∧ (∀ m ∈ v, m.len = off'.size - 1) ∧
      ∀ i < off'.size - 1, Bitmap.isNullAt v i = false →
        (Utf8.decode? ((data.items.drop (off'.get i)).take (off'.get (i + 1) - off'.get i))).isSome := by
  unfold stringsOfParts at h
  generalize hoff' : (if off.items.isEmpty = true then Buffer.ofList [0] else off) = off' at h
  have hne : off'.items ≠ [] := by
    rw [← hoff']
    by_cases hempty : off.items.isEmpty = true
    · simp [hempty, Buffer.ofList]
    · rw [if_neg hempty]
      simpa using hempty
  -- the bitmap check, then the offset and text checks, then the lone first offset
  have hmask : ∀ m ∈ v, m.len = off'.size - 1 := by
    intro m hm
    cases hm
    dsimp only at h
    by_contra hlen
    rw [if_pos hlen] at h
    cases h
  have hrest : (do
      checkStrings off'.items data.items v 0 off'.items
      if off'.size - 1 = 0 ∧ data.size < off'.get 0 then
        throw (Error.malformed "string offset exceeds data length")
      pure (Column.text large off' data v) : Except Error Column) = .ok c := by
    cases v with
    | none => exact h
    | some m =>
      dsimp only at h
      rwa [if_neg (by simpa using hmask m rfl)] at h
  obtain ⟨u, hcheck, hrest⟩ := Except.bind_eq_ok.1 hrest
  cases u
  by_cases hlone : off'.size - 1 = 0 ∧ data.size < off'.get 0
  · rw [if_pos hlone] at hrest
    cases hrest
  rw [if_neg hlone] at hrest
  cases Except.pure_eq_ok.1 hrest
  obtain ⟨hchain, hbound, htext⟩ := checkStrings_ok hcheck
  have hsorted : off'.items.Pairwise (· ≤ ·) := List.isChain_iff_pairwise.1 hchain
  -- the first offset lies inside the data: below the second, or checked alone
  have hall : ∀ x ∈ off'.items, x ≤ data.size := by
    obtain ⟨a, tail, htail⟩ := List.exists_cons_of_ne_nil hne
    intro x hx
    rw [htail] at hx hsorted hbound
    rcases List.mem_cons.1 hx with rfl | hx
    · cases tail with
      | nil =>
        have hsize : off'.size - 1 = 0 := by simp [Buffer.size, htail]
        have hfirst : off'.get 0 = x := by simp [Buffer.get, htail]
        rw [hfirst] at hlone
        exact Nat.le_of_not_lt fun hlt => hlone ⟨hsize, hlt⟩
      | cons b tail =>
        exact Nat.le_trans (List.rel_of_pairwise_cons hsorted (List.mem_cons_self ..))
          (hbound b (List.mem_cons_self ..))
    · exact hbound x hx
  refine ⟨off', rfl, rfl, ⟨hne, hsorted, hall⟩, hmask, fun i hi hnull => ?_⟩
  exact htext i (by simp only [Buffer.size] at hi; omega) (by rwa [Nat.zero_add])

/-- A checked interval column is its words, which divide into values, with a bit per value. -/
theorem intervalsOfWords_ok {u : IntervalUnit} {words : Buffer Nat} {v : Option Bitmap}
    {c : Column} (h : intervalsOfWords u words v = .ok c) :
    c = .interval u words v ∧ words.size % u.words = 0 ∧
      ∀ m ∈ v, m.len = words.size / u.words := by
  unfold intervalsOfWords at h
  by_cases hdiv : words.size % u.words ≠ 0
  · rw [if_pos hdiv] at h
    cases h
  rw [if_neg hdiv] at h
  cases v with
  | none =>
    cases h
    exact ⟨rfl, Decidable.of_not_not hdiv, nofun⟩
  | some m =>
    dsimp only at h
    by_cases hlen : m.len ≠ words.size / u.words
    · rw [if_pos hlen] at h
      cases h
    rw [if_neg hlen] at h
    cases h
    exact ⟨rfl, Decidable.of_not_not hdiv, fun m' hm' => by cases hm'; exact Decidable.of_not_not hlen⟩

/-- A column `new` takes is the column it was given, its bitmap, if any, with a bit per slot. -/
theorem new_ok {c c' : Column} (h : c.new = .ok c') :
    c' = c ∧ ∀ m ∈ c.validity, m.len = c.len := by
  unfold Column.new at h
  split at h
  · rename_i m hv
    split at h
    · rename_i hlen
      cases h
      exact ⟨rfl, fun m' hm' => by rw [hv] at hm'; cases hm'; exact hlen⟩
    · cases h
  · rename_i hv
    cases h
    exact ⟨rfl, fun m' hm' => by rw [hv] at hm'; cases hm'⟩

/-- With no key outside, every present key from slot `i` on names one of `count` values. -/
theorem keyOutside_none {kind : NumericKind} {count : Nat} {v : Option Bitmap} :
    ∀ {i : Nat} {ws : List Nat}, keyOutside kind count v i ws = none →
      ∀ k < ws.length, Bitmap.isNullAt v (i + k) = false →
        0 ≤ kind.integer (ws.getD k 0) ∧ kind.integer (ws.getD k 0) < count
  | _, [], _ => fun _ hk => absurd hk (Nat.not_lt_zero _)
  | i, w :: rest, h => by
    by_cases hbad : (!Bitmap.isNullAt v i &&
        decide (kind.integer w < 0 ∨ (count : Int) ≤ kind.integer w)) = true
    · rw [keyOutside, if_pos hbad] at h
      cases h
    rw [keyOutside, if_neg hbad] at h
    intro k hk hnull
    cases k with
    | zero =>
      simp only [Nat.add_zero] at hnull
      simp only [hnull, Bool.not_false, Bool.true_and, decide_eq_true_eq, not_or,
        Int.not_lt, Int.not_le] at hbad
      simpa only [List.getD_cons_zero] using hbad
    | succ k =>
      have hnext := keyOutside_none h k (by simp only [List.length_cons] at hk; omega)
        (by rw [← hnull]; congr 1; omega)
      simpa only [List.getD_cons_succ] using hnext

/-- A checked dictionary takes integer keys as they are, and every present key names a
value. -/
theorem dictionaryOf_ok {keys values : Column} {ordered : Bool} {c : Column}
    (h : dictionaryOf keys values ordered = .ok c) :
    ∃ i k kv, keys = .numeric i.kind k kv ∧ c = .dictionary i k kv values ordered ∧
      ∀ j < k.size, Bitmap.isNullAt kv j = false →
        0 ≤ i.kind.integer (k.get j) ∧ i.kind.integer (k.get j) < values.len := by
  unfold dictionaryOf at h
  split at h
  · rename_i kind data validity
    split at h
    · rename_i index hindex
      split at h
      · cases h
      · rename_i hnone
        cases h
        cases NumericKind.eq_kind_of_index? hindex
        exact ⟨index, data, validity, rfl, rfl, fun j hj hnull =>
          keyOutside_none hnone j hj (by rwa [Nat.zero_add])⟩
    · cases h
  · cases h

/-- Children that pass the child checks, as many as the fields, have the struct's length and
their fields' types. -/
theorem checkChildren_ok {len : Nat} : ∀ {fs : List Field} {cs : List Column},
    fs.length = cs.length → checkChildren len fs cs = .ok () →
      List.Forall₂ (fun f c => c.len = len ∧ c.type = f.type) fs cs
  | [], [], _, _ => .nil
  | f :: fs, c :: cs, hlen, h => by
    by_cases hclen : c.len ≠ len
    · rw [checkChildren, if_pos hclen] at h
      cases h
    by_cases htype : (!(c.type == f.type)) = true
    · rw [checkChildren, if_neg hclen, if_pos htype] at h
      cases h
    rw [checkChildren, if_neg hclen, if_neg htype] at h
    have hbeq : (c.type == f.type) = true := by simpa using htype
    exact .cons ⟨Decidable.of_not_not hclen, DataType.eq_of_beq hbeq⟩
      (checkChildren_ok (by simpa using hlen) h)

/-- A checked struct takes its children as they are: one per field, each of the struct's
length and of its field's type, with a bit per row. -/
theorem structOfLen_ok {fs : List Field} {cs : List Column} {v : Option Bitmap} {len : Nat}
    {c : Column} (h : structOfLen fs cs v len = .ok c) :
    c = .struct fs cs v len ∧ List.Forall₂ (fun f c => c.len = len ∧ c.type = f.type) fs cs ∧
      ∀ m ∈ v, m.len = len := by
  unfold structOfLen at h
  by_cases hlen : fs.length ≠ cs.length
  · rw [if_pos hlen] at h
    cases h
  rw [if_neg hlen] at h
  obtain ⟨u, hcheck, h⟩ := Except.bind_eq_ok.1 h
  cases u
  have hcs := checkChildren_ok (Decidable.of_not_not hlen) hcheck
  cases v with
  | none =>
    cases h
    exact ⟨rfl, hcs, nofun⟩
  | some m =>
    dsimp only at h
    by_cases hmlen : m.len ≠ len
    · rw [if_pos hmlen] at h
      cases h
    rw [if_neg hmlen] at h
    cases h
    exact ⟨rfl, hcs, fun m' hm' => by cases hm'; exact Decidable.of_not_not hmlen⟩

/-- A checked list takes its parts as they are, with offsets `[0]` in place of none: a child of
the item type, offsets into it, and a bit per list. -/
theorem listOf_ok {large : Bool} {item : Field} {off : Buffer Nat} {values : Column}
    {v : Option Bitmap} {c : Column} (h : listOf large item off values v = .ok c) :
    ∃ off', c = .list large item off' values v ∧
      off' = (if off.items.isEmpty then Buffer.ofList [0] else off) ∧
      values.type = item.type ∧ off'.Offsets values.len ∧ ∀ m ∈ v, m.len = off'.size - 1 := by
  unfold listOf at h
  by_cases htype : (!(values.type == item.type)) = true
  · rw [if_pos htype] at h
    cases h
  rw [if_neg htype] at h
  dsimp only at h
  generalize hoff' : (if off.items.isEmpty = true then Buffer.ofList [0] else off) = off' at h
  have hne : off'.items ≠ [] := by
    rw [← hoff']
    by_cases hempty : off.items.isEmpty = true
    · simp [hempty, Buffer.ofList]
    · rw [if_neg hempty]
      simpa using hempty
  -- the offsets never decrease, end inside the child, and the bitmap has a bit per list
  cases hdec : firstDecrease 0 off'.items with
  | some d =>
    rw [hdec] at h
    cases h
  | none =>
    rw [hdec] at h
    dsimp only at h
    by_cases hlast : values.len < off'.items.getLastD 0
    · rw [if_pos hlast] at h
      cases h
    rw [if_neg hlast] at h
    have hsorted : off'.items.Pairwise (· ≤ ·) :=
      List.isChain_iff_pairwise.1 (isChain_of_firstDecrease hdec)
    have hbound : ∀ x ∈ off'.items, x ≤ values.len := fun x hx =>
      Nat.le_trans (Buffer.le_getLastD hsorted x hx) (Nat.le_of_not_lt hlast)
    have hbeq : (values.type == item.type) = true := by simpa using htype
    cases v with
    | none =>
      cases h
      exact ⟨off', rfl, rfl, DataType.eq_of_beq hbeq, ⟨hne, hsorted, hbound⟩, nofun⟩
    | some m =>
      dsimp only at h
      by_cases hmlen : m.len ≠ off'.size - 1
      · rw [if_pos hmlen] at h
        cases h
      rw [if_neg hmlen] at h
      cases h
      exact ⟨off', rfl, rfl, DataType.eq_of_beq hbeq, ⟨hne, hsorted, hbound⟩,
        fun m' hm' => by cases hm'; exact Decidable.of_not_not hmlen⟩

/-! ## Exactly the parts that pass -/

/-- Offsets `[0]` in place of none: the string constructor sees the same offsets either way. -/
theorem stringsOfParts_offsets (large : Bool) (off : Buffer Nat) (data : Buffer UInt8)
    (v : Option Bitmap) :
    stringsOfParts large off data v =
      stringsOfParts large (if off.items.isEmpty then Buffer.ofList [0] else off) data v := by
  by_cases hempty : off.items.isEmpty = true
  · simp [stringsOfParts, hempty, Buffer.ofList]
  · simp [stringsOfParts, hempty]

theorem listOf_offsets (large : Bool) (item : Field) (off : Buffer Nat) (values : Column)
    (v : Option Bitmap) :
    listOf large item off values v =
      listOf large item (if off.items.isEmpty then Buffer.ofList [0] else off) values v := by
  by_cases hempty : off.items.isEmpty = true
  · simp [listOf, hempty, Buffer.ofList]
  · simp [listOf, hempty]

/-- Offsets with `[0]` in place of none are never empty. -/
theorem offsets_ne_nil (off : Buffer Nat) :
    (if off.items.isEmpty then Buffer.ofList [0] else off).items ≠ [] := by
  by_cases hempty : off.items.isEmpty = true
  · simp [hempty, Buffer.ofList]
  · rw [if_neg hempty]
    simpa using hempty

/-- A string column is assembled exactly from offsets that never decrease and stay inside the
data, a bitmap of a bit per slot, and UTF-8 at every present slot. -/
theorem stringsOfParts_accepts_iff {large : Bool} {off : Buffer Nat} {data : Buffer UInt8}
    {v : Option Bitmap} :
    let off' := if off.items.isEmpty then Buffer.ofList [0] else off
    (∃ c, stringsOfParts large off data v = .ok c) ↔
      off'.items.Pairwise (· ≤ ·) ∧ (∀ x ∈ off'.items, x ≤ data.size) ∧
        (∀ m ∈ v, m.len = off'.size - 1) ∧
        ∀ i < off'.size - 1, Bitmap.isNullAt v i = false →
          (Utf8.decode? ((data.items.drop (off'.get i)).take
            (off'.get (i + 1) - off'.get i))).isSome := by
  intro off'
  constructor
  · rintro ⟨c, h⟩
    obtain ⟨_, -, rfl, ⟨-, hsorted, hbound⟩, hmask, htext⟩ := stringsOfParts_ok h
    exact ⟨hsorted, hbound, hmask, htext⟩
  · rintro ⟨hsorted, hbound, hmask, htext⟩
    rw [stringsOfParts_offsets]
    exact ⟨_, stringsOfParts_eq_ok (offsets_ne_nil off) hsorted hbound hmask htext⟩

/-- A list column is assembled exactly from a child of the item type, offsets that never
decrease and end inside the child, and a bitmap of a bit per list. -/
theorem listOf_accepts_iff {large : Bool} {item : Field} {off : Buffer Nat} {values : Column}
    {v : Option Bitmap} :
    let off' := if off.items.isEmpty then Buffer.ofList [0] else off
    (∃ c, listOf large item off values v = .ok c) ↔
      values.type = item.type ∧ off'.items.Pairwise (· ≤ ·) ∧
        off'.items.getLastD 0 ≤ values.len ∧ ∀ m ∈ v, m.len = off'.size - 1 := by
  intro off'
  constructor
  · rintro ⟨c, h⟩
    obtain ⟨_, -, rfl, htype, ⟨hne, hsorted, hbound⟩, hmask⟩ := listOf_ok h
    refine ⟨htype, hsorted, hbound _ ?_, hmask⟩
    rw [List.getLastD_eq_getLast?, List.getLast?_eq_some_getLast hne]
    exact List.getLast_mem hne
  · rintro ⟨htype, hsorted, hlast, hmask⟩
    -- the last offset bounds every other, since none decreases
    rw [listOf_offsets]
    exact ⟨_, listOf_eq_ok htype (offsets_ne_nil off) hsorted
      (fun x hx => Nat.le_trans (Buffer.le_getLastD hsorted x hx) hlast) hmask⟩

/-- A struct column is assembled exactly from one child per field, each of the struct's length
and of its field's type, and a bitmap of a bit per row. -/
theorem structOfLen_accepts_iff {fs : List Field} {cs : List Column} {v : Option Bitmap}
    {len : Nat} :
    (∃ c, structOfLen fs cs v len = .ok c) ↔
      List.Forall₂ (fun f c => c.len = len ∧ c.type = f.type) fs cs ∧ ∀ m ∈ v, m.len = len := by
  constructor
  · rintro ⟨c, h⟩
    obtain ⟨-, hcs, hmask⟩ := structOfLen_ok h
    exact ⟨hcs, hmask⟩
  · rintro ⟨hcs, hmask⟩
    exact ⟨_, structOfLen_eq_ok hcs hmask⟩

/-- A dictionary is assembled exactly from integer keys every present one of which, taken as
an unbounded integer, names one of the values. -/
theorem dictionaryOf_accepts_iff {kind : NumericKind} {keys : Buffer Nat} {kv : Option Bitmap}
    {values : Column} {ordered : Bool} :
    (∃ c, dictionaryOf (.numeric kind keys kv) values ordered = .ok c) ↔
      kind.index?.isSome ∧ ∀ j < keys.size, Bitmap.isNullAt kv j = false →
        0 ≤ kind.integer (keys.get j) ∧ kind.integer (keys.get j) < values.len := by
  constructor
  · rintro ⟨c, h⟩
    obtain ⟨i, k, kv', hkeys, -, hin⟩ := dictionaryOf_ok h
    cases hkeys
    exact ⟨by rw [IndexType.kind_index?]; rfl, hin⟩
  · rintro ⟨hindex, hin⟩
    obtain ⟨i, hi⟩ := Option.isSome_iff_exists.1 hindex
    cases NumericKind.eq_kind_of_index? hi
    exact ⟨_, dictionaryOf_eq_ok ordered hin⟩

/-- An interval column is assembled exactly from words that divide into values and a bitmap
of a bit per value. -/
theorem intervalsOfWords_accepts_iff {u : IntervalUnit} {words : Buffer Nat}
    {v : Option Bitmap} :
    (∃ c, intervalsOfWords u words v = .ok c) ↔
      words.size % u.words = 0 ∧ ∀ m ∈ v, m.len = words.size / u.words := by
  constructor
  · rintro ⟨c, h⟩
    obtain ⟨-, hdiv, hmask⟩ := intervalsOfWords_ok h
    exact ⟨hdiv, hmask⟩
  · rintro ⟨hdiv, hmask⟩
    exact ⟨_, intervalsOfWords_eq_ok hdiv hmask⟩

/-- Every checked constructor accepts exactly the parts that pass its checks: strings, lists,
structs, dictionaries and intervals. -/
theorem checked_constructors_accept_exactly :
    (∀ (large : Bool) (off : Buffer Nat) (data : Buffer UInt8) (v : Option Bitmap),
      let off' := if off.items.isEmpty then Buffer.ofList [0] else off
      (∃ c, stringsOfParts large off data v = .ok c) ↔
        off'.items.Pairwise (· ≤ ·) ∧ (∀ x ∈ off'.items, x ≤ data.size) ∧
          (∀ m ∈ v, m.len = off'.size - 1) ∧
          ∀ i < off'.size - 1, Bitmap.isNullAt v i = false →
            (Utf8.decode? ((data.items.drop (off'.get i)).take
              (off'.get (i + 1) - off'.get i))).isSome) ∧
    (∀ (large : Bool) (item : Field) (off : Buffer Nat) (values : Column) (v : Option Bitmap),
      let off' := if off.items.isEmpty then Buffer.ofList [0] else off
      (∃ c, listOf large item off values v = .ok c) ↔
        values.type = item.type ∧ off'.items.Pairwise (· ≤ ·) ∧
          off'.items.getLastD 0 ≤ values.len ∧ ∀ m ∈ v, m.len = off'.size - 1) ∧
    (∀ (fs : List Field) (cs : List Column) (v : Option Bitmap) (len : Nat),
      (∃ c, structOfLen fs cs v len = .ok c) ↔
        List.Forall₂ (fun f c => c.len = len ∧ c.type = f.type) fs cs ∧
          ∀ m ∈ v, m.len = len) ∧
    (∀ (kind : NumericKind) (keys : Buffer Nat) (kv : Option Bitmap) (values : Column)
        (ordered : Bool),
      (∃ c, dictionaryOf (.numeric kind keys kv) values ordered = .ok c) ↔
        kind.index?.isSome ∧ ∀ j < keys.size, Bitmap.isNullAt kv j = false →
          0 ≤ kind.integer (keys.get j) ∧ kind.integer (keys.get j) < values.len) ∧
    (∀ (u : IntervalUnit) (words : Buffer Nat) (v : Option Bitmap),
      (∃ c, intervalsOfWords u words v = .ok c) ↔
        words.size % u.words = 0 ∧ ∀ m ∈ v, m.len = words.size / u.words) :=
  ⟨fun _ _ _ _ => stringsOfParts_accepts_iff, fun _ _ _ _ _ => listOf_accepts_iff,
    fun _ _ _ _ => structOfLen_accepts_iff, fun _ _ _ _ _ => dictionaryOf_accepts_iff,
    fun _ _ _ => intervalsOfWords_accepts_iff⟩

end Column

end Columnar
