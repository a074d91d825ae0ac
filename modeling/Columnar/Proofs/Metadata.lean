import Columnar.Metadata.Codec
import Columnar.Proofs.Utf8

/-!
# The metadata layout reads back what it writes

A schema node carries its metadata as a count and length-prefixed pairs. Reading such bytes
inserts the pairs one by one, so what comes back is the map built from the written pairs in
their order:

> `encode m = .ok b → decode b = .ok (ofList m.entries)`.

Maps are kept sorted by key, one entry per key (`Sorted`): `insert` keeps that, so every map
built from pairs is sorted, and for a sorted map inserting its own entries in order rebuilds
it. Together the layout gives back exactly the map that was written.

The layout carries no total length: a reader knows where it ends only by walking it. The
walk is followed here through `readEntries`, the pairs in the order the reader meets them
(`decode b` is the map of those pairs, `decode_eq`). Each length it reads is the four bytes
in front of a text, and a text that reads as UTF-8 is written back as the same bytes, so the
reader's cursor stops where `extent` says and the bytes it took (`covered`) are the count
and the pairs it read. Hence both directions of `layout_round_trip`:

> a sorted map is written as `4 + Σ (8 + |k| + |v|)` bytes that read back as the map and end
> where the reader stops; bytes read as pairs whose keys increase are read as a map that is
> written as exactly the bytes the reader took.
-/

namespace Columnar.LittleEndian

/-- A four-byte word that reads as a non-negative signed integer is below `2^31`. -/
theorem toInt_four_nonneg {bs : List UInt8} (hlen : bs.length = 4)
    (h : ¬ toInt 4 (value bs) < 0) : value bs < 2 ^ 31 ∧ toInt 4 (value bs) = value bs := by
  have hv := value_lt bs
  rw [hlen] at hv
  rw [toInt_eq] at h ⊢
  split_ifs at h ⊢ with hlt
  · exact ⟨hlt, rfl⟩
  · omega

end Columnar.LittleEndian

namespace Columnar.Metadata

open LittleEndian

/-! ## Reading the written lengths and texts -/

/-- A length the layout can hold reads back from its four bytes. -/
theorem readLength_bytes (what : String) {n : Nat} (h : n ≤ maxLength) (rest : List UInt8) :
    readLength what (bytes 4 n ++ rest) = .ok (n, rest) := by
  have hfit : n < 2 ^ 31 := by simp only [maxLength, Nat.pow_eq] at h; omega
  have hv : value (region (bytes 4 n ++ rest) 0 4) = n := by
    rw [region_append (length_bytes 4 n), value_bytes_of_lt (by omega)]
  have hi : toInt 4 n = n := toInt_of_lt (by simpa using hfit)
  simp [readLength, hv, hi]

/-- A text written with its length reads back as itself. -/
theorem readText_encode (what : String) {s : String} (h : (Utf8.encode s).length ≤ maxLength)
    (rest : List UInt8) :
    readText what (bytes 4 (Utf8.encode s).length ++ (Utf8.encode s ++ rest)) =
      .ok (s, rest) := by
  simp [readText, readLength_bytes what h, region_append rfl, Utf8.decode?_encode]

theorem readPairs_succ {rest : List UInt8} (h : rest ≠ []) (n : Nat) (acc : Metadata) :
    readPairs (n + 1) rest acc = (do
      let (k, rest) ← readText "metadata key" rest
      let (v, rest) ← readText "metadata value" rest
      readPairs n rest (acc.insert k v)) := by
  cases rest with
  | nil => exact absurd rfl h
  | cons b bs => rfl

theorem lengthBytes_ok {what : String} {n : Nat} {bs : List UInt8}
    (h : lengthBytes what n = .ok bs) : n ≤ maxLength ∧ bs = bytes 4 n := by
  unfold lengthBytes at h
  split at h
  · cases h
    exact ⟨‹_›, rfl⟩
  · cases h

/-- What a written pair consists of: the key's length and bytes, then the value's. -/
theorem pairBytes_ok {p : String × String} {bs : List UInt8} (h : pairBytes p = .ok bs) :
    (Utf8.encode p.1).length ≤ maxLength ∧ (Utf8.encode p.2).length ≤ maxLength ∧
      bs = bytes 4 (Utf8.encode p.1).length ++ Utf8.encode p.1 ++
        bytes 4 (Utf8.encode p.2).length ++ Utf8.encode p.2 := by
  simp only [pairBytes, Except.bind_eq_ok, Except.pure_eq_ok] at h
  obtain ⟨kl, hkl, vl, hvl, rfl⟩ := h
  obtain ⟨hk, rfl⟩ := lengthBytes_ok hkl
  obtain ⟨hv, rfl⟩ := lengthBytes_ok hvl
  exact ⟨hk, hv, rfl⟩

/-- Reading as many pairs as were written inserts them in order, whatever follows. -/
theorem readPairs_flatten :
    ∀ (entries : List (String × String)) (pieces : List (List UInt8)),
      entries.mapM pairBytes = .ok pieces → ∀ (acc : Metadata) (rest : List UInt8),
      readPairs entries.length (pieces.flatten ++ rest) acc =
        .ok (entries.foldl (fun m p => m.insert p.1 p.2) acc)
  | [], pieces, h, acc, rest => by
    simp only [List.mapM_nil, Except.pure_eq_ok] at h
    subst h
    rfl
  | p :: entries, pieces, h, acc, rest => by
    simp only [List.mapM_cons, Except.bind_eq_ok, Except.pure_eq_ok] at h
    obtain ⟨bs, hp, bss, hrest, rfl⟩ := h
    obtain ⟨hk, hv, rfl⟩ := pairBytes_ok hp
    -- a written pair starts with four length bytes, so there is something left to read
    have hne : ((bytes 4 (Utf8.encode p.1).length ++ Utf8.encode p.1 ++
        bytes 4 (Utf8.encode p.2).length ++ Utf8.encode p.2) :: bss).flatten ++ rest ≠ [] := by
      simp [bytes_succ]
    rw [List.length_cons, readPairs_succ hne]
    simp only [List.flatten_cons, List.append_assoc]
    rw [readText_encode _ hk]
    simp only [bind, Except.bind]
    rw [readText_encode _ hv]
    exact readPairs_flatten entries bss hrest _ _

/-- The layout reads back as the map built from the written pairs. -/
theorem decode_encode {m : Metadata} {b : Option (List UInt8)} (h : m.encode = .ok b) :
    decode b = .ok (ofList m.entries) := by
  unfold encode at h
  split at h
  next hempty =>
    -- no pairs: no bytes at all
    cases h
    have hnil : m.entries = [] := by simpa [isEmpty] using hempty
    rw [hnil]
    rfl
  next =>
    simp only [Except.bind_eq_ok, Except.pure_eq_ok] at h
    obtain ⟨count, hcount, pieces, hpieces, rfl⟩ := h
    obtain ⟨hsize, rfl⟩ := lengthBytes_ok hcount
    have hread := readPairs_flatten m.entries pieces hpieces empty []
    rw [List.append_nil] at hread
    simp only [decode, readLength_bytes _ hsize]
    exact hread

/-! ## Sorted maps -/

/-- Keys strictly increase along the entries: the shape every map of the library has. -/
def Sorted (m : Metadata) : Prop :=
  m.entries.Pairwise fun p q => p.1 < q.1

instance (m : Metadata) : Decidable m.Sorted :=
  inferInstanceAs (Decidable (m.entries.Pairwise _))

theorem mem_insertEntry {k v : String} {p : String × String} :
    ∀ {l : List (String × String)}, p ∈ insertEntry k v l → p = (k, v) ∨ p ∈ l
  | [], h => by simpa [insertEntry] using h
  | (k', v') :: rest, h => by
    unfold insertEntry at h
    split_ifs at h
    · simpa using h
    · simp only [List.mem_cons] at h
      rcases h with h | h
      · exact .inl h
      · exact .inr (List.mem_cons_of_mem _ h)
    · simp only [List.mem_cons] at h
      rcases h with h | h
      · exact .inr (h ▸ List.mem_cons_self ..)
      · rcases mem_insertEntry h with h | h
        · exact .inl h
        · exact .inr (List.mem_cons_of_mem _ h)

/-- Inserting into sorted entries keeps them sorted. -/
theorem pairwise_insertEntry (k v : String) :
    ∀ {l : List (String × String)}, l.Pairwise (fun p q => p.1 < q.1) →
      (insertEntry k v l).Pairwise fun p q => p.1 < q.1
  | [], _ => List.pairwise_singleton _ _
  | (k', v') :: rest, h => by
    obtain ⟨hhead, hrest⟩ := List.pairwise_cons.1 h
    unfold insertEntry
    split_ifs with hlt heq
    · -- a new smallest key goes first
      refine List.Pairwise.cons (fun q hq => ?_) h
      rcases List.mem_cons.1 hq with rfl | hq
      · exact hlt
      · exact lt_trans hlt (hhead q hq)
    · -- an equal key takes the new value in place
      subst heq
      exact List.Pairwise.cons hhead hrest
    · -- a larger key goes further in
      have hgt : k' < k := lt_of_le_of_ne (not_lt.1 hlt) (Ne.symm heq)
      refine List.Pairwise.cons (fun q hq => ?_) (pairwise_insertEntry k v hrest)
      rcases mem_insertEntry hq with rfl | hq
      · exact hgt
      · exact hhead q hq

/-- Every map built from pairs is sorted. -/
theorem sorted_ofList (pairs : List (String × String)) : (ofList pairs).Sorted := by
  unfold ofList
  suffices h : ∀ (m : Metadata), m.Sorted →
      (pairs.foldl (fun m p => m.insert p.1 p.2) m).Sorted from h empty List.Pairwise.nil
  induction pairs with
  | nil => exact fun m hm => hm
  | cons p pairs ih => exact fun m hm => ih _ (pairwise_insertEntry p.1 p.2 hm)

theorem insertEntry_of_lt {k v : String} :
    ∀ {l : List (String × String)}, (∀ p ∈ l, p.1 < k) → insertEntry k v l = l ++ [(k, v)]
  | [], _ => rfl
  | (k', v') :: rest, h => by
    have hk : k' < k := h (k', v') (List.mem_cons_self ..)
    rw [insertEntry, if_neg (lt_asymm hk), if_neg (ne_of_gt hk),
      insertEntry_of_lt (fun p hp => h p (List.mem_cons_of_mem _ hp))]
    rfl

/-- Inserting pairs in increasing key order appends them. -/
theorem foldl_insert_of_pairwise :
    ∀ (l acc : List (String × String)), (acc ++ l).Pairwise (fun p q => p.1 < q.1) →
      l.foldl (fun (m : Metadata) p => m.insert p.1 p.2) ⟨acc⟩ = ⟨acc ++ l⟩
  | [], acc, _ => by simp
  | p :: l, acc, h => by
    have hlt : ∀ q ∈ acc, q.1 < p.1 := fun q hq =>
      (List.pairwise_append.1 h).2.2 q hq p (List.mem_cons_self ..)
    have hstep : (⟨acc⟩ : Metadata).insert p.1 p.2 = ⟨acc ++ [p]⟩ := by
      simp only [insert, insertEntry_of_lt hlt]
    rw [List.foldl_cons, hstep, foldl_insert_of_pairwise l (acc ++ [p]) (by simpa using h)]
    simp

/-- A sorted map is the map of its own entries. -/
theorem ofList_entries {m : Metadata} (h : m.Sorted) : ofList m.entries = m := by
  have hfold := foldl_insert_of_pairwise m.entries [] h
  simpa [ofList, empty] using hfold

/-- A sorted map written out reads back as itself. -/
theorem decode_encode_of_sorted {m : Metadata} (hm : m.Sorted) {b : Option (List UInt8)}
    (h : m.encode = .ok b) : decode b = .ok m := by
  rw [decode_encode h, ofList_entries hm]

/-! ## The reader's cursor -/

/-- A length that reads is its four bytes, at most `maxLength`, and what follows them. -/
theorem readLength_ok {what : String} {rest rest' : List UInt8} {n : Nat}
    (h : readLength what rest = .ok (n, rest')) :
    n ≤ maxLength ∧ toInt 4 (value (region rest 0 4)) = n ∧ region rest 0 4 = bytes 4 n ∧
      rest' = rest.drop 4 := by
  unfold readLength at h
  dsimp only at h
  split at h
  · cases h
  · rename_i hnonneg
    cases h
    obtain ⟨hlt, hint⟩ := toInt_four_nonneg (length_region rest 0 4) hnonneg
    rw [hint, Int.toNat_natCast]
    refine ⟨by simp only [maxLength, Nat.pow_eq]; omega, rfl, ?_, rfl⟩
    conv => lhs; rw [← bytes_value (region rest 0 4), length_region]

/-- A text that reads is its length's four bytes, then its UTF-8, then what follows. -/
theorem readText_ok {what : String} {rest rest' : List UInt8} {s : String}
    (h : readText what rest = .ok (s, rest')) :
    (Utf8.encode s).length ≤ maxLength ∧
      toInt 4 (value (region rest 0 4)) = (Utf8.encode s).length ∧
      region rest 0 (4 + (Utf8.encode s).length) =
        bytes 4 (Utf8.encode s).length ++ Utf8.encode s ∧
      rest' = rest.drop (4 + (Utf8.encode s).length) := by
  unfold readText at h
  obtain ⟨⟨n, r⟩, hlen, h⟩ := Except.bind_eq_ok.1 h
  obtain ⟨hmax, hint, hbytes, rfl⟩ := readLength_ok hlen
  dsimp only at h
  cases ht : Utf8.decode? (region (rest.drop 4) 0 n) with
  | none =>
    rw [ht] at h
    cases h
  | some t =>
    rw [ht] at h
    cases h
    -- the text read is exactly the bytes it was read from
    have henc : Utf8.encode s = region rest 4 n := by
      rw [Utf8.encode_of_decode? ht, region_drop, Nat.add_zero]
    have hn : (Utf8.encode s).length = n := by rw [henc, length_region]
    rw [hn]
    refine ⟨hmax, hint, ?_, by rw [List.drop_drop]⟩
    rw [region_add, hbytes, henc]

/-! ## The pairs in the order they are read -/

/-- The pairs a reader meets after the count, in order, before they go into a map. -/
def readEntries : Nat → List UInt8 → Except Error (List (String × String))
  | 0, _ => .ok []
  | n + 1, rest => do
    let (k, rest) ← readText "metadata key" rest
    let (v, rest) ← readText "metadata value" rest
    let ps ← readEntries n rest
    pure ((k, v) :: ps)

/-- The pairs of a layout in the order they are written. -/
def decodeEntries (bytes : List UInt8) : Except Error (List (String × String)) := do
  let (n, rest) ← readLength "metadata pair count" bytes
  readEntries n rest

/-- Past the end of the bytes every text reads as empty. -/
theorem readText_nil (what : String) : readText what [] = .ok ("", []) := rfl

theorem readEntries_nil : ∀ n, readEntries n [] = .ok (List.replicate n ("", ""))
  | 0 => rfl
  | n + 1 => by
    simp only [readEntries, readText_nil, readEntries_nil n, bind, Except.bind, pure,
      Except.pure, List.replicate_succ]

theorem insertEntry_head (k v v' : String) (rest : List (String × String)) :
    insertEntry k v ((k, v') :: rest) = (k, v) :: rest := by
  rw [insertEntry, if_neg (lt_irrefl k), if_pos rfl]

theorem insertEntry_insertEntry (k v : String) :
    ∀ l : List (String × String), insertEntry k v (insertEntry k v l) = insertEntry k v l
  | [] => insertEntry_head k v v []
  | (k', v') :: rest => by
    by_cases hlt : k < k'
    · rw [insertEntry, if_pos hlt, insertEntry_head]
    · by_cases heq : k = k'
      · subst heq
        rw [insertEntry_head, insertEntry_head]
      · rw [insertEntry, if_neg hlt, if_neg heq, insertEntry, if_neg hlt, if_neg heq,
          insertEntry_insertEntry k v rest]

/-- Inserting a pair again changes nothing. -/
theorem insert_insert (m : Metadata) (k v : String) : (m.insert k v).insert k v = m.insert k v := by
  simp only [insert, insertEntry_insertEntry]

theorem foldl_insert_replicate (m : Metadata) (p : String × String) :
    ∀ n, (List.replicate (n + 1) p).foldl (fun m p => m.insert p.1 p.2) m = m.insert p.1 p.2
  | 0 => rfl
  | n + 1 => by
    rw [List.replicate_succ, List.foldl_cons, foldl_insert_replicate _ p n, insert_insert]

/-- Reading pairs into a map inserts the pairs the reader meets, in order. -/
theorem readPairs_eq : ∀ (n : Nat) (rest : List UInt8) (acc : Metadata),
    readPairs n rest acc = (·.foldl (fun m p => m.insert p.1 p.2) acc) <$> readEntries n rest
  | 0, _, _ => rfl
  | n + 1, [], acc => by
    -- past the end every pair is empty, and one empty pair stands for all of them
    rw [readEntries_nil]
    show _ = Except.ok ((List.replicate (n + 1) ("", "")).foldl (fun m p => m.insert p.1 p.2) acc)
    rw [foldl_insert_replicate]
    rfl
  | n + 1, b :: bs, acc => by
    rw [readPairs_succ (List.cons_ne_nil b bs)]
    simp only [readEntries, bind, Except.bind]
    cases readText "metadata key" (b :: bs) with
    | error e => rfl
    | ok kr =>
      simp only
      cases readText "metadata value" kr.2 with
      | error e => rfl
      | ok vr =>
        simp only
        rw [readPairs_eq n vr.2 (acc.insert kr.1 vr.1)]
        cases readEntries n vr.2 <;> rfl

/-- A layout decodes to the map of the pairs it is read as. -/
theorem decode_eq (bytes : List UInt8) : decode (some bytes) = ofList <$> decodeEntries bytes := by
  simp only [decode, decodeEntries]
  cases readLength "metadata pair count" bytes with
  | error e => rfl
  | ok nr =>
    obtain ⟨n, r⟩ := nr
    simp only [bind, Except.bind]
    rw [readPairs_eq]
    rfl

theorem readEntries_length : ∀ {n : Nat} {rest : List UInt8} {ps : List (String × String)},
    readEntries n rest = .ok ps → ps.length = n
  | 0, _, _, h => by cases h; rfl
  | n + 1, rest, ps, h => by
    simp only [readEntries, Except.bind_eq_ok, Except.pure_eq_ok] at h
    obtain ⟨⟨k, r⟩, -, ⟨v, r'⟩, -, ps', hps', rfl⟩ := h
    rw [List.length_cons, readEntries_length hps']

/-! ## Where the reader stops -/

/-- The bytes of one pair as the layout writes them: each text after its length. -/
def pairLayout (p : String × String) : List UInt8 :=
  bytes 4 (Utf8.encode p.1).length ++ Utf8.encode p.1 ++ bytes 4 (Utf8.encode p.2).length ++
    Utf8.encode p.2

/-- How many bytes a pair takes: two lengths and its two texts. -/
def pairSize (p : String × String) : Nat :=
  8 + (Utf8.encode p.1).length + (Utf8.encode p.2).length

theorem length_pairLayout (p : String × String) : (pairLayout p).length = pairSize p := by
  simp only [pairLayout, pairSize, List.length_append, length_bytes]
  omega

/-- The first `a + c` bytes are the first `a`, then the first `c` of what follows. -/
theorem region_split (bs : List UInt8) (a c : Nat) :
    region bs 0 (a + c) = region bs 0 a ++ region (bs.drop a) 0 c := by
  rw [region_add, region_drop, Nat.zero_add, Nat.add_zero]

/-- The pairs read from some bytes are what those bytes begin with. -/
theorem readEntries_region : ∀ {n : Nat} {rest : List UInt8} {ps : List (String × String)},
    readEntries n rest = .ok ps → region rest 0 (ps.map pairSize).sum = (ps.map pairLayout).flatten
  | 0, rest, ps, h => by
    cases h
    simp [region]
  | n + 1, rest, ps, h => by
    simp only [readEntries, Except.bind_eq_ok, Except.pure_eq_ok] at h
    obtain ⟨⟨k, r⟩, hk, ⟨v, r'⟩, hv, ps', hps', rfl⟩ := h
    obtain ⟨-, -, hkr, rfl⟩ := readText_ok hk
    obtain ⟨-, -, hvr, rfl⟩ := readText_ok hv
    -- the key with its length, then the value with its length, then the later pairs
    have hsize : (((k, v) :: ps').map pairSize).sum = (4 + (Utf8.encode k).length) +
        ((4 + (Utf8.encode v).length) + (ps'.map pairSize).sum) := by
      simp only [List.map_cons, List.sum_cons, pairSize]
      omega
    dsimp only at hvr hps'
    rw [hsize, region_split rest (4 + (Utf8.encode k).length), hkr,
      region_split _ (4 + (Utf8.encode v).length), hvr, readEntries_region hps']
    simp [pairLayout]

theorem wordAt_natCast (bytes : List UInt8) (p : Nat) :
    wordAt bytes p = toInt 4 (value (region bytes p 4)) := by
  simp [wordAt]

/-- The reader stops where `pairsEnd` says: past every pair it read. -/
theorem readEntries_end {bytes : List UInt8} : ∀ {n pos : Nat} {ps : List (String × String)},
    readEntries n (bytes.drop pos) = .ok ps →
      pairsEnd bytes n pos = ((pos + (ps.map pairSize).sum : Nat) : Int)
  | 0, pos, ps, h => by
    cases h
    simp [pairsEnd]
  | n + 1, pos, ps, h => by
    by_cases hend : bytes.length ≤ pos
    · -- past the end every pair is empty: eight zero bytes each
      rw [List.drop_eq_nil_of_le hend, readEntries_nil] at h
      cases h
      have hsum : ((List.replicate (n + 1) ("", "")).map pairSize).sum = 8 * (n + 1) := by
        simp [pairSize, Utf8.encode, Nat.mul_comm]
      rw [pairsEnd, if_pos (by exact_mod_cast hend), hsum]
      push_cast
      rfl
    · simp only [readEntries, Except.bind_eq_ok, Except.pure_eq_ok] at h
      obtain ⟨⟨k, r⟩, hk, ⟨v, r'⟩, hv, ps', hps', rfl⟩ := h
      obtain ⟨-, hkw, -, rfl⟩ := readText_ok hk
      obtain ⟨-, hvw, -, rfl⟩ := readText_ok hv
      rw [List.drop_drop, List.drop_drop] at hps'
      rw [region_drop, Nat.add_zero] at hkw
      rw [List.drop_drop, region_drop, Nat.add_zero] at hvw
      -- each length word is where the reader found it, so the next pair starts past both
      have hnext := readEntries_end hps'
      rw [pairsEnd, if_neg (by exact_mod_cast hend)]
      dsimp only
      rw [wordAt_natCast, hkw]
      have hafter : (pos : Int) + 4 + ((Utf8.encode k).length : Int) =
          ((pos + (4 + (Utf8.encode k).length) : Nat) : Int) := by
        push_cast
        omega
      have hstart : ((pos + (4 + (Utf8.encode k).length) : Nat) : Int) + 4 +
          ((Utf8.encode v).length : Int) =
          ((pos + (4 + (Utf8.encode k).length + (4 + (Utf8.encode v).length)) : Nat) : Int) := by
        push_cast
        omega
      rw [hafter, wordAt_natCast, hvw, hstart, if_neg (by omega), hnext]
      simp only [List.map_cons, List.sum_cons, pairSize]
      omega

/-- Bytes that decode end where the layout they hold ends: the count, then every pair read;
those bytes are the count's and the pairs' own. -/
theorem decodeEntries_extent {b : List UInt8} {ps : List (String × String)}
    (h : decodeEntries b = .ok ps) :
    extent b = ((4 + (ps.map pairSize).sum : Nat) : Int) ∧
      covered b = bytes 4 ps.length ++ (ps.map pairLayout).flatten := by
  unfold decodeEntries at h
  obtain ⟨⟨n, r⟩, hcount, hps⟩ := Except.bind_eq_ok.1 h
  obtain ⟨-, hword, hbytes, rfl⟩ := readLength_ok hcount
  dsimp only at hps
  have hextent : extent b = ((4 + (ps.map pairSize).sum : Nat) : Int) := by
    rw [extent, show (0 : Int) = ((0 : Nat) : Int) from rfl, wordAt_natCast, hword,
      Int.toNat_natCast, show (4 : Int) = ((4 : Nat) : Int) from rfl, readEntries_end hps]
  refine ⟨hextent, ?_⟩
  rw [covered, hextent, Int.toNat_natCast, region_split, hbytes, readEntries_region hps,
    readEntries_length hps]

/-! ## Writing -/

/-- Every length the layout writes fits its four bytes: the pair count and the UTF-8 length of
each key and value are at most `maxLength`. -/
def Fits (m : Metadata) : Prop :=
  m.size ≤ maxLength ∧
    ∀ p ∈ m.entries, (Utf8.encode p.1).length ≤ maxLength ∧ (Utf8.encode p.2).length ≤ maxLength

theorem lengthBytes_eq {what : String} {n : Nat} (h : n ≤ maxLength) :
    lengthBytes what n = .ok (bytes 4 n) := by
  simp [lengthBytes, h]

theorem mapM_pairBytes : ∀ {ps : List (String × String)},
    (∀ p ∈ ps, (Utf8.encode p.1).length ≤ maxLength ∧ (Utf8.encode p.2).length ≤ maxLength) →
      ps.mapM pairBytes = .ok (ps.map pairLayout)
  | [], _ => rfl
  | p :: ps, h => by
    obtain ⟨hk, hv⟩ := h p (List.mem_cons_self ..)
    have hp : pairBytes p = .ok (pairLayout p) := by
      simp only [pairBytes, lengthBytes_eq hk, lengthBytes_eq hv, bind, Except.bind, pure,
        Except.pure, pairLayout]
    rw [List.mapM_cons, hp, mapM_pairBytes fun q hq => h q (List.mem_cons_of_mem _ hq)]
    rfl

/-- Metadata whose lengths fit is written as its count, then its pairs in order. -/
theorem encode_eq_some {m : Metadata} (hne : m.entries ≠ []) (hfits : m.Fits) :
    m.encode = .ok (some (bytes 4 m.size ++ (m.entries.map pairLayout).flatten)) := by
  have hempty : m.isEmpty = false := by simpa [isEmpty] using hne
  simp only [encode, hempty, lengthBytes_eq hfits.1, mapM_pairBytes hfits.2, bind, Except.bind,
    pure, Except.pure]
  rfl

/-- No byte string is written exactly for metadata without pairs. -/
theorem encode_eq_none_iff {m : Metadata} : m.encode = .ok none ↔ m.entries = [] := by
  constructor
  · intro h
    unfold encode at h
    by_cases hempty : m.isEmpty = true
    · simpa [isEmpty] using hempty
    · rw [if_neg hempty] at h
      simp only [Except.bind_eq_ok, Except.pure_eq_ok] at h
      obtain ⟨_, -, _, -, h⟩ := h
      cases h
  · intro h
    simp [encode, isEmpty, h]

/-- The written pairs read back in order, whatever follows them. -/
theorem readEntries_layout : ∀ {ps : List (String × String)},
    (∀ p ∈ ps, (Utf8.encode p.1).length ≤ maxLength ∧ (Utf8.encode p.2).length ≤ maxLength) →
      ∀ rest, readEntries ps.length ((ps.map pairLayout).flatten ++ rest) = .ok ps
  | [], _, _ => rfl
  | p :: ps, h, rest => by
    obtain ⟨hk, hv⟩ := h p (List.mem_cons_self ..)
    simp only [List.length_cons, List.map_cons, List.flatten_cons, pairLayout, List.append_assoc,
      readEntries]
    rw [readText_encode _ hk]
    simp only [bind, Except.bind]
    rw [readText_encode _ hv]
    simp only
    rw [readEntries_layout (fun q hq => h q (List.mem_cons_of_mem _ hq)) rest]
    rfl

/-! ## Reading and writing undo each other -/

theorem readEntries_fits : ∀ {n : Nat} {rest : List UInt8} {ps : List (String × String)},
    readEntries n rest = .ok ps →
      ∀ p ∈ ps, (Utf8.encode p.1).length ≤ maxLength ∧ (Utf8.encode p.2).length ≤ maxLength
  | 0, _, _, h => by
    cases h
    exact nofun
  | n + 1, rest, ps, h => by
    simp only [readEntries, Except.bind_eq_ok, Except.pure_eq_ok] at h
    obtain ⟨⟨k, r⟩, hk, ⟨v, r'⟩, hv, ps', hps', rfl⟩ := h
    intro p hp
    rcases List.mem_cons.1 hp with rfl | hp
    · exact ⟨(readText_ok hk).1, (readText_ok hv).1⟩
    · exact readEntries_fits hps' p hp

/-- The pairs a layout is read as fit the layout again, and the count word counts them. -/
theorem decodeEntries_fits {b : List UInt8} {ps : List (String × String)}
    (h : decodeEntries b = .ok ps) : (⟨ps⟩ : Metadata).Fits ∧ wordAt b 0 = ps.length := by
  unfold decodeEntries at h
  obtain ⟨⟨n, r⟩, hcount, hps⟩ := Except.bind_eq_ok.1 h
  obtain ⟨hmax, hword, -, rfl⟩ := readLength_ok hcount
  have hlen := readEntries_length hps
  refine ⟨⟨by simpa [size, hlen] using hmax, readEntries_fits hps⟩, ?_⟩
  rw [show (0 : Int) = ((0 : Nat) : Int) from rfl, wordAt_natCast, hword, hlen]

/-- Written metadata is read as its own pairs. -/
theorem decodeEntries_encode {m : Metadata} (hfits : m.Fits) :
    decodeEntries (bytes 4 m.size ++ (m.entries.map pairLayout).flatten) = .ok m.entries := by
  have hread := readEntries_layout hfits.2 []
  rw [List.append_nil] at hread
  simp only [decodeEntries, readLength_bytes _ hfits.1, bind, Except.bind]
  exact hread

/-- The metadata layout in both directions. A sorted map whose lengths fit is written as no
byte string exactly when it has no pairs, and otherwise as one of four bytes plus eight and its
texts' bytes per pair, which reads back as the map with the reader stopping at its last byte.
Bytes that read as at least one pair, with keys strictly increasing in the order read, read as
a map that is written as exactly the bytes the reader took. -/
theorem layout_round_trip :
    (∀ m : Metadata, m.Sorted → m.Fits →
      (m.encode = .ok none ↔ m.entries = []) ∧
      (m.entries ≠ [] → ∃ b, m.encode = .ok (some b) ∧
        b.length = 4 + (m.entries.map fun p =>
          8 + (Utf8.encode p.1).length + (Utf8.encode p.2).length).sum ∧
        decode (some b) = .ok m ∧ extent b = b.length)) ∧
    ∀ (b : List UInt8) (ps : List (String × String)), decodeEntries b = .ok ps →
      1 ≤ wordAt b 0 → ps.Pairwise (fun p q => p.1 < q.1) →
      decode (some b) = .ok ⟨ps⟩ ∧ (decode (some b) >>= encode) = .ok (some (covered b)) := by
  refine ⟨fun m hm hfits => ⟨encode_eq_none_iff, fun hne => ?_⟩, fun b ps h hcount hsorted => ?_⟩
  · -- writing: the count, then each pair; reading stops at the last byte written
    have hlen : (bytes 4 m.size ++ (m.entries.map pairLayout).flatten).length =
        4 + (m.entries.map pairSize).sum := by
      rw [List.length_append, length_bytes, List.length_flatten, List.map_map,
        show List.length ∘ pairLayout = pairSize from funext length_pairLayout]
    refine ⟨_, encode_eq_some hne hfits, hlen, decode_encode_of_sorted hm (encode_eq_some hne hfits), ?_⟩
    rw [(decodeEntries_extent (decodeEntries_encode hfits)).1, hlen]
  · -- reading: the pairs come in key order, so the map keeps them as read
    obtain ⟨hfits, hword⟩ := decodeEntries_fits h
    have hdecode : decode (some b) = .ok ⟨ps⟩ := by
      rw [decode_eq, h]
      exact congrArg Except.ok (ofList_entries (m := ⟨ps⟩) hsorted)
    have hne : ps ≠ [] := by
      rintro rfl
      rw [hword] at hcount
      simp at hcount
    refine ⟨hdecode, ?_⟩
    rw [hdecode]
    show encode ⟨ps⟩ = _
    rw [encode_eq_some hne hfits, (decodeEntries_extent h).2]
    rfl

/-- One pair `k = v`: written as fourteen bytes that read back as the map, and read as
a map that is written as those bytes again. -/
theorem layout_round_trip_one_pair :
    let m : Metadata := ⟨[("k", "v")]⟩
    let b : List UInt8 := [1, 0, 0, 0, 1, 0, 0, 0, 107, 1, 0, 0, 0, 118]
    m.encode = .ok (some b) ∧ decode (some b) = .ok m ∧ extent b = b.length ∧
      (decode (some b) >>= encode) = .ok (some (covered b)) := by
  intro m b
  have hm : m.Sorted := List.pairwise_singleton _ _
  have hfits : m.Fits := ⟨by decide, by decide⟩
  have hb : m.encode = .ok (some b) := by
    dsimp only [m, b]
    rfl
  obtain ⟨b', hb', -, hdecode, hextent⟩ := (layout_round_trip.1 m hm hfits).2 (List.cons_ne_nil _ _)
  rw [hb] at hb'
  cases hb'
  have hentries : decodeEntries b = .ok [("k", "v")] := by
    dsimp only [b]
    rfl
  exact ⟨hb, hdecode, hextent,
    (layout_round_trip.2 b _ hentries (by decide) (List.pairwise_singleton _ _)).2⟩

end Columnar.Metadata
