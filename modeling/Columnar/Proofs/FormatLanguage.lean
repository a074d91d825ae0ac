import Columnar.Proofs.Schema

/-!
# The language of format strings

A lone format string decodes exactly when it is one of the documented formats (`Word`): a
fixed format of the table, `ts` + a time unit + `:` + any zone, `tD` + a time unit, or `ti`
+ an interval unit. The list formats `+l` and `+L` need a child and are refused as a schema
error; every other string is refused with itself as the unsupported format. Every word is
the format its decoded type encodes to (`Spells`), so each type has exactly one spelling:

> `Word s → ∃ t, decodeString s = .ok t ∧ Spells s t`

A node with a dictionary decodes exactly when its format is one of the eight integer
formats, as a dictionary keyed by that integer type and ordered when bit 0 of the node's
flags (`flagOrdered`) is set; the node's children play no part.

The proofs split each decoder once into its branches: a branch that accepts is a word that
spells its type (`decodeLeaf_ok`), a branch that refuses names the string (`decodeLeaf_error`).
-/

namespace Columnar

namespace Format

/-! ## The documented formats -/

/-- The formats that take no parameter: every format of the table but the list formats,
which need a child, and the parametrised temporal ones. -/
def fixedWords : List String :=
  ["n", "b", "c", "s", "i", "l", "C", "S", "I", "L", "f", "g", "u", "U", "vu",
    "tdD", "tdm", "tts", "ttm", "ttu", "ttn", "+s"]

/-- The characters that name a time unit. -/
def timeUnitChars : List Char := ['s', 'm', 'u', 'n']

/-- The characters that name an interval unit. -/
def intervalUnitChars : List Char := ['M', 'D', 'n']

/-- The documented format strings of a node without children. -/
inductive Word : String → Prop
  | fixed {s : String} : s ∈ fixedWords → Word s
  | timestamp {u : Char} (zone : String) : u ∈ timeUnitChars →
      Word ("ts" ++ u.toString ++ ":" ++ zone)
  | duration {u : Char} : u ∈ timeUnitChars → Word ("tD" ++ u.toString)
  | interval {u : Char} : u ∈ intervalUnitChars → Word ("ti" ++ u.toString)

/-- `s` is the format the type encodes to. -/
def Spells (s : String) (t : DataType) : Prop :=
  ∃ node, encode t = .ok node ∧ node.format = s

/-! ## Unit characters -/

theorem mem_of_ofFormatChar? {c : Char} {u : TimeUnit} (h : TimeUnit.ofFormatChar? c = some u) :
    c ∈ timeUnitChars ∧ u.formatChar? = some c := by
  unfold TimeUnit.ofFormatChar? at h
  split at h <;> cases h <;> simp [timeUnitChars, TimeUnit.formatChar?]

theorem mem_of_interval_ofFormatChar? {c : Char} {u : IntervalUnit}
    (h : IntervalUnit.ofFormatChar? c = some u) :
    c ∈ intervalUnitChars ∧ u.formatChar = c := by
  unfold IntervalUnit.ofFormatChar? at h
  split at h <;> cases h <;> simp [intervalUnitChars, IntervalUnit.formatChar]

/-! ## Decoding a lone format -/

/-- An empty zone text is written back as the empty text of no zone. -/
theorem spells_timestamp {u : TimeUnit} {c : Char} (h : u.formatChar? = some c)
    (zone : List Char) :
    Spells ("ts" ++ c.toString ++ ":" ++ String.ofList zone)
      (.timestamp u (if zone.isEmpty then none else some (String.ofList zone))) := by
  refine ⟨_, by simp only [encode, h]; rfl, ?_⟩
  cases zone <;> rfl

theorem decodeTemporal_ok {s : String} {t : DataType} (h : decodeTemporal s = .ok t) :
    Word s ∧ Spells s t := by
  unfold decodeTemporal at h
  split at h
  next u zone hs =>
    split at h
    next unit hu =>
      cases h
      obtain ⟨hmem, hc⟩ := mem_of_ofFormatChar? hu
      obtain rfl : s = "ts" ++ u.toString ++ ":" ++ String.ofList zone :=
        String.ext (by simp [hs])
      exact ⟨.timestamp _ hmem, spells_timestamp hc zone⟩
    · cases h
  next u hs =>
    split at h
    next unit hu =>
      cases h
      obtain ⟨hmem, hc⟩ := mem_of_ofFormatChar? hu
      obtain rfl : s = "tD" ++ u.toString := String.ext (by simp [hs])
      exact ⟨.duration hmem, _, by simp only [encode, hc]; rfl, rfl⟩
    · cases h
  next u hs =>
    split at h
    next unit hu =>
      cases h
      obtain ⟨hmem, rfl⟩ := mem_of_interval_ofFormatChar? hu
      obtain rfl : s = "ti" ++ unit.formatChar.toString := String.ext (by simp [hs])
      exact ⟨.interval hmem, _, rfl, rfl⟩
    · cases h
  · cases h

/-- Every refusal of the temporal decoder is the string itself. -/
theorem decodeTemporal_error {s : String} {e : Error} (h : decodeTemporal s = .error e) :
    e = .unsupported s := by
  unfold decodeTemporal at h
  split at h
  case h_1 | h_2 | h_3 =>
    split at h
    · cases h
    · cases h; rfl
  case h_4 => cases h; rfl

theorem decodeLeaf_ok {s : String} {t : DataType} (h : decodeLeaf s = .ok t) :
    Word s ∧ Spells s t := by
  unfold decodeLeaf at h
  split at h
  case h_22 => exact decodeTemporal_ok h
  all_goals cases h; exact ⟨.fixed (by simp [fixedWords]), _, rfl, rfl⟩

theorem decodeLeaf_error {s : String} {e : Error} (h : decodeLeaf s = .error e) :
    e = .unsupported s := by
  unfold decodeLeaf at h
  split at h
  case h_22 => exact decodeTemporal_error h
  all_goals cases h

/-- A lone format: the struct format, the list formats that lack their child, or a leaf. -/
theorem decodeString_eq (s : String) :
    decodeString s =
      if s = "+s" then .ok (.struct [])
      else if s = "+l" ∨ s = "+L" then
        .error (.schema ("list format '" ++ s ++ "' needs exactly one child, found 0"))
      else decodeLeaf s := by
  by_cases hs : s = "+s"
  · subst hs; rfl
  · by_cases hl : s = "+l" ∨ s = "+L"
    · have hmsg : "' needs exactly one child, found " ++ toString ([] : List Field).length =
          "' needs exactly one child, found 0" := by decide
      simp only [decodeString, decode, FormatNode.leaf, hs, hl, if_false, if_true,
        String.append_assoc, hmsg]
    · simp [decodeString, decode, FormatNode.leaf, hs, hl]

/-- The struct and list formats are two characters long, the fixed ones at most three, so a
longer string is decoded as a parametrised temporal format or refused. -/
theorem decodeString_of_long {s : String} (h : 4 ≤ s.length) :
    decodeString s = decodeTemporal s := by
  rw [decodeString_eq, if_neg, if_neg, decodeLeaf_of_long h]
  · rintro (rfl | rfl) <;> exact absurd h (by decide)
  · rintro rfl
    exact absurd h (by decide)

theorem decodeString_ok {s : String} {t : DataType} (h : decodeString s = .ok t) :
    Word s ∧ Spells s t := by
  rw [decodeString_eq] at h
  split_ifs at h with hs hl
  · cases h
    subst hs
    exact ⟨.fixed (by simp [fixedWords]), _, rfl, rfl⟩
  · exact decodeLeaf_ok h

theorem decodeString_error {s : String} {e : Error} (h : decodeString s = .error e)
    (hl : s ≠ "+l") (hL : s ≠ "+L") : e = .unsupported s := by
  rw [decodeString_eq] at h
  split_ifs at h with hs hlist
  · rcases hlist with rfl | rfl <;> contradiction
  · exact decodeLeaf_error h

/-- Every word decodes. The fixed, duration and interval words are finitely many and are
decoded one by one; a timestamp word decodes whatever its zone. -/
theorem Word.decodes {s : String} (h : Word s) : ∃ t, decodeString s = .ok t := by
  cases h with
  | fixed hs =>
    simp only [fixedWords, List.mem_cons, List.not_mem_nil, or_false] at hs
    rcases hs with rfl | rfl | rfl | rfl | rfl | rfl | rfl | rfl | rfl | rfl | rfl | rfl | rfl |
      rfl | rfl | rfl | rfl | rfl | rfl | rfl | rfl | rfl <;> exact ⟨_, rfl⟩
  | @timestamp u zone hu =>
    obtain ⟨unit, hunit⟩ : ∃ unit, TimeUnit.ofFormatChar? u = some unit := by
      simp only [timeUnitChars, List.mem_cons, List.not_mem_nil, or_false] at hu
      rcases hu with rfl | rfl | rfl | rfl <;> exact ⟨_, rfl⟩
    have hlen : 4 ≤ ("ts" ++ u.toString ++ ":" ++ zone).length := by
      rw [← String.length_toList, timestamp_toList]
      simp
    rw [decodeString_of_long hlen, decodeTemporal, timestamp_toList]
    simp only [hunit]
    exact ⟨_, rfl⟩
  | duration hu =>
    simp only [timeUnitChars, List.mem_cons, List.not_mem_nil, or_false] at hu
    rcases hu with rfl | rfl | rfl | rfl <;> exact ⟨_, rfl⟩
  | interval hu =>
    simp only [intervalUnitChars, List.mem_cons, List.not_mem_nil, or_false] at hu
    rcases hu with rfl | rfl | rfl <;> exact ⟨_, rfl⟩

theorem decodes_iff_word (s : String) : (∃ t, decodeString s = .ok t) ↔ Word s :=
  ⟨fun ⟨_, ht⟩ => (decodeString_ok ht).1, Word.decodes⟩

/-- Whether a string is a word is decided by decoding it. -/
instance : DecidablePred Word := fun s =>
  decidable_of_iff ((decodeString s).isOk = true) (by
    rw [← decodes_iff_word]
    cases decodeString s <;> simp [Except.isOk, Except.toBool])

/-- Near misses: a timestamp unit without its `:`, a duration or an interval with a second
character. -/
example : Word "tsu:" ∧ Word "tsn:Europe/Paris" ∧ ¬ Word "tsu" ∧ ¬ Word "tDs2" ∧
    ¬ Word "tiMM" ∧ ¬ Word "+l" := by
  decide

/-! ## Dictionary nodes -/

theorem testBit_zero_iff (x : Int) : x.testBit 0 = true ↔ x % 2 = 1 := by
  cases x with
  | ofNat m => simp [Int.testBit, Nat.testBit_zero]; omega
  | negSucc m => simp [Int.testBit, Nat.testBit_zero]; omega

theorem IndexType.eq_keyType {k : DataType} {i : IndexType} (h : IndexType.ofKeyType? k = some i) :
    k = i.keyType := by
  cases k <;> simp only [IndexType.ofKeyType?, reduceCtorEq, Option.some.injEq] at h <;>
    subst h <;> rfl

theorem IndexType.spells_keyType (i : IndexType) : Spells i.format i.keyType := by
  cases i <;> exact ⟨_, rfl, rfl⟩

/-- The one format a key type is decoded from. -/
theorem IndexType.format_of_decodeLeaf {s : String} {i : IndexType}
    (h : decodeLeaf s = .ok i.keyType) : s = i.format := by
  obtain ⟨n, hn, rfl⟩ := (decodeLeaf_ok h).2
  obtain ⟨m, hm, hfm⟩ := IndexType.spells_keyType i
  rw [hn] at hm
  cases hm
  exact hfm

theorem decode_dictionary_ok_iff {node : FormatNode} {values t : DataType}
    (h : node.dictionary = some values) :
    decode node = .ok t ↔
      ∃ i : IndexType, node.format = i.format ∧ t = .dictionary i values (node.flags.testBit 0) := by
  have hbit : decide (node.flags % 2 = 1) = node.flags.testBit 0 := by
    rw [Bool.eq_iff_iff, decide_eq_true_iff, testBit_zero_iff]
  constructor
  · intro hd
    simp only [decode, h] at hd
    cases hk : decodeLeaf node.format with
    | error e => simp [hk, bind, Except.bind] at hd
    | ok key =>
      simp only [hk, bind, Except.bind] at hd
      split at hd
      next i hi =>
        cases hd
        rw [IndexType.eq_keyType hi] at hk
        exact ⟨i, IndexType.format_of_decodeLeaf hk, by rw [hbit]⟩
      · cases hd
  · rintro ⟨i, hf, rfl⟩
    simp only [decode, h, hf, decodeLeaf_keyFormat, IndexType.ofKeyType?_keyType, bind,
      Except.bind, hbit]
    rfl

theorem decode_dictionary_error {node : FormatNode} {values : DataType}
    (h : node.dictionary = some values) (hi : ∀ i : IndexType, node.format ≠ i.format) :
    decode node = .error (.unsupported node.format) := by
  simp only [decode, h]
  cases hk : decodeLeaf node.format with
  | error e => simp [decodeLeaf_error hk, bind, Except.bind]
  | ok key =>
    simp only [bind, Except.bind]
    split
    next i hki =>
      rw [IndexType.eq_keyType hki] at hk
      exact absurd (IndexType.format_of_decodeLeaf hk) (hi i)
    · rfl

/-! ## The language -/

/-- Format strings form exactly the documented language, and canonically: a lone format
decodes exactly when it is a word, the list formats are refused for their missing child,
every other string is refused as itself, and each word is the format its type encodes to.
A dictionary node decodes exactly when its format is an integer format. -/
theorem decode_accepts_exactly_words (s : String) :
    ((∃ t, decodeString s = .ok t) ↔ Word s) ∧
    (s = "+l" ∨ s = "+L" →
      decodeString s = .error (.schema ("list format '" ++ s ++ "' needs exactly one child, found 0"))) ∧
    (¬ Word s → s ≠ "+l" → s ≠ "+L" → decodeString s = .error (.unsupported s)) ∧
    (Word s → ∃ t, decodeString s = .ok t ∧ Spells s t) ∧
    (∀ (node : FormatNode) (values t : DataType), node.dictionary = some values →
      (decode node = .ok t ↔
        ∃ i : IndexType, node.format = i.format ∧ t = .dictionary i values (node.flags.testBit 0))) := by
  refine ⟨decodes_iff_word s, ?_, ?_, ?_, fun _ _ _ h => decode_dictionary_ok_iff h⟩
  · intro hl
    rw [decodeString_eq, if_neg (by rcases hl with rfl | rfl <;> decide), if_pos hl]
  · intro hw hl hL
    cases hd : decodeString s with
    | ok t => exact absurd (decodeString_ok hd).1 hw
    | error e => rw [decodeString_error hd hl hL]
  · intro hw
    obtain ⟨t, ht⟩ := hw.decodes
    exact ⟨t, ht, (decodeString_ok ht).2⟩

/-- A unit character without its `:` and zone is no timestamp. -/
example : decodeString "tsu" = .error (.unsupported "tsu") := rfl

end Format

end Columnar
