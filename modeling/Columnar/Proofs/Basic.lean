import Columnar.Bytes.LittleEndian
import Columnar.Error
import Mathlib

/-!
# Refusals and little-endian words

Two kinds of fact every later proof leans on.

A refusal short-circuits: a sequence of checks in `Except` succeeds exactly when each check
succeeds in turn,

> `x >>= f = .ok b ↔ ∃ a, x = .ok a ∧ f a = .ok b`,

so a proof about a successful call peels its steps apart with `obtain`, in the order the
code runs them, and never unfolds `bind`.

A word written as `width` little-endian bytes reads back as itself modulo `256 ^ width`, and
a list of words written one after another splits back into the same words:

> `value (bytes w n) = n % 256 ^ w`, and `words w (ofWords w xs) = xs` when every word fits.
-/

namespace Columnar

/-! ## Sequences of checks -/

namespace Except

variable {ε α β : Type}

/-- A sequence of checks succeeds exactly when its first step does and the rest succeeds on
that step's value. -/
@[simp] theorem bind_eq_ok {x : Except ε α} {f : α → Except ε β} {b : β} :
    x >>= f = .ok b ↔ ∃ a, x = .ok a ∧ f a = .ok b := by
  cases x with
  | error e => exact ⟨fun h => (nomatch h), fun ⟨_, h, _⟩ => (nomatch h)⟩
  | ok a => exact ⟨fun h => ⟨a, rfl, h⟩, fun ⟨_, h, hf⟩ => by cases h; exact hf⟩

/-- `pure` succeeds with its own value. -/
@[simp] theorem pure_eq_ok {a b : α} : (pure a : Except ε α) = .ok b ↔ a = b := by
  simp [pure, Except.pure]

/-- A thrown refusal is never a success. -/
@[simp] theorem throw_ne_ok {e : ε} {a : α} : (throw e : Except ε α) ≠ .ok a :=
  fun h => nomatch h

/-- A mapped success is the map of a success. -/
@[simp] theorem map_eq_ok {x : Except ε α} {f : α → β} {b : β} :
    f <$> x = .ok b ↔ ∃ a, x = .ok a ∧ f a = b := by
  cases x with
  | error e => exact ⟨fun h => (nomatch h), fun ⟨_, h, _⟩ => (nomatch h)⟩
  | ok a =>
    exact ⟨fun h => ⟨a, rfl, Except.ok.inj h⟩, fun ⟨_, h, hf⟩ => by cases h; rw [← hf]; rfl⟩

/-- A sequence of checks refuses with the refusal of its first step, or of the rest after a
first step that succeeded. -/
theorem bind_eq_error {x : Except ε α} {f : α → Except ε β} {e : ε} :
    x >>= f = .error e ↔ x = .error e ∨ ∃ a, x = .ok a ∧ f a = .error e := by
  cases x with
  | error e' =>
    exact ⟨fun h => .inl (by cases h; rfl),
      fun h => h.elim (fun h => by cases h; rfl) fun ⟨_, h, _⟩ => (nomatch h)⟩
  | ok a =>
    exact ⟨fun h => .inr ⟨a, rfl, h⟩,
      fun h => h.elim (fun h => (nomatch h)) fun ⟨_, h, hf⟩ => by cases h; exact hf⟩

end Except

/-! ## Little-endian words -/

namespace LittleEndian

/-- The bytes of a word: its lowest byte, then the bytes of the rest. -/
theorem bytes_succ (w n : Nat) :
    bytes (w + 1) n = (n % 256).toUInt8 :: bytes w (n / 256) := by
  simp only [bytes, List.range_succ_eq_map, List.map_cons, List.map_map]
  congr 1
  · simp
  · apply List.map_congr_left
    intro i _
    simp [Function.comp, Nat.pow_succ, Nat.div_div_eq_div_mul, Nat.mul_comm]

@[simp] theorem length_bytes (w n : Nat) : (bytes w n).length = w := by
  simp [bytes]

/-- A word read back from its bytes keeps what fits in them. -/
theorem value_bytes (w n : Nat) : value (bytes w n) = n % 256 ^ w := by
  induction w generalizing n with
  | zero => simp [bytes, value, Nat.mod_one]
  | succ w ih =>
    rw [bytes_succ, value, ih, Nat.pow_succ, Nat.mul_comm (256 ^ w), Nat.mod_mul]
    simp

/-- The bytes of a word that fits read back as the word. -/
theorem value_bytes_of_lt {w n : Nat} (h : n < 256 ^ w) : value (bytes w n) = n := by
  rw [value_bytes, Nat.mod_eq_of_lt h]

/-- Bytes spell a number below `256` to their count. -/
theorem value_lt (bs : List UInt8) : value bs < 256 ^ bs.length := by
  induction bs with
  | nil => simp [value]
  | cons b bs ih =>
    have hb : b.toNat < 256 := b.toNat_lt
    simp only [value, List.length_cons, Nat.pow_succ]
    omega

/-- The region at the start of some bytes, as long as a known prefix, is that prefix. -/
theorem region_append {xs : List UInt8} {n : Nat} (h : xs.length = n) (rest : List UInt8) :
    region (xs ++ rest) 0 n = xs := by
  subst h
  simp [region]

/-- Below its count, a region reads the bytes it was cut from, or zero past their end. -/
theorem getD_region {bs : List UInt8} {n i : Nat} (h : i < n) :
    (region bs 0 n).getD i 0 = bs.getD i 0 := by
  simp only [region, List.drop_zero, List.getD_eq_getElem?_getD, List.getElem?_append,
    List.length_take, List.getElem?_take, List.getElem?_replicate]
  by_cases hi : i < bs.length
  · rw [if_pos (by omega), if_pos h]
  · rw [if_neg (by omega), if_pos (by omega), List.getElem?_eq_none (by omega)]
    rfl

/-- A region inside the bytes is their first `count` bytes. -/
theorem region_of_le {bs : List UInt8} {count : Nat} (h : count ≤ bs.length) :
    region bs 0 count = bs.take count := by
  simp [region, List.length_take, Nat.min_eq_left h]

@[simp] theorem length_region (bs : List UInt8) (start count : Nat) :
    (region bs start count).length = count := by
  simp only [region, List.length_append, List.length_replicate, List.length_take]
  omega

/-- A word as a signed integer: itself below the sign bit, less `2 ^ (8 * width)` from it on. -/
theorem toInt_eq (width w : Nat) :
    toInt width w = if w < 2 ^ (8 * width - 1) then (w : Int) else (w : Int) - 2 ^ (8 * width) := by
  rw [toInt, Nat.pow_eq, Int.pow_eq]

/-- The two's-complement word of `i`: `i` modulo `2 ^ (8 * width)`. -/
theorem ofInt_eq (width : Nat) (i : Int) : ofInt width i = (i % 2 ^ (8 * width)).toNat := by
  rw [ofInt, Int.pow_eq]

/-- A word below the sign bit reads as itself. -/
theorem toInt_of_lt {w n : Nat} (h : n < 2 ^ (8 * w - 1)) : toInt w n = n := by
  simp [toInt, h]

/-- Splitting a word's bytes and what follows them yields the word first. -/
theorem words_bytes_append {w : Nat} (hw : 0 < w) (n : Nat) (rest : List UInt8) :
    words w (bytes w n ++ rest) = n % 256 ^ w :: words w rest := by
  rw [words, dif_neg (by omega), if_neg (by simp)]
  simp [List.take_left', List.drop_left', value_bytes]

theorem words_nil (w : Nat) : words w [] = [] := by
  rw [words]
  split
  · rfl
  · rw [if_pos (by simp only [List.length_nil]; omega)]

/-- Words written one after another split back into the words, each cut to its width. -/
theorem words_ofWords_append {w : Nat} (hw : 0 < w) (xs : List Nat) (rest : List UInt8) :
    words w (ofWords w xs ++ rest) = xs.map (· % 256 ^ w) ++ words w rest := by
  induction xs with
  | nil => simp [ofWords]
  | cons x xs ih =>
    simp only [ofWords, List.flatMap_cons, List.append_assoc] at ih ⊢
    rw [words_bytes_append hw, ih]
    simp

/-- Words that fit their width survive being written and split again. -/
theorem words_ofWords {w : Nat} (hw : 0 < w) {xs : List Nat} (hxs : ∀ x ∈ xs, x < 256 ^ w) :
    words w (ofWords w xs) = xs := by
  have h := words_ofWords_append hw xs []
  rw [List.append_nil, words_nil, List.append_nil] at h
  rw [h]
  conv => rhs; rw [← List.map_id xs]
  exact List.map_congr_left fun x hx => Nat.mod_eq_of_lt (hxs x hx)

/-- The first `k` words' bytes of written words are the bytes of the first `k` words. -/
theorem take_ofWords (w : Nat) (xs : List Nat) (k : Nat) :
    (ofWords w xs).take (k * w) = ofWords w (xs.take k) := by
  induction xs generalizing k with
  | nil => simp [ofWords]
  | cons x xs ih =>
    cases k with
    | zero => simp [ofWords]
    | succ k =>
      simp only [ofWords, List.flatMap_cons, List.take_succ_cons] at ih ⊢
      rw [Nat.succ_mul, Nat.add_comm, List.take_append, length_bytes, Nat.add_sub_cancel_left,
        List.take_of_length_le (by simp), ih]

@[simp] theorem length_ofWords (w : Nat) (xs : List Nat) :
    (ofWords w xs).length = w * xs.length := by
  induction xs with
  | nil => simp [ofWords]
  | cons x xs ih =>
    simp only [ofWords, List.flatMap_cons, List.length_append, length_bytes] at ih ⊢
    rw [ih, List.length_cons, Nat.mul_succ, Nat.add_comm]

theorem words_cons {w : Nat} (hw : 0 < w) {bs : List UInt8} (h : w ≤ bs.length) :
    words w bs = value (bs.take w) :: words w (bs.drop w) := by
  rw [words, dif_neg (by omega), if_neg (by omega)]

/-- Splitting bytes into words yields one word per whole `w` bytes. -/
theorem length_words {w : Nat} (hw : 0 < w) (bs : List UInt8) :
    (words w bs).length = bs.length / w := by
  fun_induction words w bs with
  | case1 => omega
  | case2 bs _ hlt => exact (Nat.div_eq_of_lt hlt).symm
  | case3 bs _ hle ih =>
    rw [List.length_cons, ih, List.length_drop]
    exact (Nat.div_eq_sub_div hw (by omega)).symm

/-- Word `k` of some bytes is the value of their bytes `[k * w, (k + 1) * w)`. -/
theorem getD_words {w : Nat} (hw : 0 < w) :
    ∀ {k : Nat} {bs : List UInt8}, (k + 1) * w ≤ bs.length →
      (words w bs).getD k 0 = value ((bs.drop (k * w)).take w)
  | 0, bs, h => by
    rw [words_cons hw (by omega), List.getD_cons_zero, Nat.zero_mul, List.drop_zero]
  | k + 1, bs, h => by
    have hlen : w ≤ bs.length := Nat.le_trans (Nat.le_mul_of_pos_left w (Nat.succ_pos _)) h
    rw [words_cons hw hlen, List.getD_cons_succ,
      getD_words hw (by rw [List.length_drop]; rw [Nat.succ_mul] at h; omega),
      List.drop_drop, Nat.succ_mul, Nat.add_comm (k * w) w]

/-- Below its count, a region reads its bytes from its start on, or zero past their end. -/
theorem getD_region_add {bs : List UInt8} {s n i : Nat} (h : i < n) :
    (region bs s n).getD i 0 = bs.getD (s + i) 0 := by
  simp only [region, List.getD_eq_getElem?_getD, List.getElem?_append,
    List.length_take, List.getElem?_take, List.getElem?_replicate, List.length_drop,
    List.getElem?_drop]
  by_cases hi : s + i < bs.length
  · rw [if_pos (by omega), if_pos h]
  · rw [if_neg (by omega), if_pos (by omega), List.getElem?_eq_none (by omega)]
    rfl

/-- A part of a region inside it is the region of that part. -/
theorem drop_take_region {bs : List UInt8} {a b c : Nat} (h : a + b ≤ c) :
    ((region bs 0 c).drop a).take b = region bs a b := by
  apply List.ext_getElem
  · simp only [List.length_take, List.length_drop, length_region]
    omega
  · intro i h1 h2
    simp only [length_region] at h2
    have hl := @getD_region_add bs 0 c (a + i) (by omega)
    have hr := @getD_region_add bs a b i h2
    rw [List.getD_eq_getElem?_getD, List.getElem?_eq_getElem (by simp; omega),
      Option.getD_some] at hl hr
    simp only [List.getElem_take, List.getElem_drop, hl, hr, Nat.zero_add]

/-- A region inside the first `c` bytes of a region is the region of the bytes it was cut from. -/
theorem region_region {bs : List UInt8} {s n c : Nat} (h : s + n ≤ c) :
    region (region bs 0 c) s n = region bs s n := by
  have hlen : (((region bs 0 c).drop s).take n).length = n := by
    simp only [List.length_take, List.length_drop, length_region]
    omega
  show ((region bs 0 c).drop s).take n ++
      List.replicate (n - (((region bs 0 c).drop s).take n).length) 0 = _
  rw [hlen, Nat.sub_self, List.replicate_zero, List.append_nil, drop_take_region h]

/-- Word `k` of the first `c` bytes of a region is the value of its bytes `[k * w, (k + 1) * w)`. -/
theorem getD_words_region {w : Nat} (hw : 0 < w) {bs : List UInt8} {k c : Nat}
    (h : (k + 1) * w ≤ c) : (words w (region bs 0 c)).getD k 0 = value (region bs (k * w) w) := by
  rw [getD_words hw (by rw [length_region]; exact h),
    drop_take_region (by rw [Nat.succ_mul] at h; omega)]

/-- The first `n` bytes of a region do not see past its first `e ≥ n` bytes. -/
theorem region_take {bs : List UInt8} {e n : Nat} (h : n ≤ e) :
    region (bs.take e) 0 n = region bs 0 n := by
  simp only [region, List.drop_zero, List.take_take, Nat.min_eq_left h]


/-- Bytes are the bytes of the number they spell, to their count. -/
theorem bytes_value : ∀ bs : List UInt8, bytes bs.length (value bs) = bs
  | [] => rfl
  | b :: bs => by
    have hb : b.toNat < 256 := b.toNat_lt
    rw [List.length_cons, bytes_succ, value,
      show (b.toNat + 256 * value bs) % 256 = b.toNat by omega,
      show (b.toNat + 256 * value bs) / 256 = value bs by omega, bytes_value bs]
    simp

/-- A region from a position on, after dropping bytes, is the region that far further on. -/
theorem region_drop (bs : List UInt8) (p s c : Nat) :
    region (bs.drop p) s c = region bs (p + s) c := by
  simp only [region, List.drop_drop]

/-- Consecutive regions make one. -/
theorem region_add (bs : List UInt8) (s a c : Nat) :
    region bs s (a + c) = region bs s a ++ region bs (s + a) c := by
  have hget : ∀ {l : List UInt8} {i : Nat} (h : i < l.length), l[i] = l.getD i 0 := by
    intro l i h
    rw [List.getD_eq_getElem?_getD, List.getElem?_eq_getElem h, Option.getD_some]
  apply List.ext_getElem (by simp)
  intro i h1 h2
  rw [List.getElem_append]
  split
  · rename_i hi
    rw [hget h1, hget hi, getD_region_add (by simpa using h1),
      getD_region_add (by simpa using hi)]
  · rename_i hi
    rw [hget h1, hget (by simp only [length_region] at h1 hi ⊢; omega),
      getD_region_add (by simpa using h1), getD_region_add (by simp only [length_region] at h1 hi ⊢; omega)]
    congr 1
    simp only [length_region] at hi ⊢
    omega

end LittleEndian

end Columnar
