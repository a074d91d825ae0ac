import Columnar.Column.Bitmap
import Columnar.Proofs.Basic

/-!
# Bitmaps keep their bits

A bitmap is read bit by bit through `storedBit`, which reads a missing byte as zero. Every
way the library moves a bitmap keeps its logical bits: a window shares the bytes from the
byte that holds its first bit, `toAligned` moves the bits to bit 0 (sharing the bytes at a
byte boundary, packing them anew elsewhere), and a consumer that reads the first bytes of an
exported bitmap at an offset inside it sees the bits from that offset on:

> `(m.window o l).get j = m.get (o + j)` and `m.toAligned.get j = m.get j` below the length.

`countOnes` counts whole bytes at a byte boundary, masking the padding of the last one, and
bit by bit elsewhere; either way it counts the set bits (`countOnes_eq_countP`), so a count of
clear bits depends on the bits alone (`countZeros_eq_countP`) and follows them through all of
these.
-/

namespace Columnar.Bitmap

/-! ## Stored bits -/

/-- Cutting whole bytes from the front moves each stored bit down by eight per byte, and
cutting the tail keeps the bits of the bytes that stay. -/
theorem storedBit_drop_take {bytes : List UInt8} {s n j : Nat} (h : j / 8 < n) :
    storedBit ((bytes.drop s).take n) j = storedBit bytes (8 * s + j) := by
  have hdiv : (8 * s + j) / 8 = s + j / 8 := by omega
  have hmod : (8 * s + j) % 8 = j % 8 := by omega
  simp only [storedBit, List.getD_eq_getElem?_getD, List.getElem?_take, if_pos h,
    List.getElem?_drop, hdiv, hmod]

theorem storedBit_region {bytes : List UInt8} {n j : Nat} (h : j / 8 < n) :
    storedBit (LittleEndian.region bytes 0 n) j = storedBit bytes j := by
  simp only [storedBit, LittleEndian.getD_region h]

/-! ## Packing -/

theorem foldr_bits_lt (bs : List Bool) :
    bs.foldr (fun (b : Bool) (acc : Nat) => (if b then 1 else 0) + 2 * acc) 0 <
      2 ^ bs.length := by
  induction bs with
  | nil => simp
  | cons b bs ih =>
    simp only [List.foldr_cons, List.length_cons, Nat.pow_succ]
    split <;> omega

/-- Binary digit `k` of the number whose digits, least significant first, are the bits. -/
theorem foldr_bits_digit (bs : List Bool) (k : Nat) :
    bs.foldr (fun (b : Bool) (acc : Nat) => (if b then 1 else 0) + 2 * acc) 0 / 2 ^ k % 2 =
      if bs.getD k false then 1 else 0 := by
  induction bs generalizing k with
  | nil => simp
  | cons b bs ih =>
    cases k with
    | zero =>
      simp only [List.foldr_cons, Nat.pow_zero, Nat.div_one, List.getD_cons_zero]
      split <;> omega
    | succ k =>
      -- the lowest digit goes, and the rest is the number of the remaining bits
      have hhalf : ((if b then 1 else 0) +
          2 * bs.foldr (fun (b : Bool) (acc : Nat) => (if b then 1 else 0) + 2 * acc) 0) / 2 =
          bs.foldr (fun (b : Bool) (acc : Nat) => (if b then 1 else 0) + 2 * acc) 0 := by
        split <;> omega
      rw [List.foldr_cons, List.getD_cons_succ, ← ih k, Nat.pow_succ',
        ← Nat.div_div_eq_div_mul, hhalf]

/-- Bit `k` of a packed byte is the `k`-th of its bits. -/
theorem testBit_byteOf {bs : List Bool} (h : bs.length ≤ 8) (k : Nat) :
    (byteOf bs).toNat / 2 ^ k % 2 = if bs.getD k false then 1 else 0 := by
  have hlt : bs.foldr (fun (b : Bool) (acc : Nat) => (if b then 1 else 0) + 2 * acc) 0 < 256 :=
    Nat.lt_of_lt_of_le (foldr_bits_lt bs) (by
      calc 2 ^ bs.length ≤ 2 ^ 8 := Nat.pow_le_pow_right (by decide) h
        _ = 256 := rfl)
  rw [byteOf, UInt8.toNat_ofNat', Nat.mod_eq_of_lt hlt, foldr_bits_digit]

/-- Packed bits read back one by one; past the end they read as clear. -/
theorem storedBit_pack (bs : List Bool) (j : Nat) :
    storedBit (pack bs) j = bs.getD j false := by
  unfold storedBit pack
  rw [Nat.pow_eq]
  have hk : j % 8 < 8 := Nat.mod_lt j (by decide)
  -- the byte of bit `j` holds the bits from `8 * (j / 8)` on
  have hbyte : ((bs.drop (8 * (j / 8))).take 8).getD (j % 8) false = bs.getD j false := by
    simp only [List.getD_eq_getElem?_getD, List.getElem?_take, if_pos hk, List.getElem?_drop]
    rw [show 8 * (j / 8) + j % 8 = j by omega]
  by_cases hi : j / 8 < (bs.length + 7) / 8
  · rw [List.getD_eq_getElem?_getD, List.getElem?_map, List.getElem?_range hi, Option.map_some,
      Option.getD_some, testBit_byteOf (List.length_take_le 8 _), hbyte]
    cases bs.getD j false <;> simp
  · -- no byte holds bit `j`, which lies past the bits
    have hpast : bs.getD j false = false := by
      rw [List.getD_eq_getElem?_getD, List.getElem?_eq_none (by omega)]
      rfl
    rw [hpast, List.getD_eq_getElem?_getD, List.getElem?_eq_none (by simp; omega)]
    simp

theorem get_ofBools (bs : List Bool) (j : Nat) : (ofBools bs).get j = bs.getD j false := by
  simp only [ofBools, get, Nat.zero_add, storedBit_pack]

theorem getD_bits (m : Bitmap) {j : Nat} (hj : j < m.len) : m.bits.getD j false = m.get j := by
  simp only [bits, List.getD_eq_getElem?_getD, List.getElem?_map, List.getElem?_range hj,
    Option.map_some, Option.getD_some]

/-! ## Windows and alignment -/

/-- Bit `j` of a window is bit `o + j` of the bitmap. -/
theorem get_window (m : Bitmap) (o : Nat) {l j : Nat} (hj : j < l) :
    (m.window o l).get j = m.get (o + j) := by
  simp only [window, get]
  rw [storedBit_drop_take (by omega)]
  congr 1
  omega

@[simp] theorem len_window (m : Bitmap) (o l : Nat) : (m.window o l).len = l := rfl

/-- Aligning keeps every bit: the bytes are shared from the first one when the bits start at
a byte boundary, and packed anew otherwise. -/
theorem get_toAligned (m : Bitmap) {j : Nat} (hj : j < m.len) :
    m.toAligned.get j = m.get j := by
  unfold toAligned
  split
  next =>
    simp only [get]
    rw [Nat.zero_add, storedBit_drop_take (by omega)]
    congr 1
    omega
  next => rw [get_ofBools, getD_bits m hj]

@[simp] theorem len_toAligned (m : Bitmap) : m.toAligned.len = m.len := by
  unfold toAligned
  split
  · rfl
  · simp [ofBools, bits]

/-- A consumer that reads the first `⌈(o + l) / 8⌉` bytes of an exported bitmap at bit
offset `o` sees bits `[o, o + l)` of the bitmap. -/
theorem get_readBack (m : Bitmap) {o l j : Nat} (hol : o + l ≤ m.len) (hj : j < l)
    (fl : Bool) :
    (⟨LittleEndian.region m.toAligned.bytes 0 ((o + l + 7) / 8), o, l, fl⟩ : Bitmap).get j =
      m.get (o + j) := by
  have haligned : m.toAligned.get (o + j) = m.get (o + j) := get_toAligned m (by omega)
  have hoff : m.toAligned.offset = 0 := by
    unfold toAligned
    split <;> rfl
  simp only [get, hoff, Nat.zero_add] at haligned ⊢
  rw [storedBit_region (by omega), haligned]

/-! ## Counting set bits

At a byte boundary `countOnes` counts whole bytes with the population count of a byte and
masks the last, partial byte; the counts agree with the bits one by one because byte `s`
holds bits `8 * s` to `8 * s + 7`, least significant first. -/

theorem cpopNatRec_eq_countP {w : Nat} (x : BitVec w) (n acc : Nat) :
    x.cpopNatRec n acc = acc + (List.range n).countP x.getLsbD := by
  induction n generalizing acc with
  | zero => simp
  | succ n ih =>
    rw [BitVec.cpopNatRec_succ, ih, List.range_succ, List.countP_append, List.countP_singleton]
    cases x.getLsbD n with
    | false =>
      rw [Bool.toNat_false, if_neg Bool.false_ne_true]
      omega
    | true =>
      rw [Bool.toNat_true, if_pos rfl]
      omega

/-- A byte's set bits, counted over its eight bits. -/
theorem byteOnes_eq_countP (b : UInt8) : byteOnes b = (List.range 8).countP b.toNat.testBit := by
  rw [byteOnes, BitVec.toNat_cpop, cpopNatRec_eq_countP, Nat.zero_add]
  rfl

@[simp] theorem byteOnes_zero : byteOnes 0 = 0 := by
  decide

/-- Masking a byte with `(1 <<< r) - 1` keeps its low `r` bits, and they are what is counted. -/
theorem byteOnes_and_mask (b : UInt8) {r : Nat} (hr : r < 8) :
    byteOnes (b &&& ((1 <<< r.toUInt8) - 1)) = (List.range r).countP b.toNat.testBit := by
  have hmask : ∀ r < 8, (((1 : UInt8) <<< r.toUInt8) - 1).toNat = 2 ^ r - 1 := by decide
  have hlow : (b &&& ((1 <<< r.toUInt8) - 1)).toNat = b.toNat % 2 ^ r := by
    rw [UInt8.toNat_and, hmask r hr, Nat.and_two_pow_sub_one_eq_mod]
  rw [byteOnes_eq_countP, hlow, show 8 = r + (8 - r) by omega, List.range_add,
    List.countP_append, List.countP_map]
  -- the bits from `r` on are cleared by the mask
  have hhigh : (List.range (8 - r)).countP ((b.toNat % 2 ^ r).testBit ∘ (r + ·)) = 0 := by
    refine List.countP_eq_zero.2 fun k _ => ?_
    rw [Function.comp_apply, Nat.testBit_mod_two_pow, decide_eq_false (by omega : ¬r + k < r),
      Bool.false_and]
    exact Bool.false_ne_true
  rw [hhigh, Nat.add_zero]
  apply List.countP_congr
  intro k hk
  simp [Nat.testBit_mod_two_pow, List.mem_range.1 hk]

theorem storedBit_eq_testBit (bytes : List UInt8) (j : Nat) :
    storedBit bytes j = (bytes.getD (j / 8) 0).toNat.testBit (j % 8) := by
  simp [storedBit, Nat.testBit_eq_decide_div_mod_eq]

/-- The first `r ≤ 8` stored bits from byte `s` on are the low `r` bits of that byte. -/
theorem countP_storedBit_byte (bytes : List UInt8) (s : Nat) {r : Nat} (hr : r ≤ 8) :
    (List.range r).countP (fun k => storedBit bytes (8 * s + k)) =
      (List.range r).countP (bytes.getD s 0).toNat.testBit := by
  apply List.countP_congr
  intro k hk
  have hk8 : k < 8 := Nat.lt_of_lt_of_le (List.mem_range.1 hk) hr
  rw [storedBit_eq_testBit, show (8 * s + k) / 8 = s by omega, show (8 * s + k) % 8 = k by omega]

/-- Counting the bits of a shifted window is counting from the shifted byte. -/
theorem countP_storedBit_shift (bytes : List UInt8) (s n r : Nat) :
    (List.range r).countP ((fun i => storedBit bytes (8 * s + i)) ∘ (8 * n + ·)) =
      (List.range r).countP fun i => storedBit bytes (8 * (s + n) + i) := by
  apply List.countP_congr
  intro i _
  simp only [Function.comp_apply]
  rw [show 8 * s + (8 * n + i) = 8 * (s + n) + i by omega]

theorem sum_byteOnes_succ (bytes : List UInt8) (s n : Nat) :
    (((bytes.drop s).take (n + 1)).map byteOnes).sum =
      byteOnes (bytes.getD s 0) + (((bytes.drop (s + 1)).take n).map byteOnes).sum := by
  by_cases hs : s < bytes.length
  · rw [List.drop_eq_getElem_cons hs, List.take_succ_cons, List.map_cons, List.sum_cons,
      List.getD_eq_getElem?_getD, List.getElem?_eq_getElem hs, Option.getD_some]
  · -- past the stored bytes there is nothing to count, and a missing byte reads as zero
    rw [List.drop_eq_nil_of_le (by omega), List.drop_eq_nil_of_le (by omega),
      List.getD_eq_getElem?_getD, List.getElem?_eq_none (by omega)]
    simp

/-- The set bits of `n` whole bytes from byte `s` are the set bits among their `8 * n` bits. -/
theorem sum_byteOnes (bytes : List UInt8) (s n : Nat) :
    (((bytes.drop s).take n).map byteOnes).sum =
      (List.range (8 * n)).countP fun i => storedBit bytes (8 * s + i) := by
  induction n generalizing s with
  | zero => simp
  | succ n ih =>
    rw [sum_byteOnes_succ, ih (s + 1), show 8 * (n + 1) = 8 * 1 + 8 * n by omega,
      List.range_add, List.countP_append, List.countP_map, countP_storedBit_shift,
      countP_storedBit_byte _ _ (Nat.le_refl 8), ← byteOnes_eq_countP]

/-- Counting set bits byte by byte at a byte boundary, or bit by bit elsewhere, counts the
logical bits that are set. -/
theorem countOnes_eq_countP (m : Bitmap) : m.countOnes = (List.range m.len).countP m.get := by
  unfold countOnes
  split
  next haligned =>
    dsimp only
    rw [← List.sum_eq_foldr]
    -- bit `i` is bit `i` of the bytes from the byte of the first bit on
    have hget : m.get = fun i => storedBit m.bytes (8 * (m.offset / 8) + i) := by
      funext i
      simp only [get]
      congr 1
      omega
    rw [hget]
    -- the `len / 8` whole bytes, then the `len % 8` bits of the next byte
    conv => rhs; rw [← Nat.div_add_mod m.len 8, List.range_add, List.countP_append,
      List.countP_map, countP_storedBit_shift]
    rw [← sum_byteOnes]
    split
    next hrem =>
      have hr : m.len % 8 < 8 := Nat.mod_lt _ (by decide)
      rw [byteOnes_and_mask _ hr, countP_storedBit_byte _ _ (Nat.le_of_lt hr)]
    next hrem =>
      rw [show m.len % 8 = 0 by omega, List.range_zero, List.countP_nil, Nat.add_zero]
  next =>
    simp only [bits, ← List.countP_eq_length_filter, List.countP_map]
    rfl

/-! ## Counting clear bits -/

/-- The clear bits, counted one position at a time. -/
theorem countZeros_eq_countP (m : Bitmap) :
    m.countZeros = (List.range m.len).countP fun i => !m.get i := by
  have hsplit := List.length_eq_countP_add_countP m.get (l := List.range m.len)
  have hones := countOnes_eq_countP m
  have hnot : (List.range m.len).countP (fun a => decide ¬m.get a = true) =
      (List.range m.len).countP fun i => !m.get i := by
    apply List.countP_congr
    intro i _
    simp
  rw [countZeros, hones, ← hnot]
  simp only [List.length_range] at hsplit
  omega

/-- Stored bytes long enough for the bits are wrapped as they are. -/
theorem new_of_le {bytes : List UInt8} {offset len : Nat} (fl : Bool)
    (h : (offset + len + 7) / 8 ≤ bytes.length) :
    new bytes offset len fl = .ok ⟨bytes, offset, len, fl⟩ := by
  rw [new, if_neg (by omega)]

end Columnar.Bitmap
