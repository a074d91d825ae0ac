import Columnar.Proofs.Valid

/-!
# Bitmaps stay inside their bytes

A bitmap reads bit `i` from byte `(offset + i) / 8` of its stored bytes, so everything it does
rests on two facts, `InBounds`: the end of its bits, `offset + len`, is a machine word, and the
stored bytes reach the byte of the last bit, `⌈(offset + len) / 8⌉ ≤ bytes.length`
(`Bitmap.Stored`). `wrap` establishes both: its check is the unbounded one, and an end that
overflows a word stops the call before it, so no wrapped sum lets a short byte string through.
Every way of moving the bits keeps them:

* `slice o l` inside the bitmap never breaks a precondition: its sums are words, and the byte
  window `[⌊(offset + o) / 8⌋, ⌈(offset + o + l) / 8⌉)` it shares lies in the stored bytes,
  for every residue of `offset + o` and every length, an empty one included. The window is in
  bounds, starts below bit 8 of its first byte and has the bits from `o` on.
* `toAligned` puts the bits at offset 0 in exactly `⌈len / 8⌉` bytes: the shared bytes of the
  zero-copy path at a byte boundary lie in the stored ones, and the repacked bytes elsewhere
  are that many.

Counting needs none of this: reading a missing byte as zero, `countOnes` on either of its paths
counts the set bits, and `countZeros` the clear ones, with `countZeros + countOnes = len`.
-/

namespace Columnar.Bitmap

/-- What the bitmaps the library hands out satisfy: the end of the bits is a word, and the
stored bytes hold every bit. -/
structure InBounds (m : Bitmap) : Prop where
  end_le : m.offset + m.len ≤ wordMax
  stored : m.Stored

/-! ## Wrapping stored bytes -/

/-- `new` accepts exactly the bytes that reach the end of the bits, with that end taken as an
unbounded number. -/
theorem new_ok_iff {bytes : List UInt8} {o l : Nat} {fl : Bool} :
    (∃ b, new bytes o l fl = .ok b) ↔ (o + l + 7) / 8 ≤ bytes.length := by
  constructor
  · rintro ⟨b, hb⟩
    unfold new at hb
    split at hb
    · cases hb
    · rename_i hfit
      exact Nat.not_lt.1 hfit
  · intro hfit
    exact ⟨_, new_of_le fl hfit⟩

/-- Wrapping succeeds exactly when the end of the bits is a word and the bytes reach it; the
bitmap is then the bytes as they are. -/
theorem wrap_eq_ok_iff {bytes : List UInt8} {o l : Nat} {b : Bitmap} :
    wrap bytes o l = .ok b ↔
      o + l ≤ wordMax ∧ (o + l + 7) / 8 ≤ bytes.length ∧ b = ⟨bytes, o, l, false⟩ := by
  by_cases hw : o + l ≤ wordMax
  · have hadd : addWords o l = .ok (o + l) := if_pos hw
    by_cases hfit : (o + l + 7) / 8 ≤ bytes.length
    · simp only [wrap, hadd, bind, Except.bind, new_of_le false hfit, Outcome.ofResult,
        Except.ok.injEq]
      exact ⟨fun h => ⟨hw, hfit, h.symm⟩, fun h => h.2.2.symm⟩
    · have hnew : new bytes o l = .error _ := if_pos (Nat.lt_of_not_le hfit)
      simp only [wrap, hadd, bind, Except.bind, hnew, Outcome.ofResult]
      exact ⟨by rintro ⟨⟩, fun h => absurd h.2.1 hfit⟩
  · have hadd : addWords o l = .error (.panic "attempt to add with overflow") := if_neg hw
    simp only [wrap, hadd, bind, Except.bind]
    exact ⟨by rintro ⟨⟩, fun h => absurd h.1 hw⟩

/-- Wrapping succeeds exactly when the end of the bits is a word and the bytes reach it. -/
theorem wrap_ok_iff {bytes : List UInt8} {o l : Nat} :
    (∃ b, wrap bytes o l = .ok b) ↔ o + l ≤ wordMax ∧ (o + l + 7) / 8 ≤ bytes.length := by
  constructor
  · rintro ⟨b, hb⟩
    obtain ⟨hw, hfit, -⟩ := wrap_eq_ok_iff.1 hb
    exact ⟨hw, hfit⟩
  · rintro ⟨hw, hfit⟩
    exact ⟨_, wrap_eq_ok_iff.2 ⟨hw, hfit, rfl⟩⟩

/-- What `wrap` hands out is in bounds. -/
theorem InBounds.of_wrap {bytes : List UInt8} {o l : Nat} {b : Bitmap}
    (h : wrap bytes o l = .ok b) : b.InBounds := by
  obtain ⟨hw, hfit, rfl⟩ := wrap_eq_ok_iff.1 h
  exact ⟨hw, hfit⟩

/-! ## Windows -/

/-- A slice inside a bitmap in bounds takes its window: every sum on the way is a word, and the
bytes the window shares lie in the stored ones. -/
theorem slice_eq_window {m : Bitmap} (hm : m.InBounds) {o l : Nat} (hol : o + l ≤ m.len) :
    m.slice o l = .ok (m.window o l) := by
  have hend := hm.end_le
  have hstored : (m.offset + m.len + 7) / 8 ≤ m.bytes.length := hm.stored
  have hsum : addWords o l = .ok (o + l) := if_pos (by omega)
  have hstart : addWords m.offset o = .ok (m.offset + o) := if_pos (by omega)
  have hreach : addWords ((m.offset + o) % 8) l = .ok ((m.offset + o) % 8 + l) :=
    if_pos (by omega)
  -- the window's bytes run from the byte of its first bit to the byte of its last bit
  have hbytes : checkElements ((m.offset + o) / 8) (((m.offset + o) % 8 + l + 7) / 8)
      m.bytes.length = .ok () := if_pos (by omega)
  simp only [slice, hsum, hstart, hreach, hbytes, bind, Except.bind, if_pos hol]
  rfl

theorem offset_window_lt (m : Bitmap) (o l : Nat) : (m.window o l).offset < 8 :=
  Nat.mod_lt _ (by decide)

/-- A window inside a bitmap in bounds is in bounds. -/
theorem InBounds.window {m : Bitmap} (hm : m.InBounds) {o l : Nat} (hol : o + l ≤ m.len) :
    (m.window o l).InBounds where
  end_le := by
    have hend := hm.end_le
    show (m.offset + o) % 8 + l ≤ wordMax
    omega
  stored := hm.stored.window hol

/-! ## Alignment -/

@[simp] theorem offset_toAligned (m : Bitmap) : m.toAligned.offset = 0 := by
  unfold toAligned
  split <;> rfl

/-- At a byte boundary the bytes `toAligned` shares, `⌈len / 8⌉` from the byte of the first
bit, lie in the stored bytes. -/
theorem aligned_bytes_inside {m : Bitmap} (hm : m.Stored) (h : m.offset % 8 = 0) :
    checkElements (m.offset / 8) ((m.len + 7) / 8) m.bytes.length = .ok () := by
  unfold Stored at hm
  exact if_pos (by omega)

/-- The aligned bits take exactly `⌈len / 8⌉` bytes, shared or repacked. -/
theorem length_toAligned_bytes {m : Bitmap} (hm : m.Stored) :
    m.toAligned.bytes.length = (m.len + 7) / 8 := by
  unfold toAligned
  split
  next h =>
    unfold Stored at hm
    simp only [List.length_take, List.length_drop]
    omega
  next => simp [ofBools, pack, bits]

/-- The aligned form of a bitmap in bounds is in bounds. -/
theorem InBounds.toAligned {m : Bitmap} (hm : m.InBounds) : m.toAligned.InBounds where
  end_le := by
    have hend := hm.end_le
    rw [offset_toAligned, len_toAligned]
    omega
  stored := by
    show (m.toAligned.offset + m.toAligned.len + 7) / 8 ≤ m.toAligned.bytes.length
    refine Nat.le_of_eq ?_
    rw [offset_toAligned, len_toAligned, length_toAligned_bytes hm.stored, Nat.zero_add]

/-! ## The laws -/

/-- Bitmaps keep their bits in bounds. `new` accepts exactly the bytes that reach the end of
the bits computed without bound, and `wrap`, which first takes that end as a word sum, accepts
exactly when it is a word and `new` does, so a wrapping sum lets no short bitmap through, and
what it accepts is in bounds. A
slice of a bitmap in bounds, inside it, never breaks a precondition and gives the window, in
bounds at a bit offset below 8 with the bits from `o` on. Its aligned form is in bounds at bit
offset 0 in exactly `⌈len / 8⌉` bytes with the same bits, and at a byte boundary the bytes it
shares lie in the stored ones. -/
theorem windows_keep_bits :
    (∀ (bytes : List UInt8) (o l : Nat),
      ((∃ b, new bytes o l = .ok b) ↔ (o + l + 7) / 8 ≤ bytes.length) ∧
      ((∃ b, wrap bytes o l = .ok b) ↔
        o + l ≤ wordMax ∧ (o + l + 7) / 8 ≤ bytes.length) ∧
      ∀ b, wrap bytes o l = .ok b → b.InBounds) ∧
    ∀ m : Bitmap, m.InBounds →
      (∀ o l, o + l ≤ m.len →
        m.slice o l = .ok (m.window o l) ∧ (m.window o l).InBounds ∧
          (m.window o l).offset < 8 ∧ (m.window o l).len = l ∧
          ∀ i < l, (m.window o l).get i = m.get (o + i)) ∧
      (m.toAligned.InBounds ∧ m.toAligned.offset = 0 ∧
        m.toAligned.bytes.length = (m.len + 7) / 8 ∧ m.toAligned.len = m.len ∧
        (∀ i < m.len, m.toAligned.get i = m.get i) ∧
        (m.offset % 8 = 0 → checkElements (m.offset / 8) ((m.len + 7) / 8) m.bytes.length =
          .ok ())) := by
  refine ⟨fun bytes o l => ⟨new_ok_iff, wrap_ok_iff, fun b => InBounds.of_wrap⟩,
    fun m hm => ⟨fun o l hol => ?_, ?_⟩⟩
  · exact ⟨slice_eq_window hm hol, hm.window hol, offset_window_lt m o l, len_window m o l,
      fun i hi => get_window m o hi⟩
  · exact ⟨hm.toAligned, offset_toAligned m, length_toAligned_bytes hm.stored, len_toAligned m,
      fun i hi => get_toAligned m hi, aligned_bytes_inside hm.stored⟩

/-- Fourteen bits from bit 3 of three bytes: in bounds, so sliced and aligned safely. -/
theorem windows_keep_bits_three_bytes :
    let m : Bitmap := ⟨[0xb5, 0xff, 0x01], 3, 14, false⟩
    m.InBounds ∧
      (∀ o l, o + l ≤ m.len →
        m.slice o l = .ok (m.window o l) ∧ (m.window o l).InBounds ∧
          (m.window o l).offset < 8 ∧ (m.window o l).len = l ∧
          ∀ i < l, (m.window o l).get i = m.get (o + i)) ∧
      (m.toAligned.InBounds ∧ m.toAligned.offset = 0 ∧
        m.toAligned.bytes.length = (m.len + 7) / 8 ∧ m.toAligned.len = m.len ∧
        (∀ i < m.len, m.toAligned.get i = m.get i) ∧
        (m.offset % 8 = 0 → checkElements (m.offset / 8) ((m.len + 7) / 8) m.bytes.length =
          .ok ())) := by
  intro m
  have hm : m.InBounds := ⟨by decide, by dsimp only [m, Stored]; decide⟩
  exact ⟨hm, windows_keep_bits.2 m hm⟩

/-- Both counts are counts of bits. On either path `countOnes` is the number of set bits below
the length, so it never exceeds the length, `countZeros` never underflows, and `countZeros` is
the number of clear bits: the null count of a validity bitmap. -/
theorem counts_are_bit_counts (m : Bitmap) :
    m.countOnes = (List.range m.len).countP m.get ∧ m.countOnes ≤ m.len ∧
      m.countZeros + m.countOnes = m.len ∧
      m.countZeros = (List.range m.len).countP fun i => !m.get i := by
  have hones := countOnes_eq_countP m
  have hle : m.countOnes ≤ m.len := by
    rw [hones]
    calc (List.range m.len).countP m.get ≤ (List.range m.len).length := List.countP_le_length
      _ = m.len := List.length_range
  refine ⟨hones, hle, ?_, countZeros_eq_countP m⟩
  rw [countZeros]
  omega

end Columnar.Bitmap
