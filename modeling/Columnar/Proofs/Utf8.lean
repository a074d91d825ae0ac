import Columnar.Text.Utf8
import Columnar.Proofs.Basic

/-!
# UTF-8 reads back what it writes

Every string crossing the boundary (a name, a format string, a metadata key or value) is
written with `Utf8.encode` and read with `Utf8.decode?`. The reader refuses exactly the byte
sequences RFC 3629 excludes, so the main fact here is that nothing the writer produces is
among them:

> `decode? (encode s) = some s`.

The proof goes one code point at a time: the four widths of `encodeChar` each produce a lead
byte that `width` classifies correctly, a second byte inside `secondRange` of that lead (the
narrow ranges after `E0`, `ED`, `F0` and `F4` are exactly where a shortest form of a scalar
value never lands), and continuation bytes; `codePoint` then undoes the split.

Conversely the reader takes only shortest forms, so bytes that read as text are that text's
UTF-8 (`encode_of_decode?`): lengths and byte strings read from a buffer are written back
unchanged.

A last fact serves C strings: only the code point zero is written as a zero byte.
-/

namespace Columnar.Utf8

/-! ## The byte classes as numbers -/

/-- A character is a Unicode scalar value: below the surrogates, or above them and below
`110000`. -/
theorem char_toNat_valid (c : Char) :
    c.toNat < 0xD800 ∨ (0xDFFF < c.toNat ∧ c.toNat < 0x110000) :=
  c.valid

theorem width_eq (a : UInt8) : width a =
    if a.toNat < 0x80 then some 1
    else if 0xC2 ≤ a.toNat ∧ a.toNat ≤ 0xDF then some 2
    else if 0xE0 ≤ a.toNat ∧ a.toNat ≤ 0xEF then some 3
    else if 0xF0 ≤ a.toNat ∧ a.toNat ≤ 0xF4 then some 4
    else none := by
  simp [width, UInt8.lt_iff_toNat_lt, UInt8.le_iff_toNat_le]

theorem secondOk_eq (a b : UInt8) : secondOk a b =
    (if a.toNat = 0xE0 then decide (0xA0 ≤ b.toNat ∧ b.toNat ≤ 0xBF)
    else if a.toNat = 0xED then decide (0x80 ≤ b.toNat ∧ b.toNat ≤ 0x9F)
    else if a.toNat = 0xF0 then decide (0x90 ≤ b.toNat ∧ b.toNat ≤ 0xBF)
    else if a.toNat = 0xF4 then decide (0x80 ≤ b.toNat ∧ b.toNat ≤ 0x8F)
    else decide (0x80 ≤ b.toNat ∧ b.toNat ≤ 0xBF)) := by
  unfold secondOk secondRange
  split_ifs <;> simp_all [UInt8.le_iff_toNat_le, ← UInt8.toNat_inj]

theorem isTail_eq (b : UInt8) : isTail b = decide (0x80 ≤ b.toNat ∧ b.toNat ≤ 0xBF) := by
  simp [isTail, UInt8.le_iff_toNat_le]

theorem toNat_toUInt8 {n : Nat} (h : n < 256) : n.toUInt8.toNat = n := by
  simp [Nat.mod_eq_of_lt h]

/-! ## One sequence at a time -/

theorem decodeChars_one {a : UInt8} (h : width a = some 1) (r : List UInt8) :
    decodeChars (a :: r) = (decodeChars r).map (Char.ofNat a.toNat :: ·) := by
  rw [decodeChars.eq_def]
  simp [h]

theorem decodeChars_two {a : UInt8} (h : width a = some 2) (b : UInt8) (r : List UInt8) :
    decodeChars (a :: b :: r) =
      if secondOk a b then (decodeChars r).map (Char.ofNat (codePoint a [b]) :: ·)
      else none := by
  rw [decodeChars.eq_def]
  simp [h]

theorem decodeChars_three {a : UInt8} (h : width a = some 3) (b c : UInt8) (r : List UInt8) :
    decodeChars (a :: b :: c :: r) =
      if secondOk a b && isTail c then
        (decodeChars r).map (Char.ofNat (codePoint a [b, c]) :: ·)
      else none := by
  rw [decodeChars.eq_def]
  simp [h]

theorem decodeChars_four {a : UInt8} (h : width a = some 4) (b c d : UInt8)
    (r : List UInt8) :
    decodeChars (a :: b :: c :: d :: r) =
      if secondOk a b && isTail c && isTail d then
        (decodeChars r).map (Char.ofNat (codePoint a [b, c, d]) :: ·)
      else none := by
  rw [decodeChars.eq_def]
  simp [h]

/-- The bytes of one character read back as that character, whatever follows them. -/
theorem decodeChars_encodeChar_append (c : Char) (rest : List UInt8) :
    decodeChars (encodeChar c ++ rest) = (decodeChars rest).map (c :: ·) := by
  have hv := char_toNat_valid c
  simp only [encodeChar]
  split_ifs with h1 h2 h3
  · -- one byte: the code point itself
    have ha : c.toNat.toUInt8.toNat = c.toNat := toNat_toUInt8 (by omega)
    rw [List.singleton_append, decodeChars_one (by rw [width_eq, ha, if_pos h1]), ha,
      Char.ofNat_toNat]
  · -- two bytes: a lead in `C2`–`DF`, so no overlong form
    have ha : (192 + c.toNat / 64).toUInt8.toNat = 192 + c.toNat / 64 :=
      toNat_toUInt8 (by omega)
    have hb : (128 + c.toNat % 64).toUInt8.toNat = 128 + c.toNat % 64 := toNat_toUInt8 (by omega)
    have hw : width (192 + c.toNat / 64).toUInt8 = some 2 := by
      rw [width_eq, ha, if_neg (by omega), if_pos (by omega)]
    have hok : secondOk (192 + c.toNat / 64).toUInt8 (128 + c.toNat % 64).toUInt8 = true := by
      rw [secondOk_eq, ha, hb]
      split_ifs <;> simp <;> omega
    have hcp : codePoint (192 + c.toNat / 64).toUInt8 [(128 + c.toNat % 64).toUInt8] =
        c.toNat := by
      simp only [codePoint, List.length_singleton, List.foldl_cons, List.foldl_nil, ha, hb]
      omega
    rw [List.cons_append, List.cons_append, List.nil_append, decodeChars_two hw, if_pos hok,
      hcp, Char.ofNat_toNat]
  · -- three bytes: after `E0` the second byte is past `9F` (no overlong form), after `ED`
    -- below `A0` (no surrogate), which is where a scalar value below `10000` puts it
    have ha : (224 + c.toNat / 4096).toUInt8.toNat = 224 + c.toNat / 4096 :=
      toNat_toUInt8 (by omega)
    have hb : (128 + c.toNat / 64 % 64).toUInt8.toNat = 128 + c.toNat / 64 % 64 :=
      toNat_toUInt8 (by omega)
    have hc : (128 + c.toNat % 64).toUInt8.toNat = 128 + c.toNat % 64 := toNat_toUInt8 (by omega)
    have hw : width (224 + c.toNat / 4096).toUInt8 = some 3 := by
      rw [width_eq, ha, if_neg (by omega), if_neg (by omega), if_pos (by omega)]
    have hok : (secondOk (224 + c.toNat / 4096).toUInt8 (128 + c.toNat / 64 % 64).toUInt8 &&
        isTail (128 + c.toNat % 64).toUInt8) = true := by
      rw [secondOk_eq, isTail_eq, ha, hb, hc]
      split_ifs <;> simp <;> omega
    have hcp : codePoint (224 + c.toNat / 4096).toUInt8
        [(128 + c.toNat / 64 % 64).toUInt8, (128 + c.toNat % 64).toUInt8] = c.toNat := by
      simp only [codePoint, List.length_cons, List.length_nil, List.foldl_cons, List.foldl_nil,
        ha, hb, hc]
      omega
    rw [List.cons_append, List.cons_append, List.cons_append, List.nil_append,
      decodeChars_three hw, if_pos hok, hcp, Char.ofNat_toNat]
  · -- four bytes: after `F0` the second byte is past `8F`, after `F4` below `90`, which
    -- keeps the code point inside `10000`–`10FFFF`
    have ha : (240 + c.toNat / 262144).toUInt8.toNat = 240 + c.toNat / 262144 :=
      toNat_toUInt8 (by omega)
    have hb : (128 + c.toNat / 4096 % 64).toUInt8.toNat = 128 + c.toNat / 4096 % 64 :=
      toNat_toUInt8 (by omega)
    have hc : (128 + c.toNat / 64 % 64).toUInt8.toNat = 128 + c.toNat / 64 % 64 :=
      toNat_toUInt8 (by omega)
    have hd : (128 + c.toNat % 64).toUInt8.toNat = 128 + c.toNat % 64 := toNat_toUInt8 (by omega)
    have hw : width (240 + c.toNat / 262144).toUInt8 = some 4 := by
      rw [width_eq, ha, if_neg (by omega), if_neg (by omega), if_neg (by omega),
        if_pos (by omega)]
    have hok : (secondOk (240 + c.toNat / 262144).toUInt8 (128 + c.toNat / 4096 % 64).toUInt8 &&
        isTail (128 + c.toNat / 64 % 64).toUInt8 && isTail (128 + c.toNat % 64).toUInt8) =
          true := by
      rw [secondOk_eq, isTail_eq, isTail_eq, ha, hb, hc, hd]
      split_ifs <;> simp <;> omega
    have hcp : codePoint (240 + c.toNat / 262144).toUInt8
        [(128 + c.toNat / 4096 % 64).toUInt8, (128 + c.toNat / 64 % 64).toUInt8,
          (128 + c.toNat % 64).toUInt8] = c.toNat := by
      simp only [codePoint, List.length_cons, List.length_nil, List.foldl_cons, List.foldl_nil,
        ha, hb, hc, hd]
      omega
    rw [List.cons_append, List.cons_append, List.cons_append, List.cons_append,
      List.nil_append, decodeChars_four hw, if_pos hok, hcp, Char.ofNat_toNat]

/-! ## Whole strings -/

theorem decodeChars_encode (s : String) : decodeChars (encode s) = some s.toList := by
  suffices h : ∀ cs : List Char, decodeChars (cs.flatMap encodeChar) = some cs from h s.toList
  intro cs
  induction cs with
  | nil => rfl
  | cons c cs ih =>
    rw [List.flatMap_cons, decodeChars_encodeChar_append, ih]
    rfl

/-- Text written as UTF-8 reads back as the same text. -/
theorem decode?_encode (s : String) : decode? (encode s) = some s := by
  rw [decode?, decodeChars_encode, Option.map_some, String.ofList_toList]

/-! ## Only shortest forms are read

The reader accepts nothing but what the writer produces: each sequence it reads is the
shortest form of its code point, so writing the text it reads gives the bytes back. -/

/-- A Unicode scalar value is the code point of its character. -/
theorem toNat_charOfNat {n : Nat} (h : n < 0xD800 ∨ (0xDFFF < n ∧ n < 0x110000)) :
    (Char.ofNat n).toNat = n := by
  have hv : n.isValidChar := h
  rw [Char.ofNat, dif_pos hv]
  rfl

theorem toUInt8_eq {n : Nat} (b : UInt8) (h : n = b.toNat) : n.toUInt8 = b :=
  UInt8.toNat_inj.1 (by rw [toNat_toUInt8 (h ▸ b.toNat_lt), h])

/-- The lead bytes of each width. -/
theorem width_eq_some {a : UInt8} {w : Nat} (h : width a = some w) :
    (w = 1 ∧ a.toNat < 0x80) ∨ (w = 2 ∧ 0xC2 ≤ a.toNat ∧ a.toNat ≤ 0xDF) ∨
      (w = 3 ∧ 0xE0 ≤ a.toNat ∧ a.toNat ≤ 0xEF) ∨ (w = 4 ∧ 0xF0 ≤ a.toNat ∧ a.toNat ≤ 0xF4) := by
  rw [width_eq] at h
  split_ifs at h <;> cases h <;> omega

/-- The second bytes allowed after each lead byte. -/
theorem secondOk_true {a b : UInt8} (h : secondOk a b = true) :
    0x80 ≤ b.toNat ∧ b.toNat ≤ 0xBF ∧ (a.toNat = 0xE0 → 0xA0 ≤ b.toNat) ∧
      (a.toNat = 0xED → b.toNat ≤ 0x9F) ∧ (a.toNat = 0xF0 → 0x90 ≤ b.toNat) ∧
      (a.toNat = 0xF4 → b.toNat ≤ 0x8F) := by
  rw [secondOk_eq] at h
  split_ifs at h <;> simp only [decide_eq_true_eq] at h <;> omega

theorem isTail_true {b : UInt8} (h : isTail b = true) : 0x80 ≤ b.toNat ∧ b.toNat ≤ 0xBF := by
  simpa [isTail_eq] using h

theorem encodeChar_one {a : UInt8} (ha : width a = some 1) :
    encodeChar (Char.ofNat a.toNat) = [a] := by
  have hlead := width_eq_some ha
  simp only [encodeChar]
  rw [toNat_charOfNat (by omega), if_pos (by omega), toUInt8_eq a rfl]

theorem encodeChar_two {a b : UInt8} (ha : width a = some 2) (hb : secondOk a b = true) :
    encodeChar (Char.ofNat (codePoint a [b])) = [a, b] := by
  have hlead : 0xC2 ≤ a.toNat ∧ a.toNat ≤ 0xDF := by
    rcases width_eq_some ha with h | h | h | h <;> omega
  obtain ⟨hb1, hb2, -⟩ := secondOk_true hb
  have hcp : codePoint a [b] = a.toNat % 32 * 64 + b.toNat % 64 := by simp [codePoint]
  simp only [encodeChar]
  rw [toNat_charOfNat (by omega), hcp, if_neg (by omega), if_pos (by omega),
    toUInt8_eq a (by omega), toUInt8_eq b (by omega)]

theorem encodeChar_three {a b c : UInt8} (ha : width a = some 3)
    (hbc : (secondOk a b && isTail c) = true) :
    encodeChar (Char.ofNat (codePoint a [b, c])) = [a, b, c] := by
  have hlead : 0xE0 ≤ a.toNat ∧ a.toNat ≤ 0xEF := by
    rcases width_eq_some ha with h | h | h | h <;> omega
  rw [Bool.and_eq_true] at hbc
  obtain ⟨hb1, hb2, hE0, hED, -⟩ := secondOk_true hbc.1
  obtain ⟨hc1, hc2⟩ := isTail_true hbc.2
  have hcp : codePoint a [b, c] = (a.toNat % 16 * 64 + b.toNat % 64) * 64 + c.toNat % 64 := by
    simp [codePoint]
  -- the lead byte's limits on the second byte keep the code point off surrogates and off the
  -- two-byte range
  have hcode : 0x800 ≤ codePoint a [b, c] ∧ codePoint a [b, c] < 0x10000 ∧
      (codePoint a [b, c] < 0xD800 ∨ 0xDFFF < codePoint a [b, c]) := by
    rw [hcp]
    omega
  clear hE0 hED
  simp only [encodeChar]
  rw [toNat_charOfNat (by omega), if_neg (by omega), if_neg (by omega), if_pos (by omega), hcp,
    toUInt8_eq a (by omega), toUInt8_eq b (by omega), toUInt8_eq c (by omega)]

theorem encodeChar_four {a b c d : UInt8} (ha : width a = some 4)
    (hbcd : (secondOk a b && isTail c && isTail d) = true) :
    encodeChar (Char.ofNat (codePoint a [b, c, d])) = [a, b, c, d] := by
  have hlead : 0xF0 ≤ a.toNat ∧ a.toNat ≤ 0xF4 := by
    rcases width_eq_some ha with h | h | h | h <;> omega
  simp only [Bool.and_eq_true] at hbcd
  obtain ⟨hb1, hb2, -, -, hF0, hF4⟩ := secondOk_true hbcd.1.1
  obtain ⟨hc1, hc2⟩ := isTail_true hbcd.1.2
  obtain ⟨hd1, hd2⟩ := isTail_true hbcd.2
  have hcp : codePoint a [b, c, d] =
      ((a.toNat % 8 * 64 + b.toNat % 64) * 64 + c.toNat % 64) * 64 + d.toNat % 64 := by
    simp [codePoint]
  -- the lead byte's limits on the second byte keep the code point past three bytes and below
  -- the last code point
  have hcode : 0x10000 ≤ codePoint a [b, c, d] ∧ codePoint a [b, c, d] < 0x110000 := by
    rw [hcp]
    omega
  clear hF0 hF4
  simp only [encodeChar]
  rw [toNat_charOfNat (by omega), if_neg (by omega), if_neg (by omega), if_neg (by omega), hcp,
    toUInt8_eq a (by omega), toUInt8_eq b (by omega), toUInt8_eq c (by omega),
    toUInt8_eq d (by omega)]

theorem decodeChars_of_width_none {a : UInt8} (h : width a = none) (r : List UInt8) :
    decodeChars (a :: r) = none := by
  rw [decodeChars.eq_def]
  simp [h]

/-- The characters bytes read as are written back as those bytes: a well-formed sequence is
the shortest form of its code point. -/
theorem flatMap_encodeChar_of_decodeChars :
    ∀ {bs : List UInt8} {cs : List Char}, decodeChars bs = some cs → cs.flatMap encodeChar = bs
  | [], cs, h => by
    rw [decodeChars.eq_def] at h
    cases h
    rfl
  | a :: r, cs, h => by
    cases hw : width a with
    | none => rw [decodeChars_of_width_none hw] at h; cases h
    | some w =>
      obtain ⟨rfl, -⟩ | ⟨rfl, -⟩ | ⟨rfl, -⟩ | ⟨rfl, -⟩ := width_eq_some hw
      · rw [decodeChars_one hw] at h
        obtain ⟨cs', hcs', rfl⟩ := Option.map_eq_some_iff.1 h
        rw [List.flatMap_cons, encodeChar_one hw, flatMap_encodeChar_of_decodeChars hcs']
        rfl
      · match r, h with
        | [], h => rw [decodeChars.eq_def] at h; simp [hw] at h
        | b :: r, h =>
          rw [decodeChars_two hw] at h
          split_ifs at h with hok
          obtain ⟨cs', hcs', rfl⟩ := Option.map_eq_some_iff.1 h
          rw [List.flatMap_cons, encodeChar_two hw hok, flatMap_encodeChar_of_decodeChars hcs']
          rfl
      · match r, h with
        | b :: c :: r, h =>
          rw [decodeChars_three hw] at h
          split_ifs at h with hok
          obtain ⟨cs', hcs', rfl⟩ := Option.map_eq_some_iff.1 h
          rw [List.flatMap_cons, encodeChar_three hw hok, flatMap_encodeChar_of_decodeChars hcs']
          rfl
        | [], h | [_], h => rw [decodeChars.eq_def] at h; simp [hw] at h
      · match r, h with
        | b :: c :: d :: r, h =>
          rw [decodeChars_four hw] at h
          split_ifs at h with hok
          obtain ⟨cs', hcs', rfl⟩ := Option.map_eq_some_iff.1 h
          rw [List.flatMap_cons, encodeChar_four hw hok, flatMap_encodeChar_of_decodeChars hcs']
          rfl
        | [], h | [_], h | [_, _], h => rw [decodeChars.eq_def] at h; simp [hw] at h

/-- Bytes that read as text are that text's UTF-8. -/
theorem encode_of_decode? {bs : List UInt8} {s : String} (h : decode? bs = some s) :
    encode s = bs := by
  obtain ⟨cs, hcs, rfl⟩ := Option.map_eq_some_iff.1 h
  rw [encode, String.toList_ofList, flatMap_encodeChar_of_decodeChars hcs]

theorem toUInt8_ne_zero {n : Nat} (hpos : 0 < n) (hlt : n < 256) : n.toUInt8 ≠ 0 := by
  intro h
  have := congrArg UInt8.toNat h
  rw [toNat_toUInt8 hlt] at this
  exact absurd this (Nat.pos_iff_ne_zero.1 hpos)

/-- Only the character zero is written with a zero byte: every byte of a longer sequence
has its top bit set. -/
theorem encodeChar_ne_zero {c : Char} (hc : c ≠ Char.ofNat 0) : ∀ b ∈ encodeChar c, b ≠ 0 := by
  have hpos : 0 < c.toNat := by
    rcases Nat.eq_zero_or_pos c.toNat with h | h
    · exact absurd (Char.toNat_inj.1 (by rw [h]; rfl)) hc
    · exact h
  have hv := char_toNat_valid c
  intro b hb
  simp only [encodeChar] at hb
  split_ifs at hb <;> simp only [List.mem_cons, List.not_mem_nil, or_false] at hb <;>
    rcases hb with rfl | rfl | rfl | rfl <;> exact toUInt8_ne_zero (by omega) (by omega)

/-- Text without the character zero has no zero byte. -/
theorem encode_ne_zero {s : String} (hs : Char.ofNat 0 ∉ s.toList) : ∀ b ∈ encode s, b ≠ 0 := by
  intro b hb
  obtain ⟨c, hc, hbc⟩ := List.mem_flatMap.1 hb
  exact encodeChar_ne_zero (fun h => hs (h ▸ hc)) b hbc

end Columnar.Utf8
