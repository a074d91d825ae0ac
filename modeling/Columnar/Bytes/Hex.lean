/-!
# Hexadecimal text of bytes

Byte strings travel in messages as lowercase hexadecimal, two digits a byte, most
significant digit first, no prefix. `decode?` also accepts uppercase digits.

> `decode? (encode bs) = some bs`.
-/

namespace Columnar.Hex

/-- The value of one hexadecimal digit. -/
def digitValue? (c : Char) : Option Nat :=
  if '0' ≤ c && c ≤ '9' then some (c.toNat - '0'.toNat)
  else if 'a' ≤ c && c ≤ 'f' then some (c.toNat - 'a'.toNat + 10)
  else if 'A' ≤ c && c ≤ 'F' then some (c.toNat - 'A'.toNat + 10)
  else none

/-- The lowercase digit of a value below 16. -/
def digit (n : Nat) : Char :=
  if n < 10 then Char.ofNat ('0'.toNat + n) else Char.ofNat ('a'.toNat + n - 10)

/-- Bytes from digit pairs; `none` for an odd count or a character that is no digit. -/
def decodeChars : List Char → Option (List UInt8)
  | [] => some []
  | [_] => none
  | hi :: lo :: rest => do
    let h ← digitValue? hi
    let l ← digitValue? lo
    let tail ← decodeChars rest
    pure ((h * 16 + l).toUInt8 :: tail)

/-- The bytes a hexadecimal string spells. -/
def decode? (s : String) : Option (List UInt8) :=
  decodeChars s.toList

/-- Two lowercase digits for each byte. -/
def encode (bytes : List UInt8) : String :=
  String.ofList (bytes.flatMap fun b => [digit (b.toNat / 16), digit (b.toNat % 16)])

end Columnar.Hex
