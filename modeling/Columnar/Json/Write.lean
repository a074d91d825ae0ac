import Columnar.Json.Doc

/-!
# Writing JSON text

`Doc.write` writes a document compactly: no blanks, members in their order, strings with
the quote, the backslash and the control characters escaped and every other character as
it is. Integers are written as their decimal digits; a number with a negative exponent is
written with that exponent; the infinities and NaN are written `Infinity`, `-Infinity` and
`NaN`, as the host language writes them.
-/

namespace Columnar

namespace JsonText

/-- The four hex digits of a code unit below 65536. -/
def hex4Text (n : Nat) : String :=
  let d (k : Nat) : Char := "0123456789abcdef".toList.getD (n / Nat.pow 16 k % 16) '0'
  String.ofList [d 3, d 2, d 1, d 0]

/-- One character of a string literal. -/
def escapeChar (c : Char) : String :=
  if c = '"' then "\\\""
  else if c = '\\' then "\\\\"
  else if c = '\n' then "\\n"
  else if c = '\r' then "\\r"
  else if c = '\t' then "\\t"
  else if c.toNat < 0x20 then "\\u" ++ hex4Text c.toNat
  else c.toString

/-- A string as a JSON literal. -/
def quote (s : String) : String :=
  "\"" ++ String.join (s.toList.map escapeChar) ++ "\""

/-- A number `±m · 10 ^ e`. -/
def numberText (negative : Bool) (m : Nat) (e : Int) : String :=
  let sign := if negative ∧ m ≠ 0 then "-" else ""
  if 0 ≤ e then sign ++ toString (m * Nat.pow 10 e.toNat)
  else sign ++ toString m ++ "e" ++ toString e

end JsonText

mutual

/-- The document as compact JSON text. -/
def Doc.write : Doc → String
  | .null => "null"
  | .bool true => "true"
  | .bool false => "false"
  | .num n m e _ => JsonText.numberText n m e
  | .infinity true => "-Infinity"
  | .infinity false => "Infinity"
  | .nan => "NaN"
  | .str s => JsonText.quote s
  | .arr xs => "[" ++ Doc.writeItems xs ++ "]"
  | .obj ms => "\x7b" ++ Doc.writeMembers ms ++ "\x7d"

/-- Array items separated by commas. -/
def Doc.writeItems : List Doc → String
  | [] => ""
  | [x] => Doc.write x
  | x :: xs => Doc.write x ++ "," ++ Doc.writeItems xs

/-- Object members separated by commas. -/
def Doc.writeMembers : List (String × Doc) → String
  | [] => ""
  | [(k, v)] => JsonText.quote k ++ ":" ++ Doc.write v
  | (k, v) :: ms => JsonText.quote k ++ ":" ++ Doc.write v ++ "," ++ Doc.writeMembers ms

end

end Columnar
