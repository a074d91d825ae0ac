import Columnar.Text.NonPrinting
import Columnar.Text.GraphemeExtend

/-!
# Quoted text in messages

Field descriptions show metadata keys and values quoted: a string between double quotes in
which the quote, the backslash, NUL, tab, carriage return and line feed are written as
two-character escapes, and every character that does not print or that extends the one
before it is written `\u{hex}` with lowercase digits and no leading zeros. Every other
character stands for itself, so a quoted string never starts with a mark that would join
the quote before it.

> `quote "a\"b" = "\"a\\\"b\""`, `quote "x\u{1}" = "\"x\\u{1}\""`.
-/

namespace Columnar.Quote

/-- Lowercase hexadecimal digits of `n`, without leading zeros. -/
def hexDigits (n : Nat) : String :=
  String.ofList (Nat.toDigits 16 n)

/-- The escaped form of one character inside double quotes. -/
def escapeChar (c : Char) : String :=
  if c = '\x00' then "\\0"
  else if c = '\t' then "\\t"
  else if c = '\r' then "\\r"
  else if c = '\n' then "\\n"
  else if c = '\\' then "\\\\"
  else if c = '"' then "\\\""
  else if Text.extendsGrapheme c || !Text.prints c then
    "\\u" ++ "\x7b" ++ hexDigits c.toNat ++ "\x7d"
  else c.toString

/-- A string between double quotes, escaped. -/
def quote (s : String) : String :=
  "\"" ++ String.join (s.toList.map escapeChar) ++ "\""

end Columnar.Quote
