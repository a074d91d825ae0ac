import Columnar.Binding.Host
import Columnar.Value.Decimal
import Columnar.Text.HostPrinting

/-!
# Values of the session as text

The host writes a value in two ways: as `text`, what converting it to a string gives, and
as a `literal`, the form that reads back as the value, which messages use to quote it. The
two differ only for strings, which stand for themselves as text.

* A string literal takes single quotes, or double quotes when the string holds a single
  quote and no double quote. The backslash and the chosen quote are escaped; tab, line feed
  and carriage return are written `\t`, `\n` and `\r`; every other character that does not
  print is written `\xhh`, `\uhhhh` or `\Uhhhhhhhh`, the shortest that holds it, in
  lowercase hex.
* A float takes the fewest digits that read back, in the host's style (`0.5`, `1e-05`,
  `1e+16`, `inf`, `nan`).
* `None`, `True` and `False`; a list `[a, b]`, a tuple `(a, b)` or `(a,)`, a dictionary
  `{'k': v}`; an object `<Class object>`.
-/

namespace Columnar

namespace HostValue

/-- `n` in lowercase hex, padded with zeros to `width` digits. -/
def hexPadded (width n : Nat) : String :=
  let digits := Nat.toDigits 16 n
  String.ofList (List.replicate (width - digits.length) '0' ++ digits)

/-- One character of a string literal quoted by `quote`. -/
def literalChar (quote c : Char) : String :=
  if c = quote ∨ c = '\\' then "\\" ++ c.toString
  else if c = '\t' then "\\t"
  else if c = '\n' then "\\n"
  else if c = '\r' then "\\r"
  else if Text.hostPrints c then c.toString
  else if c.toNat < 0x100 then "\\x" ++ hexPadded 2 c.toNat
  else if c.toNat < 0x10000 then "\\u" ++ hexPadded 4 c.toNat
  else "\\U" ++ hexPadded 8 c.toNat

/-- The single quote. -/
def singleQuote : Char := Char.ofNat 39

/-- A string as a literal. -/
def stringLiteral (s : String) : String :=
  let quote := if s.contains singleQuote && !s.contains '"' then '"' else singleQuote
  quote.toString ++ String.join (s.toList.map (literalChar quote)) ++ quote.toString

/-- A double as the host writes it. -/
def floatText (bits : Nat) : String :=
  FloatBits.double64.text .host bits

mutual

/-- A value as a literal, with objects named by `cls`. -/
def literal (cls : Nat → String) : HostValue → String
  | .none => "None"
  | .bool true => "True"
  | .bool false => "False"
  | .int i => toString i
  | .float b => floatText b
  | .str s => stringLiteral s
  | .tuple [x] => "(" ++ literal cls x ++ ",)"
  | .tuple items => "(" ++ literals cls items ++ ")"
  | .list items => "[" ++ literals cls items ++ "]"
  | .dict entries => "\x7b" ++ entryLiterals cls entries ++ "\x7d"
  | .ref id => "<" ++ cls id ++ " object>"

/-- Values as literals, separated by commas. -/
def literals (cls : Nat → String) : List HostValue → String
  | [] => ""
  | [x] => literal cls x
  | x :: xs => literal cls x ++ ", " ++ literals cls xs

/-- Dictionary entries as literals, separated by commas. -/
def entryLiterals (cls : Nat → String) : List (String × HostValue) → String
  | [] => ""
  | [(k, v)] => stringLiteral k ++ ": " ++ literal cls v
  | (k, v) :: rest => stringLiteral k ++ ": " ++ literal cls v ++ ", " ++ entryLiterals cls rest

end

/-- A value as text: a string is itself, anything else its literal. -/
def text (cls : Nat → String) : HostValue → String
  | .str s => s
  | v => literal cls v

end HostValue

end Columnar
