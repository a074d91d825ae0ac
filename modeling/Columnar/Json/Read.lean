import Columnar.Json.Doc

/-!
# Reading JSON text

`Doc.parse` reads one JSON document from text. The reader walks the characters from the
front; each step of the value reader consumes at least one character, so a budget of
steps proportional to the length of the text is never exhausted on well-formed input, and
`parse` supplies that budget itself.

Numbers keep their sign, digits and exponent exactly (`-0.0` stays a negative zero), and
`NaN`, `Infinity` and `-Infinity` are read as the host language reads them. In a
string, `\u` escapes of a surrogate pair make one character, and a surrogate without its
partner reads as U+FFFD.
-/

namespace Columnar

namespace JsonText

/-- Drops leading blanks. -/
def skipBlank : List Char → List Char
  | c :: cs => if c = ' ' ∨ c = '\t' ∨ c = '\n' ∨ c = '\r' then skipBlank cs else c :: cs
  | [] => []

/-- The value of a hex digit. -/
def hexValue (c : Char) : Option Nat :=
  if '0' ≤ c ∧ c ≤ '9' then some (c.toNat - '0'.toNat)
  else if 'a' ≤ c ∧ c ≤ 'f' then some (c.toNat - 'a'.toNat + 10)
  else if 'A' ≤ c ∧ c ≤ 'F' then some (c.toNat - 'A'.toNat + 10)
  else none

/-- The number four hex digits spell. -/
def hex4 (a b c d : Char) : Option Nat := do
  pure ((← hexValue a) * 4096 + (← hexValue b) * 256 + (← hexValue c) * 16 + (← hexValue d))

/-- The character of a code unit that is not a surrogate. -/
def unitChar (u : Nat) : Char :=
  if 0xD800 ≤ u ∧ u < 0xE000 then Char.ofNat 0xFFFD else Char.ofNat u

/-- Reads the rest of a string after its opening quote; `acc` holds the characters read,
last first. -/
def readString (acc : List Char) : List Char → Except String (String × List Char)
  | [] => .error "unterminated string"
  | '"' :: rest => .ok (String.ofList acc.reverse, rest)
  | '\\' :: 'u' :: a :: b :: c :: d :: '\\' :: 'u' :: e :: f :: g :: h :: rest =>
    match hex4 a b c d, hex4 e f g h with
    | some hi, some lo =>
      if 0xD800 ≤ hi ∧ hi < 0xDC00 ∧ 0xDC00 ≤ lo ∧ lo < 0xE000 then
        readString (Char.ofNat (0x10000 + (hi - 0xD800) * 0x400 + (lo - 0xDC00)) :: acc) rest
      else
        readString (unitChar lo :: unitChar hi :: acc) rest
    | _, _ => .error "bad \\u escape"
  | '\\' :: 'u' :: a :: b :: c :: d :: rest =>
    match hex4 a b c d with
    | some u => readString (unitChar u :: acc) rest
    | none => .error "bad \\u escape"
  | '\\' :: c :: rest =>
    match c with
    | '"' => readString ('"' :: acc) rest
    | '\\' => readString ('\\' :: acc) rest
    | '/' => readString ('/' :: acc) rest
    | 'b' => readString ('\x08' :: acc) rest
    | 'f' => readString ('\x0c' :: acc) rest
    | 'n' => readString ('\n' :: acc) rest
    | 'r' => readString ('\r' :: acc) rest
    | 't' => readString ('\t' :: acc) rest
    | _ => .error "bad escape"
  | c :: rest => readString (c :: acc) rest

/-- The number a list of decimal digits spells. -/
def digitsValue (ds : List Char) : Nat :=
  ds.foldl (fun acc c => 10 * acc + (c.toNat - '0'.toNat)) 0

/-- Reads a number: sign, integer digits, optional fraction and exponent. A number with a
fraction or an exponent is a real one. -/
def readNumber (cs : List Char) : Except String (Doc × List Char) :=
  let (negative, cs) := match cs with
    | '-' :: rest => (true, rest)
    | rest => (false, rest)
  let whole := cs.takeWhile Char.isDigit
  let cs := cs.dropWhile Char.isDigit
  let pointed := cs.head? == some '.'
  let (fraction, cs) := match cs with
    | '.' :: rest => (rest.takeWhile Char.isDigit, rest.dropWhile Char.isDigit)
    | rest => ([], rest)
  let (exponent, scaled, cs) : Int × Bool × List Char := match cs with
    | e :: rest =>
      if e = 'e' ∨ e = 'E' then
        let (neg, rest) := match rest with
          | '-' :: r => (true, r)
          | '+' :: r => (false, r)
          | r => (false, r)
        let ds := rest.takeWhile Char.isDigit
        let v : Int := digitsValue ds
        (if neg then -v else v, true, rest.dropWhile Char.isDigit)
      else (0, false, e :: rest)
    | [] => (0, false, [])
  if whole.isEmpty then .error "expected a value"
  else .ok (.num negative (digitsValue (whole ++ fraction)) (exponent - fraction.length)
    (pointed || scaled), cs)

mutual

/-- Reads one value, with `fuel` steps left. -/
def readValue : Nat → List Char → Except String (Doc × List Char)
  | 0, _ => .error "document too deep"
  | fuel + 1, cs =>
    match skipBlank cs with
    | '{' :: rest =>
      match skipBlank rest with
      | '}' :: rest => .ok (.obj [], rest)
      | rest => readMembers fuel rest []
    | '[' :: rest =>
      match skipBlank rest with
      | ']' :: rest => .ok (.arr [], rest)
      | rest => readItems fuel rest []
    | '"' :: rest => do
      let (s, rest) ← readString [] rest
      pure (.str s, rest)
    | 't' :: 'r' :: 'u' :: 'e' :: rest => .ok (.bool true, rest)
    | 'f' :: 'a' :: 'l' :: 's' :: 'e' :: rest => .ok (.bool false, rest)
    | 'n' :: 'u' :: 'l' :: 'l' :: rest => .ok (.null, rest)
    | 'N' :: 'a' :: 'N' :: rest => .ok (.nan, rest)
    | 'I' :: 'n' :: 'f' :: 'i' :: 'n' :: 'i' :: 't' :: 'y' :: rest => .ok (.infinity false, rest)
    | '-' :: 'I' :: 'n' :: 'f' :: 'i' :: 'n' :: 'i' :: 't' :: 'y' :: rest =>
      .ok (.infinity true, rest)
    | rest => readNumber rest

/-- Reads the items of an array after its opening bracket; `acc` holds those read, last
first. -/
def readItems : Nat → List Char → List Doc → Except String (Doc × List Char)
  | 0, _, _ => .error "document too deep"
  | fuel + 1, cs, acc => do
    let (item, rest) ← readValue fuel cs
    match skipBlank rest with
    | ',' :: rest => readItems fuel rest (item :: acc)
    | ']' :: rest => pure (.arr (item :: acc).reverse, rest)
    | _ => .error "expected ',' or ']'"

/-- Reads the members of an object after its opening brace; `acc` holds those read, last
first. -/
def readMembers : Nat → List Char → List (String × Doc) → Except String (Doc × List Char)
  | 0, _, _ => .error "document too deep"
  | fuel + 1, cs, acc =>
    match skipBlank cs with
    | '"' :: rest => do
      let (key, rest) ← readString [] rest
      match skipBlank rest with
      | ':' :: rest => do
        let (value, rest) ← readValue fuel rest
        match skipBlank rest with
        | ',' :: rest => readMembers fuel rest ((key, value) :: acc)
        | '}' :: rest => pure (.obj ((key, value) :: acc).reverse, rest)
        | _ => .error "expected ',' or '\x7d'"
      | _ => .error "expected ':'"
    | _ => .error "expected a member name"

end

end JsonText

namespace Doc

/-- The document a JSON text holds; text after the document, other than blanks, is
malformed. -/
def parse (text : String) : Decode Doc := do
  let cs := text.toList
  let (d, rest) ← JsonText.readValue (2 * cs.length + 2) cs
  if (JsonText.skipBlank rest).isEmpty then pure d else .error "text after the document"

end Doc

end Columnar
