import Columnar.Type.Basic
import Columnar.Error

/-!
# Format strings

A schema node names its type with a short format string; struct and list nodes add child
fields, a dictionary node names its key type and carries the value type beside it, with
the ordered flag in the node's flags.

| type | format |
|---|---|
| null, boolean | `n`, `b` |
| signed and unsigned integers | `c s i l`, `C S I L` |
| floats | `f g` |
| strings, large strings, string views | `u U vu` |
| dates | `tdD tdm` |
| times | `tts ttm` (32-bit), `ttu ttn` (64-bit) |
| timestamps | `ts` + unit + `:` + zone (empty: no zone) |
| durations, intervals | `tD` + unit, `ti` + `M D n` |
| struct, list, large list | `+s +l +L` |

`encode` refuses the unit combinations that have no format (a 32-bit time in micro- or
nanoseconds, a 64-bit time in seconds or milliseconds, anything in days but dates) with the
type's own display as the refused format. `decode` refuses every string outside the table
with the string itself.
-/

namespace Columnar

/-- What a schema node says about its type: format string, children, dictionary values
and flags. -/
structure FormatNode where
  format : String
  children : List Field
  dictionary : Option DataType
  flags : Int

namespace FormatNode

/-- A node with no children, no dictionary and no flags. -/
def leaf (format : String) : FormatNode :=
  ⟨format, [], none, 0⟩

end FormatNode

/-- The flag bit that marks a dictionary as ordered. -/
def flagOrdered : Nat := 1
/-- The flag bit that marks a field as nullable. -/
def flagNullable : Nat := 2
/-- The flag bit that marks map keys as sorted. -/
def flagKeysSorted : Nat := 4

/-- The format string of an index type's key type. -/
def IndexType.format : IndexType → String
  | .int8 => "c"
  | .int16 => "s"
  | .int32 => "i"
  | .int64 => "l"
  | .uint8 => "C"
  | .uint16 => "S"
  | .uint32 => "I"
  | .uint64 => "L"

namespace Format

/-- The format node of a type. -/
def encode (t : DataType) : Except Error FormatNode :=
  let refuse : Except Error FormatNode := .error (.unsupported t.display)
  match t with
  | .null => pure (.leaf "n")
  | .boolean => pure (.leaf "b")
  | .int8 => pure (.leaf "c")
  | .int16 => pure (.leaf "s")
  | .int32 => pure (.leaf "i")
  | .int64 => pure (.leaf "l")
  | .uint8 => pure (.leaf "C")
  | .uint16 => pure (.leaf "S")
  | .uint32 => pure (.leaf "I")
  | .uint64 => pure (.leaf "L")
  | .float32 => pure (.leaf "f")
  | .float64 => pure (.leaf "g")
  | .string => pure (.leaf "u")
  | .largeString => pure (.leaf "U")
  | .stringView => pure (.leaf "vu")
  | .date32 => pure (.leaf "tdD")
  | .date64 => pure (.leaf "tdm")
  | .time32 .seconds => pure (.leaf "tts")
  | .time32 .milliseconds => pure (.leaf "ttm")
  | .time32 _ => refuse
  | .time64 .microseconds => pure (.leaf "ttu")
  | .time64 .nanoseconds => pure (.leaf "ttn")
  | .time64 _ => refuse
  | .timestamp u zone =>
    match u.formatChar? with
    | some c => pure (.leaf ("ts" ++ c.toString ++ ":" ++ zone.getD ""))
    | none => refuse
  | .duration u =>
    match u.formatChar? with
    | some c => pure (.leaf ("tD" ++ c.toString))
    | none => refuse
  | .interval u => pure (.leaf ("ti" ++ u.formatChar.toString))
  | .dictionary i v o => pure ⟨i.format, [], some v, if o then (flagOrdered : Int) else 0⟩
  | .struct fs => pure ⟨"+s", fs, none, 0⟩
  | .list f => pure ⟨"+l", [f], none, 0⟩
  | .largeList f => pure ⟨"+L", [f], none, 0⟩

/-- The parametrised temporal formats: timestamps, durations and intervals. -/
def decodeTemporal (format : String) : Except Error DataType :=
  let refuse : Except Error DataType := .error (.unsupported format)
  match format.toList with
  | 't' :: 's' :: u :: ':' :: zone =>
    match TimeUnit.ofFormatChar? u with
    | some unit => pure (.timestamp unit (if zone.isEmpty then none else some (String.ofList zone)))
    | none => refuse
  | ['t', 'D', u] =>
    match TimeUnit.ofFormatChar? u with
    | some unit => pure (.duration unit)
    | none => refuse
  | ['t', 'i', u] =>
    match IntervalUnit.ofFormatChar? u with
    | some unit => pure (.interval unit)
    | none => refuse
  | _ => refuse

/-- The type of a format string that takes no children. -/
def decodeLeaf (format : String) : Except Error DataType :=
  match format with
  | "n" => pure .null
  | "b" => pure .boolean
  | "c" => pure .int8
  | "s" => pure .int16
  | "i" => pure .int32
  | "l" => pure .int64
  | "C" => pure .uint8
  | "S" => pure .uint16
  | "I" => pure .uint32
  | "L" => pure .uint64
  | "f" => pure .float32
  | "g" => pure .float64
  | "u" => pure .string
  | "U" => pure .largeString
  | "vu" => pure .stringView
  | "tdD" => pure .date32
  | "tdm" => pure .date64
  | "tts" => pure (.time32 .seconds)
  | "ttm" => pure (.time32 .milliseconds)
  | "ttu" => pure (.time64 .microseconds)
  | "ttn" => pure (.time64 .nanoseconds)
  | other => decodeTemporal other

/-- The type a format node describes. A dictionary node needs an integer key format; a
list node needs exactly one child; any other node but a struct takes no children. -/
def decode (node : FormatNode) : Except Error DataType :=
  match node.dictionary with
  | some values => do
    let key ← decodeLeaf node.format
    match IndexType.ofKeyType? key with
    | some index => pure (.dictionary index values (node.flags % 2 = 1))
    | none => .error (.unsupported node.format)
  | none =>
    if node.format = "+s" then pure (.struct node.children)
    else if node.format = "+l" ∨ node.format = "+L" then
      match node.children with
      | [child] => pure (if node.format = "+l" then .list child else .largeList child)
      | cs =>
        .error (.schema ("list format '" ++ node.format ++ "' needs exactly one child, found " ++
          toString cs.length))
    else if node.children.isEmpty then decodeLeaf node.format
    else
      .error (.schema ("format '" ++ node.format ++ "' takes no children, found " ++
        toString node.children.length))

/-- The type of a format string alone. -/
def decodeString (format : String) : Except Error DataType :=
  decode (.leaf format)

end Format

end Columnar
