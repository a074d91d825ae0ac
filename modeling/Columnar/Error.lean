/-!
# Errors of the interchange layer

Every refusal of the library is one `Error`, named for its cause. The text a caller sees is
`Error.message`, the name of the cause is `Error.kind`, and a C caller receives the code
`Error.errno`: `EIO` (5) for a failed stream, `EINVAL` (22) for everything else.

A broken precondition of a call (a window past the end of a column, an index past its
length) is not an `Error` but a `Failure.panic` carrying the text of the broken check.

Throughout the library a power is written `Nat.pow b e` (or `Int.pow`), and a sum of counts
`xs.foldr (· + ·) 0`: these name the functions themselves, so a definition is the same term
whichever algebraic instances a reader has in scope. Proofs turn them back into `b ^ e` and
`List.sum` with `Nat.pow_eq` and `List.sum_eq_foldr`.
-/

namespace Columnar

/-- Why a call of the library refused its input. -/
inductive Error where
  /-- A type that has no format string, or a format string that names no type. -/
  | unsupported (format : String)
  /-- Types, fields or schemas that do not fit together. -/
  | schema (detail : String)
  /-- A foreign descriptor or buffer that breaks the interchange rules. -/
  | malformed (detail : String)
  /-- A capsule or export handle whose payload was already taken. -/
  | consumed (capability : String)
  /-- A capsule of one kind where another kind was expected. -/
  | wrongCapsule (expected found : String)
  /-- A stream that failed, with its producer's message. -/
  | stream (detail : String)
  /-- A 32-bit offset buffer asked to reach past `max`. -/
  | overflow (length max : Nat)
  /-- A pointer that must not be null was null. -/
  | nullPointer (what : String)
  deriving DecidableEq, Repr

namespace Error

/-- The name of the cause, as callers match on it. -/
def kind : Error → String
  | .unsupported _ => "UnsupportedType"
  | .schema _ => "SchemaError"
  | .malformed _ => "ImportError"
  | .consumed _ => "CapsuleConsumed"
  | .wrongCapsule _ _ => "CapsuleName"
  | .stream _ => "StreamError"
  | .overflow _ _ => "OverflowError"
  | .nullPointer _ => "NullPointer"

/-- The text of the error. -/
def message : Error → String
  | .unsupported f => "unsupported Arrow format '" ++ f ++ "'"
  | .schema d => "schema error: " ++ d
  | .malformed d => "import error: " ++ d
  | .consumed c => "'" ++ c ++ "' has already been consumed"
  | .wrongCapsule e f => "capsule name mismatch: expected '" ++ e ++ "', found '" ++ f ++ "'"
  | .stream d => "stream error: " ++ d
  | .overflow l m =>
    "offset overflow: " ++ toString l ++ " exceeds the maximum offset " ++ toString m ++
      ", use the large variant"
  | .nullPointer w => "null pointer: " ++ w

/-- The C error code a stream callback returns for the error. -/
def errno : Error → Nat
  | .stream _ => 5
  | _ => 22

end Error

/-- A failed call: a refusal of the library, or a broken precondition. -/
inductive Failure where
  | error (e : Error)
  | panic (message : String)
  deriving DecidableEq, Repr

/-- Results of calls that may refuse or break a precondition. -/
abbrev Outcome (α : Type) := Except Failure α

/-- Lifts a refusal into an outcome. -/
def Outcome.ofResult {α : Type} : Except Error α → Outcome α
  | .ok a => .ok a
  | .error e => .error (.error e)

/-- The largest machine word, `2^64 - 1`: sizes, offsets and positions are words. -/
def wordMax : Nat := Nat.pow 2 64 - 1

/-- The sum of two words. Word arithmetic is checked: a sum past `wordMax` stops the call as
a broken precondition, before any bounds check that would use it. -/
def addWords (a b : Nat) : Outcome Nat :=
  if a + b ≤ wordMax then .ok (a + b) else .error (.panic "attempt to add with overflow")

/-- The difference of two words; one below zero stops the call as a broken precondition. -/
def subWords (a b : Nat) : Outcome Nat :=
  if b ≤ a then .ok (a - b) else .error (.panic "attempt to subtract with overflow")

/-- The broken precondition of indexing `len` elements at `i`. -/
def Failure.outOfBounds (len i : Nat) : Failure :=
  .panic ("index out of bounds: the len is " ++ toString len ++ " but the index is " ++
    toString i)

/-- Checks that elements `[o, o + l)` lie among `len`. -/
def checkElements (o l len : Nat) : Outcome Unit :=
  if o + l ≤ len then .ok ()
  else .error (.panic ("Buffer::slice: " ++ toString o ++ "+" ++ toString l ++
    " out of bounds for length " ++ toString len))

/-- Lifts a checked precondition into an outcome. -/
def Outcome.ofCheck {α : Type} : Except String α → Outcome α
  | .ok a => .ok a
  | .error m => .error (.panic m)

end Columnar
