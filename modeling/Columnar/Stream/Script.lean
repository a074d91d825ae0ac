import Columnar.Descriptor.Ledger
import Columnar.Stream.Producer

/-!
# Scripted foreign streams

A foreign stream made outside the library follows a script: a schema it hands over once,
or a code it fails `get_schema` with, and an answer for each `get_next` call, without end:
hand over an array, signal the end, or fail with a code. Any of its callbacks may be missing.

A scripted stream holds its schema until it hands it over, and the arrays it has already
made for its next steps (`made` of them) until it hands them over; it makes the arrays of
later steps when asked for them. From hand-over on, the consumer owns what it was given and
releases it. The stream's release callback releases what the stream still holds, and its
ledger counts those releases and its own.
-/

namespace Columnar

/-- One `get_next` answer of a script. -/
inductive Step where
  | batch (a : ArrayNode)
  | finish
  | fail (code : Int)
  deriving Inhabited

/-- The array a step hands over, if any. -/
def Step.array? : Step → Option ArrayNode
  | .batch a => some a
  | _ => none

/-- A foreign stream whose callbacks follow a script. -/
structure ScriptedStream where
  /-- The schema, while the stream still holds it. -/
  schema : Option SchemaNode
  schemaCode : Int
  /-- The answer of each `get_next` call from now on: the `i`-th next call answers `steps i`. -/
  steps : Nat → Step
  /-- How many of the next steps' arrays the stream has already made and holds. -/
  made : Nat
  lastError : Option String
  hasGetSchema : Bool := true
  hasGetNext : Bool := true
  hasGetLastError : Bool := true
  /-- The release callback is still there. -/
  live : Bool := true
  ledger : Ledger := {}
  deriving Inhabited

namespace ScriptedStream

/-- The script of a finite list of answers; past them, every call signals the end. -/
def scriptOf (steps : List Step) : Nat → Step :=
  fun i => steps.getD i .finish

/-- A script over a list of answers, with every array among them made from the start; past
them, every call signals the end. -/
def ofSteps (schema : Option SchemaNode) (schemaCode : Int) (steps : List Step)
    (lastError : Option String) (hasGetSchema hasGetNext hasGetLastError live : Bool) :
    ScriptedStream :=
  ⟨schema, schemaCode, scriptOf steps, steps.length, lastError, hasGetSchema, hasGetNext,
    hasGetLastError, live, {}⟩

/-- A script hands over only arrays it already holds: while it is live, no step past those
whose arrays it made hands over an array. -/
def Premade (s : ScriptedStream) : Prop :=
  s.live = true → ∀ i, s.made ≤ i → (s.steps i).array? = none

theorem ofSteps_premade (schema : Option SchemaNode) (schemaCode : Int) (steps : List Step)
    (lastError : Option String) (hasGetSchema hasGetNext hasGetLastError live : Bool) :
    (ofSteps schema schemaCode steps lastError hasGetSchema hasGetNext hasGetLastError
      live).Premade := by
  intro _ i hi
  have hnone : steps[i]? = none := List.getElem?_eq_none hi
  simp [ofSteps, scriptOf, List.getD_eq_getElem?_getD, hnone, Step.array?]

/-- The arrays the stream still holds. -/
def heldArrays (s : ScriptedStream) : List ArrayNode :=
  (List.range s.made).filterMap fun i => (s.steps i).array?

/-- The stream after one `get_next` call: its script moves on by one answer. -/
def advance (s : ScriptedStream) : ScriptedStream :=
  { s with steps := fun i => s.steps (i + 1), made := s.made - 1 }

/-- The `get_schema` callback: the script's code, else the schema once. -/
def getSchema (s : ScriptedStream) : Reply SchemaNode × ScriptedStream :=
  if !s.live then (.error Producer.einval, s)
  else if s.schemaCode ≠ 0 then (.error s.schemaCode, s)
  else match s.schema with
    | some n => (.ok n, { s with schema := none })
    | none => (.error Producer.einval, s)

/-- The `get_next` callback: the next answer of the script. -/
def getNext (s : ScriptedStream) : Reply ArrayNode × ScriptedStream :=
  if !s.live then (.error Producer.einval, s)
  else match s.steps 0 with
    | .batch a => (.ok a, s.advance)
    | .finish => (.ok ArrayNode.ended, s.advance)
    | .fail code => (.error code, s.advance)

/-- The `get_last_error` callback. -/
def lastErrorText (s : ScriptedStream) : Option String :=
  if s.live then s.lastError else none

/-- The `release` callback: the schema and arrays still held are released with it. What the
script would still have answered is kept, as a record of how far it was read. -/
def release (s : ScriptedStream) : ScriptedStream :=
  if !s.live then s else
  let ledger := (s.ledger.arrayList s.heldArrays).stream
  let ledger := match s.schema with
    | some n => ledger.schema n
    | none => ledger
  { s with live := false, schema := none, made := 0, ledger := ledger }

end ScriptedStream

end Columnar
