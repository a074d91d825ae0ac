import Columnar.Stream.Reader

/-!
# Moving descriptors

A consumer that takes a descriptor over moves it out of its slot and leaves a released
one behind, so the release callback runs once, for whoever holds the moved descriptor.
Releasing a released descriptor does nothing.
-/

namespace Columnar

/-- The schema left behind when a schema is moved out: one with no release callback. -/
def SchemaNode.vacant : SchemaNode :=
  { (default : SchemaNode) with released := true }

/-- A stream with no callbacks at all. -/
def ArrayStream.empty : ArrayStream :=
  .scripted ⟨none, 0, ScriptedStream.scriptOf [], 0, none, false, false, false, false, {}⟩

/-- Moves an array out: the moved array and the released one left behind. -/
def ArrayNode.take (a : ArrayNode) : ArrayNode × ArrayNode :=
  (a, ArrayNode.ended)

/-- Moves a schema out: the moved schema and the released one left behind. -/
def SchemaNode.take (s : SchemaNode) : SchemaNode × SchemaNode :=
  (s, SchemaNode.vacant)

/-- Moves a stream out: the moved stream and the released one left behind. -/
def ArrayStream.take (s : ArrayStream) : ArrayStream × ArrayStream :=
  (s, ArrayStream.empty)

/-- Moves child `i` out of a schema: the child, if the slot holds one, and the parent
with a released schema in that slot. -/
def SchemaNode.takeChild (s : SchemaNode) (i : Nat) : Option SchemaNode × SchemaNode :=
  match s.children with
  | some slots =>
    ((slots[i]?).join, { s with children := some (slots.set i (some SchemaNode.vacant)) })
  | none => (none, s)

end Columnar
