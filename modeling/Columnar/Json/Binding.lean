import Columnar.Binding.Makers
import Columnar.Binding.Module
import Columnar.Binding.Text
import Columnar.Json.Stream

/-!
# Session steps as JSON

A session request is a list of steps `{"call","args","as"?,"if"?}`; a step may also carry
`consume`, `take` or `vars` for the calls that read them. An argument is a JSON scalar (a
number with a fraction or an exponent, `NaN` or an infinity is a float, the double nearest
it), a variable (`{"var"}`), a plain object
(`{"plain"}`), a list (`{"list"}`), or an outside object made from descriptors:

* `{"array_obj":{"schema","array","mode"?,"message"?}}`: an array maker, which raises
  `producer failed` unless it is given another message;
* `{"stream_obj":{"stream","mode"?,"message"?}}`: a stream maker over a scripted stream,
  which raises `stream producer failed` unless it is given another message;
* `{"legacy_obj":{"schema"?,"array"?,"raise"?}}`: an object with the pointer handshake,
  which raises with the text of `raise` whenever that member is there, even as `null`;
* `{"batches_obj":[…]}` and `{"chunks_obj":[…]}`: lists of batches or chunks;
* `{"schema_capsule":…,"name"?}` and `{"array_capsule":…,"name"?}`: capsules without
  destructors.

Results are written as JSON: `None`, booleans, numbers and strings as themselves, a tuple
as `{"tuple":[…]}`, a list as a list, a capsule as `{"capsule":name}`, any other object as
`{"object":type}`, and an exception as `{"exception":type,"message":text}`. A dictionary is
written as an object with its values as plain JSON, where a tuple is a list.
-/

namespace Columnar

namespace HostValue

mutual

/-- A JSON value as a value of the session. -/
def ofDoc : Doc → HostValue
  | .null => .none
  | .bool b => .bool b
  | .num neg m e real =>
    if real then .float (FloatBits.ofDecimal neg m e)
    else
      .int (if neg then -((m * Nat.pow 10 e.toNat : Nat) : Int) else (m * Nat.pow 10 e.toNat : Nat))
  | .infinity neg => .float (FloatBits.double neg 2047 0)
  | .nan => .float FloatBits.nan64
  | .str s => .str s
  | .arr items => .list (ofDocs items)
  | .obj members => .dict (ofMembers members)

/-- JSON values as values of the session. -/
def ofDocs : List Doc → List HostValue
  | [] => []
  | d :: ds => ofDoc d :: ofDocs ds

/-- JSON members as dictionary entries. -/
def ofMembers : List (String × Doc) → List (String × HostValue)
  | [] => []
  | (k, d) :: rest => (k, ofDoc d) :: ofMembers rest

end

end HostValue

/-- An argument of a step, before it is made in the session. -/
inductive HostArg where
  | value (v : HostValue)
  | var (name : String)
  | plain
  | list (items : List HostArg)
  | arrayMaker (m : ArrayMaker)
  | streamMaker (m : StreamMaker)
  | legacyMaker (m : LegacyMaker)
  | batches (items : List HostArg)
  | chunks (items : List HostArg)
  | capsule (name : String) (payload : Payload)
  deriving Inhabited

/-- A step of a session. -/
structure HostStep where
  call : String
  args : List HostArg
  bind : Option String
  guard : Option String
  consume : Bool
  take : Option Nat
  vars : List String
  deriving Inhabited

/-- Reads a maker's mode; no mode is the normal one. -/
def MakerMode.ofName : Option String → Decode MakerMode
  | none => pure .normal
  | some "not_tuple" => pure .notTuple
  | some "triple" => pure .triple
  | some "raise" => pure .raise
  | some "schema_wrong_name" => pure .schemaWrongName
  | some "array_wrong_name" => pure .arrayWrongName
  | some "array_not_capsule" => pure .arrayNotCapsule
  | some "not_capsule" => pure .notCapsule
  | some "wrong_name" => pure .wrongName
  | some other => throw ("unknown maker mode '" ++ other ++ "'")

namespace HostArg

/-- Reads an argument, with `fuel` levels of nesting left. -/
def ofDocFuel : Nat → Doc → Decode HostArg
  | 0, _ => throw "argument too deep"
  | fuel + 1, d =>
    match d with
    | .null => pure (.value .none)
    | .bool b => pure (.value (.bool b))
    | .str s => pure (.value (.str s))
    | .num _ _ _ true | .infinity _ | .nan => pure (.value (HostValue.ofDoc d))
    | .num _ _ _ false => do pure (.value (.int (← d.toInt)))
    | .arr items => do pure (.list (← items.mapM (ofDocFuel fuel)))
    | .obj _ => do
      if let some n := d.member? "var" then pure (.var (← n.toStr))
      else if d.has "plain" then pure .plain
      else if let some xs := d.member? "list" then
        pure (.list (← (← xs.toList).mapM (ofDocFuel fuel)))
      else if let some m := d.member? "array_obj" then
        pure (.arrayMaker ⟨← m.get "schema" SchemaNode.ofDoc, ← m.get "array" ArrayNode.ofDoc,
          ← MakerMode.ofName (← m.get? "mode" Doc.toStr),
          ← m.getD "message" Doc.toStr "producer failed"⟩)
      else if let some m := d.member? "stream_obj" then
        let st ← m.get "stream" ScriptedStream.ofDocPremade
        pure (.streamMaker ⟨st.1, ← MakerMode.ofName (← m.get? "mode" Doc.toStr),
          ← m.getD "message" Doc.toStr "stream producer failed", st.2⟩)
      else if let some m := d.member? "legacy_obj" then
        pure (.legacyMaker ⟨← m.get? "schema" SchemaNode.ofDoc,
          ← m.get? "array" ArrayNode.ofDoc,
          (m.field? "raise").map fun r => (HostValue.ofDoc r).text fun _ => "object"⟩)
      else if let some xs := d.member? "batches_obj" then
        pure (.batches (← (← xs.toList).mapM (ofDocFuel fuel)))
      else if let some xs := d.member? "chunks_obj" then
        pure (.chunks (← (← xs.toList).mapM (ofDocFuel fuel)))
      else if let some s := d.member? "schema_capsule" then
        pure (.capsule (← d.getD "name" Doc.toStr "arrow_schema")
          (.schema (← SchemaNode.ofDoc s)))
      else if let some a := d.member? "array_capsule" then
        pure (.capsule (← d.getD "name" Doc.toStr "arrow_array") (.array (← ArrayNode.ofDoc a)))
      else throw "unknown argument form"

/-- Reads an argument. -/
def ofDoc (d : Doc) : Decode HostArg :=
  ofDocFuel (d.depth + 1) d

end HostArg

/-- Reads a step. -/
def HostStep.ofDoc (d : Doc) : Decode HostStep := do
  pure ⟨← d.get "call" Doc.toStr, ← d.getD "args" (Doc.mapItems HostArg.ofDoc) [],
    ← d.get? "as" Doc.toStr, ← d.get? "if" Doc.toStr, ← d.getD "consume" Doc.toBool true,
    ← d.get? "take" Doc.toNat, ← d.getD "vars" (Doc.mapItems Doc.toStr) []⟩

/-- A double as JSON: its shortest digits, an infinity or NaN. -/
def doubleDoc (b : Nat) : Doc :=
  match FloatBits.double64.decode b with
  | (_, .nan) => .nan
  | (neg, .infinite) => .infinity neg
  | (neg, .zero) => .num neg 0 0 true
  | (neg, .finite x) =>
    let (d, q) := FloatBits.shortest true x
    .num neg d q true

namespace HostValue

mutual

/-- A value as plain JSON: a tuple is a list, and an object is `null`. -/
def plainDoc : HostValue → Doc
  | .none => .null
  | .bool b => .bool b
  | .int i => .int i
  | .float b => doubleDoc b
  | .str t => .str t
  | .tuple items => .arr (plainDocs items)
  | .list items => .arr (plainDocs items)
  | .dict entries => .obj (plainEntries entries)
  | .ref _ => .null

/-- Values as plain JSON. -/
def plainDocs : List HostValue → List Doc
  | [] => []
  | v :: vs => plainDoc v :: plainDocs vs

/-- Dictionary entries as plain JSON members. -/
def plainEntries : List (String × HostValue) → List (String × Doc)
  | [] => []
  | (k, v) :: rest => (k, plainDoc v) :: plainEntries rest

end

end HostValue

namespace Session

mutual

/-- A value as a result. -/
def valueDoc (s : Session Maker) : HostValue → Doc
  | .none => .null
  | .bool b => .bool b
  | .int i => .int i
  | .float b => doubleDoc b
  | .str t => .str t
  | .tuple items => .obj [("tuple", .arr (valueDocs s items))]
  | .list items => .arr (valueDocs s items)
  | .dict entries => .obj (HostValue.plainEntries entries)
  | .ref id =>
    match s.object? id with
    | some (.capsule c) => .obj [("capsule", .str c.name)]
    | some o => .obj [("object", .str o.typeName)]
    | none => .null

/-- Values as results. -/
def valueDocs (s : Session Maker) : List HostValue → List Doc
  | [] => []
  | v :: vs => valueDoc s v :: valueDocs s vs


end

end Session

/-- An exception as a result. -/
def Raised.toDoc (e : Raised) : Doc :=
  .obj [("exception", .str e.type), ("message", .str e.message)]

/-- The ledger's counts as `{"arrays","schemas","streams"}`. -/
def Ledger.toDoc (l : Ledger) : Doc :=
  .obj [("arrays", .nat l.arrays), ("schemas", .nat l.schemas), ("streams", .nat l.streams)]

end Columnar
