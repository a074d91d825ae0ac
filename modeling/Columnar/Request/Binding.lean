import Columnar.Json.Binding
import Columnar.Binding.Dump
import Columnar.Binding.Index

/-!
# Requests that drive a binding session

A `py` request runs steps in one fresh session. A step makes its arguments, calls a
function of the binding's module, a method of an object, or one of the session's own
readers, and answers the result or the exception. A variable that was never set, or was
dropped, is a key error when an argument names it. A step with `if` is skipped when that
variable is missing or `None`; a step with `as` keeps its result in that variable (`None`
when it raised). After each step, the objects no variable reaches die. The session's own
calls take their object from the first argument, and a missing argument is an index error.

The session's readers work on capsules where they are, as a consumer outside the binding
would, and report dictionaries that later steps can index:

* `read_pair` dumps the schema capsule and the array capsule its argument unpacks into,
  and releases both unless told not to consume them;
* `read_stream` reads a stream capsule: its schema and, unless that failed, batches up to
  the end, an error, or `take`, dumping and releasing each; then it releases the schema and
  the stream. A callback the stream lacks is refused when it is due;
* `read_schema` dumps a schema capsule;
* `del` drops variables and answers the releases counted so far.

The answer lists the results and the releases of outside descriptors once every variable
is gone.
-/

namespace Columnar

namespace HostArg

mutual

/-- Makes an argument in the session. -/
def make : HostArg → Host Maker HostValue
  | .value v => pure v
  | .var name => do
    match (← get).vars.find? (·.1 == name) with
    | some (_, v) => pure v
    | none => Host.raise "KeyError" (HostValue.stringLiteral name)
  | .plain => Host.alloc (.outside .plain)
  | .list items => do pure (.list (← makeAll items))
  | .arrayMaker m => Host.alloc (.outside (.array m))
  | .streamMaker m => Host.alloc (.outside (.stream m))
  | .legacyMaker m => Host.alloc (.outside (.legacy m))
  | .batches items => do Host.alloc (.outside (.batches (← makeAll items)))
  | .chunks items => do Host.alloc (.outside (.chunks (← makeAll items)))
  | .capsule name p => Maker.makeCapsule name p

/-- Makes arguments in order. -/
def makeAll : List HostArg → Host Maker (List HostValue)
  | [] => pure []
  | a :: rest => do
    let v ← make a
    pure (v :: (← makeAll rest))

end

end HostArg

namespace Host

/-- The host's refusal to call a callback of a stream that is missing. -/
def callbackMissing : String :=
  "argument must be callable or integer function address"

/-- Releases a capsule's descriptor where it is: the descriptor's release and what its
memory owes are settled, and the capsule keeps the released descriptor. -/
def releaseInPlace (id : Nat) (c : HostCapsule) : Host Maker Unit := do
  match c.payload with
  | .schema n =>
    settle ((Ledger.schema {} n).merge c.owed)
    store id (.capsule { c with payload := .schema n.release, owed := {} })
  | .array a =>
    settle ((Ledger.array {} a).merge c.owed)
    store id (.capsule { c with payload := .array a.release, owed := {} })
  | .stream s =>
    let s := s.release
    settle (s.ledger.merge c.owed)
    store id (.capsule { c with payload := .stream (ArrayStream.clearLedger s), owed := {} })

/-- The host's refusal to read a descriptor at a null pointer: a child array with no child
schema to read it by. -/
def unreadableChild : String :=
  "integer expected"

/-- Dumps a schema capsule and an array capsule, the pair a value unpacks into, and releases
them when consuming. A dump that fails leaves both as they were. -/
def readPair (v : HostValue) (consume : Bool) : Host Maker Doc := do
  let (s, a) ← unpackPair v
  let (sid, sc) ← capsuleNamed s "arrow_schema"
  let (aid, ac) ← capsuleNamed a "arrow_array"
  match sc.payload, ac.payload with
  | .schema sn, .array an =>
    if sn.released ∨ an.released then
      pure (.obj [("schema_released", .bool sn.released), ("array_released", .bool an.released)])
    else
      match an.dumpByFormat sn with
      | none => raise "TypeError" unreadableChild
      | some arrayDump =>
        let answer := Doc.obj [("schema", sn.dumpAs true), ("array", arrayDump)]
        if consume then
          releaseInPlace aid ac
          releaseInPlace sid sc
        pure answer
  | _, _ => raise "TypeError" "read_pair expects a schema capsule and an array capsule"

/-- Reads batches of the stream of capsule `id`, dumping each under the schema and
releasing it, until the end, an error, or `limit` batches; with `fuel` calls at most. A
missing callback, or a batch the reader cannot dump, stops the reading with the host's
refusal, and the capsule keeps the stream as it was left. -/
def readBatches (id : Nat) (c : HostCapsule) (schema : SchemaNode) :
    Nat → Option Nat → ArrayStream → Host Maker (List Doc × ArrayStream)
  | _, some 0, s => pure ([], s)
  | 0, _, s => pure ([], s)
  | fuel + 1, limit, s => do
    let stuck {α : Type} (s : ArrayStream) : Host Maker α := do
      store id (.capsule { c with payload := .stream s })
      raise "TypeError" callbackMissing
    match s.getNext? with
    | none => stuck s
    | some (.error code, s) =>
      match s.lastError? with
      | some text => pure ([.obj [("code", .int code), ("last_error", .opt .str text)]], s)
      | none => stuck s
    | some (.ok a, s) =>
      if a.released then pure ([.obj [("end", .bool true)]], s)
      else
        match a.dumpByFormat schema with
        | none =>
          store id (.capsule { c with payload := .stream s })
          raise "TypeError" unreadableChild
        | some batch =>
          settle (Ledger.array {} a)
          let (rest, s) ← readBatches id c schema fuel (limit.map (· - 1)) s
          pure (batch :: rest, s)

/-- Reads a stream capsule where it is: its schema, then batches unless the schema failed;
then releases the schema and the stream. The batches are a tuple. -/
def readStreamCapsule (v : HostValue) (take : Option Nat) : Host Maker HostValue := do
  let (id, c) ← capsuleNamed v "arrow_array_stream"
  match c.payload with
  | .stream s =>
    if s.isReleased then pure (.dict [("released", .bool true)])
    else
      let finish (s : ArrayStream) : Host Maker Unit := do
        let live := { c with payload := .stream s }
        store id (.capsule live)
        releaseInPlace id live
      match s.getSchema? with
      | none => raise "TypeError" callbackMissing
      | some (.error code, s) =>
        finish s
        pure (.dict [("schema_code", .int code), ("batches", .tuple [])])
      | some (.ok n, s) =>
        let (batches, s) ← readBatches id c n (s.budget + 1) take s
        settle (Ledger.schema {} n)
        finish s
        pure (.dict [("schema_code", .int 0), ("schema", HostValue.ofDoc (n.dumpAs true)),
          ("batches", .tuple (HostValue.ofDocs batches))])
  | _ => raise "TypeError" "read_stream expects a stream capsule"

/-- Dumps a schema capsule. -/
def readSchema (v : HostValue) : Host Maker Doc := do
  let (_, c) ← capsuleNamed v "arrow_schema"
  match c.payload with
  | .schema n => pure (n.dumpAs true)
  | _ => raise "TypeError" "read_schema expects a schema capsule"

/-- The name of a capsule. -/
def capsuleName (v : HostValue) : Host Maker HostValue := do
  match v with
  | .ref id =>
    match ← fetch id with
    | .capsule c => pure (.str c.name)
    | _ => raise "ValueError" "PyCapsule_GetName called with invalid PyCapsule object"
  | _ => raise "ValueError" "PyCapsule_GetName called with invalid PyCapsule object"

/-- Argument `i` of a step; a missing one is the host's index error. -/
def argAt (args : List HostValue) (i : Nat) : Host Maker HostValue :=
  match args[i]? with
  | some v => pure v
  | none => raise "IndexError" "list index out of range"

/-- Runs the call of a step on its arguments. The session's own calls take their object
from the first argument: `c_array` and `c_stream` pass the rest to the method, and `item`
indexes the first argument by the second. -/
def perform (st : HostStep) (args : List HostValue) : Host Maker HostValue := do
  match st.call with
  | "version" =>
    pure (.tuple [.str "0.3.0", .str "Arrow PyCapsule interchange for colbridge"])
  | "c_array" => cArray (← argAt args 0) (args.drop 1)
  | "c_stream" => cStream (← argAt args 0) (args.drop 1)
  | "is_consumed" => isConsumed (← argAt args 0)
  | "item" => do
    let v ← argAt args 0
    item v (← argAt args 1)
  | "capsule_name" => capsuleName (← argAt args 0)
  | "read_pair" => do pure (HostValue.ofDoc (← readPair (← argAt args 0) st.consume))
  | "read_stream" => readStreamCapsule (← argAt args 0) st.take
  | "read_schema" => do pure (HostValue.ofDoc (← readSchema (← argAt args 0)))
  | fn => callFunction fn args

end Host

namespace Session

/-- The value of a variable, if it is set. -/
def var? (s : Session Maker) (name : String) : Option HostValue :=
  (s.vars.find? (·.1 == name)).map (·.2)

/-- Sets a variable. -/
def assign (s : Session Maker) (name : String) (v : HostValue) : Session Maker :=
  { s with vars := (s.vars.filter (·.1 != name)) ++ [(name, v)] }

/-- Drops variables. -/
def forget (s : Session Maker) (names : List String) : Session Maker :=
  { s with vars := s.vars.filter fun (n, _) => !names.contains n }

end Session

/-- Runs one step and answers it. -/
def runStep (st : HostStep) : StateM (Session Maker) Doc := do
  let s ← get
  let skip := match st.guard with
    | some g => ((s.var? g).map HostValue.isNone).getD true
    | none => false
  if skip then return .obj [("skipped", .bool true)]
  if st.call = "del" then
    let s := (s.forget st.vars).collect
    set s
    return s.ledger.toDoc
  let result ← (do Host.perform st (← HostArg.makeAll st.args)).run
  let s ← get
  let answer := match result with
    | .ok v => s.valueDoc v
    | .error e => e.toDoc
  let s := match st.bind with
    | some name =>
      s.assign name (match result with
        | .ok v => v
        | .error _ => .none)
    | none => s
  set s.collect
  return answer

/-- Runs steps in order. -/
def runSteps : List HostStep → StateM (Session Maker) (List Doc)
  | [] => pure []
  | st :: rest => do
    let d ← runStep st
    pure (d :: (← runSteps rest))

namespace Request

/-- Runs a session request. -/
def session (req : Doc) : Decode Doc := do
  let steps ← req.getD "steps" (Doc.mapItems HostStep.ofDoc) []
  let (results, s) := (runSteps steps).run Session.empty
  let final := ({ s with vars := [] } : Session Maker).collect
  pure (.obj [("results", .arr results), ("releases", final.ledger.toDoc)])

end Request

end Columnar
