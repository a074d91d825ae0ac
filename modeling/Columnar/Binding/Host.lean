import Columnar.Capsule.Handle

/-!
# The host session of the binding

The binding runs inside a dynamic host language. A session holds its named variables, its
heap of objects, and two ledgers of descriptors made outside the library: the releases of
them made so far, and what the outside world handed over so far.

* Values are `None`, booleans, integers, floats, strings, tuples, lists, dictionaries with
  string keys, and references to heap objects.
* Heap objects are capsules, the binding's export objects, which hold an export handle, and
  the objects of the outside world, whose state is of a type `O`.
* A host capsule names a descriptor and may have a destructor, which runs when the capsule
  dies. The binding's own destructor (`dropPayload`) releases a descriptor still live; a
  capsule the outside world made has whatever destructor its maker gave it.

The outside world is a parameter of the binding (`World O`): the class names and attributes
of its objects, the objects they refer to, and what each method the binding calls does to the
session. A method may do anything a computation of the session can: raise, make objects,
change any object. Nothing here assumes more of it; what a statement about the binding needs
of the world it states as a hypothesis. An outside object's death releases none of the
descriptors the session holds.

Memory the binding imported without copying keeps foreign descriptors alive. What such
memory owes is carried as a ledger (`owed`) by whatever holds it: an export object, the
descriptor of one of the binding's capsules, or a value being converted. It is settled
when its holder dies or releases the descriptor.

Objects die when no variable reaches them any more: `collect` finds them by marking from the
variables, and `sweep` lets any chosen objects die and runs what their deaths do.
-/

namespace Columnar

/-- An exception raised in the session: its type name and its text. -/
structure Raised where
  type : String
  message : String
  deriving Inhabited, DecidableEq, Repr

/-- A value of the session. -/
inductive HostValue where
  | none
  | bool (b : Bool)
  | int (i : Int)
  /-- A float, as the bit pattern of the double it is. -/
  | float (bits : Nat)
  | str (s : String)
  | tuple (items : List HostValue)
  | list (items : List HostValue)
  /-- A dictionary, its entries in the order of insertion. -/
  | dict (entries : List (String × HostValue))
  | ref (id : Nat)
  deriving Inhabited

namespace HostValue

mutual

/-- The heap objects a value refers to. -/
def refs : HostValue → List Nat
  | .ref id => [id]
  | .tuple items => refsOf items
  | .list items => refsOf items
  | .dict entries => refsOfEntries entries
  | _ => []

/-- The heap objects values refer to. -/
def refsOf : List HostValue → List Nat
  | [] => []
  | v :: vs => refs v ++ refsOf vs

/-- The heap objects the values of dictionary entries refer to. -/
def refsOfEntries : List (String × HostValue) → List Nat
  | [] => []
  | (_, v) :: rest => refs v ++ refsOfEntries rest

end

/-- The value is `None`. -/
def isNone : HostValue → Bool
  | .none => true
  | _ => false

end HostValue

/-- The descriptor is still live: its release callback is there. -/
def Payload.isLive : Payload → Bool
  | .schema s => !s.released
  | .array a => !a.released
  | .stream s => !s.isReleased

/-- A capsule destructor: what it releases, given the descriptor the capsule holds when it
dies and what that descriptor's memory owes. -/
abbrev Destructor := Payload → Ledger → Ledger

/-- The destructor of the binding's capsules: a descriptor still live is released, and with
it what its memory owes; an empty capsule only frees its box. -/
def dropPayload : Destructor :=
  fun p owed => if p.isLive then (p.release {}).merge owed else {}

/-- A capsule of the session: a name, the descriptor it points at, and its destructor. -/
structure HostCapsule where
  name : String
  payload : Payload
  destructor : Option Destructor
  /-- What the memory of the descriptor owes. -/
  owed : Ledger := {}
  deriving Inhabited

/-- What the capsule's death releases: what its destructor releases, if it has one. -/
def HostCapsule.finalize (c : HostCapsule) (l : Ledger) : Ledger :=
  match c.destructor with
  | some d => l.merge (d c.payload c.owed)
  | none => l

/-- An object on the heap: a capsule, one of the binding's export objects with what the
memory of its source owes, or an object of the outside world. -/
inductive HostObject (O : Type) where
  | capsule (c : HostCapsule)
  | arrayExport (handle : ArrayHandle) (owed : Ledger)
  | streamExport (handle : StreamHandle) (owed : Ledger)
  | outside (o : O)
  deriving Inhabited

/-- What an object's death releases: a capsule runs its destructor, and an export object
settles what the memory of its source owes. -/
def HostObject.finalize {O : Type} (l : Ledger) : HostObject O → Ledger
  | .capsule c => c.finalize l
  | .arrayExport _ owed => l.merge owed
  | .streamExport _ owed => l.merge owed
  | .outside _ => l

/-- The state of a session. -/
structure Session (O : Type) where
  heap : List (Nat × HostObject O)
  fresh : Nat
  vars : List (String × HostValue)
  ledger : Ledger
  /-- What the outside world handed over so far, as its objects count it. -/
  handed : Ledger := {}
  deriving Inhabited

namespace Session

variable {O : Type}

/-- The session with nothing in it. -/
def empty : Session O := ⟨[], 0, [], {}, {}⟩

/-- The object with an identifier. -/
def object? (s : Session O) (id : Nat) : Option (HostObject O) :=
  (s.heap.find? (·.1 == id)).map (·.2)

/-- Lets the objects `dead` picks die, in order of creation: they leave the heap, and what
their deaths release joins the ledger. -/
def sweep (s : Session O) (dead : Nat → Bool) : Session O :=
  let gone := s.heap.filter fun (id, _) => dead id
  { s with heap := s.heap.filter fun (id, _) => !dead id,
           ledger := gone.foldl (fun l (_, o) => o.finalize l) s.ledger }

end Session

/-- Computations of the session: they may raise, and what they did to the session stays. -/
abbrev Host (O : Type) := ExceptT Raised (StateM (Session O))

/-- What an object's `_export_to_c` leaves: the array and the schema it wrote through the
pointers it was given (released ones where it wrote nothing), and the exception it raised
afterwards, if any. -/
structure Written where
  array : ArrayNode := ArrayNode.ended
  schema : SchemaNode := SchemaNode.vacant
  raised : Option Raised := none
  deriving Inhabited

/-- The outside world of a session, whose objects have state `O`: the class name and the
attributes of an object, the heap objects it refers to, and what each of its methods the
binding calls does, given the object's identifier and state. -/
class World (O : Type) where
  className : O → String
  attributes : O → List String
  refs : O → List Nat
  /-- `__arrow_c_array__`, with the arguments it is called with. -/
  cArray : Nat → O → List HostValue → Host O HostValue
  /-- `__arrow_c_stream__`, with the arguments it is called with. -/
  cStream : Nat → O → List HostValue → Host O HostValue
  /-- `_export_to_c`, given pointers to an empty array and an empty schema. -/
  exportToC : Nat → O → Host O Written
  /-- `to_batches()`. -/
  toBatches : Nat → O → Host O HostValue
  /-- The attribute `chunks`. -/
  chunks : Nat → O → Host O HostValue

namespace HostObject

variable {O : Type} [World O]

/-- The name of the object's class, as attribute errors write it. -/
def className : HostObject O → String
  | .capsule _ => "PyCapsule"
  | .arrayExport _ _ => "builtins.ArrowArrayExport"
  | .streamExport _ _ => "builtins.ArrowStreamExport"
  | .outside o => World.className o

/-- The name of the object's type, as answers write it. -/
def typeName : HostObject O → String
  | .arrayExport _ _ => "ArrowArrayExport"
  | .streamExport _ _ => "ArrowStreamExport"
  | o => o.className

/-- The attributes the object has. -/
def attributes : HostObject O → List String
  | .arrayExport _ _ => ["__arrow_c_array__", "is_consumed"]
  | .streamExport _ _ => ["__arrow_c_stream__", "is_consumed"]
  | .outside o => World.attributes o
  | .capsule _ => []

/-- The heap objects the object refers to. -/
def refs : HostObject O → List Nat
  | .outside o => World.refs o
  | _ => []

end HostObject

namespace Session

variable {O : Type} [World O]

/-- The objects reachable from `work`, with `fuel` rounds of marking at most. -/
def mark (s : Session O) : Nat → List Nat → List Nat → List Nat
  | 0, marked, _ => marked
  | _ + 1, marked, [] => marked
  | fuel + 1, marked, id :: rest =>
    if marked.contains id then mark s fuel marked rest
    else
      let next := match s.object? id with
        | some o => o.refs
        | none => []
      mark s fuel (id :: marked) (next ++ rest)

/-- The objects a variable reaches. -/
def live (s : Session O) : List Nat :=
  let roots := HostValue.refsOf (s.vars.map (·.2))
  mark s ((s.heap.length + 1) * (roots.length + s.heap.length + 1)) [] roots

/-- Lets every object no variable reaches die, in order of creation. -/
def collect (s : Session O) : Session O :=
  let live := s.live
  s.sweep fun id => !live.contains id

end Session

namespace Host

variable {O : Type}

/-- Raises an exception. -/
def raise {α : Type} (type message : String) : Host O α :=
  throw ⟨type, message⟩

/-- Raises `AttributeError` for a missing attribute of an object of a class. -/
def noAttribute {α : Type} (cls name : String) : Host O α :=
  raise "AttributeError" ("'" ++ cls ++ "' object has no attribute '" ++ name ++ "'")

/-- Puts an object on the heap. -/
def alloc (o : HostObject O) : Host O HostValue := do
  let s ← get
  set { s with heap := s.heap ++ [(s.fresh, o)], fresh := s.fresh + 1 }
  pure (.ref s.fresh)

/-- The object with an identifier. -/
def fetch (id : Nat) : Host O (HostObject O) := do
  match (← get).object? id with
  | some o => pure o
  | none => raise "ReferenceError" "weakly-referenced object no longer exists"

/-- Replaces the object with an identifier. -/
def store (id : Nat) (o : HostObject O) : Host O Unit :=
  modify fun s => { s with heap := s.heap.map fun (i, old) => (i, if i == id then o else old) }

/-- Adds releases to the session's ledger. -/
def settle (l : Ledger) : Host O Unit :=
  modify fun s => { s with ledger := s.ledger.merge l }

/-- Counts descriptors the outside world hands over, as its objects do when they make them. -/
def handOver (l : Ledger) : Host O Unit :=
  modify fun s => { s with handed := s.handed.merge l }

variable [World O]

/-- The class name of a value, as attribute errors write it. -/
def className : HostValue → Host O String
  | .none => pure "NoneType"
  | .bool _ => pure "bool"
  | .int _ => pure "int"
  | .float .. => pure "float"
  | .str _ => pure "str"
  | .tuple _ => pure "tuple"
  | .list _ => pure "list"
  | .dict _ => pure "dict"
  | .ref id => do pure (← fetch id).className

/-- The value has the attribute. -/
def hasAttr (v : HostValue) (name : String) : Host O Bool :=
  match v with
  | .ref id => do pure ((← fetch id).attributes.contains name)
  | _ => pure false

/-- Raises `AttributeError` unless the value has the attribute. -/
def needAttr (v : HostValue) (name : String) : Host O Unit := do
  if !(← hasAttr v name) then noAttribute (← className v) name

end Host

/-- The exception a refusal of the library raises: `TypeError` for types and schemas,
`ValueError` for capsules, `OverflowError` for offsets, `RuntimeError` otherwise. -/
def Error.raised (e : Error) : Raised :=
  let type := match e with
    | .unsupported _ | .schema _ => "TypeError"
    | .consumed _ | .wrongCapsule _ _ => "ValueError"
    | .overflow _ _ => "OverflowError"
    | _ => "RuntimeError"
  ⟨type, e.message⟩

namespace Host

variable {O : Type}

/-- Raises the exception of a refusal. -/
def refuse {α : Type} (e : Error) : Host O α :=
  throw e.raised

/-- Raises the exception of a refusal, if any. -/
def ofExcept {α : Type} : Except Error α → Host O α
  | .ok a => pure a
  | .error e => refuse e

/-- Raises `TypeError` for an object that breaks the capsule protocol. -/
def protocol {α : Type} (message : String) : Host O α :=
  raise "TypeError" message

end Host

end Columnar
