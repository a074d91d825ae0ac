import Columnar.Binding.Text

/-!
# Indexing values of the session

`Host.item v i` is the host's `v[i]`:

* a list, a tuple or a string takes an integer index, a boolean counting as `0` or `1`,
  and a negative one counting from the end; the items of a string are its characters. An
  index must fit in a signed 64-bit word before it is compared with the length;
* a dictionary takes a key equal to one of its keys. Its keys are strings, so a key of
  another type is missing, and a list or a dictionary, which cannot be a key at all, is
  refused;
* nothing else can be indexed.

`Host.unpackPair v` is the host's `a, b = v`: a list, a tuple, a string (its characters)
or a dictionary (its keys) of exactly two items.
-/

namespace Columnar

namespace HostValue

/-- The integer a value stands for as an index: booleans are `0` and `1`. -/
def asIndex? : HostValue → Option Int
  | .int i => some i
  | .bool b => some (if b then 1 else 0)
  | _ => Option.none

mutual

/-- The type of the first part of a value that cannot be a dictionary key, if any. -/
def unhashable? : HostValue → Option String
  | .list _ => some "list"
  | .dict _ => some "dict"
  | .tuple items => unhashableOf? items
  | _ => Option.none

/-- The type of the first part of values that cannot be a dictionary key, if any. -/
def unhashableOf? : List HostValue → Option String
  | [] => Option.none
  | v :: vs =>
    match unhashable? v with
    | some t => some t
    | Option.none => unhashableOf? vs

end

end HostValue

/-- The item at position `k` of a sequence of `n` items, counted from the end when `k` is
negative. -/
def position? (n : Nat) (k : Int) : Option Nat :=
  let j := if k < 0 then k + n else k
  if 0 ≤ j ∧ j < n then some j.toNat else none

/-- Whether an integer fits in the host's index word, a signed 64-bit integer. -/
def fitsIndex (k : Int) : Bool :=
  -Int.pow 2 63 ≤ k && k < Int.pow 2 63

namespace Host

variable {O : Type} [World O]

/-- The host's refusal of an index too wide for its index word. -/
def indexTooWide {α : Type} : Host O α :=
  raise "IndexError" "cannot fit 'int' into an index-sized integer"

/-- The class names of the objects of the session, for literals. -/
def classNames : Host O (Nat → String) := do
  let s ← get
  pure fun id => ((s.object? id).map HostObject.className).getD "object"

/-- An item of a list or a tuple (`kind`). -/
def sequenceItem (kind : String) (xs : List HostValue) (i : HostValue) : Host O HostValue := do
  match i.asIndex? with
  | some k =>
    if !fitsIndex k then indexTooWide
    else match position? xs.length k with
    | some j => pure (xs.getD j .none)
    | none => raise "IndexError" (kind ++ " index out of range")
  | none =>
    raise "TypeError" (kind ++ " indices must be integers or slices, not " ++ (← className i))

/-- The item of a value at an index or key. -/
def item (v i : HostValue) : Host O HostValue := do
  match v with
  | .list xs => sequenceItem "list" xs i
  | .tuple xs => sequenceItem "tuple" xs i
  | .str s =>
    match i.asIndex? with
    | some k =>
      if !fitsIndex k then indexTooWide
      else match position? s.length k with
      | some j => pure (.str (s.toList.getD j ' ').toString)
      | none => raise "IndexError" "string index out of range"
    | none => raise "TypeError" ("string indices must be integers, not '" ++ (← className i) ++ "'")
  | .dict entries =>
    match i with
    | .str k =>
      match entries.find? (·.1 == k) with
      | some (_, x) => pure x
      | none => raise "KeyError" (HostValue.stringLiteral k)
    | other =>
      match other.unhashable? with
      | some t => raise "TypeError" ("unhashable type: '" ++ t ++ "'")
      | none => raise "KeyError" (other.literal (← classNames))
  | other => raise "TypeError" ("'" ++ (← className other) ++ "' object is not subscriptable")

/-- The items a value unpacks into: those of a list or a tuple, the characters of a string,
the keys of a dictionary; anything else cannot be unpacked. -/
def unpack (v : HostValue) : Host O (List HostValue) := do
  match v with
  | .list xs | .tuple xs => pure xs
  | .str s => pure (s.toList.map fun c => .str c.toString)
  | .dict entries => pure (entries.map fun e => .str e.1)
  | other => raise "TypeError" ("cannot unpack non-iterable " ++ (← className other) ++ " object")

/-- The two items a value unpacks into. -/
def unpackPair (v : HostValue) : Host O (HostValue × HostValue) := do
  match ← unpack v with
  | [a, b] => pure (a, b)
  | xs =>
    if xs.length < 2 then
      raise "ValueError" ("not enough values to unpack (expected 2, got " ++
        toString xs.length ++ ")")
    else raise "ValueError" "too many values to unpack (expected 2)"

end Host

end Columnar
