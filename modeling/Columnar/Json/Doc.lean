import Columnar.Bytes.Hex

/-!
# JSON documents

Requests and answers of the library's request interface are JSON documents. A `Doc` is
the tree of one document; a number is kept exactly as its sign, decimal digits and
exponent, `±mantissa · 10 ^ exponent`, so integers of any width and the sign of a zero
pass through unchanged.

Reading a request is a `Decode`: it either yields a value or names what is malformed.
Optional members follow one rule: a missing member and a `null` member both take the
default.
-/

namespace Columnar

/-- A JSON document. -/
inductive Doc where
  | null
  | bool (b : Bool)
  /-- The number `±mantissa · 10 ^ exponent`, negative when `negative` holds; `real` when
  it was written with a fraction or an exponent rather than as an integer. -/
  | num (negative : Bool) (mantissa : Nat) (exponent : Int) (real : Bool)
  /-- `Infinity`, or `-Infinity` when `negative`: JSON as the host language reads it names
  the infinities, which no decimal does. -/
  | infinity (negative : Bool)
  /-- `NaN`, which JSON as the host language reads it also names. -/
  | nan
  | str (s : String)
  | arr (items : List Doc)
  /-- Members in the order written. -/
  | obj (members : List (String × Doc))
  deriving Inhabited

/-- Reading a request: a value or the reason the request is malformed. -/
abbrev Decode (α : Type) := Except String α

namespace Doc

/-- An integer. -/
def int (i : Int) : Doc := .num (decide (i < 0)) i.natAbs 0 false

/-- A natural number. -/
def nat (n : Nat) : Doc := .num false n 0 false

/-- `null` for `none`, the written value otherwise. -/
def opt {α : Type} (f : α → Doc) : Option α → Doc
  | none => .null
  | some a => f a

/-- A list written item by item. -/
def list {α : Type} (f : α → Doc) (xs : List α) : Doc :=
  .arr (xs.map f)

/-- The member `key` of an object, if present and not `null`. -/
def member? (d : Doc) (key : String) : Option Doc :=
  match d with
  | .obj ms =>
    match ms.find? (fun p => p.1 == key) with
    | some (_, .null) => none
    | some (_, v) => some v
    | none => none
  | _ => none

/-- The member `key` of an object as written, `null` included. -/
def field? (d : Doc) (key : String) : Option Doc :=
  match d with
  | .obj ms => (ms.find? (fun p => p.1 == key)).map (·.2)
  | _ => none

/-- Whether the object has the member `key` with a value other than `null`. -/
def has (d : Doc) (key : String) : Bool :=
  (d.member? key).isSome

/-- The member `key` of an object; its absence is malformed. -/
def need (d : Doc) (key : String) : Decode Doc :=
  match d.member? key with
  | some v => .ok v
  | none => .error ("missing member '" ++ key ++ "'")

/-- The document as a string. -/
def toStr : Doc → Decode String
  | .str s => .ok s
  | _ => .error "expected a string"

/-- The document as a boolean. -/
def toBool : Doc → Decode Bool
  | .bool b => .ok b
  | _ => .error "expected a boolean"

/-- The document as an integer; a number with a fraction is malformed. -/
def toInt : Doc → Decode Int
  | .num neg m e _ =>
    let signed (n : Nat) : Int := if neg then -(n : Int) else n
    if 0 ≤ e then .ok (signed (m * Nat.pow 10 e.toNat))
    else if m % Nat.pow 10 (-e).toNat = 0 then .ok (signed (m / Nat.pow 10 (-e).toNat))
    else .error "expected an integer"
  | _ => .error "expected an integer"

/-- The document as a natural number. -/
def toNat (d : Doc) : Decode Nat := do
  let i ← d.toInt
  if i < 0 then .error "expected a non-negative integer" else .ok i.toNat

/-- The items of an array. -/
def toList : Doc → Decode (List Doc)
  | .arr xs => .ok xs
  | _ => .error "expected an array"

/-- The members of an object. -/
def toMembers : Doc → Decode (List (String × Doc))
  | .obj ms => .ok ms
  | _ => .error "expected an object"

/-- The member `key` read by `f`, or `default` when it is missing or `null`. -/
def getD {α : Type} (d : Doc) (key : String) (f : Doc → Decode α) (default : α) : Decode α :=
  match d.member? key with
  | some v => f v
  | none => .ok default

/-- The member `key` read by `f`, or `none` when it is missing or `null`. -/
def get? {α : Type} (d : Doc) (key : String) (f : Doc → Decode α) : Decode (Option α) :=
  match d.member? key with
  | some v => some <$> f v
  | none => .ok none

/-- The member `key` read by `f`; its absence is malformed. -/
def get {α : Type} (d : Doc) (key : String) (f : Doc → Decode α) : Decode α := do
  f (← d.need key)

/-- Each item of an array read by `f`. -/
def mapItems {α : Type} (f : Doc → Decode α) (d : Doc) : Decode (List α) := do
  (← d.toList).mapM f

/-- Bytes written as hex; text that is not hex is malformed. -/
def toBytes (d : Doc) : Decode (List UInt8) := do
  match Hex.decode? (← d.toStr) with
  | some bytes => pure bytes
  | none => .error "expected hex bytes"

/-- A window `[offset, len]`. -/
def toWindow (d : Doc) : Decode (Nat × Nat) := do
  match ← d.toList with
  | [o, l] => pure (← o.toNat, ← l.toNat)
  | _ => .error "a window is [offset, len]"

end Doc

/-- The nesting depth of a document. -/
def Doc.depth : Doc → Nat
  | .arr xs => 1 + depthItems xs
  | .obj ms => 1 + depthMembers ms
  | _ => 1
where
  /-- The greatest depth of the items. -/
  depthItems : List Doc → Nat
    | [] => 0
    | x :: xs => max x.depth (depthItems xs)
  /-- The greatest depth of the members' values. -/
  depthMembers : List (String × Doc) → Nat
    | [] => 0
    | (_, v) :: ms => max v.depth (depthMembers ms)

end Columnar
