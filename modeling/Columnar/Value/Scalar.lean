/-!
# Scalars

A `Scalar` is one decoded slot of a column: a null, a boolean, a signed or unsigned
integer, a float (as the bits of a double), a string, a temporal count, a calendar
interval, a list of scalars or a struct of named scalars. A dictionary slot decodes to the
scalar of its value.
-/

namespace Columnar

/-- One decoded slot of a column. -/
inductive Scalar where
  | null
  | boolean (b : Bool)
  | int (i : Int)
  | uint (n : Nat)
  /-- A float, as the bits of a double. -/
  | float (bits : Nat)
  | string (s : String)
  /-- A count of the column's time unit. -/
  | temporal (t : Int)
  | interval (months days : Int) (nanos : Int)
  | list (items : List Scalar)
  | struct (members : List (String × Scalar))
  deriving Inhabited, Repr

namespace Scalar

/-- Whether the scalar is the null. -/
def isNull : Scalar → Bool
  | .null => true
  | _ => false

/-- The text of a string scalar. -/
def asStr? : Scalar → Option String
  | .string s => some s
  | _ => none

end Scalar

end Columnar
