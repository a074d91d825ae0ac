import Columnar.Json.Column

/-!
# Requests on scalars

A `scalar_api` request converts a plain value into a scalar (`from` names its source type:
`i64`, `u64`, `f64`, `bool`, `str`, or an optional one, `opt_i64`, `opt_str`, `opt_bool`,
whose missing value becomes the null scalar) and answers the scalar, whether it is null
and its text if it is a string.
-/

namespace Columnar

namespace Request

/-- The scalar of a plain value of a source type. -/
def scalarOf (source : String) (d : Doc) : Decode Scalar := do
  match source, d with
  | "opt_i64", .null | "opt_str", .null | "opt_bool", .null => pure .null
  | "i64", _ | "opt_i64", _ => pure (.int (← d.toInt))
  | "u64", _ => pure (.uint (← d.toNat))
  | "f64", _ => pure (.float (← d.toDoubleBits))
  | "bool", _ | "opt_bool", _ => pure (.boolean (← d.toBool))
  | "str", _ | "opt_str", _ => pure (.string (← d.toStr))
  | other, _ => throw ("unknown scalar source '" ++ other ++ "'")

/-- Converts a value into a scalar and describes it. -/
def scalarApi (req : Doc) : Decode Doc := do
  let s ← scalarOf (← req.get "from" Doc.toStr) ((req.member? "value").getD .null)
  pure (.obj [("scalar", s.toDoc), ("is_null", .bool s.isNull), ("as_str", .opt .str s.asStr?)])

end Request

end Columnar
