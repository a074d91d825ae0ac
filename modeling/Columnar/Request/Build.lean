import Columnar.Json.Column
import Columnar.Column.Read

/-!
# Requests that build columns

`build` builds the column a request describes and answers its summary, or the refusal or
broken precondition of its construction or of reading its slots.
-/

namespace Columnar

namespace Request

/-- Builds a column and summarises it. -/
def build (req : Doc) : Decode Doc := do
  let built ← Column.ofSpec (← req.need "array")
  pure (outcomeDoc Column.summary (do (← built).readable))

end Request

end Columnar
