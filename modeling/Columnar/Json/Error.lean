import Columnar.Json.Doc
import Columnar.Error

/-!
# Errors as JSON

A refusal is answered as `{"error": kind, "message": text}`, a broken precondition as the
same object with the kind `"panic"`, and a request that cannot be read with the kind
`"bad_input"`.
-/

namespace Columnar

/-- The answer object of a failure with the given kind and text. -/
def failureDoc (kind message : String) : Doc :=
  .obj [("error", .str kind), ("message", .str message)]

namespace Error

/-- The error as its answer object. -/
def toDoc (e : Error) : Doc :=
  failureDoc e.kind e.message

end Error

namespace Failure

/-- The failure as its answer object. -/
def toDoc : Failure → Doc
  | .error e => e.toDoc
  | .panic m => failureDoc "panic" m

end Failure

/-- The answer to a request that cannot be read. -/
def badInput (message : String) : Doc :=
  failureDoc "bad_input" message

/-- The answer of a refusal or of the written result. -/
def resultDoc {α : Type} (f : α → Doc) : Except Error α → Doc
  | .ok a => f a
  | .error e => e.toDoc

/-- The answer of a failure or of the written result. -/
def outcomeDoc {α : Type} (f : α → Doc) : Outcome α → Doc
  | .ok a => f a
  | .error e => e.toDoc

end Columnar
