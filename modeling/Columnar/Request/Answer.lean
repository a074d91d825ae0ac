import Columnar.Request.Format
import Columnar.Json.Read
import Columnar.Json.Write
import Columnar.Request.Bitmap
import Columnar.Request.Build
import Columnar.Request.Schema
import Columnar.Request.Exchange
import Columnar.Request.Stream
import Columnar.Request.Capsule
import Columnar.Request.Binding
import Columnar.Request.Scalar
import Columnar.Request.Chunked
import Columnar.Request.Table
import Columnar.Request.Descriptor
import Columnar.Request.Interop
import Columnar.Request.Inspect
import Columnar.Request.Buffer

/-!
# Answering a request

A request is a JSON object whose member `op` names what to do; `answer` reads it, runs the
library and writes the answer. A request that cannot be read, or names no known operation,
is answered with a `bad_input` failure.
-/

namespace Columnar

namespace Request

/-- The answer of a readable request, by its operation. -/
def respond (req : Doc) : Decode Doc := do
  match ← req.get "op" Doc.toStr with
  | "format_decode" => formatDecode req
  | "format_encode" => formatEncode req
  | "type_info" => typeInfo req
  | "metadata" => metadata req
  | "bitmask" => bitmask req
  | "bitmask_api" => bitmaskApi req
  | "build" => build req
  | "schema_export" => schemaExport req
  | "schema_import" => schemaImport req
  | "export" => exportRequest req
  | "import" => importRequest req
  | "stream_ops" => streamOps req
  | "stream_read" => streamRead req
  | "capsule" => capsule req
  | "py" => session req
  | "scalar_api" => scalarApi req
  | "super_api" => superApi req
  | "table_api" => tableApi req
  | "descriptor_api" => descriptorApi req
  | "arrow_rs" => interop Peer.layoutOnly req
  | "array_api" => arrayApi req
  | "buffer_api" => bufferApi req
  | other => .error ("unknown op '" ++ other ++ "'")

end Request

/-- The answer to one request. -/
def answer (req : Doc) : Doc :=
  match Request.respond req with
  | .ok d => d
  | .error m => badInput m

/-- The answer line to one request line. -/
def answerLine (line : String) : String :=
  match Doc.parse line with
  | .ok req => (answer req).write
  | .error m => (badInput m).write

end Columnar
