import Columnar.Binding.Convert

/-!
# The functions of the binding's module

Each function converts its argument (`arr` a column, `batch` a record batch, `table` a
batched table) and works on the result:

* `echo_*` convert and then fail to hand the value back, since the host library that would
  hold it is missing;
* `array_info` and `table_info` describe the value;
* `export_*` wrap it in a single-use export object;
* `generate_sample_batch` and `generate_nullable_array` build a value of their own.

A `TypeError` raised while an argument is converted names the argument; other exceptions
pass unchanged. A value a function lets go settles what its memory owes.
-/

namespace Columnar

/-- The batch `generate_sample_batch` exports: ids 1 to 5, scores `1.1 · id` and labels
`item_id`, none nullable. -/
def sampleBatch : Table :=
  let ids := List.range' 1 5
  let scores := ids.map fun i => (Float.ofNat i * 1.1).toBits.toNat
  let labels := ids.map fun i => "item_" ++ toString i
  let offsets := labels.scanl (fun n l => n + l.utf8ByteSize) 0
  let data := labels.flatMap fun l => l.toUTF8.toList
  let cols : List Series :=
    [⟨⟨"id", .int64, false, .empty⟩, .numeric .int64 (.ofList ids) none⟩,
     ⟨⟨"score", .float64, false, .empty⟩, .numeric .float64 (.ofList scores) none⟩,
     ⟨⟨"label", .string, false, .empty⟩, .text false (.ofList offsets) (.ofList data) none⟩]
  ⟨cols, 5, "sample", .empty⟩

/-- The column `generate_nullable_array` exports: `[10, null, 30, null, 50]` as nullable
64-bit integers named `values`. -/
def sampleNullable : Series :=
  ⟨⟨"values", .int64, true, .empty⟩,
    .numeric .int64 (.ofList [10, 0, 30, 0, 50])
      (some (Bitmap.ofBools [true, false, true, false, true]))⟩

namespace Host

variable {O : Type} [World O]

/-- Converts an argument; a `TypeError` on the way names the argument. -/
def argument {α : Type} (name : String) (convert : Host O α) : Host O α :=
  tryCatch convert fun e =>
    if e.type = "TypeError" then
      throw ⟨"TypeError", "argument '" ++ name ++ "': " ++ e.message⟩
    else throw e

/-- The one argument of a function. -/
def single (fn name : String) : List HostValue → Host O HostValue
  | [v] => pure v
  | [] => raise "TypeError" (fn ++ "() missing 1 required positional argument: '" ++ name ++ "'")
  | vs => raise "TypeError" (fn ++ "() takes 1 positional arguments but " ++ toString vs.length ++
      " were given")

/-- Checks that a function that takes nothing got no argument; the refusal names the
function with its module. -/
def noArguments (fn : String) : List HostValue → Host O Unit
  | [] => pure ()
  | vs => raise "TypeError" ("colbridge_py." ++ fn ++ "() takes no arguments (" ++
      toString vs.length ++ " given)")

/-- The failure of handing a converted value back to the host. -/
def handBack {α : Type} (k : Kept α) : Host O HostValue := do
  discard k
  raise "ModuleNotFoundError" "No module named 'pyarrow'"

/-- Calls a function of the module. -/
def callFunction (fn : String) (args : List HostValue) : Host O HostValue := do
  match fn with
  | "echo_array" => handBack (← argument "arr" (arrayOf (← single fn "arr" args)))
  | "echo_batch" => handBack (← argument "batch" (batchOf (← single fn "batch" args)))
  | "echo_table" => handBack (← argument "table" (tableOf (← single fn "table" args)))
  | "echo_chunked" => handBack (← argument "arr" (chunkedOf (← single fn "arr" args)))
  | "array_info" =>
    let k ← argument "arr" (arrayOf (← single fn "arr" args))
    discard k
    let s := k.value
    pure (.str ("colbridge FieldArray: name=" ++ s.field.name ++ ", type=" ++
      s.field.type.display ++
      ", len=" ++ toString s.len ++ ", null_count=" ++ toString s.nullCount))
  | "table_info" =>
    let k ← argument "table" (tableOf (← single fn "table" args))
    discard k
    let b := k.value
    pure (.str ("colbridge SuperTable: batches=" ++ toString b.count ++ ", rows=" ++
      toString b.rows ++ ", cols=" ++ toString b.width))
  | "export_array" =>
    let k ← argument "arr" (arrayOf (← single fn "arr" args))
    alloc (.arrayExport ⟨some (.series k.value)⟩ k.owed)
  | "export_batch_stream" =>
    let k ← argument "batch" (batchOf (← single fn "batch" args))
    alloc (.streamExport ⟨some (.table k.value)⟩ k.owed)
  | "export_table_stream" =>
    let k ← argument "table" (tableOf (← single fn "table" args))
    alloc (.streamExport ⟨some (.batched k.value)⟩ k.owed)
  | "export_chunked_stream" =>
    let k ← argument "arr" (chunkedOf (← single fn "arr" args))
    alloc (.streamExport ⟨some (.chunked k.value)⟩ k.owed)
  | "generate_sample_batch" =>
    noArguments fn args
    alloc (.streamExport ⟨some (.table sampleBatch)⟩ {})
  | "generate_nullable_array" =>
    noArguments fn args
    alloc (.arrayExport ⟨some (.series sampleNullable)⟩ {})
  | other => raise "AttributeError" ("module 'colbridge_py' has no attribute '" ++ other ++ "'")

end Host

end Columnar
