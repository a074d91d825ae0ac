import Columnar.Json.Doc
import Columnar.Type.Basic

/-!
# Types, fields and metadata as JSON

A simple type is its name (`"Int32"`, `"Utf8View"`); a parametrised type is an object with
one member named for the type:

> `{"Time32":"ms"}`, `{"Timestamp":["us","UTC"]}`, `{"Interval":"DaysTime"}`,
> `{"Dictionary":{"index":"Int8","values":"String","ordered":false}}`,
> `{"Struct":[field, ...]}`, `{"List":field}`, `{"LargeList":field}`.

A field is `{"name","type","nullable","metadata"}`; reading takes the name `""`, nullable
and no metadata when those members are missing, and writing always gives all four.

Reading follows the tree structurally: a field's members are walked one by one, so the
type inside a member is a subterm of the field that holds it.
-/

namespace Columnar

namespace TimeUnit

/-- The unit's short code in requests and answers. -/
def code : TimeUnit → String
  | .seconds => "s"
  | .milliseconds => "ms"
  | .microseconds => "us"
  | .nanoseconds => "ns"
  | .days => "days"

/-- The unit of a short code. -/
def ofCode : String → Decode TimeUnit
  | "s" => .ok .seconds
  | "ms" => .ok .milliseconds
  | "us" => .ok .microseconds
  | "ns" => .ok .nanoseconds
  | "days" => .ok .days
  | other => .error ("unknown time unit '" ++ other ++ "'")

end TimeUnit

namespace IntervalUnit

/-- The interval unit of its name. -/
def ofName : String → Decode IntervalUnit
  | "YearMonth" => .ok .yearMonth
  | "DaysTime" => .ok .daysTime
  | "MonthDaysNs" => .ok .monthDayNano
  | other => .error ("unknown interval unit '" ++ other ++ "'")

end IntervalUnit

namespace IndexType

/-- The index type of its name. -/
def ofName : String → Decode IndexType
  | "Int8" => .ok .int8
  | "Int16" => .ok .int16
  | "Int32" => .ok .int32
  | "Int64" => .ok .int64
  | "UInt8" => .ok .uint8
  | "UInt16" => .ok .uint16
  | "UInt32" => .ok .uint32
  | "UInt64" => .ok .uint64
  | other => .error ("unknown index type '" ++ other ++ "'")

end IndexType

namespace Metadata

/-- The metadata as a JSON object. -/
def toDoc (m : Metadata) : Doc :=
  .obj (m.entries.map fun p => (p.1, .str p.2))

/-- The metadata of a JSON object of strings. -/
def ofDoc (d : Doc) : Decode Metadata := do
  let ms ← d.toMembers
  let pairs ← ms.mapM fun p => do pure (p.1, ← p.2.toStr)
  pure (ofList pairs)

end Metadata

namespace DataType

/-- The simple type of a name. -/
def ofName : String → Decode DataType
  | "Null" => .ok .null
  | "Boolean" => .ok .boolean
  | "Int8" => .ok .int8
  | "Int16" => .ok .int16
  | "Int32" => .ok .int32
  | "Int64" => .ok .int64
  | "UInt8" => .ok .uint8
  | "UInt16" => .ok .uint16
  | "UInt32" => .ok .uint32
  | "UInt64" => .ok .uint64
  | "Float32" => .ok .float32
  | "Float64" => .ok .float64
  | "String" => .ok .string
  | "LargeString" => .ok .largeString
  | "Utf8View" => .ok .stringView
  | "Date32" => .ok .date32
  | "Date64" => .ok .date64
  | other => .error ("unknown type '" ++ other ++ "'")

/-- The timestamp of a `[unit, zone]` pair. -/
def timestampOfDoc : Doc → Decode DataType
  | .arr [u, .null] => do pure (.timestamp (← TimeUnit.ofCode (← u.toStr)) none)
  | .arr [u, z] => do pure (.timestamp (← TimeUnit.ofCode (← u.toStr)) (some (← z.toStr)))
  | .arr [u] => do pure (.timestamp (← TimeUnit.ofCode (← u.toStr)) none)
  | _ => .error "a timestamp is [unit, zone]"

end DataType

/-- A dictionary type being read: index, values and order seen so far. -/
structure DictionaryDraft where
  index : Option IndexType := none
  values : Option DataType := none
  ordered : Bool := false

/-- A field being read: the members seen so far. -/
structure FieldDraft where
  name : String := ""
  type : Option DataType := none
  nullable : Bool := true
  metadata : Metadata := Metadata.empty

mutual

/-- The type a JSON document describes. -/
def DataType.ofDoc : Doc → Decode DataType
  | .str name => DataType.ofName name
  | .obj [("Time32", u)] => do pure (.time32 (← TimeUnit.ofCode (← u.toStr)))
  | .obj [("Time64", u)] => do pure (.time64 (← TimeUnit.ofCode (← u.toStr)))
  | .obj [("Duration", u)] => do pure (.duration (← TimeUnit.ofCode (← u.toStr)))
  | .obj [("Timestamp", p)] => DataType.timestampOfDoc p
  | .obj [("Interval", u)] => do pure (.interval (← IntervalUnit.ofName (← u.toStr)))
  | .obj [("Dictionary", .obj ms)] => do
    let draft ← DataType.dictionaryMembers ms {}
    match draft.index, draft.values with
    | some i, some v => pure (.dictionary i v draft.ordered)
    | _, _ => .error "a dictionary needs an index and values"
  | .obj [("Struct", .arr fs)] => do pure (.struct (← Field.ofDocs fs))
  | .obj [("List", f)] => do pure (.list (← Field.ofDoc f))
  | .obj [("LargeList", f)] => do pure (.largeList (← Field.ofDoc f))
  | _ => .error "not a type"

/-- Reads the members of a dictionary type. -/
def DataType.dictionaryMembers : List (String × Doc) → DictionaryDraft → Decode DictionaryDraft
  | [], draft => .ok draft
  | (k, v) :: rest, draft =>
    if k = "index" then do
      DataType.dictionaryMembers rest
        { draft with index := some (← IndexType.ofName (← v.toStr)) }
    else if k = "values" then do
      DataType.dictionaryMembers rest { draft with values := some (← DataType.ofDoc v) }
    else if k = "ordered" then do
      let o ← match v with
        | .null => pure false
        | b => b.toBool
      DataType.dictionaryMembers rest { draft with ordered := o }
    else DataType.dictionaryMembers rest draft

/-- The field a JSON object describes. -/
def Field.ofDoc : Doc → Decode Field
  | .obj ms => do
    let draft ← Field.members ms {}
    match draft.type with
    | some t => pure ⟨draft.name, t, draft.nullable, draft.metadata⟩
    | none => .error "a field needs a type"
  | _ => .error "a field is an object"

/-- The fields of a list of JSON objects. -/
def Field.ofDocs : List Doc → Decode (List Field)
  | [] => .ok []
  | d :: ds => do
    let f ← Field.ofDoc d
    let fs ← Field.ofDocs ds
    pure (f :: fs)

/-- Reads the members of a field; `null` members keep their defaults. -/
def Field.members : List (String × Doc) → FieldDraft → Decode FieldDraft
  | [], draft => .ok draft
  | (_, .null) :: rest, draft => Field.members rest draft
  | (k, v) :: rest, draft =>
    if k = "name" then do Field.members rest { draft with name := ← v.toStr }
    else if k = "type" then do Field.members rest { draft with type := some (← DataType.ofDoc v) }
    else if k = "nullable" then do Field.members rest { draft with nullable := ← v.toBool }
    else if k = "metadata" then do
      Field.members rest { draft with metadata := ← Metadata.ofDoc v }
    else Field.members rest draft

end

mutual

/-- The type as a JSON document. -/
def DataType.toDoc : DataType → Doc
  | .null => .str "Null"
  | .boolean => .str "Boolean"
  | .int8 => .str "Int8"
  | .int16 => .str "Int16"
  | .int32 => .str "Int32"
  | .int64 => .str "Int64"
  | .uint8 => .str "UInt8"
  | .uint16 => .str "UInt16"
  | .uint32 => .str "UInt32"
  | .uint64 => .str "UInt64"
  | .float32 => .str "Float32"
  | .float64 => .str "Float64"
  | .string => .str "String"
  | .largeString => .str "LargeString"
  | .stringView => .str "Utf8View"
  | .date32 => .str "Date32"
  | .date64 => .str "Date64"
  | .time32 u => .obj [("Time32", .str u.code)]
  | .time64 u => .obj [("Time64", .str u.code)]
  | .duration u => .obj [("Duration", .str u.code)]
  | .timestamp u z => .obj [("Timestamp", .arr [.str u.code, Doc.opt .str z])]
  | .interval u => .obj [("Interval", .str u.name)]
  | .dictionary i v o =>
    .obj [("Dictionary", .obj [("index", .str i.name), ("values", DataType.toDoc v),
      ("ordered", .bool o)])]
  | .struct fs => .obj [("Struct", .arr (Field.toDocs fs))]
  | .list f => .obj [("List", Field.toDoc f)]
  | .largeList f => .obj [("LargeList", Field.toDoc f)]

/-- The field as a JSON object with all four members. -/
def Field.toDoc : Field → Doc
  | ⟨n, t, u, m⟩ =>
    .obj [("name", .str n), ("type", DataType.toDoc t), ("nullable", .bool u),
      ("metadata", m.toDoc)]

/-- Each field of a list as a JSON object. -/
def Field.toDocs : List Field → List Doc
  | [] => []
  | f :: fs => Field.toDoc f :: Field.toDocs fs

end

end Columnar
