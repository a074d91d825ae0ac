import Columnar.Json.Array
import Columnar.Column.Equality
import Columnar.Column.Read

/-!
# Requests that inspect a column

An `array_api` request builds a column and answers what its accessors say: its summary,
validity, windows and equality with itself, the accessors of its layout (`detail`), and
those of the series `api` over it (`field_array`).

Reads past the end are answered as the broken preconditions they are: `value(n)` of a
column of `n` slots, and, for a string column, its own read of slot `n`, which breaks on the
validity bitmap when there is one and on the offsets otherwise. `get(n)` is no read past
the end: it answers nothing. A column with a slot that cannot be read answers the whole
request with that fault.
-/

namespace Columnar

namespace Column

/-- The window `[n / 2, n)` of a column of `n` slots, summarised. -/
def tailDoc (c : Column) : Doc :=
  outcomeDoc summary (c.slice (c.len / 2) (c.len - c.len / 2))

/-- The members every layout's detail starts with. -/
def countMembers (c : Column) : List (String × Doc) :=
  [("len", .nat c.len), ("is_empty", .bool (c.len == 0)), ("null_count", .nat c.nullCount)]

/-- The text of string slot `i`, or nothing when it is null. -/
def textDoc (c : Column) (i : Nat) : Doc :=
  match c.value i with
  | .string s => .str s
  | _ => .null

/-- The text of every slot of a string column, nothing for a null slot. -/
def texts (c : Column) : List (Option String) :=
  (List.range c.len).map fun i =>
    match c.value i with
    | .string s => some s
    | _ => none

/-- What the accessors of a numeric column say. -/
def numericDetail (c : Column) (k : NumericKind) (d : Buffer Nat) (v : Option Bitmap) : Doc :=
  let n := d.size
  let present (i : Nat) : Bool := i < n && !Bitmap.isNullAt v i
  let get (i : Nat) : Doc := if present i then (k.scalar (d.get i)).plainDoc else .null
  let key (i : Nat) : Doc :=
    if present i && !k.isFloat then .str (toString (k.integer (d.get i))) else .null
  .obj (countMembers c ++ [("type", c.type.toDoc),
    ("index_type", .opt (fun i => .str i.name) k.index?),
    ("key_at", .arr ((List.range n).map key)), ("tail", c.tailDoc),
    ("inner", .obj [("values", .arr (d.items.map fun w => (k.scalar w).plainDoc)),
      ("get", .arr ((List.range (n + 1)).map get)),
      ("is_null", .arr ((List.range n).map fun i => .bool (Bitmap.isNullAt v i))),
      ("is_nullable", .bool v.isSome), ("is_empty", .bool (n == 0)),
      ("null_count", .nat c.nullCount), ("from_vec_eq", .bool (c.same c)),
      ("mismatched_mask",
        outcomeDoc summary (Column.numeric k d (some (Bitmap.setAll (n + 1) true))).new)])])

/-- What the accessors of a boolean column say. -/
def booleanDetail (c : Column) (d : Bitmap) (v : Option Bitmap) : Doc :=
  let get (i : Nat) : Doc :=
    if i < d.len && !Bitmap.isNullAt v i then .bool (d.get i) else .null
  .obj [("get", .arr ((List.range (d.len + 1)).map get)), ("is_nullable", .bool v.isSome),
    ("null_count", .nat c.nullCount), ("is_empty", .bool (d.len == 0)), ("data", .str d.debug)]

/-- What the accessors of a string column say. -/
def textDetail (c : Column) (large : Bool) (off : Buffer Nat) : Doc :=
  let n := c.len
  let texts := c.texts
  let rebuilt := stringsOf large texts
  let rebuiltSame := match rebuilt with
    | .ok r => r.texts == texts
    | .error _ => false
  let rebuiltNullable := match rebuilt with
    | .ok r => r.validity.isSome
    | .error _ => false
  .obj (countMembers c ++ [("type", c.type.toDoc),
    ("str_value", .arr ((List.range n).map c.textDoc)), ("tail", c.tailDoc),
    ("inner", .obj [("offset_bounds",
        outcomeDoc (fun b => .arr [.nat b.1, .nat b.2]) (offsetBounds off)),
      ("iter", .arr ((List.range n).map c.textDoc)), ("default_len", .nat 0),
      ("rebuilt_eq_values", .bool rebuiltSame), ("rebuilt_nullable", .bool rebuiltNullable),
      ("from_strs", .arr (texts.filterMap id |>.map .str)),
      ("try_from_strs_nullable", .bool false),
      ("value", .arr ((List.range n).map c.textDoc)),
      ("value_oob", outcomeDoc Scalar.toDoc (c.readSlot n))])])

/-- What the accessors of a date, time, timestamp or duration column say. -/
def temporalDetail (c : Column) (k : TemporalKind) (u : TimeUnit) (z : Option String)
    (d : Buffer Nat) (v : Option Bitmap) : Doc :=
  let n := d.size
  let get (i : Nat) : Doc :=
    if i < n && !Bitmap.isNullAt v i then .int (LittleEndian.toInt k.width (d.get i)) else .null
  let zone := match k with
    | .date32 | .time32 => []
    | _ => [("tz", Doc.opt .str z)]
  .obj (countMembers c ++ [("type", c.type.toDoc), ("values", .arr (Scalar.toDocs c.toList)),
    ("tail", c.tailDoc),
    ("inner",
      .obj ([("get", .arr ((List.range (n + 1)).map get)), ("unit", .str u.code)] ++ zone))])

/-- What the accessors of an interval column say. -/
def intervalDetail (c : Column) (u : IntervalUnit) (d : Buffer Nat) : Doc :=
  .obj (countMembers c ++ [("type", c.type.toDoc), ("values", .arr (Scalar.toDocs c.toList)),
    ("tail", c.tailDoc),
    ("inner", .obj [("value_oob", outcomeDoc Scalar.toDoc (c.readSlot c.len)),
      ("unit", .str u.name), ("words", .nat d.size),
      ("is_empty", .bool (c.len == 0))])])

/-- What the accessors of a dictionary column say. -/
def dictionaryDetail (c : Column) (i : IndexType) (values : Column) (ordered : Bool) : Doc :=
  .obj (countMembers c ++ [("index_type", .str i.name), ("ordered", .bool ordered),
    ("values", .arr (Scalar.toDocs c.toList)),
    ("dictionary", .arr (Scalar.toDocs values.toList)), ("tail", c.tailDoc)])

/-- What the accessors of a struct column say: each child by name, then a name it lacks. -/
def structDetail (c : Column) (fields : List Field) (children : List Column) : Doc :=
  let pairs := fields.zip children
  let child (name : String) : Doc :=
    .arr [.str name,
      .opt (fun (p : Field × Column) => p.2.summary) (pairs.find? (·.1.name == name))]
  .obj (countMembers c ++
    [("child", .arr ((fields.map (·.name) ++ ["no such child"]).map child))])

/-- What the accessors of a list column say: each list as a column, or nothing when null. -/
def listDetail (c : Column) (off : Buffer Nat) (values : Column) (v : Option Bitmap) : Doc :=
  let row (i : Nat) : Doc :=
    if Bitmap.isNullAt v i then .null
    else (values.window (off.get i) (off.get (i + 1) - off.get i)).summary
  .obj ([("lists", .arr ((List.range c.len).map row))] ++ countMembers c)

/-- What the accessors of the column's layout say. -/
def detail (c : Column) : Doc :=
  match c with
  | .null _ => .obj [("default", (Column.null 0).summary)]
  | .numeric k d v => c.numericDetail k d v
  | .boolean d v => c.booleanDetail d v
  | .text large off _ _ => c.textDetail large off
  | .dictionary i _ _ values ordered => c.dictionaryDetail i values ordered
  | .temporal k u z d v => c.temporalDetail k u z d v
  | .interval u d _ => c.intervalDetail u d
  | .struct fields children _ _ => c.structDetail fields children
  | .list _ _ off values v => c.listDetail off values v

/-- The validity bitmap an accessor of the whole column answers: a dictionary's is that of
its keys. -/
def nullMask (c : Column) : Option Bitmap :=
  c.validity

/-- What the series `api` over the column says. -/
def seriesDetail (c : Column) : Doc :=
  let s := Series.ofColumn "api" c
  let f := s.field
  let tagged := Metadata.ofList [("k", "v")]
  .obj [("display", .str s.display), ("len", .nat c.len), ("is_empty", .bool (c.len == 0)),
    ("type", c.type.toDoc), ("head", outcomeDoc Series.summary (s.slice 0 (c.len / 2))),
    ("field", f.toDoc), ("field_display", .str f.display),
    ("with_metadata", .str { f with metadata := f.metadata.extend tagged }.display),
    ("from_ref_eq", .bool (f == f)), ("from_parts", (Series.fieldFor "p" c tagged).toDoc)]

/-- What the accessors of a column say, with the given windows. -/
def report (c : Column) (windows : List (Nat × Nat)) : Doc :=
  let isNum := match c with
    | .numeric .. => true
    | _ => false
  let isStr := match c with
    | .text .. => true
    | _ => false
  .obj (c.summaryMembers ++
    [("is_empty", .bool (c.len == 0)), ("mask", .opt (fun m => .str m.debug) c.nullMask),
      ("value_oob", outcomeDoc Scalar.toDoc (c.valueAt c.len)), ("eq_clone", .bool (c.same c)),
      ("is_num", .bool isNum), ("is_str", .bool isStr),
      ("slices", .arr (windows.map fun (o, l) => outcomeDoc summary (c.slice o l))),
      ("detail", c.detail), ("field_array", c.seriesDetail)])

end Column

namespace Request

/-- Builds a column and reports on it. -/
def arrayApi (req : Doc) : Decode Doc := do
  let built ← Column.ofSpec (← req.need "array")
  let windows ← req.getD "slices" (Doc.mapItems Doc.toWindow) []
  pure (outcomeDoc id (do
    let c ← (← built).readable
    pure (c.report windows)))

end Request

end Columnar
