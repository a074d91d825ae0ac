import Columnar.Column.Basic
import Columnar.Error

/-!
# Building columns

Constructors of columns from values, and the checks that guard columns assembled from
parts. A column built from optional values stores a zero word in each null slot.

* Fixed-width and boolean columns take a validity bitmap exactly when asked to (`masked`),
  so a masked column may have a bitmap with no clear bit. Given their data and a bitmap
  (`new`), they take the bitmap only if it has a bit per slot.
* String, interval and list constructors from values, and `dictionaryOfStrings`, add a
  bitmap only when some value is missing.
* Columns assembled from parts are checked: offsets never decrease and stay inside the
  data or child column, bitmaps have one bit per slot, children have the declared types and
  the struct's length, and dictionary keys are integers inside the values.
-/

namespace Columnar

/-- The largest offset a string column with 32-bit offsets can hold, and with 64-bit. -/
def maxOffset (large : Bool) : Nat :=
  if large then Nat.pow 2 63 - 1 else Nat.pow 2 31 - 1

/-- The validity bitmap of optional values: a bit per value, set where present. -/
def validityOf {α : Type} (xs : List (Option α)) : Bitmap :=
  Bitmap.ofBools (xs.map Option.isSome)

/-- A validity bitmap only if some value is missing. -/
def validityIfMissing {α : Type} (xs : List (Option α)) : Option Bitmap :=
  if xs.any Option.isNone then some (validityOf xs) else none

/-- Running sums from zero: the offsets of consecutive lengths. -/
def offsetsOf (lengths : List Nat) : List Nat :=
  lengths.foldl (fun acc l => acc ++ [acc.getLastD 0 + l]) [0]

/-- Checks that offsets never decrease, naming the first pair that does. -/
def firstDecrease : Nat → List Nat → Option (Nat × Nat × Nat)
  | i, a :: b :: rest => if b < a then some (i, a, b) else firstDecrease (i + 1) (b :: rest)
  | _, _ => none

namespace Column

/-- A fixed-width column of optional words: with `masked`, a bitmap marks the missing words;
without, there is no bitmap. -/
def fixedOf (make : Buffer Nat → Option Bitmap → Column) (words : List (Option Nat))
    (masked : Bool) : Column :=
  make (Buffer.ofList (words.map (·.getD 0))) (if masked then some (validityOf words) else none)

/-- A boolean column of optional values, masked as `fixedOf`. -/
def booleansOf (values : List (Option Bool)) (masked : Bool) : Column :=
  .boolean (Bitmap.ofBools (values.map (·.getD false)))
    (if masked then some (validityOf values) else none)

/-- A numeric, temporal or boolean column over its data and a bitmap, as `new` takes them: a
bitmap whose bit count is not the slot count breaks the caller's precondition. -/
def new (c : Column) : Outcome Column :=
  match c.validity with
  | some m =>
    if m.len = c.len then .ok c
    else .error (.panic ("assertion `left == right` failed: " ++
      "null mask length must match data length"))
  | none => .ok c

/-- An interval column of optional values, each given as its words. -/
def intervalsOf (unit : IntervalUnit) (values : List (Option (List Nat))) : Column :=
  .interval unit (Buffer.ofList (values.flatMap fun v => v.getD (List.replicate unit.words 0)))
    (validityIfMissing values)

/-- The word of a 32-bit signed integer. -/
def int32Word (i : Int32) : Nat :=
  LittleEndian.ofInt 4 i.toInt

/-- The words of a `YearMonth` value: its months. -/
def monthsWords (m : Int32) : List Nat :=
  [int32Word m]

/-- The words of a `DaysTime` value: its days and milliseconds. -/
def daysMsWords (v : Int32 × Int32) : List Nat :=
  [int32Word v.1, int32Word v.2]

/-- The words of a `MonthDaysNs` value: its months, its days, and the low and high words of
its nanoseconds. -/
def monthDayNanosWords (v : Int32 × Int32 × Int64) : List Nat :=
  let n := LittleEndian.ofInt 8 v.2.2.toInt
  [int32Word v.1, int32Word v.2.1, n % Nat.pow 2 32, n / Nat.pow 2 32]

/-- `YearMonth` intervals from month counts. -/
def ofMonths (values : List (Option Int32)) : Column :=
  intervalsOf .yearMonth (values.map (Option.map monthsWords))

/-- `DaysTime` intervals from days and milliseconds. -/
def ofDaysMs (values : List (Option (Int32 × Int32))) : Column :=
  intervalsOf .daysTime (values.map (Option.map daysMsWords))

/-- `MonthDaysNs` intervals from months, days and nanoseconds. -/
def ofMonthDayNanos (values : List (Option (Int32 × Int32 × Int64))) : Column :=
  intervalsOf .monthDayNano (values.map (Option.map monthDayNanosWords))

/-- A string column of optional values; refused when the bytes overflow the offsets. -/
def stringsOf (large : Bool) (values : List (Option String)) : Except Error Column :=
  let bytes := values.map fun v => (v.map Utf8.encode).getD []
  let total := (bytes.map List.length).foldr (· + ·) 0
  if maxOffset large < total then .error (.overflow total (maxOffset large))
  else .ok (.text large (Buffer.ofList (offsetsOf (bytes.map List.length)))
    (Buffer.ofList bytes.flatten) (validityIfMissing values))

/-- A string column of present values, with no bitmap. -/
def stringsOfPresent (large : Bool) (values : List String) : Column :=
  let bytes := values.map Utf8.encode
  .text large (Buffer.ofList (offsetsOf (bytes.map List.length))) (Buffer.ofList bytes.flatten)
    none

/-- The first slot whose bytes break the string rules: decreasing offsets, an offset past
the data, or a present value that is not UTF-8. -/
def checkStrings (offsets : List Nat) (data : List UInt8) (validity : Option Bitmap) :
    Nat → List Nat → Except Error Unit
  | i, s :: e :: rest =>
    if e < s then
      .error (.malformed ("string offsets decrease at index " ++ toString i ++ ": " ++
        toString s ++ " > " ++ toString e))
    else if data.length < e then
      .error (.malformed ("string offset " ++ toString e ++ " at index " ++ toString (i + 1) ++
        " exceeds data length " ++ toString data.length))
    else if !Bitmap.isNullAt validity i && (Utf8.decode? ((data.drop s).take (e - s))).isNone then
      .error (.malformed ("string value " ++ toString i ++ " is not valid UTF-8"))
    else checkStrings offsets data validity (i + 1) (e :: rest)
  | _, _ => .ok ()

/-- A string column from offsets, bytes and a bitmap, checked; no offsets means none. -/
def stringsOfParts (large : Bool) (offsets : Buffer Nat) (data : Buffer UInt8)
    (validity : Option Bitmap) : Except Error Column := do
  let offsets := if offsets.items.isEmpty then Buffer.ofList [0] else offsets
  let len := offsets.size - 1
  match validity with
  | some m =>
    if m.len ≠ len then
      throw (.malformed ("string validity bitmap has " ++ toString m.len ++ " bits for " ++
        toString len ++ " values"))
  | none => pure ()
  checkStrings offsets.items data.items validity 0 offsets.items
  if len = 0 ∧ data.size < offsets.get 0 then
    throw (.malformed "string offset exceeds data length")
  pure (.text large offsets data validity)

/-- An interval column from raw 32-bit words, checked. -/
def intervalsOfWords (unit : IntervalUnit) (words : Buffer Nat) (validity : Option Bitmap) :
    Except Error Column := do
  if words.size % unit.words ≠ 0 then
    throw (.malformed (toString words.size ++ " words do not divide into " ++ unit.name ++
      " values of " ++ toString unit.words ++ " words"))
  match validity with
  | some m =>
    if m.len ≠ words.size / unit.words then
      throw (.malformed ("interval validity has " ++ toString m.len ++ " bits for " ++
        toString (words.size / unit.words) ++ " values"))
  | none => pure ()
  pure (.interval unit words validity)

/-- The first non-null key outside `[0, count)`, with its slot. -/
def keyOutside (kind : NumericKind) (count : Nat) (validity : Option Bitmap) :
    Nat → List Nat → Option (Nat × Int)
  | _, [] => none
  | i, w :: rest =>
    let k := kind.integer w
    if !Bitmap.isNullAt validity i && (k < 0 ∨ (count : Int) ≤ k) then some (i, k)
    else keyOutside kind count validity (i + 1) rest

/-- A dictionary column from a column of keys and a column of values, checked: the keys
are integers and every present key names a value. -/
def dictionaryOf (keys values : Column) (ordered : Bool) : Except Error Column :=
  match keys with
  | .numeric k data validity =>
    match k.index? with
    | some index =>
      match keyOutside k values.len validity 0 data.items with
      | some (i, key) =>
        .error (.malformed ("dictionary key " ++ toString key ++ " at index " ++ toString i ++
          " is out of range for " ++ toString values.len ++ " values"))
      | none => .ok (.dictionary index data validity values ordered)
    | none => .error (.schema ("dictionary keys must be integers, found " ++ keys.type.display))
  | other => .error (.schema ("dictionary keys must be integers, found " ++ other.type.display))

/-- The distinct present strings in order of first appearance. -/
def firstSeen : List String → List (Option String) → List String
  | seen, [] => seen
  | seen, some s :: rest => firstSeen (if seen.contains s then seen else seen ++ [s]) rest
  | seen, none :: rest => firstSeen seen rest

/-- A dictionary of 32-bit keys over the distinct strings in order of first appearance; a
bitmap only if some value is missing. The distinct strings take 32-bit offsets: bytes past
the largest one break the precondition of building them. -/
def dictionaryOfStrings (values : List (Option String)) : Outcome Column :=
  let uniques := firstSeen [] values
  let keys := values.map fun v => v.map fun s => uniques.idxOf s
  let total := (uniques.map fun s => (Utf8.encode s).length).foldr (· + ·) 0
  if maxOffset false < total then .error (.panic (Error.overflow total (maxOffset false)).message)
  else .ok (.dictionary .int32 (Buffer.ofList (keys.map (·.getD 0))) (validityIfMissing keys)
    (stringsOfPresent false uniques) false)

/-- The first child whose length or type disagrees with the struct. -/
def checkChildren (len : Nat) : List Field → List Column → Except Error Unit
  | f :: fs, c :: cs =>
    if c.len ≠ len then
      .error (.schema ("struct child '" ++ f.name ++ "' has length " ++ toString c.len ++
        ", expected " ++ toString len))
    else if !(c.type == f.type) then
      .error (.schema ("struct child '" ++ f.name ++ "' is " ++ c.type.display ++
        ", field declares " ++ f.type.display))
    else checkChildren len fs cs
  | _, _ => .ok ()

/-- A struct column of `len` rows, checked: one child per field, each of the field's type
and of `len` rows, and a bitmap of `len` bits. -/
def structOfLen (fields : List Field) (children : List Column) (validity : Option Bitmap)
    (len : Nat) : Except Error Column := do
  if fields.length ≠ children.length then
    throw (.schema ("struct has " ++ toString fields.length ++ " fields but " ++
      toString children.length ++ " children"))
  checkChildren len fields children
  match validity with
  | some m =>
    if m.len ≠ len then
      throw (.schema ("struct validity has " ++ toString m.len ++ " bits for " ++ toString len ++
        " rows"))
  | none => pure ()
  pure (.struct fields children validity len)

/-- A struct column whose length is that of its first child, else of its bitmap, else 0. -/
def structOf (fields : List Field) (children : List Column) (validity : Option Bitmap) :
    Except Error Column :=
  let len := match children, validity with
    | c :: _, _ => c.len
    | [], some m => m.len
    | [], none => 0
  structOfLen fields children validity len

/-- A list column from offsets into a child column, checked: the child has the item type,
offsets never decrease and end inside the child, and the bitmap has a bit per list. -/
def listOf (large : Bool) (item : Field) (offsets : Buffer Nat) (values : Column)
    (validity : Option Bitmap) : Except Error Column := do
  if !(values.type == item.type) then
    throw (.schema ("list child '" ++ item.name ++ "' is " ++ values.type.display ++
      ", field declares " ++ item.type.display))
  let offsets := if offsets.items.isEmpty then Buffer.ofList [0] else offsets
  match firstDecrease 0 offsets.items with
  | some (i, _, _) => throw (.malformed ("list offsets decrease at index " ++ toString i))
  | none => pure ()
  let last := offsets.items.getLastD 0
  if values.len < last then
    throw (.malformed ("list offset " ++ toString last ++ " exceeds child length " ++
      toString values.len))
  let len := offsets.size - 1
  match validity with
  | some m =>
    if m.len ≠ len then
      throw (.malformed ("list validity has " ++ toString m.len ++ " bits for " ++ toString len ++
        " lists"))
  | none => pure ()
  pure (.list large item offsets values validity)

/-- A list column from optional list lengths (a missing length is a null, empty list). The
offsets are running sums of words, so lengths adding up past the largest word break the
caller's precondition; each sum is then cut to the offset width. -/
def listOfLengths (large : Bool) (item : Field) (values : Column) (lengths : List (Option Nat)) :
    Outcome Column := do
  let sizes := lengths.map (·.getD 0)
  if wordMax < sizes.foldr (· + ·) 0 then throw (.panic "attempt to add with overflow")
  let width := if large then Nat.pow 2 64 else Nat.pow 2 32
  Outcome.ofResult (listOf large item (Buffer.ofList ((offsetsOf sizes).map (· % width))) values
    (validityIfMissing lengths))

end Column

end Columnar
