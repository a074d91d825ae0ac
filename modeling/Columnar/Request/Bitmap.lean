import Columnar.Column.Bitmap
import Columnar.Json.Error
import Columnar.Request.Format

/-!
# Requests on bitmaps

* `bitmask` wraps stored bytes as a bitmap, optionally takes a window, and shows the bits,
  their counts and the packed bytes of the aligned form;
* `bitmask_api` shows bitmaps made by each constructor, windows of a bitmap of given bits
  and a bitmap over stored bytes.
-/

namespace Columnar

namespace Bitmap

/-- The bitmap as `{"debug","len","is_empty","count_ones","bytes","bit_offset"}`. -/
def describe (m : Bitmap) : Doc :=
  .obj [("debug", .str m.debug), ("len", .nat m.len), ("is_empty", .bool m.isEmpty),
    ("count_ones", .nat m.countOnes), ("bytes", .str (Hex.encode m.bytes)),
    ("bit_offset", .nat m.offset)]

/-- The bits as a JSON list of booleans. -/
def bitsDoc (m : Bitmap) : Doc :=
  .list .bool m.bits

end Bitmap

/-- Each item paired with the next. -/
def adjacent {α : Type} : List α → List (α × α)
  | a :: b :: rest => (a, b) :: adjacent (b :: rest)
  | _ => []

namespace Request

/-- Wraps bytes as a bitmap, takes an optional window and shows it. -/
def bitmask (req : Doc) : Decode Doc := do
  let bytes ← req.get "hex" Doc.toBytes
  let offset ← req.get "offset" Doc.toNat
  let len ← req.get "len" Doc.toNat
  let window ← req.get? "slice" Doc.toWindow
  let shown : Outcome Doc := do
    let m ← Bitmap.wrap bytes offset len
    let m ← match window with
      | some (o, l) => m.slice o l
      | none => pure m
    let aligned := m.toAligned
    pure (.obj [("bits", .str m.digits), ("len", .nat m.len), ("bit_offset", .nat m.offset),
      ("count_ones", .nat m.countOnes), ("count_zeros", .nat m.countZeros),
      ("aligned_hex", .str (Hex.encode (aligned.bytes.take ((m.len + 7) / 8))))])
  pure (outcomeDoc id shown)

/-- What a bitmap over stored bytes shows: its bits, counts, aligned form and a tail. -/
def rawBitmap (m : Bitmap) : Doc :=
  let tail := m.window (m.len / 3) (m.len - m.len / 3)
  .obj [("mask", m.describe), ("bits", m.bitsDoc), ("zeros", .nat m.countZeros),
    ("aligned", m.toAligned.describe), ("aligned_eq", .bool (m.toAligned.same m)),
    ("tail", tail.describe)]

/-- Shows bitmaps made by each constructor and windows of a bitmap of given bits. -/
def bitmaskApi (req : Doc) : Decode Doc := do
  let setAll ← req.get? "set_all" Doc.toNat
  let bools ← req.get? "bools" (Doc.mapItems Doc.toBool)
  let windows ← req.getD "slices" (Doc.mapItems Doc.toWindow) []
  let raw ← req.get? "raw" fun r => do
    pure (← r.get "hex" Doc.toBytes, ← r.get "offset" Doc.toNat, ← r.get "len" Doc.toNat)
  let shown : Outcome (List (String × Doc)) := do
    let constructed := match setAll with
      | some n => [("set_all_true", (Bitmap.setAll n true).describe),
          ("set_all_false", (Bitmap.setAll n false).describe)]
      | none => []
    let fromBits ← match bools with
      | some bs =>
        let m := Bitmap.ofBools bs
        let parts ← windows.mapM fun (o, l) => m.slice o l
        pure [("from_bools", m.describe), ("slices", .list Bitmap.describe parts),
          ("slices_equal", .list (fun p => .bool (p.1.same p.2)) (adjacent parts)),
          ("aligned_eq", .list (fun p => .bool (p.toAligned.same p)) parts),
          ("bits", .list Bitmap.bitsDoc parts),
          ("zeros", .list (fun p => .nat p.countZeros) parts),
          ("get_oob", outcomeDoc .bool (m.read m.len))]
      | none => pure []
    let wrapped ← match raw with
      | some (bytes, offset, len) => do
        let _ ← addWords offset len
        pure [("raw", resultDoc rawBitmap (Bitmap.new bytes offset len))]
      | none => pure []
    pure (constructed ++ fromBits ++ wrapped ++ [("default", Bitmap.empty.describe)])
  pure (outcomeDoc .obj shown)

end Request

end Columnar
