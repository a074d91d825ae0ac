import Columnar.Descriptor.Schema
import Columnar.Proofs.Metadata

/-!
# Schema descriptors read back what export writes

Exporting a field writes one descriptor node per type in its tree; importing reads the tree
back. The encoder folds a dictionary into an index format plus a separate dictionary node,
the nullable bit and the ordered bit into one flags word, metadata into a length-prefixed
byte string and a timestamp's zone into its format string. The decoder undoes all of it,
with one exception: a zone is written as the text after `tsX:`, and an empty text is read as
no zone, so an empty zone comes back as none.

> `ofField f = .ok s → s.toField = .ok f.clearEmptyZones`

for every field whose metadata maps are sorted by key, as every map the library builds is
(`Metadata.sorted_ofList`). The same holds of a record batch schema exported under a name.

The proof follows the three mutually recursive exporters: a node is rebuilt from its own
texts (`toField_assemble`) and its format (`Format.decode_encode`), its children by the
list case and its dictionary by the type case.
-/

namespace Columnar

/-! ## What a descriptor keeps of a type -/

mutual

/-- The type with every empty time zone replaced by no zone. -/
def DataType.clearEmptyZones : DataType → DataType
  | .timestamp u z => .timestamp u (z.filter fun s => !s.isEmpty)
  | .dictionary i v o => .dictionary i (DataType.clearEmptyZones v) o
  | .struct fs => .struct (Field.clearEmptyZonesList fs)
  | .list f => .list (Field.clearEmptyZones f)
  | .largeList f => .largeList (Field.clearEmptyZones f)
  | t => t

/-- The field with every empty time zone in its type replaced by no zone. -/
def Field.clearEmptyZones : Field → Field
  | ⟨n, t, u, m⟩ => ⟨n, DataType.clearEmptyZones t, u, m⟩

/-- Each field with its empty time zones cleared. -/
def Field.clearEmptyZonesList : List Field → List Field
  | [] => []
  | f :: fs => Field.clearEmptyZones f :: Field.clearEmptyZonesList fs

end

mutual

/-- Every field inside the type has sorted metadata. -/
def DataType.MetadataSorted : DataType → Prop
  | .dictionary _ v _ => DataType.MetadataSorted v
  | .struct fs => Field.MetadataSortedList fs
  | .list f | .largeList f => Field.MetadataSorted f
  | _ => True

/-- The field's metadata is sorted, and so is that of every field inside its type. -/
def Field.MetadataSorted : Field → Prop
  | ⟨_, t, _, m⟩ => m.Sorted ∧ DataType.MetadataSorted t

/-- Every field of the list has sorted metadata throughout. -/
def Field.MetadataSortedList : List Field → Prop
  | [] => True
  | f :: fs => Field.MetadataSorted f ∧ Field.MetadataSortedList fs

end

/-! ## Format strings -/

theorem TimeUnit.ofFormatChar?_eq {u : TimeUnit} {c : Char} (h : u.formatChar? = some c) :
    TimeUnit.ofFormatChar? c = some u := by
  cases u <;> simp only [TimeUnit.formatChar?, reduceCtorEq, Option.some.injEq] at h <;>
    subst h <;> rfl

theorem IndexType.ofKeyType?_keyType (i : IndexType) : IndexType.ofKeyType? i.keyType = some i := by
  cases i <;> rfl

namespace Format

/-- Every fixed format string is at most three characters long, so a longer one is one of
the parametrised temporal formats or nothing. -/
theorem decodeLeaf_of_long {s : String} (h : 4 ≤ s.length) :
    decodeLeaf s = decodeTemporal s := by
  unfold decodeLeaf
  split
  case h_22 => rfl
  all_goals exact absurd h (by decide)

theorem timestamp_toList (c : Char) (z : String) :
    ("ts" ++ c.toString ++ ":" ++ z).toList = 't' :: 's' :: c :: ':' :: z.toList := by
  simp

/-- The zone text after `tsX:` reads as the zone, an empty text as none. -/
theorem zone_of_text (zone : Option String) :
    (if (zone.getD "").toList.isEmpty then none else some (String.ofList (zone.getD "").toList)) =
      zone.filter fun s => !s.isEmpty := by
  rcases zone with _ | z
  · rfl
  · by_cases hz : z = "" <;> simp [hz, Option.filter]

theorem decodeLeaf_timestamp {u : TimeUnit} {c : Char} (h : u.formatChar? = some c)
    (zone : Option String) :
    decodeLeaf ("ts" ++ c.toString ++ ":" ++ zone.getD "") =
      .ok (.timestamp u (zone.filter fun s => !s.isEmpty)) := by
  have hlen : 4 ≤ ("ts" ++ c.toString ++ ":" ++ zone.getD "").length := by
    rw [← String.length_toList, timestamp_toList]
    simp
  rw [decodeLeaf_of_long hlen, decodeTemporal, timestamp_toList]
  simp only [TimeUnit.ofFormatChar?_eq h, zone_of_text]
  rfl

/-- A node with no children and no dictionary whose format is not a nested one decodes as
its format string alone. -/
theorem decode_plain {format : String} (hplus : format.toList.head? ≠ some '+') (flags : Int) :
    decode ⟨format, [], none, flags⟩ = decodeLeaf format := by
  have hs : format ≠ "+s" := by rintro rfl; exact hplus (by decide)
  have hl : format ≠ "+l" := by rintro rfl; exact hplus (by decide)
  have hL : format ≠ "+L" := by rintro rfl; exact hplus (by decide)
  simp [decode, hs, hl, hL]

/-- Without a dictionary the flags play no part in decoding. -/
theorem decode_flags (format : String) (cs : List Field) (flags : Int) :
    decode ⟨format, cs, none, flags⟩ = decode ⟨format, cs, none, 0⟩ := rfl

theorem decodeLeaf_keyFormat (i : IndexType) : decodeLeaf i.format = .ok i.keyType := by
  cases i <;> rfl

/-- A format node decodes as the type it was encoded from, given its children and dictionary
values as they read back and the nullable bit added to its flags. -/
theorem decode_encode {t : DataType} {node : FormatNode} (h : encode t = .ok node)
    (nullable : Bool) :
    decode ⟨node.format, Field.clearEmptyZonesList node.children,
      node.dictionary.map DataType.clearEmptyZones,
      node.flags + if nullable then (flagNullable : Int) else 0⟩ = .ok t.clearEmptyZones := by
  cases t with
  | timestamp u z =>
    simp only [encode] at h
    split at h
    next c hc =>
      cases h
      simp only [FormatNode.leaf, Field.clearEmptyZonesList, Option.map_none]
      rw [decode_plain (by rw [timestamp_toList]; simp), decodeLeaf_timestamp hc,
        DataType.clearEmptyZones]
    · cases h
  | dictionary i v o =>
    simp only [encode] at h
    cases h
    -- the ordered bit is the low bit, the nullable bit the next one
    have hflags : ((if o then (flagOrdered : Int) else 0) +
        if nullable then (flagNullable : Int) else 0) % 2 = 1 ↔ o = true := by
      cases o <;> cases nullable <;> simp [flagOrdered, flagNullable]
    simp [decode, decodeLeaf_keyFormat, hflags, DataType.clearEmptyZones,
      IndexType.ofKeyType?_keyType, pure, Except.pure]
  | struct fs =>
    simp only [encode] at h
    cases h
    simp [decode, DataType.clearEmptyZones, pure, Except.pure]
  | list f =>
    simp only [encode] at h
    cases h
    simp [decode, DataType.clearEmptyZones, Field.clearEmptyZonesList, pure, Except.pure]
  | largeList f =>
    simp only [encode] at h
    cases h
    simp [decode, DataType.clearEmptyZones, Field.clearEmptyZonesList, pure, Except.pure]
  | time32 u => cases u <;> simp only [encode] at h <;> cases h <;> rfl
  | time64 u => cases u <;> simp only [encode] at h <;> cases h <;> rfl
  | duration u =>
    cases u <;> simp only [encode] at h <;> cases h <;>
      (simp only [FormatNode.leaf, Field.clearEmptyZonesList, Option.map_none]
       rw [decode_flags]
       rfl)
  | interval u =>
    cases u <;> simp only [encode] at h <;> cases h <;>
      (simp only [FormatNode.leaf, Field.clearEmptyZonesList, Option.map_none]
       rw [decode_flags]
       rfl)
  | _ =>
    simp only [encode] at h
    cases h
    rfl

/-- The children, dictionary values and flags a format node takes from its type. -/
theorem encode_parts {t : DataType} {node : FormatNode} (h : encode t = .ok node) :
    node.children = (match t with
      | .struct fs => fs
      | .list f | .largeList f => [f]
      | _ => []) ∧
    node.dictionary = (match t with
      | .dictionary _ v _ => some v
      | _ => none) ∧
    (0 ≤ node.flags ∧ node.flags ≤ 1) := by
  cases t with
  | timestamp u z =>
    simp only [encode] at h
    split at h
    · cases h
      exact ⟨rfl, rfl, by simp [FormatNode.leaf]⟩
    · cases h
  | duration u =>
    cases u <;> simp only [encode] at h <;> cases h <;> exact ⟨rfl, rfl, by simp [FormatNode.leaf]⟩
  | time32 u =>
    cases u <;> simp only [encode] at h <;> cases h <;> exact ⟨rfl, rfl, by simp [FormatNode.leaf]⟩
  | time64 u =>
    cases u <;> simp only [encode] at h <;> cases h <;> exact ⟨rfl, rfl, by simp [FormatNode.leaf]⟩
  | interval u =>
    cases u <;> simp only [encode] at h <;> cases h <;> exact ⟨rfl, rfl, by simp [FormatNode.leaf]⟩
  | dictionary i v o =>
    simp only [encode] at h
    cases h
    cases o <;> exact ⟨rfl, rfl, by simp [flagOrdered]⟩
  | _ =>
    simp only [encode] at h
    cases h
    exact ⟨rfl, rfl, by simp [FormatNode.leaf]⟩

end Format

/-! ## One node -/

namespace SchemaNode

theorem cText_ok {text what : String} {bs : List UInt8} (h : cText text what = .ok bs) :
    bs = Utf8.encode text ∧ Char.ofNat 0 ∉ text.toList := by
  unfold cText at h
  split at h
  · cases h
  next hnul =>
    cases h
    exact ⟨rfl, by simpa [List.contains_iff_mem] using hnul⟩

/-- Text without a zero character reads back from its C string. -/
theorem cString_encode {s : String} (h : Char.ofNat 0 ∉ s.toList) :
    cString (Utf8.encode s) = some s := by
  rw [cString, List.takeWhile_eq_self_iff.2 fun b hb => by simpa using Utf8.encode_ne_zero h b hb,
    Utf8.decode?_encode]

/-- An assembled node reads back as its name, its metadata map and the type its format,
children and dictionary decode to. -/
theorem toField_assemble {format name : String} {m : Metadata} {flags : Int}
    {children : List SchemaNode} {dictionary : Option SchemaNode} {s : SchemaNode}
    (h : assemble format name m flags children dictionary = .ok s) :
    s.toField = (do
      let fs ← childFields children.length (children.map some)
      let d ← dictionaryType dictionary
      let t ← Format.decode ⟨format, fs, d, flags⟩
      pure ⟨name, t, flags / 2 % 2 = 1, Metadata.ofList m.entries⟩) := by
  simp only [assemble, Except.bind_eq_ok, Except.pure_eq_ok] at h
  obtain ⟨fb, hf, nb, hn, mb, hm, rfl⟩ := h
  obtain ⟨rfl, hfmt⟩ := cText_ok hf
  obtain ⟨rfl, hname⟩ := cText_ok hn
  cases children with
  | nil =>
    simp [toField, cString_encode hfmt, cString_encode hname, Metadata.decode_encode hm,
      childFields, bind, Except.bind, pure, Except.pure]
  | cons c cs =>
    -- a node with children has a positive count and a set child array
    have hneg : ¬((cs.length : Int) + 1 < 0) := by omega
    have hzero : ¬((cs.length : Int) + 1 = 0) := by omega
    simp [toField, cString_encode hfmt, cString_encode hname, Metadata.decode_encode hm, hneg,
      hzero, bind, Except.bind, pure, Except.pure]

/-- A node assembled from a type's format, with children that read back as the type's
children and a dictionary that reads back as its values, reads back as the field. -/
theorem toField_parts {t : DataType} {name : String} {nullable : Bool} {m : Metadata}
    {node : FormatNode} {children : List SchemaNode} {dict : Option SchemaNode} {s : SchemaNode}
    (hm : m.Sorted) (hnode : Format.encode t = .ok node)
    (hc : childFields children.length (children.map some) =
      .ok (Field.clearEmptyZonesList node.children))
    (hd : dictionaryType dict = .ok (node.dictionary.map DataType.clearEmptyZones))
    (h : assemble node.format name m (node.flags + if nullable then (flagNullable : Int) else 0)
      children dict = .ok s) :
    s.toField = .ok ⟨name, t.clearEmptyZones, nullable, m⟩ := by
  obtain ⟨-, -, hf0, hf1⟩ := Format.encode_parts hnode
  have hnull : (node.flags + if nullable then (flagNullable : Int) else 0) / 2 % 2 = 1 ↔
      nullable = true := by
    cases nullable <;> simp [flagNullable] <;> omega
  rw [toField_assemble h, hc]
  simp only [bind, Except.bind, hd, Format.decode_encode hnode nullable,
    Metadata.ofList_entries hm, pure, Except.pure, hnull, Bool.decide_eq_true]

/-! ## Whole trees -/

mutual

/-- The tree exported for a type under a name, nullability and sorted metadata reads back
as that field, empty zones cleared. -/
theorem toField_ofType : ∀ (t : DataType) (name : String) (nullable : Bool) (m : Metadata)
    {s : SchemaNode}, m.Sorted → t.MetadataSorted → ofType t name nullable m = .ok s →
      s.toField = .ok ⟨name, t.clearEmptyZones, nullable, m⟩ := by
  intro t name nullable m s hm ht h
  rw [ofType] at h
  -- the type decides the children and the dictionary; the node itself is read the same way
  cases t with
  | struct fs =>
    simp only [Except.bind_eq_ok, Except.pure_eq_ok] at h
    obtain ⟨node, hnode, children, hchildren, dict, rfl, h⟩ := h
    have hparts := Format.encode_parts hnode
    refine toField_parts hm hnode ?_ ?_ h
    · rw [hparts.1]
      exact childFields_ofFields fs ht hchildren
    · rw [hparts.2.1]
      rfl
  | list f =>
    simp only [Except.bind_eq_ok, Except.pure_eq_ok] at h
    obtain ⟨node, hnode, n, hn, children, rfl, dict, rfl, h⟩ := h
    have hparts := Format.encode_parts hnode
    refine toField_parts hm hnode ?_ ?_ h
    · rw [hparts.1]
      simp [childFields, toField_ofField f ht hn, Field.clearEmptyZonesList, bind, Except.bind,
        pure, Except.pure]
    · rw [hparts.2.1]
      rfl
  | largeList f =>
    simp only [Except.bind_eq_ok, Except.pure_eq_ok] at h
    obtain ⟨node, hnode, n, hn, children, rfl, dict, rfl, h⟩ := h
    have hparts := Format.encode_parts hnode
    refine toField_parts hm hnode ?_ ?_ h
    · rw [hparts.1]
      simp [childFields, toField_ofField f ht hn, Field.clearEmptyZonesList, bind, Except.bind,
        pure, Except.pure]
    · rw [hparts.2.1]
      rfl
  | dictionary i v o =>
    simp only [Except.bind_eq_ok, Except.pure_eq_ok, Except.map_eq_ok] at h
    obtain ⟨node, hnode, children, rfl, dict, ⟨d, hd, rfl⟩, h⟩ := h
    have hparts := Format.encode_parts hnode
    refine toField_parts hm hnode ?_ ?_ h
    · rw [hparts.1]
      rfl
    · -- the values are exported unnamed, nullable and without metadata
      rw [hparts.2.1]
      simp [dictionaryType, toField_ofType v "" true Metadata.empty List.Pairwise.nil ht hd,
        bind, Except.bind, pure, Except.pure]
  | _ =>
    simp only [Except.bind_eq_ok, Except.pure_eq_ok] at h
    obtain ⟨node, hnode, children, rfl, dict, rfl, h⟩ := h
    have hparts := Format.encode_parts hnode
    refine toField_parts hm hnode ?_ ?_ h
    · rw [hparts.1]
      rfl
    · rw [hparts.2.1]
      rfl

/-- The tree exported for a field reads back as the field, empty zones cleared. -/
theorem toField_ofField : ∀ (f : Field) {s : SchemaNode}, f.MetadataSorted →
    ofField f = .ok s → s.toField = .ok f.clearEmptyZones := by
  intro f s hf h
  cases f with
  | mk n t u m => exact toField_ofType t n u m hf.1 hf.2 h

/-- The trees exported for fields read back, slot by slot, as the fields. -/
theorem childFields_ofFields : ∀ (fs : List Field) {ns : List SchemaNode},
    Field.MetadataSortedList fs → ofFields fs = .ok ns →
      childFields ns.length (ns.map some) = .ok (Field.clearEmptyZonesList fs) := by
  intro fs ns hfs h
  cases fs with
  | nil =>
    cases h
    rfl
  | cons f fs =>
    simp only [ofFields, Except.bind_eq_ok, Except.pure_eq_ok] at h
    obtain ⟨n, hn, ns', hns', rfl⟩ := h
    simp [childFields, toField_ofField f hfs.1 hn, childFields_ofFields fs hfs.2 hns',
      Field.clearEmptyZonesList, bind, Except.bind, pure, Except.pure]

end

end SchemaNode

/-! ## Record batch schemas -/

namespace Schema

/-- The batch's metadata and every field's metadata are sorted. -/
def MetadataSorted (sch : Schema) : Prop :=
  sch.metadata.Sorted ∧ Field.MetadataSortedList sch.fields

/-- The schema with every empty time zone in its fields cleared. -/
def clearEmptyZones (sch : Schema) : Schema :=
  ⟨Field.clearEmptyZonesList sch.fields, sch.metadata⟩

/-- A schema exported under a name imports back as that name and the schema. -/
theorem ofNode_toNode {sch : Schema} {name : String} {s : SchemaNode} (hsch : sch.MetadataSorted)
    (h : sch.toNode name = .ok s) : ofNode s = .ok (name, sch.clearEmptyZones) := by
  have hroot := SchemaNode.toField_ofField (sch.rootField name) ⟨hsch.1, hsch.2⟩ h
  simp only [ofNode, hroot, bind, Except.bind]
  rfl

end Schema

/-- Export then import gives back every field and every schema that exports, with sorted
metadata as maps have, except that an empty time zone comes back as none. -/
theorem SchemaNode.exported_reads_back :
    (∀ (f : Field) (s : SchemaNode), f.MetadataSorted → SchemaNode.ofField f = .ok s →
      s.toField = .ok f.clearEmptyZones) ∧
    (∀ (sch : Schema) (name : String) (s : SchemaNode), sch.MetadataSorted →
      sch.toNode name = .ok s → Schema.ofNode s = .ok (name, sch.clearEmptyZones)) :=
  ⟨fun f _ hf h => SchemaNode.toField_ofField f hf h,
    fun _ _ _ hsch h => Schema.ofNode_toNode hsch h⟩

/-- A struct of a list of ordered dictionaries, with metadata on two levels, reads back. -/
theorem SchemaNode.exported_reads_back_nested :
    (⟨"batch", .struct [⟨"tags", .list ⟨"item", .dictionary .int16 .largeString true, true,
        ⟨[("origin", "sensor"), ("unit", "ms")]⟩⟩, false, ⟨[("k", "v")]⟩⟩], true,
        Metadata.empty⟩ : Field).MetadataSorted ∧
    ∃ s, SchemaNode.ofField ⟨"batch", .struct [⟨"tags", .list ⟨"item",
        .dictionary .int16 .largeString true, true, ⟨[("origin", "sensor"), ("unit", "ms")]⟩⟩,
        false, ⟨[("k", "v")]⟩⟩], true, Metadata.empty⟩ = .ok s ∧
      s.toField = .ok ⟨"batch", .struct [⟨"tags", .list ⟨"item",
        .dictionary .int16 .largeString true, true, ⟨[("origin", "sensor"), ("unit", "ms")]⟩⟩,
        false, ⟨[("k", "v")]⟩⟩], true, Metadata.empty⟩ := by
  have hsorted : (⟨"batch", .struct [⟨"tags", .list ⟨"item", .dictionary .int16 .largeString true,
      true, ⟨[("origin", "sensor"), ("unit", "ms")]⟩⟩, false, ⟨[("k", "v")]⟩⟩], true,
      Metadata.empty⟩ : Field).MetadataSorted := by
    simp only [Field.MetadataSorted, DataType.MetadataSorted, Field.MetadataSortedList,
      Metadata.Sorted, Metadata.empty, List.pairwise_cons, List.mem_cons, List.not_mem_nil,
      List.Pairwise.nil, and_true, true_and, IsEmpty.forall_iff,
      implies_true, or_false, forall_eq]
    rw [String.lt_iff_toList_lt]
    decide
  exact ⟨hsorted, _, rfl, SchemaNode.exported_reads_back.1 _ _ hsorted rfl⟩

/-- An empty time zone is written as no zone at all and comes back as none. -/
theorem SchemaNode.empty_zone_not_restored :
    ¬ ∀ (f : Field) (s : SchemaNode), SchemaNode.ofField f = .ok s → s.toField = .ok f := by
  intro hall
  have hexport : SchemaNode.ofField ⟨"t", .timestamp .seconds (some ""), true, Metadata.empty⟩ =
      .ok _ := rfl
  have hsorted : (⟨"t", .timestamp .seconds (some ""), true, Metadata.empty⟩ : Field).MetadataSorted :=
    ⟨List.Pairwise.nil, trivial⟩
  have hback := SchemaNode.toField_ofField _ hsorted hexport
  rw [hall _ _ hexport] at hback
  simp [Field.clearEmptyZones, DataType.clearEmptyZones, Option.filter] at hback

end Columnar
