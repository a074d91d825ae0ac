import Columnar.Proofs.Constructors
import Columnar.Proofs.ImportShape
import Columnar.Proofs.RoundTrip
import Columnar.Proofs.Reads

/-!
# Every column the library builds is valid

The columns a user of the library holds come from its constructors, checked or from values,
from importing a foreign descriptor tree, and from slicing one of those. `Column.Built` is
that closure. Every built column satisfies the representation invariant `Column.Valid`, so
using it never breaks a precondition: every slot below the length reads as its value, nested
reads included, so the whole column reads as `toList`; export refuses only with the errors its
checks name; and every window inside it slices.

Import is the one constructor that reads its parts from outside: each layout reader takes its
bitmaps through `Bitmap.new`, which refuses bytes too short for the window, and hands the rest
to the checked constructors. A struct's children are cut to the parent's window, so they are
valid by `Valid.window`. The proof is an induction on the reader (`ArrayNode.read.induct`)
whose steps are the struct's members, the list's items and the dictionary's values.
-/

namespace Columnar

namespace NodeView

variable {w : NodeView}

/-- The validity bitmap read from a node, if any, holds a bit for each slot of the window. -/
theorem validity_covers {v : Option Bitmap} (h : w.validity = .ok v) : Bitmap.Covers v w.len := by
  have hlen := (validity_nulls h).1
  intro m hm
  refine ⟨?_, hlen m hm⟩
  unfold validity at h
  cases hr : w.raw 0 ((w.stop + 7) / 8) with
  | none =>
    -- no buffer: a reported count decides between no bitmap and a refusal
    rw [hr] at h
    dsimp only at h
    split at h
    · split at h
      · cases h
      · cases h
        cases hm
    · cases h
      cases hm
  | some p =>
    rw [hr] at h
    dsimp only at h
    obtain ⟨m', hm', h⟩ := Except.bind_eq_ok.1 h
    -- whatever the count, the bitmap returned is the one `new` accepted
    have hv : v = some m' := by
      split at h
      · split at h
        · cases h
        · exact (Except.pure_eq_ok.1 h).symm
      · exact (Except.pure_eq_ok.1 h).symm
    subst hv
    cases hm
    exact (Bitmap.stored_of_new hm').1

theorem numeric_valid {k : NumericKind} {c : Column} (h : w.numeric k = .ok c) : c.Valid := by
  obtain ⟨d, hd, h⟩ := Except.bind_eq_ok.1 h
  obtain ⟨v, hv, h⟩ := Except.bind_eq_ok.1 h
  cases Except.pure_eq_ok.1 h
  have hwidth : 0 < k.width := by cases k <;> decide
  exact .numeric _ _ _ ((values_size hwidth hd).symm ▸ validity_covers hv)

theorem temporal_valid {k : TemporalKind} {u : TimeUnit} {z : Option String} {c : Column}
    (h : w.temporal k u z = .ok c) : c.Valid := by
  obtain ⟨d, hd, h⟩ := Except.bind_eq_ok.1 h
  obtain ⟨v, hv, h⟩ := Except.bind_eq_ok.1 h
  cases Except.pure_eq_ok.1 h
  have hwidth : 0 < k.width := by cases k <;> decide
  exact .temporal _ _ _ _ _ ((values_size hwidth hd).symm ▸ validity_covers hv)

theorem boolean_valid {c : Column} (h : (do
      let d ← w.bits 1
      let v ← w.validity
      pure (Column.boolean d v) : Except Error Column) = .ok c) : c.Valid := by
  obtain ⟨d, hd, h⟩ := Except.bind_eq_ok.1 h
  obtain ⟨v, hv, h⟩ := Except.bind_eq_ok.1 h
  cases Except.pure_eq_ok.1 h
  obtain ⟨p, -, hnew⟩ := Except.bind_eq_ok.1 hd
  obtain ⟨hstored, hlen⟩ := Bitmap.stored_of_new hnew
  exact .boolean _ _ hstored (hlen.symm ▸ validity_covers hv)

theorem intervals_valid {u : IntervalUnit} {c : Column} (h : w.intervals u = .ok c) :
    c.Valid := by
  obtain ⟨_, -, h⟩ := Except.bind_eq_ok.1 h
  obtain ⟨_, -, h⟩ := Except.bind_eq_ok.1 h
  obtain ⟨_, -, h⟩ := Except.bind_eq_ok.1 h
  obtain ⟨v, hv, h⟩ := Except.bind_eq_ok.1 h
  exact Column.valid_intervalsOfWords (fun m hm => (validity_covers hv m hm).1) h

/-- Strings read with their text checked are valid. -/
theorem strings_valid {large : Bool} {c : Column} (h : w.strings .full large = .ok c) :
    c.Valid := by
  obtain ⟨_, -, h⟩ := Except.bind_eq_ok.1 h
  obtain ⟨_, -, h⟩ := Except.bind_eq_ok.1 h
  obtain ⟨v, hv, h⟩ := Except.bind_eq_ok.1 h
  exact Column.valid_stringsOfParts (fun m hm => (validity_covers hv m hm).1) h

theorem stringViews_valid {c : Column} (h : w.stringViews = .ok c) : c.Valid := by
  obtain ⟨v, hv, h⟩ := Except.bind_eq_ok.1 h
  have hstored : ∀ m ∈ v, m.Stored := fun m hm => (validity_covers hv m hm).1
  -- both branches build the column from checked parts
  split at h
  · exact Column.valid_stringsOfParts hstored h
  · obtain ⟨_, -, h⟩ := Except.bind_eq_ok.1 h
    obtain ⟨_, -, h⟩ := Except.bind_eq_ok.1 h
    obtain ⟨_, -, h⟩ := Except.bind_eq_ok.1 h
    obtain ⟨_, -, h⟩ := Except.bind_eq_ok.1 h
    obtain ⟨_, -, h⟩ := Except.bind_eq_ok.1 h
    obtain ⟨_, -, h⟩ := Except.bind_eq_ok.1 h
    exact Column.valid_stringsOfParts hstored h

end NodeView

namespace ArrayNode

/-- Struct members with no child pointer are refusals. -/
theorem missingMembers_error {fields : List Field} {p : String × Except Error Column}
    (hp : p ∈ missingMembers fields) {c : Column} : p.2 ≠ .ok c := by
  obtain ⟨f, -, rfl⟩ := List.mem_map.1 hp
  nofun

/-- The children a struct keeps are the members that read. -/
theorem mem_readChildren {results : List (String × Except Error Column)} {c : Column}
    (hc : c ∈ results.filterMap fun (_, r) => match r with
      | .ok c => some c
      | .error _ => none) : ∃ p ∈ results, p.2 = .ok c := by
  obtain ⟨⟨n, r⟩, hp, hr⟩ := List.mem_filterMap.1 hc
  cases r with
  | error e => cases hr
  | ok c' =>
    cases hr
    exact ⟨_, hp, rfl⟩

/-- A column read with full scrutiny is valid: each layout's parts pass the checked
constructors, bitmaps hold their bits, and the children, list items and dictionary values
are valid in turn. -/
theorem read_valid {a : ArrayNode} {t : DataType} {c : Column} (h : a.read .full t = .ok c) :
    c.Valid := by
  refine ArrayNode.read.induct .full
    (fun a t => ∀ c, a.read .full t = .ok c → c.Valid)
    (fun w large item ch => ∀ c, readList .full w large item ch = .ok c → c.Valid)
    (fun w fields ch => ∀ p ∈ readSlots .full w fields ch, ∀ c, p.2 = .ok c → c.Valid)
    (fun w fields slots => ∀ p ∈ readMembers .full w fields slots, ∀ c, p.2 = .ok c → c.Valid)
    (fun d t => ∀ c, readDictionary .full d t = .ok c → c.Valid)
    ?node ?listSome ?listOther ?slotsNone ?slotsSome ?dictNone ?dictSome ?membersNil
    ?membersMissing ?membersNull ?membersSome a t c h
  case node =>
    intro length nullCount offset nBuffers buffers nChildren children dictionary released foreign t
      ihDict ihSlots ihList ihLarge c h
    rw [read] at h
    generalize (⟨length, nullCount, offset, nBuffers, buffers, nChildren, children,
      dictionary, released, foreign⟩ : ArrayNode) = a at h
    obtain ⟨w, -, h⟩ := Except.bind_eq_ok.1 h
    cases t with
    | null =>
      cases Except.pure_eq_ok.1 h
      exact .null _
    | boolean => exact NodeView.boolean_valid h
    | string | largeString => exact NodeView.strings_valid h
    | stringView => exact NodeView.stringViews_valid h
    | date32 | date64 | time32 u | time64 u | timestamp u z | duration u =>
      exact NodeView.temporal_valid h
    | interval u => exact NodeView.intervals_valid h
    | int8 | int16 | int32 | int64 | uint8 | uint16 | uint32 | uint64 | float32 | float64 =>
      exact NodeView.numeric_valid h
    | dictionary index valueType ordered =>
      obtain ⟨keys, hkeys, h⟩ := Except.bind_eq_ok.1 h
      obtain ⟨values, hvalues, h⟩ := Except.bind_eq_ok.1 h
      exact Column.valid_dictionaryOf (NodeView.numeric_valid hkeys)
        (ihDict valueType values hvalues) h
    | struct fields =>
      dsimp only at h
      -- a child that failed fails the struct, so every child kept read
      split at h
      · obtain ⟨_, hthrow, -⟩ := Except.bind_eq_ok.1 h
        cases hthrow
      obtain ⟨v, hv, h⟩ := Except.bind_eq_ok.1 h
      refine Column.valid_structOfLen (fun c hc => ?_)
        (fun m hm => (NodeView.validity_covers hv m hm).1) h
      obtain ⟨p, hp, hpc⟩ := mem_readChildren hc
      exact ihSlots w fields p hp c hpc
    | list item => exact ihList w item c h
    | largeList item => exact ihLarge w item c h
  case listSome =>
    intro w large item child tail ih c h
    obtain ⟨_, -, h⟩ := Except.bind_eq_ok.1 h
    obtain ⟨values, hvalues, h⟩ := Except.bind_eq_ok.1 h
    obtain ⟨v, hv, h⟩ := Except.bind_eq_ok.1 h
    exact Column.valid_listOf (ih values hvalues)
      (fun m hm => (NodeView.validity_covers hv m hm).1) h
  case listOther =>
    intro ch w large item hne c h
    unfold readList at h
    split at h
    · exact absurd rfl (hne _ _)
    · obtain ⟨_, -, h⟩ := Except.bind_eq_ok.1 h
      cases h
  case slotsNone =>
    intro w fields p hp c hpc
    exact absurd hpc (missingMembers_error hp)
  case slotsSome =>
    intro w fields slots ih
    exact ih
  case dictNone =>
    intro t c h
    cases h
  case dictSome =>
    intro d t ih
    exact ih
  case membersNil =>
    intro slots w p hp
    rw [readMembers] at hp
    cases hp
  case membersMissing =>
    intro w f fs p hp c hpc
    exact absurd hpc (missingMembers_error hp)
  case membersNull =>
    intro w f fs rest ih p hp c hpc
    rcases List.mem_cons.1 hp with rfl | hp
    · cases hpc
    · exact ih p hp c hpc
  case membersSome =>
    intro w f fs child rest ihChild ih p hp c hpc
    rcases List.mem_cons.1 hp with rfl | hp
    · -- the child is read whole, checked to reach the window, and cut to it
      obtain ⟨col, hcol, hpc⟩ := Except.bind_eq_ok.1 hpc
      split at hpc
      · cases hpc
      · rename_i hreach
        cases Except.pure_eq_ok.1 hpc
        exact (ihChild col hcol).window (Nat.not_lt.1 hreach)
    · exact ih p hp c hpc

/-- An imported column is valid. -/
theorem importTyped_valid {a : ArrayNode} {t : DataType} {c : Column}
    (h : a.importTyped t = .ok c) : c.Valid := by
  unfold importTyped importChecked at h
  split at h
  · cases h
  · exact read_valid h

end ArrayNode

namespace Column

/-- A slice that succeeds is the window, inside the column. -/
theorem window_of_slice {c s : Column} {o l : Nat} (h : c.slice o l = .ok s) :
    o + l ≤ c.len ∧ s = c.window o l := by
  obtain ⟨n, hn, h⟩ := Except.bind_eq_ok.1 h
  unfold addWords at hn
  split at hn
  · cases hn
    split at h
    · exact ⟨‹_›, (Except.pure_eq_ok.1 h).symm⟩
    · cases h
  · cases hn

/-- The columns the library hands out: built from values, assembled by a checked constructor
from built children and bitmaps that hold their bits, imported from a foreign descriptor, or
sliced from one of those. A struct of computed length (`structOf`) is `structOfLen` at that
length. -/
inductive Built : Column → Prop
  | null (n : Nat) : Built (.null n)
  | newNumeric {k : NumericKind} {d : Buffer Nat} {v : Option Bitmap} {c : Column}
      (hv : ∀ m ∈ v, m.Stored) (h : (Column.numeric k d v).new = .ok c) : Built c
  | newTemporal {kind : TemporalKind} {u : TimeUnit} {z : Option String} {d : Buffer Nat}
      {v : Option Bitmap} {c : Column} (hv : ∀ m ∈ v, m.Stored)
      (h : (Column.temporal kind u z d v).new = .ok c) : Built c
  | newBoolean {d : Bitmap} {v : Option Bitmap} {c : Column} (hd : d.Stored)
      (hv : ∀ m ∈ v, m.Stored) (h : (Column.boolean d v).new = .ok c) : Built c
  | numeric (k : NumericKind) (words : List (Option Nat)) (masked : Bool) :
      Built (fixedOf (.numeric k) words masked)
  | temporal (kind : TemporalKind) (u : TimeUnit) (z : Option String)
      (words : List (Option Nat)) (masked : Bool) :
      Built (fixedOf (.temporal kind u z) words masked)
  | booleans (values : List (Option Bool)) (masked : Bool) : Built (booleansOf values masked)
  | intervals (u : IntervalUnit) (values : List (Option (List Nat)))
      (hwords : ∀ v ∈ values, ∀ ws ∈ v, ws.length = u.words) : Built (intervalsOf u values)
  | strings {large : Bool} {values : List (Option String)} {c : Column}
      (h : stringsOf large values = .ok c) : Built c
  | stringParts {large : Bool} {off : Buffer Nat} {data : Buffer UInt8} {v : Option Bitmap}
      {c : Column} (hv : ∀ m ∈ v, m.Stored) (h : stringsOfParts large off data v = .ok c) :
      Built c
  | intervalWords {u : IntervalUnit} {words : Buffer Nat} {v : Option Bitmap} {c : Column}
      (hv : ∀ m ∈ v, m.Stored) (h : intervalsOfWords u words v = .ok c) : Built c
  | dictionary {keys values : Column} {ordered : Bool} {c : Column} (hkeys : Built keys)
      (hvalues : Built values) (h : dictionaryOf keys values ordered = .ok c) : Built c
  | dictionaryOfStrings {values : List (Option String)} {c : Column}
      (h : dictionaryOfStrings values = .ok c) : Built c
  | struct {fs : List Field} {cs : List Column} {v : Option Bitmap} {len : Nat} {c : Column}
      (hcs : ∀ c ∈ cs, Built c) (hv : ∀ m ∈ v, m.Stored)
      (h : structOfLen fs cs v len = .ok c) : Built c
  | list {large : Bool} {item : Field} {off : Buffer Nat} {values : Column}
      {v : Option Bitmap} {c : Column} (hvalues : Built values) (hv : ∀ m ∈ v, m.Stored)
      (h : listOf large item off values v = .ok c) : Built c
  | listOfLengths {large : Bool} {item : Field} {values : Column} {lengths : List (Option Nat)}
      {c : Column} (hvalues : Built values) (h : listOfLengths large item values lengths = .ok c) :
      Built c
  | imported {a : ArrayNode} {t : DataType} {c : Column} (h : a.importTyped t = .ok c) : Built c
  | sliced {c : Column} {o l : Nat} {s : Column} (hc : Built c) (h : c.slice o l = .ok s) :
      Built s

/-- Every column the library builds satisfies the representation invariant. -/
theorem Built.valid {c : Column} (h : c.Built) : c.Valid := by
  induction h with
  | null n => exact .null n
  | newNumeric hv h => exact valid_new_numeric hv h
  | newTemporal hv h => exact valid_new_temporal hv h
  | newBoolean hd hv h => exact valid_new_boolean hd hv h
  | numeric k words masked => exact valid_fixedOf_numeric k words masked
  | temporal kind u z words masked => exact valid_fixedOf_temporal kind u z words masked
  | booleans values masked => exact valid_booleansOf values masked
  | intervals u values hwords => exact valid_intervalsOf hwords
  | strings h => exact valid_stringsOf h
  | stringParts hv h => exact valid_stringsOfParts hv h
  | intervalWords hv h => exact valid_intervalsOfWords hv h
  | dictionary _ _ h ihKeys ihValues => exact valid_dictionaryOf ihKeys ihValues h
  | dictionaryOfStrings h => exact valid_dictionaryOfStrings h
  | struct _ hv h ih => exact valid_structOfLen ih hv h
  | list _ hv h ih => exact valid_listOf ih hv h
  | listOfLengths _ h ih => exact valid_listOfLengths ih h
  | imported h => exact ArrayNode.importTyped_valid h
  | sliced _ h ih =>
    obtain ⟨hol, rfl⟩ := window_of_slice h
    exact ih.window hol

/-- Every column the library builds satisfies the representation invariant, and using it never
breaks a precondition: every slot below the length reads as its value, the whole column reads
as `toList`, export writes the descriptor tree or refuses with the error its checks name, and
every window inside it slices to a valid column. -/
theorem built_reads_safely {c : Column} (h : c.Built) :
    c.Valid ∧ (∀ i < c.len, c.valueAt i = .ok (c.value i)) ∧ c.readAll = .ok c.toList ∧
      c.exportArray = Outcome.ofResult c.toDescriptor ∧
      ∀ o l, o + l ≤ c.len → c.len ≤ wordMax →
        c.slice o l = .ok (c.window o l) ∧ (c.window o l).Valid := by
  have hvalid := h.valid
  exact ⟨hvalid, fun i hi => hvalid.valueAt_eq hi, hvalid.readAll_eq, hvalid.exportArray_eq,
    fun o l hol hlen => ⟨slice_eq_ok hol hlen, hvalid.window hol⟩⟩

/-- Int8 keys into two booleans, one key null: a checked dictionary of built columns. -/
theorem built_reads_safely_dictionary :
    let values := booleansOf [some true, some false] false
    let c : Column := .dictionary .int8 (Buffer.ofList [1, 0, 0])
      (some (validityOf [some 1, none, some 0])) values false
    c.Built ∧ c.Valid ∧ (∀ i < c.len, c.valueAt i = .ok (c.value i)) ∧
      c.readAll = .ok c.toList ∧ c.exportArray = Outcome.ofResult c.toDescriptor ∧
      ∀ o l, o + l ≤ c.len → c.len ≤ wordMax →
        c.slice o l = .ok (c.window o l) ∧ (c.window o l).Valid := by
  intro values c
  have hdict : dictionaryOf (fixedOf (.numeric .int8) [some 1, none, some 0] true) values false =
      .ok c := by
    dsimp only [values, c]
    rfl
  have hbuilt : c.Built := .dictionary (.numeric _ _ _) (.booleans _ _) hdict
  exact ⟨hbuilt, built_reads_safely hbuilt⟩

end Column

end Columnar
