import Columnar.Column.Build
import Columnar.Proofs.WellFormed

/-!
# What the checked constructors accept

Columns assembled from parts go through checks: offsets never decrease and stay inside the
data or child column, present strings are UTF-8, bitmaps have a bit per slot, struct
children have the declared types and length, and present dictionary keys name a value.
Parts that pass every check are taken as they are:

> `stringsOfParts large off data v = .ok (.text large off data v)`, and likewise for
> `intervalsOfWords`, `dictionaryOf`, `structOfLen` and `listOf`.

Import rebuilds every column it reads through these constructors, so these lemmas are what
lets a proof about import see the parts it read.
-/

namespace Columnar

theorem IndexType.kind_index? (i : IndexType) : i.kind.index? = some i := by
  cases i <;> rfl

namespace Column

/-- Offsets that never decrease have no first decrease. -/
theorem firstDecrease_eq_none {l : List Nat} (h : l.Pairwise (· ≤ ·)) (i : Nat) :
    firstDecrease i l = none := by
  induction l generalizing i with
  | nil => rfl
  | cons a rest ih =>
    cases rest with
    | nil => rfl
    | cons b rest =>
      have hab : a ≤ b := List.rel_of_pairwise_cons h (List.mem_cons_self ..)
      rw [firstDecrease, if_neg (Nat.not_lt.2 hab)]
      exact ih (List.Pairwise.of_cons h) (i + 1)

/-- Offsets that never decrease, stay inside the data and frame UTF-8 at every present slot
pass the string checks. -/
theorem checkStrings_eq_ok {offsets : List Nat} {data : List UInt8} {v : Option Bitmap} :
    ∀ (i : Nat) (l : List Nat), l.Pairwise (· ≤ ·) → (∀ x ∈ l, x ≤ data.length) →
      (∀ k, k + 1 < l.length → Bitmap.isNullAt v (i + k) = false →
        (Utf8.decode? ((data.drop (l.getD k 0)).take (l.getD (k + 1) 0 - l.getD k 0))).isSome) →
      checkStrings offsets data v i l = .ok ()
  | _, [], _, _, _ => rfl
  | _, [_], _, _, _ => rfl
  | i, s :: e :: rest, hsorted, hbound, htext => by
    have hse : s ≤ e := List.rel_of_pairwise_cons hsorted (List.mem_cons_self ..)
    have he : e ≤ data.length := hbound e (List.mem_cons_of_mem _ (List.mem_cons_self ..))
    -- the first slot's text is UTF-8 when it is present
    have hfirst : (!Bitmap.isNullAt v i &&
        (Utf8.decode? ((data.drop s).take (e - s))).isNone) = false := by
      cases hnull : Bitmap.isNullAt v i with
      | true => rfl
      | false =>
        have hsome := htext 0 (by simp) (by simpa using hnull)
        simp only [List.getD_cons_zero, List.getD_cons_succ] at hsome
        simpa using hsome
    rw [checkStrings, if_neg (Nat.not_lt.2 hse), if_neg (Nat.not_lt.2 he), hfirst,
      if_neg Bool.false_ne_true]
    refine checkStrings_eq_ok (i + 1) (e :: rest) (List.Pairwise.of_cons hsorted)
      (fun x hx => hbound x (List.mem_cons_of_mem _ hx)) (fun k hk hnull => ?_)
    have hnext := htext (k + 1) (by simp only [List.length_cons] at hk ⊢; omega)
      (by rw [← hnull]; congr 1; omega)
    simpa only [List.getD_cons_succ] using hnext

/-- String parts that pass every check are taken as they are. -/
theorem stringsOfParts_eq_ok {large : Bool} {off : Buffer Nat} {data : Buffer UInt8}
    {v : Option Bitmap} (hne : off.items ≠ []) (hsorted : off.items.Pairwise (· ≤ ·))
    (hbound : ∀ x ∈ off.items, x ≤ data.size) (hv : ∀ m ∈ v, m.len = off.size - 1)
    (htext : ∀ i < off.size - 1, Bitmap.isNullAt v i = false →
      (Utf8.decode? ((data.items.drop (off.get i)).take (off.get (i + 1) - off.get i))).isSome) :
    stringsOfParts large off data v = .ok (.text large off data v) := by
  have hchecks : checkStrings off.items data.items v 0 off.items = .ok () := by
    refine checkStrings_eq_ok 0 off.items hsorted hbound (fun k hk hnull => ?_)
    rw [Nat.zero_add] at hnull
    exact htext k (by simp only [Buffer.size]; omega) hnull
  -- with no slots the only offset is inside the data
  have hfirst : ¬ (off.size - 1 = 0 ∧ data.size < off.get 0) := by
    rintro ⟨-, hlt⟩
    obtain ⟨x, xs, hxs⟩ := List.exists_cons_of_ne_nil hne
    have hx := hbound x (by rw [hxs]; exact List.mem_cons_self ..)
    simp only [Buffer.get, hxs, List.getD_cons_zero] at hlt
    omega
  cases v with
  | none => simp [stringsOfParts, hne, hchecks, hfirst]
  | some m => simp [stringsOfParts, hne, hchecks, hfirst, hv m rfl]

/-- Interval words that divide into values, with a bit per value, are taken as they are. -/
theorem intervalsOfWords_eq_ok {u : IntervalUnit} {words : Buffer Nat} {v : Option Bitmap}
    (hdiv : words.size % u.words = 0) (hv : ∀ m ∈ v, m.len = words.size / u.words) :
    intervalsOfWords u words v = .ok (.interval u words v) := by
  cases v with
  | none => simp [intervalsOfWords, hdiv]
  | some m => simp [intervalsOfWords, hdiv, hv m rfl]

/-- Keys that name a value wherever they are present have no key outside. -/
theorem keyOutside_eq_none {kind : NumericKind} {count : Nat} {v : Option Bitmap} :
    ∀ (i : Nat) (ws : List Nat), (∀ k < ws.length, Bitmap.isNullAt v (i + k) = false →
      0 ≤ kind.integer (ws.getD k 0) ∧ kind.integer (ws.getD k 0) < count) →
      keyOutside kind count v i ws = none
  | _, [], _ => rfl
  | i, w :: rest, hkeys => by
    have hfirst : (!Bitmap.isNullAt v i &&
        decide (kind.integer w < 0 ∨ (count : Int) ≤ kind.integer w)) = false := by
      cases hnull : Bitmap.isNullAt v i with
      | true => rfl
      | false =>
        have hin := hkeys 0 (by simp) (by simpa using hnull)
        simp only [List.getD_cons_zero] at hin
        simp only [Bool.not_false, Bool.true_and, decide_eq_false_iff_not]
        omega
    rw [keyOutside, hfirst, if_neg Bool.false_ne_true]
    refine keyOutside_eq_none (i + 1) rest fun k hk hnull => ?_
    have hnext := hkeys (k + 1) (by simp only [List.length_cons]; omega)
      (by rw [← hnull]; congr 1; omega)
    simpa only [List.getD_cons_succ] using hnext

/-- Integer keys whose present values name a value make a dictionary as they are. -/
theorem dictionaryOf_eq_ok {i : IndexType} {keys : Buffer Nat} {kv : Option Bitmap}
    {values : Column} (ord : Bool)
    (hkeys : ∀ j < keys.size, Bitmap.isNullAt kv j = false →
      0 ≤ i.kind.integer (keys.get j) ∧ i.kind.integer (keys.get j) < values.len) :
    dictionaryOf (.numeric i.kind keys kv) values ord = .ok (.dictionary i keys kv values ord) := by
  have hnone : keyOutside i.kind values.len kv 0 keys.items = none :=
    keyOutside_eq_none 0 keys.items fun k hk hnull =>
      hkeys k hk (by rw [← hnull, Nat.zero_add])
  simp only [dictionaryOf, IndexType.kind_index?, hnone]

/-- Children of the struct's length and of their fields' types pass the child checks. -/
theorem checkChildren_eq_ok {len : Nat} :
    ∀ {fs : List Field} {cs : List Column},
      List.Forall₂ (fun f c => c.len = len ∧ c.type = f.type) fs cs →
      checkChildren len fs cs = .ok ()
  | _, _, .nil => rfl
  | f :: _, c :: _, .cons ⟨hlen, htype⟩ hrest => by
    have hbeq : (c.type == f.type) = true := by
      rw [htype]
      exact DataType.beq_self f.type
    rw [checkChildren, if_neg (by rw [hlen]; exact fun h => h rfl), hbeq]
    exact checkChildren_eq_ok hrest

/-- Struct parts that pass every check are taken as they are. -/
theorem structOfLen_eq_ok {fs : List Field} {cs : List Column} {v : Option Bitmap} {len : Nat}
    (hcs : List.Forall₂ (fun f c => c.len = len ∧ c.type = f.type) fs cs)
    (hv : ∀ m ∈ v, m.len = len) :
    structOfLen fs cs v len = .ok (.struct fs cs v len) := by
  have hlen : fs.length = cs.length := hcs.length_eq
  cases v with
  | none => simp [structOfLen, hlen, checkChildren_eq_ok hcs]
  | some m => simp [structOfLen, hlen, checkChildren_eq_ok hcs, hv m rfl]

/-- List parts that pass every check are taken as they are. -/
theorem listOf_eq_ok {large : Bool} {item : Field} {off : Buffer Nat} {values : Column}
    {v : Option Bitmap} (htype : values.type = item.type) (hne : off.items ≠ [])
    (hsorted : off.items.Pairwise (· ≤ ·)) (hbound : ∀ x ∈ off.items, x ≤ values.len)
    (hv : ∀ m ∈ v, m.len = off.size - 1) :
    listOf large item off values v = .ok (.list large item off values v) := by
  have hlast : off.items.getLast?.getD 0 ≤ values.len := by
    rw [List.getLast?_eq_some_getLast hne]
    exact hbound _ (List.getLast_mem hne)
  have hbeq : (values.type == item.type) = true := by
    rw [htype]
    exact DataType.beq_self item.type
  cases v with
  | none =>
    simp [listOf, hbeq, hne, firstDecrease_eq_none hsorted, Nat.not_lt.2 hlast]
  | some m =>
    simp [listOf, hbeq, hne, firstDecrease_eq_none hsorted, Nat.not_lt.2 hlast, hv m rfl]

end Column

end Columnar
