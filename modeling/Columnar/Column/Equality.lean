import Columnar.Column.Table

/-!
# Equality of columns

Two columns are equal when they have the same layout and the same buffers element by
element, the slots a validity bitmap hides included. Floating-point elements compare as
numbers, so a NaN equals nothing, itself included, and the two zeros are equal: a column
holding a NaN is not equal to itself. Bitmaps compare by length and bits. Windows keep
absolute offsets into the data of a text or list column, so a window and a freshly built
column of the same values may differ.
-/

namespace Columnar

/-- Equality of optional bitmaps: both absent, or both present with the same bits. -/
def Bitmap.sameOpt : Option Bitmap → Option Bitmap → Bool
  | none, none => true
  | some a, some b => a.same b
  | _, _ => false

/-- Element-wise equality of two buffers under an equality of elements. -/
def Buffer.sameBy {α : Type} (eq : α → α → Bool) (a b : Buffer α) : Bool :=
  a.size == b.size && (a.items.zip b.items).all fun (x, y) => eq x y

namespace Column

mutual

/-- Equality of two columns: layout, types and buffers, floats as numbers. -/
def same : Column → Column → Bool
  | .null n, .null m => n == m
  | .numeric k d v, .numeric k' d' v' =>
    k == k' && Buffer.sameBy k.sameValue d d' && Bitmap.sameOpt v v'
  | .boolean d v, .boolean d' v' => d.same d' && Bitmap.sameOpt v v'
  | .text l o d v, .text l' o' d' v' =>
    l == l' && o.items == o'.items && d.items == d'.items && Bitmap.sameOpt v v'
  | .dictionary i k kv vals ord, .dictionary i' k' kv' vals' ord' =>
    i == i' && k.items == k'.items && Bitmap.sameOpt kv kv' && same vals vals' && ord == ord'
  | .temporal k u z d v, .temporal k' u' z' d' v' =>
    k == k' && u == u' && z == z' && d.items == d'.items && Bitmap.sameOpt v v'
  | .interval u d v, .interval u' d' v' => u == u' && d.items == d'.items && Bitmap.sameOpt v v'
  | .struct fs cs v n, .struct fs' cs' v' n' =>
    Field.beqList fs fs' && sameAll cs cs' && Bitmap.sameOpt v v' && n == n'
  | .list l f o vals v, .list l' f' o' vals' v' =>
    l == l' && o.items == o'.items && same vals vals' && f == f' && Bitmap.sameOpt v v'
  | _, _ => false

/-- Pairwise equality of two lists of columns of the same length. -/
def sameAll : List Column → List Column → Bool
  | [], [] => true
  | c :: cs, c' :: cs' => same c c' && sameAll cs cs'
  | _, _ => false

end

end Column

/-- Equality of series: equal fields and equal columns. -/
def Series.same (a b : Series) : Bool :=
  a.field == b.field && a.column.same b.column

/-- Equality of tables: equal columns, rows, name and metadata. -/
def Table.same (a b : Table) : Bool :=
  a.columns.length == b.columns.length &&
    (a.columns.zip b.columns).all (fun (x, y) => x.same y) &&
    a.rows == b.rows && a.name == b.name && a.metadata == b.metadata

end Columnar
