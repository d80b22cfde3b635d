import FilterQuery.Query.Builder
import FilterQuery.Store.Views

namespace FilterQuery

/-!
# Sorted rows

Absent values, integers and texts are in a total order; floating-point numbers are not,
because of those that are no number.  Rows without them can be sorted by a column.

A statement sorts the rows that it finds, but it does not say how rows stand that are equal in
its order.  That is up to the database, so it is a parameter of all that reads rows.

* `Direction.allows` — which of two values may stand in front, by their order;
* `Direction.allows_trans`, `Direction.allows_total` — it is an order of values;
* `SortKey.pairwise_mergeSort` — sorting puts rows in the order of a column;
* `RowOrder` — the order in which a database hands over the rows that a statement finds;
* `RowOrder.insertion` — the order in which rows that are equal stay as they were inserted.
-/

/-- Whether a value is a floating-point number. -/
def Cell.isReal : Cell → Bool
  | .real _ => true
  | _ => false

@[simp] theorem Cell.isReal_integer (n : Int) : (Cell.integer n).isReal = false := rfl

namespace Cell

variable {a b c : Cell}

/-- The order of two values in the other direction. -/
theorem swap_order (ha : a.isReal = false) (hb : b.isReal = false) :
    (a.order b).swap = b.order a := by
  cases a with
  | real => cases ha
  | null => cases b <;> rfl
  | integer m =>
    cases b with
    | integer n =>
      have hswap : compare n m = (compare m n).swap := Std.OrientedCmp.eq_swap
      exact hswap.symm
    | null | text => rfl
    | real => cases hb
  | text s =>
    cases b with
    | text t =>
      have hswap : compare t s = (compare s t).swap := Std.OrientedCmp.eq_swap
      exact hswap.symm
    | null | integer => rfl
    | real => cases hb

theorem isLE_trans (ha : a.isReal = false) (hb : b.isReal = false) (hc : c.isReal = false)
    (hab : (a.order b).isLE) (hbc : (b.order c).isLE) : (a.order c).isLE := by
  cases a with
  | real => cases ha
  | null => cases c <;> rfl
  | integer m =>
    cases b with
    | real => cases hb
    | null => cases hab
    | integer n =>
      cases c with
      | real => cases hc
      | null => cases hbc
      | integer k => exact @Std.TransCmp.isLE_trans _ compare _ _ _ _ hab hbc
      | text => rfl
    | text =>
      cases c with
      | real => cases hc
      | null | integer => cases hbc
      | text => rfl
  | text s =>
    cases b with
    | real => cases hb
    | null | integer => cases hab
    | text t =>
      cases c with
      | real => cases hc
      | null | integer => cases hbc
      | text u => exact @Std.TransCmp.isLE_trans _ compare _ _ _ _ hab hbc

/-- The value with absence in place of a floating-point number. -/
def exact (c : Cell) : Cell := if c.isReal then .null else c

@[simp] theorem isReal_exact (c : Cell) : c.exact.isReal = false := by
  cases c <;> rfl

theorem exact_eq_self (h : c.isReal = false) : c.exact = c := by
  rw [exact, h]
  rfl

end Cell

namespace Direction

/-- Whether a direction lets a value stand in front of one to which it has some order. -/
def allows : Direction → Ordering → Bool
  | .ascending => Ordering.isLE
  | .descending => Ordering.isGE

variable {a b c : Cell}

/-- A descending order is the ascending one of the other values. -/
theorem allows_descending (ha : a.isReal = false) (hb : b.isReal = false) :
    descending.allows (a.order b) = (b.order a).isLE := by
  rw [← Cell.swap_order ha hb, Ordering.isLE_swap]
  rfl

theorem allows_trans (d : Direction) (ha : a.isReal = false) (hb : b.isReal = false)
    (hc : c.isReal = false) (hab : d.allows (a.order b)) (hbc : d.allows (b.order c)) :
    d.allows (a.order c) := by
  cases d with
  | ascending => exact Cell.isLE_trans ha hb hc hab hbc
  | descending =>
    rw [allows_descending ha hb] at hab
    rw [allows_descending hb hc] at hbc
    rw [allows_descending ha hc]
    exact Cell.isLE_trans hc hb ha hbc hab

theorem allows_total (d : Direction) (ha : a.isReal = false) (hb : b.isReal = false) :
    (d.allows (a.order b) || d.allows (b.order a)) = true := by
  rw [← Cell.swap_order ha hb]
  cases d <;> cases a.order b <;> rfl

end Direction

namespace SortKey

/-- Whether the first of two rows may stand before the second. -/
def precedes (k : SortKey) (a b : Row) : Bool :=
  let order := (a.cell k.column).order (b.cell k.column)
  if Text.sameIgnoringCase k.direction Direction.descending.text then order.isGE else order.isLE

/-- The direction that a keyword stands for. -/
def toDirection (k : SortKey) : Direction :=
  if Text.sameIgnoringCase k.direction Direction.descending.text then .descending else .ascending

theorem toDirection_mk (column : String) (d : Direction) :
    (SortKey.mk column d.text).toDirection = d := by
  cases d with
  | ascending => exact if_neg (show ¬Text.sameIgnoringCase "ASC" "DESC" = true by decide)
  | descending => exact if_pos (show Text.sameIgnoringCase "DESC" "DESC" = true by decide)

/-- A row may stand before another where the direction allows it. -/
theorem precedes_eq (k : SortKey) (a b : Row) :
    k.precedes a b = k.toDirection.allows ((a.cell k.column).order (b.cell k.column)) := by
  unfold precedes toDirection
  split <;> rfl

/-- Sorting puts rows in order, if the column has no floating-point numbers. -/
theorem pairwise_mergeSort (k : SortKey) {rows : List Row}
    (h : ∀ row ∈ rows, (row.cell k.column).isReal = false) :
    (rows.mergeSort k.precedes).Pairwise fun a b => k.precedes a b = true := by
  -- an order of all rows, which is the same on those that are sorted
  let cell (row : Row) : Cell := (row.cell k.column).exact
  let le (a b : Row) : Bool := k.toDirection.allows ((cell a).order (cell b))
  have hexact (row : Row) : (cell row).isReal = false := Cell.isReal_exact _
  have hcell {row : Row} (hrow : row ∈ rows) : cell row = row.cell k.column :=
    Cell.exact_eq_self (h row hrow)
  have hle {a b : Row} (ha : a ∈ rows) (hb : b ∈ rows) : k.precedes a b = le a b := by
    rw [precedes_eq, ← hcell ha, ← hcell hb]
  have hsort : rows.mergeSort k.precedes = rows.mergeSort le := by
    have hmap := List.map_mergeSort (r := k.precedes) (s := le) (f := id) (l := rows)
      fun a ha b hb => hle ha hb
    rwa [List.map_id, List.map_id] at hmap
  have htrans (a b c : Row) : le a b = true → le b c = true → le a c = true :=
    k.toDirection.allows_trans (hexact a) (hexact b) (hexact c)
  have htotal (a b : Row) : (le a b || le b a) = true :=
    k.toDirection.allows_total (hexact a) (hexact b)
  have hmem {a : Row} : a ∈ rows.mergeSort le ↔ a ∈ rows := (List.mergeSort_perm rows le).mem_iff
  rw [hsort]
  refine (List.pairwise_mergeSort htrans htotal rows).imp_of_mem fun ha hb hab => ?_
  rw [hle (hmem.mp ha) (hmem.mp hb)]
  exact hab

end SortKey

/-- The order in which a database hands over the rows that a statement finds.  It is the order
    that the statement asks for.  Rows that are equal in it stand as the database finds them,
    and so do all rows where no order is asked for. -/
structure RowOrder where
  arrange : Store → Entity → Predicate → Query → List Row → List Row
  perm : ∀ s e p q rows, (arrange s e p q rows).Perm rows
  sorted : ∀ s e p q rows k, q.order = some k →
    (∀ row ∈ rows, (row.cell k.column).isReal = false) →
      (arrange s e p q rows).Pairwise fun a b => k.precedes a b = true

namespace RowOrder

/-- Whether a statement finds rows in the same order each time, whatever window of them it
    reads. -/
def IsSteady (o : RowOrder) : Prop :=
  ∀ (s : Store) (e : Entity) (p : Predicate) (q : Query) (limit offset : Option Int)
    (rows : List Row),
    o.arrange s e p { q with limit := limit, offset := offset } rows = o.arrange s e p q rows

/-- Rows that are equal in the order of a statement stay as they were inserted. -/
def insertion : RowOrder where
  arrange _ _ _ q rows :=
    match q.order with
    | some k => rows.mergeSort k.precedes
    | none => rows
  perm _ _ _ q rows := by
    cases q.order with
    | none => exact .refl rows
    | some k => exact List.mergeSort_perm rows k.precedes
  sorted _ _ _ q rows k hk hrows := by
    rw [hk]
    exact k.pairwise_mergeSort hrows

theorem isSteady_insertion : insertion.IsSteady := fun _ _ _ _ _ _ _ => rfl

end RowOrder

end FilterQuery
