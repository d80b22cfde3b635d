import FilterQuery.Access.Models
import FilterQuery.Proofs.Filter.Dates
import FilterQuery.Store.Order

namespace FilterQuery

/-!
# Stored timestamps

A column of timestamps holds their texts, and the database knows nothing but these.  In plain
years they are compared, and sorted, as a clock shows time pass from second to second.  That is
how time passes, but for leap seconds that do not end a minute: a clock shows them as the second
that follows.

* `FilterKind.truth_storedTimestamp` — what dates ask of a stored timestamp;
* `RowOrder.pairwise_storedTimestamps` — rows in the order of their timestamps;
* `Timestamp.text_sorts_as_time` — texts, date filters and sorted rows in one statement.
-/

namespace Timestamp

/-- How a timestamp compares with another, where fractions of seconds do not count. -/
def secondOrder (s t : Timestamp) : Ordering := compare s.truncate.instant t.truncate.instant

/-- A clock shows the seconds in order, if it shows both timestamps as they are. -/
theorem shownOrder_eq_secondOrder {s t : Timestamp} (hs : s.IsRegular) (ht : t.IsRegular) :
    s.shownOrder t = s.secondOrder t := by
  rw [shownOrder, secondOrder, shownSecond_eq_truncate hs, shownSecond_eq_truncate ht]

end Timestamp

/-- What dates of plain years ask of a stored timestamp of such a year, by what a clock shows. -/
theorem FilterKind.truth_storedTimestamp {row : Row} {column : String} {s : Timestamp}
    (hs : s.date.IsPlain) (hcell : row.cell column = .text s.text)
    (haffinity : row.affinity column ≠ .numeric) {op : Operator} {x : DateOperand}
    (hsupports : date.Supports op x) (hbounds : ∀ t ∈ x.bounds, t.date.IsPlain) (negated : Bool) :
    ∃ p, date.valuePredicate (.column column) op negated x = .ok p ∧
      p.truth row = .signed negated (.ofBool (x.accepts s.shownOrder op)) := by
  refine truth_dateOperand (fun t ht test => ?_) hsupports negated
  -- the database compares the column with the text of the date, as two texts
  have hcell' : (Expr.column column).cell row = .text s.text := hcell
  rw [Expr.holds_text hcell' rfl haffinity, Timestamp.compare_text hs (hbounds t ht)]

/-- Rows that are sorted by a column of timestamps are in the order of these. -/
theorem RowOrder.pairwise_storedTimestamps (order : RowOrder) (st : Store) (e : Entity)
    (p : Predicate) {q : Query} {k : SortKey} (hq : q.order = some k) {rows : List Row}
    {time : Row → Timestamp} (hrows : ∀ row ∈ rows,
      (time row).date.IsPlain ∧ row.cell k.column = .text (time row).text) :
    (order.arrange st e p q rows).Pairwise fun a b =>
      k.toDirection.allows ((time a).shownOrder (time b)) = true := by
  have hperm := order.perm st e p q rows
  have hexact : ∀ row ∈ rows, (row.cell k.column).isReal = false := by
    intro row hrow
    rw [(hrows row hrow).2]
    rfl
  refine (order.sorted st e p q rows k hq hexact).imp_of_mem fun {a b} ha hb hab => ?_
  -- the column of either row has the text of its timestamp
  obtain ⟨ha, hcella⟩ := hrows a (hperm.mem_iff.mp ha)
  obtain ⟨hb, hcellb⟩ := hrows b (hperm.mem_iff.mp hb)
  rw [SortKey.precedes_eq, hcella, hcellb] at hab
  rw [← Timestamp.compare_text ha hb]
  exact hab

/-- **Stored timestamps sort as a clock shows them.** The texts of timestamps of plain years compare
    as the seconds that a clock shows: by the day, and on one day by the time shown, with the leap
    second at the end of a minute between second 59 and the next minute.  Where no other leap
    seconds are compared, that is the order of time, with no regard to fractions of seconds.  So a
    date filter asks of a column of such texts what it asks of the timestamps, and rows that are
    sorted by the column are in their order, however the database puts rows of one second. -/
theorem Timestamp.text_sorts_as_time :
    (∀ s t : Timestamp, s.date.IsPlain → t.date.IsPlain →
      compare s.text t.text = s.shownOrder t) ∧
    (∀ s t : Timestamp, s.IsRegular → t.IsRegular → s.shownOrder t = s.secondOrder t) ∧
    (∀ s t : Timestamp, s.shownOrder t = .lt ↔
      s.date.Before t.date ∨ (s.date = t.date ∧ s.time.ShownBefore t.time)) ∧
    (∀ (row : Row) (column : String) (s : Timestamp), s.date.IsPlain →
      row.cell column = .text s.text → row.affinity column ≠ .numeric →
        ∀ op (x : DateOperand), FilterKind.date.Supports op x →
          (∀ t ∈ x.bounds, t.date.IsPlain) → ∀ negated, ∃ p,
            FilterKind.date.valuePredicate (.column column) op negated x = .ok p ∧
              p.truth row = .signed negated (.ofBool (x.accepts s.shownOrder op))) ∧
    ∀ (order : RowOrder) (st : Store) (e : Entity) (p : Predicate) (q : Query) (k : SortKey),
      q.order = some k → ∀ (rows : List Row) (time : Row → Timestamp),
        (∀ row ∈ rows, (time row).date.IsPlain ∧ row.cell k.column = .text (time row).text) →
          (order.arrange st e p q rows).Perm rows ∧
          (order.arrange st e p q rows).Pairwise fun a b =>
            k.toDirection.allows ((time a).shownOrder (time b)) = true := by
  refine ⟨fun s t hs ht => compare_text hs ht, fun s t hs ht => shownOrder_eq_secondOrder hs ht,
    fun s t => ?_, ?_, ?_⟩
  · rw [shownOrder, compare_lt_iff_lt, instant_shownSecond_lt_iff]
  · intro row column s hs hcell haffinity op x
    exact FilterKind.truth_storedTimestamp hs hcell haffinity
  · intro order st e p q k hq rows time hrows
    exact ⟨order.perm st e p q rows, order.pairwise_storedTimestamps st e p hq hrows⟩

/-- A leap second with a fraction, beside the second before it and the minute after it: it is
    within their range, and stands between them where the latest rows come first. -/
theorem Timestamp.text_sorts_as_time_leapSecond :
    let last : Timestamp := ⟨⟨2016, 12, 31, by decide, by decide, by decide⟩,
      ⟨23, 59, 59, 900000000, by decide, by decide, by decide, by decide⟩⟩
    let leap : Timestamp := ⟨last.date,
      ⟨23, 59, 59, 1500000000, by decide, by decide, by decide, by decide⟩⟩
    let next : Timestamp := ⟨⟨2017, 1, 1, by decide, by decide, by decide⟩, .midnight⟩
    let row (t : Timestamp) : Row := ⟨fun _ => .text t.text, fun _ => .text⟩
    let q : Query := { Query.empty with order := some ⟨"insert_date", "desc"⟩ }
    last.secondOrder leap = .lt ∧ compare last.text leap.text = .lt ∧
    compare leap.text next.text = .lt ∧
    (∃ p, FilterKind.date.valuePredicate (.column "insert_date") .between false
      (.range last next) = .ok p ∧ p.truth (row leap) = .yes) ∧
    let time (r : Row) : Timestamp :=
      ([last, leap].find? fun t => r.cell "insert_date" = .text t.text).getD next
    (RowOrder.insertion.arrange .empty Access.user.entity .always q
        [row leap, row last, row next]).Pairwise fun a b =>
      Direction.descending.allows ((time a).shownOrder (time b)) = true := by
  intro last leap next row q
  obtain ⟨hcompare, hregular, horder, hdates, hsorted⟩ := text_sorts_as_time
  have hlast : last.date.IsPlain := by decide
  have hleap : leap.date.IsPlain := by decide
  have hnext : next.date.IsPlain := by decide
  have hfirst : last.shownOrder leap = .lt :=
    (horder last leap).mpr (.inr ⟨rfl, .inr ⟨rfl, .inr ⟨rfl, by decide⟩⟩⟩)
  have hsecond : leap.shownOrder next = .lt := (horder leap next).mpr (.inl (.inl (by decide)))
  refine ⟨(hregular _ _ (by decide) (by decide)).symm.trans hfirst,
    (hcompare _ _ hlast hleap).trans hfirst, (hcompare _ _ hleap hnext).trans hsecond, ?_, ?_⟩
  · obtain ⟨p, hp, htruth⟩ := hdates (row leap) "insert_date" leap hleap rfl
      (show Affinity.text ≠ .numeric by decide) .between (.range last next) trivial
      (by decide) false
    refine ⟨p, hp, htruth.trans ?_⟩
    decide +kernel
  · intro time
    have hdirection : (SortKey.mk "insert_date" "desc").toDirection = .descending := by decide
    have hrows : ∀ r ∈ [row leap, row last, row next],
        (time r).date.IsPlain ∧ r.cell "insert_date" = .text (time r).text := by
      simp only [List.forall_mem_cons]
      decide +kernel
    have hpairwise := (hsorted .insertion .empty Access.user.entity .always q _ rfl _ time hrows).2
    rw [hdirection] at hpairwise
    exact hpairwise

/-- The leap second after second 15 is shown as second 16, so its text is that of a later
    timestamp. -/
theorem Timestamp.text_sorts_as_time_irregular :
    let leap : Timestamp := ⟨⟨2024, 1, 1, by decide, by decide, by decide⟩,
      ⟨12, 30, 15, 1500000000, by decide, by decide, by decide, by decide⟩⟩
    let next : Timestamp := ⟨leap.date,
      ⟨12, 30, 16, 0, by decide, by decide, by decide, by decide⟩⟩
    leap.date.IsPlain ∧ next.date.IsPlain ∧
      leap.secondOrder next = .lt ∧ compare leap.text next.text = .eq := by
  intro leap next
  refine ⟨by decide, by decide, ?_, compare_eq_iff_eq.mpr (by decide)⟩
  rw [secondOrder, compare_lt_iff_lt, instant_lt_iff]
  exact .inr ⟨rfl, .inl (by decide)⟩

end FilterQuery
