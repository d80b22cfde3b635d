import FilterQuery.Proofs.Calendar.Order
import FilterQuery.Proofs.Filter.DateForms
import FilterQuery.Proofs.Filter.Meaning
import FilterQuery.Proofs.Filter.Soundness

namespace FilterQuery

/-!
# Date filters on stored timestamps

A column of timestamps holds their texts, and a date filter compares them with the texts of
its bounds.

* `DateOperand.Written` — the forms of date literals;
* `DateOperand.accepts` — what a literal asks of a timestamp, by an order of timestamps;
* `FieldFilter.truth_dates` — a date filter asks by the order of texts, which is the order
  of time for timestamps that are clear of the bounds.
-/

/-! ### Literals -/

/-- The forms of a date literal with what they ask: one date, with or without an operator in
    front of it, or two dates with the operator of a range between them. -/
inductive DateOperand.Written : List Char → Operator → DateOperand → Prop
  | plain {date : List Char} {t : Timestamp} (h : Timestamp.read (String.ofList date) = .ok t) :
    Written date .equals (.at t)
  | single {op : Operator} {a b : Char} {date : List Char} {t : Timestamp}
    (hop : op ∈ [.equals, .inferior, .superior])
    (htoken : Text.sameIgnoringCase op.token (String.ofList [a, b]))
    (h : Timestamp.read (String.ofList date) = .ok t) :
    Written (a :: b :: date) op (.at t)
  | range {first last : List Char} {a b : Char} {s t : Timestamp}
    (htoken : Text.sameIgnoringCase Operator.between.token (String.ofList [a, b]))
    (hfirst : Timestamp.read (String.ofList first) = .ok s)
    (hlast : Timestamp.read (String.ofList last) = .ok t) :
    Written (first ++ a :: b :: last) .between (.range s t)

namespace DateOperand

/-- A literal that is read has one of the forms of date literals. -/
theorem written_of_read {key literal : String} {op : Operator} {x : DateOperand}
    (h : read key literal = .ok (op, x)) : Written literal.toList op x := by
  obtain ⟨form, hchars, hform⟩ := exists_says_of_read h
  rw [← hchars]
  cases hform with
  | plain ht => exact .plain ht
  | single hop htoken _ _ ht => exact .single hop htoken ht
  | range htoken _ _ _ hfirst hlast => exact .range htoken hfirst hlast

/-! ### Timestamps -/

/-- The dates of a literal. -/
def bounds : DateOperand → List Timestamp
  | .at t => [t]
  | .range s t => [s, t]

/-- Whether a timestamp is what an operator and dates ask for, by its order to other
    timestamps: at the date, before it, after it, or within the range with its ends. -/
def accepts (order : Timestamp → Ordering) : Operator → DateOperand → Bool
  | .equals, .at t => (order t).isEq
  | .inferior, .at t => (order t).isLT
  | .superior, .at t => (order t).isGT
  | .between, .range s t => (order s).isGE && (order t).isLE
  | _, _ => false

/-- Only the order to the dates counts. -/
theorem accepts_congr {order order' : Timestamp → Ordering} {x : DateOperand}
    (h : ∀ t ∈ x.bounds, order t = order' t) (op : Operator) :
    x.accepts order op = x.accepts order' op := by
  cases x with
  | «at» t =>
    have ht : order t = order' t := h t List.mem_cons_self
    cases op <;> simp [accepts, ht]
  | range s t =>
    have hs : order s = order' s := h s List.mem_cons_self
    have ht : order t = order' t := h t (List.mem_cons_of_mem _ List.mem_cons_self)
    cases op <;> simp [accepts, hs, ht]

end DateOperand

/-- The dates of a part of a filter value. -/
def Alternative.dates (key : String) (part : List Char) : List Timestamp :=
  match DateOperand.read key (literalOf part) with
  | .ok (_, x) => x.bounds
  | .error _ => []

/-- What a part of a filter value asks of a timestamp, by its order to other timestamps.  A
    stored timestamp is never absent. -/
def Alternative.dateTruth (order : Timestamp → Ordering) (key : String) (part : List Char) :
    Truth :=
  .signed (negates part) <|
    if isNullLiteral (literalOf part) then .no
    else
      match DateOperand.read key (literalOf part) with
      | .ok (op, x) => .ofBool (x.accepts order op)
      | .error _ => .unknown

/-- How the text of a stored timestamp is compared with a bound. -/
theorem Expr.holds_timestamp {row : Row} {column : String} {s : Timestamp}
    (hs : s.date.IsPlain) (hcell : row.cell column = .text s.text)
    (haffinity : row.affinity column ≠ .numeric) (test : Ordering → Bool) (t : Timestamp) :
    (Expr.column column).holds row test (.timestamp t) = .ofBool (test (s.textOrder t)) := by
  have hcell' : (Expr.column column).cell row = .text s.text := hcell
  rw [holds_text hcell' rfl haffinity, Timestamp.compare_text_eq_textOrder hs t]

/-- Dates ask of a column what its order to them says. -/
theorem FilterKind.truth_dateOperand {row : Row} {column : String} {op : Operator} {x : DateOperand}
    {order : Timestamp → Ordering}
    (hholds : ∀ t ∈ x.bounds, ∀ test,
      (Expr.column column).holds row test (.timestamp t) = .ofBool (test (order t)))
    (hsupports : date.Supports op x) (negated : Bool) :
    ∃ p, date.valuePredicate (.column column) op negated x = .ok p ∧
      p.truth row = .signed negated (.ofBool (x.accepts order op)) := by
  have hand (a b : Bool) : (Truth.ofBool a).and (.ofBool b) = .ofBool (a && b) := by
    cases a <;> cases b <;> rfl
  cases x with
  | «at» t =>
    have ht := hholds t List.mem_cons_self
    cases op with
    | equals =>
      refine ⟨_, rfl, ?_⟩
      rw [Predicate.truth_equal, ht]
      rfl
    | inferior | superior =>
      refine ⟨_, rfl, ?_⟩
      rw [Predicate.truth_signed]
      exact congrArg (Truth.signed negated) (ht _)
    | between | null | like => cases hsupports
  | range a b =>
    have ha := hholds a List.mem_cons_self
    have hb := hholds b (List.mem_cons_of_mem _ List.mem_cons_self)
    cases op with
    | between =>
      refine ⟨_, rfl, ?_⟩
      show Truth.signed negated (Truth.and _ _) = _
      rw [ha, hb, hand]
      rfl
    | equals | inferior | superior | null | like => cases hsupports

/-- A part asks of a stored timestamp what it says, by the order of texts. -/
theorem Alternative.partTruth_date {key column : String} {part : List Char}
    {v : Parsed DateOperand} {row : Row} {s : Timestamp} (hread : Parsed.IsOf .date key part v)
    (hs : s.date.IsPlain) (hcell : row.cell column = .text s.text)
    (haffinity : row.affinity column ≠ .numeric) :
    partTruth .date row key column part = dateTruth s.textOrder key part := by
  rw [partTruth, dateTruth]
  apply congrArg (Truth.signed _)
  obtain ⟨hnull, -⟩ | ⟨hnull, op, x, hliteral, -⟩ := Parsed.isOf_iff.mp hread
  · rw [if_pos hnull, if_pos hnull, hcell]
    rfl
  · have hsupports := FilterKind.supports_of_readLiteral hliteral
    have hliteral : DateOperand.read key (literalOf part) = .ok (op, x) := hliteral
    obtain ⟨p, hp, htruth⟩ := FilterKind.truth_dateOperand
      (fun t _ test => Expr.holds_timestamp hs hcell haffinity test t) hsupports false
    rw [FilterKind.truth_datePredicate hliteral hp row] at htruth
    rw [hnull, if_neg Bool.false_ne_true, if_neg Bool.false_ne_true]
    simp only [hliteral]
    exact htruth

/-- **Date filters on stored timestamps.** A filter value that is read has literals of the
    forms of date literals.  On a timestamp of a plain year its predicate is true or false, and
    true where one of the parts asks for the timestamp by the order of texts; where the timestamp
    is clear of all bounds, by the order of time. -/
theorem FieldFilter.truth_dates {key column raw : String} {f : FieldFilter} {s : Timestamp}
    {row : Row} (hread : read .date key (some raw) = .ok (some f)) (hs : s.date.IsPlain)
    (hcell : row.cell column = .text s.text) (haffinity : row.affinity column ≠ .numeric) :
    (∀ part ∈ Alternative.parts raw,
      Alternative.isNullLiteral (Alternative.literalOf part) = false →
        ∃ op x, DateOperand.read key (Alternative.literalOf part) = .ok (op, x) ∧
          DateOperand.Written (Alternative.literalOf part).toList op x) ∧
    ∃ p, f.predicate column = .ok p ∧
      p.truth row = .any ((Alternative.parts raw).map (Alternative.dateTruth s.textOrder key)) ∧
      ((∀ part ∈ Alternative.parts raw, ∀ t ∈ Alternative.dates key part, s.IsClearOf t) →
        p.truth row = .any ((Alternative.parts raw).map
          (Alternative.dateTruth (fun t => compare s.instant t.instant) key))) := by
  obtain ⟨hsome, vs, rfl, hparts⟩ := read_eq_ok_some_iff.mp hread
  have hparts' : ∀ part ∈ Alternative.parts raw, ∃ v, Parsed.IsOf .date key part v := by
    intro part hpart
    obtain ⟨v, -, hv⟩ := exists_mem_of_forall₂ hparts.flip hpart
    exact ⟨v, hv⟩
  obtain ⟨p, hp⟩ := exists_predicate_of_isOf hparts column
  have hnonempty := (Alternative.parts_ne_nil_iff raw).mpr hsome
  have htruth : p.truth row =
      .any ((Alternative.parts raw).map (Alternative.dateTruth s.textOrder key)) := by
    -- only numbers are left out together, the parts of a date filter are alternatives
    rw [truth_predicate hparts hnonempty hp row, if_neg (by simp)]
    apply congrArg Truth.any
    apply List.map_congr_left
    intro part hpart
    obtain ⟨v, hv⟩ := hparts' part hpart
    exact Alternative.partTruth_date hv hs hcell haffinity
  refine ⟨?_, p, hp, htruth, fun hclear => ?_⟩
  · intro part hpart hnull
    obtain ⟨v, hv⟩ := hparts' part hpart
    obtain ⟨hnull', -⟩ | ⟨-, op, x, hliteral, -⟩ := Parsed.isOf_iff.mp hv
    · rw [hnull] at hnull'
      cases hnull'
    · exact ⟨op, x, hliteral, DateOperand.written_of_read hliteral⟩
  · -- part by part, the two orders are the same to the dates that the part compares with
    rw [htruth]
    apply congrArg Truth.any
    apply List.map_congr_left
    intro part hpart
    rw [Alternative.dateTruth, Alternative.dateTruth]
    cases hliteral : DateOperand.read key (Alternative.literalOf part) with
    | error e => rfl
    | ok y =>
      obtain ⟨op, x⟩ := y
      have hclear := hclear part hpart
      rw [Alternative.dates, hliteral] at hclear
      have hsame : x.accepts s.textOrder op =
          x.accepts (fun t => compare s.instant t.instant) op :=
        DateOperand.accepts_congr (fun t ht => Timestamp.textOrder_eq (hclear t ht)) op
      simp only [hsame]

/-- A range that is left out, with an offset from universal time and a fraction: the first
    second behind its end is selected. -/
theorem FieldFilter.truth_dates_range :
    let s : Timestamp := ⟨⟨2024, 6, 30, by decide, by decide, by decide⟩,
      ⟨10, 0, 1, 0, by decide, by decide, by decide, by decide⟩⟩
    let row : Row := ⟨fun _ => .text s.text, fun _ => .text⟩
    ∃ f, read .date "date" (some
        "null|not_2023-12-31T23:30:00-01:00BT2024-06-30 10:00:00.25Z|-0044-03-15bt2000-01-01") =
          .ok (some f) ∧
      ∃ p, f.predicate "insert_date" = .ok p ∧ p.truth row = .yes := by
  intro s row
  refine Exists.imp (fun f hread => ⟨hread, ?_⟩) ⟨_, rfl⟩
  have hcell : row.cell "insert_date" = .text s.text := rfl
  obtain ⟨-, p, hp, -, htime⟩ := truth_dates hread (by decide) hcell (by decide)
  refine ⟨p, hp, ?_⟩
  rw [htime (by decide)]
  decide

/-- A timestamp half a second before a date is not selected as being before it: the text of
    the date has no fraction. -/
theorem FieldFilter.truth_dates_fraction :
    let s : Timestamp := ⟨⟨2024, 1, 1, by decide, by decide, by decide⟩,
      ⟨10, 0, 0, 0, by decide, by decide, by decide, by decide⟩⟩
    let row : Row := ⟨fun _ => .text s.text, fun _ => .text⟩
    ∃ f p t, read .date "date" (some "lt2024-01-01T10:00:00.5Z") = .ok (some f) ∧
      f.predicate "insert_date" = .ok p ∧ p.truth row = .no ∧
      Timestamp.read "2024-01-01T10:00:00.5Z" = .ok t ∧ s.instant < t.instant := by
  intro s row
  refine ⟨_, _, _, rfl, rfl, by decide, rfl, ?_⟩
  rw [Timestamp.instant_lt_iff]
  exact .inr ⟨rfl, .inr ⟨rfl, by decide⟩⟩

end FilterQuery
