import FilterQuery.Proofs.Filter.Literals
import FilterQuery.Proofs.Filter.Traversal
import FilterQuery.Proofs.Sql.Connectives

namespace FilterQuery

/-!
# What filter values mean

The meaning of the parameters of a request is defined here without predicates: part by
part, as a truth value on a row.

* `FilterKind.literalTruth` — what a literal asks of a column;
* `Alternative.partTruth` — what a part of a filter value asks: absence for `null`, else
  what its literal asks, and the opposite where it is negated;
* `Field.truth` — what a filter value asks of a field: that one of its parts holds, but for
  numbers that are all excluded that all of them do;
* `Field.truth_compile` — a compiled predicate has the truth of the conjunction of what the
  contributing fields ask.
-/

/-! ### Meanings -/

/-- What a literal other than `null` asks of a column.  The key only names the field in the
    errors of dates, which have no meaning. -/
def FilterKind.literalTruth (k : FilterKind) (row : Row) (key column literal : String) : Truth :=
  match k with
  | .text =>
    let subject := Expr.upper (.column column)
    if Text.beginsWith "lk_" literal.toList then
      Condition.likeTruth (starPattern (literal.toList.drop 3)) (subject.cell row)
    else subject.holds row Ordering.isEq (.text (Text.upper literal))
  | .number =>
    match Bounds.signed64.read literal with
    | .ok n => (Expr.column column).holds row Ordering.isEq (.integer n)
    | .error _ => .unknown
  | .boolean =>
    (Expr.column column).holds row Ordering.isEq
      (.boolean (Text.sameIgnoringCase literal "true"))
  | .date =>
    let subject := Expr.column column
    match DateOperand.read key literal with
    | .ok (.equals, .at t) => subject.holds row Ordering.isEq (.timestamp t)
    | .ok (.inferior, .at t) => subject.holds row Ordering.isLT (.timestamp t)
    | .ok (.superior, .at t) => subject.holds row Ordering.isGT (.timestamp t)
    | .ok (.between, .range a b) =>
      (subject.holds row Ordering.isGE (.timestamp a)).and
        (subject.holds row Ordering.isLE (.timestamp b))
    | _ => .unknown
  | .token => (Expr.column column).holds row Ordering.isEq (.text literal)
  | .enumeration => (Expr.asText (.column column)).holds row Ordering.isEq (.text literal)
  | .identifier =>
    match Uuid.readHyphenated literal with
    | .ok u => (Expr.column column).holds row Ordering.isEq (.identifier u)
    | .error _ => .unknown
  | .strict _ => (Expr.column column).holds row Ordering.isEq (.text literal)

/-- What a part of a filter value asks of a column. -/
def Alternative.partTruth (k : FilterKind) (row : Row) (key column : String)
    (part : List Char) : Truth :=
  .signed (negates part) <|
    if isNullLiteral (literalOf part) then .ofBool (row.cell column = .null)
    else k.literalTruth row key column (literalOf part)

/-- Whether a part is a negated literal other than `null`. -/
def Alternative.excludes (part : List Char) : Bool :=
  negates part && !isNullLiteral (literalOf part)

namespace Field

/-- What a filter value asks of a field. -/
def valueTruth (registry : Registry) (row : Row) (f : Field) (raw : String) : Truth :=
  let k := f.kind registry
  let parts := Alternative.parts raw
  let ts := parts.map (Alternative.partTruth k row f.key f.column)
  if k = .number ∧ parts.all Alternative.excludes then .all ts else .any ts

/-- What the parameters ask of a field. -/
def truth (registry : Registry) (params : Params) (row : Row) (f : Field) : Truth :=
  f.valueTruth registry row ((params.get? f.key).getD "")

end Field

/-! ### Comparisons -/

theorem Cell.holds_isNe (a b : Cell) :
    a.holds Ordering.isNe b = (a.holds Ordering.isEq b).not := by
  have hne (o : Ordering) : Truth.ofBool o.isNe = (Truth.ofBool o.isEq).not := by cases o <;> rfl
  cases a <;> cases b <;> first | rfl | exact hne _

/-- Inequality is the opposite of equality, and both are unknown for an absent value. -/
theorem Expr.holds_isNe (row : Row) (e : Expr) (v : Value) :
    e.holds row Ordering.isNe v = (e.holds row Ordering.isEq v).not := by
  simp only [holds, Cell.holds_isNe]

section Holds

variable {row : Row} {e : Expr} {v : Value}

/-- Texts are compared as they are, unless the column prefers numbers. -/
theorem Expr.holds_text {s t : String} (hcell : e.cell row = .text s) (hv : v.cell = .text t)
    (haffinity : e.affinity row ≠ .numeric) (test : Ordering → Bool) :
    e.holds row test v = .ofBool (test (compare s t)) := by
  have halign : Cell.align (.text s, e.affinity row) (.text t, .none) = (.text s, .text t) := by
    cases haff : e.affinity row with
    | numeric => exact absurd haff haffinity
    | text | none => rfl
  rw [holds, hcell, hv, halign]
  rfl

/-- Integers are compared as they are, unless the column prefers texts. -/
theorem Expr.holds_integer {m n : Int} (hcell : e.cell row = .integer m) (hv : v.cell = .integer n)
    (haffinity : e.affinity row ≠ .text) (test : Ordering → Bool) :
    e.holds row test v = .ofBool (test (compare m n)) := by
  have halign : Cell.align (.integer m, e.affinity row) (.integer n, .none) =
      (.integer m, .integer n) := by
    cases haff : e.affinity row with
    | text => exact absurd haff haffinity
    | numeric | none => rfl
  rw [holds, hcell, hv, halign]
  rfl

end Holds

namespace Predicate

@[simp] theorem truth_equal (row : Row) (e : Expr) (v : Value) (negated : Bool) :
    (equal e v negated).truth row = .signed negated (e.holds row Ordering.isEq v) := by
  cases negated
  · rfl
  · exact Expr.holds_isNe row e v

@[simp] theorem truth_signed (row : Row) (p : Predicate) (negated : Bool) :
    (signed negated p).truth row = .signed negated (p.truth row) := by
  cases negated <;> simp [signed, Truth.signed, truth]

end Predicate

/-! ### Literals -/

/-- The predicate of a date or of two of them has the truth of what they ask. -/
theorem FilterKind.truth_datePredicate {key column literal : String} {op : Operator}
    {v : DateOperand} {negated : Bool} {q : Predicate}
    (hread : DateOperand.read key literal = .ok (op, v))
    (hpredicate : date.valuePredicate (.column column) op negated v = .ok q) (row : Row) :
    q.truth row = .signed negated (date.literalTruth row key column literal) := by
  cases v with
  | «at» t =>
    cases op with
    | equals =>
      obtain rfl := Except.ok.inj hpredicate
      simp [literalTruth, hread]
    | inferior =>
      obtain rfl := Except.ok.inj hpredicate
      simp [literalTruth, hread, Predicate.compare, Predicate.truth, Condition.truth,
        Comparison.accepts]
    | superior =>
      obtain rfl := Except.ok.inj hpredicate
      simp [literalTruth, hread, Predicate.compare, Predicate.truth, Condition.truth,
        Comparison.accepts]
    | between | null | like => cases hpredicate
  | range a b =>
    cases op with
    | between =>
      obtain rfl := Except.ok.inj hpredicate
      simp [literalTruth, hread, Predicate.truth, Condition.truth]
    | equals | inferior | superior | null | like => cases hpredicate

/-- The predicate of a literal that was read has the truth of what the literal asks. -/
theorem FilterKind.truth_valuePredicate {k : FilterKind} {key column literal : String}
    {op : Operator} {v : k.Operand} {negated : Bool} {q : Predicate}
    (hread : k.readLiteral key literal = .ok (op, v))
    (hpredicate : k.valuePredicate (k.subject column) op negated v = .ok q) (row : Row) :
    q.truth row = .signed negated (k.literalTruth row key column literal) := by
  cases k with
  | text =>
    rw [readLiteral, readText_eq] at hread
    by_cases hlike : Text.beginsWith "lk_" literal.toList = true
    · rw [if_pos hlike] at hread
      obtain ⟨rfl, rfl⟩ := hread
      obtain rfl := Except.ok.inj hpredicate
      simp [literalTruth, hlike, subject, Predicate.truth, Condition.truth]
    · rw [if_neg hlike] at hread
      obtain ⟨rfl, rfl⟩ := hread
      obtain rfl := Except.ok.inj hpredicate
      simp [literalTruth, hlike, subject]
  | number =>
    cases hn : Bounds.signed64.read literal with
    | error e => simp [readLiteral, hn] at hread
    | ok n =>
      simp only [readLiteral, hn, Except.ok.injEq, Prod.mk.injEq] at hread
      obtain ⟨rfl, rfl⟩ := hread
      obtain rfl := Except.ok.inj hpredicate
      simp [literalTruth, hn, subject]
  | boolean =>
    simp only [readLiteral, Except.ok.injEq, Prod.mk.injEq] at hread
    obtain ⟨rfl, rfl⟩ := hread
    obtain rfl := Except.ok.inj hpredicate
    simp [literalTruth, subject]
  | date => exact truth_datePredicate hread hpredicate row
  | token =>
    obtain ⟨rfl, rfl⟩ := hread
    obtain rfl := Except.ok.inj hpredicate
    simp [literalTruth, subject]
  | enumeration =>
    obtain ⟨rfl, rfl⟩ := hread
    obtain rfl := Except.ok.inj hpredicate
    simp [literalTruth, subject]
  | identifier =>
    cases hu : Uuid.readHyphenated literal with
    | error e => simp [readLiteral, hu] at hread
    | ok u =>
      simp only [readLiteral, hu, Except.ok.injEq, Prod.mk.injEq] at hread
      obtain ⟨rfl, rfl⟩ := hread
      obtain rfl := Except.ok.inj hpredicate
      simp [literalTruth, hu, subject]
  | strict e =>
    rw [readLiteral, Enumeration.read] at hread
    split at hread
    · obtain ⟨rfl, rfl⟩ := hread
      obtain rfl := Except.ok.inj hpredicate
      simp [literalTruth, subject]
    · cases hread

/-! ### Parts -/

namespace Parsed

/-- The predicate of a part that was read has the truth of what the part asks. -/
theorem truth_predicate {k : FilterKind} {key column : String} {part : List Char}
    {v : Parsed k.Operand} {q : Predicate} (hread : IsOf k key part v)
    (hpredicate : v.predicate (k.valuePredicate (k.subject column)) column = .ok q) (row : Row) :
    q.truth row = Alternative.partTruth k row key column part := by
  rw [Alternative.partTruth]
  obtain ⟨hnull, rfl⟩ | ⟨hnull, op, x, hliteral, rfl⟩ := isOf_iff.mp hread
  · obtain rfl := Except.ok.inj hpredicate
    rw [hnull]
    rfl
  · rw [predicate_some (FilterKind.ne_null_of_readLiteral hliteral)] at hpredicate
    rw [hnull]
    exact FilterKind.truth_valuePredicate hliteral hpredicate row

/-- The predicate of several parts has the truth of the disjunction of what they ask. -/
theorem truth_anyOf {k : FilterKind} {key column : String} {parts : List (List Char)}
    {vs : List (Parsed k.Operand)} {p : Predicate} (hread : List.Forall₂ (IsOf k key) parts vs)
    (hpredicate : anyOf (k.valuePredicate (k.subject column)) column vs = .ok p) (row : Row) :
    p.truth row = .any (parts.map (Alternative.partTruth k row key column)) := by
  rw [anyOf, predicates_eq_mapM] at hpredicate
  cases hqs : vs.mapM (predicate (k.valuePredicate (k.subject column)) column) with
  | error e => simp [hqs, Except.map] at hpredicate
  | ok qs =>
    rw [hqs] at hpredicate
    obtain rfl := Except.ok.inj hpredicate
    rw [Predicate.truth_anyOf]
    congr 1
    have hpredicates := mapM_eq_ok_iff.mp hqs
    clear hqs hpredicate
    induction hread generalizing qs with
    | nil => cases hpredicates; rfl
    | cons hv _ ih =>
      cases hpredicates with
      | cons hq hqs => rw [List.map_cons, List.map_cons, truth_predicate hv hq row, ih _ hqs]

/-! ### Numbers -/

/-- A number is read as an equality. -/
theorem isOf_number_iff {key : String} {part : List Char} {v : Parsed Int} :
    IsOf .number key part v ↔
      (Alternative.isNullLiteral (Alternative.literalOf part) = true ∧
        v = ⟨.null, Alternative.negates part, none⟩) ∨
      (Alternative.isNullLiteral (Alternative.literalOf part) = false ∧
        ∃ n, Bounds.signed64.read (Alternative.literalOf part) = .ok n ∧
          v = ⟨.equals, Alternative.negates part, some n⟩) := by
  rw [isOf_iff]
  apply or_congr_right
  apply and_congr_right
  intro _
  cases h : Bounds.signed64.read (Alternative.literalOf part) <;>
    simp [FilterKind.readLiteral, h, eq_comm]

/-- Numbers with one sign ask what their list is asked for, each with that sign. -/
theorem map_partTruth_number {key column : String} {parts : List (List Char)}
    {vs : List (Parsed Int)} {negated : Bool}
    (hread : List.Forall₂ (IsOf .number key) parts vs)
    (hsame : ∀ v ∈ vs, v.operator = .equals ∧ v.negated = negated) (row : Row) :
    parts.map (Alternative.partTruth .number row key column) =
      ((vs.filterMap fun v => v.value.map Value.integer).map
        ((Expr.column column).holds row Ordering.isEq)).map (Truth.signed negated) := by
  induction hread with
  | nil => rfl
  | @cons part v parts vs hv _ ih =>
    obtain ⟨hop, hsign⟩ := hsame v List.mem_cons_self
    have hrest := ih fun w hw => hsame w (List.mem_cons_of_mem _ hw)
    obtain ⟨_, rfl⟩ | ⟨hnull, n, hn, rfl⟩ := isOf_number_iff.mp hv
    · cases hop
    · subst hsign
      rw [List.map_cons, hrest]
      simp [Alternative.partTruth, hnull, FilterKind.literalTruth, hn]

/-- Numbers are all excluded exactly where each is read as an inequality. -/
theorem all_excludes_iff {key : String} {parts : List (List Char)} {vs : List (Parsed Int)}
    (hread : List.Forall₂ (IsOf .number key) parts vs) :
    parts.all Alternative.excludes = true ↔ ∀ v ∈ vs, v.operator = .equals ∧ v.negated = true := by
  induction hread with
  | nil => simp
  | @cons part v parts vs hv _ ih =>
    have hpart : Alternative.excludes part = true ↔ v.operator = .equals ∧ v.negated = true := by
      rw [Alternative.excludes]
      obtain ⟨hnull, rfl⟩ | ⟨hnull, n, _, rfl⟩ := isOf_number_iff.mp hv <;> simp [hnull]
    rw [List.all_cons, Bool.and_eq_true, ih, hpart, List.forall_mem_cons]

/-- Membership is possible exactly where all numbers are read with one sign. -/
theorem membership?_eq (column : String) (v : Parsed Int) (vs : List (Parsed Int)) :
    membership? column (v :: vs) =
      if ∀ w ∈ v :: vs, w.operator = .equals ∧ w.negated = v.negated then
        some (.test (.member (.column column)
          ((v :: vs).filterMap fun w => w.value.map Value.integer) v.negated))
      else none := by
  rw [membership?]
  simp only [List.all_eq_true, Bool.and_eq_true, decide_eq_true_eq, beq_iff_eq]

/-- The predicate of a list of numbers has the truth of the conjunction or disjunction of
    what its parts ask. -/
theorem truth_membership {key column : String} {parts : List (List Char)}
    {vs : List (Parsed Int)} {p : Predicate} (hread : List.Forall₂ (IsOf .number key) parts vs)
    (hmember : membership? column vs = some p) (row : Row) :
    p.truth row =
      if parts.all Alternative.excludes then
        .all (parts.map (Alternative.partTruth .number row key column))
      else .any (parts.map (Alternative.partTruth .number row key column)) := by
  cases vs with
  | nil => cases hmember
  | cons v vs =>
    rw [membership?_eq] at hmember
    split at hmember
    · next hsame =>
      obtain rfl := Option.some.inj hmember
      rw [map_partTruth_number hread hsame row, Predicate.truth, Condition.truth]
      cases hsign : v.negated with
      | true =>
        rw [hsign] at hsame
        rw [if_pos ((all_excludes_iff hread).mpr hsame)]
        exact Truth.not_any _
      | false =>
        have hsome : ¬parts.all Alternative.excludes = true := fun hall => by
          have := ((all_excludes_iff hread).mp hall v List.mem_cons_self).2
          rw [hsign] at this
          cases this
        rw [if_neg hsome, show Truth.signed false = id from rfl, List.map_id]
        rfl
    · cases hmember

/-- Where membership is not possible, not all numbers are excluded. -/
theorem not_all_excludes {key column : String} {parts : List (List Char)}
    {vs : List (Parsed Int)} (hread : List.Forall₂ (IsOf .number key) parts vs)
    (hvs : vs ≠ []) (hmember : membership? column vs = none) :
    ¬parts.all Alternative.excludes = true := by
  intro hall
  cases vs with
  | nil => exact hvs rfl
  | cons v vs =>
    have hsame := (all_excludes_iff hread).mp hall
    rw [membership?_eq, (hsame v List.mem_cons_self).2, if_pos hsame] at hmember
    cases hmember

end Parsed

/-! ### Fields -/

/-- The predicate of a filter has the truth of what its parts ask. -/
theorem FieldFilter.truth_predicate {k : FilterKind} {key column : String}
    {parts : List (List Char)} {vs : List (Parsed k.Operand)} {p : Predicate}
    (hread : List.Forall₂ (Parsed.IsOf k key) parts vs) (hparts : parts ≠ [])
    (hpredicate : predicate ⟨k, key, vs⟩ column = .ok p) (row : Row) :
    p.truth row =
      if k = .number ∧ parts.all Alternative.excludes then
        .all (parts.map (Alternative.partTruth k row key column))
      else .any (parts.map (Alternative.partTruth k row key column)) := by
  have hvs : vs ≠ [] := by
    rintro rfl
    exact hparts (List.forall₂_nil_right_iff.mp hread)
  by_cases hk : k = .number
  · subst hk
    rw [predicate, membership?] at hpredicate
    cases hmember : Parsed.membership? column vs with
    | some q =>
      rw [hmember] at hpredicate
      obtain rfl := Except.ok.inj hpredicate
      rw [Parsed.truth_membership hread hmember row]
      simp only [true_and]
    | none =>
      rw [hmember] at hpredicate
      rw [if_neg fun h => Parsed.not_all_excludes hread hvs hmember h.2]
      exact Parsed.truth_anyOf hread hpredicate row
  · have hmember : membership? column ⟨k, key, vs⟩ = none := by
      cases k <;> first | rfl | exact absurd rfl hk
    rw [predicate, hmember] at hpredicate
    rw [if_neg fun h => hk h.1]
    exact Parsed.truth_anyOf hread hpredicate row

/-- The predicate of a filter has the truth of what the parameters ask of its field. -/
theorem BoundFilter.truth_predicate {registry : Registry} {params : Params} {f : Field}
    {b : BoundFilter} {p : Predicate} (hcontributes : f.contributes params = true)
    (hgives : f.Gives registry params b) (hpredicate : b.predicate = .ok p) (row : Row) :
    p.truth row = f.truth registry params row := by
  obtain ⟨rfl, vs, hfilter, hread⟩ := hgives
  rw [predicate, hfilter] at hpredicate
  have hparts := (Alternative.parts_ne_nil_iff _).mpr (Field.contributes_iff.mp hcontributes)
  exact FieldFilter.truth_predicate hread hparts hpredicate row

namespace Field

/-- Filters stand beside their fields, and predicates beside their filters: each predicate has
    the truth of what the parameters ask of its field. -/
theorem map_truth_of_gives {registry : Registry} {params : Params} {fs : List Field}
    {bs : List BoundFilter} {ps : List Predicate}
    (hcontributes : ∀ f ∈ fs, f.contributes params = true)
    (hgives : List.Forall₂ (Gives registry params) fs bs)
    (hpredicates : List.Forall₂ (fun b p => BoundFilter.predicate b = .ok p) bs ps) (row : Row) :
    ps.map (Predicate.truth row) = fs.map (truth registry params row) := by
  induction hgives generalizing ps with
  | nil => cases hpredicates; rfl
  | cons hb _ ih =>
    cases hpredicates with
    | cons hp hps =>
      rw [List.forall_mem_cons] at hcontributes
      rw [List.map_cons, List.map_cons, ih hcontributes.2 hps,
        BoundFilter.truth_predicate hcontributes.1 hb hp row]

/-- **Meaning of compiled parameters.** The truth of a compiled predicate on a row is the
    conjunction, over the fields that contribute, of what the parameters ask of them. -/
theorem truth_compile {registry : Registry} {fs : List Field} {params : Params} {p : Predicate}
    (h : compile registry fs params = .ok p) (row : Row) :
    p.truth row =
      .all ((fs.filter (contributes params)).map (truth registry params row)) := by
  obtain ⟨bs, ps, hgives, hpredicates, rfl⟩ := compile_eq_ok_iff.mp h
  have hcontributes : ∀ f ∈ fs.filter (contributes params), f.contributes params = true :=
    fun f hf => (List.mem_filter.mp hf).2
  rw [Predicate.truth_allOf, map_truth_of_gives hcontributes hgives hpredicates row]

/-- Two excluded numbers and an absent name: a row with a third number and no name is
    selected, whatever a parameter without a field says. -/
theorem truth_compile_excluded_and_absent :
    let fs : List Field := [⟨"id", "pac_id", .number, .integer⟩, ⟨"name", "name", .text, .text⟩]
    let params : Params := ⟨[("id", "not_1|NOT_2"), ("name", "Null||"), ("size", "not_3")]⟩
    let row : Row := ⟨fun c => if c = "pac_id" then .integer 3 else .null, fun _ => .numeric⟩
    ∃ p, compile .empty fs params = .ok p ∧ p.truth row = .yes := by
  intro fs params row
  refine ⟨_, rfl, ?_⟩
  have hcompile : compile .empty fs params = .ok _ := rfl
  rw [truth_compile hcompile row]
  decide

end Field

end FilterQuery
