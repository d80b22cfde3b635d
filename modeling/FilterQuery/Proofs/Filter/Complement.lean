import FilterQuery.Proofs.Filter.OwnLiterals

namespace FilterQuery

/-!
# Negated filter values

A filter value of one alternative and the same behind `not_` are opposites: both are read, or
both are refused for the same reason, and where the one is true the other is false.

* `FieldFilter.read_single_eq_error_iff`, `FieldFilter.truth_single` — a value of one part is
  refused, and asks, as this part does;
* `Alternative.partTruth_not` — what a part asks behind `not_`;
* `FieldFilter.truth_negated` — the two values beside each other.
-/

/-! ### Values of one part -/

section Single

variable {k : FilterKind} {key column raw : String} {part : List Char}

/-- A value of one part is refused exactly where this part is. -/
theorem FieldFilter.read_single_eq_error_iff {e : FilterError}
    (hparts : Alternative.parts raw = [part]) :
    read k key (some raw) = .error e ↔ k.Refuses key part e := by
  rw [read_eq_error_iff, hparts]
  constructor
  · rintro ⟨part', hfirst, hrefuses⟩
    obtain rfl := List.mem_singleton.mp hfirst.mem
    exact hrefuses
  · intro hrefuses
    exact ⟨part, isFirst_cons_iff.mpr (.inl ⟨⟨e, hrefuses⟩, rfl⟩), hrefuses⟩

/-- A value of one part that is not refused gives a filter with a predicate on every column. -/
theorem FieldFilter.exists_read_single (hparts : Alternative.parts raw = [part])
    (h : ∀ e, ¬k.Refuses key part e) :
    ∃ f, read k key (some raw) = .ok (some f) ∧
      ∀ column, ∃ p, f.predicate column = .ok p := by
  cases hread : read k key (some raw) with
  | error e => exact absurd ((read_single_eq_error_iff hparts).mp hread) (h e)
  | ok o =>
    cases o with
    | none =>
      have hnone := (Alternative.parts_eq_nil_iff raw).mpr ((read_eq_ok_none_iff k key).mp hread)
      rw [hparts] at hnone
      cases hnone
    | some f =>
      obtain ⟨-, vs, rfl, hvalues⟩ := read_eq_ok_some_iff.mp hread
      exact ⟨_, rfl, exists_predicate_of_isOf hvalues⟩

/-- The predicate of a value of one part asks what this part asks: one number that is sought, or
    excluded, is a list of its own. -/
theorem FieldFilter.truth_single {f : FieldFilter} {p : Predicate}
    (hparts : Alternative.parts raw = [part]) (hread : read k key (some raw) = .ok (some f))
    (hpredicate : f.predicate column = .ok p) (row : Row) :
    p.truth row = Alternative.partTruth k row key column part := by
  obtain ⟨-, vs, rfl, hvalues⟩ := read_eq_ok_some_iff.mp hread
  rw [hparts] at hvalues
  rw [truth_predicate hvalues (List.cons_ne_nil part []) hpredicate row, List.map_singleton]
  split
  · exact Truth.and_yes _
  · exact Truth.or_no _

end Single

/-! ### Behind a negation -/

namespace Alternative

variable {start literal : String}

/-- A literal behind `not_`, in any ASCII case, is its only part, negated. -/
theorem IsLiteral.behind_negation (h : IsLiteral literal)
    (hstart : Text.sameIgnoringCase start negation = true) :
    parts (start ++ literal) = [(start ++ literal).toList] ∧
      negates (start ++ literal).toList = true ∧ literalOf (start ++ literal).toList = literal := by
  have hencodes : Encodes true literal (start ++ literal) := ⟨start, hstart, rfl⟩
  obtain ⟨hnegates, hliteral⟩ := read_of_encodes hencodes nofun
  refine ⟨parts_of_whole ?_ (not_mem_of_encodes hencodes h.whole), hnegates, hliteral⟩
  intro hempty
  rw [hempty] at hnegates
  cases hnegates

/-- Behind `not_` a literal asks the opposite. -/
theorem IsLiteral.partTruth_negation (h : IsLiteral literal)
    (hstart : Text.sameIgnoringCase start negation = true) (k : FilterKind) (row : Row)
    (key column : String) :
    partTruth k row key column (start ++ literal).toList =
      (partTruth k row key column literal.toList).not := by
  obtain ⟨-, hnegates, hliteral⟩ := h.behind_negation hstart
  have hpositive : negates literal.toList = false := h.positive
  rw [partTruth, partTruth, hnegates, hliteral, hpositive, h.literalOf_eq]
  rfl

end Alternative

/-- **Negated filter values.** An alternative that does not begin with `not_` is read exactly where
    it is read behind `not_`, in any ASCII case, and has the same error otherwise.  Of every kind of
    filter, on every column and on every row, the predicate of the one has the opposite truth of the
    predicate of the other, and both are unknown together. -/
theorem FieldFilter.truth_negated {start literal : String}
    (hstart : Text.sameIgnoringCase start "not_" = true) (hliteral : Alternative.IsLiteral literal)
    (k : FilterKind) (key : String) :
    ((∃ o, read k key (some (start ++ literal)) = .ok o) ↔
      ∃ o, read k key (some literal) = .ok o) ∧
    (∀ e, read k key (some (start ++ literal)) = .error e ↔
      read k key (some literal) = .error e) ∧
    ∀ o, read k key (some literal) = .ok o →
      ∃ f g, o = some f ∧ read k key (some (start ++ literal)) = .ok (some g) ∧
        ∀ column, ∃ p q, f.predicate column = .ok p ∧ g.predicate column = .ok q ∧
          ∀ row, q.truth row = (p.truth row).not := by
  obtain ⟨hparts, -, hliteralOf⟩ := hliteral.behind_negation hstart
  -- the error of a part is that of its literal, which the two have in common
  have hrefuses (e : FilterError) :
      k.Refuses key (start ++ literal).toList e ↔ k.Refuses key literal.toList e := by
    rw [FilterKind.Refuses, FilterKind.Refuses, hliteralOf, hliteral.literalOf_eq]
  have herror (e : FilterError) : read k key (some (start ++ literal)) = .error e ↔
      read k key (some literal) = .error e := by
    rw [read_single_eq_error_iff hparts, read_single_eq_error_iff hliteral.parts_eq, hrefuses]
  refine ⟨exists_ok_congr herror, herror, fun o ho => ?_⟩
  have haccepts (e : FilterError) : ¬k.Refuses key literal.toList e := by
    rw [← read_single_eq_error_iff hliteral.parts_eq, ho]
    intro h
    cases h
  obtain ⟨f, hf, hp⟩ := exists_read_single hliteral.parts_eq haccepts
  obtain ⟨g, hg, hq⟩ := exists_read_single hparts fun e => mt (hrefuses e).mp (haccepts e)
  rw [hf] at ho
  refine ⟨f, g, (Except.ok.inj ho).symm, hg, fun column => ?_⟩
  obtain ⟨p, hp⟩ := hp column
  obtain ⟨q, hq⟩ := hq column
  refine ⟨p, q, hp, hq, fun row => ?_⟩
  rw [truth_single hparts hg hq row, truth_single hliteral.parts_eq hf hp row,
    hliteral.partTruth_negation hstart]

/-- A range holds of a timestamp within it and not behind a negation; of an absent one both are
    unknown. -/
theorem FieldFilter.truth_negated_range :
    let within : Row := ⟨fun _ => .text "2024-01-15 00:00:00", fun _ => .text⟩
    let absent : Row := ⟨fun _ => .null, fun _ => .text⟩
    ∃ f g p q, read .date "date" (some "2024-01-01Bt2024-02-01") = .ok (some f) ∧
      read .date "date" (some ("nOT_" ++ "2024-01-01Bt2024-02-01")) = .ok (some g) ∧
      f.predicate "insert_date" = .ok p ∧ g.predicate "insert_date" = .ok q ∧
      (p.truth within = .yes ∧ q.truth within = .no) ∧
      p.truth absent = .unknown ∧ q.truth absent = .unknown := by
  intro within absent
  have hstart : Text.sameIgnoringCase "nOT_" "not_" = true := by decide
  have hliteral : Alternative.IsLiteral "2024-01-01Bt2024-02-01" := by decide
  obtain ⟨-, -, hread⟩ := truth_negated hstart hliteral .date "date"
  obtain ⟨f, g, hf, hg, hpredicates⟩ := hread _ rfl
  obtain rfl := Option.some.inj hf
  obtain ⟨p, q, hp, hq, htruth⟩ := hpredicates "insert_date"
  refine ⟨_, g, p, q, rfl, hg, hp, hq, ?_⟩
  rw [htruth, htruth]
  obtain rfl := Except.ok.inj hp
  decide

end FilterQuery
