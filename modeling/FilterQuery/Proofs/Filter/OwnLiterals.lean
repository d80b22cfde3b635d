import FilterQuery.Proofs.Calendar.RoundTrip
import FilterQuery.Proofs.Filter.Encoding
import FilterQuery.Proofs.Filter.Meaning
import FilterQuery.Proofs.Filter.Refusal
import FilterQuery.Proofs.Identifier.RoundTrip
import Mathlib.Data.String.Basic

namespace FilterQuery

/-!
# Literals that find what they say

The text of a value is a filter value of one part.  It is read as the value, and a column that
holds the value compares as equal with it.

* `Alternative.IsLiteral` — a text that stands for itself as a filter value;
* `FieldFilter.read_of_isLiteral` — it is read as what its literal is read as;
* `FilterKind.Finds` — a filter value of one part that is true of a column;
* `FilterKind.finds_text`, `FilterKind.finds_timestamp` and others — each kind of filter finds the
  texts of its values.
-/

/-! ### Values of one part -/

namespace Alternative

/-- A text that stands for itself as a filter value: it is not empty, and nothing in it is read
    as a sign. -/
structure IsLiteral (raw : String) : Prop where
  nonempty : raw ≠ ""
  whole : '|' ∉ raw.toList
  positive : Text.beginsWith "not_" raw.toList = false

instance (raw : String) : Decidable (IsLiteral raw) :=
  decidable_of_iff (raw ≠ "" ∧ '|' ∉ raw.toList ∧ Text.beginsWith "not_" raw.toList = false)
    ⟨fun ⟨hne, hwhole, hpositive⟩ => ⟨hne, hwhole, hpositive⟩,
      fun ⟨hne, hwhole, hpositive⟩ => ⟨hne, hwhole, hpositive⟩⟩

/-- A text that stands for itself is its only part. -/
theorem IsLiteral.parts_eq {raw : String} (h : IsLiteral raw) : parts raw = [raw.toList] :=
  parts_of_whole h.nonempty h.whole

theorem IsLiteral.literalOf_eq {raw : String} (h : IsLiteral raw) :
    literalOf raw.toList = raw := by
  have hnegates : negates raw.toList = false := h.positive
  rw [literalOf, hnegates, if_neg Bool.false_ne_true, String.ofList_toList]

/-- A text without separators that begins with another character than `n` is neither negated nor
    `null`. -/
theorem isLiteral_of_head {raw : String} {c : Char} {cs : List Char} (hraw : raw.toList = c :: cs)
    (hc : c.toLower ≠ 'n') (hwhole : '|' ∉ raw.toList) :
    IsLiteral raw ∧ isNullLiteral raw = false := by
  refine ⟨⟨?_, hwhole, ?_⟩, ?_⟩
  · rintro rfl
    cases hraw
  · rw [hraw, Text.beginsWith, beq_eq_false_iff_ne]
    exact fun heq => hc (List.cons.inj heq).1
  · rw [isNullLiteral, Text.sameIgnoringCase, hraw, beq_eq_false_iff_ne]
    exact fun heq => hc (List.cons.inj heq).1

/-- A text without `n` and separators is neither negated nor `null`. -/
theorem isLiteral_of_forall {raw : String} (hne : raw ≠ "")
    (h : ∀ c ∈ raw.toList, c.toLower ≠ 'n' ∧ c ≠ '|') :
    IsLiteral raw ∧ isNullLiteral raw = false := by
  obtain ⟨c, cs, hraw⟩ : ∃ c cs, raw.toList = c :: cs :=
    List.exists_cons_of_ne_nil fun hnil => hne (String.toList_eq_nil_iff.mp hnil)
  exact isLiteral_of_head hraw (h c (hraw ▸ List.mem_cons_self)).1 fun hmem => (h _ hmem).2 rfl

/-- A text of digits and signs is neither negated nor `null`. -/
theorem isLiteral_of_not_isAlpha {raw : String} (hne : raw ≠ "")
    (h : ∀ c ∈ raw.toList, c.isAlpha = false ∧ c ≠ '|') :
    IsLiteral raw ∧ isNullLiteral raw = false := by
  apply isLiteral_of_forall hne
  intro c hc
  obtain ⟨hletter, hwhole⟩ := h c hc
  refine ⟨?_, hwhole⟩
  rw [Text.toLower_of_not_isAlpha hletter]
  rintro rfl
  cases hletter

end Alternative

/-- No identifier begins as `not_` or `null` do. -/
theorem Uuid.isLiteral_text (u : Uuid) :
    Alternative.IsLiteral u.text ∧ Alternative.isNullLiteral u.text = false := by
  have hall : "-0123456789abcdef".toList.all (fun c => c.toLower != 'n' && c != '|') = true := by
    decide
  apply Alternative.isLiteral_of_forall
  · intro hempty
    have hread := u.readHyphenated_text
    rw [hempty] at hread
    cases hread
  · rw [text, String.toList_ofList]
    intro c hc
    simpa using List.all_eq_true.mp hall c (mem_chars hc)

/-- No number has a letter in its text. -/
theorem isLiteral_toString_int (n : Int) :
    Alternative.IsLiteral (toString n) ∧ Alternative.isNullLiteral (toString n) = false := by
  apply Alternative.isLiteral_of_not_isAlpha (toString_int_ne_empty n)
  intro c hc
  obtain rfl | hdigit := mem_toString_int hc
  · decide
  · exact ⟨Text.isAlpha_of_isDigit hdigit, ne_of_isDigit hdigit rfl⟩

/-- A filter value that stands for itself is read as what its literal is read as. -/
theorem FieldFilter.read_of_isLiteral {k : FilterKind} {key raw : String} {op : Operator}
    {x : k.Operand} (hliteral : Alternative.IsLiteral raw)
    (hnull : Alternative.isNullLiteral raw = false)
    (hread : k.readLiteral key raw = .ok (op, x)) :
    read k key (some raw) = .ok (some ⟨k, key, [⟨op, false, some x⟩]⟩) := by
  have hnegates : Alternative.negates raw.toList = false := hliteral.positive
  have hpart : Parsed.IsOf k key raw.toList ⟨op, false, some x⟩ := by
    rw [Parsed.isOf_iff, hliteral.literalOf_eq, hnegates]
    exact .inr ⟨hnull, op, x, hread, rfl⟩
  rw [read_eq_ok_some_iff, ← Alternative.parts_ne_nil_iff, hliteral.parts_eq]
  exact ⟨List.cons_ne_nil _ _, _, rfl, .cons hpart .nil⟩

/-! ### Columns -/

section Own

variable {row : Row} {e : Expr} {v : Value}

/-- A text is equal to itself, unless the column prefers numbers. -/
theorem Expr.holds_own_text {s : String} (hcell : e.cell row = .text s) (hv : v.cell = .text s)
    (haffinity : e.affinity row ≠ .numeric) : e.holds row Ordering.isEq v = .yes := by
  rw [holds_text hcell hv haffinity, compare_eq_iff_eq.mpr rfl]
  rfl

/-- An integer is equal to itself, unless the column prefers texts. -/
theorem Expr.holds_own_integer {n : Int} (hcell : e.cell row = .integer n)
    (hv : v.cell = .integer n) (haffinity : e.affinity row ≠ .text) :
    e.holds row Ordering.isEq v = .yes := by
  rw [holds_integer hcell hv haffinity, compare_eq_iff_eq.mpr rfl]
  rfl

end Own

/-- A filter value of one part that a kind of filter reads, and that is true of a column. -/
structure FilterKind.Finds (k : FilterKind) (row : Row) (key column raw : String) : Prop where
  literal : Alternative.IsLiteral raw
  found : (Alternative.isNullLiteral raw = true ∧ row.cell column = .null) ∨
    (Alternative.isNullLiteral raw = false ∧ (∃ x, k.readLiteral key raw = .ok x) ∧
      k.literalTruth row key column raw = .yes)

namespace FilterKind

variable {k : FilterKind} {row : Row} {key column : String}

/-- Every kind of filter finds an absent value under `null`. -/
theorem finds_null (hcell : row.cell column = .null) : k.Finds row key column "null" :=
  ⟨⟨by decide, by decide, by decide⟩, .inl ⟨by decide, hcell⟩⟩

theorem finds_text {s : String} (hliteral : Alternative.IsLiteral s)
    (hnull : Alternative.isNullLiteral s = false)
    (hlike : Text.beginsWith "lk_" s.toList = false) (hcell : row.cell column = .text s) :
    text.Finds row key column s := by
  refine ⟨hliteral, .inr ⟨hnull, ⟨_, rfl⟩, ?_⟩⟩
  have hupper : (Expr.upper (.column column)).cell row = (Value.text (Text.upper s)).cell := by
    rw [Expr.cell, Expr.cell, hcell]
    rfl
  rw [literalTruth, hlike, if_neg Bool.false_ne_true]
  exact Expr.holds_own_text hupper rfl (show Affinity.none ≠ .numeric by decide)

theorem finds_token {s : String} (hliteral : Alternative.IsLiteral s)
    (hnull : Alternative.isNullLiteral s = false) (hcell : row.cell column = .text s)
    (haffinity : row.affinity column ≠ .numeric) : token.Finds row key column s := by
  refine ⟨hliteral, .inr ⟨hnull, ⟨_, rfl⟩, ?_⟩⟩
  exact Expr.holds_own_text hcell rfl haffinity

/-- A member of an enumeration is found under its name, whether the enumeration is filtered
    strictly or not. -/
theorem finds_member {e : Enumeration} {name : String} (hmember : name ∈ e.names)
    (hliteral : Alternative.IsLiteral name) (hnull : Alternative.isNullLiteral name = false)
    (hcell : row.cell column = .text name) (haffinity : row.affinity column ≠ .numeric) :
    (strict e).Finds row key column name ∧ enumeration.Finds row key column name := by
  constructor
  · have hread : (strict e).readLiteral key name = .ok (.equals, name) := by
      rw [readLiteral, Enumeration.read, if_pos hmember]
      rfl
    refine ⟨hliteral, .inr ⟨hnull, ⟨_, hread⟩, ?_⟩⟩
    exact Expr.holds_own_text hcell rfl haffinity
  · refine ⟨hliteral, .inr ⟨hnull, ⟨_, rfl⟩, ?_⟩⟩
    have htext : (Expr.asText (.column column)).cell row = (Value.text name).cell := by
      rw [Expr.cell, Expr.cell, hcell]
      rfl
    exact Expr.holds_own_text htext rfl (show Affinity.text ≠ .numeric by decide)

theorem finds_identifier {u : Uuid} (hcell : row.cell column = .text u.text)
    (haffinity : row.affinity column ≠ .numeric) : identifier.Finds row key column u.text := by
  obtain ⟨hliteral, hnull⟩ := u.isLiteral_text
  have hread := u.readHyphenated_text
  refine ⟨hliteral, .inr ⟨hnull, ⟨(.equals, u), by rw [readLiteral, hread]⟩, ?_⟩⟩
  rw [literalTruth, hread]
  exact Expr.holds_own_text hcell rfl haffinity

theorem finds_timestamp {t : Timestamp} (hcell : row.cell column = .text t.text)
    (haffinity : row.affinity column ≠ .numeric) : date.Finds row key column t.text := by
  have hchars : ∀ c ∈ t.text.toList, c.isAlpha = false ∧ c ≠ '|' := by
    have hall : ['-', '+', ':', ' '].all (fun c => !c.isAlpha && c != '|') = true := by decide
    rw [Timestamp.text, String.toList_ofList]
    intro c hc
    obtain hsign | hdigit := Timestamp.mem_chars hc
    · simpa using List.all_eq_true.mp hall c hsign
    · exact ⟨Text.isAlpha_of_isDigit hdigit, ne_of_isDigit hdigit rfl⟩
  have hne : t.text ≠ "" := by
    intro hempty
    have hread := t.read_text
    rw [hempty] at hread
    cases hread
  obtain ⟨hliteral, hnull⟩ := Alternative.isLiteral_of_not_isAlpha hne hchars
  -- without letters there is no operator, so the literal is one date
  have hread : DateOperand.read key t.text = .ok (.equals, .at t.shownSecond) := by
    rw [DateOperand.read, DateShape.ofLiteral_of_not_isAlpha fun c hc => (hchars c hc).1,
      DateOperand.ofShape, DateOperand.readDate, String.ofList_toList, Timestamp.read_text]
    rfl
  refine ⟨hliteral, .inr ⟨hnull, ⟨_, hread⟩, ?_⟩⟩
  rw [literalTruth, hread]
  have hcell' : (Expr.column column).cell row = (Value.timestamp t.shownSecond).cell := by
    rw [Expr.cell, hcell, Value.cell, Timestamp.text_shownSecond]
  exact Expr.holds_own_text hcell' rfl haffinity

theorem finds_integer {n : Int} (hbounds : Bounds.signed64.Contains n)
    (hcell : row.cell column = .integer n) (haffinity : row.affinity column ≠ .text) :
    number.Finds row key column (toString n) := by
  obtain ⟨hliteral, hnull⟩ := isLiteral_toString_int n
  have hread := Bounds.read_toString hbounds
  refine ⟨hliteral, .inr ⟨hnull, ⟨(.equals, n), by rw [readLiteral, hread]⟩, ?_⟩⟩
  rw [literalTruth, hread]
  exact Expr.holds_own_integer hcell rfl haffinity

theorem finds_boolean {b : Bool} (hcell : row.cell column = (Value.boolean b).cell)
    (haffinity : row.affinity column ≠ .text) : boolean.Finds row key column (toString b) := by
  have hliteral : Alternative.IsLiteral (toString b) ∧
      Alternative.isNullLiteral (toString b) = false := by
    cases b <;> exact ⟨⟨by decide, by decide, by decide⟩, by decide⟩
  have hread : Text.sameIgnoringCase (toString b) "true" = b := by cases b <;> decide
  refine ⟨hliteral.1, .inr ⟨hliteral.2, ⟨_, rfl⟩, ?_⟩⟩
  rw [literalTruth, hread]
  exact Expr.holds_own_integer hcell rfl haffinity

end FilterKind

end FilterQuery
