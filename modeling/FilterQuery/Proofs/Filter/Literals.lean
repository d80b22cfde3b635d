import FilterQuery.Filter.Kind
import FilterQuery.Proofs.Filter.Parts
import FilterQuery.Proofs.Text.LetterCase

namespace FilterQuery

/-!
# Literals of filter values

What each kind of filter reads from a literal:

* `DateShape.ofLiteral_of_not_isAlpha` — a literal without letters is one date;
* `DateOperand.ofShape_at`, `DateOperand.ofShape_range` — a date literal has the timestamps
  of its dates;
* `FilterKind.readText_eq` — a text literal is a pattern where it begins with `lk_`;
* `FilterKind.exists_valuePredicate` — a literal is only read with an operator that the
  kind of filter has, so that its predicate exists;
* `FilterKind.reports_of_readLiteral` — the errors of literals that cannot be read.
-/

/-- The pattern of a client with `%` for `*` and its ASCII letters in upper case. -/
def starPattern (pattern : List Char) : String :=
  String.ofList (pattern.map fun c => if c = '*' then '%' else c.toUpper)

namespace DateShape

theorem splitOperator?_eq_none {cs : List Char} (h : ∀ c ∈ cs, c.isAlpha = false) :
    splitOperator? cs = none := by
  fun_induction splitOperator? cs with
  | case1 a b rest hday => simp [h a List.mem_cons_self] at hday
  | case2 a b rest hday ih =>
    rw [ih fun c hc => h c (List.mem_cons_of_mem a hc)]
    rfl
  | case3 => rfl

theorem mem_of_afterDay? {cs rest : List Char} (h : afterDay? cs = some rest) {c : Char}
    (hc : c ∈ rest) : c ∈ cs := by
  rw [afterDay?.eq_def] at h
  split at h
  · split at h
    · obtain rfl := Option.some.inj h
      simp [hc]
    · cases h
  · cases h

theorem isOpenRange_eq_false {cs : List Char} (h : ∀ c ∈ cs, c.isAlpha = false) :
    isOpenRange cs = false := by
  rw [isOpenRange]
  cases hday : afterDay? cs with
  | none => rfl
  | some rest =>
    have hlast : Text.sameIgnoringCase (String.ofList (rest.drop (rest.length - 2)))
        Operator.between.token = false := by
      rw [Text.sameIgnoringCase, String.toList_ofList, beq_eq_false_iff_ne]
      intro heq
      have hb : 'b' ∈ (rest.drop (rest.length - 2)).map Char.toLower := by
        rw [heq]
        decide
      obtain ⟨c, hc, hlower⟩ := List.mem_map.mp hb
      have hletter := h c (mem_of_afterDay? hday (List.mem_of_mem_drop hc))
      rw [Text.toLower_of_not_isAlpha hletter] at hlower
      subst hlower
      cases hletter
    simp [hlast]

/-- A literal without letters has no operator, so it is one date. -/
theorem ofLiteral_of_not_isAlpha {cs : List Char} (h : ∀ c ∈ cs, c.isAlpha = false) :
    ofLiteral cs = .at .equals cs := by
  rw [ofLiteral, splitOperator?_eq_none h, ofPlain, isOpenRange_eq_false h]
  simp

end DateShape

/-- A date literal of one date is an equality, or one of the two strict comparisons. -/
theorem DateShape.operator_of_ofLiteral {cs date : List Char} {op : Operator}
    (h : ofLiteral cs = .at op date) : op = .equals ∨ op = .inferior ∨ op = .superior := by
  rw [ofLiteral] at h
  split at h
  · cases h; exact .inl rfl
  · split at h
    · next start token last _ =>
      rw [ofSplit.eq_def] at h
      split at h <;> cases h <;> simp
    · rw [ofPlain] at h
      split at h <;> cases h
      exact .inl rfl

namespace DateOperand

theorem read_of_readDate {key literal : String} {date : List Char} {t : Timestamp}
    (h : readDate key literal date = .ok t) : Timestamp.read (String.ofList date) = .ok t := by
  rw [readDate] at h
  cases hread : Timestamp.read (String.ofList date) with
  | error e => simp [hread, Except.mapError] at h
  | ok u =>
    rw [hread] at h
    rw [Except.ok.inj h]

/-- What is read of one date. -/
theorem ofShape_at {key literal : String} {op op' : Operator} {date : List Char}
    {x : DateOperand} (h : ofShape key literal (.at op date) = .ok (op', x)) :
    op' = op ∧ ∃ t, Timestamp.read (String.ofList date) = .ok t ∧ x = .at t := by
  rw [ofShape] at h
  cases hdate : readDate key literal date with
  | error e => simp [hdate, bind, Except.bind] at h
  | ok t =>
    simp only [hdate, bind, Except.bind, pure, Except.pure, Except.ok.injEq, Prod.mk.injEq] at h
    exact ⟨h.1.symm, t, read_of_readDate hdate, h.2.symm⟩

/-- What is read of two dates. -/
theorem ofShape_range {key literal : String} {op : Operator} {first last : List Char}
    {x : DateOperand} (h : ofShape key literal (.range first last) = .ok (op, x)) :
    op = .between ∧ ∃ s t, Timestamp.read (String.ofList first) = .ok s ∧
      Timestamp.read (String.ofList last) = .ok t ∧ x = .range s t := by
  rw [ofShape] at h
  cases hfirst : readDate key literal first with
  | error e => simp [hfirst, bind, Except.bind] at h
  | ok s =>
    cases hlast : readDate key literal last with
    | error e => simp [hfirst, hlast, bind, Except.bind] at h
    | ok t =>
      simp only [hfirst, hlast, bind, Except.bind, pure, Except.pure, Except.ok.injEq,
        Prod.mk.injEq] at h
      exact ⟨h.1.symm, s, t, read_of_readDate hfirst, read_of_readDate hlast, h.2.symm⟩

end DateOperand

namespace FilterKind

theorem likePattern_ofList (pattern : List Char) :
    likePattern (String.ofList pattern) = starPattern pattern := by
  have hstar (c : Char) :
      (if c = '*' then '%' else c).toUpper = if c = '*' then '%' else c.toUpper := by
    split <;> rfl
  apply String.toList_injective
  simp [likePattern, starPattern, Text.upper, hstar]

/-- A text literal is a pattern where it begins with `lk_`. -/
theorem readText_eq (literal : String) :
    readText literal =
      if Text.beginsWith "lk_" literal.toList then
        (.like, starPattern (literal.toList.drop 3))
      else (.equals, Text.upper literal) := by
  rw [readText, Operator.likePattern?, Operator.token, Text.dropStart?_eq _ _ (by decide)]
  by_cases h : Text.beginsWith "lk_" literal.toList = true
  · rw [if_pos h, if_pos h]
    exact congrArg _ (likePattern_ofList _)
  · rw [if_neg h, if_neg h]

/-- An operator that was read with a value is one that the kind of filter has. -/
theorem exists_valuePredicate {k : FilterKind} {key literal : String} {op : Operator}
    {v : k.Operand} (hread : k.readLiteral key literal = .ok (op, v)) (e : Expr)
    (negated : Bool) : ∃ q, k.valuePredicate e op negated v = .ok q := by
  cases k with
  | text =>
    rw [readLiteral, readText_eq] at hread
    split at hread <;> obtain ⟨rfl, rfl⟩ := hread <;> exact ⟨_, rfl⟩
  | number =>
    rw [readLiteral] at hread
    split at hread <;> cases hread
    exact ⟨_, rfl⟩
  | boolean | token | enumeration => cases hread; exact ⟨_, rfl⟩
  | date =>
    rw [readLiteral, DateOperand.read] at hread
    cases hshape : DateShape.ofLiteral literal.toList with
    | «at» op' date =>
      rw [hshape] at hread
      obtain ⟨rfl, t, -, rfl⟩ := DateOperand.ofShape_at hread
      obtain rfl | rfl | rfl := DateShape.operator_of_ofLiteral hshape <;> exact ⟨_, rfl⟩
    | range first last =>
      rw [hshape] at hread
      obtain ⟨rfl, a, b, -, -, rfl⟩ := DateOperand.ofShape_range hread
      exact ⟨_, rfl⟩
    | missingBound => rw [hshape] at hread; cases hread
    | wrongOperator => rw [hshape] at hread; cases hread
  | identifier =>
    rw [readLiteral] at hread
    split at hread <;> cases hread
    exact ⟨_, rfl⟩
  | strict en =>
    rw [readLiteral, Enumeration.read] at hread
    split at hread <;> cases hread
    exact ⟨_, rfl⟩

/-- No kind of filter compares a value for absence. -/
theorem ne_null_of_readLiteral {k : FilterKind} {key literal : String} {op : Operator}
    {v : k.Operand} (hread : k.readLiteral key literal = .ok (op, v)) : op ≠ .null := by
  rintro rfl
  obtain ⟨q, hq⟩ := exists_valuePredicate hread (.column "") false
  cases k <;> cases hq

end FilterKind

/-! ### Errors -/

/-- The errors that a category has for a literal of a field.  Texts, tokens, truth values and
    members of enumerations that are not read strictly have none. -/
def Category.Reports (key literal : String) (e : FilterError) : Category → Prop
  | .number => ∃ cause, e = .wrongValue key "number" literal (some (.integer cause))
  | .identifier => ∃ cause, e = .wrongValue key "identifier" literal (some (.identifier cause))
  | .date =>
    (∃ cause, e = .wrongValue key "date" literal (some (.timestamp cause))) ∨
      e = .emptyValue key "date" literal ∨ e = .wrongOperator key literal
  | .text | .boolean | .token | .enumeration => False

/-- The errors that a kind of filter has for a literal of a field. -/
def FilterKind.Reports (key literal : String) (e : FilterError) : FilterKind → Prop
  | .strict en => e = .invalidMember key en.typeName literal
  | k => k.category.Reports key literal e

/-- A date literal is refused as a whole, whichever of its dates cannot be read. -/
theorem DateOperand.reports_of_read {key literal : String} {e : FilterError}
    (h : read key literal = .error e) : Category.date.Reports key literal e := by
  have hdate {date : List Char} {e : FilterError} (h : readDate key literal date = .error e) :
      ∃ cause, e = .wrongValue key "date" literal (some (.timestamp cause)) := by
    unfold readDate at h
    cases hread : Timestamp.read (String.ofList date) with
    | error cause =>
      rw [hread] at h
      exact ⟨cause, (Except.error.inj h).symm⟩
    | ok t => simp [hread, Except.mapError] at h
  rw [read] at h
  cases hshape : DateShape.ofLiteral literal.toList with
  | «at» op date =>
    rw [hshape, ofShape] at h
    cases hread : readDate key literal date with
    | error e' =>
      rw [hread] at h
      obtain rfl := Except.error.inj h
      exact .inl (hdate hread)
    | ok t => simp [hread, bind, Except.bind, pure, Except.pure] at h
  | range first last =>
    rw [hshape, ofShape] at h
    cases hfirst : readDate key literal first with
    | error e' =>
      rw [hfirst] at h
      obtain rfl := Except.error.inj h
      exact .inl (hdate hfirst)
    | ok a =>
      cases hlast : readDate key literal last with
      | error e' =>
        rw [hfirst, hlast] at h
        obtain rfl := Except.error.inj h
        exact .inl (hdate hlast)
      | ok b => simp [hfirst, hlast, bind, Except.bind, pure, Except.pure] at h
  | missingBound =>
    rw [hshape] at h
    exact .inr (.inl (Except.error.inj h).symm)
  | wrongOperator =>
    rw [hshape] at h
    exact .inr (.inr (Except.error.inj h).symm)

/-- A literal that cannot be read has one of the errors of the kind of filter. -/
theorem FilterKind.reports_of_readLiteral {k : FilterKind} {key literal : String}
    {e : FilterError} (h : k.readLiteral key literal = .error e) : k.Reports key literal e := by
  cases k with
  | text | boolean | token | enumeration => cases h
  | number =>
    rw [readLiteral] at h
    split at h <;> cases h
    exact ⟨_, rfl⟩
  | date => exact DateOperand.reports_of_read h
  | identifier =>
    rw [readLiteral] at h
    split at h <;> cases h
    exact ⟨_, rfl⟩
  | strict en =>
    rw [readLiteral, Enumeration.read] at h
    split at h <;> cases h
    rfl

/-- An error of a kind of filter names the field and shows the literal. -/
theorem FilterKind.Reports.field?_value? {k : FilterKind} {key literal : String}
    {e : FilterError} (h : k.Reports key literal e) :
    e.field? = some key ∧ e.value? = some literal := by
  cases k with
  | text | boolean | token | enumeration => cases h
  | number | identifier =>
    obtain ⟨cause, rfl⟩ := h
    exact ⟨rfl, rfl⟩
  | date =>
    obtain ⟨cause, rfl⟩ | rfl | rfl := h
    all_goals exact ⟨rfl, rfl⟩
  | strict en =>
    obtain rfl := h
    exact ⟨rfl, rfl⟩

end FilterQuery
