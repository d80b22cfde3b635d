import FilterQuery.Proofs.Sql.Connectives

namespace FilterQuery

/-!
# Predicates without their values

The text of a predicate shows where values are bound, but not which ones.  So two
predicates have the same text if they are the same but for their values.

* `Predicate.blank` — the predicate with blanks in place of its values;
* `Predicate.text_blank`, `Predicate.isAlways_blank` — what blanks leave as it is;
* `Predicate.blank_allOf`, `Predicate.blank_anyOf` — blanks in the operands of a
  conjunction or disjunction.
-/

namespace Condition

/-- The condition with blanks in place of its values. -/
def blank : Condition → Condition
  | .compare e op _ => .compare e op .null
  | .like e _ negated => .like e "" negated
  | .isNull e negated => .isNull e negated
  | .member e vs negated => .member e (vs.map fun _ => .null) negated
  | .between e _ _ negated => .between e .null .null negated

theorem text_blank (c : Condition) : c.blank.text = c.text := by
  cases c with
  | member e vs negated =>
    -- as many placeholders as values
    have hempty : (vs.map fun _ => Value.null).isEmpty = vs.isEmpty := by cases vs <;> rfl
    have hmarks : ((vs.map fun _ => Value.null).map fun _ => "?") = vs.map fun _ => "?" := by
      rw [List.map_map]
      rfl
    rw [blank, text, text, hempty, hmarks]
  | _ => rfl

end Condition

namespace Predicate

mutual

/-- The predicate with blanks in place of its values. -/
def blank : Predicate → Predicate
  | .always => .always
  | .test c => .test c.blank
  | .all ps => .all (blankList ps)
  | .any ps => .any (blankList ps)
  | .negate p => .negate p.blank

/-- Several predicates with blanks in place of their values. -/
def blankList : List Predicate → List Predicate
  | [] => []
  | p :: ps => p.blank :: blankList ps

end

theorem blankList_eq_map (ps : List Predicate) : blankList ps = ps.map blank := by
  induction ps with
  | nil => rfl
  | cons p ps ih => rw [blankList, ih, List.map_cons]

/-! ### Texts -/

theorem isAlways_blank (p : Predicate) : p.blank.isAlways = p.isAlways := by
  cases p <;> rfl

theorem isJoined_blank (p : Predicate) : p.blank.isJoined = p.isJoined := by
  cases p <;> rfl

/-- The texts of operands with blanks. -/
theorem groupTexts_blankList {ps : List Predicate} (h : ∀ p ∈ ps, p.blank.text = p.text) :
    groupTexts (blankList ps) = groupTexts ps := by
  induction ps with
  | nil => rfl
  | cons p ps ih =>
    have hfirst : p.blank.text = p.text := h p List.mem_cons_self
    have hrest := ih fun q hq => h q (List.mem_cons_of_mem _ hq)
    rw [blankList, groupTexts, groupTexts, hrest, groupText, isJoined_blank, hfirst, groupText]

/-- A predicate with blanks has the text of the predicate. -/
theorem text_blank (p : Predicate) : p.blank.text = p.text := by
  induction p using Predicate.induction with
  | always => rfl
  | test c => exact c.text_blank
  | all ps ih =>
    have hempty : (blankList ps).isEmpty = ps.isEmpty := by cases ps <;> rfl
    rw [blank, text, text, hempty, groupTexts_blankList ih]
  | any ps ih =>
    have hempty : (blankList ps).isEmpty = ps.isEmpty := by cases ps <;> rfl
    rw [blank, text, text, hempty, groupTexts_blankList ih]
  | negate p ih => rw [blank, text, text, ih]

/-- Predicates that only differ in their values have the same text. -/
theorem text_eq_of_blank_eq {p q : Predicate} (h : p.blank = q.blank) : p.text = q.text := by
  rw [← text_blank p, h, text_blank q]

theorem isAlways_eq_of_blank_eq {p q : Predicate} (h : p.blank = q.blank) :
    p.isAlways = q.isAlways := by
  rw [← isAlways_blank p, h, isAlways_blank q]

/-! ### Connectives -/

theorem blank_conjuncts (p : Predicate) : p.blank.conjuncts = p.conjuncts.map blank := by
  cases p with
  | all ps => exact blankList_eq_map ps
  | _ => rfl

theorem blank_disjuncts (p : Predicate) : p.blank.disjuncts = p.disjuncts.map blank := by
  cases p with
  | any ps => exact blankList_eq_map ps
  | _ => rfl

/-- The operands that a conjunction takes from operands with blanks. -/
theorem blank_allOf (ps : List Predicate) : (allOf ps).blank = allOf (ps.map blank) := by
  have hflat : (ps.map blank).flatMap conjuncts = (ps.flatMap conjuncts).map blank := by
    rw [List.flatMap_map, List.map_flatMap]
    simp only [blank_conjuncts]
  unfold allOf
  rw [hflat]
  cases ps.flatMap conjuncts with
  | nil => rfl
  | cons p qs =>
    cases qs with
    | nil => rfl
    | cons q qs =>
      rw [blank, blankList_eq_map]
      rfl

/-- The operands that a disjunction takes from operands with blanks. -/
theorem blank_anyOf (ps : List Predicate) : (anyOf ps).blank = anyOf (ps.map blank) := by
  have hflat : (ps.map blank).flatMap disjuncts = (ps.flatMap disjuncts).map blank := by
    rw [List.flatMap_map, List.map_flatMap]
    simp only [blank_disjuncts]
  have hany : ((ps.flatMap disjuncts).map blank).any isAlways =
      (ps.flatMap disjuncts).any isAlways := by
    rw [List.any_map]
    congr 1
    funext p
    exact isAlways_blank p
  unfold anyOf
  rw [hflat]
  dsimp only
  rw [hany]
  split
  · rfl
  · cases ps.flatMap disjuncts with
    | nil => rfl
    | cons p qs =>
      cases qs with
      | nil => rfl
      | cons q qs =>
        show blank (.any (p :: q :: qs)) = _
        rw [blank, blankList_eq_map]
        rfl

end Predicate

end FilterQuery
