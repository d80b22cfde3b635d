import FilterQuery.Filter.Alternative
import Mathlib.Data.List.DropRight

namespace FilterQuery

/-!
# Parts of filter values

A filter value is read here without its alternatives: it is cut at every separator, the
empty parts at its end are left out, and each remaining part is a literal behind `not_` or
a literal alone.

* `Alternative.parts` — the parts of a value;
* `Alternative.negates` / `Alternative.literalOf` — what a part says;
* `Alternative.split_eq_map_parts` — the alternatives of a value are its parts;
* `Alternative.split_eq_nil_iff` — a value of separators only has no alternatives;
* `Alternative.infix_of_mem_parts` — parts stand in the value as they are.
-/

namespace Text

/-- Whether a text begins with some small letters and signs, in any ASCII case. -/
def beginsWith (start : String) (cs : List Char) : Bool :=
  (cs.take start.toList.length).map Char.toLower == start.toList

/-- A start is dropped exactly where the text begins with it, letter case aside. -/
theorem dropStartChars?_eq (start cs : List Char) :
    dropStartChars? start cs =
      if (cs.take start.length).map Char.toLower = start.map Char.toLower then
        some (cs.drop start.length)
      else none := by
  induction start generalizing cs with
  | nil => simp
  | cons s ss ih =>
    cases cs with
    | nil => simp [dropStartChars?]
    | cons c cs =>
      have hletter : sameLetter s c = true ↔ c.toLower = s.toLower := by
        rw [sameLetter, beq_iff_eq, eq_comm]
      rw [dropStartChars?, ih]
      simp only [List.length_cons, List.take_succ_cons, List.map_cons, List.drop_succ_cons,
        List.cons.injEq, hletter]
      by_cases h : c.toLower = s.toLower
      · simp only [h, true_and, if_true]
      · simp only [h, false_and, if_false]

/-- A start without capital letters is dropped exactly where the text begins with it. -/
theorem dropStart?_eq (start text : String) (h : start.toList.map Char.toLower = start.toList) :
    dropStart? start text =
      if beginsWith start text.toList then
        some (String.ofList (text.toList.drop start.toList.length))
      else none := by
  rw [dropStart?, dropStartChars?_eq, h]
  by_cases hb : (text.toList.take start.toList.length).map Char.toLower = start.toList
  · rw [if_pos hb, if_pos (by rw [beginsWith, hb, beq_self_eq_true]), Option.map_some]
  · rw [if_neg hb, if_neg (by rw [beginsWith, beq_iff_eq]; exact hb), Option.map_none]

end Text

namespace Alternative

/-- The parts of a filter value between separators, without the empty ones at its end. -/
def parts (raw : String) : List (List Char) :=
  (raw.toList.splitOn separator).rdropWhile List.isEmpty

/-- Whether a part is negated: it begins with `not_`, in any ASCII case. -/
def negates (part : List Char) : Bool := Text.beginsWith negation part

/-- The literal of a part: what stands behind a `not_` at its start. -/
def literalOf (part : List Char) : String :=
  String.ofList (if negates part then part.drop 4 else part)

/-- Whether a literal asks for an absent value. -/
def isNullLiteral (literal : String) : Bool := Text.sameIgnoringCase literal "null"

/-! ### Cutting -/

theorem pieces_eq_splitOn (cs : List Char) : pieces cs = cs.splitOn separator := by
  induction cs with
  | nil => rfl
  | cons c cs ih =>
    rw [pieces, List.splitOn, List.splitOnP_cons_eq_if_modifyHead, ← List.splitOn, ← ih]
    by_cases h : c = separator
    · simp [h]
    · cases hp : pieces cs with
      | nil => exact absurd hp (pieces_ne_nil cs)
      | cons p ps => simp [h]

theorem dropTrailingEmpty_concat (ps : List (List Char)) (p : List Char) :
    dropTrailingEmpty (ps ++ [p]) = if p.isEmpty then dropTrailingEmpty ps else ps ++ [p] := by
  induction ps with
  | nil => simp [dropTrailingEmpty]
  | cons q qs ih =>
    rw [List.cons_append, dropTrailingEmpty, ih]
    by_cases hp : p.isEmpty = true
    · rw [if_pos hp, if_pos hp, dropTrailingEmpty]
    · rw [if_neg hp, if_neg hp]
      split
      · next h => simp at h
      · rfl

theorem dropTrailingEmpty_eq_rdropWhile (ps : List (List Char)) :
    dropTrailingEmpty ps = ps.rdropWhile List.isEmpty := by
  -- by induction from the end, where the parts are dropped
  induction ps using List.reverseRecOn with
  | nil => rfl
  | append_singleton ps p ih => rw [dropTrailingEmpty_concat, List.rdropWhile_concat, ih]

/-! ### Alternatives -/

/-- The alternative of a part is its literal, negated where the part is. -/
theorem ofPiece_eq (part : List Char) :
    ofPiece (String.ofList part) = ofLiteral (negates part) (literalOf part) := by
  rw [ofPiece, Text.dropStart?_eq negation _ (by decide), String.toList_ofList, ← negates]
  by_cases h : negates part = true
  · rw [if_pos h, literalOf, if_pos h, h]
    rfl
  · rw [if_neg h, literalOf, if_neg h, eq_false_of_ne_true h]

/-- The alternatives of a value are its parts, each with its sign and its literal. -/
theorem split_eq_map_parts (raw : String) :
    split (some raw) = (parts raw).map fun part => ofLiteral (negates part) (literalOf part) := by
  rw [split, parts, ← pieces_eq_splitOn, ← dropTrailingEmpty_eq_rdropWhile]
  exact List.map_congr_left fun part _ => ofPiece_eq part

@[simp] theorem negated_ofLiteral (negated : Bool) (literal : String) :
    (ofLiteral negated literal).negated = negated := rfl

@[simp] theorem literal_ofLiteral (negated : Bool) (literal : String) :
    (ofLiteral negated literal).literal = literal := rfl

@[simp] theorem isNull_ofLiteral (negated : Bool) (literal : String) :
    (ofLiteral negated literal).isNull = isNullLiteral literal := by
  rw [isNull, ofLiteral, isNullLiteral]
  split <;> simp_all [Operator.token]

theorem operator_ofLiteral (negated : Bool) (literal : String) :
    (ofLiteral negated literal).operator = if isNullLiteral literal then .null else .equals := rfl

/-- The parts of a text are all empty exactly where it holds separators only. -/
theorem pieces_all_empty_iff (cs : List Char) :
    (∀ p ∈ pieces cs, p.isEmpty = true) ↔ ∀ c ∈ cs, c = separator := by
  induction cs with
  | nil => simp [pieces]
  | cons c cs ih =>
    rw [pieces]
    by_cases h : c = separator
    · rw [if_pos h, List.forall_mem_cons, List.forall_mem_cons, ih]
      simp [h]
    · rw [if_neg h]
      split <;> simp [h]

/-- A value of separators only has no alternatives, and every other value has some. -/
theorem split_eq_nil_iff (raw : String) :
    split (some raw) = [] ↔ ∀ c ∈ raw.toList, c = separator := by
  rw [split, List.map_eq_nil_iff, dropTrailingEmpty_eq_rdropWhile, List.rdropWhile_eq_nil_iff,
    pieces_all_empty_iff]

/-- The first part of a text is a start of it, and the others stand somewhere in it. -/
theorem infix_of_pieces_eq {cs p : List Char} {ps : List (List Char)} (h : pieces cs = p :: ps) :
    p <+: cs ∧ ∀ q ∈ ps, q <:+: cs := by
  induction cs generalizing p ps with
  | nil =>
    obtain ⟨rfl, rfl⟩ := List.cons.inj h
    exact ⟨List.prefix_rfl, fun q hq => absurd hq List.not_mem_nil⟩
  | cons c cs ih =>
    obtain ⟨p', ps', hcs⟩ := List.exists_cons_of_ne_nil (pieces_ne_nil cs)
    obtain ⟨hfirst, hothers⟩ := ih hcs
    have hall : ∀ q ∈ p' :: ps', q <:+: c :: cs := by
      rw [List.forall_mem_cons]
      exact ⟨hfirst.isInfix.trans (List.suffix_cons c cs).isInfix,
        fun q hq => (hothers q hq).trans (List.suffix_cons c cs).isInfix⟩
    rw [pieces, hcs] at h
    split at h
    · obtain ⟨rfl, rfl⟩ := List.cons.inj h
      exact ⟨List.nil_prefix, hall⟩
    · obtain ⟨rfl, rfl⟩ := List.cons.inj h
      exact ⟨List.cons_prefix_cons.mpr ⟨rfl, hfirst⟩,
        fun q hq => hall q (List.mem_cons_of_mem _ hq)⟩

/-- A part of a filter value stands in it as it is. -/
theorem infix_of_mem_parts {raw : String} {part : List Char} (h : part ∈ parts raw) :
    part <:+: raw.toList := by
  have hpart : part ∈ pieces raw.toList := by
    rw [pieces_eq_splitOn]
    exact (List.rdropWhile_prefix _ _).subset h
  obtain ⟨p, ps, hpieces⟩ := List.exists_cons_of_ne_nil (pieces_ne_nil raw.toList)
  obtain ⟨hfirst, hothers⟩ := infix_of_pieces_eq hpieces
  rw [hpieces] at hpart
  obtain rfl | hpart := List.mem_cons.mp hpart
  · exact hfirst.isInfix
  · exact hothers part hpart

/-- The literal of a part stands at its end. -/
theorem literalOf_suffix (part : List Char) : (literalOf part).toList <:+ part := by
  rw [literalOf, String.toList_ofList]
  split
  · exact List.drop_suffix 4 part
  · exact List.suffix_rfl

/-- A value of separators only has no parts. -/
theorem parts_eq_nil_iff (raw : String) :
    parts raw = [] ↔ ∀ c ∈ raw.toList, c = separator := by
  rw [← split_eq_nil_iff, split_eq_map_parts, List.map_eq_nil_iff]

/-- A value with any other character has a part. -/
theorem parts_ne_nil_iff (raw : String) :
    parts raw ≠ [] ↔ ∃ c ∈ raw.toList, c ≠ separator := by
  rw [Ne, parts_eq_nil_iff]
  push Not
  rfl

end Alternative

end FilterQuery
