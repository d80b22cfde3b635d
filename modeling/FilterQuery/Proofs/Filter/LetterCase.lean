import FilterQuery.Proofs.Filter.Meaning
import FilterQuery.Proofs.Filter.Refusal

namespace FilterQuery

/-!
# Letter case in filter values

The signs of a filter value, `not_`, `null` and `lk_`, are read in any ASCII case, and a value is
cut at a character that is no letter.  So the parts of a value in lower case are its parts in
lower case, and say the same; what becomes of their literals is up to the kind of filter.

* `Alternative.parts_lower`, `Alternative.literalOf_lower` — cutting and lower case;
* `FilterKind.IgnoresCase` — a kind of filter that reads its literals in any ASCII case;
* `FieldFilter.read_eq_ok_congr` — it reads whole values so;
* `FieldFilter.text_ignoresCase` — for texts this holds of the filter values and of the rows.
-/

/-! ### Parts -/

/-- A text is found at the start in any case. -/
theorem Text.beginsWith_lower (start : String) (cs : List Char) :
    beginsWith start (cs.map Char.toLower) = beginsWith start cs := by
  rw [beginsWith, beginsWith, ← List.map_take, map_toLower_map_toLower]

namespace Alternative

/-- A text is cut at the same places in lower case. -/
theorem pieces_lower (cs : List Char) :
    pieces (cs.map Char.toLower) = (pieces cs).map (List.map Char.toLower) := by
  -- a separator begins a piece, and any other character joins the first one behind it
  induction cs with
  | nil => rfl
  | cons c cs ih =>
    rw [List.map_cons, pieces, pieces, ih]
    have hlower : c.toLower = separator ↔ c = separator := Text.toLower_eq_iff (by decide)
    by_cases hc : c = separator
    · rw [if_pos hc, if_pos (hlower.mpr hc)]
      rfl
    · rw [if_neg hc, if_neg (mt hlower.mp hc)]
      cases hps : pieces cs with
      | nil => exact absurd hps (pieces_ne_nil cs)
      | cons p ps => rfl

/-- The parts of a filter value in lower case are its parts in lower case. -/
theorem parts_lower (raw : String) :
    parts (Text.lower raw) = (parts raw).map (List.map Char.toLower) := by
  have hempty : List.isEmpty ∘ List.map Char.toLower = List.isEmpty := by
    funext p
    cases p <;> rfl
  rw [parts, parts, ← pieces_eq_splitOn, ← pieces_eq_splitOn, Text.toList_lower, pieces_lower,
    List.rdropWhile, List.rdropWhile, ← List.map_reverse, List.dropWhile_map, hempty,
    List.map_reverse]

variable (part : List Char)

theorem negates_lower : negates (part.map Char.toLower) = negates part :=
  Text.beginsWith_lower negation part

theorem literalOf_lower : literalOf (part.map Char.toLower) = Text.lower (literalOf part) := by
  apply String.toList_injective
  rw [literalOf, negates_lower, Text.toList_lower, literalOf, String.toList_ofList,
    String.toList_ofList]
  split
  · exact List.map_drop.symm
  · rfl

theorem isNullLiteral_lower (literal : String) :
    isNullLiteral (Text.lower literal) = isNullLiteral literal := by
  rw [isNullLiteral, Text.sameIgnoringCase, Text.toList_lower, Text.map_toLower_map_toLower]
  rfl

end Alternative

/-! ### Filter values -/

/-- Whether a kind of filter reads the literals of a field in any ASCII case. -/
def FilterKind.IgnoresCase (k : FilterKind) (key : String) : Prop :=
  ∀ literal x, k.readLiteral key (Text.lower literal) = .ok x ↔ k.readLiteral key literal = .ok x

section Values

variable {k : FilterKind} {key raw raw' : String}

theorem Parsed.isOf_lower_iff (h : k.IgnoresCase key) {part : List Char}
    {v : Parsed k.Operand} : IsOf k key (part.map Char.toLower) v ↔ IsOf k key part v := by
  rw [isOf_iff, isOf_iff, Alternative.negates_lower, Alternative.literalOf_lower,
    Alternative.isNullLiteral_lower]
  simp only [h (Alternative.literalOf part)]

namespace FieldFilter

/-- A filter value is read in lower case as it is read itself. -/
theorem read_lower_eq_ok_iff (h : k.IgnoresCase key) {o : Option FieldFilter} :
    read k key (some (Text.lower raw)) = .ok o ↔ read k key (some raw) = .ok o := by
  cases o with
  | none =>
    rw [read_eq_ok_none_iff, read_eq_ok_none_iff, ← Alternative.parts_eq_nil_iff,
      ← Alternative.parts_eq_nil_iff, Alternative.parts_lower, List.map_eq_nil_iff]
  | some f =>
    -- a value beside each part is one beside each part in lower case
    rw [read_eq_ok_some_iff, read_eq_ok_some_iff, ← Alternative.parts_ne_nil_iff,
      ← Alternative.parts_ne_nil_iff, Alternative.parts_lower, Ne, List.map_eq_nil_iff]
    simp only [List.forall₂_map_left_iff, Parsed.isOf_lower_iff h]

/-- Filter values that differ only in the case of ASCII letters are read as the same. -/
theorem read_eq_ok_congr (h : k.IgnoresCase key) (hsame : Text.sameIgnoringCase raw raw' = true)
    {o : Option FieldFilter} :
    read k key (some raw) = .ok o ↔ read k key (some raw') = .ok o := by
  rw [← read_lower_eq_ok_iff h, Text.sameIgnoringCase_iff_lower.mp hsame, read_lower_eq_ok_iff h]

end FieldFilter

end Values

/-! ### Texts -/

/-- A pattern hides the letter case that its client has written. -/
theorem starPattern_lower (cs : List Char) :
    starPattern (cs.map Char.toLower) = starPattern cs := by
  have hchar (c : Char) : (if c.toLower = '*' then '%' else c.toLower.toUpper) =
      if c = '*' then '%' else c.toUpper := by
    have hstar : c.toLower = '*' ↔ c = '*' := Text.toLower_eq_iff (by decide)
    rw [Text.toUpper_toLower]
    exact if_congr hstar rfl rfl
  rw [starPattern, starPattern, List.map_map]
  exact congrArg String.ofList (List.map_congr_left fun c _ => hchar c)

theorem FilterKind.ignoresCase_text (key : String) : text.IgnoresCase key := by
  have hread (literal : String) : readText (Text.lower literal) = readText literal := by
    rw [readText_eq, readText_eq, Text.toList_lower, Text.beginsWith_lower, ← List.map_drop,
      starPattern_lower, Text.upper_lower]
  intro literal x
  rw [readLiteral, readLiteral, hread]

/-- A text filter reads every filter value. -/
theorem FieldFilter.exists_read_text (key raw : String) :
    ∃ o, read .text key (some raw) = .ok o := by
  cases h : read .text key (some raw) with
  | ok o => exact ⟨o, rfl⟩
  | error e =>
    obtain ⟨part, -, -, hread⟩ := read_eq_error_iff.mp h
    cases hread

namespace Cell

theorem toUpper_eq_null_iff {c : Cell} : c.toUpper = .null ↔ c = .null := by
  cases c <;> simp [toUpper, text?]

/-- Values whose texts differ only in case are the same in upper case. -/
theorem toUpper_congr {a b : Cell} {s t : String} (ha : a.text? = some s) (hb : b.text? = some t)
    (h : Text.sameIgnoringCase s t = true) : a.toUpper = b.toUpper := by
  have hupper : Text.upper s = Text.upper t := by
    rw [← Text.upper_lower, Text.sameIgnoringCase_iff_lower.mp h, Text.upper_lower]
  simp only [toUpper, ha, hb, hupper]

end Cell

/-- What a part asks of a column of texts does not hang on the case of their letters. -/
theorem Alternative.partTruth_text_congr {row row' : Row} {column : String}
    (h : (row.cell column).toUpper = (row'.cell column).toUpper) (key : String)
    (part : List Char) :
    partTruth .text row key column part = partTruth .text row' key column part := by
  have hnull : row.cell column = .null ↔ row'.cell column = .null := by
    rw [← Cell.toUpper_eq_null_iff, h, Cell.toUpper_eq_null_iff]
  -- a text is compared, or matched, in upper case only, and upper case prefers no kind of value
  have hsubject : (Expr.upper (.column column)).cell row =
      (Expr.upper (.column column)).cell row' := h
  have hliteral (literal : String) : FilterKind.text.literalTruth row key column literal =
      FilterKind.text.literalTruth row' key column literal := by
    simp only [FilterKind.literalTruth, Expr.holds, Expr.affinity, hsubject]
  simp only [partTruth, hnull, hliteral]

/-- **Text filters ignore letter case.** A text filter reads every filter value, and two values
    that differ only in the case of ASCII letters, wherever these stand, as the same.  Its
    predicate on a column has the same truth on rows whose texts there differ only in the case of
    ASCII letters. -/
theorem FieldFilter.text_ignoresCase {raw raw' : String}
    (hsame : Text.sameIgnoringCase raw raw' = true) (key : String) :
    ∃ o, read .text key (some raw) = .ok o ∧ read .text key (some raw') = .ok o ∧
      ∀ f, o = some f → ∀ column, ∃ p, f.predicate column = .ok p ∧
        ∀ (row row' : Row) (s s' : String), (row.cell column).text? = some s →
          (row'.cell column).text? = some s' → Text.sameIgnoringCase s s' = true →
            p.truth row = p.truth row' := by
  obtain ⟨o, hread⟩ := exists_read_text key raw
  refine ⟨o, hread, (read_eq_ok_congr (FilterKind.ignoresCase_text key) hsame).mp hread, ?_⟩
  rintro f rfl column
  obtain ⟨hsome, vs, rfl, hparts⟩ := read_eq_ok_some_iff.mp hread
  obtain ⟨p, hp⟩ := exists_predicate_of_isOf hparts column
  have hne := (Alternative.parts_ne_nil_iff raw).mpr hsome
  refine ⟨p, hp, fun row row' s s' hs hs' hcase => ?_⟩
  -- the predicate asks what the parts ask, and each of them asks the same of the two rows
  have hupper := Cell.toUpper_congr hs hs' hcase
  rw [truth_predicate hparts hne hp row, truth_predicate hparts hne hp row',
    List.map_congr_left fun part _ => Alternative.partTruth_text_congr hupper key part]

/-- A pattern that is left out, in two spellings, and a text that it finds, in two spellings. -/
theorem FieldFilter.text_ignoresCase_pattern :
    let row : Row := ⟨fun _ => .text "éxB", fun _ => .text⟩
    let row' : Row := ⟨fun _ => .text "éXb", fun _ => .text⟩
    ∃ f p, read .text "name" (some "nOT_Lk_é*B|nULL") = .ok (some f) ∧
      read .text "name" (some "not_lk_é*b|Null") = .ok (some f) ∧
      f.predicate "name" = .ok p ∧ p.truth row = .no ∧ p.truth row' = .no := by
  intro row row'
  have hsame : Text.sameIgnoringCase "nOT_Lk_é*B|nULL" "not_lk_é*b|Null" = true := by decide
  have hrows : Text.sameIgnoringCase "éxB" "éXb" = true := by decide
  obtain ⟨o, hread, hread', htruth⟩ := text_ignoresCase hsame "name"
  obtain ⟨f, rfl⟩ : ∃ f, o = some f := ⟨_, (Except.ok.inj hread).symm⟩
  obtain ⟨p, hp, hrow⟩ := htruth f rfl "name"
  have hno : p.truth row = .no := by
    obtain rfl := Option.some.inj (Except.ok.inj hread)
    obtain rfl := Except.ok.inj hp
    decide +kernel
  exact ⟨f, p, hread, hread', hp, hno, (hrow row row' "éxB" "éXb" rfl rfl hrows) ▸ hno⟩

end FilterQuery
