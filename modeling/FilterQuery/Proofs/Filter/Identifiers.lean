import FilterQuery.Proofs.Filter.LetterCase
import FilterQuery.Proofs.Filter.OwnLiterals
import FilterQuery.Proofs.Filter.Shape
import FilterQuery.Proofs.Identifier.Hyphenated

namespace FilterQuery

/-!
# Filters on identifiers

A literal of a filter on identifiers is an identifier exactly where it has the hyphenated form,
with digits in either case.  The filter compares with the identifier that has the literal for its
text, in lower case.

* `Uuid.readHyphenated_eq_ok_iff_text` — an identifier is read of the spellings of its text;
* `Alternative.IsStray` — a part that is neither `null` nor an identifier;
* `Parsed.IsIdentifier` — what any other part stands for;
* `FieldFilter.read_identifiers` — filter values, with what is reported of those that are refused.
-/

/-! ### Spellings -/

namespace Uuid

theorem fits_toLower (hyphen : Bool) (c : Char) : fits hyphen c.toLower = fits hyphen c := by
  have hhyphen : c.toLower = '-' ↔ c = '-' := Text.toLower_eq_iff (by decide)
  rw [fits, fits, hexValue?_toLower]
  cases hyphen with
  | true => exact Bool.eq_iff_iff.mpr (by simpa using hhyphen)
  | false => rfl

/-- A text has the hyphenated form where it has it in lower case. -/
theorem isHyphenated_lower {s : String} : IsHyphenated (Text.lower s) ↔ IsHyphenated s := by
  rw [isHyphenated_iff, isHyphenated_iff, Text.toList_lower, List.forall₂_map_right_iff]
  simp only [fits_toLower]

/-- An identifier is read of the texts that are its own in lower case, and of no others. -/
theorem readHyphenated_eq_ok_iff_text {s : String} {u : Uuid} :
    readHyphenated s = .ok u ↔ u.text = Text.lower s := by
  constructor
  · exact text_of_readHyphenated
  · intro h
    -- a text is read as some identifier where its lower case is, and that has one text
    have hlower : IsHyphenated (Text.lower s) :=
      exists_readHyphenated_iff.mp ⟨u, h ▸ u.readHyphenated_text⟩
    obtain ⟨v, hv⟩ := exists_readHyphenated_iff.mpr (isHyphenated_lower.mp hlower)
    have htext : v.text = u.text := (text_of_readHyphenated hv).trans h.symm
    rw [hv, text_injective htext]

end Uuid

theorem FilterKind.readLiteral_identifier_eq_ok_iff {key literal : String} {op : Operator}
    {u : Uuid} :
    identifier.readLiteral key literal = .ok (op, u) ↔
      op = .equals ∧ u.text = Text.lower literal := by
  rw [← Uuid.readHyphenated_eq_ok_iff_text, readLiteral]
  cases Uuid.readHyphenated literal <;> simp [eq_comm]

theorem FilterKind.ignoresCase_identifier (key : String) : identifier.IgnoresCase key := by
  rintro literal ⟨op, u⟩
  rw [readLiteral_identifier_eq_ok_iff, readLiteral_identifier_eq_ok_iff, Text.lower_lower]

/-! ### Parts -/

/-- A part of a filter value whose literal is neither `null` nor an identifier. -/
def Alternative.IsStray (part : List Char) : Prop :=
  isNullLiteral (literalOf part) = false ∧ ¬Uuid.IsHyphenated (literalOf part)

/-- What a part of a filter value stands for among identifiers: nothing, or the identifier that
    has the literal in lower case for its text. -/
inductive Parsed.IsIdentifier (part : List Char) : Parsed Uuid → Prop
  | absent (h : Alternative.isNullLiteral (Alternative.literalOf part) = true) :
    IsIdentifier part ⟨.null, Alternative.negates part, none⟩
  | present {u : Uuid} (h : Alternative.isNullLiteral (Alternative.literalOf part) = false)
    (htext : u.text = Text.lower (Alternative.literalOf part)) :
    IsIdentifier part ⟨.equals, Alternative.negates part, some u⟩

/-- What is reported of a literal that is no identifier. -/
def FilterError.notHyphenated (key literal : String) : FilterError :=
  .wrongValue key "identifier" literal
    (some (.identifier (if literal.toUTF8.size = 36 then .malformed else .wrongLength)))

theorem Parsed.isOf_identifier_iff {key : String} {part : List Char} {v : Parsed Uuid} :
    IsOf .identifier key part v ↔ IsIdentifier part v := by
  rw [isOf_iff]
  constructor
  · rintro (⟨hnull, rfl⟩ | ⟨hnull, op, u, hread, rfl⟩)
    · exact .absent hnull
    · obtain ⟨rfl, htext⟩ := FilterKind.readLiteral_identifier_eq_ok_iff.mp hread
      exact .present hnull htext
  · rintro (hnull | ⟨hnull, htext⟩)
    · exact .inl ⟨hnull, rfl⟩
    · exact .inr ⟨hnull, _, _, FilterKind.readLiteral_identifier_eq_ok_iff.mpr ⟨rfl, htext⟩, rfl⟩

/-- A filter on identifiers refuses the parts that are neither `null` nor identifiers. -/
theorem FilterKind.refuses_identifier_iff {key : String} {part : List Char} {e : FilterError} :
    identifier.Refuses key part e ↔
      Alternative.IsStray part ∧ e = .notHyphenated key (Alternative.literalOf part) := by
  have hread : identifier.readLiteral key (Alternative.literalOf part) = .error e ↔
      ∃ cause, Uuid.readHyphenated (Alternative.literalOf part) = .error cause ∧
        e = .wrongValue key "identifier" (Alternative.literalOf part)
          (some (.identifier cause)) := by
    rw [readLiteral]
    cases Uuid.readHyphenated (Alternative.literalOf part) with
    | ok u => simp
    | error cause => simp [eq_comm, Category.name]
  -- there is one cause for each text that has not the form
  rw [Refuses, hread, Alternative.IsStray, FilterError.notHyphenated, and_assoc]
  simp only [Uuid.readHyphenated_eq_error_iff, and_assoc, exists_and_left, exists_eq_left]

/-! ### Filter values -/

namespace FieldFilter

variable {key raw : String}

/-- A filter value is refused for the first of its parts that is astray. -/
theorem read_identifiers_eq_error_iff {e : FilterError} :
    read .identifier key (some raw) = .error e ↔
      ∃ part, IsFirst Alternative.IsStray (Alternative.parts raw) part ∧
        e = .notHyphenated key (Alternative.literalOf part) :=
  read_eq_error_iff_of_refuses fun _ _ => FilterKind.refuses_identifier_iff

/-- A filter value is read where each of its parts is `null` or has the hyphenated form. -/
theorem exists_read_identifiers_iff :
    (∃ o, read .identifier key (some raw) = .ok o) ↔
      ∀ part ∈ Alternative.parts raw,
        Alternative.isNullLiteral (Alternative.literalOf part) = false →
          Uuid.IsHyphenated (Alternative.literalOf part) := by
  rw [exists_read_iff_of_refuses fun _ _ => FilterKind.refuses_identifier_iff]
  simp [Alternative.IsStray]

/-- The filter of a value holds what its parts stand for, and its predicate binds the identifiers
    among them. -/
theorem identifiers_of_read {f : FieldFilter}
    (h : read .identifier key (some raw) = .ok (some f)) :
    ∃ vs : List (Parsed Uuid), f = ⟨.identifier, key, vs⟩ ∧
      List.Forall₂ Parsed.IsIdentifier (Alternative.parts raw) vs ∧
      ∀ column, ∃ p, f.predicate column = .ok p ∧
        p.binds = vs.filterMap fun v => v.value.map Value.identifier := by
  obtain ⟨vs, rfl, hparts, hbinds⟩ := operands_of_read Value.identifier (fun _ => rfl) h
  exact ⟨vs, rfl, hparts.imp fun _ _ => Parsed.isOf_identifier_iff.mp, hbinds⟩

/-- The text of an identifier, in any ASCII case, is read as that identifier. -/
theorem read_identifier_text {u : Uuid} (h : Text.sameIgnoringCase raw u.text = true) :
    read .identifier key (some raw) =
      .ok (some ⟨.identifier, key, [⟨.equals, false, some u⟩]⟩) := by
  obtain ⟨hliteral, hnull⟩ := u.isLiteral_text
  -- the text in lower case stands for itself
  rw [read_eq_ok_congr (FilterKind.ignoresCase_identifier key) h]
  apply read_of_isLiteral hliteral hnull
  rw [FilterKind.readLiteral, u.readHyphenated_text]

/-- **Filters on identifiers.** A filter value is read exactly where each of its parts is `null` or
    has the hyphenated form; else the first part that is neither is reported.  The filter holds
    the identifiers that have the literals in lower case for their texts, and its predicates bind
    them.  Filter values that differ only in the case of ASCII letters are read as the same.  Every
    identifier is read back from its text, and a filter on the text, in any case, binds it. -/
theorem read_identifiers (key raw : String) :
    ((∃ o, read .identifier key (some raw) = .ok o) ↔
      ∀ part ∈ Alternative.parts raw,
        Alternative.isNullLiteral (Alternative.literalOf part) = false →
          Uuid.IsHyphenated (Alternative.literalOf part)) ∧
    (∀ e, read .identifier key (some raw) = .error e ↔
      ∃ part, IsFirst Alternative.IsStray (Alternative.parts raw) part ∧
        e = .notHyphenated key (Alternative.literalOf part)) ∧
    (∀ f, read .identifier key (some raw) = .ok (some f) →
      ∃ vs : List (Parsed Uuid), f = ⟨.identifier, key, vs⟩ ∧
        List.Forall₂ Parsed.IsIdentifier (Alternative.parts raw) vs ∧
        ∀ column, ∃ p, f.predicate column = .ok p ∧
          p.binds = vs.filterMap fun v => v.value.map Value.identifier) ∧
    (∀ raw', Text.sameIgnoringCase raw raw' = true → ∀ o,
      read .identifier key (some raw) = .ok o ↔ read .identifier key (some raw') = .ok o) ∧
    ∀ u : Uuid, Uuid.readText u.text = .ok u ∧
      ∀ s, Text.sameIgnoringCase s u.text = true → ∃ f,
        read .identifier key (some s) = .ok (some f) ∧
          ∀ column, f.predicate column = .ok (.equal (.column column) (.identifier u) false) := by
  refine ⟨exists_read_identifiers_iff, fun e => read_identifiers_eq_error_iff,
    fun f => identifiers_of_read, ?_, fun u => ⟨u.readText_text, ?_⟩⟩
  · intro raw' hsame o
    exact read_eq_ok_congr (FilterKind.ignoresCase_identifier key) hsame
  · intro s hs
    exact ⟨_, read_identifier_text hs, fun column => rfl⟩

/-- An identifier in capitals behind a negation, and a value that is absent: in lower case the
    same is read, and it binds the identifier. -/
theorem read_identifiers_capitals :
    let u : Uuid := ⟨0x67e5504410b1426f9247bb680e5fe0c8⟩
    ∃ f p,
      read .identifier "id" (some "NOT_67E55044-10B1-426F-9247-BB680E5FE0C8|NULL") = .ok (some f) ∧
      read .identifier "id" (some "not_67e55044-10b1-426f-9247-bb680e5fe0c8|null") = .ok (some f) ∧
      f.predicate "lib_id" = .ok p ∧ p.binds = [.identifier u] ∧
      ∃ g, read .identifier "id" (some "67E55044-10b1-426F-9247-bb680E5FE0C8") = .ok (some g) ∧
        g.predicate "lib_id" = .ok (.equal (.column "lib_id") (.identifier u) false) := by
  intro u
  obtain ⟨-, -, hvalues, hcase, hspelled⟩ :=
    read_identifiers "id" "NOT_67E55044-10B1-426F-9247-BB680E5FE0C8|NULL"
  have hread : read .identifier "id" (some "NOT_67E55044-10B1-426F-9247-BB680E5FE0C8|NULL") =
      .ok (some ⟨.identifier, "id", [⟨.equals, true, some u⟩, ⟨.null, false, none⟩]⟩) := by
    with_unfolding_all rfl
  obtain ⟨vs, hvs, -, hbinds⟩ := hvalues _ hread
  obtain ⟨p, hp, hvalue⟩ := hbinds "lib_id"
  obtain ⟨g, hg, hpredicate⟩ :=
    (hspelled u).2 "67E55044-10b1-426F-9247-bb680E5FE0C8" (by decide +kernel)
  refine ⟨_, p, hread, (hcase _ (by decide) _).mp hread, hp, ?_, g, hg, hpredicate "lib_id"⟩
  obtain rfl : vs = [⟨.equals, true, some u⟩, ⟨.null, false, none⟩] := by
    cases hvs
    rfl
  exact hvalue

end FieldFilter

end FilterQuery
