import FilterQuery.Proofs.Filter.Traversal

namespace FilterQuery

/-!
# Writing filter values

A list of alternatives is written as a filter value by joining what its alternatives are
written as: a literal, behind `not_` where it is negated.  Reading undoes writing, and writing
undoes reading but for the separators at the end of a value.

* `Alternative.Encodes` — the texts of an alternative;
* `Alternative.read_of_encodes`, `Alternative.encodes_part` — a part is a text of its
  alternative;
* `Alternative.intercalate_parts` — a value without the separators at its end is its parts
  joined;
* `Alternative.split_roundTrip` — reading and writing undo each other.
-/

namespace Alternative

/-- A text of an alternative: its literal, behind `not_` in any ASCII case where it is
    negated. -/
def Encodes (negated : Bool) (literal text : String) : Prop :=
  if negated then
    ∃ start, Text.sameIgnoringCase start negation = true ∧ text = start ++ literal
  else text = literal

/-- The alternative of a literal, which tests for absence exactly where the literal is `null`
    in any ASCII case. -/
def tagged (a : Bool × String) : Alternative where
  operator := if Text.sameIgnoringCase a.2 "null" then .null else .equals
  negated := a.1
  literal := a.2

/-! ### Alternatives -/

/-- A text in any ASCII case of `not_` has four characters, and none is a separator. -/
theorem of_sameIgnoringCase_negation {start : String}
    (h : Text.sameIgnoringCase start negation = true) :
    start.toList.length = 4 ∧ start.toList.map Char.toLower = negation.toList ∧
      separator ∉ start.toList := by
  have hlower : start.toList.map Char.toLower = negation.toList := by
    rw [Text.sameIgnoringCase, beq_iff_eq] at h
    exact h
  refine ⟨?_, hlower, fun hmem => ?_⟩
  · have hlength := congrArg List.length hlower
    rwa [List.length_map] at hlength
  · have hmem' : separator.toLower ∈ negation.toList := hlower ▸ List.mem_map_of_mem hmem
    exact absurd hmem' (by decide)

/-- A text of an alternative is read as that alternative, unless the literal alone would be
    read as a negated one. -/
theorem read_of_encodes {negated : Bool} {literal text : String}
    (h : Encodes negated literal text)
    (hliteral : negated = false → Text.beginsWith "not_" literal.toList = false) :
    negates text.toList = negated ∧ literalOf text.toList = literal := by
  cases negated with
  | true =>
    obtain ⟨start, hstart, rfl⟩ := h
    obtain ⟨hlength, hlower, -⟩ := of_sameIgnoringCase_negation hstart
    -- the test looks at the four characters in front, which are the start
    have hnegates : negates (start ++ literal).toList = true := by
      have htake : (start.toList ++ literal.toList).take 4 = start.toList :=
        List.take_left' hlength
      rw [negates, Text.beginsWith, beq_iff_eq, String.toList_append]
      exact htake.symm ▸ hlower
    refine ⟨hnegates, ?_⟩
    rw [literalOf, if_pos hnegates, String.toList_append, List.drop_left' hlength,
      String.ofList_toList]
  | false =>
    obtain rfl : text = literal := h
    have hnegates : negates text.toList = false := hliteral rfl
    refine ⟨hnegates, ?_⟩
    rw [literalOf, hnegates, if_neg Bool.false_ne_true, String.ofList_toList]

/-- No separator stands in a text of an alternative, unless one stands in the literal. -/
theorem not_mem_of_encodes {negated : Bool} {literal text : String}
    (h : Encodes negated literal text) (hliteral : separator ∉ literal.toList) :
    separator ∉ text.toList := by
  cases negated with
  | true =>
    obtain ⟨start, hstart, rfl⟩ := h
    obtain ⟨-, -, hnone⟩ := of_sameIgnoringCase_negation hstart
    rw [String.toList_append, List.mem_append]
    rintro (hmem | hmem)
    · exact hnone hmem
    · exact hliteral hmem
  | false =>
    obtain rfl : text = literal := h
    exact hliteral

/-- A part is a text of its alternative. -/
theorem encodes_part (part : List Char) :
    Encodes (negates part) (literalOf part) (String.ofList part) := by
  cases h : negates part with
  | true =>
    refine ⟨String.ofList (part.take 4), ?_, ?_⟩
    · rw [negates, Text.beginsWith] at h
      rw [Text.sameIgnoringCase, String.toList_ofList]
      exact h
    · rw [literalOf, if_pos h, ← String.ofList_append, List.take_append_drop]
  | false =>
    show String.ofList part = literalOf part
    rw [literalOf, h, if_neg Bool.false_ne_true]

/-! ### Joining -/

/-- One more part stands behind a separator, unless it is the first. -/
theorem intercalate_concat {ps : List (List Char)} (h : ps ≠ []) (p : List Char) :
    [separator].intercalate (ps ++ [p]) = [separator].intercalate ps ++ separator :: p := by
  induction ps with
  | nil => exact absurd rfl h
  | cons q qs ih =>
    cases qs with
    | nil => simp [List.intercalate_cons_cons]
    | cons r rs =>
      rw [List.cons_append, List.cons_append, List.intercalate_cons_cons,
        List.intercalate_cons_cons, ← List.cons_append, ih (List.cons_ne_nil r rs)]
      simp

/-- Parts without the empty ones at the end are joined to the same text without the separators
    at its end. -/
theorem intercalate_rdropWhile {ps : List (List Char)} (h : ∀ p ∈ ps, separator ∉ p) :
    [separator].intercalate (ps.rdropWhile List.isEmpty) =
      ([separator].intercalate ps).rdropWhile (· == separator) := by
  -- by induction from the end, where parts and separators are dropped
  induction ps using List.reverseRecOn with
  | nil => rfl
  | append_singleton ps p ih =>
    -- in front of the last part stands a separator, unless it is the only part
    have hjoined : ∃ start, [separator].intercalate (ps ++ [p]) = start ++ p ∧
        start.rdropWhile (· == separator) =
          ([separator].intercalate ps).rdropWhile (· == separator) := by
      by_cases hps : ps = []
      · subst hps
        exact ⟨[], by simp, rfl⟩
      · refine ⟨[separator].intercalate ps ++ [separator], ?_, ?_⟩
        · rw [intercalate_concat hps, List.append_assoc, List.singleton_append]
        · exact List.rdropWhile_concat_pos _ _ separator (beq_self_eq_true separator)
    obtain ⟨start, hstart, hdrop⟩ := hjoined
    by_cases hp : p = []
    · subst hp
      rw [List.rdropWhile_concat_pos _ _ _ rfl, hstart, List.append_nil, hdrop]
      exact ih fun q hq => h q (List.mem_append_left _ hq)
    · have hpart : separator ∉ p := h p (List.mem_append_right _ (List.mem_singleton_self p))
      have hlast : (start ++ p).getLast (by simp [hp]) ≠ separator := by
        rw [List.getLast_append_of_ne_nil _ hp]
        exact fun heq => hpart (heq ▸ List.getLast_mem hp)
      rw [List.rdropWhile_concat_neg _ _ _ (by simpa using hp), hstart, eq_comm,
        List.rdropWhile_eq_self_iff]
      intro hne
      simpa using hlast

/-- No separator stands in a part. -/
theorem not_mem_of_mem_pieces {cs : List Char} : ∀ p ∈ pieces cs, separator ∉ p := by
  induction cs with
  | nil => simp [pieces]
  | cons c cs ih =>
    rw [pieces]
    by_cases hc : c = separator
    · rw [if_pos hc, List.forall_mem_cons]
      exact ⟨List.not_mem_nil, ih⟩
    · rw [if_neg hc]
      cases hps : pieces cs with
      | nil => exact absurd hps (pieces_ne_nil cs)
      | cons p ps =>
        rw [hps, List.forall_mem_cons] at ih
        rw [List.forall_mem_cons, List.mem_cons, not_or]
        exact ⟨⟨Ne.symm hc, ih.1⟩, ih.2⟩

/-- A value without the separators at its end is its parts joined. -/
theorem intercalate_parts (raw : String) :
    [separator].intercalate (parts raw) = raw.toList.rdropWhile (· == separator) := by
  have hparts : ∀ p ∈ raw.toList.splitOn separator, separator ∉ p := by
    rw [← pieces_eq_splitOn]
    exact not_mem_of_mem_pieces
  rw [parts, intercalate_rdropWhile hparts, List.intercalate_splitOn]

/-- Texts without separators are the parts of what they are joined to, unless the last of them
    is empty. -/
theorem parts_intercalate {texts : List String} (h : ∀ t ∈ texts, separator ∉ t.toList)
    (hlast : texts.getLast? ≠ some "") :
    parts ("|".intercalate texts) = texts.map String.toList := by
  by_cases htexts : texts = []
  · subst htexts
    rfl
  · have hsplit : ([separator].intercalate (texts.map String.toList)).splitOn separator =
        texts.map String.toList := by
      apply List.splitOn_intercalate
      · simpa using h
      · simpa using htexts
    rw [parts, String.toList_intercalate]
    show List.rdropWhile _ (List.splitOn separator ([separator].intercalate _)) = _
    -- the last part is not empty, so none is dropped
    rw [hsplit, List.rdropWhile_eq_self_iff]
    intro hne
    rw [List.getLast_map, List.isEmpty_iff, String.toList_eq_nil_iff]
    intro hempty
    rw [List.getLast?_eq_some_getLast htexts, hempty] at hlast
    exact hlast rfl

/-- A text without separators is its only part, unless it is empty. -/
theorem parts_of_whole {raw : String} (hne : raw ≠ "") (hwhole : separator ∉ raw.toList) :
    parts raw = [raw.toList] := by
  have hparts : parts ("|".intercalate [raw]) = [raw].map String.toList := by
    apply parts_intercalate
    · intro t ht
      obtain rfl := List.mem_singleton.mp ht
      exact hwhole
    · simpa using hne
  rwa [String.intercalate_singleton] at hparts

/-! ### Lists of alternatives -/

/-- Lists side by side have the same images where each pair does. -/
theorem map_eq_map_of_forall₂ {α β γ : Type} {R : α → β → Prop} {f : α → γ} {g : β → γ}
    {as : List α} {bs : List β} (h : List.Forall₂ R as bs)
    (hsame : ∀ a ∈ as, ∀ b, R a b → g b = f a) : bs.map g = as.map f := by
  induction h with
  | nil => rfl
  | cons hab _ ih =>
    rw [List.forall_mem_cons] at hsame
    rw [List.map_cons, List.map_cons, hsame.1 _ hab, ih hsame.2]

/-- **Reading undoes writing.** -/
theorem split_intercalate {as : List (Bool × String)} {texts : List String}
    (h : List.Forall₂ (fun a text => Encodes a.1 a.2 text) as texts)
    (hpieces : ∀ a ∈ as, separator ∉ a.2.toList)
    (hliterals : ∀ a ∈ as, a.1 = false → Text.beginsWith "not_" a.2.toList = false)
    (hlast : texts.getLast? ≠ some "") :
    split (some ("|".intercalate texts)) = as.map tagged := by
  have htexts : ∀ t ∈ texts, separator ∉ t.toList := by
    intro t ht
    obtain ⟨a, ha, hencodes⟩ := exists_mem_of_forall₂ h ht
    exact not_mem_of_encodes hencodes (hpieces a ha)
  rw [split_eq_map_parts, parts_intercalate htexts hlast, List.map_map]
  apply map_eq_map_of_forall₂ h
  intro a ha text hencodes
  obtain ⟨hnegates, hliteral⟩ := read_of_encodes hencodes (hliterals a ha)
  show ofLiteral (negates text.toList) (literalOf text.toList) = tagged a
  rw [hnegates, hliteral]
  rfl

/-- **Writing undoes reading**, but for the separators at the end. -/
theorem exists_encoding (raw : String) :
    ∃ texts, List.Forall₂ (fun a text => Encodes a.negated a.literal text)
        (split (some raw)) texts ∧
      "|".intercalate texts = String.ofList (raw.toList.rdropWhile (· == separator)) := by
  refine ⟨(parts raw).map String.ofList, ?_, ?_⟩
  · rw [split_eq_map_parts, List.forall₂_map_left_iff, List.forall₂_map_right_iff,
      List.forall₂_same]
    exact fun part _ => encodes_part part
  · apply String.toList_injective
    rw [String.toList_ofList, ← intercalate_parts, String.toList_intercalate, List.map_map]
    simp [separator]

/-- **Reading and writing undo each other.** What a list of alternatives is written as is read
    as that list, if no literal has a separator, no literal that stands alone begins with
    `not_`, and the text of the last alternative is not empty.  Every value is written from the
    alternatives that it is read as, but for the separators at its end.  So no alternatives are
    read only where there is no value, or a value of separators. -/
theorem split_roundTrip :
    (∀ (as : List (Bool × String)) (texts : List String),
      List.Forall₂ (fun a text => Encodes a.1 a.2 text) as texts →
      (∀ a ∈ as, '|' ∉ a.2.toList) →
      (∀ a ∈ as, a.1 = false → Text.beginsWith "not_" a.2.toList = false) →
      texts.getLast? ≠ some "" →
      split (some ("|".intercalate texts)) = as.map tagged) ∧
    (∀ raw : String, ∃ texts,
      List.Forall₂ (fun a text => Encodes a.negated a.literal text) (split (some raw)) texts ∧
      "|".intercalate texts = String.ofList (raw.toList.rdropWhile (· == '|'))) ∧
    (∀ raw : Option String, split raw = [] ↔
      raw = none ∨ ∃ text, raw = some text ∧ ∀ c ∈ text.toList, c = '|') := by
  refine ⟨fun as texts => split_intercalate, exists_encoding, ?_⟩
  intro raw
  cases raw with
  | none => simp [split]
  | some text =>
    rw [split_eq_nil_iff]
    simp [separator]

/-- An empty part in front, an absent value behind `nOt_`, a second `not_` that belongs to the
    literal, and an empty literal at the end that is negated. -/
theorem split_roundTrip_tricky :
    split (some "|nOt_null|not_not_x|Null|noé_|NOT_") =
      [⟨.equals, false, ""⟩, ⟨.null, true, "null"⟩, ⟨.equals, true, "not_x"⟩,
        ⟨.null, false, "Null"⟩, ⟨.equals, false, "noé_"⟩, ⟨.equals, true, ""⟩] := by
  let as : List (Bool × String) := [(false, ""), (true, "null"), (true, "not_x"),
    (false, "Null"), (false, "noé_"), (true, "")]
  let texts : List String := ["", "nOt_null", "not_not_x", "Null", "noé_", "NOT_"]
  have hencodes : List.Forall₂ (fun a text => Encodes a.1 a.2 text) as texts :=
    .cons rfl (.cons ⟨"nOt_", by decide, rfl⟩ (.cons ⟨"not_", by decide, rfl⟩
      (.cons rfl (.cons rfl (.cons ⟨"NOT_", by decide, rfl⟩ .nil)))))
  exact split_roundTrip.1 as texts hencodes (by decide) (by decide) (by decide)

end Alternative

end FilterQuery
