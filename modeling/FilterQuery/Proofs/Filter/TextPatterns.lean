import FilterQuery.Proofs.Filter.Complement
import FilterQuery.Proofs.Filter.LetterCase
import FilterQuery.Proofs.Sql.Wildcards

namespace FilterQuery

/-!
# Patterns of text filters

A text filter hands the text behind `lk_` to the database as a pattern, with `%` for `*` and its
letters in upper case.  What else is a sign of the database remains one: `%` and `_` of a client
are wildcards too, and a row that is found under the pattern need not be one that the client
asked for.  Without them `*` is the only wildcard.

* `Pattern.visible_map` — what matching reads of a text whose characters are replaced;
* `Pattern.matches?_starPattern` — the pattern that is handed over, with the signs of the client;
* `FieldFilter.truth_pattern` — the rows that a pattern selects, and those that it should.
-/

/-! ### Characters -/

/-- The character of the database for a character of a client's pattern. -/
def starChar (c : Char) : Char := if c = '*' then '%' else c.toUpper

theorem starChar_eq_iff {c d : Char} (hd : d.isAlpha = false) (hrun : d ≠ '%') (hstar : d ≠ '*') :
    starChar c = d ↔ c = d := by
  rw [starChar]
  split
  · next hc => exact iff_of_false hrun.symm fun heq => hstar (heq.symm.trans hc)
  · exact Text.toUpper_eq_iff hd

theorem starChar_eq_run_iff {c : Char} : starChar c = '%' ↔ c = '*' ∨ c = '%' := by
  rw [starChar]
  split
  · next hc => simp [hc]
  · next hc => simp [hc, Text.toUpper_eq_iff (d := '%') (by decide)]

/-- The signs of the database in the pattern that is handed over are those of the client. -/
theorem sql_starChar (c : Char) : Pattern.sqlSign (starChar c) = Pattern.clientSign c := by
  have hone : starChar c = '_' ↔ c = '_' := starChar_eq_iff (by decide) (by decide) (by decide)
  simp only [Pattern.sqlSign, Pattern.clientSign, starChar_eq_run_iff, hone]

/-! ### What matching reads -/

namespace Pattern

/-- A text that matching reads as it is: without null characters and noncharacters. -/
def IsReadable (s : String) : Prop :=
  ∀ c ∈ s.toList, c ≠ Char.ofNat 0 ∧ c ≠ '\uFFFE' ∧ c ≠ '\uFFFF'

theorem visible_of_isReadable {s : String} (h : IsReadable s) : visible s = s.toList := by
  have htake : s.toList.takeWhile (fun c => decide (c ≠ Char.ofNat 0)) = s.toList := by
    rw [List.takeWhile_eq_self_iff]
    exact fun c hc => decide_eq_true (h c hc).1
  have hread : ∀ c ∈ s.toList, readAs c = id c := by
    intro c hc
    obtain ⟨-, hfirst, hlast⟩ := h c hc
    rw [readAs, if_neg (by simp [hfirst, hlast])]
    rfl
  rw [visible, htake, List.map_congr_left hread, List.map_id]

/-- The characters that matching treats apart: the null character, the noncharacters and the
    replacement character. -/
def marks : List Char := [Char.ofNat 0, '\uFFFE', '\uFFFF', '\uFFFD']

/-- What matching reads of a text holds no other characters than the text, but for marks. -/
theorem mem_of_mem_visible {s : String} {d : Char} (hd : d ∉ marks) (h : d ∈ visible s) :
    d ∈ s.toList := by
  obtain ⟨c, hc, hread⟩ := List.mem_map.mp h
  rw [readAs] at hread
  split at hread
  · exact absurd (by rw [← hread]; decide) hd
  · exact hread ▸ List.takeWhile_subset _ hc

/-- Where marks are not replaced, and nothing is replaced by them, matching reads of what is
    replaced what it is replaced by. -/
theorem visible_map {f : Char → Char} (hmarks : ∀ d ∈ marks, ∀ c, f c = d ↔ c = d) (s : String) :
    visible (String.ofList (s.toList.map f)) = (visible s).map f := by
  have hnull := hmarks (Char.ofNat 0) (by decide)
  have hseen : (fun c => decide (c ≠ Char.ofNat 0)) ∘ f = fun c => decide (c ≠ Char.ofNat 0) := by
    funext c
    simp [hnull]
  have hread (c : Char) : readAs (f c) = f (readAs c) := by
    have hfirst := hmarks '\uFFFE' (by decide) c
    have hlast := hmarks '\uFFFF' (by decide) c
    have hreplacement : f '\uFFFD' = '\uFFFD' := (hmarks '\uFFFD' (by decide) _).mpr rfl
    simp only [readAs, hfirst, hlast]
    split
    · exact hreplacement.symm
    · rfl
  rw [visible, visible, String.toList_ofList, List.takeWhile_map, hseen, List.map_map,
    List.map_map]
  exact List.map_congr_left fun c _ => hread c

theorem visible_upper (s : String) : visible (Text.upper s) = (visible s).map Char.toUpper := by
  have hupper : Text.upper s = String.ofList (s.toList.map Char.toUpper) := by
    apply String.toList_injective
    rw [Text.upper, String.toList_map, String.toList_ofList]
  have hmarks : ∀ d ∈ marks, d.isAlpha = false := by simp [marks]
  rw [hupper]
  exact visible_map (fun d hd c => Text.toUpper_eq_iff (hmarks d hd)) s

theorem visible_starPattern (pattern : String) :
    visible (starPattern pattern.toList) = (visible pattern).map starChar := by
  have hmarks : ∀ d ∈ marks, d.isAlpha = false ∧ d ≠ '%' ∧ d ≠ '*' := by simp [marks]
  refine visible_map (f := starChar) (fun d hd c => ?_) pattern
  obtain ⟨hletter, hrun, hstar⟩ := hmarks d hd
  exact starChar_eq_iff hletter hrun hstar

/-- The pattern that is handed over finds, in upper case, the texts that the client's pattern
    stands for with the signs of both. -/
theorem matches?_starPattern (pattern s : String) :
    matches? (starPattern pattern.toList) (Text.upper s) = true ↔
      Pattern.Matches Pattern.clientSign (visible pattern) (visible s) := by
  rw [matches?_iff, visible_starPattern, visible_upper]
  refine matches_map_iff (fun p _ => sql_starChar p) fun p _ hself c _ => ?_
  have hstar : p ≠ '*' := by
    rintro rfl
    cases hself
  rw [starChar, if_neg hstar, Text.sameLetter, Text.sameLetter, Text.toLower_toUpper,
    Text.toLower_toUpper]

end Pattern

/-! ### Text filters -/

section Text

variable {start pattern key column : String}

/-- A pattern behind `lk_`, in any ASCII case, is one alternative. -/
theorem isLiteral_pattern (hstart : Text.sameIgnoringCase start "lk_" = true)
    (hwhole : '|' ∉ pattern.toList) :
    (Alternative.IsLiteral (start ++ pattern) ∧
      Alternative.isNullLiteral (start ++ pattern) = false) ∧
    Text.beginsWith "lk_" (start ++ pattern).toList = true ∧
    (start ++ pattern).toList.drop 3 = pattern.toList := by
  rw [Text.sameIgnoringCase, beq_iff_eq] at hstart
  have hlower : start.toList.map Char.toLower = ['l', 'k', '_'] := hstart
  obtain ⟨a, rest, hrest, ha, hlower⟩ := List.map_eq_cons_iff.mp hlower
  obtain ⟨b, rest, rfl, hb, hlower⟩ := List.map_eq_cons_iff.mp hlower
  obtain ⟨c, rest, rfl, hc, hlower⟩ := List.map_eq_cons_iff.mp hlower
  obtain rfl := List.map_eq_nil_iff.mp hlower
  have hchars : (start ++ pattern).toList = a :: b :: c :: pattern.toList := by
    rw [String.toList_append, hrest]
    rfl
  have hnone : '|' ∉ (start ++ pattern).toList := by
    rw [hchars]
    simp only [List.mem_cons, not_or]
    refine ⟨?_, ?_, ?_, hwhole⟩
    · rintro rfl; cases ha
    · rintro rfl; cases hb
    · rintro rfl; cases hc
  refine ⟨Alternative.isLiteral_of_head hchars (by rw [ha]; decide) hnone, ?_, ?_⟩
  · rw [hchars, Text.beginsWith, beq_iff_eq]
    show [a.toLower, b.toLower, c.toLower] = _
    rw [ha, hb, hc]
    rfl
  · rw [hchars]
    rfl

/-- **Patterns of text filters.** A pattern behind `lk_`, in any ASCII case, selects the rows with
    a text that it stands for, where `*` and `%` stand for any run of characters, `_` for any one
    character, and every other character for itself, in either case if it is a letter.  These are
    all rows with a text that it stands for if `*` is the only wildcard; and there are no others
    if the pattern has neither `%` nor `_`.  Of a text with a null character in it only what stands
    before is read, and noncharacters are read as the replacement character; all other texts are
    read as they are. -/
theorem FieldFilter.truth_pattern (hstart : Text.sameIgnoringCase start "lk_" = true)
    (hwhole : '|' ∉ pattern.toList) (key : String) :
    ∃ f, read .text key (some (start ++ pattern)) = .ok (some f) ∧
      ∀ column, ∃ p, f.predicate column = .ok p ∧
        ∀ (row : Row) (s : String), (row.cell column).text? = some s →
          ((p.truth row = .yes ↔
              Pattern.Matches Pattern.clientSign (Pattern.visible pattern) (Pattern.visible s)) ∧
            (p.truth row = .no ↔
              ¬Pattern.Matches Pattern.clientSign (Pattern.visible pattern) (Pattern.visible s))) ∧
          (Pattern.Matches Pattern.starSign (Pattern.visible pattern) (Pattern.visible s) →
            p.truth row = .yes) ∧
          ((∀ c ∈ pattern.toList, c ≠ '%' ∧ c ≠ '_') →
            (p.truth row = .yes ↔
              Pattern.Matches Pattern.starSign (Pattern.visible pattern) (Pattern.visible s)) ∧
            (Pattern.IsReadable pattern → Pattern.IsReadable s →
              (p.truth row = .yes ↔
                Pattern.Matches Pattern.starSign pattern.toList s.toList))) := by
  obtain ⟨⟨hliteral, hnull⟩, hbegins, hdrop⟩ := isLiteral_pattern hstart hwhole
  have haccepts (e : FilterError) : ¬FilterKind.text.Refuses key (start ++ pattern).toList e := by
    rintro ⟨-, hread⟩
    cases hread
  obtain ⟨f, hf, hpredicates⟩ := exists_read_single hliteral.parts_eq haccepts
  refine ⟨f, hf, fun column => ?_⟩
  obtain ⟨p, hp⟩ := hpredicates column
  refine ⟨p, hp, fun row s hs => ?_⟩
  have htruth : p.truth row =
      .ofBool (Pattern.matches? (starPattern pattern.toList) (Text.upper s)) := by
    have hnegates : Alternative.negates (start ++ pattern).toList = false := hliteral.positive
    have hcell : (Expr.upper (.column column)).cell row = .text (Text.upper s) := by
      rw [Expr.cell, Expr.cell, Cell.toUpper, hs]
    rw [truth_single hliteral.parts_eq hf hp row, Alternative.partTruth, hnegates,
      hliteral.literalOf_eq, hnull, FilterKind.literalTruth, hbegins, hdrop]
    simp only [if_pos, hcell]
    rw [if_neg Bool.false_ne_true, Condition.likeTruth, Cell.text?, Option.map_some,
      Truth.ofOption, Truth.signed, if_neg Bool.false_ne_true]
  have hyes : p.truth row = .yes ↔
      Pattern.Matches Pattern.clientSign (Pattern.visible pattern) (Pattern.visible s) := by
    rw [← Pattern.matches?_starPattern, htruth]
    cases Pattern.matches? (starPattern pattern.toList) (Text.upper s) <;> decide
  have hno : p.truth row = .no ↔ p.truth row ≠ .yes := by
    rw [htruth]
    cases Pattern.matches? (starPattern pattern.toList) (Text.upper s) <;> decide
  refine ⟨⟨hyes, hno.trans (not_congr hyes)⟩, fun h => hyes.mpr h.client_of_star, fun hplain => ?_⟩
  have hvisible : ∀ c ∈ Pattern.visible pattern, c ≠ '%' ∧ c ≠ '_' := by
    intro c hc
    constructor
    · rintro rfl
      exact (hplain _ (Pattern.mem_of_mem_visible (by decide) hc)).1 rfl
    · rintro rfl
      exact (hplain _ (Pattern.mem_of_mem_visible (by decide) hc)).2 rfl
  have hstar := hyes.trans (Pattern.matches_client_iff hvisible)
  refine ⟨hstar, fun hpattern htext => ?_⟩
  rw [hstar, Pattern.visible_of_isReadable hpattern, Pattern.visible_of_isReadable htext]

/-- A pattern without the signs of the database selects a text in another case, and with a run
    in it. -/
theorem FieldFilter.truth_pattern_starred :
    let row : Row := ⟨fun _ => .text "aX_yB", fun _ => .text⟩
    ∃ f p, read .text "login" (some ("lK_" ++ "A*b")) = .ok (some f) ∧
      f.predicate "login" = .ok p ∧
      p.truth row = .yes ∧ Pattern.Matches Pattern.starSign "A*b".toList "aX_yB".toList := by
  intro row
  have hstart : Text.sameIgnoringCase "lK_" "lk_" = true := by decide
  have hwhole : '|' ∉ "A*b".toList := by decide
  obtain ⟨f, hf, hpredicates⟩ := truth_pattern hstart hwhole "login"
  obtain ⟨p, hp, htruth⟩ := hpredicates "login"
  obtain ⟨-, -, hstar⟩ := htruth row "aX_yB" rfl
  have hmatches : Pattern.Matches Pattern.starSign "A*b".toList "aX_yB".toList :=
    .self rfl (by decide) (.run rfl ['X', '_', 'y'] (.self rfl (by decide) .nil))
  have hpattern : Pattern.IsReadable "A*b" := by simp [Pattern.IsReadable]
  have htext : Pattern.IsReadable "aX_yB" := by simp [Pattern.IsReadable]
  have hplain : ∀ c ∈ "A*b".toList, c ≠ '%' ∧ c ≠ '_' := by simp
  exact ⟨f, p, hf, hp, ((hstar hplain).2 hpattern htext).mpr hmatches, hmatches⟩

/-- An underscore in a pattern is a wildcard: it selects a text with a letter in its place. -/
theorem FieldFilter.underscore_selects :
    let row : Row := ⟨fun _ => .text "axb", fun _ => .text⟩
    ∃ f p, read .text "login" (some "lk_a_b") = .ok (some f) ∧ f.predicate "login" = .ok p ∧
      p.truth row = .yes ∧ ¬Pattern.Matches Pattern.starSign "a_b".toList "axb".toList := by
  refine ⟨_, _, rfl, rfl, by decide +kernel, fun h => ?_⟩
  have hrest := ((Pattern.matches_cons_iff (c := 'a') (by decide)).mp h).2
  have hunderscore := ((Pattern.matches_cons_iff (c := 'x') (by decide)).mp hrest).1
  revert hunderscore
  decide

end Text

end FilterQuery
