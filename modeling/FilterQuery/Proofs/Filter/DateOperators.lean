import FilterQuery.Proofs.Filter.DateForms
import FilterQuery.Proofs.Filter.OwnLiterals

namespace FilterQuery

/-!
# Dates behind operators

A text that is read as a timestamp can be asked for alone, behind the token of a comparison, and
in a range.  Alone, every such text is a date of the filter.  The token of an operator is only
found in front of a day, and the missing end of a range only behind one; without a day the token
is taken for a part of the date, which cannot be read then.

* `Timestamp.exists_error_of_letters` — a token is no part of a date;
* `DateShape.ofLiteral_notCut`, `DateShape.ofLiteral_tokenBehind` — the shapes of literals with a
  token that is not found;
* `FieldFilter.read_literal` — a literal that stands for itself is the only alternative;
* `FieldFilter.ofDate`, `FieldFilter.RefusesDate` — what a date filter answers to one literal;
* `FieldFilter.read_dates` — a date with each of the operators.
-/

/-! ### Characters -/

/-- A text of dates and tokens: no character of it begins `not_` or `null`, and none is a
    separator. -/
def IsDateText (s : String) : Prop := ∀ c ∈ s.toList, c.toLower ≠ 'n' ∧ c ≠ '|'

theorem IsDateText.append {s s' : String} (h : IsDateText s) (h' : IsDateText s') :
    IsDateText (s ++ s') := by
  rw [IsDateText, String.toList_append, List.forall_mem_append]
  exact ⟨h, h'⟩

/-- A text that is read as a timestamp is a text of dates. -/
theorem Timestamp.isDateText_of_read {d : String} {t : Timestamp} (h : read d = .ok t) :
    IsDateText d := by
  rw [← String.ofList_toList (s := d)] at h
  intro c hc
  have hclock : isClockChar c = true := isClockChar_of_read h c hc
  constructor
  · intro hn
    have hletter : c.isAlpha = true := Text.isAlpha_of_toLower hn (by decide)
    rw [isClockChar, Bool.or_eq_true, List.contains_iff_mem] at hclock
    obtain hmark | hmem := hclock
    · rw [isAlpha_of_isClockMark hmark] at hletter
      cases hletter
    · have hall : ['T', 't', 'Z', 'z'].all (fun c => c.toLower != 'n') = true := by decide
      simpa [hn] using List.all_eq_true.mp hall c hmem
  · rintro rfl
    exact absurd hclock (by decide)

/-- A token of dates is a text of dates. -/
theorem Operator.isDateText_of_token {op : Operator}
    (hop : op ∈ [equals, inferior, superior, between]) {token : String}
    (h : Text.sameIgnoringCase op.token token = true) : IsDateText token := by
  have hall : ∀ op ∈ [equals, inferior, superior, between],
      (op.token.toList.map Char.toLower).all (fun c => c != 'n' && c != '|') = true := by decide
  intro c hc
  rw [Text.sameIgnoringCase, beq_iff_eq] at h
  have hlower : c.toLower ∈ op.token.toList.map Char.toLower := h ▸ List.mem_map_of_mem hc
  obtain ⟨hn, hwhole⟩ : c.toLower ≠ 'n' ∧ c.toLower ≠ '|' := by
    simpa using List.all_eq_true.mp (hall op hop) _ hlower
  exact ⟨hn, by rintro rfl; exact hwhole rfl⟩

theorem Timestamp.ne_empty_of_read {d : String} {t : Timestamp} (h : read d = .ok t) : d ≠ "" := by
  rintro rfl
  cases h

/-! ### Days in front of letters -/

/-- A letter behind a text does not help it to a day in front. -/
theorem beginsWithDay_append_letter {cs : List Char} {a : Char} (ha : a.isAlpha = true)
    (rest : List Char) : BeginsWithDay (cs ++ a :: rest) ↔ BeginsWithDay cs := by
  constructor
  · rintro ⟨year, month, day, behind, heq, hyear, hmonth, hday, hdigits⟩
    have hfront : year ++ '-' :: (month ++ '-' :: (day ++ behind)) =
        (year ++ '-' :: (month ++ '-' :: day)) ++ behind := by simp
    rw [hfront, List.append_eq_append_iff] at heq
    -- the letter stands within the day, or behind it
    obtain ⟨within, hwithin, hletter⟩ | ⟨more, hmore, -⟩ := heq
    · cases within with
      | nil =>
        rw [List.append_nil] at hwithin
        exact ⟨year, month, day, [], by rw [← hwithin]; simp, hyear, hmonth, hday, hdigits⟩
      | cons c within =>
        obtain ⟨rfl, -⟩ := List.cons.inj hletter
        have hmem : a ∈ year ++ '-' :: (month ++ '-' :: day) := by simp [hwithin]
        have hmem : a ∈ year ++ month ++ day ∨ a = '-' := by
          simp only [List.mem_append, List.mem_cons] at hmem ⊢
          tauto
        obtain hdigit | rfl := hmem
        · rw [Text.isAlpha_of_isDigit (hdigits a hdigit)] at ha
          cases ha
        · cases ha
    · exact ⟨year, month, day, more, by rw [hmore]; simp, hyear, hmonth, hday, hdigits⟩
  · rintro ⟨year, month, day, behind, rfl, hrest⟩
    exact ⟨year, month, day, behind ++ a :: rest, by simp, hrest⟩

/-- Of a text that is read as a timestamp the test for a day says what it should. -/
theorem DateShape.startsWithDay_iff {cs : List Char} {t : Timestamp}
    (h : Timestamp.read (String.ofList cs) = .ok t) :
    startsWithDay cs = true ↔ BeginsWithDay cs :=
  ⟨fun hday => beginsWithDay_of_startsWithDay hday fun _ => Timestamp.isDigit_of_read h,
    startsWithDay_of_beginsWithDay⟩

/-! ### Tokens that are not found -/

section Letters

variable {first last : List Char} {a b : Char} {t : Timestamp}

/-- No text with two letters side by side is a timestamp. -/
theorem Timestamp.exists_error_of_letters {literal : String} (ha : a.isAlpha = true)
    (hb : b.isAlpha = true) (h : [a, b] <:+: literal.toList) :
    ∃ cause, read literal = .error cause := by
  cases hread : read literal with
  | error cause => exact ⟨cause, rfl⟩
  | ok t =>
    rw [← String.ofList_toList (s := literal)] at hread
    exact absurd h (DateShape.not_infix_of_isChain (isChain_of_read hread 'a').tail ha hb)

namespace DateShape

/-- A literal with a text behind its token does not end in the token of a range. -/
theorem isOpenRange_append_letters (hlast : (b :: last).IsChain Apart) (hne : last ≠ []) :
    isOpenRange (first ++ a :: b :: last) = false := by
  rw [← Bool.not_eq_true]
  intro hopen
  obtain ⟨x, y, hsuffix, hx, hy⟩ := exists_letters_of_isOpenRange hopen
  have hlength : 0 < last.length := List.length_pos_iff.mpr hne
  have hend : [x, y] <:+ b :: last := by
    refine List.suffix_of_suffix_length_le hsuffix
      ((List.suffix_cons a _).trans (List.suffix_append first _)) ?_
    simp only [List.length_cons, List.length_nil]
    omega
  exact not_infix_of_isChain hlast hx hy hend.isInfix

/-- A literal that ends in the token of a range lacks its end exactly where it begins with a
    day. -/
theorem isOpenRange_append_token
    (hdigits : ∀ c ∈ first, Text.isDecimalDigit c = true → c.isDigit = true)
    (htoken : Text.sameIgnoringCase Operator.between.token (String.ofList [a, b]) = true) :
    isOpenRange (first ++ [a, b]) = true ↔ BeginsWithDay first := by
  obtain ⟨ha, hb⟩ := Operator.isAlpha_of_pair (by simp) htoken
  constructor
  · intro hopen
    have hstarts : startsWithDay (first ++ [a, b]) = true := by
      rw [isOpenRange] at hopen
      split at hopen
      · next hafter => rw [startsWithDay, hafter, Option.isSome_some]
      · cases hopen
    have hdigits' : ∀ c ∈ first ++ [a, b], Text.isDecimalDigit c = true → c.isDigit = true := by
      rw [List.forall_mem_append]
      refine ⟨hdigits, ?_⟩
      simp [Text.isDecimalDigit_of_isAlpha ha, Text.isDecimalDigit_of_isAlpha hb]
    exact (beginsWithDay_append_letter ha [b]).mp (beginsWithDay_of_startsWithDay hstarts hdigits')
  · rintro ⟨year, month, day, rest, rfl, hyear, hmonth, hday, hdigits⟩
    have hafter : afterDay? (year ++ '-' :: (month ++ '-' :: (day ++ rest)) ++ [a, b]) =
        some (rest ++ [a, b]) := by
      rw [← afterDay?_of_digits hyear hmonth hday hdigits (rest ++ [a, b])]
      simp
    have hlast : (rest ++ [a, b]).drop ((rest ++ [a, b]).length - 2) = [a, b] := by simp
    rw [isOpenRange, hafter]
    simp only [hlast, Bool.and_eq_true, decide_eq_true_eq]
    rw [Text.sameIgnoringCase, BEq.comm]
    exact ⟨by simp, htoken⟩

/-- A token in front of a timestamp that does not begin with a day is not found, whatever stands
    before the token. -/
theorem ofLiteral_notCut (hfirst : first.IsChain Apart) (hline : '\n' ∉ first)
    (ha : a.isAlpha = true) (hb : b.isAlpha = true)
    (hlast : Timestamp.read (String.ofList last) = .ok t) (hline' : '\n' ∉ last)
    (hday : ¬BeginsWithDay last) :
    ofLiteral (first ++ a :: b :: last) = .at .equals (first ++ a :: b :: last) := by
  have hchain : (b :: last).IsChain Apart := Timestamp.isChain_of_read hlast b
  have hstarts : startsWithDay last = false := by
    rw [← Bool.not_eq_true, startsWithDay_iff hlast]
    exact hday
  have hsplit : splitOperator? (first ++ a :: b :: last) = none := by
    rw [splitOperator?_append_letters hfirst hb, splitOperator?, if_neg (by simp [hstarts]),
      splitOperator?_of_isChain hchain]
    rfl
  -- a timestamp is not an empty text
  have hne : last ≠ [] := by
    rintro rfl
    cases hlast
  have hopen : isOpenRange (first ++ a :: b :: last) = false :=
    isOpenRange_append_letters hchain hne
  rw [ofLiteral, if_neg (newline_not_mem_append_letters hline ha hb hline'), hsplit, ofPlain, hopen,
    if_neg Bool.false_ne_true]

/-- A token in front of a day is a range that lacks its beginning, if it is the token of a
    range. -/
theorem ofLiteral_tokenBefore
    (htoken : Text.sameIgnoringCase Operator.between.token (String.ofList [a, b]) = true)
    (hline : '\n' ∉ last) (hday : BeginsWithDay last) :
    ofLiteral (a :: b :: last) = .missingBound := by
  obtain ⟨ha, hb⟩ := Operator.isAlpha_of_pair (by simp) htoken
  have hsplit : splitOperator? (a :: b :: last) = some ([], String.ofList [a, b], last) :=
    splitOperator?_append .nil ha hb (startsWithDay_of_beginsWithDay hday)
  have hbreak : '\n' ∉ a :: b :: last :=
    newline_not_mem_append_letters List.not_mem_nil ha hb hline
  rw [ofLiteral, if_neg hbreak, hsplit]
  simp only [Operator.ofToken?_eq_some_iff.mpr htoken]
  rfl

/-- The token of a range behind a timestamp is a range that lacks its end, if the timestamp begins
    with a day, and is not found otherwise. -/
theorem ofLiteral_tokenBehind (hfirst : Timestamp.read (String.ofList first) = .ok t)
    (hline : '\n' ∉ first)
    (htoken : Text.sameIgnoringCase Operator.between.token (String.ofList [a, b]) = true) :
    (BeginsWithDay first → ofLiteral (first ++ [a, b]) = .missingBound) ∧
    (¬BeginsWithDay first → ofLiteral (first ++ [a, b]) = .at .equals (first ++ [a, b])) := by
  obtain ⟨ha, hb⟩ := Operator.isAlpha_of_pair (by simp) htoken
  have hchain : first.IsChain Apart := (Timestamp.isChain_of_read hfirst 'a').tail
  have hsplit : splitOperator? (first ++ [a, b]) = none := by
    have hday : startsWithDay [] = false := rfl
    rw [splitOperator?_append_letters hchain hb, splitOperator?, if_neg (by simp [hday]),
      splitOperator?_of_isChain (.singleton b)]
    rfl
  have hopen := isOpenRange_append_token (fun _ => Timestamp.isDigit_of_read hfirst) htoken
  rw [ofLiteral, if_neg (newline_not_mem_append_letters hline ha hb List.not_mem_nil), hsplit,
    ofPlain]
  exact ⟨fun hday => if_pos (hopen.mpr hday), fun hday => if_neg (mt hopen.mp hday)⟩

end DateShape

end Letters

/-! ### Reading -/

/-- A filter value that is one literal, and no sign. -/
def IsPlainLiteral (literal : String) : Prop :=
  Alternative.IsLiteral literal ∧ Alternative.isNullLiteral literal = false

namespace FieldFilter

variable {k : FilterKind} {key literal : String}

/-- The filter of a date field with one alternative that is not negated. -/
def ofDate (key : String) (op : Operator) (x : DateOperand) : FieldFilter where
  kind := .date
  name := key
  values := [⟨op, false, some x⟩]

/-- A date filter refuses a text as no date: the error shows the text, and the cause is why the
    text cannot be read as a timestamp. -/
def RefusesDate (key literal : String) : Prop :=
  ∃ cause, Timestamp.read literal = .error cause ∧
    read .date key (some literal) =
      .error (.wrongValue key "date" literal (some (.timestamp cause)))

/-- A literal that stands for itself is the only alternative of a filter. -/
theorem read_literal (h : IsPlainLiteral literal) :
    read k key (some literal) = (k.readLiteral key literal).map
      fun (op, x) => some ⟨k, key, [⟨op, false, some x⟩]⟩ := by
  obtain ⟨hliteral, hnull⟩ := h
  have hnegates : Alternative.negates literal.toList = false := hliteral.positive
  have hequals : Alternative.ofLiteral false literal = ⟨.equals, false, literal⟩ := by
    have hnull : Text.sameIgnoringCase literal Operator.null.token = false := hnull
    rw [Alternative.ofLiteral, hnull, if_neg Bool.false_ne_true]
  rw [read, Alternative.split_eq_map_parts, hliteral.parts_eq, List.map_singleton, hnegates,
    hliteral.literalOf_eq, hequals]
  simp only [Alternative.parseAll, Alternative.parse, Alternative.isNull]
  cases k.readLiteral key literal <;> rfl

/-- A literal in one of the forms of dates is read as what the form says. -/
theorem read_of_says {form : DateForm} {op : Operator} {x : DateOperand}
    (h : IsPlainLiteral literal) (hchars : form.chars = literal.toList) (hform : form.Says op x) :
    read .date key (some literal) = .ok (some (ofDate key op x)) := by
  rw [read_literal h, FilterKind.readLiteral, DateOperand.read_of_says hchars hform]
  rfl

/-- A literal without one of its bounds is refused as empty. -/
theorem read_of_missingBound (h : IsPlainLiteral literal)
    (hshape : DateShape.ofLiteral literal.toList = .missingBound) :
    read .date key (some literal) = .error (.emptyValue key "date" literal) := by
  rw [read_literal h, FilterKind.readLiteral, DateOperand.read, hshape]
  rfl

/-- A literal that is not cut, and has two letters side by side, is no date. -/
theorem refusesDate_of_letters {a b : Char} (h : IsPlainLiteral literal)
    (hshape : DateShape.ofLiteral literal.toList = .at .equals literal.toList)
    (ha : a.isAlpha = true) (hb : b.isAlpha = true) (hletters : [a, b] <:+: literal.toList) :
    RefusesDate key literal := by
  obtain ⟨cause, hcause⟩ := Timestamp.exists_error_of_letters ha hb hletters
  refine ⟨cause, hcause, ?_⟩
  rw [read_literal h, FilterKind.readLiteral, DateOperand.read, hshape, DateOperand.ofShape,
    DateOperand.readDate, String.ofList_toList, hcause]
  rfl

/-! ### Dates with operators -/

section Dates

variable {d d' token : String} {t t' : Timestamp} {op : Operator}

/-- A token has two letters. -/
theorem exists_letters_of_token (hop : op ∈ [.equals, .inferior, .superior, .between])
    (htoken : Text.sameIgnoringCase op.token token = true) :
    ∃ a b, token.toList = [a, b] ∧ a.isAlpha = true ∧ b.isAlpha = true ∧
      Text.sameIgnoringCase op.token (String.ofList [a, b]) = true := by
  rw [← String.ofList_toList (s := token)] at htoken
  obtain ⟨a, b, hab, ha, hb⟩ := Operator.isAlpha_of_token hop htoken
  exact ⟨a, b, hab, ha, hb, hab ▸ htoken⟩

/-- A date behind the token of a comparison. -/
theorem read_comparison (h : Timestamp.read d = .ok t) (hline : '\n' ∉ d.toList)
    (hop : op ∈ [.equals, .inferior, .superior])
    (htoken : Text.sameIgnoringCase op.token token = true) (hday : BeginsWithDay d.toList)
    (hplain : IsPlainLiteral (token ++ d)) :
    read .date key (some (token ++ d)) = .ok (some (ofDate key op (.at t))) := by
  obtain ⟨a, b, hab, -, -, htoken⟩ :=
    exists_letters_of_token (List.subset_append_left _ [.between] hop) htoken
  rw [← String.ofList_toList (s := d)] at h
  have hchars : (DateForm.single a b d.toList).chars = (token ++ d).toList := by
    rw [String.toList_append, hab]
    rfl
  exact read_of_says hplain hchars (.single hop htoken hline hday h)

/-- Two dates with the token of a range between them. -/
theorem read_range (h : Timestamp.read d = .ok t) (h' : Timestamp.read d' = .ok t')
    (hline : '\n' ∉ d.toList) (hline' : '\n' ∉ d'.toList)
    (htoken : Text.sameIgnoringCase Operator.between.token token = true)
    (hday : BeginsWithDay d'.toList) (hplain : IsPlainLiteral (d ++ token ++ d')) :
    read .date key (some (d ++ token ++ d')) = .ok (some (ofDate key .between (.range t t'))) := by
  obtain ⟨a, b, hab, -, -, htoken⟩ := exists_letters_of_token (by simp) htoken
  rw [← String.ofList_toList (s := d)] at h
  rw [← String.ofList_toList (s := d')] at h'
  have hchars : (DateForm.range d.toList a b d'.toList).chars = (d ++ token ++ d').toList := by
    rw [String.toList_append, String.toList_append, hab, DateForm.chars, List.append_assoc]
    rfl
  exact read_of_says hplain hchars (.range htoken hline hline' hday h h')

/-- A token in front of a date that does not begin with a day. -/
theorem refusesDate_of_tokenBefore {first : String} (hfirst : first.toList.IsChain Apart)
    (hline : '\n' ∉ first.toList) (h : Timestamp.read d = .ok t) (hline' : '\n' ∉ d.toList)
    (hop : op ∈ [.equals, .inferior, .superior, .between])
    (htoken : Text.sameIgnoringCase op.token token = true) (hday : ¬BeginsWithDay d.toList)
    (hplain : IsPlainLiteral (first ++ token ++ d)) : RefusesDate key (first ++ token ++ d) := by
  obtain ⟨a, b, hab, ha, hb, -⟩ := exists_letters_of_token hop htoken
  rw [← String.ofList_toList (s := d)] at h
  have hchars : (first ++ token ++ d).toList = first.toList ++ a :: b :: d.toList := by
    rw [String.toList_append, String.toList_append, hab, List.append_assoc]
    rfl
  refine refusesDate_of_letters hplain ?_ ha hb ?_
  · rw [hchars]
    exact DateShape.ofLiteral_notCut hfirst hline ha hb h hline' hday
  · rw [hchars]
    exact ⟨first.toList, d.toList, by simp⟩

/-- The token of a range in front of a date that begins with a day. -/
theorem read_tokenBefore (hline : '\n' ∉ d.toList)
    (htoken : Text.sameIgnoringCase Operator.between.token token = true)
    (hday : BeginsWithDay d.toList) (hplain : IsPlainLiteral (token ++ d)) :
    read .date key (some (token ++ d)) = .error (.emptyValue key "date" (token ++ d)) := by
  obtain ⟨a, b, hab, -, -, htoken⟩ := exists_letters_of_token (by simp) htoken
  apply read_of_missingBound hplain
  rw [String.toList_append, hab]
  exact DateShape.ofLiteral_tokenBefore htoken hline hday

/-- The token of a range behind a date. -/
theorem read_tokenBehind (h : Timestamp.read d = .ok t) (hline : '\n' ∉ d.toList)
    (htoken : Text.sameIgnoringCase Operator.between.token token = true)
    (hplain : IsPlainLiteral (d ++ token)) :
    (BeginsWithDay d.toList →
      read .date key (some (d ++ token)) = .error (.emptyValue key "date" (d ++ token))) ∧
    (¬BeginsWithDay d.toList → RefusesDate key (d ++ token)) := by
  obtain ⟨a, b, hab, ha, hb, htoken⟩ := exists_letters_of_token (by simp) htoken
  rw [← String.ofList_toList (s := d)] at h
  have hchars : (d ++ token).toList = d.toList ++ [a, b] := by rw [String.toList_append, hab]
  obtain ⟨hbegins, hnone⟩ := DateShape.ofLiteral_tokenBehind h hline htoken
  constructor
  · intro hday
    apply read_of_missingBound hplain
    rw [hchars, hbegins hday]
  · intro hday
    refine refusesDate_of_letters hplain ?_ ha hb ?_
    · rw [hchars, hnone hday]
    · rw [hchars]
      exact (List.suffix_append d.toList [a, b]).isInfix

end Dates

/-- **Dates with operators.** Every text that is read as a timestamp is read as this date alone.
    Behind the token of a comparison, and at the end of a range, in any ASCII case, the same texts
    are read as the same dates if they begin with a day, `dddd-dd-dd`; and a range that lacks one
    of its dates is refused as empty if the other begins with a day.  A text without a day is no
    date there, but it is one at the beginning of a range. -/
theorem read_dates {d d' : String} {t t' : Timestamp} (h : Timestamp.read d = .ok t)
    (h' : Timestamp.read d' = .ok t') (hline : '\n' ∉ d.toList) (hline' : '\n' ∉ d'.toList)
    (key : String) :
    read .date key (some d) = .ok (some (ofDate key .equals (.at t))) ∧
    (∀ op ∈ [Operator.equals, .inferior, .superior], ∀ token,
      Text.sameIgnoringCase op.token token = true →
        (BeginsWithDay d.toList →
          read .date key (some (token ++ d)) = .ok (some (ofDate key op (.at t)))) ∧
        (¬BeginsWithDay d.toList → RefusesDate key (token ++ d))) ∧
    ∀ token, Text.sameIgnoringCase Operator.between.token token = true →
      (BeginsWithDay d'.toList → read .date key (some (d ++ token ++ d')) =
        .ok (some (ofDate key .between (.range t t')))) ∧
      (¬BeginsWithDay d'.toList → RefusesDate key (d ++ token ++ d')) ∧
      (BeginsWithDay d.toList →
        read .date key (some (token ++ d)) = .error (.emptyValue key "date" (token ++ d)) ∧
        read .date key (some (d ++ token)) = .error (.emptyValue key "date" (d ++ token))) ∧
      (¬BeginsWithDay d.toList → RefusesDate key (token ++ d) ∧ RefusesDate key (d ++ token)) := by
  have hd := Timestamp.isDateText_of_read h
  have hd' := Timestamp.isDateText_of_read h'
  have hplain {literal : String} (hne : literal ≠ "") (hchars : IsDateText literal) :
      IsPlainLiteral literal := Alternative.isLiteral_of_forall hne hchars
  have hne {first last : String} (h : last ≠ "") : first ++ last ≠ "" :=
    fun hempty => h (String.append_eq_empty_iff.mp hempty).2
  have hchain : d.toList.IsChain Apart := by
    rw [← String.ofList_toList (s := d)] at h
    exact (Timestamp.isChain_of_read h 'a').tail
  have hbefore {op : Operator} (hop : op ∈ [.equals, .inferior, .superior, .between])
      {token : String} (htoken : Text.sameIgnoringCase op.token token = true) :
      IsPlainLiteral (token ++ d) ∧ (¬BeginsWithDay d.toList → RefusesDate key (token ++ d)) := by
    have hliteral := hplain (hne (Timestamp.ne_empty_of_read h))
      ((Operator.isDateText_of_token hop htoken).append hd)
    refine ⟨hliteral, fun hday => ?_⟩
    rw [← String.empty_append (s := token)] at hliteral ⊢
    exact refusesDate_of_tokenBefore .nil List.not_mem_nil h hline hop htoken hday hliteral
  refine ⟨?_, fun op hop token htoken => ?_, fun token htoken => ?_⟩
  · have hform : (DateForm.plain d.toList).Says .equals (.at t) :=
      .plain (by rw [String.ofList_toList]; exact h)
    exact read_of_says (hplain (Timestamp.ne_empty_of_read h) hd) rfl hform
  · obtain ⟨hliteral, hrefused⟩ := hbefore (List.subset_append_left _ [.between] hop) htoken
    exact ⟨fun hday => read_comparison h hline hop htoken hday hliteral, hrefused⟩
  · have htext := Operator.isDateText_of_token (by simp) htoken
    have hrange := hplain (hne (Timestamp.ne_empty_of_read h')) ((hd.append htext).append hd')
    have hbehind : IsPlainLiteral (d ++ token) := by
      refine hplain (hne ?_) (hd.append htext)
      rintro rfl
      cases htoken
    obtain ⟨hliteral, hrefused⟩ := hbefore (by simp) htoken
    obtain ⟨hbegins, hnone⟩ := read_tokenBehind h hline htoken hbehind
    refine ⟨fun hday => read_range h h' hline hline' htoken hday hrange, fun hday => ?_,
      fun hday => ⟨read_tokenBefore hline htoken hday hliteral, hbegins hday⟩,
      fun hday => ⟨hrefused hday, hnone hday⟩⟩
    exact refusesDate_of_tokenBefore hchain hline h' hline' (by simp) htoken hday hrange

/-- A month of one digit: the date can begin a range, but stands behind no token. -/
theorem read_dates_short :
    ∃ t t', Timestamp.read "2024-1-2" = .ok t ∧ Timestamp.read "2024-01-03T01:00:00Z" = .ok t' ∧
      read .date "date" (some ("Lt" ++ "2024-01-03T01:00:00Z")) =
        .ok (some (ofDate "date" .inferior (.at t'))) ∧
      read .date "date" (some ("2024-1-2" ++ "bT" ++ "2024-01-03T01:00:00Z")) =
        .ok (some (ofDate "date" .between (.range t t'))) ∧
      RefusesDate "date" ("2024-01-03T01:00:00Z" ++ "bt" ++ "2024-1-2") := by
  have hshort : ∃ t, Timestamp.read "2024-1-2" = .ok t := ⟨_, rfl⟩
  have hlong : ∃ t, Timestamp.read "2024-01-03T01:00:00Z" = .ok t := ⟨_, rfl⟩
  obtain ⟨t, ht⟩ := hshort
  obtain ⟨t', ht'⟩ := hlong
  have hday : BeginsWithDay "2024-01-03T01:00:00Z".toList :=
    ⟨"2024".toList, "01".toList, "03".toList, "T01:00:00Z".toList, rfl, rfl, rfl, rfl,
      List.all_eq_true.mp (by decide)⟩
  have hnone : ¬BeginsWithDay "2024-1-2".toList :=
    mt DateShape.startsWithDay_of_beginsWithDay (by decide)
  obtain ⟨-, -, hrange⟩ := read_dates ht ht' (by decide) (by decide) "date"
  obtain ⟨-, hcomparison, hswapped⟩ := read_dates ht' ht (by decide) (by decide) "date"
  exact ⟨t, t', ht, ht', (hcomparison .inferior (by decide) "Lt" (by decide)).1 hday,
    (hrange "bT" (by decide)).1 hday, (hswapped "bt" (by decide)).2.1 hnone⟩

/-- The operators do not accept the same dates: this one is a date alone, and neither behind the
    token of an equality nor in front of the token of a range. -/
theorem operators_differ :
    ∃ t, Timestamp.read "2024-1-1" = .ok t ∧ '|' ∉ "2024-1-1".toList ∧ '\n' ∉ "2024-1-1".toList ∧
      read .date "date" (some "2024-1-1") = .ok (some (ofDate "date" .equals (.at t))) ∧
      RefusesDate "date" "eq2024-1-1" ∧ RefusesDate "date" "2024-1-1bt" :=
  ⟨_, rfl, by decide, by decide, rfl, ⟨_, rfl, rfl⟩, ⟨_, rfl, rfl⟩⟩

end FieldFilter

end FilterQuery
