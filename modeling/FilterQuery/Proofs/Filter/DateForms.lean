import FilterQuery.Proofs.Calendar.Scanning
import FilterQuery.Proofs.Filter.Literals
import Mathlib.Data.List.Chain

namespace FilterQuery

/-!
# Forms of date literals

A date literal is one date, one date behind the token of a comparison, or two dates with the
token of a range between them.  Dates may hold letters, white space and signs of their own, but
never two letters side by side: the token of a literal is found where it was written.

* `DateForm`, `DateForm.Says` — the forms, and what a form says whose dates can be read;
* `DateShape.splitOperator?_append` — a literal is cut at its token;
* `DateForm.Says.ofLiteral_eq` — a literal in one of the forms has the shape of this form;
* `DateOperand.read_eq_ok_iff` — the literals that are read are those in one of the forms, and
  none is in two of them.
-/

/-! ### Tokens -/

theorem Text.isAlpha_of_toLower {c d : Char} (h : c.toLower = d) (hd : d.isAlpha = true) :
    c.isAlpha = true := by
  by_contra hc
  rw [toLower_of_not_isAlpha (Bool.not_eq_true _ ▸ hc)] at h
  exact hc (h ▸ hd)

namespace Operator

/-- An operator is found by its token, in any ASCII case. -/
theorem ofToken?_eq_some_iff {token : String} {op : Operator} :
    ofToken? token = some op ↔ Text.sameIgnoringCase op.token token = true := by
  have hlower : op.token.toList.map Char.toLower = op.token.toList := by
    cases op <;> decide
  constructor
  · exact List.find?_some (p := fun op : Operator => Text.sameIgnoringCase op.token token)
  · intro h
    rw [Text.sameIgnoringCase, hlower, beq_iff_eq] at h
    unfold ofToken? Text.sameIgnoringCase
    rw [← h]
    cases op <;> decide

/-- The tokens of dates are two letters. -/
theorem isAlpha_of_token {op : Operator} (hop : op ∈ [equals, inferior, superior, between])
    {cs : List Char} (h : Text.sameIgnoringCase op.token (String.ofList cs) = true) :
    ∃ a b, cs = [a, b] ∧ a.isAlpha = true ∧ b.isAlpha = true := by
  have hletters : ∃ x y, op.token.toList.map Char.toLower = [x, y] ∧
      x.isAlpha = true ∧ y.isAlpha = true := by
    cases op with
    | null | like => simp at hop
    | equals | inferior | superior | between => exact ⟨_, _, rfl, by decide, by decide⟩
  obtain ⟨x, y, htoken, hx, hy⟩ := hletters
  rw [Text.sameIgnoringCase, htoken, String.toList_ofList, beq_iff_eq, eq_comm] at h
  obtain ⟨a, rest, rfl, ha, hrest⟩ := List.map_eq_cons_iff.mp h
  obtain ⟨b, rest', rfl, hb, hrest'⟩ := List.map_eq_cons_iff.mp hrest
  obtain rfl := List.map_eq_nil_iff.mp hrest'
  exact ⟨a, b, rfl, Text.isAlpha_of_toLower ha hx, Text.isAlpha_of_toLower hb hy⟩

theorem isAlpha_of_pair {op : Operator} (hop : op ∈ [equals, inferior, superior, between])
    {a b : Char} (h : Text.sameIgnoringCase op.token (String.ofList [a, b]) = true) :
    a.isAlpha = true ∧ b.isAlpha = true := by
  obtain ⟨a', b', hpair, ha, hb⟩ := isAlpha_of_token hop h
  simp only [List.cons.injEq, and_true] at hpair
  obtain ⟨rfl, rfl⟩ := hpair
  exact ⟨ha, hb⟩

end Operator

/-! ### Days -/

/-- Four digits, two and two, with hyphens between them, stand in front of a text. -/
def BeginsWithDay (cs : List Char) : Prop :=
  ∃ year month day rest, cs = year ++ '-' :: (month ++ '-' :: (day ++ rest)) ∧
    year.length = 4 ∧ month.length = 2 ∧ day.length = 2 ∧
    ∀ c ∈ year ++ month ++ day, c.isDigit = true

namespace DateShape

/-- What stands behind a day is the rest of the text. -/
theorem afterDay?_of_digits {year month day : List Char} (hyear : year.length = 4)
    (hmonth : month.length = 2) (hday : day.length = 2)
    (hdigits : ∀ c ∈ year ++ month ++ day, c.isDigit = true) (rest : List Char) :
    afterDay? (year ++ '-' :: (month ++ '-' :: (day ++ rest))) = some rest := by
  have hdecimal : ∀ c ∈ year ++ month ++ day, Text.isDecimalDigit c = true :=
    fun c hc => Text.isDecimalDigit_of_isDigit (hdigits c hc)
  match year, hyear, month, hmonth, day, hday with
  | [y₁, y₂, y₃, y₄], _, [m₁, m₂], _, [d₁, d₂], _ =>
    have hall : [y₁, y₂, y₃, y₄, m₁, m₂, d₁, d₂].all Text.isDecimalDigit = true :=
      List.all_eq_true.mpr hdecimal
    simp [afterDay?, hall]

theorem startsWithDay_of_beginsWithDay {cs : List Char} (h : BeginsWithDay cs) :
    startsWithDay cs = true := by
  obtain ⟨year, month, day, rest, rfl, hyear, hmonth, hday, hdigits⟩ := h
  rw [startsWithDay, afterDay?_of_digits hyear hmonth hday hdigits]
  rfl

/-- Of a text that has no other decimal digits than those of ASCII, the test for a day says
    what it should. -/
theorem beginsWithDay_of_startsWithDay {cs : List Char} (h : startsWithDay cs = true)
    (hdigits : ∀ c ∈ cs, Text.isDecimalDigit c = true → c.isDigit = true) : BeginsWithDay cs := by
  rw [startsWithDay, afterDay?.eq_def] at h
  split at h
  · next y₁ y₂ y₃ y₄ m₁ m₂ d₁ d₂ rest =>
    split at h
    · next hall =>
      refine ⟨[y₁, y₂, y₃, y₄], [m₁, m₂], [d₁, d₂], rest, rfl, rfl, rfl, rfl, ?_⟩
      intro c hc
      refine hdigits c ?_ (List.all_eq_true.mp hall c hc)
      simp only [List.cons_append, List.nil_append, List.mem_cons, List.not_mem_nil] at hc ⊢
      tauto
    · cases h
  · cases h

/-- A letter in front of a text is not the beginning of a day. -/
theorem startsWithDay_cons {c : Char} (hc : c.isAlpha = true) (cs : List Char) :
    startsWithDay (c :: cs) = false := by
  have hdigit : Text.isDecimalDigit c = false := Text.isDecimalDigit_of_isAlpha hc
  rw [startsWithDay, afterDay?.eq_def]
  split
  · next heq =>
    obtain ⟨rfl, -⟩ := List.cons.inj heq
    simp [hdigit]
  · rfl

theorem afterDay?_suffix {cs rest : List Char} (h : afterDay? cs = some rest) : rest <:+ cs := by
  rw [afterDay?.eq_def] at h
  split at h
  · next y₁ y₂ y₃ y₄ m₁ m₂ d₁ d₂ rest' =>
    split at h
    · obtain rfl := Option.some.inj h
      exact ⟨[y₁, y₂, y₃, y₄, '-', m₁, m₂, '-', d₁, d₂], rfl⟩
    · cases h
  · cases h

/-! ### Cutting literals -/

/-- Letters between texts add no line break. -/
theorem newline_not_mem_append_letters {first last : List Char} {a b : Char}
    (hfirst : '\n' ∉ first) (ha : a.isAlpha = true) (hb : b.isAlpha = true)
    (hlast : '\n' ∉ last) : '\n' ∉ first ++ a :: b :: last := by
  rw [List.mem_append]
  rintro (hmem | _ | ⟨_, _ | ⟨_, hmem⟩⟩)
  · exact hfirst hmem
  · cases ha
  · cases hb
  · exact hlast hmem

/-- A literal is cut at two letters in front of a day. -/
theorem eq_of_splitOperator? {cs start last : List Char} {token : String}
    (h : splitOperator? cs = some (start, token, last)) :
    startsWithDay last = true ∧
      ∃ a b, token = String.ofList [a, b] ∧ cs = start ++ a :: b :: last := by
  fun_induction splitOperator? cs generalizing start with
  | case1 a b rest hday =>
    simp only [Option.some.injEq, Prod.mk.injEq] at h
    obtain ⟨rfl, rfl, rfl⟩ := h
    rw [Bool.and_eq_true] at hday
    exact ⟨hday.2, a, b, rfl, rfl⟩
  | case2 a b rest hday ih =>
    obtain ⟨⟨start', token', last'⟩, hrest, hsplit⟩ := Option.map_eq_some_iff.mp h
    obtain ⟨rfl, rfl, rfl⟩ := hsplit
    obtain ⟨hlast, x, y, htoken, hcs⟩ := ih hrest
    exact ⟨hlast, x, y, htoken, by rw [hcs]; rfl⟩
  | case3 => cases h

/-- A text that keeps letters apart holds no token. -/
theorem splitOperator?_of_isChain {cs : List Char} (h : cs.IsChain Apart) :
    splitOperator? cs = none := by
  fun_induction splitOperator? cs with
  | case1 a b rest hday =>
    obtain ⟨hapart, -⟩ := List.isChain_cons_cons.mp h
    obtain ha | hb := hapart
    · simp [ha] at hday
    · simp [hb] at hday
  | case2 a b rest _ ih => rw [ih h.tail, Option.map_none]
  | case3 => rfl

/-- A text that keeps letters apart has no two letters side by side. -/
theorem not_infix_of_isChain {cs : List Char} {a b : Char} (h : cs.IsChain Apart)
    (ha : a.isAlpha = true) (hb : b.isAlpha = true) : ¬[a, b] <:+: cs := by
  intro hletters
  have hpair : [a, b].IsChain Apart := h.infix hletters
  have hapart : Apart a b := (List.isChain_cons_cons.mp hpair).1
  simp [Apart, ha, hb] at hapart

/-- A range without an end has the two letters of its token at the end. -/
theorem exists_letters_of_isOpenRange {cs : List Char} (h : isOpenRange cs = true) :
    ∃ a b, [a, b] <:+ cs ∧ a.isAlpha = true ∧ b.isAlpha = true := by
  rw [isOpenRange] at h
  split at h
  · next rest hrest =>
    rw [Bool.and_eq_true, Text.sameIgnoringCase, BEq.comm] at h
    have htoken : Text.sameIgnoringCase Operator.between.token
        (String.ofList (rest.drop (rest.length - 2))) = true := h.2
    obtain ⟨a, b, hlast, ha, hb⟩ := Operator.isAlpha_of_token (by simp) htoken
    refine ⟨a, b, ?_, ha, hb⟩
    rw [← hlast]
    exact (List.drop_suffix _ _).trans (afterDay?_suffix hrest)
  · cases h

/-- A text that keeps letters apart does not end in the token of a range. -/
theorem isOpenRange_of_isChain {cs : List Char} (h : cs.IsChain Apart) :
    isOpenRange cs = false := by
  rw [← Bool.not_eq_true]
  intro hopen
  obtain ⟨a, b, hsuffix, ha, hb⟩ := exists_letters_of_isOpenRange hopen
  exact not_infix_of_isChain h ha hb hsuffix.isInfix

/-- Behind a text that keeps letters apart, a literal is cut where it is cut without this text. -/
theorem splitOperator?_append_letters {first : List Char} {a b : Char}
    (hfirst : first.IsChain Apart) (hb : b.isAlpha = true) (last : List Char) :
    splitOperator? (first ++ a :: b :: last) =
      (splitOperator? (a :: b :: last)).map
        fun (start, token, rest) => (first ++ start, token, rest) := by
  induction first with
  | nil =>
    rw [List.nil_append]
    cases splitOperator? (a :: b :: last) <;> rfl
  | cons c first ih =>
    have hrest := ih hfirst.tail
    have hshift (o : Option (List Char × String × List Char)) :
        (o.map fun (start, token, rest) => (first ++ start, token, rest)).map
            (fun (start, token, rest) => (c :: start, token, rest)) =
          o.map fun (start, token, rest) => (c :: first ++ start, token, rest) := by
      cases o <;> rfl
    cases first with
    | nil =>
      -- the last character of the first text may be a letter, but behind it stands no day
      have hday : startsWithDay (b :: last) = false := startsWithDay_cons hb last
      rw [List.singleton_append, splitOperator?, if_neg (by simp [hday])]
      rfl
    | cons d first =>
      have hapart : (c.isAlpha && d.isAlpha) = false := by
        rw [Bool.and_eq_false_iff]
        exact (List.isChain_cons_cons.mp hfirst).1
      rw [List.cons_append] at hrest
      rw [List.cons_append, List.cons_append, splitOperator?, if_neg (by simp [hapart]), hrest,
        hshift]

/-- A literal is cut at the token that stands behind a text that keeps letters apart. -/
theorem splitOperator?_append {first last : List Char} {a b : Char} (hfirst : first.IsChain Apart)
    (ha : a.isAlpha = true) (hb : b.isAlpha = true) (hlast : startsWithDay last = true) :
    splitOperator? (first ++ a :: b :: last) = some (first, String.ofList [a, b], last) := by
  rw [splitOperator?_append_letters hfirst hb, splitOperator?, if_pos (by simp [ha, hb, hlast])]
  simp

end DateShape

/-! ### Forms -/

/-- A date literal taken apart. -/
inductive DateForm where
  | plain (date : List Char)
  | single (a b : Char) (date : List Char)
  | range (first : List Char) (a b : Char) (last : List Char)

namespace DateForm

/-- The literal. -/
def chars : DateForm → List Char
  | .plain date => date
  | .single a b date => a :: b :: date
  | .range first a b last => first ++ a :: b :: last

/-- What a literal says: it is a date; or the token of an operator and a date; or two dates with
    the token of a range between them.  A date behind a token begins with a day, and literals
    with a token have no line break. -/
inductive Says : DateForm → Operator → DateOperand → Prop
  | plain {date : List Char} {t : Timestamp} (h : Timestamp.read (String.ofList date) = .ok t) :
    Says (.plain date) .equals (.at t)
  | single {op : Operator} {a b : Char} {date : List Char} {t : Timestamp}
    (hop : op ∈ [.equals, .inferior, .superior])
    (htoken : Text.sameIgnoringCase op.token (String.ofList [a, b]) = true)
    (hline : '\n' ∉ date) (hday : BeginsWithDay date)
    (h : Timestamp.read (String.ofList date) = .ok t) :
    Says (.single a b date) op (.at t)
  | range {first last : List Char} {a b : Char} {s t : Timestamp}
    (htoken : Text.sameIgnoringCase Operator.between.token (String.ofList [a, b]) = true)
    (hline : '\n' ∉ first) (hline' : '\n' ∉ last) (hday : BeginsWithDay last)
    (hfirst : Timestamp.read (String.ofList first) = .ok s)
    (hlast : Timestamp.read (String.ofList last) = .ok t) :
    Says (.range first a b last) .between (.range s t)

/-- The shape of the literal, with the given operator. -/
def shape (op : Operator) : DateForm → DateShape
  | .plain date => .at op date
  | .single _ _ date => .at op date
  | .range first _ _ last => .range first last

/-- A literal in one of the forms has the shape of this form: it is cut at its token and nowhere
    else. -/
theorem Says.ofLiteral_eq {form : DateForm} {op : Operator} {x : DateOperand}
    (h : form.Says op x) : DateShape.ofLiteral form.chars = form.shape op := by
  cases h with
  | @plain date t h =>
    have hchain : date.IsChain Apart := (Timestamp.isChain_of_read h 'a').tail
    show DateShape.ofLiteral date = .at .equals date
    rw [DateShape.ofLiteral, DateShape.splitOperator?_of_isChain hchain, DateShape.ofPlain,
      DateShape.isOpenRange_of_isChain hchain, if_neg Bool.false_ne_true, ite_self]
  | @single _ a b date t hop htoken hline hday h =>
    obtain ⟨ha, hb⟩ := Operator.isAlpha_of_pair (List.subset_append_left _ [.between] hop) htoken
    have hline' : '\n' ∉ a :: b :: date :=
      DateShape.newline_not_mem_append_letters List.not_mem_nil ha hb hline
    have hsplit :
        DateShape.splitOperator? (a :: b :: date) = some ([], String.ofList [a, b], date) :=
      DateShape.splitOperator?_append .nil ha hb (DateShape.startsWithDay_of_beginsWithDay hday)
    show DateShape.ofLiteral (a :: b :: date) = .at op date
    rw [DateShape.ofLiteral, if_neg hline', hsplit]
    simp only [Operator.ofToken?_eq_some_iff.mpr htoken]
    cases op with
    | equals | inferior | superior => rfl
    | null | like | between => simp at hop
  | @range first last a b s t htoken hline hline' hday hfirst hlast =>
    obtain ⟨ha, hb⟩ := Operator.isAlpha_of_pair (by simp) htoken
    have hchain : first.IsChain Apart := (Timestamp.isChain_of_read hfirst 'a').tail
    have hline := DateShape.newline_not_mem_append_letters hline ha hb hline'
    have hsplit := DateShape.splitOperator?_append hchain ha hb
      (DateShape.startsWithDay_of_beginsWithDay hday)
    show DateShape.ofLiteral (first ++ a :: b :: last) = .range first last
    rw [DateShape.ofLiteral, if_neg hline, hsplit]
    simp only [Operator.ofToken?_eq_some_iff.mpr htoken]
    cases first with
    | nil => cases hfirst
    | cons c first => rfl

/-- A literal is in one form at most. -/
theorem Says.unique {form form' : DateForm} {op op' : Operator} {x x' : DateOperand}
    (h : form.Says op x) (h' : form'.Says op' x') (hchars : form.chars = form'.chars) :
    form = form' := by
  have hshape : form.shape op = form'.shape op' := by
    rw [← h.ofLiteral_eq, ← h'.ofLiteral_eq, hchars]
  have hne (a b : Char) (date : List Char) : date ≠ a :: b :: date := by
    intro heq
    have hlength := congrArg List.length heq
    rw [List.length_cons, List.length_cons] at hlength
    omega
  -- the shape has the dates of the form, which leave the rest of the literal for the token
  cases h with
  | plain =>
    cases h' with
    | plain => exact congrArg DateForm.plain (DateShape.at.inj hshape).2
    | single =>
      obtain ⟨-, rfl⟩ := DateShape.at.inj hshape
      exact absurd hchars (hne _ _ _)
    | range => cases hshape
  | single =>
    cases h' with
    | plain =>
      obtain ⟨-, rfl⟩ := DateShape.at.inj hshape
      exact absurd hchars.symm (hne _ _ _)
    | single =>
      obtain ⟨rfl, hrest⟩ := List.cons.inj hchars
      obtain ⟨rfl, rfl⟩ := List.cons.inj hrest
      rfl
    | range => cases hshape
  | range =>
    cases h' with
    | plain | single => cases hshape
    | range =>
      obtain ⟨rfl, rfl⟩ := DateShape.range.inj hshape
      obtain ⟨rfl, hrest⟩ := List.cons.inj (List.append_cancel_left hchars)
      obtain ⟨rfl, -⟩ := List.cons.inj hrest
      rfl

end DateForm

/-! ### Reading -/

namespace DateOperand

theorem readDate_eq_ok {field literal : String} {date : List Char} {t : Timestamp}
    (h : Timestamp.read (String.ofList date) = .ok t) : readDate field literal date = .ok t := by
  rw [readDate, h]
  rfl

/-- A literal in one of the forms is read as what the form says. -/
theorem read_of_says {field literal : String} {form : DateForm} {op : Operator} {x : DateOperand}
    (hchars : form.chars = literal.toList) (h : form.Says op x) :
    read field literal = .ok (op, x) := by
  rw [read, ← hchars, h.ofLiteral_eq]
  cases h with
  | plain h | single _ _ _ _ h =>
    show ofShape _ _ (.at _ _) = _
    rw [ofShape, readDate_eq_ok h]
    rfl
  | range _ _ _ _ hfirst hlast =>
    show ofShape _ _ (.range _ _) = _
    rw [ofShape, readDate_eq_ok hfirst, readDate_eq_ok hlast]
    rfl

/-- A literal that is read is in one of the forms. -/
theorem exists_says_of_read {field literal : String} {op : Operator} {x : DateOperand}
    (h : read field literal = .ok (op, x)) :
    ∃ form : DateForm, form.chars = literal.toList ∧ form.Says op x := by
  have hplain (h : ofShape field literal (.at .equals literal.toList) = .ok (op, x)) :
      ∃ form : DateForm, form.chars = literal.toList ∧ form.Says op x := by
    obtain ⟨rfl, t, ht, rfl⟩ := ofShape_at h
    exact ⟨.plain literal.toList, rfl, .plain ht⟩
  rw [read, DateShape.ofLiteral] at h
  split at h
  · exact hplain h
  next hline =>
  split at h
  · next first token last hsplit =>
    obtain ⟨hday, a, b, rfl, hcs⟩ := DateShape.eq_of_splitOperator? hsplit
    have hbegins {t : Timestamp} (ht : Timestamp.read (String.ofList last) = .ok t) :
        BeginsWithDay last :=
      DateShape.beginsWithDay_of_startsWithDay hday fun _ => Timestamp.isDigit_of_read ht
    rw [hcs, List.mem_append, List.mem_cons, List.mem_cons] at hline
    simp only [not_or] at hline
    obtain ⟨hfirst, -, -, hlast⟩ := hline
    have hsingle {op' : Operator} (hop : op' ∈ [.equals, .inferior, .superior])
        (htoken : Operator.ofToken? (String.ofList [a, b]) = some op')
        (hcs : literal.toList = a :: b :: last)
        (h : ofShape field literal (.at op' last) = .ok (op, x)) :
        ∃ form : DateForm, form.chars = literal.toList ∧ form.Says op x := by
      obtain ⟨rfl, t, ht, rfl⟩ := ofShape_at h
      exact ⟨.single a b last, hcs.symm,
        .single hop (Operator.ofToken?_eq_some_iff.mp htoken) hlast (hbegins ht) ht⟩
    rw [DateShape.ofSplit.eq_def] at h
    split at h
    · cases h
    · next htoken _ =>
      obtain ⟨rfl, s, t, hs, ht, rfl⟩ := ofShape_range h
      exact ⟨.range _ a b last, hcs.symm,
        .range (Operator.ofToken?_eq_some_iff.mp htoken) hfirst hlast (hbegins ht) hs ht⟩
    · next htoken => exact hsingle (by simp) htoken hcs h
    · next htoken => exact hsingle (by simp) htoken hcs h
    · next htoken => exact hsingle (by simp) htoken hcs h
    · cases h
  · rw [DateShape.ofPlain] at h
    split at h
    · cases h
    · exact hplain h

/-- **Date literals.** A literal is read as an operator and dates exactly where it is in a form
    that says so, and it is in one form at most. -/
theorem read_eq_ok_iff (field literal : String) :
    (∀ op x, read field literal = .ok (op, x) ↔
      ∃ form : DateForm, form.chars = literal.toList ∧ form.Says op x) ∧
    ∀ (form form' : DateForm) (op op' : Operator) (x x' : DateOperand),
      form.chars = literal.toList → form'.chars = literal.toList →
        form.Says op x → form'.Says op' x' → form = form' := by
  refine ⟨fun op x => ⟨exists_says_of_read, ?_⟩, ?_⟩
  · rintro ⟨form, hchars, h⟩
    exact read_of_says hchars h
  · intro form form' op op' x x' hchars hchars' h h'
    exact h.unique h' (hchars.trans hchars'.symm)

/-- The letters within dates are not taken for the token, nor is the `Z` at the end of one. -/
example : ∃ s t, read "date" "2024-01-01T08:00:00ZBt2024-02-01t08:00:00.5z" =
    .ok (.between, .range s t) := ⟨_, _, rfl⟩

end DateOperand

end FilterQuery
