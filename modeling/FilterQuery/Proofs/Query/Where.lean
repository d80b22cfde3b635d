import FilterQuery.Proofs.Query.Numbering
import FilterQuery.Proofs.Search.Conjunction
import FilterQuery.Proofs.Sql.Rendering

namespace FilterQuery

/-!
# What the WHERE clause says

The clause of a query with several conditions is their conjunction.  Its placeholders are
numbered without a gap from the left, and each condition finds its own values at their
numbers.

* `conditionsTruth` — the truth of conditions that each have their own values;
* `Query.whereTruth?` — the truth of the clause, read from its text;
* `Query.whereTruth?_eq`, `Query.placeholders_whereText` — what the clause says;
* `Predicate.standalone` — the text of a predicate can stand among other conditions.
-/

open Search Search.Grammar

/-! ### Truths of conditions -/

/-- The truth of a condition as it is written, with values for its placeholders. -/
def conditionTruth (r : Row) (values : List Cell) (s : String) : Truth :=
  match Expression.ofText? s with
  | some e => e.truth r values
  | none => .unknown

/-- The conjunction of conditions; the placeholders of each take the next values. -/
def conditionsTruth (r : Row) : List Cell → List String → Truth
  | _, [] => .yes
  | values, s :: ss =>
    (conditionTruth r (values.take (placeholderCount s)) s).and
      (conditionsTruth r (values.drop (placeholderCount s)) ss)

/-- The number of placeholders of several conditions. -/
def totalCount : List String → Nat
  | [] => 0
  | s :: ss => placeholderCount s + totalCount ss

theorem totalCount_append (ss us : List String) :
    totalCount (ss ++ us) = totalCount ss + totalCount us := by
  induction ss with
  | nil => rw [List.nil_append, totalCount, Nat.zero_add]
  | cons s ss ih => rw [List.cons_append, totalCount, totalCount, ih, Nat.add_assoc]

theorem conditionsTruth_append (r : Row) {ss : List String} {values : List Cell}
    (h : values.length = totalCount ss) (us : List String) (more : List Cell) :
    conditionsTruth r (values ++ more) (ss ++ us) =
      (conditionsTruth r values ss).and (conditionsTruth r more us) := by
  -- each condition takes its values from the front
  induction ss generalizing values with
  | nil =>
    obtain rfl : values = [] := List.length_eq_zero_iff.mp h
    exact (Truth.yes_and _).symm
  | cons s ss ih =>
    rw [totalCount] at h
    have hle : placeholderCount s ≤ values.length := by omega
    rw [List.cons_append, conditionsTruth, conditionsTruth, List.take_append_of_le_length hle,
      List.drop_append_of_le_length hle, ih (by rw [List.length_drop]; omega), Truth.and_assoc]

/-! ### Numbered conditions -/

theorem numberConditions_cons {s : String} (h : Standalone s) (ss : List String) (n : Nat) :
    numberConditions n (s :: ss) =
      (numberedCondition n s :: (numberConditions (n + placeholderCount s) ss).1,
        (numberConditions (n + placeholderCount s) ss).2) := by
  rw [← h.count_eq n]
  rfl

/-- Conditions are counted one after the other. -/
theorem numberConditions_append {ss : List String} (h : ∀ s ∈ ss, Standalone s) (us : List String)
    (n : Nat) :
    numberConditions n (ss ++ us) =
      ((numberConditions n ss).1 ++ (numberConditions (n + totalCount ss) us).1,
        (numberConditions (n + totalCount ss) us).2) := by
  induction ss generalizing n with
  | nil => rfl
  | cons s ss ih =>
    rw [List.forall_mem_cons] at h
    rw [List.cons_append, numberConditions_cons h.1, numberConditions_cons h.1, ih h.2,
      totalCount, Nat.add_assoc, List.cons_append]

theorem numberConditions_count {ss : List String} (h : ∀ s ∈ ss, Standalone s) (n : Nat) :
    (numberConditions n ss).2 = n + totalCount ss := by
  have := congrArg Prod.snd (numberConditions_append h [] n)
  rwa [List.append_nil] at this

/-- The tokens of conditions in parentheses, numbered one after the other, and what they are
    read as. -/
def groups (n : Nat) : List String → List (List Token × Expression)
  | [] => []
  | s :: ss =>
    (group (Token.numbered n (Token.ofText s)),
      ((Expression.ofText? s).getD .raise).renumber (shifted n (placeholderCount s))) ::
        groups (n + placeholderCount s) ss

theorem Standalone.ofTokens_eq {s : String} (h : Standalone s) :
    Expression.ofTokens (Token.numbered 0 (Token.ofText s)) =
      .ok ((Expression.ofText? s).getD .raise, []) := by
  have hreads := h.reads
  rw [Expression.ofText?] at hreads ⊢
  split at hreads
  · next e heq => rw [heq]; rfl
  · cases hreads

/-- Conditions in parentheses are operands. -/
theorem readsOperand_groups {ss : List String} (h : ∀ s ∈ ss, Standalone s) (n : Nat) :
    ∀ p ∈ groups n ss, ReadsOperand p.1 p.2 := by
  induction ss generalizing n with
  | nil => exact fun p hp => by cases hp
  | cons s ss ih =>
    rw [List.forall_mem_cons] at h
    refine List.forall_mem_cons.mpr ⟨?_, ih h.2 _⟩
    have htokens := Token.numbered_eq_map h.1.isBare_tokens n 0 (Nat.le_of_eq (Nat.zero_add _))
    rw [Nat.zero_add] at htokens
    show ReadsOperand (group (Token.numbered n (Token.ofText s))) _
    rw [htokens]
    exact readsOperand_group (shifted_zero _ _) h.1.ofTokens_eq

/-- The conditions find their own values. -/
theorem truth_groups {ss : List String} (h : ∀ s ∈ ss, Standalone s) (r : Row)
    {values : List Cell} (hvalues : values.length = totalCount ss) (before : List Cell) :
    Truth.all ((groups before.length ss).map fun p => p.2.truth r (before ++ values)) =
      conditionsTruth r values ss := by
  -- by induction on the conditions, whose values move over to those before one by one
  induction ss generalizing values before with
  | nil => rfl
  | cons s ss ih =>
    rw [List.forall_mem_cons] at h
    rw [totalCount] at hvalues
    obtain ⟨e, he⟩ := Option.isSome_iff_exists.mp h.1.reads
    have hlength : (values.take (placeholderCount s)).length = placeholderCount s := by
      rw [List.length_take]
      omega
    have hsplit : before ++ values =
        before ++ values.take (placeholderCount s) ++ values.drop (placeholderCount s) := by
      rw [List.append_assoc, List.take_append_drop]
    have hdrop : (values.drop (placeholderCount s)).length = totalCount ss := by
      rw [List.length_drop]
      omega
    -- behind the first condition its values are among those before
    have hrest := ih h.2 hdrop (before ++ values.take (placeholderCount s))
    rw [← hsplit, List.length_append, hlength] at hrest
    rw [groups, List.map_cons, Truth.all_cons, hrest, conditionsTruth, conditionTruth, he,
      hsplit]
    congr 1
    refine Expression.truth_renumber (fun n => ?_) r e
    have hshifted := placeholderCell_shifted before (values.take (placeholderCount s))
      (values.drop (placeholderCount s)) n
    rwa [hlength] at hshifted

/-- The numbers of the placeholders of numbered conditions. -/
theorem placeholders_groups {ss : List String} (h : ∀ s ∈ ss, Standalone s) (n : Nat) :
    (groups n ss).flatMap (fun p => Token.placeholders p.1) =
      (List.range' (n + 1) (totalCount ss)).map some := by
  induction ss generalizing n with
  | nil => rfl
  | cons s ss ih =>
    rw [List.forall_mem_cons] at h
    have hgroup : Token.placeholders (group (Token.numbered n (Token.ofText s))) =
        (List.range' (n + 1) (placeholderCount s)).map some := by
      rw [← Token.placeholders_numbered h.1.isBare_tokens n, ← List.append_nil
        (Token.placeholders (Token.numbered n (Token.ofText s)))]
      exact Token.placeholders_append _ [.closing]
    rw [groups, List.flatMap_cons, ih h.2, hgroup, totalCount, ← List.map_append,
      Nat.add_right_comm, List.range'_append_1]

theorem placeholders_furtherGroups (parts : List (List Token × Expression)) :
    Token.placeholders (furtherGroups (parts.map Prod.fst)) =
      parts.flatMap fun p => Token.placeholders p.1 := by
  induction parts with
  | nil => rfl
  | cons p parts ih =>
    rw [List.flatMap_cons, ← ih, ← Token.placeholders_append]
    rfl

/-! ### The text of the clause -/

theorem spells_and : Spells " AND ".toList [.keyword .and "AND"] :=
  ((Spells.word (w := "AND".toList) (by decide)).append Spells.nil.blank
    (breaks_cons (by decide) _)).blank

theorem spells_where : Spells " WHERE".toList [.keyword .reserved "WHERE"] :=
  (Spells.word (w := "WHERE".toList) (by decide)).blank

/-- Behind the keyword stand the tokens of the condition. -/
theorem ofText_where (c : String) :
    Token.ofText (" WHERE " ++ c) = .keyword .reserved "WHERE" :: Token.ofText c := by
  have htext : (" WHERE " ++ c).toList = " WHERE".toList ++ ' ' :: c.toList := by simp
  have hblank (cs : List Char) : lexemes (' ' :: cs) = [' '] :: lexemes cs :=
    lexemes_break (by decide) cs
  rw [Token.ofText_eq, htext, spells_where.tokens_append (breaks_cons (by decide) _), hblank,
    Token.ofText_eq]
  rfl

/-- A numbered condition in parentheses, before any text. -/
theorem tokens_group {s : String} (h : Standalone s) (n : Nat) (rest : List Char) :
    (lexemes ('(' :: ((numberedCondition n s).toList ++ ')' :: rest))).filterMap Token.ofLexeme? =
      group (Token.numbered n (Token.ofText s)) ++ (lexemes rest).filterMap Token.ofLexeme? := by
  have hopening (cs : List Char) : lexemes ('(' :: cs) = ['('] :: lexemes cs :=
    lexemes_break (by decide) cs
  rw [hopening, h.append_closing, ← h.tokens n, Token.ofText_eq, group]
  simp [Token.ofLexeme?]

/-- The text of conditions that each stand behind `AND`. -/
def furtherText (clauses : List String) : List Char :=
  clauses.flatMap fun c => " AND ".toList ++ '(' :: (c.toList ++ [')'])

theorem toList_intercalate (clause : String) (clauses : List String) :
    (" AND ".intercalate ((clause :: clauses).map fun c => "(" ++ c ++ ")")).toList =
      '(' :: (clause.toList ++ ')' :: furtherText clauses) := by
  induction clauses generalizing clause with
  | nil => simp [furtherText]
  | cons c cs ih =>
    have hfurther : furtherText (c :: cs) =
        " AND ".toList ++ '(' :: (c.toList ++ ')' :: furtherText cs) := by simp [furtherText]
    rw [List.map_cons, List.map_cons, String.intercalate_cons_cons, ← List.map_cons (f := fun c =>
      "(" ++ c ++ ")"), String.toList_append, ih, hfurther]
    simp

/-- The tokens of conditions that each stand behind `AND`. -/
theorem tokens_furtherText {ss : List String} (h : ∀ s ∈ ss, Standalone s) (n : Nat) :
    (lexemes (furtherText (numberConditions n ss).1)).filterMap Token.ofLexeme? =
      furtherGroups ((groups n ss).map Prod.fst) := by
  induction ss generalizing n with
  | nil => rfl
  | cons s ss ih =>
    rw [List.forall_mem_cons] at h
    have htext : furtherText (numberConditions n (s :: ss)).1 =
        " AND ".toList ++ '(' :: ((numberedCondition n s).toList ++
          ')' :: furtherText (numberConditions (n + placeholderCount s) ss).1) := by
      rw [numberConditions_cons h.1]
      simp [furtherText]
    rw [htext, spells_and.tokens_append (breaks_cons (by decide) _), tokens_group h.1, ih h.2,
      groups]
    simp [furtherGroups]

namespace Query

variable {q : Query} {ss : List String}

theorem whereText_nil (hq : q.clauses = []) : q.whereText = "" := by rw [whereText, hq]

theorem ofText_whereText_single {s : String} (h : Standalone s)
    (hq : q.clauses = (numberConditions 0 [s]).1) :
    Token.ofText q.whereText =
      .keyword .reserved "WHERE" :: Token.numbered 0 (Token.ofText s) := by
  rw [numberConditions_cons h] at hq
  rw [whereText, hq, ← h.tokens 0]
  exact ofText_where _

theorem ofText_whereText_cons {s t : String} (h : ∀ u ∈ s :: t :: ss, Standalone u)
    (hq : q.clauses = (numberConditions 0 (s :: t :: ss)).1) :
    Token.ofText q.whereText =
      .keyword .reserved "WHERE" :: (group (Token.numbered 0 (Token.ofText s)) ++
        furtherGroups ((groups (0 + placeholderCount s) (t :: ss)).map Prod.fst)) := by
  have hfirst := (List.forall_mem_cons.mp h).1
  have hrest := (List.forall_mem_cons.mp h).2
  rw [numberConditions_cons hfirst] at hq
  have htext : q.whereText = " WHERE " ++ String.ofList ('(' :: ((numberedCondition 0 s).toList ++
      ')' :: furtherText (numberConditions (0 + placeholderCount s) (t :: ss)).1)) := by
    rw [← toList_intercalate, String.ofList_toList, whereText, hq,
      numberConditions_cons (List.forall_mem_cons.mp hrest).1]
  rw [htext, ofText_where, Token.ofText_eq, String.toList_ofList, tokens_group hfirst,
    tokens_furtherText hrest]

/-- The condition of the clause, as it is read; none where the clause holds no condition. -/
def condition? (q : Query) : Option Expression :=
  match Token.ofText q.whereText with
  | .keyword .reserved "WHERE" :: ts =>
    match Expression.ofTokens (Token.numbered 0 ts) with
    | .ok (e, []) => some e
    | _ => none
  | _ => none

/-- The truth of the clause on a row with the values of the query; none where the clause is
    not read. -/
def whereTruth? (q : Query) (r : Row) : Option Truth :=
  if q.whereText = "" then some .yes
  else q.condition?.map fun e => e.truth r (q.values.map Value.cell)

/-- The placeholders of the clause are numbered from the left, without a gap. -/
theorem placeholders_whereText (h : ∀ s ∈ ss, Standalone s)
    (hq : q.clauses = (numberConditions 0 ss).1) :
    Token.placeholders (Token.ofText q.whereText) = (List.range' 1 (totalCount ss)).map some := by
  cases ss with
  | nil =>
    rw [whereText_nil hq]
    rfl
  | cons s ss =>
    cases ss with
    | nil =>
      have hs : Standalone s := h s List.mem_cons_self
      rw [ofText_whereText_single hs hq, totalCount, totalCount]
      exact Token.placeholders_numbered hs.isBare_tokens 0
    | cons t ss =>
      rw [ofText_whereText_cons h hq, ← placeholders_groups h 0, groups.eq_2 0 s,
        List.flatMap_cons, ← placeholders_furtherGroups, ← Token.placeholders_append]
      rfl

/-- Nothing is left to number in the clause. -/
theorem whereTruth?_eq_some (h : ∀ s ∈ ss, Standalone s)
    (hq : q.clauses = (numberConditions 0 ss).1) {ts : List Token} {e : Expression}
    (htext : Token.ofText q.whereText = .keyword .reserved "WHERE" :: ts)
    (hts : Expression.ofTokens ts = .ok (e, [])) (r : Row) :
    q.whereTruth? r = some (e.truth r (q.values.map Value.cell)) := by
  have hplaceholders := placeholders_whereText h hq
  rw [htext] at hplaceholders
  -- all placeholders have numbers, so numbering them once more changes nothing
  have hself : Token.numbered 0 ts = ts := by
    refine Token.numbered_eq_self (fun hmem => ?_) 0
    have hnone : none ∈ (List.range' 1 (totalCount ss)).map some := hplaceholders ▸ hmem
    simp at hnone
  have hcondition : q.condition? = some e := by
    simp only [condition?, htext, hself, hts]
  have hne : q.whereText ≠ "" := by
    intro hempty
    rw [hempty] at htext
    cases htext
  rw [whereTruth?, if_neg hne, hcondition, Option.map_some]

/-- **The clause of several conditions.** Where the query has a value for each placeholder,
    its clause is the conjunction of the conditions, each with its own values. -/
theorem whereTruth?_eq (h : ∀ s ∈ ss, Standalone s) (hq : q.clauses = (numberConditions 0 ss).1)
    (hvalues : q.values.length = totalCount ss) (r : Row) :
    q.whereTruth? r = some (conditionsTruth r (q.values.map Value.cell) ss) := by
  have hcells : (q.values.map Value.cell).length = totalCount ss := by rw [List.length_map, hvalues]
  cases ss with
  | nil =>
    rw [whereTruth?, whereText_nil hq]
    rfl
  | cons s ss =>
    cases ss with
    | nil =>
      -- a single condition stands without parentheses
      have hs : Standalone s := h s List.mem_cons_self
      obtain ⟨e, he⟩ := Option.isSome_iff_exists.mp hs.reads
      have hle : (q.values.map Value.cell).length ≤ placeholderCount s :=
        Nat.le_of_eq hcells
      rw [whereTruth?_eq_some h hq (ofText_whereText_single hs hq) hs.ofTokens_eq,
        conditionsTruth, conditionTruth, he, List.take_of_length_le hle, conditionsTruth,
        Truth.and_yes]
      rfl
    | cons t ss =>
      have hoperands := List.forall_mem_cons.mp (readsOperand_groups h 0)
      rw [whereTruth?_eq_some h hq (ofText_whereText_cons h hq)
          (ofTokens_groups hoperands.1 hoperands.2), truth_foldl_conjunction,
        ← truth_groups h r hcells []]
      rfl

end Query

/-! ### Texts of predicates -/

/-- The text of a predicate can stand among other conditions, and says what the predicate
    says. -/
theorem Predicate.standalone {p : Predicate} (h : ∀ name ∈ p.columns, isName name = true) :
    Standalone p.text ∧ placeholderCount p.text = p.binds.length ∧
      ∀ r, conditionTruth r (p.binds.map Value.cell) p.text = p.truth r := by
  obtain ⟨ts, hspells, hbare, -, hphrase⟩ := renders_choice (renders p h)
  obtain ⟨e, he, htruth⟩ := hphrase []
  have hread : Expression.ofText? p.text = some e := by
    have htokens : Expression.ofTokens (Token.numbered 0 ts) = .ok (e, []) := he.ofTokens_eq
    rw [Expression.ofText?, hspells.ofText_eq, htokens]
  obtain ⟨-, hlexemes, hbreak⟩ := hspells.lexemes_eq
  refine ⟨⟨by rw [hread]; rfl, hlexemes, ?_⟩, ?_, fun r => ?_⟩
  · exact hbreak [')'] (breaks_cons (by decide) [])
  · rw [placeholderCount, hspells.ofText_eq, hbare, List.length_replicate]
  · have := htruth r []
    rw [conditionTruth, hread]
    rwa [List.nil_append, List.append_nil] at this

end FilterQuery
