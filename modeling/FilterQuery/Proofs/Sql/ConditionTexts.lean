import FilterQuery.Proofs.Sql.Operands

namespace FilterQuery

/-!
# What the texts of conditions say

The text of a condition is one of the grammar.  It is so however its placeholders are counted,
and with the bound values it has the truth of the condition.

* `Renders` — a text spells a condition with some bound values and a truth;
* `Renders.group`, `Renders.not`, `Renders.join` — how such texts are put together;
* `Renders.condition` — the text of every single condition.
-/

open Search Search.Grammar

/-! ### Texts with truths -/

/-- The text spells a condition that binds some values.  Whatever values its placeholders
    are counted on from, the condition has the truth. -/
def Renders (l : Level) (cs : List Char) (vs : List Value) (t : Row → Truth) : Prop :=
  ∃ ts, Spells cs ts ∧ Token.Bare vs.length ts ∧ cs.count '?' = vs.length ∧
    ∀ before : List Cell, ∃ e, Phrase l (Token.numbered before.length ts) e ∧
      ∀ r after, e.truth r (before ++ vs.map Value.cell ++ after) = t r

namespace Renders

variable {l : Level} {cs ds : List Char} {vs ws : List Value} {t u : Row → Truth}

/-- A text spells a phrase of another level where all phrases of its level are such. -/
theorem loosen {k : Level} (hlevel : ∀ {ts : List Token} {e : Expression}, Phrase l ts e →
    Phrase k ts e) (h : Renders l cs vs t) : Renders k cs vs t := by
  obtain ⟨ts, hspells, hbare, hcount, hphrase⟩ := h
  refine ⟨ts, hspells, hbare, hcount, fun before => ?_⟩
  obtain ⟨e, he, htruth⟩ := hphrase before
  exact ⟨e, hlevel he, htruth⟩

theorem ofFactor (h : Renders .factor cs vs t) : Renders .joint cs vs t := h.loosen .ofFactor

theorem ofJoint (h : Renders .joint cs vs t) : Renders .choice cs vs t := h.loosen .ofJoint

/-- A condition in parentheses. -/
theorem group (h : Renders .choice cs vs t) : Renders .factor ('(' :: (cs ++ [')'])) vs t := by
  obtain ⟨ts, hspells, hbare, hcount, hphrase⟩ := h
  refine ⟨Token.opening :: (ts ++ [Token.closing]),
    (hspells.append Spells.nil.closing (breaks_cons (by decide) _)).opening,
    hbare.append (show Token.Bare 0 [.closing] from rfl),
    by simp [hcount], fun before => ?_⟩
  obtain ⟨e, he, htruth⟩ := hphrase before
  refine ⟨e, ?_, htruth⟩
  show Phrase .factor (.opening :: Token.numbered before.length (ts ++ [.closing])) e
  rw [Token.numbered_append hbare]
  exact .group he

/-- The negation of a condition in parentheses. -/
theorem not (h : Renders .choice cs vs t) :
    Renders .factor ("NOT ".toList ++ '(' :: (cs ++ [')'])) vs fun r => (t r).not := by
  obtain ⟨ts, hspells, hbare, hcount, hphrase⟩ := h.group
  refine ⟨.keyword .not "NOT" :: ts, ?_, hbare, by simpa using hcount, fun before => ?_⟩
  · exact (Spells.word (w := "NOT".toList) (by decide)).append hspells.blank
      (breaks_cons (by decide) _)
  · obtain ⟨e, he, htruth⟩ := hphrase before
    exact ⟨.modified .not e, .not "NOT" he, fun r after => by
      rw [Expression.truth_not, htruth]⟩

/-- Two texts with a word between them that joins what they spell. -/
theorem join {k : Level} {w : String} {word : Keyword} {op : Operation}
    {f : Truth → Truth → Truth} (hw : isWord w.toList = true)
    (hword : wordToken w.toList = .keyword word w) (hmark : w.toList.count '?' = 0)
    (hphrase : ∀ {ts us : List Token} {a b : Expression}, Phrase l ts a → Phrase k us b →
      Phrase l (ts ++ .keyword word w :: us) (.binary op a b))
    (htruth : ∀ r values a b, Expression.truth r values (.binary op a b) =
      f (a.truth r values) (b.truth r values))
    (ha : Renders l cs vs t) (hb : Renders k ds ws u) :
    Renders l (cs ++ ' ' :: (w.toList ++ ' ' :: ds)) (vs ++ ws) fun r => f (t r) (u r) := by
  obtain ⟨ts, hts, hbareT, hcountT, hphraseT⟩ := ha
  obtain ⟨us, hus, hbareU, hcountU, hphraseU⟩ := hb
  have hspells : Spells (w.toList ++ ' ' :: ds) (.keyword word w :: us) :=
    hword ▸ (Spells.word hw).append hus.blank (breaks_cons (by decide) ds)
  refine ⟨ts ++ .keyword word w :: us, hts.append hspells.blank (breaks_cons (by decide) _), ?_,
    by simp [hmark, hcountT, hcountU], fun before => ?_⟩
  · rw [List.length_append]
    exact hbareT.append (hbareU : Token.Bare ws.length (.keyword word w :: us))
  · -- the placeholders of the second text count on from those of the first
    obtain ⟨a, ha, htruthA⟩ := hphraseT before
    obtain ⟨b, hb, htruthB⟩ := hphraseU (before ++ vs.map Value.cell)
    rw [List.length_append, List.length_map] at hb
    refine ⟨.binary op a b, ?_, fun r after => ?_⟩
    · rw [Token.numbered_append hbareT]
      exact hphrase ha hb
    · have hA := htruthA r (ws.map Value.cell ++ after)
      have hB := htruthB r after
      rw [List.map_append, htruth]
      simp only [List.append_assoc] at hA hB ⊢
      rw [hA, hB]

theorem and (ha : Renders .joint cs vs t) (hb : Renders .factor ds ws u) :
    Renders .joint (cs ++ " AND ".toList ++ ds) (vs ++ ws) fun r => (t r).and (u r) := by
  rw [List.append_assoc]
  exact join (w := "AND") (by decide) (by decide) (by decide) (.and "AND")
    (fun r values a b => Cell.truth_ofTruth _) ha hb

theorem or (ha : Renders .choice cs vs t) (hb : Renders .joint ds ws u) :
    Renders .choice (cs ++ " OR ".toList ++ ds) (vs ++ ws) fun r => (t r).or (u r) := by
  rw [List.append_assoc]
  exact join (w := "OR") (by decide) (by decide) (by decide) (.or "OR")
    (fun r values a b => Cell.truth_ofTruth _) ha hb

end Renders

/-! ### Conditions -/

/-- Behind an expression the placeholders are numbered as if it were not there. -/
theorem Expr.numbered_append (e : Expr) (n : Nat) (us : List Token) :
    Token.numbered n (e.tokens ++ us) = e.tokens ++ Token.numbered n us := by
  have hplaceholders : Token.placeholders e.tokens = [] := e.bare_tokens
  rw [Token.numbered_append e.bare_tokens, Token.numbered_eq_self (by simp [hplaceholders]),
    Nat.add_zero]

namespace Renders

variable {e : Expr} {cs : List Char} {us : List Token} {vs : List Value} {t : Row → Truth}

/-- What stands behind an expression makes a condition with it. -/
theorem of_expression (he : isName e.columnName = true) (hcs : Spells cs us)
    (hbreak : Breaks cs) (hbare : Token.Bare vs.length us) (hcount : cs.count '?' = vs.length)
    (hphrase : ∀ before : List Cell, ∃ a,
      Phrase .factor (e.tokens ++ Token.numbered before.length us) a ∧
        ∀ r after, a.truth r (before ++ vs.map Value.cell ++ after) = t r) :
    Renders .factor (e.text.toList ++ cs) vs t := by
  refine ⟨e.tokens ++ us, (Expr.spells he).append hcs hbreak, ?_, ?_, fun before => ?_⟩
  · have := e.bare_tokens.append hbare
    rwa [Nat.zero_add] at this
  · rw [List.count_append, Expr.count_text he, Nat.zero_add, hcount]
  · rw [Expr.numbered_append]
    exact hphrase before

/-- A test behind an expression, or its negation. -/
theorem of_test (vs : List Value) (he : isName e.columnName = true) (hcs : Spells cs us)
    (hbare : Token.Bare vs.length us) (hcount : cs.count '?' = vs.length)
    (htest : ∀ before : List Cell, ∃ f, Test (Token.numbered before.length us) f ∧
      ∀ r after, (f e.expression).truth r (before ++ vs.map Value.cell ++ after) = t r)
    (negated : Bool) :
    Renders .factor (e.text.toList ++ ' ' :: ((negationText negated).toList ++ cs)) vs
      fun r => .signed negated (t r) := by
  cases negated with
  | false =>
    refine of_expression he hcs.blank (breaks_cons (by decide) _) hbare hcount fun before => ?_
    obtain ⟨f, hf, htruth⟩ := htest before
    exact ⟨f e.expression, .test e.operand hf, htruth⟩
  | true =>
    have hspells : Spells ("NOT".toList ++ ' ' :: cs) (.keyword .not "NOT" :: us) :=
      (Spells.word (w := "NOT".toList) (by decide)).append hcs.blank (breaks_cons (by decide) _)
    refine of_expression he hspells.blank (breaks_cons (by decide) _) hbare
      (by simpa [negationText] using hcount) fun before => ?_
    obtain ⟨f, hf, htruth⟩ := htest before
    refine ⟨.modified .not (f e.expression), .testNot "NOT" e.operand hf, fun r after => ?_⟩
    rw [Expression.truth_not, htruth]
    rfl

theorem compare (he : isName e.columnName = true) (op : Comparison) (v : Value) :
    Renders .factor (e.text ++ " " ++ op.text ++ " ?").toList [v]
      fun r => e.holds r op.accepts v := by
  have hcs : Spells (op.text.toList ++ [' ', '?']) [.sign op.sign, .placeholder none] :=
    op.spells.append Spells.placeholder.blank (breaks_cons (by decide) _)
  have hcount : (op.text.toList ++ [' ', '?']).count '?' = 1 := by cases op <;> decide
  simp only [String.toList_append, List.append_assoc]
  refine of_expression he hcs.blank (breaks_cons (by decide) _) rfl (by simpa using hcount)
    fun before => ?_
  refine ⟨.binary op.operation e.expression (.placeholder (before.length + 1)),
    .compare op.ofToken?_sign op.compares_operation e.operand (.placeholder _), fun r after => ?_⟩
  have hvalue := Expression.cell_placeholder_singleton r before after v.cell
  rw [Expression.truth_binary op.compares_operation, Expr.collation_expression]
  show Expression.comparison op.operation (.ofName none) _ (Expression.cell r _ _, .none) = _
  rw [List.map_singleton, hvalue, Expr.comparison_expression op.identity?_operation,
    op.accepts_operation]

theorem isNull (he : isName e.columnName = true) (negated : Bool) :
    Renders .factor (e.text ++ " IS " ++ negationText negated ++ "NULL").toList []
      fun r => .signed negated (.ofBool (e.cell r = .null)) := by
  have hnull : Spells "NULL".toList [.keyword .null "NULL"] := Spells.word (by decide)
  have hcs : Spells ("IS".toList ++ ' ' :: ((negationText negated).toList ++ "NULL".toList))
      (.keyword .is "IS" :: (if negated then [.keyword .not "NOT"] else []) ++
        [.keyword .null "NULL"]) := by
    cases negated with
    | false =>
      exact (Spells.word (w := "IS".toList) (by decide)).append hnull.blank
        (breaks_cons (by decide) _)
    | true =>
      exact (Spells.word (w := "IS".toList) (by decide)).append
        ((Spells.word (w := "NOT".toList) (by decide)).append hnull.blank
          (breaks_cons (by decide) _)).blank (breaks_cons (by decide) _)
  simp only [String.toList_append, List.append_assoc]
  refine of_expression he hcs.blank (breaks_cons (by decide) _) (by cases negated <;> rfl)
    (by cases negated <;> decide) fun before =>
      ⟨.isNull e.expression negated, ?_, fun r after => ?_⟩
  · cases negated with
    | false => exact .isNull "IS" "NULL" e.operand
    | true => exact .isNotNull "IS" "NOT" "NULL" e.operand
  · rw [Expression.truth, Expression.cell, Cell.truth_ofTruth, Expr.cell_expression]

theorem like (he : isName e.columnName = true) (pattern : String) (negated : Bool) :
    Renders .factor (e.text ++ " " ++ negationText negated ++ "LIKE ?").toList [.text pattern]
      fun r => .signed negated (Condition.likeTruth pattern (e.cell r)) := by
  have hcs : Spells ("LIKE".toList ++ [' ', '?']) [.keyword .like "LIKE", .placeholder none] :=
    (Spells.word (w := "LIKE".toList) (by decide)).append Spells.placeholder.blank
      (breaks_cons (by decide) _)
  simp only [String.toList_append, List.append_assoc]
  refine of_test [.text pattern] he hcs rfl rfl (fun before => ?_) negated
  refine ⟨fun a => .binary .like a (.placeholder (before.length + 1)),
    .like "LIKE" (.placeholder _), fun r after => ?_⟩
  have hvalue := Expression.cell_placeholder_singleton r before after (.text pattern)
  -- `LIKE` is read as a call of the function of that name
  have hlike (a b : Cell) : Function.value "like" [a, b] = Function.ofTexts (fun p s =>
      .integer (Pattern.matches? (String.ofList p) (String.ofList s)).toNat) a b := by
    rw [Function.value, show Function.mainName (Text.lower "like") = "like" by decide +kernel]
    rfl
  show (Function.value "like" [Expression.cell r (before ++ [.text pattern] ++ after)
    (.placeholder (before.length + 1)), _]).truth = _
  rw [hvalue, Expr.cell_expression, hlike, Function.ofTexts, Condition.likeTruth]
  cases (e.cell r).text? with
  | none => rfl
  | some s =>
    simp only [Cell.text?, String.ofList_toList, Option.map_some, Truth.ofOption]
    cases Pattern.matches? pattern s <;> rfl

theorem between (he : isName e.columnName = true) (low high : Value) (negated : Bool) :
    Renders .factor (e.text ++ " " ++ negationText negated ++ "BETWEEN ? AND ?").toList [low, high]
      fun r => .signed negated
        ((e.holds r Ordering.isGE low).and (e.holds r Ordering.isLE high)) := by
  have hcs : Spells ("BETWEEN".toList ++ ' ' :: (['?'] ++ ' ' :: ("AND".toList ++ [' ', '?'])))
      [.keyword .between "BETWEEN", .placeholder none, .keyword .and "AND", .placeholder none] :=
    (Spells.word (w := "BETWEEN".toList) (by decide)).append
      (Spells.placeholder.append ((Spells.word (w := "AND".toList) (by decide)).append
        Spells.placeholder.blank (breaks_cons (by decide) _)).blank
        (breaks_cons (by decide) _)).blank (breaks_cons (by decide) _)
  simp only [String.toList_append, List.append_assoc]
  refine of_test [low, high] he hcs rfl rfl (fun before => ?_) negated
  refine ⟨fun a => .between a (.placeholder (before.length + 1)) (.placeholder (before.length + 2)),
    .between "BETWEEN" "AND" (.placeholder _) (.placeholder _), fun r after => ?_⟩
  have hlow : Expression.cell r (before ++ [low.cell, high.cell] ++ after)
      (.placeholder (before.length + 1)) = low.cell := by
    rw [List.append_assoc]
    exact Expression.cell_placeholder r before (high.cell :: after) low.cell
  have hhigh : Expression.cell r (before ++ [low.cell, high.cell] ++ after)
      (.placeholder (before.length + 2)) = high.cell := by
    have := Expression.cell_placeholder r (before ++ [low.cell]) after high.cell
    simpa using this
  have hcollation (n : Nat) : (e.expression.collation? <|>
      (Expression.placeholder n).collation?) = none := by
    rw [Expr.collation_expression]
    rfl
  -- bounds are two comparisons, and `AND` is the one between them
  rw [Expression.truth, Expression.cell, Cell.truth_ofTruth, hcollation, hcollation]
  show (Expression.comparison .greaterOrEqual (.ofName none) _
      (Expression.cell r (before ++ [low.cell, high.cell] ++ after) _, .none)).and
    (Expression.comparison .lessOrEqual (.ofName none) _
      (Expression.cell r (before ++ [low.cell, high.cell] ++ after) _, .none)) = _
  rw [hlow, hhigh, Expr.comparison_expression rfl, Expr.comparison_expression rfl]
  rfl

/-! ### Membership -/

/-- As many placeholders as values. -/
def holes (n : Nat) : List Token := listed (List.replicate n [.placeholder none])

theorem spells_holes (n : Nat) :
    Spells (", ".intercalate (List.replicate (n + 1) "?")).toList (holes (n + 1)) := by
  induction n with
  | zero => exact Spells.placeholder
  | succ n ih =>
    rw [List.replicate_succ, List.replicate_succ, String.intercalate_cons_cons,
      ← List.replicate_succ, String.toList_append, String.toList_append]
    exact Spells.placeholder.append ih.blank.comma (breaks_cons (by decide) _)

theorem bare_holes (n : Nat) : Token.Bare (n + 1) (holes (n + 1)) := by
  induction n with
  | zero => rfl
  | succ n ih =>
    have hcons := Token.bare_placeholder.append
      (ih : Token.Bare (n + 1) (.comma :: holes (n + 1)))
    rw [Nat.add_comm 1] at hcons
    exact hcons

theorem numbered_holes (n k : Nat) :
    Token.numbered k (holes (n + 1)) =
      listed ((List.range' (k + 1) (n + 1)).map fun i => [.placeholder (some i)]) := by
  induction n generalizing k with
  | zero => rfl
  | succ n ih =>
    rw [List.range'_succ, List.map_cons, listed_cons_of_ne_nil _ (by simp), ← ih (k + 1)]
    rfl

theorem count_holes (n : Nat) :
    (", ".intercalate (List.replicate (n + 1) "?")).toList.count '?' = n + 1 := by
  induction n with
  | zero => rfl
  | succ n ih =>
    rw [List.replicate_succ, List.replicate_succ, String.intercalate_cons_cons,
      ← List.replicate_succ, String.toList_append, String.toList_append, List.count_append, ih]
    exact Nat.add_comm 1 (n + 1)

theorem member (he : isName e.columnName = true) {vs : List Value} (hvs : vs ≠ [])
    (negated : Bool) :
    Renders .factor (e.text ++ " " ++ negationText negated ++ "IN ("
        ++ ", ".intercalate (vs.map fun _ => "?") ++ ")").toList vs
      fun r => .signed negated (.any (vs.map (e.holds r Ordering.isEq))) := by
  obtain ⟨n, hn⟩ : ∃ n, vs.length = n + 1 := Nat.exists_eq_succ_of_ne_zero (by simpa using hvs)
  have hcs : Spells ("IN".toList ++ ' ' :: '(' ::
        ((", ".intercalate (List.replicate (n + 1) "?")).toList ++ [')']))
      (.keyword .among "IN" :: .opening :: (holes (n + 1) ++ [.closing])) :=
    (Spells.word (w := "IN".toList) (by decide)).append
      ((spells_holes n).append Spells.nil.closing (breaks_cons (by decide) _)).opening.blank
      (breaks_cons (by decide) _)
  have hbare : Token.Bare vs.length
      (.keyword .among "IN" :: .opening :: (holes (n + 1) ++ [.closing])) := by
    rw [hn]
    exact (bare_holes n).append (show Token.Bare 0 [.closing] from rfl)
  rw [List.map_const', hn]
  simp only [String.toList_append, List.append_assoc]
  refine of_test vs he hcs hbare ?_ (fun before => ?_) negated
  · simp only [List.count_append, List.count_cons, count_holes, hn]
    exact Nat.zero_add (n + 1)
  · -- the items are placeholders, numbered from the first value on
    let parts := (List.range' (before.length + 1) (n + 1)).map fun i =>
      (([.placeholder (some i)] : List Token), Expression.placeholder i)
    refine ⟨fun a => .among a (parts.map Prod.snd), ?_, fun r after => ?_⟩
    · have hparts : Token.numbered before.length (holes (n + 1)) = listed (parts.map Prod.fst) := by
        rw [numbered_holes, List.map_map]
        rfl
      have htest : Test (.keyword .among "IN" :: .opening ::
          (listed (parts.map Prod.fst) ++ [.closing])) fun a => .among a (parts.map Prod.snd) := by
        refine .among "IN" (by simp [parts]) fun p hp => ?_
        obtain ⟨i, _, rfl⟩ := List.mem_map.mp hp
        exact .placeholder i
      rw [← hparts] at htest
      show Test (.keyword .among "IN" :: .opening ::
        Token.numbered before.length (holes (n + 1) ++ [.closing])) _
      rw [Token.numbered_append (bare_holes n)]
      exact htest
    · have hitems : parts.map Prod.snd =
          (List.range' (before.length + 1) (vs.map Value.cell).length).map .placeholder := by
        rw [List.length_map, hn, List.map_map]
        rfl
      rw [Expression.truth, Expression.cell, Cell.truth_ofTruth, hitems,
        Expression.cells_placeholders, Expr.collation_expression, List.map_map]
      congr 1
      refine List.map_congr_left fun v _ => ?_
      exact Expr.comparison_expression (rfl : Operation.equal.identity? = none) r _ e v

theorem constant (b : Bool) : Renders .factor (constantText b).toList [] fun _ => .ofBool b := by
  have hspells (l : List Char) (n : Nat) (hl : l = ['0'] ∧ n = 0 ∨ l = ['1'] ∧ n = 1) :
      Spells ("1".toList ++ ' ' :: ("=".toList ++ ' ' :: l))
        [.integer 1, .sign .equal, .integer n] :=
    (Spells.digit (.inr ⟨rfl, rfl⟩)).append
      ((Spells.sign rfl (.inl rfl)).append (Spells.digit hl).blank
        (breaks_cons (by decide) _)).blank (breaks_cons (by decide) _)
  have hphrase (n : Nat) : Phrase .factor ([.integer 1] ++ .sign .equal :: [.integer n])
      (.binary .equal (.ofNat 1) (.ofNat n)) := .compare rfl rfl (.integer 1) (.integer n)
  cases b with
  | false =>
    exact ⟨_, hspells _ 0 (.inl ⟨rfl, rfl⟩), rfl, by decide, fun before =>
      ⟨.binary .equal (.ofNat 1) (.ofNat 0),
        hphrase 0, fun r after => rfl⟩⟩
  | true =>
    exact ⟨_, hspells _ 1 (.inr ⟨rfl, rfl⟩), rfl, by decide, fun before =>
      ⟨.binary .equal (.ofNat 1) (.ofNat 1),
        hphrase 1, fun r after => rfl⟩⟩

/-- The text of a condition spells it. -/
theorem condition {c : Condition} (h : ∀ name ∈ c.column?, isName name = true) :
    Renders .factor c.text.toList c.binds fun r => c.truth r := by
  cases c with
  | compare e op v => exact compare (h _ rfl) op v
  | like e pattern negated => exact like (h _ rfl) pattern negated
  | isNull e negated => exact isNull (h _ rfl) negated
  | between e low high negated => exact between (h _ rfl) low high negated
  | member e vs negated =>
    cases vs with
    | nil =>
      cases negated with
      | false => exact constant false
      | true => exact constant true
    | cons v vs =>
      have he : isName e.columnName = true := h e.columnName rfl
      exact member he (List.cons_ne_nil v vs) negated

end Renders

end FilterQuery
