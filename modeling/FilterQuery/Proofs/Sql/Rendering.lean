import FilterQuery.Proofs.Sql.ConditionTexts
import FilterQuery.Proofs.Sql.Connectives

namespace FilterQuery

/-!
# What the texts of predicates say

The text of a predicate is a condition of the grammar: nodes are joined by words, and an operand
that is a node stands in parentheses.

* `Renders.chain` — operands joined by a word;
* `Predicate.renders` — the text of a predicate spells it;
* `Predicate.truth_text` — the text of a predicate has its truth, in exactly one reading.
-/

open Search Search.Grammar

namespace Renders

/-- Operands joined by a word to a text spell what the word makes of them. -/
theorem chain {l : Level} {sep : String} {f : Truth → Truth → Truth} {unit : Truth}
    (hjoin : ∀ {cs ds : List Char} {vs ws : List Value} {t u : Row → Truth},
      Renders l cs vs t → Renders .factor ds ws u →
        Renders l (cs ++ sep.toList ++ ds) (vs ++ ws) fun r => f (t r) (u r))
    (hassoc : ∀ a b c, f (f a b) c = f a (f b c)) (hunit : ∀ a, f a unit = a)
    {ps : List Predicate}
    (hps : ∀ p ∈ ps, Renders .factor (p.groupText p.text).toList p.binds fun r => p.truth r)
    {s : String} {vs : List Value} {t : Row → Truth} (hs : Renders l s.toList vs t) :
    Renders l (sep.intercalate (s :: Predicate.groupTexts ps)).toList
      (vs ++ Predicate.bindsList ps)
      fun r => f (t r) ((ps.map (Predicate.truth r)).foldr f unit) := by
  -- the text grows to the right, as it is read, while truths are folded from the right
  induction ps generalizing s vs t with
  | nil =>
    simp only [Predicate.groupTexts, String.intercalate_singleton, Predicate.bindsList,
      List.append_nil, List.map_nil, List.foldr_nil, hunit]
    exact hs
  | cons p ps ih =>
    rw [List.forall_mem_cons] at hps
    have hfirst := hjoin hs hps.1
    rw [← String.toList_append, ← String.toList_append] at hfirst
    have hall := ih hps.2 hfirst
    rw [String.intercalate_cons_append, ← String.intercalate_cons_cons] at hall
    simp only [Predicate.groupTexts, Predicate.bindsList, List.map_cons, List.foldr_cons]
    simp only [hassoc, List.append_assoc] at hall
    exact hall

end Renders

namespace Predicate

/-- What kind of phrase the text of a predicate is. -/
def level : Predicate → Level
  | .all _ => .joint
  | .any _ => .choice
  | _ => .factor

theorem mem_columnsList {name : String} {p : Predicate} {ps : List Predicate} (hp : p ∈ ps)
    (h : name ∈ p.columns) : name ∈ columnsList ps := by
  induction ps with
  | nil => cases hp
  | cons q ps ih =>
    rw [columnsList, List.mem_append]
    rcases List.mem_cons.mp hp with rfl | hp
    · exact .inl h
    · exact .inr (ih hp)

/-- An operand is a phrase of its own, in parentheses where it must be. -/
theorem renders_groupText {p : Predicate}
    (h : Renders p.level p.text.toList p.binds fun r => p.truth r) :
    Renders .factor (p.groupText p.text).toList p.binds fun r => p.truth r := by
  cases p with
  | all ps => simpa [groupText, isJoined] using h.ofJoint.group
  | any ps => simpa [groupText, isJoined] using h.group
  | always => exact h
  | test c => exact h
  | negate p => exact h

theorem renders_choice {p : Predicate}
    (h : Renders p.level p.text.toList p.binds fun r => p.truth r) :
    Renders .choice p.text.toList p.binds fun r => p.truth r := by
  cases p with
  | all ps => exact h.ofJoint
  | any ps => exact h
  | always => exact h.ofFactor.ofJoint
  | test c => exact h.ofFactor.ofJoint
  | negate p => exact h.ofFactor.ofJoint

/-- The text of a predicate spells it. -/
theorem renders (p : Predicate) (h : ∀ name ∈ p.columns, isName name = true) :
    Renders p.level p.text.toList p.binds fun r => p.truth r := by
  induction p using Predicate.induction with
  | always => exact .constant true
  | test c => exact .condition fun name hname => h name (Option.mem_toList.mpr hname)
  | all ps ih =>
    have hps : ∀ p ∈ ps, Renders .factor (p.groupText p.text).toList p.binds fun r => p.truth r :=
      fun p hp => renders_groupText (ih p hp fun name hname => h name (mem_columnsList hp hname))
    cases ps with
    | nil =>
      -- an empty conjunction is written as a constant
      exact (Renders.constant true).ofFactor
    | cons p ps =>
      rw [List.forall_mem_cons] at hps
      have hchain := Renders.chain Renders.and Truth.and_assoc Truth.and_yes hps.2 hps.1.ofFactor
      simp only [text, truth, allTruth_eq, binds, bindsList, groupTexts, List.isEmpty_cons]
      exact hchain
  | any ps ih =>
    have hps : ∀ p ∈ ps, Renders .factor (p.groupText p.text).toList p.binds fun r => p.truth r :=
      fun p hp => renders_groupText (ih p hp fun name hname => h name (mem_columnsList hp hname))
    cases ps with
    | nil => exact (Renders.constant false).ofFactor.ofJoint
    | cons p ps =>
      rw [List.forall_mem_cons] at hps
      have hchain := Renders.chain (fun hs hp => Renders.or hs hp.ofFactor) Truth.or_assoc
        Truth.or_no hps.2 hps.1.ofFactor.ofJoint
      simp only [text, truth, anyTruth_eq, binds, bindsList, groupTexts, List.isEmpty_cons]
      exact hchain
  | negate p ih =>
    have htext : (Predicate.negate p).text.toList =
        "NOT ".toList ++ '(' :: (p.text.toList ++ [')']) := by simp [text]
    rw [htext]
    exact (renders_choice (ih h)).not

/-- **Meaning of rendered predicates.** Where its columns are plain names, the text of a
    predicate is a condition of the grammar in exactly one way, with one bare placeholder for
    each bound value and no other `?`.  With its placeholders counted from the left, the
    condition has the truth of the predicate on every row. -/
theorem truth_text (p : Predicate) (h : ∀ name ∈ p.columns, isName name = true) :
    p.text.toList.count '?' = p.binds.length ∧
      Token.placeholders (Token.ofText p.text) = List.replicate p.binds.length none ∧
      ∃ e, (∀ x, Phrase .choice (Token.numbered 0 (Token.ofText p.text)) x ↔ x = e) ∧
        Expression.ofText? p.text = some e ∧
        ∀ row, e.truth row (p.binds.map Value.cell) = p.truth row := by
  obtain ⟨ts, hspells, hbare, hcount, hphrase⟩ := renders_choice (renders p h)
  obtain ⟨e, he, htruth⟩ := hphrase []
  rw [hspells.ofText_eq]
  refine ⟨hcount, hbare, e, fun x => ⟨fun hx => hx.unique he, fun hx => hx ▸ he⟩, ?_, fun row => ?_⟩
  · have htokens : Expression.ofTokens (Token.numbered 0 ts) = .ok (e, []) := he.ofTokens_eq
    rw [Expression.ofText?, hspells.ofText_eq, htokens]
  · have := htruth row []
    rwa [List.nil_append, List.append_nil] at this

/-- A disjunction below a conjunction, an empty conjunction, an excluded list and bounds. -/
theorem truth_text_nested :
    let p : Predicate := .all [.any [.test (.isNull (.column "name") false), .negate (.all [])],
      .all [.test (.member (.column "id") [.integer 1, .integer 2] true),
        .test (.between (.upper (.column "day")) (.text "a") (.text "b") false)]]
    p.text.toList.count '?' = 4 ∧
      ∃ e, Expression.ofText? p.text = some e ∧
        ∀ row, e.truth row (p.binds.map Value.cell) = p.truth row := by
  intro p
  have h : ∀ name ∈ p.columns, isName name = true := by decide +kernel
  obtain ⟨hcount, -, e, -, hread, htruth⟩ := truth_text p h
  exact ⟨hcount, e, hread, htruth⟩

end Predicate

end FilterQuery
