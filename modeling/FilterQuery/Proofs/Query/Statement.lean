import FilterQuery.Proofs.Query.Run
import FilterQuery.Proofs.Steps

namespace FilterQuery

/-!
# The clauses of statements

A statement that reads rows is a `SELECT` with the clauses `WHERE`, `ORDER BY`, `LIMIT` and
`OFFSET`, in this order.  Each may be missing, but an offset needs a limit before it.

* `SelectStatement`, `SelectStatement.IsComplete` — such statements;
* `Query.Follows` — the order and the window that steps have left behind;
* `Query.run_text` — the text of a query is that of a complete statement, unless steps set an
  offset and no limit: then the offset stands alone behind it.
-/

open Search

/-! ### Statements -/

/-- A statement that reads rows: what stands behind `WHERE`, the sort key, and the numbers behind
    `LIMIT` and `OFFSET`. -/
structure SelectStatement where
  condition : Option String
  order : Option SortKey
  window : Option (Int × Option Int)

/-- The text of a clause that may be missing. -/
def clauseText (keyword : String) : Option String → String
  | some text => keyword ++ text
  | none => ""

/-- An entity can be sorted by its columns and those of its fields in either direction, and in
    the order that it declares. -/
def Entity.HasSortKey (e : Entity) (k : SortKey) : Prop :=
  ((k.column ∈ e.columns ∨ ∃ f ∈ e.distinctFields, f.column = k.column) ∧
    ∃ d : Direction, k.direction = d.text) ∨
  k = ⟨e.defaultSort, e.defaultDirection⟩

namespace SelectStatement

/-- The text of a statement on the table of an entity. -/
def text (s : SelectStatement) (e : Entity) : String :=
  e.selectText ++ clauseText " WHERE " s.condition ++
    clauseText " ORDER BY " (s.order.map SortKey.text) ++
    clauseText " LIMIT " (s.window.map fun w => toString w.1) ++
    clauseText " OFFSET " (s.window.bind fun w => w.2.map toString)

/-- The condition is read as an expression, the sort key is one of the entity, and an offset
    skips something. -/
structure IsComplete (s : SelectStatement) (e : Entity) : Prop where
  condition : ∀ c, s.condition = some c → (Expression.ofText? c).isSome = true
  order : ∀ k, s.order = some k → e.HasSortKey k
  offset : ∀ n m, s.window = some (n, some m) → 0 < m

/-- No statement has an offset alone behind its table. -/
theorem ne_text (s : SelectStatement) (e : Entity) (n : String) :
    e.selectText ++ (" OFFSET " ++ n) ≠ s.text e := by
  obtain ⟨condition, order, window⟩ := s
  intro h
  have hclauses := congrArg String.toList h
  simp only [text, String.toList_append, List.append_assoc, List.append_cancel_left_eq] at hclauses
  -- the first clause that there is begins with another word
  cases condition with
  | some c => simp [clauseText] at hclauses
  | none =>
    cases order with
    | some k => simp [clauseText] at hclauses
    | none => cases window <;> simp [clauseText] at hclauses

end SelectStatement

/-! ### Steps -/

namespace QueryStep

/-- The limit that a step sets. -/
def limit? : QueryStep → Option Int
  | .paginate r => some r.pageSize
  | .limit n => some n
  | _ => none

/-- The offset that a step sets. -/
def offset? : QueryStep → Option Int
  | .paginate r => some r.offset
  | .offset n => some n
  | _ => none

end QueryStep

namespace Query

theorem hasSortKey_of_orderBy {e : Entity} {field : String} {direction : Direction} {q q' : Query}
    (h : q.orderBy e field direction = .ok q') :
    ∃ k, q' = { q with order := some k } ∧ e.HasSortKey k := by
  rw [orderBy] at h
  split at h
  · next column hcolumn =>
    refine ⟨⟨column, direction.text⟩, (Except.ok.inj h).symm, .inl ⟨?_, direction, rfl⟩⟩
    unfold resolveColumn? at hcolumn
    split at hcolumn
    · next hfield => exact .inl (Option.some.inj hcolumn ▸ hfield)
    · obtain ⟨f, hf, hfield⟩ := Option.map_eq_some_iff.mp hcolumn
      exact .inr ⟨f, List.mem_of_find?_eq_some hf, hfield⟩
  · cases h

theorem filter_window (q : Query) (f : QueryFilter) :
    (q.filter f).limit = q.limit ∧ (q.filter f).offset = q.offset ∧
      (q.filter f).order = q.order := by
  rw [filter]
  split <;> exact ⟨rfl, rfl, rfl⟩

/-- A step sets what it sets, and leaves the rest of the window and the order as they are. -/
theorem apply_window {e : Entity} {step : QueryStep} {q q' : Query} (h : q.apply e step = .ok q') :
    q'.limit = step.limit?.or q.limit ∧ q'.offset = step.offset?.or q.offset ∧
      (q'.order = q.order ∨ ∃ k, q'.order = some k ∧ e.HasSortKey k) := by
  cases step with
  | filter f =>
    cases h
    obtain ⟨hlimit, hoffset, horder⟩ := q.filter_window f
    exact ⟨hlimit, hoffset, .inl horder⟩
  | orderBy field direction =>
    obtain ⟨k, rfl, hk⟩ := hasSortKey_of_orderBy h
    exact ⟨rfl, rfl, .inr ⟨k, rfl, hk⟩⟩
  | defaultOrder =>
    cases h
    rw [defaultOrder]
    split
    · exact ⟨rfl, rfl, .inl rfl⟩
    · exact ⟨rfl, rfl, .inr ⟨_, rfl, .inr rfl⟩⟩
  | paginate r =>
    rw [apply, paginate_eq] at h
    cases horder : q.orderBy e (r.order.getD e.defaultSort) (r.direction (defaultDirection e)) with
    | error error => simp [horder, Except.map] at h
    | ok sorted =>
      rw [horder] at h
      cases h
      obtain ⟨k, rfl, hk⟩ := hasSortKey_of_orderBy horder
      exact ⟨rfl, rfl, .inr ⟨k, rfl, hk⟩⟩
  | limit n => cases h; exact ⟨rfl, rfl, .inl rfl⟩
  | offset n => cases h; exact ⟨rfl, rfl, .inl rfl⟩

/-! ### Runs -/

/-- The query has the window that the last steps set that set one, and one of the sort keys of
    the entity, if it has any. -/
structure Follows (e : Entity) (steps : List QueryStep) (q : Query) : Prop where
  limit : q.limit = (steps.filterMap QueryStep.limit?).getLast?
  offset : q.offset = (steps.filterMap QueryStep.offset?).getLast?
  order : ∀ k, q.order = some k → e.HasSortKey k

theorem follows_empty (e : Entity) : Follows e [] empty := ⟨rfl, rfl, nofun⟩

theorem Follows.apply {e : Entity} {steps : List QueryStep} {q q' : Query} {step : QueryStep}
    (hq : Follows e steps q) (h : q.apply e step = .ok q') : Follows e (steps ++ [step]) q' := by
  obtain ⟨hlimit, hoffset, horder⟩ := apply_window h
  constructor
  · rw [hlimit, hq.limit, getLast?_filterMap_concat]
  · rw [hoffset, hq.offset, getLast?_filterMap_concat]
  · intro k hk
    obtain hsame | ⟨k', hk', hvalid⟩ := horder
    · exact hq.order k (hsame ▸ hk)
    · rw [hk'] at hk
      exact Option.some.inj hk ▸ hvalid

theorem Follows.foldlM {e : Entity} {done steps : List QueryStep} {q q' : Query}
    (hq : Follows e done q) (h : steps.foldlM (Query.apply e) q = .ok q') :
    Follows e (done ++ steps) q' := by
  -- by induction on the steps to come, which join those that are done
  induction steps generalizing q done with
  | nil =>
    cases h
    rwa [List.append_nil]
  | cons step steps ih =>
    rw [List.foldlM_cons] at h
    obtain ⟨next, hstep, h⟩ := bind_eq_ok_iff.mp h
    rw [List.append_cons]
    exact ih (hq.apply hstep) h

theorem follows_run {e : Entity} {steps : List QueryStep} {q : Query}
    (h : run e steps = .ok q) : Follows e steps q := (follows_empty e).foldlM h

/-! ### Texts -/

/-- What stands behind `WHERE`. -/
def conditionText? (q : Query) : Option String :=
  match q.clauses with
  | [] => none
  | [clause] => some clause
  | clauses => some (" AND ".intercalate (clauses.map fun c => "(" ++ c ++ ")"))

/-- The statement of a query, without an offset that has no limit. -/
def statement (q : Query) : SelectStatement where
  condition := q.conditionText?
  order := q.order
  window := q.limit.map fun n => (n, q.offset.filter fun m => 0 < m)

theorem whereText_eq (q : Query) : q.whereText = clauseText " WHERE " q.conditionText? := by
  rw [whereText, conditionText?]
  cases q.clauses with
  | nil => rfl
  | cons clause clauses => cases clauses <;> rfl

theorem offsetText_eq (q : Query) :
    q.offsetText = clauseText " OFFSET " ((q.offset.filter fun m => 0 < m).map toString) := by
  rw [offsetText]
  cases q.offset with
  | none => rfl
  | some m => by_cases hm : 0 < m <;> simp [hm, clauseText, Option.filter]

/-- Behind the statement of a query only an offset can stand that has no limit. -/
theorem text_eq (q : Query) (e : Entity) :
    q.text e = q.statement.text e ++ if q.limit = none then q.offsetText else "" := by
  have horder : q.orderText = clauseText " ORDER BY " (q.order.map SortKey.text) := by
    rw [orderText]
    cases q.order <;> rfl
  rw [text, whereText_eq, horder, limitText, offsetText_eq, SelectStatement.text, statement]
  cases q.limit with
  | none => simp [clauseText]
  | some n => simp [clauseText]

/-- What stands behind `WHERE` is what is read as the condition. -/
theorem condition?_eq {q : Query} {c : String} (h : q.conditionText? = some c) :
    q.condition? = Expression.ofText? c := by
  rw [condition?, whereText_eq, h, clauseText, ofText_where]
  rfl

/-- The statement of a query of sound filters is complete. -/
theorem isComplete_statement {e : Entity} {steps : List QueryStep} {q : Query}
    {fs : List QueryFilter} (hq : Follows e steps q) (hcollects : Collects q fs)
    (hfs : ∀ f ∈ fs, f.IsSound) : q.statement.IsComplete e := by
  constructor
  · -- the clause has a truth, so its condition is read
    intro c hc
    have htruth := hcollects.whereTruth?_eq hfs ⟨fun _ => .null, fun _ => .none⟩
    have hne : q.whereText ≠ "" := by
      rw [whereText_eq, show q.conditionText? = some c from hc, clauseText]
      simp
    rw [whereTruth?, if_neg hne, condition?_eq hc] at htruth
    cases hread : Expression.ofText? c with
    | some _ => rfl
    | none => rw [hread] at htruth; cases htruth
  · exact hq.order
  · intro n m hwindow
    obtain ⟨n', -, hn'⟩ := Option.map_eq_some_iff.mp hwindow
    obtain ⟨-, hoffset⟩ := Prod.mk.inj hn'
    obtain ⟨-, hm⟩ := Option.filter_eq_some_iff.mp hoffset
    exact of_decide_eq_true hm

/-- **The statement of a query.** After every run of steps with sound filters there is a complete
    statement, with the last limit and the last offset of the steps, that the text of the query
    begins with.  It is the text of the query where some step sets a limit, or where the last
    offset skips nothing.  Otherwise the offset stands behind the statement without a limit. -/
theorem run_text (e : Entity) {steps : List QueryStep} {q : Query}
    (hfs : ∀ f ∈ steps.flatMap QueryStep.filters, f.IsSound) (hrun : run e steps = .ok q) :
    ∃ s : SelectStatement, s.IsComplete e ∧
      s.window = (steps.filterMap QueryStep.limit?).getLast?.map (fun n =>
        (n, (steps.filterMap QueryStep.offset?).getLast?.filter fun m => 0 < m)) ∧
      ((∃ step ∈ steps, step.limit?.isSome = true) ∨
          (∀ m, (steps.filterMap QueryStep.offset?).getLast? = some m → m ≤ 0) →
        q.text e = s.text e) ∧
      ∀ m, (∀ step ∈ steps, step.limit? = none) →
        (steps.filterMap QueryStep.offset?).getLast? = some m → 0 < m →
          q.text e = s.text e ++ " OFFSET " ++ toString m := by
  have hq := follows_run hrun
  have hlimit : q.limit = none ↔ ∀ step ∈ steps, step.limit? = none := by
    rw [hq.limit, List.getLast?_eq_none_iff, List.filterMap_eq_nil_iff]
  refine ⟨q.statement, isComplete_statement hq (collects_run hfs hrun) hfs, ?_, ?_, ?_⟩
  · rw [statement, hq.limit, hq.offset]
  · rintro (⟨step, hstep, hsome⟩ | hoffset)
    · have hne : q.limit ≠ none := by
        intro hnone
        rw [hlimit.mp hnone step hstep] at hsome
        cases hsome
      rw [text_eq, if_neg hne, String.append_empty]
    · rw [← hq.offset] at hoffset
      have hempty : q.offsetText = "" := by
        rw [offsetText]
        split
        · next m hm => rw [if_neg (by have := hoffset m hm; omega)]
        · rfl
      rw [text_eq, hempty, ite_self, String.append_empty]
  · intro m hsteps hoffset hm
    rw [text_eq, if_pos (hlimit.mpr hsteps), offsetText, hq.offset, hoffset, String.append_assoc]
    simp only [if_pos hm]

/-- A negative limit is a limit all the same; without one an offset stands behind a complete
    statement. -/
theorem run_text_user :
    let e := Access.user.entity
    let steps : List QueryStep := [.paginate ⟨none, none, none, none⟩, .offset 7,
      .filter (.predicate (.test (.isNull (.column "name") false))), .limit (-1)]
    (∃ (q : Query) (s : SelectStatement), run e steps = .ok q ∧ s.IsComplete e ∧
      s.window = some (-1, some 7) ∧ q.text e = s.text e) ∧
    ∃ (q : Query) (s : SelectStatement), run e [.defaultOrder, .offset 7] = .ok q ∧
      s.IsComplete e ∧ s.window = none ∧ q.text e = s.text e ++ " OFFSET " ++ toString 7 := by
  intro e steps
  have hfs : ∀ f ∈ steps.flatMap QueryStep.filters, f.IsSound := by
    have hname : ∀ name ∈ ["name"], isName name = true := by decide +kernel
    exact List.forall_mem_singleton.mpr hname
  obtain ⟨q, hrun⟩ : ∃ q, run e steps = .ok q := ⟨_, rfl⟩
  obtain ⟨s, hs, hwindow, htext, -⟩ := run_text e hfs hrun
  obtain ⟨q', hrun'⟩ : ∃ q, run e [.defaultOrder, .offset 7] = .ok q := ⟨_, rfl⟩
  obtain ⟨s', hs', hwindow', -, htext'⟩ := run_text e (List.forall_mem_nil _) hrun'
  refine ⟨⟨q, s, hrun, hs, hwindow, htext (.inl ⟨.limit (-1), by simp [steps], rfl⟩)⟩,
    ⟨q', s', hrun', hs', hwindow', htext' 7 ?_ rfl (by decide)⟩⟩
  simp [QueryStep.limit?]

/-- An offset alone gives a text that no statement has. -/
theorem run_text_offset :
    ∃ q, run Access.user.entity [.offset 5] = .ok q ∧
      ∀ s : SelectStatement, q.text Access.user.entity ≠ s.text Access.user.entity := by
  refine ⟨_, rfl, fun s => ?_⟩
  have htext : (empty.withOffset 5).text Access.user.entity =
      Access.user.entity.selectText ++ (" OFFSET " ++ "5") := by decide +kernel
  show (empty.withOffset 5).text Access.user.entity ≠ _
  rw [htext]
  exact s.ne_text Access.user.entity "5"

end Query

end FilterQuery
