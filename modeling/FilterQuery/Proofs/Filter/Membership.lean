import FilterQuery.Proofs.Filter.Soundness
import FilterQuery.Proofs.Filter.Tags
import FilterQuery.Proofs.Number.Decimal
import FilterQuery.Proofs.Sql.Structure

namespace FilterQuery

/-!
# Lists of numbers

A number filter asks for membership in one list where its alternatives are numbers of one sign,
and for one of its alternatives otherwise.  A list is read as its members are: one of them is
equal to the column, or none of them is.

* `Alternative.HaveSign` — a filter value of numbers that are all sought or all excluded;
* `Parsed.exists_numbers` — what such a value is read as;
* `Predicate.truth_member` — a list asks what its members ask one by one;
* `Predicate.agree_excluded_iff` — excluding several numbers is to exclude one of them only
  where they are the same number;
* `Predicate.member_beside_anyOf` — a list beside the disjunction of its members;
* `FieldFilter.predicate_numbers` — the predicate of a number filter beside the disjunction of
  its alternatives.
-/

/-! ### Truths that are all the same -/

namespace Truth

/-- One truth value several times over is the truth of their conjunction and of their
    disjunction. -/
theorem all_any_of_same {t : Truth} {ts : List Truth} (hne : ts ≠ []) (h : ∀ u ∈ ts, u = t) :
    all ts = t ∧ any ts = t := by
  induction ts with
  | nil => exact absurd rfl hne
  | cons u us ih =>
    rw [List.forall_mem_cons] at h
    obtain ⟨rfl, hus⟩ := h
    cases us with
    | nil => exact ⟨and_yes u, or_no u⟩
    | cons v vs =>
      obtain ⟨hall, hany⟩ := ih (List.cons_ne_nil v vs) hus
      rw [all_cons, any_cons, hall, hany]
      cases u <;> exact ⟨rfl, rfl⟩

end Truth

/-! ### Signs -/

/-- Whether a filter value lists literals other than `null` that are all negated, or all not. -/
def Alternative.HaveSign (raw : String) (negated : Bool) : Prop :=
  ∀ part ∈ parts raw, isNullLiteral (literalOf part) = false ∧ negates part = negated

instance (raw : String) (negated : Bool) : Decidable (Alternative.HaveSign raw negated) :=
  inferInstanceAs (Decidable (∀ part ∈ Alternative.parts raw, _ ∧ _))

namespace Parsed

variable {key column : String} {parts : List (List Char)} {vs : List (Parsed Int)}

/-- Numbers are read with a sign exactly where they are written with it. -/
theorem forall_sign_iff (hread : List.Forall₂ (IsOf .number key) parts vs) (negated : Bool) :
    (∀ v ∈ vs, v.operator = .equals ∧ v.negated = negated) ↔
      ∀ part ∈ parts, Alternative.isNullLiteral (Alternative.literalOf part) = false ∧
        Alternative.negates part = negated := by
  induction hread with
  | nil => simp
  | @cons part v parts vs hv _ ih =>
    have hpart : (v.operator = .equals ∧ v.negated = negated) ↔
        Alternative.isNullLiteral (Alternative.literalOf part) = false ∧
          Alternative.negates part = negated := by
      obtain ⟨hnull, rfl⟩ | ⟨hnull, n, -, rfl⟩ := isOf_number_iff.mp hv <;> simp [hnull]
    rw [List.forall_mem_cons, List.forall_mem_cons, ih, hpart]

/-- Literals of one sign are read as numbers of this sign. -/
theorem exists_numbers {negated : Bool} (hread : List.Forall₂ (IsOf .number key) parts vs)
    (hsign : ∀ part ∈ parts, Alternative.isNullLiteral (Alternative.literalOf part) = false ∧
      Alternative.negates part = negated) :
    ∃ ns : List Int,
      List.Forall₂ (fun part n => Bounds.signed64.read (Alternative.literalOf part) = .ok n)
        parts ns ∧
      vs = ns.map fun n => ⟨.equals, negated, some n⟩ := by
  induction hread with
  | nil => exact ⟨[], .nil, rfl⟩
  | @cons part v parts vs hv _ ih =>
    rw [List.forall_mem_cons] at hsign
    obtain ⟨⟨hliteral, rfl⟩, hsign⟩ := hsign
    obtain ⟨ns, hns, rfl⟩ := ih hsign
    obtain ⟨hnull, -⟩ | ⟨-, n, hn, rfl⟩ := isOf_number_iff.mp hv
    · rw [hliteral] at hnull
      cases hnull
    · exact ⟨n :: ns, .cons hn hns, rfl⟩

/-- Numbers of one sign are gathered in a list. -/
theorem membership?_numbers {ns : List Int} (hne : ns ≠ []) (negated : Bool) :
    membership? column (ns.map fun n => ⟨.equals, negated, some n⟩) =
      some (.test (.member (.column column) (ns.map .integer) negated)) := by
  have hvalues (ns : List Int) :
      (ns.map fun n => (⟨.equals, negated, some n⟩ : Parsed Int)).filterMap
        (fun w => w.value.map Value.integer) = ns.map .integer := by
    simp only [List.filterMap_map, Function.comp_def, Option.map_some, List.filterMap_eq_map']
  obtain ⟨n, ns, rfl⟩ := List.exists_cons_of_ne_nil hne
  have hsign : ∀ w ∈ (n :: ns).map fun n => (⟨.equals, negated, some n⟩ : Parsed Int),
      w.operator = .equals ∧ w.negated = negated := by
    rw [List.forall_mem_map]
    exact fun n _ => ⟨rfl, rfl⟩
  rw [← hvalues, List.map_cons, membership?_eq]
  exact if_pos hsign

/-- The disjunction of numbers of one sign compares with one after the other. -/
theorem anyOf_numbers (ns : List Int) (negated : Bool) :
    anyOf (FilterKind.number.valuePredicate (.column column)) column
        (ns.map fun n => ⟨.equals, negated, some n⟩) =
      .ok (.anyOf (ns.map fun n => .equal (.column column) (.integer n) negated)) := by
  rw [anyOf_eq_ok_iff]
  refine ⟨_, ?_, rfl⟩
  rw [List.forall₂_map_left_iff, List.forall₂_map_right_iff, List.forall₂_same]
  exact fun n _ => rfl

/-- Numbers without a common sign are not gathered. -/
theorem membership?_eq_none (hread : List.Forall₂ (IsOf .number key) parts vs)
    (hsign : ∀ negated, ¬∀ part ∈ parts,
      Alternative.isNullLiteral (Alternative.literalOf part) = false ∧
        Alternative.negates part = negated) :
    membership? column vs = none := by
  cases vs with
  | nil => rfl
  | cons v vs => rw [membership?_eq, if_neg fun h => hsign _ ((forall_sign_iff hread _).mp h)]

/-- No alternative of its own is a list. -/
theorem ne_member_of_anyOf {p : Predicate}
    (h : anyOf (FilterKind.number.valuePredicate (.column column)) column vs = .ok p)
    (e : Expr) (members : List Value) (negated : Bool) :
    p ≠ .test (.member e members negated) := by
  obtain ⟨qs, hqs, rfl⟩ := anyOf_eq_ok_iff.mp h
  have hsingle : ∀ q ∈ qs, q.IsLeaf ∧ q ≠ .test (.member e members negated) := by
    intro q hq
    obtain ⟨⟨op, sign, value⟩, -, hv⟩ := exists_mem_of_forall₂ hqs hq
    cases value with
    | none =>
      cases op with
      | null =>
        obtain rfl := Except.ok.inj hv
        exact ⟨.test, nofun⟩
      | _ => cases hv
    | some n =>
      cases op with
      | null | equals =>
        obtain rfl := Except.ok.inj hv
        exact ⟨.test, nofun⟩
      | _ => cases hv
  obtain ⟨q, rfl, hq⟩ | hnode := Predicate.anyOf_leaves fun q hq => (hsingle q hq).1
  · rw [hq]
    exact (hsingle q List.mem_cons_self).2
  · rw [hnode]
    nofun

end Parsed

/-! ### What lists ask -/

/-- A column of numbers with a number of 64 bits or nothing in it. -/
def Row.HoldsNumber (row : Row) (column : String) : Prop :=
  row.affinity column = .numeric ∧
    (row.cell column = .null ∨
      ∃ n, Bounds.signed64.Contains n ∧ row.cell column = .integer n)

/-- Integers are equal where they are the same, unless the column prefers texts. -/
theorem Expr.holds_integer_isEq {row : Row} {e : Expr} {m : Int} (hcell : e.cell row = .integer m)
    (haffinity : e.affinity row ≠ .text) (n : Int) :
    e.holds row Ordering.isEq (.integer n) = .ofBool (m = n) := by
  rw [holds_integer hcell rfl haffinity]
  congr 1
  rw [Bool.eq_iff_iff, Ordering.isEq_iff_eq_eq, compare_eq_iff_eq, decide_eq_true_eq]

namespace Predicate

/-- A list asks whether one of its members is equal to the column, or whether all of them are
    different from it. -/
theorem truth_member (row : Row) (e : Expr) (vs : List Value) :
    (test (.member e vs false)).truth row =
      .any (vs.map fun v => (equal e v false).truth row) ∧
    (test (.member e vs true)).truth row =
      .all (vs.map fun v => (equal e v true).truth row) := by
  have hequal : (vs.map fun v => (equal e v false).truth row) =
      vs.map (e.holds row Ordering.isEq) := List.map_congr_left fun v _ => truth_equal ..
  have hdifferent : (vs.map fun v => (equal e v true).truth row) =
      (vs.map (e.holds row Ordering.isEq)).map Truth.not := by
    rw [List.map_map]
    exact List.map_congr_left fun v _ => truth_equal ..
  rw [hequal, hdifferent]
  exact ⟨rfl, Truth.not_any _⟩

/-- To exclude several numbers is to exclude one of them only where they are the same number:
    of two numbers, a column that holds the first is different from the second. -/
theorem agree_excluded_iff (column : String) {ns : List Int} (hne : ns ≠ [])
    (hbounds : ∀ n ∈ ns, Bounds.signed64.Contains n) :
    (∀ row : Row, row.HoldsNumber column →
      Truth.all (ns.map fun n => (equal (.column column) (.integer n) true).truth row) =
        .any (ns.map fun n => (equal (.column column) (.integer n) true).truth row)) ↔
      ∀ m ∈ ns, ∀ n ∈ ns, m = n := by
  constructor
  · intro hagree m hm n hn
    let row : Row := ⟨fun _ => .integer m, fun _ => .numeric⟩
    have hcell : (Expr.column column).cell row = .integer m := rfl
    have haffinity : (Expr.column column).affinity row ≠ .text := show Affinity.numeric ≠ .text by
      decide
    have htruth (k : Int) : (equal (.column column) (.integer k) true).truth row =
        (Truth.ofBool (m = k)).not := by
      rw [truth_equal, Expr.holds_integer_isEq hcell haffinity]
      rfl
    have hall : Truth.all (ns.map fun n => (equal (.column column) (.integer n) true).truth row) =
        .no := by
      rw [Truth.all_eq_no_iff, List.mem_map]
      refine ⟨m, hm, ?_⟩
      rw [htruth, decide_eq_true rfl]
      rfl
    rw [hagree row ⟨rfl, .inr ⟨m, hbounds m hm, rfl⟩⟩, Truth.any_eq_no_iff,
      List.forall_mem_map] at hall
    have hno := hall n hn
    by_contra hdifferent
    rw [htruth, decide_eq_false hdifferent] at hno
    cases hno
  · intro hsame row _
    obtain ⟨m, hm⟩ := List.exists_mem_of_ne_nil ns hne
    have htruths : ∀ t ∈ ns.map fun n => (equal (.column column) (.integer n) true).truth row,
        t = (equal (.column column) (.integer m) true).truth row := by
      rw [List.forall_mem_map]
      intro n hn
      rw [hsame n hn m hm]
    obtain ⟨hall, hany⟩ := Truth.all_any_of_same (mt List.map_eq_nil_iff.mp hne) htruths
    rw [hall, hany]

/-- A list of numbers beside the disjunction of its members: they agree where the numbers are
    sought; where they are excluded the list asks for the conjunction, and the two agree on columns
    of numbers only where the numbers are the same. -/
theorem member_beside_anyOf (column : String) {ns : List Int} (hne : ns ≠ [])
    (hbounds : ∀ n ∈ ns, Bounds.signed64.Contains n) :
    (∀ row, (test (.member (.column column) (ns.map .integer) false)).truth row =
      (anyOf (ns.map fun n => equal (.column column) (.integer n) false)).truth row) ∧
    (∀ row, (test (.member (.column column) (ns.map .integer) true)).truth row =
      .all (ns.map fun n => (equal (.column column) (.integer n) true).truth row)) ∧
    ((∀ row : Row, row.HoldsNumber column →
      (test (.member (.column column) (ns.map .integer) true)).truth row =
        (anyOf (ns.map fun n => equal (.column column) (.integer n) true)).truth row) ↔
      ∀ m ∈ ns, ∀ n ∈ ns, m = n) := by
  have hlist (row : Row) := truth_member row (.column column) (ns.map .integer)
  have hany (negated : Bool) (row : Row) := truth_anyOf row
    (ns.map fun n => equal (.column column) (.integer n) negated)
  simp only [List.map_map, Function.comp_def] at hlist hany
  refine ⟨fun row => ?_, fun row => (hlist row).2, ?_⟩
  · rw [(hlist row).1, hany]
  · rw [← agree_excluded_iff column hne hbounds]
    simp only [(hlist _).2, hany]

end Predicate

/-! ### Number filters -/

/-- **Lists of numbers.** The predicate of a number filter is membership in a list exactly where
    its alternatives are numbers of one sign: then in the list of these numbers, in the order in
    which they are written.  Numbers that are sought are asked for as by the disjunction of the
    alternatives; numbers that are excluded are all excluded, which is what the disjunction asks
    of columns of numbers only where they are the same number.  Every other filter has the
    disjunction of its alternatives for its predicate. -/
theorem FieldFilter.predicate_numbers {key raw : String} {f : FieldFilter}
    (hread : read .number key (some raw) = .ok (some f)) (column : String) :
    ∃ p q, f.predicate column = .ok p ∧
      Parsed.anyOf (f.valuePredicate column) column f.values = .ok q ∧
      ((∃ e members negated, p = .test (.member e members negated)) ↔
        ∃ negated, Alternative.HaveSign raw negated) ∧
      (∀ negated, Alternative.HaveSign raw negated → ∃ ns : List Int,
        List.Forall₂ (fun part n => Bounds.signed64.read (Alternative.literalOf part) = .ok n)
          (Alternative.parts raw) ns ∧
        p = .test (.member (.column column) (ns.map .integer) negated) ∧
        q = .anyOf (ns.map fun n => .equal (.column column) (.integer n) negated) ∧
        (negated = false → ∀ row, p.truth row = q.truth row) ∧
        (negated = true →
          (∀ row, p.truth row = .all
            (ns.map fun n => (Predicate.equal (.column column) (.integer n) true).truth row)) ∧
          ((∀ row : Row, row.HoldsNumber column → p.truth row = q.truth row) ↔
            ∀ m ∈ ns, ∀ n ∈ ns, m = n))) ∧
      ((∀ negated, ¬Alternative.HaveSign raw negated) → p = q) := by
  obtain ⟨hsome, vs, rfl, hparts⟩ := read_eq_ok_some_iff.mp hread
  have hnonempty := (Alternative.parts_ne_nil_iff raw).mpr hsome
  by_cases hsign : ∃ negated, Alternative.HaveSign raw negated
  · obtain ⟨negated, hsign⟩ := hsign
    obtain ⟨ns, hns, rfl⟩ := Parsed.exists_numbers hparts hsign
    have hnumbers : ns ≠ [] := by
      rintro rfl
      exact hnonempty (List.forall₂_nil_right_iff.mp hns)
    have hbounds : ∀ n ∈ ns, Bounds.signed64.Contains n := by
      intro n hn
      obtain ⟨part, -, hpart⟩ := exists_mem_of_forall₂ hns hn
      exact Bounds.contains_of_read (by decide) hpart
    obtain ⟨hsought, hexcluded, hagree⟩ := Predicate.member_beside_anyOf column hnumbers hbounds
    refine ⟨.test (.member (.column column) (ns.map .integer) negated),
      .anyOf (ns.map fun n => .equal (.column column) (.integer n) negated), ?_,
      Parsed.anyOf_numbers ns negated, ?_, ?_, ?_⟩
    · rw [predicate, membership?, Parsed.membership?_numbers hnumbers]
    · exact iff_of_true ⟨_, _, _, rfl⟩ ⟨negated, hsign⟩
    · intro negated' hsign'
      obtain rfl : negated = negated' := by
        obtain ⟨part, hpart⟩ := List.exists_mem_of_ne_nil _ hnonempty
        exact (hsign part hpart).2.symm.trans (hsign' part hpart).2
      refine ⟨ns, hns, rfl, rfl, ?_, ?_⟩
      · rintro rfl
        exact hsought
      · rintro rfl
        exact ⟨hexcluded, hagree⟩
    · exact fun hnone => absurd hsign (hnone negated)
  · have hnone : Parsed.membership? column vs = none :=
      Parsed.membership?_eq_none hparts (not_exists.mp hsign)
    obtain ⟨p, hp⟩ := exists_predicate_of_isOf hparts column
    have hq :
        Parsed.anyOf (FilterKind.number.valuePredicate (.column column)) column vs = .ok p := by
      rw [predicate, membership?, hnone] at hp
      exact hp
    refine ⟨p, p, hp, hq, iff_of_false ?_ hsign, ?_, fun _ => rfl⟩
    · rintro ⟨e, members, negated, rfl⟩
      exact Parsed.ne_member_of_anyOf hq e members negated rfl
    · exact fun negated hsign' => absurd ⟨negated, hsign'⟩ hsign

/-- Two numbers are excluded, one of them twice and in different words: there is a column of
    numbers that the list and the disjunction do not agree about. -/
theorem FieldFilter.predicate_numbers_excluded :
    ∃ f p q, read .number "id" (some "not_5|NOT_-0|not_+005") = .ok (some f) ∧
      f.predicate "pac_id" = .ok p ∧
      Parsed.anyOf (f.valuePredicate "pac_id") "pac_id" f.values = .ok q ∧
      p = .test (.member (.column "pac_id") [.integer 5, .integer 0, .integer 5] true) ∧
      ∃ row : Row, row.HoldsNumber "pac_id" ∧ p.truth row ≠ q.truth row := by
  have hread : read .number "id" (some "not_5|NOT_-0|not_+005") = .ok (some _) := rfl
  obtain ⟨p, q, hp, hq, -, hlist, -⟩ := predicate_numbers hread "pac_id"
  obtain ⟨ns, -, hmember, -, -, hexcluded⟩ := hlist true (by decide)
  have hp' : p = .test (.member (.column "pac_id") [.integer 5, .integer 0, .integer 5] true) :=
    (Except.ok.inj hp).symm
  refine ⟨_, p, q, hread, hp, hq, hp', ?_⟩
  by_contra hagree
  push Not at hagree
  have hsame := (hexcluded rfl).2.mp hagree
  have hvalues := (Condition.member.inj (Predicate.test.inj (hmember.symm.trans hp'))).2.1
  have hmem {k : Int} (hk : Value.integer k ∈ [.integer 5, .integer 0, .integer 5]) : k ∈ ns := by
    rw [← hvalues, List.mem_map] at hk
    obtain ⟨n, hn, hkn⟩ := hk
    exact Value.integer.inj hkn ▸ hn
  exact absurd (hsame 5 (hmem (by decide)) 0 (hmem (by decide))) (by decide)

end FilterQuery
