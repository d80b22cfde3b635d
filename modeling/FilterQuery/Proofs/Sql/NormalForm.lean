import FilterQuery.Proofs.Sql.Structure

namespace FilterQuery

/-!
# The normal form of predicates

The connectives look at the nodes of their operands, but not at the nodes below these.  A node
that was made otherwise may so keep needless nodes inside it; what the connectives make of
conditions has none.

* `Predicate.Built` — the predicates that the connectives make of conditions and `always`;
* `Predicate.IsNormal` — predicates without needless nodes, however deep;
* `IsNormal.allOf`, `IsNormal.anyOf` — the connectives keep to the normal form;
* `Predicate.anyOf_anyOf` — a disjunction has the disjuncts of its operands, whether they are
  joined one by one or in groups;
* `Predicate.connectives_normal` — what is built is normal, and joined in groups as it is joined
  at once.
-/

namespace Predicate

/-- The predicates that are built from conditions and `always` by the connectives. -/
inductive Built : Predicate → Prop
  | always : Built .always
  | test (c : Condition) : Built (.test c)
  | allOf {ps : List Predicate} (h : ∀ p ∈ ps, Built p) : Built (Predicate.allOf ps)
  | anyOf {ps : List Predicate} (h : ∀ p ∈ ps, Built p) : Built (Predicate.anyOf ps)
  | negate {p : Predicate} (h : Built p) : Built (.negate p)

/-- What a conjunction node may have for an operand: no conjunction node, and not `always`. -/
def IsConjunct (p : Predicate) : Prop := p ≠ .always ∧ ∀ qs, p ≠ .all qs

/-- What a disjunction node may have for an operand: no disjunction node, and not `always`. -/
def IsDisjunct (p : Predicate) : Prop := p ≠ .always ∧ ∀ qs, p ≠ .any qs

/-- A predicate in which every conjunction node has two operands or more, every disjunction node
    none, two or more, and these are neither `always` nor nodes of the same connective. -/
inductive IsNormal : Predicate → Prop
  | always : IsNormal .always
  | test (c : Condition) : IsNormal (.test c)
  | all {ps : List Predicate} (hmany : 2 ≤ ps.length) (hconjuncts : ∀ p ∈ ps, p.IsConjunct)
    (h : ∀ p ∈ ps, IsNormal p) : IsNormal (.all ps)
  | any {ps : List Predicate} (hmany : ps = [] ∨ 2 ≤ ps.length)
    (hdisjuncts : ∀ p ∈ ps, p.IsDisjunct) (h : ∀ p ∈ ps, IsNormal p) : IsNormal (.any ps)
  | negate {p : Predicate} (h : IsNormal p) : IsNormal (.negate p)

variable {p : Predicate} {ps qs : List Predicate}

theorem two_le_length {α : Type} {as : List α} (hnil : as ≠ []) (hone : ∀ a, as ≠ [a]) :
    2 ≤ as.length := by
  match as with
  | [] => exact absurd rfl hnil
  | [a] => exact absurd rfl (hone a)
  | _ :: _ :: _ => simp

/-! ### Conjunctions -/

/-- What a conjunction takes from a normal operand is normal, and may be an operand of its
    node. -/
theorem IsNormal.conjuncts (h : p.IsNormal) : ∀ q ∈ p.conjuncts, q.IsNormal ∧ q.IsConjunct := by
  have hwhole (hp : p.IsConjunct) : ∀ q ∈ [p], q.IsNormal ∧ q.IsConjunct :=
    List.forall_mem_singleton.mpr ⟨h, hp⟩
  cases h with
  | always => exact nofun
  | all _ hconjuncts h => exact fun q hq => ⟨h q hq, hconjuncts q hq⟩
  | test c => exact hwhole ⟨nofun, nofun⟩
  | any => exact hwhole ⟨nofun, nofun⟩
  | negate => exact hwhole ⟨nofun, nofun⟩

theorem IsNormal.flatMap_conjuncts (h : ∀ p ∈ ps, p.IsNormal) :
    ∀ q ∈ ps.flatMap Predicate.conjuncts, q.IsNormal ∧ q.IsConjunct :=
  List.forall_mem_flatMap.mpr fun p hp => (h p hp).conjuncts

theorem IsConjunct.conjuncts_eq (h : p.IsConjunct) : p.conjuncts = [p] := by
  cases p with
  | always => exact absurd rfl h.1
  | all ps => exact absurd rfl (h.2 ps)
  | test | any | negate => rfl

/-- The conjuncts of normal operands are taken whole. -/
theorem IsNormal.conjuncts_whole (h : ∀ p ∈ ps, p.IsNormal) :
    ∀ q ∈ ps.flatMap Predicate.conjuncts, q.conjuncts = [q] :=
  fun q hq => (IsNormal.flatMap_conjuncts h q hq).2.conjuncts_eq

/-- The conjunction of normal predicates is normal. -/
theorem IsNormal.allOf (h : ∀ p ∈ ps, p.IsNormal) : (Predicate.allOf ps).IsNormal := by
  have hflat := IsNormal.flatMap_conjuncts h
  unfold Predicate.allOf
  split
  · exact .always
  · next q hq => exact (hflat q (hq ▸ List.mem_cons_self)).1
  · next hnil hone =>
    exact .all (two_le_length hnil hone) (fun q hq => (hflat q hq).2) fun q hq => (hflat q hq).1

/-- A normal predicate is the conjunction of itself. -/
theorem IsNormal.allOf_singleton (h : p.IsNormal) : Predicate.allOf [p] = p := by
  rw [Predicate.allOf, List.flatMap_singleton]
  cases h with
  | all hmany =>
    rw [Predicate.conjuncts]
    split
    · cases hmany
    · simp at hmany
    · rfl
  | always | test | any | negate => rfl

/-! ### Disjunctions -/

/-- What a disjunction takes from a normal operand is normal, and no disjunction node. -/
theorem IsNormal.disjuncts (h : p.IsNormal) :
    ∀ q ∈ p.disjuncts, q.IsNormal ∧ ∀ qs, q ≠ .any qs := by
  have hwhole (hp : ∀ qs, p ≠ .any qs) : ∀ q ∈ [p], q.IsNormal ∧ ∀ qs, q ≠ .any qs :=
    List.forall_mem_singleton.mpr ⟨h, hp⟩
  cases h with
  | any _ hdisjuncts h => exact fun q hq => ⟨h q hq, (hdisjuncts q hq).2⟩
  | always => exact hwhole nofun
  | test c => exact hwhole nofun
  | all => exact hwhole nofun
  | negate => exact hwhole nofun

theorem IsNormal.flatMap_disjuncts (h : ∀ p ∈ ps, p.IsNormal) :
    ∀ q ∈ ps.flatMap Predicate.disjuncts, q.IsNormal ∧ ∀ qs, q ≠ .any qs :=
  List.forall_mem_flatMap.mpr fun p hp => (h p hp).disjuncts

theorem disjuncts_eq_of_ne_any (h : ∀ qs, p ≠ .any qs) : p.disjuncts = [p] := by
  cases p with
  | any ps => exact absurd rfl (h ps)
  | always | test | all | negate => rfl

/-- The disjuncts of normal operands are taken whole. -/
theorem IsNormal.disjuncts_whole (h : ∀ p ∈ ps, p.IsNormal) :
    ∀ q ∈ ps.flatMap Predicate.disjuncts, q.disjuncts = [q] :=
  fun q hq => disjuncts_eq_of_ne_any (IsNormal.flatMap_disjuncts h q hq).2

/-- The disjunction of normal predicates is normal. -/
theorem IsNormal.anyOf (h : ∀ p ∈ ps, p.IsNormal) : (Predicate.anyOf ps).IsNormal := by
  have hflat := IsNormal.flatMap_disjuncts h
  unfold Predicate.anyOf
  dsimp only
  split
  · exact .always
  · next halways =>
    split
    · next q hq => exact (hflat q (hq ▸ List.mem_cons_self)).1
    · next hone =>
      refine .any ?_ ?_ fun q hq => (hflat q hq).1
      · by_cases hnil : ps.flatMap Predicate.disjuncts = []
        · exact .inl hnil
        · exact .inr (two_le_length hnil hone)
      · intro q hq
        refine ⟨?_, (hflat q hq).2⟩
        rintro rfl
        exact halways (List.any_eq_true.mpr ⟨_, hq, rfl⟩)

/-- A normal predicate is the disjunction of itself. -/
theorem IsNormal.anyOf_singleton (h : p.IsNormal) : Predicate.anyOf [p] = p := by
  rw [Predicate.anyOf, List.flatMap_singleton]
  cases h with
  | @any ps hmany hdisjuncts =>
    have halways : ps.any isAlways = false := by
      rw [List.any_eq_false]
      intro q hq halways
      cases q with
      | always => exact (hdisjuncts _ hq).1 rfl
      | test | all | any | negate => cases halways
    rw [Predicate.disjuncts, halways, if_neg Bool.false_ne_true]
    split
    · simp at hmany
    · rfl
  | always | test | all | negate => rfl

/-- A disjunction with an operand that selects everything selects everything. -/
theorem anyOf_of_isAlways (h : (ps.flatMap disjuncts).any isAlways = true) :
    anyOf ps = .always := by
  rw [anyOf, if_pos h]

/-- The disjuncts of a disjunction are those of its operands, if each of these is taken whole and
    none selects everything. -/
theorem disjuncts_anyOf_flat (h : ∀ q ∈ ps.flatMap disjuncts, q.disjuncts = [q])
    (halways : (ps.flatMap disjuncts).any isAlways = false) :
    (anyOf ps).disjuncts = ps.flatMap disjuncts := by
  unfold anyOf
  dsimp only
  rw [halways, if_neg Bool.false_ne_true]
  split
  · next q hq =>
    rw [hq] at h ⊢
    exact h q List.mem_cons_self
  · rfl

/-- Operands whose disjuncts are taken whole may be joined in two groups first. -/
theorem anyOf_anyOf (hps : ∀ q ∈ ps.flatMap disjuncts, q.disjuncts = [q])
    (hqs : ∀ q ∈ qs.flatMap disjuncts, q.disjuncts = [q]) :
    anyOf [anyOf ps, anyOf qs] = anyOf (ps ++ qs) := by
  have hgroups : [anyOf ps, anyOf qs].flatMap disjuncts =
      (anyOf ps).disjuncts ++ (anyOf qs).disjuncts := by
    rw [List.flatMap_cons, List.flatMap_singleton]
  -- a group that selects everything does so in both
  cases hp : (ps.flatMap disjuncts).any isAlways with
  | true =>
    have hboth : ((ps ++ qs).flatMap disjuncts).any isAlways = true := by
      rw [List.flatMap_append, List.any_append, hp, Bool.true_or]
    rw [anyOf_of_isAlways hboth, anyOf_of_isAlways]
    rw [hgroups, anyOf_of_isAlways hp]
    rfl
  | false =>
    cases hq : (qs.flatMap disjuncts).any isAlways with
    | true =>
      have hboth : ((ps ++ qs).flatMap disjuncts).any isAlways = true := by
        rw [List.flatMap_append, List.any_append, hq, Bool.or_true]
      rw [anyOf_of_isAlways hboth, anyOf_of_isAlways]
      rw [hgroups, List.any_append, anyOf_of_isAlways hq]
      exact Bool.or_true _
    | false =>
      have hflat : [anyOf ps, anyOf qs].flatMap disjuncts = (ps ++ qs).flatMap disjuncts := by
        rw [hgroups, disjuncts_anyOf_flat hps hp, disjuncts_anyOf_flat hqs hq,
          List.flatMap_append]
      rw [anyOf, hflat, ← anyOf]

/-! ### Predicates that are built -/

/-- What the connectives build is normal. -/
theorem Built.isNormal (h : p.Built) : p.IsNormal := by
  induction h with
  | always => exact .always
  | test c => exact .test c
  | allOf _ ih => exact .allOf ih
  | anyOf _ ih => exact .anyOf ih
  | negate _ ih => exact .negate ih

/-- **Normal form.** What the connectives build from conditions and `always` is normal.  Such
    predicates are joined in two groups as they are joined at once, and one of them alone is
    joined to itself. -/
theorem connectives_normal :
    (∀ p : Predicate, p.Built → p.IsNormal) ∧
    (∀ ps qs : List Predicate, (∀ p ∈ ps, p.Built) → (∀ q ∈ qs, q.Built) →
      allOf [allOf ps, allOf qs] = allOf (ps ++ qs) ∧
        anyOf [anyOf ps, anyOf qs] = anyOf (ps ++ qs)) ∧
    ∀ p : Predicate, p.Built → allOf [p] = p ∧ anyOf [p] = p := by
  refine ⟨fun p hp => hp.isNormal, ?_, ?_⟩
  · intro ps qs hps hqs
    have hps' : ∀ p ∈ ps, p.IsNormal := fun p hp => (hps p hp).isNormal
    have hqs' : ∀ q ∈ qs, q.IsNormal := fun q hq => (hqs q hq).isNormal
    constructor
    · exact allOf_allOf (IsNormal.conjuncts_whole hps') (IsNormal.conjuncts_whole hqs')
    · exact anyOf_anyOf (IsNormal.disjuncts_whole hps') (IsNormal.disjuncts_whole hqs')
  · intro p hp
    exact ⟨hp.isNormal.allOf_singleton, hp.isNormal.anyOf_singleton⟩

/-- A conjunction of a disjunction, `always`, and a conjunction with the negation of what selects
    everything: three operands are left. -/
theorem connectives_normal_nested :
    let named : Predicate := .test (.isNull (.column "name") true)
    let dated : Predicate := .test (.isNull (.column "insert_date") true)
    let either := anyOf [named, anyOf [dated, anyOf []]]
    let p := allOf [either, .always, allOf [named, .negate (anyOf [dated, .always])]]
    (p = .all [.any [named, dated], named, .negate .always] ∧ p.IsNormal) ∧
      allOf [allOf [p, .always], allOf [either]] = allOf [p, .always, either] ∧
      anyOf [anyOf [either, p], anyOf [.always]] = anyOf [either, p, .always] ∧
      allOf [p] = p ∧ anyOf [either] = either := by
  intro named dated either p
  obtain ⟨hnormal, hgroups, hone⟩ := connectives_normal
  have heither : either.Built := by
    refine .anyOf (List.forall_mem_cons.mpr ⟨.test _, List.forall_mem_singleton.mpr ?_⟩)
    exact .anyOf (List.forall_mem_cons.mpr ⟨.test _, List.forall_mem_singleton.mpr (.anyOf nofun)⟩)
  have hnegated : (negate (anyOf [dated, .always])).Built :=
    .negate (.anyOf (List.forall_mem_cons.mpr ⟨.test _, List.forall_mem_singleton.mpr .always⟩))
  have hp : p.Built := by
    refine .allOf (List.forall_mem_cons.mpr ⟨heither, List.forall_mem_cons.mpr ⟨.always, ?_⟩⟩)
    refine List.forall_mem_singleton.mpr (.allOf (List.forall_mem_cons.mpr ⟨.test _, ?_⟩))
    exact List.forall_mem_singleton.mpr hnegated
  refine ⟨⟨rfl, hnormal p hp⟩, ?_, ?_, (hone p hp).1, (hone either heither).2⟩
  · exact (hgroups [p, .always] [either]
      (List.forall_mem_cons.mpr ⟨hp, List.forall_mem_singleton.mpr .always⟩)
      (List.forall_mem_singleton.mpr heither)).1
  · exact (hgroups [either, p] [.always]
      (List.forall_mem_cons.mpr ⟨heither, List.forall_mem_singleton.mpr hp⟩)
      (List.forall_mem_singleton.mpr .always)).2

/-- A conjunction node with a single operand is made by no connective, and does not stay. -/
example : allOf [.all [.always]] = .always := rfl

end Predicate

end FilterQuery
