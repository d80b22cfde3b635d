import Mathlib.Data.List.Forall2

namespace FilterQuery

/-!
# Steps that may fail

A step gives a result or an error, and of several steps the first error counts.

* `bind_eq_ok_iff`, `map_eq_ok_iff`, `mapError_eq_ok_iff` — steps without an error;
* `bind_eq_error_iff`, `map_eq_error_iff`, `mapError_eq_error_iff` — steps with an error;
* `mapM_eq_ok_iff` — a traversal without an error, element by element;
* `getLast?_filterMap_cons`, `getLast?_filterMap_concat` — of several settings the last counts;
* `IsFirst` — an element with a property that no element before it has;
* `mapM_eq_error_iff` — a traversal with an error stops at the first element that gives one.
-/

/-- Two steps give a result exactly where the first does and the second goes on from it. -/
theorem bind_eq_ok_iff {α β ε : Type} {x : Except ε α} {f : α → Except ε β} {b : β} :
    (x >>= f) = .ok b ↔ ∃ a, x = .ok a ∧ f a = .ok b := by
  cases x <;> simp [bind, Except.bind]

/-- A step that only makes something of a result has one where there is a result. -/
theorem map_eq_ok_iff {α β ε : Type} {f : α → β} {x : Except ε α} {b : β} :
    x.map f = .ok b ↔ ∃ a, x = .ok a ∧ f a = b := by
  cases x <;> simp [Except.map]

/-- Another error is no result either. -/
theorem mapError_eq_ok_iff {α ε ε' : Type} {x : Except ε α} {f : ε → ε'} {a : α} :
    x.mapError f = .ok a ↔ x = .ok a := by
  cases x <;> simp [Except.mapError]

/-- Two steps fail where the first does, or where the second does. -/
theorem bind_eq_error_iff {α β ε : Type} {x : Except ε α} {f : α → Except ε β} {e : ε} :
    (x >>= f) = .error e ↔ x = .error e ∨ ∃ a, x = .ok a ∧ f a = .error e := by
  cases x <;> simp [bind, Except.bind]

/-- A step that only makes something of a result fails where there is none. -/
theorem map_eq_error_iff {α β ε : Type} {f : α → β} {x : Except ε α} {e : ε} :
    f <$> x = .error e ↔ x = .error e := by
  cases x <;> simp [Functor.map, Except.map]

theorem mapError_eq_error_iff {α ε ε' : Type} {x : Except ε α} {f : ε → ε'} {e' : ε'} :
    x.mapError f = .error e' ↔ ∃ e, x = .error e ∧ f e = e' := by
  cases x <;> simp [Except.mapError]

theorem isOk_eq_true_iff {α ε : Type} {x : Except ε α} : x.isOk = true ↔ ∃ a, x = .ok a := by
  cases x <;> simp [Except.isOk, Except.toBool]

theorem isOk_eq_false_iff {α ε : Type} {x : Except ε α} : x.isOk = false ↔ ∃ e, x = .error e := by
  cases x <;> simp [Except.isOk, Except.toBool]

/-- Two steps with the same errors have results together. -/
theorem exists_ok_congr {α β ε : Type} {x : Except ε α} {y : Except ε β}
    (h : ∀ e, x = .error e ↔ y = .error e) : (∃ a, x = .ok a) ↔ ∃ b, y = .ok b := by
  rw [← isOk_eq_true_iff, ← isOk_eq_true_iff, ← Bool.not_eq_false, ← Bool.not_eq_false,
    isOk_eq_false_iff, isOk_eq_false_iff]
  simp only [h]

/-- A traversal gives a list exactly where each element gives the one beside it. -/
theorem mapM_eq_ok_iff {α β ε : Type} {f : α → Except ε β} {as : List α} {bs : List β} :
    as.mapM f = .ok bs ↔ List.Forall₂ (fun a b => f a = .ok b) as bs := by
  induction as generalizing bs with
  | nil => cases bs <;> simp [pure, Except.pure]
  | cons a as ih =>
    rw [List.mapM_cons]
    cases ha : f a with
    | error e =>
      cases bs <;> simp [bind, Except.bind, ha]
    | ok b =>
      cases has : as.mapM f with
      | error e =>
        have hnone (bs' : List β) : ¬List.Forall₂ (fun a b => f a = .ok b) as bs' := by
          intro h
          rw [← ih, has] at h
          cases h
        cases bs <;> simp [bind, Except.bind, ha, hnone]
      | ok bs' =>
        have hsome (bs'' : List β) :
            List.Forall₂ (fun a b => f a = .ok b) as bs'' ↔ bs' = bs'' := by
          rw [← ih, has, Except.ok.injEq]
        cases bs <;> simp [bind, Except.bind, pure, Except.pure, ha, hsome]

/-- A traversal whose results can be said by a function gives what the function gives. -/
theorem eq_map_of_mapM {α β ε : Type} {f : α → Except ε β} {g : α → β} {as : List α} {bs : List β}
    (h : as.mapM f = .ok bs) (hg : ∀ a ∈ as, ∀ b, f a = .ok b → b = g a) : bs = as.map g := by
  have hbeside := mapM_eq_ok_iff.mp h
  clear h
  induction hbeside with
  | nil => rfl
  | cons hab _ ih =>
    rw [List.forall_mem_cons] at hg
    rw [List.map_cons, hg.1 _ hab, ih hg.2]

/-- What stands beside a list element by element stands beside an element of it. -/
theorem exists_mem_of_forall₂ {α β : Type} {R : α → β → Prop} {as : List α} {bs : List β}
    (h : List.Forall₂ R as bs) {b : β} (hb : b ∈ bs) : ∃ a ∈ as, R a b := by
  induction h with
  | nil => cases hb
  | @cons a b' as bs hab _ ih =>
    obtain rfl | hb := List.mem_cons.mp hb
    · exact ⟨a, List.mem_cons_self, hab⟩
    · obtain ⟨a', ha', hR⟩ := ih hb
      exact ⟨a', List.mem_cons_of_mem _ ha', hR⟩

/-- The last of several settings is that of the last step, if it has one. -/
theorem getLast?_filterMap_concat {α β : Type} (f : α → Option β) (as : List α) (a : α) :
    ((as ++ [a]).filterMap f).getLast? = (f a).or (as.filterMap f).getLast? := by
  rw [List.filterMap_append, List.getLast?_append]
  cases h : f a <;> simp [h]

/-- The first step only counts where no step behind it has a setting. -/
theorem getLast?_filterMap_cons {α β : Type} (f : α → Option β) (a : α) (as : List α) :
    ((a :: as).filterMap f).getLast? = ((as.filterMap f).getLast?).or (f a) := by
  rw [← List.singleton_append, List.filterMap_append, List.getLast?_append]
  cases h : f a <;> simp [h]

/-- An element of a list with a property that no element before it has. -/
def IsFirst {α : Type} (P : α → Prop) (as : List α) (a : α) : Prop :=
  ∃ before after, as = before ++ a :: after ∧ (∀ b ∈ before, ¬P b) ∧ P a

theorem IsFirst.holds {α : Type} {P : α → Prop} {as : List α} {a : α} (h : IsFirst P as a) :
    P a := by
  obtain ⟨-, -, -, -, ha⟩ := h
  exact ha

theorem IsFirst.mem {α : Type} {P : α → Prop} {as : List α} {a : α} (h : IsFirst P as a) :
    a ∈ as := by
  obtain ⟨before, after, rfl, -, -⟩ := h
  simp

theorem not_isFirst_nil {α : Type} {P : α → Prop} {a : α} : ¬IsFirst P [] a := by
  rintro ⟨before, after, h, -⟩
  cases before <;> cases h

/-- The first element with a property is the head, or the head does not have it. -/
theorem isFirst_cons_iff {α : Type} {P : α → Prop} {b a : α} {as : List α} :
    IsFirst P (b :: as) a ↔ (P b ∧ a = b) ∨ (¬P b ∧ IsFirst P as a) := by
  constructor
  · rintro ⟨before, after, h, hbefore, ha⟩
    cases before with
    | nil =>
      obtain ⟨rfl, rfl⟩ := List.cons.inj h
      exact .inl ⟨ha, rfl⟩
    | cons c before =>
      obtain ⟨rfl, rfl⟩ := List.cons.inj h
      rw [List.forall_mem_cons] at hbefore
      exact .inr ⟨hbefore.1, before, after, rfl, hbefore.2, ha⟩
  · rintro (⟨hb, rfl⟩ | ⟨hb, before, after, rfl, hbefore, ha⟩)
    · exact ⟨[], as, rfl, fun c hc => absurd hc List.not_mem_nil, hb⟩
    · exact ⟨b :: before, after, rfl, List.forall_mem_cons.mpr ⟨hb, hbefore⟩, ha⟩

/-- There is a first element with a property exactly where there is one at all. -/
theorem exists_isFirst_iff {α : Type} {P : α → Prop} {as : List α} :
    (∃ a, IsFirst P as a) ↔ ∃ a ∈ as, P a := by
  induction as with
  | nil => simp [not_isFirst_nil]
  | cons b as ih =>
    simp only [isFirst_cons_iff, exists_or, exists_and_left, exists_eq, and_true, ih,
      List.exists_mem_cons_iff]
    by_cases hb : P b <;> simp [hb]

/-- A traversal fails with the error of the first element that gives one. -/
theorem mapM_eq_error_iff {α β ε : Type} {f : α → Except ε β} {as : List α} {e : ε} :
    as.mapM f = .error e ↔
      ∃ a, IsFirst (fun a => ∃ e, f a = .error e) as a ∧ f a = .error e := by
  induction as with
  | nil => simp [pure, Except.pure, not_isFirst_nil]
  | cons b as ih =>
    rw [List.mapM_cons]
    simp only [isFirst_cons_iff]
    cases hb : f b with
    | error e' => simp [bind, Except.bind, hb]
    | ok c =>
      have hrest : (∃ a, IsFirst (fun a => ∃ e, f a = .error e) as a ∧ f a = .error e) ↔
          as.mapM f = .error e := ih.symm
      cases has : as.mapM f with
      | error e' =>
        rw [has] at hrest
        simp [bind, Except.bind, hrest]
      | ok cs =>
        rw [has] at hrest
        simp [bind, Except.bind, pure, Except.pure, hrest]

/-- A traversal without an element that gives an error gives a list. -/
theorem exists_mapM_eq_ok {α β ε : Type} {f : α → Except ε β} {as : List α}
    (h : ∀ a ∈ as, ∃ b, f a = .ok b) : ∃ bs, as.mapM f = .ok bs := by
  cases hmap : as.mapM f with
  | ok bs => exact ⟨bs, rfl⟩
  | error e =>
    obtain ⟨a, ⟨before, after, rfl, -, -⟩, ha⟩ := mapM_eq_error_iff.mp hmap
    obtain ⟨b, hb⟩ := h a (by simp)
    rw [ha] at hb
    cases hb

end FilterQuery
