import FilterQuery.Search.Token

namespace FilterQuery.Search.Token

/-!
# Numbers of placeholders

Tokens whose placeholders have no numbers yet get those that follow a count, one after the
other, and tokens whose placeholders all have numbers stay as they are.

* `Bare` — tokens with so many placeholders, none of them numbered;
* `numbered_append` — such tokens are numbered from left to right;
* `placeholders_numbered` — their numbers follow the count without a gap;
* `numbered_eq_self` — numbers are given once.
-/

/-- The tokens have so many placeholders, none of them numbered. -/
def Bare (k : Nat) (ts : List Token) : Prop := placeholders ts = List.replicate k none

theorem placeholders_append (ts us : List Token) :
    placeholders (ts ++ us) = placeholders ts ++ placeholders us :=
  List.filterMap_append

theorem bare_placeholder : Bare 1 [.placeholder none] := rfl

theorem Bare.append {j k : Nat} {ts us : List Token} (ht : Bare j ts) (hu : Bare k us) :
    Bare (j + k) (ts ++ us) := by
  rw [Bare, placeholders_append, ht, hu, List.replicate_append_replicate]

/-- A token that is passed over by the numbering. -/
def IsPassed (t : Token) : Prop :=
  ∀ ts, placeholders (t :: ts) = placeholders ts ∧ ∀ n, numbered n (t :: ts) = t :: numbered n ts

theorem placeholder_or_isPassed (t : Token) : (∃ index, t = .placeholder index) ∨ IsPassed t := by
  cases t with
  | placeholder index => exact .inl ⟨index, rfl⟩
  | _ => exact .inr fun _ => ⟨rfl, fun _ => rfl⟩

theorem Bare.eq_zero {k : Nat} (h : Bare k []) : k = 0 := by
  cases k with
  | zero => rfl
  | succ k => cases h

/-- The first of some bare tokens, and the tokens behind it. -/
theorem Bare.cons_cases {k : Nat} {t : Token} {ts : List Token} (h : Bare k (t :: ts)) :
    (∃ j, k = j + 1 ∧ t = .placeholder none ∧ Bare j ts) ∨
      (Bare k ts ∧ IsPassed t) := by
  obtain ⟨index, rfl⟩ | hpassed := placeholder_or_isPassed t
  · cases k with
    | zero => cases h
    | succ j =>
      obtain ⟨rfl, hts⟩ := List.cons.inj h
      exact .inl ⟨j, rfl, rfl, hts⟩
  · exact .inr ⟨(hpassed ts).1.symm.trans h, hpassed⟩

/-- Bare tokens are numbered before the tokens behind them. -/
theorem numbered_append {k : Nat} {ts : List Token} (h : Bare k ts) (n : Nat) (us : List Token) :
    numbered n (ts ++ us) = numbered n ts ++ numbered (n + k) us := by
  induction ts generalizing k n with
  | nil =>
    obtain rfl := h.eq_zero
    rfl
  | cons t ts ih =>
    obtain ⟨j, rfl, rfl, hts⟩ | ⟨hts, hpassed⟩ := h.cons_cases
    · rw [List.cons_append, numbered, numbered, ih hts, Nat.add_assoc, Nat.add_comm 1,
        List.cons_append]
    · rw [List.cons_append, (hpassed _).2, (hpassed _).2, ih hts, List.cons_append]

/-- The numbers of bare tokens follow the count. -/
theorem placeholders_numbered {k : Nat} {ts : List Token} (h : Bare k ts) (n : Nat) :
    placeholders (numbered n ts) = (List.range' (n + 1) k).map some := by
  induction ts generalizing k n with
  | nil =>
    obtain rfl := h.eq_zero
    rfl
  | cons t ts ih =>
    obtain ⟨j, rfl, rfl, hts⟩ | ⟨hts, hpassed⟩ := h.cons_cases
    · rw [numbered, List.range'_succ, List.map_cons, ← ih hts]
      rfl
    · rw [(hpassed _).2, (hpassed _).1, ih hts]

/-- Tokens whose placeholders all have numbers keep them. -/
theorem numbered_eq_self {ts : List Token} (h : none ∉ placeholders ts) (n : Nat) :
    numbered n ts = ts := by
  induction ts generalizing n with
  | nil => rfl
  | cons t ts ih =>
    obtain ⟨index, rfl⟩ | hpassed := placeholder_or_isPassed t
    · cases index with
      | none => exact absurd List.mem_cons_self h
      | some k => rw [numbered, ih fun hmem => h (List.mem_cons_of_mem _ hmem)]
    · rw [(hpassed ts).1] at h
      rw [(hpassed ts).2, ih h]

end FilterQuery.Search.Token
