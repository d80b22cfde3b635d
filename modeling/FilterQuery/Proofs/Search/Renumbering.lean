import FilterQuery.Search.Reader

namespace FilterQuery.Search

/-!
# Tokens inside of others

A condition may stand in parentheses within a longer statement, where its placeholders have
other numbers.

* `Token.renumber`, `Expression.renumber` — other numbers for placeholders;
* `inside` — tokens with other numbers and with a closing parenthesis and more behind them;
* `eq_cons_of_inside_eq_cons` — the first of them is the first of the tokens themselves.
-/

/-! ### Renumbering -/

/-- The token with another number for a numbered placeholder. -/
def Token.renumber (σ : Nat → Nat) : Token → Token
  | .placeholder index => .placeholder (index.map σ)
  | t => t

namespace Expression

mutual

/-- The expression with other numbers for its placeholders. -/
def renumber (σ : Nat → Nat) : Expression → Expression
  | .placeholder n => .placeholder (σ n)
  | .modified m a => .modified m (a.renumber σ)
  | .binary op a b => .binary op (a.renumber σ) (b.renumber σ)
  | .truthTest a wanted negated => .truthTest (a.renumber σ) wanted negated
  | .escaped a p e => .escaped (a.renumber σ) (p.renumber σ) (e.renumber σ)
  | .isNull a negated => .isNull (a.renumber σ) negated
  | .between a low high => .between (a.renumber σ) (low.renumber σ) (high.renumber σ)
  | .among a items => .among (a.renumber σ) (renumberList σ items)
  | .amongRows a table => .amongRows (a.renumber σ) table
  | .cast a type => .cast (a.renumber σ) type
  | .collate a collation => .collate (a.renumber σ) collation
  | .call f args => .call f (renumberList σ args)
  | .choice parts => .choice (renumberList σ parts)
  | .row items => .row (renumberList σ items)
  | .constant c => .constant c
  | .parameter word => .parameter word
  | .moment => .moment
  | .name path quoted double => .name path quoted double
  | .raise => .raise

/-- Several expressions with other numbers for their placeholders. -/
def renumberList (σ : Nat → Nat) : List Expression → List Expression
  | [] => []
  | a :: as => a.renumber σ :: renumberList σ as

end

theorem isZero_renumber (σ : Nat → Nat) (e : Expression) : (e.renumber σ).isZero = e.isZero := by
  cases e with
  | among a items => cases items <;> rfl
  | _ => rfl

theorem combine_renumber (σ : Nat → Nat) (op : Operation) (a b : Expression) :
    combine op (a.renumber σ) (b.renumber σ) = (combine op a b).renumber σ := by
  cases op with
  | and =>
    rw [combine, combine, conjunction, conjunction, isZero_renumber, isZero_renumber]
    split <;> rfl
  | _ => rfl

theorem identity_renumber (σ : Nat → Nat) (negated : Bool) (a b : Expression) :
    identity negated (a.renumber σ) (b.renumber σ) = (identity negated a b).renumber σ := by
  cases b with
  | constant c => cases c <;> rfl
  | _ => rfl

end Expression

namespace Token

variable (σ : Nat → Nat) (t : Token)

@[simp] theorem partName?_renumber : (t.renumber σ).partName? = t.partName? := by
  cases t <;> rfl

@[simp] theorem ofToken?_renumber :
    Operation.ofToken? (t.renumber σ) = Operation.ofToken? t := by
  cases t <;> rfl

end Token

/-! ### Tokens inside of others -/

/-- Tokens inside of others: with other numbers for placeholders, and a closing parenthesis
    and more behind them. -/
def inside (σ : Nat → Nat) (behind : List Token) (ts : List Token) : List Token :=
  ts.map (Token.renumber σ) ++ .closing :: behind

section Readers

variable {σ : Nat → Nat} {behind : List Token}

theorem inside_cons (t : Token) (ts : List Token) :
    inside σ behind (t :: ts) = t.renumber σ :: inside σ behind ts := rfl

/-- Only the placeholders among the tokens are renumbered. -/
theorem eq_of_renumber_eq {t u : Token} (h : t.renumber σ = u)
    (hu : ∀ index, u ≠ .placeholder index) : t = u := by
  cases t with
  | placeholder index =>
    cases index <;> exact absurd h.symm (hu _)
  | _ => exact h

theorem renumber_ne {t u : Token} (h : t ≠ u) (hu : ∀ index, u ≠ .placeholder index) :
    t.renumber σ ≠ u := fun heq => h (eq_of_renumber_eq heq hu)

/-- What stands first inside of others stands first by itself. -/
theorem eq_cons_of_inside_eq_cons {u : Token} {ts us : List Token}
    (h : inside σ behind ts = u :: us) (hu : ∀ index, u ≠ .placeholder index)
    (hclosing : u ≠ .closing) : ∃ vs, ts = u :: vs := by
  cases ts with
  | nil => exact absurd (List.cons.inj h).1.symm hclosing
  | cons t ts => exact ⟨ts, by rw [eq_of_renumber_eq (List.cons.inj h).1 hu]⟩

end Readers

end FilterQuery.Search
