import FilterQuery.Proofs.Search.Renumbering

namespace FilterQuery.Search

/-!
# Words inside of other tokens

The readers of paths, types, identity tests and raised errors read no conditions.  What they
read of some tokens they also read where a closing parenthesis and more stand behind them.

* `Expression.readPath_inside`, `Expression.readType_inside` — paths and types;
* `Expression.readIdentityWords_inside`, `Expression.readRaise_inside` — words behind `IS` and
  errors.
-/

variable {σ : Nat → Nat} {behind : List Token}

namespace Expression

theorem readPath_two (path : List String) (quoted double : Bool) {t : Token} {ts : List Token}
    {second : String} (ht : t.partName? = some second) (hts : ∀ us, ts ≠ .point :: us) :
    readPath path quoted double (.point :: t :: ts) =
      .ok (.name (path ++ [second]) false false, ts) := by
  rw [readPath, ht]
  cases ts with
  | nil => rfl
  | cons u us => cases u <;> first | rfl | exact absurd rfl (hts us)

theorem readPath_three (path : List String) (quoted double : Bool) {t u : Token}
    {second third : String} (ht : t.partName? = some second) (hu : u.partName? = some third)
    (rest : List Token) :
    readPath path quoted double (.point :: t :: .point :: u :: rest) =
      .ok (.name (path ++ [second, third]) false false, rest) := by
  rw [readPath, ht]
  dsimp only
  rw [hu]

theorem readPath_inside (path : List String) {quoted double : Bool} {ts r : List Token}
    {e : Expression} (h : readPath path quoted double ts = .ok (e, r)) :
    readPath path quoted double (inside σ behind ts) = .ok (e.renumber σ, inside σ behind r) := by
  cases ts with
  | nil => cases h; rfl
  | cons t ts =>
    cases t with
    | point =>
      cases ts with
      | nil => cases h
      | cons t ts =>
        cases ht : t.partName? with
        | none =>
          rw [readPath, ht] at h
          cases h
        | some second =>
          have htinside := (Token.partName?_renumber σ t).trans ht
          by_cases hpoint : ∃ us, ts = .point :: us
          · obtain ⟨us, rfl⟩ := hpoint
            rw [readPath, ht] at h
            cases us with
            | nil => cases h
            | cons u rest =>
              dsimp only at h
              cases hu : u.partName? with
              | none =>
                rw [hu] at h
                cases h
              | some third =>
                rw [hu] at h
                cases h
                exact readPath_three path quoted double htinside
                  ((Token.partName?_renumber σ u).trans hu) _
          · have hts (us : List Token) : ts ≠ .point :: us := fun heq => hpoint ⟨us, heq⟩
            rw [readPath_two path quoted double ht hts] at h
            cases h
            have hinside (us : List Token) : inside σ behind r ≠ .point :: us := by
              intro heq
              obtain ⟨vs, rfl⟩ := eq_cons_of_inside_eq_cons heq (by simp) (by simp)
              exact hts vs rfl
            exact readPath_two path quoted double htinside hinside
    | _ => cases h; rfl

theorem readTypeSize_inside {ts r : List Token} (h : readTypeSize ts = some r) :
    readTypeSize (inside σ behind ts) = some (inside σ behind r) := by
  have hnumber (ts r : List Token) (h : readTypeSize.number ts = some r) :
      readTypeSize.number (inside σ behind ts) = some (inside σ behind r) := by
    cases ts with
    | nil => cases h
    | cons t ts => cases t <;> first | cases h; rfl | cases h
  cases ts with
  | nil => cases h
  | cons t ts =>
    cases t with
    | sign s =>
      rw [readTypeSize] at h
      rw [inside_cons]
      show (if s = .plus ∨ s = .minus then _ else _) = _
      split at h
      · next hs => rw [if_pos hs]; exact hnumber ts r h
      · cases h
    | integer n => cases h; rfl
    | real x => cases h; rfl
    | _ => cases h

theorem readType_cons (name : List String) {t : Token} (hclosing : t ≠ .closing)
    (hopening : t ≠ .opening) (ts : List Token) :
    readType name (t :: ts) =
      match t.partName? with
      | some s => readType (name ++ [s]) ts
      | none => unexpected (t :: ts) := by
  cases t <;> first | rfl | exact absurd rfl hclosing | exact absurd rfl hopening

/-- The numbers behind the name of a type, in parentheses. -/
theorem readTypeSizes_inside {name : List String} {ts r : List Token} {c : Conversion}
    (h : readType name (.opening :: ts) = .ok (c, r)) :
    readType name (inside σ behind (.opening :: ts)) = .ok (c, inside σ behind r) := by
  rw [readType] at h
  rw [inside_cons]
  show readType name (.opening :: inside σ behind ts) = _
  rw [readType]
  split at h
  · cases h
  · next hname =>
    rw [if_neg hname]
    split at h
    · cases h
    · next rest hsize =>
      obtain ⟨rfl, rfl⟩ := Prod.mk.inj (Except.ok.inj h)
      rw [readTypeSize_inside hsize]
      rfl
    · cases h
    · next rest hsize =>
      have hcomma : readTypeSize (inside σ behind ts) = some (.comma :: inside σ behind rest) :=
        readTypeSize_inside hsize
      rw [hcomma]
      dsimp only
      split at h
      · next rest' hsize' =>
        obtain ⟨rfl, rfl⟩ := Prod.mk.inj (Except.ok.inj h)
        have hclosing : readTypeSize (inside σ behind rest) =
            some (.closing :: .closing :: inside σ behind rest') := readTypeSize_inside hsize'
        rw [hclosing]
      · cases h
      · cases h
      · cases h
    · cases h

theorem readType_inside {name : List String} {ts r : List Token} {c : Conversion}
    (h : readType name ts = .ok (c, r)) :
    readType name (inside σ behind ts) = .ok (c, inside σ behind r) := by
  induction ts generalizing name with
  | nil => cases h
  | cons t ts ih =>
    by_cases hclosing : t = .closing
    · subst hclosing
      cases h
      rfl
    by_cases hopening : t = .opening
    · subst hopening
      exact readTypeSizes_inside h
    -- any other token is a word of the name
    rw [readType_cons name hclosing hopening] at h
    rw [inside_cons, readType_cons name (renumber_ne hclosing (by simp))
      (renumber_ne hopening (by simp)), Token.partName?_renumber]
    cases ht : t.partName? with
    | none =>
      rw [ht] at h
      cases h
    | some s =>
      rw [ht] at h
      exact ih h

theorem readIdentityWords_inside {ts r : List Token} {negated : Bool}
    (h : readIdentityWords ts = .ok (negated, r)) :
    readIdentityWords (inside σ behind ts) = .ok (negated, inside σ behind r) := by
  cases ts with
  | nil => cases h; rfl
  | cons t ts =>
    cases t with
    | keyword k w =>
      cases k with
      | not =>
        -- `NOT` may begin `NOT DISTINCT FROM`
        cases ts with
        | nil => cases h; rfl
        | cons u us =>
          cases u with
          | keyword k' w' =>
            cases k' with
            | distinct =>
              cases us with
              | nil => cases h
              | cons v vs =>
                cases v with
                | keyword k'' _ => cases k'' <;> first | cases h; rfl | cases h
                | _ => cases h
            | _ => cases h; rfl
          | _ => cases h; rfl
      | distinct =>
        cases ts with
        | nil => cases h
        | cons u us =>
          cases u with
          | keyword k' _ => cases k' <;> first | cases h; rfl | cases h
          | _ => cases h
      | _ => cases h; rfl
    | _ => cases h; rfl

theorem readRaise_message (action : String) {t : Token} {message : String}
    (ht : t.partName? = some message) (rest : List Token) :
    readRaise (.opening :: .name action :: .comma :: t :: .closing :: rest) =
      .ok (.raise, rest) := by
  rw [readRaise, ht]

theorem readRaise_inside {ts r : List Token} {e : Expression} (h : readRaise ts = .ok (e, r)) :
    readRaise (inside σ behind ts) = .ok (e.renumber σ, inside σ behind r) := by
  unfold readRaise at h
  split at h
  · split at h
    · next hs =>
      cases h
      exact if_pos hs
    · cases h
  · next t rest =>
    cases ht : t.partName? with
    | none => rw [ht] at h; cases h
    | some s =>
      rw [ht] at h
      cases h
      exact readRaise_message _ ((Token.partName?_renumber σ t).trans ht) _
  · cases h
  · cases h
  · cases h

theorem dropArgumentWord_inside {ts : List Token} (hts : ts ≠ []) :
    dropArgumentWord (inside σ behind ts) = inside σ behind (dropArgumentWord ts) := by
  cases ts with
  | nil => exact absurd rfl hts
  | cons t ts =>
    cases t with
    | keyword k w => cases k <;> rfl
    | _ => rfl

end Expression

end FilterQuery.Search
