import FilterQuery.Sql.Pattern
import Mathlib.Logic.Basic

namespace FilterQuery.Pattern

/-!
# Patterns and the texts they stand for

A character of a pattern is a sign: it stands for any run of characters, for any one character,
or for itself.  Which characters are which differs between the patterns of the database and
those of clients.

* `Sign`, `Matches` — what a pattern stands for, given the signs of its characters;
* `sqlSign`, `starSign`, `clientSign` — the signs of the database, with `*` alone, and with the
  signs of both;
* `matches_map_iff` — a pattern whose characters are replaced by others of the same signs;
* `matches?_iff` — the row by row test of a pattern finds the texts that it stands for.
-/

/-- What a character of a pattern stands for. -/
inductive Sign where
  | run
  | one
  | self
  deriving DecidableEq

/-- A pattern stands for a text: the text is made up of what the characters of the pattern stand
    for, one after the other.  Letters are the same in either ASCII case. -/
inductive Matches (sign : Char → Sign) : List Char → List Char → Prop
  | nil : Matches sign [] []
  | run {p : Char} {ps cs : List Char} (hp : sign p = .run) (skipped : List Char)
    (h : Matches sign ps cs) : Matches sign (p :: ps) (skipped ++ cs)
  | one {p c : Char} {ps cs : List Char} (hp : sign p = .one) (h : Matches sign ps cs) :
    Matches sign (p :: ps) (c :: cs)
  | self {p c : Char} {ps cs : List Char} (hp : sign p = .self) (hc : Text.sameLetter p c = true)
    (h : Matches sign ps cs) : Matches sign (p :: ps) (c :: cs)

/-- The signs of the database: `%` for any run and `_` for any one character. -/
def sqlSign (p : Char) : Sign := if p = '%' then .run else if p = '_' then .one else .self

/-- The signs with one wildcard only: `*` for any run. -/
def starSign (p : Char) : Sign := if p = '*' then .run else .self

/-- The signs of the database, with `*` beside `%`. -/
def clientSign (p : Char) : Sign :=
  if p = '*' ∨ p = '%' then .run else if p = '_' then .one else .self

section Matching

variable {sign : Char → Sign} {p c : Char} {ps cs : List Char}

/-! ### One character -/

theorem matches_nil_iff : Matches sign [] cs ↔ cs = [] := by
  constructor
  · rintro ⟨⟩
    rfl
  · rintro rfl
    exact .nil

/-- A run is empty, or begins with the first character of the text. -/
theorem matches_run_cons_iff (hp : sign p = .run) :
    Matches sign (p :: ps) (c :: cs) ↔ Matches sign ps (c :: cs) ∨ Matches sign (p :: ps) cs := by
  constructor
  · intro h
    generalize htext : c :: cs = text at h
    cases h with
    | run _ skipped h =>
      cases skipped with
      | nil => exact .inl h
      | cons d skipped =>
        obtain ⟨-, rfl⟩ := List.cons.inj htext
        exact .inr (.run hp skipped h)
    | one hone => rw [hp] at hone; cases hone
    | self hself => rw [hp] at hself; cases hself
  · rintro (h | h)
    · exact .run hp [] h
    · generalize hpattern : p :: ps = pattern at h
      cases h with
      | nil => cases hpattern
      | run _ skipped h =>
        obtain ⟨rfl, rfl⟩ := List.cons.inj hpattern
        exact .run hp (c :: skipped) h
      | one hone =>
        obtain ⟨rfl, -⟩ := List.cons.inj hpattern
        rw [hp] at hone
        cases hone
      | self hself =>
        obtain ⟨rfl, -⟩ := List.cons.inj hpattern
        rw [hp] at hself
        cases hself

/-- A run matches the empty text as the rest of the pattern does. -/
theorem matches_run_nil_iff (hp : sign p = .run) :
    Matches sign (p :: ps) [] ↔ Matches sign ps [] := by
  constructor
  · intro h
    generalize htext : [] = text at h
    cases h with
    | run _ skipped h =>
      obtain ⟨rfl, rfl⟩ := List.append_eq_nil_iff.mp htext.symm
      exact h
    | one | self => cases htext
  · exact .run hp []

/-- A sign for one character takes the first character of the text. -/
theorem matches_cons_iff (hp : sign p ≠ .run) :
    Matches sign (p :: ps) (c :: cs) ↔
      (sign p = .one ∨ Text.sameLetter p c = true) ∧ Matches sign ps cs := by
  constructor
  · intro h
    generalize htext : c :: cs = text at h
    cases h with
    | run hrun => exact absurd hrun hp
    | one hone h =>
      obtain ⟨-, rfl⟩ := List.cons.inj htext
      exact ⟨.inl hone, h⟩
    | self _ hc h =>
      obtain ⟨rfl, rfl⟩ := List.cons.inj htext
      exact ⟨.inr hc, h⟩
  · rintro ⟨hc, h⟩
    cases hsign : sign p with
    | run => exact absurd hsign hp
    | one => exact .one hsign h
    | self => exact .self hsign (hc.resolve_left (by simp [hsign])) h

theorem not_matches_cons_nil (hp : sign p ≠ .run) : ¬Matches sign (p :: ps) [] := by
  intro h
  generalize htext : [] = text at h
  cases h with
  | run hrun => exact hp hrun
  | one | self => cases htext

/-! ### Other characters -/

/-- Replacing the characters of a pattern, and those of a text, by others of the same signs and
    letters changes nothing. -/
theorem matches_map_iff {sign sign' : Char → Sign} {f g : Char → Char} {ps cs : List Char}
    (hsign : ∀ p ∈ ps, sign (f p) = sign' p)
    (hsame : ∀ p ∈ ps, sign' p = .self →
      ∀ c ∈ cs, Text.sameLetter (f p) (g c) = Text.sameLetter p c) :
    Matches sign (ps.map f) (cs.map g) ↔ Matches sign' ps cs := by
  induction ps generalizing cs with
  | nil => rw [List.map_nil, matches_nil_iff, matches_nil_iff, List.map_eq_nil_iff]
  | cons p ps ih =>
    rw [List.forall_mem_cons] at hsign hsame
    have hrest (cs' : List Char) (h : ∀ c ∈ cs', c ∈ cs) :
        Matches sign (ps.map f) (cs'.map g) ↔ Matches sign' ps cs' :=
      ih hsign.2 fun p hp hself c hc => hsame.2 p hp hself c (h c hc)
    rw [List.map_cons]
    by_cases hp : sign' p = .run
    · have hfp : sign (f p) = .run := hsign.1.trans hp
      -- the run takes more and more of the text
      clear ih
      induction cs with
      | nil =>
        rw [List.map_nil, matches_run_nil_iff hfp, matches_run_nil_iff hp]
        exact hrest [] (by simp)
      | cons c cs ih =>
        rw [List.map_cons, matches_run_cons_iff hfp, matches_run_cons_iff hp,
          ← List.map_cons, hrest (c :: cs) (by simp)]
        refine or_congr_right (ih ⟨?_, ?_⟩ ?_)
        · exact fun hself d hd => hsame.1 hself d (List.mem_cons_of_mem c hd)
        · exact fun q hq hself d hd => hsame.2 q hq hself d (List.mem_cons_of_mem c hd)
        · exact fun cs' h => hrest cs' fun d hd => List.mem_cons_of_mem c (h d hd)
    · have hfp : sign (f p) ≠ .run := hsign.1 ▸ hp
      cases cs with
      | nil => exact iff_of_false (not_matches_cons_nil hfp) (not_matches_cons_nil hp)
      | cons c cs =>
        have hletter : (sign (f p) = .one ∨ Text.sameLetter (f p) (g c) = true) ↔
            (sign' p = .one ∨ Text.sameLetter p c = true) := by
          rw [hsign.1]
          cases hself : sign' p with
          | run => exact absurd hself hp
          | one => simp
          | self => rw [hsame.1 hself c List.mem_cons_self]
        rw [List.map_cons, matches_cons_iff hfp, matches_cons_iff hp, hletter,
          hrest cs fun d hd => List.mem_cons_of_mem c hd]

/-- What a pattern with one wildcard stands for, it stands for with more of them. -/
theorem Matches.client_of_star (h : Matches starSign ps cs) : Matches clientSign ps cs := by
  induction h with
  | nil => exact .nil
  | @run p ps cs hp skipped _ ih =>
    have hclient : clientSign p = .run := by
      rw [starSign] at hp
      split at hp
      · next hstar => rw [clientSign, if_pos (.inl hstar)]
      · cases hp
    exact .run hclient skipped ih
  | one hp =>
    rw [starSign] at hp
    split at hp <;> cases hp
  | @self p c ps cs hp hc _ ih =>
    cases hclient : clientSign p with
    | run =>
      exact (matches_run_cons_iff hclient).mpr (.inr (.run hclient [] ih))
    | one => exact .one hclient ih
    | self => exact .self hclient hc ih

/-- Without the signs of the database, `*` is the only wildcard. -/
theorem matches_client_iff (hps : ∀ p ∈ ps, p ≠ '%' ∧ p ≠ '_') :
    Matches clientSign ps cs ↔ Matches starSign ps cs := by
  have hsign : ∀ p ∈ ps, clientSign p = starSign p := by
    intro p hp
    obtain ⟨hrun, hone⟩ := hps p hp
    simp [clientSign, starSign, hrun, hone]
  have h : Matches clientSign (ps.map id) (cs.map id) ↔ Matches starSign ps cs :=
    matches_map_iff hsign fun _ _ _ _ _ => rfl
  rwa [List.map_id, List.map_id] at h

end Matching

/-! ### The test -/

section Test

/-- The entries of a row say which ends of a text a pattern stands for, from the whole text to
    the empty one. -/
inductive Says (ps : List Char) : List Char → List Bool → Prop
  | nil {b : Bool} (hb : b = true ↔ Matches sqlSign ps []) : Says ps [] [b]
  | cons {b : Bool} {c : Char} {cs : List Char} {bs : List Bool}
    (hb : b = true ↔ Matches sqlSign ps (c :: cs)) (h : Says ps cs bs) :
    Says ps (c :: cs) (b :: bs)

variable {p : Char} {ps text : List Char} {bs : List Bool}

/-- The first entry is about the whole text. -/
theorem Says.headD_iff (h : Says ps text bs) :
    bs.headD false = true ↔ Matches sqlSign ps text := by
  cases h with
  | nil hb | cons hb => exact hb

theorem says_nil (text : List Char) : Says [] text (text.map (fun _ => false) ++ [true]) := by
  induction text with
  | nil => exact .nil (iff_of_true rfl .nil)
  | cons c cs ih => exact .cons (by simp [matches_nil_iff]) ih

/-- A run takes nothing of an end, or its first character: then it is left with a shorter one. -/
theorem says_orShorter (hp : sqlSign p = .run) (h : Says ps text bs) :
    Says (p :: ps) text (orShorter bs) := by
  induction h with
  | nil hb =>
    refine .nil ?_
    rw [matches_run_nil_iff hp, ← hb]
    simp [orShorter]
  | cons hb _ ih =>
    refine .cons ?_ ih
    rw [matches_run_cons_iff hp, ← hb, ← ih.headD_iff, Bool.or_eq_true]

/-- Another sign takes the first character of an end, and leaves the next one. -/
theorem says_afterChar (hp : sqlSign p ≠ .run) (h : Says ps text bs) :
    Says (p :: ps) text (afterChar p text bs) := by
  have haccepts (c : Char) :
      accepts p c = true ↔ sqlSign p = .one ∨ Text.sameLetter p c = true := by
    have hone : p = '_' ↔ sqlSign p = .one := by
      rw [sqlSign] at hp ⊢
      split
      · next hrun => exact absurd (if_pos hrun) hp
      · split <;> simp_all
    rw [accepts, Bool.or_eq_true, decide_eq_true_eq, hone]
  induction h with
  | nil => exact .nil (iff_of_false Bool.false_ne_true (not_matches_cons_nil hp))
  | cons _ h ih =>
    refine .cons ?_ ih
    rw [matches_cons_iff hp, ← haccepts, ← h.headD_iff, Bool.and_eq_true]

/-- The row of a pattern says which ends of the text the pattern stands for. -/
theorem says_row (text ps : List Char) : Says ps text (row text ps) := by
  induction ps with
  | nil => exact says_nil text
  | cons p ps ih =>
    rw [row]
    split
    · next hp => exact says_orShorter (by rw [sqlSign, if_pos hp]) ih
    · next hp =>
      refine says_afterChar ?_ ih
      rw [sqlSign, if_neg hp]
      split <;> nofun

/-- **Patterns of texts.** The test finds the texts that a pattern stands for, with the signs of
    the database, in what matching reads of both. -/
theorem matches?_iff (pattern text : String) :
    matches? pattern text = true ↔ Matches sqlSign (visible pattern) (visible text) :=
  (says_row (visible text) (visible pattern)).headD_iff

/-- A text is read up to a null character. -/
example : matches? "a%C_" "abbcd\x00!" = true := by decide +kernel

end Test

end FilterQuery.Pattern
