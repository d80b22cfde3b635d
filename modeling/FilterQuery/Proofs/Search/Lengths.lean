import FilterQuery.Proofs.Search.Lexing

namespace FilterQuery.Search

/-!
# Lengths of lexemes

The length of a lexeme is made of the lengths of its parts: a sign that begins it, a run of
characters of one class, the places and the power of a number.

* `runLength_append_of_neg`, `runLength_append_of_pos` — runs in joined texts;
* `decimalLength_eq`, `numberLength_eq` — numbers by their parts;
* `lexemeLength_eq` — lexemes by the character that begins them;
* `Opens`, `signLength_cons` — signs that do not go on with the character behind them.
-/

/-- A run of characters before one that is not of their class. -/
theorem runLength_append_of_neg {b : Char} {p : Char → Bool} (hp : p b = false) (t u : List Char) :
    runLength p (t ++ b :: u) = runLength p t := by
  induction t with
  | nil => simp [runLength, hp]
  | cons c t ih =>
    unfold runLength at ih ⊢
    rw [List.cons_append, List.takeWhile_cons, List.takeWhile_cons]
    split
    · rw [List.length_cons, List.length_cons, ih]
    · rfl

/-- A run of characters goes on into what stands behind it. -/
theorem runLength_append_of_pos {p : Char → Bool} {l : List Char} (hl : ∀ c ∈ l, p c = true)
    (cs : List Char) : runLength p (l ++ cs) = l.length + runLength p cs := by
  rw [runLength, List.takeWhile_append_of_pos hl, List.length_append, runLength]

theorem runLength_le (p : Char → Bool) (t : List Char) : runLength p t ≤ t.length :=
  (List.takeWhile_sublist p).length_le

/-- The length of the places of a number, with the point. -/
def placesLength : List Char → Nat
  | '.' :: rest => 1 + runLength isNumberChar rest
  | _ => 0

theorem decimalLength_eq (cs : List Char) :
    decimalLength cs = runLength isNumberChar cs +
      placesLength (cs.drop (runLength isNumberChar cs)) +
      powerLength (cs.drop (runLength isNumberChar cs +
        placesLength (cs.drop (runLength isNumberChar cs)))) := rfl

/-- The length of a number without the word characters that spoil it. -/
def plainNumberLength (cs : List Char) : Nat :=
  match cs with
  | '0' :: x :: d :: rest =>
    if (x = 'x' ∨ x = 'X') ∧ (hexValue? d).isSome then 3 + runLength isHexChar rest
    else decimalLength cs
  | _ => decimalLength cs

theorem numberLength_eq (cs : List Char) :
    numberLength cs =
      plainNumberLength cs + runLength isWordChar (cs.drop (plainNumberLength cs)) := rfl

theorem plainNumberLength_of_not_hex {cs : List Char}
    (h : ∀ x d rest, cs = '0' :: x :: d :: rest →
      ¬((x = 'x' ∨ x = 'X') ∧ (hexValue? d).isSome = true)) :
    plainNumberLength cs = decimalLength cs := by
  unfold plainNumberLength
  split
  · next x d rest => exact if_neg (h x d rest rfl)
  · rfl

/-- The length of a text up to the next sign of a kind, with that sign. -/
def closedRunLength (quote : Char) (cs : List Char) : Nat :=
  if runLength (fun c => c ≠ quote) cs < cs.length then runLength (fun c => c ≠ quote) cs + 1
  else runLength (fun c => c ≠ quote) cs

/-- The length of a lexeme that is a sign, a comment, a word, a blob or a number that begins
    with a point. -/
def signLength (c : Char) (cs : List Char) : Nat :=
  match c, cs with
  | '-', '-' :: rest => 2 + runLength (fun d => d ≠ '\n') rest
  | '-', '>' :: '>' :: _ => 3
  | '-', '>' :: _ => 2
  | '/', '*' :: d :: rest => 2 + commentLength (d :: rest)
  | '<', d :: _ => if d ∈ ['=', '>', '<'] then 2 else 1
  | '>', d :: _ => if d ∈ ['=', '>'] then 2 else 1
  | '=', '=' :: _ => 2
  | '!', '=' :: _ => 2
  | '|', '|' :: _ => 2
  | '.', d :: _ => if d.isDigit then numberLength (c :: cs) else 1
  | 'x', '\'' :: rest => 2 + blobLength rest
  | 'X', '\'' :: rest => 2 + blobLength rest
  | _, _ => if isWordChar c then 1 + runLength isWordChar cs else 1

/-- The length of a lexeme that begins with none of the characters that decide its kind. -/
theorem lexemeLength_eq (c : Char) (cs : List Char) :
    lexemeLength c cs =
      if c ∈ ['\'', '"', Char.ofNat 96] then 1 + quotationLength c cs
      else if c = '[' then 1 + closedRunLength ']' cs
      else if c = '?' then 1 + runLength Char.isDigit cs
      else if c ∈ ['$', '@', ':', '#'] then 1 + runLength isWordChar cs
      else if c.isDigit then numberLength (c :: cs)
      else if c = byteOrderMark then 1
      else signLength c cs := by
  have hbracket : 1 + closedRunLength ']' cs =
      if runLength (fun d => d ≠ ']') cs < cs.length then runLength (fun d => d ≠ ']') cs + 2
      else runLength (fun d => d ≠ ']') cs + 1 := by
    rw [closedRunLength]
    split <;> omega
  rw [hbracket]
  rfl

/-- Whether two characters begin a lexeme that goes on behind them and is no word. -/
def Opens (c d : Char) : Prop :=
  (c = '-' ∧ (d = '-' ∨ d = '>')) ∨ (c = '/' ∧ d = '*') ∨ (c = '.' ∧ d.isDigit = true) ∨
    ((c = 'x' ∨ c = 'X') ∧ d = '\'')

/-- Other signs look at the next character only, and a word is a run of its characters. -/
theorem signLength_cons {c d : Char} (h : ¬Opens c d) (cs : List Char) :
    signLength c (d :: cs) =
      if isWordChar c then 1 + runLength isWordChar (d :: cs) else signLength c [d] := by
  unfold signLength
  split
  case h_13 =>
    split
    · rfl
    · symm
      split <;> simp_all
  all_goals rename_i heq
  all_goals cases heq
  case h_10 =>
    have hd : d.isDigit = false := by simpa [Opens] using h
    simp [hd, isWordChar]
  all_goals first
    | rfl
    | exact absurd (by simp [Opens]) h

theorem signLength_singleton_le {c d : Char} (h : ¬Opens c d) : signLength c [d] ≤ 2 := by
  unfold signLength
  split
  case h_13 =>
    have := runLength_le isWordChar [d]
    rw [List.length_singleton] at this
    split <;> omega
  all_goals rename_i heq
  all_goals cases heq
  case h_10 =>
    have hd : d.isDigit = false := by simpa [Opens] using h
    simp [hd]
  all_goals first
    | decide
    | split <;> decide

end FilterQuery.Search
