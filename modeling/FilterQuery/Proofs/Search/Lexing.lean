import FilterQuery.Search.Token

namespace FilterQuery.Search

/-!
# Lexemes of joined texts

Lexemes are as long as they can be, so the lexemes of joined texts need not be those of
the texts.  They are where the second text begins with a blank, a parenthesis or a comma,
and the first one is made of words, placeholders and signs.

* `lexemes_cons` — the lexemes of a text, one after the other;
* `Breaks` — the texts that end a word before them;
* `Spells` — that a text has some tokens wherever it stands before a break;
* `Spells.append`, `Spells.word` — how such texts are put together.
-/

/-! ### Lexemes one after the other -/

theorem lexemesWithin_congr {m n : Nat} {cs : List Char} (hm : cs.length ≤ m)
    (hn : cs.length ≤ n) : lexemesWithin m cs = lexemesWithin n cs := by
  -- a lexeme has one character at least, so the bound is never reached
  induction m generalizing n cs with
  | zero =>
    obtain rfl : cs = [] := by simpa using hm
    cases n <;> rfl
  | succ m ih =>
    cases cs with
    | nil => cases n <;> rfl
    | cons c cs =>
      cases n with
      | zero => simp at hn
      | succ n =>
        have hdrop : (cs.drop (lexemeLength c cs - 1)).length ≤ cs.length := by simp
        simp only [List.length_cons] at hm hn
        rw [lexemesWithin, lexemesWithin, ih (n := n) (by omega) (by omega)]

@[simp] theorem lexemes_nil : lexemes [] = [] := rfl

/-- The first lexeme of a text, and the lexemes behind it. -/
theorem lexemes_cons (c : Char) (cs : List Char) :
    lexemes (c :: cs) = (c :: cs.take (lexemeLength c cs - 1)) ::
      lexemes (cs.drop (lexemeLength c cs - 1)) := by
  rw [lexemes, List.length_cons, lexemesWithin, lexemes]
  congr 1
  exact lexemesWithin_congr (by simp) (Nat.le_refl _)

theorem lexemes_eq_nil {cs : List Char} (h : lexemes cs = []) : cs = [] := by
  cases cs with
  | nil => rfl
  | cons c cs => rw [lexemes_cons] at h; cases h

/-- A start of a text with the length of its first lexeme is that lexeme. -/
theorem lexemes_append_of_length {c : Char} {l rest : List Char}
    (h : lexemeLength c (l ++ rest) = l.length + 1) :
    lexemes (c :: (l ++ rest)) = (c :: l) :: lexemes rest := by
  rw [lexemes_cons, h, Nat.add_sub_cancel, List.take_left, List.drop_left]

theorem Token.ofText_eq (s : String) :
    Token.ofText s = (lexemes s.toList).filterMap Token.ofLexeme? := by
  rw [ofText, spelled, List.map_filterMap]
  congr 1
  funext l
  cases Token.ofLexeme? l <;> rfl

/-! ### Breaks -/

/-- The signs that are lexemes of their own and end every word. -/
def breakChars : List Char := [' ', '(', ')', ',']

theorem mem_breakChars {c : Char} : c ∈ breakChars ↔ c = ' ' ∨ c = '(' ∨ c = ')' ∨ c = ',' := by
  simp [breakChars]

/-- A text that begins with a break, if it is not empty. -/
def Breaks (cs : List Char) : Prop := ∀ c ∈ cs.head?, c ∈ breakChars

theorem breaks_nil : Breaks [] := fun _ h => by cases h

theorem breaks_cons {c : Char} (h : c ∈ breakChars) (cs : List Char) : Breaks (c :: cs) := by
  rintro d hd
  obtain rfl : c = d := by simpa using hd
  exact h

theorem Breaks.append {cs ds : List Char} (hc : Breaks cs) (hd : Breaks ds) :
    Breaks (cs ++ ds) := by
  cases cs with
  | nil => exact hd
  | cons c cs => exact breaks_cons (hc c rfl) (cs ++ ds)

/-- No character of a class without breaks goes on over a break. -/
theorem Breaks.takeWhile_append {p : Char → Bool} (hp : ∀ c ∈ breakChars, p c = false)
    {l rest : List Char} (hl : ∀ c ∈ l, p c = true) (hrest : Breaks rest) :
    (l ++ rest).takeWhile p = l := by
  rw [List.takeWhile_append_of_pos hl]
  cases rest with
  | nil => simp
  | cons c rest => simp [hp c (hrest c rfl)]

theorem isWordChar_break {c : Char} (h : c ∈ breakChars) : isWordChar c = false := by
  obtain rfl | rfl | rfl | rfl := mem_breakChars.mp h <;> rfl

theorem isDigit_break {c : Char} (h : c ∈ breakChars) : c.isDigit = false := by
  obtain rfl | rfl | rfl | rfl := mem_breakChars.mp h <;> rfl

theorem lexemeLength_break {c : Char} (h : c ∈ breakChars) (rest : List Char) :
    lexemeLength c rest = 1 := by
  obtain rfl | rfl | rfl | rfl := mem_breakChars.mp h <;> rfl

/-- A break is a lexeme whatever follows. -/
theorem lexemes_break {c : Char} (h : c ∈ breakChars) (rest : List Char) :
    lexemes (c :: rest) = [c] :: lexemes rest :=
  lexemes_append_of_length (l := []) (lexemeLength_break h rest)

/-! ### Words -/

/-- Whether a word is a lexeme: it begins neither like a number nor like a parameter, and
    not with a byte order mark. -/
def isWord (w : List Char) : Bool :=
  match w with
  | [] => false
  | c :: cs => !c.isDigit && c ≠ '$' && c ≠ byteOrderMark && (c :: cs).all isWordChar

theorem isWord_cons_iff {c : Char} {cs : List Char} :
    isWord (c :: cs) = true ↔
      c.isDigit = false ∧ c ≠ '$' ∧ c ≠ byteOrderMark ∧ isWordChar c = true ∧
        ∀ d ∈ cs, isWordChar d = true := by
  simp [isWord, and_assoc]

theorem ne_of_isWordChar {c d : Char} (hc : isWordChar c = true) (hd : isWordChar d = false) :
    c ≠ d := by
  rintro rfl
  rw [hc] at hd
  cases hd

theorem forall_isWordChar_of_isWord {w : List Char} (hw : isWord w = true) :
    ∀ c ∈ w, isWordChar c = true := by
  cases w with
  | nil => cases hw
  | cons c cs =>
    simp only [isWord, Bool.and_eq_true] at hw
    exact List.all_eq_true.mp hw.2

/-- A plain name is a word, and no keyword. -/
theorem isWord_of_isName {s : String} (hs : isName s = true) :
    isWord s.toList = true ∧ Keyword.ofWord? s = none := by
  unfold isName at hs
  split at hs
  · cases hs
  · next c cs heq =>
    simp only [Bool.and_eq_true, Option.isNone_iff_eq_none] at hs
    rw [heq, isWord]
    simp only [Bool.and_eq_true]
    exact ⟨hs.1.1.1, hs.1.1.2⟩

/-- A word goes on as long as there are word characters. -/
theorem lexemeLength_word {c : Char} {cs : List Char} (hc : isWordChar c = true)
    (hdigit : c.isDigit = false) (hdollar : c ≠ '$') (hmark : c ≠ byteOrderMark)
    (hquote : cs.head? ≠ some '\'') : lexemeLength c cs = 1 + runLength isWordChar cs := by
  have hno (d : Char) (hd : isWordChar d = false) : c ≠ d := ne_of_isWordChar hc hd
  -- a sign is no word character, and a blob has a quote
  have hblob (rest : List Char) : cs ≠ '\'' :: rest := by
    rintro rfl
    exact hquote rfl
  rw [lexemeLength,
    if_neg (by simp [hno '\'' (by decide), hno '"' (by decide), hno (Char.ofNat 96) (by decide)]),
    if_neg (hno '[' (by decide)), if_neg (hno '?' (by decide)),
    if_neg (by simp [hdollar, hno '@' (by decide), hno ':' (by decide), hno '#' (by decide)]),
    if_neg (by simp [hdigit]), if_neg hmark, if_pos hc]
  all_goals intros
  all_goals rename_i hsign hbehind
  all_goals first
    | exact hblob _ hbehind
    | exact hno _ (by decide) hsign

/-- A word before a break is a lexeme. -/
theorem lexemes_word {w rest : List Char} (hw : isWord w = true) (hrest : Breaks rest) :
    lexemes (w ++ rest) = w :: lexemes rest := by
  cases w with
  | nil => cases hw
  | cons c cs =>
    obtain ⟨hdigit, hdollar, hmark, hc, hcs⟩ := isWord_cons_iff.mp hw
    -- neither the word nor a break goes on with the quote of a blob
    have hquote : (cs ++ rest).head? ≠ some '\'' := by
      intro hhead
      cases cs with
      | nil => exact absurd (hrest _ hhead) (by decide)
      | cons d cs =>
        obtain rfl := Option.some.inj hhead
        exact absurd (hcs '\'' List.mem_cons_self) (by decide)
    refine lexemes_append_of_length ?_
    rw [lexemeLength_word hc hdigit hdollar hmark hquote, runLength,
      hrest.takeWhile_append (fun _ => isWordChar_break) hcs, Nat.add_comm]

/-- No sign begins with a word character. -/
theorem Sign.ofLexeme?_word {c : Char} (hc : isWordChar c = true) (cs : List Char) :
    Sign.ofLexeme? (c :: cs) = none := by
  unfold ofLexeme?
  -- each sign begins with a character that no word has
  split <;> first
    | rfl
    | next heq =>
      obtain ⟨rfl, -⟩ := List.cons.inj heq
      exact absurd hc (by decide)

/-- A word that is a lexeme means itself. -/
theorem Token.ofLexeme?_word {w : List Char} (hw : isWord w = true) :
    Token.ofLexeme? w = some (wordToken w) := by
  cases w with
  | nil => cases hw
  | cons c cs =>
    obtain ⟨hdigit, hdollar, hmark, hc, hcs⟩ := isWord_cons_iff.mp hw
    have hno (d : Char) (hd : isWordChar d = false) : c ≠ d := ne_of_isWordChar hc hd
    have hblob (rest : List Char) : cs ≠ '\'' :: rest := by
      rintro rfl
      exact absurd (hcs '\'' List.mem_cons_self) (by decide)
    have hblank : isBlank c = false := by
      simp [isBlank, hno ' ' (by decide), hno '\t' (by decide), hno '\n' (by decide),
        hno '\r' (by decide), hno '\x0c' (by decide)]
    rw [ofLexeme?, if_neg (by simp [hblank, hmark]), if_neg (hno (Char.ofNat 96) (by decide)),
      if_neg (by simp [hdollar, hno '@' (by decide), hno ':' (by decide), hno '#' (by decide)]),
      if_neg (by simp [hdigit]), Sign.ofLexeme?_word hc, hc]
    · rfl
    all_goals first
      | exact hno _ (by decide)
      | exact fun h _ => hno _ (by decide) h
      | exact fun _ _ h => hblob _ h
      | exact fun _ h _ => hno _ (by decide) h

/-! ### Texts with tokens -/

/-- Whether a token is a placeholder. -/
def Token.isPlaceholder : Token → Bool
  | .placeholder _ => true
  | _ => false

/-- A lexeme that holds a question mark, or is a placeholder, is a question mark. -/
def IsBare (l : List Char) : Prop :=
  '?' ∈ l ∨ (Token.ofLexeme? l).any Token.isPlaceholder = true → l = ['?']

instance (l : List Char) : Decidable (IsBare l) :=
  inferInstanceAs (Decidable ('?' ∈ l ∨ _ → l = ['?']))

theorem isBare_of_not_mem {l : List Char} (h : '?' ∉ l)
    (ht : (Token.ofLexeme? l).any Token.isPlaceholder = false) : IsBare l := by
  rintro (hmem | hplaceholder)
  · exact absurd hmem h
  · rw [ht] at hplaceholder
    cases hplaceholder

/-- Before every break the text has the tokens, and then come those of the break.  Its
    question marks are placeholders without numbers. -/
def Spells (cs : List Char) (ts : List Token) : Prop :=
  ∃ ls, ls.filterMap Token.ofLexeme? = ts ∧ (∀ l ∈ ls, IsBare l) ∧
    ∀ rest, Breaks rest → lexemes (cs ++ rest) = ls ++ lexemes rest

namespace Spells

theorem nil : Spells [] [] := ⟨[], rfl, by simp, fun _ _ => rfl⟩

/-- A text that is a lexeme before every break has the token of the lexeme. -/
theorem of_lexeme {l : List Char} {t : Token} (ht : Token.ofLexeme? l = some t) (hl : IsBare l)
    (h : ∀ rest, Breaks rest → lexemes (l ++ rest) = l :: lexemes rest) : Spells l [t] :=
  ⟨[l], by simp [ht], by simpa using hl, h⟩

/-- A text before one that begins with a break. -/
theorem append {cs ds : List Char} {ts us : List Token} (hc : Spells cs ts) (hd : Spells ds us)
    (hbreak : Breaks ds) : Spells (cs ++ ds) (ts ++ us) := by
  obtain ⟨ls, rfl, hbareL, hls⟩ := hc
  obtain ⟨ms, rfl, hbareM, hms⟩ := hd
  refine ⟨ls ++ ms, List.filterMap_append, fun l hl => ?_, fun rest hrest => ?_⟩
  · exact (List.mem_append.mp hl).elim (hbareL l) (hbareM l)
  · rw [List.append_assoc, hls _ (hbreak.append hrest), hms rest hrest, List.append_assoc]

theorem isBare_break {c : Char} (h : c ∈ breakChars) : IsBare [c] := by
  obtain rfl | rfl | rfl | rfl := mem_breakChars.mp h <;> exact isBare_of_not_mem (by decide) rfl

theorem isBare_word {w : List Char} (hw : isWord w = true) : IsBare w := by
  refine isBare_of_not_mem
    (fun hmem => absurd (forall_isWordChar_of_isWord hw _ hmem) (by decide)) ?_
  rw [Token.ofLexeme?_word hw, Option.any_some, wordToken]
  split <;> rfl

/-- A break before a text. -/
theorem cons_break {c : Char} {ds : List Char} {us : List Token} (h : c ∈ breakChars)
    (hd : Spells ds us) : Spells (c :: ds) ((Token.ofLexeme? [c]).toList ++ us) := by
  obtain ⟨ms, rfl, hbare, hms⟩ := hd
  refine ⟨[c] :: ms, ?_, ?_, fun rest hrest => ?_⟩
  · cases hc : Token.ofLexeme? [c] <;> simp [hc]
  · exact List.forall_mem_cons.mpr ⟨isBare_break h, hbare⟩
  · rw [List.cons_append, lexemes_break h, hms rest hrest, List.cons_append]

theorem blank {ds : List Char} {us : List Token} (hd : Spells ds us) : Spells (' ' :: ds) us :=
  cons_break (by decide) hd

theorem opening {ds : List Char} {us : List Token} (hd : Spells ds us) :
    Spells ('(' :: ds) (.opening :: us) :=
  cons_break (by decide) hd

theorem closing {ds : List Char} {us : List Token} (hd : Spells ds us) :
    Spells (')' :: ds) (.closing :: us) :=
  cons_break (by decide) hd

theorem comma {ds : List Char} {us : List Token} (hd : Spells ds us) :
    Spells (',' :: ds) (.comma :: us) :=
  cons_break (by decide) hd

theorem word {w : List Char} (hw : isWord w = true) : Spells w [wordToken w] :=
  of_lexeme (Token.ofLexeme?_word hw) (isBare_word hw) fun _ hrest => lexemes_word hw hrest

/-- A plain name has itself as its token. -/
theorem name {s : String} (hs : isName s = true) : Spells s.toList [.name s] := by
  obtain ⟨hword, hkeyword⟩ := isWord_of_isName hs
  have ht : wordToken s.toList = .name s := by rw [wordToken, String.ofList_toList, hkeyword]
  rw [← ht]
  exact word hword

theorem placeholder : Spells ['?'] [.placeholder none] := by
  refine of_lexeme rfl (fun _ => rfl) fun rest hrest => lexemes_append_of_length (l := []) ?_
  show 1 + runLength Char.isDigit rest = 1
  rw [runLength, show rest.takeWhile Char.isDigit = [] from
    hrest.takeWhile_append (l := []) (fun _ => isDigit_break) (by simp)]
  rfl

theorem sign {s : Sign} {l : List Char} (hs : Sign.ofLexeme? l = some s)
    (hl : l = ['='] ∨ l = ['<', '>'] ∨ l = ['<'] ∨ l = ['>']) : Spells l [.sign s] := by
  obtain rfl | rfl | rfl | rfl := hl
  all_goals
    obtain rfl := Option.some.inj hs
    refine of_lexeme rfl (isBare_of_not_mem (by decide) (by decide)) fun rest hrest =>
      lexemes_append_of_length ?_
    -- no sign goes on with a break
    cases rest with
    | nil => rfl
    | cons c rest =>
      obtain rfl | rfl | rfl | rfl := mem_breakChars.mp (hrest c rfl) <;> rfl

theorem digit {l : List Char} {n : Nat} (hl : l = ['0'] ∧ n = 0 ∨ l = ['1'] ∧ n = 1) :
    Spells l [.integer n] := by
  obtain ⟨rfl, rfl⟩ | ⟨rfl, rfl⟩ := hl
  all_goals
    refine of_lexeme (by decide) (isBare_of_not_mem (by decide) (by decide)) fun rest hrest =>
      lexemes_append_of_length ?_
    -- no number goes on with a break
    cases rest with
    | nil => rfl
    | cons c rest =>
      have hc := mem_breakChars.mp (hrest c rfl)
      cases rest with
      | nil => obtain rfl | rfl | rfl | rfl := hc <;> decide
      | cons d rest => obtain rfl | rfl | rfl | rfl := hc <;> cases rest <;> rfl

/-- The lexemes of a text that spells some tokens. -/
theorem lexemes_eq {cs : List Char} {ts : List Token} (h : Spells cs ts) :
    (lexemes cs).filterMap Token.ofLexeme? = ts ∧ (∀ l ∈ lexemes cs, IsBare l) ∧
      ∀ rest, Breaks rest → lexemes (cs ++ rest) = lexemes cs ++ lexemes rest := by
  obtain ⟨ls, hts, hbare, hls⟩ := h
  have hall := hls [] breaks_nil
  rw [List.append_nil, lexemes_nil, List.append_nil] at hall
  rw [hall]
  exact ⟨hts, hbare, hls⟩

/-- The tokens of a text before one that begins with a break. -/
theorem tokens_append {cs : List Char} {ts : List Token} (h : Spells cs ts) {rest : List Char}
    (hrest : Breaks rest) :
    (lexemes (cs ++ rest)).filterMap Token.ofLexeme? =
      ts ++ (lexemes rest).filterMap Token.ofLexeme? := by
  obtain ⟨ls, rfl, -, hls⟩ := h
  rw [hls rest hrest, List.filterMap_append]

/-- The tokens of a text that spells them. -/
theorem ofText_eq {s : String} {ts : List Token} (h : Spells s.toList ts) :
    Token.ofText s = ts := by
  rw [Token.ofText_eq, h.lexemes_eq.1]

end Spells

end FilterQuery.Search
