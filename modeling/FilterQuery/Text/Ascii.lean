namespace FilterQuery.Text

/-!
# ASCII letter case

Filter tokens and text comparisons ignore the case of ASCII letters only; every
other character stands for itself.

* `upper` / `lower` — change the ASCII letters of a text;
* `sameIgnoringCase` — equality up to the case of ASCII letters;
* `dropStart?` — the rest of a text after a given start, ignoring case.
-/

/-- The text with its ASCII letters in upper case. -/
def upper (s : String) : String := s.map Char.toUpper

/-- The text with its ASCII letters in lower case. -/
def lower (s : String) : String := s.map Char.toLower

/-- Whether two characters are equal up to the case of ASCII letters. -/
def sameLetter (a b : Char) : Bool := a.toLower == b.toLower

/-- Whether two texts are equal up to the case of ASCII letters. -/
def sameIgnoringCase (a b : String) : Bool :=
  a.toList.map Char.toLower == b.toList.map Char.toLower

/-- The characters after `start`, if the text begins with it in any ASCII case. -/
def dropStartChars? : List Char → List Char → Option (List Char)
  | [], rest => some rest
  | _ :: _, [] => none
  | s :: ss, c :: cs => if sameLetter s c then dropStartChars? ss cs else none

/-- The rest of `text` after `start`, if it begins with it in any ASCII case. -/
def dropStart? (start text : String) : Option String :=
  (dropStartChars? start.toList text.toList).map String.ofList

/-- Whether `part` occurs somewhere in the characters. -/
def containsChars (part : List Char) : List Char → Bool
  | [] => part.isEmpty
  | c :: cs => part.isPrefixOf (c :: cs) || containsChars part cs

@[simp] theorem dropStartChars?_nil (cs : List Char) : dropStartChars? [] cs = some cs := rfl

theorem sameIgnoringCase_refl (a : String) : sameIgnoringCase a a = true := beq_self_eq_true _

theorem sameIgnoringCase_iff {a b : String} : sameIgnoringCase a b = true ↔
    a.toList.map Char.toLower = b.toList.map Char.toLower := beq_iff_eq

/-- Texts that differ in case only are the same to all others. -/
theorem sameIgnoringCase_congr {a b : String} (h : sameIgnoringCase a b = true) (c : String) :
    sameIgnoringCase c a = sameIgnoringCase c b := by
  unfold sameIgnoringCase
  rw [sameIgnoringCase_iff.mp h]

/-- What `dropStartChars?` returns is a suffix of the text. -/
theorem dropStartChars?_suffix {start cs rest : List Char}
    (h : dropStartChars? start cs = some rest) : rest <:+ cs := by
  induction start generalizing cs with
  | nil => simp_all [dropStartChars?]
  | cons s ss ih =>
    cases cs with
    | nil => simp [dropStartChars?] at h
    | cons c cs =>
      rw [dropStartChars?] at h
      split at h
      · exact (ih h).trans (List.suffix_cons c cs)
      · simp at h

/-- Upper-casing keeps the number of characters. -/
theorem length_toList_upper (s : String) : (upper s).toList.length = s.toList.length := by
  simp [upper]

end FilterQuery.Text
