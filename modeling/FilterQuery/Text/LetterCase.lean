import FilterQuery.Text.CaseTable
import FilterQuery.Text.Cased

namespace FilterQuery.Text

/-!
# Letter case of all scripts

`toUpperCase` and `toLowerCase` change every letter that has another case.  A character may
become several, and a sigma at the end of a word becomes a final sigma in lower case.
-/

/-- The code point in another case, by the first run that covers it. -/
def shiftCase (runs : List CaseRun) (n : Nat) : Nat :=
  match runs.find? fun r => r.covers n with
  | some r => (n + r.shift).toNat
  | none => n

/-- A character in upper case. -/
def upperChars (c : Char) : List Char :=
  match upperSequences.lookup c.toNat with
  | some codes => codes.map Char.ofNat
  | none => [Char.ofNat (shiftCase upperRuns c.toNat)]

/-- A character in lower case; a capital I with a dot keeps the dot as a mark. -/
def lowerChars (c : Char) : List Char :=
  if c.toNat = 0x130 then ['i', Char.ofNat 0x307]
  else [Char.ofNat (shiftCase lowerRuns c.toNat)]

/-- Whether a cased character follows, characters aside that case passes over. -/
def beforeCased (cs : List Char) : Bool :=
  match cs.dropWhile isCaseIgnorable with
  | c :: _ => isCased c
  | [] => false

/-- The lower case of a capital sigma, which is another one at the end of a word. -/
def lowerSigma (before after : List Char) : Char :=
  if beforeCased before && !beforeCased after then 'ς' else 'σ'

/-- A text in lower case, given the characters before it in reverse. -/
def lowerFrom (before : List Char) : List Char → List Char
  | [] => []
  | c :: cs =>
    (if c = 'Σ' then [lowerSigma before cs] else lowerChars c) ++ lowerFrom (c :: before) cs

/-- A text in upper case. -/
def toUpperCase (cs : List Char) : List Char := cs.flatMap upperChars

/-- A text in lower case. -/
def toLowerCase (cs : List Char) : List Char := lowerFrom [] cs

end FilterQuery.Text
