import FilterQuery.Identifier.Basic
import FilterQuery.Text.Ascii

namespace FilterQuery

/-!
# Reading identifiers

Four forms are read: 32 digits, the hyphenated form, the hyphenated form in braces, and
the hyphenated form after `urn:uuid:`.  Digits may be in either case.

* `Uuid.read` — any of the four forms, or a diagnosis;
* `Uuid.readHyphenated` — the hyphenated form only.
-/

/-- Why a text is no identifier.  Positions count bytes of the text. -/
inductive UuidError where
  | character (found : Char) (position : Nat)
  | length (found : Nat)
  | groupCount (found : Nat)
  | groupLength (group expected found : Nat)
  deriving DecidableEq

/-- The text of an identifier error. -/
def UuidError.message : UuidError → String
  | .character c position => s!"invalid character: found `{c}` at {position}"
  | .length found => s!"invalid length: found {found}"
  | .groupCount found => s!"invalid group count: expected 5, found {found}"
  | .groupLength group expected found =>
    s!"invalid group length in group {group}: expected {expected}, found {found}"

/-- The number of bytes of a text in UTF-8. -/
def byteLength (cs : List Char) : Nat := cs.foldr (fun c n => c.utf8Size + n) 0

namespace Uuid

/-- Reads digits in groups of the given widths, separated by hyphens, to the end. -/
def readGroups : List Nat → List Char → Option (List Nat)
  | [], _ => none
  | [w], cs => if cs.length = w then cs.mapM hexValue? else none
  | w :: ws, cs =>
    match (cs.take w).mapM hexValue?, cs.drop w with
    | some digits, '-' :: rest => (readGroups ws rest).map (digits ++ ·)
    | _, _ => none

/-- Reads the hyphenated form. -/
def hyphenated? (cs : List Char) : Option Uuid := (readGroups groups cs).map ofDigits

/-- Reads the form of 32 digits. -/
def simple? (cs : List Char) : Option Uuid := (readGroups [32] cs).map ofDigits

/-- What stands between braces, if the text is in braces. -/
def unbraced? : List Char → Option (List Char)
  | '{' :: cs => if cs.getLast? = some '}' then some cs.dropLast else none
  | _ => none

/-- What follows the name `urn:uuid:`, if the text begins with it. -/
def afterUrn? (cs : List Char) : Option (List Char) :=
  Text.dropStartChars? "urn:uuid:".toList cs

/-- The first character that is neither a hexadecimal digit nor a hyphen, with its byte
    position counted from `position`. -/
def strayCharacter? (position : Nat) : List Char → Option (Char × Nat)
  | [] => none
  | c :: cs =>
    if c = '-' ∨ (hexValue? c).isSome then strayCharacter? (position + c.utf8Size) cs
    else some (c, position)

/-- The positions of the hyphens, counted from `position`. -/
def hyphenPositions (position : Nat) : List Char → List Nat
  | [] => []
  | c :: cs =>
    if c = '-' then position :: hyphenPositions (position + 1) cs
    else hyphenPositions (position + 1) cs

/-- The first group that ends at another place than the hyphenated form has it, given
    where the groups start and how long they are. -/
def wrongGroup? (group start : Nat) : List Nat → List Nat → Option UuidError
  | width :: widths, position :: positions =>
    if position = start + width then wrongGroup? (group + 1) (start + width + 1) widths positions
    else some (.groupLength group width (position - start))
  | _, _ => none

/-- Why characters are not a hyphenated form.  A text without any hyphen is measured as
    a whole where `simple` says that it might have been 32 digits; `total` is the length
    in bytes of the whole text, and positions count from `offset`. -/
def diagnose (cs : List Char) (offset total : Nat) (simple : Bool) : UuidError :=
  match strayCharacter? offset cs with
  | some (c, position) => .character c position
  | none =>
    let hyphens := hyphenPositions 0 cs
    if hyphens.isEmpty && simple then .length total
    else if hyphens.length ≠ 4 then .groupCount (hyphens.length + 1)
    else (wrongGroup? 0 0 groups hyphens).getD (.groupLength 4 12 (total - 24))

/-- The hyphenated form, or why the characters are not. -/
def readWrapped (cs : List Char) : Except UuidError Uuid :=
  match hyphenated? cs with
  | some u => .ok u
  | none => .error (diagnose cs 0 (byteLength cs) false)

/-- The length in bytes of the longest form. -/
def longestForm : Nat := 45

/-- Why a text is no identifier: what stands in braces or after the name is diagnosed
    where there is such, and a text longer than every form is only measured. -/
def diagnoseShape (cs : List Char) : UuidError :=
  let total := byteLength cs
  if longestForm < total then .length total
  else
    match unbraced? cs, afterUrn? cs with
    | some inner, _ => diagnose inner 1 total false
    | none, some inner => diagnose inner 9 total false
    | none, none => diagnose cs 0 total true

/-- Reads any of the four forms, told apart by their length in bytes. -/
def readChars (cs : List Char) : Except UuidError Uuid :=
  let total := byteLength cs
  if total = 32 then
    match simple? cs with
    | some u => .ok u
    | none => .error (diagnoseShape cs)
  else if total = 36 then readWrapped cs
  else if total = 38 then
    match unbraced? cs with
    | some inner => readWrapped inner
    | none => .error (diagnoseShape cs)
  else if total = 45 then
    match afterUrn? cs with
    | some inner => readWrapped inner
    | none => .error (diagnoseShape cs)
  else .error (diagnoseShape cs)

/-- Reads any of the four forms. -/
def read (s : String) : Except UuidError Uuid := readChars s.toList

end Uuid

/-- Why a text is not an identifier in the hyphenated form. -/
inductive HyphenatedError where
  | wrongLength
  | malformed
  deriving DecidableEq, Repr

/-- The text of an error of the hyphenated form. -/
def HyphenatedError.message : HyphenatedError → String
  | .wrongLength => "expected 36 characters in hyphenated form"
  | .malformed => "failed to parse a UUID"

namespace Uuid

/-- Reads the hyphenated form only: it is told from the other forms by its 36 characters, counted
    as bytes, and then read as any form is. -/
def readHyphenated (s : String) : Except HyphenatedError Uuid :=
  if byteLength s.toList = 36 then
    match read s with
    | .ok u => .ok u
    | .error _ => .error .malformed
  else .error .wrongLength

end Uuid

/-- A text that is no identifier. -/
structure UuidTextError where
  text : String
  cause : UuidError
  deriving DecidableEq

/-- The text of an error with the text it is about. -/
def UuidTextError.message (e : UuidTextError) : String :=
  s!"Invalid UUID '{e.text}': {e.cause.message}"

/-- Reads any of the four forms, keeping the text in the error. -/
def Uuid.readText (s : String) : Except UuidTextError Uuid :=
  (Uuid.read s).mapError (⟨s, ·⟩)

end FilterQuery
