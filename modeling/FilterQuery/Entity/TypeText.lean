import FilterQuery.Text.Blank

namespace FilterQuery.TypeText

/-!
# Types of declared attributes

The type of an attribute is written as a path of names with arguments in angle brackets.
An attribute that may be absent has a type whose last name is `Option`, and its values are
of the type that is the first argument (`withoutOption`).
-/

/-- A character of a name. -/
def isNameChar (c : Char) : Bool := c.isAlphanum || c = '_' || c.toNat ≥ 128

/-- The text after the bracket that closes arguments, at the given depth of brackets. -/
def afterArguments? (depth : Nat) : List Char → Option (List Char)
  | [] => none
  | '-' :: '>' :: cs => afterArguments? depth cs
  | c :: cs =>
    if c ∈ ['<', '(', '['] then afterArguments? (depth + 1) cs
    else if c ∈ ['>', ')', ']'] then
      match depth with
      | 0 => some cs
      | depth + 1 => afterArguments? depth cs
    else afterArguments? depth cs

/-- The first argument, up to a comma or the closing bracket. -/
def firstArgument (depth : Nat) : List Char → List Char
  | [] => []
  | '-' :: '>' :: cs => '-' :: '>' :: firstArgument depth cs
  | c :: cs =>
    if c ∈ ['<', '(', '['] then c :: firstArgument (depth + 1) cs
    else if c ∈ ['>', ')', ']'] then
      match depth with
      | 0 => []
      | depth + 1 => c :: firstArgument depth cs
    else if c = ',' ∧ depth = 0 then []
    else c :: firstArgument depth cs

/-- A text after a double colon, if one stands in front of it. -/
def afterColons? (cs : List Char) : Option (List Char) :=
  match Text.trimStart cs with
  | ':' :: ':' :: rest => some rest
  | _ => none

/-- The arguments that follow a name, and the text after them; none where no arguments
    follow. -/
def arguments? (cs : List Char) : Option (List Char × List Char) :=
  match Text.trimStart ((afterColons? cs).getD cs) with
  | '<' :: inner => (afterArguments? 0 inner).map (inner, ·)
  | _ => match Text.trimStart cs with
    | '<' :: inner => (afterArguments? 0 inner).map (inner, ·)
    | _ => none

/-- The arguments of the last name of a path, where that name is `Option`.  Each round
    takes one name. -/
def optionArguments? : Nat → List Char → Option (List Char)
  | 0, _ => none
  | rounds + 1, cs =>
    let name := (Text.trimStart cs).takeWhile isNameChar
    let rest := (Text.trimStart cs).dropWhile isNameChar
    if name.isEmpty then none
    else
      match arguments? rest with
      | some (inner, after) =>
        if (Text.trimStart after).isEmpty then
          if name = "Option".toList then some inner else none
        else
          match afterColons? after with
          | some more => optionArguments? rounds more
          | none => none
      | none =>
        match afterColons? rest with
        | some more => optionArguments? rounds more
        | none => none

/-- Whether an argument is a type, and not a lifetime, a constant or a binding. -/
def isType (cs : List Char) : Bool :=
  match Text.trimStart cs with
  | [] => false
  | c :: _ => c ≠ '\'' && c ≠ '"' && c ≠ '-' && c.toNat ≠ 0x7b && !c.isDigit && !cs.elem '='

/-- A type without blanks. -/
def compact (cs : List Char) : String := String.ofList (cs.filter fun c => !Text.isBlank c)

/-- The type of the values of an attribute: the argument where the type is an option, else
    the type itself. -/
def withoutOption (s : String) : String :=
  let cs := s.toList
  match optionArguments? (cs.length + 1) ((afterColons? cs).getD cs) with
  | some inner =>
    let argument := firstArgument 0 inner
    if isType argument then compact argument else compact cs
  | none => compact cs

end FilterQuery.TypeText
