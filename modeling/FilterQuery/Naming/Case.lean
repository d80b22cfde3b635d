import FilterQuery.Naming.Words

namespace FilterQuery.Naming

/-!
# Names in another case

* `camel` — `user_id` becomes `userId`;
* `upperSnake` — `DarkBlue` becomes `DARK_BLUE`.
-/

/-- A word with its first letter in upper case and the others in lower case. -/
def capitalized : List Letter → List Char
  | [] => []
  | l :: ls => Text.toUpperCase l ++ Text.toLowerCase ls.flatten

/-- The words of a name put together, each but the first with a capital. -/
def camel (name : String) : String :=
  match words name with
  | [] => ""
  | word :: rest => String.ofList (Text.toLowerCase word.flatten ++ rest.flatMap capitalized)

/-- The words of a name in upper case, with underscores between them. -/
def upperSnake (name : String) : String :=
  "_".intercalate ((words name).map fun word => String.ofList (Text.toUpperCase word.flatten))

end FilterQuery.Naming
