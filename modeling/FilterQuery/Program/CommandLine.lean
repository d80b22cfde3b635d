import FilterQuery.Access.Models
import FilterQuery.Filter.Params

namespace FilterQuery

/-!
# The command line

`compile` and `query` take the name of an entity and then parameters `key=value`; `query`
also takes `--count`.  Anything else is a usage error that names the first argument that
is out of place.
-/

open Access (EntityKind)

/-- What the program is asked to do. -/
inductive Command where
  | help
  | compile (entity : EntityKind) (params : Params)
  | query (entity : EntityKind) (params : Params) (countOnly : Bool)

/-- What is wrong with a command line. -/
inductive UsageError where
  | noEntity (verb : String)
  | unknownEntity (name : String)
  | noParameter (argument : String)
  | unknownCommand (verb : String)
  deriving DecidableEq

/-- The names of all entities. -/
def entityList : String := ", ".intercalate (EntityKind.every.map EntityKind.argument)

/-- The text of a usage error. -/
def UsageError.message : UsageError → String
  | .noEntity verb => s!"Missing entity name after '{verb}'"
  | .unknownEntity name => s!"Unknown entity '{name}', expected one of: {entityList}"
  | .noParameter argument => s!"Expected key=value, got '{argument}'"
  | .unknownCommand verb => s!"Unknown command '{verb}'"

/-- How the program is used. -/
def usage : String :=
  "Usage:\n  warden compile <entity> [key=value ...]\n"
    ++ "  warden query <entity> [--count] [key=value ...]\n\nEntities: " ++ entityList

namespace Command

/-- The texts before and after the first equals sign, where something stands before it. -/
def splitParameter? (argument : String) : Option (String × String) :=
  let cs := argument.toList
  let key := cs.takeWhile (· ≠ '=')
  match cs.dropWhile (· ≠ '=') with
  | [] => none
  | _ :: value =>
    if key.isEmpty then none else some (String.ofList key, String.ofList value)

/-- Reads the arguments after the entity: the parameters, the last value of each key, and
    whether there is a `--count`. -/
def readArguments (params : Params) (countOnly : Bool) :
    List String → Except UsageError (Params × Bool)
  | [] => .ok (params, countOnly)
  | argument :: rest =>
    if argument = "--count" then readArguments params true rest
    else
      match splitParameter? argument with
      | some (key, value) => readArguments (params.insert key value) countOnly rest
      | none => .error (.noParameter argument)

/-- Reads the entity after a verb, and the arguments after it. -/
def readEntity (verb : String) :
    List String → Except UsageError (EntityKind × Params × Bool)
  | [] => .error (.noEntity verb)
  | name :: rest =>
    match EntityKind.ofArgument? name with
    | none => .error (.unknownEntity name)
    | some entity => (readArguments .empty false rest).map (entity, ·)

/-- Reads a command line. -/
def read : List String → Except UsageError Command
  | [] => .ok .help
  | verb :: rest =>
    if verb ∈ ["-h", "--help", "help"] then .ok .help
    else if verb = "compile" then
      (readEntity verb rest).map fun (entity, params, _) => .compile entity params
    else if verb = "query" then
      (readEntity verb rest).map fun (entity, params, countOnly) => .query entity params countOnly
    else .error (.unknownCommand verb)

end Command

end FilterQuery
