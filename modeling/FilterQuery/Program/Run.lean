import FilterQuery.Json.Printer
import FilterQuery.Program.CommandLine
import FilterQuery.Program.Settings
import FilterQuery.Store.Lookup
import FilterQuery.Text.Quoted

namespace FilterQuery

/-!
# What the program does

`Program.run` gives the exit code and the output for a command line and an environment.

* `compile` prints the predicate of the parameters and the values of its placeholders;
* `query` prints a page of records, or with `--count` their number.

The database is a fresh one in memory.  A filter error is reported on standard output, any
other error on standard error.
-/

/-- What a run of the program leaves behind. -/
structure Outcome where
  exitCode : Nat
  output : String
  errors : String
  deriving DecidableEq

/-- A value with its kind. -/
def Value.described : Value → String
  | .text s => s!"String({Text.quoted s})"
  | .integer n => s!"Int({toString n})"
  | .real x => s!"Float({x.text})"
  | .boolean true => "Bool(true)"
  | .boolean false => "Bool(false)"
  | .identifier u => s!"Uuid({u.text})"
  | .timestamp t => s!"Timestamp({t.isoText})"
  | .null => "Null"

/-- A report in JSON; what is unknown is left out. -/
def ErrorReport.toJson (r : ErrorReport) : Json :=
  let field := match r.field with
    | some s => [("field", Json.text s)]
    | none => []
  let value := match r.value with
    | some s => [("value", Json.text s)]
    | none => []
  .object ([("code", .integer r.code), ("message", .text r.message)] ++ field ++ value
    ++ [("cause", .text r.cause)])

namespace Outcome

/-- A run that went well, with lines of output. -/
def success (lines : List String) : Outcome := ⟨0, String.join (lines.map (· ++ "\n")), ""⟩

/-- A run that failed with an error and its causes. -/
def failure : List String → Outcome
  | [] => ⟨1, "", ""⟩
  | [message] => ⟨1, "", "Error: " ++ message ++ "\n"⟩
  | message :: causes =>
    ⟨1, "", "Error: " ++ message ++ "\n\nCaused by:\n"
      ++ String.join (causes.map fun cause => "    " ++ cause ++ "\n")⟩

/-- A run with a rejected filter value. -/
def rejected (e : FilterError) : Outcome := ⟨1, e.report.toJson.pretty ++ "\n", ""⟩

/-- A run with a command line that cannot be read. -/
def misused (e : UsageError) : Outcome := ⟨2, "", e.message ++ "\n\n" ++ usage ++ "\n"⟩

/-- A run whose lookup gave lines of output or failed. -/
def ofLookup : Except LookupError (List String) → Outcome
  | .ok lines => success lines
  | .error (.filter e) => rejected e
  | .error e => failure [e.message]

end Outcome

namespace Program

/-- The lines about values, numbered from `n`. -/
def bindLines (n : Nat) : List Value → List String
  | [] => []
  | v :: vs => s!"  ?{toString n} = {v.described}" :: bindLines (n + 1) vs

/-- The lines about a compiled predicate. -/
def predicateLines (p : Predicate) : List String := p.text :: bindLines 1 p.binds

/-- Carries out a command. -/
def execute : Command → Outcome
  | .help => .success [usage]
  | .compile entity params =>
    .ofLookup (((Field.compile Access.registry entity.model.entity.distinctFields params).mapError
      .filter).map predicateLines)
  | .query entity params countOnly =>
    let store := Store.fresh
    if countOnly then
      .ofLookup ((store.countMatching Access.registry entity.model params).map fun n =>
        [toString n])
    else
      .ofLookup ((store.findPage .insertion Access.registry entity.model params).map fun page =>
        [page.toJson.pretty])

/-- Runs the program. -/
def run (arguments : List String) (environment : Params) : Outcome :=
  match Settings.ofEnvironment environment with
  | .error e => .failure e.messages
  | .ok _ =>
    match Command.read arguments with
    | .error e => .misused e
    | .ok command => execute command

end Program

end FilterQuery
