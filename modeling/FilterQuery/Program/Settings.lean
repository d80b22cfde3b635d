import FilterQuery.Filter.Params
import FilterQuery.Number.Integer
import FilterQuery.Text.Ascii
import FilterQuery.Text.Blank

namespace FilterQuery

/-!
# Settings

The settings come from environment variables; each has a default.

| variable                   | meaning                        | default           |
|----------------------------|--------------------------------|-------------------|
| `DATABASE_URL`             | the database                   | `sqlite::memory:` |
| `DATABASE_MAX_CONNECTIONS` | the connections to a database  | 5                 |
| `LOG_FORMAT`               | `json` or `pretty`             | `json`            |
-/

/-- The format of the log. -/
inductive LogFormat where
  | json
  | pretty
  deriving DecidableEq, Repr

/-- What is wrong with the settings. -/
inductive SettingsError where
  | connections (cause : IntegerError)
  | logFormat (name : String)
  deriving DecidableEq

/-- The messages of a settings error: the error itself and then its causes. -/
def SettingsError.messages : SettingsError → List String
  | .connections cause => ["Invalid DATABASE_MAX_CONNECTIONS", cause.message]
  | .logFormat name => [s!"Unknown LOG_FORMAT '{name}', expected 'json' or 'pretty'"]

/-- The log format that a text names, white space around it and ASCII case aside. -/
def LogFormat.read (s : String) : Except SettingsError LogFormat :=
  let name := Text.lower (Text.trim s)
  if name = "json" then .ok .json
  else if name = "pretty" then .ok .pretty
  else .error (.logFormat name)

/-- The settings of the program. -/
structure Settings where
  databaseUrl : String
  maxConnections : Int
  logFormat : LogFormat

namespace Settings

/-- The variables that the settings read. -/
def variableNames : List String := ["DATABASE_URL", "DATABASE_MAX_CONNECTIONS", "LOG_FORMAT"]

/-- The settings where no variable is set. -/
def default : Settings := ⟨"sqlite::memory:", 5, .json⟩

/-- The settings that environment variables make. -/
def ofEnvironment (env : Params) : Except SettingsError Settings := do
  let maxConnections ← match env.get? "DATABASE_MAX_CONNECTIONS" with
    | some value => (Bounds.unsigned32.read value).mapError .connections
    | none => pure default.maxConnections
  let logFormat ← match env.get? "LOG_FORMAT" with
    | some value => LogFormat.read value
    | none => pure default.logFormat
  return ⟨(env.get? "DATABASE_URL").getD default.databaseUrl, maxConnections, logFormat⟩

/-- Whether the database lives only as long as the program. -/
def isInMemory (s : Settings) : Bool :=
  Text.containsChars ":memory:".toList s.databaseUrl.toList
    || Text.containsChars "mode=memory".toList s.databaseUrl.toList

end Settings

end FilterQuery
