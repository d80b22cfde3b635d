import FilterQuery.Program.Run

namespace FilterQuery

/-!
# The program

Hands the arguments and the environment to `Program.run`, and prints what it leaves behind.
-/

/-- The environment variables that are set, of those that the settings read. -/
def readEnvironment : IO Params := do
  let mut entries := []
  for name in Settings.variableNames do
    match ← IO.getEnv name with
    | some value => entries := (name, value) :: entries
    | none => pure ()
  return ⟨entries⟩

end FilterQuery

/-- Runs the program. -/
def main (arguments : List String) : IO UInt32 := do
  let outcome := FilterQuery.Program.run arguments (← FilterQuery.readEnvironment)
  IO.print outcome.output
  IO.eprint outcome.errors
  return UInt32.ofNat outcome.exitCode
