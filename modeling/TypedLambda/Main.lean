/-
The program: arguments and environment in, lines and an exit code out.
-/
import TypedLambda.Command

namespace TypedLambda

/-- The variables of the environment that are settings. -/
def settingVariables : List String :=
  ["FUNCORE_RECURSION_LIMIT", "FUNCORE_LOG_FILTER", "FUNCORE_SHOW_TERMS"]

end TypedLambda

open TypedLambda in
def main (args : List String) : IO UInt32 := do
  let env ← settingVariables.filterMapM fun name => do
    return (← IO.getEnv name).map fun value => (name, value)
  let result := Command.invoke Registry.standard env args
  for line in result.lines do
    IO.println line
  match result.crash with
  | none => pure ()
  | some (.settings refusals) =>
    for r in refusals do
      IO.eprintln (r.field ++ ": " ++ r.reason.word)
  | some (.filter e) => IO.eprintln e.message
  | some (.markup e) => IO.eprintln e.message
  | some (.term f) => IO.eprintln f.message
  | some (.signature op) => IO.eprintln ("No signature for " ++ op.symbol)
  return result.exitCode.toUInt32
