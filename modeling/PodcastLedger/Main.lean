import PodcastLedger.CommandLine.Run

/-!
# The program

Carries out one command line on a store that lives as long as the program, with settings from the
environment.
-/

namespace PodcastLedger.CommandLine

/-- The settings that are read from the environment. -/
def variableNames : List String :=
  ["DATABASE_URL", "NUM_CONNECTIONS", "STATEMENT_TIMEOUT_MS", "SCRYPT_LOG_N"]

/-- The environment of the program. -/
def environment : IO Environment :=
  variableNames.filterMapM fun name => do
    let value ← IO.getEnv name
    return value.map (name, ·)

end PodcastLedger.CommandLine

/-- Carries out the command line, prints its output, and ends with its code. -/
def main (arguments : List String) : IO UInt32 := do
  let environment ← PodcastLedger.CommandLine.environment
  let (_, outcome) := PodcastLedger.CommandLine.run environment none arguments
  for line in outcome.output do
    IO.println line
  return outcome.code.toUInt32
