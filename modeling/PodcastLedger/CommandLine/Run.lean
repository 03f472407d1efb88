import PodcastLedger.CommandLine.Arguments
import PodcastLedger.Json.Records
import PodcastLedger.Podcast.Subscriptions

/-!
# The administration command

Commands to set up the store, to create and destroy users, and to list what a user has. Settings
come from flags or else from the environment. `CommandLine.run` carries out one command on a store
that may not be set up yet. What is listed is printed in JSON; what fails prints nothing and ends
with code 1.
-/

namespace PodcastLedger.CommandLine

/-- What a command does. -/
inductive Command where
  | migrate
  | createUser (name password : String) (workFactor : Option String)
  | destroyUser (name : String)
  | subscriptions (name : String) (since : Option String)
  | devices (name : String)
  deriving DecidableEq, Repr

/-- How the store is reached, as far as flags say. -/
structure Connection where
  databaseUrl : Option String
  numConnections : Option String
  statementTimeout : Option String
  deriving DecidableEq, Repr

/-- The settings of the environment, by name. -/
abbrev Environment := List (String × String)

/-- The end of a run: the exit code, and the lines of output. -/
structure Outcome where
  code : Nat
  output : List String
  deriving DecidableEq, Repr

/-- A run that did what it should. -/
def Outcome.success (output : List String) : Outcome :=
  ⟨0, output⟩

/-- A run that failed. -/
def Outcome.failure : Outcome :=
  ⟨1, []⟩

/-- A run that broke off because a pool was asked for without connections. -/
def Outcome.brokenOff : Outcome :=
  ⟨101, []⟩

/-- The arguments in front of the subcommand. -/
def mainForm : Form :=
  ⟨[('q', "quiet")], ["database-url", "num-connections", "statement-timeout-ms"], true⟩

/-- The arguments of a subcommand with the given options. -/
def subcommandForm (options : List String) : Form :=
  ⟨[], options, false⟩

/-- The names of the subcommands. -/
def subcommands : List String :=
  ["migrate", "user-create", "user-destroy", "subscriptions", "devices", "help"]

/-- What to do when help is asked for on a subcommand: there must be one of that name. -/
def readHelp : List String → Stop
  | [] => .help
  | [name] => if name ∈ subcommands then .help else .misuse
  | _ => .misuse

/-- Reads a subcommand and its arguments. -/
def readCommand (name : String) (rest : List String) : Except Stop Command := do
  let scan := fun options => Arguments.scan (subcommandForm options) false .empty rest
  match name with
  | "migrate" =>
    match (← scan []).words with
    | [] => .ok .migrate
    | _ => .error .misuse
  | "user-create" =>
    let arguments ← scan ["scrypt-log-n"]
    match arguments.words with
    | [name, password] => .ok (.createUser name password (arguments.option? "scrypt-log-n"))
    | _ => .error .misuse
  | "user-destroy" =>
    match (← scan []).words with
    | [name] => .ok (.destroyUser name)
    | _ => .error .misuse
  | "subscriptions" =>
    let arguments ← scan ["since"]
    match arguments.words with
    | [name] => .ok (.subscriptions name (arguments.option? "since"))
    | _ => .error .misuse
  | "devices" =>
    match (← scan []).words with
    | [name] => .ok (.devices name)
    | _ => .error .misuse
  | "help" => .error (readHelp rest)
  | _ => .error .misuse

/-- Reads a command line. Without a subcommand help is what is wanted. -/
def read (arguments : List String) : Except Stop (Connection × Command) := do
  let main ← Arguments.scan mainForm false .empty arguments
  match main.words with
  | name :: _ =>
    let command ← readCommand name main.rest
    .ok (⟨main.option? "database-url", main.option? "num-connections",
      main.option? "statement-timeout-ms"⟩, command)
  | [] => .error .help

/-- A number from a flag, or else from the environment, or else the usual one. -/
def configured (environment : Environment) (flag : Option String) (name : String)
    (limit usual : Nat) : Except Outcome Nat :=
  match flag.or (environment.lookup name) with
  | none => .ok usual
  | some text =>
    match unsigned? limit text with
    | some number => .ok number
    | none => .error .failure

/-- Reaches the store: its address must be known, and there must be connections. -/
def connect (environment : Environment) (connection : Connection) : Except Outcome Unit := do
  match connection.databaseUrl.or (environment.lookup "DATABASE_URL") with
  | none => .error .failure
  | some _ =>
    let connections ←
      configured environment connection.numConnections "NUM_CONNECTIONS" 0xFFFFFFFF 10
    let _ ←
      configured environment connection.statementTimeout "STATEMENT_TIMEOUT_MS" 0xFFFFFFFFFFFFFFFF
        30000
    if connections = 0 then .error .brokenOff else .ok ()

/-- The lines of a value in JSON. -/
def printed (value : Json) : List String :=
  value.pretty.splitOn "\n"

/-- The store if it is set up. -/
def requireStore (store : Option Store) : Except Outcome Store :=
  match store with
  | some store => .ok store
  | none => .error .failure

/-- An operation of the store, whose failure ends the run. -/
def attempt {Result : Type} (outcome : Except Failure Result) : Except Outcome Result :=
  outcome.mapError fun _ => .failure

/-- The time that bounds a listing, from an option in seconds since 1970. -/
def readSince (since : Option String) : Except Outcome (Option Instant) :=
  match since with
  | none => .ok none
  | some text =>
    match signed? text with
    | some seconds => attempt (sinceOfUnix seconds)
    | none => .error .failure

/-- Carries out a command on the store, and gives the store afterwards with the lines to print. -/
def perform (environment : Environment) (connection : Connection) (store : Option Store) :
    Command → Except Outcome (Option Store × List String)
  | .migrate => do
    connect environment connection
    .ok (some (store.getD .empty), [])
  | .createUser name password workFactor => do
    -- The work factor is read before the store is reached.
    let workFactor ← configured environment workFactor "SCRYPT_LOG_N" 255 14
    connect environment connection
    let store ← requireStore store
    let (store, user) ← attempt (store.createUser name password workFactor)
    .ok (some store, printed user.row.toJson)
  | .destroyUser name => do
    connect environment connection
    let store ← requireStore store
    let (store, _) ← attempt (store.destroyUser name)
    .ok (some store, [])
  | .subscriptions name since => do
    let since ← readSince since
    connect environment connection
    let store ← requireStore store
    let urls ← attempt (store.subscriptions name since)
    .ok (some store, printed (.list (urls.map .text)))
  | .devices name => do
    connect environment connection
    let store ← requireStore store
    let summaries ← attempt (store.listDevices name)
    .ok (some store, printed (.list (summaries.map (·.toJson))))

/-- The lines that explain the command. -/
def helpLines : List String :=
  ["USAGE: [--quiet] [--database-url URL] [--num-connections N] [--statement-timeout-ms MS]",
    "  migrate",
    "  user-create USERNAME PASSWORD [--scrypt-log-n N]",
    "  user-destroy USERNAME",
    "  subscriptions USERNAME [--since SECONDS]",
    "  devices USERNAME"]

/-- Carries out a command line. A run that fails leaves the store as it was. -/
def run (environment : Environment) (store : Option Store) (arguments : List String) :
    Option Store × Outcome :=
  match read arguments with
  | .error .help => (store, .success helpLines)
  | .error .misuse => (store, .failure)
  | .ok (connection, command) =>
    match perform environment connection store command with
    | .ok (store, output) => (store, .success output)
    | .error outcome => (store, outcome)

end PodcastLedger.CommandLine
