import PodcastLedger.Text.Digits

/-!
# Command line arguments

Flags, options with a value, and words, as a command allows them. A value follows its option as the
next argument, which must not look like an option itself, or after an equals sign. Flags and options
are given once at most, and two hyphens on their own end them. `Arguments.scan` sorts the arguments
of a command.
-/

namespace PodcastLedger.CommandLine

/-- The flags of a command by letter and long name, its options by long name, and whether its first
word names a subcommand that the arguments behind it are for. -/
structure Form where
  flags : List (Char × String)
  options : List String
  hasSubcommands : Bool

/-- The arguments of a command, sorted. `rest` is what stands behind the name of a subcommand. -/
structure Arguments where
  flags : List String
  options : List (String × String)
  words : List String
  rest : List String
  deriving DecidableEq, Repr

/-- Why arguments are not carried out: they ask for an explanation of the command, or are wrong. -/
inductive Stop where
  | help
  | misuse
  deriving DecidableEq, Repr

namespace Arguments

/-- No arguments. -/
def empty : Arguments :=
  ⟨[], [], [], []⟩

/-- The value of an option. -/
def option? (arguments : Arguments) (name : String) : Option String :=
  arguments.options.lookup name

/-- Adds a flag, which must be new. -/
def addFlag (arguments : Arguments) (name : String) : Except Stop Arguments :=
  if name ∈ arguments.flags then .error .misuse
  else .ok { arguments with flags := arguments.flags ++ [name] }

/-- Adds an option, which must be new. -/
def addOption (arguments : Arguments) (name value : String) : Except Stop Arguments :=
  if (arguments.option? name).isSome then .error .misuse
  else .ok { arguments with options := arguments.options ++ [(name, value)] }

/-- Reads the letters of flags. -/
def addLetters (form : Form) (arguments : Arguments) : List Char → Except Stop Arguments
  | [] => .ok arguments
  | letter :: letters => do
    if letter = 'h' ∨ letter = 'V' then .error .help
    else
      match form.flags.lookup letter with
      | some name => do
        let arguments ← arguments.addFlag name
        arguments.addLetters form letters
      | none => .error .misuse

/-- The argument looks like a flag or option. -/
def isMarked (argument : String) : Bool :=
  match argument.toList with
  | '-' :: _ :: _ => true
  | _ => false

/-- Sorts arguments. After two hyphens all are words, none of which names a subcommand. A flag may
carry a value after an equals sign, which does not count. -/
def scan (form : Form) (onlyWords : Bool) (arguments : Arguments) :
    List String → Except Stop Arguments
  | [] => .ok arguments
  | argument :: rest =>
    match onlyWords, argument.toList with
    | false, ['-', '-'] => scan form true arguments rest
    | false, '-' :: '-' :: marked => do
      let text := marked.dropWhile (· == '-')
      let name := String.ofList (text.takeWhile (· != '='))
      let attached := text.dropWhile (· != '=')
      if name = "help" ∨ name = "version" then .error .help
      else if form.options.contains name then
        if attached ≠ [] then do
          let value := String.ofList (attached.dropWhile (· == '='))
          let arguments ← arguments.addOption name value
          scan form false arguments rest
        else
          match rest with
          | [] => .error .misuse
          | value :: rest =>
            if isMarked value then .error .misuse
            else do
              let arguments ← arguments.addOption name value
              scan form false arguments rest
      else if (form.flags.map (·.2)).contains name then do
        let arguments ← arguments.addFlag name
        scan form false arguments rest
      else .error .misuse
    | false, '-' :: letter :: letters => do
      let arguments ← arguments.addLetters form (letter :: letters)
      scan form false arguments rest
    | _, _ =>
      if form.hasSubcommands ∧ onlyWords then .error .misuse
      else
        let arguments := { arguments with words := arguments.words ++ [argument] }
        if form.hasSubcommands then .ok { arguments with rest }
        else scan form onlyWords arguments rest

end Arguments

/-- The digits of a whole number, after a plus sign that does not count. -/
def unsigned? (limit : Nat) (text : String) : Option Nat := do
  let digits :=
    match text.toList with
    | '+' :: digits => digits
    | digits => digits
  let number ← Text.numberOf? 10 digits
  if digits = [] ∨ limit < number then none else some number

/-- A whole number with an optional sign that fits into 64 bits. -/
def signed? (text : String) : Option Int :=
  match text.toList with
  | '-' :: digits => do
    let number ← Text.numberOf? 10 digits
    if digits = [] ∨ 0x8000000000000000 < number then none else some (-number)
  | _ => (unsigned? 0x7FFFFFFFFFFFFFFF text).map Int.ofNat

end PodcastLedger.CommandLine
