/-!
DocLint.CommandLine.Arguments: the options on a command line.

Options come first. From the first argument on that is none, all are paths, and a double hyphen ends
the options too. Short options can be written together, and a value may stand in the same argument as
its option or in the next.
-/

namespace DocLint.CommandLine

/-- An option. -/
inductive Flag where
  /-- The configuration file. -/
  | config
  /-- A pattern of files that are left out. -/
  | exclude
  /-- The format of the report. -/
  | output
  /-- Fail if there are findings. -/
  | check
  /-- Report the summary alone. -/
  | quiet
  /-- Show examples. -/
  | examples
  /-- Show the version. -/
  | version
  /-- Show the help. -/
  | help
  deriving DecidableEq, Repr

namespace Flag

/-- The options with their long and short names. -/
def names : List (Flag × String × Char) :=
  [(.config, "--config", 'f'), (.exclude, "--exclude", 'x'), (.output, "--output", 'o'),
    (.check, "--check", 'c'), (.quiet, "--quiet", 'q'), (.examples, "--example", 'e'),
    (.version, "--version", 'v'), (.help, "--help", 'h')]

/-- Whether an option has a value. -/
def takesValue : Flag → Bool
  | .config | .exclude | .output | .examples => true
  | .check | .quiet | .version | .help => false

/-- Whether an option is answered at once, whatever else is given. -/
def isEager : Flag → Bool
  | .examples | .version | .help => true
  | _ => false

/-- The option with a long name. -/
def ofLong? (name : String) : Option Flag :=
  (names.find? (·.2.1 == name)).map (·.1)

/-- The option with a short name. -/
def ofShort? (c : Char) : Option Flag :=
  (names.find? (·.2.2 == c)).map (·.1)

end Flag

/-- An option as given, with its value, which is empty if it takes none. -/
abbrev Given := Flag × String

/-- What an argument gives: options, and perhaps one more whose value is the next argument. -/
structure Reading where
  /-- The options with their values. -/
  given : List Given
  /-- The option whose value follows. -/
  open? : Option Flag := none

/-- Reads a long option, with a value in the same argument or without. -/
def readLong? (name : String) (value : Option String) : Option Reading := do
  let flag ← Flag.ofLong? name
  match flag.takesValue, value with
  | true, some v => pure { given := [(flag, v)] }
  | true, none => pure { given := [], open? := some flag }
  | false, some _ => none
  | false, none => pure { given := [(flag, "")] }

/-- Reads short options that are written together. What follows one that takes a value is its
value. -/
def readShort? : List Char → Option Reading
  | [] => some { given := [] }
  | c :: cs => do
    let flag ← Flag.ofShort? c
    if flag.takesValue then
      if cs.isEmpty then pure { given := [], open? := some flag }
      else pure { given := [(flag, String.ofList cs)] }
    else
      let rest ← readShort? cs
      pure { rest with given := (flag, "") :: rest.given }

/-- Reads an argument that is an option. -/
def readOption? (arg : String) : Option Reading :=
  let cs := arg.toList
  let name := cs.takeWhile (· != '=')
  let value := match cs.drop name.length with
    | _ :: v => some (String.ofList v)
    | [] => none
  match cs with
  | '-' :: '-' :: _ => readLong? (String.ofList name) value
  | _ => readShort? cs.tail

/-- Whether an argument is an option. -/
def isOption (arg : String) : Bool :=
  match arg.toList with
  | '-' :: _ :: _ => true
  | _ => false

/-- The options and the paths of a command line, or `none` for an unknown option, a value that is
missing and a value for an option that takes none. -/
def scan : List String → Option (List Given × List String)
  | [] => some ([], [])
  | arg :: rest =>
    if arg == "--" then some ([], rest)
    else if isOption arg then
      match readOption? arg, rest with
      | some ⟨given, none⟩, rest => (scan rest).map fun (more, paths) => (given ++ more, paths)
      | some ⟨given, some flag⟩, value :: rest =>
        (scan rest).map fun (more, paths) => (given ++ (flag, value) :: more, paths)
      | some ⟨_, some _⟩, [] => none
      | none, _ => none
    else some ([], arg :: rest)

/-- A command line. -/
structure Arguments where
  /-- The options in the order in which they are given. -/
  given : List Given
  /-- The paths. -/
  paths : List String
  deriving DecidableEq, Repr

namespace Arguments

/-- Reads a command line. -/
def parse? (args : List String) : Option Arguments :=
  (scan args).map fun (given, paths) => { given, paths }

/-- All values of an option. -/
def values (a : Arguments) (flag : Flag) : List String :=
  (a.given.filter (·.1 == flag)).map (·.2)

/-- The value of an option, of which the last one counts. -/
def value? (a : Arguments) (flag : Flag) : Option String :=
  (a.values flag).getLast?

/-- Whether an option is given. -/
def has (a : Arguments) (flag : Flag) : Bool :=
  a.given.any (·.1 == flag)

/-- The options that are answered at once, in the order in which they are first given. -/
def eager (a : Arguments) : List Flag :=
  ((a.given.map (·.1)).filter (·.isEager)).eraseDups

end Arguments

end DocLint.CommandLine
