import DocLint.CommandLine.Arguments
import DocLint.CommandLine.Examples
import DocLint.CommandLine.Session
import DocLint.Workspace.Configuration

/-!
DocLint.CommandLine.Run: the command, as a function of the console, the workspace and its arguments.

`checking` is the work of the command: it looks for the paths, loads the configuration, checks every path
and reports. The first of these steps that fails tells what is wrong and stops the run. Errors in loading
the configuration and in checking are caught and told; nothing catches a path that cannot be looked up, or
output that the console refuses elsewhere. `command` answers the options that come before that.
-/

namespace DocLint.CommandLine

open Report

/-! ## Checking -/

/-- What is asked of a check. -/
structure Request where
  /-- The paths to check. -/
  paths : List String
  /-- The configuration file. -/
  config : Option String := none
  /-- Patterns of files that are left out. -/
  exclude : List String := []
  /-- Whether only the summary is reported. -/
  quiet : Bool := false
  /-- Whether findings shall make the run fail, as they always do. -/
  check : Bool := false
  /-- The format of the report. -/
  format : Format := .list
  deriving DecidableEq, Repr

/-- Tells which paths do not exist. -/
def missingPaths (ps : List Path) : Output :=
  .print [coloured "red" "[bold]Error: Paths do not exist:[/bold]", "\n",
    "\n".intercalate (ps.map fun p => "- '" ++ p.render ++ "'")]

/-- Where the configuration for a path is looked for: in a directory, or in that of a file. -/
def searchStart (w : Workspace) (p : Path) : Path :=
  if w.isDir p then p else p.parent

/-- The paths of a check, all of which must exist. -/
def targetPaths (t : Console) (w : Workspace) (given : List String) : Session (List Path) :=
  let paths := given.map Path.ofString
  match paths.find? w.isTooLong with
  | some p => throw (.error (tooLongMessage p.render))
  | none =>
    let missing := paths.filter (!w.exists? ·)
    if missing.isEmpty then pure (paths.filter w.exists?)
    else t.fail (missingPaths missing)

/-- The configuration in a file that is asked for. -/
def explicitConfig (t : Console) (w : Workspace) (file : String) : Session Config :=
  let p := Path.ofString file
  match w.lookup p with
  | .tooLong => throw (.error (tooLongMessage p.render))
  | .missing => t.fail (errorLine ("Error: Configuration file does not exist: " ++ file))
  | .found _ => .ofExcept ConfigError.message (w.loadConfig (some p))

/-- The configuration that is found for the first path. -/
def discoveredConfig (w : Workspace) : List Path → Session Config
  | [] => throw (.error "list index out of range")
  | first :: _ => .ofExcept ConfigError.message ((w.findConfig (searchStart w first)).bind w.loadConfig)

/-- The configuration of a check. All that stops its loading is caught, the exit code for a file that does not
exist as well. -/
def configFor (t : Console) (w : Workspace) (config : Option String) (paths : List Path) : Session Config :=
  t.guarded "Error loading configuration: " <|
    match config.filter (!·.isEmpty) with
    | some file => explicitConfig t w file
    | none => discoveredConfig w paths

/-- The results for a path. -/
def checkPath (c : Config) (w : Workspace) (exclude : List String) (p : Path) :
    Except DirectoryError Results :=
  if w.isFile p then
    match c.checkFile w p with
    | .ok fs => .ok (if fs.isEmpty then [] else [(p.render, fs)])
    | .error e => .error (.file e)
  else c.checkDirectory w p exclude

/-- The results for several paths; those of a file that is met again replace the earlier ones. -/
def checkPaths (c : Config) (w : Workspace) (exclude : List String) (results : Results) :
    List Path → Except DirectoryError Results
  | [] => .ok results
  | p :: ps => do
    let found ← checkPath c w exclude p
    checkPaths c w exclude (found.foldl (fun rs r => Entries.put rs r.1 r.2) results) ps

/-- The results for the paths of a check. All errors in checking are caught. -/
def processPaths (t : Console) (c : Config) (w : Workspace) (exclude : List String) (paths : List Path) :
    Session Results :=
  t.guarded "Error during checking: " (.ofExcept DirectoryError.message (checkPaths c w exclude [] paths))

/-- Shows results; the exit code tells whether there are any. -/
def display (t : Console) (quiet : Bool) (format : Format) (rs : Results) : Session Nat := do
  t.printAll (report quiet format rs)
  pure (exitCode rs)

/-- Checks paths and reports. -/
def checking (t : Console) (w : Workspace) (r : Request) : Session Unit := do
  let paths ← targetPaths t w r.paths
  let c ← configFor t w r.config paths
  let rs ← processPaths t c w r.exclude paths
  let code ← display t r.quiet r.format rs
  if code != 0 then throw (.exit code)

/-- How a check ends. -/
def check (t : Console) (w : Workspace) (r : Request) : Outcome :=
  (checking t w r).outcome

/-! ## The command -/

/-- The name of the program. -/
def programName : String := "docstring-format-checker"

/-- The version of the program. -/
def programVersion : String := "1.11.4"

/-- The number of columns that is assumed where there is no terminal. -/
def defaultWidth : Nat := 80

/-- The title of the help; the full name needs a wide terminal. -/
def helpTitle (width : Option Nat) : String :=
  if width.getD defaultWidth < 130 then "dfc" else programName

/-- Shows output and stops with an exit code. -/
def finish (t : Console) (out : List Output) (code : Nat) : Session Unit := do
  t.printAll out
  throw (.exit code)

/-- The answer to an option that is answered at once, or `none` if it asks for nothing. -/
def answer? (t : Console) (width : Option Nat) (a : Arguments) : Flag → Option (Session Unit)
  | .version => some (finish t [.line (programName ++ " version " ++ programVersion)] 0)
  | .help => some (finish t [.banner (helpTitle width), .help, usagePanel, configPanel] 0)
  | .examples =>
    match (a.value? .examples).getD "" with
    | "" => none
    | "config" => some (finish t [configPanel] 0)
    | "usage" => some (finish t [usagePanel] 0)
    | v => some (finish t
        [errorLine ("Error: Invalid example type '" ++ v ++ "'. Use 'config' or 'usage'.")] 1)
  | _ => none

/-- The formats of the report that can be asked for. -/
def formatLabels : List String := ["table", "list"]

/-- The command in a terminal with `width` columns, if there is a terminal. -/
def command (t : Console) (w : Workspace) (width : Option Nat) (args : List String) : Session Unit :=
  match Arguments.parse? args with
  | none => throw (.exit 2)
  | some a =>
    match a.eager.findSome? (answer? t width a) with
    | some answer => answer
    | none =>
      let output := (a.value? .output).getD "list"
      if a.paths.isEmpty then finish t [.help] 0
      else if !formatLabels.contains output then
        finish t [errorLine ("Error: Invalid output format '" ++ output ++
          "'. Use 'table' or 'list'.")] 1
      else checking t w
        { paths := a.paths
          config := a.value? .config
          exclude := a.values .exclude
          quiet := a.has .quiet
          check := a.has .check
          format := .ofLabel output }

/-- How the command ends. -/
def run (t : Console) (w : Workspace) (width : Option Nat) (args : List String) : Outcome :=
  (command t w width args).outcome

end DocLint.CommandLine
