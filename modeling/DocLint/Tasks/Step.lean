import DocLint.Tasks.Files
import DocLint.Tasks.Process
import DocLint.Text.Case

/-!
DocLint.Tasks.Step: the steps of tasks.

Most steps run one command. The command that formats code in documents is run again as long as it
changes files, at most three times, and stops at once where it cannot parse a file.
-/

namespace DocLint.Tasks

/-- Files that a command is run on. -/
structure Selection where
  /-- Their suffixes. -/
  suffixes : List String
  /-- Texts that their paths hold. -/
  holding : List String := []
  /-- Texts that their paths do not hold. -/
  lacking : List String := []
  deriving DecidableEq, Repr

/-- A step. -/
inductive Step where
  /-- Runs the words of a line. -/
  | line (text : String)
  /-- Runs a command whose arguments are given one by one. -/
  | command (words : List String)
  /-- Runs the words of a line, followed by the words of the paths of files. -/
  | onFiles (text : String) (files : Selection)
  /-- Prints a text. -/
  | say (text : String)
  /-- Formats code in documents. -/
  | formatDocuments
  deriving DecidableEq, Repr

/-- Where tasks are run. -/
structure Setting where
  /-- The files. -/
  workspace : Workspace
  /-- The program that finds files. -/
  find : Finder
  /-- The arguments of the command line. -/
  args : List String

/-- The files of a selection. -/
def Setting.select (s : Setting) (files : Selection) : List String :=
  (listFiles s.workspace s.find files.suffixes).filter fun f =>
    files.holding.all (Text.contains f.toList ·.toList) &&
      !files.lacking.any (Text.contains f.toList ·.toList)

/-- Documents with code; three of them hold code that is not to be formatted. -/
def documents : Selection :=
  { suffixes := [".md", ".py", ".ipynb"]
    lacking := ["getting_started.md", "configuration.md", "command_line_interface.md"] }

/-! ## Formatting code in documents -/

/-- The number of times that documents are formatted. -/
def maxAttempts : Nat := 3

/-- Whether a program could not parse a file. -/
def isParseFailure (r : ProcessResult) : Bool :=
  let text := Text.lower (r.out ++ r.err).toList
  r.code == 2 || Text.contains text "cannot parse".toList ||
    Text.contains text "parse error".toList

/-- Runs the formatter once. The answer is its exit code if it has changed files. -/
def formatOnce (command : List String) (attempt : Nat) : Action (Option Int) := do
  let label := if attempt > 1 then "Attempt " ++ toString attempt ++ ": " else ""
  Action.say ("\n" ++ label ++ " ".intercalate command ++ "\n")
  let r ← Action.start command
  Action.say r.out
  Action.complain r.err
  if isParseFailure r then
    Action.complain "\n❌ blacken-docs encountered a parsing error. Halting.\n"
    throw (.process command r.code)
  else if r.code == 0 then
    if attempt > 1 then
      Action.say ("✅ blacken-docs formatting stabilised after " ++ toString attempt ++
        " attempts.\n")
    pure none
  else pure (some r.code)

/-- Runs the formatter, with `left` attempts left after this one. -/
def formatFrom (command : List String) (attempt : Nat) : (left : Nat) → Action Unit
  | 0 => do
    match ← formatOnce command attempt with
    | none => pure ()
    | some code =>
      Action.complain ("⚠️  blacken-docs still making changes after " ++ toString maxAttempts ++
        " attempts. This may indicate an issue.\n")
      throw (.process command code)
  | left + 1 => do
    match ← formatOnce command attempt with
    | none => pure ()
    | some _ =>
      Action.say ("⚠️  Files were rewritten. Re-running blacken-docs (attempt " ++
        toString (attempt + 1) ++ "/" ++ toString maxAttempts ++ ")...\n")
      formatFrom command (attempt + 1) left

/-! ## Steps -/

/-- Runs a step. -/
def Step.run (s : Setting) : Step → Action Unit
  | .line text => Action.perform (wordsOf [text])
  | .command words => Action.perform words
  | .onFiles text files => Action.perform (wordsOf (text :: s.select files))
  | .say text => Action.say text
  | .formatDocuments => formatFrom ("blacken-docs" :: s.select documents) 1 (maxAttempts - 1)

/-- Runs steps one after another. -/
def runSteps (s : Setting) : List Step → Action Unit
  | [] => pure ()
  | step :: rest => do
    step.run s
    runSteps s rest

end DocLint.Tasks
