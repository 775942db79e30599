import DocLint.Text.Basic
import DocLint.Text.Quoted

/-!
DocLint.Tasks.Process: running other programs.

How programs end is an input: each one that is started takes the next of a list of results, and a
program for which none is left ends well. What is printed and started is logged, also by tasks that
fail.
-/

namespace DocLint.Tasks

/-- How a program ends. -/
structure ProcessResult where
  /-- Its exit code, or the negative number of the signal that ended it. -/
  code : Int := 0
  /-- What it has printed. -/
  out : String := ""
  /-- The errors that it has printed. -/
  err : String := ""
  deriving DecidableEq, Repr

/-- Why a task ends early. -/
inductive Failure where
  /-- It asks for an exit code. -/
  | exit (code : Nat)
  /-- An argument of the command line is missing. -/
  | noArgument
  /-- A program has failed. -/
  | process (command : List String) (code : Int)
  /-- The name is that of a value, of the type given. -/
  | notCallable (type : String)
  /-- The name is that of a type which has no values of its own. -/
  | notInstantiable (type : String)
  /-- A task needs a value that the command line does not give it. -/
  | missingParameter (task param : String)
  deriving DecidableEq, Repr

/-- The names of signals by number. -/
def signals : List (Nat × String) :=
  [(1, "SIGHUP"), (2, "SIGINT"), (3, "SIGQUIT"), (4, "SIGILL"), (5, "SIGTRAP"), (6, "SIGABRT"),
    (7, "SIGBUS"), (8, "SIGFPE"), (9, "SIGKILL"), (10, "SIGUSR1"), (11, "SIGSEGV"), (12, "SIGUSR2"),
    (13, "SIGPIPE"), (14, "SIGALRM"), (15, "SIGTERM"), (16, "SIGSTKFLT"), (17, "SIGCHLD"),
    (18, "SIGCONT"), (19, "SIGSTOP"), (20, "SIGTSTP"), (21, "SIGTTIN"), (22, "SIGTTOU"),
    (23, "SIGURG"), (24, "SIGXCPU"), (25, "SIGXFSZ"), (26, "SIGVTALRM"), (27, "SIGPROF"),
    (28, "SIGWINCH"), (29, "SIGIO"), (30, "SIGPWR"), (31, "SIGSYS"), (34, "SIGRTMIN"),
    (64, "SIGRTMAX")]

/-- How a program has failed, in words. -/
def failureText (code : Int) : String :=
  if code < 0 then
    match signals.lookup code.natAbs with
    | some name => "died with <Signals." ++ name ++ ": " ++ toString code.natAbs ++ ">."
    | none => "died with unknown signal " ++ toString code.natAbs ++ "."
  else "returned non-zero exit status " ++ toString code ++ "."

/-- The message of a failure. -/
def Failure.message : Failure → String
  | .exit code => toString code
  | .noArgument => "list index out of range"
  | .process command code =>
    "Command '[" ++ ", ".intercalate (command.map Text.quote) ++ "]' " ++ failureText code
  | .notCallable type => "'" ++ type ++ "' object is not callable"
  | .notInstantiable type => "Cannot instantiate " ++ type
  | .missingParameter task param =>
    task ++ "() missing 1 required positional argument: '" ++ param ++ "'"

/-- What has happened so far, and how the programs to come will end. -/
structure Log where
  /-- The results of the programs to come. -/
  results : List ProcessResult := []
  /-- The programs started, with their arguments. -/
  commands : List (List String) := []
  /-- What is printed. -/
  out : String := ""
  /-- The errors that are printed. -/
  err : String := ""
  deriving DecidableEq, Repr

/-- An action that prints and starts programs, and may fail. -/
abbrev Action := ExceptT Failure (StateM Log)

namespace Action

/-- Prints a text. -/
def say (text : String) : Action Unit :=
  modify fun l => { l with out := l.out ++ text }

/-- Prints an error. -/
def complain (text : String) : Action Unit :=
  modify fun l => { l with err := l.err ++ text }

/-- Starts a program and waits for its end. -/
def start (command : List String) : Action ProcessResult :=
  modifyGet fun l =>
    (l.results.headD {}, { l with results := l.results.tail, commands := l.commands ++ [command] })

/-- Prints a command and runs it; it has to end well. -/
def perform (command : List String) : Action Unit := do
  say ("\n" ++ " ".intercalate command ++ "\n")
  let result ← start command
  if result.code == 0 then pure () else throw (.process command result.code)

end Action

/-- The words of several texts. -/
def wordsOf (texts : List String) : List String :=
  texts.flatMap fun t => (Text.words t.toList).map String.ofList

end DocLint.Tasks
