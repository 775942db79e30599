import DocLint.Report.Output

/-!
DocLint.CommandLine.Session: the steps of a command, what they show and how they stop.

A step hands output to a console, which may refuse it with an error, and it stops early with an exit code or
with an error. Both are caught alike where errors are reported: an exit code that is caught is told like an
error.
-/

namespace DocLint.CommandLine

open Report

/-- Why a command stops early. -/
inductive Stop where
  /-- It asks for an exit code. -/
  | exit (code : Nat)
  /-- An error, by its message. -/
  | error (message : String)
  deriving DecidableEq, Repr

/-- What is told of a stop that is caught. -/
def Stop.message : Stop → String
  | .exit code => toString code
  | .error message => message

/-- A console, by what it refuses: the message of the error that comes of a piece of output that cannot be
shown. Markup that makes no sense is such an error. -/
structure Console where
  /-- The error that comes of a piece of output, if there is one. -/
  refusal? : Output → Option String

/-- A console that shows everything. -/
def Console.plain : Console := ⟨fun _ => none⟩

/-- A step of a command. What has been shown stays, also if the step stops early. -/
abbrev Session := ExceptT Stop (StateM (List Output))

/-- Shows a piece of output. -/
def Console.print (t : Console) (o : Output) : Session Unit :=
  match t.refusal? o with
  | none => modify (· ++ [o])
  | some message => throw (.error message)

/-- Shows several pieces of output, one after another. -/
def Console.printAll (t : Console) : List Output → Session Unit
  | [] => pure ()
  | o :: out => do
    t.print o
    t.printAll out

/-- Shows what is wrong, and stops with exit code 1. -/
def Console.fail {α : Type} (t : Console) (o : Output) : Session α := do
  t.print o
  throw (.exit 1)

/-- An error message. -/
def errorLine (text : String) : Output :=
  .print [coloured "red" text]

/-- A step whose stops are caught, whatever they are: they are told behind `what`, and the exit code is 1. -/
def Console.guarded {α : Type} (t : Console) (what : String) (a : Session α) : Session α :=
  tryCatch a fun stop => t.fail (errorLine (what ++ stop.message))

/-- The result of a computation, or a stop by its error. -/
def Session.ofExcept {ε α : Type} (message : ε → String) : Except ε α → Session α
  | .ok a => pure a
  | .error e => throw (.error (message e))

/-- What a step gives, and what has been shown then. -/
def Session.exec {α : Type} (a : Session α) (out : List Output) : Except Stop α × List Output :=
  (a.run).run out

/-- How a run ends and what it has shown. -/
structure Outcome where
  /-- The exit code. -/
  exit : Nat
  /-- The output. -/
  out : List Output
  /-- The message of the error that ended the run, if nothing caught it. -/
  escaped : Option String := none
  deriving DecidableEq, Repr

/-- How a command ends: an error that nothing catches escapes, and gives an exit code too. -/
def Session.outcome (a : Session Unit) : Outcome :=
  match a.exec [] with
  | (.ok (), out) => { exit := 0, out }
  | (.error (.exit code), out) => { exit := code, out }
  | (.error (.error message), out) => { exit := 1, out, escaped := some message }

end DocLint.CommandLine
