import DocLint.Tasks.Catalog

/-!
DocLint.Tasks.Run: the command line of the tasks.
-/

namespace DocLint.Tasks

/-- Prints a line and ends with exit code 1. -/
def refuse (text : String) : Action Unit := do
  Action.say (text ++ "\n")
  throw (.exit 1)

/-- Runs what a name stands for. -/
def Task.run (s : Setting) (name : String) : Task → Action Unit
  | .steps ss => runSteps s ss
  | .needs param => throw (.missingParameter name param)
  | .fromArgument label least ss =>
    if s.args.length + 1 < least then refuse ("Requires argument: " ++ label)
    else match s.args[1]? with
      | some arg => runSteps s (ss arg)
      | none => throw .noArgument
  | .value type => throw (.notCallable type)
  | .bareType type => throw (.notInstantiable type)

/-- Runs a task by its name. -/
def runNamed (s : Setting) (name : String) : Action Unit :=
  match catalog.lookup name with
  | some task => task.run s name
  | none => refuse ("Unknown command: " ++ name)

/-- Runs the task that the command line names; hyphens in its name stand for underscores. -/
def runCommand (s : Setting) : Action Unit :=
  match s.args with
  | [] => refuse "Usage: python scripts.py <command> [args...]"
  | name :: _ =>
    let known := String.ofList (Text.replaceChar '-' '_' name.toList)
    match catalog.lookup known with
    | some task => task.run s known
    | none => refuse ("Unknown command: " ++ name)

/-- Runs an action: why it ended early, if it did, and what happened. -/
def Action.outcome (a : Action Unit) (results : List ProcessResult) : Option Failure × Log :=
  match (a.run).run { results } with
  | (.ok _, log) => (none, log)
  | (.error f, log) => (some f, log)

end DocLint.Tasks
