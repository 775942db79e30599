import DocLint.Proofs.CommandLine.Verdict
import DocLint.Proofs.Report.Markup

/-!
DocLint.Proofs.CommandLine.Start: what is told of a run that cannot start.

A run that is kept from starting by an obstacle ends with 1, and the first thing that it hands to the console names
the obstacle. It is the only thing, except that a configuration file that does not exist is told twice: the exit that
follows its message is caught as if it were an error in loading, and reported again with its exit code as the reason.
What is handed to the console is text with markup, so a name with a mark in it is not shown as it is; the words about
an obstacle are shown where no mark stands in them.
-/

namespace DocLint

namespace CommandLine

open Report

variable {w : Workspace} {r : Request}

/-! ## §1. What the messages name. -/

/-- What a message about an obstacle has to name. -/
def Obstacle.named : Obstacle → List String
  | .absentPaths ps => ps.map (·.render)
  | .absentConfig file => [file]
  | .unloadable reason => [reason]

end CommandLine

end DocLint
