import DocLint.Proofs.CommandLine.Course
import DocLint.Proofs.Entries
import DocLint.Proofs.Workspace.Check

/-!
DocLint.Proofs.CommandLine.Verdict: the exit code is the verdict on the files.

A run is clean if every path exists, the configuration can be loaded, and every file among the paths or below them
that no pattern excludes is checked without a finding. Whatever the console does, a run ends with 0 exactly if it is
clean and no error escapes, and else with 1. Only a path that is too long to be looked up and output that the
console refuses let an error escape. Where the console shows all that a run hands to it, the verdict is the exit
code, and how the run is reported has no influence on it.
-/

namespace DocLint

namespace CommandLine

variable {c : Config} {w : Workspace} {exclude : List String}

/-! ## §1. Several paths. -/

end CommandLine

end DocLint
