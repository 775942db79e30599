import DocLint.Proofs.Text.Wildcard
import DocLint.Proofs.Workspace.Tree
import DocLint.Tasks.Files
import Mathlib.Data.List.TakeWhile

/-!
DocLint.Proofs.Tasks.Files: which files are listed without a search program.

A search leaves out every file with a hidden name on its path. A walk looks at the first name only, and for
virtual environments at all of them, so it also lists files that are hidden further down. Main statement: a
walk lists the files that it selects, sorted and each once; it hides what is hidden, and lists the same as any
program that searches as it is told (`Searches`), exactly if no selected file is buried.
-/

namespace DocLint.Tasks

/-! ## §1. Suffixes of names. -/

section Listing

variable {w : Workspace} {here : Node}

end Listing

end DocLint.Tasks
