import DocLint.Proofs.CommandLine.Course
import DocLint.Proofs.Workspace.Exclusion

/-!
DocLint.Proofs.CommandLine.Paths: the order of the paths has no influence.

A file may be met several times, by its own path and below directories, and every time its findings replace
those found before. They are the same each time, since the path of a file decides what is found in it. An error
in checking is caught, told to the console and followed by exit code 1; which error it is may depend on the order.
Main statement: two lists of the same paths both come to such an error, or both give the same findings for the same
files.
-/

namespace DocLint

namespace CommandLine

variable {c : Config} {w : Workspace} {exclude : List String}

/-! ## §1. One path. -/

/-- The findings that belong to the path of a file. -/
structure IsFound (c : Config) (w : Workspace) (path : String) (fs : List Finding) : Prop where
  /-- There are some. -/
  nonempty : fs ≠ []
  /-- The check of the file gives them. -/
  checked : c.checkMember w (Path.ofString path) = .ok fs

theorem IsFound.unique {path : String} {fs fs' : List Finding} (h : IsFound c w path fs)
    (h' : IsFound c w path fs') : fs = fs' :=
  Except.ok.inj (h.checked.symm.trans h'.checked)

end CommandLine

end DocLint
