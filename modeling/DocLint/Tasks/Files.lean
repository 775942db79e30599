import DocLint.Workspace.Tree

/-!
DocLint.Tasks.Files: the files of a project.

Files are listed by a program that finds them, told to leave out everything hidden, or, where no such
program can be used, by a walk over the tree that leaves out less: it only looks at the first name of a
path and at virtual environments.
-/

namespace DocLint.Tasks

/-- The program that finds files: what it prints in a directory for a command, or nothing if it is missing
or fails. -/
abbrev Finder := Node → List String → Option Text

/-- Whether a name is that of something hidden. -/
def isHidden (name : String) : Bool :=
  name.startsWith "."

/-- Characters at which a line ends. -/
def isLineEnd (c : Char) : Bool :=
  let n := c.toNat
  (0x0A ≤ n && n ≤ 0x0D) || (0x1C ≤ n && n ≤ 0x1E) || n == 0x85 || n == 0x2028 || n == 0x2029

/-- The command that finds files: names that are hidden are passed over with all below them, and the files
whose names match one of the patterns are printed. -/
def searchCommand (suffixes : List String) : List String :=
  let patterns := (suffixes.map fun s => ["-name", "*" ++ s]).intersperse ["-o"]
  ["find", ".", "-name", ".venv", "-prune", "-o", "-name", ".*", "-not", "-name", ".", "-prune", "-o",
    "-type", "f"] ++
    (if suffixes.isEmpty then [] else "(" :: patterns.flatten ++ [")"]) ++ ["-print"]

/-- The files that are printed, one on a line. -/
def printedFiles (text : Text) : List String :=
  ((Text.splitBy isLineEnd text).filter (!·.isEmpty)).map fun l =>
    String.ofList ((Text.dropPrefix? "./".toList l).getD l)

/-- The files below a directory, by their names from there on. -/
def filesBelow (n : Node) : List (List String) :=
  (n.inside.filter (!·.2.isDir)).map (·.1)

/-- The directory of virtual environments. -/
def environmentName : String := ".venv"

/-- The files that a walk finds. -/
def walked (n : Node) (suffixes : List String) : List String :=
  ((filesBelow n).filter fun names =>
    !names.contains environmentName && !names.head?.any isHidden &&
      suffixes.contains (Path.mk 0 names).suffix).map fun names => (Path.mk 0 names).render

/-- The files of the directory in which one works, sorted. -/
def listFiles (w : Workspace) (find : Finder) (suffixes : List String) : List String :=
  let here := (w.node? { parts := [] }).getD (.dir [])
  let found := match find here (searchCommand suffixes) with
    | some text => printedFiles text
    | none => walked here suffixes
  found.mergeSort fun a b => a ≤ b

end DocLint.Tasks
