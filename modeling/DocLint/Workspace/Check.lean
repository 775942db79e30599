import DocLint.Config.Fault
import DocLint.Source.Module
import DocLint.Text.Utf8
import DocLint.Text.Wildcard
import DocLint.Workspace.Tree

/-!
DocLint.Workspace.Check: checks of files and of directories.

A file is checked if it exists, is Python source code by its suffix, is a text and can be parsed. A
directory is checked file by file; a file that is missing, is no text, cannot be parsed or has an
annotation that cannot be written gives a finding of its own there, and any other error ends the check.
-/

namespace DocLint

/-! ## Files -/

/-- Why a file is not checked. -/
inductive FileError where
  /-- There is no such file. -/
  | notFound (path : String)
  /-- Its path cannot be looked up. -/
  | tooLong (path : String)
  /-- It is no Python source code. -/
  | notSource (path : String)
  /-- It is a directory. -/
  | isDirectory (path : String)
  /-- It is no text. -/
  | undecodable (path : String) (error : Text.DecodeError)
  /-- It cannot be parsed. -/
  | malformed (path diagnosis : String)
  /-- The check comes to a value that it cannot use. -/
  | fault (f : Fault)
  deriving DecidableEq, Repr

/-- The message for a directory that is read like a file. -/
def isDirectoryMessage (path : String) : String :=
  "[Errno 21] Is a directory: " ++ Text.quote path

namespace FileError

/-- The message of an error. -/
def message : FileError → String
  | .notFound path => "File not found: " ++ path
  | .tooLong path => tooLongMessage path
  | .notSource path => "File must be a Python file (.py): " ++ path
  | .isDirectory path => isDirectoryMessage path
  | .undecodable path error => "Cannot decode file " ++ path ++ ": " ++ error.message
  | .malformed path diagnosis => "Invalid Python syntax in " ++ path ++ ": " ++ diagnosis
  | .fault f => f.message

/-- Whether the check of a directory goes on after an error. -/
def isReported : FileError → Bool
  | .notFound _ => true
  | .undecodable _ _ => true
  | .malformed _ _ => true
  | .fault .unwritten => true
  | _ => false

/-- The finding for a file with an error. -/
def finding (e : FileError) (path : String) : Finding :=
  { message := e.message, file := path, line := 0, name := "", kind := "file" }

end FileError

/-- The suffix of Python source code. -/
def sourceSuffix : String := ".py"

/-- The text of a source file; all line ends become newlines. -/
def sourceText (bytes : List UInt8) : Except Text.DecodeError Text :=
  (Text.decode bytes).map Text.unifyNewlines

namespace Config

/-- Checks the content of a file. -/
def checkBytes (c : Config) (d : Diagnoses) (path : String) (bytes : List UInt8) :
    Except FileError (List Finding) := do
  let text ← (sourceText bytes).mapError (.undecodable path)
  match Source.items c.toRules.options.checkPrivate (String.ofList text) with
  | none => throw (.malformed path (d.source text))
  | some items => (c.checkItems path items).mapError .fault

/-- Checks a file. -/
def checkFile (c : Config) (w : Workspace) (p : Path) : Except FileError (List Finding) :=
  let path := p.render
  match w.lookup p with
  | .tooLong => .error (.tooLong path)
  | .missing => .error (.notFound path)
  | .found n =>
    if p.suffix != sourceSuffix then .error (.notSource path)
    else match n with
      | .dir _ => .error (.isDirectory path)
      | .file bytes => c.checkBytes w.diagnoses path bytes

end Config

/-! ## Directories -/

/-- Findings by file, in the order of the check; files without findings are left out. -/
abbrev Results := Entries String (List Finding)

/-- Why a directory is not checked. -/
inductive DirectoryError where
  /-- There is no such directory. -/
  | notFound (path : String)
  /-- Its path cannot be looked up. -/
  | tooLong (path : String)
  /-- It is a file. -/
  | notDirectory (path : String)
  /-- A file in it cannot be checked. -/
  | file (error : FileError)
  deriving DecidableEq, Repr

/-- The message of an error. -/
def DirectoryError.message : DirectoryError → String
  | .notFound path => "Directory not found: " ++ path
  | .tooLong path => tooLongMessage path
  | .notDirectory path => "Path is not a directory: " ++ path
  | .file error => error.message

/-- Whether a path, given from the directory that is checked, matches a pattern. -/
def isExcluded (patterns : List String) (p : Path) : Bool :=
  patterns.any (Text.matchesPattern ·.toList p.render.toList)

/-- Whether a name has the suffix of source code; nothing has to stand in front of it. -/
def isSourceName (name : String) : Bool :=
  Text.endsWith name.toList sourceSuffix.toList

/-- The names of everything below a directory that is named like a source file, directories included,
in the order of their paths below `p`. -/
def sourcesBelow (p : Path) (n : Node) : List (List String) :=
  let found := (n.inside.map (·.1)).filter fun names => names.getLast?.any isSourceName
  found.mergeSort fun a b => (p.child a).render ≤ (p.child b).render

namespace Config

/-- Checks a file of a directory. -/
def checkMember (c : Config) (w : Workspace) (p : Path) : Except FileError (List Finding) :=
  match c.checkFile w p with
  | .ok fs => .ok fs
  | .error e => if e.isReported then .ok [e.finding p.render] else .error e

/-- Checks files one after another. -/
def checkMembers (c : Config) (w : Workspace) : List Path → Except FileError Results
  | [] => .ok []
  | p :: ps => do
    let fs ← c.checkMember w p
    let rest ← c.checkMembers w ps
    pure (if fs.isEmpty then rest else (p.render, fs) :: rest)

/-- Checks all files of a directory that no pattern excludes. -/
def checkDirectory (c : Config) (w : Workspace) (p : Path) (exclude : List String) :
    Except DirectoryError Results :=
  match w.lookup p with
  | .tooLong => .error (.tooLong p.render)
  | .missing => .error (.notFound p.render)
  | .found (.file _) => .error (.notDirectory p.render)
  | .found (.dir es) =>
    let names := (sourcesBelow p (.dir es)).filter fun names =>
      !isExcluded exclude { parts := names }
    (c.checkMembers w (names.map p.child)).mapError .file

end Config

end DocLint
