import DocLint.Diagnosis
import DocLint.Entries
import DocLint.Text.Quoted
import DocLint.Workspace.Path

/-!
DocLint.Workspace.Tree: directories and files as a value.

A workspace is a tree of directories together with the directory in which one works. A path is
followed name by name, and double dots lead up only from a directory that exists. A path that is too
long, or that comes to a name that is, cannot be looked up at all. Whatever is found can be read: there
are no permissions.
-/

namespace DocLint

/-- A file or a directory. -/
inductive Node where
  /-- A file with its bytes. -/
  | file (bytes : List UInt8)
  /-- A directory with its entries. -/
  | dir (entries : List (String × Node))
  deriving Inhabited

/-- What looking a path up gives. -/
inductive Lookup where
  /-- A file or a directory. -/
  | found (n : Node)
  /-- Nothing. -/
  | missing
  /-- An error, since the path or a name in it is too long. -/
  | tooLong
  deriving Inhabited

/-- The file or directory that is found. -/
def Lookup.node? : Lookup → Option Node
  | .found n => some n
  | _ => none

/-- Whether a path cannot be looked up. -/
def Lookup.isTooLong : Lookup → Bool
  | .tooLong => true
  | _ => false

/-- The message for a path that cannot be looked up. -/
def tooLongMessage (path : String) : String :=
  "[Errno 36] File name too long: " ++ Text.quote path

/-- The most bytes that a name may have. -/
def nameLimit : Nat := 255

/-- The least number of bytes that is too much for a path. -/
def pathLimit : Nat := 4096

namespace Node

/-- An entry of a directory. -/
def entry? (name : String) : Node → Option Node
  | .file _ => none
  | .dir es => es.lookup name

/-- Whether a node is a directory. -/
def isDir : Node → Bool
  | .dir _ => true
  | .file _ => false

/-- Follows names from a node; `above` are the directories around it, innermost first. The root is
its own directory above. -/
def follow (above : List Node) (here : Node) : List String → Lookup
  | [] => .found here
  | name :: rest =>
    if !here.isDir then .missing
    else if name == Path.up then
      match above with
      | [] => follow [] here rest
      | outer :: above => follow above outer rest
    else if nameLimit < name.utf8ByteSize then .tooLong
    else match here.entry? name with
      | some inner => follow (here :: above) inner rest
      | none => .missing

/-- Changes the entry of a directory; a file becomes a directory. -/
def update (name : String) (f : Option Node → Option Node) (n : Node) : Node :=
  let es : Entries String Node := match n with
    | .dir es => es
    | .file _ => []
  match f (es.get? name) with
  | some inner => .dir (es.put name inner)
  | none => .dir (es.filter (·.1 != name))

/-- Changes what stands at names below a node, making the directories on the way. -/
def updateAt (f : Option Node → Option Node) : List String → Node → Node
  | [], n => (f (some n)).getD n
  | [name], n => n.update name f
  | name :: rest, n => n.update name fun inner => some (updateAt f rest (inner.getD (.dir [])))

mutual

/-- All nodes below a node with their names from there on, a directory before its entries. -/
def inside : Node → List (List String × Node)
  | .file _ => []
  | .dir es => insideAll es

/-- All nodes among entries and below them. -/
def insideAll : List (String × Node) → List (List String × Node)
  | [] => []
  | (name, n) :: rest =>
    ([name], n) :: n.inside.map (fun (names, m) => (name :: names, m)) ++ insideAll rest

end

end Node

/-- A tree of directories and the directory in which one works. -/
structure Workspace where
  /-- The root directory. -/
  root : Node
  /-- The names that lead to the directory in which one works. -/
  cwd : List String
  /-- What parsers say of the files that they cannot parse. -/
  diagnoses : Diagnoses := {}

namespace Workspace

/-- Takes one name, double dots leading up. -/
def stepName (names : List String) (name : String) : List String :=
  if name == Path.up then names.dropLast else names ++ [name]

/-- The names that a path leads to from the root, whether or not they exist. -/
def resolve (w : Workspace) (p : Path) : List String :=
  p.parts.foldl stepName (if p.isAbsolute then [] else w.cwd)

/-- The absolute path of names from the root. -/
def absolute (names : List String) : Path :=
  { slashes := 1, parts := names }

/-- Looks a path up. -/
def lookup (w : Workspace) (p : Path) : Lookup :=
  if pathLimit ≤ p.render.utf8ByteSize then .tooLong
  else w.root.follow [] (if p.isAbsolute then p.parts else w.cwd ++ p.parts)

/-- The node that a path leads to. -/
def node? (w : Workspace) (p : Path) : Option Node :=
  (w.lookup p).node?

/-- Whether a path cannot be looked up. -/
def isTooLong (w : Workspace) (p : Path) : Bool :=
  (w.lookup p).isTooLong

/-- Whether a path leads to something. -/
def exists? (w : Workspace) (p : Path) : Bool :=
  (w.node? p).isSome

/-- Whether a path leads to a directory. -/
def isDir (w : Workspace) (p : Path) : Bool :=
  (w.node? p).any (·.isDir)

/-- Whether a path leads to a file. -/
def isFile (w : Workspace) (p : Path) : Bool :=
  (w.node? p).any (!·.isDir)

/-- Writes a file, making the directories on the way. -/
def write (w : Workspace) (p : Path) (bytes : List UInt8) : Workspace :=
  { w with root := w.root.updateAt (fun _ => some (.file bytes)) (w.resolve p) }

/-- Makes a directory and those on the way. -/
def makeDir (w : Workspace) (p : Path) : Workspace :=
  { w with root := w.root.updateAt (fun n => some (n.getD (.dir []))) (w.resolve p) }

/-- Removes a file or a directory. -/
def remove (w : Workspace) (p : Path) : Workspace :=
  { w with root := w.root.updateAt (fun _ => none) (w.resolve p) }

/-- Works in another directory. -/
def enter (w : Workspace) (p : Path) : Workspace :=
  { w with cwd := w.resolve p }

end Workspace

end DocLint
