import DocLint.Text.Basic

/-!
DocLint.Workspace.Path: paths of files.

A path is a list of names. Empty names and single dots are dropped when a path is read, so that each
path is written in one way; double dots are kept, because they depend on where a path leads.
-/

namespace DocLint

/-- A path. -/
structure Path where
  /-- The number of slashes in front: none for a relative path, and else one or two, since two may
  mean something of their own. -/
  slashes : Nat := 0
  /-- The names. -/
  parts : List String
  deriving DecidableEq, Repr

namespace Path

/-- The name of the directory above. -/
def up : String := ".."

/-- The names between the slashes of a text. -/
def namesOf (cs : Text) : List String :=
  ((Text.splitBy (· == '/') cs).filter fun n => !n.isEmpty && n != ['.']).map String.ofList

/-- Reads a path. -/
def ofString (s : String) : Path :=
  let cs := s.toList
  let slashes := match (cs.takeWhile (· == '/')).length with
    | 0 => 0
    | 2 => 2
    | _ => 1
  { slashes, parts := namesOf cs }

/-- A path as text; the path without names is a dot. -/
def render (p : Path) : String :=
  if p.slashes == 0 && p.parts.isEmpty then "."
  else String.ofList (List.replicate p.slashes '/') ++ "/".intercalate p.parts

/-- Whether a path starts at the root. -/
def isAbsolute (p : Path) : Bool :=
  p.slashes != 0

/-- The last name of a path. -/
def name (p : Path) : String :=
  p.parts.getLast?.getD ""

/-- The part of a file name from its last dot on, if something stands on both sides of the dot. -/
def suffixOf (name : Text) : Text :=
  let after := (name.reverse.takeWhile (· != '.')).reverse
  let stem := name.take (name.length - after.length - 1)
  if after.isEmpty || stem.isEmpty then [] else '.' :: after

/-- The suffix of a path. -/
def suffix (p : Path) : String :=
  String.ofList (suffixOf p.name.toList)

/-- The path above. -/
def parent (p : Path) : Path :=
  { p with parts := p.parts.dropLast }

/-- A path below. -/
def child (p : Path) (names : List String) : Path :=
  { p with parts := p.parts ++ names }

end Path

end DocLint
