import DocLint.Params.Mismatch
import DocLint.Params.Types

/-!
DocLint.Params.Check: a list of parameters against a signature.

`listed` is a loose test, that each parameter occurs somewhere as `name (type):`; `nameIssue?` compares
the names of both sides and tells what differs.
-/

namespace DocLint.Params

open Text (dropPrefix? trimLeft suffixes)

/-- What is wrong with the names of a docstring. -/
inductive NameIssue where
  /-- There is no list of parameters. -/
  | noList
  /-- The names differ. -/
  | mismatch (missing extra : List String)
  deriving DecidableEq, Repr

/-- The message of an issue. -/
def NameIssue.message : NameIssue → String
  | .noList => "Params section not found in docstring"
  | .mismatch missing extra => (Mismatch.ofNames missing extra).message

/-- The issue with the names of a docstring, if its function has parameters. -/
def nameIssue? (s : Signature) (doc : Text) : Option NameIssue :=
  let params := s.params
  if params.isEmpty then none
  else if !mentions doc then some .noList
  else
    let documented := names doc
    let missing := params.filter (!documented.contains ·)
    let extra := documented.filter (!params.contains ·)
    if missing.isEmpty && extra.isEmpty then none else some (.mismatch missing extra)

/-- Whether a text has an entry for a name in front. -/
def startsEntry (name cs : Text) : Bool :=
  match dropPrefix? name cs with
  | some rest =>
    match parenthesized? (trimLeft rest) with
    | some (_, ':' :: _) => true
    | _ => false
  | none => false

/-- Whether every parameter has an entry somewhere in the docstring. -/
def listed (s : Signature) (doc : Text) : Bool :=
  s.params.isEmpty ||
    (mentions doc && s.params.all fun p => (suffixes doc).any (startsEntry p.toList))

end DocLint.Params
