import DocLint.Check.Issue
import DocLint.Docstring.Header

/-!
DocLint.Check.Undefined: sections that no rule names.
-/

namespace DocLint

open Docstring (admonitions colonWords)
open Text (lower lowered trim dropRightWhile)

/-- A section name in lower case, without blanks around it and colons behind it. -/
def normalizeName (name : Text) : Text :=
  dropRightWhile (· == ':') (trim (lower name))

/-- Names that are never sections: languages of code blocks. -/
def ignoredNames : List String := ["", "py", "python", "sh", "shell"]

/-- Whether a name can be that of a section; code and paths cannot. -/
def isSectionName (name : Text) : Bool :=
  !ignoredNames.any (·.toList == name) &&
    !name.any fun c => c == '\x60' || c == '.' || c == '/' || c == '\\'

/-- The names of the sections of a docstring, sorted and each once. -/
def sectionNames (doc : Text) : List String :=
  let found := colonWords doc ++ (admonitions doc).map (·.title)
  let names := ((found.map normalizeName).filter isSectionName).map String.ofList
  (names.mergeSort fun a b => a ≤ b).eraseDups

/-- The sections of a docstring that no rule names. -/
def Rules.undefinedIssues (r : Rules) (doc : Text) : List Issue :=
  let defined := r.sections.map (lowered ·.name)
  ((sectionNames doc).filter fun n => !defined.any (· == n.toList)).map .undefined

end DocLint
