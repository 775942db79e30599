import DocLint.Params.Check

/-!
DocLint.Check.Issue: what can be wrong with a docstring.

Each issue is a cause; `message` is its wording.
-/

namespace DocLint

/-- Something that is wrong with a docstring. -/
inductive Issue where
  /-- A required section is absent. -/
  | missingSection (name : String)
  /-- The described parameters are not those of the signature. -/
  | names (issue : Params.NameIssue)
  /-- The described types are not those of the signature. -/
  | types (issue : Params.TypeIssue)
  /-- A section stands before one that should precede it. -/
  | outOfOrder (name : String)
  /-- A function cannot both return and yield. -/
  | returnsAndYields
  /-- A section that no rule names. -/
  | undefined (name : String)
  /-- A section under another admonition than its own. -/
  | wrongAdmonition (title actual expected : String)
  /-- A section under an admonition that should have none. -/
  | unexpectedAdmonition (title : String)
  /-- The title of an admonition ends in a colon. -/
  | admonitionColon (title written : String)
  /-- A header without its colon. -/
  | missingColon (name line : String)
  /-- A header that is not in title case. -/
  | titleCase (name expected found : String)
  /-- An entry without its type in parentheses. -/
  | unparenthesized (name kind line : String)
  deriving DecidableEq, Repr

/-- The message of an issue. -/
def Issue.message : Issue → String
  | .missingSection name => "Missing required section: '" ++ name ++ "'"
  | .names issue => issue.message
  | .types issue => issue.message
  | .outOfOrder name => "Section '" ++ name ++ "' appears out of order"
  | .returnsAndYields => "Docstring cannot have both Returns and Yields sections"
  | .undefined name =>
    "Section '" ++ name ++ "' found in docstring but not defined in configuration"
  | .wrongAdmonition title actual expected =>
    "Section '" ++ title ++ "' has incorrect admonition '" ++ actual ++ "', expected '" ++ expected ++
      "'"
  | .unexpectedAdmonition title =>
    "Section '" ++ title ++ "' is configured as non-admonition but found as admonition"
  | .admonitionColon title written =>
    "Section '" ++ title ++ "' is an admonition, therefore it should not end with ':', see: '" ++
      written ++ "'"
  | .missingColon name line =>
    "Section '" ++ name ++ "' is non-admonition, therefore it must end with ':', see: '" ++ line ++ "'"
  | .titleCase name expected found =>
    "Section '" ++ name ++ "' must be in title case as '" ++ expected ++ "', found: '" ++ found ++ "'"
  | .unparenthesized name kind line =>
    "Section '" ++ name ++ "' (type: '" ++ kind ++ "') requires parenthesized types, see: '" ++ line ++
      "'"

end DocLint
