/-!
DocLint.Rules.Basic: what a docstring has to look like.

`Rules` are global options and a list of sections. A section has a kind, which says how its content
is written, and either is headed by an admonition, `!!! note "Summary"`, or by its name and a colon.
-/

namespace DocLint

/-- How the content of a section is written. -/
inductive SectionKind where
  /-- Free text. -/
  | freeText
  /-- A list of names. -/
  | listName
  /-- A list of types in parentheses. -/
  | listType
  /-- A list of names, each with its type in parentheses. -/
  | listNameAndType
  /-- A kind without rules of its own. -/
  | other (label : String)
  deriving DecidableEq, Repr

namespace SectionKind

/-- The kinds that a configuration may name, by their labels. -/
def known : List (String × SectionKind) :=
  [("free_text", .freeText), ("list_name", .listName), ("list_type", .listType),
    ("list_name_and_type", .listNameAndType)]

/-- The label of a kind. -/
def label : SectionKind → String
  | .freeText => "free_text"
  | .listName => "list_name"
  | .listType => "list_type"
  | .listNameAndType => "list_name_and_type"
  | .other label => label

/-- The kind with a label. -/
def ofLabel (label : String) : SectionKind :=
  (known.lookup label).getD (.other label)

end SectionKind

/-- A section of a docstring. -/
structure Section where
  /-- Its name. -/
  name : String
  /-- How its content is written. -/
  kind : SectionKind
  /-- Its place among the ordered sections; a section without one may stand anywhere. -/
  order : Option Int := none
  /-- The admonition that heads it, if it is headed by one. -/
  admonition : Option String := none
  /-- The mark in front of the admonition. -/
  marker : String := ""
  /-- Whether every docstring must have it. -/
  required : Bool := false
  deriving DecidableEq, Repr

/-- The mark and the word of the admonition that heads a section, if neither is empty. -/
def Section.callout? (s : Section) : Option (String × String) :=
  match s.admonition with
  | some a => if a.isEmpty || s.marker.isEmpty then none else some (s.marker, a)
  | none => none

/-- How the remark `, optional` after a type is treated. -/
inductive OptionalStyle where
  /-- It is ignored. -/
  | silent
  /-- Only parameters with a default may have it. -/
  | validate
  /-- Exactly the parameters with a default have it. -/
  | strict
  deriving DecidableEq, Repr

/-- The style with a label; unknown labels ask for nothing. -/
def OptionalStyle.ofLabel : String → OptionalStyle
  | "validate" => .validate
  | "strict" => .strict
  | _ => .silent

/-- The global options. -/
structure Options where
  /-- Whether sections may occur that no rule names. -/
  allowUndefined : Bool := false
  /-- Whether a missing docstring is an error. -/
  requireDocstrings : Bool := true
  /-- Whether names that start with an underscore are checked. -/
  checkPrivate : Bool := false
  /-- Whether documented types are compared with annotations. -/
  checkTypes : Bool := true
  /-- How `, optional` is treated. -/
  optionalStyle : OptionalStyle := .validate
  deriving DecidableEq, Repr

/-- The rules that docstrings are checked against. -/
structure Rules where
  /-- The global options. -/
  options : Options := {}
  /-- The sections. -/
  sections : List Section
  deriving DecidableEq, Repr

/-- The sections of the default rules. -/
def defaultSections : List Section :=
  [{ name := "summary", kind := .freeText, order := some 1, admonition := some "note",
     marker := "!!!", required := true },
   { name := "details", kind := .freeText, order := some 2, admonition := some "info",
     marker := "???+" },
   { name := "params", kind := .listNameAndType, order := some 3, required := true },
   { name := "returns", kind := .listNameAndType, order := some 4 },
   { name := "yields", kind := .listType, order := some 5 },
   { name := "raises", kind := .listType, order := some 6 },
   { name := "examples", kind := .freeText, order := some 7, admonition := some "example",
     marker := "???+" },
   { name := "notes", kind := .freeText, order := some 8, admonition := some "note",
     marker := "???" }]

/-- The rules that hold where none are configured. -/
def defaultRules : Rules := { sections := defaultSections }

end DocLint
