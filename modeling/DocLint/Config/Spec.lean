import DocLint.Rules.Basic
import DocLint.Value.Show

/-!
DocLint.Config.Spec: sections and options as a configuration gives them.

A `SectionSpec` holds values of any type. `check` asks two things of it: its kind is a known one, and
an admonition and the mark in front of it come together or not at all.
-/

namespace DocLint

/-- A section as configured. -/
structure SectionSpec where
  /-- Its name. -/
  name : Value
  /-- The label of its kind. -/
  kind : Value
  /-- Its place among the ordered sections. -/
  order : Value := .none
  /-- Its admonition, or false. -/
  admonition : Value := .bool false
  /-- The mark in front of the admonition. -/
  marker : Value := .text ""
  /-- Whether every docstring must have it. -/
  required : Value := .bool false
  /-- A remark on it. -/
  message : Value := .text ""

/-- What is wrong with a section as configured. -/
inductive SpecError where
  /-- Its kind is not known. -/
  | unknownKind (kind : Value)
  /-- Its admonition is just true. -/
  | admonitionTrue (name : Value)
  /-- It has a mark and no admonition. -/
  | markerAlone (name : Value)
  /-- It has an admonition and no mark. -/
  | admonitionAlone (name : Value)
  /-- Its admonition is neither a truth value nor a text. -/
  | admonitionType (name : Value) (type : String)

/-- The known labels, in parentheses. -/
def knownLabels : String :=
  "(" ++ ", ".intercalate (SectionKind.known.map fun k => Text.quote k.1) ++ ")"

/-- The message of an error. -/
def SpecError.message : SpecError → String
  | .unknownKind kind => "Invalid section type: " ++ kind.plain ++ ". Valid types: " ++ knownLabels
  | .admonitionTrue name =>
    "Section '" ++ name.plain ++ "': admonition cannot be True, must be False or a string"
  | .markerAlone name =>
    "Section '" ++ name.plain ++ "': when admonition=False, prefix cannot be provided"
  | .admonitionAlone name =>
    "Section '" ++ name.plain ++ "': when admonition is a string, prefix must be provided"
  | .admonitionType name type =>
    "Section '" ++ name.plain ++ "': admonition must be a boolean or string, got <class '" ++ type ++
      "'>"

namespace SectionSpec

/-- Whether a label is that of a known kind. -/
def isKnownKind : Value → Bool
  | .text label => SectionKind.known.any (·.1 == label)
  | _ => false

/-- The error of a section as configured, if it has one. -/
def error? (s : SectionSpec) : Option SpecError :=
  if !isKnownKind s.kind then some (.unknownKind s.kind)
  else match s.admonition with
    | .bool true => some (.admonitionTrue s.name)
    | .bool false => if s.marker.truthy then some (.markerAlone s.name) else none
    | .text _ => if s.marker.truthy then none else some (.admonitionAlone s.name)
    | v => some (.admonitionType s.name v.typeName)

/-- A section without errors. -/
def check (s : SectionSpec) : Except SpecError SectionSpec :=
  match s.error? with
  | some e => .error e
  | none => .ok s

/-- A section as it would be configured. -/
def ofSection (s : Section) : SectionSpec :=
  { name := .text s.name
    kind := .text s.kind.label
    order := match s.order with
      | some n => .int n
      | none => .none
    admonition := match s.admonition with
      | some a => .text a
      | none => .bool false
    marker := .text s.marker
    required := .bool s.required }

end SectionSpec

/-- The global options as configured. -/
structure Settings where
  /-- Whether sections may occur that no rule names. -/
  allowUndefined : Value := .bool false
  /-- Whether a missing docstring is an error. -/
  requireDocstrings : Value := .bool true
  /-- Whether names that start with an underscore are checked. -/
  checkPrivate : Value := .bool false
  /-- Whether documented types are compared with annotations. -/
  checkTypes : Value := .bool true
  /-- How `, optional` is treated. -/
  optionalStyle : Value := .text "validate"

/-- A configuration. -/
structure Config where
  /-- The global options. -/
  settings : Settings := {}
  /-- The sections. -/
  sections : List SectionSpec

/-- The sections of the default configuration. -/
def defaultSpecs : List SectionSpec :=
  defaultSections.map .ofSection

/-- The configuration that holds where there is none. -/
def defaultConfig : Config := { sections := defaultSpecs }

end DocLint
