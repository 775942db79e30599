import DocLint.Rules.Basic
import DocLint.Source.Item
import DocLint.Text.Pattern

/-!
DocLint.Check.Presence: which sections an item must have, and which a docstring has.

A section with an admonition is looked for by its mark and word, with its name in the title if it is
free text; any other section by a line with its name and a colon. All letters count up to case.
-/

namespace DocLint

open Text (isSpace lowered finds findsLine trim)

/-- Whether a section can be asked of an item at all; classes have none. -/
def Section.appliesTo (s : Section) (i : Item) : Bool :=
  match s.kind with
  | .freeText => i.isFunction
  | .listName => i.isFunction
  | .listType => i.isFunction
  | .listNameAndType =>
    i.isFunction && ["params", "returns", "return"].any (lowered s.name == ·.toList)
  | .other _ => false

/-- The required sections that apply to an item. -/
def Rules.requiredFor (r : Rules) (i : Item) : List Section :=
  r.sections.filter fun s => s.required && s.appliesTo i

/-- Whether an item has parameters to describe. -/
def Item.hasParams (i : Item) : Bool :=
  match i.signature with
  | some s => !s.params.isEmpty
  | none => false

namespace Section

/-- An admonition by its mark and word. -/
def calloutPieces (marker admonition : String) : List Text.Piece :=
  [.letters marker.toList, .some isSpace, .letters admonition.toList]

/-- An admonition whose title holds a name. -/
def titledPieces (marker admonition name : String) : List Text.Piece :=
  calloutPieces marker admonition ++
    [.some isSpace, .letters ['"'], .any (· != '"'), .letters name.toList, .any (· != '"'),
      .letters ['"']]

/-- A line of a name and a colon. -/
def linePieces (name : Text) : List Text.Piece :=
  let blank (c : Char) : Bool := c == ' ' || c == '\t'
  [.any blank, .letters name, .letters [':'], .any blank, .lineEnd]

/-- The header of examples that have no admonition of their own. -/
def examplesHeader : Text := "???+ example \"Examples\"".toList

/-- Whether a docstring has a section of free text. Without an admonition a summary is any text, and
sections other than examples count as present. -/
def freeTextIn (s : Section) (doc : Text) : Bool :=
  match s.callout? with
  | some (marker, admonition) => finds (titledPieces marker admonition s.name) doc
  | none =>
    let name := lowered s.name
    if name == "summary".toList then !(trim doc).isEmpty
    else if name == "examples".toList || name == "example".toList then
      finds [.letters examplesHeader] doc
    else true

/-- Whether a docstring has a section. -/
def presentIn (s : Section) (doc : Text) : Bool :=
  match s.kind with
  | .freeText => s.freeTextIn doc
  | _ =>
    (match s.callout? with
      | some (marker, admonition) => finds (calloutPieces marker admonition) doc
      | none => false) ||
    findsLine (linePieces (lowered s.name)) doc

end Section

end DocLint
