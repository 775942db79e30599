import DocLint.Check.Issue
import DocLint.Docstring.Header
import DocLint.Entries

/-!
DocLint.Check.Admonition: admonitions against the sections that they head.

A section that is configured with an admonition must be headed by that one, and its title has no
colon; a section that is configured without must be headed by its name in title case and a colon.
-/

namespace DocLint

open Docstring (Admonition admonitions wordLine?)
open Text (lower lowered titled trim dropRightWhile)

/-- The first section whose name is `name` up to case. -/
def Rules.named? (r : Rules) (name : Text) : Option Section :=
  r.sections.find? fun s => lowered s.name == lower name

/-- The admonitions of the sections of free text, by section, all in lower case. -/
def Rules.admonitionMap (r : Rules) : Entries String String :=
  Entries.ofPairs <| r.sections.filterMap fun s =>
    match s.kind, s.admonition with
    | .freeText, some a =>
      if a.isEmpty then none
      else some (String.ofList (lowered s.name), String.ofList (lowered a))
    | _, _ => none

/-- The issue with one admonition. -/
def Rules.admonitionIssue? (r : Rules) (a : Admonition) : Option Issue :=
  let actual := String.ofList (lower a.word)
  let title := String.ofList a.title
  let wrong := match r.admonitionMap.get? (String.ofList (lower a.title)) with
    | some expected => if actual == expected then none else some expected
    | none => none
  match wrong with
  | some expected => some (.wrongAdmonition title actual expected)
  | none =>
    if (r.named? a.title).any (·.admonition.isNone) then some (.unexpectedAdmonition title) else none

/-- The issues with the admonitions of a docstring. -/
def Rules.admonitionIssues (r : Rules) (doc : Text) : List Issue :=
  (admonitions doc).filterMap r.admonitionIssue?

/-! ## Colons -/

/-- The issue with a colon at the end of the title of an admonition. -/
def Rules.titleColonIssue? (r : Rules) (a : Admonition) : Option Issue :=
  let clean := dropRightWhile (· == ':') a.title
  match r.named? clean with
  | some s =>
    if s.admonition.any (!·.isEmpty) && a.title.getLast? == some ':' then
      some (.admonitionColon (String.ofList clean) (String.ofList a.written))
    else none
  | none => none

/-- The issues with colons in the titles of admonitions. -/
def Rules.titleColonIssues (r : Rules) (doc : Text) : List Issue :=
  (admonitions doc).filterMap r.titleColonIssue?

/-- The lines of a docstring without the blanks around them. -/
def trimmedLines (doc : Text) : List Text :=
  (Text.lines doc).map trim

/-- The section without an admonition that a line of one word names, with the word and whether a
colon follows it. -/
def Rules.plainHeader? (r : Rules) (line : Text) : Option (Section × Text × Bool) := do
  let (word, colon) ← wordLine? line
  let s ← r.named? word
  if s.admonition.isNone then pure (s, word, colon) else none

/-- The issues with headers that lack their colon. -/
def Rules.missingColonIssues (r : Rules) (doc : Text) : List Issue :=
  (trimmedLines doc).filterMap fun line =>
    match r.plainHeader? line with
    | some (_, word, false) => some (.missingColon (String.ofList word) (String.ofList line))
    | _ => none

/-- The issues with colons. -/
def Rules.colonIssues (r : Rules) (doc : Text) : List Issue :=
  r.titleColonIssues doc ++ r.missingColonIssues doc

/-! ## Title case -/

/-- The issues with headers that are not in title case. -/
def Rules.titleCaseIssues (r : Rules) (doc : Text) : List Issue :=
  (trimmedLines doc).filterMap fun line =>
    match r.plainHeader? line with
    | some (s, word, _) =>
      let expected := titled s.name
      if String.ofList word == expected then none
      else some (.titleCase (String.ofList (lower word)) expected (String.ofList word))
    | none => none

end DocLint
