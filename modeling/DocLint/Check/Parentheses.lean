import DocLint.Check.Admonition

/-!
DocLint.Check.Parentheses: entries of lists must have their types in parentheses.

The lines of a docstring are read from top to bottom. A header decides which section the lines after
it belong to; in a section that is a list of types, or of names and types, each line with a colon is
an entry, a description or an entry without its parentheses. The indentation of the last well-formed
entry tells descriptions, which are indented further, from entries.
-/

namespace DocLint

open Docstring (admonitionAt? titleLine? isIndented)
open Params (parenthesized?)
open Text (startsWith contains trim trimLeft lower lowered indent words suffixes)

/-! ## Headers -/

/-- The title of the header in a line, given without the blanks around it: an admonition, or a title
line if the full line is not indented. -/
def headerTitle? (stripped full : Text) : Option Text :=
  match admonitionAt? stripped with
  | some (a, _) => some a.title
  | none => if isIndented full then none else titleLine? stripped

/-- Whether a line heads a section that the rules name. -/
def Rules.isHeader (r : Rules) (stripped full : Text) : Bool :=
  (headerTitle? stripped full).any fun t => (r.named? t).isSome

/-- Whether the entries of a section have types in parentheses. -/
def Section.isTyped (s : Section) : Bool :=
  s.kind == .listType || s.kind == .listNameAndType

/-- The section with typed entries that a line heads. -/
def Rules.typedHeader? (r : Rules) (stripped full : Text) : Option Section := do
  let t ← headerTitle? stripped full
  (r.sections.filter (·.isTyped)).find? fun s => lowered s.name == lower t

/-! ## Lines -/

/-- Whether a line can be an entry. -/
def isContentLine (stripped : Text) : Bool :=
  match stripped with
  | [] => false
  | c :: _ => c != '!' && c != '?' && c != '#' && stripped.elem ':'

/-- Words that start a description, in lower case. -/
def descriptionStarts : List String :=
  ["default:", "note:", "example:", "see:", "warning:", "info:", "tip:", "returns:"]

/-- Phrases that mark a description. -/
def descriptionPhrases : List String :=
  ["Default:", "Output format:", "Show examples:", "Example code:"]

/-- Signs that start an item of a list. -/
def isBullet (c : Char) : Bool :=
  c == '-' || c == '*' || c == '•' || c == '+'

/-- Whether a line is a description. -/
def isDescriptionLine (stripped : Text) : Bool :=
  let low := lower stripped
  descriptionStarts.any (startsWith low ·.toList) ||
    descriptionPhrases.any (contains stripped ·.toList) ||
    (trim stripped).head?.any isBullet || startsWith stripped ">>>".toList

/-- Whether a text starts with a type in parentheses and a colon. -/
def startsTyped (cs : Text) : Bool :=
  match parenthesized? cs with
  | some (_, ':' :: _) => true
  | _ => false

/-- Whether an entry of a list of types is well formed. -/
def isTypeEntry (stripped : Text) : Bool :=
  startsTyped (trimLeft stripped)

/-- Whether an entry of a list of names and types is well formed. -/
def isNameTypeEntry (stripped : Text) : Bool :=
  (suffixes stripped).any startsTyped

/-- The text before the first colon. -/
def beforeColon (stripped : Text) : Text :=
  trim (stripped.takeWhile (· != ':'))

/-- Words before the colon that mark a description. -/
def descriptionWords : List String := ["default", "output", "format", "show", "example"]

/-- Whether a line of a list of names and types reads like a sentence. -/
def readsLikeText (stripped : Text) : Bool :=
  let part := beforeColon stripped
  descriptionWords.any (contains (lower part) ·.toList) || 2 < (words part).length

/-- The issue with a line. -/
def lineIssue (s : Section) (stripped : Text) : Issue :=
  .unparenthesized s.name s.kind.label (String.ofList stripped)

/-- What a line of a section brings: its issues, and the indentation of the last well-formed entry
after it, where `last` is that before it. -/
def checkLine (s : Section) (last : Option Nat) (full stripped : Text) : List Issue × Option Nat :=
  let here := indent full
  let deeper := last.any (· < here)
  if isDescriptionLine stripped then ([], last)
  else match s.kind with
    | .listType =>
      if isTypeEntry stripped then ([], some here)
      else if last.isNone || deeper then ([], last)
      else ([lineIssue s stripped], last)
    | .listNameAndType =>
      if isNameTypeEntry stripped then ([], some here)
      else if readsLikeText stripped || deeper || startsWith (trim stripped) ['#'] then ([], last)
      else ([lineIssue s stripped], last)
    | _ => ([], last)

/-! ## Docstrings -/

/-- Where a reader of lines stands. -/
structure ParenState where
  /-- The section with typed entries that the lines belong to. -/
  current : Option Section := none
  /-- The indentation of the last well-formed entry. -/
  last : Option Nat := none

/-- Reads one line. -/
def Rules.parenStep (r : Rules) (st : ParenState) (full : Text) : List Issue × ParenState :=
  let stripped := trim full
  if r.isHeader stripped full then ([], { current := r.typedHeader? stripped full })
  else match st.current with
    | some s =>
      if isContentLine stripped then
        let (issues, last) := checkLine s st.last full stripped
        (issues, { st with last })
      else ([], st)
    | none => ([], st)

/-- Reads lines from top to bottom. -/
def Rules.parenLines (r : Rules) (st : ParenState) : List Text → List Issue
  | [] => []
  | l :: ls =>
    let (issues, st) := r.parenStep st l
    issues ++ r.parenLines st ls

/-- The entries of a docstring that lack their parentheses. -/
def Rules.parenIssues (r : Rules) (doc : Text) : List Issue :=
  r.parenLines {} (Text.lines doc)

end DocLint
