import DocLint.Check.Issue
import DocLint.Check.Presence

/-!
DocLint.Check.Order: the order of the sections of a docstring.

Every section that has a recognisable header is looked for, then a fixed list of common headers. The
sections found are put in the order in which they stand; a section is out of order if its place in
the expected order lies before that of the last section found that has a place there.
-/

namespace DocLint

open Text (isSpace lowered titled find?)

/-- A header to look for, and the name under which it is reported. -/
structure Landmark where
  /-- The header. -/
  pieces : List Text.Piece
  /-- The name. -/
  name : String

/-- The sections with an order, the least first; equal ones keep their order. -/
def Rules.ordered (r : Rules) : List Section :=
  (r.sections.filter (·.order.isSome)).mergeSort fun a b => a.order.getD 0 ≤ b.order.getD 0

/-- The sections without an order. -/
def Rules.floating (r : Rules) : List Section :=
  r.sections.filter (·.order.isNone)

/-- Sections that are recognised by a fixed heading, whichever of their names is used. -/
def fixedHeadings : List (List String × String) :=
  [(["params"], "Params"), (["returns", "return"], "Returns"), (["yields", "yield"], "Yields"),
    (["raises", "raise"], "Raises")]

/-- An admonition whose title ends in a name. -/
def endTitlePieces (marker admonition name : String) : List Text.Piece :=
  Section.calloutPieces marker admonition ++
    [.some isSpace, .letters ['"'], .any (· != '\n'), .letters (name.toList ++ ['"'])]

/-- The landmark of a section, if it has one: free text by its admonition, others by a heading. -/
def Section.landmark? (s : Section) : Option Landmark :=
  let heading := (fixedHeadings.find? fun h => h.1.any (lowered s.name == ·.toList)).map fun h =>
    (⟨[.letters (h.2 ++ ":").toList], h.2⟩ : Landmark)
  match s.kind, s.callout? with
  | .freeText, some (marker, admonition) =>
    some ⟨endTitlePieces marker admonition s.name, s.name⟩
  | _, _ => heading

/-- Headers that are looked for under all rules, with their names. -/
def commonHeaders : List (String × String) :=
  [("!!! note \"Summary\"", "Summary"), ("!!! details \"Details\"", "Details"),
    ("???+ example \"Examples\"", "Examples"), ("???+ success \"Credit\"", "Credit"),
    ("???+ calculation \"Equation\"", "Equation"), ("???+ info \"Notes\"", "Notes"),
    ("??? question \"References\"", "References"), ("??? tip \"See Also\"", "See Also")]

/-- The landmarks of the rules: ordered sections, floating ones, common headers. -/
def Rules.landmarks (r : Rules) : List Landmark :=
  (r.ordered ++ r.floating).filterMap (·.landmark?) ++
    commonHeaders.map fun (text, name) => ⟨[.letters text.toList], name⟩

/-- The landmarks found in a docstring with their places, from left to right. -/
def findLandmarks (ls : List Landmark) (doc : Text) : List (Nat × String) :=
  (ls.filterMap fun l => (find? l.pieces doc).map (·, l.name)).mergeSort fun a b => a.1 ≤ b.1

/-- The expected order of section names. -/
def Rules.expectedOrder (r : Rules) : List String :=
  r.ordered.map (titled ·.name) ++ commonHeaders.map (·.2)

/-- The names whose place lies before that of the last name that has one. -/
def descents (expected : List String) (last : Option Nat) : List String → List String
  | [] => []
  | name :: rest =>
    match expected.idxOf? name with
    | none => descents expected last rest
    | some i =>
      let tail := descents expected (some i) rest
      if last.any (i < ·) then name :: tail else tail

/-- The sections of a docstring that are out of order. -/
def Rules.orderIssues (r : Rules) (doc : Text) : List Issue :=
  (descents r.expectedOrder none ((findLandmarks r.landmarks doc).map (·.2))).map .outOfOrder

/-- Whether a docstring mentions both what is returned and what is yielded. -/
def returnsAndYields (doc : Text) : Bool :=
  Text.contains doc "Returns:".toList && Text.contains doc "Yields:".toList

end DocLint
