import DocLint.Config.Rules

/-!
DocLint.Config.Fault: where checks come to values of the wrong type.

A configuration may hold a value of any type in any place, and a check fails at the first one that it
uses as a text or an order and that is none. It fails too where it needs the text of an annotation that
has none. `checkItem` is the check of an item by a configuration,
which gives such a fault or the answer of the rules.
-/

namespace DocLint

/-! ## Sections -/

namespace SectionSpec

/-- Whether a section is of a kind. -/
def isKind (s : SectionSpec) (k : SectionKind) : Bool :=
  s.kind.text? == some k.label

/-- The fault of a name that is no text, where it is compared up to case. -/
def nameFault? (s : SectionSpec) : Option Fault :=
  match s.name with
  | .text _ => none
  | v => some (.noAttribute v.typeName "lower")

/-- The fault of a value that is no text, where it is part of a pattern. -/
def patternFault? : Value → Option Fault
  | .text _ => none
  | v => some (.notText v.typeName)

/-- Whether a section has an admonition and a mark. -/
def hasCallout (s : SectionSpec) : Bool :=
  match s.admonition with
  | .text a => !a.isEmpty && s.marker.truthy
  | _ => false

/-- The fault that looking for a section of free text gives. -/
def freeTextFault? (s : SectionSpec) : Option Fault :=
  if s.hasCallout then patternFault? s.name <|> patternFault? s.marker else s.nameFault?

/-- The fault that looking for a section gives. -/
def fault? (s : SectionSpec) : Option Fault :=
  s.nameFault? <|> (if s.isKind .freeText then s.freeTextFault? else none)

/-- The fault that asking for a section gives; only lists of names and types are told apart by
name. -/
def askedFault? (s : SectionSpec) : Option Fault :=
  if s.isKind .listNameAndType then s.nameFault? else none

/-- The fault that looking for the place of a section gives. -/
def placeFault? (s : SectionSpec) : Option Fault :=
  if s.isKind .freeText && s.hasCallout then patternFault? s.marker <|> patternFault? s.name
  else s.nameFault?

end SectionSpec

/-! ## Configurations -/

namespace Config

/-- The fault of orders that cannot be compared. -/
def orderFault? (c : Config) : Option Fault :=
  match c.sortedOrders with
  | .ok _ => none
  | .error f => some f

/-- The first fault that looking for all sections in a docstring gives. -/
def docstringFault? (c : Config) : Option Fault :=
  c.sections.findSome? (·.fault?) <|> c.orderFault?

/-- The first fault that finding the required sections of an item gives. -/
def requiredFault? (c : Config) : Option Fault :=
  (c.sections.filter (·.required.truthy)).findSome? (·.askedFault?)

/-- The fault of an annotation that cannot be written, where the content of a section is compared
with it. -/
def contentFault? (c : Config) (i : Item) (doc : Text) (s : SectionSpec) : Option Fault :=
  match i.signature with
  | some sig =>
    let isCompared : Bool := s.isKind .listNameAndType && (s.toSection none).isParams &&
      (s.toSection none).presentIn doc && (Params.nameIssue? sig doc).isNone &&
      c.settings.checkTypes.truthy
    if sig.hasUnwritten && isCompared then some .unwritten else none
  | none => none

/-- The first fault that the check of an item comes to. -/
def itemFault? (c : Config) (i : Item) : Option Fault :=
  let asked (s : SectionSpec) : Option Fault :=
    if (s.toSection none).isParams && !i.hasParams then none else s.fault?
  c.requiredFault? <|>
    match i.docstring.filter (!·.isEmpty) with
    | none => none
    | some doc =>
      (c.sections.filter (·.required.truthy)).findSome? asked <|>
        c.sections.findSome? (fun s => s.fault? <|> c.contentFault? i doc.toList s) <|> c.orderFault?

/-- The first fault that finding the places of all sections gives. -/
def placeFault? (c : Config) : Option Fault :=
  match c.sortedOrders with
  | .error f => some f
  | .ok sorted =>
    (sorted.map (·.1) ++ c.sections.filter (!·.isOrdered)).findSome? (·.placeFault?)

/-- The first fault that comparing all names gives. -/
def namesFault? (c : Config) : Option Fault :=
  c.sections.findSome? (·.nameFault?)

/-- The first fault that collecting the admonitions of sections of free text gives. -/
def admonitionsFault? (c : Config) : Option Fault :=
  (c.sections.filter fun s => s.isKind .freeText && s.admonition.text?.any (!·.isEmpty)).findSome?
    (·.nameFault?)

/-- The first fault that looking sections up by their titles gives: every name up to the first that
fits is compared. -/
def lookupFault? (c : Config) (titles : List Text) : Option Fault :=
  titles.findSome? fun t =>
    (c.sections.takeWhile fun s => !s.name.text?.any (Text.lowered · == Text.lower t)).findSome?
      (·.nameFault?)

/-- The first fault that checking the admonitions of a docstring gives; a wrong one is not looked up
any more. -/
def admonitionFault? (c : Config) (doc : Text) : Option Fault :=
  let isWrong (a : Docstring.Admonition) : Bool :=
    match c.toRules.admonitionIssue? a with
    | some (.wrongAdmonition ..) => true
    | _ => false
  c.admonitionsFault? <|>
    c.lookupFault? (((Docstring.admonitions doc).filter (!isWrong ·)).map (·.title))

/-- The first fault that checking the colons in titles gives. -/
def titleColonFault? (c : Config) (doc : Text) : Option Fault :=
  c.lookupFault? ((Docstring.admonitions doc).map fun a => Text.dropRightWhile (· == ':') a.title)

/-- The first fault that checking lines of one word gives. -/
def wordLineFault? (c : Config) (doc : Text) : Option Fault :=
  c.lookupFault? ((trimmedLines doc).filterMap fun l => (Docstring.wordLine? l).map (·.1))

/-- The fault that telling whether a line is a header gives. -/
def headerFault? (c : Config) (stripped full : Text) : Option Fault :=
  c.lookupFault? (headerTitle? stripped full).toList

/-- The first fault that checking the parentheses of a docstring gives. -/
def parenFault? (c : Config) (doc : Text) : Option Fault :=
  if c.toRules.sections.any (·.isTyped) then
    (Text.lines doc).findSome? fun l => c.headerFault? (Text.trim l) l
  else none

/-! ## Checks -/

/-- Checks an item. -/
def checkItem (c : Config) (file : String) (i : Item) : Except Fault (Option Finding) :=
  match c.itemFault? i with
  | some f => .error f
  | none => .ok (c.toRules.checkItem? file i)

/-- Checks items; the first fault ends the check. -/
def checkItems (c : Config) (file : String) (is : List Item) : Except Fault (List Finding) := do
  let found ← is.mapM (c.checkItem file)
  pure (found.filterMap id)

end Config

end DocLint
