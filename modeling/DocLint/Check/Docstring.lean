import DocLint.Check.Order
import DocLint.Check.Parentheses
import DocLint.Check.Undefined

/-!
DocLint.Check.Docstring: everything that is wrong with a docstring, and what is reported of it.

The issues of a docstring are listed in a fixed order of checks. A finding joins their messages by
semicolons; an item without a docstring gives one finding if a required section applies to it.
-/

namespace DocLint

open Text (lowered)

/-! ## Issues -/

/-- Whether a section is the list of parameters. -/
def Section.isParams (s : Section) : Bool :=
  lowered s.name == "params".toList

/-- The required sections that are absent; the list of parameters is not asked of an item without
parameters. -/
def Rules.missingIssues (r : Rules) (i : Item) (doc : Text) : List Issue :=
  ((r.sections.filter (·.required)).filter fun s =>
    (!s.isParams || i.hasParams) && !s.presentIn doc).map (.missingSection ·.name)

/-- The issue with the content of a section. -/
def Rules.contentIssue? (r : Rules) (i : Item) (doc : Text) (s : Section) : Option Issue :=
  match s.kind, i.signature with
  | .listNameAndType, some sig =>
    if s.isParams then
      match Params.nameIssue? sig doc with
      | some issue => some (.names issue)
      | none =>
        if r.options.checkTypes then
          (Params.typeIssue? r.options.optionalStyle sig doc).map .types
        else none
    else none
  | _, _ => none

/-- The issues with the content of the sections that are present. -/
def Rules.contentIssues (r : Rules) (i : Item) (doc : Text) : List Issue :=
  (r.sections.filter (·.presentIn doc)).filterMap (r.contentIssue? i doc)

/-- The issues with a docstring, whichever item it belongs to. -/
def Rules.formIssues (r : Rules) (doc : Text) : List Issue :=
  r.orderIssues doc ++ (if returnsAndYields doc then [.returnsAndYields] else []) ++
    (if r.options.allowUndefined then [] else r.undefinedIssues doc) ++ r.admonitionIssues doc ++
    r.colonIssues doc ++ r.titleCaseIssues doc ++ r.parenIssues doc

/-- Everything that is wrong with a docstring of an item. -/
def Rules.issues (r : Rules) (i : Item) (doc : Text) : List Issue :=
  r.missingIssues i doc ++ r.contentIssues i doc ++ r.formIssues doc

/-! ## Findings -/

/-- What is reported of an item. -/
structure Finding where
  /-- The messages of its issues, joined. -/
  message : String
  /-- The file. -/
  file : String
  /-- The line of its definition. -/
  line : Int
  /-- Its name. -/
  name : String
  /-- What it is. -/
  kind : String
  deriving DecidableEq, Repr

/-- A finding as one line of text. -/
def Finding.text (f : Finding) : String :=
  "Line " ++ toString f.line ++ ", " ++ f.kind ++ " '" ++ f.name ++ "': " ++ f.message

/-- What stands between the messages of a finding. -/
def messageSeparator : String := "; "

/-- Joins messages. -/
def joinMessages (ms : List String) : String :=
  messageSeparator.intercalate ms

/-- A finding with a message about an item of a file. -/
def Item.finding (i : Item) (file message : String) : Finding :=
  { message, file, line := i.line, name := i.name, kind := i.kind.label }

/-- The finding for an item without a docstring, if one is needed. -/
def Rules.missingDocstring? (r : Rules) (file : String) (i : Item) (needed : Bool) : Option Finding :=
  if needed && r.options.requireDocstrings then
    some (i.finding file ("Missing docstring for " ++ i.kind.label))
  else none

/-- The finding for a docstring, if it has issues. -/
def Rules.checkDocstring? (r : Rules) (file : String) (i : Item) (doc : Text) : Option Finding :=
  match r.issues i doc with
  | [] => none
  | issues => some (i.finding file (joinMessages (issues.map (·.message))))

/-- The finding for an item; an empty docstring counts as none. -/
def Rules.checkItem? (r : Rules) (file : String) (i : Item) : Option Finding :=
  match i.docstring.filter (!·.isEmpty) with
  | none => r.missingDocstring? file i (!(r.requiredFor i).isEmpty)
  | some doc => r.checkDocstring? file i doc.toList

end DocLint
