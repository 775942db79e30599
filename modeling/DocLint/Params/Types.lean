import DocLint.Params.Documented
import DocLint.Rules.Basic
import DocLint.Source.Item
import DocLint.Text.Pattern

/-!
DocLint.Params.Types: documented types against annotations.

A documented type may end in `, optional`, which stands for a default value. Types agree if they are
equal without blanks, with all quotes alike and up to case.
-/

namespace DocLint.Params

open Text (isSpace trim lower)

/-! ## The remark `, optional` -/

/-- What may follow the remark in front of a text. -/
def afterOptional : Text → List Text
  | ',' :: cs => (Text.runRests isSpace cs).filterMap (Text.dropLetters? "optional".toList)
  | _ => []

/-- Whether the remark stands in front of a text, with nothing but a newline behind it. -/
def isOptionalTail (cs : Text) : Bool :=
  (afterOptional cs).any fun rest => rest == [] || rest == ['\n']

/-- The text before the remark at the end of a type, if it ends in one. -/
def beforeOptional? : Text → Option Text
  | [] => none
  | c :: cs => if isOptionalTail (c :: cs) then some [] else (beforeOptional? cs).map (c :: ·)

/-- Whether a type ends in the remark. -/
def hasOptional (type : Text) : Bool :=
  (beforeOptional? type).isSome

/-- A type without the remark and without blanks around it. -/
def withoutOptional (type : Text) : Text :=
  trim ((beforeOptional? type).getD type)

/-- Ways in which the remark and the default value of a parameter disagree. -/
inductive OptionalIssue where
  /-- The remark without a default. -/
  | noDefault (param : String)
  /-- A default without the remark. -/
  | noRemark (param : String)
  deriving DecidableEq, Repr

/-- The message of an issue. -/
def OptionalIssue.message : OptionalIssue → String
  | .noDefault p =>
    "Parameter '" ++ p ++ "' has ', optional' suffix but no default value in signature"
  | .noRemark p =>
    "Parameter '" ++ p ++ "' has default value but missing ', optional' suffix in docstring"

/-- The issue with the remark on one parameter. -/
def optionalIssue? (style : OptionalStyle) (defaulted : List String) (param : String) (type : Text) :
    Option OptionalIssue :=
  let remark := hasOptional type
  let default := defaulted.contains param
  match style with
  | .silent => none
  | .validate => if remark && !default then some (.noDefault param) else none
  | .strict =>
    if default && !remark then some (.noRemark param)
    else if remark && !default then some (.noDefault param)
    else none

/-- Several issues in one text. -/
def optionalText (errors : List String) : String :=
  match errors with
  | [e] => e
  | es => "Optional suffix validation errors:" ++ "\n  - ".intercalate ("" :: es)

/-! ## Comparison -/

/-- A type without blanks and with all quotes alike. -/
def normalizeType (type : Text) : Text :=
  Text.replaceChar '"' '\'' (type.filter (!isSpace ·))

/-- Whether two types agree. -/
def sameType (a b : String) : Bool :=
  lower (normalizeType a.toList) == lower (normalizeType b.toList)

/-- A parameter whose documented type differs from its annotation. -/
structure TypeMismatch where
  /-- The parameter. -/
  param : String
  /-- Its annotation. -/
  annotation : String
  /-- Its documented type. -/
  documented : String
  deriving DecidableEq, Repr

/-- The annotated parameters whose documented types differ, in order of the annotations. -/
def typeMismatches (annotations documented : Entries String String) : List TypeMismatch :=
  annotations.filterMap fun (p, a) =>
    match documented.get? p with
    | some d => if sameType a d then none else some ⟨p, a, d⟩
    | none => none

/-- A type as shown in messages, with double quotes only. -/
def shownType (type : String) : String :=
  String.ofList (Text.replaceChar '\'' '"' type.toList)

/-- The report of one mismatch. -/
def TypeMismatch.text (m : TypeMismatch) : String :=
  "'" ++ m.param ++ "':\n    - signature: '" ++ shownType m.annotation ++ "'\n    - docstring: '" ++
    shownType m.documented ++ "'"

/-- The report of mismatches. -/
def mismatchText (ms : List TypeMismatch) : String :=
  "Parameter type mismatch:" ++ "\n  - ".intercalate ("" :: ms.map (·.text))

/-! ## All of it -/

/-- What is wrong with the types of a docstring. -/
inductive TypeIssue where
  /-- Remarks that do not fit the defaults. -/
  | optional (issues : List OptionalIssue)
  /-- A documented type without an annotation. -/
  | unannotated (param : String)
  /-- An annotation without a documented type. -/
  | undocumented (param annotation : String)
  /-- Types that differ. -/
  | mismatch (ms : List TypeMismatch)
  deriving DecidableEq, Repr

/-- The message of an issue. -/
def TypeIssue.message : TypeIssue → String
  | .optional issues => optionalText (issues.map (·.message))
  | .unannotated p =>
    "Parameter '" ++ p ++ "' has type in docstring but no type annotation in signature"
  | .undocumented p a =>
    "Parameter '" ++ p ++ "' has type annotation '" ++ a ++ "' in signature but no type in docstring"
  | .mismatch ms => mismatchText ms

/-- The issues with the remarks in a docstring. -/
def remarkIssues (style : OptionalStyle) (s : Signature) (doc : Text) : List OptionalIssue :=
  (types doc).filterMap fun e => optionalIssue? style s.defaulted e.1 e.2.toList

/-- The types that a docstring gives, without the remarks. -/
def bareTypes (doc : Text) : Entries String String :=
  (types doc).map fun e => (e.1, String.ofList (withoutOptional e.2.toList))

/-- The first parameter whose documented type has no annotation. -/
def unannotated? (s : Signature) (doc : Text) : Option String :=
  s.params.find? fun p => (bareTypes doc).has p && !s.types.has p

/-- The first annotation without a documented type. -/
def undocumented? (s : Signature) (doc : Text) : Option (String × String) :=
  s.types.find? fun e => !(bareTypes doc).has e.1

/-- The first kind of issue with the types of a docstring: remarks, then missing annotations, then
missing documentation, then differences. -/
def typeIssue? (style : OptionalStyle) (s : Signature) (doc : Text) : Option TypeIssue :=
  let issues := remarkIssues style s doc
  if !issues.isEmpty then some (.optional issues)
  else match unannotated? s doc, undocumented? s doc with
    | some p, _ => some (.unannotated p)
    | none, some (p, a) => some (.undocumented p a)
    | none, none =>
      let ms := typeMismatches s.types (bareTypes doc)
      if ms.isEmpty then none else some (.mismatch ms)

end DocLint.Params
