import DocLint.Syntax.Grammar.Expression

/-!
DocLint.Syntax.Grammar.Pattern: patterns of `case`.

Only the shape of a pattern matters, so its parsers give no tree.
-/

namespace DocLint.Syntax.Grammar

variable (rec : Phrases)

/-- Fails before what would make a name part of a longer pattern. -/
def patternNameEnds : Parser Unit := notOps [".", "(", "="]

/-- A name that a pattern binds. -/
def captureTarget : Parser Unit := do
  let name ← identifier
  if name == "_" then failure
  patternNameEnds

/-- A number literal, and whether it is imaginary. -/
def patternNumber : Parser Bool :=
  token fun
    | .number (.imaginary _) => some true
    | .number _ => some false
    | _ => none

/-- A signed number or a complex number. -/
def numberPattern : Parser Unit := do
  let _ ← accept (.op "-")
  let imaginary ← patternNumber
  if ← atOps ["+", "-"] then
    if imaginary then failure
    let _ ← oneOf ["+", "-"]
    if !(← patternNumber) then failure

/-- A literal. -/
def literalPattern : Parser Unit := do
  match ← peek with
  | some (.number _) => numberPattern
  | some (.op "-") => numberPattern
  | some (.string _ _) => let _ ← strings rec
  | some (.keyword "None") => word "None"
  | some (.keyword "True") => word "True"
  | some (.keyword "False") => word "False"
  | _ => failure

/-- A dotted name; tells whether it has a dot. -/
def dottedPattern : Parser Bool := do
  let _ ← identifier
  let rest ← many (do op "."; identifier)
  pure (!rest.isEmpty)

/-- `*name` or `*_`. -/
def starPattern : Parser Unit := do
  op "*"
  let _ ← identifier
  patternNameEnds

/-- An element of a sequence pattern. -/
def maybeStarPattern : Parser Unit := do
  if ← at? (.op "*") then starPattern else rec .pattern

/-- The items of a mapping pattern up to the closing brace; only one double star, at the end. -/
def mappingPattern : Parser Unit := do
  if ← accept (.op "\x7d") then return
  let item : Parser Bool := do
    if ← accept (.op "**") then
      captureTarget
      pure true
    else
      if ← atName then
        if !(← dottedPattern) then failure
      else literalPattern rec
      op ":"
      rec .pattern
      pure false
  let (items, _) ← commaList item
  op "\x7d"
  if items.dropLast.any id then failure

/-- `name=pattern`. -/
def namedPattern : Parser Unit := do
  let _ ← identifier
  op "="
  rec .pattern

/-- The arguments of a class pattern up to the closing parenthesis: positional before named. The
positional ones reach as far as patterns can be read, and `_` is a pattern whatever follows it, so
after a positional argument `_` cannot be the name of the next one. -/
def classPattern : Parser Unit := do
  if ← accept (.op ")") then return
  if !(← atNameThen "=") then
    let (_, comma) ← commaList (rec .pattern)
    if ← accept (.op ")") then return
    if !comma then failure
  let _ ← commaList (namedPattern rec)
  op ")"

/-- A sequence or a group in parentheses, after the opening one. -/
def parenPattern : Parser Unit := do
  if ← accept (.op ")") then return
  let starred ← at? (.op "*")
  let (items, comma) ← commaList (maybeStarPattern rec)
  op ")"
  if starred && items.length == 1 && !comma then failure

/-- A name or dotted name, alone or with the arguments of a class pattern. -/
def namePattern : Parser Unit := do
  let _ ← dottedPattern
  if ← accept (.op "(") then classPattern rec else patternNameEnds

/-- A pattern without alternatives. -/
def closedPattern : Parser Unit := do
  match ← peek with
  | some (.name "_") => let _ ← identifier
  | some (.name _) => namePattern rec
  | some (.contextual _) => namePattern rec
  | some (.op "(") => op "("; parenPattern rec
  | some (.op "[") =>
    op "["
    if !(← accept (.op "]")) then
      let _ ← commaList (maybeStarPattern rec)
      op "]"
  | some (.op "\x7b") => op "\x7b"; mappingPattern rec
  | _ => literalPattern rec

/-- Alternatives, perhaps with a name for the whole. -/
def pattern : Parser Unit := do
  let _ ← sepBy1 (closedPattern rec) (op "|")
  if ← accept (.keyword "as") then captureTarget

/-- The pattern of a case, which may be a sequence without brackets. -/
def casePattern : Parser Unit := do
  let starred ← at? (.op "*")
  let (items, comma) ← commaList (maybeStarPattern rec)
  if starred && items.length == 1 && !comma then failure

end DocLint.Syntax.Grammar
