import DocLint.Syntax.Grammar.Pattern

/-!
DocLint.Syntax.Grammar.Statement: statements and whole modules.

The reserved word in front of a statement decides what it is, except for `match`, which is read as a
statement where that succeeds and as a name elsewhere. `parseModule` ties the recursion of all
phrases with a bound that no source text can reach.
-/

namespace DocLint.Syntax.Grammar

variable (rec : Phrases)

/-! ## Simple statements -/

/-- The operators of augmented assignments. -/
def augmentedOps : List String :=
  ["+=", "-=", "*=", "@=", "/=", "%=", "&=", "|=", "^=", "<<=", ">>=", "**=", "//="]

/-- The value of an assignment. -/
def assigned : Parser Expr := yieldOr rec (starExpressions rec)

/-- The right-hand sides of a chain of assignments, after an equals sign; all but the last are
targets. There are at most as many as tokens are given. -/
def assignmentChain : List Token → Parser Unit
  | [] => failure
  | _ :: ts => do
    if ← at? (.keyword "yield") then
      let _ ← yieldExpression rec
    else
      let e ← starExpressions rec
      if ← accept (.op "=") then
        if isStarTarget e then assignmentChain ts else failure

/-- An expression or an assignment. -/
def expressionStatement : Parser Stmt := do
  let e ← starExpressions rec
  if ← accept (.op ":") then
    if !isSingleTarget e then failure
    let _ ← rec .expression
    if ← accept (.op "=") then
      let _ ← assigned rec
    pure .simple
  else if ← accept (.op "=") then
    if !isStarTarget e then failure
    assignmentChain rec (← get)
    pure .simple
  else if ← atOps augmentedOps then
    if !isSingleTarget e then failure
    let _ ← oneOf augmentedOps
    let _ ← assigned rec
    pure .simple
  else pure (.expression e)

/-- `a.b.c`. -/
def dottedName : Parser Unit := do
  let _ ← sepBy1 identifier (op ".")

/-- `as name`, if it comes next. -/
def asName : Parser Unit := do
  if ← accept (.keyword "as") then
    let _ ← identifier

/-- `import a.b as c, d`. -/
def importStatement : Parser Unit := do
  word "import"
  let _ ← sepBy1 (do dottedName; asName) (op ",")

/-- `from a.b import c as d, e`. -/
def importFrom : Parser Unit := do
  word "from"
  let dots ← many (oneOf [".", "..."])
  if dots.isEmpty || !(← at? (.keyword "import")) then dottedName
  word "import"
  let names : Parser (List Unit × Bool) := commaList (do let _ ← identifier; asName)
  if ← accept (.op "*") then pure ()
  else if ← accept (.op "(") then
    let _ ← names
    op ")"
  else
    let (_, comma) ← names
    if comma then failure

/-- `del` with its targets. -/
def deletion : Parser Unit := do
  word "del"
  let (es, _) ← commaList (rec .primary)
  if !es.all isDeletable then failure

/-- One simple statement. -/
def simpleStatement : Parser Stmt := do
  let bare (w : String) : Parser Stmt := do
    word w
    pure .simple
  match ← peek with
  | some (.keyword "pass") => bare "pass"
  | some (.keyword "break") => bare "break"
  | some (.keyword "continue") => bare "continue"
  | some (.keyword "return") =>
    word "return"
    let _ ← optional (starExpressions rec)
    pure .simple
  | some (.keyword "raise") =>
    word "raise"
    let value ← optional (rec .expression)
    if value.isSome then
      if ← accept (.keyword "from") then
        let _ ← rec .expression
    pure .simple
  | some (.keyword "global") => word "global"; let _ ← sepBy1 identifier (op ","); pure .simple
  | some (.keyword "nonlocal") => word "nonlocal"; let _ ← sepBy1 identifier (op ","); pure .simple
  | some (.keyword "assert") =>
    word "assert"
    let _ ← rec .expression
    if ← accept (.op ",") then
      let _ ← rec .expression
    pure .simple
  | some (.keyword "del") => deletion rec; pure .simple
  | some (.keyword "import") => importStatement; pure .simple
  | some (.keyword "from") => importFrom; pure .simple
  | some (.keyword "yield") => let _ ← yieldExpression rec; pure .simple
  | _ => expressionStatement rec

/-- A line of simple statements. -/
def simpleLine : Parser (List Stmt) := do
  let first ← simpleStatement rec
  let rest ← many (do op ";"; simpleStatement rec)
  let _ ← accept (.op ";")
  expect .newline
  pure (first :: rest)

/-! ## Compound statements -/

/-- An indented block, or simple statements on the same line. -/
def block : Parser (List Stmt) := do
  if ← accept .newline then
    expect .indent
    let body ← many1 (rec .statement)
    expect .dedent
    pure body.flatten
  else simpleLine rec

/-- A colon and the block after it. -/
def suite : Parser (List Stmt) := do
  op ":"
  block rec

/-- `else` with its block, if it comes next. -/
def elseSuite : Parser (List Stmt) := do
  if ← accept (.keyword "else") then suite rec else pure []

/-- What follows the first block of an `if`. -/
def elifSuites : Parser (List Stmt) := do
  let elifs ← many do
    word "elif"
    let _ ← namedExpression rec
    suite rec
  pure (elifs.flatten ++ (← elseSuite rec))

/-- One item of a `with`. -/
def withItem : Parser Unit := do
  let _ ← rec .expression
  if ← accept (.keyword "as") then
    let _ ← starTarget rec
    if !(← atOps [",", ")", ":"]) then failure

/-- The items of a `with` up to its colon, in parentheses or not. -/
def withItems : Parser Unit :=
  (do
    op "("
    let _ ← commaList (withItem rec)
    op ")"
    op ":") <|> (do
    let _ ← sepBy1 (withItem rec) (op ",")
    op ":")

/-- A `with` after its reserved word. -/
def withStatement : Parser Stmt := do
  withItems rec
  .compound <$> block rec

/-- A `for` after its reserved word. -/
def forStatement : Parser Stmt := do
  let _ ← starTargets rec
  word "in"
  let _ ← starExpressions rec
  let body ← suite rec
  pure (.compound (body ++ (← elseSuite rec)))

/-- One handler of a `try`; `starred` says whether it handles groups. -/
def handler (starred : Bool) : Parser (List Stmt) := do
  word "except"
  if starred then op "*"
  if starred || !(← at? (.op ":")) then
    let _ ← rec .expression
    asName
  suite rec

/-- `finally` with its block. -/
def finallySuite : Parser (List Stmt) := do
  word "finally"
  suite rec

/-- A `try` after its reserved word. -/
def tryStatement : Parser Stmt := do
  let body ← suite rec
  if ← at? (.keyword "finally") then
    return .compound (body ++ (← finallySuite rec))
  let starred := match ← get with
    | _ :: ⟨.op "*", _⟩ :: _ => true
    | _ => false
  let handlers ← many1 (handler rec starred)
  let otherwise ← elseSuite rec
  let final ← if ← at? (.keyword "finally") then finallySuite rec else pure []
  pure (.compound (body ++ handlers.flatten ++ otherwise ++ final))

/-- A function definition after `def`, which stands on `line`. -/
def functionDefinition (line : Nat) (decorators : List Expr) : Parser Stmt := do
  let name ← identifier
  op "("
  let ps ← parameters rec true ")"
  op ")"
  if ← accept (.op "->") then
    let _ ← rec .expression
  pure (.function name line decorators ps (← suite rec))

/-- A class definition after `class`, which stands on `line`. -/
def classDefinition (line : Nat) (decorators : List Expr) : Parser Stmt := do
  let name ← identifier
  if ← accept (.op "(") then
    let _ ← arguments rec
  pure (.classDef name line decorators (← suite rec))

/-- A definition with its decorators. -/
def decorated : Parser Stmt := do
  let decorators ← many1 do
    op "@"
    let e ← namedExpression rec
    expect .newline
    pure e
  let line ← currentLine
  if ← accept (.keyword "class") then classDefinition rec line decorators
  else
    let _ ← accept (.keyword "async")
    word "def"
    functionDefinition rec line decorators

/-- A statement after `async`, which stands on `line`. -/
def asyncStatement (line : Nat) : Parser Stmt := do
  if ← accept (.keyword "def") then functionDefinition rec line []
  else if ← accept (.keyword "with") then withStatement rec
  else
    word "for"
    forStatement rec

/-- A `match` statement. -/
def matchStatement : Parser Stmt := do
  expect (.contextual "match")
  let (es, comma) ← commaList (starNamed rec)
  match es, comma with
  | [.starred _], false => failure
  | _, _ => pure ()
  op ":"
  expect .newline
  expect .indent
  let cases ← many1 do
    expect (.contextual "case")
    casePattern rec
    if ← accept (.keyword "if") then
      let _ ← namedExpression rec
    suite rec
  expect .dedent
  pure (.compound cases.flatten)

/-- A statement, or a line of simple ones. -/
def statement : Parser (List Stmt) := do
  let one (p : Parser Stmt) : Parser (List Stmt) := do pure [← p]
  let line ← currentLine
  match ← peek with
  | some (.keyword "def") => one do word "def"; functionDefinition rec line []
  | some (.keyword "class") => one do word "class"; classDefinition rec line []
  | some (.op "@") => one (decorated rec)
  | some (.keyword "async") => one do word "async"; asyncStatement rec line
  | some (.keyword "if") => one do
    word "if"
    let _ ← namedExpression rec
    let body ← suite rec
    pure (.compound (body ++ (← elifSuites rec)))
  | some (.keyword "while") => one do
    word "while"
    let _ ← namedExpression rec
    let body ← suite rec
    pure (.compound (body ++ (← elseSuite rec)))
  | some (.keyword "for") => one do word "for"; forStatement rec
  | some (.keyword "with") => one do word "with"; withStatement rec
  | some (.keyword "try") => one do word "try"; tryStatement rec
  | some (.contextual "match") => one (matchStatement rec) <|> simpleLine rec
  | _ => simpleLine rec

/-! ## Tying the recursion -/

/-- The phrases, each by its rule. -/
def rules : Phrases
  | .expression => expression rec
  | .disjunction => disjunction rec
  | .inversion => inversion rec
  | .bitOr => bitOr rec
  | .factor => factor rec
  | .primary => primary rec
  | .pattern => pattern rec
  | .statement => statement rec

/-- The phrases, nested at most `depth` levels deep. -/
def phrases : (depth : Nat) → Phrases
  | 0, _ => failure
  | depth + 1, p => rules (phrases depth) p

end Grammar

/-- The statements of a module, or `none` if the text is not one. Two levels of nesting read at
least one character, so the depth suffices for every text. -/
def parseModule (source : Text) : Option (List Stmt) := do
  let tokens ← lex source
  let (body, rest) ← (Grammar.many (Grammar.phrases (4 * source.length + 16) .statement)).run tokens
  guard rest.isEmpty
  pure body.flatten

end DocLint.Syntax
