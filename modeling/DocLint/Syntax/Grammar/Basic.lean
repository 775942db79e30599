import DocLint.Syntax.Tree
import DocLint.Syntax.Token

/-!
DocLint.Syntax.Grammar.Basic: parsers of token lists.

A parser reads tokens from the front of a list and answers `none` where they do not fit; a choice
goes back to where it started. Repetition is bounded by the number of tokens left, so every parser
is total.
-/

namespace DocLint.Syntax.Grammar

/-- A parser of token lists. -/
abbrev Parser := StateT (List Token) Option

/-- The kinds of the phrases of the grammar that contain one another. -/
inductive Phrase where
  /-- An expression without a top-level assignment, star or comma. -/
  | expression
  /-- An expression without a conditional or a lambda at its top. -/
  | disjunction
  /-- Operands of `not`. -/
  | inversion
  /-- Operands of comparisons. -/
  | bitOr
  /-- Operands of products. -/
  | factor
  /-- An atom with attributes, subscripts and calls after it. -/
  | primary
  /-- A pattern of a `case`. -/
  | pattern
  /-- A statement, or a line of several simple statements. -/
  | statement
  deriving DecidableEq

/-- What a phrase is read as. -/
abbrev Phrase.Tree : Phrase → Type
  | .pattern => Unit
  | .statement => List Stmt
  | _ => Expr

/-- Parsers for all phrases. -/
abbrev Phrases := (p : Phrase) → Parser p.Tree

/-! ## Single tokens -/

/-- The kind of the next token. -/
def peek : Parser (Option TokenKind) := do
  pure ((← get).head?.map (·.kind))

/-- Reads a token for which `f` gives a value. -/
def token (f : TokenKind → Option α) : Parser α := fun ts =>
  match ts with
  | [] => none
  | t :: rest => (f t.kind).map (·, rest)

/-- Whether the next token is of kind `k`. -/
def at? (k : TokenKind) : Parser Bool := do
  pure ((← peek) == some k)

/-- Reads a token of kind `k`. -/
def expect (k : TokenKind) : Parser Unit :=
  token fun t => if t == k then some () else none

/-- Reads a token of kind `k` if it comes next, and tells whether it did. -/
def accept (k : TokenKind) : Parser Bool := do
  if ← at? k then
    expect k
    pure true
  else pure false

/-- Reads an operator. -/
def op (symbol : String) : Parser Unit := expect (.op symbol)

/-- Reads a reserved word. -/
def word (w : String) : Parser Unit := expect (.keyword w)

/-- Reads a name. -/
def identifier : Parser String := token TokenKind.name?

/-- Whether the next token is a name. -/
def atName : Parser Bool := do
  pure ((← peek).bind TokenKind.name?).isSome

/-- Whether the two next tokens are a name and the operator `symbol`. -/
def atNameThen (symbol : String) : Parser Bool := do
  match ← get with
  | t :: ⟨.op s, _⟩ :: _ => pure (t.kind.name?.isSome && s == symbol)
  | _ => pure false

/-- Whether the next token is one of the operators. -/
def atOps (symbols : List String) : Parser Bool := do
  match ← peek with
  | some (.op s) => pure (symbols.contains s)
  | _ => pure false

/-- Reads one of the operators. -/
def oneOf (symbols : List String) : Parser String :=
  token fun
    | .op s => if symbols.contains s then some s else none
    | _ => none

/-- The line of the next token. -/
def currentLine : Parser Nat := do
  match (← get).head? with
  | some t => pure t.line
  | none => failure

/-! ## Repetition and choice -/

/-- Reads as often as possible, at most once for each of the tokens given. -/
def upTo (p : Parser α) : List Token → Parser (List α)
  | [] => pure []
  | _ :: ts => (do
      let a ← p
      let as ← upTo p ts
      pure (a :: as)) <|> pure []

/-- Reads as often as possible. -/
def many (p : Parser α) : Parser (List α) := do
  upTo p (← get)

/-- Reads as often as possible, at least once. -/
def many1 (p : Parser α) : Parser (List α) := do
  let a ← p
  pure (a :: (← many p))

/-- Reads if possible. -/
def optional (p : Parser α) : Parser (Option α) :=
  (some <$> p) <|> pure none

/-- Reads one or more with `sep` between them; a further separator is left unread. -/
def sepBy1 (p : Parser α) (sep : Parser Unit) : Parser (List α) := do
  let a ← p
  pure (a :: (← many (do sep; p)))

/-- Reads one or more with commas between them, and tells whether a comma follows the last. -/
def commaList (p : Parser α) : Parser (List α × Bool) := do
  let as ← sepBy1 p (op ",")
  pure (as, ← accept (.op ","))

/-- Fails if the next token is one of the operators. -/
def notOps (symbols : List String) : Parser Unit := do
  if ← atOps symbols then failure

end DocLint.Syntax.Grammar
