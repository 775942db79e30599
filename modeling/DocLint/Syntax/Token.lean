import DocLint.Syntax.Expr

/-!
DocLint.Syntax.Token: the tokens of Python source code.
-/

namespace DocLint.Syntax

/-- How a string literal is marked. -/
structure StringMark where
  /-- `b`: a byte string. -/
  bytes : Bool := false
  /-- `r`: backslashes stand for themselves. -/
  raw : Bool := false
  /-- A small `u`, which the printer writes back. -/
  unicode : Bool := false
  /-- `f`: a formatted string. -/
  format : Bool := false
  deriving DecidableEq, Repr

/-- What a token is. -/
inductive TokenKind where
  /-- An identifier that is no keyword. -/
  | name (id : String)
  /-- A reserved word. -/
  | keyword (word : String)
  /-- A word that opens a statement or a part of one, and is an identifier elsewhere. -/
  | contextual (word : String)
  /-- A number. -/
  | number (value : Constant)
  /-- A string literal: its mark and what stands between its quotes. -/
  | string (mark : StringMark) (body : List Char)
  /-- An operator or a delimiter. -/
  | op (symbol : String)
  /-- The end of a logical line. -/
  | newline
  /-- A line that is indented deeper than the one before. -/
  | indent
  /-- The end of an indented block. -/
  | dedent
  deriving DecidableEq, Repr

/-- The identifier that a token may be read as. -/
def TokenKind.name? : TokenKind → Option String
  | .name id => some id
  | .contextual word => some word
  | _ => none

/-- A token and the line on which it starts. -/
structure Token where
  /-- What the token is. -/
  kind : TokenKind
  /-- The line, counted from one. -/
  line : Nat
  deriving DecidableEq, Repr

/-- The reserved words. -/
def keywords : List String := [
  "False", "None", "True", "and", "as", "assert", "async", "await", "break", "class", "continue",
  "def", "del", "elif", "else", "except", "finally", "for", "from", "global", "if", "import", "in",
  "is", "lambda", "nonlocal", "not", "or", "pass", "raise", "return", "try", "while", "with",
  "yield"]

/-- The words that are reserved only where a statement or a part of one may start. -/
def contextualWords : List String := ["match", "case"]

end DocLint.Syntax
