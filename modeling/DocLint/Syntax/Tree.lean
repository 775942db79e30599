import DocLint.Syntax.Expr

/-!
DocLint.Syntax.Tree: statements, as far as the checker looks at them.

Functions and classes keep their name, their line, their decorators and their body. Every other
compound statement keeps the statements of its suites in source order, and of simple statements only
bare expressions are kept apart, because one of them may be a docstring.
-/

namespace DocLint.Syntax

/-- A parameter of a function. -/
structure Parameter where
  /-- Its name. -/
  name : String
  /-- Its annotation. -/
  annotation : Option Expr := none
  /-- Its default value. -/
  default : Option Expr := none

/-- The parameters of a function. -/
structure Parameters where
  /-- Those before a slash. -/
  posOnly : List Parameter := []
  /-- Those that may be given by position or by name. -/
  plain : List Parameter := []
  /-- The one that takes the remaining positional arguments. -/
  vararg : Option Parameter := none
  /-- Those after a star. -/
  kwOnly : List Parameter := []
  /-- The one that takes the remaining named arguments. -/
  kwarg : Option Parameter := none

/-- Statements. -/
inductive Stmt where
  /-- A function definition. -/
  | function (name : String) (line : Nat) (decorators : List Expr) (parameters : Parameters)
      (body : List Stmt)
  /-- A class definition. -/
  | classDef (name : String) (line : Nat) (decorators : List Expr) (body : List Stmt)
  /-- Another statement with suites. -/
  | compound (suites : List Stmt)
  /-- An expression that stands alone. -/
  | expression (value : Expr)
  /-- Any other statement. -/
  | simple

end DocLint.Syntax
