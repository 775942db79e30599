import DocLint.Number.Double

/-!
DocLint.Syntax.Expr: expressions of Python source code.

The tree keeps what the printer of `DocLint.Syntax.Printer` writes back and what the checker looks
at: annotations, decorators and docstrings. Parentheses and layout are not kept.
-/

namespace DocLint.Syntax

open DocLint.Number (Double)

/-- Literals and the named constants. -/
inductive Constant where
  /-- `None`. -/
  | none
  /-- `True` or `False`. -/
  | bool (value : Bool)
  /-- `...`. -/
  | ellipsis
  /-- A whole number. -/
  | int (value : Nat)
  /-- A floating-point number. -/
  | float (value : Double)
  /-- An imaginary number. -/
  | imaginary (value : Double)
  /-- A text, and whether its first literal is marked with `u`. -/
  | text (value : String) (marked : Bool)
  /-- A byte string. -/
  | bytes (value : List UInt8)
  deriving DecidableEq, Repr, Inhabited

/-- Operators that join two operands. -/
inductive BinaryOp where
  | add | sub | mul | matMul | div | mod | floorDiv | shiftLeft | shiftRight
  | bitOr | bitXor | bitAnd | pow
  deriving DecidableEq, Repr

/-- Operators in front of one operand. -/
inductive UnaryOp where
  | invert | not | plus | minus
  deriving DecidableEq, Repr

/-- The brackets around a comprehension. -/
inductive Bracket where
  | round | square | curly
  deriving DecidableEq, Repr

/-- Expressions. Arguments, dictionary entries, lambda parameters and comprehension clauses stand as
expressions of their own in the lists that hold them. -/
inductive Expr where
  /-- A name. -/
  | name (id : String)
  /-- A literal. -/
  | constant (value : Constant)
  /-- `base.attr`. -/
  | attribute (base : Expr) (attr : String)
  /-- `base[index]`. -/
  | subscript (base index : Expr)
  /-- `fn(args)`; positional arguments come before named and spread ones. -/
  | call (fn : Expr) (args : List Expr)
  /-- `name=value` in a call. -/
  | named (name : String) (value : Expr)
  /-- `**value` in a call or a dictionary. -/
  | spread (value : Expr)
  /-- `*value`. -/
  | starred (value : Expr)
  /-- `a and b and c`. -/
  | conjunction (operands : List Expr)
  /-- `a or b or c`. -/
  | disjunction (operands : List Expr)
  /-- `left op right`. -/
  | binary (op : BinaryOp) (left right : Expr)
  /-- `op operand`. -/
  | unary (op : UnaryOp) (operand : Expr)
  /-- `first op₁ e₁ op₂ e₂ …`. -/
  | comparison (first : Expr) (ops : List String) (rest : List Expr)
  /-- `body if test else other`. -/
  | conditional (body test other : Expr)
  /-- `lambda params: body`. -/
  | lambda (params : List Expr) (body : Expr)
  /-- A parameter of a lambda with the stars in front of it; a bare `*` or `/` has an empty name. -/
  | param (mark : String) (name : String) (default : Option Expr)
  /-- A tuple. -/
  | tuple (elems : List Expr)
  /-- A list. -/
  | list (elems : List Expr)
  /-- A set. -/
  | set (elems : List Expr)
  /-- A dictionary. -/
  | dict (entries : List Expr)
  /-- `key: value` in a dictionary. -/
  | entry (key value : Expr)
  /-- A comprehension or a generator. -/
  | comprehension (bracket : Bracket) (element : Expr) (clauses : List Expr)
  /-- `for target in source if c₁ if c₂ …`. -/
  | clause (isAsync : Bool) (target source : Expr) (conditions : List Expr)
  /-- `lower:upper:step`. -/
  | slice (lower upper step : Option Expr)
  /-- `await value`. -/
  | await (value : Expr)
  /-- `yield value`. -/
  | yield (value : Option Expr)
  /-- `yield from value`. -/
  | yieldFrom (value : Expr)
  /-- `target := value`. -/
  | assign (target : String) (value : Expr)
  /-- A formatted string: texts and replacement fields. -/
  | joined (parts : List Expr)
  /-- A replacement field of a formatted string. -/
  | field (value : Expr) (conversion : Option Char) (format : Option Expr)
  deriving Inhabited

end DocLint.Syntax
