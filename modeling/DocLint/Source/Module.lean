import DocLint.Source.Item
import DocLint.Docstring.Clean
import DocLint.Syntax.Grammar.Statement
import DocLint.Syntax.Printer

/-!
DocLint.Source.Module: the items of a module.

The definitions of a module are visited in source order, outer ones first. A function inside a class,
at any depth, is a method of the innermost class around it. Private definitions are left out unless
asked for, and overloads of a function always are; what they contain is visited all the same.
-/

namespace DocLint.Source

open Syntax

/-- Whether a decorator marks an overload. -/
def isOverloadMark : Expr → Bool
  | .name id => id == "overload"
  | .attribute _ attr => attr == "overload"
  | _ => false

/-- The docstring of a body: the text that is its first statement. -/
def bodyDocstring : List Stmt → Option String
  | .expression (.constant (.text s _)) :: _ => some (String.ofList (Docstring.clean s.toList))
  | _ => none

/-- A parameter with its annotation as text. -/
def paramOf (p : Parameter) : Param :=
  { name := p.name
    annotation := p.annotation.map fun e => e.render?.getD ""
    unwritten := p.annotation.any (·.render?.isNone) }

/-- The signature of a parameter list. -/
def signatureOf (ps : Parameters) : Signature :=
  { posOnly := ps.posOnly.map paramOf
    plain := ps.plain.map paramOf
    vararg := ps.vararg.map paramOf
    kwOnly := ps.kwOnly.map paramOf
    kwarg := ps.kwarg.map paramOf
    defaults := (ps.posOnly ++ ps.plain).filterMap (·.default)
    kwDefaults := ps.kwOnly.map (·.default)
    legal := by
      rw [← List.map_append, List.length_map, List.length_map, List.length_map]
      exact ⟨List.length_filterMap_le _ _, rfl⟩ }

/-- The item of a function, inside the classes `outer`, innermost first. -/
def functionItem (outer : List String) (name : String) (line : Nat) (ps : Parameters)
    (body : List Stmt) : Item :=
  { kind := if outer.isEmpty then .function else .method
    name
    line
    parent := outer.head?
    signature := some (signatureOf ps)
    docstring := bodyDocstring body }

/-- The item of a class. -/
def classItem (name : String) (line : Nat) (body : List Stmt) : Item :=
  { kind := .classItem, name, line, docstring := bodyDocstring body }

/-- Whether a definition of this name is checked. -/
def isVisible (checkPrivate : Bool) (name : String) : Bool :=
  checkPrivate || !name.startsWith "_"

mutual

/-- The items of a statement, inside the classes `outer`, innermost first. -/
def itemsOf (checkPrivate : Bool) (outer : List String) : Stmt → List Item
  | .function name line decorators ps body =>
    let own := if isVisible checkPrivate name && !decorators.any isOverloadMark then
        [functionItem outer name line ps body] else []
    own ++ itemsOfAll checkPrivate outer body
  | .classDef name line _ body =>
    let own := if isVisible checkPrivate name then [classItem name line body] else []
    own ++ itemsOfAll checkPrivate (name :: outer) body
  | .compound suites => itemsOfAll checkPrivate outer suites
  | .expression _ => []
  | .simple => []

/-- The items of several statements. -/
def itemsOfAll (checkPrivate : Bool) (outer : List String) : List Stmt → List Item
  | [] => []
  | s :: ss => itemsOf checkPrivate outer s ++ itemsOfAll checkPrivate outer ss

end

/-- The items of a module text, or `none` if it cannot be parsed. -/
def items (checkPrivate : Bool) (source : String) : Option (List Item) :=
  (parseModule source.toList).map (itemsOfAll checkPrivate [])

end DocLint.Source
