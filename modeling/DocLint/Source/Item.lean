import DocLint.Entries
import DocLint.Syntax.Expr

/-!
DocLint.Source.Item: the functions, methods and classes that are checked.

A `Signature` is what a checker sees of a parameter list: names, the text of annotations, and default
values, which are kept apart from the parameters they belong to. `params`, `types` and `defaulted` leave
out `self` and `cls`.
-/

namespace DocLint

/-- What an item is. -/
inductive ItemKind where
  | function | method | classItem
  deriving DecidableEq, Repr

/-- The word for an item in messages. -/
def ItemKind.label : ItemKind → String
  | .function => "function"
  | .method => "method"
  | .classItem => "class"

/-- A parameter. -/
structure Param where
  /-- Its name. -/
  name : String
  /-- The text of its annotation. -/
  annotation : Option String := none
  /-- Whether its annotation cannot be written as text, and stands empty. -/
  unwritten : Bool := false
  deriving DecidableEq, Repr

/-- The parameters of a function. Default values stand in lists of their own: those of parameters that may
be given by position belong to the last of them, and each parameter that is given by name only has a place
for one. -/
structure Signature where
  /-- Those that are given by position only. -/
  posOnly : List Param := []
  /-- Those that may be given by position or by name. -/
  plain : List Param := []
  /-- The one that takes the remaining positional arguments. -/
  vararg : Option Param := none
  /-- Those that are given by name only. -/
  kwOnly : List Param := []
  /-- The one that takes the remaining named arguments. -/
  kwarg : Option Param := none
  /-- The default values of the last parameters that may be given by position. -/
  defaults : List Syntax.Expr := []
  /-- The default values of the parameters that are given by name only, where they have one. -/
  kwDefaults : List (Option Syntax.Expr) := kwOnly.map fun _ => none
  /-- There are no more default values than parameters by position, and every parameter that is given by name only
  has its place. -/
  legal : defaults.length ≤ (posOnly ++ plain).length ∧ kwDefaults.length = kwOnly.length := by
    exact ⟨Nat.le_of_ble_eq_true rfl, rfl⟩

/-- No parameters. -/
instance : Inhabited Signature where
  default := {}

/-- A function, a method or a class. -/
structure Item where
  /-- What it is. -/
  kind : ItemKind
  /-- Its name. -/
  name : String
  /-- The line of its definition. -/
  line : Int
  /-- The innermost class around it, for functions. -/
  parent : Option String := none
  /-- Its parameters; a class has none. -/
  signature : Option Signature := none
  /-- Its docstring, without the indentation of the source. -/
  docstring : Option String := none

namespace Signature

/-- The names by which methods refer to their object or class. -/
def isReceiver (name : String) : Bool :=
  name == "self" || name == "cls"

/-- Parameters other than the receiver. -/
def documented (ps : List Param) : List Param :=
  ps.filter (!isReceiver ·.name)

/-- All parameters that a docstring has to describe, in order. -/
def described (s : Signature) : List Param :=
  documented s.posOnly ++ documented s.plain ++ s.vararg.toList ++ documented s.kwOnly ++
    s.kwarg.toList

/-- The names of the parameters that a docstring has to describe. -/
def params (s : Signature) : List String :=
  s.described.map (·.name)

/-- The annotations by parameter. -/
def types (s : Signature) : Entries String String :=
  Entries.ofPairs (s.described.filterMap fun p => p.annotation.map (p.name, ·))

/-- Whether the annotations that `types` gives cannot all be written. -/
def hasUnwritten (s : Signature) : Bool :=
  s.described.any (·.unwritten)

/-- The parameters that may be given by position. -/
def positional (s : Signature) : List Param :=
  s.posOnly ++ s.plain

/-- The parameters at the positions to which the default values reach back from the end, and those with a
default value at their own place. -/
def defaulted (s : Signature) : List String :=
  let start := s.positional.length - s.defaults.length
  let byPosition := (List.range' start (s.positional.length - start)).filterMap fun i =>
    (s.positional[i]?.map (·.name)).filter (!isReceiver ·)
  let byName := s.kwOnly.zipIdx.filterMap fun (p, i) =>
    if s.kwDefaults[i]?.join.isSome then some p.name else none
  byPosition ++ byName

end Signature

/-- Whether an item is a function or a method. -/
def Item.isFunction (i : Item) : Bool :=
  i.signature.isSome

end DocLint
