import DocLint.Syntax.Grammar.Basic

/-!
DocLint.Syntax.Grammar.Parameters: parameter lists of functions and lambdas.

A list is read item by item and then arranged: a slash comes after at least one parameter and before
any star, defaults reach up to the star, a bare star is followed by a name, and nothing follows the
double star.
-/

namespace DocLint.Syntax.Grammar

/-- One item of a parameter list. -/
inductive Formal where
  /-- `/`. -/
  | slash
  /-- `*` alone. -/
  | star
  /-- `*name`. -/
  | vararg (p : Parameter)
  /-- `**name`. -/
  | kwarg (p : Parameter)
  /-- `name`, perhaps with a default. -/
  | plain (p : Parameter)

/-- The parameter of a plain item. -/
def Formal.plain? : Formal → Option Parameter
  | .plain p => some p
  | _ => none

/-- The longest run of plain items in front. -/
def leadingPlain : List Formal → List Parameter × List Formal
  | .plain p :: rest =>
    let (ps, rest) := leadingPlain rest
    (p :: ps, rest)
  | rest => ([], rest)

/-- Whether all parameters after the first one with a default have one. -/
def defaultsTrail (ps : List Parameter) : Bool :=
  (ps.dropWhile (·.default.isNone)).all (·.default.isSome)

/-- Arranges what follows the positional parameters. -/
def arrangeRest (ps : Parameters) : List Formal → Option Parameters
  | [] => some ps
  | [.kwarg k] => some { ps with kwarg := k }
  | .star :: .plain p :: rest =>
    match leadingPlain (.plain p :: rest) with
    | (kwOnly, []) => some { ps with kwOnly }
    | (kwOnly, [.kwarg k]) => some { ps with kwOnly, kwarg := k }
    | _ => none
  | .vararg v :: rest =>
    match leadingPlain rest with
    | (kwOnly, []) => some { ps with vararg := v, kwOnly }
    | (kwOnly, [.kwarg k]) => some { ps with vararg := v, kwOnly, kwarg := k }
    | _ => none
  | _ => none

/-- Arranges the items of a parameter list, if they stand in an admissible order. -/
def arrange (items : List Formal) : Option Parameters :=
  match leadingPlain items with
  | ([], .slash :: _) => none
  | (posOnly, .slash :: rest) =>
    let (plain, rest) := leadingPlain rest
    if defaultsTrail (posOnly ++ plain) then arrangeRest { posOnly, plain } rest else none
  | (plain, rest) => if defaultsTrail plain then arrangeRest { plain } rest else none

variable (rec : Phrases)

/-- A default value, if there is one. -/
def defaultValue : Parser (Option Expr) := do
  if ← accept (.op "=") then some <$> rec .expression else pure none

/-- An annotation, if there is one; that of a star parameter may be starred itself. -/
def annotation (starred : Bool) : Parser (Option Expr) := do
  if ← accept (.op ":") then
    if starred then
      if ← accept (.op "*") then return some (.starred (← rec .bitOr))
    some <$> rec .expression
  else pure none

/-- One item of a parameter list; only those of functions have annotations. -/
def formal (annotated : Bool) : Parser Formal := do
  let typed (starred : Bool) : Parser (Option Expr) :=
    if annotated then annotation rec starred else pure none
  if ← accept (.op "/") then pure .slash
  else if ← accept (.op "**") then
    let name ← identifier
    pure (.kwarg { name, annotation := ← typed false })
  else if ← accept (.op "*") then
    if ← atName then
      let name ← identifier
      pure (.vararg { name, annotation := ← typed true })
    else pure .star
  else
    let name ← identifier
    let annotation ← typed false
    pure (.plain { name, annotation, default := ← defaultValue rec })

/-- A parameter list up to the token `close`, which stays unread. -/
def parameters (annotated : Bool) (close : String) : Parser Parameters := do
  if ← at? (.op close) then pure {}
  else
    let (items, _) ← commaList (formal rec annotated)
    if ← at? (.op close) then arrange items else failure

/-- The parameters of a lambda, as the printer writes them. -/
def lambdaParams (ps : Parameters) : List Expr :=
  let one (mark : String) (p : Parameter) : Expr := .param mark p.name p.default
  let slash := if ps.posOnly.isEmpty then [] else [Expr.param "/" "" none]
  let star := match ps.vararg with
    | some v => [one "*" v]
    | none => if ps.kwOnly.isEmpty then [] else [Expr.param "*" "" none]
  ps.posOnly.map (one "") ++ slash ++ ps.plain.map (one "") ++ star ++ ps.kwOnly.map (one "") ++
    (ps.kwarg.map (one "**")).toList

end DocLint.Syntax.Grammar
