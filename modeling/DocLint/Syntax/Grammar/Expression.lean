import DocLint.Syntax.Grammar.Parameters
import DocLint.Syntax.Lexer
import DocLint.Syntax.Literal
import DocLint.Text.Named

/-!
DocLint.Syntax.Grammar.Expression: expressions.

One function per level of binding strength, from atoms up to conditionals and lambdas. A level calls
the levels below it directly and goes through `rec` wherever an expression stands inside another, so
the recursion is tied once, in `DocLint.Syntax.Grammar.Statement`.
-/

namespace DocLint.Syntax.Grammar

variable (rec : Phrases)

/-! ## Lists of expressions -/

/-- `name := value`, or an expression. -/
def namedExpression : Parser Expr := do
  if ← atNameThen ":=" then
    let name ← identifier
    op ":="
    pure (.assign name (← rec .expression))
  else
    let e ← rec .expression
    notOps [":="]
    pure e

/-- An element of a display: `*e`, `name := value` or an expression. -/
def starNamed : Parser Expr := do
  if ← accept (.op "*") then .starred <$> rec .bitOr else namedExpression rec

/-- An element of a tuple without parentheses. -/
def starExpression : Parser Expr := do
  if ← accept (.op "*") then .starred <$> rec .bitOr else rec .expression

/-- A tuple if there was a comma, and the only element otherwise. -/
def tupleOr (es : List Expr) (comma : Bool) : Expr :=
  match es, comma with
  | [e], false => e
  | _, _ => .tuple es

/-- Expressions with commas between them. -/
def starExpressions : Parser Expr := do
  let (es, comma) ← commaList (starExpression rec)
  pure (tupleOr es comma)

/-- `yield`, `yield es` or `yield from e`. -/
def yieldExpression : Parser Expr := do
  word "yield"
  if ← accept (.keyword "from") then .yieldFrom <$> rec .expression
  else .yield <$> optional (starExpressions rec)

/-- A `yield` expression or else what `p` reads. -/
def yieldOr (p : Parser Expr) : Parser Expr := do
  if ← at? (.keyword "yield") then yieldExpression rec else p

/-! ## Targets -/

/-- Whether an expression may stand before an annotation or an augmented assignment. -/
def isSingleTarget : Expr → Bool
  | .name _ => true
  | .attribute _ _ => true
  | .subscript _ _ => true
  | _ => false

mutual

/-- Whether an expression may be assigned to; the elements of tuples and lists may be starred. -/
def isTarget : Expr → Bool
  | .tuple es => areTargets es
  | .list es => areTargets es
  | e => isSingleTarget e

/-- Whether expressions may be the elements of a target. -/
def areTargets : List Expr → Bool
  | [] => true
  | .starred e :: es => isTarget e && areTargets es
  | e :: es => isTarget e && areTargets es

end

/-- Whether an expression may be an element of a target list. -/
def isStarTarget : Expr → Bool
  | .starred e => isTarget e
  | e => isTarget e

mutual

/-- Whether an expression may be deleted. -/
def isDeletable : Expr → Bool
  | .tuple es => areDeletable es
  | .list es => areDeletable es
  | e => isSingleTarget e

/-- Whether expressions may all be deleted. -/
def areDeletable : List Expr → Bool
  | [] => true
  | e :: es => isDeletable e && areDeletable es

end

/-- One target that may be starred. -/
def starTarget : Parser Expr := do
  let e ← if ← accept (.op "*") then .starred <$> rec .primary else rec .primary
  if isStarTarget e then pure e else failure

/-- The targets of a loop. -/
def starTargets : Parser Expr := do
  let (es, comma) ← commaList (starTarget rec)
  pure (tupleOr es comma)

/-! ## Comprehensions -/

/-- Whether a comprehension clause comes next. -/
def atClause : Parser Bool := do
  pure ((← at? (.keyword "for")) || (← at? (.keyword "async")))

/-- One clause of a comprehension. -/
def clause : Parser Expr := do
  let isAsync ← accept (.keyword "async")
  word "for"
  let target ← starTargets rec
  word "in"
  let source ← rec .disjunction
  let conditions ← many (do word "if"; rec .disjunction)
  pure (.clause isAsync target source conditions)

/-- The comprehension of an element, whose clauses come next. -/
def comprehension (bracket : Bracket) (element : Expr) : Parser Expr := do
  match element with
  | .starred _ => failure
  | _ => pure (.comprehension bracket element (← many1 (clause rec)))

/-! ## Atoms -/

/-- The expression of a replacement field of a formatted string, read as if in parentheses. -/
def readField : FieldReader := fun source => do
  let blank (c : Char) : Bool := c == ' ' || c == '\t' || c == '\n' || c == '\x0c'
  guard (!source.all blank)
  let tokens ← lex ('(' :: source ++ [')'])
  let (e, _) ← (starExpressions rec).run tokens
  pure e

/-- Adjacent string literals. -/
def strings : Parser Expr := do
  let literals ← many1 (token fun
    | .string mark body => some (mark, body)
    | _ => none)
  literalValue DocLint.Text.charNamed? (readField rec) literals

/-- A tuple, a generator or an expression in parentheses, after the opening one. -/
def parenthesized : Parser Expr := do
  if ← accept (.op ")") then return .tuple []
  if ← at? (.keyword "yield") then
    let e ← yieldExpression rec
    op ")"
    return e
  let first ← starNamed rec
  if ← atClause then
    let e ← comprehension rec .round first
    op ")"
    return e
  if ← accept (.op ",") then
    let rest ← if ← at? (.op ")") then pure [] else Prod.fst <$> commaList (starNamed rec)
    op ")"
    return .tuple (first :: rest)
  op ")"
  match first with
  | .starred _ => failure
  | e => pure e

/-- A list or a list comprehension, after the opening bracket. -/
def bracketed : Parser Expr := do
  if ← accept (.op "]") then return .list []
  let first ← starNamed rec
  if ← atClause then
    let e ← comprehension rec .square first
    op "]"
    return e
  let rest ← many (do op ","; starNamed rec)
  let _ ← accept (.op ",")
  op "]"
  pure (.list (first :: rest))

/-- `key: value` or `**mapping`. -/
def dictEntry : Parser Expr := do
  if ← accept (.op "**") then .spread <$> rec .bitOr
  else
    let key ← rec .expression
    op ":"
    pure (.entry key (← rec .expression))

/-- The entries of a dictionary after the first one, and the closing brace. -/
def dictRest (first : Expr) : Parser Expr := do
  let rest ← many (do op ","; dictEntry rec)
  let _ ← accept (.op ",")
  op "\x7d"
  pure (.dict (first :: rest))

/-- A dictionary, a set or a comprehension of one, after the opening brace. -/
def braced : Parser Expr := do
  if ← accept (.op "\x7d") then return .dict []
  if ← at? (.op "**") then return ← dictRest rec (← dictEntry rec)
  let assigned ← atNameThen ":="
  let first ← starNamed rec
  let starred := match first with
    | .starred _ => true
    | _ => false
  if ← atClause then
    let e ← comprehension rec .curly first
    op "\x7d"
    return e
  if !assigned && !starred then
    if ← accept (.op ":") then
      let entry := Expr.entry first (← rec .expression)
      if ← atClause then
        let e ← comprehension rec .curly entry
        op "\x7d"
        return e
      return ← dictRest rec entry
  let rest ← many (do op ","; starNamed rec)
  let _ ← accept (.op ",")
  op "\x7d"
  pure (.set (first :: rest))

/-- An atom. -/
def atom : Parser Expr := do
  match ← peek with
  | some (.name _) => .name <$> identifier
  | some (.contextual _) => .name <$> identifier
  | some (.number _) =>
    .constant <$> token fun
      | .number value => some value
      | _ => none
  | some (.string _ _) => strings rec
  | some (.keyword "True") => word "True"; pure (.constant (.bool true))
  | some (.keyword "False") => word "False"; pure (.constant (.bool false))
  | some (.keyword "None") => word "None"; pure (.constant .none)
  | some (.op "...") => op "..."; pure (.constant .ellipsis)
  | some (.op "(") => op "("; parenthesized rec
  | some (.op "[") => op "["; bracketed rec
  | some (.op "\x7b") => op "\x7b"; braced rec
  | _ => failure

/-! ## Calls, subscripts and attributes -/

/-- One argument of a call. -/
def argument : Parser Expr := do
  if ← accept (.op "**") then .spread <$> rec .expression
  else if ← accept (.op "*") then .starred <$> rec .expression
  else if ← atNameThen "=" then
    let name ← identifier
    op "="
    pure (.named name (← rec .expression))
  else
    let e ← namedExpression rec
    notOps ["="]
    pure e

/-- How late an argument may stand: positional ones first, then named ones, then spread ones;
starred ones may stand among the first two. -/
def argumentRank : Expr → Nat
  | .spread _ => 2
  | .named _ _ => 1
  | _ => 0

/-- Whether arguments stand in an admissible order, after one of rank `seen`. -/
def argumentsOrdered (seen : Nat) : List Expr → Bool
  | [] => true
  | .starred _ :: rest => seen < 2 && argumentsOrdered seen rest
  | .named _ _ :: rest => argumentsOrdered (max seen 1) rest
  | .spread _ :: rest => argumentsOrdered 2 rest
  | _ :: rest => seen == 0 && argumentsOrdered seen rest

/-- The arguments of a call after the first one, and the closing parenthesis; positional ones come
first in the result. -/
def argumentsRest (first : Expr) : Parser (List Expr) := do
  let rest ← many (do op ","; argument rec)
  let _ ← accept (.op ",")
  op ")"
  let args := first :: rest
  if argumentsOrdered 0 args then
    pure (args.filter (argumentRank · == 0) ++ args.filter (argumentRank · != 0))
  else failure

/-- The arguments of a class definition, after the opening parenthesis. -/
def arguments : Parser (List Expr) := do
  if ← accept (.op ")") then pure [] else argumentsRest rec (← argument rec)

/-- The arguments of a call, after the opening parenthesis; a generator may be the only one. -/
def callArguments : Parser (List Expr) := do
  if ← accept (.op ")") then return []
  let first ← argument rec
  if ← atClause then
    match first with
    | .spread _ => failure
    | .named _ _ => failure
    | _ =>
      let e ← comprehension rec .round first
      op ")"
      pure [e]
  else argumentsRest rec first

/-- One part of a subscript: a slice, or an expression. -/
def sliceItem : Parser Expr := do
  if ← accept (.op "*") then return .starred (← rec .expression)
  let assigned ← atNameThen ":="
  let lower ← if ← at? (.op ":") then pure none else some <$> namedExpression rec
  let bound : Parser (Option Expr) := do
    if ← atOps [":", ",", "]"] then pure none else some <$> rec .expression
  match lower with
  | some e =>
    if assigned then return e
    if !(← at? (.op ":")) then return e
  | none => pure ()
  op ":"
  let upper ← bound
  let step ← if ← accept (.op ":") then bound else pure none
  pure (.slice lower upper step)

/-- What stands between the brackets of a subscript. -/
def slices : Parser Expr := do
  let (items, comma) ← commaList (sliceItem rec)
  match items, comma with
  | [.starred e], false => pure (.tuple [.starred e])
  | items, comma => pure (tupleOr items comma)

/-- One attribute, call or subscript after a primary expression. -/
def trailer : Parser (Expr → Expr) := do
  match ← peek with
  | some (.op ".") =>
    op "."
    let name ← identifier
    pure (.attribute · name)
  | some (.op "(") =>
    op "("
    let args ← callArguments rec
    pure (.call · args)
  | some (.op "[") =>
    op "["
    let index ← slices rec
    op "]"
    pure (.subscript · index)
  | _ => failure

/-- An atom with attributes, calls and subscripts after it. -/
def primary : Parser Expr := do
  let e ← atom rec
  let trailers ← many (trailer rec)
  pure (trailers.foldl (fun e f => f e) e)

/-! ## Operators -/

/-- A primary expression, or one that is awaited. -/
def awaited : Parser Expr := do
  if ← accept (.keyword "await") then .await <$> primary rec else primary rec

/-- A power; its right operand binds as a factor. -/
def power : Parser Expr := do
  let e ← awaited rec
  if ← accept (.op "**") then .binary .pow e <$> rec .factor else pure e

/-- A signed or inverted factor. -/
def factor : Parser Expr := do
  match ← peek with
  | some (.op "+") => op "+"; .unary .plus <$> rec .factor
  | some (.op "-") => op "-"; .unary .minus <$> rec .factor
  | some (.op "~") => op "~"; .unary .invert <$> rec .factor
  | _ => power rec

/-- Operands joined from the left by the operators of one level. -/
def leftChain (table : List (String × BinaryOp)) (operand : Parser Expr) : Parser Expr := do
  let first ← operand
  let rest ← many do
    let o ← token fun
      | .op s => table.lookup s
      | _ => none
    pure (o, ← operand)
  pure (rest.foldl (fun e (o, e') => .binary o e e') first)

/-- Products. -/
def term : Parser Expr :=
  leftChain [("*", .mul), ("/", .div), ("//", .floorDiv), ("%", .mod), ("@", .matMul)] (factor rec)

/-- Sums. -/
def sum : Parser Expr := leftChain [("+", .add), ("-", .sub)] (term rec)

/-- Shifts. -/
def shift : Parser Expr := leftChain [("<<", .shiftLeft), (">>", .shiftRight)] (sum rec)

/-- Bitwise conjunctions. -/
def bitAnd : Parser Expr := leftChain [("&", .bitAnd)] (shift rec)

/-- Bitwise exclusive disjunctions. -/
def bitXor : Parser Expr := leftChain [("^", .bitXor)] (bitAnd rec)

/-- Bitwise disjunctions. -/
def bitOr : Parser Expr := leftChain [("|", .bitOr)] (bitXor rec)

/-- A comparison operator. -/
def comparisonOp : Parser String := do
  match ← peek with
  | some (.keyword "in") => word "in"; pure "in"
  | some (.keyword "not") => word "not"; word "in"; pure "not in"
  | some (.keyword "is") =>
    word "is"
    if ← accept (.keyword "not") then pure "is not" else pure "is"
  | _ => oneOf ["==", "!=", "<=", "<", ">=", ">"]

/-- Comparisons. -/
def comparison : Parser Expr := do
  let first ← bitOr rec
  let rest ← many do
    let o ← comparisonOp
    pure (o, ← bitOr rec)
  if rest.isEmpty then pure first
  else pure (.comparison first (rest.map (·.1)) (rest.map (·.2)))

/-- Negations. -/
def inversion : Parser Expr := do
  if ← accept (.keyword "not") then .unary .not <$> rec .inversion else comparison rec

/-- Operands with a reserved word between them. -/
def wordChain (w : String) (join : List Expr → Expr) (operand : Parser Expr) : Parser Expr := do
  let es ← sepBy1 operand (word w)
  match es with
  | [e] => pure e
  | es => pure (join es)

/-- Conjunctions. -/
def conjunction : Parser Expr := wordChain "and" .conjunction (inversion rec)

/-- Disjunctions. -/
def disjunction : Parser Expr := wordChain "or" .disjunction (conjunction rec)

/-- A lambda, a conditional or a disjunction. -/
def expression : Parser Expr := do
  if ← accept (.keyword "lambda") then
    let ps ← parameters rec false ":"
    op ":"
    return .lambda (lambdaParams ps) (← rec .expression)
  let body ← disjunction rec
  if ← accept (.keyword "if") then
    let test ← disjunction rec
    word "else"
    pure (.conditional body test (← rec .expression))
  else pure body

end DocLint.Syntax.Grammar
