import DocLint.Syntax.Expr
import DocLint.Number.Shortest
import DocLint.Text.Basic
import DocLint.Text.Quoted

/-!
DocLint.Syntax.Printer: expressions as text.

Parentheses are written where an operand binds less tightly than its place asks for, names and
operators are separated by single blanks, and texts are quoted as in `DocLint.Text.Quoted`. Inside
the replacement fields of a formatted string no backslash may stand, so texts there choose their
quotes to do without; an expression for which that is not possible cannot be written.
-/

namespace DocLint.Syntax

open DocLint.Number (Double natText)
open DocLint.Text (startsWith endsWith contains quoted quotedBytes escapeCode isPrintable)

/-! ## Binding strengths -/

/-- How tightly a place of an expression binds. -/
inductive Level where
  | named | tuple | yield | test | or | and | not | comparison | bitOr | bitXor | bitAnd | shift
  | sum | term | factor | power | await | atom
  deriving DecidableEq, Repr

/-- The levels by number, the loosest first. -/
def Level.rank : Level → Nat
  | .named => 1 | .tuple => 2 | .yield => 3 | .test => 4 | .or => 5 | .and => 6 | .not => 7
  | .comparison => 8 | .bitOr => 9 | .bitXor => 10 | .bitAnd => 11 | .shift => 12 | .sum => 13
  | .term => 14 | .factor => 15 | .power => 16 | .await => 17 | .atom => 18

/-- The next tighter level. -/
def Level.next : Level → Level
  | .named => .tuple | .tuple => .yield | .yield => .test | .test => .or | .or => .and
  | .and => .not | .not => .comparison | .comparison => .bitOr | .bitOr => .bitXor
  | .bitXor => .bitAnd | .bitAnd => .shift | .shift => .sum | .sum => .term | .term => .factor
  | .factor => .power | .power => .await | .await => .atom | .atom => .atom

/-- The sign of a binary operator and its level. -/
def BinaryOp.sign : BinaryOp → String × Level
  | .add => ("+", .sum)
  | .sub => ("-", .sum)
  | .mul => ("*", .term)
  | .matMul => ("@", .term)
  | .div => ("/", .term)
  | .mod => ("%", .term)
  | .floorDiv => ("//", .term)
  | .shiftLeft => ("<<", .shift)
  | .shiftRight => (">>", .shift)
  | .bitOr => ("|", .bitOr)
  | .bitXor => ("^", .bitXor)
  | .bitAnd => ("&", .bitAnd)
  | .pow => ("**", .power)

/-- The sign of a unary operator and its level. -/
def UnaryOp.sign : UnaryOp → String × Level
  | .invert => ("~", .factor)
  | .not => ("not ", .not)
  | .plus => ("+", .factor)
  | .minus => ("-", .factor)

/-! ## Literals -/

/-- An infinite number, as a literal that is too large. -/
def infinityText : String := "1e309"

/-- A floating-point literal; `whole` follows a number without a fraction. -/
def floatText (whole : String) (x : Double) : String :=
  match x with
  | .infinite _ => infinityText
  | x => x.renderWith whole

/-- Quotes in the order in which they are tried. -/
def allQuotes : List Text := [['\''], ['"'], ['"', '"', '"'], ['\'', '\'', '\'']]

/-- A character of a text in a formatted string; newlines and tabs are escaped only on demand. -/
def formatChar (escapeBlanks : Bool) (c : Char) : Text :=
  if !escapeBlanks && (c == '\n' || c == '\t') then [c]
  else if c == '\\' then ['\\', '\\']
  else if isPrintable c then [c]
  else if c == '\n' then ['\\', 'n']
  else if c == '\t' then ['\\', 't']
  else if c == '\r' then ['\\', 'r']
  else escapeCode c

/-- A text and the quotes that may stand around it, with as few escapes as possible: quotes that
occur in the text are left out, and if none is left the text is quoted as in
`DocLint.Text.Quoted`. -/
def avoidEscapes (cs : Text) (quotes : List Text) (escapeBlanks : Bool) : Text × List Text :=
  let escaped := cs.flatMap (formatChar escapeBlanks)
  let possible := if escaped.elem '\n' then quotes.filter (·.length == 3) else quotes
  let possible := possible.filter (!contains escaped ·)
  match possible with
  | [] =>
    let whole := quoted cs
    let q := whole.take 1
    let quote := (quotes.find? (·.take 1 == q)).getD q
    ((whole.drop 1).dropLast, [quote])
  | _ =>
    match escaped.getLast? with
    | none => (escaped, possible)
    | some last =>
      let possible := possible.filter (·.head? != some last) ++
        possible.filter (·.head? == some last)
      if (possible.head?.bind List.head?) == some last then
        (escaped.dropLast ++ ['\\', last], possible)
      else (escaped, possible)

/-- A text inside a replacement field. -/
def plainQuoted (cs : Text) : Text :=
  let (body, quotes) := avoidEscapes cs allQuotes false
  let q := quotes.headD []
  q ++ body ++ q

/-- A literal; `nested` says whether it stands in a replacement field. -/
def Constant.render (nested : Bool) : Constant → String
  | .none => "None"
  | .bool b => if b then "True" else "False"
  | .ellipsis => "..."
  | .int n => natText n
  | .float x => floatText ".0" x
  | .imaginary x => floatText "" x ++ "j"
  | .text s marked =>
    let body := if nested then plainQuoted s.toList else quoted s.toList
    (if marked then "u" else "") ++ String.ofList body
  | .bytes bs => String.ofList (quotedBytes bs)

/-- Chooses quotes that fit all parts of a formatted string, given the text of each part and
whether it is literal; `none` if no quotes fit. -/
def joinParts (quotes : List Text) : List (Text × Bool) → Option (Text × List Text)
  | [] => some ([], quotes)
  | (part, literal) :: rest => do
    let (body, possible) := avoidEscapes part quotes literal
    guard (possible.any quotes.contains)
    let (more, quotes) ← joinParts possible rest
    pure (body ++ more, quotes)

/-- A formatted string of parts, quoted by three apostrophes if nothing else fits. -/
def joinedText (parts : List (Text × Bool)) : Text :=
  let (body, quote) := match joinParts allQuotes parts with
    | some (body, quotes) => (body, quotes.headD [])
    | none =>
      (parts.flatMap fun (part, _) => ((quoted ('"' :: part)).drop 2).dropLast, ['\'', '\'', '\''])
  quote ++ body ++ quote

/-- A literal part of a formatted string: braces are doubled. -/
def doubleBraces (s : String) : Text :=
  s.toList.flatMap fun c => if c == '\x7b' || c == '\x7d' then [c, c] else [c]

/-! ## Expressions -/

/-- Parentheses around a text, if asked for. -/
def parens (need : Bool) (s : String) : String :=
  if need then "(" ++ s ++ ")" else s

/-- Texts with commas between them; a single one is followed by a comma. -/
def commaText : List String → String
  | [s] => s ++ ","
  | ss => ", ".intercalate ss

/-- The levels of the operands of a chain of `and` or `or`, each one step tighter than the one
before. -/
def chainLevels (l : Level) : Nat → List Level
  | 0 => []
  | n + 1 => l.next :: chainLevels l.next n

mutual

/-- The text of an expression at a place of level `l`; `nested` says whether the place is in a
replacement field. An expression has no text if a replacement field in it needs a backslash. -/
def Expr.renderAt (nested : Bool) (l : Level) : Expr → Option String
  | .name id => some id
  | .constant c => some (c.render nested)
  | .attribute base attr => do
    let gap := match base with
      | .constant (.int _) => " "
      | .constant (.bool _) => " "
      | _ => ""
    pure ((← base.renderAt nested .atom) ++ gap ++ "." ++ attr)
  | .subscript base (.tuple (e :: es)) => do
    let inner := commaText ((← e.renderAt nested .test) :: (← renderAll nested es))
    pure ((← base.renderAt nested .atom) ++ "[" ++ inner ++ "]")
  | .subscript base index => do
    pure ((← base.renderAt nested .atom) ++ "[" ++ (← index.renderAt nested .test) ++ "]")
  | .call fn args => do
    pure ((← fn.renderAt nested .atom) ++ "(" ++ ", ".intercalate (← renderAll nested args) ++ ")")
  | .named name value => do
    pure (name ++ "=" ++ (← value.renderAt nested .test))
  | .spread value => do
    pure ("**" ++ (← value.renderAt nested (if l == .test then .test else .bitOr)))
  | .starred value => do
    pure ("*" ++ (← value.renderAt nested .bitOr))
  | .conjunction es => do
    let operands ← renderLevels nested (chainLevels .and es.length) es
    pure (parens (Level.rank .and < l.rank) (" and ".intercalate operands))
  | .disjunction es => do
    let operands ← renderLevels nested (chainLevels .or es.length) es
    pure (parens (Level.rank .or < l.rank) (" or ".intercalate operands))
  | .binary op left right => do
    let (sign, level) := op.sign
    let (leftLevel, rightLevel) := if op == .pow then (level.next, level) else (level, level.next)
    pure (parens (level.rank < l.rank)
      ((← left.renderAt nested leftLevel) ++ " " ++ sign ++ " " ++
        (← right.renderAt nested rightLevel)))
  | .unary op operand => do
    let (sign, level) := op.sign
    pure (parens (level.rank < l.rank) (sign ++ (← operand.renderAt nested level)))
  | .comparison first ops rest => do
    let operands ← renderLevels nested (rest.map fun _ => Level.bitOr) rest
    pure (parens (Level.rank .comparison < l.rank)
      ((← first.renderAt nested .bitOr) ++
        String.join ((ops.zip operands).map fun (o, e) => " " ++ o ++ " " ++ e)))
  | .conditional body test other => do
    pure (parens (Level.rank .test < l.rank)
      ((← body.renderAt nested .or) ++ " if " ++ (← test.renderAt nested .or) ++ " else " ++
        (← other.renderAt nested .test)))
  | .lambda params body => do
    let ps := ", ".intercalate (← renderAll nested params)
    pure (parens (Level.rank .test < l.rank)
      ("lambda" ++ (if ps.isEmpty then "" else " " ++ ps) ++ ": " ++
        (← body.renderAt nested .test)))
  | .param mark name value => do
    pure (mark ++ name ++ (← renderOptional nested .test "=" value))
  | .tuple es => do
    pure (parens (es.isEmpty || Level.rank .tuple < l.rank) (commaText (← renderAll nested es)))
  | .list es => do
    pure ("[" ++ ", ".intercalate (← renderAll nested es) ++ "]")
  | .set es => do
    pure ("\x7b" ++ ", ".intercalate (← renderAll nested es) ++ "\x7d")
  | .dict es => do
    let entries ← renderLevels nested (es.map fun _ => Level.bitOr) es
    pure ("\x7b" ++ ", ".intercalate entries ++ "\x7d")
  | .entry key value => do
    pure ((← key.renderAt nested .test) ++ ": " ++ (← value.renderAt nested .test))
  | .comprehension bracket element clauses => do
    let (opening, closing) := match bracket with
      | .round => ("(", ")")
      | .square => ("[", "]")
      | .curly => ("\x7b", "\x7d")
    pure (opening ++ (← element.renderAt nested .test) ++
      String.join (← renderAll nested clauses) ++ closing)
  | .clause isAsync target source conditions => do
    let conditions ← renderLevels nested (conditions.map fun _ => Level.or) conditions
    pure ((if isAsync then " async for " else " for ") ++ (← target.renderAt nested .tuple) ++
      " in " ++ (← source.renderAt nested .or) ++ String.join (conditions.map (" if " ++ ·)))
  | .slice lower upper step => do
    pure ((← renderOptional nested .test "" lower) ++ ":" ++
      (← renderOptional nested .test "" upper) ++ (← renderOptional nested .test ":" step))
  | .await value => do
    pure (parens (Level.rank .await < l.rank) ("await " ++ (← value.renderAt nested .atom)))
  | .yield value => do
    pure (parens (Level.rank .yield < l.rank)
      ("yield" ++ (← renderOptional nested .atom " " value)))
  | .yieldFrom value => do
    pure (parens (Level.rank .yield < l.rank) ("yield from " ++ (← value.renderAt nested .atom)))
  | .assign target value => do
    pure (parens (Level.rank .named < l.rank) (target ++ " := " ++ (← value.renderAt nested .atom)))
  | .joined parts => do
    let texts ← renderParts parts
    pure ("f" ++ String.ofList
      (if nested then plainQuoted (texts.flatMap (·.1)) else joinedText texts))
  | .field value conversion format => do
    let inner ← value.renderAt true .or
    let gap := if inner.startsWith "\x7b" then " " else ""
    let mark := match conversion with
      | some c => "!" ++ String.ofList [c]
      | none => ""
    let spec ← match format with
      | some (.joined parts) => do
        pure (":" ++ String.ofList ((← renderParts parts).flatMap (·.1)))
      | _ => pure ""
    if inner.toList.elem '\\' then none
    else pure ("\x7b" ++ gap ++ inner ++ mark ++ spec ++ "\x7d")

/-- The texts of expressions at places of the usual level. -/
def renderAll (nested : Bool) : List Expr → Option (List String)
  | [] => some []
  | e :: es => do
    pure ((← e.renderAt nested .test) :: (← renderAll nested es))

/-- The texts of expressions at places of given levels. -/
def renderLevels (nested : Bool) : List Level → List Expr → Option (List String)
  | l :: ls, e :: es => do
    pure ((← e.renderAt nested l) :: (← renderLevels nested ls es))
  | _, _ => some []

/-- The text of an expression that may be absent, with `before` in front of it. -/
def renderOptional (nested : Bool) (l : Level) (before : String) : Option Expr → Option String
  | none => some ""
  | some e => do
    pure (before ++ (← e.renderAt nested l))

/-- The texts of the parts of a formatted string, and whether each is literal. -/
def renderParts : List Expr → Option (List (Text × Bool))
  | [] => some []
  | .constant (.text s _) :: es => do
    pure ((doubleBraces s, true) :: (← renderParts es))
  | e :: es => do
    pure (((← e.renderAt false .test).toList, false) :: (← renderParts es))

end

/-- The text of an expression that stands alone. -/
def Expr.render? (e : Expr) : Option String :=
  e.renderAt false .test

end DocLint.Syntax
