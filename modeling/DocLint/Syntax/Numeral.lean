import DocLint.Diagnosis
import DocLint.Syntax.Token
import DocLint.Text.Basic

/-!
DocLint.Syntax.Numeral: number literals.

Digits may be grouped by single underscores. A literal ends before the first character that cannot
continue it, which must not be part of a name, except where one of the words that may follow a
number begins.
-/

namespace DocLint.Syntax

open DocLint.Number (Double)
open DocLint.Text (startsWith digitsValue digitValue isHexDigit)

/-- Characters that the lexer takes into a name before it looks at the name as a whole. -/
def isNameChar (c : Char) : Bool :=
  c.isAlphanum || c == '_' || 128 ≤ c.toNat

/-- The longest run of digits of class `p`, without the underscores between them; fails at an
underscore that no digit follows. -/
def digitRun (p : Char → Bool) : Text → Option (Text × Text)
  | [] => some ([], [])
  | c :: cs =>
    if c == '_' then
      match cs with
      | d :: _ => if p d then digitRun p cs else none
      | [] => none
    else if p c then (digitRun p cs).map fun (ds, rest) => (c :: ds, rest)
    else some ([], c :: cs)

/-- Words that may follow a number directly. -/
def numeralFollowers : List String := ["and", "else", "for", "if", "in", "is", "or", "not"]

/-- Whether a number may end in front of `rest`. -/
def numeralEnds (rest : Text) : Bool :=
  numeralFollowers.any (fun w => startsWith rest w.toList) ||
    match rest with
    | [] => true
    | c :: _ => !isNameChar c

/-- A number in a base that is a power of two, after its `0x`, `0o` or `0b`. -/
def readBased (base : Nat) (p : Char → Bool) (cs : Text) : Option (Constant × Text) := do
  let (ds, rest) ← digitRun p cs
  guard (!ds.isEmpty)
  pure (.int (digitsValue base digitValue ds), rest)

/-- The digits after a decimal point, if there is one. -/
def readFraction : Text → Option (Option Text × Text)
  | '.' :: cs =>
    match cs with
    | d :: _ => if d.isDigit then (digitRun Char.isDigit cs).map fun (ds, rest) => (some ds, rest)
      else some (some [], cs)
    | [] => some (some [], cs)
  | cs => some (none, cs)

/-- The exponent, if there is one. An `e` without digits belongs to what follows the number; with a
sign and without digits it is an error. -/
def readExponent (cs : Text) : Option (Option Int × Text) :=
  let signed (sign : Int) (ds : Text) : Option (Option Int × Text) :=
    match ds with
    | d :: _ =>
      if d.isDigit then
        (digitRun Char.isDigit ds).map fun (ds, rest) =>
          (some (sign * (digitsValue 10 digitValue ds : Nat)), rest)
      else none
    | [] => none
  match cs with
  | c :: rest =>
    if c == 'e' || c == 'E' then
      match rest with
      | '+' :: ds => signed 1 ds
      | '-' :: ds => signed (-1) ds
      | d :: _ => if d.isDigit then signed 1 rest else some (none, cs)
      | [] => some (none, cs)
    else some (none, cs)
  | [] => some (none, cs)

/-- A number in base ten: an integer, a floating-point number or an imaginary number. An integer
other than zero has no leading zeros; directly before `else`, whose first letter might have opened
an exponent, such digits are a floating-point number. -/
def readDecimal (cs : Text) : Option (Constant × Text) := do
  let (whole, rest) ← match cs with
    | '.' :: _ => some ([], cs)
    | _ => digitRun Char.isDigit cs
  let (fraction, rest) ← readFraction rest
  let (exponent, rest) ← readExponent rest
  let places := fraction.getD []
  let value := Double.ofDecimal false (digitsValue 10 digitValue (whole ++ places))
    (exponent.getD 0 - places.length)
  match rest with
  | 'j' :: rest => pure (.imaginary value, rest)
  | 'J' :: rest => pure (.imaginary value, rest)
  | _ =>
    if fraction.isSome || exponent.isSome then pure (.float value, rest)
    else if whole.head? == some '0' then
      if whole.all (· == '0') then pure (.int 0, rest)
      else do
        guard (startsWith rest "else".toList)
        pure (.float value, rest)
    else do
      guard (whole.length ≤ maxDigits)
      pure (.int (digitsValue 10 digitValue whole), rest)

/-- The number literal in front of a text that starts with a digit or with a point and a digit. -/
def readNumeral (cs : Text) : Option (Constant × Text) := do
  let (value, rest) ← match cs with
    | '0' :: c :: rest =>
      if c == 'x' || c == 'X' then readBased 16 isHexDigit rest
      else if c == 'o' || c == 'O' then readBased 8 (fun d => '0' ≤ d && d ≤ '7') rest
      else if c == 'b' || c == 'B' then readBased 2 (fun d => d == '0' || d == '1') rest
      else readDecimal cs
    | _ => readDecimal cs
  guard (numeralEnds rest)
  pure (value, rest)

end DocLint.Syntax
