import DocLint.Syntax.Token
import DocLint.Text.Basic

/-!
DocLint.Syntax.Literal: what string literals stand for.

Adjacent literals are one value: bytes if all are byte strings, a text if all are plain, and a
formatted string if at least one is. The expressions in the replacement fields of a formatted string
are read by a parser that is passed in, so this module knows nothing of the grammar.
-/

namespace DocLint.Syntax

open DocLint.Text (digitsValue digitValue isHexDigit startsWith)

/-! ## Escapes -/

/-- The character of a one-letter escape. -/
def simpleEscape? : Char → Option Char
  | '\\' => some '\\'
  | '\'' => some '\''
  | '"' => some '"'
  | 'a' => some '\x07'
  | 'b' => some '\x08'
  | 'f' => some '\x0c'
  | 'n' => some '\n'
  | 'r' => some '\r'
  | 't' => some '\t'
  | 'v' => some '\x0b'
  | _ => none

/-- Digits of base eight. -/
def isOctalDigit (c : Char) : Bool :=
  '0' ≤ c && c ≤ '7'

/-- One to three digits of base eight. -/
def readOctal (cs : Text) : Nat × Text :=
  let ds := (cs.take 3).takeWhile isOctalDigit
  (digitsValue 8 digitValue ds, cs.drop ds.length)

/-- Exactly `n` digits of base sixteen. -/
def readHexDigits (n : Nat) (cs : Text) : Option (Nat × Text) :=
  let ds := cs.take n
  if ds.length == n && ds.all isHexDigit then some (digitsValue 16 digitValue ds, cs.drop n)
  else none

/-- The character with a code point, if there is one. Surrogates are code points that no text here can
hold; the replacement character stands for each of them. -/
def charOf? (n : Nat) : Option Char :=
  if n.isValidChar then some (Char.ofNat n)
  else if n < 0x110000 then some '\uFFFD'
  else none

/-- The character with a given name, as in an escape by name. -/
abbrev CharNames := String → Option Char

/-- What the escape after a backslash stands for in a text; an unknown one stands for itself. -/
def readEscape (names : CharNames) (cs : Text) : Option (Text × Text) :=
  let coded (n : Nat) (rest : Text) : Option (Text × Text) := do
    let (code, after) ← readHexDigits n rest
    pure ([← charOf? code], after)
  match cs with
  | [] => some (['\\'], [])
  | c :: rest =>
    if c == '\n' then some ([], rest)
    else if isOctalDigit c then
      let (code, after) := readOctal cs
      some ([Char.ofNat code], after)
    else if c == 'x' then coded 2 rest
    else if c == 'u' then coded 4 rest
    else if c == 'U' then coded 8 rest
    else if c == 'N' then
      match rest with
      | '\x7b' :: named =>
        match named.dropWhile (· != '\x7d') with
        | _ :: after => do
          let c ← names (String.ofList (named.takeWhile (· != '\x7d')))
          pure ([c], after)
        | [] => none
      | _ => none
    else match simpleEscape? c with
      | some d => some ([d], rest)
      | none => some (['\\', c], rest)

/-- Resolves the escapes of a text; `fuel` bounds its length. -/
def unescapeFrom (names : CharNames) : (fuel : Nat) → Text → Option Text
  | 0, _ => some []
  | _, [] => some []
  | fuel + 1, '\\' :: cs => do
    let (part, rest) ← readEscape names cs
    pure (part ++ (← unescapeFrom names fuel rest))
  | fuel + 1, c :: cs => (unescapeFrom names fuel cs).map (c :: ·)

/-- The text between the quotes of a literal. -/
def textOf (names : CharNames) (raw : Bool) (body : Text) : Option Text :=
  if raw then some body else unescapeFrom names body.length body

/-- Resolves the escapes of a byte string; `fuel` bounds its length. -/
def unescapeBytes : (fuel : Nat) → Text → Option (List UInt8)
  | 0, _ => some []
  | _, [] => some []
  | fuel + 1, '\\' :: cs =>
    match cs with
    | [] => some ['\\'.toNat.toUInt8]
    | c :: rest =>
      if c == '\n' then unescapeBytes fuel rest
      else if isOctalDigit c then
        let (code, after) := readOctal cs
        (unescapeBytes fuel after).map (code.toUInt8 :: ·)
      else if c == 'x' then do
        let (code, after) ← readHexDigits 2 rest
        pure (code.toUInt8 :: (← unescapeBytes fuel after))
      else match simpleEscape? c with
        | some d => (unescapeBytes fuel rest).map (d.toNat.toUInt8 :: ·)
        | none => (unescapeBytes fuel rest).map (['\\'.toNat.toUInt8, c.toNat.toUInt8] ++ ·)
  | fuel + 1, c :: cs => (unescapeBytes fuel cs).map (c.toNat.toUInt8 :: ·)

/-- The bytes between the quotes of a literal, which are written in ASCII. -/
def bytesOf (raw : Bool) (body : Text) : Option (List UInt8) := do
  guard (body.all (·.toNat < 128))
  if raw then pure (body.map (·.toNat.toUInt8)) else unescapeBytes body.length body

/-! ## Formatted strings -/

/-- Where a scan of a replacement field stands: outside of strings, or in one with a quote. -/
inductive FieldQuote where
  | outside
  | short (quote : Char)
  | long (quote : Char)

/-- The bracket that opens what a closing bracket closes. -/
def openerOf? : Char → Option Char
  | ')' => some '('
  | ']' => some '['
  | '\x7d' => some '\x7b'
  | _ => none

/-- The expression of a replacement field and what follows it: the first `!`, `:`, `=` or closing
brace outside of strings and brackets that is no part of a comparison. Neither backslashes nor
comments may stand in it. -/
def scanField (quote : FieldQuote) (stack : List Char) : Text → Option (Text × Text)
  | [] => none
  | c :: cs =>
    let keep (quote : FieldQuote) (stack : List Char) : Option (Text × Text) :=
      (scanField quote stack cs).map fun (e, rest) => (c :: e, rest)
    if c == '\\' then none
    else match quote with
      | .short q => keep (if c == q then .outside else quote) stack
      | .long q =>
        match cs with
        | d :: e :: after =>
          if c == q && d == q && e == q then
            (scanField .outside stack after).map fun (x, rest) => (c :: d :: e :: x, rest)
          else keep quote stack
        | _ => keep quote stack
      | .outside =>
        if c == '\'' || c == '"' then
          match cs with
          | d :: e :: after =>
            if d == c && e == c then
              (scanField (.long c) stack after).map fun (x, rest) => (c :: d :: e :: x, rest)
            else keep (.short c) stack
          | _ => keep (.short c) stack
        else if c == '(' || c == '[' || c == '\x7b' then keep .outside (c :: stack)
        else if c == '#' then none
        else if stack.isEmpty && (c == '!' || c == ':' || c == '\x7d' || c == '=' || c == '<' ||
            c == '>') then
          match cs with
          | '=' :: after =>
            if c == '!' || c == '=' || c == '<' || c == '>' then
              (scanField .outside stack after).map fun (x, rest) => (c :: '=' :: x, rest)
            else some ([], c :: cs)
          | _ => if c == '<' || c == '>' then keep .outside stack else some ([], c :: cs)
        else match openerOf? c with
          | some opener =>
            match stack with
            | o :: below => if o == opener then keep .outside below else none
            | [] => none
          | none => keep .outside stack

/-- Blanks that may follow the `=` of a replacement field. -/
def isAsciiSpace (c : Char) : Bool :=
  c == ' ' || ('\t' ≤ c && c ≤ '\r')

/-- The literal text in front of a formatted string, up to a replacement field, a closing brace or
the end. At the outermost level a doubled brace ends the text as well; the flag tells that the text
goes on after it. Within the name of a character, `named`, braces are not special. -/
def scanLiteral (raw top : Bool) : (named : Bool) → Text → Option (Text × Bool × Text)
  | _, [] => some ([], false, [])
  | true, c :: cs => (scanLiteral raw top (c != '\x7d') cs).map (prepend [c])
  | false, c :: cs =>
    if c == '\\' && !raw then
      match cs with
      | [] => some ([c], false, [])
      | 'N' :: '\x7b' :: name =>
        (scanLiteral raw top true name).map (prepend ['\\', 'N', '\x7b'])
      | d :: after =>
        if d == '\x7b' || d == '\x7d' then brace [c] d after
        else (scanLiteral raw top false after).map (prepend [c, d])
    else if c == '\x7b' || c == '\x7d' then brace [] c cs
    else (scanLiteral raw top false cs).map (prepend [c])
where
  /-- Puts characters in front of the text. -/
  prepend (before : Text) (found : Text × Bool × Text) : Text × Bool × Text :=
    (before ++ found.1, found.2)
  /-- The end of the text at a brace. -/
  brace (before : Text) (b : Char) (cs : Text) : Option (Text × Bool × Text) :=
    if top then
      match cs with
      | d :: after =>
        if d == b then some (before ++ [b], true, after)
        else if b == '\x7d' then none else some (before, false, b :: cs)
      | [] => if b == '\x7d' then none else some (before, false, b :: cs)
    else some (before, false, b :: cs)

/-- Reads the expression of a replacement field. -/
abbrev FieldReader := Text → Option Expr

/-- How deeply replacement fields nest: one may stand in the format of another. -/
def maxFieldDepth : Nat := 2

/-- The parts of a formatted string at a depth, up to its end or to the brace that closes the field
whose format it is; `fuel` bounds the length of the text. -/
def formattedParts (names : CharNames) (read : FieldReader) (raw : Bool) :
    (fuel : Nat) → (depth : Nat) → Text → Option (List Expr × Text)
  | 0, _, _ => none
  | fuel + 1, depth, cs => do
    let (literal, more, rest) ← scanLiteral raw (depth == 0) false cs
    let literal ← textOf names raw literal
    let before := [Expr.constant (.text (String.ofList literal) false)]
    let next (before : List Expr) (rest : Text) : Option (List Expr × Text) := do
      let (parts, rest) ← formattedParts names read raw fuel depth rest
      pure (before ++ parts, rest)
    if more then next before rest
    else match rest with
      | '\x7b' :: rest =>
        guard (depth < maxFieldDepth)
        let (source, rest) ← scanField .outside [] rest
        let value ← read source
        let (shown, rest) := match rest with
          | '=' :: after =>
            let blanks := after.takeWhile isAsciiSpace
            (some (source ++ '=' :: blanks), after.drop blanks.length)
          | _ => (none, rest)
        let (conversion, rest) ← match rest with
          | '!' :: c :: after =>
            if c == 's' || c == 'r' || c == 'a' then some (some c, after) else none
          | _ => some (none, rest)
        let (format, rest) ← match rest with
          | ':' :: after => do
            let (parts, rest) ← formattedParts names read raw fuel (depth + 1) after
            pure (some parts, rest)
          | _ => some (none, rest)
        match rest with
        | '\x7d' :: rest =>
          let conversion := if shown.isSome && format.isNone && conversion.isNone then some 'r'
            else conversion
          let label := match shown with
            | some text => [Expr.constant (.text (String.ofList text) false)]
            | none => []
          next (before ++ label ++ [.field value conversion (format.map .joined)]) rest
        | _ => none
      | _ => pure (before, rest)

/-- Joins neighbouring texts and drops empty ones, also in the formats of replacement fields. -/
def mergeTexts : List Expr → List Expr
  | [] => []
  | .constant (.text s m) :: rest =>
    match mergeTexts rest with
    | .constant (.text t _) :: more => .constant (.text (s ++ t) m) :: more
    | more => if s.isEmpty then more else .constant (.text s m) :: more
  | .field value conversion (some (.joined parts)) :: rest =>
    .field value conversion (some (.joined (mergeTexts parts))) :: mergeTexts rest
  | e :: rest => e :: mergeTexts rest

/-! ## Adjacent literals -/

/-- The parts that one literal of a sequence contributes. -/
def literalParts (names : CharNames) (read : FieldReader) (mark : StringMark) (body : Text) :
    Option (List Expr) := do
  if mark.format then
    let (parts, rest) ← formattedParts names read mark.raw (body.length + 1) 0 body
    guard rest.isEmpty
    pure parts
  else
    let text ← textOf names mark.raw body
    pure [.constant (.text (String.ofList text) false)]

/-- The value of one or more adjacent literals. -/
def literalValue (names : CharNames) (read : FieldReader) (literals : List (StringMark × Text)) :
    Option Expr := do
  if literals.all (·.1.bytes) then
    let parts ← literals.mapM fun (mark, body) => bytesOf mark.raw body
    pure (.constant (.bytes parts.flatten))
  else
    guard (literals.all (!·.1.bytes))
    let parts ← literals.mapM fun (mark, body) => literalParts names read mark body
    let marked := (literals.head?.map (·.1.unicode)).getD false
    match literals.any (·.1.format), mergeTexts parts.flatten with
    | false, [] => pure (.constant (.text "" marked))
    | false, .constant (.text s _) :: _ => pure (.constant (.text s marked))
    | _, parts => pure (.joined parts)

end DocLint.Syntax
