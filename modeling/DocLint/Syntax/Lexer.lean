import DocLint.Syntax.Numeral
import DocLint.Text.Normal

/-!
DocLint.Syntax.Lexer: from source text to tokens.

Newlines inside brackets and blank lines give no token. At the start of every other line the
indentation is compared with that of the open blocks, measured twice, with tabs to the next multiple
of eight and with tabs as one column: where the two disagree, the layout depends on the width of a
tab and the text is refused. `lex` answers `none` for every text that has no tokens.
-/

namespace DocLint.Syntax

open DocLint.Text (startsWith isIdentifier normalize)

/-! ## String literals -/

/-- The mark that letters in front of a quote make, in either case; only the small `u` is kept. -/
def stringMark? (letters : Text) : Option StringMark :=
  match String.ofList (letters.map Char.toLower) with
  | "" => some {}
  | "b" => some { bytes := true }
  | "r" => some { raw := true }
  | "u" => some { unicode := letters == ['u'] }
  | "f" => some { format := true }
  | "br" => some { bytes := true, raw := true }
  | "rb" => some { bytes := true, raw := true }
  | "fr" => some { format := true, raw := true }
  | "rf" => some { format := true, raw := true }
  | _ => none

/-- The body of a literal up to its closing quote; a newline must be escaped. -/
def readShort (quote : Char) : Text → Option (Text × Text)
  | [] => none
  | '\\' :: c :: cs => (readShort quote cs).map fun (body, rest) => ('\\' :: c :: body, rest)
  | c :: cs =>
    if c == quote then some ([], cs)
    else if c == '\n' then none
    else (readShort quote cs).map fun (body, rest) => (c :: body, rest)

/-- The body of a literal up to three closing quotes. -/
def readLong (quote : Char) : Text → Option (Text × Text)
  | [] => none
  | '\\' :: c :: cs => (readLong quote cs).map fun (body, rest) => ('\\' :: c :: body, rest)
  | c :: cs =>
    if c == quote && startsWith cs [quote, quote] then some ([], cs.drop 2)
    else (readLong quote cs).map fun (body, rest) => (c :: body, rest)

/-- The body of a literal, after its first quote. -/
def readQuoted (quote : Char) (cs : Text) : Option (Text × Text) :=
  if startsWith cs [quote, quote] then readLong quote (cs.drop 2) else readShort quote cs

/-! ## Operators and brackets -/

/-- Operators and delimiters, longer ones first. -/
def operators : List String := [
  "**=", "//=", "<<=", ">>=", "...",
  "!=", "%=", "&=", "**", "*=", "+=", "-=", "->", "//", "/=", ":=", "<<", "<=", "==", ">=", ">>",
  "@=", "^=", "|=",
  "%", "&", "(", ")", "*", "+", ",", "-", ".", "/", ":", ";", "<", "=", ">", "@", "[", "]", "^",
  "\x7b", "|", "\x7d", "~"]

/-- The longest operator in front of a text. -/
def readOperator (cs : Text) : Option (String × Text) :=
  (operators.find? fun o => startsWith cs o.toList).map fun o => (o, cs.drop o.length)

/-- The most brackets that may be open at once. -/
def maxBrackets : Nat := 200

/-- The open brackets after an operator, innermost first; fails where brackets do not match. -/
def bracketsAfter (symbol : String) (brackets : List String) : Option (List String) :=
  let close (opening : String) : Option (List String) :=
    match brackets with
    | b :: bs => if b == opening then some bs else none
    | [] => none
  if symbol == "(" || symbol == "[" || symbol == "\x7b" then
    if brackets.length < maxBrackets then some (symbol :: brackets) else none
  else if symbol == ")" then close "("
  else if symbol == "]" then close "["
  else if symbol == "\x7d" then close "\x7b"
  else some brackets

/-! ## Layout -/

/-- The indentation of a line, measured twice. -/
structure Margin where
  /-- With tabs to the next multiple of eight. -/
  wide : Nat
  /-- With tabs as one column. -/
  narrow : Nat
  deriving DecidableEq, Repr

/-- Measures the indentation in front of a text. A form feed starts over; lines may be joined by a
backslash, and then the margin at the first one counts unless it is zero. -/
def readMargin (m : Margin) (kept line : Nat) : Text → Option (Margin × Nat × Text)
  | ' ' :: cs => readMargin ⟨m.wide + 1, m.narrow + 1⟩ kept line cs
  | '\t' :: cs => readMargin ⟨(m.wide / 8 + 1) * 8, m.narrow + 1⟩ kept line cs
  | '\x0c' :: cs => readMargin ⟨0, 0⟩ kept line cs
  | '\\' :: '\n' :: c :: cs =>
    readMargin m (if kept == 0 then m.wide else kept) (line + 1) (c :: cs)
  | '\\' :: _ => none
  | cs => some (if kept == 0 then m else ⟨kept, kept⟩, line, cs)

/-- The most blocks that may be open at once. -/
def maxMargins : Nat := 100

/-- Closes the blocks that are indented deeper than `m`. -/
def closeBlocks (m : Margin) : List Margin → List TokenKind × List Margin
  | top :: below :: rest =>
    if m.wide < top.wide then
      let (ts, margins) := closeBlocks m (below :: rest)
      (.dedent :: ts, margins)
    else ([], top :: below :: rest)
  | margins => ([], margins)

/-- The layout tokens in front of a line with margin `m`, and the margins of the blocks that are
open then, innermost first. -/
def layoutTokens (m : Margin) (margins : List Margin) : Option (List TokenKind × List Margin) :=
  match margins with
  | [] => none
  | top :: _ =>
    if top.wide < m.wide then
      if margins.length < maxMargins && top.narrow < m.narrow then some ([.indent], m :: margins)
      else none
    else
      let (ts, left) := closeBlocks m margins
      if left.head? == some m then some (ts, left) else none

/-! ## The lexer -/

/-- What the lexer has read. -/
structure LexState where
  /-- The current line. -/
  line : Nat := 1
  /-- The margins of the open blocks, innermost first. -/
  margins : List Margin := [⟨0, 0⟩]
  /-- The open brackets, innermost first. -/
  brackets : List String := []
  /-- The tokens, last one first. -/
  tokens : List Token := []

/-- Adds a token on the current line. -/
def LexState.push (st : LexState) (kind : TokenKind) : LexState :=
  { st with tokens := ⟨kind, st.line⟩ :: st.tokens }

/-- A name or reserved word. Names are normalized; a word is reserved only as it is spelled. -/
def nameToken? (word : Text) : Option TokenKind :=
  if keywords.contains (String.ofList word) then some (.keyword (String.ofList word))
  else if contextualWords.contains (String.ofList word) then
    some (.contextual (String.ofList word))
  else if word.all (·.toNat < 128) then some (.name (String.ofList word))
  else if isIdentifier word then some (.name (String.ofList (normalize word)))
  else none

/-- The number of newlines in a text. -/
def newlineCount (cs : Text) : Nat :=
  cs.count '\n'

/-- The token in front of a text that starts with neither a blank nor a newline. -/
def lexToken (st : LexState) (cs : Text) : Option (LexState × Text) :=
  let word := cs.takeWhile isNameChar
  let rest := cs.dropWhile isNameChar
  let stringAt (mark : StringMark) (quote : Char) (rest : Text) : Option (LexState × Text) := do
    let (body, after) ← readQuoted quote rest
    pure ({ st.push (.string mark body) with line := st.line + newlineCount body }, after)
  let numeral : Option (LexState × Text) := do
    let (value, after) ← readNumeral cs
    pure (st.push (.number value), after)
  let operator : Option (LexState × Text) := do
    let (symbol, after) ← readOperator cs
    let brackets ← bracketsAfter symbol st.brackets
    pure ({ st.push (.op symbol) with brackets }, after)
  let nameOnly : Option (LexState × Text) := do
    pure (st.push (← nameToken? word), rest)
  match cs with
  | [] => none
  | c :: tail =>
    if c.isDigit then numeral
    else if isNameChar c then
      match rest with
      | q :: after =>
        if q == '"' || q == '\'' then
          match stringMark? word with
          | some mark => stringAt mark q after
          | none => nameOnly
        else nameOnly
      | [] => nameOnly
    else if c == '"' || c == '\'' then stringAt {} c tail
    else if c == '.' && (tail.head?.map Char.isDigit).getD false then numeral
    else operator

/-- Reads the tokens of a text that ends with a newline; `fresh` says whether a line starts here. -/
def lexFrom : Nat → (fresh : Bool) → LexState → Text → Option LexState
  | 0, _, _, _ => none
  | fuel + 1, true, st, cs => do
    let (m, line, rest) ← readMargin ⟨0, 0⟩ 0 st.line cs
    match rest with
    | '\n' :: after => lexFrom fuel true { st with line := line + 1 } after
    | '#' :: _ =>
      lexFrom fuel true { st with line := line + 1 } ((rest.dropWhile (· != '\n')).drop 1)
    | _ =>
      let (kinds, margins) ← layoutTokens m st.margins
      let st := kinds.foldl LexState.push { st with line, margins }
      if rest.isEmpty then pure st else lexFrom fuel false st rest
  | fuel + 1, false, st, cs =>
    match cs with
    | [] => none
    | '\n' :: after =>
      if st.brackets.isEmpty then
        lexFrom fuel true { st.push .newline with line := st.line + 1 } after
      else lexFrom fuel false { st with line := st.line + 1 } after
    | '\\' :: '\n' :: c :: after => lexFrom fuel false { st with line := st.line + 1 } (c :: after)
    | '\\' :: _ => none
    | c :: after =>
      if c == ' ' || c == '\t' || c == '\x0c' then lexFrom fuel false st after
      else if c == '#' then lexFrom fuel false st (after.dropWhile (· != '\n'))
      else do
        let (st, rest) ← lexToken st cs
        lexFrom fuel false st rest

/-- Writes every line end as a newline, and one at the end of the text. -/
def normalizeNewlines : Text → Text
  | '\r' :: '\n' :: cs => '\n' :: normalizeNewlines cs
  | '\r' :: cs => '\n' :: normalizeNewlines cs
  | c :: cs => c :: normalizeNewlines cs
  | [] => []

/-- The tokens of a source text. Every step reads a character or ends a line, so twice the length
of the text bounds their number. -/
def lex (source : Text) : Option (List Token) := do
  guard (source.all (· != '\x00'))
  let cs := normalizeNewlines source
  let cs := if cs.getLast? == some '\n' then cs else cs ++ ['\n']
  let st ← lexFrom (2 * cs.length + 2) true {} cs
  pure st.tokens.reverse

end DocLint.Syntax
