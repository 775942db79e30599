import DocLint.Diagnosis
import DocLint.Text.Basic
import DocLint.Value.Basic

/-!
DocLint.Toml.Scalar: keys, texts, numbers and points in time of TOML documents.

A reader takes characters from the front of a text. All readers but one fail for the same reason,
that the text is not TOML; the exception is an integer with too many digits.
-/

namespace DocLint.Toml

open Number (Double)
open Text (digitsValue digitValue isHexDigit startsWith)

/-- Why a text is not read. -/
inductive Error where
  /-- It is not TOML. -/
  | malformed
  /-- It holds an integer of `digits` digits, more than are allowed. -/
  | tooManyDigits (digits : Nat)
  deriving DecidableEq, Repr

/-- The message of an error, with the diagnosis of the text that is not TOML. -/
def Error.message (diagnosis : String) : Error → String
  | .malformed => diagnosis
  | .tooManyDigits digits => digitsDiagnosis (": value has " ++ toString digits ++ " digits")

/-- Reads from the front of a text. -/
abbrev Reader := StateT Text (Except Error)

/-- Fails. -/
def malformed {α : Type} : Reader α := throw .malformed

/-- The next character. -/
def next? : Reader (Option Char) := do
  pure (← get).head?

/-- Whether the text starts with `s`. -/
def at? (s : String) : Reader Bool := do
  pure (startsWith (← get) s.toList)

/-- Drops `n` characters. -/
def skip (n : Nat) : Reader Unit := modify (·.drop n)

/-- Reads `s` if it comes next, and tells whether it did. -/
def accept (s : String) : Reader Bool := do
  if ← at? s then
    skip s.length
    pure true
  else pure false

/-- The longest run of characters of class `p`. -/
def run (p : Char → Bool) : Reader Text := do
  let cs ← get
  set (cs.dropWhile p)
  pure (cs.takeWhile p)

/-- Blanks within a line. -/
def isBlank (c : Char) : Bool := c == ' ' || c == '\t'

/-- Skips blanks. -/
def skipBlanks : Reader Unit := do
  let _ ← run isBlank

/-- Control characters, tabs apart. -/
def isControl (c : Char) : Bool :=
  (c.toNat < 32 && c != '\t') || c.toNat == 127

/-- Skips a comment, if one comes next. -/
def skipComment : Reader Unit := do
  if (← next?) == some '#' then
    let comment ← run (· != '\n')
    if comment.any isControl then malformed

/-! ## Texts -/

/-- A text between apostrophes, after the first. -/
def literalText : Reader Text := do
  let body ← run (· != '\'')
  if !(← accept "'") || body.any isControl then malformed
  pure body

/-- Splits a text before the first three apostrophes in a row. -/
def breakLong : Text → Option (Text × Text)
  | [] => none
  | c :: cs =>
    if startsWith (c :: cs) "'''".toList then some ([], cs.drop 2)
    else (breakLong cs).map fun (body, rest) => (c :: body, rest)

/-- Exactly `n` digits of base sixteen, as a character. -/
def hexChar (n : Nat) : Reader Text := do
  let ds := (← get).take n
  if ds.length != n || !ds.all isHexDigit then malformed
  skip n
  let code := digitsValue 16 digitValue ds
  if code < 0xD800 || (0xDFFF < code && code < 0x110000) then pure [Char.ofNat code]
  else malformed

/-- What an escape stands for, after its backslash. In a text of several lines a backslash at the end
of a line joins it with the next one that is not blank. -/
def escape (multiline : Bool) : Reader Text := do
  match ← next? with
  | none => malformed
  | some c =>
    skip 1
    if multiline && (isBlank c || c == '\n') then
      if c != '\n' then
        skipBlanks
        match ← next? with
        | none => return []
        | some '\n' => skip 1
        | some _ => malformed
      let _ ← run fun c => isBlank c || c == '\n'
      pure []
    else match c with
      | 'u' => hexChar 4
      | 'U' => hexChar 8
      | 'b' => pure ['\x08']
      | 't' => pure ['\t']
      | 'n' => pure ['\n']
      | 'f' => pure ['\x0c']
      | 'r' => pure ['\r']
      | '"' => pure ['"']
      | '\\' => pure ['\\']
      | _ => malformed

/-- A text between double quotes, after the first; `fuel` bounds its length. -/
def basicText (multiline : Bool) : (fuel : Nat) → Reader Text
  | 0 => malformed
  | fuel + 1 => do
    match ← next? with
    | none => malformed
    | some '"' =>
      if !multiline then
        skip 1
        pure []
      else if ← accept "\"\"\"" then pure []
      else
        skip 1
        pure ('"' :: (← basicText multiline fuel))
    | some '\\' =>
      skip 1
      let part ← escape multiline
      pure (part ++ (← basicText multiline fuel))
    | some c =>
      if isControl c && !(multiline && c == '\n') then malformed
      skip 1
      pure (c :: (← basicText multiline fuel))

/-- Up to two quotes before the closing ones of a long text belong to it. -/
def extraQuotes (quote : String) : Reader Text := do
  if ← accept quote then
    if ← accept quote then pure (quote.toList ++ quote.toList) else pure quote.toList
  else pure []

/-- A text on one line between double quotes. -/
def shortText : Reader Text := do
  skip 1
  basicText false ((← get).length + 1)

/-- A text of several lines, after its three opening quotes. -/
def longText (literal : Bool) : Reader Text := do
  skip 3
  let _ ← accept "\n"
  if literal then
    match breakLong (← get) with
    | none => malformed
    | some (body, rest) =>
      if body.any fun c => isControl c && c != '\n' then malformed
      set rest
      pure (body ++ (← extraQuotes "'"))
  else
    let body ← basicText true ((← get).length + 1)
    pure (body ++ (← extraQuotes "\""))

/-! ## Keys -/

/-- Characters of keys without quotes. -/
def isBareKey (c : Char) : Bool :=
  c.isAlphanum || c == '-' || c == '_'

/-- One part of a key. -/
def keyPart : Reader String := do
  match ← next? with
  | some '\'' =>
    skip 1
    String.ofList <$> literalText
  | some '"' => String.ofList <$> shortText
  | some c => if isBareKey c then String.ofList <$> run isBareKey else malformed
  | none => malformed

/-- The parts of a key after the first; `fuel` bounds their number. -/
def keyRest : (fuel : Nat) → Reader (List String)
  | 0 => pure []
  | fuel + 1 => do
    skipBlanks
    if ← accept "." then
      skipBlanks
      let part ← keyPart
      pure (part :: (← keyRest fuel))
    else pure []

/-- A key: parts with dots between them. -/
def key : Reader (List String) := do
  let first ← keyPart
  pure (first :: (← keyRest (← get).length))

/-! ## Numbers -/

/-- A run of digits of class `p` with single underscores between them, which are dropped. -/
def digitGroups (p : Char → Bool) : Text → Text × Text
  | '_' :: c :: cs =>
    if p c then
      let (ds, rest) := digitGroups p cs
      (c :: ds, rest)
    else ([], '_' :: c :: cs)
  | c :: cs =>
    if p c then
      let (ds, rest) := digitGroups p cs
      (c :: ds, rest)
    else ([], c :: cs)
  | [] => ([], [])

/-- Digits that start with a digit. -/
def digits? (p : Char → Bool) : Text → Option (Text × Text)
  | c :: cs =>
    if p c then
      let (ds, rest) := digitGroups p cs
      some (c :: ds, rest)
    else none
  | [] => none

/-- A number in another base than ten. -/
def based? (cs : Text) : Option (Value × Text) :=
  let read (base : Nat) (p : Char → Bool) (rest : Text) : Option (Value × Text) :=
    (digits? p rest).map fun (ds, rest) => (.int (digitsValue base digitValue ds : Nat), rest)
  match cs with
  | '0' :: 'x' :: rest => read 16 isHexDigit rest
  | '0' :: 'b' :: rest => read 2 (fun c => c == '0' || c == '1') rest
  | '0' :: 'o' :: rest => read 8 (fun c => '0' ≤ c && c ≤ '7') rest
  | _ => none

/-- The sign in front of a number. -/
def signOf : Text → Bool × Text
  | '-' :: cs => (true, cs)
  | '+' :: cs => (false, cs)
  | cs => (false, cs)

/-- The whole part of a number: a zero, or digits that do not start with one. -/
def wholePart? : Text → Option (Text × Text)
  | '0' :: cs => some (['0'], cs)
  | cs => digits? Char.isDigit cs

/-- The fraction of a number. -/
def fractionPart? : Text → Option (Text × Text)
  | '.' :: cs => digits? Char.isDigit cs
  | _ => none

/-- The exponent of a number. -/
def exponentPart? : Text → Option (Int × Text)
  | c :: cs =>
    if c == 'e' || c == 'E' then
      let (negative, cs) := signOf cs
      (digits? Char.isDigit cs).map fun (ds, rest) =>
        let n : Int := (digitsValue 10 digitValue ds : Nat)
        (if negative then -n else n, rest)
    else none
  | [] => none

/-- An integer or a floating-point number in base ten. -/
def decimal? (cs : Text) : Option (Except Error (Value × Text)) := do
  let (negative, rest) := signOf cs
  let (whole, rest) ← wholePart? rest
  let (fraction, rest) := match fractionPart? rest with
    | some (ds, rest) => (some ds, rest)
    | none => (none, rest)
  let (exponent, rest) := match exponentPart? rest with
    | some (e, rest) => (some e, rest)
    | none => (none, rest)
  if fraction.isSome || exponent.isSome then
    let places := fraction.getD []
    let value := Double.ofDecimal negative (digitsValue 10 digitValue (whole ++ places))
      (exponent.getD 0 - places.length)
    pure (.ok (.float value, rest))
  else if maxDigits < whole.length then pure (.error (.tooManyDigits whole.length))
  else
    let n : Int := (digitsValue 10 digitValue whole : Nat)
    pure (.ok (.int (if negative then -n else n), rest))

/-- The floating-point numbers with names. -/
def namedFloats : List (String × Double) :=
  [("inf", .infinite false), ("nan", .nan), ("-inf", .infinite true), ("+inf", .infinite false),
    ("-nan", .nan), ("+nan", .nan)]

/-! ## Points in time -/

/-- Exactly `n` digits, as a number between `low` and `high`. -/
def digitsIn? (n low high : Nat) (cs : Text) : Option (Nat × Text) :=
  let ds := cs.take n
  let value := digitsValue 10 digitValue ds
  if ds.length == n && ds.all Char.isDigit && low ≤ value && value ≤ high then
    some (value, cs.drop n)
  else none

/-- Reads the character `c`. -/
def char? (c : Char) : Text → Option Text
  | d :: cs => if c == d then some cs else none
  | [] => none

/-- A time of day; of its fraction six digits count. -/
def clock? (cs : Text) : Option (Clock × Text) := do
  let (hour, cs) ← digitsIn? 2 0 23 cs
  let (minute, cs) ← digitsIn? 2 0 59 (← char? ':' cs)
  let (second, cs) ← digitsIn? 2 0 59 (← char? ':' cs)
  let fraction := match cs with
    | '.' :: rest => rest.takeWhile Char.isDigit
    | _ => []
  if fraction.isEmpty then pure (⟨hour, minute, second, 0⟩, cs)
  else
    let six := fraction.take 6
    let micro := digitsValue 10 digitValue (six ++ List.replicate (6 - six.length) '0')
    pure (⟨hour, minute, second, micro⟩, cs.drop (fraction.length + 1))

/-- A day, which may not exist. -/
def date? (cs : Text) : Option (Date × Text) := do
  let (year, cs) ← digitsIn? 4 0 9999 cs
  let (month, cs) ← digitsIn? 2 1 12 (← char? '-' cs)
  let (day, cs) ← digitsIn? 2 1 31 (← char? '-' cs)
  pure (⟨year, month, day⟩, cs)

/-- The number of days of a month. -/
def daysIn (year month : Nat) : Nat :=
  if month == 2 then
    if year % 4 == 0 && (year % 100 != 0 || year % 400 == 0) then 29 else 28
  else if month == 4 || month == 6 || month == 9 || month == 11 then 30
  else 31

/-- Whether a day exists. -/
def dateExists (d : Date) : Bool :=
  1 ≤ d.year && d.day ≤ daysIn d.year d.month

/-- An offset from universal time, in minutes. -/
def offset? : Text → Option (Int × Text)
  | c :: cs =>
    if c == 'Z' || c == 'z' then some (0, cs)
    else if c == '+' || c == '-' then do
      let (hours, cs) ← digitsIn? 2 0 23 cs
      let (minutes, cs) ← digitsIn? 2 0 59 (← char? ':' cs)
      let n : Int := (hours * 60 + minutes : Nat)
      pure (if c == '-' then -n else n, cs)
    else none
  | [] => none

/-- A day, perhaps with a time and an offset, if the text starts with one. -/
def moment? (cs : Text) : Option (Except Error (Value × Text)) := do
  let (date, rest) ← date? cs
  let timed := match rest with
    | c :: after => if c == 'T' || c == 't' || c == ' ' then clock? after else none
    | [] => none
  let (moment, rest) := match timed with
    | none => (Moment.date date, rest)
    | some (time, rest) =>
      match offset? rest with
      | some (minutes, rest) => (.atOffset date time minutes, rest)
      | none => (.atTime date time, rest)
  pure (if dateExists date then .ok (.moment moment, rest) else .error .malformed)

end DocLint.Toml
