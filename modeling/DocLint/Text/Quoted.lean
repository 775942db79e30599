import DocLint.Text.Class

/-!
DocLint.Text.Quoted: texts and byte strings between quotes.

A text is quoted with apostrophes, or with double quotes if it holds an apostrophe and no double
quote. Backslashes, the quote itself and characters that are not printable are escaped, the latter
by the shortest of `\x..`, `\u....` and `\U........` that holds their code point.
-/

namespace DocLint.Text

/-- `n` in at least `width` digits of base sixteen. -/
def hexText (width n : Nat) : Text :=
  let ds := Nat.toDigits 16 n
  List.replicate (width - ds.length) '0' ++ ds

/-- The quote for a text: a double quote only where that saves escaping apostrophes. -/
def quoteFor (cs : Text) : Char :=
  if cs.elem '\'' && !cs.elem '"' then '"' else '\''

/-- The escape of a character by its code point. -/
def escapeCode (c : Char) : Text :=
  let n := c.toNat
  if n < 0x100 then '\\' :: 'x' :: hexText 2 n
  else if n < 0x10000 then '\\' :: 'u' :: hexText 4 n
  else '\\' :: 'U' :: hexText 8 n

/-- One character inside quotes. -/
def quoteChar (quote c : Char) : Text :=
  if c == quote || c == '\\' then ['\\', c]
  else if c == '\n' then ['\\', 'n']
  else if c == '\r' then ['\\', 'r']
  else if c == '\t' then ['\\', 't']
  else if isPrintable c then [c]
  else escapeCode c

/-- A text between quotes. -/
def quoted (cs : Text) : Text :=
  let q := quoteFor cs
  q :: cs.flatMap (quoteChar q) ++ [q]

/-- A byte string between quotes: every byte outside printable ASCII is escaped. -/
def quotedBytes (bs : List UInt8) : Text :=
  let cs := bs.map fun b => Char.ofNat b.toNat
  let q := quoteFor cs
  let one (c : Char) : Text :=
    if c.toNat < 128 then quoteChar q c else '\\' :: 'x' :: hexText 2 c.toNat
  'b' :: q :: cs.flatMap one ++ [q]

/-- A string between quotes. -/
def quote (s : String) : String :=
  String.ofList (quoted s.toList)

end DocLint.Text
