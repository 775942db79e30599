import DocLint.Text.Class

/-!
DocLint.Text.Basic: trimming, splitting and searching texts.

Everything is a function on lists of characters. `lines` cuts at the newline only, `words` at runs
of blanks, and searching always reports the leftmost occurrence.
-/

namespace DocLint.Text

/-! ## Trimming -/

/-- Drops the blanks in front. -/
def trimLeft (cs : Text) : Text :=
  cs.dropWhile isSpace

/-- Drops the characters of class `p` at the end. -/
def dropRightWhile (p : Char → Bool) (cs : Text) : Text :=
  (cs.reverse.dropWhile p).reverse

/-- Drops the blanks at the end. -/
def trimRight (cs : Text) : Text :=
  dropRightWhile isSpace cs

/-- Drops the blanks on both sides. -/
def trim (cs : Text) : Text :=
  trimRight (trimLeft cs)

/-- The number of blanks in front. -/
def indent (cs : Text) : Nat :=
  (cs.takeWhile isSpace).length

/-! ## Splitting -/

/-- Cuts a text at every character of class `p`; there is one piece more than there are cuts. -/
def splitBy (p : Char → Bool) : Text → List Text
  | [] => [[]]
  | c :: cs =>
    if p c then [] :: splitBy p cs
    else match splitBy p cs with
      | [] => [[c]]
      | l :: ls => (c :: l) :: ls

/-- The newline-separated lines of a text. -/
def lines (cs : Text) : List Text :=
  splitBy (· == '\n') cs

/-- The maximal runs of characters that are not blank. -/
def words (cs : Text) : List Text :=
  (splitBy isSpace cs).filter (!·.isEmpty)

/-! ## Searching -/

/-- What follows `pat` in front of a text, if the text starts with it. -/
def dropPrefix? : (pat : Text) → Text → Option Text
  | [], cs => some cs
  | _ :: _, [] => none
  | p :: ps, c :: cs => if p == c then dropPrefix? ps cs else none

/-- Whether a text starts with `pat`. -/
def startsWith (cs pat : Text) : Bool :=
  (dropPrefix? pat cs).isSome

/-- Whether a text ends with `pat`. -/
def endsWith (cs pat : Text) : Bool :=
  startsWith cs.reverse pat.reverse

/-- The suffixes of a text, the text itself first and the empty one last. -/
def suffixes : Text → List Text
  | [] => [[]]
  | c :: cs => (c :: cs) :: suffixes cs

/-- Whether `pat` occurs in a text. -/
def contains (cs pat : Text) : Bool :=
  (suffixes cs).any (startsWith · pat)

/-- Cuts a text at occurrences of `sep`, having `skip` characters of one left to pass over. -/
def splitAfter (sep : Text) : (skip : Nat) → Text → List Text
  | _, [] => [[]]
  | skip + 1, _ :: cs => splitAfter sep skip cs
  | 0, c :: cs =>
    if startsWith (c :: cs) sep then [] :: splitAfter sep (sep.length - 1) cs
    else match splitAfter sep 0 cs with
      | [] => [[c]]
      | l :: ls => (c :: l) :: ls

/-- Cuts a text at each occurrence of the non-empty text `sep`, from left to right. -/
def splitOn (sep cs : Text) : List Text :=
  splitAfter sep 0 cs

/-- A text in which each of the line ends `\r\n` and `\r` is a newline. -/
def unifyNewlines : Text → Text
  | [] => []
  | '\r' :: '\n' :: cs => '\n' :: unifyNewlines cs
  | '\r' :: cs => '\n' :: unifyNewlines cs
  | c :: cs => c :: unifyNewlines cs

/-- Replaces one character by another. -/
def replaceChar (old new : Char) (cs : Text) : Text :=
  cs.map fun c => if c == old then new else c

/-- The pieces, with `sep` between each two. -/
def joinWith (sep : Text) : List Text → Text
  | [] => []
  | [l] => l
  | l :: ls => l ++ sep ++ joinWith sep ls

/-- Replaces each occurrence of the non-empty text `pat`, from left to right. -/
def replace (pat new cs : Text) : Text :=
  joinWith new (splitOn pat cs)

/-- The text of a run of decimal digits, as a number. -/
def digitsValue (base : Nat) (digit : Char → Nat) (cs : Text) : Nat :=
  cs.foldl (fun n c => n * base + digit c) 0

/-- The value of a digit, up to `f`. -/
def digitValue (c : Char) : Nat :=
  if c.isDigit then c.toNat - '0'.toNat
  else if 'a' ≤ c && c ≤ 'z' then c.toNat - 'a'.toNat + 10
  else if isCapital c then c.toNat - 'A'.toNat + 10
  else 0

/-- Digits of base sixteen. -/
def isHexDigit (c : Char) : Bool :=
  c.isDigit || ('a' ≤ c && c ≤ 'f') || ('A' ≤ c && c ≤ 'F')

end DocLint.Text
