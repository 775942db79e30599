import DocLint.Text.Table.Word
import DocLint.Text.Table.Unprintable
import DocLint.Text.Table.Identifier

/-!
DocLint.Text.Class: classes of characters.

A docstring is read as a list of code points, and every rule of the checker that speaks of blanks,
words or identifiers means the classes of Unicode 14 below. Inside ASCII they are written out;
outside they are looked up in the tables of `DocLint.Text.Table`.
-/

namespace DocLint

/-- A text is the list of its code points. -/
abbrev Text := List Char

namespace Text

/-- Whether `n` lies in one of the closed ranges `rs`. -/
def inRanges (rs : List (Nat × Nat)) (n : Nat) : Bool :=
  rs.any fun r => r.1 ≤ n && n ≤ r.2

/-- Blanks: the separators of Unicode and the controls that count as white space, 29 in number. -/
def isSpace (c : Char) : Bool :=
  let n := c.toNat
  (9 ≤ n && n ≤ 13) || (28 ≤ n && n ≤ 32) || n == 0x85 || n == 0xA0 || n == 0x1680 ||
    (0x2000 ≤ n && n ≤ 0x200A) || n == 0x2028 || n == 0x2029 || n == 0x202F || n == 0x205F ||
    n == 0x3000

/-- Word characters: letters, characters with a numeric value, and the underscore. -/
def isWord (c : Char) : Bool :=
  if c.toNat < 128 then c.isAlphanum || c == '_' else inRanges Table.word c.toNat

/-- Capital letters of ASCII, the only ones that open a section header. -/
def isCapital (c : Char) : Bool :=
  'A' ≤ c && c ≤ 'Z'

/-- Characters that are shown as themselves when a text is quoted. -/
def isPrintable (c : Char) : Bool :=
  if c.toNat < 128 then 32 ≤ c.toNat && c.toNat < 127 else !inRanges Table.unprintable c.toNat

/-- Characters that may start an identifier. -/
def isIdentifierStart (c : Char) : Bool :=
  if c.toNat < 128 then c.isAlpha || c == '_' else inRanges Table.identifierStart c.toNat

/-- Characters that may continue an identifier. -/
def isIdentifierPart (c : Char) : Bool :=
  if c.toNat < 128 then c.isAlphanum || c == '_' else inRanges Table.identifierContinue c.toNat

/-- Whether the whole text is one identifier. -/
def isIdentifier : Text → Bool
  | [] => false
  | c :: cs => isIdentifierStart c && cs.all isIdentifierPart

end Text

end DocLint
