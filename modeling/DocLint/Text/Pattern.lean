import DocLint.Text.Basic
import DocLint.Text.Case

/-!
DocLint.Text.Pattern: searching for sequences of pieces.

A piece is a literal, compared up to case, a run of characters of one class, or the end of a line. A
run may have any length that its class allows, so a piece can leave several rests, and a sequence
matches if one of them fits. `find?` answers the leftmost place.
-/

namespace DocLint.Text

/-- A piece of a pattern. -/
inductive Piece where
  /-- A literal, up to case. -/
  | letters (cs : Text)
  /-- Any number of characters of a class. -/
  | any (p : Char → Bool)
  /-- One or more characters of a class. -/
  | some (p : Char → Bool)
  /-- The end of a line. -/
  | lineEnd

/-- What follows `pat` in front of a text, if the text starts with it up to case. -/
def dropLetters? : (pat : Text) → Text → Option Text
  | [], cs => .some cs
  | _ :: _, [] => .none
  | p :: ps, c :: cs => if sameLetter p c then dropLetters? ps cs else .none

/-- The rests after any number of characters of a class. -/
def runRests (p : Char → Bool) : Text → List Text
  | [] => [[]]
  | c :: cs => (c :: cs) :: (if p c then runRests p cs else [])

/-- The rests that a piece can leave. -/
def Piece.rests : Piece → Text → List Text
  | .letters pat, cs => (dropLetters? pat cs).toList
  | .any p, cs => runRests p cs
  | .some p, c :: cs => if p c then runRests p cs else []
  | .some _, [] => []
  | .lineEnd, [] => [[]]
  | .lineEnd, c :: cs => if c == '\n' then [c :: cs] else []

/-- Whether a sequence of pieces matches in front of a text. -/
def matchesAt : List Piece → Text → Bool
  | [], _ => true
  | p :: ps, cs => (p.rests cs).any (matchesAt ps)

/-- The leftmost place where a sequence of pieces matches. -/
def find? (ps : List Piece) (cs : Text) : Option Nat :=
  (suffixes cs).findIdx? (matchesAt ps)

/-- Whether a sequence of pieces matches somewhere. -/
def finds (ps : List Piece) (cs : Text) : Bool :=
  (suffixes cs).any (matchesAt ps)

/-- The rests of a text at the starts of its lines. -/
def lineStarts (cs : Text) : List Text :=
  cs :: afterNewlines cs
where
  /-- The rests after each newline. -/
  afterNewlines : Text → List Text
    | [] => []
    | c :: cs => if c == '\n' then cs :: afterNewlines cs else afterNewlines cs

/-- Whether a sequence of pieces matches at the start of a line. -/
def findsLine (ps : List Piece) (cs : Text) : Bool :=
  (lineStarts cs).any (matchesAt ps)

end DocLint.Text
