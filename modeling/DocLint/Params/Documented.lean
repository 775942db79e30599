import DocLint.Docstring.Header
import DocLint.Entries

/-!
DocLint.Params.Documented: the parameters that a docstring describes.

The parameters stand on the lines after a line with `Params:`, each as `name (type):`. Names and types
are read by two rules that differ in small things: a name may have stars in front and its colon follows
the parenthesis directly, a typed name has no stars and blanks may stand before its colon.
-/

namespace DocLint.Params

open Docstring (run? isTitleChar)
open Text (isSpace isWord isCapital trimLeft contains)

/-- The words that open the list of parameters. -/
def heading : Text := "Params:".toList

/-- Whether a text mentions the heading. -/
def mentions (cs : Text) : Bool :=
  contains cs heading

/-- The lines of the list of parameters: those after the first heading and before the first line
that closes it, further headings apart. -/
def listLines (closes : Text → Bool) (lines : List Text) : List Text :=
  let inside := lines.dropWhile (!mentions ·)
  (inside.takeWhile fun l => mentions l || !closes l).filter (!mentions ·)

/-! ## Entries -/

/-- At most `n` stars in front of a text, and what follows them. -/
def stars : (n : Nat) → Text → Text × Text
  | n + 1, '*' :: cs =>
    let (ss, rest) := stars n cs
    ('*' :: ss, rest)
  | _, cs => ([], cs)

/-- A text in parentheses that holds no closing one and is not empty, and what follows it. -/
def parenthesized? : Text → Option (Text × Text)
  | '(' :: cs =>
    match run? (· != ')') cs with
    | some (inner, ')' :: rest) => some (inner, rest)
    | _ => none
  | _ => none

/-- The name in a line `name (type):`, with up to two stars. -/
def entryName? (line : Text) : Option Text := do
  let (ss, rest) := stars 2 (trimLeft line)
  let (name, rest) ← run? isWord rest
  match parenthesized? (trimLeft rest) with
  | some (_, ':' :: _) => pure (ss ++ name)
  | _ => none

/-- The name and the type in a line `name (type) :`. -/
def entryType? (line : Text) : Option (Text × Text) := do
  let (name, rest) ← run? isWord (trimLeft line)
  let (type, rest) ← parenthesized? (trimLeft rest)
  match trimLeft rest with
  | ':' :: _ => pure (name, type)
  | _ => none

/-! ## Ends of the list -/

/-- At most `n` spaces less in front of a text. -/
def dropSpaces : (n : Nat) → Text → Text
  | n + 1, ' ' :: cs => dropSpaces n cs
  | _, cs => cs

/-- Whether a line opens another section: up to four spaces, a capital, one or more characters of
class `p`, a colon. -/
def opensSection (p : Char → Bool) (line : Text) : Bool :=
  match dropSpaces 4 line with
  | c :: cs =>
    isCapital c && match run? p cs with
      | some (_, ':' :: _) => true
      | _ => false
  | [] => false

/-- Whether a line ends the list of names. -/
def closesNames (line : Text) : Bool :=
  opensSection isTitleChar line

/-- Whether a line ends the list of types. -/
def closesTypes (line : Text) : Bool :=
  opensSection isWord line

/-! ## Names and types -/

/-- The names that a docstring describes, with their stars, in order. -/
def names (doc : Text) : List String :=
  ((listLines closesNames (Text.lines doc)).filterMap entryName?).map String.ofList

/-- The types that a docstring gives, by name; a later one wins. -/
def types (doc : Text) : Entries String String :=
  Entries.ofPairs (((listLines closesTypes (Text.lines doc)).filterMap entryType?).map
    fun (n, t) => (String.ofList n, String.ofList t))

end DocLint.Params
