import DocLint.Text.Basic
import DocLint.Text.Case

/-!
DocLint.Docstring.Header: the headers that may open a section.

There are three: an admonition, `!!! note "Title"`, which may stand anywhere; a word with a colon at
the start of a line; and a line of its own that starts with a capital, `Some Title:`.
-/

namespace DocLint.Docstring

open Text (isSpace isWord isCapital trim trimLeft)

/-! ## Admonitions -/

/-- An admonition. -/
structure Admonition where
  /-- The word after the mark. -/
  word : Text
  /-- The title between the quotes. -/
  title : Text
  /-- The whole header. -/
  written : Text
  deriving DecidableEq, Repr

/-- The mark in front of an admonition, and what follows it. -/
def mark? : Text → Option (Text × Text)
  | '?' :: '?' :: '?' :: '+' :: rest => some (['?', '?', '?', '+'], rest)
  | '?' :: '?' :: '?' :: rest => some (['?', '?', '?'], rest)
  | '!' :: '!' :: '!' :: rest => some (['!', '!', '!'], rest)
  | _ => none

/-- The longest run of characters of class `p` in front of a text, if it is not empty, and what
follows it. -/
def run? (p : Char → Bool) (cs : Text) : Option (Text × Text) :=
  match cs.takeWhile p with
  | [] => none
  | ds => some (ds, cs.dropWhile p)

/-- A title in quotes, and what follows it. -/
def quotedTitle? : Text → Option (Text × Text)
  | '"' :: cs =>
    match run? (· != '"') cs with
    | some (title, '"' :: rest) => some (title, rest)
    | _ => none
  | _ => none

/-- The admonition in front of a text, and what follows it. -/
def admonitionAt? (cs : Text) : Option (Admonition × Text) := do
  let (mark, rest) ← mark? cs
  let (gap, rest) ← run? isSpace rest
  let (word, rest) ← run? isWord rest
  let (gap', rest) ← run? isSpace rest
  let (title, rest) ← quotedTitle? rest
  pure (⟨word, title, mark ++ gap ++ word ++ gap' ++ '"' :: title ++ ['"']⟩, rest)

/-- The admonitions of a text from left to right; the next one is looked for behind the last. -/
def admonitions (cs : Text) : List Admonition :=
  match cs with
  | [] => []
  | c :: rest =>
    match admonitionAt? (c :: rest) with
    | some (a, after) =>
      if _h : after.length < (c :: rest).length then a :: admonitions after
      else a :: admonitions rest
    | none => admonitions rest
termination_by cs.length
decreasing_by
  · exact _h
  · exact Nat.lt_succ_self _
  · exact Nat.lt_succ_self _

/-! ## Words with a colon -/

/-- The word in front of a text that a colon follows directly. -/
def colonWord? (cs : Text) : Option Text :=
  match run? isWord cs with
  | some (word, ':' :: _) => some word
  | _ => none

/-- The number of characters of a header in front of a text: the word, its colon and the blanks
behind them. -/
def colonSpan (word cs : Text) : Nat :=
  word.length + 1 + Text.indent (cs.drop (word.length + 1))

/-- The words with a colon at the starts of the lines of a text from left to right, where `starts`
tells whether the text stands at the start of a line, and `skip` characters of a header are left to
pass over. -/
def colonWordsFrom : (starts : Bool) → (skip : Nat) → Text → List Text
  | _, _, [] => []
  | _, skip + 1, c :: cs => colonWordsFrom (c == '\n') skip cs
  | starts, 0, c :: cs =>
    match if starts then colonWord? (c :: cs) else none with
    | some word => word :: colonWordsFrom (c == '\n') (colonSpan word (c :: cs) - 1) cs
    | none => colonWordsFrom (c == '\n') 0 cs

/-- The words with a colon at the starts of the lines of a text; the next one is looked for behind
the blanks that follow the last. -/
def colonWords (doc : Text) : List Text :=
  colonWordsFrom true 0 doc

/-- A line that is one word, and whether a colon ends it. -/
def wordLine? (line : Text) : Option (Text × Bool) :=
  match run? isWord line with
  | some (word, []) => some (word, false)
  | some (word, [':']) => some (word, true)
  | _ => none

/-! ## Title lines -/

/-- Characters of a title: words and blanks. -/
def isTitleChar (c : Char) : Bool :=
  isWord c || isSpace c

/-- A title of at least two characters that starts with a capital and fills a line, perhaps up to a
colon. -/
def titleLine? : Text → Option Text
  | [] => none
  | c :: cs =>
    if isCapital c then
      match run? isTitleChar cs with
      | some (t, rest) =>
        if rest == [] || rest == [':'] || rest == [':', '\n'] then some (trim (c :: t)) else none
      | none => none
    else none

/-- Whether a line starts with a blank or a tab. -/
def isIndented : Text → Bool
  | c :: _ => c == ' ' || c == '\t'
  | [] => false

end DocLint.Docstring
