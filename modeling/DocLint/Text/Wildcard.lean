import DocLint.Text.Class

/-!
DocLint.Text.Wildcard: shell patterns.

A star stands for any text, a question mark for one character, and brackets for one character of a
set: `[a-c]` is `a`, `b` or `c`, `[!a-c]` any other. No character is special in the text, slashes
and leading dots included, and a bracket that is never closed stands for itself.
-/

namespace DocLint.Text

/-- A piece of a pattern. -/
inductive Wildcard where
  /-- Any text. -/
  | star
  /-- Any character. -/
  | any
  /-- A character in one of the ranges, or in none of them. -/
  | oneOf (negated : Bool) (ranges : List (Char × Char))
  /-- This character. -/
  | char (c : Char)
  deriving DecidableEq, Repr

namespace Wildcard

/-! ## Sets of characters -/

/-- The content of brackets, and what follows them, in a text that follows the opening one. A closing
bracket that stands first, or first after an exclamation mark, belongs to the content. -/
def bracket? (cs : Text) : Option (Text × Text) :=
  let (mark, cs) := match cs with
    | '!' :: rest => (['!'], rest)
    | _ => ([], cs)
  let (first, cs) := match cs with
    | ']' :: rest => ([']'], rest)
    | _ => ([], cs)
  match cs.dropWhile (· != ']') with
  | _ :: rest => some (mark ++ first ++ cs.takeWhile (· != ']'), rest)
  | [] => none

/-- Cuts a text at the first hyphen that has at least `skip` characters in front. -/
def cutHyphen? (skip : Nat) (cs : Text) : Option (Text × Text) :=
  let tail := cs.drop skip
  match tail.dropWhile (· != '-') with
  | _ :: rest => some (cs.take skip ++ tail.takeWhile (· != '-'), rest)
  | [] => none

/-- The pieces of a content between the hyphens that make ranges. A hyphen at the end is an ordinary
character, and so is one too close to the hyphen before it. -/
def chunks : (fuel skip : Nat) → Text → List Text
  | 0, _, cs => [cs]
  | fuel + 1, skip, cs =>
    match cutHyphen? skip cs with
    | some (c, []) => [c ++ ['-']]
    | some (c, rest) => c :: chunks fuel 2 rest
    | none => [cs]

/-- Drops the ranges whose first character comes after their last. -/
def dropEmptyRanges : List Text → List Text
  | [] => []
  | c :: cs =>
    match c.getLast?, dropEmptyRanges cs with
    | some a, (b :: d) :: ds => if b < a then (c.dropLast ++ d) :: ds else c :: (b :: d) :: ds
    | _, rest => c :: rest

/-- The characters of pieces, with `none` for each hyphen between them. -/
def marked : List Text → List (Option Char)
  | [] => []
  | [c] => c.map some
  | c :: cs => c.map some ++ none :: marked cs

/-- The ranges of a set. -/
def rangesOf : List (Option Char) → List (Char × Char)
  | some a :: none :: some b :: rest => (a, b) :: rangesOf rest
  | some a :: rest => (a, a) :: rangesOf rest
  | none :: rest => ('-', '-') :: rangesOf rest
  | [] => []

/-- The set with a content. -/
def setOf (content : Text) : Wildcard :=
  let skip := if content.head? == some '!' then 2 else 1
  match marked (dropEmptyRanges (chunks content.length skip content)) with
  | some '!' :: rest => .oneOf true (rangesOf rest)
  | cs => .oneOf false (rangesOf cs)

/-! ## Patterns -/

/-- Reads a pattern. -/
def parseFrom : (fuel : Nat) → Text → List Wildcard
  | 0, _ => []
  | _, [] => []
  | fuel + 1, c :: cs =>
    if c == '*' then .star :: parseFrom fuel cs
    else if c == '?' then .any :: parseFrom fuel cs
    else if c == '[' then
      match bracket? cs with
      | some (content, rest) => setOf content :: parseFrom fuel rest
      | none => .char c :: parseFrom fuel cs
    else .char c :: parseFrom fuel cs

/-- Reads a pattern. -/
def parse (pattern : Text) : List Wildcard :=
  parseFrom pattern.length pattern

/-- Whether a character is one that a piece stands for. -/
def accepts : Wildcard → Char → Bool
  | .star, _ => false
  | .any, _ => true
  | .oneOf negated ranges, c => (ranges.any fun r => r.1 ≤ c && c ≤ r.2) != negated
  | .char d, c => c == d

/-- From the answers for the pieces after a star, those with the star: a suffix of the text fits if it or
a later one fits what follows. -/
def starRow : List Bool → List Bool
  | [] => []
  | b :: bs =>
    let rest := starRow bs
    (b || rest.headD false) :: rest

/-- From the answers for the pieces after one that stands for a character, those with it. -/
def charRow (w : Wildcard) : Text → List Bool → List Bool
  | c :: cs, _ :: bs => (w.accepts c && bs.headD false) :: charRow w cs bs
  | _, _ => [false]

/-- Which suffixes of a text, the longest first, pieces stand for. -/
def row (cs : Text) : List Wildcard → List Bool
  | [] => cs.map (fun _ => false) ++ [true]
  | .star :: ws => starRow (row cs ws)
  | w :: ws => charRow w cs (row cs ws)

/-- Whether pieces stand for the whole of a text. -/
def matchesAll (ws : List Wildcard) (cs : Text) : Bool :=
  (row cs ws).headD false

end Wildcard

/-- Whether a text matches a pattern. -/
def matchesPattern (pattern cs : Text) : Bool :=
  Wildcard.matchesAll (Wildcard.parse pattern) cs

end DocLint.Text
