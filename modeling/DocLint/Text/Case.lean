import DocLint.Text.Class
import DocLint.Text.Table.Case

/-!
DocLint.Text.Case: lower case, title case, and equality of letters up to case.

Lowering and title-casing are those of Unicode: a capital sigma at the end of a word becomes a final
sigma, a capital I with a dot becomes two characters, and a ligature at the start of a word is
spelled out. Equality up to case, `sameLetter`, compares single characters.
-/

namespace DocLint.Text

/-- The image of `n` under a table of runs, if one of them covers it. -/
def mapRuns (runs : List (Nat × Nat × Nat × Int)) (n : Nat) : Option Nat :=
  runs.findSome? fun (lo, hi, step, delta) =>
    if lo ≤ n && n ≤ hi && (n - lo) % step == 0 then some (n + delta).toNat else none

/-- The lower-case form of one character. A capital I with a dot counts as `i` here. -/
def lowerChar (c : Char) : Char :=
  if c.toNat < 128 then
    if isCapital c then Char.ofNat (c.toNat + 32) else c
  else if c.toNat == 0x130 then 'i'
  else Char.ofNat ((mapRuns Table.lower c.toNat).getD c.toNat)

/-- Letters that have case. -/
def isCased (c : Char) : Bool :=
  if c.toNat < 128 then c.isAlpha else inRanges Table.cased c.toNat

/-- Characters that a word's case looks through, such as apostrophes and accents. -/
def isCaseIgnorable (c : Char) : Bool :=
  inRanges Table.caseIgnorable c.toNat

/-- Whether the first character that is not looked through is a letter with case. -/
def startsCased (cs : Text) : Bool :=
  match cs.dropWhile isCaseIgnorable with
  | [] => false
  | c :: _ => isCased c

/-- The lower-case form of `c` between the text before it, in reverse, and the text after it. -/
def lowerIn (before : Text) (c : Char) (after : Text) : Text :=
  if c.toNat == 0x3A3 then
    if startsCased before && !startsCased after then [Char.ofNat 0x3C2] else [Char.ofNat 0x3C3]
  else if c.toNat == 0x130 then ['i', Char.ofNat 0x307]
  else [lowerChar c]

/-- Lower-cases `cs`, where `before` is the text already passed, in reverse. -/
def lowerFrom (before : Text) : Text → Text
  | [] => []
  | c :: cs => lowerIn before c cs ++ lowerFrom (c :: before) cs

/-- The lower-case form of a text. -/
def lower (cs : Text) : Text :=
  lowerFrom [] cs

/-- The title-case form of one character. -/
def titleChar (c : Char) : Text :=
  if c.toNat < 128 then
    if 'a' ≤ c && c ≤ 'z' then [Char.ofNat (c.toNat - 32)] else [c]
  else match Table.titleSpecial.lookup c.toNat with
    | some ns => ns.map Char.ofNat
    | none => [Char.ofNat ((mapRuns Table.title c.toNat).getD c.toNat)]

/-- Title-cases `cs`, where `before` is the text already passed, in reverse. -/
def titleFrom (before : Text) : Text → Text
  | [] => []
  | c :: cs =>
    let inWord := match before with
      | [] => false
      | b :: _ => isCased b
    (if inWord then lowerIn before c cs else titleChar c) ++ titleFrom (c :: before) cs

/-- The title-case form of a text: each run of letters starts with a capital. -/
def title (cs : Text) : Text :=
  titleFrom [] cs

/-- Whether two characters are the same letter up to case. -/
def sameLetter (a b : Char) : Bool :=
  let x := (lowerChar a).toNat
  let y := (lowerChar b).toNat
  x == y || Table.lowerClasses.any fun ns => ns.contains x && ns.contains y

/-- The lower-case form of a string, as text. -/
def lowered (s : String) : Text :=
  lower s.toList

/-- The title-case form of a string. -/
def titled (s : String) : String :=
  String.ofList (title s.toList)

end DocLint.Text
