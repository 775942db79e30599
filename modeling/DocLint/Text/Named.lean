import DocLint.Text.Basic
import DocLint.Text.Table.Names.Alias
import DocLint.Text.Table.Names.From0000
import DocLint.Text.Table.Names.From0700
import DocLint.Text.Table.Names.From1000
import DocLint.Text.Table.Names.From2000
import DocLint.Text.Table.Names.From2C00
import DocLint.Text.Table.Names.From10000
import DocLint.Text.Table.Names.From12000
import DocLint.Text.Table.Names.From16000
import DocLint.Text.Table.Names.From1D000
import DocLint.Text.Table.Names.From1F000

/-!
DocLint.Text.Named: characters by their Unicode names.

The names of Hangul syllables are spelled from their letters and those of ideographs end in the code
point; all others stand in tables. The entries of a table, divided by `;`, name consecutive code
points. An entry is a digit and words: the digit says how many words of the name before it are kept in
front of its own. Where code points are left out, `code:` in front of an entry says where they go on.
-/

namespace DocLint.Text

/-! ## Names in tables -/

/-- The code points from `code` on and their names, each as its words, given the name before them. -/
def readNames (code : Nat) (before : List Text) : List Text → List (Nat × List Text)
  | [] => []
  | entry :: rest =>
    let isMarked := entry.any (· == ':')
    let code := if isMarked then digitsValue 16 digitValue (entry.takeWhile (· != ':')) else code
    let entry := if isMarked then (entry.dropWhile (· != ':')).drop 1 else entry
    let name := before.take (digitsValue 10 digitValue (entry.take 1)) ++ words (entry.drop 1)
    (code, name) :: readNames (code + 1) name rest

/-- The code point that a table gives to a name. -/
def codeInTable? (name : List Text) (table : List String) : Option Nat :=
  let entries := table.flatMap fun line => splitBy (· == ';') line.toList
  ((readNames 0 [] entries).find? (·.2 == name)).map (·.1)

/-- The tables of names in the order of code points. -/
def nameTables : List (List String) :=
  [Table.namesFrom0000, Table.namesFrom0700, Table.namesFrom1000, Table.namesFrom2000,
   Table.namesFrom2C00, Table.namesFrom10000, Table.namesFrom12000, Table.namesFrom16000,
   Table.namesFrom1D000, Table.namesFrom1F000]

/-- The code point with a second name. -/
def codeOfAlias? (name : Text) : Option Nat :=
  Table.nameAliases.findSome? fun line =>
    (splitBy (· == ';') line.toList).findSome? fun entry =>
      if entry.takeWhile (· != '=') == name then
        some (digitsValue 16 digitValue ((entry.dropWhile (· != '=')).drop 1))
      else none

/-! ## Names that are computed -/

/-- The code points of unified ideographs. -/
def unifiedIdeographs : List (Nat × Nat) :=
  [(0x3400, 0x4DBF), (0x4E00, 0x9FFF), (0x20000, 0x2A6DF), (0x2A700, 0x2B738), (0x2B740, 0x2B81D),
   (0x2B820, 0x2CEA1), (0x2CEB0, 0x2EBE0), (0x30000, 0x3134A)]

/-- Characters whose names are a stem and the code point in base sixteen. -/
def numberedStems : List (String × List (Nat × Nat)) :=
  [("CJK COMPATIBILITY IDEOGRAPH-", [(0xF900, 0xFA6D), (0xFA70, 0xFAD9), (0x2F800, 0x2FA1D)]),
   ("KHITAN SMALL SCRIPT CHARACTER-", [(0x18B00, 0x18CD5)]),
   ("NUSHU CHARACTER-", [(0x1B170, 0x1B2FB)])]

/-- The value of four or five capital digits in base sixteen. -/
def ideographCode? (cs : Text) : Option Nat :=
  let isCode (c : Char) : Bool := c.isDigit || ('A' ≤ c && c ≤ 'F')
  if (cs.length == 4 || cs.length == 5) && cs.all isCode then
    some (digitsValue 16 digitValue cs)
  else none

/-- The code point of a name that ends in it; such a name has no leading zeros. -/
def numberedCode? (name : Text) : Option Nat :=
  numberedStems.findSome? fun (stem, ranges) => do
    let code ← ideographCode? (← dropPrefix? stem.toList name)
    guard (inRanges ranges code && name.length == stem.length + (if code < 0x10000 then 4 else 5))
    pure code

/-- The names of leading consonants of Hangul syllables. -/
def hangulLeads : List String :=
  ["G", "GG", "N", "D", "DD", "R", "M", "B", "BB", "S", "SS", "", "J", "JJ", "C", "K", "T", "P", "H"]

/-- The names of vowels of Hangul syllables. -/
def hangulVowels : List String :=
  ["A", "AE", "YA", "YAE", "EO", "E", "YEO", "YE", "O", "WA", "WAE", "OE", "YO", "U", "WEO", "WE",
   "WI", "YU", "EU", "YI", "I"]

/-- The names of trailing consonants of Hangul syllables. -/
def hangulTails : List String :=
  ["", "G", "GG", "GS", "N", "NJ", "NH", "D", "L", "LG", "LM", "LB", "LS", "LT", "LP", "LH", "M",
   "B", "BS", "S", "SS", "NG", "J", "C", "K", "T", "P", "H"]

/-- The index of the longest of `parts` that `cs` starts with, and what follows it. -/
def longestPart? (parts : List String) (cs : Text) : Option (Nat × Text) :=
  let hits := parts.zipIdx.filterMap fun (part, i) =>
    (dropPrefix? part.toList cs).map fun rest => (i, rest)
  hits.foldl (fun best hit =>
    match best with
    | none => some hit
    | some b => if hit.2.length < b.2.length then some hit else some b) none

/-- The code point of a Hangul syllable spelled by its letters. -/
def hangulCode? (cs : Text) : Option Nat := do
  let (lead, rest) ← longestPart? hangulLeads cs
  let (vowel, rest) ← longestPart? hangulVowels rest
  let (tail, rest) ← longestPart? hangulTails rest
  guard rest.isEmpty
  pure (0xAC00 + (lead * 21 + vowel) * 28 + tail)

/-! ## All names -/

/-- The code point with a name. Case does not matter, except in the names of Hangul syllables and of
unified ideographs. -/
def codeNamed? (name : Text) : Option Nat :=
  match dropPrefix? "HANGUL SYLLABLE ".toList name with
  | some letters => hangulCode? letters
  | none =>
    match dropPrefix? "CJK UNIFIED IDEOGRAPH-".toList name with
    | some digits => (ideographCode? digits).filter (inRanges unifiedIdeographs)
    | none =>
      let name := name.map Char.toUpper
      let key := splitBy (· == ' ') name
      (numberedCode? name).or
        ((codeOfAlias? name).or
          (nameTables.findSome? (codeInTable? key)))

/-- The character with a name. -/
def charNamed? (name : String) : Option Char :=
  (codeNamed? name.toList).map Char.ofNat

end DocLint.Text
