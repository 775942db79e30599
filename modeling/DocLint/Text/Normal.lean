import DocLint.Text.Basic
import DocLint.Text.Table.Normal

/-!
DocLint.Text.Normal: the compatibility normal form of identifiers.

Two spellings of an identifier are the same name if their compatibility compositions (NFKC) agree:
every character is decomposed, marks are put in canonical order, and what can be composed is
composed again. Hangul syllables are computed, all else is looked up in `DocLint.Text.Table`.
-/

namespace DocLint.Text

/-! ## Tables -/

/-- A run of code points and what the first of them is mapped to. -/
structure Run where
  /-- The first code point. -/
  first : Nat
  /-- The last code point. -/
  last : Nat
  /-- The images of the first code point. -/
  images : List Nat

/-- A number written in base sixteen. -/
def readHex (cs : Text) : Nat :=
  digitsValue 16 digitValue cs

/-- Reads `code:images` or `code+n:image`. -/
def readRun (entry : Text) : Run :=
  let images := ((entry.dropWhile (· != ':')).drop 1 |> splitBy (· == ',')).map readHex
  let key := entry.takeWhile (· != ':')
  let first := readHex (key.takeWhile (· != '+'))
  ⟨first, first + readHex ((key.dropWhile (· != '+')).drop 1), images⟩

/-- Reads the runs of a table. -/
def readRuns (table : List String) : List Run :=
  table.flatMap fun line => (words line.toList).map readRun

/-- The decompositions as runs. -/
def decompositionRuns : List Run := readRuns Table.decompositions

/-- The compositions as runs. -/
def compositionRuns : List Run := readRuns Table.compositions

/-- The combining classes as runs. -/
def classRuns : List Run := readRuns Table.combiningClasses

/-- The run that holds a code point. -/
def runOf (rs : List Run) (n : Nat) : Option Run :=
  rs.find? fun r => r.first ≤ n && n ≤ r.last

/-! ## Decomposition, canonical order, composition -/

/-- The full compatibility decomposition of a code point. -/
def decompose (n : Nat) : List Nat :=
  if n < 0x80 then [n]
  else if 0xAC00 ≤ n && n ≤ 0xD7A3 then
    let s := n - 0xAC00
    let lead := [0x1100 + s / 588, 0x1161 + s % 588 / 28]
    if s % 28 == 0 then lead else lead ++ [0x11A7 + s % 28]
  else match runOf decompositionRuns n with
    | none => [n]
    | some r => match r.images with
      | [m] => [m + (n - r.first)]
      | ms => ms

/-- The combining class of a code point; starters have class zero. -/
def combiningClass (n : Nat) : Nat :=
  if n < 0x300 then 0
  else match runOf classRuns n with
    | some r => r.images.headD 0
    | none => 0

/-- Puts a mark in front of the marks that do not have to precede it. -/
def placeMark (n : Nat) : List Nat → List Nat
  | [] => [n]
  | m :: ms =>
    if combiningClass m != 0 && combiningClass m < combiningClass n then m :: placeMark n ms
    else n :: m :: ms

/-- Marks after a starter, in the order of their classes; equal classes keep their order. -/
def canonicalOrder (ns : List Nat) : List Nat :=
  ns.foldr placeMark []

/-- The character composed of two. -/
def composite (a b : Nat) : Option Nat :=
  if 0x1100 ≤ a && a ≤ 0x1112 && 0x1161 ≤ b && b ≤ 0x1175 then
    some (0xAC00 + ((a - 0x1100) * 21 + (b - 0x1161)) * 28)
  else if 0xAC00 ≤ a && a ≤ 0xD7A3 && (a - 0xAC00) % 28 == 0 && 0x11A8 ≤ b && b ≤ 0x11C2 then
    some (a + (b - 0x11A7))
  else (compositionRuns.find? fun r => r.images == [a, b]).map (·.first)

/-- Composes a starter with the marks after it that are not blocked; `between` holds those that
stay, the last one first. -/
def composeFrom (starter : Nat) (between : List Nat) : List Nat → List Nat
  | [] => starter :: between.reverse
  | n :: ns =>
    let blocked := match between with
      | [] => false
      | m :: _ => combiningClass n ≤ combiningClass m
    match if blocked then none else composite starter n with
    | some c => composeFrom c between ns
    | none =>
      if combiningClass n == 0 then starter :: between.reverse ++ composeFrom n [] ns
      else composeFrom starter (n :: between) ns

/-- Composes a list of code points. -/
def compose : List Nat → List Nat
  | [] => []
  | n :: ns => if combiningClass n == 0 then composeFrom n [] ns else n :: compose ns

/-- The compatibility composition of a text. -/
def normalize (cs : Text) : Text :=
  if cs.all fun c => c.toNat < 0x80 then cs
  else (compose (canonicalOrder (cs.flatMap fun c => decompose c.toNat))).map Char.ofNat

end DocLint.Text
