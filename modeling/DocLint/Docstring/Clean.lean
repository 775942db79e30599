import DocLint.Text.Basic

/-!
DocLint.Docstring.Clean: docstrings without the indentation of the source around them.

Tabs are widened to the next multiple of eight columns, the common indentation of all lines but the
first is removed, and empty lines at both ends are dropped.
-/

namespace DocLint.Docstring

/-- Widens tabs, where `column` characters stand on the line so far. -/
def expandTabs (column : Nat) : Text → Text
  | [] => []
  | c :: cs =>
    if c == '\t' then
      let width := 8 - column % 8
      List.replicate width ' ' ++ expandTabs (column + width) cs
    else if c == '\n' || c == '\r' then c :: expandTabs 0 cs
    else c :: expandTabs (column + 1) cs

/-- The least indentation of the lines that are not blank. -/
def margin (lines : List Text) : Option Nat :=
  ((lines.filter fun l => !(Text.trimLeft l).isEmpty).map Text.indent).min?

/-- Drops the empty lines at both ends. -/
def dropEmptyEnds (lines : List Text) : List Text :=
  ((lines.reverse.dropWhile (·.isEmpty)).reverse).dropWhile (·.isEmpty)

/-- Removes the indentation of the source from a docstring. -/
def clean (doc : Text) : Text :=
  match Text.lines (expandTabs 0 doc) with
  | [] => []
  | first :: rest =>
    let rest := match margin rest with
      | some m => rest.map (·.drop m)
      | none => rest
    Text.joinWith ['\n'] (dropEmptyEnds (Text.trimLeft first :: rest))

end DocLint.Docstring
