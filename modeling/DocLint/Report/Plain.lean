import DocLint.Report.Output

/-!
DocLint.Report.Plain: output as plain text.

Marks are left out and escaped ones are shown. Tables and frames are drawn with a few ASCII characters.
-/

namespace DocLint.Report

/-- A text without its marks. `slashes` is the number of backslashes directly in front: in front of a
mark each two of them stand for one, and one more shows the mark. -/
def dropMarks (slashes : Nat) : (fuel : Nat) → Text → Text
  | 0, cs => List.replicate slashes '\\' ++ cs
  | _, [] => List.replicate slashes '\\'
  | fuel + 1, c :: cs =>
    if c == '\\' then dropMarks (slashes + 1) fuel cs
    else
      let plain := List.replicate slashes '\\' ++ c :: dropMarks 0 fuel cs
      if c == '[' then
        match mark? cs with
        | some (mark, rest) =>
          List.replicate (slashes / 2) '\\' ++ (if slashes % 2 == 1 then mark else []) ++
            dropMarks 0 fuel rest
        | none => plain
      else plain

/-- A text with markup as plain text. -/
def unmarked (s : String) : String :=
  let cs := s.toList
  String.ofList (dropMarks 0 cs.length cs)

/-- A line under a title. -/
def rule (title : String) : String :=
  title ++ "\n" ++ String.ofList (List.replicate title.length '-')

/-- A row of a table as one line; the lines of a cell are put in one. -/
def rowText (cells : List String) : String :=
  " | ".intercalate (cells.map fun c => " ".intercalate
    ((Text.lines (unmarked c).toList).map String.ofList))

/-- A piece of output as plain text. -/
def Output.text (help : String) : Output → String
  | .print texts => " ".intercalate (texts.map unmarked)
  | .table headers rows => "\n".intercalate (rule (rowText headers) :: rows.map rowText)
  | .panel title body => rule title ++ "\n" ++ unmarked body
  | .line text => text
  | .help => help
  | .banner title => rule title

end DocLint.Report
