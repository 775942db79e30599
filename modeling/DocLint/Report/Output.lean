import DocLint.Report.Message
import DocLint.Workspace.Check

/-!
DocLint.Report.Output: what a check shows.

Output is a list of pieces in the order in which they appear. Results are shown as a list or as a
table, followed by a summary that counts the single messages; a quiet report is the summary alone.
-/

namespace DocLint.Report

open Text (trim)

/-- A piece of output. -/
inductive Output where
  /-- Texts with markup. -/
  | print (texts : List String)
  /-- A table. -/
  | table (headers : List String) (rows : List (List String))
  /-- A text with markup in a frame. -/
  | panel (title body : String)
  /-- A plain line. -/
  | line (text : String)
  /-- The description of the command line. -/
  | help
  /-- The name of the program in large letters. -/
  | banner (title : String)
  deriving DecidableEq, Repr

/-! ## Summary -/

/-- What is counted. -/
structure Tally where
  /-- The single messages. -/
  errors : Nat
  /-- The findings. -/
  functions : Nat
  /-- The files. -/
  files : Nat
  deriving DecidableEq, Repr

/-- Adds the findings of a file to counts. -/
def Tally.addFile (t : Tally) (fs : List Finding) : Tally :=
  { t with
    errors := fs.foldl (fun n f => n + messageCount f.message) t.errors
    functions := t.functions + fs.length }

/-- The counts of results. -/
def tally (rs : Results) : Tally :=
  rs.foldl (fun t r => t.addFile r.2) { errors := 0, functions := 0, files := rs.length }

/-- A number of things in words. -/
def counted (n : Nat) (noun : String) : String :=
  if n == 1 then "1 " ++ noun else toString n ++ " " ++ noun ++ "s"

/-- The line that tells the counts. -/
def summary (t : Tally) : Output :=
  .print [coloured "red" ("\nFound " ++ toString t.errors ++ " error(s) in " ++
    counted t.functions "function" ++ " over " ++ counted t.files "file")]

/-! ## Lists -/

/-- The line above the messages of a finding. -/
def header (f : Finding) : String :=
  let place := if 0 < f.line then "Line " ++ toString f.line else "Error"
  "  " ++ coloured "red" place ++ " - " ++ f.kind ++ " '" ++ f.name ++ "':"

/-- The lines for one message; blank ones after the first are left out. -/
def messageLines (message : String) : List String :=
  match Text.lines (escape message.toList) with
  | [] => []
  | first :: more =>
    ("    - " ++ String.ofList first) ::
      (more.filter fun l => !(trim l).isEmpty).map ("    " ++ String.ofList ·)

/-- The lines for a finding. -/
def findingLines (f : Finding) : List String :=
  header f :: (parts f.message).flatMap messageLines

/-- Results as a list. -/
def listing (rs : Results) : List Output :=
  rs.flatMap fun (file, fs) =>
    .print ["\n" ++ coloured "cyan" file] :: (fs.flatMap findingLines).map fun l => .print [l]

/-! ## Tables -/

/-- The heads of the columns. -/
def columns : List String := ["File", "Line", "Item", "Type", "Error"]

/-- The row of a finding. -/
def row (file : String) (f : Finding) : List String :=
  [file, if 0 < f.line then toString f.line else "", f.name, f.kind,
    coloured "red" (bulleted f.message)]

/-- The rows of a file, which is named in the first one only. -/
def rows (file : String) : List Finding → List (List String)
  | [] => []
  | f :: fs => row file f :: fs.map (row "")

/-- Results as a table. -/
def tabulated (rs : Results) : Output :=
  .table columns (rs.flatMap fun (file, fs) => rows file fs)

/-! ## Reports -/

/-- How results are shown. -/
inductive Format where
  | list | table
  deriving DecidableEq, Repr

/-- The format of a label; all but one give a list. -/
def Format.ofLabel (label : String) : Format :=
  if label == "table" then .table else .list

/-- The report of results. -/
def report (quiet : Bool) (format : Format) (rs : Results) : List Output :=
  if rs.isEmpty then
    if quiet then [] else [.print [coloured "green" "✅ All docstrings are valid!"]]
  else if quiet then [summary (tally rs)]
  else match format with
    | .table => [tabulated rs, summary (tally rs)]
    | .list => listing rs ++ [summary (tally rs)]

/-- The exit code for results. -/
def exitCode (rs : Results) : Nat :=
  if rs.isEmpty then 0 else 1

end DocLint.Report
