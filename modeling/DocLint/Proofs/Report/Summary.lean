import DocLint.Proofs.Text.Lines
import DocLint.Report.Output
import Mathlib.Algebra.Ring.Nat
import Mathlib.Data.List.Forall2

/-!
DocLint.Proofs.Report.Summary: the summary counts what is displayed.

A joined message is taken apart in three places: for the lines of a list, for a cell of a table, and to be
counted. Each has its own rule for pieces that are blank and for a message in which nothing is joined. The
three agree with `parts` (`bulleted_eq`, `messageCount_eq`), so that list, table and summary tell of the same
messages.
-/

namespace DocLint.Report

open Text (trim)

/-! ## §1. One way to take a message apart. -/

/-- Texts as a list, one line each, that ends in a full stop. -/
def itemized (ts : List String) : String :=
  ";\n".intercalate (ts.map ("- " ++ ·)) ++ "."

/-- The pieces between separators that are not blank. -/
def keptPieces (message : String) : List Text :=
  (Text.splitOn messageSeparator.toList message.toList).filter fun piece => !(trim piece).isEmpty

/-- The parts are the pieces that are not blank, or the whole message if nothing is joined. -/
theorem parts_eq (message : String) :
    parts message = if Text.contains message.toList messageSeparator.toList then
      (keptPieces message).map (fun piece => String.ofList (trim piece))
    else [String.ofList (trim message.toList)] := by
  unfold parts keptPieces
  -- blank pieces go after trimming here and before it there
  simp only [List.filter_map, List.map_map]
  rfl

theorem messageCount_eq (message : String) : messageCount message = (parts message).length := by
  rw [parts_eq]
  show (if Text.contains message.toList messageSeparator.toList then (keptPieces message).length else 1) = _
  split
  · rw [List.length_map]
  · rfl

theorem bulleted_eq (message : String) : bulleted message = itemized (parts message) := by
  rw [parts_eq]
  show (if Text.contains message.toList messageSeparator.toList then
      ";\n".intercalate ((keptPieces message).map fun piece => "- " ++ String.ofList (trim piece)) ++ "."
    else "- " ++ String.ofList (trim message.toList) ++ ".") = _
  unfold itemized
  split
  · rw [List.map_map]
    rfl
  · rw [List.map_singleton, String.intercalate_singleton]

/-! ## §2. Counting. -/

/-- The number of messages of findings. -/
def shownCount (fs : List Finding) : Nat :=
  (fs.map fun f => (parts f.message).length).sum

theorem shownCount_append (fs gs : List Finding) :
    shownCount (fs ++ gs) = shownCount fs + shownCount gs := by
  unfold shownCount
  rw [List.map_append, List.sum_append]

/-- What one file adds to the counts. -/
theorem addFile_eq (t : Tally) (fs : List Finding) :
    t.addFile fs = { t with errors := t.errors + shownCount fs, functions := t.functions + fs.length } := by
  have hloop : ∀ n, fs.foldl (fun n f => n + messageCount f.message) n = n + shownCount fs := by
    induction fs with
    | nil => intro n; rfl
    | cons f fs ih =>
      intro n
      have hcons : shownCount (f :: fs) = (parts f.message).length + shownCount fs := by
        unfold shownCount
        rw [List.map_cons, List.sum_cons]
      rw [List.foldl_cons, ih, messageCount_eq, hcons]
      omega
  unfold Tally.addFile
  rw [hloop]

/-- What several files add to the counts. -/
theorem foldl_addFile (rs : Results) (t : Tally) :
    rs.foldl (fun t r => t.addFile r.2) t
      = { t with errors := t.errors + shownCount (rs.flatMap (·.2))
                 functions := t.functions + (rs.flatMap (·.2)).length } := by
  induction rs generalizing t with
  | nil => rfl
  | cons r rs ih =>
    rw [List.foldl_cons, ih, addFile_eq, List.flatMap_cons, shownCount_append, List.length_append]
    congr 1 <;> exact Nat.add_assoc _ _ _

theorem tally_eq (rs : Results) :
    tally rs = ⟨shownCount (rs.flatMap (·.2)), (rs.flatMap (·.2)).length, rs.length⟩ := by
  unfold tally
  rw [foldl_addFile, Nat.zero_add, Nat.zero_add]

/-! ## §3. What a list shows. -/

/-- The lines that show a text: the first behind a bullet, the others indented and without blank ones. -/
def IsShown (text : Text) (block : List String) : Prop :=
  ∃ first more, Text.lines text = first :: more ∧
    block = ("    - " ++ String.ofList first) ::
      (more.filter fun l => !(trim l).isEmpty).map ("    " ++ String.ofList ·)

theorem isShown_messageLines (message : String) :
    IsShown (escape message.toList) (messageLines message) := by
  obtain ⟨first, more, hlines, -⟩ := Text.exists_lines (escape message.toList)
  refine ⟨first, more, hlines, ?_⟩
  unfold messageLines
  rw [hlines]

/-- Below its header a finding has one block of lines for each of its messages. -/
theorem exists_blocks (f : Finding) :
    ∃ blocks : List (List String), findingLines f = header f :: blocks.flatten ∧
      List.Forall₂ (fun m block => IsShown (escape m.toList) block) (parts f.message) blocks := by
  refine ⟨(parts f.message).map messageLines, ?_, ?_⟩
  · unfold findingLines
    rw [List.flatMap_def]
  · rw [List.forall₂_map_right_iff, List.forall₂_same]
    intro m _
    exact isShown_messageLines m

/-! ## §4. Agreement. -/

/-- The summary counts the messages that are displayed, the findings and the files; a table has a line for
each message, and a list has a block of lines for each message, in the same order. -/
theorem summary_counts_displayed (rs : Results) :
    (tally rs).errors = ((rs.flatMap (·.2)).map fun f => (parts f.message).length).sum ∧
      (tally rs).functions = (rs.map fun r => r.2.length).sum ∧
      (tally rs).files = (Entries.keys rs).length ∧
      (∀ message : String,
        bulleted message = ";\n".intercalate ((parts message).map ("- " ++ ·)) ++ ".") ∧
      ∀ f : Finding, ∃ blocks : List (List String), findingLines f = header f :: blocks.flatten ∧
        List.Forall₂ (fun m block => IsShown (escape m.toList) block) (parts f.message) blocks := by
  rw [tally_eq]
  refine ⟨rfl, ?_, ?_, bulleted_eq, exists_blocks⟩
  · show (rs.flatMap (·.2)).length = _
    rw [List.length_flatMap]
  · show rs.length = (rs.map (·.1)).length
    rw [List.length_map]

end DocLint.Report
