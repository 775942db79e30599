import DocLint.Check.Docstring

/-!
DocLint.Report.Message: the messages of a finding, taken apart and shown.

`parts` undoes what joins the messages of a finding. `escape` makes sure that brackets in a message are
not taken for markup.
-/

namespace DocLint.Report

open Text (trim)

/-! ## Taking apart -/

/-- The parts of a joined message, without the blanks around them; empty parts are left out, unless
nothing is joined. -/
def parts (message : String) : List String :=
  let cs := message.toList
  let sep := messageSeparator.toList
  if Text.contains cs sep then
    (((Text.splitOn sep cs).map trim).filter (!·.isEmpty)).map String.ofList
  else [String.ofList (trim cs)]

/-- The messages as a list, one line each, that ends in a full stop. Empty parts have no line, unless
nothing is joined. -/
def bulleted (message : String) : String :=
  let cs := message.toList
  let sep := messageSeparator.toList
  if Text.contains cs sep then
    let kept := (Text.splitOn sep cs).filter fun piece => !(trim piece).isEmpty
    ";\n".intercalate (kept.map fun piece => "- " ++ String.ofList (trim piece)) ++ "."
  else "- " ++ String.ofList (trim cs) ++ "."

/-- The number of messages in a joined message; empty ones do not count, unless nothing is joined. -/
def messageCount (message : String) : Nat :=
  let cs := message.toList
  let sep := messageSeparator.toList
  if Text.contains cs sep then
    ((Text.splitOn sep cs).filter fun piece => !(trim piece).isEmpty).length
  else 1

/-! ## Markup -/

/-- Whether a character may follow the opening bracket of a mark. -/
def startsMark (c : Char) : Bool :=
  ('a' ≤ c && c ≤ 'z') || c == '#' || c == '/' || c == '@'

/-- The text up to the end of the mark in front of a text, which follows the opening bracket, and what
follows it. A mark holds no opening bracket. -/
def mark? : Text → Option (Text × Text)
  | c :: cs =>
    let inner := cs.takeWhile fun d => d != '[' && d != ']'
    match cs.drop inner.length with
    | ']' :: rest => if startsMark c then some ('[' :: c :: inner ++ [']'], rest) else none
    | _ => none
  | [] => none

/-- Escapes marks: the backslashes in front are doubled and one more is put there. `slashes` is the
number of backslashes directly in front. -/
def escapeMarks (slashes : Nat) : (fuel : Nat) → Text → Text
  | 0, cs => List.replicate slashes '\\' ++ cs
  | _, [] => List.replicate slashes '\\'
  | fuel + 1, c :: cs =>
    if c == '\\' then escapeMarks (slashes + 1) fuel cs
    else
      let plain := List.replicate slashes '\\' ++ c :: escapeMarks 0 fuel cs
      if c == '[' then
        match mark? cs with
        | some (mark, rest) =>
          List.replicate (2 * slashes + 1) '\\' ++ mark ++ escapeMarks 0 fuel rest
        | none => plain
      else plain

/-- A text that is shown as it is. A single backslash at the end is doubled, since it would escape what
follows. -/
def escape (cs : Text) : Text :=
  let cs := escapeMarks 0 cs.length cs
  match cs.reverse with
  | '\\' :: '\\' :: _ => cs
  | '\\' :: _ => cs ++ ['\\']
  | _ => cs

/-- A text in a colour. -/
def coloured (colour text : String) : String :=
  "[" ++ colour ++ "]" ++ text ++ "[/" ++ colour ++ "]"

end DocLint.Report
