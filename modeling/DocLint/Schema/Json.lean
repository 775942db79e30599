import DocLint.Number.Shortest
import DocLint.Text.Quoted
import DocLint.Value.Basic

/-!
DocLint.Schema.Json: values as JSON.

Tables and lists are written one member a line, indented by four blanks a level. All characters beyond
ASCII are escaped. Points in time have no form in JSON: the text ends where one would stand.
-/

namespace DocLint.Schema

open Text (hexText)

/-- A code unit of sixteen bits as an escape. -/
def unitText (n : Nat) : Text :=
  '\\' :: 'u' :: hexText 4 n

/-- A character in a JSON text. Characters beyond the first 65536 take two units. -/
def charText (c : Char) : Text :=
  let n := c.toNat
  if c == '"' then ['\\', '"']
  else if c == '\\' then ['\\', '\\']
  else if c == '\n' then ['\\', 'n']
  else if c == '\r' then ['\\', 'r']
  else if c == '\t' then ['\\', 't']
  else if n == 0x0C then ['\\', 'f']
  else if n == 0x08 then ['\\', 'b']
  else if 0x20 ≤ n && n ≤ 0x7E then [c]
  else if n < 0x10000 then unitText n
  else unitText (0xD800 + (n - 0x10000) / 0x400) ++ unitText (0xDC00 + (n - 0x10000) % 0x400)

/-- A text in JSON. -/
def quotedText (s : String) : String :=
  String.ofList ('"' :: s.toList.flatMap charText ++ ['"'])

/-- A floating-point number in JSON, which has names for those that are not finite. -/
def floatText (x : Number.Double) : String :=
  match x with
  | .infinite negative => if negative then "-Infinity" else "Infinity"
  | .nan => "NaN"
  | x => x.render

/-- The name of a point in time's type, without the module. -/
def momentType : Moment → String
  | .date _ => "date"
  | .time _ => "time"
  | _ => "datetime"

/-- A piece of JSON, or the type of a value that has no form there. -/
abbrev Piece := Except String String

/-- A new line at a level. -/
def newLine (level : Nat) : Piece :=
  .ok (String.ofList ('\n' :: List.replicate (4 * level) ' '))

mutual

/-- The pieces of a value at a level. -/
def pieces (level : Nat) : Value → List Piece
  | .none => [.ok "null"]
  | .bool b => [.ok (if b then "true" else "false")]
  | .int n => [.ok (Number.intText n)]
  | .float x => [.ok (floatText x)]
  | .text s => [.ok (quotedText s)]
  | .moment m => [.error (momentType m)]
  | .list [] => [.ok "[]"]
  | .list (v :: vs) =>
    .ok "[" :: newLine (level + 1) :: pieces (level + 1) v ++ memberPieces (level + 1) vs ++
      [newLine level, .ok "]"]
  | .table [] => [.ok "\x7b\x7d"]
  | .table ((k, v) :: es) =>
    .ok "\x7b" :: newLine (level + 1) :: .ok (quotedText k) :: .ok ": " :: pieces (level + 1) v ++
      entryPieces (level + 1) es ++ [newLine level, .ok "\x7d"]

/-- The pieces of the members of a list after the first. -/
def memberPieces (level : Nat) : List Value → List Piece
  | [] => []
  | v :: vs => .ok "," :: newLine level :: pieces level v ++ memberPieces level vs

/-- The pieces of the entries of a table after the first. -/
def entryPieces (level : Nat) : List (String × Value) → List Piece
  | [] => []
  | (k, v) :: es =>
    .ok "," :: newLine level :: .ok (quotedText k) :: .ok ": " :: pieces level v ++
      entryPieces level es

end

/-- The text of pieces up to the first that has no form, and the type of that one. -/
def joinPieces : List Piece → String × Option String
  | [] => ("", none)
  | .ok s :: ps =>
    let (rest, bad) := joinPieces ps
    (s ++ rest, bad)
  | .error type :: _ => ("", some type)

/-- A value as JSON, up to the first value that has no form there, and the type of that one. -/
def jsonText (v : Value) : String × Option String :=
  joinPieces (pieces 0 v)

end DocLint.Schema
