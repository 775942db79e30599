import DocLint.Diagnosis
import DocLint.Number.Shortest
import DocLint.Text.Quoted
import DocLint.Value.Basic

/-!
DocLint.Value.Show: values as text.

`literal` writes a value as a literal: texts in quotes, lists in brackets, tables in braces. `plain`
writes a text as itself and everything else as `literal` does, apart from points in time. Integers with
too many digits are not written: `isWritable` tells whether a value holds none.
-/

namespace DocLint

open Number (natText intText)

/-- A number in at least `width` digits. -/
def padded (width n : Nat) : String :=
  let ds := Nat.toDigits 10 n
  String.ofList (List.replicate (width - ds.length) '0' ++ ds)

namespace Date

/-- A day as `2020-01-31`. -/
def plain (d : Date) : String :=
  padded 4 d.year ++ "-" ++ padded 2 d.month ++ "-" ++ padded 2 d.day

/-- The parts of a day. -/
def parts (d : Date) : List Nat := [d.year, d.month, d.day]

end Date

namespace Clock

/-- A time as `07:32:00`, with six digits more if it has a fraction. -/
def plain (t : Clock) : String :=
  padded 2 t.hour ++ ":" ++ padded 2 t.minute ++ ":" ++ padded 2 t.second ++
    (if t.micro == 0 then "" else "." ++ padded 6 t.micro)

/-- The parts of a time, without trailing zeros after the minutes. -/
def parts (t : Clock) : List Nat :=
  [t.hour, t.minute] ++
    (if t.micro != 0 then [t.second, t.micro] else if t.second != 0 then [t.second] else [])

end Clock

namespace Moment

/-- Arguments in parentheses. -/
def callText (name : String) (args : List Nat) (more : String) : String :=
  name ++ "(" ++ ", ".intercalate (args.map natText) ++ more ++ ")"

/-- An offset from universal time as a literal. -/
def zoneText (minutes : Int) : String :=
  if minutes == 0 then "datetime.timezone.utc"
  else
    let seconds := minutes * 60
    let inner := if seconds < 0 then "days=-1, seconds=" ++ intText (seconds + 86400)
      else "seconds=" ++ intText seconds
    "datetime.timezone(datetime.timedelta(" ++ inner ++ "))"

/-- A point in time as a literal. -/
def literal : Moment → String
  | .date d => callText "datetime.date" d.parts ""
  | .time t => callText "datetime.time" t.parts ""
  | .atTime d t => callText "datetime.datetime" (d.parts ++ t.parts) ""
  | .atOffset d t minutes =>
    callText "datetime.datetime" (d.parts ++ t.parts) (", tzinfo=" ++ zoneText minutes)

/-- An offset as `+01:00`. -/
def offsetText (minutes : Int) : String :=
  (if minutes < 0 then "-" else "+") ++ padded 2 (minutes.natAbs / 60) ++ ":" ++
    padded 2 (minutes.natAbs % 60)

/-- A point in time as text. -/
def plain : Moment → String
  | .date d => d.plain
  | .time t => t.plain
  | .atTime d t => d.plain ++ " " ++ t.plain
  | .atOffset d t minutes => d.plain ++ " " ++ t.plain ++ offsetText minutes

end Moment

mutual

/-- A value as a literal. -/
def Value.literal : Value → String
  | .none => "None"
  | .bool b => if b then "True" else "False"
  | .int n => intText n
  | .float x => x.render
  | .text s => Text.quote s
  | .moment m => m.literal
  | .list vs => "[" ++ ", ".intercalate (literals vs) ++ "]"
  | .table es => "\x7b" ++ ", ".intercalate (entryLiterals es) ++ "\x7d"

/-- Values as literals. -/
def literals : List Value → List String
  | [] => []
  | v :: vs => v.literal :: literals vs

/-- Entries of a table as literals. -/
def entryLiterals : List (String × Value) → List String
  | [] => []
  | (k, v) :: es => (Text.quote k ++ ": " ++ v.literal) :: entryLiterals es

end

mutual

/-- Whether no integer of a value has too many digits. -/
def Value.isWritable : Value → Bool
  | .int n => n.natAbs < Nat.pow 10 maxDigits
  | .list vs => areWritable vs
  | .table es => areWritableEntries es
  | _ => true

/-- Whether values can be written. -/
def areWritable : List Value → Bool
  | [] => true
  | v :: vs => v.isWritable && areWritable vs

/-- Whether the values of a table can be written. -/
def areWritableEntries : List (String × Value) → Bool
  | [] => true
  | (_, v) :: es => v.isWritable && areWritableEntries es

end

/-- A value as text. -/
def Value.plain : Value → String
  | .text s => s
  | .moment m => m.plain
  | v => v.literal

end DocLint
