/-!
DocLint.Diagnosis: what is said of a text that cannot be parsed, and of an integer that is too long.
-/

namespace DocLint

/-- What parsers say of texts that they cannot parse. Where and why a parser gives up is its own affair:
its words are given, and may be any. -/
structure Diagnoses where
  /-- Of source code. -/
  source : List Char → String := fun _ => "invalid syntax"
  /-- Of a configuration document. -/
  document : List Char → String := fun _ => "invalid document"

/-- The most decimal digits of an integer that is read or written. -/
def maxDigits : Nat := 4300

/-- What is said of an integer with more digits; `detail` tells how many, where that is known. -/
def digitsDiagnosis (detail : String) : String :=
  "Exceeds the limit (" ++ toString maxDigits ++ " digits) for integer string conversion" ++ detail ++
    "; use sys.set_int_max_str_digits() to increase the limit"

end DocLint
