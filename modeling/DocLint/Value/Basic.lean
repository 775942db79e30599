import DocLint.Entries
import DocLint.Number.Double

/-!
DocLint.Value.Basic: values of any type, as configuration files hold them.

A configuration file may put a value of any type in any place. Values are kept as they are read,
because they are shown in messages and compared with one another before their types are known to
fit; a value that does not fit gives a `Fault`.
-/

namespace DocLint

open Number (Double)

/-- A day. -/
structure Date where
  /-- The year. -/
  year : Nat
  /-- The month, from 1. -/
  month : Nat
  /-- The day, from 1. -/
  day : Nat
  deriving DecidableEq, Repr

/-- A time of day. -/
structure Clock where
  /-- The hour. -/
  hour : Nat
  /-- The minute. -/
  minute : Nat
  /-- The second. -/
  second : Nat
  /-- The microsecond. -/
  micro : Nat
  deriving DecidableEq, Repr

/-- A point in time, or a part of one. -/
inductive Moment where
  /-- A day. -/
  | date (d : Date)
  /-- A time of day. -/
  | time (t : Clock)
  /-- A day and a time. -/
  | atTime (d : Date) (t : Clock)
  /-- A day and a time that is `minutes` ahead of universal time. -/
  | atOffset (d : Date) (t : Clock) (minutes : Int)
  deriving DecidableEq, Repr

/-- A value of any type. -/
inductive Value where
  /-- No value. -/
  | none
  /-- A truth value. -/
  | bool (b : Bool)
  /-- An integer. -/
  | int (n : Int)
  /-- A floating-point number. -/
  | float (x : Double)
  /-- A text. -/
  | text (s : String)
  /-- A point in time. -/
  | moment (m : Moment)
  /-- A list. -/
  | list (vs : List Value)
  /-- A table, with its keys in the order in which they were first set. -/
  | table (es : List (String × Value))
  deriving Inhabited, Repr

/-- A table of values. -/
abbrev Table := Entries String Value

/-- A use of a value that its type does not allow. -/
inductive Fault where
  /-- An attribute that the type lacks. -/
  | noAttribute (type member : String)
  /-- Iterating over a value that holds nothing. -/
  | notIterable (type : String)
  /-- Looking for a member of a value that holds nothing. -/
  | notContainer (type : String)
  /-- An order between types that have none. -/
  | notComparable (left right : String)
  /-- An order between a day and a day with a time. -/
  | dateAndTime
  /-- An order between times with and without an offset. -/
  | mixedOffsets
  /-- A member of a set that cannot be one. -/
  | unhashable (type : String)
  /-- A text with a text for an index. -/
  | textIndex
  /-- A list with a text for an index. -/
  | listIndex
  /-- Looking a value up in one that holds nothing. -/
  | notSubscriptable (type : String)
  /-- A text where a value cannot be made one. -/
  | notText (type : String)
  /-- An annotation that cannot be written without a backslash. -/
  | unwritten
  deriving DecidableEq, Repr

/-- The message of a fault. -/
def Fault.message : Fault → String
  | .noAttribute type member => "'" ++ type ++ "' object has no attribute '" ++ member ++ "'"
  | .notIterable type => "'" ++ type ++ "' object is not iterable"
  | .notContainer type => "argument of type '" ++ type ++ "' is not iterable"
  | .notComparable left right =>
    "'<' not supported between instances of '" ++ left ++ "' and '" ++ right ++ "'"
  | .dateAndTime => "can't compare datetime.datetime to datetime.date"
  | .mixedOffsets => "can't compare offset-naive and offset-aware datetimes"
  | .unhashable type => "unhashable type: '" ++ type ++ "'"
  | .textIndex => "string indices must be integers, not 'str'"
  | .listIndex => "list indices must be integers or slices, not str"
  | .notSubscriptable type => "'" ++ type ++ "' object is not subscriptable"
  | .notText type => "decoding to str: need a bytes-like object, " ++ type ++ " found"
  | .unwritten => "Unable to avoid backslash in f-string expression part"

namespace Value

/-- The name of a value's type in messages. -/
def typeName : Value → String
  | .none => "NoneType"
  | .bool _ => "bool"
  | .int _ => "int"
  | .float _ => "float"
  | .text _ => "str"
  | .moment (.date _) => "datetime.date"
  | .moment (.time _) => "datetime.time"
  | .moment _ => "datetime.datetime"
  | .list _ => "list"
  | .table _ => "dict"

/-- Whether a value counts as true: not if it is zero or empty. -/
def truthy : Value → Bool
  | .none => false
  | .bool b => b
  | .int n => n != 0
  | .float x => !x.isZero
  | .text s => !s.isEmpty
  | .moment _ => true
  | .list vs => !vs.isEmpty
  | .table es => !es.isEmpty

/-- The text of a value that is one. -/
def text? : Value → Option String
  | .text s => some s
  | _ => .none

end Value

end DocLint
