import DocLint.Value.Basic

/-!
DocLint.Value.Order: equality and order of values.

Numbers of all types are compared as numbers, and truth values count as 0 and 1; not-a-number equals
nothing. Values of types without a common order give a fault, and a sort gives the fault of the first
comparison that it makes.
-/

namespace DocLint

open Number (Double)

namespace Moment

/-- Days since a fixed day. -/
def dayNumber (d : Date) : Int :=
  let y : Int := if d.month ≤ 2 then (d.year : Int) - 1 else d.year
  let m : Int := if d.month ≤ 2 then d.month + 9 else d.month - 3
  365 * y + Int.fdiv y 4 - Int.fdiv y 100 + Int.fdiv y 400 + Int.fdiv (153 * m + 2) 5 + d.day

/-- Microseconds since midnight. -/
def microNumber (t : Clock) : Int :=
  (((t.hour * 60 + t.minute) * 60 + t.second) * 1000000 + t.micro : Nat)

/-- Microseconds since a fixed day. -/
def instant (d : Date) (t : Clock) (minutes : Int) : Int :=
  dayNumber d * 86400000000 + microNumber t - minutes * 60000000

/-- Whether two points in time are the same. -/
def same : Moment → Moment → Bool
  | .atOffset d t m, .atOffset d' t' m' => instant d t m == instant d' t' m'
  | a, b => a == b

/-- Whether one point in time lies before another. -/
def lt : Moment → Moment → Except Fault Bool
  | .date a, .date b => .ok (dayNumber a < dayNumber b)
  | .time a, .time b => .ok (microNumber a < microNumber b)
  | .atTime d t, .atTime d' t' => .ok (instant d t 0 < instant d' t' 0)
  | .atOffset d t m, .atOffset d' t' m' => .ok (instant d t m < instant d' t' m')
  | .atTime .., .atOffset .. => .error .mixedOffsets
  | .atOffset .., .atTime .. => .error .mixedOffsets
  | .time a, b => .error (.notComparable (Value.moment (.time a)).typeName (Value.moment b).typeName)
  | a, .time b => .error (.notComparable (Value.moment a).typeName (Value.moment (.time b)).typeName)
  | .date _, _ => .error .dateAndTime
  | _, .date _ => .error .dateAndTime

end Moment

namespace Value

/-- The number of a value that is one, unless it is not-a-number. -/
def number? : Value → Option Double.Key
  | .bool b => some (.ratio (if b then 1 else 0) 1)
  | .int n => some (.ratio n 1)
  | .float x => x.key?
  | _ => .none

/-- Whether a value is a number of some type. -/
def isNumber : Value → Bool
  | .bool _ => true
  | .int _ => true
  | .float _ => true
  | _ => false

mutual

/-- Whether two values are equal. -/
def same (a b : Value) : Bool :=
  match a, b with
  | .none, .none => true
  | .text s, .text t => s == t
  | .moment m, .moment n => m.same n
  | .list vs, .list ws => sameAll vs ws
  | .table es, .table fs => es.length == fs.length && sameEntries es fs
  | a, b =>
    match a.number?, b.number? with
    | some x, some y => x.same y
    | _, _ => false

/-- Whether two lists are equal. -/
def sameAll : List Value → List Value → Bool
  | [], [] => true
  | v :: vs, w :: ws => same v w && sameAll vs ws
  | _, _ => false

/-- Whether every entry of one table is one of another. -/
def sameEntries : List (String × Value) → List (String × Value) → Bool
  | [], _ => true
  | (k, v) :: es, fs =>
    (match fs.lookup k with
      | some w => same v w
      | .none => false) && sameEntries es fs

end

/-- Whether a value can be a member of a set. -/
def isHashable : Value → Bool
  | .list _ => false
  | .table _ => false
  | _ => true

mutual

/-- Whether one value lies before another. -/
def lt (a b : Value) : Except Fault Bool :=
  match a, b with
  | .text s, .text t => .ok (s < t)
  | .moment m, .moment n => m.lt n
  | .list vs, .list ws => ltAll vs ws
  | a, b =>
    if a.isNumber && b.isNumber then
      match a.number?, b.number? with
      | some x, some y => .ok (x.lt y)
      | _, _ => .ok false
    else .error (.notComparable a.typeName b.typeName)

/-- Whether one list lies before another: their first unequal members decide. -/
def ltAll : List Value → List Value → Except Fault Bool
  | [], [] => .ok false
  | [], _ :: _ => .ok true
  | _ :: _, [] => .ok false
  | v :: vs, w :: ws => if same v w then ltAll vs ws else lt v w

end

end Value

/-! ## Sorting -/

section Sorting

variable {α ε : Type} (lt : α → α → Except ε Bool)

/-- How many members of a sorted list a new member goes behind, found by halving. -/
def insertionPoint (x : α) (xs : List α) : (fuel low high : Nat) → Except ε Nat
  | 0, low, _ => .ok low
  | fuel + 1, low, high => do
    if low < high then
      let mid := low + (high - low) / 2
      match xs[mid]? with
      | some y =>
        if ← lt x y then insertionPoint x xs fuel low mid
        else insertionPoint x xs fuel (mid + 1) high
      | none => pure low
    else pure low

/-- Inserts members one by one. -/
def insertAll (sorted : List α) : List α → Except ε (List α)
  | [] => .ok sorted
  | x :: rest => do
    let i ← insertionPoint lt x sorted (sorted.length + 1) 0 sorted.length
    insertAll (sorted.take i ++ x :: sorted.drop i) rest

/-- The longest run in front of a list in which each member is (`down`) or is not (otherwise) less
than the one before it; the run is answered last member first. -/
def leadingRun (down : Bool) (run : List α) (last : α) : List α → Except ε (List α × List α)
  | [] => .ok (last :: run, [])
  | x :: rest => do
    if (← lt x last) == down then leadingRun down (last :: run) x rest
    else pure (last :: run, x :: rest)

/-- Sorts a list, keeping the order of members of which neither is less. A leading run that ascends or
descends is kept or reversed, and the members after it are inserted. -/
def sortBy? (xs : List α) : Except ε (List α) :=
  match xs with
  | a :: b :: rest => do
    let down ← lt b a
    let (run, rest) ← leadingRun lt down [a] b rest
    insertAll lt (if down then run else run.reverse) rest
  | xs => .ok xs

end Sorting

end DocLint
