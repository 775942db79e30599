/-!
DocLint.Number.Double: binary floating-point numbers with 53 bits of precision, held exactly.

A finite number is a sign, a whole significand and a power of two, so that reading a decimal and
comparing with an integer are exact computations on integers. `ofDecimal` rounds to the nearest
number and sends a half to the even neighbour.
-/

namespace DocLint.Number

/-- A floating-point number. -/
inductive Double where
  /-- `significand * 2 ^ exponent`, negated if `negative`. -/
  | finite (negative : Bool) (significand : Nat) (exponent : Int)
  /-- An infinity. -/
  | infinite (negative : Bool)
  /-- Not a number. -/
  | nan
  deriving DecidableEq, Repr, Inhabited

/-- The quotient of two natural numbers, rounded to the nearest whole number, a half to the even
one. -/
def roundDiv (num den : Nat) : Nat :=
  let q := num / den
  let r := num % den
  if 2 * r < den then q
  else if den < 2 * r then q + 1
  else q + q % 2

/-- `num * 2 ^ e` as a pair of numerator and denominator. -/
def scaleTwo (num den : Nat) (e : Int) : Nat × Nat :=
  if 0 ≤ e then (num * Nat.pow 2 e.toNat, den) else (num, den * Nat.pow 2 (-e).toNat)

namespace Double

/-- The least exponent of a finite number. -/
def minExponent : Int := -1074

/-- The greatest exponent of a finite number. -/
def maxExponent : Int := 971

/-- The number nearest to `num / den`, for positive `den`. -/
def ofRatio (negative : Bool) (num den : Nat) : Double :=
  if num == 0 then .finite negative 0 minExponent
  else
    let guess : Int := (num.log2 : Int) - (den.log2 : Int) - 52
    -- `guess` may be one too large for a significand of 53 bits.
    let fits (e : Int) : Bool := let (n, d) := scaleTwo num den (-e); decide (d * Nat.pow 2 52 ≤ n)
    let e := max minExponent (if fits guess then guess else guess - 1)
    let (n, d) := scaleTwo num den (-e)
    let m := roundDiv n d
    let (m, e) := if m == Nat.pow 2 53 then (Nat.pow 2 52, e + 1) else (m, e)
    if maxExponent < e then .infinite negative else .finite negative m e

/-- The number nearest to `digits * 10 ^ exponent`. -/
def ofDecimal (negative : Bool) (digits : Nat) (exponent : Int) : Double :=
  let magnitude : Int := (Nat.toDigits 10 digits).length + exponent
  if digits == 0 || magnitude < -400 then .finite negative 0 minExponent
  else if 400 < magnitude then .infinite negative
  else if 0 ≤ exponent then ofRatio negative (digits * Nat.pow 10 exponent.toNat) 1
  else ofRatio negative digits (Nat.pow 10 (-exponent).toNat)

/-- A comparison key for numbers other than `nan`: the infinities lie outside all others. -/
inductive Key where
  /-- Below every finite number. -/
  | bottom
  /-- The rational number `num / den`. -/
  | ratio (num : Int) (den : Nat)
  /-- Above every finite number. -/
  | top

/-- The order of the keys. -/
def Key.lt : Key → Key → Bool
  | .bottom, .bottom => false
  | .bottom, _ => true
  | _, .bottom => false
  | .top, _ => false
  | .ratio _ _, .top => true
  | .ratio a b, .ratio c d => a * d < c * b

/-- Equality of the keys as numbers. -/
def Key.same : Key → Key → Bool
  | .bottom, .bottom => true
  | .top, .top => true
  | .ratio a b, .ratio c d => a * d == c * b
  | _, _ => false

/-- The key of a number, unless it is `nan`. -/
def key? : Double → Option Key
  | .nan => none
  | .infinite true => some .bottom
  | .infinite false => some .top
  | .finite negative m e =>
    let (n, d) := scaleTwo m 1 e
    some (.ratio (if negative then -n else n) d)

/-- Whether the number is zero. -/
def isZero : Double → Bool
  | .finite _ m _ => m == 0
  | _ => false

end Double

end DocLint.Number
