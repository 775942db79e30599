import DocLint.Number.Double

/-!
DocLint.Number.Shortest: the text of a floating-point number.

`shortest` finds the fewest decimal digits that read back as the same number, and among those the
ones nearest to it: on each decimal grid only the two neighbours of the number are tried. `render`
lays the digits out, positionally from `1e-4` up to `1e16` and with an exponent elsewhere.
-/

namespace DocLint.Number

/-- Decimal digits `0.digits * 10 ^ point`. -/
structure Decimal where
  /-- The digits as one whole number, without a leading zero. -/
  digits : Nat
  /-- How many digits there are. -/
  count : Nat
  /-- Where the point stands, counted from before the first digit. -/
  point : Int

/-- The number of decimal digits of the whole part of `num / den`, or minus the number of zeros
after the point. -/
def pointOf (num den : Nat) : Int :=
  if den ≤ num then (Nat.toDigits 10 (num / den)).length
  else go 400 num 0
where
  go : Nat → Nat → Int → Int
    | 0, _, p => p
    | fuel + 1, n, p => if den ≤ n * 10 then p else go fuel (n * 10) (p - 1)

/-- The shortest digits that read back as `m * 2 ^ e`, for positive `m`. -/
def shortest (m : Nat) (e : Int) : Decimal :=
  -- Everything is measured in quarters of a unit in the last place.
  let (num, den) := scaleTwo (4 * m) 4 e
  let (unit, _) := scaleTwo 1 4 e
  let point := pointOf num den
  let below := if m == Nat.pow 2 52 && Double.minExponent < e then unit else 2 * unit
  let above := 2 * unit
  let closed := m % 2 == 0
  go point num den (num - below) (num + above) closed 1 17
where
  go (point : Int) (num den low high : Nat) (closed : Bool) (count : Nat) : Nat → Decimal
    | 0 => ⟨0, 0, point⟩
    | fuel + 1 =>
      -- One step of the grid with `count` digits is `10 ^ (point - count)`.
      let shift : Int := point - count
      let (up, down) := if 0 ≤ shift then (1, Nat.pow 10 shift.toNat) else (Nat.pow 10 (-shift).toNat, 1)
      let value := num * up
      let step := den * down
      let floor := value / step
      let inside (d : Nat) : Bool :=
        let x := d * step
        if closed then low * up ≤ x && x ≤ high * up else low * up < x && x < high * up
      let lowIn := 0 < floor && inside floor
      let highIn := inside (floor + 1)
      let pick (d : Nat) : Decimal :=
        if d == Nat.pow 10 count then ⟨1, 1, point + 1⟩ else ⟨d, count, point⟩
      if lowIn && highIn then
        let r := value - floor * step
        if 2 * r < step || (2 * r == step && floor % 2 == 0) then pick floor else pick (floor + 1)
      else if lowIn then pick floor
      else if highIn then pick (floor + 1)
      else go point num den low high closed (count + 1) fuel

/-- A whole number in decimal digits. -/
def natText (n : Nat) : String :=
  String.ofList (Nat.toDigits 10 n)

/-- An integer in decimal digits, with a minus sign in front if it is negative. -/
def intText (n : Int) : String :=
  if n < 0 then "-" ++ natText n.natAbs else natText n.natAbs

/-- Lays out decimal digits: positionally while the point stands between three places before the
digits and sixteen after their start, and with an exponent of at least two digits elsewhere. `whole`
is written after a positional number without a fraction. -/
def layout (whole : String) (d : Decimal) : String :=
  let digits := Nat.toDigits 10 d.digits
  let n : Int := digits.length
  if -4 < d.point && d.point ≤ 16 then
    if d.point ≤ 0 then
      "0." ++ String.ofList (List.replicate (-d.point).toNat '0' ++ digits)
    else if n ≤ d.point then
      String.ofList (digits ++ List.replicate (d.point - n).toNat '0') ++ whole
    else
      String.ofList (digits.take d.point.toNat) ++ "." ++ String.ofList (digits.drop d.point.toNat)
  else
    let mantissa := match digits with
      | [] => ""
      | [c] => String.ofList [c]
      | c :: cs => String.ofList (c :: '.' :: cs)
    let e := d.point - 1
    let places := natText e.natAbs
    let places := if places.length < 2 then "0" ++ places else places
    mantissa ++ "e" ++ (if e < 0 then "-" else "+") ++ places

/-- Drops the zeros at the end of the digits. -/
def Decimal.trim (d : Decimal) : Decimal :=
  let digits := ((Nat.toDigits 10 d.digits).reverse.dropWhile (· == '0')).reverse
  { d with digits := digits.foldl (fun n c => n * 10 + (c.toNat - '0'.toNat)) 0, count := digits.length }

/-- The text of a number; `whole` follows a number without a fraction. -/
def Double.renderWith (whole : String) : Double → String
  | .nan => "nan"
  | .infinite negative => if negative then "-inf" else "inf"
  | .finite negative m e =>
    let sign := if negative then "-" else ""
    if m == 0 then sign ++ "0" ++ whole else sign ++ layout whole (shortest m e).trim

/-- The text of a number, which always shows a fraction or an exponent. -/
def Double.render : Double → String :=
  Double.renderWith ".0"

end DocLint.Number
