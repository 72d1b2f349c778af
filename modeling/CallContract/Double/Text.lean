import CallContract.Double.Basic

/-!
# The text of a double

The decimal with the fewest digits that reads back as a given double, and of those the nearest
to it. The numbers that round to a double form an interval around it; the search walks the
decimal grids from coarse to fine and stops at the first grid with a point in the interval. If
a point of a grid lies in the interval, then so does one of the two grid points next to the
double, so only those two are tested.

This decimal has two layouts. The plain one never has an exponent: `1e21` is written as a
one and twenty-one zeros, `1e-7` as `0.0000001`. The JSON one is positional from `1e-5` below
`1e16`, always with a point, and scientific outside.
-/

namespace CallContract

/-! ## Shortest decimals -/

/-- Which of two equally near decimals is taken. -/
inductive DecimalTie where
  /-- The larger in magnitude. -/
  | up
  /-- The one with an even last digit. -/
  | even
  deriving DecidableEq

/-- A decimal magnitude, `digits * 10 ^ exponent`. -/
structure DecimalDigits where
  digits : Nat
  exponent : Int
  deriving DecidableEq

namespace Shortest

/-- The magnitudes that round to `units` units, in quarters of a unit. -/
structure Interval where
  low : Nat
  high : Nat
  /-- The ends belong to it, which is so when the significand is even. -/
  closed : Bool

/-- The exponent of the grid of doubles at `units`. -/
def gridExponent (units : Nat) : Nat := Precision.double.gridExponent units

/-- The interval of a magnitude reaches halfway to its neighbours; below a power of two the
neighbour is nearer, unless the grid is already the finest. -/
def interval (units : Nat) : Interval :=
  let e := gridExponent units
  let k := units / twoTo e
  let below := if k = twoTo 52 ∧ 0 < e then twoTo e else 2 * twoTo e
  { low := 4 * units - below, high := 4 * units + 2 * twoTo e, closed := k % 2 == 0 }

/-- A point of the grid lies in the interval. With `up / down` as the number of grid points in a
unit, the point `c` is `c * down / up` units. -/
def Interval.holds (i : Interval) (up down c : Nat) : Bool :=
  if i.closed then i.low * up ≤ 4 * c * down && 4 * c * down ≤ i.high * up
  else i.low * up < 4 * c * down && 4 * c * down < i.high * up

/-- The nearest of the two points of the grid `10 ^ exponent` beside `units` that lie in the
interval, if one does. -/
def onGrid? (tie : DecimalTie) (units : Nat) (i : Interval) (exponent : Int) : Option Nat :=
  let up := tenTo (-exponent).toNat
  let down := tenTo exponent.toNat * oneUnits
  let c := units * up / down
  let r := units * up % down
  match i.holds up down c, i.holds up down (c + 1) with
  | true, true =>
    if 2 * r < down then some c
    else if down < 2 * r then some (c + 1)
    else match tie with
      | .up => some (c + 1)
      | .even => some (c + c % 2)
  | true, false => some c
  | false, true => some (c + 1)
  | false, false => none

/-- Walks `fuel` grids from `10 ^ exponent` down; failing that, the double's own decimal
expansion, `units * 5 ^ 1074 * 10 ^ -1074`. -/
def search (tie : DecimalTie) (units : Nat) (i : Interval) : Nat → Int → DecimalDigits
  | 0, _ => { digits := units * Nat.pow 5 unitExponent, exponent := -unitExponent }
  | fuel + 1, exponent =>
    match onGrid? tie units i exponent with
    | some c => { digits := c, exponent }
    | none => search tie units i fuel (exponent - 1)

/-- A power of ten that is not below `units` units, and above it by a factor of at most a
thousand: `log10 2` is about 0.30103. -/
def firstExponent (units : Nat) : Int :=
  (((Nat.log2 units + 1 : Nat) : Int) - 1074) * 30103 / 100000 + 1

end Shortest

/-- The shortest decimal that reads back as a positive number of units. Seventeen digits always
suffice, and at most three grids are too coarse to hold a point. -/
def shortestDecimal (tie : DecimalTie) (units : Nat) : DecimalDigits :=
  Shortest.search tie units (Shortest.interval units) 22 (Shortest.firstExponent units)

/-! ## Layouts -/

namespace DecimalDigits

/-- The digits with the point where it belongs, and no exponent. -/
def positional (d : DecimalDigits) : List Char :=
  let digits := Nat.toDigits 10 d.digits
  let places := (-d.exponent).toNat
  if places = 0 then digits ++ List.replicate d.exponent.toNat '0'
  else if places < digits.length then
    digits.take (digits.length - places) ++ '.' :: digits.drop (digits.length - places)
  else '0' :: '.' :: List.replicate (places - digits.length) '0' ++ digits

/-- One digit before the point, the others behind it, and the exponent. -/
def scientific (d : DecimalDigits) : List Char :=
  let digits := Nat.toDigits 10 d.digits
  let exponent := d.exponent + (digits.length - 1 : Nat)
  digits.take 1 ++ (if digits.length = 1 then [] else '.' :: digits.drop 1) ++
    'e' :: (toString exponent).toList

/-- The JSON layout: positional, with at least one digit behind the point, when the leading digit
stands between `10 ^ -5` and `10 ^ 15`. -/
def json (d : DecimalDigits) : List Char :=
  let leading := d.exponent + (Nat.toDigits 10 d.digits).length - 1
  if leading < -5 ∨ 15 < leading then d.scientific
  else if d.exponent < 0 then d.positional
  else d.positional ++ ['.', '0']

end DecimalDigits

namespace Double

/-- The sign of a negative number. -/
def signText (negative : Bool) : List Char := if negative then ['-'] else []

/-- The plain text of a number: its shortest decimal without an exponent, a tie going up. -/
def plainText : Double → String
  | .nan _ => "NaN"
  | .infinite negative => String.ofList (signText negative ++ ['i', 'n', 'f'])
  | .finite negative units _ =>
    if units = 0 then String.ofList (signText negative ++ ['0'])
    else String.ofList (signText negative ++ (shortestDecimal .up units).positional)

/-- The JSON text of a number: its shortest decimal, a tie going to the even digit. JSON has no
infinities and no NaN. -/
def jsonText : Double → String
  | .nan _ => "null"
  | .infinite _ => "null"
  | .finite negative units _ =>
    if units = 0 then String.ofList (signText negative ++ ['0', '.', '0'])
    else String.ofList (signText negative ++ (shortestDecimal .even units).json)

end Double

end CallContract
