import CallContract.Double.Numeral

/-!
# JSON documents

A document as data. Integers that fit into 64 bits are kept as integers, every other number is a
double; the fields of an object keep the order in which they are first named.

A number without a point and an exponent is an integer if it fits into 64 bits. Any other number is
read as a double in a way that is quick, and not always the nearest double: as many leading digits
as fit into 64 bits are taken as a whole number, which is rounded to a double and then multiplied
by a power of ten or divided by one, rounding once more. A number that is too large is refused.
-/

namespace CallContract

/-- A number in a document. -/
inductive JsonNumber where
  | integer (i : Int)
  | float (d : Double)
  deriving DecidableEq

/-- A JSON document. -/
inductive Json where
  | null
  | bool (b : Bool)
  | number (n : JsonNumber)
  | string (s : String)
  | array (items : List Json)
  | object (fields : List (String × Json))

instance : Inhabited Json := ⟨.null⟩

namespace Json

/-- Puts a value under a name: in the place of the field of that name, or behind all fields. -/
def putField {α : Type} (fields : List (String × α)) (name : String) (value : α) :
    List (String × α) :=
  if fields.any fun f => f.1 == name then
    fields.map fun f => if f.1 = name then (name, value) else f
  else fields ++ [(name, value)]

/-- The fields in the order in which they are first named, each with its last value. -/
def lastFields {α : Type} (members : List (String × α)) : List (String × α) :=
  members.foldl (fun fields m => putField fields m.1 m.2) []

/-! ## Reading numbers -/

/-- The parts of a number, as written. -/
structure NumberParts where
  negative : Bool
  /-- Digits before the point. -/
  whole : List Char
  /-- Digits after the point, if there is one. -/
  fraction : Option (List Char) := none
  /-- The exponent, if there is one. -/
  exponent : Option Int := none

/-- Digits, of which there is at least one, and what follows them. -/
def splitDigits? (cs : List Char) : Option (List Char × List Char) :=
  let digits := cs.takeWhile Char.isDigit
  if digits.isEmpty then none else some (digits, cs.dropWhile Char.isDigit)

/-- Digits without a leading zero, apart from zero itself. -/
def splitWhole? (cs : List Char) : Option (List Char × List Char) :=
  (splitDigits? cs).filter fun (digits, _) => digits.head? ≠ some '0' || digits.length = 1

/-- The exponent that a text begins with, if it does. -/
def splitExponent? : List Char → Option (Option Int × List Char)
  | [] => some (none, [])
  | c :: r =>
    if c = 'e' ∨ c = 'E' then
      let (negative, r) := Double.splitSign r
      (splitDigits? r).map fun (digits, rest) =>
        let n : Int := Nat.ofDigitChars 10 digits 0
        (some (if negative then -n else n), rest)
    else some (none, c :: r)

/-- The digits behind the point that a text begins with, if it does. -/
def splitFraction? : List Char → Option (Option (List Char) × List Char)
  | '.' :: r => (splitDigits? r).map fun (digits, rest) => (some digits, rest)
  | r => some (none, r)

/-- Splits off a number. -/
def splitNumber? (cs : List Char) : Option (NumberParts × List Char) := do
  let (negative, cs) := Double.splitMinus cs
  let (whole, cs) ← splitWhole? cs
  let (fraction, cs) ← splitFraction? cs
  let (exponent, cs) ← splitExponent? cs
  return ({ negative, whole, fraction, exponent }, cs)

/-- Appends digits to a number while the result stays below `2 ^ 64`; answers the number and the
digits that are left. -/
def pushDigits (n : Nat) : List Char → Nat × List Char
  | [] => (n, [])
  | c :: cs =>
    let next := 10 * n + (c.toNat - '0'.toNat)
    if next < twoTo 64 then pushDigits next cs else (n, c :: cs)

/-- Multiplies by a power of ten. Dividing three times by `10 ^ 308` leaves nothing of a number
below `2 ^ 64`. -/
def scale? : (fuel : Nat) → Double → (exponent : Int) → Option Double
  | 0, x, _ => some x
  | fuel + 1, x, exponent =>
    if exponent.natAbs ≤ 308 then
      if 0 ≤ exponent then
        (some (x * Double.ofNat (tenTo exponent.natAbs))).filter Double.isFinite
      else some (x / Double.ofNat (tenTo exponent.natAbs))
    else if x.isZero then some x
    else if 0 ≤ exponent then none
    else scale? fuel (x / Double.ofNat (tenTo 308)) (exponent + 308)

/-- The double that a number with a point, an exponent or many digits is read as. Of the whole
digits that do not fit each counts as a factor of ten; of those behind the point none counts. -/
def NumberParts.double? (p : NumberParts) : Option Double :=
  let (n, surplus) := pushDigits 0 p.whole
  let fraction := p.fraction.getD []
  let (n, left) := pushDigits n fraction
  let taken : Int := surplus.length - (fraction.length - left.length : Nat)
  (scale? 4 (Double.ofNat n) (taken + p.exponent.getD 0)).map fun x => if p.negative then -x else x

/-- The number that is read. Negative zero is a double, for there is no such integer. -/
def NumberParts.number? (p : NumberParts) : Option JsonNumber :=
  let n := Nat.ofDigitChars 10 p.whole 0
  let isInteger := p.fraction.isNone && p.exponent.isNone &&
    (if p.negative then n ≠ 0 && n ≤ twoTo 63 else n < twoTo 64)
  if isInteger then some (.integer (if p.negative then -n else n))
  else if p.fraction.isNone && p.exponent.isNone && n < twoTo 64 then
    some (.float (-Double.ofNat n))
  else p.double?.map .float

end Json

end CallContract
