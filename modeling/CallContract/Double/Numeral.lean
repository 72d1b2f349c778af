import CallContract.Double.Basic

/-!
# Numerals

How text denotes a double. A numeral is either a decimal, with an optional sign, point and
exponent, read as the nearest double; or the digits of a whole number after `0x`, `0o` or `0b`,
accumulated digit by digit in double arithmetic. A prefixed text is never read as a decimal, and
blanks around a numeral do not matter.
-/

namespace CallContract

/-! ## Blanks -/

namespace Text

/-- The Unicode property White_Space. It holds of the no-break space and the ideographic space, and
does not hold of the zero width space, the Mongolian vowel separator or the byte order mark. -/
def isBlank (c : Char) : Bool :=
  let n := c.toNat
  (9 ≤ n && n ≤ 13) || n == 32 || n == 0x85 || n == 0xA0 || n == 0x1680 ||
    (0x2000 ≤ n && n ≤ 0x200A) || n == 0x2028 || n == 0x2029 || n == 0x202F || n == 0x205F ||
    n == 0x3000

/-- The text without the blanks at its start. -/
def trimStart (cs : List Char) : List Char := cs.dropWhile isBlank

/-- The text without the blanks at its end. -/
def trimEnd (cs : List Char) : List Char := (trimStart cs.reverse).reverse

/-- The text without the blanks at both ends. -/
def trim (cs : List Char) : List Char := trimEnd (trimStart cs)

end Text

/-! ## Digits -/

/-- The value of a digit or letter in a radix of at most 36, if it is one of its digits. -/
def digitValue? (radix : Nat) (c : Char) : Option Nat :=
  let v :=
    if c.isDigit then c.toNat - '0'.toNat
    else if c.isLower then c.toNat - 'a'.toNat + 10
    else if c.isUpper then c.toNat - 'A'.toNat + 10
    else radix
  if v < radix then some v else none

namespace Double

/-! ## Decimals -/

/-- The double of precision `p` nearest to `digits * 10 ^ exponent`.

Exponents far outside the range of doubles are decided without computing the power: a positive
whole number times `10 ^ 310` is too large, and one of at most `k` bits times less than
`10 ^ (-330 - k)` is nearest to zero. -/
def ofDecimal (p : Precision) (negative : Bool) (digits : Nat) (exponent : Int) : Double :=
  if digits = 0 then zeroOf negative
  else if 310 ≤ exponent then .infinite negative
  else if exponent + (Nat.log2 digits + 1) ≤ -330 then zeroOf negative
  else nearest p negative (digits * tenTo exponent.toNat * oneUnits) (tenTo (-exponent).toNat)

/-- The parts of a decimal numeral. -/
structure Decimal where
  negative : Bool
  /-- Digits before the point. -/
  whole : List Char
  /-- Digits after the point. -/
  fraction : List Char
  exponent : Int

/-- The double nearest to a decimal numeral. -/
def Decimal.value (p : Precision) (d : Decimal) : Double :=
  ofDecimal p d.negative (Nat.ofDigitChars 10 (d.whole ++ d.fraction) 0)
    (d.exponent - d.fraction.length)

/-- Splits off a minus sign, if there is one. -/
def splitMinus : List Char → Bool × List Char
  | '-' :: r => (true, r)
  | r => (false, r)

/-- Splits off a sign, if there is one. -/
def splitSign : List Char → Bool × List Char
  | '+' :: r => (false, r)
  | r => splitMinus r

/-- What follows the digits of a decimal: nothing, or an exponent with at least one digit. -/
def exponent? : List Char → Option Int
  | [] => some 0
  | c :: r =>
    let (negative, digits) := splitSign r
    if (c = 'e' ∨ c = 'E') ∧ digits ≠ [] ∧ digits.all Char.isDigit then
      let n : Int := Nat.ofDigitChars 10 digits 0
      some (if negative then -n else n)
    else none

/-- Reads a decimal: an optional sign, digits with an optional point and at least one digit, and
an optional exponent. -/
def Decimal.read? (cs : List Char) : Option Decimal :=
  let (negative, unsigned) := splitSign cs
  let whole := unsigned.takeWhile Char.isDigit
  let (fraction, rest) := match unsigned.dropWhile Char.isDigit with
    | '.' :: r => (r.takeWhile Char.isDigit, r.dropWhile Char.isDigit)
    | r => ([], r)
  if whole = [] ∧ fraction = [] then none
  else (exponent? rest).map fun e => { negative, whole, fraction, exponent := e }

/-! ## Whole numbers in other radices -/

/-- The radix that `0x`, `0o` or `0b` announces, in either case, and what follows. -/
def splitRadix? : List Char → Option (Nat × List Char)
  | '0' :: c :: r =>
    if c = 'x' ∨ c = 'X' then some (16, r)
    else if c = 'o' ∨ c = 'O' then some (8, r)
    else if c = 'b' ∨ c = 'B' then some (2, r)
    else none
  | _ => none

/-- One more digit of a whole number, in double arithmetic. -/
def pushDigit (radix : Nat) (acc : Double) (c : Char) : Option Double :=
  (digitValue? radix c).map fun d => acc * ofNat radix + ofNat d

/-- The digits of a whole number, of which there is at least one. -/
def ofDigits? (radix : Nat) (cs : List Char) : Option Double :=
  if cs = [] then none else cs.foldlM (pushDigit radix) zero

/-! ## Numerals -/

/-- The number that a text denotes, an infinity if it is too large. -/
def ofNumeral? (cs : List Char) : Option Double :=
  match splitRadix? cs with
  | some (radix, digits) => ofDigits? radix digits
  | none => (Decimal.read? cs).map (Decimal.value .double)

/-- The finite number that a text denotes, blanks around it aside. -/
def ofText? (s : String) : Option Double :=
  (ofNumeral? (Text.trim s.toList)).filter isFinite

/-- The text of a number of precision `p`: a decimal, or one of the words `nan`, `inf` and
`infinity` in any letter case with an optional sign. -/
def ofNumberText? (p : Precision) (s : String) : Option Double :=
  let (negative, word) := splitSign s.toList
  match String.ofList (word.map Char.toLower) with
  | "nan" => some (quietNaN negative)
  | "inf" => some (.infinite negative)
  | "infinity" => some (.infinite negative)
  | _ => (Decimal.read? s.toList).map (Decimal.value p)

end Double

end CallContract
