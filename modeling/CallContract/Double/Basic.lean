/-!
# Doubles

The numbers of dynamic values: IEEE 754 binary64, as exact natural numbers.

Every finite double is a whole number of *units* of `2 ^ -1074`, so a magnitude is a natural
number and every question about doubles (which one is nearest, is it whole, what is its
fraction) is a question about natural numbers. The type carries that its magnitudes are
doubles (`Representable`), so two doubles with the same sign and the same units are equal. A NaN
has its sign and its payload, so doubles that are equal have the same bits.

One function rounds, `Precision.round`: to nearest, a tie to the even significand. Arithmetic
is the exact result followed by that rounding.
-/

namespace CallContract

/-! ## Powers of two and ten -/

/-- The power of two with the given exponent. -/
def twoTo (exponent : Nat) : Nat := Nat.pow 2 exponent

/-- The power of ten with the given exponent. -/
def tenTo (exponent : Nat) : Nat := Nat.pow 10 exponent

theorem twoTo_pos (e : Nat) : 0 < twoTo e := Nat.two_pow_pos e

theorem twoTo_le {d e : Nat} (h : d ≤ e) : twoTo d ≤ twoTo e := Nat.pow_le_pow_right (by decide) h

theorem twoTo_add (d e : Nat) : twoTo (d + e) = twoTo d * twoTo e := Nat.pow_add 2 d e

theorem lt_twoTo_log2 (n : Nat) : n < twoTo (Nat.log2 n + 1) := Nat.lt_log2_self

theorem tenTo_zero : tenTo 0 = 1 := rfl

theorem tenTo_pos (e : Nat) : 0 < tenTo e := Nat.pow_pos (by decide)

theorem tenTo_le {d e : Nat} (h : d ≤ e) : tenTo d ≤ tenTo e := Nat.pow_le_pow_right (by decide) h

theorem tenTo_add (d e : Nat) : tenTo (d + e) = tenTo d * tenTo e := Nat.pow_add 10 d e

theorem tenTo_eq_mul_twoTo (e : Nat) : tenTo e = Nat.pow 5 e * twoTo e := Nat.mul_pow 5 2 e

theorem twoTo_le_tenTo (e : Nat) : twoTo e ≤ tenTo e := Nat.pow_le_pow_left (by decide) e

/-! ## Rounding -/

/-- The quotient rounded to the nearest natural number, a tie to the even one. -/
def roundEven (num den : Nat) : Nat :=
  let q := num / den
  let r := num % den
  if 2 * r < den then q else if den < 2 * r then q + 1 else q + q % 2

/-- One unit is `2 ^ -unitExponent`, the least positive double. -/
def unitExponent : Nat := 1074

/-- The number one, in units. -/
def oneUnits : Nat := twoTo unitExponent

/-- Finite magnitudes stay below `2 ^ topExponent` units, which is `2 ^ 1024`. -/
def topExponent : Nat := 2098

/-- `m` units are the magnitude of a double: a multiple of a power of two by at most `2 ^ 53`. -/
def Representable (m : Nat) : Prop :=
  m < twoTo topExponent ∧ ∃ k e, k ≤ twoTo 53 ∧ m = k * twoTo e

theorem Representable.zero : Representable 0 :=
  ⟨twoTo_pos topExponent, 0, 0, Nat.zero_le _, by simp⟩

/-- A binary floating-point format whose numbers are all doubles. -/
structure Precision where
  /-- Bits of a significand. -/
  bits : Nat
  /-- The finest grid is `2 ^ finest` units. -/
  finest : Nat
  /-- Magnitudes stay below `2 ^ top` units. -/
  top : Nat
  bits_le : bits ≤ 53 := by decide
  top_le : top ≤ topExponent := by decide

namespace Precision

/-- All doubles. -/
def double : Precision := { bits := 53, finest := 0, top := topExponent }

/-- The numbers of IEEE 754 binary32. -/
def single : Precision := { bits := 24, finest := 925, top := 1202 }

/-- The exponent, in units, of the grid on which a quotient with whole part `q` is rounded. -/
def gridExponent (p : Precision) (q : Nat) : Nat := max p.finest (Nat.log2 q + 1 - p.bits)

/-- The number of units nearest to `num / den` units, or nothing when that is too large. -/
def round (p : Precision) (num den : Nat) : Option Nat :=
  let e := p.gridExponent (num / den)
  let m := roundEven num (den * twoTo e) * twoTo e
  if m < twoTo p.top then some m else none

end Precision

theorem roundEven_le (num den : Nat) : roundEven num den ≤ num / den + 1 := by
  simp only [roundEven]
  split
  · omega
  · split <;> omega

/-- What rounding answers is the magnitude of a double. -/
theorem Precision.round_representable {p : Precision} {num den m : Nat}
    (h : p.round num den = some m) : Representable m := by
  simp only [Precision.round] at h
  split at h
  case isFalse => cases h
  case isTrue hlt =>
    cases h
    refine ⟨Nat.lt_of_lt_of_le hlt (twoTo_le p.top_le), _, _, ?_, rfl⟩
    generalize hg : p.gridExponent (num / den) = e
    have he : Nat.log2 (num / den) + 1 ≤ e + p.bits := by
      simp only [← hg, Precision.gridExponent]; omega
    have hq : num / den < twoTo e * twoTo p.bits :=
      twoTo_add e p.bits ▸ Nat.lt_of_lt_of_le (lt_twoTo_log2 _) (twoTo_le he)
    have hk : num / (den * twoTo e) < twoTo p.bits := by
      rw [← Nat.div_div_eq_div_mul]
      exact Nat.div_lt_of_lt_mul hq
    have hb := twoTo_le p.bits_le
    have := roundEven_le num (den * twoTo e)
    omega

/-! ## The type -/

/-- The sign and the payload of a NaN. -/
structure NaN where
  negative : Bool
  payload : Nat
  payload_pos : 0 < payload
  payload_lt : payload < twoTo 52
  deriving DecidableEq

/-- A double-precision number. -/
inductive Double where
  /-- Not a number. -/
  | nan (bits : NaN)
  /-- An infinity. -/
  | infinite (negative : Bool)
  /-- A finite number of `units` units; zero has both signs. -/
  | finite (negative : Bool) (units : Nat) (representable : Representable units)
  deriving DecidableEq

namespace Double

/-- The zero of the given sign. -/
def zeroOf (negative : Bool) : Double := .finite negative 0 .zero

/-- Positive zero. -/
def zero : Double := zeroOf false

instance : Inhabited Double := ⟨zero⟩

/-- The NaN of the given sign that a computation answers. Which one a processor makes is not laid
down; this is the usual one. -/
def quietNaN (negative : Bool) : Double :=
  .nan { negative, payload := twoTo 51, payload_pos := twoTo_pos 51, payload_lt := by decide }

/-- The number of `p` nearest to `num / den` units, or the infinity of its sign. -/
def nearest (p : Precision) (negative : Bool) (num den : Nat) : Double :=
  match h : p.round num den with
  | some m => .finite negative m (Precision.round_representable h)
  | none => .infinite negative

/-- The double nearest to a number of units. -/
def ofUnits (negative : Bool) (units : Nat) : Double := nearest .double negative units 1

/-- The double nearest to a natural number. -/
def ofNat (n : Nat) : Double := ofUnits false (n * oneUnits)

/-- The double nearest to an integer. -/
def ofInt (i : Int) : Double := ofUnits (i < 0) (i.natAbs * oneUnits)

instance (n : Nat) : OfNat Double n := ⟨ofNat n⟩

/-! ## Questions -/

/-- Not a number. -/
def isNaN : Double → Bool
  | .nan _ => true
  | _ => false

/-- Neither an infinity nor NaN. -/
def isFinite : Double → Bool
  | .finite .. => true
  | _ => false

/-- Either zero. -/
def isZero : Double → Bool
  | .finite _ units _ => units == 0
  | _ => false

/-- A finite number without a fraction. -/
def isWhole : Double → Bool
  | .finite _ units _ => units % oneUnits == 0
  | _ => false

/-- A finite whole number is even. -/
def isEven : Double → Bool
  | .finite _ units _ => units % (2 * oneUnits) == 0
  | _ => false

/-- Greater than zero. -/
def isPositive : Double → Bool
  | .nan _ => false
  | .infinite negative => !negative
  | .finite negative units _ => !negative && units != 0

/-- Numeric equality: the zeros are equal and NaN equals nothing. -/
def equals : Double → Double → Bool
  | .infinite a, .infinite b => a == b
  | .finite a m _, .finite b n _ => m == n && (a == b || m == 0)
  | _, _ => false

/-- The integers below this bound in magnitude are told apart by their doubles. -/
def exactIntegers : Nat := twoTo 53

/-- The integer a double stands for without doubt: whole, and below `2 ^ 53` in magnitude. -/
def toInt? : Double → Option Int
  | .finite negative units _ =>
    let n := units / oneUnits
    if units % oneUnits = 0 ∧ n < exactIntegers then some (if negative then -n else n) else none
  | _ => none

/-! ## Arithmetic -/

/-- The same magnitude with the other sign. -/
def neg : Double → Double
  | .nan bits => .nan { bits with negative := !bits.negative }
  | .infinite s => .infinite !s
  | .finite s m h => .finite (!s) m h

/-- A number of units with its sign. -/
def signedUnits (negative : Bool) (units : Nat) : Int := if negative then -units else units

/-- The rounded sum; opposite numbers add up to positive zero. -/
def add : Double → Double → Double
  | .nan bits, _ => .nan bits
  | _, .nan bits => .nan bits
  | .infinite a, .infinite b => if a = b then .infinite a else quietNaN false
  | .infinite a, .finite .. => .infinite a
  | .finite .., .infinite b => .infinite b
  | .finite a m _, .finite b n _ =>
    let total := signedUnits a m + signedUnits b n
    if total = 0 then zeroOf (a && b) else ofUnits (total < 0) total.natAbs

/-- The rounded product. -/
def mul : Double → Double → Double
  | .nan bits, _ => .nan bits
  | _, .nan bits => .nan bits
  | .infinite a, .infinite b => .infinite (a ^^ b)
  | .infinite a, .finite b n _ => if n = 0 then quietNaN false else .infinite (a ^^ b)
  | .finite a m _, .infinite b => if m = 0 then quietNaN false else .infinite (a ^^ b)
  | .finite a m _, .finite b n _ => nearest .double (a ^^ b) (m * n) oneUnits

/-- The rounded quotient; a nonzero number divided by zero is an infinity. -/
def div : Double → Double → Double
  | .nan bits, _ => .nan bits
  | _, .nan bits => .nan bits
  | .infinite _, .infinite _ => quietNaN false
  | .infinite a, .finite b _ _ => .infinite (a ^^ b)
  | .finite a _ _, .infinite b => zeroOf (a ^^ b)
  | .finite a m _, .finite b n _ =>
    if n = 0 then (if m = 0 then quietNaN false else .infinite (a ^^ b))
    else nearest .double (a ^^ b) (m * oneUnits) n

instance : Neg Double := ⟨neg⟩
instance : Add Double := ⟨add⟩
instance : Mul Double := ⟨mul⟩
instance : Div Double := ⟨div⟩

/-! ## Rounding to a whole number -/

/-- Zero without its sign. -/
def unsignedZero (x : Double) : Double := if x.isZero then zero else x

/-- The fraction dropped, toward zero. -/
def truncate : Double → Double
  | .finite negative units _ => ofUnits negative (units / oneUnits * oneUnits)
  | x => x

/-- The nearest whole number, a half away from zero. -/
def roundHalfAway : Double → Double
  | .finite negative units _ =>
    ofUnits negative ((2 * units + oneUnits) / (2 * oneUnits) * oneUnits)
  | x => x

/-! ## The 64-bit form -/

/-- The number written by a sign bit, eleven exponent bits and 52 fraction bits. -/
def ofBits (word : Nat) : Double :=
  let negative := word / twoTo 63 % 2 == 1
  let field := word / twoTo 52 % twoTo 11
  let fraction := word % twoTo 52
  if field = 2047 then
    if h : fraction = 0 then .infinite negative
    else
      .nan { negative, payload := fraction, payload_pos := Nat.pos_of_ne_zero h,
             payload_lt := Nat.mod_lt _ (twoTo_pos 52) }
  else if field = 0 then ofUnits negative fraction
  else ofUnits negative ((twoTo 52 + fraction) * twoTo (field - 1))

/-- The bits of a number. -/
def toBits : Double → Nat
  | .nan bits => signBit bits.negative + 0x7ff0000000000000 + bits.payload
  | .infinite negative => signBit negative + 0x7ff0000000000000
  | .finite negative units _ =>
    let e := Nat.log2 units - 52
    if units < twoTo 52 then signBit negative + units
    else signBit negative + (e + 1) * twoTo 52 + (units / twoTo e - twoTo 52)
where
  signBit (negative : Bool) : Nat := if negative then twoTo 63 else 0

end Double

end CallContract
