import CallContract.Proofs.Matching
import Mathlib.Data.Nat.Cast.Order.Field
import Mathlib.Data.Rat.Cast.Order
import Mathlib.Tactic.FieldSimp
import Mathlib.Tactic.Linarith
import Mathlib.Tactic.Ring

/-!
# Rounding to whole numbers

What the kinds of whole numbers make of a number. The two rules are said of fractions, without the
doubles: one drops the fraction toward zero (`TowardZero`), the other takes the nearest integer, of
two that are equally near the one away from zero (`NearestAway`).

**Theorem (`whole_rounding`).** Each kind makes an integer of every value that can be read as a
number, by its rule and exactly, and never negative zero. So it turns the sign with the number,
keeps the order of numbers, and leaves integers as they are.

That the rules turn the sign, keep the order and leave integers alone is a matter of the rules alone
(`IsRounding`). Order says that a rule leaves nothing open, too. For doubles it is then enough to
look at magnitudes, where both rules are a quotient of natural numbers (`TowardZero.of_nat`,
`NearestAway.of_nat`), and to know that the quotient is a double again, which is in `Rounding`.
-/

namespace CallContract

/-! ## Integers near a fraction -/

/-- The integer is the number with its fraction dropped, toward zero. -/
structure TowardZero (q : ℚ) (z : ℤ) : Prop where
  near : |q - z| < 1
  inward : |(z : ℚ)| ≤ |q|

/-- The integer is nearest to the number, and of two that are equally near the one away from
zero. -/
structure NearestAway (q : ℚ) (z : ℤ) : Prop where
  nearest : ∀ k : ℤ, |q - z| ≤ |q - k|
  away : ∀ k : ℤ, |q - k| = |q - z| → |k| ≤ |z|

/-- A quotient lies on the number that is left without its rest, or less than one above it. -/
theorem div_bounds (a : ℕ) {b : ℕ} (hb : 0 < b) :
    ((a / b : ℕ) : ℚ) ≤ a / b ∧ (a / b : ℚ) < (a / b : ℕ) + 1 := by
  have hb' : (0 : ℚ) < b := by exact_mod_cast hb
  refine ⟨Nat.cast_div_le, ?_⟩
  rw [div_lt_iff₀ hb']
  exact_mod_cast Nat.lt_mul_of_div_lt (Nat.lt_succ_self _) hb

/-- What any rounding to integers does. -/
structure IsRounding (rounds : ℚ → ℤ → Prop) : Prop where
  neg : ∀ {q z}, rounds q z → rounds (-q) (-z)
  mono : ∀ {q q' z z'}, rounds q z → rounds q' z' → q ≤ q' → z ≤ z'
  self : ∀ z : ℤ, rounds z z

theorem IsRounding.unique {rounds : ℚ → ℤ → Prop} (h : IsRounding rounds) {q : ℚ} {z z' : ℤ}
    (hz : rounds q z) (hz' : rounds q z') : z = z' :=
  le_antisymm (h.mono hz hz' le_rfl) (h.mono hz' hz le_rfl)

namespace TowardZero

variable {q : ℚ} {z : ℤ}

theorem neg (h : TowardZero q z) : TowardZero (-q) (-z) where
  near := by
    have hneg : -q - ((-z : ℤ) : ℚ) = -(q - z) := by push_cast; ring
    rw [hneg, abs_neg]
    exact h.near
  inward := by
    rw [Int.cast_neg, abs_neg, abs_neg]
    exact h.inward

/-- Toward zero is down for a positive number. -/
theorem le_of_pos (h : TowardZero q z) (hz : 0 < z) : z ≤ q := by
  have hz' : (1 : ℚ) ≤ z := by exact_mod_cast hz
  have hq : 0 < q := by linarith [(abs_lt.1 h.near).1]
  have hinward := h.inward
  rwa [abs_of_pos hq, abs_of_pos (by linarith)] at hinward

theorem isRounding : IsRounding TowardZero where
  neg := neg
  self := fun z => ⟨by simp, le_rfl⟩
  mono := by
    intro q q' z z' h h' hq
    by_contra hlt
    have hstep : (z' : ℚ) + 1 ≤ z := by exact_mod_cast not_le.1 hlt
    have hnear := abs_lt.1 h.near
    have hnear' := abs_lt.1 h'.near
    by_cases hz : 0 < z
    · have hle := h.le_of_pos hz
      linarith
    · have hle := h'.neg.le_of_pos (by omega)
      push_cast at hle
      linarith

theorem of_nat (m : ℕ) {u : ℕ} (hu : 0 < u) : TowardZero (m / u) (m / u : ℕ) := by
  obtain ⟨hle, hlt⟩ := div_bounds m hu
  constructor
  · rw [Int.cast_natCast, abs_of_nonneg (by linarith)]
    linarith
  · rw [Int.cast_natCast, abs_of_nonneg (by positivity), abs_of_nonneg (by positivity)]
    exact hle

end TowardZero

namespace NearestAway

variable {q : ℚ} {z : ℤ}

theorem abs_neg_sub (q : ℚ) (k : ℤ) : |-q - k| = |q - (-k : ℤ)| := by
  rw [← abs_neg]
  congr 1
  push_cast
  ring

theorem neg (h : NearestAway q z) : NearestAway (-q) (-z) where
  nearest := by
    intro k
    rw [abs_neg_sub, abs_neg_sub, neg_neg]
    exact h.nearest (-k)
  away := by
    intro k hk
    rw [abs_neg_sub, abs_neg_sub, neg_neg] at hk
    simpa using h.away (-k) hk

/-- The number is not below the middle between the integer and a lesser one. -/
theorem middle_le (h : NearestAway q z) {k : ℤ} (hk : k < z) : (z + k : ℚ) ≤ 2 * q := by
  have hk' : (k : ℚ) < z := by exact_mod_cast hk
  have hnearest := h.nearest k
  by_contra hlt
  have hbelow : |q - z| = z - q := by rw [abs_sub_comm, abs_of_nonneg (by linarith)]
  rcases abs_cases (q - k) with ⟨habs, -⟩ | ⟨habs, -⟩ <;> linarith

theorem isRounding : IsRounding NearestAway where
  neg := neg
  self := by
    intro z
    refine ⟨fun k => by simp, fun k hk => ?_⟩
    have hzero : |(z : ℚ) - k| = 0 := by simpa using hk
    have heq : (z : ℚ) = k := sub_eq_zero.1 (abs_eq_zero.1 hzero)
    exact le_of_eq (congrArg abs (Int.cast_injective heq).symm)
  mono := by
    intro q q' z z' h h' hq
    by_contra hlt
    have hlt' : (z' : ℚ) < z := by exact_mod_cast not_le.1 hlt
    -- both numbers are the middle between the two integers, and neither of these is further out
    have hmiddle : (z + z' : ℚ) ≤ 2 * q := h.middle_le (not_le.1 hlt)
    have hmiddle' := h'.neg.middle_le (neg_lt_neg (not_le.1 hlt))
    push_cast at hmiddle'
    obtain rfl : q = q' := by linarith
    have hz : |q - z| = (z - z') / 2 := by
      rw [abs_sub_comm, abs_of_nonneg (by linarith)]
      linarith
    have hz' : |q - z'| = (z - z') / 2 := by
      rw [abs_of_nonneg (by linarith)]
      linarith
    have habs : |z| = |z'| :=
      le_antisymm (h'.away z (hz.trans hz'.symm)) (h.away z' (hz'.trans hz.symm))
    have hopposite : z = -z' := (abs_eq_abs.1 habs).resolve_left fun heq => by omega
    have hzero : q = 0 := by
      rw [hopposite] at hmiddle hmiddle'
      push_cast at hmiddle hmiddle'
      linarith
    have hnearest := h.nearest 0
    rw [hzero] at hnearest
    simp at hnearest
    omega

/-- The integer below the number and a half is the nearest one, if the number is not negative. -/
theorem of_bounds (hq : 0 ≤ q) (hle : z ≤ q + 1 / 2) (hlt : q + 1 / 2 < z + 1) :
    NearestAway q z := by
  have hdist : |q - z| ≤ 1 / 2 := abs_le.2 ⟨by linarith, by linarith⟩
  have hbelow {k : ℤ} (hk : k < z) : 1 / 2 ≤ q - k := by
    have hstep : (k : ℚ) + 1 ≤ z := by exact_mod_cast hk
    linarith
  have habove {k : ℤ} (hk : z < k) : 1 / 2 < k - q := by
    have hstep : (z : ℚ) + 1 ≤ k := by exact_mod_cast hk
    linarith
  constructor
  · intro k
    rcases lt_trichotomy k z with hk | rfl | hk
    · exact hdist.trans ((hbelow hk).trans (le_abs_self _))
    · exact le_rfl
    · rw [abs_sub_comm q k]
      exact hdist.trans ((habove hk).le.trans (le_abs_self _))
  · intro k hsame
    rcases lt_trichotomy k z with hk | rfl | hk
    · have hlow : q - k ≤ 1 / 2 := (le_abs_self _).trans (hsame.trans_le hdist)
      have hpos : (-1 : ℚ) < k := by linarith
      have hpos' : 0 ≤ k := by
        have : (-1 : ℤ) < k := by exact_mod_cast hpos
        omega
      rw [abs_of_nonneg hpos']
      exact hk.le.trans (le_abs_self z)
    · exact le_rfl
    · have hhigh := le_abs_self (k - q : ℚ)
      rw [abs_sub_comm, hsame] at hhigh
      linarith [habove hk]

theorem of_nat (m : ℕ) {u : ℕ} (hu : 0 < u) :
    NearestAway (m / u) ((2 * m + u) / (2 * u) : ℕ) := by
  have hu' : (0 : ℚ) < u := by exact_mod_cast hu
  obtain ⟨hle, hlt⟩ := div_bounds (2 * m + u) (b := 2 * u) (by omega)
  have hhalf : ((2 * m + u : ℕ) : ℚ) / (2 * u : ℕ) = m / u + 1 / 2 := by
    push_cast
    field_simp
  rw [hhalf] at hle hlt
  exact of_bounds (by positivity) (by exact_mod_cast hle) (by exact_mod_cast hlt)

end NearestAway

/-! ## Doubles as fractions -/

namespace Double

/-- The number that a finite double is. -/
def exact : Double → ℚ
  | finite negative units _ => signedUnits negative units / oneUnits
  | _ => 0

theorem exact_finite (negative : Bool) {m : Nat} (h : Representable m) :
    (finite negative m h).exact = if negative then -(m / oneUnits : ℚ) else m / oneUnits := by
  rw [exact, signedUnits]
  cases negative with
  | false => rw [if_neg Bool.false_ne_true, if_neg Bool.false_ne_true, Int.cast_natCast]
  | true => rw [if_pos rfl, if_pos rfl, Int.cast_neg, Int.cast_natCast, neg_div]

/-- The double is an integer, and is not negative zero. -/
structure IsInteger (x : Double) (z : ℤ) : Prop where
  finite : x.isFinite
  exact_eq : x.exact = z
  unsigned : x ≠ zeroOf true

/-- A rounding of magnitudes rounds doubles of both signs. -/
theorem rounds_finite {rounds : ℚ → ℤ → Prop} (hrounds : IsRounding rounds) {m n : Nat}
    (h : rounds (m / oneUnits) n) (negative : Bool) (hm : Representable m)
    (hn : Representable (n * oneUnits)) :
    ∃ z, rounds (finite negative m hm).exact z ∧ (finite negative (n * oneUnits) hn).exact = z := by
  have hone : (oneUnits : ℚ) ≠ 0 := Nat.cast_ne_zero.2 oneUnits_pos.ne'
  rw [exact_finite, exact_finite, Nat.cast_mul, mul_div_cancel_right₀ _ hone]
  cases negative with
  | false => exact ⟨n, h, (Int.cast_natCast n).symm⟩
  | true => exact ⟨-n, hrounds.neg h, by rw [if_pos rfl, Int.cast_neg, Int.cast_natCast]⟩

theorem truncate_towardZero {x : Double} (hx : x.isFinite) :
    ∃ z, TowardZero x.exact z ∧ x.truncate.exact = z := by
  obtain ⟨negative, m, h, rfl⟩ := isFinite_iff.1 hx
  rw [truncate_finite]
  exact rounds_finite TowardZero.isRounding (.of_nat m oneUnits_pos) negative h _

theorem roundHalfAway_nearestAway {x : Double} (hx : x.isFinite) :
    ∃ z, NearestAway x.exact z ∧ x.roundHalfAway.exact = z := by
  obtain ⟨negative, m, h, rfl⟩ := isFinite_iff.1 hx
  rw [roundHalfAway_finite]
  exact rounds_finite NearestAway.isRounding (.of_nat m oneUnits_pos) negative h _

/-- Without its sign zero is the same number. -/
theorem IsInteger.of_unsignedZero {x : Double} {z : ℤ} (hx : x.isFinite) (hz : x.exact = z) :
    x.unsignedZero.IsInteger z := by
  obtain ⟨negative, m, h, rfl⟩ := isFinite_iff.1 hx
  by_cases hm : m = 0
  · subst hm
    have hzero : (Double.finite negative 0 h).unsignedZero = zero := rfl
    have hexact (negative : Bool) (h : Representable 0) :
        (Double.finite negative 0 h).exact = 0 := by
      rw [exact_finite, Nat.cast_zero, zero_div, neg_zero, ite_self]
    rw [hexact] at hz
    rw [hzero]
    exact ⟨rfl, (hexact false .zero).trans hz, by decide⟩
  · have hself : (Double.finite negative m h).unsignedZero = .finite negative m h := by
      simp [unsignedZero, isZero, hm]
    rw [hself]
    exact ⟨rfl, hz, by simp [zeroOf, hm]⟩

end Double

/-! ## Kinds -/

namespace Kind

/-- The kind makes this number of the value. -/
def Coerces (k : Kind) (v : Value) (x : Double) : Prop :=
  k.matchValue v = .ok (.coerced (.number x))

/-- The kind makes an integer of every number that a value can be read as, by the given rule. -/
structure RoundsBy (k : Kind) (rounds : ℚ → ℤ → Prop) : Prop where
  unique : ∀ q z z', rounds q z → rounds q z' → z = z'
  coerces : ∀ v n, v.asNumber? = some n →
    ∃ x z, k.Coerces v x ∧ rounds n.exact z ∧ x.IsInteger z
  odd : ∀ v v' (n n' : Double), v.asNumber? = some n → v'.asNumber? = some n' →
    n'.exact = -n.exact →
      ∃ x x', k.Coerces v x ∧ k.Coerces v' x' ∧ x'.exact = -x.exact
  monotone : ∀ v v' (n n' : Double), v.asNumber? = some n → v'.asNumber? = some n' →
    n.exact ≤ n'.exact →
      ∃ x x', k.Coerces v x ∧ k.Coerces v' x' ∧ x.exact ≤ x'.exact
  fixes : ∀ v (n : Double) (z : ℤ), v.asNumber? = some n → n.exact = z →
    ∃ x, k.Coerces v x ∧ x.IsInteger z

/-- **All of this follows from the rule alone.** -/
theorem RoundsBy.of_isRounding {k : Kind} {rounds : ℚ → ℤ → Prop} (hrounds : IsRounding rounds)
    (hcoerces : ∀ v n, v.asNumber? = some n →
      ∃ x z, k.Coerces v x ∧ rounds n.exact z ∧ x.IsInteger z) : k.RoundsBy rounds where
  unique := fun _ _ _ => hrounds.unique
  coerces := hcoerces
  odd := by
    intro v v' n n' hn hn' hneg
    obtain ⟨x, z, hx, hz, hinteger⟩ := hcoerces v n hn
    obtain ⟨x', z', hx', hz', hinteger'⟩ := hcoerces v' n' hn'
    rw [hneg] at hz'
    have hopposite : z' = -z := hrounds.unique hz' (hrounds.neg hz)
    refine ⟨x, x', hx, hx', ?_⟩
    rw [hinteger'.exact_eq, hinteger.exact_eq, hopposite, Int.cast_neg]
  monotone := by
    intro v v' n n' hn hn' hle
    obtain ⟨x, z, hx, hz, hinteger⟩ := hcoerces v n hn
    obtain ⟨x', z', hx', hz', hinteger'⟩ := hcoerces v' n' hn'
    refine ⟨x, x', hx, hx', ?_⟩
    rw [hinteger.exact_eq, hinteger'.exact_eq]
    exact_mod_cast hrounds.mono hz hz' hle
  fixes := by
    intro v n z hn hexact
    obtain ⟨x, z', hx, hz', hinteger⟩ := hcoerces v n hn
    rw [hexact] at hz'
    have hsame : z' = z := hrounds.unique hz' (hrounds.self z)
    exact ⟨x, hx, hsame ▸ hinteger⟩

/-- **The kinds of whole numbers.** One drops the fraction, the other rounds a half away from zero,
at every magnitude and for every value that can be read as a number. -/
theorem whole_rounding :
    Kind.int.RoundsBy TowardZero ∧ Kind.roundInt.RoundsBy NearestAway := by
  constructor
  · refine .of_isRounding TowardZero.isRounding fun v n hn => ?_
    have hfinite := Value.isFinite_of_asNumber? hn
    obtain ⟨z, hz, hexact⟩ := Double.truncate_towardZero hfinite
    exact ⟨_, z, matchNumber_ok_iff.2 ⟨n, hn, rfl⟩, hz,
      .of_unsignedZero (Double.isFinite_of_isWhole (Double.isWhole_truncate hfinite)) hexact⟩
  · refine .of_isRounding NearestAway.isRounding fun v n hn => ?_
    have hfinite := Value.isFinite_of_asNumber? hn
    obtain ⟨z, hz, hexact⟩ := Double.roundHalfAway_nearestAway hfinite
    exact ⟨_, z, matchNumber_ok_iff.2 ⟨n, hn, rfl⟩, hz,
      .of_unsignedZero (Double.isFinite_of_isWhole (Double.isWhole_roundHalfAway hfinite)) hexact⟩

/-- The greatest double below one half, and an odd integer above `2 ^ 52`. -/
example :
    (Double.ofBits 0x3fdfffffffffffff).roundHalfAway = 0 ∧
      (Double.ofNat (2 ^ 52 + 1)).roundHalfAway = .ofNat (2 ^ 52 + 1) := by decide +kernel

end Kind

end CallContract
