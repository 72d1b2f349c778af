import CallContract.Proofs.Nearest
import CallContract.Proofs.WholeRounding

/-!
# Integers that doubles tell apart

**Theorem (`integers_read_back`).** An integer that is made a value reads back as itself if it is
below `2 ^ 53` in magnitude, and does not read back at all if it is not. A double reads as an
integer just if it is that integer exactly, and below the same bound.

Integers beyond the bound are rounded, and several of them become one double. What keeps those out
is that the bound is the magnitude of a double itself, and that rounding to the nearest passes no
magnitude (`NearestTo.le_of_magnitude`): nothing from beyond the bound is rounded to a double below
it. The bound is left out because `2 ^ 53 + 1` is rounded to it.
-/

namespace CallContract

/-- What is nearest to a number beyond a magnitude is not below it. -/
theorem NearestTo.le_of_magnitude {t m b : Nat} (h : NearestTo t m) (hb : Magnitude b)
    (hle : b ≤ t) : b ≤ m := by
  by_contra hlt
  have hnearer := h.nearest b hb (by omega)
  simp only [gap] at hnearer
  omega

namespace Double

/-! ## Whole doubles -/

theorem exists_units_of_isWhole {x : Double} (hx : x.isWhole) :
    ∃ negative q h, x = .finite negative (q * oneUnits) h := by
  obtain ⟨negative, m, h, rfl, -⟩ := isWhole_iff.1 hx
  exact ⟨negative, _, _, (truncate_of_isWhole hx).symm.trans (truncate_finite negative h)⟩

theorem exact_whole (negative : Bool) {q : Nat} (h : Representable (q * oneUnits)) :
    (finite negative (q * oneUnits) h).exact = signedUnits negative q := by
  have hone : (oneUnits : ℚ) ≠ 0 := Nat.cast_ne_zero.2 oneUnits_pos.ne'
  rw [exact_finite, Nat.cast_mul, mul_div_cancel_right₀ _ hone]
  cases negative with
  | false => exact (Int.cast_natCast q).symm
  | true => rw [if_pos rfl, signedUnits, if_pos rfl, Int.cast_neg, Int.cast_natCast]

theorem abs_signedUnits (negative : Bool) (q : Nat) : |signedUnits negative q| = q := by
  cases negative <;> simp [signedUnits]

theorem signedUnits_natAbs (z : ℤ) : signedUnits (z < 0) z.natAbs = z := by
  by_cases hz : z < 0
  · simp [signedUnits, hz, abs_of_neg hz]
  · simp [signedUnits, hz, abs_of_nonneg (not_lt.1 hz)]

theorem toInt?_whole (negative : Bool) {q : Nat} (h : Representable (q * oneUnits)) :
    (finite negative (q * oneUnits) h).toInt? =
      if q < twoTo 53 then some (signedUnits negative q) else none := by
  simp only [toInt?, Nat.mul_div_cancel q oneUnits_pos, Nat.mul_mod_left, true_and]
  rfl

/-! ## Reading an integer -/

/-- A double that is an integer reads as that integer, below the bound. -/
theorem toInt?_of_exact {x : Double} {z : ℤ} (hx : x.isWhole) (hz : x.exact = z) :
    x.toInt? = if |z| < 2 ^ 53 then some z else none := by
  obtain ⟨negative, q, h, rfl⟩ := exists_units_of_isWhole hx
  obtain rfl : signedUnits negative q = z := by
    rw [exact_whole] at hz
    exact_mod_cast hz
  have hbound : |signedUnits negative q| < 2 ^ 53 ↔ q < twoTo 53 := by
    rw [abs_signedUnits]
    exact_mod_cast Iff.rfl
  simp only [toInt?_whole, hbound]

theorem isWhole_of_toInt? {x : Double} {k : ℤ} (h : x.toInt? = some k) : x.isWhole := by
  cases x with
  | nan => cases h
  | infinite => cases h
  | finite negative m hm =>
    simp only [toInt?] at h
    split at h
    case isTrue hwhole => exact beq_iff_eq.2 hwhole.1
    case isFalse => cases h

/-- **What reads as an integer** is that integer, below the bound. -/
theorem toInt?_eq_some_iff {x : Double} {k : ℤ} :
    x.toInt? = some k ↔ x.isWhole ∧ |x.exact| < 2 ^ 53 ∧ x.exact = k := by
  constructor
  · intro h
    have hx := isWhole_of_toInt? h
    obtain ⟨negative, q, hq, rfl⟩ := exists_units_of_isWhole hx
    have hz := exact_whole negative hq
    rw [toInt?_of_exact hx hz] at h
    split at h
    case isTrue hlt =>
      cases h
      rw [hz]
      exact ⟨hx, by exact_mod_cast hlt, rfl⟩
    case isFalse => cases h
  · rintro ⟨hx, hlt, hk⟩
    rw [hk] at hlt
    rw [toInt?_of_exact hx hk, if_pos (by exact_mod_cast hlt)]

/-! ## Rounding an integer -/

/-- Up to the bound an integer is a double. -/
theorem ofInt_of_le {i : ℤ} (hi : i.natAbs ≤ twoTo 53) :
    (ofInt i).isWhole ∧ (ofInt i).exact = i := by
  rw [ofInt, ofUnits_of_representable _ (.of_whole hi), exact_whole, signedUnits_natAbs]
  exact ⟨isWhole_iff.2 ⟨_, _, _, rfl, Nat.dvd_mul_left ..⟩, rfl⟩

/-- An integer that is not too large becomes the nearest double. -/
theorem exists_nearestTo_ofInt {i : ℤ} (hfinite : (ofInt i).isFinite) :
    ∃ m h, ofInt i = .finite (i < 0) m h ∧ NearestTo (i.natAbs * oneUnits) m := by
  rcases Nat.lt_or_ge (nearestUnits (i.natAbs * oneUnits)) (twoTo topExponent) with hlt | hge
  · exact ⟨_, _, ofUnits_of_lt hlt, nearestTo_nearestUnits _⟩
  · rw [ofInt, ofUnits_of_ge hge] at hfinite
    cases hfinite

/-- From the bound on an integer becomes a double that is not below the bound. -/
theorem le_abs_exact_ofInt {i : ℤ} (hi : twoTo 53 ≤ i.natAbs) (hfinite : (ofInt i).isFinite) :
    2 ^ 53 ≤ |(ofInt i).exact| := by
  obtain ⟨m, h, hdouble, hnearest⟩ := exists_nearestTo_ofInt hfinite
  have hmagnitude : Magnitude (twoTo 53 * oneUnits) :=
    ⟨twoTo 53, unitExponent, Nat.le_refl _, by rw [oneUnits]⟩
  have hbound : twoTo 53 * oneUnits ≤ m :=
    hnearest.le_of_magnitude hmagnitude (Nat.mul_le_mul_right _ hi)
  have hone : (0 : ℚ) < oneUnits := Nat.cast_pos.2 oneUnits_pos
  rw [hdouble, exact, abs_div, abs_of_pos hone, ← Int.cast_abs, abs_signedUnits, Int.cast_natCast,
    le_div_iff₀ hone]
  have hcast : ((twoTo 53 : ℕ) : ℚ) = 2 ^ 53 := Nat.cast_pow 2 53
  calc (2 ^ 53 : ℚ) * oneUnits = (twoTo 53 * oneUnits : ℕ) := by rw [Nat.cast_mul, hcast]
    _ ≤ m := Nat.cast_le.2 hbound

/-- **Every integer reads back as itself or not at all.** -/
theorem toInt?_ofInt (i : ℤ) : (ofInt i).toInt? = if |i| < 2 ^ 53 then some i else none := by
  have hbound : |i| < 2 ^ 53 ↔ i.natAbs < twoTo 53 := by
    rw [Int.abs_eq_natAbs]
    exact_mod_cast Iff.rfl
  by_cases hi : |i| < 2 ^ 53
  · obtain ⟨hwhole, hexact⟩ := ofInt_of_le (hbound.1 hi).le
    exact toInt?_of_exact hwhole hexact
  · rw [if_neg hi, Option.eq_none_iff_forall_ne_some]
    intro k hk
    obtain ⟨hwhole, hlt, -⟩ := toInt?_eq_some_iff.1 hk
    have hge := le_abs_exact_ofInt (not_lt.1 (mt hbound.2 hi)) (isFinite_of_isWhole hwhole)
    exact absurd hlt (not_lt.2 hge)

end Double

/-- **Integers and the doubles that stand for them.** No integer, of whatever width and sign, reads
back as another one. -/
theorem integers_read_back :
    (∀ i : ℤ, (Value.ofInt i).toInt? = if |i| < 2 ^ 53 then some i else none) ∧
      ∀ (x : Double) (k : ℤ),
        (Value.number x).toInt? = some k ↔ x.isWhole ∧ |x.exact| < 2 ^ 53 ∧ x.exact = k :=
  ⟨Double.toInt?_ofInt, fun _ _ => Double.toInt?_eq_some_iff⟩

/-- Of the neighbours of the bound the one beyond it becomes the bound. -/
example :
    Double.ofInt (2 ^ 53 + 1) = .ofInt (2 ^ 53) ∧ (Value.ofInt (2 ^ 53)).toInt? = none ∧
      (Value.ofInt (1 - 2 ^ 53)).toInt? = some (1 - 2 ^ 53) := by decide +kernel

end CallContract
