import CallContract.Double.Basic

/-!
# Rounding to whole numbers is exact

Rounding changes no magnitude that is one of a double already (`Precision.round_of_representable`).
The whole numbers next to a double are such magnitudes: a double is whole itself, or so small that
every whole number around it is within the reach of a significand (`Representable.whole_or_small`).
So dropping the fraction and rounding a half away from zero never round a second time
(`truncate_finite`, `roundHalfAway_finite`), give whole numbers, and leave whole numbers alone.
-/

namespace CallContract

theorem oneUnits_pos : 0 < oneUnits := twoTo_pos unitExponent

theorem twoTo_dvd {d e : Nat} (h : d ≤ e) : twoTo d ∣ twoTo e := Nat.pow_dvd_pow 2 h

theorem twoTo_lt {d e : Nat} (h : d < e) : twoTo d < twoTo e :=
  Nat.pow_lt_pow_right (by decide) h

/-! ## Representable magnitudes -/

/-- The significand can be taken strictly below its bound. -/
theorem Representable.exists_lt {m : Nat} (h : Representable m) :
    ∃ k e, k < twoTo 53 ∧ m = k * twoTo e := by
  obtain ⟨-, k, e, hk, rfl⟩ := h
  rcases Nat.lt_or_eq_of_le hk with hlt | rfl
  · exact ⟨k, e, hlt, rfl⟩
  · refine ⟨1, 53 + e, by decide, ?_⟩
    rw [Nat.one_mul, twoTo_add]

/-- The grid on which a representable magnitude is rounded contains it. -/
theorem Representable.grid_dvd {m : Nat} (h : Representable m) :
    twoTo (Precision.double.gridExponent m) ∣ m := by
  obtain ⟨k, e, hk, rfl⟩ := h.exists_lt
  by_cases hzero : k * twoTo e = 0
  · rw [hzero]; exact Nat.dvd_zero _
  · have hlt : k * twoTo e < twoTo (53 + e) := by
      rw [twoTo_add]
      exact Nat.mul_lt_mul_of_pos_right hk (twoTo_pos e)
    have hlog : Nat.log2 (k * twoTo e) < 53 + e := (Nat.log2_lt hzero).2 hlt
    have hgrid : Precision.double.gridExponent (k * twoTo e) ≤ e := by
      simp only [Precision.gridExponent, Precision.double]
      omega
    exact Nat.dvd_mul_left_of_dvd (twoTo_dvd hgrid) k

theorem roundEven_of_dvd {num den : Nat} (h : den ∣ num) (hden : 0 < den) :
    roundEven num den = num / den := by
  simp only [roundEven, Nat.mod_eq_zero_of_dvd h]
  rw [if_pos (by omega)]

/-- **Rounding leaves the magnitudes of doubles as they are.** -/
theorem Precision.round_of_representable {m : Nat} (h : Representable m) :
    Precision.double.round m 1 = some m := by
  simp only [Precision.round, Nat.div_one, Nat.one_mul]
  rw [roundEven_of_dvd h.grid_dvd (twoTo_pos _), Nat.div_mul_cancel h.grid_dvd]
  exact if_pos h.1

/-- A double is whole, or every whole number up to twice its size is within reach. -/
theorem Representable.whole_or_small {m : Nat} (h : Representable m) :
    oneUnits ∣ m ∨ 2 * m ≤ twoTo 53 * oneUnits := by
  obtain ⟨k, e, hk, rfl⟩ := h.exists_lt
  by_cases he : unitExponent ≤ e
  · exact .inl (Nat.dvd_mul_left_of_dvd (twoTo_dvd he) k)
  · right
    have htwice : 2 * twoTo e = twoTo (1 + e) := by rw [twoTo_add]; rfl
    calc 2 * (k * twoTo e) = k * twoTo (1 + e) := by rw [← htwice, Nat.mul_left_comm]
      _ ≤ twoTo 53 * oneUnits := Nat.mul_le_mul (Nat.le_of_lt hk) (twoTo_le (by omega))

/-- Whole numbers up to `2 ^ 53` are representable. -/
theorem Representable.of_whole {q : Nat} (hq : q ≤ twoTo 53) : Representable (q * oneUnits) := by
  refine ⟨?_, q, unitExponent, hq, by rw [oneUnits]⟩
  calc q * oneUnits ≤ twoTo 53 * oneUnits := Nat.mul_le_mul_right _ hq
    _ = twoTo (53 + unitExponent) := by rw [twoTo_add, oneUnits]
    _ < twoTo topExponent := twoTo_lt (by decide)

theorem Representable.truncate {m : Nat} (h : Representable m) :
    Representable (m / oneUnits * oneUnits) := by
  rcases h.whole_or_small with hdvd | hsmall
  · rwa [Nat.div_mul_cancel hdvd]
  · refine .of_whole (Nat.div_le_of_le_mul ?_)
    rw [Nat.mul_comm]
    omega

theorem halfAway_of_dvd {unit m : Nat} (hunit : 0 < unit) (h : unit ∣ m) :
    (2 * m + unit) / (2 * unit) * unit = m := by
  obtain ⟨q, rfl⟩ := h
  have hq : (2 * (unit * q) + unit) / (2 * unit) = q := by
    rw [← Nat.mul_assoc, Nat.mul_add_div (by omega), Nat.div_eq_of_lt (by omega), Nat.add_zero]
  rw [hq, Nat.mul_comm]

theorem Representable.halfAway {m : Nat} (h : Representable m) :
    Representable ((2 * m + oneUnits) / (2 * oneUnits) * oneUnits) := by
  rcases h.whole_or_small with hdvd | hsmall
  · rwa [halfAway_of_dvd oneUnits_pos hdvd]
  · have hone : oneUnits ≤ twoTo 53 * oneUnits := Nat.le_mul_of_pos_left _ (twoTo_pos 53)
    refine .of_whole (Nat.div_le_of_le_mul ?_)
    rw [Nat.mul_assoc, Nat.mul_comm oneUnits]
    omega

/-! ## Doubles -/

namespace Double

theorem nearest_of_round {p : Precision} {negative : Bool} {num den m : Nat} (hm : Representable m)
    (h : p.round num den = some m) : nearest p negative num den = .finite negative m hm := by
  simp only [nearest]
  split
  case h_1 hround => cases h.symm.trans hround; rfl
  case h_2 hround => cases h.symm.trans hround

theorem ofUnits_of_representable (negative : Bool) {m : Nat} (h : Representable m) :
    ofUnits negative m = .finite negative m h :=
  nearest_of_round h (Precision.round_of_representable h)

theorem truncate_finite (negative : Bool) {m : Nat} (h : Representable m) :
    truncate (.finite negative m h) = .finite negative (m / oneUnits * oneUnits) h.truncate :=
  ofUnits_of_representable negative h.truncate

theorem roundHalfAway_finite (negative : Bool) {m : Nat} (h : Representable m) :
    roundHalfAway (.finite negative m h) =
      .finite negative ((2 * m + oneUnits) / (2 * oneUnits) * oneUnits) h.halfAway :=
  ofUnits_of_representable negative h.halfAway

/-- A number is whole if it is finite and its units make whole ones. -/
theorem isWhole_iff {x : Double} :
    x.isWhole ↔ ∃ negative m h, x = .finite negative m h ∧ oneUnits ∣ m := by
  cases x with
  | nan => simp [isWhole]
  | infinite => simp [isWhole]
  | finite negative m h =>
    simp only [isWhole, beq_iff_eq, finite.injEq]
    constructor
    · exact fun hm => ⟨negative, m, h, ⟨rfl, rfl⟩, Nat.dvd_of_mod_eq_zero hm⟩
    · rintro ⟨_, _, _, ⟨rfl, rfl⟩, hm⟩
      exact Nat.mod_eq_zero_of_dvd hm

theorem isFinite_iff {x : Double} : x.isFinite ↔ ∃ negative m h, x = .finite negative m h := by
  cases x with
  | nan => simp [isFinite]
  | infinite => simp [isFinite]
  | finite negative m h => exact ⟨fun _ => ⟨negative, m, h, rfl⟩, fun _ => rfl⟩

theorem isFinite_of_isWhole {x : Double} (hx : x.isWhole) : x.isFinite := by
  obtain ⟨negative, m, h, rfl, -⟩ := isWhole_iff.1 hx
  rfl

theorem isWhole_truncate {x : Double} (hx : x.isFinite) : x.truncate.isWhole := by
  obtain ⟨negative, m, h, rfl⟩ := isFinite_iff.1 hx
  rw [truncate_finite]
  exact isWhole_iff.2 ⟨_, _, _, rfl, Nat.dvd_mul_left ..⟩

theorem isWhole_roundHalfAway {x : Double} (hx : x.isFinite) : x.roundHalfAway.isWhole := by
  obtain ⟨negative, m, h, rfl⟩ := isFinite_iff.1 hx
  rw [roundHalfAway_finite]
  exact isWhole_iff.2 ⟨_, _, _, rfl, Nat.dvd_mul_left ..⟩

theorem isWhole_zeroOf (negative : Bool) : (zeroOf negative).isWhole :=
  isWhole_iff.2 ⟨negative, 0, .zero, rfl, Nat.dvd_zero _⟩

theorem isWhole_unsignedZero {x : Double} (hx : x.isWhole) : x.unsignedZero.isWhole := by
  unfold unsignedZero
  split
  · exact isWhole_zeroOf false
  · exact hx

theorem truncate_of_isWhole {x : Double} (hx : x.isWhole) : x.truncate = x := by
  obtain ⟨negative, m, h, rfl, hm⟩ := isWhole_iff.1 hx
  simp [truncate_finite, Nat.div_mul_cancel hm]

theorem roundHalfAway_of_isWhole {x : Double} (hx : x.isWhole) : x.roundHalfAway = x := by
  obtain ⟨negative, m, h, rfl, hm⟩ := isWhole_iff.1 hx
  simp [roundHalfAway_finite, halfAway_of_dvd oneUnits_pos hm]

@[simp] theorem unsignedZero_unsignedZero (x : Double) :
    x.unsignedZero.unsignedZero = x.unsignedZero := by
  unfold unsignedZero
  by_cases hx : x.isZero
  · simp only [hx, if_true]
    rfl
  · simp [hx]

end Double

end CallContract
