import CallContract.Double.Numeral
import CallContract.Double.Text
import CallContract.Proofs.Nearest
import Mathlib.Tactic.Ring

/-!
# Shortest decimals are read back

**Theorem (`readsAs_shortestDecimal`).** The decimal that is found for a magnitude is rounded to
this magnitude, and so the reader of decimals makes the same number of it
(`Double.ofDecimal_of_round`).

The search accepts a decimal if it lies in an interval around the magnitude. Above the magnitude, up
to half of a spacing, everything is on the grid of the magnitude; below it everything is on the grid
of the magnitude before, which is a finer one below a power of two. A quotient on a known grid is
rounded by its rest (`Precision.round_from_above`, `Precision.round_from_below`), so each end of the
interval is compared with half of a spacing once (`Shortest.round_of_holds`). Whether the search
comes to a grid with a point in the interval does not matter here: what it answers otherwise is the
magnitude itself.
-/

namespace CallContract

/-! ## Quotients on a grid -/

/-- The significand `k` of a number whose grid has the exponent `e`: it has 53 bits, or fewer on the
finest grid. -/
structure OnGrid (k e : Nat) : Prop where
  lt : k < twoTo 53
  full : twoTo 52 ≤ k ∨ e = 0

theorem Representable.exists_onGrid {m : Nat} (h : Representable m) :
    ∃ k e, OnGrid k e ∧ m = k * twoTo e := by
  refine ⟨m / twoTo (Precision.double.gridExponent m), _, ⟨?_, ?_⟩,
    (Nat.div_mul_cancel h.grid_dvd).symm⟩
  · exact Nat.div_lt_of_lt_mul (by rw [Nat.mul_comm]; exact lt_grid m)
  · rcases Nat.eq_zero_or_pos (Precision.double.gridExponent m) with hzero | hpos
    · exact .inr hzero
    · exact .inl ((Nat.le_div_iff_mul_le (twoTo_pos _)).2 (grid_le hpos))

theorem OnGrid.gridExponent_eq {k e r : Nat} (h : OnGrid k e) (hr : r < twoTo e) :
    Precision.double.gridExponent (k * twoTo e + r) = e := by
  rcases h.full with hk | rfl
  · exact gridExponent_split hk h.lt hr
  · have hr0 : r = 0 := Nat.lt_one_iff.1 hr
    have hnum : k * twoTo 0 + r = k := by rw [hr0]; exact Nat.mul_one k
    rw [hnum, gridExponent_double]
    by_cases hk : k = 0
    · rw [hk]; rfl
    · have hlog : Nat.log2 k < 53 := (Nat.log2_lt hk).2 h.lt
      omega

namespace Precision

variable {k e r den : Nat}

theorem round_split (h : OnGrid k e) (hr : r < den * twoTo e) :
    double.round (k * (den * twoTo e) + r) den =
      if roundEven (k * (den * twoTo e) + r) (den * twoTo e) * twoTo e < twoTo topExponent then
        some (roundEven (k * (den * twoTo e) + r) (den * twoTo e) * twoTo e)
      else none := by
  have hden : 0 < den := Nat.pos_of_mul_pos_right (Nat.lt_of_le_of_lt (Nat.zero_le r) hr)
  have hquotient : (k * (den * twoTo e) + r) / den = k * twoTo e + r / den := by
    rw [Nat.mul_left_comm, Nat.mul_add_div hden]
  have hgrid : double.gridExponent ((k * (den * twoTo e) + r) / den) = e := by
    rw [hquotient]
    exact h.gridExponent_eq (Nat.div_lt_of_lt_mul hr)
  simp only [round, hgrid]
  rfl

/-- A number is what is rounded to it from above, up to half of a spacing, -/
theorem round_from_above {num : Nat} (h : OnGrid k e) (hden : 0 < den)
    (habove : k * (den * twoTo e) ≤ num)
    (hhalf : 2 * num ≤ 2 * (k * (den * twoTo e)) + den * twoTo e)
    (hodd : k % 2 = 1 → 2 * num < 2 * (k * (den * twoTo e)) + den * twoTo e)
    (htop : k * twoTo e < twoTo topExponent) : double.round num den = some (k * twoTo e) := by
  obtain ⟨r, rfl⟩ := Nat.exists_eq_add_of_le habove
  have hspacing : 0 < den * twoTo e := Nat.mul_pos hden (twoTo_pos e)
  have hr : r < den * twoTo e := by omega
  have hdown : roundEven (k * (den * twoTo e) + r) (den * twoTo e) = k := by
    rcases roundEven_cases (q := k) hr with ⟨hround, -, -⟩ | ⟨-, hup, htie⟩
    · exact hround
    · omega
  rw [round_split h hr, hdown, if_pos htop]

/-- and from below, where what is rounded lies after the number before. -/
theorem round_from_below {num : Nat} (h : OnGrid k e) (hden : 0 < den)
    (hbelow : num < (k + 1) * (den * twoTo e))
    (hhalf : 2 * ((k + 1) * (den * twoTo e)) ≤ 2 * num + den * twoTo e)
    (hodd : k % 2 = 0 → 2 * ((k + 1) * (den * twoTo e)) < 2 * num + den * twoTo e)
    (htop : (k + 1) * twoTo e < twoTo topExponent) :
    double.round num den = some ((k + 1) * twoTo e) := by
  have hnext : (k + 1) * (den * twoTo e) = k * (den * twoTo e) + den * twoTo e := Nat.succ_mul _ _
  rw [hnext] at hbelow hhalf hodd
  have hspacing : 0 < den * twoTo e := Nat.mul_pos hden (twoTo_pos e)
  obtain ⟨r, rfl⟩ := Nat.exists_eq_add_of_le (show k * (den * twoTo e) ≤ num by omega)
  have hr : r < den * twoTo e := by omega
  have hup : roundEven (k * (den * twoTo e) + r) (den * twoTo e) = k + 1 := by
    rcases roundEven_cases (q := k) hr with ⟨-, hdown, htie⟩ | ⟨hround, -, -⟩
    · omega
    · exact hround
  rw [round_split h hr, hup, if_pos htop]

/-- Below a power of two the spacing is half of that above, and so is what is rounded to it. -/
theorem round_from_below_power {num : Nat} (hden : 0 < den)
    (hbelow : num < twoTo 52 * (den * twoTo (1 + e)))
    (hquarter : 4 * (twoTo 52 * (den * twoTo (1 + e))) ≤ 4 * num + den * twoTo (1 + e))
    (htop : twoTo 52 * twoTo (1 + e) < twoTo topExponent) :
    double.round num den = some (twoTo 52 * twoTo (1 + e)) := by
  have hbefore : OnGrid (twoTo 53 - 1) e := ⟨by decide, .inl (by decide)⟩
  have hwidth : den * twoTo (1 + e) = 2 * (den * twoTo e) := by
    rw [← two_mul_twoTo, Nat.mul_left_comm]
  have hunits : twoTo 52 * twoTo (1 + e) = (twoTo 53 - 1 + 1) * twoTo e := by
    rw [← two_mul_twoTo, ← Nat.mul_assoc]
    congr 1
  have hnum : twoTo 52 * (den * twoTo (1 + e)) = (twoTo 53 - 1 + 1) * (den * twoTo e) := by
    rw [Nat.mul_left_comm, hunits, Nat.mul_left_comm]
  rw [hunits] at htop ⊢
  rw [hnum] at hbelow hquarter
  exact round_from_below hbefore hden hbelow (by omega) (fun heven => absurd heven (by decide)) htop

/-- Rounding is off by a factor of at most two. -/
theorem round_bounds {num m : Nat} (hden : 0 < den) (h : double.round num den = some m)
    (hm : 0 < m) : m * den ≤ 2 * num ∧ num ≤ 2 * (m * den) := by
  simp only [round, Option.ite_none_right_eq_some] at h
  obtain ⟨-, h⟩ := h
  cases h
  generalize double.gridExponent (num / den) = e at hm ⊢
  have hspacing : 0 < den * twoTo e := Nat.mul_pos hden (twoTo_pos e)
  obtain ⟨q, r, hr, rfl⟩ : ∃ q r, r < den * twoTo e ∧ num = q * (den * twoTo e) + r :=
    ⟨_, _, Nat.mod_lt num hspacing, by rw [Nat.mul_comm, Nat.div_add_mod]⟩
  have hunits : ∀ j, j * twoTo e * den = j * (den * twoTo e) := fun j => by
    rw [Nat.mul_assoc, Nat.mul_comm (twoTo e)]
  rcases roundEven_cases (q := q) hr with ⟨hround, hrest, -⟩ | ⟨hround, hrest, -⟩
  · rw [hround] at hm ⊢
    have hq : 1 * (den * twoTo e) ≤ q * (den * twoTo e) :=
      Nat.mul_le_mul_right _ (Nat.pos_of_mul_pos_right hm)
    rw [hunits]
    omega
  · rw [hround, hunits, Nat.succ_mul]
    omega

end Precision

/-! ## The interval -/

namespace Shortest

theorem Interval.bounds_of_holds {i : Interval} {up down c : Nat} (h : i.holds up down c) :
    (i.low * up ≤ 4 * (c * down) ∧ 4 * (c * down) ≤ i.high * up) ∧
      (i.closed = false → i.low * up < 4 * (c * down) ∧ 4 * (c * down) < i.high * up) := by
  rw [← Nat.mul_assoc]
  unfold Interval.holds at h
  split at h
  case isTrue hclosed =>
    rw [Bool.and_eq_true, decide_eq_true_eq, decide_eq_true_eq] at h
    exact ⟨h, fun hopen => by rw [hclosed] at hopen; cases hopen⟩
  case isFalse =>
    rw [Bool.and_eq_true, decide_eq_true_eq, decide_eq_true_eq] at h
    exact ⟨⟨Nat.le_of_lt h.1, Nat.le_of_lt h.2⟩, fun _ => h⟩

theorem interval_eq {k e : Nat} (h : OnGrid k e) :
    interval (k * twoTo e) =
      { low := 4 * (k * twoTo e) - if k = twoTo 52 ∧ 0 < e then twoTo e else 2 * twoTo e
        high := 4 * (k * twoTo e) + 2 * twoTo e
        closed := k % 2 == 0 } := by
  have hgrid : gridExponent (k * twoTo e) = e := h.gridExponent_eq (r := 0) (twoTo_pos e)
  have hquotient : k * twoTo e / twoTo e = k := Nat.mul_div_cancel k (twoTo_pos e)
  simp only [interval, hgrid, hquotient]

/-- **What lies in the interval of a magnitude is rounded to it.** -/
theorem round_of_holds {m up down c : Nat} (hm : Representable m) (hpos : 0 < m) (hup : 0 < up)
    (h : (interval m).holds up down c) : Precision.double.round (c * down) up = some m := by
  obtain ⟨k, e, hk, rfl⟩ := hm.exists_onGrid
  obtain ⟨⟨hlow, hhigh⟩, hstrict⟩ := Interval.bounds_of_holds h
  simp only [interval_eq hk] at hlow hhigh hstrict
  generalize c * down = num at hlow hhigh hstrict ⊢
  have hhigh_eq : (4 * (k * twoTo e) + 2 * twoTo e) * up =
      4 * (k * (up * twoTo e)) + 2 * (up * twoTo e) := by ring
  have hlow_eq (below : Nat) : (4 * (k * twoTo e) - below) * up =
      4 * (k * (up * twoTo e)) - up * below := by
    rw [Nat.sub_mul, Nat.mul_comm below]
    congr 1
    ring
  rw [hhigh_eq] at hhigh hstrict
  rw [hlow_eq] at hlow hstrict
  have hodd (hkodd : k % 2 = 1) := hstrict (by simp [hkodd])
  by_cases habove : k * (up * twoTo e) ≤ num
  · exact Precision.round_from_above hk hup habove (by omega)
      (fun hkodd => by have := hodd hkodd; omega) hm.1
  by_cases hboundary : k = twoTo 52 ∧ 0 < e
  · rw [if_pos hboundary] at hlow
    obtain ⟨rfl, he⟩ := hboundary
    obtain ⟨e, rfl⟩ : ∃ e', e = 1 + e' := ⟨e - 1, by omega⟩
    exact Precision.round_from_below_power hup (by omega) (by omega) hm.1
  · rw [if_neg hboundary, Nat.mul_left_comm up 2] at hlow hodd
    obtain ⟨j, rfl⟩ : ∃ j, k = j + 1 := Nat.exists_eq_succ_of_ne_zero (by rintro rfl; omega)
    have hbefore : OnGrid j e := ⟨Nat.lt_of_succ_lt hk.lt, by have := hk.full; omega⟩
    exact Precision.round_from_below hbefore hup (by omega) (by omega)
      (fun hjeven => by have := hodd (by omega); omega) hm.1

/-! ## The search -/

/-- A point that is found lies in the interval. -/
theorem holds_of_onGrid? {tie : DecimalTie} {units : Nat} {i : Interval} {exponent : Int} {c : Nat}
    (h : onGrid? tie units i exponent = some c) :
    i.holds (tenTo (-exponent).toNat) (tenTo exponent.toNat * oneUnits) c := by
  simp only [onGrid?] at h
  generalize tenTo (-exponent).toNat = up at *
  generalize tenTo exponent.toNat * oneUnits = down at *
  generalize units * up / down = below at *
  split at h
  case h_1 hbelow habove =>
    have hbeside : c = below ∨ c = below + 1 := by
      split at h
      · cases h; exact .inl rfl
      · split at h
        · cases h; exact .inr rfl
        · cases tie with
          | up => cases h; exact .inr rfl
          | even => cases h; omega
    rcases hbeside with rfl | rfl
    · exact hbelow
    · exact habove
  case h_2 hbelow _ => cases h; exact hbelow
  case h_3 _ habove => cases h; exact habove
  case h_4 => cases h

end Shortest

/-- The magnitude nearest to the decimal is `m`. -/
def DecimalDigits.ReadsAs (d : DecimalDigits) (m : Nat) : Prop :=
  Precision.double.round (d.digits * tenTo d.exponent.toNat * oneUnits)
    (tenTo (-d.exponent).toNat) = some m

section ReadsAs

variable {m : Nat} (hm : Representable m)
include hm

/-- A magnitude has a finite decimal expansion, which is not rounded. -/
theorem round_expansion (n : Nat) :
    Precision.double.round (m * Nat.pow 5 n * tenTo (-(n : Int)).toNat * twoTo n)
      (tenTo (-(-(n : Int))).toNat) = some m := by
  have hwhole : (-(n : Int)).toNat = 0 := by omega
  have hplaces : (-(-(n : Int))).toNat = n := by omega
  rw [hwhole, hplaces, tenTo_zero, Nat.mul_one, Nat.mul_assoc, ← tenTo_eq_mul_twoTo,
    Precision.round_mul_right m (tenTo_pos n), Precision.round_of_representable hm]

theorem readsAs_search (hpos : 0 < m) (tie : DecimalTie) (fuel : Nat) (exponent : Int) :
    (Shortest.search tie m (Shortest.interval m) fuel exponent).ReadsAs m := by
  induction fuel generalizing exponent with
  | zero => exact round_expansion hm unitExponent
  | succ fuel ih =>
    rw [Shortest.search]
    split
    case h_1 c hc =>
      have h := Shortest.round_of_holds hm hpos (tenTo_pos _) (Shortest.holds_of_onGrid? hc)
      rwa [← Nat.mul_assoc] at h
    case h_2 => exact ih (exponent - 1)

/-- **The shortest decimal of a magnitude is read back.** -/
theorem readsAs_shortestDecimal (hpos : 0 < m) (tie : DecimalTie) :
    (shortestDecimal tie m).ReadsAs m := readsAs_search hm hpos tie 22 _

end ReadsAs

/-! ## Reading a decimal -/

namespace Double

variable {negative : Bool} {m digits : Nat} {exponent : Int}

/-- No double is as large as a whole number times `10 ^ 310`, -/
theorem not_large {e : Nat} (hdigits : 0 < digits) (he : 310 ≤ e) (hm : m < twoTo topExponent) :
    2 * m < digits * tenTo e * oneUnits :=
  calc 2 * m < 2 * twoTo topExponent := by omega
    _ ≤ tenTo 310 * oneUnits := by decide +kernel
    _ ≤ digits * tenTo e * oneUnits :=
      Nat.mul_le_mul_right _
        (Nat.le_trans (tenTo_le he) (Nat.le_mul_of_pos_left _ hdigits))

/-- and no positive one as small as a number of `b` bits times `10 ^ (-330 - b)`. -/
theorem not_small {b e : Nat} (hdigits : digits < twoTo b) (he : 330 + b ≤ e) :
    2 * (digits * oneUnits) < tenTo e :=
  calc 2 * (digits * oneUnits) = digits * (2 * oneUnits) := by rw [Nat.mul_left_comm]
    _ < tenTo b * (2 * oneUnits) :=
      Nat.mul_lt_mul_of_pos_right (Nat.lt_of_lt_of_le hdigits (twoTo_le_tenTo b))
        (Nat.mul_pos (by decide) oneUnits_pos)
    _ ≤ tenTo b * tenTo 330 := Nat.mul_le_mul_left _ (by decide +kernel)
    _ = tenTo (330 + b) := by rw [tenTo_add, Nat.mul_comm]
    _ ≤ tenTo e := tenTo_le he

/-- What is rounded to a positive magnitude is not so large, and not so small, that its power of ten
is not computed. -/
theorem ofDecimal_of_round (hm : Representable m) (hpos : 0 < m)
    (h : Precision.double.round (digits * tenTo exponent.toNat * oneUnits)
      (tenTo (-exponent).toNat) = some m) :
    ofDecimal .double negative digits exponent = .finite negative m hm := by
  obtain ⟨hlower, hupper⟩ := Precision.round_bounds (tenTo_pos _) h hpos
  have hden : tenTo (-exponent).toNat ≤ m * tenTo (-exponent).toNat :=
    Nat.le_mul_of_pos_left _ hpos
  have hdigits : digits ≠ 0 := by
    rintro rfl
    rw [Nat.zero_mul, Nat.zero_mul] at hlower
    have := tenTo_pos (-exponent).toNat
    omega
  have hlarge : ¬ 310 ≤ exponent := by
    intro hexponent
    have hplaces : (-exponent).toNat = 0 := by omega
    have := not_large (Nat.pos_of_ne_zero hdigits) (show 310 ≤ exponent.toNat by omega) hm.1
    rw [hplaces, tenTo_zero, Nat.mul_one] at hupper
    omega
  have hsmall : ¬ exponent + (Nat.log2 digits + 1) ≤ -330 := by
    intro hexponent
    have hwhole : exponent.toNat = 0 := by omega
    have := not_small (e := (-exponent).toNat) (lt_twoTo_log2 digits) (by omega)
    rw [hwhole, tenTo_zero, Nat.mul_one] at hlower
    omega
  rw [ofDecimal, if_neg hdigits, if_neg hlarge, if_neg hsmall, nearest_of_round hm h]

end Double

end CallContract
