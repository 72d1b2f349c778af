import CallContract.Proofs.Rounding

/-!
# The nearest double

What it is for a double to be the nearest is said here without the rounding function: `NearestTo`
compares the distances of all magnitudes that a significand of 53 bits reaches, and of two that are
equally near it takes the one with the even significand. Magnitudes are not bounded here, as in the
rule for overflow: a number is too large if the nearest magnitude is.

**Theorem (`nearestTo_nearestUnits`).** `nearestUnits` finds the nearest magnitude. Doubles are
rounded by it (`Double.ofUnits_of_lt`, `Double.ofUnits_of_ge`).

A number of at least `2 ^ 52` units is a significand of 53 bits on its grid, and a rest of less than
the spacing of the grid. The rest decides how it is rounded (`nearestUnits_split`). From this follow
the two rules that arithmetic needs, that powers of two commute with rounding (`nearestUnits_mul`)
and that less than half a spacing is lost in a sum (`nearestUnits_add`). It also follows what the
bits are worth that come after the first 54: they decide a tie, and nothing else
(`nearestUnits_low`).
-/

namespace CallContract

/-! ## Nearest magnitudes -/

/-- A number of units that a significand of 53 bits reaches, if exponents are not bounded. -/
def Magnitude (m : Nat) : Prop := ∃ k e, k ≤ twoTo 53 ∧ m = k * twoTo e

/-- How far two natural numbers are apart. -/
def gap (a b : Nat) : Nat := a - b + (b - a)

/-- `m` is the magnitude nearest to `t`. Of two that are equally near it is the one with the even
significand, that is the one which is a multiple of the greater power of two. -/
structure NearestTo (t m : Nat) : Prop where
  magnitude : Magnitude m
  nearest : ∀ m', Magnitude m' → m' ≠ m →
    gap t m < gap t m' ∨ gap t m = gap t m' ∧ ∃ j, twoTo j ∣ m ∧ ¬ twoTo j ∣ m'

theorem NearestTo.unique {t m m' : Nat} (h : NearestTo t m) (h' : NearestTo t m') : m = m' := by
  by_cases hne : m = m'
  · exact hne
  · have hm' := h.nearest m' h'.magnitude (Ne.symm hne)
    have hm := h'.nearest m h.magnitude hne
    rcases hm' with hlt | ⟨heq, j, hj, hj'⟩ <;> rcases hm with hlt' | ⟨heq', i, hi', hi⟩
    · omega
    · omega
    · omega
    · -- Each would be a multiple of a power of two of which the other is not.
      rcases Nat.le_total i j with hij | hji
      · exact (hi (Nat.dvd_trans (twoTo_dvd hij) hj)).elim
      · exact (hj' (Nat.dvd_trans (twoTo_dvd hji) hi')).elim

/-! ## Quotients -/

theorem roundEven_split {den q r : Nat} (hr : r < den) :
    roundEven (q * den + r) den =
      if 2 * r < den then q else if den < 2 * r then q + 1 else q + q % 2 := by
  have hdiv : (q * den + r) / den = q := by
    rw [Nat.mul_comm, Nat.mul_add_div (by omega), Nat.div_eq_of_lt hr, Nat.add_zero]
  have hmod : (q * den + r) % den = r := by
    rw [Nat.mul_comm, Nat.mul_add_mod, Nat.mod_eq_of_lt hr]
  simp only [roundEven, hdiv, hmod]

theorem roundEven_mul_right {k : Nat} (num : Nat) {den : Nat} (hk : 0 < k) (hden : 0 < den) :
    roundEven (num * k) (den * k) = roundEven num den := by
  have hr := Nat.mod_lt num hden
  have hnum : num * k = num / den * (den * k) + num % den * k := by
    rw [← Nat.mul_assoc, ← Nat.add_mul, Nat.mul_comm (num / den), Nat.div_add_mod]
  rw [hnum, roundEven_split (Nat.mul_lt_mul_of_pos_right hr hk)]
  simp only [roundEven, ← Nat.mul_assoc, Nat.mul_lt_mul_right hk]

/-- A quotient is rounded down or up, as the rest says; a tie goes to the even side. -/
theorem roundEven_cases {den q r : Nat} (hr : r < den) :
    roundEven (q * den + r) den = q ∧ 2 * r ≤ den ∧ (2 * r = den → q % 2 = 0) ∨
      roundEven (q * den + r) den = q + 1 ∧ den ≤ 2 * r ∧ (2 * r = den → q % 2 = 1) := by
  rw [roundEven_split hr]
  by_cases hdown : 2 * r < den
  · exact .inl ⟨if_pos hdown, by omega, by omega⟩
  · by_cases hup : den < 2 * r
    · exact .inr ⟨by rw [if_neg hdown, if_pos hup], by omega, by omega⟩
    · rw [if_neg hdown, if_neg hup]
      omega

/-- The multiple that is found is nearest; of two that are equally near it is the even one. -/
theorem roundEven_nearest (num : Nat) {den : Nat} (hden : 0 < den) {k : Nat}
    (hk : k ≠ roundEven num den) :
    gap num (roundEven num den * den) < gap num (k * den) ∨
      gap num (roundEven num den * den) = gap num (k * den) ∧
        2 ∣ roundEven num den ∧ ¬ 2 ∣ k := by
  obtain ⟨q, r, hr, rfl⟩ : ∃ q r, r < den ∧ num = q * den + r :=
    ⟨num / den, num % den, Nat.mod_lt num hden, by rw [Nat.mul_comm, Nat.div_add_mod]⟩
  have hself : gap (q * den + r) (q * den) = r := by rw [gap]; omega
  have hnext : gap (q * den + r) ((q + 1) * den) = den - r := by
    rw [Nat.add_mul, Nat.one_mul, gap]
    omega
  -- The multiples beyond these two are further away by whole denominators.
  have hbelow : k < q → den + r ≤ gap (q * den + r) (k * den) := by
    intro hlt
    obtain ⟨i, rfl⟩ := Nat.exists_eq_add_of_le hlt
    rw [Nat.add_mul, Nat.succ_mul, gap]
    omega
  have habove : q + 1 < k → den + (den - r) ≤ gap (q * den + r) (k * den) := by
    intro hlt
    obtain ⟨i, rfl⟩ := Nat.exists_eq_add_of_le hlt
    rw [Nat.add_mul, Nat.succ_mul, Nat.succ_mul, gap]
    omega
  rcases roundEven_cases (q := q) hr with ⟨hround, hrest, htie⟩ | ⟨hround, hrest, htie⟩
  · rw [hround] at hk ⊢
    rw [hself]
    by_cases hkq : k = q + 1
    · rw [hkq, hnext]
      omega
    · omega
  · rw [hround] at hk ⊢
    rw [hnext]
    by_cases hkq : k = q
    · rw [hkq, hself]
      omega
    · omega

/-! ## The nearest magnitude of a number of units -/

/-- The nearest magnitude, found on the grid on which doubles of this size are. -/
def nearestUnits (t : Nat) : Nat :=
  let e := Precision.double.gridExponent t
  roundEven t (twoTo e) * twoTo e

theorem gridExponent_double (t : Nat) : Precision.double.gridExponent t = Nat.log2 t - 52 := by
  simp only [Precision.gridExponent, Precision.double]
  omega

/-- On its grid a number has at most 53 bits, -/
theorem lt_grid (t : Nat) : t < twoTo 53 * twoTo (Precision.double.gridExponent t) := by
  rw [← twoTo_add, gridExponent_double]
  exact Nat.lt_of_lt_of_le (lt_twoTo_log2 t) (twoTo_le (by omega))

/-- and just as many, unless the grid is the finest. -/
theorem grid_le {t : Nat} (h : 0 < Precision.double.gridExponent t) :
    twoTo 52 * twoTo (Precision.double.gridExponent t) ≤ t := by
  rw [gridExponent_double] at h ⊢
  rw [← twoTo_add, Nat.add_sub_cancel' (by omega)]
  exact Nat.log2_self_le (by rintro rfl; simp at h)

theorem nearestUnits_magnitude (t : Nat) : Magnitude (nearestUnits t) := by
  have hgrid := lt_grid t
  refine ⟨_, _, ?_, rfl⟩
  generalize Precision.double.gridExponent t = e at hgrid ⊢
  have hquotient : t / twoTo e < twoTo 53 := Nat.div_lt_of_lt_mul (by rwa [Nat.mul_comm])
  have hround := roundEven_le t (twoTo e)
  omega

/-- A magnitude is on the grid of a number, or there is a point of the grid between the two. -/
theorem Magnitude.on_grid_or_small {m : Nat} (h : Magnitude m) (t : Nat) :
    let spacing := twoTo (Precision.double.gridExponent t)
    (∃ c, m = c * spacing) ∨ m < twoTo 52 * spacing ∧ twoTo 52 * spacing ≤ t := by
  obtain ⟨k, i, hk, rfl⟩ := h
  by_cases hi : Precision.double.gridExponent t ≤ i
  · refine .inl ⟨k * twoTo (i - Precision.double.gridExponent t), ?_⟩
    rw [Nat.mul_assoc, ← twoTo_add, Nat.sub_add_cancel hi]
  · have hle : k * twoTo i ≤ twoTo 52 * twoTo (Precision.double.gridExponent t) := by
      calc k * twoTo i ≤ twoTo 53 * twoTo i := Nat.mul_le_mul_right _ hk
        _ = twoTo (53 + i) := (twoTo_add _ _).symm
        _ ≤ twoTo (52 + Precision.double.gridExponent t) := twoTo_le (by omega)
        _ = twoTo 52 * twoTo (Precision.double.gridExponent t) := twoTo_add _ _
    rcases Nat.lt_or_eq_of_le hle with hlt | heq
    · exact .inr ⟨hlt, grid_le (by omega)⟩
    · exact .inl ⟨_, heq⟩

/-- **The nearest magnitude is found.** -/
theorem nearestTo_nearestUnits (t : Nat) : NearestTo t (nearestUnits t) where
  magnitude := nearestUnits_magnitude t
  nearest := by
    intro m hm hne
    have hgrid := hm.on_grid_or_small t
    simp only [nearestUnits] at hne hgrid ⊢
    generalize Precision.double.gridExponent t = e at hne hgrid ⊢
    rcases hgrid with ⟨c, rfl⟩ | ⟨hsmall, hpoint⟩
    · have hc : c ≠ roundEven t (twoTo e) := fun heq => hne (by rw [heq])
      refine (roundEven_nearest t (twoTo_pos e) hc).imp_right fun ⟨heq, heven, hodd⟩ => ?_
      refine ⟨heq, 1 + e, ?_⟩
      rw [twoTo_add, Nat.mul_dvd_mul_iff_right (twoTo_pos e),
        Nat.mul_dvd_mul_iff_right (twoTo_pos e)]
      exact ⟨heven, hodd⟩
    · -- The point of the grid is nearer than the magnitude, and what is found is nearer still.
      left
      have hnearer : gap t (roundEven t (twoTo e) * twoTo e) ≤ gap t (twoTo 52 * twoTo e) := by
        by_cases hc : twoTo 52 = roundEven t (twoTo e)
        · exact hc ▸ Nat.le_refl _
        · have := roundEven_nearest t (twoTo_pos e) hc
          omega
      have hfurther : gap t (twoTo 52 * twoTo e) < gap t m := by
        rw [gap, gap]
        omega
      exact Nat.lt_of_le_of_lt hnearer hfurther

/-! ## Rules for rounding -/

theorem two_mul_twoTo (e : Nat) : 2 * twoTo e = twoTo (1 + e) := by
  rw [twoTo_add]
  rfl

theorem lt_of_twoTo_lt {d e : Nat} (h : twoTo d < twoTo e) : d < e :=
  (Nat.pow_lt_pow_iff_right (by decide)).1 h

/-- A significand of 53 bits is on its grid, whatever the rest. -/
theorem gridExponent_split {k e r : Nat} (hk : twoTo 52 ≤ k) (hk' : k < twoTo 53)
    (hr : r < twoTo e) : Precision.double.gridExponent (k * twoTo e + r) = e := by
  have hlow : twoTo (52 + e) ≤ k * twoTo e + r := by
    rw [twoTo_add]
    exact Nat.le_add_right_of_le (Nat.mul_le_mul_right _ hk)
  have hhigh : k * twoTo e + r < twoTo (52 + e + 1) := by
    calc k * twoTo e + r < (k + 1) * twoTo e := by rw [Nat.succ_mul]; omega
      _ ≤ twoTo 53 * twoTo e := Nat.mul_le_mul_right _ hk'
      _ = twoTo (52 + e + 1) := by rw [← twoTo_add]; congr 1; omega
  have hpos := twoTo_pos (52 + e)
  have hlog : Nat.log2 (k * twoTo e + r) = 52 + e :=
    (Nat.log2_eq_iff (by omega)).2 ⟨hlow, hhigh⟩
  rw [gridExponent_double, hlog, Nat.add_sub_cancel_left]

/-- **The rest decides** how a number is rounded. -/
theorem nearestUnits_split {k e r : Nat} (hk : twoTo 52 ≤ k) (hk' : k < twoTo 53)
    (hr : r < twoTo e) :
    nearestUnits (k * twoTo e + r) = roundEven (k * twoTo e + r) (twoTo e) * twoTo e := by
  rw [nearestUnits, gridExponent_split hk hk' hr]

/-- Numbers of at least `2 ^ 52` units are of this form. -/
theorem exists_split {t : Nat} (ht : twoTo 52 ≤ t) :
    ∃ k e r, twoTo 52 ≤ k ∧ k < twoTo 53 ∧ r < twoTo e ∧ t = k * twoTo e + r := by
  have hpos := twoTo_pos (Precision.double.gridExponent t)
  have hgrid : twoTo 52 * twoTo (Precision.double.gridExponent t) ≤ t := by
    by_cases he : 0 < Precision.double.gridExponent t
    · exact grid_le he
    · obtain he : Precision.double.gridExponent t = 0 := by omega
      rw [he]
      exact ht
  have hbelow := lt_grid t
  refine ⟨t / twoTo (Precision.double.gridExponent t), Precision.double.gridExponent t,
    t % twoTo (Precision.double.gridExponent t), ?_, ?_, Nat.mod_lt _ hpos, ?_⟩
  · exact (Nat.le_div_iff_mul_le hpos).2 hgrid
  · exact Nat.div_lt_of_lt_mul (by rwa [Nat.mul_comm])
  · rw [Nat.mul_comm, Nat.div_add_mod]

/-- Powers of two commute with rounding. -/
theorem nearestUnits_mul {t : Nat} (ht : twoTo 52 ≤ t) (j : Nat) :
    nearestUnits (t * twoTo j) = nearestUnits t * twoTo j := by
  obtain ⟨k, e, r, hk, hk', hr, rfl⟩ := exists_split ht
  have hscaled : (k * twoTo e + r) * twoTo j = k * twoTo (e + j) + r * twoTo j := by
    rw [Nat.add_mul, Nat.mul_assoc, ← twoTo_add]
  have hr' : r * twoTo j < twoTo (e + j) := by
    rw [twoTo_add]
    exact Nat.mul_lt_mul_of_pos_right hr (twoTo_pos j)
  rw [hscaled, nearestUnits_split hk hk' hr', nearestUnits_split hk hk' hr, ← hscaled, twoTo_add,
    roundEven_mul_right _ (twoTo_pos j) (twoTo_pos e), Nat.mul_assoc]

/-- Less than half a spacing is lost in a sum. -/
theorem nearestUnits_add {k e x : Nat} (hk : twoTo 52 ≤ k) (hk' : k < twoTo 53)
    (hx : 2 * x < twoTo e) : nearestUnits (k * twoTo e + x) = k * twoTo e := by
  have hx' : x < twoTo e := by omega
  rw [nearestUnits_split hk hk' hx', roundEven_split hx', if_pos hx]

/-- Of a large number the spacing is wide. -/
theorem exists_split_of_le {t i : Nat} (ht : twoTo (53 + i) ≤ t) :
    ∃ k e r, twoTo 52 ≤ k ∧ k < twoTo 53 ∧ r < twoTo e ∧ i < e ∧ t = k * twoTo e + r := by
  obtain ⟨k, e, r, hk, hk', hr, rfl⟩ := exists_split (Nat.le_trans (twoTo_le (by omega)) ht)
  have hlt : twoTo (53 + i) < twoTo (53 + e) := by
    calc twoTo (53 + i) ≤ k * twoTo e + r := ht
      _ < (k + 1) * twoTo e := by rw [Nat.succ_mul]; omega
      _ ≤ twoTo 53 * twoTo e := Nat.mul_le_mul_right _ hk'
      _ = twoTo (53 + e) := (twoTo_add _ _).symm
  have hexponent := lt_of_twoTo_lt hlt
  exact ⟨k, e, r, hk, hk', hr, by omega, rfl⟩

/-- What a large number is rounded to has 53 bits, too, on the same grid or the next one. -/
theorem exists_significand {t i : Nat} (ht : twoTo (53 + i) ≤ t) :
    ∃ k e, twoTo 52 ≤ k ∧ k < twoTo 53 ∧ i < e ∧ nearestUnits t = k * twoTo e := by
  obtain ⟨k, e, r, hk, hk', hr, hi, rfl⟩ := exists_split_of_le ht
  rw [nearestUnits_split hk hk' hr]
  rcases roundEven_cases (q := k) hr with ⟨hround, -⟩ | ⟨hround, -⟩
  · exact ⟨k, e, hk, hk', hi, by rw [hround]⟩
  · by_cases hcarry : k + 1 < twoTo 53
    · exact ⟨k + 1, e, by omega, hcarry, hi, by rw [hround]⟩
    · have hk53 : k + 1 = twoTo 53 := by omega
      refine ⟨twoTo 52, 1 + e, Nat.le_refl _, twoTo_lt (by decide), by omega, ?_⟩
      rw [hround, hk53, ← twoTo_add, ← twoTo_add, ← Nat.add_assoc]

/-! ## Ties -/

/-- Half-way between two magnitudes, and the lower one is nearest. -/
def TiesDown (t : Nat) : Prop :=
  ∃ m m', NearestTo t m ∧ Magnitude m' ∧ m < t ∧ m + m' = 2 * t

theorem tiesDown_split {k e r : Nat} (hk : twoTo 52 ≤ k) (hk' : k < twoTo 53) (hr : r < twoTo e) :
    TiesDown (k * twoTo e + r) ↔ 2 * r = twoTo e ∧ k % 2 = 0 := by
  have hround := nearestUnits_split hk hk' hr
  have hnearest := nearestTo_nearestUnits (k * twoTo e + r)
  constructor
  · rintro ⟨m, m', hm, hm', hlt, hsum⟩
    rw [hm.unique hnearest, hround] at hlt hsum
    rcases roundEven_cases (q := k) hr with ⟨hdown, hrest, htie⟩ | ⟨hup, -, -⟩
    · rw [hdown] at hlt hsum
      have hupper : m' = k * twoTo e + 2 * r := by omega
      -- The upper magnitude is on the grid, so it is the next point after the lower one.
      have hlow : twoTo 52 * twoTo e ≤ k * twoTo e := Nat.mul_le_mul_right _ hk
      have hgrid := hm'.on_grid_or_small (k * twoTo e + r)
      rw [gridExponent_split hk hk' hr] at hgrid
      rcases hgrid with ⟨c, hc⟩ | ⟨hsmall, -⟩
      · have hdvd : twoTo e ∣ 2 * r := by
          rw [← Nat.dvd_add_right (Nat.dvd_mul_left (twoTo e) k), ← hupper, hc]
          exact Nat.dvd_mul_left _ _
        have heq : 2 * r = twoTo e := Nat.le_antisymm hrest (Nat.le_of_dvd (by omega) hdvd)
        exact ⟨heq, htie heq⟩
      · omega
    · rw [hup, Nat.succ_mul] at hlt
      omega
  · rintro ⟨htie, heven⟩
    have hdown : nearestUnits (k * twoTo e + r) = k * twoTo e := by
      rw [hround, roundEven_split hr, if_neg (by omega), if_neg (by omega), heven, Nat.add_zero]
    rw [hdown] at hnearest
    have hpos := twoTo_pos e
    have hsum : k * twoTo e + (k + 1) * twoTo e = 2 * (k * twoTo e + r) := by
      rw [Nat.succ_mul]
      omega
    exact ⟨_, _, hnearest, ⟨k + 1, e, hk', rfl⟩, by omega, hsum⟩

/-- **Low bits decide a tie, and nothing else.** The number `t` has more than 53 bits above the last
`f`, which are zeros; `x` is what they could be instead. -/
theorem nearestUnits_low {t f x : Nat} (ht : twoTo (53 + f) ≤ t) (hzeros : twoTo f ∣ t)
    (hx : x < twoTo f) :
    nearestUnits (t + x) = nearestUnits t ∧ ¬ (0 < x ∧ TiesDown t) ∨
      (0 < x ∧ TiesDown t) ∧ ∃ k e, twoTo 52 ≤ k ∧ k < twoTo 53 ∧ k % 2 = 0 ∧
        nearestUnits t = k * twoTo e ∧ nearestUnits (t + x) = (k + 1) * twoTo e := by
  obtain ⟨k, e, r, hk, hk', hr, hf, rfl⟩ := exists_split_of_le ht
  obtain ⟨g, rfl⟩ : ∃ g, e = 1 + (g + f) := ⟨e - 1 - f, by omega⟩
  have hhalf : twoTo f ∣ twoTo (g + f) := twoTo_dvd (Nat.le_add_left _ _)
  have hspacing : twoTo f ∣ twoTo (1 + (g + f)) := twoTo_dvd (by omega)
  have hrest : twoTo f ∣ r := (Nat.dvd_add_right (Nat.dvd_mul_left_of_dvd hspacing k)).1 hzeros
  -- The rest is a multiple of `2 ^ f`, so no `x` lifts it over half of the spacing.
  have hstep : ∀ m, twoTo f ∣ m → r < m → r + twoTo f ≤ m := by
    intro m hm hlt
    have := Nat.le_of_dvd (Nat.sub_pos_of_lt hlt) (Nat.dvd_sub hm hrest)
    omega
  have hbelowHalf := hstep _ hhalf
  have hbelow := hstep _ hspacing hr
  have hties := tiesDown_split hk hk' hr
  have hdouble := two_mul_twoTo (g + f)
  have hr' : r + x < twoTo (1 + (g + f)) := by omega
  rw [Nat.add_assoc, nearestUnits_split hk hk' hr, nearestUnits_split hk hk' hr', hties,
    roundEven_split hr, roundEven_split hr', ← hdouble]
  rw [← hdouble] at hr hr' hbelow
  by_cases htie : r = twoTo (g + f)
  · by_cases hpos : 0 < x
    · by_cases heven : k % 2 = 0
      · right
        refine ⟨⟨hpos, by omega, heven⟩, k, 1 + (g + f), hk, hk', heven, ?_, ?_⟩
        · rw [if_neg (by omega), if_neg (by omega), heven, Nat.add_zero, hdouble]
        · rw [if_neg (by omega), if_pos (by omega), hdouble]
      · left
        refine ⟨?_, by omega⟩
        rw [if_neg (by omega), if_pos (by omega), if_neg (by omega), if_neg (by omega)]
        congr 1
        omega
    · left
      obtain rfl : x = 0 := by omega
      exact ⟨rfl, by omega⟩
  · left
    refine ⟨?_, by omega⟩
    rcases Nat.lt_or_gt_of_ne htie with hlt | hgt
    · rw [if_pos (by omega), if_pos (by omega)]
    · rw [if_neg (by omega), if_pos (by omega), if_neg (by omega), if_pos (by omega)]

/-- Low bits make no number too large. -/
theorem nearestUnits_low_top {t f x : Nat} (ht : twoTo (53 + f) ≤ t) (hzeros : twoTo f ∣ t)
    (hx : x < twoTo f) :
    twoTo topExponent ≤ nearestUnits (t + x) ↔ twoTo topExponent ≤ nearestUnits t := by
  rcases nearestUnits_low ht hzeros hx with
    ⟨heq, -⟩ | ⟨-, k, e, hk, hk', heven, hdown, hup⟩
  · rw [heq]
  · rw [hdown, hup]
    constructor
    · -- An even significand is not the greatest one.
      intro htop
      have hk53 : k + 1 < twoTo 53 := by
        have : twoTo 53 % 2 = 0 := rfl
        omega
      have hlt : twoTo topExponent < twoTo (53 + e) := by
        rw [twoTo_add]
        exact Nat.lt_of_le_of_lt htop (Nat.mul_lt_mul_of_pos_right hk53 (twoTo_pos e))
      have hexponent := lt_of_twoTo_lt hlt
      calc twoTo topExponent ≤ twoTo (52 + e) := twoTo_le (by omega)
        _ = twoTo 52 * twoTo e := twoTo_add _ _
        _ ≤ k * twoTo e := Nat.mul_le_mul_right _ hk
    · exact fun htop => Nat.le_trans htop (Nat.mul_le_mul_right _ (Nat.le_succ k))

/-! ## Doubles -/

theorem nearestUnits_representable {t : Nat} (h : nearestUnits t < twoTo topExponent) :
    Representable (nearestUnits t) := ⟨h, nearestUnits_magnitude t⟩

theorem Precision.round_double (t : Nat) :
    Precision.double.round t 1 =
      if nearestUnits t < twoTo topExponent then some (nearestUnits t) else none := by
  simp only [Precision.round, nearestUnits, Nat.div_one, Nat.one_mul]
  rfl

/-- A quotient is rounded as a number if it is one. -/
theorem Precision.round_mul_right (t : Nat) {k : Nat} (hk : 0 < k) :
    Precision.double.round (t * k) k = Precision.double.round t 1 := by
  simp only [Precision.round, Nat.mul_div_cancel t hk, Nat.div_one, Nat.one_mul, Nat.mul_comm k,
    roundEven_mul_right t hk (twoTo_pos _)]

namespace Double

variable {negative : Bool} {t : Nat}

theorem nearest_congr {num den num' den' : Nat}
    (h : Precision.double.round num den = Precision.double.round num' den') :
    nearest .double negative num den = nearest .double negative num' den' := by
  simp only [nearest]
  split <;> split <;> simp_all

theorem ofUnits_of_lt (h : nearestUnits t < twoTo topExponent) :
    ofUnits negative t = .finite negative (nearestUnits t) (nearestUnits_representable h) :=
  nearest_of_round _ (by rw [Precision.round_double, if_pos h])

theorem ofUnits_of_ge (h : twoTo topExponent ≤ nearestUnits t) :
    ofUnits negative t = .infinite negative := by
  have hround : Precision.double.round t 1 = none := by
    rw [Precision.round_double, if_neg (Nat.not_lt.2 h)]
  simp only [ofUnits, nearest]
  split
  case h_1 m hm => cases hround.symm.trans hm
  case h_2 => rfl

/-- A sum of numbers that are not negative is rounded once, -/
theorem add_of_nonneg {m n : Nat} (hm : Representable m) (hn : Representable n) :
    Double.finite false m hm + .finite false n hn = ofUnits false (m + n) := by
  show add _ _ = _
  have htotal : signedUnits false m + signedUnits false n = ((m + n : Nat) : Int) := by
    simp [signedUnits]
  have hnonneg : ¬ ((m + n : Nat) : Int) < 0 := by omega
  simp only [add, htotal, Int.natAbs_natCast, hnonneg, decide_false]
  split
  case isTrue hzero =>
    have hzero : m + n = 0 := by omega
    rw [hzero, ofUnits_of_representable false .zero]
    rfl
  case isFalse => rfl

/-- and so is a product with a whole number. -/
theorem mul_of_nonneg {m n : Nat} (hm : Representable m) (hn : Representable (n * oneUnits)) :
    Double.finite false m hm * .finite false (n * oneUnits) hn = ofUnits false (m * n) := by
  show mul _ _ = _
  simp only [mul, Bool.xor_self, ← Nat.mul_assoc, ofUnits]
  exact nearest_congr (Precision.round_mul_right (m * n) oneUnits_pos)

end Double

end CallContract
