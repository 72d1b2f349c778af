import CallContract.Proofs.Nearest
import Mathlib.Algebra.Group.Nat.Defs

/-!
# Digits accumulated in doubles

The digits after `0x`, `0o` or `0b` are read one by one: what has been read is multiplied by the
radix, the digit is added, and each of the two results is rounded.

**Theorem (`Double.push_digit`).** What has been read is at any time the double nearest to the
digits so far, where those count as zeros that follow the first with which there are more than 53
bits (`Radix.leading`). Up to that digit nothing was rounded before, so only the sum is
(`push_small`). From then on the product is exact (`ofUnits_mul_twoTo`), and the digit, less than
half of the spacing of doubles, is lost in the sum (`ofUnits_add_small`).

Taking digits as zeros changes nothing about which numbers are too large
(`Radix.ofNat?_leading_eq_none_iff`), and changes which double is nearest only where the digits
would have decided a tie (`Radix.nearestUnits_leading_ne_iff`).
-/

namespace CallContract

/-! ## Radices -/

/-- The radices that a prefix announces. -/
inductive Radix where
  | binary
  | octal
  | hexadecimal
  deriving DecidableEq

namespace Radix

/-- The bits of a digit. -/
def bits : Radix → Nat
  | binary => 1
  | octal => 3
  | hexadecimal => 4

/-- The radix itself. -/
def base (r : Radix) : Nat := twoTo r.bits

/-- The letter of the prefix. -/
def letter : Radix → Char
  | binary => 'b'
  | octal => 'o'
  | hexadecimal => 'x'

/-- How many digits of a number follow the first with which it has more than 53 bits. -/
def dropped (r : Radix) (n : Nat) : Nat := (Nat.log2 n - 53) / r.bits

/-- The number with these digits taken as zeros. -/
def leading (r : Radix) (n : Nat) : Nat := n / r.base ^ r.dropped n * r.base ^ r.dropped n

theorem bits_pos (r : Radix) : 0 < r.bits := by cases r <;> decide

theorem bits_le (r : Radix) : r.bits ≤ 4 := by cases r <;> decide

theorem one_lt_base (r : Radix) : 1 < r.base := by cases r <;> decide

theorem base_pos (r : Radix) : 0 < r.base := twoTo_pos _

theorem base_pow (r : Radix) (j : Nat) : r.base ^ j = twoTo (r.bits * j) := (Nat.pow_mul 2 _ j).symm

theorem log2_of_le {n : Nat} (h : twoTo 53 ≤ n) : 53 ≤ Nat.log2 n :=
  (Nat.le_log2 (Nat.ne_of_gt (Nat.lt_of_lt_of_le (twoTo_pos 53) h))).2 h

/-- What is left of a number that has more than 53 bits has more than 53 bits. -/
theorem le_div_dropped (r : Radix) {n : Nat} (h : twoTo 53 ≤ n) :
    twoTo 53 ≤ n / r.base ^ r.dropped n := by
  have hlog := log2_of_le h
  have hdropped : r.bits * r.dropped n ≤ Nat.log2 n - 53 := Nat.mul_div_le _ _
  have hself : twoTo (Nat.log2 n) ≤ n := Nat.log2_self_le (by rintro rfl; simp at hlog)
  rw [base_pow, Nat.le_div_iff_mul_le (twoTo_pos _), ← twoTo_add]
  exact Nat.le_trans (twoTo_le (by omega)) hself

theorem le_leading (r : Radix) {n : Nat} (h : twoTo 53 ≤ n) : twoTo 53 ≤ r.leading n :=
  Nat.le_trans (r.le_div_dropped h) (Nat.le_mul_of_pos_right _ (Nat.pow_pos r.base_pos))

/-- Up to 53 bits and one digit nothing is dropped. -/
theorem dropped_of_lt (r : Radix) {n : Nat} (h : n < twoTo (53 + r.bits)) : r.dropped n = 0 := by
  have hlog : Nat.log2 n < 53 + r.bits := by
    by_cases hzero : n = 0
    · rw [hzero, Nat.log2_zero]
      omega
    · exact (Nat.log2_lt hzero).2 h
  have hbits := r.bits_pos
  exact Nat.div_eq_of_lt (by omega)

theorem leading_of_lt (r : Radix) {n : Nat} (h : n < twoTo (53 + r.bits)) : r.leading n = n := by
  rw [leading, r.dropped_of_lt h, Nat.pow_zero, Nat.div_one, Nat.mul_one]

/-- Up to 53 bits all the more. -/
theorem leading_of_small (r : Radix) {n : Nat} (h : n < twoTo 53) : r.leading n = n :=
  r.leading_of_lt (Nat.lt_of_lt_of_le h (twoTo_le (Nat.le_add_right _ _)))

theorem push_lt (r : Radix) {a d : Nat} (hd : d < r.base) :
    a * r.base + d < (a + 1) * r.base := by
  rw [Nat.succ_mul]
  omega

theorem log2_push (r : Radix) {a d : Nat} (ha : a ≠ 0) (hd : d < r.base) :
    Nat.log2 (a * r.base + d) = Nat.log2 a + r.bits := by
  have hlow : twoTo (Nat.log2 a + r.bits) ≤ a * r.base + d := by
    rw [twoTo_add]
    exact Nat.le_add_right_of_le (Nat.mul_le_mul_right _ (Nat.log2_self_le ha))
  have hhigh : a * r.base + d < twoTo (Nat.log2 a + r.bits + 1) := by
    rw [Nat.add_right_comm, twoTo_add]
    exact Nat.lt_of_lt_of_le (r.push_lt hd) (Nat.mul_le_mul_right _ (lt_twoTo_log2 a))
  have hpos := twoTo_pos (Nat.log2 a + r.bits)
  exact (Nat.log2_eq_iff (by omega)).2 ⟨hlow, hhigh⟩

/-- **One more digit** is taken as it is, or as a zero. -/
theorem leading_push (r : Radix) {a d : Nat} (hd : d < r.base) :
    r.leading (a * r.base + d) =
      if a < twoTo 53 then a * r.base + d else r.leading a * r.base := by
  split
  case isTrue ha =>
    refine r.leading_of_lt (Nat.lt_of_lt_of_le (r.push_lt hd) ?_)
    rw [twoTo_add]
    exact Nat.mul_le_mul_right _ ha
  case isFalse ha =>
    have hlog := log2_of_le (Nat.not_lt.1 ha)
    have hne : a ≠ 0 := by rintro rfl; exact ha (twoTo_pos 53)
    have hdropped : r.dropped (a * r.base + d) = r.dropped a + 1 := by
      rw [dropped, dropped, r.log2_push hne hd, Nat.sub_add_comm hlog,
        Nat.add_div_right _ r.bits_pos]
    have hdiv : (a * r.base + d) / r.base = a := by
      rw [Nat.mul_comm, Nat.mul_add_div r.base_pos, Nat.div_eq_of_lt hd, Nat.add_zero]
    rw [leading, leading, hdropped, Nat.pow_succ', ← Nat.div_div_eq_div_mul, hdiv,
      Nat.mul_comm r.base, Nat.mul_assoc]

end Radix

/-! ## Digits are accumulated -/

namespace Double

theorem ofUnits_congr {s : Bool} {t t' : Nat} (h : nearestUnits t = nearestUnits t') :
    ofUnits s t = ofUnits s t' :=
  nearest_congr (by rw [Precision.round_double, Precision.round_double, h])

theorem ofNat_finite {n : Nat} (h : n ≤ twoTo 53) :
    ofNat n = .finite false (n * oneUnits) (.of_whole h) := ofUnits_of_representable false _

/-- A digit is taken as it is if nothing has been rounded yet. -/
theorem push_small {a b d : Nat} (ha : a ≤ twoTo 53) (hb : b ≤ 4) (hd : d < twoTo b) :
    ofNat a * ofNat (twoTo b) + ofNat d = ofNat (a * twoTo b + d) := by
  have hbase : twoTo b ≤ twoTo 53 := twoTo_le (by omega)
  have hproduct : Representable (a * oneUnits * twoTo b) := by
    refine ⟨?_, a, unitExponent + b, ha, by rw [Nat.mul_assoc, oneUnits, twoTo_add]⟩
    calc a * oneUnits * twoTo b ≤ twoTo 53 * oneUnits * twoTo 4 :=
          Nat.mul_le_mul (Nat.mul_le_mul_right _ ha) (twoTo_le hb)
      _ = twoTo (53 + unitExponent + 4) := by rw [twoTo_add, twoTo_add, oneUnits]
      _ < twoTo topExponent := twoTo_lt (by decide)
  have hdigit : d ≤ twoTo 53 := Nat.le_of_lt (Nat.lt_of_lt_of_le hd hbase)
  rw [ofNat_finite ha, ofNat_finite hbase, ofNat_finite hdigit,
    mul_of_nonneg, ofUnits_of_representable false hproduct, add_of_nonneg, ofNat, Nat.add_mul,
    Nat.mul_right_comm]

theorem infinite_mul {s : Bool} {n : Nat} (hn : n ≠ 0) (h : Representable n) :
    Double.infinite s * .finite false n h = .infinite s := by
  show mul _ _ = _
  simp [mul, hn]

theorem infinite_add {s s' : Bool} {n : Nat} (h : Representable n) :
    Double.infinite s + .finite s' n h = .infinite s := rfl

/-- A product with a power of two is rounded as if its factor had not been. -/
theorem ofUnits_mul_twoTo {t b : Nat} (ht : twoTo 53 ≤ t) (hb : b ≤ 53) :
    ofUnits false t * ofNat (twoTo b) = ofUnits false (t * twoTo b) := by
  have ht' : twoTo 52 ≤ t := Nat.le_trans (twoTo_le (by decide)) ht
  rw [ofNat_finite (twoTo_le hb)]
  rcases Nat.lt_or_ge (nearestUnits t) (twoTo topExponent) with hfinite | hinfinite
  · obtain ⟨k, e, hk, hk', -, hsignificand⟩ := exists_significand (i := 0) ht
    have hlarge : twoTo 52 ≤ k * twoTo e :=
      Nat.le_trans hk (Nat.le_mul_of_pos_right _ (twoTo_pos e))
    have hself : nearestUnits (k * twoTo e) = k * twoTo e :=
      nearestUnits_add hk hk' (x := 0) (twoTo_pos e)
    rw [ofUnits_of_lt hfinite, mul_of_nonneg]
    refine ofUnits_congr ?_
    rw [hsignificand, nearestUnits_mul hlarge, hself, nearestUnits_mul ht', hsignificand]
  · have hne : twoTo b * oneUnits ≠ 0 := Nat.ne_of_gt (Nat.mul_pos (twoTo_pos b) oneUnits_pos)
    have hlarge : twoTo topExponent ≤ nearestUnits (t * twoTo b) := by
      rw [nearestUnits_mul ht']
      exact Nat.le_trans hinfinite (Nat.le_mul_of_pos_right _ (twoTo_pos b))
    rw [ofUnits_of_ge hinfinite, ofUnits_of_ge hlarge, infinite_mul hne]

/-- Less than half of the spacing is lost in a sum. -/
theorem ofUnits_add_small {t i x : Nat} (ht : twoTo (53 + i) ≤ t) (hx : x < twoTo i)
    (h : Representable x) : ofUnits false t + .finite false x h = ofUnits false t := by
  rcases Nat.lt_or_ge (nearestUnits t) (twoTo topExponent) with hfinite | hinfinite
  · obtain ⟨k, e, hk, hk', he, hsignificand⟩ := exists_significand ht
    have hsmall : 2 * x < twoTo e := by
      calc 2 * x < 2 * twoTo i := Nat.mul_lt_mul_of_pos_left hx (by decide)
        _ = twoTo (1 + i) := two_mul_twoTo i
        _ ≤ twoTo e := twoTo_le (by omega)
    have hsum : nearestUnits (nearestUnits t + x) = nearestUnits t := by
      rw [hsignificand, nearestUnits_add hk hk' hsmall]
    calc ofUnits false t + .finite false x h = ofUnits false (nearestUnits t + x) := by
          rw [ofUnits_of_lt hfinite, add_of_nonneg]
      _ = ofUnits false t := ofUnits_congr hsum
  · rw [ofUnits_of_ge hinfinite, infinite_add]

/-- A digit is lost once there are more than 53 bits. -/
theorem push_large {t b d : Nat} (ht : twoTo (53 + unitExponent) ≤ t) (hb : b ≤ 4)
    (hd : d < twoTo b) :
    ofUnits false t * ofNat (twoTo b) + ofNat d = ofUnits false (t * twoTo b) := by
  have hdigit : d ≤ twoTo 53 := Nat.le_of_lt (Nat.lt_of_lt_of_le hd (twoTo_le (by omega)))
  have hlarge : twoTo (53 + (b + unitExponent)) ≤ t * twoTo b := by
    calc twoTo (53 + (b + unitExponent)) = twoTo (53 + unitExponent) * twoTo b := by
          rw [← twoTo_add]
          congr 1
          omega
      _ ≤ t * twoTo b := Nat.mul_le_mul_right _ ht
  have hsmall : d * oneUnits < twoTo (b + unitExponent) := by
    rw [twoTo_add]
    exact Nat.mul_lt_mul_of_pos_right hd oneUnits_pos
  rw [ofUnits_mul_twoTo (Nat.le_trans (twoTo_le (by omega)) ht) (by omega), ofNat_finite hdigit,
    ofUnits_add_small hlarge hsmall]

/-- **One more digit.** -/
theorem push_digit (r : Radix) {a d : Nat} (hd : d < r.base) :
    ofNat (r.leading a) * ofNat r.base + ofNat d = ofNat (r.leading (a * r.base + d)) := by
  rw [r.leading_push hd]
  split
  case isTrue ha =>
    rw [r.leading_of_small ha]
    exact push_small (Nat.le_of_lt ha) r.bits_le hd
  case isFalse ha =>
    have hlarge : twoTo (53 + unitExponent) ≤ r.leading a * oneUnits := by
      rw [twoTo_add]
      exact Nat.mul_le_mul_right _ (r.le_leading (Nat.not_lt.1 ha))
    have hunits : ofNat (r.leading a * r.base) =
        ofUnits false (r.leading a * oneUnits * twoTo r.bits) := by
      rw [ofNat, Nat.mul_right_comm]
      rfl
    rw [hunits]
    exact push_large hlarge r.bits_le hd

/-! ## What is read -/

/-- The double nearest to a whole number, unless it is too large. -/
def ofNat? (n : Nat) : Option Double := (some (ofNat n)).filter isFinite

theorem ofNat?_of_lt {n : Nat} (h : nearestUnits (n * oneUnits) < twoTo topExponent) :
    ofNat? n = some (.finite false _ (nearestUnits_representable h)) := by
  rw [ofNat?, ofNat, ofUnits_of_lt h]
  rfl

theorem ofNat?_of_ge {n : Nat} (h : twoTo topExponent ≤ nearestUnits (n * oneUnits)) :
    ofNat? n = none := by
  rw [ofNat?, ofNat, ofUnits_of_ge h]
  rfl

theorem ofNat?_eq_none_iff {n : Nat} :
    ofNat? n = none ↔ twoTo topExponent ≤ nearestUnits (n * oneUnits) := by
  refine ⟨fun hnone => Nat.not_lt.1 fun hlt => ?_, ofNat?_of_ge⟩
  rw [ofNat?_of_lt hlt] at hnone
  cases hnone

theorem ofNat?_eq_iff {n n' : Nat} (h : ofNat? n = none ↔ ofNat? n' = none) :
    ofNat? n = ofNat? n' ↔
      nearestUnits (n * oneUnits) = nearestUnits (n' * oneUnits) ∨ ofNat? n' = none := by
  rw [ofNat?_eq_none_iff, ofNat?_eq_none_iff] at h
  rcases Nat.lt_or_ge (nearestUnits (n' * oneUnits)) (twoTo topExponent) with hlt' | hge'
  · have hlt : nearestUnits (n * oneUnits) < twoTo topExponent := by omega
    simp [ofNat?_of_lt hlt, ofNat?_of_lt hlt']
  · simp [ofNat?_of_ge hge', ofNat?_of_ge (h.2 hge')]

end Double

/-- What is read is the double nearest to `n`, or nothing if that is too large. -/
inductive ReadsNearest (n : Nat) : Option Double → Prop where
  | finite {m : Nat} (nearest : NearestTo (n * oneUnits) m) (h : Representable m) :
      ReadsNearest n (some (.finite false m h))
  | tooLarge {m : Nat} (nearest : NearestTo (n * oneUnits) m) (h : twoTo topExponent ≤ m) :
      ReadsNearest n none

theorem readsNearest_ofNat? (n : Nat) : ReadsNearest n (Double.ofNat? n) := by
  have hnearest := nearestTo_nearestUnits (n * oneUnits)
  rcases Nat.lt_or_ge (nearestUnits (n * oneUnits)) (twoTo topExponent) with hlt | hge
  · rw [Double.ofNat?_of_lt hlt]
    exact .finite hnearest _
  · rw [Double.ofNat?_of_ge hge]
    exact .tooLarge hnearest hge

theorem ReadsNearest.unique {n : Nat} {a b : Option Double} (ha : ReadsNearest n a)
    (hb : ReadsNearest n b) : a = b := by
  cases ha with
  | finite hm h =>
    cases hb with
    | finite hm' h' => cases hm.unique hm'; rfl
    | tooLarge hm' h' => cases hm.unique hm'; exact absurd h.1 (Nat.not_lt.2 h')
  | tooLarge hm h =>
    cases hb with
    | finite hm' h' => cases hm.unique hm'; exact absurd h'.1 (Nat.not_lt.2 h)
    | tooLarge => rfl

namespace Radix

variable (r : Radix) (n : Nat)

/-- Of a large number low bits are dropped, below more than 53 that are kept. -/
theorem leading_low (h : twoTo 53 ≤ n) :
    ∃ f x, twoTo (53 + f) ≤ r.leading n * oneUnits ∧ twoTo f ∣ r.leading n * oneUnits ∧
      x < twoTo f ∧ n * oneUnits = r.leading n * oneUnits + x ∧ (0 < x ↔ r.leading n < n) := by
  have hbase := r.base_pow (r.dropped n)
  have hrest : n = r.leading n + n % r.base ^ r.dropped n := by
    rw [leading, Nat.div_add_mod']
  have hlt : n % r.base ^ r.dropped n < twoTo (r.bits * r.dropped n) := by
    rw [← hbase]
    exact Nat.mod_lt _ (Nat.pow_pos r.base_pos)
  have hunits : r.leading n * oneUnits =
      n / r.base ^ r.dropped n * twoTo (r.bits * r.dropped n + unitExponent) := by
    rw [leading, hbase, Nat.mul_assoc, oneUnits, twoTo_add]
  refine ⟨r.bits * r.dropped n + unitExponent, n % r.base ^ r.dropped n * oneUnits,
    ?_, ?_, ?_, ?_, ?_⟩
  · rw [hunits, twoTo_add 53]
    exact Nat.mul_le_mul_right _ (r.le_div_dropped h)
  · rw [hunits]
    exact Nat.dvd_mul_left _ _
  · rw [twoTo_add]
    exact Nat.mul_lt_mul_of_pos_right hlt oneUnits_pos
  · rw [← Nat.add_mul, ← hrest]
  · rw [Nat.mul_pos_iff_of_pos_right oneUnits_pos]
    omega

theorem ofNat?_leading_eq_none_iff :
    Double.ofNat? (r.leading n) = none ↔ Double.ofNat? n = none := by
  rcases Nat.lt_or_ge n (twoTo 53) with hlt | hge
  · rw [r.leading_of_small hlt]
  · obtain ⟨f, x, hlarge, hzeros, hx, hunits, -⟩ := r.leading_low n hge
    rw [Double.ofNat?_eq_none_iff, Double.ofNat?_eq_none_iff, hunits,
      nearestUnits_low_top hlarge hzeros hx]

theorem nearestUnits_leading_ne_iff :
    nearestUnits (r.leading n * oneUnits) ≠ nearestUnits (n * oneUnits) ↔
      r.leading n < n ∧ TiesDown (r.leading n * oneUnits) := by
  rcases Nat.lt_or_ge n (twoTo 53) with hlt | hge
  · rw [r.leading_of_small hlt]
    simp
  · obtain ⟨f, x, hlarge, hzeros, hx, hunits, hpos⟩ := r.leading_low n hge
    rw [hunits, ← hpos]
    rcases nearestUnits_low hlarge hzeros hx with ⟨heq, hno⟩ | ⟨hyes, k, e, -, -, -, hdown, hup⟩
    · rw [heq]
      exact ⟨fun hne => absurd rfl hne, fun h => absurd h hno⟩
    · have hne : k * twoTo e < (k + 1) * twoTo e :=
        Nat.mul_lt_mul_of_pos_right (Nat.lt_succ_self k) (twoTo_pos e)
      rw [hdown, hup]
      exact ⟨fun _ => hyes, fun _ => Nat.ne_of_lt hne⟩

end Radix

end CallContract
