import CallContract.Proofs.Matching
import CallContract.Proofs.WholeRounding

/-!
# The numeric kinds

**Theorem (`numeric_family`).** The six numeric kinds belong together. Four of them accept whatever
can be read as a number, and the two strict ones only numbers, which they do not change; a strict
whole number is a strict number, and that can be read as a number. A whole number is kept as the
same number by all six. It makes no difference whether a value is rounded at once or first read as a
number, and what is rounded is a strict whole number.

The four lenient kinds are one function with different roundings (`matchValue_lenient`), so all of
this comes down to what the roundings do to the number that a value is read as.
-/

namespace CallContract

namespace Kind

/-- The kinds that take anything that can be read as a number. -/
def lenientNumbers : List Kind := [int, roundInt, float, number]

/-- The rounding of a lenient kind. -/
def rounding : Kind → Double → Double
  | int, n => n.truncate.unsignedZero
  | roundInt, n => n.roundHalfAway.unsignedZero
  | _, n => n

theorem matchValue_lenient {k : Kind} (hk : k ∈ lenientNumbers) (v : Value) :
    k.matchValue v = k.matchNumber v k.rounding := by
  simp only [lenientNumbers, List.mem_cons, List.not_mem_nil, or_false] at hk
  rcases hk with rfl | rfl | rfl | rfl <;> rfl

/-- **What a lenient kind keeps of a value** is the rounding of its number. -/
theorem lenient_ok_iff {k : Kind} (hk : k ∈ lenientNumbers) {v : Value} {m : Matched} :
    k.matchValue v = .ok m ↔
      ∃ n, v.asNumber? = some n ∧ m = .coerced (.number (k.rounding n)) := by
  rw [matchValue_lenient hk, matchNumber_ok_iff]

theorem strictInt_ok_iff {v : Value} {m : Matched} :
    strictInt.matchValue v = .ok m ↔ ∃ n, v = .number n ∧ n.isWhole ∧ m = .accepted := by
  cases v with
  | number n => simp [matchValue, MatchResult.acceptIf_ok]
  | _ => simp [matchValue]

theorem strictFloat_ok_iff {v : Value} {m : Matched} :
    strictFloat.matchValue v = .ok m ↔ ∃ n, v = .number n ∧ n.isFinite ∧ m = .accepted := by
  cases v with
  | number n => simp [matchValue, MatchResult.acceptIf_ok]
  | _ => simp [matchValue, MatchResult.acceptIf]

end Kind

/-! ## Roundings -/

namespace Double

theorem equals_self {x : Double} (hx : x.isFinite) : x.equals x := by
  obtain ⟨negative, m, h, rfl⟩ := isFinite_iff.1 hx
  simp [equals]

/-- The zeros are equal numbers. -/
theorem equals_unsignedZero {x : Double} (hx : x.isFinite) : x.unsignedZero.equals x := by
  obtain ⟨negative, m, h, rfl⟩ := isFinite_iff.1 hx
  unfold unsignedZero
  split
  case isTrue hzero =>
    have hm : m = 0 := by simpa [isZero] using hzero
    simp [zero, zeroOf, equals, hm]
  case isFalse => exact equals_self hx

end Double

namespace Kind

/-- A whole number is no other number when it is rounded. -/
theorem rounding_equals {k : Kind} (hk : k ∈ lenientNumbers) {n : Double} (hn : n.isWhole) :
    (k.rounding n).equals n := by
  have hfinite := Double.isFinite_of_isWhole hn
  simp only [lenientNumbers, List.mem_cons, List.not_mem_nil, or_false] at hk
  rcases hk with rfl | rfl | rfl | rfl
  · rw [rounding, Double.truncate_of_isWhole hn]
    exact Double.equals_unsignedZero hfinite
  · rw [rounding, Double.roundHalfAway_of_isWhole hn]
    exact Double.equals_unsignedZero hfinite
  · exact Double.equals_self hfinite
  · exact Double.equals_self hfinite

/-- A zero is rounded to a zero, which keeps its sign or is positive. -/
theorem rounding_zeroOf {k : Kind} (hk : k ∈ lenientNumbers) (negative : Bool) :
    k.rounding (.zeroOf negative) = .zero ∨ k.rounding (.zeroOf negative) = .zeroOf negative := by
  have hwhole := Double.isWhole_zeroOf negative
  simp only [lenientNumbers, List.mem_cons, List.not_mem_nil, or_false] at hk
  rcases hk with rfl | rfl | rfl | rfl
  · left
    rw [rounding, Double.truncate_of_isWhole hwhole]
    rfl
  · left
    rw [rounding, Double.roundHalfAway_of_isWhole hwhole]
    rfl
  · exact .inr rfl
  · exact .inr rfl

/-- The kinds that round to whole numbers. -/
def wholeNumbers : List Kind := [int, roundInt]

theorem lenient_of_whole {k : Kind} (hk : k ∈ wholeNumbers) : k ∈ lenientNumbers :=
  List.mem_append_left [float, number] hk

theorem isWhole_rounding {k : Kind} (hk : k ∈ wholeNumbers) {n : Double} (hn : n.isFinite) :
    (k.rounding n).isWhole := by
  simp only [wholeNumbers, List.mem_cons, List.not_mem_nil, or_false] at hk
  rcases hk with rfl | rfl
  · exact Double.isWhole_unsignedZero (Double.isWhole_truncate hn)
  · exact Double.isWhole_unsignedZero (Double.isWhole_roundHalfAway hn)

/-! ## The family -/

/-- How the numeric kinds take one value. -/
structure NumericFamily (v : Value) : Prop where
  lenient : ∀ k ∈ lenientNumbers, (k.Accepts v ↔ ∃ n, v.asNumber? = some n)
  whole_strict : strictInt.Accepts v → strictFloat.Accepts v
  strict_lenient : strictFloat.Accepts v → float.Accepts v
  strict_unchanged : ∀ k ∈ [strictInt, strictFloat], ∀ m, k.matchValue v = .ok m →
    m = .accepted ∧ ∃ n, v = .number n
  /-- A whole number is kept as the same number. -/
  whole_kept : strictInt.Accepts v → ∀ k ∈ lenientNumbers,
    ∃ n x, v = .number n ∧ k.Coerces v x ∧ x.equals n
  /-- What has been read as a number is rounded as the value that it has been read from. -/
  rounded_after : ∀ k ∈ wholeNumbers, ∀ m, float.matchValue v = .ok m →
    k.matchValue (m.keep v) = k.matchValue v
  rounded_strict : ∀ k ∈ wholeNumbers, ∀ m, k.matchValue v = .ok m →
    strictInt.matchValue (m.keep v) = .ok .accepted

/-- **The numeric kinds are a family**, on every value. -/
theorem numeric_family (v : Value) : NumericFamily v where
  lenient := by
    intro k hk
    simp only [accepts_iff, lenient_ok_iff hk]
    constructor
    · rintro ⟨m, n, hn, -⟩
      exact ⟨n, hn⟩
    · rintro ⟨n, hn⟩
      exact ⟨_, n, hn, rfl⟩
  whole_strict := by
    rintro ⟨m, hm⟩
    obtain ⟨n, hv, hn, hm'⟩ := strictInt_ok_iff.1 hm
    exact ⟨m, strictFloat_ok_iff.2 ⟨n, hv, Double.isFinite_of_isWhole hn, hm'⟩⟩
  strict_lenient := by
    rintro ⟨m, hm⟩
    obtain ⟨n, rfl, hn, -⟩ := strictFloat_ok_iff.1 hm
    exact accepts_iff.2
      ⟨_, (lenient_ok_iff (by decide)).2 ⟨n, Value.asNumber?_number hn, rfl⟩⟩
  strict_unchanged := by
    intro k hk m hm
    simp only [List.mem_cons, List.not_mem_nil, or_false] at hk
    rcases hk with rfl | rfl
    · obtain ⟨n, hv, -, hm'⟩ := strictInt_ok_iff.1 hm
      exact ⟨hm', n, hv⟩
    · obtain ⟨n, hv, -, hm'⟩ := strictFloat_ok_iff.1 hm
      exact ⟨hm', n, hv⟩
  whole_kept := by
    rintro ⟨m, hm⟩ k hk
    obtain ⟨n, rfl, hn, -⟩ := strictInt_ok_iff.1 hm
    have hread := Value.asNumber?_number (Double.isFinite_of_isWhole hn)
    exact ⟨n, k.rounding n, rfl, (lenient_ok_iff hk).2 ⟨n, hread, rfl⟩, rounding_equals hk hn⟩
  rounded_after := by
    intro k hk m hm
    obtain ⟨n, hn, rfl⟩ := (lenient_ok_iff (by decide)).1 hm
    have hread : (Value.number n).asNumber? = v.asNumber? := by
      rw [Value.asNumber?_number (Value.isFinite_of_asNumber? hn), hn]
    rw [matchValue_lenient (lenient_of_whole hk), matchValue_lenient (lenient_of_whole hk)]
    show k.matchNumber (.number n) k.rounding = k.matchNumber v k.rounding
    rw [matchNumber, matchNumber, hread, hn]
  rounded_strict := by
    intro k hk m hm
    obtain ⟨n, hn, rfl⟩ := (lenient_ok_iff (lenient_of_whole hk)).1 hm
    exact strictInt_ok_iff.2
      ⟨_, rfl, isWhole_rounding hk (Value.isFinite_of_asNumber? hn), rfl⟩

end Kind

end CallContract
