import CallContract.Proofs.Radix
import CallContract.Value.Convert
import Mathlib.Data.List.TakeWhile

/-!
# Spellings of a whole number

How a text is read that consists of the digits of a whole number, in decimal or after a prefix.

**Theorem (`spellings_of_whole`).** The decimal digits of `n` are read as the nearest double, and a
literal as the double nearest to the number that `Radix.leading` leaves of `n`. Leading zeros and
letter case do not matter. The two differ at most in the last bit, and only where the digits that a
literal loses decide a tie; `literal_not_nearest` is such a number.

Digits are spelled from left to right (`Spells`), which is how a literal is accumulated, so one
induction over a spelling shows what its digits are read as (`Double.foldlM_pushDigit`).
-/

namespace CallContract

/-! ## Characters -/

/-- A character is its lower case, or the upper case of that. -/
theorem eq_toLower_or_toUpper (c : Char) : c = c.toLower ∨ c = c.toLower.toUpper := by
  by_cases hupper : c.val ≥ 'A'.val ∧ c.val ≤ 'Z'.val
  · have hascii : ∀ i ≤ 90, Char.ofNat i = (Char.ofNat i).toLower ∨
        Char.ofNat i = (Char.ofNat i).toLower.toUpper := by decide +kernel
    have hle : c.toNat ≤ 90 := hupper.2
    simpa using hascii c.toNat hle
  · have hlower : c.toLower = c := dif_neg hupper
    exact .inl hlower.symm

/-- A digit has its value in either letter case, -/
theorem Radix.digit_of_toLower (r : Radix) {d : Nat} (hd : d < r.base) {c : Char}
    (hc : c.toLower = Nat.digitChar d) :
    digitValue? r.base c = some d ∧ Text.isBlank c = false := by
  have hdigits : ∀ d < r.base,
      (digitValue? r.base (Nat.digitChar d) = some d ∧
        Text.isBlank (Nat.digitChar d) = false) ∧
      digitValue? r.base (Nat.digitChar d).toUpper = some d ∧
        Text.isBlank (Nat.digitChar d).toUpper = false := by cases r <;> decide
  have hcase := eq_toLower_or_toUpper c
  rw [hc] at hcase
  rcases hcase with rfl | rfl
  · exact (hdigits d hd).1
  · exact (hdigits d hd).2

/-- and so does the letter of a prefix announce its radix. -/
theorem Radix.letter_of_toLower (r : Radix) {c : Char} (hc : c.toLower = r.letter) :
    (∀ digits, Double.splitRadix? ('0' :: c :: digits) = some (r.base, digits)) ∧
      Text.isBlank c = false := by
  have hcase := eq_toLower_or_toUpper c
  rw [hc] at hcase
  rcases hcase with rfl | rfl
  · cases r <;> exact ⟨fun _ => rfl, rfl⟩
  · cases r <;> exact ⟨fun _ => rfl, rfl⟩

theorem Text.trim_of_forall {cs : List Char} (h : ∀ c ∈ cs, isBlank c = false) : trim cs = cs := by
  have hstart : ∀ ds : List Char, (∀ c ∈ ds, isBlank c = false) → trimStart ds = ds := by
    intro ds hds
    cases ds with
    | nil => rfl
    | cons d ds => exact List.dropWhile_cons_of_neg (by simp [hds d])
  have hreverse : ∀ c ∈ cs.reverse, isBlank c = false := by simpa using h
  rw [trim, hstart cs h, trimEnd, hstart cs.reverse hreverse, List.reverse_reverse]

/-! ## Digits -/

/-- `cs` are digits of `n`, in either letter case and with any number of leading zeros. No digits
spell zero. -/
inductive Spells (base : Nat) : Nat → List Char → Prop where
  | nil : Spells base 0 []
  | push {a d : Nat} {cs : List Char} {c : Char} (digits : Spells base a cs) (hd : d < base)
      (hc : c.toLower = Nat.digitChar d) : Spells base (a * base + d) (cs ++ [c])

theorem map_eq_append_singleton {f : Char → Char} {cs l : List Char} {x : Char}
    (h : cs.map f = l ++ [x]) : ∃ ds c, cs = ds ++ [c] ∧ ds.map f = l ∧ f c = x := by
  obtain ⟨ds, tail, rfl, hds, htail⟩ := List.map_eq_append_iff.1 h
  obtain ⟨c, rfl, hc⟩ := List.map_eq_singleton_iff.1 htail
  exact ⟨ds, c, rfl, hds, hc⟩

theorem Spells.of_zeros {base zeros : Nat} (hbase : 0 < base) {cs : List Char}
    (h : cs.map Char.toLower = List.replicate zeros '0') : Spells base 0 cs := by
  induction zeros generalizing cs with
  | zero => exact List.map_eq_nil_iff.1 h ▸ .nil
  | succ zeros ih =>
    rw [List.replicate_succ'] at h
    obtain ⟨ds, c, rfl, hds, hc⟩ := map_eq_append_singleton h
    simpa using (ih hds).push hbase hc

/-- The digits that the core library finds are these, whatever zeros precede them. -/
theorem Spells.of_toDigits {base zeros : Nat} (hbase : 1 < base) {n : Nat} {cs : List Char}
    (h : cs.map Char.toLower = List.replicate zeros '0' ++ Nat.toDigits base n) :
    Spells base n cs := by
  induction n using Nat.strongRecOn generalizing cs with
  | ind n ih =>
    by_cases hn : n < base
    · rw [Nat.toDigits_of_lt_base hn] at h
      obtain ⟨ds, c, rfl, hds, hc⟩ := map_eq_append_singleton h
      simpa using (Spells.of_zeros (by omega) hds).push hn hc
    · rw [Nat.toDigits_of_base_le hbase (by omega), ← List.append_assoc] at h
      obtain ⟨ds, c, rfl, hds, hc⟩ := map_eq_append_singleton h
      have hlt : n / base < n := Nat.div_lt_self (by omega) hbase
      have hpush := (ih _ hlt hds).push (Nat.mod_lt n (by omega)) hc
      rwa [Nat.mul_comm, Nat.div_add_mod] at hpush

theorem Spells.not_blank {r : Radix} {n : Nat} {cs : List Char} (h : Spells r.base n cs) :
    ∀ c ∈ cs, Text.isBlank c = false := by
  induction h with
  | nil => simp
  | push digits hd hc ih =>
    simp only [List.mem_append, List.mem_singleton]
    rintro c (hmem | rfl)
    · exact ih c hmem
    · exact (r.digit_of_toLower hd hc).2

namespace Double

theorem ofNat_zero : ofNat 0 = zero := by
  rw [ofNat, Nat.zero_mul]
  exact ofUnits_of_representable false .zero

/-- Digits are read as the double nearest to what `Radix.leading` leaves of the number. -/
theorem foldlM_pushDigit {r : Radix} {n : Nat} {cs : List Char} (h : Spells r.base n cs) :
    cs.foldlM (pushDigit r.base) zero = some (ofNat (r.leading n)) := by
  induction h with
  | nil =>
    rw [List.foldlM_nil, r.leading_of_small (twoTo_pos 53), ofNat_zero]
    rfl
  | push digits hd hc ih =>
    rw [List.foldlM_append, ih]
    simp [pushDigit, (r.digit_of_toLower hd hc).1, push_digit r hd]

end Double

/-! ## Numerals -/

/-- The decimal digits of a number, after zeros. -/
def decimalDigits (zeros n : Nat) : List Char := List.replicate zeros '0' ++ Nat.toDigits 10 n

/-- The literal of a number in lower case: a prefix, and digits after zeros. -/
def Radix.literal (r : Radix) (zeros n : Nat) : List Char :=
  '0' :: r.letter :: (List.replicate zeros '0' ++ Nat.toDigits r.base n)

theorem Radix.exists_of_literal {r : Radix} {zeros n : Nat} {cs : List Char}
    (h : cs.map Char.toLower = r.literal zeros n) :
    ∃ letter digits, cs = '0' :: letter :: digits ∧ letter.toLower = r.letter ∧ digits ≠ [] ∧
      Spells r.base n digits := by
  obtain ⟨zero, rest, rfl, hzero, hrest⟩ := List.map_eq_cons_iff.1 h
  obtain ⟨letter, digits, rfl, hletter, hdigits⟩ := List.map_eq_cons_iff.1 hrest
  obtain rfl : zero = '0' := by
    have hcase := eq_toLower_or_toUpper zero
    rw [hzero] at hcase
    exact hcase.elim id id
  refine ⟨letter, digits, rfl, hletter, ?_, .of_toDigits r.one_lt_base hdigits⟩
  rintro rfl
  exact Nat.toDigits_ne_nil (List.append_eq_nil_iff.1 hdigits.symm).2

namespace Double

theorem ofText?_ofList {cs : List Char} (h : ∀ c ∈ cs, Text.isBlank c = false) :
    ofText? (String.ofList cs) = (ofNumeral? cs).filter isFinite := by
  rw [ofText?, String.toList_ofList, Text.trim_of_forall h]

theorem ofText?_literal {r : Radix} {zeros n : Nat} {cs : List Char}
    (h : cs.map Char.toLower = r.literal zeros n) :
    ofText? (String.ofList cs) = ofNat? (r.leading n) := by
  obtain ⟨letter, digits, rfl, hletter, hdigits, hspells⟩ := Radix.exists_of_literal h
  obtain ⟨hradix, hblank⟩ := r.letter_of_toLower hletter
  have hblanks : ∀ c ∈ '0' :: letter :: digits, Text.isBlank c = false := by
    simp only [List.mem_cons]
    rintro c (rfl | rfl | hmem)
    · rfl
    · exact hblank
    · exact hspells.not_blank c hmem
  rw [ofText?_ofList hblanks]
  simp only [ofNumeral?, hradix digits, ofDigits?, if_neg hdigits, foldlM_pushDigit hspells,
    ofNat?]

theorem ofDecimal_zero (n : Nat) : ofDecimal .double false n 0 = ofNat n := by
  unfold ofDecimal
  split
  case isTrue hzero => rw [hzero, ofNat_zero, zero]
  case isFalse =>
    rw [if_neg (by decide), if_neg (by omega), ofNat, ofUnits]
    simp [tenTo]

/-! Nothing in decimal digits is taken for a sign, a prefix, a point or an exponent. -/

section Digits

variable {cs : List Char} (h : ∀ c ∈ cs, c.isDigit = true)
include h

theorem splitSign_of_digits : splitSign cs = (false, cs) := by
  unfold splitSign
  split
  case h_1 => exact absurd (h '+' (by simp)) (by decide)
  case h_2 =>
    unfold splitMinus
    split
    case h_1 => exact absurd (h '-' (by simp)) (by decide)
    case h_2 => rfl

theorem splitRadix?_of_digits : splitRadix? cs = none := by
  unfold splitRadix?
  split
  case h_1 c r =>
    have hc : c.isDigit = true := h c (by simp)
    have hletter : ∀ x : Char, x.isDigit = false → c ≠ x := by
      rintro x hx rfl
      simp [hx] at hc
    rw [if_neg (not_or.2 ⟨hletter 'x' rfl, hletter 'X' rfl⟩),
      if_neg (not_or.2 ⟨hletter 'o' rfl, hletter 'O' rfl⟩),
      if_neg (not_or.2 ⟨hletter 'b' rfl, hletter 'B' rfl⟩)]
  case h_2 => rfl

theorem read?_of_digits (hcs : cs ≠ []) : Decimal.read? cs = some ⟨false, cs, [], 0⟩ := by
  have htake : cs.takeWhile Char.isDigit = cs := List.takeWhile_eq_self_iff.2 h
  have hdrop : cs.dropWhile Char.isDigit = [] := List.dropWhile_eq_nil_iff.2 h
  simp [Decimal.read?, splitSign_of_digits h, htake, hdrop, hcs, exponent?]

theorem not_blank_of_digits : ∀ c ∈ cs, Text.isBlank c = false := by
  intro c hmem
  have hrange := Char.isDigit_iff_toNat.1 (h c hmem)
  have h0 : '0'.toNat = 48 := rfl
  have h9 : '9'.toNat = 57 := rfl
  simp [Text.isBlank]
  omega

end Digits

theorem ofText?_decimalDigits (zeros n : Nat) :
    ofText? (String.ofList (decimalDigits zeros n)) = ofNat? n := by
  have hdigits : ∀ c ∈ decimalDigits zeros n, c.isDigit = true := by
    simp only [decimalDigits, List.mem_append, List.mem_replicate]
    rintro c (⟨-, rfl⟩ | hmem)
    · rfl
    · exact Nat.isDigit_of_mem_toDigits (by decide) (by decide) hmem
  have hnil : decimalDigits zeros n ≠ [] := by simp [decimalDigits, Nat.toDigits_ne_nil]
  have hvalue : Nat.ofDigitChars 10 (decimalDigits zeros n) 0 = n := by
    rw [decimalDigits, Nat.ofDigitChars_append, Nat.ofDigitChars_replicate_zero, Nat.mul_zero,
      Nat.ofDigitChars_toDigits (by decide) (by decide)]
  rw [ofText?_ofList (not_blank_of_digits hdigits)]
  simp only [ofNumeral?, splitRadix?_of_digits hdigits, read?_of_digits hdigits hnil,
    Option.map_some, Decimal.value, List.append_nil, List.length_nil, hvalue, Int.natCast_zero,
    Int.sub_zero, ofDecimal_zero, ofNat?]

end Double

/-! ## Whole numbers -/

/-- **Spellings of a whole number.** The decimal digits of `n` are read as the nearest double. A
literal is read as the double nearest to `n` with late digits taken as zeros, which is another one
just if a digit was lost so and what is left is a tie that is rounded down. Either is nothing if the
other is, and then the nearest double is too large. -/
theorem spellings_of_whole (n zeros zeros' : Nat) (r : Radix) {literal : List Char}
    (hliteral : literal.map Char.toLower = r.literal zeros n) :
    let ofDecimal := (Value.string (String.ofList (decimalDigits zeros' n))).asNumber?
    let ofLiteral := (Value.string (String.ofList literal)).asNumber?
    ReadsNearest n ofDecimal ∧ ReadsNearest (r.leading n) ofLiteral ∧
      (ofLiteral = none ↔ ofDecimal = none) ∧
      (ofLiteral ≠ ofDecimal ↔
        r.leading n < n ∧ TiesDown (r.leading n * oneUnits) ∧ ofDecimal ≠ none) := by
  simp only [Value.asNumber?, Double.ofText?_literal hliteral, Double.ofText?_decimalDigits]
  have hnone := r.ofNat?_leading_eq_none_iff n
  have hunits := r.nearestUnits_leading_ne_iff n
  refine ⟨readsNearest_ofNat? n, readsNearest_ofNat? (r.leading n), hnone, ?_⟩
  rw [← and_assoc, ← hunits, ne_eq, Double.ofNat?_eq_iff hnone, not_or]

/-- The last two digits are lost, and what is left is a tie. -/
theorem spellings_of_whole_mixed_case :
    "0X020000000000001Fe".toList.map Char.toLower = Radix.hexadecimal.literal 1 (2 ^ 61 + 510) ∧
      ReadsNearest (2 ^ 61 + 510) (Value.string "002305843009213694462").asNumber? ∧
      ReadsNearest (2 ^ 61 + 256) (Value.string "0X020000000000001Fe").asNumber? ∧
      TiesDown ((2 ^ 61 + 256) * oneUnits) := by
  have hliteral : "0X020000000000001Fe".toList.map Char.toLower =
      Radix.hexadecimal.literal 1 (2 ^ 61 + 510) := by decide +kernel
  have hdecimal : String.ofList (decimalDigits 2 (2 ^ 61 + 510)) = "002305843009213694462" := by
    decide +kernel
  have hleading : Radix.hexadecimal.leading (2 ^ 61 + 510) = 2 ^ 61 + 256 := by decide +kernel
  have hdiffer : (Value.string "0X020000000000001Fe").asNumber? ≠
      (Value.string "002305843009213694462").asNumber? := by decide +kernel
  have hspellings := spellings_of_whole (2 ^ 61 + 510) 1 2 .hexadecimal hliteral
  rw [hdecimal, String.ofList_toList, hleading] at hspellings
  obtain ⟨hnearest, hread, -, hties⟩ := hspellings
  exact ⟨hliteral, hnearest, hread, (hties.1 hdiffer).2.1⟩

/-- Of `2 ^ 57 + 17` the last hexadecimal digit is lost, and `2 ^ 57 + 16` is rounded down. -/
theorem literal_not_nearest :
    "0x200000000000011".toList = Radix.hexadecimal.literal 0 (2 ^ 57 + 17) ∧
      "144115188075855889".toList = decimalDigits 0 (2 ^ 57 + 17) ∧
      (Value.string "0x200000000000011").asNumber? = some (Double.ofNat (2 ^ 57)) ∧
      (Value.string "144115188075855889").asNumber? = some (Double.ofNat (2 ^ 57 + 32)) ∧
      (Value.string "0x200000000000011").asNumber? ≠
        (Value.string "144115188075855889").asNumber? ∧
      ¬ ReadsNearest (2 ^ 57 + 17) (Value.string "0x200000000000011").asNumber? := by
  have hliteral : (Value.string "0x200000000000011").asNumber? = some (Double.ofNat (2 ^ 57)) := by
    decide +kernel
  have hdecimal : (Value.string "144115188075855889").asNumber? =
      some (Double.ofNat (2 ^ 57 + 32)) := by decide +kernel
  have hnearest : Double.ofNat? (2 ^ 57 + 17) = some (Double.ofNat (2 ^ 57 + 32)) := by
    decide +kernel
  have hdiffer : some (Double.ofNat (2 ^ 57)) ≠ some (Double.ofNat (2 ^ 57 + 32)) := by
    decide +kernel
  refine ⟨by decide +kernel, by decide +kernel, hliteral, hdecimal, ?_, fun hread => ?_⟩
  · rwa [hliteral, hdecimal]
  · have hsame := hread.unique (readsNearest_ofNat? (2 ^ 57 + 17))
    rw [hliteral, hnearest] at hsame
    exact hdiffer hsame

end CallContract
