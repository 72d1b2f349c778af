import CallContract.Pattern.Meaning
import CallContract.Proofs.NumericKinds
import CallContract.Proofs.NumeralGrammar
import CallContract.Proofs.ShortestDecimal

/-!
# The text of a number is read back

**Theorem (`number_text`).** The text of a finite number is read as this number, and that of a zero
as the positive one. So the numeric kinds that read texts make of a number that a pattern has turned
into text what they make of the number itself; the strict ones take no text at all. The texts of the
other numbers are words, which are no numerals.

A number is written with its shortest decimal, which is a decimal of the grammar of numerals
whichever side of its digits the point is on (`DecimalDigits.isMantissa_positional`). The grammar
gives it the double nearest to the decimal, and that is the number (`readsAs_shortestDecimal`). The
grammar also says that nothing in it is taken for a prefix or a blank.
-/

namespace CallContract

/-! ## The digits and the point -/

theorem isDigit_of_zeros (n : Nat) : ∀ c ∈ List.replicate n '0', c.isDigit := by
  intro c hc
  rw [List.eq_of_mem_replicate hc]
  rfl

/-- **What is written with a point is a mantissa**, with the digits and places of the decimal. -/
theorem DecimalDigits.isMantissa_positional (d : DecimalDigits) :
    ∃ whole fraction, IsMantissa whole fraction d.positional ∧
      Nat.ofDigitChars 10 (whole ++ fraction) 0 = d.digits * tenTo d.exponent.toNat ∧
      fraction.length = (-d.exponent).toNat := by
  have hdigits : ∀ c ∈ Nat.toDigits 10 d.digits, c.isDigit :=
    fun _ => Nat.isDigit_of_mem_toDigits (by decide) (by decide)
  have hvalue : Nat.ofDigitChars 10 (Nat.toDigits 10 d.digits) 0 = d.digits :=
    Nat.ofDigitChars_ten_toDigits
  have hne : Nat.toDigits 10 d.digits ≠ [] := Nat.toDigits_ne_nil
  have hscale : (-d.exponent).toNat ≠ 0 → tenTo d.exponent.toNat = 1 := by
    intro hplaces
    have hexponent : d.exponent.toNat = 0 := by omega
    rw [hexponent, tenTo_zero]
  unfold positional
  generalize Nat.toDigits 10 d.digits = digits at *
  generalize (-d.exponent).toNat = places at *
  by_cases hwhole : places = 0
  · -- zeros fill up a whole number
    refine ⟨digits ++ List.replicate d.exponent.toNat '0', [], ?_, ?_, hwhole.symm⟩
    · simp only [if_pos hwhole]
      exact .whole (by simp [hne]) (List.forall_mem_append.2 ⟨hdigits, isDigit_of_zeros _⟩)
    · rw [List.append_nil, Nat.ofDigitChars_append, hvalue, Nat.ofDigitChars_replicate_zero,
        Nat.mul_comm]
      rfl
  rw [hscale hwhole, Nat.mul_one]
  by_cases hinside : places < digits.length
  · -- the point is between two digits
    refine ⟨digits.take (digits.length - places), digits.drop (digits.length - places), ?_, ?_, ?_⟩
    · simp only [if_neg hwhole, if_pos hinside]
      refine .pointed (.inl ?_) (fun c hc => hdigits c (List.mem_of_mem_take hc))
        fun c hc => hdigits c (List.mem_of_mem_drop hc)
      simp [hne]
      omega
    · rw [List.take_append_drop, hvalue]
    · rw [List.length_drop]
      omega
  · -- the point is before all digits, and zeros between
    refine ⟨['0'], List.replicate (places - digits.length) '0' ++ digits, ?_, ?_, ?_⟩
    · simp only [if_neg hwhole, if_neg hinside]
      exact .pointed (.inl (List.cons_ne_nil _ _)) (isDigit_of_zeros 1)
        (List.forall_mem_append.2 ⟨isDigit_of_zeros _, hdigits⟩)
    · have hleading : Nat.ofDigitChars 10 ['0'] 0 = 0 := rfl
      rw [Nat.ofDigitChars_append, Nat.ofDigitChars_append, hleading,
        Nat.ofDigitChars_replicate_zero, Nat.mul_zero, hvalue]
    · rw [List.length_append, List.length_replicate]
      omega

namespace Double

theorem isSign_signText (negative : Bool) : IsSign negative (signText negative) := by
  cases negative
  · exact .missing
  · exact .minus

/-- **A decimal denotes the magnitude that it is read as.** -/
theorem denotes_positional {d : DecimalDigits} {m : Nat} (hm : Representable m) (hpos : 0 < m)
    (h : d.ReadsAs m) (negative : Bool) :
    Denotes (signText negative ++ d.positional) (.finite negative m hm) := by
  obtain ⟨whole, fraction, hmantissa, hdigits, hlength⟩ := d.isMantissa_positional
  have hdecimal := IsDecimal.parts (isSign_signText negative) hmantissa .missing
  have hvalue : Decimal.value .double { negative, whole, fraction, exponent := 0 } =
      .finite negative m hm := by
    have hwhole : ((0 : Int) - fraction.length).toNat = 0 := by omega
    have hplaces : (-((0 : Int) - fraction.length)).toNat = fraction.length := by omega
    show ofDecimal .double negative (Nat.ofDigitChars 10 (whole ++ fraction) 0)
      (0 - fraction.length) = _
    refine ofDecimal_of_round hm hpos ?_
    rw [hwhole, hplaces, tenTo_zero, Nat.mul_one, hdigits, hlength]
    exact h
  rw [List.append_nil] at hdecimal
  exact hvalue ▸ .decimal hdecimal

end Double

/-! ## Reading the text -/

theorem Denotes.not_blank {cs : List Char} {x : Double} (h : Denotes cs x) :
    ∀ c ∈ cs, Text.isBlank c = false := by
  have hcharacters : numeralCharacters.all fun c => !Text.isBlank c := by decide +kernel
  intro c hc
  simpa using List.all_eq_true.1 hcharacters c (h.mem_numeralCharacters c hc)

theorem Denotes.asNumber? {cs : List Char} {x : Double} (h : Denotes cs x) (hx : x.isFinite) :
    (Value.string (String.ofList cs)).asNumber? = some x := by
  have hread : Double.ofNumeral? cs = some x := Double.ofNumeral?_eq_some_iff.2 h
  show Double.ofText? (String.ofList cs) = some x
  rw [Double.ofText?_ofList h.not_blank, hread, Option.filter_some_pos hx]

/-- **The text of a finite number is read back.** -/
theorem Double.asNumber?_stringText {n : Double} (hn : n.isFinite) :
    (Value.string n.stringText).asNumber? = some n.unsignedZero := by
  obtain ⟨negative, m, hm, rfl⟩ := isFinite_iff.1 hn
  by_cases hzero : m = 0
  · subst hzero
    show (Value.string "0").asNumber? = some zero
    decide +kernel
  · have hpos : 0 < m := Nat.pos_of_ne_zero hzero
    have hread := readsAs_shortestDecimal hm hpos .up
    have htext : (Double.finite negative m hm).stringText =
        String.ofList (signText negative ++ (shortestDecimal .up m).positional) := by
      simp only [stringText, plainText, if_neg hzero]
    have hsame : (Double.finite negative m hm).unsignedZero = .finite negative m hm := by
      simp [unsignedZero, isZero, hzero]
    rw [htext, hsame, (denotes_positional hm hpos hread negative).asNumber? rfl]

/-! ## Numeric kinds -/

theorem Pattern.matchValue_number {p : Pattern} {n : Double} {m : Matched}
    (h : p.matchValue (.number n) = .ok m) : m = .coerced (.string n.stringText) := by
  simp only [matchValue, Value.asText?] at h
  split at h
  case isTrue => exact (Except.ok.inj h).symm
  case isFalse => cases h

theorem Double.eq_zeroOf_of_isZero {n : Double} (h : n.isZero) :
    ∃ negative, n = zeroOf negative := by
  cases n with
  | finite negative m hm =>
    obtain rfl : m = 0 := beq_iff_eq.1 h
    exact ⟨negative, rfl⟩
  | _ => cases h

/-- Before and after a rounding it is the same to forget the sign of a zero. -/
theorem Kind.rounding_unsignedZero {k : Kind} (hk : k ∈ lenientNumbers) (n : Double) :
    k.rounding n.unsignedZero = (k.rounding n).unsignedZero := by
  by_cases hzero : n.isZero
  · obtain ⟨negative, rfl⟩ := Double.eq_zeroOf_of_isZero hzero
    have hpositive : k.rounding .zero = .zero := (rounding_zeroOf hk false).elim id id
    show k.rounding .zero = _
    rw [hpositive]
    rcases rounding_zeroOf hk negative with h | h
    · rw [h]; rfl
    · rw [h]; rfl
  · have hsame : n.unsignedZero = n := if_neg hzero
    rw [hsame]
    simp only [lenientNumbers, List.mem_cons, List.not_mem_nil, or_false] at hk
    rcases hk with rfl | rfl | rfl | rfl
    · exact (Double.unsignedZero_unsignedZero _).symm
    · exact (Double.unsignedZero_unsignedZero _).symm
    · exact hsame.symm
    · exact hsame.symm

/-- The strict kinds take no text. -/
theorem Kind.not_accepts_string {k : Kind} (hk : k ∈ [strictInt, strictFloat]) (s : String) :
    ¬ k.Accepts (.string s) := by
  intro h
  obtain ⟨m, hm⟩ := Kind.accepts_iff.1 h
  simp only [List.mem_cons, List.not_mem_nil, or_false] at hk
  rcases hk with rfl | rfl
  · obtain ⟨_, ⟨⟩, -⟩ := strictInt_ok_iff.1 hm
  · obtain ⟨_, ⟨⟩, -⟩ := strictFloat_ok_iff.1 hm

/-- How the text of one number is read. -/
structure NumberText (n : Double) : Prop where
  /-- A finite number is read back, as the positive one if it is a zero. -/
  finite : n.isFinite → ∃ text, (Value.number n).asText? = some text ∧
    (Value.string text).asNumber? = some n.unsignedZero ∧ n.unsignedZero.equals n
  /-- No other number is read back. -/
  other : n.isFinite = false → ∃ text ∈ ["NaN", "Infinity", "-Infinity"],
    (Value.number n).asText? = some text ∧ (Value.string text).asNumber? = none
  /-- Of the text that a pattern makes of a number, the kinds that read texts make what they make of
  the number, but for the sign of a zero. -/
  read : ∀ (p : Pattern) m, p.matchValue (.number n) = .ok m → n.isFinite →
    ∀ k ∈ Kind.lenientNumbers, ∃ x,
      k.Coerces (.number n) x ∧ k.Coerces (m.keep (.number n)) x.unsignedZero
  /-- The other numeric kinds refuse this text. -/
  refused : ∀ (p : Pattern) m, p.matchValue (.number n) = .ok m →
    ∀ k ∈ [Kind.strictInt, .strictFloat], ¬ k.Accepts (m.keep (.number n))

/-- **The texts of numbers.** -/
theorem number_text (n : Double) : NumberText n where
  finite hn := ⟨n.stringText, rfl, Double.asNumber?_stringText hn, Double.equals_unsignedZero hn⟩
  other hn := by
    cases n with
    | nan _ => exact ⟨"NaN", by simp, rfl, by decide +kernel⟩
    | infinite negative =>
      cases negative
      · exact ⟨"Infinity", by simp, rfl, by decide +kernel⟩
      · exact ⟨"-Infinity", by simp, rfl, by decide +kernel⟩
    | finite => cases hn
  read p m hm hn k hk := by
    obtain rfl := Pattern.matchValue_number hm
    refine ⟨k.rounding n, ?_, ?_⟩
    · exact (Kind.lenient_ok_iff hk).2 ⟨n, if_pos hn, rfl⟩
    · rw [← Kind.rounding_unsignedZero hk n]
      exact (Kind.lenient_ok_iff hk).2 ⟨_, Double.asNumber?_stringText hn, rfl⟩
  refused p m hm k hk := by
    obtain rfl := Pattern.matchValue_number hm
    exact Kind.not_accepts_string hk n.stringText

open scoped Pattern.Regex

/-- A pattern makes a text of a whole number that both strict kinds take as it is, and neither takes
the text. -/
theorem strict_kinds_refuse_number_text :
    ∃ p, Pattern.ofSource? "1" = some p ∧
      p.matchValue (.number 1) = .ok (.coerced (.string "1")) ∧
      ∀ k ∈ [Kind.strictInt, .strictFloat], k.Accepts (.number 1) ∧ ¬ k.Accepts (.string "1") := by
  have hread : (Pattern.ofSource? "1").any fun p => p.isMatch "1" := by decide +kernel
  have htext : (Value.number 1).asText? = some "1" := by decide +kernel
  cases hp : Pattern.ofSource? "1" with
  | none => rw [hp] at hread; cases hread
  | some p =>
    rw [hp] at hread
    have hmatch : p.matchValue (.number 1) = .ok (.coerced (.string "1")) := by
      simp only [Pattern.matchValue, htext]
      exact if_pos hread
    refine ⟨p, rfl, hmatch, fun k hk => ⟨Kind.accepts_iff.2 ⟨.accepted, ?_⟩,
      Kind.not_accepts_string hk "1"⟩⟩
    simp only [List.mem_cons, List.not_mem_nil, or_false] at hk
    rcases hk with rfl | rfl
    · exact Kind.strictInt_ok_iff.2 ⟨1, rfl, by decide +kernel, rfl⟩
    · exact Kind.strictFloat_ok_iff.2 ⟨1, rfl, by decide +kernel, rfl⟩

end CallContract
