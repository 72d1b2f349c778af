import CallContract.Proofs.Spellings
import Mathlib.Data.List.Induction

/-!
# The grammar of numerals

Which texts are numbers. A numeral is a literal, that is `0x`, `0o` or `0b` and digits of that
radix, or a decimal, that is an optional sign, digits with an optional point, and an optional
exponent. `Denotes` gives this grammar together with the number that each numeral denotes, and does
not mention the reader.

**Theorem (`numeral_reading`).** A text is read as a number just if it is a numeral once the blanks
at both ends are taken away, and the number that it denotes is finite. The theorem draws from this
what is no number: words, separators, blanks between the parts, digits of other scripts, and
literals with a sign.

The reader cuts a text where the kind of its characters changes, so it is enough to know of each
part of a numeral what characters it consists of and with which the next part begins
(`Decimal.read?_eq_some_iff`). A decimal has no character of a prefix but digits
(`IsDecimal.plain`), so it is never mistaken for a literal.
-/

namespace CallContract

/-! ## Blanks around a text -/

namespace Text

/-- The second text is the first one without the blanks at both ends. -/
structure StripsTo (text inner : List Char) : Prop where
  around : ∃ before after, text = before ++ inner ++ after ∧
    (∀ c ∈ before, isBlank c) ∧ ∀ c ∈ after, isBlank c
  first : ∀ c ∈ inner.head?, isBlank c = false
  last : ∀ c ∈ inner.getLast?, isBlank c = false

theorem trimStart_append {blanks : List Char} (h : ∀ c ∈ blanks, isBlank c) (cs : List Char) :
    trimStart (blanks ++ cs) = trimStart cs := List.dropWhile_append_of_pos h

theorem trimStart_of_first {cs : List Char} (h : ∀ c ∈ cs.head?, isBlank c = false) :
    trimStart cs = cs := by
  cases cs with
  | nil => rfl
  | cons c cs => exact List.dropWhile_cons_of_neg (by simp [h c rfl])

theorem exists_trimStart (cs : List Char) :
    ∃ blanks, cs = blanks ++ trimStart cs ∧ (∀ c ∈ blanks, isBlank c) ∧
      ∀ c ∈ (trimStart cs).head?, isBlank c = false := by
  refine ⟨cs.takeWhile isBlank, List.takeWhile_append_dropWhile.symm,
    fun c hc => List.mem_takeWhile_imp hc, fun c hc => ?_⟩
  have hhead := List.head?_dropWhile_not isBlank cs
  rw [Option.mem_def, trimStart] at hc
  rw [hc] at hhead
  simpa using hhead

theorem stripsTo_trim (cs : List Char) : StripsTo cs (trim cs) := by
  obtain ⟨before, hbefore, hblanks, hfirst⟩ := exists_trimStart cs
  obtain ⟨after, hafter, hblanks', hlast⟩ := exists_trimStart (trimStart cs).reverse
  have htrim : trimStart cs = trim cs ++ after.reverse := by
    rw [trim, trimEnd, ← List.reverse_append, ← hafter, List.reverse_reverse]
  refine ⟨⟨before, after.reverse, ?_, hblanks, by simpa using hblanks'⟩, fun c hc => ?_, ?_⟩
  · rw [List.append_assoc, ← htrim, ← hbefore]
  · have hhead : (trim cs).head? = some c := hc
    refine hfirst c ?_
    rw [htrim, Option.mem_def, List.head?_append, hhead, Option.some_or]
  · simpa [trim, trimEnd] using hlast

/-- **What is left of a text is determined.** -/
theorem StripsTo.unique {text inner : List Char} (h : StripsTo text inner) : trim text = inner := by
  obtain ⟨before, after, rfl, hbefore, hafter⟩ := h.around
  by_cases hinner : inner = []
  · subst hinner
    have hall : ∀ c ∈ before ++ after, isBlank c := List.forall_mem_append.2 ⟨hbefore, hafter⟩
    have hstart : trimStart (before ++ after) = [] := by
      simpa [trimStart] using hall
    rw [List.append_nil, trim, hstart]
    rfl
  · have hstart : trimStart (before ++ inner ++ after) = inner ++ after := by
      rw [List.append_assoc, trimStart_append hbefore, trimStart_of_first]
      rw [List.head?_append, Option.or_of_isSome (by simpa using hinner)]
      exact h.first
    have hafter' : ∀ c ∈ after.reverse, isBlank c := by simpa using hafter
    rw [trim, hstart, trimEnd, List.reverse_append, trimStart_append hafter',
      trimStart_of_first (by simpa using h.last), List.reverse_reverse]

/-- Blanks around a text do not matter. -/
theorem StripsTo.padded {text inner before after : List Char} (h : StripsTo text inner)
    (hbefore : ∀ c ∈ before, isBlank c) (hafter : ∀ c ∈ after, isBlank c) :
    StripsTo (before ++ text ++ after) inner := by
  obtain ⟨before', after', rfl, hbefore', hafter'⟩ := h.around
  refine ⟨⟨before ++ before', after' ++ after, by simp, ?_, ?_⟩, h.first, h.last⟩
  · exact List.forall_mem_append.2 ⟨hbefore, hbefore'⟩
  · exact List.forall_mem_append.2 ⟨hafter', hafter⟩

theorem trim_padded {before after : List Char} (hbefore : ∀ c ∈ before, isBlank c)
    (hafter : ∀ c ∈ after, isBlank c) (cs : List Char) : trim (before ++ cs ++ after) = trim cs :=
  ((stripsTo_trim cs).padded hbefore hafter).unique

end Text

/-! ## The grammar -/

/-- A sign, which may be left out, and whether it is that of a negative number. -/
inductive IsSign : Bool → List Char → Prop where
  | missing : IsSign false []
  | plus : IsSign false ['+']
  | minus : IsSign true ['-']

/-- Digits before and after a point, which may be left out with those after it. There is at least
one digit. -/
inductive IsMantissa : List Char → List Char → List Char → Prop where
  | whole {whole : List Char} (hne : whole ≠ []) (hwhole : ∀ c ∈ whole, c.isDigit) :
      IsMantissa whole [] whole
  | pointed {whole fraction : List Char} (hne : whole ≠ [] ∨ fraction ≠ [])
      (hwhole : ∀ c ∈ whole, c.isDigit) (hfraction : ∀ c ∈ fraction, c.isDigit) :
      IsMantissa whole fraction (whole ++ '.' :: fraction)

/-- An exponent, which may be left out. It has at least one digit. -/
inductive IsExponent : Int → List Char → Prop where
  | missing : IsExponent 0 []
  | present {letter : Char} {negative : Bool} {sign digits : List Char}
      (hletter : letter = 'e' ∨ letter = 'E') (hsign : IsSign negative sign) (hne : digits ≠ [])
      (hdigits : ∀ c ∈ digits, c.isDigit) :
      IsExponent (if negative then -Nat.ofDigitChars 10 digits 0 else Nat.ofDigitChars 10 digits 0)
        (letter :: (sign ++ digits))

/-- A decimal, with its parts. -/
inductive IsDecimal : Double.Decimal → List Char → Prop where
  | parts {negative : Bool} {whole fraction sign mantissa written : List Char} {exponent : Int}
      (hsign : IsSign negative sign) (hmantissa : IsMantissa whole fraction mantissa)
      (hexponent : IsExponent exponent written) :
      IsDecimal { negative, whole, fraction, exponent } (sign ++ (mantissa ++ written))

/-- A numeral, with the number that it denotes. That of a literal is what is left of the whole
number that is spelled when its digits are added up; that of a decimal is the nearest one. It is an
infinity if it is too large. -/
inductive Denotes : List Char → Double → Prop where
  | literal {r : Radix} {letter : Char} {digits : List Char} {n : Nat}
      (hletter : letter.toLower = r.letter) (hne : digits ≠ []) (hdigits : Spells r.base n digits) :
      Denotes ('0' :: letter :: digits) (.ofNat (r.leading n))
  | decimal {d : Double.Decimal} {cs : List Char} (h : IsDecimal d cs) :
      Denotes cs (d.value .double)

/-! ## Reading a decimal -/

/-- A text is cut in the same way when more follows that does not belong. -/
theorem span_append {p : Char → Bool} {rest : List Char} (h : ∀ c ∈ rest.head?, p c = false)
    (cs : List Char) :
    (cs ++ rest).takeWhile p = cs.takeWhile p ∧
      (cs ++ rest).dropWhile p = cs.dropWhile p ++ rest := by
  induction cs with
  | nil => cases rest <;> simp_all
  | cons c cs ih => cases hc : p c <;> simp [hc, ih]

/-- A text is cut where the kind of its characters changes. -/
theorem span_boundary {p : Char → Bool} {cs rest : List Char} (h : ∀ c ∈ cs, p c)
    (hrest : ∀ c ∈ rest.head?, p c = false) :
    (cs ++ rest).takeWhile p = cs ∧ (cs ++ rest).dropWhile p = rest := by
  obtain ⟨htake, hdrop⟩ := span_append hrest cs
  rw [htake, hdrop, List.takeWhile_eq_self_iff.2 h, List.dropWhile_eq_nil_iff.2 h]
  exact ⟨rfl, rfl⟩

namespace Double

theorem splitSign_of_unsigned {cs : List Char} (h : ∀ c ∈ cs.head?, c ≠ '+' ∧ c ≠ '-') :
    splitSign cs = (false, cs) := by
  match cs, h with
  | [], _ => rfl
  | c :: cs, h =>
    obtain ⟨hplus, hminus⟩ := h c rfl
    simp [splitSign, splitMinus, hplus, hminus]

theorem exists_sign (cs : List Char) :
    ∃ sign, cs = sign ++ (splitSign cs).2 ∧ IsSign (splitSign cs).1 sign := by
  unfold splitSign
  split
  case h_1 r => exact ⟨['+'], rfl, .plus⟩
  case h_2 =>
    unfold splitMinus
    split
    case h_1 r => exact ⟨['-'], rfl, .minus⟩
    case h_2 => exact ⟨[], rfl, .missing⟩

theorem splitSign_append {negative : Bool} {sign rest : List Char} (h : IsSign negative sign)
    (hrest : ∀ c ∈ rest.head?, c ≠ '+' ∧ c ≠ '-') :
    splitSign (sign ++ rest) = (negative, rest) := by
  cases h with
  | plus => rfl
  | minus => rfl
  | missing => exact splitSign_of_unsigned hrest

/-- A digit is no sign. -/
theorem not_sign_of_digits {cs : List Char} (h : ∀ c ∈ cs, c.isDigit) :
    ∀ c ∈ cs.head?, c ≠ '+' ∧ c ≠ '-' := by
  intro c hc
  have hdigit := h c (List.mem_of_mem_head? hc)
  constructor
  · rintro rfl
    exact absurd hdigit (by decide)
  · rintro rfl
    exact absurd hdigit (by decide)

theorem exponent?_eq_some_iff {cs : List Char} {e : Int} :
    exponent? cs = some e ↔ IsExponent e cs := by
  constructor
  · intro h
    cases cs with
    | nil => cases h; exact .missing
    | cons letter rest =>
      obtain ⟨sign, hrest, hsign⟩ := exists_sign rest
      simp only [exponent?, Option.ite_none_right_eq_some] at h
      obtain ⟨⟨hletter, hne, hdigits⟩, heq⟩ := h
      rw [hrest, ← Option.some.inj heq]
      exact .present hletter hsign hne (List.all_eq_true.1 hdigits)
  · intro h
    cases h with
    | missing => rfl
    | @present letter negative sign digits hletter hsign hne hdigits =>
      have hsplit : splitSign (sign ++ digits) = (negative, digits) :=
        splitSign_append hsign (not_sign_of_digits hdigits)
      have hall : digits.all Char.isDigit := List.all_eq_true.2 hdigits
      simp [exponent?, hsplit, hletter, hne, hall]

/-- An exponent begins with neither a digit nor a point. -/
theorem exponent_boundary {e : Int} {cs : List Char} (h : IsExponent e cs) :
    ∀ c ∈ cs.head?, c.isDigit = false ∧ c ≠ '.' := by
  cases h with
  | missing => simp
  | present hletter =>
    rintro c ⟨⟩
    rcases hletter with rfl | rfl <;> decide

/-- Digits or a point are not a sign. -/
theorem mantissa_boundary {whole fraction mantissa : List Char}
    (h : IsMantissa whole fraction mantissa) (rest : List Char) :
    ∀ c ∈ (mantissa ++ rest).head?, c ≠ '+' ∧ c ≠ '-' := by
  cases h with
  | whole hne hwhole =>
    rw [List.head?_append, Option.or_of_isSome (by simpa using hne)]
    exact not_sign_of_digits hwhole
  | pointed hne hwhole hfraction =>
    cases whole with
    | nil =>
      rintro c ⟨⟩
      decide
    | cons d whole =>
      rintro c ⟨⟩
      exact not_sign_of_digits hwhole _ rfl

theorem read?_of_isDecimal {d : Decimal} {cs : List Char} (h : IsDecimal d cs) :
    Decimal.read? cs = some d := by
  obtain @⟨negative, whole, fraction, sign, mantissa, written, exponent, hsign, hmantissa,
    hexponent⟩ := h
  have hboundary := exponent_boundary hexponent
  have hread : exponent? written = some exponent := exponent?_eq_some_iff.2 hexponent
  have hsplit := splitSign_append hsign (mantissa_boundary hmantissa written)
  cases hmantissa with
  | whole hne hwhole =>
    obtain ⟨htake, hdrop⟩ := span_boundary hwhole fun c hc => (hboundary c hc).1
    simp only [Decimal.read?, hsplit, htake, hdrop]
    split
    case h_1 r => exact absurd rfl (hboundary '.' rfl).2
    case h_2 => simp [hne, hread]
  | pointed hne hwhole hfraction =>
    have hpoint : ∀ c ∈ ('.' :: (fraction ++ written)).head?, c.isDigit = false := by
      rintro c ⟨⟩
      rfl
    obtain ⟨htake, hdrop⟩ := span_boundary hwhole hpoint
    obtain ⟨htake', hdrop'⟩ := span_boundary hfraction fun c hc => (hboundary c hc).1
    have hnonempty : ¬ (whole = [] ∧ fraction = []) := not_and_or.2 hne
    rw [List.append_assoc, List.cons_append] at hsplit ⊢
    simp only [Decimal.read?, hsplit, htake, hdrop, htake', hdrop', if_neg hnonempty, hread,
      Option.map_some]

theorem isDecimal_of_read? {d : Decimal} {cs : List Char} (h : Decimal.read? cs = some d) :
    IsDecimal d cs := by
  obtain ⟨sign, hcs, hsign⟩ := exists_sign cs
  have hdigits (ds : List Char) : ∀ c ∈ ds.takeWhile Char.isDigit, c.isDigit :=
    fun c => List.mem_takeWhile_imp
  have hunsigned : (splitSign cs).2 = (splitSign cs).2.takeWhile Char.isDigit ++
      (splitSign cs).2.dropWhile Char.isDigit := List.takeWhile_append_dropWhile.symm
  rw [hcs]
  simp only [Decimal.read?] at h
  split at h
  case h_1 r hr =>
    simp only [Option.ite_none_left_eq_some, Option.map_eq_some_iff] at h
    obtain ⟨hne, e, he, rfl⟩ := h
    have hfraction : r = r.takeWhile Char.isDigit ++ r.dropWhile Char.isDigit :=
      List.takeWhile_append_dropWhile.symm
    have hmantissa := IsMantissa.pointed (not_and_or.1 hne) (hdigits _) (hdigits r)
    have hparts := IsDecimal.parts hsign hmantissa (exponent?_eq_some_iff.1 he)
    rw [List.append_assoc, List.cons_append, ← hfraction, ← hr, ← hunsigned] at hparts
    exact hparts
  case h_2 =>
    simp only [Option.ite_none_left_eq_some, Option.map_eq_some_iff] at h
    obtain ⟨hne, e, he, rfl⟩ := h
    have hwhole : (splitSign cs).2.takeWhile Char.isDigit ≠ [] := fun hnil => hne ⟨hnil, trivial⟩
    have hmantissa := IsMantissa.whole hwhole (hdigits _)
    have hparts := IsDecimal.parts hsign hmantissa (exponent?_eq_some_iff.1 he)
    rw [← hunsigned] at hparts
    exact hparts

/-- **Decimals are read with their parts.** -/
theorem Decimal.read?_eq_some_iff {d : Decimal} {cs : List Char} :
    Decimal.read? cs = some d ↔ IsDecimal d cs :=
  ⟨isDecimal_of_read?, read?_of_isDecimal⟩

end Double

/-! ## Characters of a decimal -/

/-- The characters that decimals consist of. -/
def isPlain (c : Char) : Bool :=
  c.isDigit || c == '.' || c == 'e' || c == 'E' || c == '+' || c == '-'

section Plain

variable {cs : List Char}

theorem plain_of_digits (h : ∀ c ∈ cs, c.isDigit) : ∀ c ∈ cs, isPlain c :=
  fun c hc => by simp [isPlain, h c hc]

theorem IsSign.plain {negative : Bool} (h : IsSign negative cs) : ∀ c ∈ cs, isPlain c := by
  cases h with
  | missing => simp
  | plus => simp [isPlain]
  | minus => simp [isPlain]

theorem IsMantissa.plain {whole fraction : List Char} (h : IsMantissa whole fraction cs) :
    ∀ c ∈ cs, isPlain c := by
  cases h with
  | whole hne hwhole => exact plain_of_digits hwhole
  | pointed hne hwhole hfraction =>
    exact List.forall_mem_append.2
      ⟨plain_of_digits hwhole, List.forall_mem_cons.2 ⟨rfl, plain_of_digits hfraction⟩⟩

theorem IsExponent.plain {e : Int} (h : IsExponent e cs) : ∀ c ∈ cs, isPlain c := by
  cases h with
  | missing => simp
  | present hletter hsign hne hdigits =>
    refine List.forall_mem_cons.2 ⟨?_, List.forall_mem_append.2
      ⟨hsign.plain, plain_of_digits hdigits⟩⟩
    rcases hletter with rfl | rfl <;> rfl

theorem IsDecimal.plain {d : Double.Decimal} (h : IsDecimal d cs) : ∀ c ∈ cs, isPlain c := by
  obtain ⟨hsign, hmantissa, hexponent⟩ := h
  exact List.forall_mem_append.2
    ⟨hsign.plain, List.forall_mem_append.2 ⟨hmantissa.plain, hexponent.plain⟩⟩

end Plain

/-! ## Reading a literal -/

namespace Radix

variable (r : Radix)

/-- A text begins with the prefix of a radix. -/
def Announces (digits cs : List Char) : Prop :=
  ∃ letter : Char, letter.toLower = r.letter ∧ cs = '0' :: letter :: digits

theorem digit_of_digitValue? {c : Char} {d : Nat} (h : digitValue? r.base c = some d) :
    d < r.base ∧ c.toLower = Nat.digitChar d := by
  have hascii : ∀ i ≤ 122, ∀ d ∈ digitValue? r.base (Char.ofNat i),
      d < r.base ∧ (Char.ofNat i).toLower = Nat.digitChar d := by cases r <;> decide +kernel
  have hclass : c.isDigit ∨ c.isLower ∨ c.isUpper := by
    by_contra hnone
    simp only [not_or, Bool.not_eq_true] at hnone
    simp [digitValue?, hnone] at h
  have hle : c.toNat ≤ 122 := by
    rcases hclass with hdigit | hlower | hupper
    · exact Nat.le_trans (Char.isDigit_iff_toNat.1 hdigit).2 (by decide)
    · have hz : c.val ≤ 'z'.val := of_decide_eq_true (Bool.and_eq_true_iff.1 hlower).2
      exact hz
    · have hz : c.val ≤ 'Z'.val := (of_decide_eq_true hupper).2
      exact Nat.le_trans hz (by decide)
  rw [← Char.ofNat_toNat c] at h ⊢
  exact hascii c.toNat hle d h

end Radix

namespace Double

theorem splitRadix?_eq_some_iff {cs digits : List Char} {base : Nat} :
    splitRadix? cs = some (base, digits) ↔ ∃ r : Radix, r.base = base ∧ r.Announces digits cs := by
  constructor
  · intro h
    unfold splitRadix? at h
    split at h
    case h_1 letter rest =>
      split_ifs at h with hx ho hb <;> cases h
      · exact ⟨.hexadecimal, rfl, letter, by rcases hx with rfl | rfl <;> rfl, rfl⟩
      · exact ⟨.octal, rfl, letter, by rcases ho with rfl | rfl <;> rfl, rfl⟩
      · exact ⟨.binary, rfl, letter, by rcases hb with rfl | rfl <;> rfl, rfl⟩
    case h_2 => cases h
  · rintro ⟨r, rfl, letter, hletter, rfl⟩
    exact (r.letter_of_toLower hletter).1 digits

theorem exists_spells_of_foldlM {r : Radix} {cs : List Char} {x : Double}
    (h : cs.foldlM (pushDigit r.base) zero = some x) : ∃ n, Spells r.base n cs := by
  induction cs using List.reverseRecOn generalizing x with
  | nil => exact ⟨0, .nil⟩
  | append_singleton cs c ih =>
    rw [List.foldlM_append] at h
    obtain ⟨acc, hacc, hpush⟩ := Option.bind_eq_some_iff.1 h
    obtain ⟨n, hn⟩ := ih hacc
    simp only [List.foldlM_cons, pushDigit, Option.bind_eq_bind, Option.bind_eq_some_iff,
      Option.map_eq_some_iff] at hpush
    obtain ⟨-, ⟨d, hd, -⟩, -⟩ := hpush
    obtain ⟨hlt, hc⟩ := r.digit_of_digitValue? hd
    exact ⟨_, hn.push hlt hc⟩

/-- **Literals are read as what is left of the whole number that they spell.** -/
theorem ofDigits?_eq_some_iff {r : Radix} {cs : List Char} {x : Double} :
    ofDigits? r.base cs = some x ↔
      cs ≠ [] ∧ ∃ n, Spells r.base n cs ∧ x = ofNat (r.leading n) := by
  rw [ofDigits?, Option.ite_none_left_eq_some]
  refine and_congr_right fun _ => ?_
  constructor
  · intro h
    obtain ⟨n, hn⟩ := exists_spells_of_foldlM h
    rw [foldlM_pushDigit hn] at h
    exact ⟨n, hn, (Option.some.inj h).symm⟩
  · rintro ⟨n, hn, hx⟩
    rw [hx]
    exact foldlM_pushDigit hn

end Double

/-! ## Reading a numeral -/

/-- The letter of a prefix is not a character of a decimal. -/
theorem Radix.not_plain_of_toLower (r : Radix) {letter : Char} (h : letter.toLower = r.letter) :
    isPlain letter = false := by
  have hcase := eq_toLower_or_toUpper letter
  rw [h] at hcase
  rcases hcase with rfl | rfl
  · cases r <;> rfl
  · cases r <;> rfl

theorem Radix.not_announces_of_plain (r : Radix) {digits cs : List Char}
    (h : ∀ c ∈ cs, isPlain c) : ¬ r.Announces digits cs := by
  rintro ⟨letter, hletter, rfl⟩
  have hplain : isPlain letter := h letter (by simp)
  rw [r.not_plain_of_toLower hletter] at hplain
  cases hplain

namespace Double

theorem splitRadix?_eq_none_iff {cs : List Char} :
    splitRadix? cs = none ↔ ∀ (r : Radix) digits, ¬ r.Announces digits cs := by
  constructor
  · intro h r digits hannounced
    rw [splitRadix?_eq_some_iff.2 ⟨r, rfl, hannounced⟩] at h
    cases h
  · intro h
    cases hsplit : splitRadix? cs with
    | none => rfl
    | some found =>
      obtain ⟨r, -, hannounced⟩ := splitRadix?_eq_some_iff.1 hsplit
      exact (h r found.2 hannounced).elim

theorem ofNumeral?_of_announces {r : Radix} {digits cs : List Char} (h : r.Announces digits cs) :
    ofNumeral? cs = ofDigits? r.base digits := by
  rw [ofNumeral?, splitRadix?_eq_some_iff.2 ⟨r, rfl, h⟩]

theorem ofNumeral?_of_not_announces {cs : List Char}
    (h : ∀ (r : Radix) digits, ¬ r.Announces digits cs) :
    ofNumeral? cs = (Decimal.read? cs).map (Decimal.value .double) := by
  rw [ofNumeral?, splitRadix?_eq_none_iff.2 h]

/-- **What is read is what the grammar says.** -/
theorem ofNumeral?_eq_some_iff {cs : List Char} {x : Double} :
    ofNumeral? cs = some x ↔ Denotes cs x := by
  constructor
  · intro h
    cases hsplit : splitRadix? cs with
    | some found =>
      obtain ⟨r, -, hannounced⟩ := splitRadix?_eq_some_iff.1 hsplit
      rw [ofNumeral?_of_announces hannounced] at h
      obtain ⟨hne, n, hn, hx⟩ := ofDigits?_eq_some_iff.1 h
      obtain ⟨letter, hletter, rfl⟩ := hannounced
      rw [hx]
      exact .literal hletter hne hn
    | none =>
      rw [ofNumeral?_of_not_announces (splitRadix?_eq_none_iff.1 hsplit)] at h
      obtain ⟨d, hd, rfl⟩ := Option.map_eq_some_iff.1 h
      exact .decimal (Decimal.read?_eq_some_iff.1 hd)
  · intro h
    cases h with
    | @literal r letter digits n hletter hne hn =>
      rw [ofNumeral?_of_announces (r := r) ⟨letter, hletter, rfl⟩]
      exact ofDigits?_eq_some_iff.2 ⟨hne, n, hn, rfl⟩
    | @decimal d _ hd =>
      rw [ofNumeral?_of_not_announces fun r _ => r.not_announces_of_plain hd.plain,
        Decimal.read?_eq_some_iff.2 hd, Option.map_some]

/-- The words of number texts are not plain: each has an n. -/
theorem toLower_ne_of_plain {c : Char} (h : isPlain c) : c.toLower ≠ 'n' := by
  intro hc
  have hcase := eq_toLower_or_toUpper c
  rw [hc] at hcase
  rcases hcase with rfl | rfl <;> exact absurd h (by decide)

theorem ofNumberText?_of_plain {cs : List Char} (h : ∀ c ∈ cs, isPlain c) :
    ofNumberText? .double (String.ofList cs) = (Decimal.read? cs).map (Decimal.value .double) := by
  obtain ⟨sign, hcs, -⟩ := exists_sign cs
  have hword (word : String) (hn : 'n' ∈ word.toList) :
      String.ofList ((splitSign cs).2.map Char.toLower) ≠ word := by
    rintro rfl
    rw [String.toList_ofList] at hn
    obtain ⟨c, hc, hlower⟩ := List.mem_map.1 hn
    exact toLower_ne_of_plain (h c (hcs ▸ List.mem_append_right _ hc)) hlower
  simp only [ofNumberText?, String.toList_ofList]
  split
  case h_1 heq => exact absurd heq (hword "nan" (by decide))
  case h_2 heq => exact absurd heq (hword "inf" (by decide))
  case h_3 heq => exact absurd heq (hword "infinity" (by decide))
  case h_4 => rfl

/-- **A text without a prefix is read as the plain ones among the number texts are.** -/
theorem ofNumeral?_of_unprefixed {cs : List Char}
    (h : ∀ (r : Radix) digits, ¬ r.Announces digits cs) :
    ofNumeral? cs =
      if cs.all isPlain then ofNumberText? .double (String.ofList cs) else none := by
  rw [ofNumeral?_of_not_announces h]
  split
  case isTrue hplain => rw [ofNumberText?_of_plain (List.all_eq_true.1 hplain)]
  case isFalse hplain =>
    rw [Option.map_eq_none_iff, Option.eq_none_iff_forall_ne_some]
    intro d hd
    exact hplain (List.all_eq_true.2 (Decimal.read?_eq_some_iff.1 hd).plain)

end Double

/-! ## Characters of a numeral -/

/-- The characters that numerals consist of. -/
def numeralCharacters : List Char := "0123456789abcdefABCDEFxXoO.+-".toList

theorem mem_numeralCharacters_of_plain {c : Char} (h : isPlain c) : c ∈ numeralCharacters := by
  simp only [isPlain, Bool.or_eq_true, beq_iff_eq] at h
  rcases h with ((((hdigit | rfl) | rfl) | rfl) | rfl) | rfl
  · have hascii : ∀ i ≤ 57, (Char.ofNat i).isDigit → Char.ofNat i ∈ numeralCharacters := by
      decide +kernel
    have hle : c.toNat ≤ 57 := (Char.isDigit_iff_toNat.1 hdigit).2
    rw [← Char.ofNat_toNat c] at hdigit ⊢
    exact hascii c.toNat hle hdigit
  all_goals decide +kernel

theorem Spells.digit {base n : Nat} {cs : List Char} (h : Spells base n cs) :
    ∀ c ∈ cs, ∃ d < base, c.toLower = Nat.digitChar d := by
  induction h with
  | nil => simp
  | @push _ d _ _ _ hd hc ih =>
    exact List.forall_mem_append.2 ⟨ih, by simpa using ⟨d, hd, hc⟩⟩

theorem Spells.mem_numeralCharacters {r : Radix} {n : Nat} {cs : List Char}
    (h : Spells r.base n cs) : ∀ c ∈ cs, c ∈ numeralCharacters := by
  have hdigits : ∀ d < r.base, Nat.digitChar d ∈ numeralCharacters ∧
      (Nat.digitChar d).toUpper ∈ numeralCharacters := by cases r <;> decide +kernel
  intro c hc
  obtain ⟨d, hd, hlower⟩ := h.digit c hc
  have hcase := eq_toLower_or_toUpper c
  rw [hlower] at hcase
  rcases hcase with rfl | rfl
  · exact (hdigits d hd).1
  · exact (hdigits d hd).2

/-- Digits have no sign among them. -/
theorem Spells.not_sign {r : Radix} {n : Nat} {cs : List Char} (h : Spells r.base n cs) {c : Char}
    (hc : c = '+' ∨ c = '-') : c ∉ cs := by
  have hsigns : ∀ d < r.base, Nat.digitChar d ≠ '+' ∧ Nat.digitChar d ≠ '-' := by
    cases r <;> decide +kernel
  intro hmem
  obtain ⟨d, hd, hlower⟩ := h.digit c hmem
  rcases hc with rfl | rfl
  · exact (hsigns d hd).1 hlower.symm
  · exact (hsigns d hd).2 hlower.symm

theorem Denotes.mem_numeralCharacters {cs : List Char} {x : Double} (h : Denotes cs x) :
    ∀ c ∈ cs, c ∈ numeralCharacters := by
  cases h with
  | @literal r letter digits n hletter hne hn =>
    refine List.forall_mem_cons.2 ⟨by decide +kernel, List.forall_mem_cons.2
      ⟨?_, hn.mem_numeralCharacters⟩⟩
    have hcase := eq_toLower_or_toUpper letter
    rw [hletter] at hcase
    rcases hcase with rfl | rfl <;> cases r <;> decide +kernel
  | decimal hd => exact fun c hc => mem_numeralCharacters_of_plain (hd.plain c hc)

theorem Denotes.unique {cs : List Char} {x y : Double} (hx : Denotes cs x) (hy : Denotes cs y) :
    x = y := by
  rw [← Double.ofNumeral?_eq_some_iff] at hx hy
  exact Option.some.inj (hx.symm.trans hy)

/-- A literal with a sign is no numeral. -/
theorem Denotes.not_signed {r : Radix} {sign : Char} {digits cs : List Char} {x : Double}
    (hsign : sign = '+' ∨ sign = '-') (hannounced : r.Announces digits cs) :
    ¬ Denotes (sign :: cs) x := by
  obtain ⟨letter, hletter, rfl⟩ := hannounced
  intro h
  cases h with
  | literal => exact absurd hsign (by decide)
  | decimal hd =>
    have hplain := hd.plain letter (by simp)
    rw [r.not_plain_of_toLower hletter] at hplain
    cases hplain

/-! ## Texts -/

theorem Value.asNumber?_string (s : String) :
    (Value.string s).asNumber? =
      (Double.ofNumeral? (Text.trim s.toList)).filter Double.isFinite := rfl

/-- How a text is read as a number; `t` is what is left of it without the blanks at both ends. -/
structure NumeralReading (s : String) (t : List Char) : Prop where
  stripped : ∀ inner, Text.StripsTo s.toList inner ↔ inner = t
  /-- A text is a number just if it is a numeral of a finite number. -/
  reads : ∀ x, (Value.string s).asNumber? = some x ↔ Denotes t x ∧ x.isFinite
  unambiguous : ∀ x y, Denotes t x → Denotes t y → x = y
  /-- A text with a prefix is read as a literal or not at all. -/
  prefixed : ∀ (r : Radix) digits, r.Announces digits t → ∀ x,
    (Value.string s).asNumber? = some x ↔
      digits ≠ [] ∧ (∃ n, Spells r.base n digits ∧ x = .ofNat (r.leading n)) ∧ x.isFinite
  /-- Any other text is read as the number texts are, of which only the plain ones are numerals. -/
  unprefixed : (∀ (r : Radix) digits, ¬ r.Announces digits t) →
    (Value.string s).asNumber? =
      (if t.all isPlain then Double.ofNumberText? .double (String.ofList t) else none).filter
        Double.isFinite
  /-- Separators, digits of other scripts and blanks inside are not characters of a numeral. -/
  characters : (Value.string s).asNumber? ≠ none → ∀ c ∈ t, c ∈ numeralCharacters
  words : ∀ word ∈ ["nan", "inf", "infinity"], ∀ negative sign, IsSign negative sign →
    t.map Char.toLower = sign ++ word.toList → (Value.string s).asNumber? = none
  /-- There is no sign before a prefix, -/
  signBefore : ∀ sign ∈ ['+', '-'], ∀ (r : Radix) digits cs, r.Announces digits cs →
    t = sign :: cs → (Value.string s).asNumber? = none
  /-- nor after it. -/
  signAfter : ∀ sign ∈ ['+', '-'], ∀ (r : Radix) digits, r.Announces (sign :: digits) t →
    (Value.string s).asNumber? = none
  padded : ∀ before after : List Char, (∀ c ∈ before, Text.isBlank c) →
    (∀ c ∈ after, Text.isBlank c) →
    (Value.string (String.ofList (before ++ s.toList ++ after))).asNumber? =
      (Value.string s).asNumber?

/-- **The texts that are numbers.** -/
theorem numeral_reading (s : String) : NumeralReading s (Text.trim s.toList) := by
  have hreads : ∀ x, (Value.string s).asNumber? = some x ↔
      Denotes (Text.trim s.toList) x ∧ x.isFinite := by
    intro x
    rw [Value.asNumber?_string, Option.filter_eq_some_iff, Double.ofNumeral?_eq_some_iff]
  have hnone (h : ∀ x, ¬ Denotes (Text.trim s.toList) x) : (Value.string s).asNumber? = none :=
    Option.eq_none_iff_forall_ne_some.2 fun x hx => h x ((hreads x).1 hx).1
  exact
    { stripped := fun inner =>
        ⟨fun h => h.unique.symm, fun h => h ▸ Text.stripsTo_trim s.toList⟩
      reads := hreads
      unambiguous := fun x y => Denotes.unique
      prefixed := by
        intro r digits hannounced x
        rw [Value.asNumber?_string, Option.filter_eq_some_iff,
          Double.ofNumeral?_of_announces hannounced, Double.ofDigits?_eq_some_iff, and_assoc]
      unprefixed := by
        intro h
        rw [Value.asNumber?_string, Double.ofNumeral?_of_unprefixed h]
      characters := by
        intro h
        obtain ⟨x, hx⟩ := Option.ne_none_iff_exists'.1 h
        exact ((hreads x).1 hx).1.mem_numeralCharacters
      words := by
        intro word hword negative sign hsign ht
        refine hnone fun x hx => ?_
        have hn : 'n' ∈ word.toList := by
          simp only [List.mem_cons, List.not_mem_nil, or_false] at hword
          rcases hword with rfl | rfl | rfl <;> decide
        have hmem : 'n' ∈ (Text.trim s.toList).map Char.toLower :=
          ht ▸ List.mem_append_right _ hn
        obtain ⟨c, hc, hlower⟩ := List.mem_map.1 hmem
        have hcharacters : numeralCharacters.all fun c => c.toLower != 'n' := by decide +kernel
        have hc' := List.all_eq_true.1 hcharacters c (hx.mem_numeralCharacters c hc)
        exact bne_iff_ne.1 hc' hlower
      signBefore := by
        intro sign hsign r digits cs hannounced ht
        have hsign' : sign = '+' ∨ sign = '-' := by simpa using hsign
        exact hnone fun x hx => (ht ▸ hx).not_signed hsign' hannounced
      signAfter := by
        intro sign hsign r digits hannounced
        have hsign' : sign = '+' ∨ sign = '-' := by simpa using hsign
        rw [Option.eq_none_iff_forall_ne_some]
        intro x hx
        rw [Value.asNumber?_string, Option.filter_eq_some_iff,
          Double.ofNumeral?_of_announces hannounced, Double.ofDigits?_eq_some_iff] at hx
        obtain ⟨⟨-, n, hn, -⟩, -⟩ := hx
        exact hn.not_sign hsign' List.mem_cons_self
      padded := by
        intro before after hbefore hafter
        rw [Value.asNumber?_string, Value.asNumber?_string, String.toList_ofList,
          Text.trim_padded hbefore hafter] }

/-- Blanks of any script around a literal; a literal with a sign; a word of the wider grammar. -/
example :
    (Value.string "\u3000 0X1f\u00a0").asNumber? = some 31 ∧
      (Value.string "-0x1f").asNumber? = none ∧
      (Value.string "inf").asNumber? = none ∧
      Double.ofNumberText? .double "inf" = some (.infinite false) := by decide +kernel

end CallContract
