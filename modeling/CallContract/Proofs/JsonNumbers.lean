import CallContract.Json.Library
import CallContract.Proofs.NumeralGrammar

/-!
# Numbers in JSON texts

A number reads back (`JsonNumber.ReadsBack`) if its text is read as that number. Every integer of 64
bits does (`JsonNumber.readsBack_integer`), and a double need not: what has a point is read in a
quick way that can miss the nearest double. What is read as an integer has 64 bits
(`Json.NumberParts.number?_inRange`).

Inside a document the text of a number ends at a comma or a closing bracket, and is cut off there
(`Json.splitNumber?_append`).
-/

namespace CallContract

namespace Json

/-! ## Where a number ends -/

/-- Nothing follows, or something that cannot belong to a number. -/
inductive Stops : List Char → Prop
  | done : Stops []
  | comma (rest : List Char) : Stops (',' :: rest)
  | bracket (rest : List Char) : Stops (']' :: rest)
  | brace (rest : List Char) : Stops ('\x7d' :: rest)

theorem Stops.not_digit {rest : List Char} (h : Stops rest) :
    ∀ c ∈ rest.head?, c.isDigit = false := by
  cases h <;> rintro c ⟨⟩ <;> decide

variable {cs left rest : List Char}

theorem splitDigits?_append {digits : List Char} (h : splitDigits? cs = some (digits, left))
    (hrest : Stops rest) : splitDigits? (cs ++ rest) = some (digits, left ++ rest) := by
  obtain ⟨htake, hdrop⟩ := span_append hrest.not_digit cs
  simp only [splitDigits?, htake, hdrop] at h ⊢
  split at h
  case isTrue => cases h
  case isFalse hne => cases h; rw [if_neg hne]

theorem splitWhole?_append {digits : List Char} (h : splitWhole? cs = some (digits, left))
    (hrest : Stops rest) : splitWhole? (cs ++ rest) = some (digits, left ++ rest) := by
  obtain ⟨hsplit, hzero⟩ := Option.filter_eq_some_iff.1 h
  exact Option.filter_eq_some_iff.2 ⟨splitDigits?_append hsplit hrest, hzero⟩

/-- Behind the first character of a number its text goes on in the same way. -/
theorem splitMinus_append (hrest : Stops rest) (cs : List Char) :
    Double.splitMinus (cs ++ rest) =
      ((Double.splitMinus cs).1, (Double.splitMinus cs).2 ++ rest) := by
  match cs with
  | [] => cases hrest <;> rfl
  | c :: cs => by_cases hc : c = '-' <;> simp [Double.splitMinus, hc]

theorem splitSign_append_of_stops (hrest : Stops rest) (cs : List Char) :
    Double.splitSign (cs ++ rest) =
      ((Double.splitSign cs).1, (Double.splitSign cs).2 ++ rest) := by
  match cs with
  | [] => cases hrest <;> rfl
  | c :: cs =>
    by_cases hplus : c = '+'
    · subst hplus; rfl
    · simpa [Double.splitSign, hplus] using splitMinus_append hrest (c :: cs)

theorem splitFraction?_append {fraction : Option (List Char)}
    (h : splitFraction? cs = some (fraction, left)) (hrest : Stops rest) :
    splitFraction? (cs ++ rest) = some (fraction, left ++ rest) := by
  match cs with
  | [] =>
    cases h
    cases hrest <;> rfl
  | c :: cs =>
    by_cases hpoint : c = '.'
    · subst hpoint
      obtain ⟨⟨digits, left'⟩, hdigits, hleft⟩ := Option.map_eq_some_iff.1 h
      cases hleft
      exact Option.map_eq_some_iff.2 ⟨_, splitDigits?_append hdigits hrest, rfl⟩
    · have hnone (r : List Char) : splitFraction? (c :: r) = some (none, c :: r) := by
        simp [splitFraction?, hpoint]
      rw [hnone] at h
      cases h
      exact hnone _

theorem splitExponent?_cons (c : Char) (cs : List Char) :
    splitExponent? (c :: cs) =
      if c = 'e' ∨ c = 'E' then
        (splitDigits? (Double.splitSign cs).2).map fun p =>
          let n : Int := Nat.ofDigitChars 10 p.1 0
          (some (if (Double.splitSign cs).1 then -n else n), p.2)
      else some (none, c :: cs) := rfl

theorem splitExponent?_append {exponent : Option Int}
    (h : splitExponent? cs = some (exponent, left)) (hrest : Stops rest) :
    splitExponent? (cs ++ rest) = some (exponent, left ++ rest) := by
  match cs with
  | [] =>
    cases h
    cases hrest <;> rfl
  | c :: cs =>
    rw [splitExponent?_cons] at h
    rw [List.cons_append, splitExponent?_cons, splitSign_append_of_stops hrest]
    split at h
    case isTrue he =>
      obtain ⟨⟨digits, left'⟩, hdigits, hleft⟩ := Option.map_eq_some_iff.1 h
      cases hleft
      rw [if_pos he]
      exact Option.map_eq_some_iff.2 ⟨_, splitDigits?_append hdigits hrest, rfl⟩
    case isFalse he =>
      cases h
      rw [if_neg he]
      rfl

/-- **A number is cut off where it cannot go on.** -/
theorem splitNumber?_append {parts : NumberParts} (h : splitNumber? cs = some (parts, left))
    (hrest : Stops rest) : splitNumber? (cs ++ rest) = some (parts, left ++ rest) := by
  simp only [splitNumber?, Option.bind_eq_bind, Option.bind_eq_some_iff, Option.pure_def,
    Option.some.injEq] at h
  obtain ⟨⟨whole, afterWhole⟩, hwhole, ⟨fraction, afterFraction⟩, hfraction,
    ⟨exponent, afterExponent⟩, hexponent, hparts⟩ := h
  cases hparts
  simp only [splitNumber?, splitMinus_append hrest, splitWhole?_append hwhole hrest,
    splitFraction?_append hfraction hrest, splitExponent?_append hexponent hrest,
    Option.bind_eq_bind, Option.bind_some, Option.pure_def]

theorem splitDigits?_suffix {digits : List Char} (h : splitDigits? cs = some (digits, left)) :
    left <:+ cs := by
  rw [splitDigits?] at h
  split at h
  case isTrue => cases h
  case isFalse => cases h; exact List.dropWhile_suffix _

theorem splitMinus_suffix (cs : List Char) : (Double.splitMinus cs).2 <:+ cs := by
  unfold Double.splitMinus
  split
  case h_1 => exact List.suffix_cons _ _
  case h_2 => exact List.suffix_refl _

theorem splitSign_suffix (cs : List Char) : (Double.splitSign cs).2 <:+ cs := by
  unfold Double.splitSign
  split
  case h_1 => exact List.suffix_cons _ _
  case h_2 => exact splitMinus_suffix _

theorem splitFraction?_suffix {fraction : Option (List Char)}
    (h : splitFraction? cs = some (fraction, left)) : left <:+ cs := by
  unfold splitFraction? at h
  split at h
  case h_1 r =>
    obtain ⟨_, hdigits, hleft⟩ := Option.map_eq_some_iff.1 h
    cases hleft
    exact (splitDigits?_suffix hdigits).trans (List.suffix_cons _ _)
  case h_2 => cases h; exact List.suffix_refl _

theorem splitExponent?_suffix {exponent : Option Int}
    (h : splitExponent? cs = some (exponent, left)) : left <:+ cs := by
  cases cs with
  | nil => cases h; exact List.suffix_refl _
  | cons c r =>
    rw [splitExponent?_cons] at h
    split at h
    case isTrue =>
      obtain ⟨_, hdigits, hleft⟩ := Option.map_eq_some_iff.1 h
      cases hleft
      exact ((splitDigits?_suffix hdigits).trans (splitSign_suffix r)).trans (List.suffix_cons _ _)
    case isFalse => cases h; exact List.suffix_refl _

/-- What is left when a number has been split off is the end of the text. -/
theorem splitNumber?_suffix {parts : NumberParts} (h : splitNumber? cs = some (parts, left)) :
    left <:+ cs := by
  simp only [splitNumber?, Option.bind_eq_bind, Option.bind_eq_some_iff, Option.pure_def,
    Option.some.injEq] at h
  obtain ⟨⟨whole, afterWhole⟩, hwhole, ⟨fraction, afterFraction⟩, hfraction,
    ⟨exponent, afterExponent⟩, hexponent, hparts⟩ := h
  cases hparts
  obtain ⟨hdigits, -⟩ := Option.filter_eq_some_iff.1 hwhole
  exact (splitExponent?_suffix hexponent).trans <| (splitFraction?_suffix hfraction).trans <|
    (splitDigits?_suffix hdigits).trans (splitMinus_suffix cs)

/-! ## Integers -/

theorem toList_toString_int (i : Int) :
    (toString i).toList = Double.signText (i < 0) ++ Nat.toDigits 10 i.natAbs := by
  cases i with
  | ofNat n => simp [Int.toString_eq_repr, Int.repr, Nat.repr_eq_ofList_toDigits, Double.signText]
  | negSucc n =>
    simp [Int.toString_eq_repr, Int.repr, Nat.repr_eq_ofList_toDigits, Double.signText,
      Int.negSucc_lt_zero]

theorem isDigit_of_mem_toDigits {n : Nat} : ∀ c ∈ Nat.toDigits 10 n, c.isDigit := fun _ hc =>
  Nat.isDigit_of_mem_toDigits (by decide) (by decide) hc

/-- No number but zero is written with a leading zero. -/
theorem head?_toDigits {n : Nat} (h : n ≠ 0) : (Nat.toDigits 10 n).head? ≠ some '0' := by
  induction n using Nat.strongRecOn with
  | ind n ih =>
    by_cases hn : n < 10
    · have hdigit : ∀ n < 10, n ≠ 0 → [Nat.digitChar n].head? ≠ some '0' := by decide
      rw [Nat.toDigits_of_lt_base hn]
      exact hdigit n hn h
    · have hquotient : n / 10 ≠ 0 := by omega
      rw [Nat.toDigits_of_base_le (by decide) (by omega), List.head?_append,
        Option.or_of_isSome (by simp [Nat.toDigits_ne_nil])]
      exact ih (n / 10) (by omega) hquotient

theorem splitWhole?_toDigits (n : Nat) :
    splitWhole? (Nat.toDigits 10 n) = some (Nat.toDigits 10 n, []) := by
  refine Option.filter_eq_some_iff.2 ⟨?_, ?_⟩
  · simp only [splitDigits?, List.takeWhile_eq_self_iff.2 isDigit_of_mem_toDigits,
      List.dropWhile_eq_nil_iff.2 isDigit_of_mem_toDigits]
    exact if_neg (by simp [Nat.toDigits_ne_nil])
  · by_cases hn : n = 0
    · subst hn; decide
    · simp [head?_toDigits hn]

theorem splitMinus_signText {cs : List Char} (hcs : ∀ c ∈ cs, c.isDigit) (negative : Bool) :
    Double.splitMinus (Double.signText negative ++ cs) = (negative, cs) := by
  cases negative with
  | true => rfl
  | false =>
    match cs, hcs with
    | [], _ => rfl
    | c :: cs, hcs =>
      have hc : c ≠ '-' := by
        rintro rfl
        exact absurd (hcs '-' List.mem_cons_self) (by decide)
      simp [Double.signText, Double.splitMinus, hc]

/-- An integer is split into its sign and its digits. -/
theorem splitNumber?_integer (i : Int) :
    splitNumber? (toString i).toList =
      some ({ negative := i < 0, whole := Nat.toDigits 10 i.natAbs }, []) := by
  rw [splitNumber?, toList_toString_int, splitMinus_signText isDigit_of_mem_toDigits]
  simp only [splitWhole?_toDigits, Option.bind_eq_bind, Option.bind_some]
  rfl

/-! ## Blanks -/

theorem isBlank_of_isDigit {c : Char} (h : c.isDigit) : isBlank c = false := by
  by_contra hblank
  simp only [isBlank, Bool.not_eq_false, Bool.or_eq_true, decide_eq_true_eq] at hblank
  rcases hblank with ((rfl | rfl) | rfl) | rfl <;> cases h

theorem isBlank_of_mem_toString_int {i : Int} {c : Char} (h : c ∈ (toString i).toList) :
    isBlank c = false := by
  rw [toList_toString_int, List.mem_append] at h
  rcases h with h | h
  · revert h
    cases decide (i < 0) <;> simp +contextual [Double.signText, isBlank]
  · exact isBlank_of_isDigit (isDigit_of_mem_toDigits c h)

theorem isBlank_of_mem_positional {d : DecimalDigits} {c : Char} (h : c ∈ d.positional) :
    isBlank c = false := by
  have hdigit : ∀ c ∈ Nat.toDigits 10 d.digits, isBlank c = false := fun c hc =>
    isBlank_of_isDigit (isDigit_of_mem_toDigits c hc)
  simp only [DecimalDigits.positional] at h
  split at h
  case isTrue =>
    rcases List.mem_append.1 h with h | h
    · exact hdigit c h
    · exact List.eq_of_mem_replicate h ▸ rfl
  case isFalse =>
    split at h
    case isTrue =>
      rcases List.mem_append.1 h with h | h
      · exact hdigit c (List.mem_of_mem_take h)
      · rcases List.mem_cons.1 h with rfl | h
        · rfl
        · exact hdigit c (List.mem_of_mem_drop h)
    case isFalse =>
      simp only [List.cons_append, List.mem_cons, List.mem_append] at h
      rcases h with rfl | rfl | h | h
      · rfl
      · rfl
      · exact List.eq_of_mem_replicate h ▸ rfl
      · exact hdigit c h

theorem isBlank_of_mem_json {d : DecimalDigits} {c : Char} (h : c ∈ d.json) :
    isBlank c = false := by
  have hdigit : ∀ c ∈ Nat.toDigits 10 d.digits, isBlank c = false := fun c hc =>
    isBlank_of_isDigit (isDigit_of_mem_toDigits c hc)
  simp only [DecimalDigits.json] at h
  split at h
  case isTrue =>
    simp only [DecimalDigits.scientific, List.append_assoc, List.mem_append, List.mem_cons] at h
    rcases h with h | h | rfl | h
    · exact hdigit c (List.mem_of_mem_take h)
    · split at h
      case isTrue => cases h
      case isFalse =>
        rcases List.mem_cons.1 h with rfl | h
        · rfl
        · exact hdigit c (List.mem_of_mem_drop h)
    · rfl
    · exact isBlank_of_mem_toString_int h
  case isFalse =>
    split at h
    case isTrue => exact isBlank_of_mem_positional h
    case isFalse =>
      rcases List.mem_append.1 h with h | h
      · exact isBlank_of_mem_positional h
      · simp only [List.mem_cons, List.not_mem_nil, or_false] at h
        rcases h with rfl | rfl <;> rfl

theorem isBlank_of_all {cs : List Char} (hcs : cs.all fun c => !isBlank c) :
    ∀ c ∈ cs, isBlank c = false := by
  intro c hc
  simpa using List.all_eq_true.1 hcs c hc

/-- There are no blanks in the text of a number. -/
theorem isBlank_of_mem_text {n : JsonNumber} {c : Char} (h : c ∈ n.text.toList) :
    isBlank c = false := by
  cases n with
  | integer i => exact isBlank_of_mem_toString_int h
  | float d =>
    cases d with
    | nan _ | infinite _ =>
      have hnull : "null".toList.all fun c => !isBlank c := by decide
      exact isBlank_of_all hnull c h
    | finite negative units _ =>
      have hsign : (Double.signText negative).all fun c => !isBlank c := by
        cases negative <;> decide
      simp only [JsonNumber.text, Double.jsonText] at h
      split at h
      case isTrue =>
        rw [String.toList_ofList, List.mem_append] at h
        rcases h with h | h
        · exact isBlank_of_all hsign c h
        · have hzero : "0.0".toList.all fun c => !isBlank c := by decide
          exact isBlank_of_all hzero c h
      case isFalse =>
        rw [String.toList_ofList, List.mem_append] at h
        rcases h with h | h
        · exact isBlank_of_all hsign c h
        · exact isBlank_of_mem_json h

end Json

namespace JsonNumber

/-- The number is one that is read from its text. -/
def ReadsBack (n : JsonNumber) : Prop :=
  ∃ parts, Json.splitNumber? n.text.toList = some (parts, []) ∧ parts.number? = some n

theorem readsBack_iff {n : JsonNumber} :
    n.ReadsBack ↔
      (Json.splitNumber? n.text.toList).any fun p => p.2.isEmpty && p.1.number? == some n := by
  cases h : Json.splitNumber? n.text.toList with
  | none => simp [ReadsBack, h]
  | some p =>
    obtain ⟨parts, left⟩ := p
    simp [ReadsBack, h]

instance (n : JsonNumber) : Decidable n.ReadsBack := decidable_of_iff _ readsBack_iff.symm

/-- A double can be read as one of its neighbours. -/
example : (float (.ofNat 9007199254740991)).text = "9007199254740991.0" ∧
    ¬ (float (.ofNat 9007199254740991)).ReadsBack := by
  decide +kernel

/-- An integer has 64 bits, with a sign or without. -/
def InRange : JsonNumber → Prop
  | integer i => -twoTo 63 ≤ i ∧ i < twoTo 64
  | float _ => True

/-- **Integers of 64 bits read back.** -/
theorem readsBack_integer {i : Int} (h : (integer i).InRange) : (integer i).ReadsBack := by
  obtain ⟨hlow, hhigh⟩ := h
  refine ⟨_, Json.splitNumber?_integer i, ?_⟩
  simp only [Json.NumberParts.number?, Nat.ofDigitChars_toDigits (b := 10) (by decide) (by decide)]
  by_cases hi : i < 0
  · have hneg : -(i.natAbs : Int) = i := by omega
    have hnonzero : i.natAbs ≠ 0 := by omega
    have hbound : i.natAbs ≤ twoTo 63 := by omega
    simp only [hi, decide_true, Option.isNone_none, Bool.and_self, if_true, hnonzero, ne_eq,
      not_false_eq_true, hbound, hneg]
  · have hpos : (i.natAbs : Int) = i := by omega
    have hbound : i.natAbs < twoTo 64 := by omega
    simp only [hi, decide_false, decide_true, Option.isNone_none, Bool.and_self,
      Bool.false_eq_true, if_false, if_true, hbound, hpos]

end JsonNumber

/-- **What is read as an integer has 64 bits.** -/
theorem Json.NumberParts.number?_inRange {parts : NumberParts} {n : JsonNumber}
    (h : parts.number? = some n) : n.InRange := by
  cases n with
  | float d => trivial
  | integer i =>
    obtain ⟨negative, whole, fraction, exponent⟩ := parts
    have hbits : twoTo 63 ≤ twoTo 64 := twoTo_le (by decide)
    cases negative with
    | false =>
      simp only [number?, Bool.false_eq_true, if_false, Bool.and_eq_true, decide_eq_true_eq] at h
      split at h
      case isTrue hwhole => cases h; exact ⟨by omega, by omega⟩
      case isFalse => simp at h
    | true =>
      simp only [number?, if_true, Bool.and_eq_true, decide_eq_true_eq] at h
      split at h
      case isTrue hwhole => cases h; exact ⟨by omega, by omega⟩
      case isFalse => split at h <;> simp at h

end CallContract
