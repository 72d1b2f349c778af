import CallContract.Json.Library

/-!
# Quoted text

What is assumed of the quoting of a JSON library is `JsonLibrary.Escapes`: a text is written between
quotes, each of its characters by itself, as a letter behind a backslash, or as its number
(`Json.Written`), and quotes, backslashes and control characters are not written by themselves. The
quoting of this project is of this kind (`Json.isQuoted_quoteChars`).

Such a text is read back (`Json.Escaped.readString`), whatever characters it has, and however it
goes on behind the last quote; and no control character is in it (`Json.IsQuoted.printable`). In
each of the three ways a character is read as one part that stands for it, whatever follows
(`Json.Written.readParts`): this is the step, and a text is read back by induction on its
characters.
-/

namespace CallContract

namespace Json

/-! ## Ways to write a character -/

/-- The three ways in which a character is written. -/
inductive Written (c : Char) : List Char → Prop
  | short {letter : Char} : shortEscape? letter = some c → 0x20 ≤ letter.toNat →
      Written c ['\\', letter]
  | number : c.toNat < 0x20 → Written c (controlChar c)
  | self : c ≠ '"' → c ≠ '\\' → 0x20 ≤ c.toNat → Written c [c]

/-- Each character of a text is written in one of the three ways. -/
inductive Escaped : List Char → List Char → Prop
  | nil : Escaped [] []
  | cons {c : Char} {cs written more : List Char} :
      Written c written → Escaped cs more → Escaped (c :: cs) (written ++ more)

/-- A text is written between quotes. -/
def IsQuoted (s : String) (quoted : List Char) : Prop :=
  ∃ written, Escaped s.toList written ∧ quoted = '"' :: (written ++ ['"'])

theorem written_escapeChar (c : Char) : Written c (escapeChar c) := by
  have short {d letter : Char} (h : c = d) (hd : shortEscape? letter = some d)
      (hletter : 0x20 ≤ letter.toNat) : Written c ['\\', letter] :=
    .short (h ▸ hd) hletter
  unfold escapeChar
  split
  case isTrue h => exact short h rfl (by decide)
  case isFalse hquote =>
  split
  case isTrue h => exact short h rfl (by decide)
  case isFalse hbackslash =>
  split
  case isTrue h => exact short h rfl (by decide)
  split
  case isTrue h => exact short h rfl (by decide)
  split
  case isTrue h => exact short h rfl (by decide)
  split
  case isTrue h => exact short h rfl (by decide)
  split
  case isTrue h => exact short h rfl (by decide)
  split
  case isTrue hc => exact .number hc
  case isFalse hc => exact .self hquote hbackslash (Nat.not_lt.1 hc)

/-! ## Reading a character -/

/-- A part stands for a character that is not made of halves. -/
inductive StringPart.StandsFor (c : Char) : StringPart → Prop
  | char : StandsFor c (.char c)
  | number : c.toNat < 0x20 → StandsFor c (.number c.toNat)

theorem StringPart.StandsFor.joinParts {c : Char} {part : StringPart} (h : part.StandsFor c)
    (parts : List StringPart) :
    joinParts false none (part :: parts) = (joinParts false none parts).map (c :: ·) := by
  cases h with
  | char => rfl
  | number hc =>
    have hhigh : isHighHalf c.toNat = false := by simp [isHighHalf]; omega
    have hlow : isLowHalf c.toNat = false := by simp [isLowHalf]; omega
    simp [Json.joinParts, hhigh, hlow]

theorem hexNumber?_control : ∀ n < 0x20,
    hexNumber? '0' '0' (Nat.digitChar (n / 16)) (Nat.digitChar (n % 16)) = some n := by
  decide

/-- **A character is read as one part that stands for it**, whatever follows. -/
theorem Written.readParts {c : Char} {cs : List Char} (h : Written c cs) :
    ∃ part : StringPart, part.StandsFor c ∧ ∀ rest, readParts (cs ++ rest) =
      (readParts rest).map fun p => (part :: p.1, p.2) := by
  cases h with
  | @short letter h _ =>
    refine ⟨.char c, .char, fun rest => ?_⟩
    rw [List.cons_append, List.singleton_append, Json.readParts]
    · rw [h]
      cases Json.readParts rest <;> rfl
    · rintro _ _ _ _ _ rfl
      cases h
  | number hc =>
    refine ⟨.number c.toNat, .number hc, fun rest => ?_⟩
    simp only [controlChar, List.cons_append, List.nil_append, Json.readParts,
      hexNumber?_control _ hc]
    cases Json.readParts rest <;> rfl
  | self hquote hbackslash hc =>
    refine ⟨.char c, .char, fun rest => ?_⟩
    rw [List.singleton_append, Json.readParts]
    · simp [Nat.not_lt.2 hc, hbackslash]
    · exact hquote
    · exact fun _ _ _ _ _ h => (hbackslash h).elim
    · exact fun _ _ h => (hbackslash h).elim

/-! ## Reading a text -/

theorem escaped_flatMap (cs : List Char) : Escaped cs (cs.flatMap escapeChar) := by
  induction cs with
  | nil => exact .nil
  | cons c cs ih => exact .cons (written_escapeChar c) ih

theorem isQuoted_quoteChars (s : String) : IsQuoted s (quoteChars s.toList) :=
  ⟨_, escaped_flatMap s.toList, by simp [quoteChars]⟩

/-- **What is written between quotes is read back.** -/
theorem Escaped.readString {cs written : List Char} (h : Escaped cs written) (rest : List Char) :
    readString false (written ++ '"' :: rest) = some (cs, rest) := by
  have hparts : ∃ parts, readParts (written ++ '"' :: rest) = some (parts, rest) ∧
      joinParts false none parts = some cs := by
    induction h with
    | nil => exact ⟨[], rfl, rfl⟩
    | cons hc _ ih =>
      obtain ⟨part, hpart, hread⟩ := hc.readParts
      obtain ⟨parts, hparts, hjoin⟩ := ih
      refine ⟨part :: parts, ?_, ?_⟩
      · rw [List.append_assoc, hread, hparts]
        rfl
      · rw [hpart.joinParts, hjoin]
        rfl
  obtain ⟨parts, hparts, hjoin⟩ := hparts
  simp [Json.readString, hparts, hjoin]

theorem IsQuoted.readString {s : String} {quoted : List Char} (h : IsQuoted s quoted)
    (rest : List Char) :
    ∃ r, quoted ++ rest = '"' :: r ∧ Json.readString false r = some (s.toList, rest) := by
  obtain ⟨written, hwritten, rfl⟩ := h
  exact ⟨_, by simp, hwritten.readString rest⟩

/-! ## Control characters -/

theorem printable_digitChar : ∀ n < 16, 0x20 ≤ (Nat.digitChar n).toNat := by decide

theorem Written.printable {c d : Char} {cs : List Char} (h : Written c cs) (hd : d ∈ cs) :
    0x20 ≤ d.toNat := by
  cases h with
  | short _ hletter =>
    rcases List.mem_cons.1 hd with rfl | hd
    · decide
    · exact List.mem_singleton.1 hd ▸ hletter
  | number hc =>
    simp only [controlChar, List.mem_cons, List.not_mem_nil, or_false] at hd
    rcases hd with rfl | rfl | rfl | rfl | rfl | rfl
    · decide
    · decide
    · decide
    · decide
    · exact printable_digitChar _ (by omega)
    · exact printable_digitChar _ (by omega)
  | self _ _ hc => exact List.mem_singleton.1 hd ▸ hc

theorem Escaped.printable {cs written : List Char} {d : Char} (h : Escaped cs written)
    (hd : d ∈ written) : 0x20 ≤ d.toNat := by
  induction h with
  | nil => cases hd
  | cons hc _ ih =>
    rcases List.mem_append.1 hd with hd | hd
    · exact hc.printable hd
    · exact ih hd

/-- **No control character is written.** -/
theorem IsQuoted.printable {s : String} {quoted : List Char} {d : Char} (h : IsQuoted s quoted)
    (hd : d ∈ quoted) : 0x20 ≤ d.toNat := by
  obtain ⟨written, hwritten, rfl⟩ := h
  simp only [List.mem_cons, List.mem_append, List.not_mem_nil, or_false] at hd
  rcases hd with rfl | hd | rfl
  · decide
  · exact hwritten.printable hd
  · decide

end Json

/-! ## The library -/

/-- The library escapes quotes, backslashes and control characters in the texts that it quotes. -/
def JsonLibrary.Escapes [JsonLibrary] : Prop :=
  ∀ s, Json.IsQuoted s (JsonLibrary.quote s).toList

theorem Json.Plain.escapes : @JsonLibrary.Escapes Json.Plain.library := fun s => by
  rw [show (JsonLibrary.quote s).toList = quoteChars s.toList from String.toList_ofList]
  exact isQuoted_quoteChars s

end CallContract
