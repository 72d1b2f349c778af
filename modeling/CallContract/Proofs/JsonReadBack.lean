import CallContract.Proofs.JsonWellFormed
import CallContract.Proofs.Quoting

/-!
# Reading back what is written

What is assumed of the reading of a JSON library is `JsonLibrary.RoundTrips`: what was read comes
back when it has been written, unless a number in it does not. The reader and the printer of this
project are such a library (`Json.Plain.roundTrips`).

A well-formed document is read back from its text, if each of its numbers is read back from its own
(`Json.WellFormed.readsAs`), wherever that text stands (`Json.ReadsAs`). An array is therefore read
back by the step from one item to the next, an object likewise, and a document by induction on how
it is well formed. The members of the outermost object are read one by one and may have the same
name; they come back as they are (`Json.readObject?_render`). How their names are quoted is left
open, for the members of a line of the log are read in the same way
(`Json.readObject?_of_memberTexts`).
-/

namespace CallContract

namespace Json

/-! ## Reading back -/

/-- The document is read from a text where it stands in another, before the end or a character at
which a number stops. -/
structure ReadsFrom (mode : ReadMode) (j : Json) (cs : List Char) : Prop where
  starts : ∃ c r, cs = c :: r ∧ isBlank c = false ∧ c ≠ ']'
  reads : ∀ {fuel rest}, 2 * cs.length + 1 ≤ fuel → Stops rest →
    readValue fuel mode (cs ++ rest) = some (j, rest)

/-- The document is read back from its own text. -/
def ReadsAs (mode : ReadMode) (j : Json) : Prop := ReadsFrom mode j j.chars

/-- The first round of a value leaves enough rounds for what is inside. -/
theorem ReadsFrom.of_round {mode : ReadMode} {j : Json} {cs : List Char}
    (hstarts : ∃ c r, cs = c :: r ∧ isBlank c = false ∧ c ≠ ']')
    (h : ∀ {fuel rest}, 2 * cs.length ≤ fuel → Stops rest →
      readValue (fuel + 1) mode (cs ++ rest) = some (j, rest)) : ReadsFrom mode j cs := by
  refine ⟨hstarts, fun {fuel rest} hfuel hrest => ?_⟩
  obtain ⟨fuel, rfl⟩ : ∃ n, fuel = n + 1 := ⟨fuel - 1, by omega⟩
  exact h (by omega) hrest

theorem skipBlanks_cons {c : Char} (h : isBlank c = false) (cs : List Char) :
    skipBlanks (c :: cs) = c :: cs := List.dropWhile_cons_of_neg (by simp [h])

theorem readWord_append (word : List Char) (value : Json) (rest : List Char) :
    readWord word value (word ++ rest) = some (value, rest) := by
  rw [readWord, if_pos (List.isPrefixOf_iff_prefix.2 (List.prefix_append word rest)),
    List.drop_left]

theorem joined_cons_cons (p q : List Char) (ps : List (List Char)) :
    joined (p :: q :: ps) = p ++ ',' :: joined (q :: ps) := by
  simp [joined, List.intercalate_cons_cons]

theorem ReadsAs.readItems {mode : ReadMode} {items : List Json}
    (h : ∀ item ∈ items, ReadsAs mode item) (hne : items ≠ []) {fuel : Nat} {rest : List Char}
    (hfuel : 2 * (joined (itemChars items)).length + 2 ≤ fuel) :
    readItems fuel mode (joined (itemChars items) ++ ']' :: rest) = some (items, rest) := by
  induction items generalizing fuel with
  | nil => exact absurd rfl hne
  | cons item items ih =>
    obtain ⟨fuel, rfl⟩ : ∃ n, fuel = n + 1 := ⟨fuel - 1, by omega⟩
    obtain ⟨hitem, hitems⟩ := List.forall_mem_cons.1 h
    cases items with
    | nil =>
      have hjoined : joined (itemChars [item]) = item.chars := List.append_nil _
      rw [hjoined] at hfuel ⊢
      rw [Json.readItems, hitem.reads (by omega) (.bracket rest)]
      rfl
    | cons next items =>
      have hjoined : joined (itemChars (item :: next :: items)) =
          item.chars ++ ',' :: joined (itemChars (next :: items)) := joined_cons_cons _ _ _
      rw [hjoined, List.length_append, List.length_cons] at hfuel
      have hmore : Json.readItems fuel mode (joined (itemChars (next :: items)) ++ ']' :: rest) =
          some (next :: items, rest) := ih hitems (List.cons_ne_nil _ _) (by omega)
      rw [hjoined, List.append_assoc, List.cons_append, Json.readItems,
        hitem.reads (by omega) (.comma _)]
      simp only [skipBlanks_cons (c := ',') rfl, hmore, Option.map_some]

/-! ## Members -/

/-- The text of a member: its name between quotes, a colon, and a text that its value is read
from. -/
def MemberText (modeOf : String → ReadMode) (f : String × Json) (cs : List Char) : Prop :=
  ∃ quoted value, IsQuoted f.1 quoted ∧ ReadsFrom (modeOf f.1) f.2 value ∧
    cs = quoted ++ ':' :: value

section Member

variable {modeOf : String → ReadMode} {f : String × Json} {cs : List Char} {fuel : Nat}

/-- A member is read, and the reader goes on behind the comma. -/
theorem MemberText.readMembers_comma (h : MemberText modeOf f cs) (hfuel : 2 * cs.length ≤ fuel)
    (r : List Char) :
    readMembers (fuel + 1) false modeOf (cs ++ ',' :: r) =
      (readMembers fuel false modeOf r).map fun p => (f :: p.1, p.2) := by
  obtain ⟨quoted, value, hquoted, hvalue, rfl⟩ := h
  rw [List.length_append, List.length_cons] at hfuel
  obtain ⟨s, hs, hname⟩ := hquoted.readString (':' :: (value ++ ',' :: r))
  have hread : readValue fuel (modeOf f.1) (value ++ ',' :: r) = some (f.2, ',' :: r) :=
    hvalue.reads (by omega) (.comma r)
  rw [List.append_assoc, List.cons_append, hs, readMembers, skipBlanks_cons rfl]
  simp only [hname, skipBlanks_cons (c := ':') rfl, String.ofList_toList, hread,
    skipBlanks_cons (c := ',') rfl]

/-- A member is read, and the reader ends at the brace. -/
theorem MemberText.readMembers_brace (h : MemberText modeOf f cs) (hfuel : 2 * cs.length ≤ fuel)
    (r : List Char) : readMembers (fuel + 1) false modeOf (cs ++ '\x7d' :: r) = some ([f], r) := by
  obtain ⟨quoted, value, hquoted, hvalue, rfl⟩ := h
  rw [List.length_append, List.length_cons] at hfuel
  obtain ⟨s, hs, hname⟩ := hquoted.readString (':' :: (value ++ '\x7d' :: r))
  have hread : readValue fuel (modeOf f.1) (value ++ '\x7d' :: r) = some (f.2, '\x7d' :: r) :=
    hvalue.reads (by omega) (.brace r)
  rw [List.append_assoc, List.cons_append, hs, readMembers, skipBlanks_cons rfl]
  simp only [hname, skipBlanks_cons (c := ':') rfl, String.ofList_toList, hread,
    skipBlanks_cons (c := '\x7d') rfl]

theorem MemberText.starts (h : MemberText modeOf f cs) : ∃ r, cs = '"' :: r := by
  obtain ⟨_, _, ⟨_, _, rfl⟩, _, rfl⟩ := h
  exact ⟨_, rfl⟩

end Member

section Members

variable {modeOf : String → ReadMode} {fields : List (String × Json)} {texts : List (List Char)}

/-- **Members are read from their texts** one by one. -/
theorem readMembers_joined (h : List.Forall₂ (MemberText modeOf) fields texts) (hne : fields ≠ [])
    {fuel : Nat} {rest : List Char} (hfuel : 2 * (joined texts).length + 2 ≤ fuel) :
    readMembers fuel false modeOf (joined texts ++ '\x7d' :: rest) = some (fields, rest) := by
  induction h generalizing fuel with
  | nil => exact absurd rfl hne
  | @cons f text fields texts hf hfields ih =>
    obtain ⟨fuel, rfl⟩ : ∃ n, fuel = n + 1 := ⟨fuel - 1, by omega⟩
    cases hfields with
    | nil =>
      have hjoined : joined [text] = text := List.append_nil _
      rw [hjoined] at hfuel ⊢
      exact hf.readMembers_brace (by omega) rest
    | @cons next text' fields texts hnext hfields =>
      have hjoined : joined (text :: text' :: texts) = text ++ ',' :: joined (text' :: texts) :=
        joined_cons_cons _ _ _
      rw [hjoined, List.length_append, List.length_cons] at hfuel
      have hmore : readMembers fuel false modeOf (joined (text' :: texts) ++ '\x7d' :: rest) =
          some (next :: fields, rest) := ih (List.cons_ne_nil _ _) (by omega)
      rw [hjoined, List.append_assoc, List.cons_append, hf.readMembers_comma (by omega), hmore]
      rfl

theorem joined_cons (p : List Char) (ps : List (List Char)) :
    joined (p :: ps) = p ++ ps.flatMap (',' :: ·) := by
  induction ps generalizing p with
  | nil => simp [joined]
  | cons q ps ih => rw [joined_cons_cons, ih, List.flatMap_cons, List.cons_append]

theorem MemberText.joined_starts {f : String × Json} {text : List Char}
    (h : MemberText modeOf f text) (texts : List (List Char)) :
    ∃ r, joined (text :: texts) = '"' :: r := by
  obtain ⟨r, rfl⟩ := h.starts
  exact ⟨_, joined_cons ('"' :: r) texts⟩

/-- An object is read as its fields, of which the last one of a name counts. -/
theorem readValue_object {mode inner : ReadMode} (hlenient : mode.lenient = false)
    (hmode : mode.deeper? = some inner)
    (h : List.Forall₂ (MemberText fun _ => inner) fields texts) {fuel : Nat} (rest : List Char)
    (hfuel : 2 * (joined texts).length + 2 ≤ fuel) :
    readValue (fuel + 1) mode ('\x7b' :: (joined texts ++ '\x7d' :: rest)) =
      some (object (lastFields fields), rest) := by
  rw [readValue, skipBlanks_cons rfl]
  simp only [hmode]
  cases h with
  | nil => rfl
  | @cons f text fields texts hf hfields =>
    obtain ⟨r, htext⟩ := hf.joined_starts texts
    have hread : readMembers fuel false (fun _ => inner)
        (joined (text :: texts) ++ '\x7d' :: rest) = some (f :: fields, rest) :=
      readMembers_joined (.cons hf hfields) (List.cons_ne_nil _ _) hfuel
    rw [htext, List.cons_append] at hread ⊢
    have hinner : inner.lenient = false := (ReadMode.deeper?_eq_some hmode).2.trans hlenient
    simp [skipBlanks_cons (c := '"') rfl, hinner, hread]

/-- An object is read from a text with the last field of each name. -/
theorem read?_of_memberTexts (h : List.Forall₂ (MemberText fun _ => inner) fields texts)
    {text : String} (htext : text.toList = '\x7b' :: (joined texts ++ ['\x7d'])) :
    read? text = some (object (lastFields fields)) := by
  have hfuel : 2 * (joined texts).length + 2 ≤ 2 * text.toList.length + 1 := by
    rw [htext, List.length_cons, List.length_append, List.length_singleton]
    omega
  have hvalue := @readValue_object _ _ strict _ rfl rfl h _ [] hfuel
  rw [← htext] at hvalue
  exact congrArg atEnd hvalue

/-- **The members of an object are read from its text**, also if some have the same name. -/
theorem readObject?_of_memberTexts (h : List.Forall₂ (MemberText modeOf) fields texts)
    {text : String} (htext : text.toList = '\x7b' :: (joined texts ++ ['\x7d'])) :
    readObject? modeOf text = some fields := by
  rw [readObject?, htext, skipBlanks_cons rfl]
  cases h with
  | nil => rfl
  | @cons f text fields texts hf hfields =>
    obtain ⟨r, hstarts⟩ := hf.joined_starts texts
    have hread : readMembers (roundsFor (joined (text :: texts) ++ ['\x7d'])) false modeOf
        (joined (text :: texts) ++ ['\x7d']) = some (f :: fields, []) :=
      readMembers_joined (.cons hf hfields) (List.cons_ne_nil _ _)
        (by rw [roundsFor, List.length_append]; omega)
    rw [hstarts, List.cons_append] at hread ⊢
    simp only [skipBlanks_cons (c := '"') rfl]
    exact congrArg atEnd hread

end Members

/-! ## Values -/

variable {mode : ReadMode}

theorem readsAs_null : ReadsAs mode null := by
  refine .of_round ⟨_, _, rfl, rfl, by decide⟩ fun {fuel rest} _ _ => ?_
  rw [readValue]
  exact readWord_append ['u', 'l', 'l'] null rest

theorem readsAs_bool (b : Bool) : ReadsAs mode (bool b) := by
  cases b with
  | true =>
    refine .of_round ⟨_, _, rfl, rfl, by decide⟩ fun {fuel rest} _ _ => ?_
    rw [readValue]
    exact readWord_append ['r', 'u', 'e'] (bool true) rest
  | false =>
    refine .of_round ⟨_, _, rfl, rfl, by decide⟩ fun {fuel rest} _ _ => ?_
    rw [readValue]
    exact readWord_append ['a', 'l', 's', 'e'] (bool false) rest

theorem readsFrom_string (hmode : mode.lenient = false) {s : String} {quoted : List Char}
    (h : IsQuoted s quoted) : ReadsFrom mode (string s) quoted := by
  obtain ⟨r, hr, -⟩ := h.readString []
  rw [List.append_nil] at hr
  refine .of_round ⟨_, _, hr, rfl, by decide⟩ fun {fuel rest} _ _ => ?_
  obtain ⟨r, hquoted, hread⟩ := h.readString rest
  rw [hquoted, readValue, skipBlanks_cons rfl]
  simp only [hmode, hread, Option.map_some, String.ofList_toList]

theorem readsAs_string (hmode : mode.lenient = false) (s : String) : ReadsAs mode (string s) :=
  readsFrom_string hmode (isQuoted_quoteChars s)

/-- A number begins with a minus sign or a digit. -/
theorem splitNumber?_starts {cs left : List Char} {parts : NumberParts}
    (h : splitNumber? cs = some (parts, left)) :
    ∃ c r, cs = c :: r ∧ (c = '-' ∨ c.isDigit) := by
  match cs with
  | [] => cases h
  | c :: r =>
    refine ⟨c, r, rfl, ?_⟩
    by_contra hc
    obtain ⟨hminus, hdigit⟩ := not_or.1 hc
    have hnone : splitDigits? (c :: r) = none := by simp [splitDigits?, hdigit]
    simp [splitNumber?, Double.splitMinus, hminus, splitWhole?, hnone] at h

/-- What begins with a minus sign or a digit is read as a number. -/
theorem readValue_of_starts {c : Char} (hc : c = '-' ∨ c.isDigit) :
    isBlank c = false ∧ c ≠ ']' ∧ ∀ fuel mode r,
      readValue (fuel + 1) mode (c :: r) = readNumber mode.lenient (c :: r) := by
  have hne : ∀ d, d ≠ '-' → d.isDigit = false → c ≠ d := by
    rintro d hminus hdigit rfl
    rcases hc with rfl | hc
    · exact hminus rfl
    · exact absurd hc (by simp [hdigit])
  have hblank : isBlank c = false := by
    simp [isBlank, hne ' ' (by decide) rfl, hne '\n' (by decide) rfl, hne '\t' (by decide) rfl,
      hne '\r' (by decide) rfl]
  refine ⟨hblank, hne ']' (by decide) rfl, fun fuel mode r => ?_⟩
  rw [readValue, skipBlanks_cons hblank]
  split
  case h_1 h => cases h
  case h_2 h => cases h; exact absurd rfl (hne 'n' (by decide) rfl)
  case h_3 h => cases h; exact absurd rfl (hne 't' (by decide) rfl)
  case h_4 h => cases h; exact absurd rfl (hne 'f' (by decide) rfl)
  case h_5 h => cases h; exact absurd rfl (hne '"' (by decide) rfl)
  case h_6 h => cases h; exact absurd rfl (hne '[' (by decide) rfl)
  case h_7 h => cases h; exact absurd rfl (hne '\x7b' (by decide) rfl)
  case h_8 h => cases h; rfl

theorem readsAs_number {n : JsonNumber} (hn : n.ReadsBack) : ReadsAs mode (number n) := by
  obtain ⟨parts, hparts, hnumber⟩ := hn
  obtain ⟨c, r, htext, hc⟩ := splitNumber?_starts hparts
  obtain ⟨hblank, hbracket, hdispatch⟩ := readValue_of_starts hc
  refine .of_round ⟨c, r, htext, hblank, hbracket⟩ fun {fuel rest} _ hrest => ?_
  rw [chars, htext, List.cons_append, hdispatch, ← List.cons_append, ← htext, readNumber,
    splitNumber?_append hparts hrest]
  simp [hnumber]

theorem readsAs_array {inner : ReadMode} (hmode : mode.deeper? = some inner) {items : List Json}
    (h : ∀ item ∈ items, ReadsAs inner item) : ReadsAs mode (array items) := by
  refine .of_round ⟨_, _, rfl, rfl, by decide⟩ fun {fuel rest} hfuel _ => ?_
  have hlength : (array items).chars.length = (joined (itemChars items)).length + 2 := by
    simp [chars]
  rw [chars, List.cons_append, List.cons_append, List.append_assoc, List.singleton_append,
    readValue, skipBlanks_cons rfl]
  simp only [hmode]
  cases items with
  | nil => rfl
  | cons item items =>
    obtain ⟨c, r, hchars, hblank, hbracket⟩ := (h item List.mem_cons_self).starts
    obtain ⟨r', htext⟩ : ∃ r', joined (itemChars (item :: items)) = c :: r' :=
      ⟨_, by rw [itemChars, joined_cons, hchars, List.cons_append]⟩
    have hread : readItems fuel inner (joined (itemChars (item :: items)) ++ ']' :: rest) =
        some (item :: items, rest) := ReadsAs.readItems h (List.cons_ne_nil _ _) (by omega)
    rw [htext, List.cons_append] at hread ⊢
    simp [skipBlanks_cons hblank, hbracket, hread]

theorem forall₂_fieldChars {modeOf : String → ReadMode} {fields : List (String × Json)}
    (h : ∀ f ∈ fields, ReadsAs (modeOf f.1) f.2) :
    List.Forall₂ (MemberText modeOf) fields (fieldChars fields) := by
  induction fields with
  | nil => exact .nil
  | cons f fields ih =>
    obtain ⟨hf, hfields⟩ := List.forall_mem_cons.1 h
    exact .cons ⟨_, _, isQuoted_quoteChars f.1, hf, rfl⟩ (ih hfields)

theorem readsAs_object (hlenient : mode.lenient = false) {inner : ReadMode}
    (hmode : mode.deeper? = some inner) {fields : List (String × Json)}
    (hnames : (fields.map Prod.fst).Nodup) (h : ∀ f ∈ fields, ReadsAs inner f.2) :
    ReadsAs mode (object fields) := by
  refine .of_round ⟨_, _, rfl, rfl, by decide⟩ fun {fuel rest} hfuel _ => ?_
  have hlength : (object fields).chars.length = (joined (fieldChars fields)).length + 2 := by
    simp [chars]
  have hfuel' : 2 * (joined (fieldChars fields)).length + 2 ≤ fuel := by omega
  have hread := readValue_object hlenient hmode (forall₂_fieldChars h) rest hfuel'
  rw [lastFields_of_nodup hnames] at hread
  rw [← hread, chars, List.cons_append, List.cons_append, List.append_assoc]
  rfl

/-- **A well-formed document is read back wherever its text stands**, if its numbers are. -/
theorem WellFormed.readsAs {depth : Nat} {j : Json} (h : j.WellFormed depth)
    (hnumbers : ∀ n ∈ j.numbers, n.ReadsBack) : ReadsAs { lenient := false, depth } j := by
  induction h with
  | null => exact readsAs_null
  | bool _ b => exact readsAs_bool b
  | number _ => exact readsAs_number (hnumbers _ List.mem_cons_self)
  | string _ s => exact readsAs_string rfl s
  | array _ ih =>
    rw [numbers, itemNumbers_eq] at hnumbers
    exact readsAs_array rfl fun item hitem =>
      ih item hitem fun n hn => hnumbers n (List.mem_flatMap.2 ⟨item, hitem, hn⟩)
  | object hnames _ ih =>
    rw [numbers, fieldNumbers_eq] at hnumbers
    exact readsAs_object rfl rfl hnames fun f hf =>
      ih f hf fun n hn => hnumbers n (List.mem_flatMap.2 ⟨f, hf, hn⟩)

/-- The numbers of a well-formed document are read back if its doubles are. -/
theorem WellFormed.readsBack {depth : Nat} {j : Json} (h : j.WellFormed depth)
    (hdoubles : ∀ n ∈ j.numbers, (∃ i, n = .integer i) ∨ n.ReadsBack) :
    ∀ n ∈ j.numbers, n.ReadsBack := by
  intro n hn
  rcases hdoubles n hn with ⟨i, rfl⟩ | hback
  · exact JsonNumber.readsBack_integer (h.inRange _ hn)
  · exact hback

/-! ## Texts -/

theorem toList_render_object (fields : List (String × Json)) :
    (render (object fields)).toList = '\x7b' :: (joined (fieldChars fields) ++ ['\x7d']) := by
  simp [render, chars]

/-- **The members of an object are read back from its text**, also if some have the same name. -/
theorem readObject?_render {modeOf : String → ReadMode} {fields : List (String × Json)}
    (h : ∀ f ∈ fields, ReadsAs (modeOf f.1) f.2) :
    readObject? modeOf (render (object fields)) = some fields :=
  readObject?_of_memberTexts (forall₂_fieldChars h) (toList_render_object fields)

/-! ## Numbers by themselves -/

/-- What is read as a number is one. -/
theorem readValue_eq_number {fuel : Nat} {cs left : List Char} {n : JsonNumber}
    (h : readValue (fuel + 1) mode cs = some (number n, left)) :
    ∃ parts, splitNumber? (skipBlanks cs) = some (parts, left) ∧ parts.number? = some n := by
  rw [readValue] at h
  split at h
  case h_1 => cases h
  case h_2 => cases readWord_eq_some h
  case h_3 => cases readWord_eq_some h
  case h_4 => cases readWord_eq_some h
  case h_5 =>
    obtain ⟨_, -, hj⟩ := Option.map_eq_some_iff.1 h
    cases hj
  case h_6 =>
    split at h
    case h_1 => cases h
    case h_2 => cases h
    case h_3 =>
      obtain ⟨_, -, hj⟩ := Option.map_eq_some_iff.1 h
      cases hj
  case h_7 =>
    split at h
    case h_1 => cases h
    case h_2 => cases h
    case h_3 =>
      obtain ⟨_, -, hj⟩ := Option.map_eq_some_iff.1 h
      cases hj
  case h_8 c r _ _ _ _ _ _ hcs =>
    rw [hcs]
    simp only [readNumber, Option.bind_eq_bind, Option.bind_eq_some_iff] at h
    obtain ⟨⟨parts, rest⟩, hparts, h⟩ := h
    split at h
    case h_1 m hm => cases h; exact ⟨parts, hparts, hm⟩
    case h_2 =>
      split at h <;> cases h

/-- A number that reads back is read back from its own text. -/
theorem read?_render_number {n : JsonNumber} (h : n.ReadsBack) :
    read? (render (number n)) = some (number n) := by
  have hreads : ReadsAs strict (number n) := readsAs_number h
  have hread := hreads.reads (Nat.le_succ _) .done
  rw [List.append_nil] at hread
  rw [read?, render, String.toList_ofList]
  exact congrArg atEnd hread

/-- **A number that is read back from its own text** is one that reads back. -/
theorem readsBack_of_read?_render {n : JsonNumber}
    (h : read? (render (number n)) = some (number n)) : n.ReadsBack := by
  have htext : (render (number n)).toList = n.text.toList := String.toList_ofList
  have hkeep {cs : List Char} (hcs : cs <:+ n.text.toList) : skipBlanks cs = cs := by
    match cs with
    | [] => rfl
    | c :: cs => exact skipBlanks_cons (isBlank_of_mem_text (hcs.subset List.mem_cons_self)) cs
  rw [read?, htext] at h
  match hread : readValue (roundsFor n.text.toList) strict n.text.toList, h with
  | some (j, left), h =>
    obtain ⟨hleft, hj⟩ := Option.ite_none_right_eq_some.1 h
    cases hj
    obtain ⟨parts, hparts, hn⟩ := readValue_eq_number hread
    rw [hkeep (List.suffix_refl _)] at hparts
    -- nothing is left of the number, for only blanks could be
    rw [hkeep (splitNumber?_suffix hparts), List.isEmpty_iff] at hleft
    exact ⟨parts, hleft ▸ hparts, hn⟩

end Json

/-! ## The library -/

namespace JsonLibrary

variable [JsonLibrary]

/-- The number is read back from its own text. -/
def ReadsBack (n : JsonNumber) : Prop := read? (write (.number n)) = some (.number n)

/-- The numbers in a document are integers, or are read back from their own texts. -/
def Keeps (j : Json) : Prop := ∀ n ∈ j.numbers, (∃ i, n = .integer i) ∨ ReadsBack n

/-- The document can be read, as the value of a member. -/
def Readable (j : Json) : Prop :=
  ∃ text members name, readMembers? (fun _ => true) text = some members ∧ (name, j) ∈ members

/-- **The library reads back what it writes**: an object of values that it can read comes back
member by member, unless a number in it does not come back. -/
structure RoundTrips : Prop where
  null : Readable .null
  object : ∀ fields : List (String × Json), (fields.map Prod.fst).Nodup →
    (∀ f ∈ fields, Readable f.2 ∧ Keeps f.2) →
    readMembers? (fun _ => true) (write (.object fields)) = some fields

end JsonLibrary

namespace Json.Plain

theorem readMembers?_eq (text : String) :
    JsonLibrary.readMembers? (fun _ => true) text = readObject? (fun _ => inner) text := rfl

theorem wellFormed_of_readable {j : Json} (h : JsonLibrary.Readable j) :
    j.WellFormed inner.depth := by
  obtain ⟨text, members, name, hread, hj⟩ := h
  exact wellFormed_of_readObject? (fun _ => rfl) (readMembers?_eq text ▸ hread) _ hj

theorem readsBack_of_keeps {j : Json} (h : j.WellFormed inner.depth)
    (hkeeps : JsonLibrary.Keeps j) : ∀ n ∈ j.numbers, n.ReadsBack :=
  h.readsBack fun n hn => (hkeeps n hn).imp_right readsBack_of_read?_render

/-- The reader and the printer of this project are a library of this kind. -/
theorem roundTrips : @JsonLibrary.RoundTrips library where
  null := by
    have hread : ∀ f ∈ [("", null)], ReadsAs inner f.2 := List.forall_mem_singleton.2 readsAs_null
    exact ⟨_, _, "", readObject?_render hread, List.mem_cons_self⟩
  object fields hnames hfields := by
    refine readObject?_render fun f hf => ?_
    obtain ⟨hreadable, hkeeps⟩ := hfields f hf
    have hwellFormed := wellFormed_of_readable hreadable
    exact hwellFormed.readsAs (readsBack_of_keeps hwellFormed hkeeps)

end Json.Plain

end CallContract
