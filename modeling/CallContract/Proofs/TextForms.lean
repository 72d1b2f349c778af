import CallContract.Validation.Match
import Mathlib.Data.List.Forall2

/-!
# The texts of values

**Theorem (`text_forms`).** A value has no text just if it is a symbol, or an array with a symbol
somewhere inside arrays; those values, and no others, are refused by every pattern for want of a
text. The text of any other value is that of its form (`Value.HasText`). The text of an array joins
those of its items with commas, with nothing for an absent item and for null, in arrays inside
arrays too.

What a text is and why there is none are both said by rules that go into arrays and into nothing
else: `HasText` has a rule for each form of a value but a symbol, and `ReachesSymbol` has one for a
symbol and one for an array. Both are compared with the reading of an array as the reading of its
items (`Value.itemTexts?_cons`).
-/

namespace CallContract

namespace Value

/-! ## Texts -/

mutual

/-- The text of a value. -/
inductive HasText : Value → String → Prop
  | undefined : HasText .undefined "undefined"
  | null : HasText .null "null"
  | true : HasText (.bool true) "true"
  | false : HasText (.bool false) "false"
  | number (n : Double) : HasText (.number n) n.stringText
  | string (s : String) : HasText (.string s) s
  | array {items : List Value} {texts : List String} (each : List.Forall₂ HasItemText items texts) :
      HasText (.array items) (String.intercalate "," texts)
  | object (fields : List (String × Value)) : HasText (.object fields) "[object Object]"
  | function (name : String) (identity : Nat) :
      HasText (.function name identity) ("function " ++ name ++ "() \x7b [native code] \x7d")
  | instance (type : HostType) (identity : Nat) :
      HasText (.instance type identity) ("[object " ++ type.name ++ "]")

/-- The text of an item of an array. -/
inductive HasItemText : Value → String → Prop
  | undefined : HasItemText .undefined ""
  | null : HasItemText .null ""
  | present {item : Value} {text : String} (hundefined : item ≠ .undefined) (hnull : item ≠ .null)
      (h : HasText item text) : HasItemText item text

end

/-- The value is a symbol, or an array with such an item. Objects, functions and instances hide
whatever they hold. -/
inductive ReachesSymbol : Value → Prop
  | symbol (description : String) (identity : Nat) : ReachesSymbol (.symbol description identity)
  | item {items : List Value} {v : Value} (hv : v ∈ items) (h : ReachesSymbol v) :
      ReachesSymbol (.array items)

/-! ## Items -/

/-- The text that an item of an array can be read as. -/
def itemText? : Value → Option String
  | undefined => some ""
  | null => some ""
  | item => item.asText?

theorem itemTexts?_cons (item : Value) (items : List Value) :
    itemTexts? (item :: items) =
      item.itemText?.bind fun text => (itemTexts? items).map (text :: ·) := by
  cases item with
  | undefined | null => rfl
  | _ =>
    simp only [itemTexts?, itemText?]
    cases asText? _ <;> cases itemTexts? items <;> rfl

theorem itemText?_of_present {item : Value} (hundefined : item ≠ .undefined)
    (hnull : item ≠ .null) : item.itemText? = item.asText? := by
  cases item with
  | undefined => exact (hundefined rfl).elim
  | null => exact (hnull rfl).elim
  | _ => rfl

/-- An item lacks a text just if it does as a value. -/
theorem itemText?_eq_none_iff {item : Value} : item.itemText? = none ↔ item.asText? = none := by
  cases item with
  | undefined | null => simp [itemText?, asText?]
  | _ => rfl

/-- If what the item is read as is its text, that is so of it as an item. -/
theorem itemText?_eq_some_iff {item : Value} {text : String}
    (h : item.asText? = some text ↔ item.HasText text) :
    item.itemText? = some text ↔ item.HasItemText text := by
  constructor
  · intro htext
    cases item with
    | undefined => cases htext; exact .undefined
    | null => cases htext; exact .null
    | _ => exact .present (by simp) (by simp) (h.1 htext)
  · intro htext
    cases htext with
    | undefined | null => rfl
    | present hundefined hnull htext =>
      rw [itemText?_of_present hundefined hnull]
      exact h.2 htext

/-! ## Reading values as text -/

-- the items of an array are inside a list, so both pairs of theorems go by recursion on the value
-- and on its items
mutual

/-- **What is read is the text of the form.** -/
theorem asText?_eq_some_iff (v : Value) (text : String) :
    v.asText? = some text ↔ v.HasText text := by
  cases v with
  | array items =>
    rw [asText?, Option.map_eq_some_iff]
    constructor
    · rintro ⟨texts, htexts, rfl⟩
      exact .array ((itemTexts?_eq_some_iff items texts).1 htexts)
    · rintro ⟨⟩
      exact ⟨_, (itemTexts?_eq_some_iff items _).2 ‹_›, rfl⟩
  | symbol =>
    constructor
    · rintro ⟨⟩
    · rintro ⟨⟩
  | bool b =>
    constructor
    · rintro ⟨⟩
      cases b
      · exact .false
      · exact .true
    · rintro ⟨⟩ <;> rfl
  | _ =>
    constructor
    · rintro ⟨⟩
      constructor
    · rintro ⟨⟩
      rfl
  termination_by structural v

theorem itemTexts?_eq_some_iff (items : List Value) (texts : List String) :
    itemTexts? items = some texts ↔ List.Forall₂ HasItemText items texts := by
  cases items with
  | nil => simp [itemTexts?, eq_comm]
  | cons item items =>
    rw [itemTexts?_cons, List.forall₂_cons_left_iff]
    simp only [Option.bind_eq_some_iff, Option.map_eq_some_iff]
    constructor
    · rintro ⟨text, htext, texts, htexts, rfl⟩
      exact ⟨text, texts, (itemText?_eq_some_iff (asText?_eq_some_iff item text)).1 htext,
        (itemTexts?_eq_some_iff items texts).1 htexts, rfl⟩
    · rintro ⟨text, texts, htext, htexts, rfl⟩
      exact ⟨text, (itemText?_eq_some_iff (asText?_eq_some_iff item text)).2 htext, texts,
        (itemTexts?_eq_some_iff items texts).2 htexts, rfl⟩
  termination_by structural items

end

mutual

/-- **Nothing is read just if there is a symbol.** -/
theorem asText?_eq_none_iff (v : Value) : v.asText? = none ↔ v.ReachesSymbol := by
  cases v with
  | array items =>
    rw [asText?, Option.map_eq_none_iff, itemTexts?_eq_none_iff items]
    constructor
    · rintro ⟨v, hv, h⟩
      exact .item hv h
    · rintro ⟨⟩
      exact ⟨_, ‹_›, ‹_›⟩
  | symbol description identity => exact ⟨fun _ => .symbol description identity, fun _ => rfl⟩
  | _ =>
    constructor
    · rintro ⟨⟩
    · rintro ⟨⟩
  termination_by structural v

theorem itemTexts?_eq_none_iff (items : List Value) :
    itemTexts? items = none ↔ ∃ v ∈ items, v.ReachesSymbol := by
  cases items with
  | nil => simp [itemTexts?]
  | cons item items =>
    have hrest := itemTexts?_eq_none_iff items
    rw [itemTexts?_cons, List.exists_mem_cons_iff, ← hrest, ← asText?_eq_none_iff item,
      ← itemText?_eq_none_iff]
    cases item.itemText? with
    | none => simp
    | some text => simp
  termination_by structural items

end

end Value

/-! ## Patterns -/

/-- The pattern refuses a value because it has no text. -/
def Pattern.LacksText (p : Pattern) (v : Value) : Prop :=
  p.matchValue v = .error (.mismatch (.of (.pattern p) v (some "value has no string form")))

/-- A text between quotes is not the reason of a value without text. -/
theorem Text.quoted_append_ne (s t : String) :
    Text.quoted s ++ t ≠ "value has no string form" := by
  intro h
  have hhead := congrArg (fun u : String => u.toList.head?) h
  simp [Text.quoted] at hhead

theorem Pattern.lacksText_iff (p : Pattern) (v : Value) : p.LacksText v ↔ v.asText? = none := by
  unfold LacksText matchValue
  cases v.asText? with
  | none => simp
  | some text =>
    simp only [reduceCtorEq, iff_false]
    split
    · simp
    · simp [Mismatch.of, Text.quoted_append_ne]

/-! ## The theorem -/

/-- How a value is read as text. -/
structure TextForm (v : Value) : Prop where
  /-- There is no text just if a symbol is reached through arrays. -/
  none_iff : v.asText? = none ↔ v.ReachesSymbol
  /-- Every pattern refuses such a value for want of a text, and no pattern any other value. -/
  lacksText_iff : ∀ p : Pattern, p.LacksText v ↔ v.ReachesSymbol
  /-- The text is that of the form, in which arrays go into their items. -/
  some_iff : ∀ text, v.asText? = some text ↔ v.HasText text
  /-- A text is its own text. -/
  own : ∀ text, v.asText? = some text → (Value.string text).asText? = some text

/-- **The texts of values.** -/
theorem text_forms (v : Value) : TextForm v where
  none_iff := v.asText?_eq_none_iff
  lacksText_iff p := (p.lacksText_iff v).trans v.asText?_eq_none_iff
  some_iff := v.asText?_eq_some_iff
  own _ _ := rfl

/-- Absent items and null are empty inside arrays only, at any depth; an object hides a symbol. -/
example :
    (Value.array [.null, .array [.undefined, .bool true], .object [("s", .symbol "s" 0)]]).asText? =
        some ",,true,[object Object]" ∧
      Value.null.asText? = some "null" ∧
      (Value.array [.array [.symbol "s" 0]]).asText? = none := by decide +kernel

end CallContract
