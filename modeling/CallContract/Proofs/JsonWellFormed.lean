import CallContract.Document
import CallContract.Proofs.JsonNumbers
import Mathlib.Data.List.Nodup

/-!
# What a reader of JSON answers

A document that is read is well formed (`Json.WellFormed`): it is nested no deeper than the reader
may go, no object names a field twice, and its integers have 64 bits.

The reader takes one round for a value, an item or a member. What is known of all that is read
within some number of rounds (`Json.ReadsWellFormed`) is carried over to one round more, and so
holds of any number of rounds.
-/

namespace CallContract.Json

/-! ## Fields of an object -/

section Fields

variable {α : Type}

theorem putField_names (fields : List (String × α)) (name : String) (value : α) :
    (putField fields name value).map Prod.fst =
      if name ∈ fields.map Prod.fst then fields.map Prod.fst
      else fields.map Prod.fst ++ [name] := by
  have hany : (fields.any fun f => f.1 == name) = true ↔ name ∈ fields.map Prod.fst := by
    simp
  by_cases h : name ∈ fields.map Prod.fst
  · rw [putField, if_pos (hany.2 h), if_pos h, List.map_map]
    refine List.map_congr_left fun f _ => ?_
    by_cases hf : f.1 = name <;> simp [hf]
  · rw [putField, if_neg (mt hany.1 h), if_neg h]
    simp

theorem mem_of_mem_putField {fields : List (String × α)} {name : String} {value : α}
    {f : String × α} (h : f ∈ putField fields name value) : f ∈ fields ∨ f = (name, value) := by
  rw [putField] at h
  split at h
  case isTrue =>
    obtain ⟨g, hg, rfl⟩ := List.mem_map.1 h
    split
    case isTrue => exact .inr rfl
    case isFalse => exact .inl hg
  case isFalse => simpa using h

theorem putField_of_notMem {fields : List (String × α)} {name : String}
    (h : name ∉ fields.map Prod.fst) (value : α) :
    putField fields name value = fields ++ [(name, value)] := by
  rw [putField, if_neg]
  simpa using h

theorem lastFields_concat (members : List (String × α)) (m : String × α) :
    lastFields (members ++ [m]) = putField (lastFields members) m.1 m.2 := by
  simp [lastFields]

/-- **No two fields of an object have the same name.** -/
theorem nodup_lastFields (members : List (String × α)) :
    ((lastFields members).map Prod.fst).Nodup := by
  induction members using List.reverseRecOn with
  | nil => exact List.nodup_nil
  | append_singleton members m ih =>
    rw [lastFields_concat, putField_names]
    split
    case isTrue => exact ih
    case isFalse hm => exact List.concat_eq_append ▸ ih.concat hm

theorem mem_of_mem_lastFields {members : List (String × α)} {f : String × α}
    (h : f ∈ lastFields members) : f ∈ members := by
  induction members using List.reverseRecOn with
  | nil => exact h
  | append_singleton members m ih =>
    rw [lastFields_concat] at h
    rcases mem_of_mem_putField h with h | rfl
    · exact List.mem_append_left _ (ih h)
    · simp

/-- Fields of distinct names are kept as they are. -/
theorem lastFields_of_nodup {members : List (String × α)} (h : (members.map Prod.fst).Nodup) :
    lastFields members = members := by
  induction members using List.reverseRecOn with
  | nil => rfl
  | append_singleton members m ih =>
    rw [List.map_append, List.nodup_append] at h
    obtain ⟨hmembers, -, hm⟩ := h
    rw [lastFields_concat, ih hmembers, putField_of_notMem]
    exact fun hmem => hm _ hmem _ (by simp) rfl

end Fields

/-! ## Well-formed documents -/

mutual

/-- The numbers in a document. -/
def numbers : Json → List JsonNumber
  | number n => [n]
  | array items => itemNumbers items
  | object fields => fieldNumbers fields
  | _ => []

/-- The numbers in the items of an array. -/
def itemNumbers : List Json → List JsonNumber
  | [] => []
  | item :: items => numbers item ++ itemNumbers items

/-- The numbers in the fields of an object. -/
def fieldNumbers : List (String × Json) → List JsonNumber
  | [] => []
  | (_, value) :: fields => numbers value ++ fieldNumbers fields

end

theorem itemNumbers_eq (items : List Json) : itemNumbers items = items.flatMap numbers := by
  induction items with
  | nil => rfl
  | cons item items ih => rw [itemNumbers, ih, List.flatMap_cons]

theorem fieldNumbers_eq (fields : List (String × Json)) :
    fieldNumbers fields = fields.flatMap fun f => f.2.numbers := by
  induction fields with
  | nil => rfl
  | cons f fields ih => rw [fieldNumbers, ih, List.flatMap_cons]

/-- The document is one that can be read: it has no more levels of nesting than the given number, no
object names a field twice, and integers have 64 bits. -/
inductive WellFormed : Nat → Json → Prop
  | null (depth : Nat) : WellFormed depth null
  | bool (depth : Nat) (b : Bool) : WellFormed depth (bool b)
  | number {depth : Nat} {n : JsonNumber} : n.InRange → WellFormed depth (number n)
  | string (depth : Nat) (s : String) : WellFormed depth (string s)
  | array {depth : Nat} {items : List Json} :
      (∀ item ∈ items, WellFormed depth item) → WellFormed (depth + 1) (array items)
  | object {depth : Nat} {fields : List (String × Json)} :
      (fields.map Prod.fst).Nodup → (∀ f ∈ fields, WellFormed depth f.2) →
      WellFormed (depth + 1) (object fields)

/-- Its integers have 64 bits, wherever they stand. -/
theorem WellFormed.inRange {depth : Nat} {j : Json} (h : j.WellFormed depth) :
    ∀ n ∈ j.numbers, n.InRange := by
  induction h with
  | null | bool | string => exact fun n hn => absurd hn List.not_mem_nil
  | number hn => exact fun n hmem => List.mem_singleton.1 hmem ▸ hn
  | array _ ih =>
    intro n hn
    rw [numbers, itemNumbers_eq] at hn
    obtain ⟨item, hitem, hn⟩ := List.mem_flatMap.1 hn
    exact ih item hitem n hn
  | object _ _ ih =>
    intro n hn
    rw [numbers, fieldNumbers_eq] at hn
    obtain ⟨f, hf, hn⟩ := List.mem_flatMap.1 hn
    exact ih f hf n hn

/-! ## What a reader answers -/

theorem ReadMode.deeper?_eq_some {mode inner : ReadMode} (h : mode.deeper? = some inner) :
    mode.depth = inner.depth + 1 ∧ inner.lenient = mode.lenient := by
  obtain ⟨lenient, depth⟩ := mode
  cases depth with
  | zero => cases h
  | succ depth => cases h; exact ⟨rfl, rfl⟩

theorem readWord_eq_some {word cs rest : List Char} {value j : Json}
    (h : readWord word value cs = some (j, rest)) : j = value := by
  rw [readWord] at h
  split at h <;> cases h
  rfl

theorem wellFormed_of_readNumber {cs rest : List Char} {j : Json} {depth : Nat}
    (h : readNumber false cs = some (j, rest)) : j.WellFormed depth := by
  simp only [readNumber, Option.bind_eq_bind, Option.bind_eq_some_iff] at h
  obtain ⟨⟨parts, left⟩, -, h⟩ := h
  split at h
  case h_1 n hn => cases h; exact .number (NumberParts.number?_inRange hn)
  case h_2 => cases h

/-- One round of the reader for items: an item, and more items or the end. -/
theorem readItems_eq_some {fuel : Nat} {mode : ReadMode} {cs rest : List Char} {items : List Json}
    (h : readItems (fuel + 1) mode cs = some (items, rest)) :
    ∃ item left, readValue fuel mode cs = some (item, left) ∧
      (items = [item] ∨
        ∃ r more, readItems fuel mode r = some (more, rest) ∧ items = item :: more) := by
  rw [readItems] at h
  split at h
  case h_1 => cases h
  case h_2 item left hitem =>
    refine ⟨item, left, hitem, ?_⟩
    split at h
    case h_1 r _ =>
      obtain ⟨⟨more, rest'⟩, hmore, hitems⟩ := Option.map_eq_some_iff.1 h
      cases hitems
      exact .inr ⟨r, more, hmore, rfl⟩
    case h_2 => cases h; exact .inl rfl
    case h_3 => cases h

/-- One round of the reader for members: a member, and more members or the end. -/
theorem readMembers_eq_some {fuel : Nat} {lenientNames : Bool} {modeOf : String → ReadMode}
    {cs rest : List Char} {members : List (String × Json)}
    (h : readMembers (fuel + 1) lenientNames modeOf cs = some (members, rest)) :
    ∃ name value r left, readValue fuel (modeOf name) r = some (value, left) ∧
      (members = [(name, value)] ∨
        ∃ r more, readMembers fuel lenientNames modeOf r = some (more, rest) ∧
          members = (name, value) :: more) := by
  rw [readMembers] at h
  split at h
  case h_2 => cases h
  split at h
  case h_1 => cases h
  case h_2 name _ _ =>
  split at h
  case h_2 => cases h
  case h_1 r _ =>
  split at h
  case h_1 => cases h
  case h_2 value left hvalue =>
    refine ⟨_, value, r, left, hvalue, ?_⟩
    split at h
    case h_1 r _ =>
      obtain ⟨⟨more, rest'⟩, hmore, hmembers⟩ := Option.map_eq_some_iff.1 h
      cases hmembers
      exact .inr ⟨r, more, hmore, rfl⟩
    case h_2 => cases h; exact .inl rfl
    case h_3 => cases h

/-- Values, items and members that are read within some number of rounds are well formed. -/
structure ReadsWellFormed (fuel : Nat) : Prop where
  value : ∀ {mode cs j rest}, mode.lenient = false → readValue fuel mode cs = some (j, rest) →
    j.WellFormed mode.depth
  items : ∀ {mode cs items rest}, mode.lenient = false →
    readItems fuel mode cs = some (items, rest) → ∀ item ∈ items, item.WellFormed mode.depth
  members : ∀ {lenientNames modeOf cs members rest}, (∀ name, (modeOf name).lenient = false) →
    readMembers fuel lenientNames modeOf cs = some (members, rest) →
    ∀ m ∈ members, m.2.WellFormed (modeOf m.1).depth

theorem ReadsWellFormed.succ_value {fuel : Nat} (ih : ReadsWellFormed fuel) {mode : ReadMode}
    {cs rest : List Char} {j : Json} (hmode : mode.lenient = false)
    (h : readValue (fuel + 1) mode cs = some (j, rest)) : j.WellFormed mode.depth := by
  rw [readValue] at h
  split at h
  case h_1 => cases h
  case h_2 => exact readWord_eq_some h ▸ .null _
  case h_3 => exact readWord_eq_some h ▸ .bool _ _
  case h_4 => exact readWord_eq_some h ▸ .bool _ _
  case h_5 =>
    obtain ⟨_, -, hj⟩ := Option.map_eq_some_iff.1 h
    cases hj
    exact .string _ _
  case h_6 =>
    split at h
    case h_1 => cases h
    case h_2 deeper _ hdeeper _ =>
      cases h
      rw [(ReadMode.deeper?_eq_some hdeeper).1]
      exact .array (fun item hitem => absurd hitem List.not_mem_nil)
    case h_3 deeper _ hdeeper _ =>
      obtain ⟨hdepth, hlenient⟩ := ReadMode.deeper?_eq_some hdeeper
      obtain ⟨⟨items, _⟩, hitems, hj⟩ := Option.map_eq_some_iff.1 h
      cases hj
      rw [hdepth]
      exact .array (ih.items (hlenient.trans hmode) hitems)
  case h_7 =>
    split at h
    case h_1 => cases h
    case h_2 deeper _ hdeeper _ =>
      cases h
      rw [(ReadMode.deeper?_eq_some hdeeper).1]
      exact .object List.nodup_nil (fun f hf => absurd hf List.not_mem_nil)
    case h_3 deeper _ hdeeper _ =>
      obtain ⟨hdepth, hlenient⟩ := ReadMode.deeper?_eq_some hdeeper
      obtain ⟨⟨members, _⟩, hmembers, hj⟩ := Option.map_eq_some_iff.1 h
      cases hj
      rw [hdepth]
      refine .object (nodup_lastFields members) fun f hf => ?_
      exact ih.members (fun _ => hlenient.trans hmode) hmembers f (mem_of_mem_lastFields hf)
  case h_8 =>
    rw [hmode] at h
    exact wellFormed_of_readNumber h

/-- **What is read is well formed.** -/
theorem readsWellFormed (fuel : Nat) : ReadsWellFormed fuel := by
  induction fuel with
  | zero =>
    constructor
    · intro _ _ _ _ _ h; cases h
    · intro _ _ _ _ _ h; cases h
    · intro _ _ _ _ _ _ h; cases h
  | succ fuel ih =>
    refine ⟨ih.succ_value, fun hmode h => ?_, fun hmode h => ?_⟩
    · obtain ⟨item, left, hitem, rfl | ⟨r, more, hmore, rfl⟩⟩ := readItems_eq_some h
      · exact List.forall_mem_singleton.2 (ih.value hmode hitem)
      · exact List.forall_mem_cons.2 ⟨ih.value hmode hitem, ih.items hmode hmore⟩
    · obtain ⟨name, value, r, left, hvalue, rfl | ⟨r', more, hmore, rfl⟩⟩ := readMembers_eq_some h
      · exact List.forall_mem_singleton.2 (ih.value (hmode name) hvalue)
      · exact List.forall_mem_cons.2 ⟨ih.value (hmode name) hvalue, ih.members hmode hmore⟩

theorem atEnd_eq_some {α : Type} {answer : Option (α × List Char)} {a : α}
    (h : atEnd answer = some a) : ∃ rest, answer = some (a, rest) := by
  match answer, h with
  | some (b, rest), h =>
    obtain ⟨-, hb⟩ := Option.ite_none_right_eq_some.1 h
    exact ⟨rest, Option.some.inj hb ▸ rfl⟩

theorem wellFormed_of_readObject? {modeOf : String → ReadMode} {text : String}
    {members : List (String × Json)} (hmode : ∀ name, (modeOf name).lenient = false)
    (h : readObject? modeOf text = some members) :
    ∀ m ∈ members, m.2.WellFormed (modeOf m.1).depth := by
  rw [readObject?] at h
  split at h
  case h_2 => cases h
  case h_1 =>
    split at h
    case h_1 =>
      obtain ⟨_, hnone⟩ := atEnd_eq_some h
      cases hnone
      exact fun m hm => absurd hm List.not_mem_nil
    case h_2 =>
      obtain ⟨_, hmembers⟩ := atEnd_eq_some h
      exact (readsWellFormed _).members hmode hmembers

end CallContract.Json
