import CallContract.Proofs.Dict

/-!
# Places

The four calling conventions check the same thing: a list of places, each a slot with a descriptor,
against a bag, in which every slot has a value. This file gives the two views, `Schema.places` and
`Bag.valueAt`, and says what one place makes of one value: it admits the value and has one to keep
(`Descriptor.Admits`), or it refuses it with an error (`Descriptor.Refuses`). `checkSlot` decides
between the two (`checkSlot_eq_ok_iff`, `checkSlot_eq_error_iff`).

A bag is determined by its shape and by the values in its slots (`Bag.ext_valueAt`).
-/

namespace CallContract

theorem Value.isUndefined_iff {v : Value} : v.isUndefined ↔ v = .undefined := by
  cases v <;> simp [Value.isUndefined]

theorem Value.isUndefined_eq_false {v : Value} : v.isUndefined = false ↔ v ≠ .undefined := by
  rw [← Bool.not_eq_true, Value.isUndefined_iff]

/-! ## The places of a schema -/

/-- A declared place: where a value is expected, and what value. -/
structure Place where
  slot : Slot
  descriptor : Descriptor

/-- The place of a field. -/
def Field.place (f : Field) : Place := { slot := .field f.name, descriptor := f.descriptor }

/-- The places of some positions, counted from the given index. -/
def positionPlaces (index : Nat) : List Descriptor → List Place
  | [] => []
  | d :: ds => { slot := .position index, descriptor := d } :: positionPlaces (index + 1) ds

/-- The places of a schema, in the order in which they are checked. -/
def Schema.places : Schema → List Place
  | object fields => fields.map Field.place
  | positional ds => positionPlaces 0 ds
  | single field => [field.place]
  | zeroArg => []

/-- No name is declared twice. -/
def Schema.NamesDistinct : Schema → Prop
  | object fields => (fields.map Field.name).Nodup
  | _ => True

theorem mem_positionPlaces {index : Nat} {ds : List Descriptor} {p : Place} :
    p ∈ positionPlaces index ds ↔
      ∃ i d, ds[i]? = some d ∧ p = { slot := .position (index + i), descriptor := d } := by
  induction ds generalizing index with
  | nil => simp [positionPlaces]
  | cons d ds ih =>
    rw [positionPlaces, List.mem_cons, ih]
    constructor
    · rintro (rfl | ⟨i, d', hd, rfl⟩)
      · exact ⟨0, d, rfl, rfl⟩
      · exact ⟨i + 1, d', by simpa using hd, by rw [Nat.add_assoc, Nat.add_comm 1]⟩
    · rintro ⟨i, d', hd, rfl⟩
      cases i with
      | zero => exact .inl (by simp_all)
      | succ i => exact .inr ⟨i, d', by simpa using hd, by rw [Nat.add_assoc, Nat.add_comm 1]⟩

theorem nodup_positionPlaces (index : Nat) (ds : List Descriptor) :
    ((positionPlaces index ds).map Place.slot).Nodup := by
  induction ds generalizing index with
  | nil => simp [positionPlaces]
  | cons d ds ih =>
    rw [positionPlaces, List.map_cons, List.nodup_cons]
    refine ⟨fun hmem => ?_, ih (index + 1)⟩
    obtain ⟨p, hp, hslot⟩ := List.mem_map.1 hmem
    obtain ⟨i, d', -, rfl⟩ := mem_positionPlaces.1 hp
    simp only [Slot.position.injEq] at hslot
    omega

theorem nodup_fieldPlaces {fields : List Field} (h : (fields.map Field.name).Nodup) :
    ((fields.map Field.place).map Place.slot).Nodup := by
  rw [List.map_map]
  have hslot : Place.slot ∘ Field.place = Slot.field ∘ Field.name := rfl
  rw [hslot, ← List.map_map]
  exact List.Pairwise.map Slot.field (fun a b hne heq => hne (Slot.field.inj heq)) h

/-- **The slots of a schema are distinct if its names are.** -/
theorem Schema.nodup_slots {s : Schema} (h : s.NamesDistinct) :
    (s.places.map Place.slot).Nodup := by
  cases s with
  | object fields => exact nodup_fieldPlaces h
  | positional ds => exact nodup_positionPlaces 0 ds
  | single field => simp [places]
  | zeroArg => simp [places]

/-! ## The values of a bag -/

namespace Bag

/-- The value in a slot; a missing one counts as undefined. -/
def valueAt : Bag → Slot → Value
  | named fields, .field name => fields.valueOf name
  | ordered values, .position i => values[i]?.getD .undefined
  | _, _ => .undefined

/-- The same names have values, or the same number of positions. -/
def SameShape : Bag → Bag → Prop
  | named a, named b => ∀ name, a.contains name = b.contains name
  | ordered a, ordered b => a.length = b.length
  | _, _ => False

theorem SameShape.refl (a : Bag) : a.SameShape a := by
  cases a with
  | named fields => exact fun _ => rfl
  | ordered values => exact rfl

theorem SameShape.trans {a b c : Bag} (hab : a.SameShape b) (hbc : b.SameShape c) :
    a.SameShape c := by
  cases a <;> cases b <;> cases c <;> simp_all [SameShape]

theorem SameShape.symm {a b : Bag} (h : a.SameShape b) : b.SameShape a := by
  cases a <;> cases b <;> simp_all [SameShape]

/-- **Shape and values determine a bag.** -/
theorem ext_valueAt {a b : Bag} (hshape : a.SameShape b)
    (h : ∀ slot, a.valueAt slot = b.valueAt slot) : a = b := by
  match a, b with
  | named a, named b =>
    congr 1
    refine Dict.ext_get? fun name => ?_
    have hsome : (a.get? name).isSome = (b.get? name).isSome := hshape name
    have hvalue : (a.get? name).getD .undefined = (b.get? name).getD .undefined := h (.field name)
    cases ha : a.get? name <;> cases hb : b.get? name <;> simp_all
  | ordered a, ordered b =>
    have hlen : a.length = b.length := hshape
    congr 1
    refine List.ext_getElem hlen fun i hia hib => ?_
    have hvalue : a[i]?.getD .undefined = b[i]?.getD .undefined := h (.position i)
    simpa [hia, hib] using hvalue
  | named _, ordered _ => exact hshape.elim
  | ordered _, named _ => exact hshape.elim

/-- The second bag is the first one with a value put into a slot, and nothing else changed. -/
structure Puts (before : Bag) (slot : Slot) (v : Value) (after : Bag) : Prop where
  self : after.valueAt slot = v
  others : ∀ other, other ≠ slot → after.valueAt other = before.valueAt other
  shape : after.SameShape before

end Bag

/-! ## One value in one place -/

namespace Descriptor

/-- In a place with this descriptor the first value is acceptable, and the second one is to be kept
for it. An absent value stays absent; a value that is present is kept in its canonical form. -/
inductive Admits (d : Descriptor) : Value → Value → Prop
  | absent : d.permitsAbsence = true → Admits d .undefined .undefined
  | matched {v : Value} {m : Matched} :
      v.isUndefined = false → (d.matchValue v).result = .ok m → Admits d v (m.keep v)

/-- In the given slot, with this descriptor, the value is not acceptable, for the given reason. -/
inductive Refuses (d : Descriptor) (slot : Slot) : Value → CallError → Prop
  | missing : d.permitsAbsence = false → Refuses d slot .undefined (.missingRequired slot)
  | unmatched {v : Value} {e : MatchError} :
      v.isUndefined = false → (d.matchValue v).result = .error e → Refuses d slot v (e.at slot)

end Descriptor

theorem checkSlot_undefined (slot : Slot) (d : Descriptor) :
    (checkSlot slot d .undefined).result =
      if d.permitsAbsence then .ok .undefined else .error (.missingRequired slot) := rfl

theorem checkSlot_present (slot : Slot) (d : Descriptor) {v : Value} (hv : v.isUndefined = false) :
    (checkSlot slot d v).result =
      match (d.matchValue v).result with
      | .ok m => .ok (m.keep v)
      | .error e => .error (e.at slot) := by
  cases hmatch : (d.matchValue v).result <;> simp [checkSlot, hv, hmatch]

theorem checkSlot_eq_ok_iff {slot : Slot} {d : Descriptor} {v w : Value} :
    (checkSlot slot d v).result = .ok w ↔ d.Admits v w := by
  constructor
  · intro h
    cases hv : v.isUndefined with
    | true =>
      obtain rfl := Value.isUndefined_iff.1 hv
      rw [checkSlot_undefined] at h
      split at h
      case isTrue habs => cases h; exact .absent habs
      case isFalse => cases h
    | false =>
      rw [checkSlot_present slot d hv] at h
      split at h
      case h_1 m hm => cases h; exact .matched hv hm
      case h_2 => cases h
  · intro h
    cases h with
    | absent habs => rw [checkSlot_undefined, if_pos habs]
    | matched hv hm => rw [checkSlot_present slot d hv, hm]

theorem checkSlot_eq_error_iff {slot : Slot} {d : Descriptor} {v : Value} {e : CallError} :
    (checkSlot slot d v).result = .error e ↔ d.Refuses slot v e := by
  constructor
  · intro h
    cases hv : v.isUndefined with
    | true =>
      obtain rfl := Value.isUndefined_iff.1 hv
      rw [checkSlot_undefined] at h
      split at h
      case isTrue => cases h
      case isFalse habs => cases h; exact .missing (Bool.eq_false_iff.2 habs)
    | false =>
      rw [checkSlot_present slot d hv] at h
      split at h
      case h_1 => cases h
      case h_2 e he => cases h; exact .unmatched hv he
  · intro h
    cases h with
    | missing habs => rw [checkSlot_undefined, habs]; rfl
    | unmatched hv he => rw [checkSlot_present slot d hv, he]

namespace Descriptor

theorem Admits.unique {d : Descriptor} {v w w' : Value} (h : d.Admits v w) (h' : d.Admits v w') :
    w = w' := by
  rw [← @checkSlot_eq_ok_iff .result] at h h'
  exact Except.ok.inj (h.symm.trans h')

theorem Refuses.unique {d : Descriptor} {slot : Slot} {v : Value} {e e' : CallError}
    (h : d.Refuses slot v e) (h' : d.Refuses slot v e') : e = e' := by
  rw [← checkSlot_eq_error_iff] at h h'
  exact Except.error.inj (h.symm.trans h')

theorem Refuses.not_admits {d : Descriptor} {slot : Slot} {v w : Value} {e : CallError}
    (h : d.Refuses slot v e) : ¬ d.Admits v w := by
  intro h'
  rw [← checkSlot_eq_error_iff] at h
  rw [← @checkSlot_eq_ok_iff slot, h] at h'
  cases h'

end Descriptor

end CallContract
