import CallContract.Proofs.Place

/-!
# Runs over places

A validation goes over the places of its schema, reads each value from the bag and writes the value
to keep back into it. `PlaceRun` says what comes of it without any such writing: the places are cut
in two; those before the cut admit the values of the bag **as it was supplied**, and their slots
hold the values to keep; the first one after the cut refuses its value and ends the run; no other
slot is touched.

The invariant is found by going backwards through the loop (`PlaceRun.cons`): a write to one slot
changes nothing that later places read, because their slots are others. Both loops follow it
(`validateFields_run`, `validatePositions_run`), and a run determines its result
(`PlaceRun.unique`). Main result: `Schema.validate_run`.
-/

namespace CallContract

/-- How a validation goes over some places and leaves the bag. -/
structure PlaceRun (places : List Place) (before : Bag) (r : Validated Bag)
    (passed left : List Place) : Prop where
  order : places = passed ++ left
  /-- Each place before the cut admits the value that was supplied. -/
  admitted : ∀ p ∈ passed, p.descriptor.Admits (before.valueAt p.slot) (r.bag.valueAt p.slot)
  untouched : ∀ slot, (∀ p ∈ passed, p.slot ≠ slot) → r.bag.valueAt slot = before.valueAt slot
  shape : r.bag.SameShape before
  completed : left = [] → r.outcome = .ok ()
  /-- The first place after the cut refuses the value that was supplied. -/
  refused : ∀ p rest, left = p :: rest →
    ∃ e, p.descriptor.Refuses p.slot (before.valueAt p.slot) e ∧ r.outcome = .error e

namespace PlaceRun

variable {places passed left : List Place} {before mid : Bag} {r : Validated Bag} {p : Place}

/-! ## The steps of a run -/

theorem nil (bag : Bag) : PlaceRun [] bag { bag, outcome := .ok () } [] [] where
  order := rfl
  admitted := by simp
  untouched := fun _ _ => rfl
  shape := .refl bag
  completed := fun _ => rfl
  refused := by simp

/-- A run ends at the first place that refuses its value. -/
theorem stop {e : CallError} (h : p.descriptor.Refuses p.slot (before.valueAt p.slot) e) :
    PlaceRun (p :: places) before { bag := before, outcome := .error e } [] (p :: places) where
  order := rfl
  admitted := by simp
  untouched := fun _ _ => rfl
  shape := .refl before
  completed := by simp
  refused := by
    intro q rest hq
    obtain ⟨rfl, rfl⟩ := List.cons.inj hq
    exact ⟨e, h, rfl⟩

/-- **One step.** What a run from the bag after a write has made of the other places, it has made of
them as they were before the write. -/
theorem cons {w : Value} (hdistinct : ∀ q ∈ places, q.slot ≠ p.slot)
    (hadmits : p.descriptor.Admits (before.valueAt p.slot) w) (hputs : before.Puts p.slot w mid)
    (hrun : PlaceRun places mid r passed left) :
    PlaceRun (p :: places) before r (p :: passed) left where
  order := by rw [hrun.order, List.cons_append]
  admitted := by
    have hsub : ∀ q ∈ passed, q ∈ places := fun q hq => by
      rw [hrun.order]; exact List.mem_append_left _ hq
    intro q hq
    rcases List.mem_cons.1 hq with rfl | hq
    · rw [hrun.untouched q.slot fun q' hq' => hdistinct q' (hsub q' hq'), hputs.self]
      exact hadmits
    · rw [← hputs.others q.slot (hdistinct q (hsub q hq))]
      exact hrun.admitted q hq
  untouched := by
    intro slot hslot
    rw [hrun.untouched slot fun q hq => hslot q (List.mem_cons_of_mem _ hq)]
    exact hputs.others slot (hslot p List.mem_cons_self).symm
  shape := hrun.shape.trans hputs.shape
  completed := hrun.completed
  refused := by
    intro q rest hq
    have hmem : q ∈ places := by rw [hrun.order, hq]; simp
    rw [← hputs.others q.slot (hdistinct q hmem)]
    exact hrun.refused q rest hq

/-! ## A run determines its result -/

/-- The places are cut before the first one that refuses its value. -/
structure Cut (places : List Place) (bag : Bag) (passed left : List Place) : Prop where
  order : places = passed ++ left
  accepted : ∀ p ∈ passed, ∃ w, p.descriptor.Admits (bag.valueAt p.slot) w
  stopped : ∀ p rest, left = p :: rest →
    ∃ e, p.descriptor.Refuses p.slot (bag.valueAt p.slot) e

/-- Of two cuts neither is further: the place where the first one ends would have to be accepted by
the second one. -/
theorem Cut.isPrefix {passed' left' : List Place} (h : Cut places before passed left)
    (h' : Cut places before passed' left') : passed' <+: passed := by
  have happend : passed ++ left = passed' ++ left' := h.order.symm.trans h'.order
  rcases List.append_eq_append_iff.1 happend with ⟨more, rfl, hleft⟩ | ⟨more, rfl, -⟩
  · cases more with
    | nil => simp
    | cons q more =>
      obtain ⟨e, he⟩ := h.stopped q _ hleft
      obtain ⟨w, hw⟩ := h'.accepted q (by simp)
      exact (he.not_admits hw).elim
  · exact ⟨more, rfl⟩

theorem Cut.unique {passed' left' : List Place} (h : Cut places before passed left)
    (h' : Cut places before passed' left') : passed = passed' ∧ left = left' := by
  have hpassed : passed = passed' :=
    (h'.isPrefix h).eq_of_length_le (h.isPrefix h').length_le
  subst hpassed
  exact ⟨rfl, List.append_cancel_left (h.order.symm.trans h'.order)⟩

theorem cut (h : PlaceRun places before r passed left) : Cut places before passed left where
  order := h.order
  accepted := fun p hp => ⟨_, h.admitted p hp⟩
  stopped := fun p rest hleft => (h.refused p rest hleft).imp fun _ => And.left

/-- **A run determines its result.** -/
theorem unique {r' : Validated Bag} {passed' left' : List Place}
    (h : PlaceRun places before r passed left) (h' : PlaceRun places before r' passed' left') :
    r = r' := by
  obtain ⟨rfl, rfl⟩ := h.cut.unique h'.cut
  have hbag : r.bag = r'.bag := by
    refine Bag.ext_valueAt (h.shape.trans h'.shape.symm) fun slot => ?_
    by_cases hslot : ∃ p ∈ passed, p.slot = slot
    · obtain ⟨p, hp, rfl⟩ := hslot
      exact (h.admitted p hp).unique (h'.admitted p hp)
    · have hne : ∀ p ∈ passed, p.slot ≠ slot := fun p hp heq => hslot ⟨p, hp, heq⟩
      rw [h.untouched slot hne, h'.untouched slot hne]
  have houtcome : r.outcome = r'.outcome := by
    cases left with
    | nil => rw [h.completed rfl, h'.completed rfl]
    | cons p rest =>
      obtain ⟨e, he, hr⟩ := h.refused p rest rfl
      obtain ⟨e', he', hr'⟩ := h'.refused p rest rfl
      rw [hr, hr', he.unique he']
  cases r
  cases r'
  simp_all

end PlaceRun

/-! ## Named bags -/

theorem Dict.keep_puts (fields : Dict Value) {f : Field} {w : Value}
    (h : f.descriptor.Admits (fields.valueOf f.name) w) :
    (Bag.named fields).Puts f.place.slot w (.named (fields.keep f.name w)) where
  self := by
    simp only [Bag.valueAt, Field.place, Dict.valueOf, Dict.get?_keep, if_pos]
    cases hget : fields.get? f.name with
    | some v => rfl
    | none =>
      -- A field that is missing is admitted as absent, and stays missing.
      simp only [Dict.valueOf, hget, Option.getD_none] at h
      cases h with
      | absent => rfl
      | matched hv => simp [Value.isUndefined] at hv
  others := by
    intro slot hslot
    cases slot with
    | field name => exact Dict.valueOf_keep_of_ne (fun heq => hslot (by rw [heq]; rfl)) w
    | position i => rfl
    | result => rfl
  shape := fun name => Dict.isSome_get?_keep fields f.name name w

theorem validateFields_run {fields : List Field} (h : (fields.map Field.name).Nodup)
    (values : Dict Value) :
    ∃ passed left, PlaceRun (fields.map Field.place) (.named values)
      { bag := .named (validateFields fields values).result.bag
        outcome := (validateFields fields values).result.outcome } passed left := by
  induction fields generalizing values with
  | nil => exact ⟨[], [], .nil _⟩
  | cons f fs ih =>
    have ⟨hf, hfs⟩ := List.nodup_cons.1 h
    have hdistinct : ∀ q ∈ fs.map Field.place, q.slot ≠ f.place.slot := by
      intro q hq heq
      obtain ⟨g, hg, rfl⟩ := List.mem_map.1 hq
      exact hf (Slot.field.inj heq ▸ List.mem_map_of_mem hg)
    simp only [validateFields, Traced.result_bind, List.map_cons]
    cases hcheck : (checkSlot (.field f.name) f.descriptor (values.valueOf f.name)).result with
    | ok w =>
      have hadmits := checkSlot_eq_ok_iff.1 hcheck
      obtain ⟨passed, left, hrun⟩ := ih hfs (values.keep f.name w)
      exact ⟨_, left, hrun.cons hdistinct hadmits (values.keep_puts hadmits)⟩
    | error e => exact ⟨[], _, .stop (checkSlot_eq_error_iff.1 hcheck)⟩

/-! ## Ordered bags -/

theorem Bag.put_ordered (before after : List Value) (v w : Value) :
    (Bag.ordered (before ++ v :: after)).Puts (.position before.length) w
      (.ordered (before ++ [w] ++ after)) where
  self := by simp [Bag.valueAt]
  others := by
    intro slot hslot
    cases slot with
    | position i =>
      have hi : i ≠ before.length := fun heq => hslot (by rw [heq])
      simp only [Bag.valueAt, List.append_assoc, List.cons_append, List.nil_append,
        List.getElem?_append, List.getElem?_cons]
      by_cases hlt : i < before.length
      · simp [hlt]
      · have hne : i - before.length ≠ 0 := by omega
        simp [hlt, hne]
    | field name => rfl
    | result => rfl
  shape := by simp [Bag.SameShape]

/-- The values before the ones that are left to check go along with the run. -/
theorem validatePositions_run (ds : List Descriptor) (before values : List Value)
    (h : ds.length ≤ values.length) :
    let r := (validatePositions before.length ds values).result
    ∃ passed left, PlaceRun (positionPlaces before.length ds) (.ordered (before ++ values))
      { bag := .ordered (before ++ r.bag), outcome := r.outcome } passed left := by
  induction ds generalizing before values with
  | nil => cases values <;> exact ⟨[], [], .nil _⟩
  | cons d ds ih =>
    cases values with
    | nil => simp at h
    | cons v values =>
      have hdistinct : ∀ q ∈ positionPlaces (before.length + 1) ds,
          q.slot ≠ .position before.length := by
        intro q hq heq
        obtain ⟨i, d', -, rfl⟩ := mem_positionPlaces.1 hq
        have := Slot.position.inj heq
        omega
      have hvalue :
          (Bag.ordered (before ++ v :: values)).valueAt (.position before.length) = v := by
        simp [Bag.valueAt]
      simp only [validatePositions, Traced.result_bind, positionPlaces]
      cases hcheck : (checkSlot (.position before.length) d v).result with
      | ok w =>
        have hadmits := checkSlot_eq_ok_iff.1 hcheck
        obtain ⟨passed, left, hrun⟩ := ih (before ++ [w]) values (by simpa using h)
        simp only [List.length_append, List.length_singleton, List.append_assoc,
          List.singleton_append] at hrun
        refine ⟨_, left, hrun.cons hdistinct (by rwa [hvalue]) ?_⟩
        simpa using Bag.put_ordered before values v w
      | error e =>
        refine ⟨[], _, .stop ?_⟩
        rw [hvalue]
        exact checkSlot_eq_error_iff.1 hcheck

/-! ## Schemas -/

namespace Schema

/-- The bag has the form that the schema expects, with a value for each position. -/
def Fits : Schema → Bag → Prop
  | object _, .named _ => True
  | positional ds, .ordered values => ds.length ≤ values.length
  | single _, .named _ => True
  | zeroArg, .ordered values => values = []
  | _, _ => False

theorem Fits.of_sameShape {s : Schema} {a b : Bag} (h : s.Fits a) (hshape : b.SameShape a) :
    s.Fits b := by
  cases s <;> cases a <;> cases b <;> simp_all [Fits, Bag.SameShape]

/-- **A validation is a run over the places of its schema.** -/
theorem validate_run {s : Schema} (hnames : s.NamesDistinct) {bag : Bag} (hfits : s.Fits bag) :
    ∃ passed left, PlaceRun s.places bag (s.validate bag).result passed left := by
  match s, bag with
  | object fields, .named values => exact validateFields_run hnames values
  | single field, .named values => exact @validateFields_run [field] (by simp) values
  | positional ds, .ordered values =>
    have hlen : ¬ values.length < ds.length := Nat.not_lt.2 hfits
    simp only [validate, validateOrdered, if_neg hlen, Traced.result_map]
    exact validatePositions_run ds [] values hfits
  | zeroArg, .ordered values =>
    obtain rfl : values = [] := hfits
    exact ⟨[], [], .nil _⟩
  | object _, .ordered _ => exact hfits.elim
  | single _, .ordered _ => exact hfits.elim
  | positional _, .named _ => exact hfits.elim
  | zeroArg, .named _ => exact hfits.elim

/-- A bag that does not fit is left as it is, and refused before any of its values is looked at. -/
theorem validate_of_not_fits {s : Schema} {bag : Bag} (h : ¬ s.Fits bag) :
    ∃ e, (s.validate bag).result = { bag, outcome := .error e } := by
  match s, bag with
  | object fields, .named values => exact (h trivial).elim
  | single field, .named values => exact (h trivial).elim
  | positional ds, .ordered values =>
    have hlen : values.length < ds.length := Nat.not_le.1 h
    simp only [validate, validateOrdered, if_pos hlen, Traced.result_map]
    exact ⟨_, rfl⟩
  | zeroArg, .ordered (v :: values) => exact ⟨_, rfl⟩
  | zeroArg, .ordered [] => exact (h rfl).elim
  | object _, .ordered _ => exact ⟨_, rfl⟩
  | single _, .ordered _ => exact ⟨_, rfl⟩
  | positional _, .named _ => exact ⟨_, rfl⟩
  | zeroArg, .named _ => exact ⟨_, rfl⟩

end Schema

end CallContract
