import CallContract.Proofs.Pointwise

/-!
# What a failed validation leaves

**Theorem (`failed_validation_leaves`).** A validation that fails leaves the bag as it was supplied,
but for the places before the failing one, which hold what the matcher keeps for the values that
were supplied there. A bag of the wrong form, or with the wrong number of values, is left as it is.

The bag that is left is written down, as one write for each place before the failing one
(`Bag.putKept`). That the writes make the same bag as the loop is the uniqueness of the run: both
leave the values to keep in the slots before the cut, and all others alone.
-/

namespace CallContract

/-! ## Writes -/

/-- Puts a value into a slot. What is missing stays missing. -/
def Bag.put (bag : Bag) (slot : Slot) (v : Value) : Bag :=
  match bag, slot with
  | named fields, .field name => named (fields.keep name v)
  | ordered values, .position i => ordered (values.set i v)
  | bag, _ => bag

/-- The value that a place keeps for the one that it finds in a bag: an absent value stays absent,
and any other is kept in the form in which it matches. -/
def Place.kept (p : Place) (bag : Bag) : Value :=
  let v := bag.valueAt p.slot
  if v.isUndefined then v
  else
    match (p.descriptor.matchValue v).result with
    | .ok m => m.keep v
    | .error _ => v

/-- The bag with the values to keep put into some of its places. -/
def Bag.putKept (bag : Bag) (places : List Place) : Bag :=
  places.foldl (fun b p => b.put p.slot (p.kept bag)) bag

theorem Place.kept_of_admits {p : Place} {bag : Bag} {w : Value}
    (h : p.descriptor.Admits (bag.valueAt p.slot) w) : p.kept bag = w := by
  unfold kept
  generalize bag.valueAt p.slot = v at h
  cases h with
  | absent => rfl
  | matched hv hm => simp [hv, hm]

namespace Bag

/-- A slot that is missing, or that the form of the bag does not have, takes no value. -/
theorem puts_put {bag : Bag} {slot : Slot} {v : Value}
    (h : bag.valueAt slot = .undefined → v = .undefined) : bag.Puts slot v (bag.put slot v) := by
  match bag, slot with
  | named fields, .field name =>
    refine ⟨?_, fun other hother => ?_, fun k => Dict.isSome_get?_keep fields name k v⟩
    · show (fields.keep name v).valueOf name = v
      rw [Dict.valueOf, Dict.get?_keep, if_pos rfl]
      cases hget : fields.get? name with
      | some => rfl
      | none =>
        have hmissing : fields.valueOf name = .undefined := by rw [Dict.valueOf, hget]; rfl
        exact (h hmissing).symm
    · cases other with
      | field k => exact Dict.valueOf_keep_of_ne (fun heq => hother (by rw [heq])) v
      | position i => rfl
      | result => rfl
  | ordered values, .position i =>
    refine ⟨?_, fun other hother => ?_, List.length_set⟩
    · simp only [valueAt, put, List.getElem?_set_self']
      cases hget : values[i]? with
      | some => rfl
      | none =>
        have hmissing : (ordered values).valueAt (.position i) = .undefined := by
          rw [valueAt, hget]; rfl
        exact (h hmissing).symm
    · cases other with
      | position j =>
        have hne : i ≠ j := fun heq => hother (by rw [heq])
        simp only [valueAt, put, List.getElem?_set_ne hne]
      | field name => rfl
      | result => rfl
  | named _, .position _ => exact ⟨(h rfl).symm, fun _ _ => rfl, .refl _⟩
  | ordered _, .field _ => exact ⟨(h rfl).symm, fun _ _ => rfl, .refl _⟩
  | named _, .result => exact ⟨(h rfl).symm, fun _ _ => rfl, .refl _⟩
  | ordered _, .result => exact ⟨(h rfl).symm, fun _ _ => rfl, .refl _⟩

/-- Writes to distinct slots do not disturb each other. -/
theorem foldl_put {places : List Place} (hdistinct : (places.map Place.slot).Nodup)
    {value : Place → Value} {bag : Bag}
    (h : ∀ p ∈ places, bag.valueAt p.slot = .undefined → value p = .undefined) :
    let written := places.foldl (fun b p => b.put p.slot (value p)) bag
    (∀ p ∈ places, written.valueAt p.slot = value p) ∧
      (∀ slot, (∀ p ∈ places, p.slot ≠ slot) → written.valueAt slot = bag.valueAt slot) ∧
      written.SameShape bag := by
  induction places generalizing bag with
  | nil => exact ⟨by simp, fun _ _ => rfl, .refl bag⟩
  | cons p ps ih =>
    rw [List.map_cons, List.nodup_cons] at hdistinct
    rw [List.forall_mem_cons] at h
    have hputs := puts_put h.1
    have hne : ∀ q ∈ ps, q.slot ≠ p.slot := fun q hq heq =>
      hdistinct.1 (heq ▸ List.mem_map_of_mem hq)
    have hmissing : ∀ q ∈ ps, (bag.put p.slot (value p)).valueAt q.slot = .undefined →
        value q = .undefined := by
      intro q hq hq'
      rw [hputs.others q.slot (hne q hq)] at hq'
      exact h.2 q hq hq'
    obtain ⟨hvalues, hothers, hshape⟩ := ih hdistinct.2 hmissing
    refine ⟨List.forall_mem_cons.2 ⟨?_, hvalues⟩, fun slot hslot => ?_, hshape.trans hputs.shape⟩
    · exact (hothers p.slot hne).trans hputs.self
    · rw [List.forall_mem_cons] at hslot
      exact (hothers slot hslot.2).trans (hputs.others slot hslot.1.symm)

end Bag

/-- **A run leaves the bag that the writes of its places make.** -/
theorem PlaceRun.bag_eq_putKept {places passed left : List Place} {before : Bag} {r : Validated Bag}
    (hdistinct : (places.map Place.slot).Nodup) (h : PlaceRun places before r passed left) :
    r.bag = before.putKept passed := by
  have hkept : ∀ p ∈ passed, p.kept before = r.bag.valueAt p.slot := fun p hp =>
    Place.kept_of_admits (h.admitted p hp)
  have hpassed : (passed.map Place.slot).Nodup := by
    rw [h.order, List.map_append] at hdistinct
    exact (List.nodup_append.1 hdistinct).1
  have hmissing : ∀ p ∈ passed, before.valueAt p.slot = .undefined →
      p.kept before = .undefined := by
    intro p _ habsent
    simp [Place.kept, habsent, Value.isUndefined]
  obtain ⟨hvalues, hothers, hshape⟩ := Bag.foldl_put hpassed hmissing
  refine Bag.ext_valueAt (h.shape.trans hshape.symm) fun slot => ?_
  by_cases hslot : ∃ p ∈ passed, p.slot = slot
  · obtain ⟨p, hp, rfl⟩ := hslot
    exact (hkept p hp).symm.trans (hvalues p hp).symm
  · have hne : ∀ p ∈ passed, p.slot ≠ slot := fun p hp heq => hslot ⟨p, hp, heq⟩
    exact (h.untouched slot hne).trans (hothers slot hne).symm

/-! ## Bags that do not fit -/

namespace Schema

/-- The bag has the form that the schema expects, with any number of values. -/
def Takes : Schema → Bag → Prop
  | object _, .named _ => True
  | single _, .named _ => True
  | positional _, .ordered _ => True
  | zeroArg, .ordered _ => True
  | _, _ => False

theorem Fits.takes {s : Schema} {bag : Bag} (h : s.Fits bag) : s.Takes bag := by
  match s, bag with
  | object _, .named _ => trivial
  | single _, .named _ => trivial
  | positional _, .ordered _ => trivial
  | zeroArg, .ordered _ => trivial
  | object _, .ordered _ => exact h.elim
  | single _, .ordered _ => exact h.elim
  | positional _, .named _ => exact h.elim
  | zeroArg, .named _ => exact h.elim

theorem fits_iff_ne_arity {s : Schema} (hnames : s.NamesDistinct) {bag : Bag} (h : s.Takes bag) :
    s.Fits bag ↔
      ∀ expected actual, (s.validate bag).result.outcome ≠ .error (.arity expected actual) := by
  constructor
  · intro hfits expected actual he
    obtain ⟨_, p, _, _, _, hrefuses⟩ :=
      ((validate_pointwise_of_fits hnames hfits).fails_iff _).1 he
    exact hrefuses.ne_arity expected actual rfl
  · intro hne
    match s, bag with
    | object _, .named _ => trivial
    | single _, .named _ => trivial
    | positional ds, .ordered values =>
      refine Nat.not_lt.1 fun hlen => hne ds.length values.length ?_
      rw [validate_positional_short hlen]
    | zeroArg, .ordered [] => rfl
    | zeroArg, .ordered (v :: values) => exact (hne _ _ rfl).elim

theorem validate_bag_of_not_fits {s : Schema} {bag : Bag} (h : ¬ s.Fits bag) :
    (s.validate bag).result.bag = bag := by
  obtain ⟨e, he⟩ := validate_of_not_fits h
  rw [he]

end Schema

/-! ## The theorem -/

/-- A bag is left with the values to keep in the places before the failing one, and otherwise as it
was supplied. -/
structure StopsAt (places : List Place) (supplied left : Bag) (e : CallError)
    (before : List Place) (failing : Place) (after : List Place) : Prop where
  order : places = before ++ failing :: after
  accepted : ∀ p ∈ before, p.descriptor.Admits (supplied.valueAt p.slot) (p.kept supplied)
  refused : failing.descriptor.Refuses failing.slot (supplied.valueAt failing.slot) e
  written : left = supplied.putKept before
  kept : ∀ p ∈ before, left.valueAt p.slot = p.kept supplied
  /-- The failing place and those after it. -/
  later : ∀ p ∈ failing :: after, left.valueAt p.slot = supplied.valueAt p.slot
  undeclared : ∀ slot, (∀ p ∈ places, p.slot ≠ slot) → left.valueAt slot = supplied.valueAt slot
  /-- No name is added or dropped, and no position. -/
  shape : left.SameShape supplied

/-- The bag that a failed validation leaves. -/
structure LeftBehind (s : Schema) (supplied left : Bag) (e : CallError) : Prop where
  misshapen : ¬ s.Takes supplied → left = supplied
  miscounted : (∃ expected actual, e = .arity expected actual) → left = supplied
  stopped : s.Takes supplied → (∀ expected actual, e ≠ .arity expected actual) →
    ∃ before failing after, StopsAt s.places supplied left e before failing after

theorem PlaceRun.stopsAt {places passed left : List Place} {before : Bag} {r : Validated Bag}
    {e : CallError} (hdistinct : (places.map Place.slot).Nodup)
    (h : PlaceRun places before r passed left) (he : r.outcome = .error e) :
    ∃ failing after, StopsAt places before r.bag e passed failing after := by
  cases left with
  | nil => rw [h.completed rfl] at he; cases he
  | cons failing after =>
    obtain ⟨e', hrefuses, he'⟩ := h.refused failing after rfl
    obtain rfl : e' = e := Except.error.inj (he'.symm.trans he)
    have hkept : ∀ p ∈ passed, p.kept before = r.bag.valueAt p.slot := fun p hp =>
      Place.kept_of_admits (h.admitted p hp)
    refine ⟨failing, after, h.order, fun p hp => ?_, hrefuses, h.bag_eq_putKept hdistinct,
      fun p hp => (hkept p hp).symm, fun p hp => ?_, fun slot hslot => ?_, h.shape⟩
    · rw [hkept p hp]
      exact h.admitted p hp
    · refine h.untouched p.slot fun q hq => ?_
      rw [h.order, List.map_append, List.nodup_append] at hdistinct
      exact hdistinct.2.2 _ (List.mem_map_of_mem hq) _ (List.mem_map_of_mem hp)
    · refine h.untouched slot fun p hp => hslot p ?_
      rw [h.order]
      exact List.mem_append_left _ hp

/-- **A failed validation leaves coercions before the failing place only.** -/
theorem failed_validation_leaves {s : Schema} (hnames : s.NamesDistinct) {bag : Bag} {e : CallError}
    (h : (s.validate bag).result.outcome = .error e) :
    LeftBehind s bag (s.validate bag).result.bag e where
  misshapen := fun hshape => Schema.validate_bag_of_not_fits fun hfits => hshape hfits.takes
  miscounted := by
    rintro ⟨expected, actual, rfl⟩
    refine Schema.validate_bag_of_not_fits fun hfits => ?_
    exact (Schema.fits_iff_ne_arity hnames hfits.takes).1 hfits expected actual h
  stopped := by
    intro htakes hne
    have hfits : s.Fits bag := (Schema.fits_iff_ne_arity hnames htakes).2 fun expected actual he =>
      hne expected actual (Except.error.inj (h.symm.trans he))
    obtain ⟨passed, left, hrun⟩ := Schema.validate_run hnames hfits
    exact ⟨passed, hrun.stopsAt (Schema.nodup_slots hnames) h⟩

/-- The field before the failing one is coerced; the failing one is not put in, the one after it
would be coerced and is not, and the undeclared one stays. -/
theorem failed_validation_leaves_flag :
    let s := Schema.object
      [⟨"flag", .kind .boolean⟩, ⟨"size", .kind .int⟩, ⟨"text", .kind .boolean⟩]
    let bag := Bag.named
      (((Dict.empty.insert "flag" .null).insert "other" .null).insert "text" .null)
    let left := Bag.named
      (((Dict.empty.insert "flag" (.bool false)).insert "other" .null).insert "text" .null)
    s.NamesDistinct ∧
      (s.validate bag).result.outcome = .error (.missingRequired (.field "size")) ∧
      (s.validate bag).result.bag = left ∧
      LeftBehind s bag left (.missingRequired (.field "size")) := by
  intro s bag left
  have hnames : s.NamesDistinct := by simp [s, Schema.NamesDistinct]
  have houtcome : (s.validate bag).result.outcome = .error (.missingRequired (.field "size")) := rfl
  exact ⟨hnames, houtcome, rfl, failed_validation_leaves hnames houtcome⟩

end CallContract
