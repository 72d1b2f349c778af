import CallContract.Proofs.PlaceRun

/-!
# Validation is pointwise

**Theorem (`validate_pointwise`).** Although the loop writes coercions into the bag that it reads
from, its result is that of checking every place alone against the bag as it was supplied: it
succeeds if each place admits its value, the slots then hold the values to keep, and otherwise the
error is that of the first place that refuses its value. Ordered arguments are counted first.

The writes are dealt with in `PlaceRun`; what is left is to read the statement off a run.
-/

namespace CallContract

/-- The result is that of checking each place alone against the bag as it was supplied. -/
structure Pointwise (places : List Place) (supplied : Bag) (r : Validated Bag) : Prop where
  succeeds_iff : r.outcome = .ok () ↔
    ∀ p ∈ places, ∃ w, p.descriptor.Admits (supplied.valueAt p.slot) w
  /-- After a success each declared slot holds the value to keep for the one supplied. -/
  kept : r.outcome = .ok () →
    ∀ p ∈ places, p.descriptor.Admits (supplied.valueAt p.slot) (r.bag.valueAt p.slot)
  undeclared : ∀ slot, (∀ p ∈ places, p.slot ≠ slot) →
    r.bag.valueAt slot = supplied.valueAt slot
  shape : r.bag.SameShape supplied
  /-- A failure is that of the first place, in order, that refuses the value supplied. -/
  fails_iff : ∀ e, r.outcome = .error e ↔
    ∃ passed p rest, places = passed ++ p :: rest ∧
      (∀ q ∈ passed, ∃ w, q.descriptor.Admits (supplied.valueAt q.slot) w) ∧
      p.descriptor.Refuses p.slot (supplied.valueAt p.slot) e

namespace PlaceRun

variable {places passed left : List Place} {before : Bag} {r : Validated Bag}

theorem left_eq_nil_iff (h : PlaceRun places before r passed left) :
    left = [] ↔ r.outcome = .ok () := by
  refine ⟨h.completed, fun hok => ?_⟩
  cases left with
  | nil => rfl
  | cons p rest =>
    obtain ⟨e, -, he⟩ := h.refused p rest rfl
    rw [hok] at he
    cases he

theorem passed_eq_of_ok (h : PlaceRun places before r passed left) (hok : r.outcome = .ok ()) :
    passed = places := by
  rw [h.order, h.left_eq_nil_iff.2 hok, List.append_nil]

theorem ok_of_accepted (h : PlaceRun places before r passed left)
    (hall : ∀ p ∈ places, ∃ w, p.descriptor.Admits (before.valueAt p.slot) w) :
    r.outcome = .ok () := by
  rw [← h.left_eq_nil_iff]
  cases left with
  | nil => rfl
  | cons p rest =>
    obtain ⟨e, he, -⟩ := h.refused p rest rfl
    obtain ⟨w, hw⟩ := hall p (by rw [h.order]; simp)
    exact (he.not_admits hw).elim

theorem error_of_first (h : PlaceRun places before r passed left) {e : CallError} {p : Place}
    {passed' rest : List Place} (horder : places = passed' ++ p :: rest)
    (haccepted : ∀ q ∈ passed', ∃ w, q.descriptor.Admits (before.valueAt q.slot) w)
    (hrefuses : p.descriptor.Refuses p.slot (before.valueAt p.slot) e) : r.outcome = .error e := by
  have hcut : Cut places before passed' (p :: rest) := by
    refine ⟨horder, haccepted, fun q rest' hq => ?_⟩
    obtain ⟨rfl, rfl⟩ := List.cons.inj hq
    exact ⟨e, hrefuses⟩
  obtain ⟨e', he', hr⟩ := h.refused p rest (h.cut.unique hcut).2
  rw [hr, he'.unique hrefuses]

/-- **A run is pointwise.** -/
theorem pointwise (h : PlaceRun places before r passed left) : Pointwise places before r where
  succeeds_iff := by
    refine ⟨fun hok p hp => ?_, h.ok_of_accepted⟩
    rw [← h.passed_eq_of_ok hok] at hp
    exact ⟨_, h.admitted p hp⟩
  kept := by
    intro hok p hp
    rw [← h.passed_eq_of_ok hok] at hp
    exact h.admitted p hp
  undeclared := by
    intro slot hslot
    refine h.untouched slot fun p hp => hslot p ?_
    rw [h.order]
    exact List.mem_append_left _ hp
  shape := h.shape
  fails_iff := by
    intro e
    constructor
    · intro he
      cases left with
      | nil => rw [h.completed rfl] at he; cases he
      | cons p rest =>
        obtain ⟨e', he', hr⟩ := h.refused p rest rfl
        rw [hr] at he
        cases he
        exact ⟨passed, p, rest, h.order, h.cut.accepted, he'⟩
    · rintro ⟨passed', p, rest, horder, haccepted, hrefuses⟩
      exact h.error_of_first horder haccepted hrefuses

end PlaceRun

namespace Schema

theorem validate_pointwise_of_fits {s : Schema} (hnames : s.NamesDistinct) {bag : Bag}
    (hfits : s.Fits bag) : Pointwise s.places bag (s.validate bag).result := by
  obtain ⟨passed, left, hrun⟩ := validate_run hnames hfits
  exact hrun.pointwise

theorem validate_positional_short {ds : List Descriptor} {values : List Value}
    (h : values.length < ds.length) :
    ((positional ds).validate (.ordered values)).result =
      { bag := .ordered values, outcome := .error (.arity ds.length values.length) } := by
  simp only [validate, validateOrdered, if_pos h, Traced.result_map, Traced.result_pure]

end Schema

/-- No place refuses a value for the number of arguments. -/
theorem Descriptor.Refuses.ne_arity {d : Descriptor} {slot : Slot} {v : Value} {e : CallError}
    (h : d.Refuses slot v e) (expected actual : Nat) : e ≠ .arity expected actual := by
  cases h with
  | missing => simp
  | @unmatched _ e => cases e <;> simp [MatchError.at]

/-- **Validation is pointwise**: for fields with distinct names in any bag of named values, and for
positions in any list of values, which must have at least as many values as there are positions. -/
theorem validate_pointwise :
    (∀ (fields : List Field) (values : Dict Value), (fields.map Field.name).Nodup →
      Pointwise (Schema.object fields).places (.named values)
        ((Schema.object fields).validate (.named values)).result) ∧
    ∀ (ds : List Descriptor) (values : List Value),
      let r := ((Schema.positional ds).validate (.ordered values)).result
      ((∃ expected actual, r.outcome = .error (.arity expected actual)) ↔
        values.length < ds.length) ∧
      (values.length < ds.length →
        r = { bag := .ordered values, outcome := .error (.arity ds.length values.length) }) ∧
      (ds.length ≤ values.length →
        Pointwise (Schema.positional ds).places (.ordered values) r) := by
  refine ⟨fun fields values hnames =>
    @Schema.validate_pointwise_of_fits (.object fields) hnames (.named values) trivial, ?_⟩
  intro ds values r
  have hpointwise (hlen : ds.length ≤ values.length) :
      Pointwise (Schema.positional ds).places (.ordered values) r :=
    @Schema.validate_pointwise_of_fits (.positional ds) trivial (.ordered values) hlen
  refine ⟨⟨?_, fun hlen => ?_⟩, Schema.validate_positional_short, hpointwise⟩
  · rintro ⟨expected, actual, he⟩
    by_cases hlen : values.length < ds.length
    · exact hlen
    · obtain ⟨_, p, _, _, _, hrefuses⟩ := ((hpointwise (Nat.not_lt.1 hlen)).fails_iff _).1 he
      exact (hrefuses.ne_arity expected actual rfl).elim
  · exact ⟨_, _, congrArg Validated.outcome (Schema.validate_positional_short hlen)⟩

/-- A field that is coerced does not hide that the one after it is missing; and of three values for
two positions the first is coerced and the last is left alone. -/
theorem validate_pointwise_flag_then_size :
    (["flag", "size"].Nodup ∧
      ((Schema.object [⟨"flag", .kind .boolean⟩, ⟨"size", .kind .int⟩]).validate
        (.named (Dict.empty.insert "flag" .null))).result.outcome =
          .error (.missingRequired (.field "size"))) ∧
    ([Descriptor.kind .boolean, .kind .any].length ≤ [Value.null, .null, .null].length ∧
      ((Schema.positional [.kind .boolean, .kind .any]).validate
        (.ordered [.null, .null, .null])).result.outcome = .ok ()) := by
  have hflag : (Descriptor.kind .boolean).Admits .null (.bool false) :=
    .matched (m := .coerced (.bool false)) rfl rfl
  have hany : (Descriptor.kind .any).Admits .null .null := .matched (m := .accepted) rfl rfl
  refine ⟨⟨by decide, ?_⟩, by decide, ?_⟩
  · refine ((validate_pointwise.1 _ _ (by decide)).fails_iff _).2
      ⟨[⟨.field "flag", .kind .boolean⟩], ⟨.field "size", .kind .int⟩, [], rfl, fun q hq => ?_,
        .missing rfl⟩
    obtain rfl := List.mem_singleton.1 hq
    exact ⟨_, hflag⟩
  · refine ((validate_pointwise.2 _ _).2.2 (by decide)).succeeds_iff.2 fun p hp => ?_
    simp only [Schema.places, positionPlaces, List.mem_cons, List.not_mem_nil, or_false] at hp
    rcases hp with rfl | rfl
    · exact ⟨_, hflag⟩
    · exact ⟨_, hany⟩

end CallContract
