import CallContract.Proofs.Journal
import CallContract.Proofs.Matching
import CallContract.Proofs.Pointwise

/-!
# Validation is idempotent

**Theorem (`validate_idempotent`).** A second validation of the bag that a first one has left ends
like the first, in success or with the same error, and changes nothing. The arguments that a
callback gets for valid arguments are valid, and make the same bag again.

The run of the first validation is also a run from the bag that it has left: a place before the cut
admits what it keeps, and the place after the cut finds the value that it refused. As a run
determines its result, the second validation has no other one.

For arguments it remains to see that a bag can be made again from the arguments that are made of it.
Only a single value needs an argument: its bag is empty exactly if the value is absent, and
validation keeps it so.
-/

namespace CallContract

/-! ## Bags -/

/-- A run is also a run from the bag that it leaves. -/
theorem PlaceRun.again {places passed left : List Place} {before : Bag} {r : Validated Bag}
    (hdistinct : (places.map Place.slot).Nodup) (h : PlaceRun places before r passed left) :
    PlaceRun places r.bag r passed left where
  order := h.order
  admitted := fun p hp => (h.admitted p hp).again
  untouched := fun _ _ => rfl
  shape := .refl r.bag
  completed := h.completed
  refused := by
    rintro p rest rfl
    have hne : ∀ q ∈ passed, q.slot ≠ p.slot := by
      rw [h.order, List.map_append, List.nodup_append] at hdistinct
      exact fun q hq => hdistinct.2.2 _ (List.mem_map_of_mem hq) _ (by simp)
    rw [h.untouched p.slot hne]
    exact h.refused p rest rfl

namespace Schema

theorem validate_validate {s : Schema} (hnames : s.NamesDistinct) (bag : Bag) :
    (s.validate (s.validate bag).result.bag).result = (s.validate bag).result := by
  by_cases hfits : s.Fits bag
  · obtain ⟨passed, left, hrun⟩ := validate_run hnames hfits
    obtain ⟨passed', left', hrun'⟩ := validate_run hnames (hfits.of_sameShape hrun.shape)
    exact hrun'.unique (hrun.again (nodup_slots hnames))
  · obtain ⟨e, he⟩ := validate_of_not_fits hfits
    rw [he]
    exact he

end Schema

/-! ## Arguments -/

namespace Bag

@[simp] theorem ofObject_entries (fields : Dict Value) :
    ofObject [.object fields.entries] = .ok (named fields) := by
  simp [ofObject]

theorem ofObject_ok {args : List Value} {bag : Bag} (h : ofObject args = .ok bag) :
    ∃ fields, bag = named fields := by
  unfold ofObject at h
  split at h
  case h_1 => cases h; exact ⟨_, rfl⟩
  case h_2 => cases h; exact ⟨_, rfl⟩
  case h_3 => cases h

theorem ofSingle_of_undefined {name : String} {args : List Value}
    (h : args.head?.getD .undefined = .undefined) : ofSingle name args = named .empty := by
  rw [ofSingle, h]

theorem ofSingle_of_present {name : String} {args : List Value}
    (h : args.head?.getD .undefined ≠ .undefined) :
    ofSingle name args = named (Dict.empty.insert name (args.head?.getD .undefined)) := by
  unfold ofSingle
  split
  case h_1 habsent => exact (h habsent).elim
  case h_2 => rfl

/-- The bag holds the single value of a field: the field is missing exactly if the value is absent,
and there are no others. -/
structure HoldsSingle (name : String) (fields : Dict Value) : Prop where
  others : ∀ k, k ≠ name → fields.get? k = none
  self : fields.contains name → fields.valueOf name ≠ .undefined

theorem ofSingle_holds (name : String) (args : List Value) :
    ∃ fields, ofSingle name args = named fields ∧ HoldsSingle name fields := by
  by_cases h : args.head?.getD .undefined = .undefined
  · exact ⟨_, ofSingle_of_undefined h, fun _ _ => rfl, by simp⟩
  · refine ⟨_, ofSingle_of_present h, fun k hk => ?_, fun _ => ?_⟩
    · rw [Dict.get?_insert, if_neg hk, Dict.get?_empty]
    · rwa [Dict.valueOf, Dict.get?_insert, if_pos rfl, Option.getD_some]

/-- Such a bag is made again from its value. -/
theorem HoldsSingle.ofSingle_valueOf {name : String} {fields : Dict Value}
    (h : HoldsSingle name fields) : ofSingle name [fields.valueOf name] = named fields := by
  cases hget : fields.get? name with
  | none =>
    rw [ofSingle_of_undefined (by simp [Dict.valueOf, hget])]
    congr 1
    refine Dict.ext_get? fun k => ?_
    by_cases hk : k = name
    · rw [hk, hget, Dict.get?_empty]
    · rw [h.others k hk, Dict.get?_empty]
  | some v =>
    have hvalue : fields.valueOf name = v := by simp [Dict.valueOf, hget]
    have hv : v ≠ .undefined := hvalue ▸ h.self (by simp [hget])
    rw [hvalue, ofSingle_of_present (by simpa using hv)]
    congr 1
    refine Dict.ext_get? fun k => ?_
    rw [Dict.get?_insert]
    by_cases hk : k = name
    · rw [if_pos hk, hk, hget]
      rfl
    · rw [if_neg hk, h.others k hk, Dict.get?_empty]

/-- A validation of the field leaves a bag of the same form. -/
theorem HoldsSingle.of_admits {name : String} {a b : Dict Value} (h : HoldsSingle name a)
    (hshape : (named b).SameShape (named a)) {d : Descriptor}
    (hadmits : d.Admits (a.valueOf name) (b.valueOf name)) : HoldsSingle name b where
  others := by
    intro k hk
    have hsome : (b.get? k).isSome = (a.get? k).isSome := hshape k
    rw [h.others k hk] at hsome
    simpa using hsome
  self := fun hname habsent => h.self (hshape name ▸ hname) (hadmits.undefined_iff.1 habsent)

end Bag

namespace Schema

/-- The callback's arguments for a validated bag make that bag again. -/
theorem ofCall_toCallArgs {s : Schema} (hnames : s.NamesDistinct) {args : List Value} {bag : Bag}
    (hcall : Bag.ofCall s args = .ok bag) (hok : (s.validate bag).result.outcome = .ok ()) :
    Bag.ofCall s ((s.validate bag).result.bag.toCallArgs s) = .ok (s.validate bag).result.bag := by
  cases s with
  | object fields =>
    obtain ⟨values, rfl⟩ := Bag.ofObject_ok hcall
    exact Bag.ofObject_entries _
  | positional ds =>
    cases hcall
    rfl
  | zeroArg =>
    cases hcall
    cases args with
    | nil => rfl
    | cons => cases hok
  | single field =>
    obtain ⟨values, hvalues, hsingle⟩ := Bag.ofSingle_holds field.name args
    obtain rfl : bag = .named values := (Except.ok.inj hcall).symm.trans hvalues
    have hpointwise := @validate_pointwise_of_fits (.single field) trivial (.named values) trivial
    have hadmits := hpointwise.kept hok field.place List.mem_cons_self
    exact congrArg Except.ok (hsingle.of_admits hpointwise.shape hadmits).ofSingle_valueOf

theorem validateArgs_toCallArgs {s : Schema} (hnames : s.NamesDistinct) {args : List Value}
    {bag : Bag} (h : (s.validateArgs args).result = .ok bag) :
    (s.validateArgs (bag.toCallArgs s)).result = .ok bag := by
  obtain ⟨supplied, hcall, hvalidate⟩ := validateArgs_eq_ok_iff.1 h
  have hok : (s.validate supplied).result.outcome = .ok () := by rw [hvalidate]
  refine validateArgs_eq_ok_iff.2 ⟨bag, ?_, ?_⟩
  · have hreshaped := ofCall_toCallArgs hnames hcall hok
    rwa [hvalidate] at hreshaped
  · have hagain := validate_validate hnames supplied
    rwa [hvalidate] at hagain

end Schema

/-- **Validation is idempotent**, on any bag, whether it succeeds or fails; and the arguments for
the callback are valid again, and make the bag from which they were made. -/
theorem validate_idempotent :
    (∀ s : Schema, s.NamesDistinct → ∀ bag : Bag,
      (s.validate (s.validate bag).result.bag).result = (s.validate bag).result) ∧
    ∀ g : Guard, g.contract.schema.NamesDistinct → ∀ (args : List Value) (l : Ledger) (bag : Bag),
      (g.validate args l).1 = .ok bag →
        ∀ later : Ledger, (g.validate (bag.toCallArgs g.contract.schema) later).1 = .ok bag := by
  refine ⟨fun s hnames bag => Schema.validate_validate hnames bag, ?_⟩
  intro g hnames args l bag h later
  rw [Guard.validate_fst] at h ⊢
  exact Schema.validateArgs_toCallArgs hnames h

/-- One validation fails after it has coerced a field; one of a single value succeeds. -/
theorem validate_idempotent_flag_then_size :
    (let s := Schema.object [⟨"flag", .kind .boolean⟩, ⟨"size", .kind .int⟩]
     s.NamesDistinct ∧
     (s.validate (.named (Dict.empty.insert "flag" .null))).result.bag =
       .named (Dict.empty.insert "flag" (.bool false)) ∧
     (s.validate (.named (Dict.empty.insert "flag" (.bool false)))).result =
       (s.validate (.named (Dict.empty.insert "flag" .null))).result) ∧
    let g : Guard :=
      { contract := { schema := .single ⟨"flag", .kind .boolean⟩, returns := none, config := {} }
        callback := fun _ => .ok (.ready .undefined)
        channel := { config := {}, sink := .log, counters := 0 } }
    g.contract.schema.NamesDistinct ∧
    (g.validate [.null] {}).1 = .ok (.named (Dict.empty.insert "flag" (.bool false))) ∧
    (g.validate [.bool false] {}).1 = .ok (.named (Dict.empty.insert "flag" (.bool false))) := by
  refine ⟨⟨by simp [Schema.NamesDistinct], rfl, ?_⟩, ?_⟩
  · exact validate_idempotent.1 _ (by simp [Schema.NamesDistinct])
      (.named (Dict.empty.insert "flag" .null))
  · intro g
    exact ⟨trivial, rfl, validate_idempotent.2 g trivial [.null] {} _ rfl {}⟩

end CallContract
