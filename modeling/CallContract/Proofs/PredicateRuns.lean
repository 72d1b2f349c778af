import Mathlib.Data.List.Basic
import CallContract.Proofs.Failure
import CallContract.Proofs.Idempotence
import CallContract.Proofs.Union

/-!
# Which predicates are run

**Theorem (`predicate_runs`).** A validation of arguments runs the predicates of its places in
order, up to and including the first place that refuses its value, and each on the value that was
supplied. A place runs none for an absent value. A bare predicate is run once; of a union, whose
members are no unions, those members are run that are predicates and stand no later than the first
member that accepts the value or fails, and none for null. If no bag can be made of the arguments,
or there is a wrong number of them, no predicate is run.

Both loops, over the places and over the members, go through a list up to and including the first
item that ends them (`throughFirst`). For the outer loop it has to be seen that the writes to the
bag do not change what later places find there (`Place.check_of_puts`); for the inner one, that the
members it passes over would neither run nor decide anything (`ownRuns_of_permitsAbsence`).
-/

namespace CallContract

/-- The items of a list up to and including the first that ends a loop over them. -/
def throughFirst {α : Type} (ends : α → Bool) : List α → List α
  | [] => []
  | a :: as => a :: if ends a then [] else throughFirst ends as

theorem mem_of_mem_throughFirst {α : Type} {ends : α → Bool} {as : List α} {a : α}
    (h : a ∈ throughFirst ends as) : a ∈ as := by
  induction as with
  | nil => cases h
  | cons b bs ih =>
    rw [throughFirst, List.mem_cons] at h
    rcases h with rfl | h
    · exact List.mem_cons_self
    · split at h
      · cases h
      · exact List.mem_cons_of_mem _ (ih h)

/-! ## One value in one place -/

namespace Descriptor

/-- No union has unions among its members. -/
def Flat : Descriptor → Prop
  | union members => ∀ d ∈ members, d.isUnion = false
  | _ => True

/-- The descriptor accepts the value, or a predicate fails on it. -/
def decides (v : Value) (d : Descriptor) : Bool :=
  match (d.matchValue v).result with
  | .ok _ => true
  | .error (.raised ..) => true
  | .error (.mismatch _) => false

/-- The run of a descriptor that is a predicate. -/
def ownRuns (v : Value) : Descriptor → List PredicateRun
  | predicate p => [{ predicate := p, value := v }]
  | _ => []

/-- The predicate runs of a place for the value that it finds. -/
def runsOn (d : Descriptor) (v : Value) : List PredicateRun :=
  if v.isUndefined then []
  else
    match d with
    | union members =>
      if v.isNull then [] else (throughFirst (decides v) members).flatMap (ownRuns v)
    | d => d.ownRuns v

theorem runs_matchValue_of_not_union {d : Descriptor} (hd : d.isUnion = false) (v : Value) :
    (d.matchValue v).runs = d.ownRuns v := by
  cases d with
  | union => cases hd
  | kind _ | nominal _ | pattern _ | predicate _ => rfl

/-- An absence marker, which a union passes over, would neither run nor decide anything. -/
theorem ownRuns_of_permitsAbsence {d : Descriptor} (hd : d.isUnion = false)
    (habs : d.permitsAbsence) {v : Value} (hv : v.isUndefined = false) :
    d.ownRuns v = [] ∧ d.decides v = false := by
  cases d with
  | kind k =>
    cases k with
    | optional | undefined | void =>
      simp [ownRuns, decides, matchValue, Kind.matchValue, MatchResult.acceptIf, hv]
    | _ => cases habs
  | union => cases hd
  | nominal _ | pattern _ | predicate _ => cases habs

theorem runs_matchMembers {members : List Descriptor} (hflat : ∀ d ∈ members, d.isUnion = false)
    {v : Value} (hv : v.isUndefined = false) (otherwise : Mismatch) :
    (matchMembers v otherwise members).runs =
      (throughFirst (decides v) members).flatMap (ownRuns v) := by
  induction members with
  | nil => rfl
  | cons d ds ih =>
    rw [List.forall_mem_cons] at hflat
    rw [matchMembers, throughFirst, List.flatMap_cons]
    by_cases habs : d.permitsAbsence
    · obtain ⟨hruns, hdecides⟩ := ownRuns_of_permitsAbsence hflat.1 habs hv
      simp [habs, hruns, hdecides, ih hflat.2]
    · rw [if_neg habs, Traced.runs_bind, runs_matchValue_of_not_union hflat.1]
      cases hmatch : (d.matchValue v).result with
      | ok m => simp [decides, hmatch]
      | error e =>
        cases e with
        | raised name fault => simp [decides, hmatch]
        | mismatch m => simp [decides, hmatch, ih hflat.2]

theorem runs_checkSlot {d : Descriptor} (hflat : d.Flat) (slot : Slot) (v : Value) :
    (checkSlot slot d v).runs = d.runsOn v := by
  cases hv : v.isUndefined with
  | true => simp [checkSlot, runsOn, hv]
  | false =>
    simp only [checkSlot, runsOn, hv, Bool.false_eq_true, if_false, Traced.runs_map]
    cases d with
    | union members =>
      cases v with
      | undefined => cases hv
      | null => rfl
      | _ => exact runs_matchMembers hflat hv _
    | kind _ | nominal _ | pattern _ | predicate _ => rfl

theorem value_of_mem_ownRuns {d : Descriptor} {v : Value} {run : PredicateRun}
    (h : run ∈ d.ownRuns v) : run.value = v := by
  cases d with
  | predicate p => rw [List.mem_singleton.1 h]
  | kind _ | nominal _ | pattern _ | union _ => cases h

/-- No predicate is run on an absent value. -/
theorem present_of_mem_runsOn {d : Descriptor} {v : Value} {run : PredicateRun}
    (h : run ∈ d.runsOn v) : run.value ≠ .undefined := by
  cases hv : v.isUndefined with
  | true => simp [runsOn, hv] at h
  | false =>
    have hvalue : run.value = v := by
      simp only [runsOn, hv, Bool.false_eq_true, if_false] at h
      split at h
      case h_1 =>
        split at h
        · cases h
        · obtain ⟨d', -, h'⟩ := List.mem_flatMap.1 h
          exact value_of_mem_ownRuns h'
      case h_2 => exact value_of_mem_ownRuns h
    rw [hvalue]
    exact Value.isUndefined_eq_false.1 hv

end Descriptor

/-! ## One place after the other -/

namespace Place

/-- Checks the value that a place finds in a bag. -/
def check (p : Place) (bag : Bag) : Traced (Except CallError Value) :=
  checkSlot p.slot p.descriptor (bag.valueAt p.slot)

/-- The value that the place finds in a bag is not acceptable. -/
def refuses (bag : Bag) (p : Place) : Bool :=
  match (p.check bag).result with
  | .ok _ => false
  | .error _ => true

/-- A write to another slot is not noticed. -/
theorem check_of_puts {p : Place} {before after : Bag} {slot : Slot} {v : Value}
    (hputs : before.Puts slot v after) (hne : p.slot ≠ slot) : p.check after = p.check before := by
  rw [check, check, hputs.others p.slot hne]

end Place

/-- The predicate runs of some places, each checked against the same bag, up to and including the
first that refuses its value. -/
def placeRuns (bag : Bag) (places : List Place) : List PredicateRun :=
  (throughFirst (Place.refuses bag) places).flatMap fun p => (p.check bag).runs

theorem placeRuns_of_ok {p : Place} {ps : List Place} {bag : Bag} {w : Value}
    (h : (p.check bag).result = .ok w) :
    placeRuns bag (p :: ps) = (p.check bag).runs ++ placeRuns bag ps := by
  simp [placeRuns, throughFirst, Place.refuses, h]

theorem placeRuns_of_error {p : Place} {ps : List Place} {bag : Bag} {e : CallError}
    (h : (p.check bag).result = .error e) : placeRuns bag (p :: ps) = (p.check bag).runs := by
  simp [placeRuns, throughFirst, Place.refuses, h]

theorem placeRuns_congr {places : List Place} {a b : Bag}
    (h : ∀ p ∈ places, p.check a = p.check b) : placeRuns a places = placeRuns b places := by
  induction places with
  | nil => rfl
  | cons p ps ih =>
    rw [List.forall_mem_cons] at h
    cases hcheck : (p.check b).result with
    | ok w =>
      rw [placeRuns_of_ok hcheck, placeRuns_of_ok ((congrArg Traced.result h.1).trans hcheck),
        h.1, ih h.2]
    | error e =>
      rw [placeRuns_of_error hcheck,
        placeRuns_of_error ((congrArg Traced.result h.1).trans hcheck), h.1]

/-! ## The loops -/

theorem runs_validateFields {fields : List Field} (h : (fields.map Field.name).Nodup)
    (values : Dict Value) :
    (validateFields fields values).runs =
      placeRuns (.named values) (fields.map Field.place) := by
  induction fields generalizing values with
  | nil => rfl
  | cons f fs ih =>
    have ⟨hf, hfs⟩ := List.nodup_cons.1 h
    have hcheck : f.place.check (.named values) =
        checkSlot (.field f.name) f.descriptor (values.valueOf f.name) := rfl
    rw [validateFields, Traced.runs_bind, List.map_cons, ← hcheck]
    cases hresult : (f.place.check (.named values)).result with
    | ok w =>
      have hputs := values.keep_puts (checkSlot_eq_ok_iff.1 (hcheck ▸ hresult))
      rw [placeRuns_of_ok hresult]
      refine congrArg _ ((ih hfs _).trans (placeRuns_congr fun q hq => ?_))
      obtain ⟨g, hg, rfl⟩ := List.mem_map.1 hq
      refine Place.check_of_puts hputs fun heq => hf ?_
      exact Slot.field.inj heq ▸ List.mem_map_of_mem hg
    | error e => rw [placeRuns_of_error hresult]; simp

/-- The values before the ones that are left to check go along. -/
theorem runs_validatePositions (ds : List Descriptor) (before values : List Value)
    (h : ds.length ≤ values.length) :
    (validatePositions before.length ds values).runs =
      placeRuns (.ordered (before ++ values)) (positionPlaces before.length ds) := by
  induction ds generalizing before values with
  | nil => cases values <;> rfl
  | cons d ds ih =>
    cases values with
    | nil => simp at h
    | cons v values =>
      let p : Place := { slot := .position before.length, descriptor := d }
      have hcheck : p.check (.ordered (before ++ v :: values)) =
          checkSlot (.position before.length) d v := by
        simp [p, Place.check, Bag.valueAt]
      rw [validatePositions, Traced.runs_bind, positionPlaces, ← hcheck]
      cases hresult : (p.check (.ordered (before ++ v :: values))).result with
      | ok w =>
        have hputs := Bag.put_ordered before values v w
        have hlater := ih (before ++ [w]) values (by simpa using h)
        rw [List.length_append, List.length_singleton] at hlater
        rw [placeRuns_of_ok hresult]
        refine congrArg _ (hlater.trans (placeRuns_congr fun q hq => ?_))
        obtain ⟨i, d', -, rfl⟩ := mem_positionPlaces.1 hq
        refine Place.check_of_puts hputs fun heq => ?_
        have := Slot.position.inj heq
        omega
      | error e => rw [placeRuns_of_error hresult]; simp

namespace Schema

theorem runs_validate_of_fits {s : Schema} (hnames : s.NamesDistinct) {bag : Bag}
    (hfits : s.Fits bag) : (s.validate bag).runs = placeRuns bag s.places := by
  match s, bag with
  | object fields, .named values => exact runs_validateFields hnames values
  | single field, .named values => exact @runs_validateFields [field] (by simp) values
  | positional ds, .ordered values =>
    have hlen : ¬ values.length < ds.length := Nat.not_lt.2 hfits
    simp only [validate, validateOrdered, if_neg hlen, Traced.runs_map]
    exact runs_validatePositions ds [] values hfits
  | zeroArg, .ordered values => rfl
  | object _, .ordered _ => exact hfits.elim
  | single _, .ordered _ => exact hfits.elim
  | positional _, .named _ => exact hfits.elim
  | zeroArg, .named _ => exact hfits.elim

theorem runs_validate_of_not_fits {s : Schema} {bag : Bag} (h : ¬ s.Fits bag) :
    (s.validate bag).runs = [] := by
  match s, bag with
  | object fields, .named values => exact (h trivial).elim
  | single field, .named values => exact (h trivial).elim
  | positional ds, .ordered values =>
    have hlen : values.length < ds.length := Nat.not_le.1 h
    simp only [validate, validateOrdered, if_pos hlen, Traced.runs_map, Traced.runs_pure]
  | zeroArg, .ordered _ => rfl
  | object _, .ordered _ => rfl
  | single _, .ordered _ => rfl
  | positional _, .named _ => rfl
  | zeroArg, .named _ => rfl

theorem takes_of_ofCall {s : Schema} {args : List Value} {bag : Bag}
    (h : Bag.ofCall s args = .ok bag) : s.Takes bag := by
  cases s with
  | object fields =>
    obtain ⟨values, rfl⟩ := Bag.ofObject_ok h
    trivial
  | single field =>
    obtain ⟨values, hvalues, -⟩ := Bag.ofSingle_holds field.name args
    obtain rfl : bag = .named values := (Except.ok.inj h).symm.trans hvalues
    trivial
  | positional ds => cases h; trivial
  | zeroArg => cases h; trivial

end Schema

/-! ## The theorem -/

/-- The unions in the places of a schema have no unions among their members. -/
def Schema.Flat (s : Schema) : Prop := ∀ p ∈ s.places, p.descriptor.Flat

/-- The predicate runs of a validation of some arguments. -/
structure RunsInOrder (s : Schema) (args : List Value) (runs : List PredicateRun) : Prop where
  /-- Each place is asked about the value that was supplied, whatever was written before. -/
  ordered : ∀ bag, Bag.ofCall s args = .ok bag →
    (∀ expected actual, (s.validate bag).result.outcome ≠ .error (.arity expected actual)) →
    runs = (throughFirst (Place.refuses bag) s.places).flatMap fun p =>
      p.descriptor.runsOn (bag.valueAt p.slot)
  miscounted : ∀ bag, Bag.ofCall s args = .ok bag →
    (∃ expected actual, (s.validate bag).result.outcome = .error (.arity expected actual)) →
    runs = []
  misshapen : ∀ e, Bag.ofCall s args = .error e → runs = []
  present : ∀ run ∈ runs, run.value ≠ .undefined

theorem placeRuns_of_flat {places : List Place} (hflat : ∀ p ∈ places, p.descriptor.Flat)
    (bag : Bag) :
    placeRuns bag places = (throughFirst (Place.refuses bag) places).flatMap fun p =>
      p.descriptor.runsOn (bag.valueAt p.slot) :=
  List.flatMap_congr fun p hp =>
    Descriptor.runs_checkSlot (hflat p (mem_of_mem_throughFirst hp)) p.slot _

theorem Schema.runs_validateArgs {s : Schema} (hnames : s.NamesDistinct) (hflat : s.Flat)
    (args : List Value) : RunsInOrder s args (s.validateArgs args).runs := by
  cases hcall : Bag.ofCall s args with
  | error e =>
    have hruns : (s.validateArgs args).runs = [] := by rw [validateArgs, hcall]; rfl
    rw [hruns]
    refine ⟨fun bag hbag _ => ?_, fun _ _ _ => rfl, fun _ _ => rfl, by simp⟩
    cases hcall.symm.trans hbag
  | ok bag =>
    have hruns : (s.validateArgs args).runs = (s.validate bag).runs := by
      rw [validateArgs, hcall, Traced.runs_map]
    have hfits := fits_iff_ne_arity hnames (takes_of_ofCall hcall)
    rw [hruns]
    by_cases h : s.Fits bag
    · have hordered := (runs_validate_of_fits hnames h).trans (placeRuns_of_flat hflat bag)
      refine ⟨fun bag' hbag' _ => ?_, fun bag' hbag' hmiscounted => ?_, fun e he => ?_, ?_⟩
      · cases hcall.symm.trans hbag'
        exact hordered
      · cases hcall.symm.trans hbag'
        obtain ⟨expected, actual, he⟩ := hmiscounted
        exact (hfits.1 h expected actual he).elim
      · cases hcall.symm.trans he
      · intro run hrun
        rw [hordered] at hrun
        obtain ⟨p, -, hp⟩ := List.mem_flatMap.1 hrun
        exact Descriptor.present_of_mem_runsOn hp
    · rw [runs_validate_of_not_fits h]
      refine ⟨fun bag' hbag' hcounted => ?_, fun _ _ _ => rfl, fun _ _ => rfl, by simp⟩
      cases hcall.symm.trans hbag'
      exact (h (hfits.2 hcounted)).elim

/-- **Which predicates a guard runs** when it validates arguments, and in which order. -/
theorem predicate_runs (g : Guard) (hnames : g.contract.schema.NamesDistinct)
    (hflat : g.contract.schema.Flat) (args : List Value) (l : Ledger) :
    ∃ runs, l.since (g.validate args l).2 = runs.map .predicate ∧
      RunsInOrder g.contract.schema args runs :=
  ⟨_, Ledger.since_of_append (g.journal_validate args l),
    Schema.runs_validateArgs hnames hflat args⟩

/-- Of the members of the union one is an absence marker, one refuses and one accepts the value, and
the last is not asked. The second field is missing, so the third is not checked. -/
theorem predicate_runs_two_members :
    let low : Predicate := .ofTest "low" fun _ => false
    let high : Predicate := .ofTest "high" fun _ => true
    let choice : Descriptor :=
      .union [.kind .optional, .predicate low, .predicate high, .predicate low]
    let s : Schema := .object [⟨"a", choice⟩, ⟨"b", .predicate high⟩, ⟨"c", .predicate high⟩]
    let g : Guard :=
      { contract := { schema := s, returns := none, config := {} }
        callback := fun _ => .ok (.ready .undefined)
        channel := { config := {}, sink := .log, counters := 0 } }
    let args : List Value := [.object [("a", .string "x"), ("c", .null)]]
    let runs : List PredicateRun := [⟨low, .string "x"⟩, ⟨high, .string "x"⟩]
    s.NamesDistinct ∧ s.Flat ∧ Ledger.since {} (g.validate args {}).2 = runs.map .predicate ∧
      RunsInOrder s args runs := by
  intro low high choice s g args runs
  have hnames : s.NamesDistinct := by simp [s, Schema.NamesDistinct]
  have hflat : s.Flat := by
    intro p hp
    simp only [s, Schema.places, List.map_cons, List.map_nil, List.mem_cons, List.not_mem_nil,
      or_false] at hp
    rcases hp with rfl | rfl | rfl
    · simp [Field.place, choice, Descriptor.Flat, Descriptor.isUnion]
    · trivial
    · trivial
  obtain ⟨runs', hsince, hordered⟩ := predicate_runs g hnames hflat args {}
  have hs : g.contract.schema = s := rfl
  rw [hs] at hordered
  let bag : Bag := .named (.ofList [("a", .string "x"), ("c", .null)])
  have hmissing : (s.validate bag).result.outcome = .error (.missingRequired (.field "b")) := by
    dsimp only [s, choice, low, high, bag]
    rfl
  have hruns : runs' = runs := by
    rw [hordered.ordered bag rfl (by simp [hmissing])]
    dsimp only [s, choice, low, high, bag]
    rfl
  rw [hruns] at hsince hordered
  exact ⟨hnames, hflat, hsince, hordered⟩

end CallContract
