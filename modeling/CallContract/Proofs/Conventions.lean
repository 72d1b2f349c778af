import CallContract.Proofs.Deferred
import CallContract.Proofs.Idempotence

/-!
# One descriptor in three calling conventions

**Theorem (`conventions_agree`).** It makes no difference to a value in which calling convention it
is handed over: as a single value, in the first position, or in the only field of an object. It is
accepted in all three or in none. The callbacks get the same value, bare or in the field, and what
comes out is the same if they produce the same. The errors are the same but for the place that they
name. A field that is left out of the object is treated like one that is undefined.

The three ways differ in how the value gets into the bag and out of it again; between the two there
is one check of one slot. `Schema.validateArgs_single`, `Schema.validateArgs_position` and
`Schema.validateArgs_field` write each way down as that check and a bag around its answer. The check
knows the slot by name only (`checkSlot_replaceSlot`).
-/

namespace CallContract

/-! ## Errors in another place -/

/-- The slot, or the new one if it is the old one. -/
def Slot.replace (slot old new : Slot) : Slot := if slot = old then new else slot

/-- The same error, about the new slot if it is about the old one. -/
def CallError.replaceSlot (old new : Slot) : CallError → CallError
  | arity expected actual => arity expected actual
  | missingRequired slot => missingRequired (slot.replace old new)
  | typeMismatch slot m => typeMismatch (slot.replace old new) m
  | predicateRaised slot predicate fault => predicateRaised (slot.replace old new) predicate fault
  | returnTypeMismatch m => returnTypeMismatch m
  | callback fault => callback fault

@[simp] theorem Slot.replace_self (old new : Slot) : old.replace old new = new := if_pos rfl

theorem MatchError.at_replaceSlot (e : MatchError) (old new : Slot) :
    (e.at old).replaceSlot old new = e.at new := by
  cases e <;> simp [MatchError.at, CallError.replaceSlot]

theorem Descriptor.Refuses.slot?_eq {d : Descriptor} {slot : Slot} {v : Value} {e : CallError}
    (h : d.Refuses slot v e) : e.slot? = some slot := by
  cases h with
  | missing => rfl
  | @unmatched _ e => cases e <;> rfl

/-- **A check depends on its slot by name only.** -/
theorem checkSlot_replaceSlot (old new : Slot) (d : Descriptor) (v : Value) :
    checkSlot new d v =
      (checkSlot old d v).map fun r => r.mapError (CallError.replaceSlot old new) := by
  cases hv : v.isUndefined with
  | true =>
    obtain rfl := Value.isUndefined_iff.1 hv
    refine Traced.ext ?_ rfl
    rw [Traced.result_map, checkSlot_undefined, checkSlot_undefined]
    cases d.permitsAbsence <;> simp [Except.mapError, CallError.replaceSlot]
  | false =>
    refine Traced.ext ?_ (by simp [checkSlot, hv])
    rw [Traced.result_map, checkSlot_present new d hv, checkSlot_present old d hv]
    cases (d.matchValue v).result with
    | ok m => rfl
    | error e => simp [Except.mapError, MatchError.at_replaceSlot]

/-! ## One value in and out of a bag -/

theorem Dict.valueOf_insert (fields : Dict Value) (name : String) (v : Value) :
    (fields.insert name v).valueOf name = v := by
  rw [valueOf, get?_insert, if_pos rfl, Option.getD_some]

theorem Dict.insert_keep (fields : Dict Value) (name : String) (v w : Value) :
    (fields.insert name v).keep name w = fields.insert name w := by
  refine ext_get? fun k => ?_
  rw [get?_keep, get?_insert, get?_insert, get?_insert]
  by_cases hk : k = name <;> simp [hk]

theorem Dict.keep_empty (name : String) (w : Value) : (empty : Dict Value).keep name w = empty :=
  rfl

theorem validateFields_one (f : Field) (bag : Dict Value) :
    validateFields [f] bag =
      (checkSlot (.field f.name) f.descriptor (bag.valueOf f.name)).map fun
        | .ok w => { bag := bag.keep f.name w, outcome := .ok () }
        | .error e => { bag, outcome := .error e } := by
  rw [validateFields]
  cases checkSlot (.field f.name) f.descriptor (bag.valueOf f.name) with
  | mk result runs => cases result <;> simp [Traced.bind, Traced.map, validateFields, Traced.pure]

namespace Schema

variable (d : Descriptor) (x : String) (v : Value)

theorem validateArgs_position :
    (positional [d]).validateArgs [v] =
      (checkSlot (.position 0) d v).map fun r => r.map fun w => Bag.ordered [w] := by
  simp only [validateArgs, Bag.ofCall, validate, validateOrdered, List.length_singleton,
    Nat.lt_irrefl, if_false, validatePositions]
  cases checkSlot (.position 0) d v with
  | mk result runs =>
    cases result <;> simp [Traced.bind, Traced.map, Traced.pure, Except.map]

theorem validateArgs_field :
    (object [⟨x, d⟩]).validateArgs [.object [(x, v)]] =
      (checkSlot (.field x) d v).map fun r => r.map fun w => Bag.named (Dict.empty.insert x w) := by
  have hbag : Bag.ofCall (object [⟨x, d⟩]) [.object [(x, v)]] =
      .ok (.named (Dict.empty.insert x v)) := rfl
  simp only [validateArgs, hbag, validate, validateFields_one, Dict.valueOf_insert]
  cases checkSlot (.field x) d v with
  | mk result runs => cases result <;> simp [Traced.map, Except.map, Dict.insert_keep]

theorem validateArgs_noField :
    (object [⟨x, d⟩]).validateArgs [.object []] =
      (checkSlot (.field x) d .undefined).map fun r => r.map fun _ => Bag.named .empty := by
  have hbag : Bag.ofCall (object [⟨x, d⟩]) [.object []] = .ok (.named .empty) := rfl
  have hvalue : (Dict.empty : Dict Value).valueOf x = .undefined := rfl
  simp only [validateArgs, hbag, validate, validateFields_one, hvalue, Dict.keep_empty]
  cases checkSlot (.field x) d .undefined with
  | mk result runs => cases result <;> simp [Traced.map, Except.map]

/-- The bag of a single value, which is empty if there is none. -/
theorem validateArgs_single :
    (single ⟨x, d⟩).validateArgs [v] = (checkSlot (.field x) d v).map fun r => r.map fun w =>
      if v.isUndefined then Bag.named .empty else Bag.named (Dict.empty.insert x w) := by
  cases hv : v.isUndefined with
  | true =>
    obtain rfl := Value.isUndefined_iff.1 hv
    exact validateArgs_noField d x
  | false =>
    have hbag : Bag.ofCall (single ⟨x, d⟩) [v] = .ok (.named (Dict.empty.insert x v)) :=
      congrArg Except.ok (Bag.ofSingle_of_present (Value.isUndefined_eq_false.1 hv))
    simp only [validateArgs, hbag, validate, validateFields_one, Dict.valueOf_insert]
    cases checkSlot (.field x) d v with
    | mk result runs => cases result <;> simp [Traced.map, Except.map, Dict.insert_keep]

end Schema

/-! ## Calls -/

namespace Guard

/-- The guard with another schema and another callback; all else is as it was. -/
def under (g : Guard) (s : Schema) (callback : Callback) : Guard :=
  { g with contract := { g.contract with schema := s }, callback }

variable {g : Guard} {args : List Value} {l : Ledger}

/-- What comes of an outcome depends on the expected result only. -/
theorem settle_under (g : Guard) (s : Schema) (callback : Callback) (o : Outcome) :
    (g.under s callback).settle o = g.settle o := by
  cases o <;> rfl

theorem callbackRuns_of_valid {bag : Bag}
    (h : (g.contract.schema.validateArgs args).result = .ok bag) :
    callbackRuns (l.since (g.call args l).2) = [bag.toCallArgs g.contract.schema] := by
  rw [callbackRuns_call, validate_fst, h]

theorem invoke_of_valid {bag : Bag} (h : (g.contract.schema.validateArgs args).result = .ok bag) :
    (g.invoke args l).1 =
      g.settle (produced (g.callback (bag.toCallArgs g.contract.schema))) := by
  rw [invoke_fst]
  exact ending_of_ok (l := l) ((g.validate_fst args l).trans h)

theorem callbackRuns_of_invalid {e : CallError}
    (h : (g.contract.schema.validateArgs args).result = .error e) :
    callbackRuns (l.since (g.call args l).2) = [] := by
  rw [callbackRuns_call, validate_fst, h]

theorem call_of_invalid {e : CallError}
    (h : (g.contract.schema.validateArgs args).result = .error e) :
    (g.call args l).1 = .error e := by
  rw [call_fst, answer, h]

end Guard

/-! ## The comparison -/

/-- Three calls are accepted, one in each convention: the callbacks get the same value, and the same
comes out if they produce the same of it. -/
structure AcceptedAlike (x : String) (v w : Value) (single positional object : Guard) (l : Ledger) :
    Prop where
  singleArgs : callbackRuns (l.since (single.call [v] l).2) = [[w]]
  positionalArgs : callbackRuns (l.since (positional.call [v] l).2) = [[w]]
  objectArgs :
    callbackRuns (l.since (object.call [.object [(x, v)]] l).2) = [[.object [(x, w)]]]
  positionalResult : produced (positional.callback [w]) = produced (single.callback [w]) →
    (positional.invoke [v] l).1 = (single.invoke [v] l).1
  objectResult :
    produced (object.callback [.object [(x, w)]]) = produced (single.callback [w]) →
      (object.invoke [.object [(x, v)]] l).1 = (single.invoke [v] l).1

/-- Three calls are refused, one in each convention: no callback is run, and the errors are the same
but for the place. -/
structure RefusedAlike (x : String) (v : Value) (e : CallError)
    (single positional object : Guard) (l : Ledger) : Prop where
  singleError : (single.call [v] l).1 = .error e
  objectError : (object.call [.object [(x, v)]] l).1 = .error e
  positionalError :
    (positional.call [v] l).1 = .error (e.replaceSlot (.field x) (.position 0))
  /-- The errors name the field and the position. -/
  places : e.slot? = some (.field x) ∧
    (e.replaceSlot (.field x) (.position 0)).slot? = some (.position 0)
  singleIdle : callbackRuns (l.since (single.call [v] l).2) = []
  positionalIdle : callbackRuns (l.since (positional.call [v] l).2) = []
  objectIdle : callbackRuns (l.since (object.call [.object [(x, v)]] l).2) = []

/-- A field that is left out is treated like one that is undefined: the object is accepted with
either, and the same comes out if the callback produces the same, or it is refused with either for
the same reason. -/
def OmittedLikeUndefined (x : String) (object : Guard) (l : Ledger) : Prop :=
  (callbackRuns (l.since (object.call [.object []] l).2) = [[.object []]] ∧
    callbackRuns (l.since (object.call [.object [(x, .undefined)]] l).2) =
      [[.object [(x, .undefined)]]] ∧
    (produced (object.callback [.object []]) =
        produced (object.callback [.object [(x, .undefined)]]) →
      (object.invoke [.object []] l).1 = (object.invoke [.object [(x, .undefined)]] l).1)) ∨
  ∃ e, (object.call [.object []] l).1 = .error e ∧
    (object.call [.object [(x, .undefined)]] l).1 = .error e ∧
    callbackRuns (l.since (object.call [.object []] l).2) = [] ∧
    callbackRuns (l.since (object.call [.object [(x, .undefined)]] l).2) = []

/-- A value under one descriptor, in a single value, in a position and in a field. -/
structure ConventionsAgree (d : Descriptor) (x : String) (v : Value)
    (single positional object : Guard) (l : Ledger) : Prop where
  /-- All accept the value, and hand on the one that the descriptor keeps for it, or all refuse it
  for the reason that the descriptor has. -/
  verdict : (∃ w, d.Admits v w ∧ AcceptedAlike x v w single positional object l) ∨
    ∃ e, d.Refuses (.field x) v e ∧ RefusedAlike x v e single positional object l
  /-- The same predicates are run on the same values before the callback. -/
  runs : l.since (positional.validate [v] l).2 = l.since (single.validate [v] l).2 ∧
    l.since (object.validate [.object [(x, v)]] l).2 = l.since (single.validate [v] l).2
  omitted : OmittedLikeUndefined x object l

section Comparison

variable (g : Guard) (d : Descriptor) (x : String) (v : Value) (bare ordered named : Callback)
  (l : Ledger)

theorem acceptedAlike {w : Value} (h : (checkSlot (.field x) d v).result = .ok w) :
    AcceptedAlike x v w (g.under (.single ⟨x, d⟩) bare) (g.under (.positional [d]) ordered)
      (g.under (.object [⟨x, d⟩]) named) l := by
  have hposition : (checkSlot (.position 0) d v).result = .ok w := by
    rw [checkSlot_replaceSlot (.field x), Traced.result_map, h]
    rfl
  have hsingle : ((Schema.single ⟨x, d⟩).validateArgs [v]).result = .ok
      (if v.isUndefined then .named .empty else .named (Dict.empty.insert x w)) := by
    rw [Schema.validateArgs_single, Traced.result_map, h]
    rfl
  have hpositional : ((Schema.positional [d]).validateArgs [v]).result = .ok (.ordered [w]) := by
    rw [Schema.validateArgs_position, Traced.result_map, hposition]
    rfl
  have hobject : ((Schema.object [⟨x, d⟩]).validateArgs [.object [(x, v)]]).result =
      .ok (.named (Dict.empty.insert x w)) := by
    rw [Schema.validateArgs_field, Traced.result_map, h]
    rfl
  -- an empty bag stands for a value that is undefined, and that stays so
  have hargs : Bag.toCallArgs (.single ⟨x, d⟩)
      (if v.isUndefined then .named .empty else .named (Dict.empty.insert x w)) = [w] := by
    cases hv : v.isUndefined with
    | true =>
      obtain rfl := Value.isUndefined_iff.1 hv
      obtain rfl := (checkSlot_eq_ok_iff.1 h).undefined_iff.2 rfl
      rfl
    | false => simp [Bag.toCallArgs, Dict.get?_insert]
  have hresult : ((g.under (.single ⟨x, d⟩) bare).invoke [v] l).1 =
      g.settle (produced (bare [w])) := by
    rw [Guard.invoke_of_valid (g := g.under (.single ⟨x, d⟩) bare) hsingle, Guard.settle_under]
    exact congrArg (fun args => g.settle (produced (bare args))) hargs
  refine ⟨?_, ?_, ?_, fun hsame => ?_, fun hsame => ?_⟩
  · rw [Guard.callbackRuns_of_valid (g := g.under (.single ⟨x, d⟩) bare) hsingle]
    exact congrArg (fun args => [args]) hargs
  · exact Guard.callbackRuns_of_valid (g := g.under (.positional [d]) ordered) hpositional
  · exact Guard.callbackRuns_of_valid (g := g.under (.object [⟨x, d⟩]) named) hobject
  · rw [Guard.invoke_of_valid (g := g.under (.positional [d]) ordered) hpositional,
      Guard.settle_under, hresult]
    exact congrArg g.settle hsame
  · rw [Guard.invoke_of_valid (g := g.under (.object [⟨x, d⟩]) named) hobject,
      Guard.settle_under, hresult]
    exact congrArg g.settle hsame

theorem refusedAlike {e : CallError} (h : (checkSlot (.field x) d v).result = .error e) :
    RefusedAlike x v e (g.under (.single ⟨x, d⟩) bare) (g.under (.positional [d]) ordered)
      (g.under (.object [⟨x, d⟩]) named) l := by
  have hposition : (checkSlot (.position 0) d v).result =
      .error (e.replaceSlot (.field x) (.position 0)) := by
    rw [checkSlot_replaceSlot (.field x), Traced.result_map, h]
    rfl
  have hsingle : ((Schema.single ⟨x, d⟩).validateArgs [v]).result = .error e := by
    rw [Schema.validateArgs_single, Traced.result_map, h]
    rfl
  have hpositional : ((Schema.positional [d]).validateArgs [v]).result =
      .error (e.replaceSlot (.field x) (.position 0)) := by
    rw [Schema.validateArgs_position, Traced.result_map, hposition]
    rfl
  have hobject : ((Schema.object [⟨x, d⟩]).validateArgs [.object [(x, v)]]).result = .error e := by
    rw [Schema.validateArgs_field, Traced.result_map, h]
    rfl
  exact
    { singleError := Guard.call_of_invalid (g := g.under (.single ⟨x, d⟩) bare) hsingle
      objectError := Guard.call_of_invalid (g := g.under (.object [⟨x, d⟩]) named) hobject
      positionalError := Guard.call_of_invalid (g := g.under (.positional [d]) ordered) hpositional
      places :=
        ⟨(checkSlot_eq_error_iff.1 h).slot?_eq, (checkSlot_eq_error_iff.1 hposition).slot?_eq⟩
      singleIdle := Guard.callbackRuns_of_invalid (g := g.under (.single ⟨x, d⟩) bare) hsingle
      positionalIdle :=
        Guard.callbackRuns_of_invalid (g := g.under (.positional [d]) ordered) hpositional
      objectIdle := Guard.callbackRuns_of_invalid (g := g.under (.object [⟨x, d⟩]) named) hobject }

theorem omittedLikeUndefined : OmittedLikeUndefined x (g.under (.object [⟨x, d⟩]) named) l := by
  have homitted := congrArg Traced.result (Schema.validateArgs_noField d x)
  have hundefined := congrArg Traced.result (Schema.validateArgs_field d x .undefined)
  rw [Traced.result_map] at homitted hundefined
  cases h : (checkSlot (.field x) d .undefined).result with
  | ok w =>
    obtain rfl := (checkSlot_eq_ok_iff.1 h).undefined_iff.2 rfl
    rw [h] at homitted hundefined
    refine .inl ⟨?_, ?_, fun hsame => ?_⟩
    · exact Guard.callbackRuns_of_valid (g := g.under (.object [⟨x, d⟩]) named) homitted
    · exact Guard.callbackRuns_of_valid (g := g.under (.object [⟨x, d⟩]) named) hundefined
    · rw [Guard.invoke_of_valid (g := g.under (.object [⟨x, d⟩]) named) homitted,
        Guard.invoke_of_valid (g := g.under (.object [⟨x, d⟩]) named) hundefined]
      exact congrArg _ hsame
  | error e =>
    rw [h] at homitted hundefined
    refine .inr ⟨e, ?_, ?_, ?_, ?_⟩
    · exact Guard.call_of_invalid (g := g.under (.object [⟨x, d⟩]) named) homitted
    · exact Guard.call_of_invalid (g := g.under (.object [⟨x, d⟩]) named) hundefined
    · exact Guard.callbackRuns_of_invalid (g := g.under (.object [⟨x, d⟩]) named) homitted
    · exact Guard.callbackRuns_of_invalid (g := g.under (.object [⟨x, d⟩]) named) hundefined

/-- **The calling conventions agree on one descriptor**, for every value, whatever the guards expect
of results and whatever their callbacks do. -/
theorem conventions_agree :
    ConventionsAgree d x v (g.under (.single ⟨x, d⟩) bare) (g.under (.positional [d]) ordered)
      (g.under (.object [⟨x, d⟩]) named) l where
  verdict := by
    cases h : (checkSlot (.field x) d v).result with
    | ok w => exact .inl ⟨w, checkSlot_eq_ok_iff.1 h, acceptedAlike g d x v bare ordered named l h⟩
    | error e =>
      exact .inr ⟨e, checkSlot_eq_error_iff.1 h, refusedAlike g d x v bare ordered named l h⟩
  runs := by
    simp only [Guard.since_validate, Guard.under]
    rw [Schema.validateArgs_single, Schema.validateArgs_position, Schema.validateArgs_field,
      checkSlot_replaceSlot (.field x) (.position 0)]
    exact ⟨rfl, rfl⟩
  omitted := omittedLikeUndefined g d x named l

end Comparison

end CallContract
