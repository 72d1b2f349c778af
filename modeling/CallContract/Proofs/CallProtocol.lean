import CallContract.Proofs.Journal
import CallContract.Proofs.Place

/-!
# The protocol of a call

**Theorem (`call_protocol`).** The callback of a guard runs exactly once if the arguments are valid,
on what the coerced bag holds, after the predicates of the parameters and before those of the
result; else it does not run. The error that comes out of a call, at once or from its reply, tells
which of the two was the case. A failure of the callback comes out as it is; a value comes out as
it was produced, if it passes the check of the result.

The order can be read off the journal of a call (`Guard.journal_call`). What an error tells rests on
the slots: a parameter is refused in a field or a position (`Schema.validateArgs_error`), a result
only as such (`Contract.checkReturned_error`), so that a predicate which fails in both roles gives
two kinds of errors.
-/

namespace CallContract

/-! ## Errors of parameters -/

theorem Descriptor.Refuses.isParameterError {d : Descriptor} {slot : Slot} {v : Value}
    {e : CallError} (h : d.Refuses slot v e) (hslot : slot ≠ .result) : e.isParameterError := by
  cases h with
  | missing => rfl
  | @unmatched _ e =>
    cases e with
    | mismatch m => rfl
    | raised predicate fault =>
      simp [MatchError.at, CallError.isParameterError, CallError.kind, hslot]

theorem validateFields_error {fields : List Field} {values : Dict Value} {e : CallError}
    (h : (validateFields fields values).result.outcome = .error e) : e.isParameterError := by
  induction fields generalizing values with
  | nil => cases h
  | cons f fs ih =>
    rw [validateFields, Traced.result_bind] at h
    split at h
    case h_1 => exact ih h
    case h_2 e' he' =>
      cases h
      exact (checkSlot_eq_error_iff.1 he').isParameterError (by simp)

theorem validatePositions_error {index : Nat} {ds : List Descriptor} {values : List Value}
    {e : CallError} (h : (validatePositions index ds values).result.outcome = .error e) :
    e.isParameterError := by
  induction ds generalizing index values with
  | nil => cases values <;> cases h
  | cons d ds ih =>
    cases values with
    | nil => cases h
    | cons v values =>
      rw [validatePositions, Traced.result_bind] at h
      split at h
      case h_1 => exact ih h
      case h_2 e' he' =>
        cases h
        exact (checkSlot_eq_error_iff.1 he').isParameterError (by simp)

namespace Schema

theorem validate_error {s : Schema} {bag : Bag} {e : CallError}
    (h : (s.validate bag).result.outcome = .error e) : e.isParameterError := by
  match s, bag with
  | object fields, .named values => exact validateFields_error h
  | single field, .named values => exact validateFields_error h
  | positional ds, .ordered values =>
    simp only [validate, validateOrdered, Traced.result_map] at h
    split at h
    case isTrue => cases h; rfl
    case isFalse => exact validatePositions_error h
  | zeroArg, .ordered [] => cases h
  | zeroArg, .ordered (_ :: _) => cases h; rfl
  | object _, .ordered _ => cases h; rfl
  | single _, .ordered _ => cases h; rfl
  | positional _, .named _ => cases h; rfl
  | zeroArg, .named _ => cases h; rfl

theorem ofCall_error {s : Schema} {args : List Value} {e : CallError}
    (h : Bag.ofCall s args = .error e) : e.isParameterError := by
  cases s with
  | object fields =>
    simp only [Bag.ofCall, Bag.ofObject] at h
    split at h <;> cases h
    rfl
  | positional ds => cases h
  | single field => cases h
  | zeroArg => cases h

/-- **Arguments are refused with an error of a parameter.** -/
theorem validateArgs_error {s : Schema} {args : List Value} {e : CallError}
    (h : (s.validateArgs args).result = .error e) : e.isParameterError := by
  rcases validateArgs_eq_error_iff.1 h with hcall | ⟨supplied, -, hvalidate⟩
  · exact ofCall_error hcall
  · exact validate_error hvalidate

end Schema

/-! ## Errors of results -/

theorem MatchError.atResult_isParameterError (e : MatchError) :
    e.atResult.isParameterError = false := by
  cases e <;> rfl

theorem MatchResult.checked_error {r : MatchResult} {e : CallError} (h : r.checked = .error e) :
    e.isParameterError = false := by
  cases r with
  | ok m => cases h
  | error e' => cases h; exact e'.atResult_isParameterError

theorem Descriptor.checkResult_error {d : Descriptor} {v : Value} {e : CallError}
    (h : (d.checkResult v).result = .error e) : e.isParameterError = false := by
  unfold checkResult at h
  split at h
  case h_1 => cases h
  case h_2 => cases h
  case h_3 =>
    rw [Traced.result_pure] at h
    split at h <;> cases h
    rfl
  case h_4 =>
    split at h
    case isTrue =>
      rw [Traced.result_pure] at h
      split at h <;> cases h
      rfl
    case isFalse => exact MatchResult.checked_error h
  case h_5 => exact MatchResult.checked_error h

namespace Contract

theorem checkReturned_ok {c : Contract} {v w : Value} :
    (c.checkReturned v).result = .ok w ↔
      w = v ∧ ∀ d, c.returns = some d → (d.checkResult v).result = .ok () := by
  unfold checkReturned
  cases c.returns with
  | none => simp [eq_comm]
  | some d =>
    cases hcheck : (d.checkResult v).result with
    | ok => simp [hcheck, Except.map, eq_comm]
    | error e => simp [hcheck, Except.map]

/-- **Results are refused with errors of another kind.** -/
theorem checkReturned_error {c : Contract} {v : Value} {e : CallError}
    (h : (c.checkReturned v).result = .error e) : e.isParameterError = false := by
  unfold checkReturned at h
  cases hreturns : c.returns with
  | none => rw [hreturns] at h; cases h
  | some d =>
    rw [hreturns, Traced.result_map] at h
    cases hcheck : (d.checkResult v).result with
    | ok => rw [hcheck] at h; cases h
    | error e' =>
      rw [hcheck] at h
      cases h
      exact Descriptor.checkResult_error hcheck

end Contract

/-! ## What comes out of a call -/

/-- What a callback has produced in the end, at once or with its promise. -/
def produced : Except Fault Output → Outcome
  | .error fault => .error fault
  | .ok (.ready v) => .ok v
  | .ok (.pending settled) => settled

namespace Guard

variable {g : Guard} {args : List Value} {l : Ledger}

/-- An error comes out of a call, at once or from its reply, whenever that is settled. -/
def FailsWith (g : Guard) (args : List Value) (l : Ledger) (e : CallError) : Prop :=
  (g.call args l).1 = .error e ∨
    ∃ reply later, (g.call args l).1 = .ok reply ∧ (reply.resolve later).1 = .error e

/-- A value comes out of a call, at once or from its reply, whenever that is settled. -/
def SucceedsWith (g : Guard) (args : List Value) (l : Ledger) (v : Value) : Prop :=
  ∃ reply later, (g.call args l).1 = .ok reply ∧ (reply.resolve later).1 = .ok v

/-- What comes out of a call for what the callback has produced. -/
def settle (g : Guard) : Outcome → Except CallError Value
  | .error fault => .error (.callback fault)
  | .ok v => (g.contract.checkReturned v).result

/-- What comes out of a call, at once or from its reply. -/
def ending (g : Guard) (args : List Value) : Except CallError Value :=
  (g.answer args).bind Reply.settled

theorem failsWith_iff {e : CallError} : g.FailsWith args l e ↔ g.ending args = .error e := by
  unfold FailsWith ending
  simp only [call_fst, Reply.resolve_fst]
  constructor
  · rintro (h | ⟨reply, _, h, hreply⟩)
    · rw [h]; rfl
    · rw [h]; exact hreply
  · intro h
    cases hanswer : g.answer args with
    | error e' =>
      rw [hanswer] at h
      exact .inl (congrArg Except.error (Except.error.inj h))
    | ok reply =>
      rw [hanswer] at h
      exact .inr ⟨reply, l, rfl, h⟩

theorem succeedsWith_iff {v : Value} : g.SucceedsWith args l v ↔ g.ending args = .ok v := by
  unfold SucceedsWith ending
  simp only [call_fst, Reply.resolve_fst]
  constructor
  · rintro ⟨reply, _, h, hreply⟩
    rw [h]
    exact hreply
  · intro h
    cases hanswer : g.answer args with
    | error e => rw [hanswer] at h; cases h
    | ok reply => rw [hanswer] at h; exact ⟨reply, l, rfl, h⟩

/-- Whether the callback has produced its value at once or with a promise makes no difference. -/
theorem answerOf_settled (g : Guard) (output : Except Fault Output) :
    (g.answerOf output).bind Reply.settled = g.settle (produced output) := by
  match output with
  | .error fault => rfl
  | .ok (.ready v) =>
    simp only [answerOf, produced, settle]
    cases (g.contract.checkReturned v).result <;> rfl
  | .ok (.pending (.error fault)) => rfl
  | .ok (.pending (.ok v)) => rfl

theorem ending_of_error {e : CallError} (h : (g.validate args l).1 = .error e) :
    g.ending args = .error e := by
  rw [validate_fst] at h
  rw [ending, answer, h]
  rfl

theorem ending_of_ok {bag : Bag} (h : (g.validate args l).1 = .ok bag) :
    g.ending args = g.settle (produced (g.callback (bag.toCallArgs g.contract.schema))) := by
  rw [validate_fst] at h
  rw [ending, answer, h]
  exact g.answerOf_settled _

theorem settle_error {o : Outcome} {e : CallError} (h : g.settle o = .error e) :
    e.isParameterError = false := by
  cases o with
  | error fault => cases h; rfl
  | ok v => exact Contract.checkReturned_error h

/-! ## When things happen -/

theorem since_validate (g : Guard) (args : List Value) (l : Ledger) :
    l.since (g.validate args l).2 =
      (g.contract.schema.validateArgs args).runs.map .predicate :=
  Ledger.since_of_append (g.journal_validate args l)

theorem since_call (g : Guard) (args : List Value) (l : Ledger) :
    l.since (g.call args l).2 =
      l.since (g.validate args l).2 ++ g.activityAfter (g.validate args l).1 := by
  rw [since_validate, validate_fst]
  refine Ledger.since_of_append ?_
  rw [journal_call, List.append_assoc]

theorem callbackRuns_call (g : Guard) (args : List Value) (l : Ledger) :
    callbackRuns (l.since (g.call args l).2) =
      match (g.validate args l).1 with
      | .ok bag => [bag.toCallArgs g.contract.schema]
      | .error _ => [] := by
  rw [since_call, since_validate, callbackRuns_append, callbackRuns_predicates, List.nil_append]
  cases (g.validate args l).1 with
  | error e => rfl
  | ok bag =>
    rw [activityAfter, ← List.singleton_append, callbackRuns_append, callbackRuns_predicates]
    rfl

end Guard

theorem Reply.since_resolve (r : Reply) (l : Ledger) :
    l.since (r.resolve l).2 = r.settlingActivity :=
  Ledger.since_of_append (r.journal_resolve l)

theorem Reply.callbackRuns_settlingActivity (r : Reply) : callbackRuns r.settlingActivity = [] := by
  match r with
  | ready v => rfl
  | pending _ (.error fault) => rfl
  | pending g (.ok v) => exact callbackRuns_predicates (g.contract.checkReturned v).runs

/-! ## The protocol -/

/-- What a call of a guard keeps to, on the given arguments and ledger. -/
structure Guard.CallProtocol (g : Guard) (args : List Value) (l : Ledger) : Prop where
  /-- The callback runs once, on what the coerced bag holds, or not at all. -/
  runs : callbackRuns (l.since (g.call args l).2) =
    match (g.validate args l).1 with
    | .ok bag => [bag.toCallArgs g.contract.schema]
    | .error _ => []
  /-- The predicates of the parameters run before the callback, and those of the result after it. -/
  order : (∃ parameterRuns : List PredicateRun,
      l.since (g.validate args l).2 = parameterRuns.map .predicate) ∧
    l.since (g.call args l).2 = l.since (g.validate args l).2 ++
      match (g.validate args l).1 with
      | .ok bag =>
        .callback (bag.toCallArgs g.contract.schema) ::
          (g.runsAfter (g.callback (bag.toCallArgs g.contract.schema))).map .predicate
      | .error _ => []
  /-- Nothing runs the callback again when the reply is settled. -/
  settling : ∀ (reply : Reply) (later : Ledger), (g.call args l).1 = .ok reply →
    callbackRuns (later.since (reply.resolve later).2) = []
  /-- An error tells whether the callback has run. -/
  errors : ∀ e, g.FailsWith args l e →
    (e.isParameterError ↔ callbackRuns (l.since (g.call args l).2) = [])
  /-- A failure of the callback comes out as it is, and no result is checked. -/
  failure : ∀ bag fault, (g.validate args l).1 = .ok bag →
    produced (g.callback (bag.toCallArgs g.contract.schema)) = .error fault →
      (∀ e, g.FailsWith args l e ↔ e = .callback fault) ∧ (∀ v, ¬ g.SucceedsWith args l v) ∧
      l.since (g.call args l).2 =
        l.since (g.validate args l).2 ++ [.callback (bag.toCallArgs g.contract.schema)] ∧
      ∀ (reply : Reply) (later : Ledger), (g.call args l).1 = .ok reply →
        later.since (reply.resolve later).2 = [.settled]
  /-- A value comes out exactly as it was produced, and if it passes the check of the result. -/
  success : ∀ v, g.SucceedsWith args l v ↔
    ∃ bag, (g.validate args l).1 = .ok bag ∧
      produced (g.callback (bag.toCallArgs g.contract.schema)) = .ok v ∧
      ∀ d, g.contract.returns = some d → (d.checkResult v).result = .ok ()

namespace Guard

variable {g : Guard} {args : List Value} {l : Ledger}

theorem isParameterError_iff_of_failsWith {e : CallError} (h : g.FailsWith args l e) :
    e.isParameterError ↔ callbackRuns (l.since (g.call args l).2) = [] := by
  rw [failsWith_iff] at h
  rw [callbackRuns_call]
  cases hvalid : (g.validate args l).1 with
  | error e' =>
    obtain rfl : e' = e := Except.error.inj ((ending_of_error hvalid).symm.trans h)
    rw [validate_fst] at hvalid
    simp [Schema.validateArgs_error hvalid]
  | ok bag =>
    rw [ending_of_ok hvalid] at h
    simp [settle_error h]

theorem runsAfter_of_produced_error {output : Except Fault Output} {fault : Fault}
    (h : produced output = .error fault) : g.runsAfter output = [] := by
  match output with
  | .error _ => rfl
  | .ok (.ready _) => cases h
  | .ok (.pending _) => rfl

/-- A reply of a callback that fails in the end waits for the failure, and checks nothing then. -/
theorem settlingActivity_of_produced_error {output : Except Fault Output} {fault : Fault}
    {reply : Reply} (h : produced output = .error fault) (hreply : g.answerOf output = .ok reply) :
    reply.settlingActivity = [.settled] := by
  match output with
  | .error _ => cases hreply
  | .ok (.ready _) => cases h
  | .ok (.pending _) =>
    cases hreply
    cases h
    rfl

theorem since_call_of_ok {bag : Bag} (h : (g.validate args l).1 = .ok bag) :
    l.since (g.call args l).2 = l.since (g.validate args l).2 ++
      .callback (bag.toCallArgs g.contract.schema) ::
        (g.runsAfter (g.callback (bag.toCallArgs g.contract.schema))).map .predicate := by
  rw [since_call, h]
  rfl

theorem succeedsWith_iff_exists {v : Value} :
    g.SucceedsWith args l v ↔
      ∃ bag, (g.validate args l).1 = .ok bag ∧
        produced (g.callback (bag.toCallArgs g.contract.schema)) = .ok v ∧
        ∀ d, g.contract.returns = some d → (d.checkResult v).result = .ok () := by
  rw [succeedsWith_iff]
  cases hvalid : (g.validate args l).1 with
  | error e => simp [ending_of_error hvalid]
  | ok bag =>
    rw [ending_of_ok hvalid]
    cases hproduced : produced (g.callback (bag.toCallArgs g.contract.schema)) with
    | error fault => simp [settle, hproduced]
    | ok w =>
      rw [settle, Contract.checkReturned_ok]
      constructor
      · rintro ⟨rfl, hcheck⟩
        exact ⟨bag, rfl, hproduced, hcheck⟩
      · rintro ⟨bag', hbag, hv, hcheck⟩
        obtain rfl := Except.ok.inj hbag
        obtain rfl : w = v := Except.ok.inj (hproduced.symm.trans hv)
        exact ⟨rfl, hcheck⟩

end Guard

/-- **Every call keeps to the protocol**, of any guard, on any arguments. -/
theorem call_protocol (g : Guard) (args : List Value) (l : Ledger) : g.CallProtocol args l where
  runs := g.callbackRuns_call args l
  order := by
    refine ⟨⟨_, g.since_validate args l⟩, ?_⟩
    cases hvalid : (g.validate args l).1 with
    | error e => rw [g.since_call, hvalid]; rfl
    | ok bag => exact Guard.since_call_of_ok hvalid
  settling := by
    intro reply later _
    rw [Reply.since_resolve]
    exact reply.callbackRuns_settlingActivity
  errors := fun e h => Guard.isParameterError_iff_of_failsWith h
  failure := by
    intro bag fault hvalid hfault
    have hending : g.ending args = .error (.callback fault) := by
      rw [Guard.ending_of_ok hvalid, hfault]; rfl
    refine ⟨fun e => ?_, fun v => ?_, ?_, fun reply later hreply => ?_⟩
    · rw [Guard.failsWith_iff, hending, Except.error.injEq, eq_comm]
    · rw [Guard.succeedsWith_iff, hending]
      simp
    · rw [Guard.since_call_of_ok hvalid, Guard.runsAfter_of_produced_error hfault]
      rfl
    · rw [Guard.validate_fst] at hvalid
      rw [Guard.call_fst, Guard.answer, hvalid] at hreply
      rw [Reply.since_resolve]
      exact Guard.settlingActivity_of_produced_error hfault hreply
  success := fun v => Guard.succeedsWith_iff_exists

/-- A predicate that fails on null, for a parameter and for a result. -/
example :
    let fragile : Descriptor := .predicate
      { name := "fragile"
        check := fun v => if v.isNull then .error ⟨"null", 0⟩ else .ok (.ready (.bool true)) }
    let g : Guard :=
      { contract := { schema := .positional [fragile], returns := some fragile, config := {} }
        callback := fun _ => .ok (.ready .null)
        channel := { config := {}, sink := .log, counters := 0 } }
    (g.call [.null] {}).1 = .error (.predicateRaised (.position 0) "fragile" ⟨"null", 0⟩) ∧
    callbackRuns (g.call [.null] {}).2.journal = [] ∧
    (g.call [.bool true] {}).1 = .error (.predicateRaised .result "fragile" ⟨"null", 0⟩) ∧
    callbackRuns (g.call [.bool true] {}).2.journal = [[.bool true]] :=
  ⟨rfl, rfl, rfl, rfl⟩

end CallContract
