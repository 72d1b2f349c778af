import CallContract.Guard.Basic

/-!
# What a guard answers and what it writes into the journal

The steps of a guard are functions on the ledger, but their answers do not depend on it, and what
they add to the journal does not either. This file takes the answers apart from the ledger:
`Schema.validateArgs` for the validation of arguments, `Contract.checkReturned` for the check of a
result, `Guard.answer` for a call and `Reply.settled` for its reply, the first two together with the
predicates that are run. For each step of a guard there is one equation for the answer and one for
the journal.
-/

namespace CallContract

/-! ## Entries of the journal -/

namespace Ledger

/-- What a step from one ledger to another has added to the journal. -/
def since (before after : Ledger) : List Activity := after.journal.drop before.journal.length

theorem since_of_append {before after : Ledger} {added : List Activity}
    (h : after.journal = before.journal ++ added) : before.since after = added := by
  rw [since, h, List.drop_left]

@[simp] theorem journal_note (l : Ledger) (activities : List Activity) :
    (l.note activities).journal = l.journal ++ activities := rfl

@[simp] theorem journal_noteRuns (l : Ledger) (runs : List PredicateRun) :
    (l.noteRuns runs).journal = l.journal ++ runs.map .predicate := rfl

@[simp] theorem journal_deliver (l : Ledger) (sink : Sink) (d : Diagnostic) :
    (l.deliver sink d).journal = l.journal := by
  cases sink <;> rfl

end Ledger

namespace Channel

@[simp] theorem journal_count (c : Channel) (f : Metrics → Metrics) (l : Ledger) :
    (c.count f l).journal = l.journal := rfl

@[simp] theorem journal_reportExtraField (c : Channel) (l : Ledger) (field : String) :
    (c.reportExtraField l field).journal = l.journal := by
  unfold reportExtraField
  split
  · rfl
  · rw [journal_count, Ledger.journal_deliver]

@[simp] theorem journal_reportExtraFields (c : Channel) (l : Ledger) (fields : List String) :
    (c.reportExtraFields l fields).journal = l.journal := by
  induction fields generalizing l with
  | nil => rfl
  | cons field fields ih =>
    show (c.reportExtraFields (c.reportExtraField l field) fields).journal = _
    rw [ih, journal_reportExtraField]

end Channel

/-- The arguments of the callback runs among some activities. -/
def callbackRuns (activities : List Activity) : List (List Value) :=
  activities.filterMap fun
    | .callback args => some args
    | _ => none

@[simp] theorem callbackRuns_append (as bs : List Activity) :
    callbackRuns (as ++ bs) = callbackRuns as ++ callbackRuns bs := List.filterMap_append

@[simp] theorem callbackRuns_predicates (runs : List PredicateRun) :
    callbackRuns (runs.map .predicate) = [] := by
  simp [callbackRuns, List.filterMap_map]

/-! ## Arguments -/

/-- Makes a bag of some arguments and validates it; answers the bag with its coercions. -/
def Schema.validateArgs (s : Schema) (args : List Value) : Traced (Except CallError Bag) :=
  match Bag.ofCall s args with
  | .error e => .pure (.error e)
  | .ok bag => (s.validate bag).map fun r => r.outcome.map fun _ => r.bag

namespace Schema

variable {s : Schema} {args : List Value}

theorem validateArgs_eq_ok_iff {bag : Bag} :
    (s.validateArgs args).result = .ok bag ↔
      ∃ supplied, Bag.ofCall s args = .ok supplied ∧
        (s.validate supplied).result = { bag, outcome := .ok () } := by
  unfold validateArgs
  cases Bag.ofCall s args with
  | error e => simp
  | ok supplied =>
    simp only [Traced.result_map, Except.ok.injEq, exists_eq_left']
    cases (s.validate supplied).result with
    | mk left outcome => cases outcome <;> simp [Except.map]

theorem validateArgs_eq_error_iff {e : CallError} :
    (s.validateArgs args).result = .error e ↔
      Bag.ofCall s args = .error e ∨
        ∃ supplied, Bag.ofCall s args = .ok supplied ∧
          (s.validate supplied).result.outcome = .error e := by
  unfold validateArgs
  cases Bag.ofCall s args with
  | error e' => simp
  | ok supplied =>
    simp only [Traced.result_map, Except.ok.injEq, exists_eq_left', reduceCtorEq, false_or]
    cases (s.validate supplied).result.outcome <;> simp [Except.map]

end Schema

namespace Guard

theorem validate_fst (g : Guard) (args : List Value) (l : Ledger) :
    (g.validate args l).1 = (g.contract.schema.validateArgs args).result := by
  unfold validate Schema.validateArgs
  cases Bag.ofCall g.contract.schema args <;> rfl

theorem journal_validate (g : Guard) (args : List Value) (l : Ledger) :
    (g.validate args l).2.journal =
      l.journal ++ (g.contract.schema.validateArgs args).runs.map .predicate := by
  unfold validate Schema.validateArgs
  cases Bag.ofCall g.contract.schema args with
  | error e => simp
  | ok bag => simp [Channel.validate]

end Guard

/-! ## Results -/

/-- Checks a result, if results are checked. -/
def Contract.checkReturned (c : Contract) (v : Value) : Traced (Except CallError Value) :=
  match c.returns with
  | none => .pure (.ok v)
  | some d => (d.checkResult v).map fun r => r.map fun _ => v

namespace Guard

theorem checkResult_fst (g : Guard) (v : Value) (l : Ledger) :
    (g.checkResult v l).1 = (g.contract.checkReturned v).result := by
  unfold checkResult Contract.checkReturned
  cases g.contract.returns with
  | none => rfl
  | some d =>
    simp only [Traced.result_map]
    cases (d.checkResult v).result <;> rfl

theorem journal_checkResult (g : Guard) (v : Value) (l : Ledger) :
    (g.checkResult v l).2.journal =
      l.journal ++ (g.contract.checkReturned v).runs.map .predicate := by
  unfold checkResult Contract.checkReturned
  cases g.contract.returns with
  | none => simp
  | some d =>
    simp only [Traced.runs_map]
    cases (d.checkResult v).result <;> rfl

end Guard

/-! ## Calls -/

namespace Guard

/-- What a call hands back when the callback has answered. -/
def answerOf (g : Guard) : Except Fault Output → Except CallError Reply
  | .error fault => .error (.callback fault)
  | .ok (.ready v) => (g.contract.checkReturned v).result.map .ready
  | .ok (.pending settled) => .ok (.pending g settled)

/-- The predicates that a call runs when the callback has answered. -/
def runsAfter (g : Guard) : Except Fault Output → List PredicateRun
  | .ok (.ready v) => (g.contract.checkReturned v).runs
  | _ => []

theorem runCallback_fst (g : Guard) (args : List Value) (l : Ledger) :
    (g.runCallback args l).1 = g.answerOf (g.callback args) := by
  unfold runCallback answerOf
  cases g.callback args with
  | error fault => rfl
  | ok output =>
    cases output with
    | ready v => simp only [checkResult_fst]
    | pending settled => rfl

theorem journal_runCallback (g : Guard) (args : List Value) (l : Ledger) :
    (g.runCallback args l).2.journal =
      l.journal ++ .callback args :: (g.runsAfter (g.callback args)).map .predicate := by
  unfold runCallback runsAfter
  cases g.callback args with
  | error fault => simp
  | ok output =>
    cases output with
    | ready v => simp [journal_checkResult]
    | pending settled => simp

/-- What a call hands back. -/
def answer (g : Guard) (args : List Value) : Except CallError Reply :=
  match (g.contract.schema.validateArgs args).result with
  | .error e => .error e
  | .ok bag => g.answerOf (g.callback (bag.toCallArgs g.contract.schema))

/-- What a call writes into the journal after the validation of its arguments. -/
def activityAfter (g : Guard) : Except CallError Bag → List Activity
  | .error _ => []
  | .ok bag =>
    let callArgs := bag.toCallArgs g.contract.schema
    .callback callArgs :: (g.runsAfter (g.callback callArgs)).map .predicate

theorem call_fst (g : Guard) (args : List Value) (l : Ledger) :
    (g.call args l).1 = g.answer args := by
  unfold call answer
  rw [← g.validate_fst args l]
  cases g.validate args l with
  | mk verdict after =>
    cases verdict with
    | error e => rfl
    | ok bag => exact g.runCallback_fst _ _

theorem journal_call (g : Guard) (args : List Value) (l : Ledger) :
    (g.call args l).2.journal = l.journal ++
      (g.contract.schema.validateArgs args).runs.map .predicate ++
        g.activityAfter (g.contract.schema.validateArgs args).result := by
  rw [← g.journal_validate args l, ← g.validate_fst args l, call]
  cases g.validate args l with
  | mk verdict after =>
    cases verdict with
    | error e => simp [activityAfter]
    | ok bag => simp [activityAfter, journal_runCallback]

end Guard

/-! ## Replies -/

namespace Reply

/-- What a reply settles to. -/
def settled : Reply → Except CallError Value
  | ready v => .ok v
  | pending _ (.error fault) => .error (.callback fault)
  | pending g (.ok v) => (g.contract.checkReturned v).result

/-- What the settling of a reply writes into the journal. -/
def settlingActivity : Reply → List Activity
  | ready _ => []
  | pending _ (.error _) => [.settled]
  | pending g (.ok v) => .settled :: (g.contract.checkReturned v).runs.map .predicate

theorem resolve_fst (r : Reply) (l : Ledger) : (r.resolve l).1 = r.settled := by
  cases r with
  | ready v => rfl
  | pending g outcome =>
    cases outcome with
    | error fault => rfl
    | ok v => exact g.checkResult_fst v _

theorem journal_resolve (r : Reply) (l : Ledger) :
    (r.resolve l).2.journal = l.journal ++ r.settlingActivity := by
  cases r with
  | ready v => simp [resolve, settlingActivity]
  | pending g outcome =>
    cases outcome with
    | error fault => rfl
    | ok v => simp [resolve, settlingActivity, Guard.journal_checkResult]

end Reply

end CallContract
