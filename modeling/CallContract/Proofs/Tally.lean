import CallContract.Proofs.Journal
import Mathlib.Algebra.BigOperators.Group.List.Basic

/-!
# What the steps of a guard leave behind

Each step of a guard does three things to the ledger: it delivers diagnostics, it writes into the
journal, and it counts. There is one equation a step, for the whole ledger: `Channel.validate_snd`
for the validation of a bag, `Guard.validate_snd` for one of arguments, `Guard.checkResult_snd` for
the check of a result, `Guard.call_snd` for a call and `Reply.resolve_snd` for its reply.

What is counted is a *tally*, four numbers without bound. Tallies add up, and counting one after
another is counting their sum (`Metrics.plus_add`), so the order of two steps cannot be told from
the counters. The tally of a step depends on the guard, the arguments and the quiet setting, and on
nothing else in the ledger.
-/

namespace CallContract

/-! ## Tallies -/

/-- What is to be counted. -/
@[ext]
structure Tally where
  /-- Calls whose arguments were valid. -/
  accepted : Nat := 0
  /-- Calls whose arguments were not. -/
  rejected : Nat := 0
  /-- Results refused. -/
  refused : Nat := 0
  /-- Diagnostics delivered. -/
  extra : Nat := 0

namespace Tally

instance : Zero Tally := ⟨{}⟩

instance : Add Tally :=
  ⟨fun s t =>
    { accepted := s.accepted + t.accepted
      rejected := s.rejected + t.rejected
      refused := s.refused + t.refused
      extra := s.extra + t.extra }⟩

@[simp] theorem accepted_zero : (0 : Tally).accepted = 0 := rfl
@[simp] theorem rejected_zero : (0 : Tally).rejected = 0 := rfl
@[simp] theorem refused_zero : (0 : Tally).refused = 0 := rfl
@[simp] theorem extra_zero : (0 : Tally).extra = 0 := rfl

variable (s t : Tally)

@[simp] theorem accepted_add : (s + t).accepted = s.accepted + t.accepted := rfl
@[simp] theorem rejected_add : (s + t).rejected = s.rejected + t.rejected := rfl
@[simp] theorem refused_add : (s + t).refused = s.refused + t.refused := rfl
@[simp] theorem extra_add : (s + t).extra = s.extra + t.extra := rfl

instance : AddCommMonoid Tally where
  add_assoc _ _ _ := by ext <;> simp [Nat.add_assoc]
  zero_add _ := by ext <;> simp
  add_zero _ := by ext <;> simp
  add_comm _ _ := by ext <;> simp [Nat.add_comm]
  nsmul := nsmulRec

end Tally

/-- A counter that goes on by a number. -/
def Counter.plus (c : Counter) (n : Nat) : Counter := c + UInt64.ofNat n

namespace Counter

@[simp] theorem plus_zero (c : Counter) : c.plus 0 = c := UInt64.add_zero c

theorem plus_one (c : Counter) : c.plus 1 = c + 1 := rfl

theorem plus_add (c : Counter) (m n : Nat) : c.plus (m + n) = (c.plus m).plus n := by
  rw [plus, plus, plus, UInt64.ofNat_add, UInt64.add_assoc]

/-- A counter that started from zero shows the number itself as long as the number fits. -/
theorem toNat_zero_plus {n : Nat} (h : n < UInt64.size) : ((0 : Counter).plus n).toNat = n := by
  rw [plus, UInt64.zero_add, UInt64.toNat_ofNat_of_lt' h]

end Counter

namespace Metrics

/-- The counters after a tally. -/
def plus (m : Metrics) (t : Tally) : Metrics where
  callsAccepted := m.callsAccepted.plus t.accepted
  callsRejected := m.callsRejected.plus t.rejected
  returnsRejected := m.returnsRejected.plus t.refused
  extraFields := m.extraFields.plus t.extra

@[simp] theorem plus_zero (m : Metrics) : m.plus 0 = m := by
  simp [plus]

theorem plus_add (m : Metrics) (s t : Tally) : m.plus (s + t) = (m.plus s).plus t := by
  simp [plus, Counter.plus_add]

theorem countAccepted_eq (m : Metrics) : m.countAccepted = m.plus { accepted := 1 } := by
  simp [countAccepted, plus, Counter.plus_one]

theorem countRejected_eq (m : Metrics) : m.countRejected = m.plus { rejected := 1 } := by
  simp [countRejected, plus, Counter.plus_one]

theorem countReturnRejected_eq (m : Metrics) :
    m.countReturnRejected = m.plus { refused := 1 } := by
  simp [countReturnRejected, plus, Counter.plus_one]

theorem countExtraField_eq (m : Metrics) : m.countExtraField = m.plus { extra := 1 } := by
  simp [countExtraField, plus, Counter.plus_one]

end Metrics

/-! ## Ledgers -/

namespace Ledger

variable (l : Ledger)

/-- The ledger after a tally on the counters of a number. -/
def tally (number : Nat) (t : Tally) : Ledger := l.count number (·.plus t)

theorem tally_zero (number : Nat) : l.tally number 0 = l := by
  have hid : (fun m : Metrics => m.plus 0) = id := funext Metrics.plus_zero
  rw [tally, count, hid, List.modify_id]

theorem tally_add (number : Nat) (s t : Tally) :
    l.tally number (s + t) = (l.tally number s).tally number t := by
  have hcomp : (fun m : Metrics => m.plus (s + t)) = (·.plus t) ∘ (·.plus s) :=
    funext fun m => m.plus_add s t
  rw [tally, tally, tally, count, count, count, hcomp, List.modify_modify_eq]

theorem metrics_tally (number : Nat) (t : Tally) :
    (l.tally number t).metrics number =
      if number < l.counters.length then (l.metrics number).plus t else l.metrics number := by
  unfold metrics tally count
  by_cases h : number < l.counters.length <;> simp [h]

theorem returnsRejected_tally {number : Nat} {t : Tally} (h : t.refused = 0) :
    ((l.tally number t).metrics number).returnsRejected = (l.metrics number).returnsRejected := by
  rw [metrics_tally]
  split
  · rw [Metrics.plus, h, Counter.plus_zero]
  · rfl

@[simp] theorem metrics_note (number : Nat) (activities : List Activity) :
    (l.note activities).metrics number = l.metrics number := rfl

/-- Delivers some diagnostics, in order. -/
def deliverAll (sink : Sink) (ds : List Diagnostic) : Ledger :=
  ds.foldl (fun l d => l.deliver sink d) l

theorem deliver_tally (number : Nat) (t : Tally) (sink : Sink) (d : Diagnostic) :
    (l.tally number t).deliver sink d = (l.deliver sink d).tally number t := by
  cases sink <;> rfl

theorem deliverAll_tally (number : Nat) (t : Tally) (sink : Sink) (ds : List Diagnostic) :
    (l.tally number t).deliverAll sink ds = (l.deliverAll sink ds).tally number t := by
  induction ds generalizing l with
  | nil => rfl
  | cons d ds ih =>
    show ((l.tally number t).deliver sink d).deliverAll sink ds = _
    rw [deliver_tally, ih]
    rfl

theorem note_tally (number : Nat) (t : Tally) (activities : List Activity) :
    (l.tally number t).note activities = (l.note activities).tally number t := rfl

@[simp] theorem note_nil : l.note [] = l := by
  simp [note]

theorem note_note (as bs : List Activity) : (l.note as).note bs = l.note (as ++ bs) := by
  simp [note]

/-- A delivery changes the sinks and nothing else. -/
theorem deliverAll_eq (sink : Sink) (ds : List Diagnostic) :
    ∃ memory handed log, l.deliverAll sink ds = { l with memory, handed, log } := by
  induction ds generalizing l with
  | nil => exact ⟨l.memory, l.handed, l.log, rfl⟩
  | cons d ds ih =>
    obtain ⟨memory, handed, log, h⟩ := ih (l.deliver sink d)
    refine ⟨memory, handed, log, ?_⟩
    show (l.deliver sink d).deliverAll sink ds = _
    rw [h]
    cases sink <;> rfl

@[simp] theorem counters_deliverAll (sink : Sink) (ds : List Diagnostic) :
    (l.deliverAll sink ds).counters = l.counters := by
  obtain ⟨_, _, _, h⟩ := l.deliverAll_eq sink ds
  rw [h]

@[simp] theorem metrics_deliverAll (sink : Sink) (ds : List Diagnostic) (number : Nat) :
    (l.deliverAll sink ds).metrics number = l.metrics number := by
  rw [metrics, counters_deliverAll, metrics]

@[simp] theorem globalQuiet_deliverAll (sink : Sink) (ds : List Diagnostic) :
    (l.deliverAll sink ds).globalQuiet = l.globalQuiet := by
  obtain ⟨_, _, _, h⟩ := l.deliverAll_eq sink ds
  rw [h]

@[simp] theorem journal_deliverAll (sink : Sink) (ds : List Diagnostic) :
    (l.deliverAll sink ds).journal = l.journal := by
  obtain ⟨_, _, _, h⟩ := l.deliverAll_eq sink ds
  rw [h]

/-! ### Sinks -/

/-- The number of diagnostics that have been delivered to a sink. -/
def delivered : Sink → Nat
  | .log => l.log.length
  | .memory number => (l.records number).length
  | .supplied number => (l.handedTo number).length

/-- There is a sink of this name. Whoever supplies a sink has it. -/
def HasSink : Sink → Prop
  | .log => True
  | .memory number => number < l.memory.length
  | .supplied _ => True

variable {l}

theorem hasSink_deliver_iff {sink target : Sink} {d : Diagnostic} :
    (l.deliver sink d).HasSink target ↔ l.HasSink target := by
  cases target with
  | log | supplied _ => rfl
  | memory number =>
    cases sink with
    | log | supplied _ => rfl
    | memory other => simp [HasSink, deliver]

theorem hasSink_deliverAll_iff {sink target : Sink} {ds : List Diagnostic} :
    (l.deliverAll sink ds).HasSink target ↔ l.HasSink target := by
  induction ds generalizing l with
  | nil => rfl
  | cons d ds ih => exact ih.trans hasSink_deliver_iff

theorem delivered_deliver {sink : Sink} (h : l.HasSink sink) (d : Diagnostic) :
    (l.deliver sink d).delivered sink = l.delivered sink + 1 := by
  cases sink with
  | log => simp [delivered, deliver]
  | memory number =>
    have hnumber : number < l.memory.length := h
    simp [delivered, records, deliver, hnumber]
  | supplied number => simp [delivered, handedTo, deliver]

theorem delivered_deliverAll {sink : Sink} (h : l.HasSink sink) (ds : List Diagnostic) :
    (l.deliverAll sink ds).delivered sink = l.delivered sink + ds.length := by
  induction ds generalizing l with
  | nil => rfl
  | cons d ds ih =>
    show ((l.deliver sink d).deliverAll sink ds).delivered sink = _
    rw [ih (hasSink_deliver_iff.2 h), delivered_deliver h, List.length_cons]
    omega

end Ledger

/-! ## Reports of extra fields -/

namespace Channel

theorem count_accepted (c : Channel) (l : Ledger) :
    c.count Metrics.countAccepted l = l.tally c.counters { accepted := 1 } :=
  congrArg (l.count c.counters) (funext Metrics.countAccepted_eq)

theorem count_rejected (c : Channel) (l : Ledger) :
    c.count Metrics.countRejected l = l.tally c.counters { rejected := 1 } :=
  congrArg (l.count c.counters) (funext Metrics.countRejected_eq)

theorem count_returnRejected (c : Channel) (l : Ledger) :
    c.count Metrics.countReturnRejected l = l.tally c.counters { refused := 1 } :=
  congrArg (l.count c.counters) (funext Metrics.countReturnRejected_eq)

theorem count_extraField (c : Channel) (l : Ledger) :
    c.count Metrics.countExtraField l = l.tally c.counters { extra := 1 } :=
  congrArg (l.count c.counters) (funext Metrics.countExtraField_eq)

/-- The diagnostics for some fields, none if the channel is quiet. -/
def diagnostics (c : Channel) (globalQuiet : Bool) (fields : List String) : List Diagnostic :=
  if c.config.isQuiet globalQuiet then []
  else fields.map fun field => { guard := c.config.displayName, field }

@[simp] theorem diagnostics_nil (c : Channel) (globalQuiet : Bool) :
    c.diagnostics globalQuiet [] = [] := by
  simp [diagnostics]

/-- **A report delivers its diagnostics and counts them.** -/
theorem reportExtraFields_eq (c : Channel) (l : Ledger) (fields : List String) :
    c.reportExtraFields l fields =
      (l.deliverAll c.sink (c.diagnostics l.globalQuiet fields)).tally c.counters
        { extra := (c.diagnostics l.globalQuiet fields).length } := by
  induction fields generalizing l with
  | nil =>
    rw [diagnostics_nil]
    exact (l.tally_zero c.counters).symm
  | cons field fields ih =>
    show c.reportExtraFields (c.reportExtraField l field) fields = _
    by_cases hquiet : c.config.isQuiet l.globalQuiet
    · have hskip : c.reportExtraField l field = l := by simp [reportExtraField, isQuiet, hquiet]
      rw [hskip, ih]
      simp [diagnostics, hquiet]
    · let d : Diagnostic := { guard := c.config.displayName, field }
      let rest := c.diagnostics l.globalQuiet fields
      have hreport : c.reportExtraField l field =
          (l.deliver c.sink d).tally c.counters { extra := 1 } := by
        rw [reportExtraField, isQuiet, if_neg hquiet, count_extraField]
      have hdiagnostics : c.diagnostics l.globalQuiet (field :: fields) = d :: rest := by
        simp [diagnostics, hquiet, d, rest]
      have hsum : ({ extra := rest.length + 1 } : Tally) =
          { extra := 1 } + { extra := rest.length } := by
        ext <;> simp [Nat.add_comm]
      have hglobal : ((l.deliver c.sink d).tally c.counters { extra := 1 }).globalQuiet =
          l.globalQuiet := by
        cases c.sink <;> rfl
      rw [hreport, ih, hglobal, hdiagnostics, Ledger.deliverAll_tally, List.length_cons, hsum,
        Ledger.tally_add]
      rfl

/-- **What the validation of a bag leaves behind.** -/
theorem validate_snd (c : Channel) (s : Schema) (bag : Bag) (l : Ledger) :
    (c.validate s bag l).2 =
      ((l.deliverAll c.sink (c.diagnostics l.globalQuiet (s.extraFields bag))).note
          ((s.validate bag).runs.map .predicate)).tally c.counters
        { extra := (c.diagnostics l.globalQuiet (s.extraFields bag)).length } := by
  rw [validate, reportExtraFields_eq, Ledger.noteRuns, Ledger.note_tally]

end Channel

/-! ## Steps of a guard -/

/-- The fields of some arguments that the schema does not declare. -/
def Schema.extraIn (s : Schema) (args : List Value) : List String :=
  match Bag.ofCall s args with
  | .error _ => []
  | .ok bag => s.extraFields bag

/-- A result is refused. -/
def Contract.refuses (c : Contract) (v : Value) : Bool :=
  match c.returns with
  | none => false
  | some d => !(d.checkResult v).result.isOk

/-- The result in an answer of a callback that is there at once. -/
def readyOf : Except Fault Output → List Value
  | .ok (.ready v) => [v]
  | _ => []

/-- The result in an answer of a callback that is still to come. -/
def promisedOf : Except Fault Output → List Value
  | .ok (.pending (.ok v)) => [v]
  | _ => []

namespace Guard

variable (g : Guard)

/-- The diagnostics for some arguments. -/
def diagnostics (globalQuiet : Bool) (args : List Value) : List Diagnostic :=
  g.channel.diagnostics globalQuiet (g.contract.schema.extraIn args)

/-- What the callback answers for some arguments, if they are valid. -/
def output? (args : List Value) : Option (Except Fault Output) :=
  match (g.contract.schema.validateArgs args).result with
  | .error _ => none
  | .ok bag => some (g.callback (bag.toCallArgs g.contract.schema))

/-- The result that a call produces at once, if it does. -/
def readyResults (args : List Value) : List Value :=
  match g.output? args with
  | none => []
  | some output => readyOf output

/-- The result that a call produces when its reply is settled, if it does. -/
def promisedResults (args : List Value) : List Value :=
  match g.output? args with
  | none => []
  | some output => promisedOf output

/-- What a call counts. -/
def callTally (globalQuiet : Bool) (args : List Value) : Tally where
  accepted := if (g.output? args).isSome then 1 else 0
  rejected := if (g.output? args).isSome then 0 else 1
  refused := (g.readyResults args).countP g.contract.refuses
  extra := (g.diagnostics globalQuiet args).length

/-- What the settling of the reply of a call counts. -/
def settlingTally (args : List Value) : Tally where
  refused := (g.promisedResults args).countP g.contract.refuses

variable (l : Ledger)

/-- **What a validation leaves behind.** -/
theorem validate_snd (args : List Value) :
    (g.validate args l).2 =
      ((l.deliverAll g.channel.sink (g.diagnostics l.globalQuiet args)).note
          ((g.contract.schema.validateArgs args).runs.map .predicate)).tally g.channel.counters
        { extra := (g.diagnostics l.globalQuiet args).length } := by
  unfold validate Schema.validateArgs diagnostics Schema.extraIn
  cases Bag.ofCall g.contract.schema args with
  | error e =>
    simp only [Channel.diagnostics_nil, Traced.runs_pure, List.map_nil, Ledger.note_nil]
    exact (l.tally_zero g.channel.counters).symm
  | ok bag =>
    exact g.channel.validate_snd g.contract.schema bag l

/-- **What the check of a result leaves behind.** -/
theorem checkResult_snd (v : Value) :
    (g.checkResult v l).2 =
      (l.note ((g.contract.checkReturned v).runs.map .predicate)).tally g.channel.counters
        { refused := [v].countP g.contract.refuses } := by
  rw [List.countP_singleton]
  cases hreturns : g.contract.returns with
  | none =>
    simp only [checkResult, Contract.checkReturned, Contract.refuses, hreturns, Traced.runs_pure,
      List.map_nil, Ledger.note_nil]
    exact (l.tally_zero g.channel.counters).symm
  | some d =>
    simp only [checkResult, Contract.checkReturned, Contract.refuses, hreturns]
    cases hresult : (d.checkResult v).result with
    | ok => exact (Ledger.tally_zero _ g.channel.counters).symm
    | error e =>
      exact g.channel.count_returnRejected (l.noteRuns (d.checkResult v).runs)

theorem runCallback_snd (args : List Value) :
    (g.runCallback args l).2 =
      (l.note (.callback args :: (g.runsAfter (g.callback args)).map .predicate)).tally
        g.channel.counters
          { refused := (readyOf (g.callback args)).countP g.contract.refuses } := by
  unfold runCallback
  cases g.callback args with
  | error fault => exact (Ledger.tally_zero _ g.channel.counters).symm
  | ok output =>
    cases output with
    | ready v =>
      simp only [checkResult_snd, Ledger.note_note]
      rfl
    | pending settled => exact (Ledger.tally_zero _ g.channel.counters).symm

section Verdict

variable {g} {args : List Value}

theorem output?_of_error {e : CallError}
    (h : (g.contract.schema.validateArgs args).result = .error e) : g.output? args = none := by
  rw [output?, h]

theorem output?_of_ok {bag : Bag} (h : (g.contract.schema.validateArgs args).result = .ok bag) :
    g.output? args = some (g.callback (bag.toCallArgs g.contract.schema)) := by
  rw [output?, h]

theorem validate_eq (g : Guard) (args : List Value) (l : Ledger) :
    g.validate args l = ((g.contract.schema.validateArgs args).result, (g.validate args l).2) :=
  Prod.ext (g.validate_fst args l) rfl

theorem call_snd_of_error {e : CallError}
    (h : (g.contract.schema.validateArgs args).result = .error e) :
    (g.call args l).2 = g.channel.count Metrics.countRejected (g.validate args l).2 := by
  rw [call, validate_eq, h]

theorem call_snd_of_ok {bag : Bag} (h : (g.contract.schema.validateArgs args).result = .ok bag) :
    (g.call args l).2 =
      (g.runCallback (bag.toCallArgs g.contract.schema)
        (g.channel.count Metrics.countAccepted (g.validate args l).2)).2 := by
  rw [call, validate_eq, h]

theorem callTally_of_error {e : CallError} (globalQuiet : Bool)
    (h : (g.contract.schema.validateArgs args).result = .error e) :
    g.callTally globalQuiet args =
      { extra := (g.diagnostics globalQuiet args).length } + { rejected := 1 } := by
  ext <;> simp [callTally, readyResults, output?_of_error h]

theorem callTally_of_ok {bag : Bag} (globalQuiet : Bool)
    (h : (g.contract.schema.validateArgs args).result = .ok bag) :
    g.callTally globalQuiet args =
      { extra := (g.diagnostics globalQuiet args).length } + { accepted := 1 } +
        { refused := (readyOf (g.callback (bag.toCallArgs g.contract.schema))).countP
            g.contract.refuses } := by
  ext <;> simp [callTally, readyResults, output?_of_ok h]

end Verdict

/-- **What a call leaves behind.** -/
theorem call_snd (args : List Value) :
    (g.call args l).2 =
      ((l.deliverAll g.channel.sink (g.diagnostics l.globalQuiet args)).note
          ((g.contract.schema.validateArgs args).runs.map .predicate ++
            g.activityAfter (g.contract.schema.validateArgs args).result)).tally g.channel.counters
        (g.callTally l.globalQuiet args) := by
  cases h : (g.contract.schema.validateArgs args).result with
  | error e =>
    rw [call_snd_of_error l h, validate_snd, Channel.count_rejected, callTally_of_error _ h,
      Ledger.tally_add, activityAfter, List.append_nil]
  | ok bag =>
    rw [call_snd_of_ok l h, runCallback_snd, validate_snd, Channel.count_accepted,
      callTally_of_ok _ h, Ledger.tally_add, Ledger.tally_add, Ledger.note_tally,
      Ledger.note_tally, Ledger.note_note]
    rfl

end Guard

/-- A reply is a value that was there at once, or the promise of the callback. -/
theorem Guard.answerOf_eq_ok {g : Guard} {output : Except Fault Output} {reply : Reply}
    (h : g.answerOf output = .ok reply) :
    (∃ v w, output = .ok (.ready v) ∧ reply = .ready w) ∨
      ∃ settled, output = .ok (.pending settled) ∧ reply = .pending g settled := by
  match output with
  | .error fault => cases h
  | .ok (.ready v) =>
    left
    rw [answerOf] at h
    cases hchecked : (g.contract.checkReturned v).result with
    | error e => rw [hchecked] at h; cases h
    | ok w =>
      rw [hchecked] at h
      cases h
      exact ⟨v, w, rfl, rfl⟩
  | .ok (.pending settled) =>
    right
    cases h
    exact ⟨settled, rfl, rfl⟩

/-- **What the reply of a call leaves behind** when it is settled. -/
theorem Reply.resolve_snd {g : Guard} {args : List Value} {reply : Reply}
    (h : g.answer args = .ok reply) (l : Ledger) :
    (reply.resolve l).2 =
      (l.note reply.settlingActivity).tally g.channel.counters (g.settlingTally args) := by
  cases hverdict : (g.contract.schema.validateArgs args).result with
  | error e => rw [Guard.answer, hverdict] at h; cases h
  | ok bag =>
    rw [Guard.answer, hverdict] at h
    rw [Guard.settlingTally, Guard.promisedResults, Guard.output?_of_ok hverdict]
    rcases Guard.answerOf_eq_ok h with ⟨v, w, houtput, rfl⟩ | ⟨settled, houtput, rfl⟩
    · rw [houtput, settlingActivity, Ledger.note_nil]
      exact (l.tally_zero _).symm
    · rw [houtput]
      cases settled with
      | error fault => exact (Ledger.tally_zero _ _).symm
      | ok v =>
        have hcheck := g.checkResult_snd (l.note [.settled]) v
        rw [Ledger.note_note] at hcheck
        exact hcheck

end CallContract
