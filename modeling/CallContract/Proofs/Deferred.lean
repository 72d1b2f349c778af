import CallContract.Guard.Session
import CallContract.Proofs.CallProtocol
import CallContract.Proofs.Tally

/-!
# Results at once and results with a promise

**Theorem (`deferred_refines`).** A callback that promises its outcome and a callback that delivers
the same outcome at once cannot be told apart by what comes out of an invocation, by the predicates
that are run and their order, or by the counters. They differ in when things happen: a call hands
back the promise as it is, and the check of the result is run when the reply is settled, once, and
not at all if the reply is dropped or the promise fails.

Both ledgers can be written down (`Guard.atOnce_invoke_snd`, `Guard.deferred_invoke_snd`): they
start from that of an accepted call and differ by one entry of the journal, the settling.
-/

namespace CallContract

/-- The activities without the settling of promises. -/
def unsettled (activities : List Activity) : List Activity :=
  activities.filter fun
    | .settled => false
    | _ => true

theorem unsettled_append (as bs : List Activity) :
    unsettled (as ++ bs) = unsettled as ++ unsettled bs := List.filter_append ..

theorem unsettled_predicates (runs : List PredicateRun) :
    unsettled (runs.map .predicate) = runs.map .predicate := by
  rw [unsettled, List.filter_eq_self]
  intro a ha
  obtain ⟨run, -, rfl⟩ := List.mem_map.1 ha
  rfl

/-- The result in an outcome, if there is one. -/
def resultOf : Outcome → List Value
  | .error _ => []
  | .ok v => [v]

/-- The predicates that are run to check an outcome. -/
def Contract.outcomeRuns (c : Contract) : Outcome → List PredicateRun
  | .error _ => []
  | .ok v => (c.checkReturned v).runs

theorem Reply.settlingActivity_pending (g : Guard) (o : Outcome) :
    (Reply.pending g o).settlingActivity =
      .settled :: (g.contract.outcomeRuns o).map .predicate := by
  cases o <;> rfl

namespace Guard

/-- The guard with a callback that delivers an outcome at once. -/
def atOnce (g : Guard) (outcome : List Value → Outcome) : Guard :=
  { g with callback := fun args => (outcome args).map .ready }

/-- The guard with a callback that promises an outcome. -/
def deferred (g : Guard) (outcome : List Value → Outcome) : Guard :=
  { g with callback := fun args => .ok (.pending (outcome args)) }

variable {g : Guard} {args : List Value} {l : Ledger}

/-! ## Invocations -/

theorem call_eq (g : Guard) (args : List Value) (l : Ledger) :
    g.call args l = (g.answer args, (g.call args l).2) := Prod.ext (g.call_fst args l) rfl

theorem invoke_of_error {e : CallError} (h : g.answer args = .error e) :
    g.invoke args l = (.error e, (g.call args l).2) := by
  rw [invoke, call_eq, h]

theorem invoke_of_ok {reply : Reply} (h : g.answer args = .ok reply) :
    g.invoke args l = reply.resolve (g.call args l).2 := by
  rw [invoke, call_eq, h]

theorem invoke_fst (g : Guard) (args : List Value) (l : Ledger) :
    (g.invoke args l).1 = g.ending args := by
  cases h : g.answer args with
  | error e => rw [invoke_of_error h, ending, h]; rfl
  | ok reply => rw [invoke_of_ok h, Reply.resolve_fst, ending, h]; rfl

/-! ## Accepted calls -/

/-- The ledger in which the callback of an accepted call is run. -/
def accepted (g : Guard) (args : List Value) (l : Ledger) : Ledger :=
  g.channel.count Metrics.countAccepted (g.validate args l).2

/-- Up to the callback no refusal is counted. -/
theorem returnsRejected_accepted (g : Guard) (args : List Value) (l : Ledger) :
    (g.metrics (g.accepted args l)).returnsRejected = (g.metrics l).returnsRejected := by
  rw [metrics, metrics, accepted, Channel.count_accepted, Ledger.returnsRejected_tally _ rfl,
    validate_snd, Ledger.returnsRejected_tally _ rfl]
  simp

section Accepted

variable {bag : Bag} (outcome : List Value → Outcome)
  (h : (g.contract.schema.validateArgs args).result = .ok bag)

include h

theorem atOnce_call_snd :
    ((g.atOnce outcome).call args l).2 =
      ((g.accepted args l).note (.callback (bag.toCallArgs g.contract.schema) ::
          (g.contract.outcomeRuns (outcome (bag.toCallArgs g.contract.schema))).map
            .predicate)).tally g.channel.counters
        { refused := (resultOf (outcome (bag.toCallArgs g.contract.schema))).countP
            g.contract.refuses } := by
  have hcall := (g.atOnce outcome).call_snd_of_ok l h
  rw [runCallback_snd] at hcall
  simp only [atOnce] at hcall ⊢
  cases houtcome : outcome (bag.toCallArgs g.contract.schema) with
  | error fault => rw [houtcome] at hcall; exact hcall
  | ok v => rw [houtcome] at hcall; exact hcall

/-- Nothing is left to do for a result that is there at once. -/
theorem atOnce_invoke_snd :
    ((g.atOnce outcome).invoke args l).2 = ((g.atOnce outcome).call args l).2 := by
  cases hanswer : (g.atOnce outcome).answer args with
  | error e => rw [invoke_of_error hanswer]
  | ok reply =>
    rw [invoke_of_ok hanswer]
    rw [answer, show (g.atOnce outcome).contract = g.contract from rfl, h] at hanswer
    rcases answerOf_eq_ok hanswer with ⟨v, w, -, rfl⟩ | ⟨settled, houtput, -⟩
    · rfl
    · simp only [atOnce] at houtput
      cases houtcome : outcome (bag.toCallArgs g.contract.schema) with
      | error fault => rw [houtcome] at houtput; cases houtput
      | ok v => rw [houtcome] at houtput; cases houtput

theorem deferred_answer :
    (g.deferred outcome).answer args =
      .ok (.pending (g.deferred outcome) (outcome (bag.toCallArgs g.contract.schema))) := by
  rw [answer, show (g.deferred outcome).contract = g.contract from rfl, h]
  rfl

theorem deferred_call_snd :
    ((g.deferred outcome).call args l).2 =
      (g.accepted args l).note [.callback (bag.toCallArgs g.contract.schema)] := by
  rw [(g.deferred outcome).call_snd_of_ok l h]
  rfl

theorem deferred_settlingTally :
    (g.deferred outcome).settlingTally args =
      { refused := (resultOf (outcome (bag.toCallArgs g.contract.schema))).countP
          g.contract.refuses } := by
  rw [settlingTally, promisedResults, output?_of_ok (g := g.deferred outcome) h]
  simp only [deferred]
  cases outcome (bag.toCallArgs g.contract.schema) <;> rfl

theorem deferred_invoke_snd :
    ((g.deferred outcome).invoke args l).2 =
      ((g.accepted args l).note (.callback (bag.toCallArgs g.contract.schema) :: .settled ::
          (g.contract.outcomeRuns (outcome (bag.toCallArgs g.contract.schema))).map
            .predicate)).tally g.channel.counters
        { refused := (resultOf (outcome (bag.toCallArgs g.contract.schema))).countP
            g.contract.refuses } := by
  have hanswer := deferred_answer outcome h
  rw [invoke_of_ok hanswer, Reply.resolve_snd hanswer, deferred_call_snd outcome h,
    Ledger.note_note, deferred_settlingTally outcome h, Reply.settlingActivity_pending]
  rfl

end Accepted

/-- The callback does not matter for arguments that are not valid. -/
theorem invoke_of_refused {e : CallError}
    (h : (g.contract.schema.validateArgs args).result = .error e) :
    g.invoke args l = (.error e, g.channel.count Metrics.countRejected (g.validate args l).2) := by
  have hanswer : g.answer args = .error e := by rw [answer, h]
  rw [invoke_of_error hanswer, call_snd_of_error l h]

/-! ## The comparison -/

/-- A guard that promises the outcomes of its callback compares with one that delivers them at
once, in a call with the given arguments and ledger. -/
structure Refines (deferred now : Guard) (outcome : List Value → Outcome) (args : List Value)
    (l : Ledger) : Prop where
  /-- The same comes out. -/
  result : (deferred.invoke args l).1 = (now.invoke args l).1
  /-- The same predicates and the callback run on the same values in the same order. -/
  activity : unsettled (l.since (deferred.invoke args l).2) = l.since (now.invoke args l).2
  /-- All counters end the same. -/
  counters : (deferred.invoke args l).2.counters = (now.invoke args l).2.counters
  /-- A call hands the promise back. It does not settle it, and neither runs a predicate of the
  result nor counts a refusal. -/
  pending : ∀ bag, (deferred.validate args l).1 = .ok bag →
    let callArgs := bag.toCallArgs deferred.contract.schema
    (deferred.call args l).1 = .ok (.pending deferred (outcome callArgs)) ∧
      l.since (deferred.call args l).2 =
        l.since (deferred.validate args l).2 ++ [.callback callArgs] ∧
      (deferred.metrics (deferred.call args l).2).returnsRejected =
        (deferred.metrics l).returnsRejected
  /-- When the reply is settled, then or later, the result is checked once. -/
  settling : ∀ bag reply later v, (deferred.validate args l).1 = .ok bag →
    (deferred.call args l).1 = .ok reply →
    outcome (bag.toCallArgs deferred.contract.schema) = .ok v →
      (reply.resolve later).1 = (deferred.contract.checkReturned v).result ∧
      later.since (reply.resolve later).2 =
        .settled :: (deferred.contract.checkReturned v).runs.map .predicate ∧
      (reply.resolve later).2.counters =
        (later.tally deferred.channel.counters
          { refused := if deferred.contract.refuses v then 1 else 0 }).counters
  /-- A failure of the promise is passed on and nothing is checked. -/
  failure : ∀ bag reply later fault, (deferred.validate args l).1 = .ok bag →
    (deferred.call args l).1 = .ok reply →
    outcome (bag.toCallArgs deferred.contract.schema) = .error fault →
      reply.resolve later = (.error (.callback fault), later.note [.settled])
  /-- A reply that has been settled is not settled again. -/
  once : ((Session.opened deferred l).run [.call 0 args, .resolve 0, .resolve 0]).ledger =
    (deferred.invoke args l).2
  /-- Nothing comes after a reply is dropped. -/
  dropping : ((Session.opened deferred l).run [.call 0 args, .drop 0, .resolve 0]).ledger =
    (deferred.call args l).2

theorem since_accepted (g : Guard) (args : List Value) (l : Ledger) (activities : List Activity)
    (number : Nat) (t : Tally) :
    l.since (((g.accepted args l).note activities).tally number t) =
      (g.contract.schema.validateArgs args).runs.map .predicate ++ activities := by
  refine Ledger.since_of_append ?_
  rw [← List.append_assoc, ← g.journal_validate args l]
  rfl

theorem run_drop (g : Guard) (args : List Value) (l : Ledger) :
    ((Session.opened g l).run [.call 0 args, .drop 0, .resolve 0]).ledger = (g.call args l).2 := by
  cases hcall : g.call args l with
  | mk answer after =>
    cases answer <;>
      simp [Session.run, Session.step, Session.opened, Session.held?, Session.decide, hcall]

theorem run_resolve (g : Guard) (args : List Value) (l : Ledger) :
    ((Session.opened g l).run [.call 0 args, .resolve 0, .resolve 0]).ledger =
      (g.invoke args l).2 := by
  cases hcall : g.call args l with
  | mk answer after =>
    cases answer <;>
      simp [Session.run, Session.step, Session.opened, Session.held?, Session.decide, invoke, hcall]

end Guard

theorem produced_map_ready (o : Outcome) : produced (o.map .ready) = o := by
  cases o <;> rfl

/-- **Promised results are treated like results that are there at once**, for any guard, any
arguments and any outcome of the callback. -/
theorem deferred_refines (g : Guard) (outcome : List Value → Outcome) (args : List Value)
    (l : Ledger) : Guard.Refines (g.deferred outcome) (g.atOnce outcome) outcome args l where
  result := by
    cases hverdict : (g.contract.schema.validateArgs args).result with
    | error e =>
      rw [Guard.invoke_of_refused (g := g.deferred outcome) hverdict,
        Guard.invoke_of_refused (g := g.atOnce outcome) hverdict]
    | ok bag =>
      have hvalid : (g.validate args l).1 = .ok bag := (g.validate_fst args l).trans hverdict
      rw [Guard.invoke_fst, Guard.invoke_fst, Guard.ending_of_ok (g := g.deferred outcome) hvalid,
        Guard.ending_of_ok (g := g.atOnce outcome) hvalid]
      simp only [Guard.deferred, Guard.atOnce, produced_map_ready]
      rfl
  activity := by
    cases hverdict : (g.contract.schema.validateArgs args).result with
    | error e =>
      rw [Guard.invoke_of_refused (g := g.deferred outcome) hverdict,
        Guard.invoke_of_refused (g := g.atOnce outcome) hverdict]
      have hsince := g.since_validate args l
      show unsettled (l.since (g.validate args l).2) = l.since (g.validate args l).2
      rw [hsince, unsettled_predicates]
    | ok bag =>
      rw [Guard.deferred_invoke_snd outcome hverdict, Guard.atOnce_invoke_snd outcome hverdict,
        Guard.atOnce_call_snd outcome hverdict, Guard.since_accepted, Guard.since_accepted,
        unsettled_append, unsettled_predicates]
      congr 1
      exact congrArg _ (unsettled_predicates _)
  counters := by
    cases hverdict : (g.contract.schema.validateArgs args).result with
    | error e =>
      rw [Guard.invoke_of_refused (g := g.deferred outcome) hverdict,
        Guard.invoke_of_refused (g := g.atOnce outcome) hverdict]
      rfl
    | ok bag =>
      rw [Guard.deferred_invoke_snd outcome hverdict, Guard.atOnce_invoke_snd outcome hverdict,
        Guard.atOnce_call_snd outcome hverdict]
      rfl
  pending := by
    intro bag hvalid callArgs
    have hverdict : (g.contract.schema.validateArgs args).result = .ok bag :=
      (g.validate_fst args l).symm.trans hvalid
    refine ⟨?_, ?_, ?_⟩
    · rw [Guard.call_fst]
      exact Guard.deferred_answer outcome hverdict
    · rw [Guard.since_call_of_ok hvalid]
      rfl
    · rw [Guard.deferred_call_snd outcome hverdict]
      exact g.returnsRejected_accepted args l
  settling := by
    intro bag reply later v hvalid hreply houtcome
    have hverdict : (g.contract.schema.validateArgs args).result = .ok bag :=
      (g.validate_fst args l).symm.trans hvalid
    have hvalue : outcome (bag.toCallArgs g.contract.schema) = .ok v := houtcome
    rw [Guard.call_fst, Guard.deferred_answer outcome hverdict, hvalue] at hreply
    cases hreply
    refine ⟨?_, ?_, ?_⟩
    · rw [Reply.resolve_fst]
      rfl
    · rw [Reply.since_resolve]
      rfl
    · have hcheck := (g.deferred outcome).checkResult_snd (later.note [.settled]) v
      rw [← List.countP_singleton]
      exact (congrArg Ledger.counters hcheck).trans rfl
  failure := by
    intro bag reply later fault hvalid hreply houtcome
    have hverdict : (g.contract.schema.validateArgs args).result = .ok bag :=
      (g.validate_fst args l).symm.trans hvalid
    have hfault : outcome (bag.toCallArgs g.contract.schema) = .error fault := houtcome
    rw [Guard.call_fst, Guard.deferred_answer outcome hverdict, hfault] at hreply
    cases hreply
    rfl
  once := (g.deferred outcome).run_resolve args l
  dropping := (g.deferred outcome).run_drop args l

end CallContract
