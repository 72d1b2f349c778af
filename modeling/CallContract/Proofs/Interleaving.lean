import CallContract.Proofs.Deferred
import CallContract.Proofs.Session

/-!
# Calls do not depend on each other

**Theorem (`interleaving_independent`).** In every session of a guard, whatever is called, settled,
dropped and cloned in whatever order, each call comes out as it would alone, on a fresh guard with
the same contract and callback and whatever ledger. The counters in the end are the same for all
sessions in which the same calls are made and the same replies are settled, in any order.

What comes out of a call is `Session.sound_run`. The counters are those of the ledger at the start
and a sum over the calls, and a sum does not depend on the order of its terms.
-/

namespace CallContract

/-! ## A call alone -/

/-- Another guard for the same contract and callback. It may have counters, a configuration of its
diagnostics and a sink of its own. -/
structure Guard.Alike (g alone : Guard) : Prop where
  contract : alone.contract = g.contract
  callback : alone.callback = g.callback

namespace Guard.Alike

variable {g alone : Guard}

/-- What is there at once of an answer is up to the contract and the callback. -/
theorem answerOf_value? (h : g.Alike alone) (output : Except Fault Output) :
    (alone.answerOf output).map Reply.value? = (g.answerOf output).map Reply.value? := by
  match output with
  | .error fault => rfl
  | .ok (.ready v) => rw [answerOf, answerOf, h.contract]
  | .ok (.pending settled) => rfl

theorem answer_value? (h : g.Alike alone) (args : List Value) :
    (alone.answer args).map Reply.value? = (g.answer args).map Reply.value? := by
  rw [answer, answer, h.contract, h.callback]
  cases (g.contract.schema.validateArgs args).result with
  | error e => rfl
  | ok bag => exact h.answerOf_value? _

theorem ending (h : g.Alike alone) (args : List Value) : alone.ending args = g.ending args := by
  have hsettle : alone.settle = g.settle := by
    funext outcome
    cases outcome with
    | error fault => rfl
    | ok v => rw [settle, settle, h.contract]
  rw [Guard.ending, Guard.ending, answer, answer, h.contract, h.callback]
  cases (g.contract.schema.validateArgs args).result with
  | error e => rfl
  | ok bag =>
    show (alone.answerOf _).bind Reply.settled = (g.answerOf _).bind Reply.settled
    rw [answerOf_settled, answerOf_settled, hsettle]

end Guard.Alike

/-- A call has come out as it would alone, on a fresh guard. -/
structure Call.AsAlone (g : Guard) (c : Call) : Prop where
  /-- It has handed back the same error, the same value or a promise as well. -/
  answer : ∀ alone, g.Alike alone → ∀ l,
    c.answer.map Reply.value? = (alone.call c.args l).1.map Reply.value?
  /-- Its reply settles, whenever that is, to what comes out of an invocation. -/
  reply : ∀ alone, g.Alike alone → ∀ l reply later, c.answer = .ok reply →
    (reply.resolve later).1 = (alone.invoke c.args l).1
  /-- And so it has, if it has been settled. -/
  settled : ∀ alone, g.Alike alone → ∀ l result, c.fate = .settled result →
    result = (alone.invoke c.args l).1

theorem Call.IsOf.asAlone {g : Guard} {c : Call} (h : c.IsOf g) : c.AsAlone g where
  answer := by
    intro alone halike l
    rw [Guard.call_fst, halike.answer_value?, h.answer]
  reply := by
    intro alone halike l reply later hreply
    rw [Reply.resolve_fst, Guard.invoke_fst, halike.ending, Guard.ending, ← h.answer, hreply]
    rfl
  settled := by
    intro alone halike l result hresult
    rw [Guard.invoke_fst, halike.ending, h.result result hresult]

/-! ## The order of calls -/

/-- What counts of a call: its arguments, and whether its reply has been settled. -/
def Call.work (c : Call) : List Value × Bool := (c.args, c.isSettled)

namespace Session

/-- In two sessions the same calls have been made, with the same replies settled, and the same
arguments have been validated, in any order. -/
structure SameWork (s s' : Session) : Prop where
  calls : (s.calls.map Call.work).Perm (s'.calls.map Call.work)
  validations : s.validations.Perm s'.validations

theorem SameWork.tally {s s' : Session} (h : SameWork s s') (g : Guard) (globalQuiet : Bool) :
    s.tally g globalQuiet = s'.tally g globalQuiet := by
  -- the tally of a call is a function of what counts of it
  let count : List Value × Bool → Tally := fun work =>
    g.callTally globalQuiet work.1 + if work.2 then g.settlingTally work.1 else 0
  have hcount : Call.tally g globalQuiet = count ∘ Call.work := rfl
  have hcalls : (s.calls.map (Call.tally g globalQuiet)).sum =
      (s'.calls.map (Call.tally g globalQuiet)).sum := by
    rw [hcount, ← List.map_map, ← List.map_map]
    exact (h.calls.map count).sum_eq
  rw [Session.tally, Session.tally, hcalls, (h.validations.map _).sum_eq]

end Session

/-- **Calls do not depend on each other**, nor do the counters on the order of what is done. -/
theorem interleaving_independent (g : Guard) (l : Ledger) (ops : List Operation) :
    let s := (Session.opened g l).run ops
    (∀ c ∈ s.calls, c.AsAlone g) ∧
      ∀ ops', let s' := (Session.opened g l).run ops'
        s.SameWork s' → s.ledger.counters = s'.ledger.counters := by
  intro s
  have hs : Session.Sound g l s := Session.sound_run g l ops
  refine ⟨fun c hc => (hs.calls c hc).asAlone, ?_⟩
  intro ops' s' hwork
  have hs' : Session.Sound g l s' := Session.sound_run g l ops'
  rw [hs.ledger.counters, hs'.ledger.counters, hwork.tally]

/-- Two calls, of which one is accepted for good and the reply of the other is refused when it is
settled: on one guard, where the first reply is dropped, and on two clones, where it is still
held. -/
theorem interleaving_independent_two_orders :
    let g : Guard :=
      { contract :=
          { schema := .positional [.kind .any], returns := some (.kind .strictBoolean)
            config := {} }
        callback := fun args => .ok (.pending (.ok (args.headD .undefined)))
        channel := { config := {}, sink := .log, counters := 0 } }
    let start := Session.opened g { counters := [{}] }
    let s := start.run [.call 0 [.bool true], .call 0 [.null], .resolve 1, .drop 0]
    let s' := start.run [.clone 0, .call 1 [.null], .resolve 0, .call 0 [.bool true]]
    s.SameWork s' ∧ (∀ c ∈ s.calls, c.AsAlone g) ∧ s.ledger.counters = s'.ledger.counters ∧
      s'.ledger.counters = [{ callsAccepted := 2, returnsRejected := 1 }] := by
  intro g start s s'
  have hcalls : s.calls.map Call.work = [([.bool true], false), ([.null], true)] := rfl
  have hcalls' : s'.calls.map Call.work = [([.null], true), ([.bool true], false)] := rfl
  have hwork : s.SameWork s' :=
    { calls := by rw [hcalls, hcalls']; exact .swap _ _ _
      validations := .nil }
  obtain ⟨halone, hcounters⟩ := interleaving_independent g { counters := [{}] }
    [.call 0 [.bool true], .call 0 [.null], .resolve 1, .drop 0]
  exact ⟨hwork, halone, hcounters _ hwork, rfl⟩

end CallContract
