import CallContract.Guard.Session
import CallContract.Proofs.Deferred
import Mathlib.Data.List.Forall2

/-!
# Diagnostics do not interfere

**Theorem (`diagnostics_do_not_interfere`).** Two runs of the same actions, on guards that differ in
no more than the name, the quiet setting and the sink of their diagnostics, take the same course,
however the global quiet setting is changed between the actions of the one and of the other. Each
call hands back the same and settles to the same, the callbacks and the predicates are run on the
same values in the same order, and all counters but that of the extra fields end the same.

The proof is about one run. A session is *silenced* by taking away all that has to do with
diagnostics: the names, the quiet settings and the sinks of its guards, the records and the log, and
the count of extra fields. Silencing before an action and silencing after it comes to the same
(`Session.silent_handle`), and a change of the quiet setting is not noticed by a session that is
silent. So the run of a silenced session is the silenced run of the session, and two runs that start
out the same but for their diagnostics are the same run once they are silenced.
-/

namespace CallContract

/-! ## Silence -/

/-- The configuration of a guard that is silent. -/
def Config.silent : Config := { quiet := some true }

/-- The counters without that of the extra fields. -/
def Metrics.silent (m : Metrics) : Metrics := { m with extraFields := 0 }

/-- The ledger without diagnostics. -/
def Ledger.silent (l : Ledger) : Ledger :=
  { counters := l.counters.map Metrics.silent, journal := l.journal }

/-- The guard without diagnostics. -/
def Guard.silent (g : Guard) : Guard where
  contract := { schema := g.contract.schema, returns := g.contract.returns, config := .silent }
  callback := g.callback
  channel := { config := .silent, sink := .log, counters := g.channel.counters }

/-- The reply without the diagnostics of the guard that is to check it. -/
def Reply.silent : Reply → Reply
  | ready v => ready v
  | pending g settled => pending g.silent settled

/-- The call without diagnostics. -/
def Call.silent (c : Call) : Call := { c with answer := c.answer.map Reply.silent }

/-- The session without diagnostics. -/
def Session.silent (s : Session) : Session where
  ledger := s.ledger.silent
  guards := s.guards.map Guard.silent
  calls := s.calls.map Call.silent
  validations := s.validations

/-! ## Ledgers -/

namespace Ledger

variable (l : Ledger)

theorem silent_deliverAll (sink : Sink) (ds : List Diagnostic) :
    (l.deliverAll sink ds).silent = l.silent := by
  obtain ⟨memory, handed, log, h⟩ := l.deliverAll_eq sink ds
  rw [h]
  rfl

theorem silent_note (activities : List Activity) :
    (l.note activities).silent = l.silent.note activities := rfl

theorem silent_tally (number : Nat) (t : Tally) :
    (l.tally number t).silent = l.silent.tally number { t with extra := 0 } := by
  have hcounters : (l.counters.modify number (·.plus t)).map Metrics.silent =
      (l.counters.map Metrics.silent).modify number (·.plus { t with extra := 0 }) := by
    apply List.ext_getElem?
    intro k
    simp only [List.getElem?_map, List.getElem?_modify]
    by_cases hk : number = k
    · simp [hk, Metrics.silent, Metrics.plus, Function.comp_def]
    · simp [hk]
  simp only [silent, tally, count, hcounters]

/-- A step that delivers diagnostics, writes into the journal and counts does the last two when it
is silenced. -/
theorem silent_parts (sink : Sink) (ds : List Diagnostic) (activities : List Activity)
    (number : Nat) (t : Tally) :
    (((l.deliverAll sink ds).note activities).tally number t).silent =
      (l.silent.note activities).tally number { t with extra := 0 } := by
  rw [silent_tally, silent_note, silent_deliverAll]

end Ledger

/-! ## Guards -/

namespace Guard

variable (g : Guard) (args : List Value) (l : Ledger)

theorem silent_diagnostics (globalQuiet : Bool) : g.silent.diagnostics globalQuiet args = [] := rfl

theorem silent_callTally (globalQuiet globalQuiet' : Bool) :
    g.silent.callTally globalQuiet args = { g.callTally globalQuiet' args with extra := 0 } := rfl

theorem silent_answerOf (output : Except Fault Output) :
    g.silent.answerOf output = (g.answerOf output).map Reply.silent := by
  match output with
  | .error fault => rfl
  | .ok (.ready v) =>
    show (g.contract.checkReturned v).result.map Reply.ready = _
    rw [answerOf]
    cases (g.contract.checkReturned v).result <;> rfl
  | .ok (.pending settled) => rfl

theorem silent_answer : g.silent.answer args = (g.answer args).map Reply.silent := by
  cases hverdict : (g.contract.schema.validateArgs args).result with
  | error e =>
    have hsilent : (g.silent.contract.schema.validateArgs args).result = .error e := hverdict
    rw [answer, answer, hverdict, hsilent]
    rfl
  | ok bag =>
    have hsilent : (g.silent.contract.schema.validateArgs args).result = .ok bag := hverdict
    rw [answer, answer, hverdict, hsilent]
    exact g.silent_answerOf _

theorem silent_validate :
    (g.silent.validate args l.silent).2 = (g.validate args l).2.silent := by
  rw [validate_snd, validate_snd, Ledger.silent_parts, silent_diagnostics]
  rfl

theorem silent_call :
    g.silent.call args l.silent =
      ((g.call args l).1.map Reply.silent, (g.call args l).2.silent) := by
  have hanswer : (g.silent.call args l.silent).1 = (g.call args l).1.map Reply.silent := by
    rw [call_fst, call_fst, silent_answer]
  have hledger : (g.silent.call args l.silent).2 = (g.call args l).2.silent := by
    rw [call_snd, call_snd, Ledger.silent_parts, silent_diagnostics,
      g.silent_callTally args l.silent.globalQuiet l.globalQuiet]
    rfl
  exact Prod.ext hanswer hledger

theorem silent_checkResult (v : Value) :
    g.silent.checkResult v l.silent = ((g.checkResult v l).1, (g.checkResult v l).2.silent) := by
  have hanswer : (g.silent.checkResult v l.silent).1 = (g.checkResult v l).1 := by
    rw [checkResult_fst, checkResult_fst]
    rfl
  have hledger : (g.silent.checkResult v l.silent).2 = (g.checkResult v l).2.silent := by
    rw [checkResult_snd, checkResult_snd, Ledger.silent_tally, Ledger.silent_note]
    rfl
  exact Prod.ext hanswer hledger

theorem silent_validateBag (bag : Bag) :
    (g.silent.channel.validate g.silent.contract.schema bag l.silent).2 =
      (g.channel.validate g.contract.schema bag l).2.silent := by
  rw [Channel.validate_snd, Channel.validate_snd, Ledger.silent_parts]
  rfl

end Guard

theorem Reply.silent_resolve (r : Reply) (l : Ledger) :
    r.silent.resolve l.silent = ((r.resolve l).1, (r.resolve l).2.silent) := by
  match r with
  | ready v => rfl
  | pending g (.error fault) => rfl
  | pending g (.ok v) => exact g.silent_checkResult (l.note [.settled]) v

/-! ## Sessions -/

namespace Session

variable (s : Session)

theorem silent_ledger : s.silent.ledger = s.ledger.silent := rfl

theorem silent_guards (guard : Nat) :
    s.silent.guards[guard]? = s.guards[guard]?.map Guard.silent := List.getElem?_map

theorem silent_held? (call : Nat) : s.silent.held? call = (s.held? call).map Reply.silent := by
  have hcall : s.silent.calls[call]? = s.calls[call]?.map Call.silent := List.getElem?_map
  rw [held?, held?, hcall]
  cases s.calls[call]? with
  | none => rfl
  | some c =>
    obtain ⟨args, answer, fate⟩ := c
    cases answer with
    | error e => rfl
    | ok reply => cases fate <;> rfl

theorem silent_decide (call : Nat) (fate : Fate) :
    (s.decide call fate).silent = s.silent.decide call fate := by
  have hcalls : (s.calls.modify call fun c => { c with fate }).map Call.silent =
      (s.calls.map Call.silent).modify call fun c => { c with fate } := by
    apply List.ext_getElem?
    intro k
    simp only [List.getElem?_map, List.getElem?_modify]
    by_cases hk : call = k
    · simp [hk, Call.silent, Function.comp_def]
    · simp [hk]
  simp only [silent, decide, hcalls]

theorem silent_step (op : Operation) : (s.step op).silent = s.silent.step op := by
  cases op with
  | call guard args =>
    rw [step, step, silent_guards]
    cases s.guards[guard]? with
    | none => rfl
    | some g =>
      have hcall := g.silent_call args s.ledger
      simp only [Option.map_some]
      rw [silent_ledger, hcall]
      simp [silent, Call.silent]
  | validate guard args =>
    rw [step, step, silent_guards]
    cases s.guards[guard]? with
    | none => rfl
    | some g =>
      simp only [Option.map_some]
      rw [silent_ledger, g.silent_validate]
      rfl
  | resolve call =>
    rw [step, step, silent_held?]
    cases s.held? call with
    | none => rfl
    | some reply =>
      simp only [Option.map_some]
      rw [silent_decide, silent_ledger, reply.silent_resolve]
      rfl
  | drop call =>
    rw [step, step, silent_held?]
    cases s.held? call with
    | none => rfl
    | some reply => exact s.silent_decide call .dropped
  | clone guard =>
    rw [step, step, silent_guards]
    cases s.guards[guard]? with
    | none => rfl
    | some g => simp [silent]

/-- **An action leaves the same behind, silenced before or after.** -/
theorem silent_handle {e : Event} (h : e.isAction) : (s.handle e).silent = s.silent.handle e := by
  cases e with
  | operation op => exact s.silent_step op
  | validateBag guard bag =>
    rw [handle, handle, silent_guards]
    cases s.guards[guard]? with
    | none => rfl
    | some g =>
      simp only [Option.map_some]
      rw [silent_ledger, g.silent_validateBag]
      rfl
  | setQuiet on => cases h

/-- **A change of the quiet setting leaves nothing behind**, silenced. -/
theorem silent_handle_setQuiet {e : Event} (h : ¬ e.isAction) : (s.handle e).silent = s.silent := by
  cases e with
  | operation op => exact (h rfl).elim
  | validateBag guard bag => exact (h rfl).elim
  | setQuiet on => rfl

/-- **The silenced run of a session is the run of the silenced session**, in which only the actions
count. -/
theorem silent_play (events : List Event) :
    (s.play events).silent = s.silent.play (events.filter Event.isAction) := by
  induction events generalizing s with
  | nil => rfl
  | cons e events ih =>
    have hrest : ((s.handle e).play events).silent =
        (s.handle e).silent.play (events.filter Event.isAction) := ih (s.handle e)
    by_cases he : e.isAction
    · rw [List.filter_cons_of_pos he]
      rw [s.silent_handle he] at hrest
      exact hrest
    · rw [List.filter_cons_of_neg he]
      rw [s.silent_handle_setQuiet he] at hrest
      exact hrest

end Session

/-! ## Differences in diagnostics -/

/-- The guards differ in no more than the name, the quiet setting and the sink of their
diagnostics. -/
structure Guard.DifferInDiagnostics (g g' : Guard) : Prop where
  schema : g.contract.schema = g'.contract.schema
  returns : g.contract.returns = g'.contract.returns
  callback : g.callback = g'.callback
  counters : g.channel.counters = g'.channel.counters

/-- The counters differ in no more than the count of extra fields. -/
structure Metrics.DifferInDiagnostics (m m' : Metrics) : Prop where
  callsAccepted : m.callsAccepted = m'.callsAccepted
  callsRejected : m.callsRejected = m'.callsRejected
  returnsRejected : m.returnsRejected = m'.returnsRejected

/-- The ledgers differ in no more than the quiet setting, the diagnostics that have been delivered
and the count of extra fields. In the journal are the arguments of the callbacks and the runs of the
predicates. -/
structure Ledger.DifferInDiagnostics (l l' : Ledger) : Prop where
  counters : List.Forall₂ Metrics.DifferInDiagnostics l.counters l'.counters
  journal : l.journal = l'.journal

/-- The calls have come out the same. -/
structure Call.SameCourse (c c' : Call) : Prop where
  args : c.args = c'.args
  /-- The same error, the same value or a promise as well has been handed back. -/
  answer : c.answer.map Reply.value? = c'.answer.map Reply.value?
  /-- The reply has been settled with the same error or value, dropped or held as well. -/
  fate : c.fate = c'.fate
  /-- Whenever the replies are settled, the same comes out and the same is run. -/
  reply : ∀ reply reply', c.answer = .ok reply → c'.answer = .ok reply' → ∀ later later',
    (reply.resolve later).1 = (reply'.resolve later').1 ∧
      later.since (reply.resolve later).2 = later'.since (reply'.resolve later').2

/-- The sessions have taken the same course, but for diagnostics. -/
structure Session.SameCourse (s s' : Session) : Prop where
  calls : List.Forall₂ Call.SameCourse s.calls s'.calls
  ledger : s.ledger.DifferInDiagnostics s'.ledger
  guards : List.Forall₂ Guard.DifferInDiagnostics s.guards s'.guards
  /-- The same arguments are valid for a guard and for its counterpart, with the same coercions. -/
  verdicts : ∀ (guard : Nat) (g g' : Guard),
    s.guards[guard]? = some g → s'.guards[guard]? = some g' →
      ∀ args, (g.validate args s.ledger).1 = (g'.validate args s'.ledger).1
  /-- The same is so for bags. -/
  bagVerdicts : ∀ (guard : Nat) (g g' : Guard),
    s.guards[guard]? = some g → s'.guards[guard]? = some g' →
      ∀ bag, (g.channel.validate g.contract.schema bag s.ledger).1 =
        (g'.channel.validate g'.contract.schema bag s'.ledger).1

/-! ### Differences in diagnostics are gone in silence -/

theorem forall₂_iff_map_eq {α β : Type} {f : α → β} {as bs : List α} :
    List.Forall₂ (fun a b => f a = f b) as bs ↔ as.map f = bs.map f := by
  rw [← List.forall₂_eq_eq_eq, List.forall₂_map_left_iff, List.forall₂_map_right_iff]

theorem Guard.silent_eq_iff {g g' : Guard} : g.silent = g'.silent ↔ g.DifferInDiagnostics g' := by
  constructor
  · intro h
    have hcallback : g.silent.callback = g'.silent.callback := congrArg Guard.callback h
    exact
      { schema := congrArg (·.contract.schema) h
        returns := congrArg (·.contract.returns) h
        callback := hcallback
        counters := congrArg (·.channel.counters) h }
  · intro h
    rw [silent, silent, h.schema, h.returns, h.callback, h.counters]

theorem Metrics.silent_eq_iff {m m' : Metrics} :
    m.silent = m'.silent ↔ m.DifferInDiagnostics m' := by
  constructor
  · intro h
    have haccepted : m.silent.callsAccepted = m'.silent.callsAccepted := by rw [h]
    have hrejected : m.silent.callsRejected = m'.silent.callsRejected := by rw [h]
    have hrefused : m.silent.returnsRejected = m'.silent.returnsRejected := by rw [h]
    exact ⟨haccepted, hrejected, hrefused⟩
  · intro h
    rw [silent, silent, h.callsAccepted, h.callsRejected, h.returnsRejected]

theorem Ledger.silent_eq_iff {l l' : Ledger} :
    l.silent = l'.silent ↔ l.DifferInDiagnostics l' := by
  have hcounters : List.Forall₂ Metrics.DifferInDiagnostics l.counters l'.counters ↔
      l.counters.map Metrics.silent = l'.counters.map Metrics.silent := by
    rw [← forall₂_iff_map_eq]
    simp only [Metrics.silent_eq_iff]
  constructor
  · intro h
    have hjournal : l.silent.journal = l'.silent.journal := by rw [h]
    exact ⟨hcounters.2 (congrArg Ledger.counters h), hjournal⟩
  · intro h
    rw [silent, silent, hcounters.1 h.counters, h.journal]

theorem Reply.silent_value? (r : Reply) : r.silent.value? = r.value? := by
  cases r <;> rfl

theorem Reply.silent_settled (r : Reply) : r.silent.settled = r.settled := by
  match r with
  | ready v => rfl
  | pending g (.error fault) => rfl
  | pending g (.ok v) => rfl

theorem Reply.silent_settlingActivity (r : Reply) :
    r.silent.settlingActivity = r.settlingActivity := by
  match r with
  | ready v => rfl
  | pending g (.error fault) => rfl
  | pending g (.ok v) => rfl

theorem Call.sameCourse_of_silent_eq {c c' : Call} (h : c.silent = c'.silent) :
    c.SameCourse c' where
  args := by
    have hargs : c.silent.args = c'.silent.args := by rw [h]
    exact hargs
  answer := by
    have hvalue (r : Except CallError Reply) :
        (r.map Reply.silent).map Reply.value? = r.map Reply.value? := by
      cases r with
      | error e => rfl
      | ok reply => exact congrArg Except.ok reply.silent_value?
    have hanswer : c.answer.map Reply.silent = c'.answer.map Reply.silent :=
      congrArg Call.answer h
    rw [← hvalue c.answer, hanswer, hvalue]
  fate := by
    have hfate : c.silent.fate = c'.silent.fate := by rw [h]
    exact hfate
  reply := by
    intro reply reply' hreply hreply' later later'
    have hanswer : c.answer.map Reply.silent = c'.answer.map Reply.silent :=
      congrArg Call.answer h
    rw [hreply, hreply'] at hanswer
    have hsilent : reply.silent = reply'.silent := Except.ok.inj hanswer
    constructor
    · rw [Reply.resolve_fst, Reply.resolve_fst, ← reply.silent_settled, hsilent,
        reply'.silent_settled]
    · rw [Reply.since_resolve, Reply.since_resolve, ← reply.silent_settlingActivity, hsilent,
        reply'.silent_settlingActivity]

theorem Session.guards_of_silent_eq {s s' : Session} (h : s.silent = s'.silent) {guard : Nat}
    {g g' : Guard} (hg : s.guards[guard]? = some g) (hg' : s'.guards[guard]? = some g') :
    g.DifferInDiagnostics g' := by
  have hguard : s.silent.guards[guard]? = s'.silent.guards[guard]? := by rw [h]
  rw [s.silent_guards, s'.silent_guards, hg, hg'] at hguard
  exact Guard.silent_eq_iff.1 (Option.some.inj hguard)

theorem Session.sameCourse_of_silent_eq {s s' : Session} (h : s.silent = s'.silent) :
    s.SameCourse s' where
  calls := by
    have hcalls : s.calls.map Call.silent = s'.calls.map Call.silent := congrArg Session.calls h
    exact (forall₂_iff_map_eq.2 hcalls).imp fun _ _ => Call.sameCourse_of_silent_eq
  ledger := Ledger.silent_eq_iff.1 (congrArg Session.ledger h)
  guards := by
    have hguards : s.guards.map Guard.silent = s'.guards.map Guard.silent :=
      congrArg Session.guards h
    exact (forall₂_iff_map_eq.2 hguards).imp fun _ _ => Guard.silent_eq_iff.1
  verdicts := by
    intro guard g g' hg hg' args
    rw [Guard.validate_fst, Guard.validate_fst, (guards_of_silent_eq h hg hg').schema]
  bagVerdicts := by
    intro guard g g' hg hg' bag
    show (g.contract.schema.validate bag).result = (g'.contract.schema.validate bag).result
    rw [(guards_of_silent_eq h hg hg').schema]

/-- **Diagnostics do not interfere.** Two runs of the same actions take the same course if their
guards and their ledgers differ in diagnostics only, whenever the quiet setting is changed in one
and in the other. -/
theorem diagnostics_do_not_interfere {guards guards' : List Guard} {l l' : Ledger}
    {events events' : List Event}
    (hguards : List.Forall₂ Guard.DifferInDiagnostics guards guards')
    (hledgers : l.DifferInDiagnostics l')
    (hevents : events.filter Event.isAction = events'.filter Event.isAction) :
    Session.SameCourse ((Session.started guards l).play events)
      ((Session.started guards' l').play events') := by
  have hsilent : guards.map Guard.silent = guards'.map Guard.silent := by
    rw [← forall₂_iff_map_eq]
    exact hguards.imp fun _ _ => Guard.silent_eq_iff.2
  have hstart : (Session.started guards l).silent = (Session.started guards' l').silent := by
    simp [Session.silent, Session.started, hsilent, Ledger.silent_eq_iff.2 hledgers]
  apply Session.sameCourse_of_silent_eq
  rw [Session.silent_play, Session.silent_play, hstart, hevents]

/-- A field that is not declared is recorded in the one run, in which the setting is changed between
the call and its settling; in the other the guard is quiet. Both refuse the promised result. -/
theorem diagnostics_do_not_interfere_loud_and_quiet :
    let contract : Config → Contract := fun config =>
      { schema := .object [⟨"flag", .kind .boolean⟩], returns := some (.kind .strictBoolean)
        config }
    let callback : Callback := fun _ => .ok (.pending (.ok .null))
    let loud : Config := { name := some "switch" }
    let quiet : Config := { quiet := some true }
    let g : Guard :=
      { contract := contract loud, callback
        channel := { config := loud, sink := .memory 0, counters := 0 } }
    let g' : Guard :=
      { contract := contract quiet, callback
        channel := { config := quiet, sink := .log, counters := 0 } }
    let l : Ledger := { counters := [{}], memory := [[]] }
    let l' : Ledger := { globalQuiet := true, counters := [{ extraFields := 5 }] }
    let call : Event := .operation (.call 0 [.object [("flag", .null), ("size", .null)]])
    let events : List Event := [call, .setQuiet true, .operation (.resolve 0)]
    let events' : List Event := [.setQuiet false, call, .operation (.resolve 0)]
    let s := (Session.started [g] l).play events
    let s' := (Session.started [g'] l').play events'
    g.DifferInDiagnostics g' ∧ l.DifferInDiagnostics l' ∧
      events.filter Event.isAction = events'.filter Event.isAction ∧ s.SameCourse s' ∧
      s.ledger.records 0 = [{ guard := "switch", field := "size" }] ∧
      s.ledger.counters = [{ callsAccepted := 1, returnsRejected := 1, extraFields := 1 }] ∧
      s'.ledger.counters = [{ callsAccepted := 1, returnsRejected := 1, extraFields := 5 }] := by
  intro contract callback loud quiet g g' l l' call events events' s s'
  have hguards : g.DifferInDiagnostics g' := ⟨rfl, rfl, rfl, rfl⟩
  have hledgers : l.DifferInDiagnostics l' :=
    { counters := .cons ⟨rfl, rfl, rfl⟩ .nil
      journal := rfl }
  have hevents : events.filter Event.isAction = events'.filter Event.isAction := rfl
  have hcourse : s.SameCourse s' :=
    diagnostics_do_not_interfere (.cons hguards .nil) hledgers hevents
  exact ⟨hguards, hledgers, hevents, hcourse, rfl, rfl, rfl⟩

end CallContract
