import CallContract.Guard.Session
import CallContract.Proofs.Aliases

/-!
# Guards that differ in aliases

**Theorem (`aliases_interchangeable`).** Two guards with one callback whose contracts differ only in
the names of kinds cannot be told apart, except by the text of what a mismatch expected. Every call
gives the callback the same arguments and hands back the same value or the same error, runs the same
predicates on the same values in the same order, and counts the same; and so does every history in
which the one takes the place of the other among any guards.

The proof is a simulation. Two steps correspond if they leave *equal* ledgers, and the ledger holds
everything that is shared: the counters, the diagnostics, and the journal of the runs of predicates
and of the callback (`SameStep`). There is one lemma a step of a guard, and one lemma a step of a
session (`Session.Corresponds.handle`), from which histories follow by induction.
-/

namespace CallContract

/-! ## Renaming -/

/-- A contract becomes another one when kinds in it are called by their other names. -/
structure Contract.Renames (c c' : Contract) : Prop where
  schema : c.schema.Renames c'.schema
  returns : Option.Rel Descriptor.RenamesResult c.returns c'.returns
  config : c.config = c'.config

/-- A guard becomes another one when kinds in its contract are called by their other names. The
callback stays, and so does the way of the diagnostics and the counts. -/
structure Guard.Renames (g g' : Guard) : Prop where
  contract : g.contract.Renames g'.contract
  callback : g.callback = g'.callback
  channel : g.channel = g'.channel

/-- The same value, or the same promise, to be checked by a guard with other names. -/
inductive Reply.Renames : Reply → Reply → Prop
  | ready (v : Value) : Renames (.ready v) (.ready v)
  | pending {g g' : Guard} (h : g.Renames g') (settled : Outcome) :
      Renames (.pending g settled) (.pending g' settled)

/-! ## Steps that correspond -/

/-- The answers of two steps correspond, and the steps leave the same ledger: the same counters, the
same diagnostics, and the same runs of predicates and of the callback. -/
structure SameStep {α : Type} (values : α → α → Prop)
    (step step' : Except CallError α × Ledger) : Prop where
  answer : Corresponds CallError.SameButExpected values step.1 step'.1
  ledger : step.2 = step'.2

namespace Guard.Renames

variable {g g' : Guard}

/-- A bag is validated alike, whether a call has made it or not. -/
theorem validateBag (h : g.Renames g') (bag : Bag) (l : Ledger) :
    (g.channel.validate g.contract.schema bag l).1.Corresponds
        (g'.channel.validate g'.contract.schema bag l).1 ∧
      (g.channel.validate g.contract.schema bag l).2 =
        (g'.channel.validate g'.contract.schema bag l).2 := by
  have hvalidate := h.contract.schema.validate bag
  refine ⟨hvalidate.result, ?_⟩
  rw [Channel.validate, Channel.validate, h.contract.schema.extraFields_eq, h.channel,
    hvalidate.runs]

theorem validate (h : g.Renames g') (args : List Value) (l : Ledger) :
    SameStep Eq (g.validate args l) (g'.validate args l) := by
  rw [Guard.validate, Guard.validate, h.contract.schema.ofCall_eq]
  cases Bag.ofCall g'.contract.schema args with
  | error e => exact ⟨.error (.same e), rfl⟩
  | ok bag =>
    obtain ⟨⟨hbag, houtcome⟩, hledger⟩ := h.validateBag bag l
    exact ⟨houtcome.map fun _ _ _ => hbag, hledger⟩

theorem checkResult (h : g.Renames g') (v : Value) (l : Ledger) :
    SameStep Eq (g.checkResult v l) (g'.checkResult v l) := by
  rw [Guard.checkResult, Guard.checkResult, h.channel]
  have hreturns := h.contract.returns
  generalize g.contract.returns = returns, g'.contract.returns = returns' at hreturns
  cases hreturns with
  | none => exact ⟨.ok rfl, rfl⟩
  | @some d d' hd =>
    obtain ⟨hresult, hruns⟩ := hd.checkResult v
    simp only [hruns]
    generalize (d.checkResult v).result = r, (d'.checkResult v).result = r' at hresult
    cases hresult with
    | error he => exact ⟨.error he, rfl⟩
    | ok => exact ⟨.ok rfl, rfl⟩

theorem runCallback (h : g.Renames g') (args : List Value) (l : Ledger) :
    SameStep Reply.Renames (g.runCallback args l) (g'.runCallback args l) := by
  rw [Guard.runCallback, Guard.runCallback, h.callback]
  cases g'.callback args with
  | error fault => exact ⟨.error (.same _), rfl⟩
  | ok output =>
    cases output with
    | ready v =>
      obtain ⟨hanswer, hledger⟩ := h.checkResult v (l.note [.callback args])
      refine ⟨hanswer.map ?_, hledger⟩
      rintro v _ rfl
      exact .ready v
    | pending settled => exact ⟨.ok (.pending h settled), rfl⟩

theorem call (h : g.Renames g') (args : List Value) (l : Ledger) :
    SameStep Reply.Renames (g.call args l) (g'.call args l) := by
  rw [Guard.call, Guard.call, h.channel]
  have hvalidate := h.validate args l
  generalize g.validate args l = step, g'.validate args l = step' at hvalidate
  obtain ⟨verdict, l⟩ := step
  obtain ⟨verdict', l'⟩ := step'
  obtain ⟨hverdict, rfl : l = l'⟩ := hvalidate
  cases hverdict with
  | error he => exact ⟨.error he, rfl⟩
  | @ok bag bag' hbag =>
    cases hbag
    simp only [h.contract.schema.toCallArgs_eq]
    exact h.runCallback _ _

end Guard.Renames

theorem Reply.Renames.resolve {r r' : Reply} (h : r.Renames r') (l : Ledger) :
    SameStep Eq (r.resolve l) (r'.resolve l) := by
  cases h with
  | ready v => exact ⟨.ok rfl, rfl⟩
  | pending h settled =>
    cases settled with
    | error fault => exact ⟨.error (.same _), rfl⟩
    | ok v => exact h.checkResult v _

theorem Guard.Renames.invoke {g g' : Guard} (h : g.Renames g') (args : List Value) (l : Ledger) :
    SameStep Eq (g.invoke args l) (g'.invoke args l) := by
  rw [Guard.invoke, Guard.invoke]
  have hcall := h.call args l
  generalize g.call args l = step, g'.call args l = step' at hcall
  obtain ⟨answer, l⟩ := step
  obtain ⟨answer', l'⟩ := step'
  obtain ⟨hanswer, rfl : l = l'⟩ := hcall
  cases hanswer with
  | error he => exact ⟨.error he, rfl⟩
  | ok hreply => exact hreply.resolve l

/-! ## Histories -/

/-- The same has become of two replies, with answers that correspond if they have been settled. -/
inductive Fate.Corresponds : Fate → Fate → Prop
  | held : Corresponds .held .held
  | dropped : Corresponds .dropped .dropped
  | settled {r r' : Except CallError Value} (h : SameAnswer r r') :
      Corresponds (.settled r) (.settled r')

/-- Two calls with the same arguments, with answers that correspond, and of which the same has
become. -/
structure Call.Corresponds (c c' : Call) : Prop where
  args : c.args = c'.args
  answer : CallContract.Corresponds CallError.SameButExpected Reply.Renames c.answer c'.answer
  fate : c.fate.Corresponds c'.fate

/-- Two sessions with the same ledger, and with guards and calls that correspond one by one. -/
structure Session.Corresponds (s s' : Session) : Prop where
  ledger : s.ledger = s'.ledger
  guards : List.Forall₂ Guard.Renames s.guards s'.guards
  calls : List.Forall₂ Call.Corresponds s.calls s'.calls
  validations : s.validations = s'.validations

section Lists

variable {α : Type} {R : α → α → Prop} {as bs : List α}

theorem rel_getElem? (h : List.Forall₂ R as bs) (i : Nat) : Option.Rel R as[i]? bs[i]? := by
  induction h generalizing i with
  | nil => exact .none
  | cons hab _ ih =>
    cases i with
    | zero => exact .some hab
    | succ i => exact ih i

theorem forall₂_modify (h : List.Forall₂ R as bs) (i : Nat) {f f' : α → α}
    (hf : ∀ a b, R a b → R (f a) (f' b)) : List.Forall₂ R (as.modify i f) (bs.modify i f') := by
  induction h generalizing i with
  | nil => cases i <;> exact .nil
  | cons hab hrest ih =>
    cases i with
    | zero => exact .cons (hf _ _ hab) hrest
    | succ i => exact .cons hab (ih i)

end Lists

namespace Session.Corresponds

variable {s s' : Session}

theorem held? (h : s.Corresponds s') (call : Nat) :
    Option.Rel Reply.Renames (s.held? call) (s'.held? call) := by
  unfold Session.held?
  have hcall := rel_getElem? h.calls call
  generalize s.calls[call]? = c, s'.calls[call]? = c' at hcall
  cases hcall with
  | none => exact .none
  | @some c c' hc =>
    obtain ⟨args, answer, fate⟩ := c
    obtain ⟨args', answer', fate'⟩ := c'
    obtain ⟨-, hanswer, hfate⟩ := hc
    cases hanswer with
    | error => exact .none
    | ok hreply =>
      cases hfate with
      | held => exact .some hreply
      | dropped | settled => exact .none

theorem decide (h : s.Corresponds s') (call : Nat) {fate fate' : Fate}
    (hfate : fate.Corresponds fate') :
    (s.decide call fate).Corresponds (s'.decide call fate') where
  ledger := h.ledger
  guards := h.guards
  calls := forall₂_modify h.calls call fun _ _ hc => ⟨hc.args, hc.answer, hfate⟩
  validations := h.validations

/-- **Operations keep the correspondence.** -/
theorem step (h : s.Corresponds s') (op : Operation) : (s.step op).Corresponds (s'.step op) := by
  cases op with
  | call guard args =>
    rw [Session.step, Session.step, h.ledger]
    have hguard := rel_getElem? h.guards guard
    generalize s.guards[guard]? = g, s'.guards[guard]? = g' at hguard
    cases hguard with
    | none => exact h
    | some hg =>
      obtain ⟨hanswer, hledger⟩ := hg.call args s'.ledger
      refine ⟨hledger, h.guards, List.rel_append h.calls (.cons ?_ .nil), h.validations⟩
      exact ⟨rfl, hanswer, .held⟩
  | validate guard args =>
    rw [Session.step, Session.step, h.ledger, h.validations]
    have hguard := rel_getElem? h.guards guard
    generalize s.guards[guard]? = g, s'.guards[guard]? = g' at hguard
    cases hguard with
    | none => exact h
    | some hg => exact ⟨(hg.validate args s'.ledger).ledger, h.guards, h.calls, rfl⟩
  | resolve call =>
    rw [Session.step, Session.step, h.ledger]
    have hheld := h.held? call
    generalize s.held? call = reply, s'.held? call = reply' at hheld
    cases hheld with
    | none => exact h
    | some hreply =>
      obtain ⟨hanswer, hledger⟩ := hreply.resolve s'.ledger
      refine decide ?_ call (.settled hanswer)
      exact ⟨hledger, h.guards, h.calls, h.validations⟩
  | drop call =>
    rw [Session.step, Session.step]
    have hheld := h.held? call
    generalize s.held? call = reply, s'.held? call = reply' at hheld
    cases hheld with
    | none => exact h
    | some => exact h.decide call .dropped
  | clone guard =>
    rw [Session.step, Session.step]
    have hguard := rel_getElem? h.guards guard
    generalize s.guards[guard]? = g, s'.guards[guard]? = g' at hguard
    cases hguard with
    | none => exact h
    | some hg =>
      exact ⟨h.ledger, List.rel_append h.guards (.cons hg .nil), h.calls, h.validations⟩

/-- **Events keep the correspondence.** -/
theorem handle (h : s.Corresponds s') (e : Event) : (s.handle e).Corresponds (s'.handle e) := by
  cases e with
  | operation op => exact h.step op
  | validateBag guard bag =>
    rw [Session.handle, Session.handle, h.ledger]
    have hguard := rel_getElem? h.guards guard
    generalize s.guards[guard]? = g, s'.guards[guard]? = g' at hguard
    cases hguard with
    | none => exact h
    | some hg => exact ⟨(hg.validateBag bag s'.ledger).2, h.guards, h.calls, h.validations⟩
  | setQuiet on => exact ⟨congrArg (·.setQuiet on) h.ledger, h.guards, h.calls, h.validations⟩

theorem play (h : s.Corresponds s') (events : List Event) :
    (s.play events).Corresponds (s'.play events) := by
  induction events generalizing s s' with
  | nil => exact h
  | cons e events ih => exact ih (h.handle e)

end Session.Corresponds

/-! ## The theorem -/

theorem Field.Renames.refl (f : Field) : f.Renames f := ⟨rfl, .same _⟩

theorem Schema.Renames.refl (s : Schema) : s.Renames s := by
  cases s with
  | object fields => exact .object (List.forall₂_same.2 fun f _ => .refl f)
  | positional ds => exact .positional (List.forall₂_same.2 fun d _ => .same d)
  | single f => exact .single (.refl f)
  | zeroArg => exact .zeroArg

theorem Guard.Renames.refl (g : Guard) : g.Renames g where
  contract.schema := .refl _
  contract.returns := by
    cases g.contract.returns with
    | none => exact .none
    | some d => exact .some ⟨.same d, Iff.rfl⟩
  contract.config := rfl
  callback := rfl
  channel := rfl

/-- **Two guards that cannot be told apart**, but for what a mismatch expected. -/
structure Guard.Interchangeable (g g' : Guard) : Prop where
  /-- Arguments that are validated without a call. -/
  validate : ∀ args l, SameStep Eq (g.validate args l) (g'.validate args l)
  /-- A call up to the answer of the callback, which may be a promise. -/
  call : ∀ args l, SameStep Reply.Renames (g.call args l) (g'.call args l)
  /-- The reply of a call that is settled at any later time. -/
  resolve : ∀ args l reply reply', (g.call args l).1 = .ok reply → (g'.call args l).1 = .ok reply' →
    ∀ later, SameStep Eq (reply.resolve later) (reply'.resolve later)
  /-- A call to the end. -/
  invoke : ∀ args l, SameStep Eq (g.invoke args l) (g'.invoke args l)
  /-- Whatever happens where the one takes the place of the other among some guards. -/
  histories : ∀ before after l events,
    ((Session.started (before ++ g :: after) l).play events).Corresponds
      ((Session.started (before ++ g' :: after) l).play events)

/-- **Aliases are interchangeable.** -/
theorem aliases_interchangeable {g g' : Guard} (h : g.Renames g') : g.Interchangeable g' where
  validate := h.validate
  call := h.call
  resolve args l reply reply' hreply hreply' later := by
    have hanswer := (h.call args l).answer
    rw [hreply, hreply'] at hanswer
    cases hanswer with
    | ok h => exact h.resolve later
  invoke := h.invoke
  histories before after l events := by
    have hsame (gs : List Guard) : List.Forall₂ Guard.Renames gs gs :=
      List.forall₂_same.2 fun g _ => .refl g
    have hstarted : (Session.started (before ++ g :: after) l).Corresponds
        (Session.started (before ++ g' :: after) l) :=
      ⟨rfl, List.rel_append (hsame before) (.cons h (hsame after)), .nil, rfl⟩
    exact hstarted.play events

/-- A size that is no number is refused by two names, and so is a promised result that no member of
a union accepts. -/
theorem aliases_interchangeable_in_unions :
    let contract : Kind → Kind → Kind → Contract := fun size absent nothing =>
      { schema := .object [⟨"id", .union [.kind size, .kind absent]⟩, ⟨"size", .kind size⟩]
        returns := some (.union [.kind .strictBoolean, .kind nothing])
        config := {} }
    let guard : Contract → Guard := fun contract =>
      { contract, callback := fun _ => .ok (.pending (.ok .null))
        channel := { config := {}, sink := .log, counters := 0 } }
    let g := guard (contract .number .optional .void)
    let g' := guard (contract .float .undefined .optional)
    let l : Ledger := { counters := [{}] }
    let refusal : String → CallError := fun expected =>
      .typeMismatch (.field "size")
        { expected, actual := "null", reason := some "null is not numeric" }
    let refusedResult : String → CallError := fun expected =>
      .returnTypeMismatch { expected, actual := "null" }
    g.Renames g' ∧ g.Interchangeable g' ∧
      (g.invoke [.object [("size", .null)]] l).1 = .error (refusal "number") ∧
      (g'.invoke [.object [("size", .null)]] l).1 = .error (refusal "float") ∧
      (g.invoke [.object [("size", .bool true)]] l).1 =
        .error (refusedResult "strictboolean | void") ∧
      (g'.invoke [.object [("size", .bool true)]] l).1 =
        .error (refusedResult "strictboolean | optional") := by
  intro contract guard g g' l refusal refusedResult
  have hnumber : (Descriptor.kind .number).Renames (.kind .float) := .kind .numberFloat
  have habsent : (Descriptor.kind .optional).Renames (.kind .undefined) := .kind (.absent rfl rfl)
  have hnothing : (Descriptor.kind .void).Renames (.kind .optional) := .kind (.absent rfl rfl)
  have hid : Field.Renames ⟨"id", .union [.kind .number, .kind .optional]⟩
      ⟨"id", .union [.kind .float, .kind .undefined]⟩ :=
    ⟨rfl, .union (.cons hnumber (.cons habsent .nil))⟩
  have hsize : Field.Renames ⟨"size", .kind .number⟩ ⟨"size", .kind .float⟩ := ⟨rfl, hnumber⟩
  have hresult : Descriptor.RenamesResult (.union [.kind .strictBoolean, .kind .void])
      (.union [.kind .strictBoolean, .kind .optional]) :=
    ⟨.union (.cons (.same _) (.cons hnothing .nil)), by simp⟩
  have h : g.Renames g' :=
    ⟨⟨.object (.cons hid (.cons hsize .nil)), .some hresult, rfl⟩, rfl, rfl⟩
  exact ⟨h, aliases_interchangeable h, rfl, rfl, rfl, rfl⟩

end CallContract
