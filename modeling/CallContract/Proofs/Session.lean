import CallContract.Guard.Session
import CallContract.Proofs.CallProtocol
import CallContract.Proofs.Tally

/-!
# What holds throughout a session

Whatever is done in a session of a guard, all its guards are clones of that guard, each call has
handed back what the guard answers to its arguments, and the ledger is where the tally of the
session leads (`Session.Sound`). The tally is a sum over the calls and validations made so far; what
a call adds to it depends on its arguments and on whether its reply has been settled, not on when.

One operation is one of six moves (`Session.step_moves`), and for each of them the ledger advances
by what is added to the tally (`Session.Moves.advances`). All else follows by induction on the
operations.
-/

namespace CallContract

/-! ## Ledgers that advance -/

/-- Between two ledgers, a tally is counted through a channel, as many callbacks are run as calls
were accepted, and as many diagnostics are delivered as were counted. -/
structure Channel.Advances (c : Channel) (t : Tally) (l l' : Ledger) : Prop where
  quiet : l'.globalQuiet = l.globalQuiet
  counters : l'.counters = (l.tally c.counters t).counters
  callbacks : ∃ added, l'.journal = l.journal ++ added ∧ (callbackRuns added).length = t.accepted
  delivered : l.HasSink c.sink →
    l'.HasSink c.sink ∧ l'.delivered c.sink = l.delivered c.sink + t.extra

namespace Channel.Advances

variable {c : Channel} {s t : Tally} {l l' l'' : Ledger}

theorem refl (c : Channel) (l : Ledger) : c.Advances 0 l l where
  quiet := rfl
  counters := by rw [Ledger.tally_zero]
  callbacks := ⟨[], (List.append_nil _).symm, rfl⟩
  delivered h := ⟨h, rfl⟩

theorem trans (h : c.Advances s l l') (h' : c.Advances t l' l'') : c.Advances (s + t) l l'' where
  quiet := h'.quiet.trans h.quiet
  counters := by
    rw [h'.counters, Ledger.tally_add]
    show l'.counters.modify _ _ = (l.tally c.counters s).counters.modify _ _
    rw [h.counters]
  callbacks := by
    obtain ⟨as, hjournal, has⟩ := h.callbacks
    obtain ⟨bs, hjournal', hbs⟩ := h'.callbacks
    refine ⟨as ++ bs, by rw [hjournal', hjournal, List.append_assoc], ?_⟩
    rw [callbackRuns_append, List.length_append, has, hbs, Tally.accepted_add]
  delivered hsink := by
    obtain ⟨hsink, hcount⟩ := h.delivered hsink
    obtain ⟨hsink, hcount'⟩ := h'.delivered hsink
    exact ⟨hsink, by rw [hcount', hcount, Tally.extra_add, Nat.add_assoc]⟩

/-- Deliveries, entries in the journal and a tally, as one advance. -/
theorem of_parts (c : Channel) (l : Ledger) (ds : List Diagnostic) (activities : List Activity)
    (t : Tally) (haccepted : (callbackRuns activities).length = t.accepted)
    (hextra : ds.length = t.extra) :
    c.Advances t l (((l.deliverAll c.sink ds).note activities).tally c.counters t) where
  quiet := l.globalQuiet_deliverAll c.sink ds
  counters := by
    show (l.deliverAll c.sink ds).counters.modify _ _ = _
    rw [Ledger.counters_deliverAll]
    rfl
  callbacks := by
    refine ⟨activities, ?_, haccepted⟩
    show (l.deliverAll c.sink ds).journal ++ activities = _
    rw [Ledger.journal_deliverAll]
  delivered h := by
    rw [← hextra]
    have hkept : (l.deliverAll c.sink ds).HasSink c.sink := Ledger.hasSink_deliverAll_iff.2 h
    have hcount := Ledger.delivered_deliverAll h ds
    cases hsink : c.sink <;> rw [hsink] at hkept hcount <;> exact ⟨hkept, hcount⟩

end Channel.Advances

namespace Guard

variable (g : Guard) (args : List Value) (l : Ledger)

theorem advances_validate :
    g.channel.Advances { extra := (g.diagnostics l.globalQuiet args).length } l
      (g.validate args l).2 := by
  rw [validate_snd]
  exact .of_parts _ _ _ _ _ (by rw [callbackRuns_predicates]; rfl) rfl

theorem advances_call :
    g.channel.Advances (g.callTally l.globalQuiet args) l (g.call args l).2 := by
  rw [call_snd]
  refine .of_parts _ _ _ _ _ ?_ rfl
  rw [callbackRuns_append, callbackRuns_predicates, List.nil_append, callTally]
  cases hverdict : (g.contract.schema.validateArgs args).result with
  | error e => rw [output?_of_error hverdict]; rfl
  | ok bag =>
    rw [output?_of_ok hverdict, activityAfter, ← List.singleton_append, callbackRuns_append,
      callbackRuns_predicates]
    rfl

end Guard

theorem Reply.advances_resolve {g : Guard} {args : List Value} {reply : Reply}
    (h : g.answer args = .ok reply) (l : Ledger) :
    g.channel.Advances (g.settlingTally args) l (reply.resolve l).2 := by
  rw [resolve_snd h]
  exact .of_parts _ l [] _ _ (by rw [callbackRuns_settlingActivity]; rfl) rfl

/-! ## Calls of a guard -/

namespace Call

/-- The reply of the call has been settled. -/
def isSettled (c : Call) : Bool := c.fate.isSettled

/-- What a call has counted so far. -/
def tally (g : Guard) (globalQuiet : Bool) (c : Call) : Tally :=
  g.callTally globalQuiet c.args + if c.isSettled then g.settlingTally c.args else 0

/-- The results that the callback has produced for a call so far. -/
def produced (g : Guard) (c : Call) : List Value :=
  g.readyResults c.args ++ if c.isSettled then g.promisedResults c.args else []

theorem tally_of_not_settled {g : Guard} {globalQuiet : Bool} {c : Call} (h : c.isSettled = false) :
    c.tally g globalQuiet = g.callTally globalQuiet c.args := by
  rw [tally, h]
  exact add_zero _

theorem tally_of_settled {g : Guard} {globalQuiet : Bool} {c : Call} (h : c.isSettled) :
    c.tally g globalQuiet = g.callTally globalQuiet c.args + g.settlingTally c.args := by
  rw [tally, if_pos h]

/-- What a call has handed back, and what its reply has been settled to, is up to the guard and the
arguments. -/
structure IsOf (g : Guard) (c : Call) : Prop where
  answer : c.answer = g.answer c.args
  result : ∀ result, c.fate = .settled result → result = g.ending c.args

end Call

namespace Session

/-- What has been counted in a session. -/
def tally (g : Guard) (globalQuiet : Bool) (s : Session) : Tally :=
  (s.calls.map (Call.tally g globalQuiet)).sum +
    (s.validations.map fun args =>
      ({ extra := (g.diagnostics globalQuiet args).length } : Tally)).sum

/-! ## Operations -/

/-- What an operation can come to in a session of a guard. -/
inductive Moves (g : Guard) (s : Session) : Session → Prop
  | idle : Moves g s s
  | call (args : List Value) :
      Moves g s
        { s with
          ledger := (g.call args s.ledger).2
          calls := s.calls ++ [{ args, answer := g.answer args }] }
  | validate (args : List Value) :
      Moves g s
        { s with
          ledger := (g.validate args s.ledger).2
          validations := s.validations ++ [args] }
  | resolve (before after : List Call) (c : Call) (reply : Reply)
      (hcalls : s.calls = before ++ c :: after) (hreply : c.answer = .ok reply)
      (hheld : c.fate = .held) :
      Moves g s
        { s with
          ledger := (reply.resolve s.ledger).2
          calls := before ++ { c with fate := .settled reply.settled } :: after }
  | drop (before after : List Call) (c : Call) (hcalls : s.calls = before ++ c :: after)
      (hheld : c.fate = .held) :
      Moves g s { s with calls := before ++ { c with fate := .dropped } :: after }
  | clone : Moves g s { s with guards := s.guards ++ [g] }

/-- The reply that is held of a call, in its place. -/
theorem exists_of_held? {s : Session} {call : Nat} {reply : Reply} (h : s.held? call = some reply)
    (fate : Fate) :
    ∃ before c after, s.calls = before ++ c :: after ∧ c.answer = .ok reply ∧ c.fate = .held ∧
      (s.calls.modify call fun c => { c with fate }) = before ++ { c with fate } :: after := by
  unfold held? at h
  split at h
  case h_2 => cases h
  case h_1 args reply' hcall =>
    cases h
    obtain ⟨hlt, -⟩ := List.getElem?_eq_some_iff.1 hcall
    obtain ⟨before, c, after, hcalls, hlength, hmodify⟩ :=
      List.exists_of_modify (fun c : Call => { c with fate }) hlt
    rw [hcalls, ← hlength, List.getElem?_append_right (Nat.le_refl _), Nat.sub_self] at hcall
    cases hcall
    exact ⟨before, _, after, hcalls, rfl, rfl, hmodify⟩

theorem step_moves {g : Guard} {s : Session} (h : ∀ g' ∈ s.guards, g' = g) (op : Operation) :
    Moves g s (s.step op) := by
  cases op with
  | call guard args =>
    rw [step]
    split
    case h_1 => exact .idle
    case h_2 g' hguard =>
      obtain rfl := h g' (List.mem_of_getElem? hguard)
      have hcall := Moves.call (g := g') (s := s) args
      rw [← g'.call_fst args s.ledger] at hcall
      exact hcall
  | validate guard args =>
    rw [step]
    split
    case h_1 => exact .idle
    case h_2 g' hguard =>
      obtain rfl := h g' (List.mem_of_getElem? hguard)
      exact .validate args
  | resolve call =>
    rw [step]
    split
    case h_1 => exact .idle
    case h_2 reply hheld =>
      obtain ⟨before, c, after, hcalls, hreply, hfate, hmodify⟩ :=
        exists_of_held? hheld (.settled reply.settled)
      show Moves g s
        { s with
          ledger := (reply.resolve s.ledger).2
          calls := s.calls.modify call fun c =>
            { c with fate := .settled (reply.resolve s.ledger).1 } }
      rw [reply.resolve_fst, hmodify]
      exact .resolve before after c reply hcalls hreply hfate
  | drop call =>
    rw [step]
    split
    case h_1 => exact .idle
    case h_2 reply hheld =>
      obtain ⟨before, c, after, hcalls, -, hfate, hmodify⟩ := exists_of_held? hheld .dropped
      rw [decide, hmodify]
      exact .drop before after c hcalls hfate
  | clone guard =>
    rw [step]
    split
    case h_1 => exact .idle
    case h_2 g' hguard =>
      obtain rfl := h g' (List.mem_of_getElem? hguard)
      exact .clone

/-! ## What each operation adds -/

variable {g : Guard} {s s' : Session}

/-- **The ledger advances by what an operation adds to the tally of the session.** -/
theorem Moves.advances (hcalls : ∀ c ∈ s.calls, c.IsOf g) (h : Moves g s s') :
    ∃ t, s'.tally g s.ledger.globalQuiet = s.tally g s.ledger.globalQuiet + t ∧
      g.channel.Advances t s.ledger s'.ledger := by
  cases h with
  | idle => exact ⟨0, (add_zero _).symm, .refl _ _⟩
  | call args =>
    refine ⟨_, ?_, g.advances_call args s.ledger⟩
    simp only [tally, List.map_append, List.sum_append, List.map_singleton, List.sum_singleton]
    rw [Call.tally_of_not_settled rfl, add_right_comm]
  | validate args =>
    refine ⟨_, ?_, g.advances_validate args s.ledger⟩
    simp only [tally, List.map_append, List.sum_append, List.map_singleton, List.sum_singleton,
      add_assoc]
  | resolve before after c reply hsplit hreply hheld =>
    -- only here does a call that was made before come to count more
    have hanswer : g.answer c.args = .ok reply := by
      rw [← (hcalls c (by simp [hsplit])).answer, hreply]
    have hopen : c.isSettled = false := by rw [Call.isSettled, hheld]; rfl
    refine ⟨_, ?_, reply.advances_resolve hanswer s.ledger⟩
    simp only [tally, hsplit, List.map_append, List.sum_append, List.map_cons, List.sum_cons]
    rw [Call.tally_of_not_settled hopen, Call.tally_of_settled rfl]
    ac_rfl
  | drop before after c hsplit hheld =>
    have hopen : c.isSettled = false := by rw [Call.isSettled, hheld]; rfl
    refine ⟨0, ?_, .refl _ _⟩
    simp only [tally, hsplit, List.map_append, List.sum_append, List.map_cons, List.sum_cons]
    rw [Call.tally_of_not_settled hopen, Call.tally_of_not_settled rfl, add_zero]
  | clone => exact ⟨0, (add_zero _).symm, .refl _ _⟩

/-- **What holds of every session of a guard**, opened on the given ledger. -/
structure Sound (g : Guard) (l₀ : Ledger) (s : Session) : Prop where
  guards : ∀ g' ∈ s.guards, g' = g
  calls : ∀ c ∈ s.calls, c.IsOf g
  ledger : g.channel.Advances (s.tally g l₀.globalQuiet) l₀ s.ledger

theorem sound_opened (g : Guard) (l : Ledger) : Sound g l (opened g l) where
  guards := by simp [opened]
  calls := by simp [opened]
  ledger := .refl _ _

/-- A call in the middle of some calls may be replaced by another one of the guard. -/
theorem isOf_replace {before after : List Call} {c c' : Call} (hc : c'.IsOf g)
    (h : ∀ c₁ ∈ before ++ c :: after, c₁.IsOf g) : ∀ c₁ ∈ before ++ c' :: after, c₁.IsOf g := by
  intro c₁ hmem
  rcases List.mem_append.1 hmem with hbefore | hmem
  · exact h c₁ (List.mem_append_left _ hbefore)
  · rcases List.mem_cons.1 hmem with rfl | hafter
    · exact hc
    · exact h c₁ (List.mem_append_right _ (List.mem_cons_of_mem _ hafter))

theorem Moves.isOf (hcalls : ∀ c ∈ s.calls, c.IsOf g) (h : Moves g s s') :
    ∀ c ∈ s'.calls, c.IsOf g := by
  cases h with
  | idle => exact hcalls
  | call args =>
    intro c hc
    rcases List.mem_append.1 hc with hold | hnew
    · exact hcalls c hold
    · rw [List.mem_singleton.1 hnew]
      exact { answer := rfl, result := fun _ h => by cases h }
  | validate args => exact hcalls
  | resolve before after c reply hsplit hreply hheld =>
    have hc := hcalls c (by simp [hsplit])
    refine isOf_replace ⟨hc.answer, fun result hresult => ?_⟩ (hsplit ▸ hcalls)
    cases hresult
    rw [Guard.ending, ← hc.answer, hreply]
    rfl
  | drop before after c hsplit hheld =>
    have hc := hcalls c (by simp [hsplit])
    exact isOf_replace ⟨hc.answer, fun _ h => by cases h⟩ (hsplit ▸ hcalls)
  | clone => exact hcalls

theorem Moves.guards (hguards : ∀ g' ∈ s.guards, g' = g) (h : Moves g s s') :
    ∀ g' ∈ s'.guards, g' = g := by
  cases h with
  | clone =>
    intro g' hg'
    rcases List.mem_append.1 hg' with hold | hnew
    · exact hguards g' hold
    · exact List.mem_singleton.1 hnew
  | _ => exact hguards

theorem Sound.moves {l₀ : Ledger} (hs : Sound g l₀ s) (h : Moves g s s') : Sound g l₀ s' where
  guards := h.guards hs.guards
  calls := h.isOf hs.calls
  ledger := by
    obtain ⟨t, htally, hledger⟩ := h.advances hs.calls
    rw [hs.ledger.quiet] at htally
    rw [htally]
    exact hs.ledger.trans hledger

theorem Sound.run {l₀ : Ledger} (hs : Sound g l₀ s) (ops : List Operation) :
    Sound g l₀ (s.run ops) := by
  induction ops generalizing s with
  | nil => exact hs
  | cons op ops ih => exact ih (hs.moves (step_moves hs.guards op))

theorem sound_run (g : Guard) (l : Ledger) (ops : List Operation) :
    Sound g l ((opened g l).run ops) := (sound_opened g l).run ops

/-! ## Growth -/

theorem run_append (s : Session) (ops ops' : List Operation) :
    s.run (ops ++ ops') = (s.run ops).run ops' := List.foldl_append

/-- The tally of a session only grows. -/
theorem Sound.tally_run {l₀ : Ledger} (hs : Sound g l₀ s) (ops : List Operation) :
    ∃ t, (s.run ops).tally g l₀.globalQuiet = s.tally g l₀.globalQuiet + t := by
  induction ops generalizing s with
  | nil => exact ⟨0, (add_zero _).symm⟩
  | cons op ops ih =>
    have hmoves := step_moves hs.guards op
    obtain ⟨t, ht, -⟩ := hmoves.advances hs.calls
    obtain ⟨t', ht'⟩ := ih (hs.moves hmoves)
    rw [hs.ledger.quiet] at ht
    exact ⟨t + t', by rw [← add_assoc, ← ht]; exact ht'⟩

/-- The operation calls a guard that is there. -/
def isCall (s : Session) : Operation → Bool
  | .call guard _ => guard < s.guards.length
  | _ => false

/-- The number of calls that are made in some operations. -/
def callCount (s : Session) : List Operation → Nat
  | [] => 0
  | op :: ops => (s.isCall op).toNat + (s.step op).callCount ops

theorem length_calls_step (s : Session) (op : Operation) :
    (s.step op).calls.length = s.calls.length + (s.isCall op).toNat := by
  cases op with
  | call guard args =>
    rw [step]
    split
    case h_1 hnone => simp [isCall, List.getElem?_eq_none_iff.1 hnone]
    case h_2 g hsome => simp [isCall, (List.getElem?_eq_some_iff.1 hsome).1]
  | validate guard args => rw [step]; split <;> rfl
  | resolve call => rw [step]; split <;> simp [isCall, decide]
  | drop call => rw [step]; split <;> simp [isCall, decide]
  | clone guard => rw [step]; split <;> rfl

theorem length_calls_run (s : Session) (ops : List Operation) :
    (s.run ops).calls.length = s.calls.length + s.callCount ops := by
  induction ops generalizing s with
  | nil => rfl
  | cons op ops ih =>
    show ((s.step op).run ops).calls.length = _
    rw [ih, length_calls_step, callCount, Nat.add_assoc]

theorem callCount_le_length (s : Session) (ops : List Operation) :
    s.callCount ops ≤ ops.length := by
  induction ops generalizing s with
  | nil => exact Nat.le_refl _
  | cons op ops ih =>
    rw [callCount, List.length_cons, Nat.add_comm]
    exact Nat.add_le_add (ih _) (Bool.toNat_le _)

end Session

end CallContract
