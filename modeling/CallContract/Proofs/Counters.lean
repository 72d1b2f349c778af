import CallContract.Guard.Builder
import CallContract.Pattern.Meaning
import CallContract.Proofs.Session

/-!
# What the counters of a guard say

**Theorem (`counters_account`).** After any operations on a guard that has just been built, and on
its clones, the counters account for what has happened: the calls that were made, the runs of the
callback, the results that were refused and the diagnostics that were delivered. A validation on its
own counts nothing but diagnostics, and no counter ever goes back.

The counters are the tally of the session (`Session.Sound.metrics`) as long as its numbers fit, and
a counter has 64 bits. What is said about them is said about tallies first, without a bound.
-/

namespace CallContract

/-! ## The tally of a session -/

namespace Guard

/-- A callback that has been run has produced at most one result, at once or with a promise. -/
theorem length_results_le (g : Guard) (args : List Value) :
    (g.readyResults args).length + (g.promisedResults args).length ≤
      if (g.output? args).isSome then 1 else 0 := by
  rw [readyResults, promisedResults]
  cases g.output? args with
  | none => exact Nat.le_refl _
  | some output =>
    cases output with
    | error fault => exact Nat.zero_le _
    | ok output =>
      cases output with
      | ready v => exact Nat.le_refl _
      | pending settled => cases settled <;> exact Nat.le_of_ble_eq_true rfl

/-- A validation counts diagnostics and nothing else. -/
theorem metrics_validate (g : Guard) (args : List Value) (l : Ledger) :
    ∃ extraFields, g.metrics (g.validate args l).2 = { g.metrics l with extraFields } := by
  rw [metrics, validate_snd, Ledger.metrics_tally]
  split
  · exact ⟨_, by simp only [Metrics.plus, Counter.plus_zero, Ledger.metrics_note,
      Ledger.metrics_deliverAll]; rfl⟩
  · exact ⟨_, by simp only [Ledger.metrics_note, Ledger.metrics_deliverAll]; rfl⟩

end Guard

namespace Call

variable (g : Guard) (globalQuiet : Bool) (c : Call)

theorem accepted_add_rejected_tally :
    (c.tally g globalQuiet).accepted + (c.tally g globalQuiet).rejected = 1 := by
  have hcall : (g.callTally globalQuiet c.args).accepted +
      (g.callTally globalQuiet c.args).rejected = 1 := by
    unfold Guard.callTally
    cases (g.output? c.args).isSome <;> rfl
  cases hsettled : c.isSettled with
  | false => rw [tally_of_not_settled hsettled, hcall]
  | true => rw [tally_of_settled hsettled]; exact hcall

theorem refused_tally :
    (c.tally g globalQuiet).refused = (c.produced g).countP g.contract.refuses := by
  cases hsettled : c.isSettled with
  | false => rw [tally_of_not_settled hsettled, produced, hsettled]; simp [Guard.callTally]
  | true =>
    rw [tally_of_settled hsettled, produced, hsettled]
    simp [Guard.callTally, Guard.settlingTally]

theorem refused_le_accepted_tally :
    (c.tally g globalQuiet).refused ≤ (c.tally g globalQuiet).accepted := by
  have hlength : (c.produced g).length ≤ if (g.output? c.args).isSome then 1 else 0 := by
    refine Nat.le_trans ?_ (g.length_results_le c.args)
    rw [produced, List.length_append]
    refine Nat.add_le_add_left ?_ _
    split
    · exact Nat.le_refl _
    · exact Nat.zero_le _
  have haccepted : (c.tally g globalQuiet).accepted =
      if (g.output? c.args).isSome then 1 else 0 := by
    cases hsettled : c.isSettled with
    | false => rw [tally_of_not_settled hsettled]; rfl
    | true => rw [tally_of_settled hsettled]; rfl
  rw [refused_tally, haccepted]
  exact Nat.le_trans List.countP_le_length hlength

/-- The tally of some calls. -/
theorem sum_tally (calls : List Call) :
    let t := (calls.map (tally g globalQuiet)).sum
    t.accepted + t.rejected = calls.length ∧
      t.refused = (calls.flatMap (produced g)).countP g.contract.refuses ∧
      t.refused ≤ t.accepted := by
  induction calls with
  | nil => exact ⟨rfl, rfl, Nat.le_refl _⟩
  | cons c calls ih =>
    obtain ⟨hmade, hrefused, hle⟩ := ih
    have hmade₁ := c.accepted_add_rejected_tally g globalQuiet
    have hrefused₁ := c.refused_tally g globalQuiet
    have hle₁ := c.refused_le_accepted_tally g globalQuiet
    simp only [List.map_cons, List.sum_cons, List.length_cons, List.flatMap_cons,
      List.countP_append, Tally.accepted_add, Tally.rejected_add, Tally.refused_add]
    omega

end Call

theorem Tally.sum_extra {α : Type} (f : α → Nat) (xs : List α) :
    ∃ n, (xs.map fun x => ({ extra := f x } : Tally)).sum = { extra := n } := by
  induction xs with
  | nil => exact ⟨0, rfl⟩
  | cons x xs ih =>
    obtain ⟨n, hn⟩ := ih
    exact ⟨f x + n, by rw [List.map_cons, List.sum_cons, hn]; rfl⟩

theorem Session.tally_account (g : Guard) (globalQuiet : Bool) (s : Session) :
    let t := s.tally g globalQuiet
    t.accepted + t.rejected = s.calls.length ∧
      t.refused = (s.calls.flatMap (Call.produced g)).countP g.contract.refuses ∧
      t.refused ≤ t.accepted := by
  obtain ⟨n, hn⟩ := Tally.sum_extra (fun args => (g.diagnostics globalQuiet args).length)
    s.validations
  rw [tally, hn]
  exact Call.sum_tally g globalQuiet s.calls

/-! ## A guard that has been built -/

/-- A guard that has just been built has counters of its own, at zero. -/
structure Guard.FreshIn (g : Guard) (l : Ledger) : Prop where
  present : g.channel.counters < l.counters.length
  zero : g.metrics l = {}
  sink : l.HasSink g.channel.sink

theorem Builder.build_fresh [PatternCompiler] {b : Builder} {callback : Callback} {l l₀ : Ledger}
    {g : Guard} (h : b.build callback l = (.ok g, l₀)) (hsink : l.HasSink b.sink) :
    g.FreshIn l₀ := by
  unfold build at h
  cases hcontract : b.contract with
  | error e => rw [hcontract] at h; cases h
  | ok contract =>
    rw [hcontract] at h
    cases h
    exact
      { present := by simp
        zero := by simp [Guard.metrics, Ledger.metrics]
        sink := by cases hb : b.sink <;> rw [hb] at hsink <;> exact hsink }

/-! ## Counters that fit -/

/-- Counters that have not gone back. -/
structure Metrics.AtMost (m m' : Metrics) : Prop where
  callsAccepted : m.callsAccepted ≤ m'.callsAccepted
  callsRejected : m.callsRejected ≤ m'.callsRejected
  returnsRejected : m.returnsRejected ≤ m'.returnsRejected
  extraFields : m.extraFields ≤ m'.extraFields

/-- All the numbers of a tally fit into counters. -/
structure Tally.Fits (t : Tally) : Prop where
  accepted : t.accepted < UInt64.size
  rejected : t.rejected < UInt64.size
  refused : t.refused < UInt64.size
  extra : t.extra < UInt64.size

/-- The counters show a tally. -/
structure Metrics.Shows (m : Metrics) (t : Tally) : Prop where
  callsAccepted : m.callsAccepted.toNat = t.accepted
  callsRejected : m.callsRejected.toNat = t.rejected
  returnsRejected : m.returnsRejected.toNat = t.refused
  extraFields : m.extraFields.toNat = t.extra

theorem Tally.Fits.shows {t : Tally} (h : t.Fits) : (({} : Metrics).plus t).Shows t where
  callsAccepted := Counter.toNat_zero_plus h.accepted
  callsRejected := Counter.toNat_zero_plus h.rejected
  returnsRejected := Counter.toNat_zero_plus h.refused
  extraFields := Counter.toNat_zero_plus h.extra

theorem Tally.Fits.of_add {s t : Tally} (h : (s + t).Fits) : s.Fits where
  accepted := Nat.lt_of_le_of_lt (Nat.le_add_right _ _) h.accepted
  rejected := Nat.lt_of_le_of_lt (Nat.le_add_right _ _) h.rejected
  refused := Nat.lt_of_le_of_lt (Nat.le_add_right _ _) h.refused
  extra := Nat.lt_of_le_of_lt (Nat.le_add_right _ _) h.extra

theorem Metrics.Shows.atMost {m m' : Metrics} {s t : Tally} (h : m.Shows s)
    (h' : m'.Shows (s + t)) : m.AtMost m' where
  callsAccepted := by
    rw [UInt64.le_iff_toNat_le, h.callsAccepted, h'.callsAccepted]
    exact Nat.le_add_right _ _
  callsRejected := by
    rw [UInt64.le_iff_toNat_le, h.callsRejected, h'.callsRejected]
    exact Nat.le_add_right _ _
  returnsRejected := by
    rw [UInt64.le_iff_toNat_le, h.returnsRejected, h'.returnsRejected]
    exact Nat.le_add_right _ _
  extraFields := by
    rw [UInt64.le_iff_toNat_le, h.extraFields, h'.extraFields]
    exact Nat.le_add_right _ _

namespace Session

variable {g : Guard} {l₀ : Ledger} {s : Session}

/-- The counters of the guard are the tally of the session. -/
theorem Sound.metrics (hs : Sound g l₀ s) (hfresh : g.FreshIn l₀) :
    g.metrics s.ledger = ({} : Metrics).plus (s.tally g l₀.globalQuiet) := by
  have hcounters : g.metrics s.ledger =
      g.metrics (l₀.tally g.channel.counters (s.tally g l₀.globalQuiet)) := by
    rw [Guard.metrics, Guard.metrics, Ledger.metrics, Ledger.metrics, hs.ledger.counters]
  rw [hcounters, Guard.metrics, Ledger.metrics_tally, if_pos hfresh.present, ← hfresh.zero]
  rfl

/-- What fits after some operations has fitted before. -/
theorem Sound.fits_of_run (hs : Sound g l₀ s) {ops : List Operation}
    (hfits : ((s.run ops).tally g l₀.globalQuiet).Fits) : (s.tally g l₀.globalQuiet).Fits := by
  obtain ⟨t, ht⟩ := hs.tally_run ops
  rw [ht] at hfits
  exact hfits.of_add

theorem Sound.atMost_run (hs : Sound g l₀ s) (hfresh : g.FreshIn l₀) {ops : List Operation}
    (hfits : ((s.run ops).tally g l₀.globalQuiet).Fits) :
    (g.metrics s.ledger).AtMost (g.metrics (s.run ops).ledger) := by
  obtain ⟨t, ht⟩ := hs.tally_run ops
  have hearlier := (hs.fits_of_run hfits).shows
  have hlater := hfits.shows
  rw [← hs.metrics hfresh] at hearlier
  rw [← (hs.run ops).metrics hfresh, ht] at hlater
  exact hearlier.atMost hlater

/-! ## The account -/

/-- What the counters of a guard say after some operations, of which the first one found the given
ledger. -/
structure Accounts (g : Guard) (l₀ : Ledger) (ops : List Operation) (s : Session) : Prop where
  /-- All guards are clones of the first one and share its counters. -/
  clones : ∀ g' ∈ s.guards, g'.metrics s.ledger = g.metrics s.ledger
  /-- Each call has been accepted or rejected. -/
  made : (g.metrics s.ledger).callsAccepted.toNat + (g.metrics s.ledger).callsRejected.toNat =
    (opened g l₀).callCount ops
  /-- The callback has been run for the calls that were accepted. -/
  accepted : (g.metrics s.ledger).callsAccepted.toNat =
    (callbackRuns (l₀.since s.ledger)).length
  /-- Results are refused when they are there, in a call or when its reply is settled. -/
  refused : (g.metrics s.ledger).returnsRejected.toNat =
    (s.calls.flatMap (Call.produced g)).countP g.contract.refuses
  refused_le : (g.metrics s.ledger).returnsRejected ≤ (g.metrics s.ledger).callsAccepted
  delivered : s.ledger.delivered g.channel.sink =
    l₀.delivered g.channel.sink + (g.metrics s.ledger).extraFields.toNat
  /-- A validation on its own changes at most one of the counters. -/
  validation : ∀ g' ∈ s.guards, ∀ args, ∃ extraFields,
    g.metrics (g'.validate args s.ledger).2 = { g.metrics s.ledger with extraFields }
  /-- No counter has gone back on the way. -/
  growth : ∀ earlier between later, ops = earlier ++ between ++ later →
    (g.metrics ((opened g l₀).run earlier).ledger).AtMost
      (g.metrics ((opened g l₀).run (earlier ++ between)).ledger)

theorem Sound.fits (hs : Sound g l₀ s) (hfresh : g.FreshIn l₀)
    (hcalls : s.calls.length < UInt64.size)
    (hdelivered : s.ledger.delivered g.channel.sink < l₀.delivered g.channel.sink + UInt64.size) :
    (s.tally g l₀.globalQuiet).Fits := by
  -- three of the numbers are bounded by that of the calls, the fourth by that of the diagnostics
  obtain ⟨hmade, -, hle⟩ := s.tally_account g l₀.globalQuiet
  obtain ⟨-, hextra⟩ := hs.ledger.delivered hfresh.sink
  exact
    { accepted := by omega
      rejected := by omega
      refused := by omega
      extra := by omega }

theorem accounts_run (hfresh : g.FreshIn l₀) (ops : List Operation)
    (hops : ops.length < UInt64.size)
    (hdelivered : ((opened g l₀).run ops).ledger.delivered g.channel.sink <
      l₀.delivered g.channel.sink + UInt64.size) :
    Accounts g l₀ ops ((opened g l₀).run ops) := by
  have hs := sound_run g l₀ ops
  have hlength : ((opened g l₀).run ops).calls.length = (opened g l₀).callCount ops :=
    (length_calls_run _ ops).trans (Nat.zero_add _)
  have hcalls : ((opened g l₀).run ops).calls.length < UInt64.size := by
    rw [hlength]
    exact Nat.lt_of_le_of_lt (callCount_le_length _ ops) hops
  have hfits := hs.fits hfresh hcalls hdelivered
  obtain ⟨hmade, hrefused, hle⟩ := ((opened g l₀).run ops).tally_account g l₀.globalQuiet
  have hshows := hfits.shows
  rw [← hs.metrics hfresh] at hshows
  exact
    { clones := fun g' hg' => by rw [hs.guards g' hg']
      made := by rw [hshows.callsAccepted, hshows.callsRejected, hmade, hlength]
      accepted := by
        obtain ⟨added, hjournal, hadded⟩ := hs.ledger.callbacks
        rw [hshows.callsAccepted, Ledger.since_of_append hjournal, hadded]
      refused := by rw [hshows.returnsRejected, hrefused]
      refused_le := by
        rw [UInt64.le_iff_toNat_le, hshows.returnsRejected, hshows.callsAccepted]
        exact hle
      delivered := by rw [hshows.extraFields, (hs.ledger.delivered hfresh.sink).2]
      validation := by
        intro g' hg' args
        rw [hs.guards g' hg']
        exact g.metrics_validate args _
      growth := by
        rintro earlier between later rfl
        have hbetween := sound_run g l₀ (earlier ++ between)
        rw [run_append] at hfits
        -- the bound is on the whole run, and passes to its beginning
        have hfits₁ := hbetween.fits_of_run hfits
        rw [run_append] at hfits₁ ⊢
        exact (sound_run g l₀ earlier).atMost_run hfresh hfits₁ }

end Session

/-- **The counters account for what has happened**, after any operations on a guard and its clones.
No more operations are done and no more diagnostics delivered than a counter can count. -/
theorem counters_account [PatternCompiler] {b : Builder} {callback : Callback} {l l₀ : Ledger}
    {g : Guard} (hbuild : b.build callback l = (.ok g, l₀)) (hsink : l.HasSink b.sink)
    (ops : List Operation) (hops : ops.length < UInt64.size)
    (hdelivered : ((Session.opened g l₀).run ops).ledger.delivered g.channel.sink <
      l₀.delivered g.channel.sink + UInt64.size) :
    Session.Accounts g l₀ ops ((Session.opened g l₀).run ops) :=
  Session.accounts_run (b.build_fresh hbuild hsink) ops hops hdelivered

open scoped Pattern.Regex

/-- A field that is not declared comes with a call and with a validation; the promise of the call is
refused when it is settled, and a clone refuses a call without arguments. -/
theorem counters_account_two_guards :
    let contract : Contract :=
      { schema := .object [⟨"flag", .kind .boolean⟩], returns := some (.kind .strictBoolean)
        config := {} }
    let callback : Callback := fun _ => .ok (.pending (.ok .null))
    let b : Builder := { source := .contract contract, sink := .memory 0 }
    let g : Guard :=
      { contract, callback, channel := { config := {}, sink := .memory 0, counters := 0 } }
    let l₀ : Ledger := { memory := [[]], counters := [{}] }
    let args : List Value := [.object [("flag", .null), ("size", .null)]]
    let ops : List Operation :=
      [.call 0 args, .clone 0, .call 1 [], .resolve 0, .validate 1 args]
    b.build callback { memory := [[]] } = (.ok g, l₀) ∧
      Session.Accounts g l₀ ops ((Session.opened g l₀).run ops) ∧
      g.metrics ((Session.opened g l₀).run ops).ledger =
        { callsAccepted := 1, callsRejected := 1, returnsRejected := 1, extraFields := 2 } := by
  intro contract callback b g l₀ args ops
  have hbuild : b.build callback { memory := [[]] } = (.ok g, l₀) := rfl
  have hdelivered : ((Session.opened g l₀).run ops).ledger.delivered (.memory 0) = 2 := rfl
  refine ⟨hbuild, counters_account hbuild Nat.zero_lt_one ops (by decide) ?_, rfl⟩
  exact hdelivered ▸ (by decide)

end CallContract
