import CallContract.Proofs.Declaration

/-!
# Settings of a builder

**Theorem (`settings_fold`).** A guard that is built has the configuration that the settings make,
in their order, of the configuration of its source; the result of the last setting of it, or else
that of the source; and the schema of the source. It is built exactly if that schema and that result
are well formed. A result that is set again later leaves nothing behind.

A builder has no configuration until a setting needs one, and takes that of its source then, or when
the guard is built. The configuration that it would be built with is always there: one setting
changes it as the fold does (`Builder.configuration_set`), so it makes no difference when the source
is asked.
-/

namespace CallContract

/-! ## What a setting asks for -/

namespace BuilderStep

/-- What a setting makes of a configuration. -/
def configure (c : Config) : BuilderStep → Config
  | config c' => c'
  | name text => { c with name := some text }
  | quiet on => { c with quiet := some on }
  | returns _ => c
  | sink _ => c

/-- The result that is set. -/
def result? : BuilderStep → Option RawSchema
  | returns raw => some raw
  | _ => none

/-- The sink that is set. -/
def sink? : BuilderStep → Option Sink
  | sink s => some s
  | _ => none

end BuilderStep

/-- The result of the last setting of it. -/
def lastResult? (steps : List BuilderStep) : Option RawSchema :=
  (steps.filterMap BuilderStep.result?).getLast?

/-- The sink of the last setting of it, or else the log. -/
def lastSink (steps : List BuilderStep) : Sink :=
  (steps.filterMap BuilderStep.sink?).getLast?.getD .log

/-! ## Results -/

namespace Contract

variable [PatternCompiler] {r : Option RawSchema}

theorem returnsOf_ok_iff {result : Option Descriptor} :
    returnsOf r = .ok result ↔
      (r = none ∧ result = none) ∨
        ∃ raw d, r = some raw ∧ raw.toDescriptor = .ok d ∧ result = some d := by
  cases r with
  | none => simp [returnsOf, eq_comm]
  | some raw => simp [returnsOf, map_ok_iff, eq_comm (a := result)]

theorem returnsOf_error_iff {e : ConfigError} :
    returnsOf r = .error e ↔ ∃ raw, r = some raw ∧ raw.toDescriptor = .error e := by
  cases r with
  | none => simp [returnsOf]
  | some raw => simp [returnsOf, map_error_iff]

theorem exists_returnsOf_ok :
    (∃ result, returnsOf r = .ok result) ↔
      ∀ raw, r = some raw → ∃ d, raw.toDescriptor = .ok d := by
  cases r with
  | none => simp [returnsOf]
  | some raw => simp [returnsOf, map_ok_iff]

end Contract

namespace Builder

/-- The builder of a source after some settings, in order. -/
def ofSteps (source : BuilderSource) (steps : List BuilderStep) : Builder :=
  steps.foldl set { source }

/-! ## One setting -/

@[simp] theorem source_set (b : Builder) (step : BuilderStep) : (b.set step).source = b.source := by
  cases step <;> rfl

/-- No setting reads the result that has been set. -/
theorem set_with_returns (b : Builder) (r : Option RawSchema) (step : BuilderStep) :
    { b with returns := r }.set step = { b.set step with returns := step.result?.or r } := by
  cases step <;> rfl

theorem sink_set (b : Builder) (step : BuilderStep) :
    (b.set step).sink = step.sink?.getD b.sink := by
  cases step <;> rfl

/-- **A setting changes the configuration as the fold does**, whether the builder has one yet or
not. -/
theorem configuration_set (b : Builder) (step : BuilderStep) :
    (b.set step).configuration = step.configure b.configuration := by
  cases step <;> rfl

/-! ## All settings -/

theorem source_foldl_set (b : Builder) (steps : List BuilderStep) :
    (steps.foldl set b).source = b.source := by
  induction steps generalizing b with
  | nil => rfl
  | cons step steps ih => rw [List.foldl_cons, ih, source_set]

theorem configuration_foldl_set (b : Builder) (steps : List BuilderStep) :
    (steps.foldl set b).configuration =
      steps.foldl BuilderStep.configure b.configuration := by
  induction steps generalizing b with
  | nil => rfl
  | cons step steps ih => rw [List.foldl_cons, ih, configuration_set, List.foldl_cons]

theorem getLast?_filterMap_cons {α β : Type} (f : α → Option β) (a : α) (as : List α) :
    ((a :: as).filterMap f).getLast? = (as.filterMap f).getLast?.or (f a) := by
  rw [List.filterMap_cons]
  cases f a with
  | none => simp
  | some b => cases h : (as.filterMap f).getLast? <;> simp [List.getLast?_cons, h]

theorem foldl_set_with_returns (b : Builder) (r : Option RawSchema) (steps : List BuilderStep) :
    steps.foldl set { b with returns := r } =
      { steps.foldl set b with returns := (lastResult? steps).or r } := by
  induction steps generalizing b r with
  | nil => rfl
  | cons step steps ih =>
    rw [List.foldl_cons, set_with_returns, ih, List.foldl_cons, lastResult?, lastResult?,
      getLast?_filterMap_cons, Option.or_assoc]

theorem returns_foldl_set (b : Builder) (steps : List BuilderStep) :
    (steps.foldl set b).returns = (lastResult? steps).or b.returns :=
  congrArg Builder.returns (b.foldl_set_with_returns b.returns steps)

theorem sink_foldl_set (b : Builder) (steps : List BuilderStep) :
    (steps.foldl set b).sink = (steps.filterMap BuilderStep.sink?).getLast?.getD b.sink := by
  induction steps generalizing b with
  | nil => rfl
  | cons step steps ih =>
    rw [List.foldl_cons, ih, sink_set, getLast?_filterMap_cons, Option.getD_or]

/-- **A result that is set again later leaves nothing behind.** -/
theorem ofSteps_overwritten (source : BuilderSource) (before between later : List BuilderStep)
    (raw raw' : RawSchema) :
    ofSteps source (before ++ .returns raw :: between ++ .returns raw' :: later) =
      ofSteps source (before ++ between ++ .returns raw' :: later) := by
  simp only [ofSteps, List.foldl_append, List.foldl_cons]
  congr 1
  show { between.foldl set { before.foldl set { source } with returns := some raw } with
    returns := some raw' } = { between.foldl set (before.foldl set { source }) with
    returns := some raw' }
  rw [foldl_set_with_returns]

end Builder

/-! ## What is built -/

/-- A guard that is built of a source with some settings. -/
structure BuiltOf [PatternCompiler] (source : BuilderSource) (steps : List BuilderStep)
    (callback : Callback) (g : Guard) : Prop where
  /-- The settings change the configuration of the source, one after the other. -/
  configuration : g.contract.config = steps.foldl BuilderStep.configure source.config
  /-- The result of the last setting of it is expected, or else that of the source. -/
  result : (lastResult? steps = none ∧ g.contract.returns = source.result?) ∨
    ∃ raw d, lastResult? steps = some raw ∧ raw.toDescriptor = .ok d ∧ g.contract.returns = some d
  /-- No setting changes the schema. -/
  schema : source.parameters = .ok g.contract.schema
  callback : g.callback = callback
  /-- Diagnostics go by the same configuration, to the sink of the last setting of it. -/
  channel : g.channel.config = g.contract.config ∧ g.channel.sink = lastSink steps

/-- How a source and some settings make a guard. -/
structure BuildsFrom [PatternCompiler] (source : BuilderSource) (steps : List BuilderStep)
    (callback : Callback) : Prop where
  built : ∀ l g, ((Builder.ofSteps source steps).build callback l).1 = .ok g →
    BuiltOf source steps callback g
  /-- The schema must be well formed, and the last result that was set. -/
  builds_iff : ∀ l, (∃ g, ((Builder.ofSteps source steps).build callback l).1 = .ok g) ↔
    (∀ raw, lastResult? steps = some raw → ∃ d, raw.toDescriptor = .ok d) ∧
      ∃ schema, source.parameters = .ok schema
  /-- The last result that was set is looked at before the schema. -/
  fails_iff : ∀ l e, ((Builder.ofSteps source steps).build callback l).1 = .error e ↔
    (∃ raw, lastResult? steps = some raw ∧ raw.toDescriptor = .error e) ∨
      (∀ raw, lastResult? steps = some raw → ∃ d, raw.toDescriptor = .ok d) ∧
        source.parameters = .error e
  /-- The builder is the same without a result that is set again later, so nothing can be made of
  that one. -/
  overwritten : ∀ before raw between raw' later,
    steps = before ++ .returns raw :: between ++ .returns raw' :: later →
      Builder.ofSteps source steps =
        Builder.ofSteps source (before ++ between ++ .returns raw' :: later)

namespace Builder

variable {source : BuilderSource} {steps : List BuilderStep} {callback : Callback} {l : Ledger}

theorem source_ofSteps : (ofSteps source steps).source = source := source_foldl_set _ _

theorem returns_ofSteps : (ofSteps source steps).returns = lastResult? steps := by
  rw [ofSteps, returns_foldl_set, Option.or_none]

theorem configuration_ofSteps :
    (ofSteps source steps).configuration = steps.foldl BuilderStep.configure source.config := by
  rw [ofSteps, configuration_foldl_set, configuration, seed_eq, Option.getD_none]

theorem build_fst_error_iff [PatternCompiler] {b : Builder} {e : ConfigError} :
    (b.build callback l).1 = .error e ↔ b.contract = .error e := by
  cases h : b.contract with
  | error e' => simp [build_of_error h]
  | ok c => simp [build_of_ok h]

theorem exists_build_iff [PatternCompiler] {b : Builder} :
    (∃ g, (b.build callback l).1 = .ok g) ↔ ∃ c, b.contract = .ok c := by
  cases h : b.contract with
  | error e => simp [build_of_error h]
  | ok c => simp [build_of_ok h]

end Builder

/-- **The settings of a builder are folded into the configuration of its source**, and nothing else
of them is left but the last result and the last sink. -/
theorem settings_fold [PatternCompiler] (source : BuilderSource) (steps : List BuilderStep)
    (callback : Callback) : BuildsFrom source steps callback where
  built := by
    intro l g hg
    cases hcontract : (Builder.ofSteps source steps).contract with
    | error e =>
      rw [Builder.build_of_error hcontract] at hg
      cases hg
    | ok c =>
      rw [Builder.build_of_ok hcontract] at hg
      obtain ⟨result, schema, hresult, hschema, rfl⟩ := Builder.contract_ok_iff.1 hcontract
      rw [Builder.source_ofSteps] at hschema hg
      rw [Builder.returns_ofSteps, Contract.returnsOf_ok_iff] at hresult
      rw [Builder.configuration_ofSteps] at hg
      cases hg
      refine ⟨rfl, ?_, hschema, rfl, rfl, ?_⟩
      · rcases hresult with ⟨hnone, rfl⟩ | ⟨raw, d, hlast, hd, rfl⟩
        · exact .inl ⟨hnone, rfl⟩
        · exact .inr ⟨raw, d, hlast, hd, rfl⟩
      · exact Builder.sink_foldl_set _ steps
  builds_iff := by
    intro l
    rw [Builder.exists_build_iff, ← Contract.exists_returnsOf_ok]
    simp only [Builder.contract_ok_iff, Builder.source_ofSteps, Builder.returns_ofSteps]
    constructor
    · rintro ⟨c, result, schema, hresult, hschema, -⟩
      exact ⟨⟨result, hresult⟩, schema, hschema⟩
    · rintro ⟨⟨result, hresult⟩, schema, hschema⟩
      exact ⟨_, result, schema, hresult, hschema, rfl⟩
  fails_iff := by
    intro l e
    rw [Builder.build_fst_error_iff, Builder.contract_error_iff, Builder.source_ofSteps,
      Builder.returns_ofSteps, Contract.returnsOf_error_iff, ← Contract.exists_returnsOf_ok,
      exists_and_right]
  overwritten := by
    rintro before raw between raw' later rfl
    exact Builder.ofSteps_overwritten source before between later raw raw'

open scoped Pattern.Regex

/-- A contract keeps its name where quiet is set first, and loses it where a configuration is set;
the first of the two results is malformed and is not looked at. -/
example :
    let c : Contract := { schema := .zeroArg, returns := none, config := { name := some "add" } }
    let steps : List BuilderStep := [.quiet true, .returns .noArgs, .returns (.name "int")]
    (Builder.ofSteps (.contract c) steps).contract =
        .ok { schema := .zeroArg, returns := some (.kind .int)
              config := { name := some "add", quiet := some true } } ∧
      (Builder.ofSteps (.contract c) [.quiet true, .config {}, .quiet false]).configuration =
        { quiet := some false } :=
  ⟨rfl, rfl⟩

end CallContract
