import CallContract.Guard.Builder
import CallContract.Proofs.FlatUnion
import CallContract.Proofs.Interleaving

/-!
# Contracts declared and contracts compiled

**Theorem (`declared_like_compiled`).** A guard whose parameters, result and configuration are
declared where it is built is the guard of the contract that is compiled of the same parts first.
One can be built exactly if the other can. Where one part is malformed, both ways report the error
of that part; where both are, the builder reports that of the result and the compilation that of the
parameters.

Both ways make the same two normalizations, in opposite orders. Neither depends on the other, so
both ways succeed on the same parts and come to the same contract (`Contract.ofRaw_ok_iff`,
`Builder.contract_declaring_ok_iff`); the order can be told from the error only, and only if both
parts are malformed (`Contract.ofRaw_error_iff`, `Builder.contract_declaring_error_iff`).
-/

namespace CallContract

/-! ## What a source has -/

namespace BuilderSource

/-- The configuration of a contract, or else no settings. -/
def config : BuilderSource → Config
  | contract c => c.config
  | _ => {}

/-- The result that a contract expects. -/
def result? : BuilderSource → Option Descriptor
  | contract c => c.returns
  | _ => none

/-- The schema, which may have to be normalized. -/
def parameters [PatternCompiler] : BuilderSource → Except ConfigError Schema
  | raw params => params.normalize
  | schema s => .ok s
  | contract c => .ok c.schema

end BuilderSource

variable {params : RawSchema} {returns : Option RawSchema} {config : Config} {sink : Sink}

/-! ## The two ways to a contract -/

namespace Contract

variable [PatternCompiler]

theorem ofRaw_ok_iff {c : Contract} :
    ofRaw params returns config = .ok c ↔
      ∃ schema result, params.normalize = .ok schema ∧ returnsOf returns = .ok result ∧
        c = { schema, returns := result, config } := by
  rw [ofRaw, bind_ok_iff]
  constructor
  · rintro ⟨schema, hschema, h⟩
    obtain ⟨result, hresult, ⟨⟩⟩ := bind_ok_iff.1 h
    exact ⟨schema, result, hschema, hresult, rfl⟩
  · rintro ⟨schema, result, hschema, hresult, rfl⟩
    exact ⟨schema, hschema, bind_ok_iff.2 ⟨result, hresult, rfl⟩⟩

/-- The parameters are looked at first. -/
theorem ofRaw_error_iff {e : ConfigError} :
    ofRaw params returns config = .error e ↔
      params.normalize = .error e ∨
        ∃ schema, params.normalize = .ok schema ∧ returnsOf returns = .error e := by
  rw [ofRaw, bind_error_iff]
  refine or_congr_right (exists_congr fun schema => and_congr_right fun _ => ?_)
  rw [bind_error_iff]
  simp [pure, Except.pure]

end Contract

namespace Builder

/-- The configuration that the guard would get. -/
def configuration (b : Builder) : Config := b.config.getD b.seed

theorem seed_eq (b : Builder) : b.seed = b.source.config := by
  unfold seed BuilderSource.config
  cases b.source <;> rfl

section Contract

variable [PatternCompiler]

theorem contract_eq (b : Builder) :
    b.contract = (Contract.returnsOf b.returns).bind fun result =>
      b.source.parameters.map fun schema =>
        { schema, returns := result.or b.source.result?, config := b.configuration } := by
  unfold contract configuration
  cases Contract.returnsOf b.returns with
  | error e => rfl
  | ok result =>
    cases b.source with
    | raw params =>
      simp only [BuilderSource.parameters, BuilderSource.result?, Option.or_none]
      cases params.normalize <;> rfl
    | schema s => simp only [BuilderSource.result?, Option.or_none]; rfl
    | contract c => rfl

theorem contract_ok_iff {b : Builder} {c : Contract} :
    b.contract = .ok c ↔
      ∃ result schema, Contract.returnsOf b.returns = .ok result ∧
        b.source.parameters = .ok schema ∧
        { schema, returns := result.or b.source.result?, config := b.configuration } = c := by
  rw [contract_eq]
  show (Contract.returnsOf b.returns >>= _) = .ok c ↔ _
  rw [bind_ok_iff]
  refine exists_congr fun result => ?_
  rw [map_ok_iff, ← exists_and_left]

/-- The result is looked at first. -/
theorem contract_error_iff {b : Builder} {e : ConfigError} :
    b.contract = .error e ↔
      Contract.returnsOf b.returns = .error e ∨
        ∃ result, Contract.returnsOf b.returns = .ok result ∧ b.source.parameters = .error e := by
  rw [contract_eq]
  show (Contract.returnsOf b.returns >>= _) = .error e ↔ _
  rw [bind_error_iff]
  simp only [map_error_iff]

/-- The builder of a guard that is declared with its parameters, its result and its
configuration. -/
def declaring (params : RawSchema) (returns : Option RawSchema) (config : Config) (sink : Sink) :
    Builder :=
  { source := .raw params, returns, config := some config, sink }

/-- The builder of a guard for a contract that is there. -/
def ofContract (c : Contract) (sink : Sink) : Builder := { source := .contract c, sink }

theorem contract_declaring_ok_iff {c : Contract} :
    (declaring params returns config sink).contract = .ok c ↔
      ∃ schema result, params.normalize = .ok schema ∧ Contract.returnsOf returns = .ok result ∧
        c = { schema, returns := result, config } := by
  have hresult : (declaring params returns config sink).source.result? = none := rfl
  rw [contract_ok_iff, exists_comm]
  refine exists_congr fun schema => exists_congr fun result => ?_
  rw [and_left_comm, eq_comm (b := c), hresult, Option.or_none]
  rfl

/-- The result is looked at first. -/
theorem contract_declaring_error_iff {e : ConfigError} :
    (declaring params returns config sink).contract = .error e ↔
      Contract.returnsOf returns = .error e ∨
        ∃ result, Contract.returnsOf returns = .ok result ∧ params.normalize = .error e :=
  contract_error_iff

/-- **Both ways come to the same contract.** -/
theorem contract_declaring_iff_ofRaw {c : Contract} :
    (declaring params returns config sink).contract = .ok c ↔
      Contract.ofRaw params returns config = .ok c := by
  rw [contract_declaring_ok_iff, Contract.ofRaw_ok_iff]

/-- A contract that is there is taken as it is. -/
theorem contract_ofContract (c : Contract) : (ofContract c sink).contract = .ok c := by
  cases c
  rfl

end Contract

/-! ## Guards -/

/-- The guard that is built for a contract, with new counters in a ledger. -/
def guardFor (c : Contract) (sink : Sink) (callback : Callback) (l : Ledger) : Guard :=
  { contract := c
    callback
    channel := { config := c.config, sink, counters := l.openCounters.1 } }

variable [PatternCompiler] {b : Builder} {callback : Callback} {l : Ledger}

theorem build_of_ok {c : Contract} (h : b.contract = .ok c) :
    b.build callback l = (.ok (guardFor c b.sink callback l), l.openCounters.2) := by
  rw [build, h]
  rfl

theorem build_of_error {e : ConfigError} (h : b.contract = .error e) :
    b.build callback l = (.error e, l) := by
  rw [build, h]

end Builder

/-- A call that comes out as alone does so for every guard of the same contract and callback. -/
theorem Call.AsAlone.of_alike {g g' : Guard} {c : Call} (h : c.AsAlone g) (halike : g.Alike g') :
    c.AsAlone g' := by
  have htrans {alone : Guard} (h' : g'.Alike alone) : g.Alike alone :=
    { contract := h'.contract.trans halike.contract
      callback := h'.callback.trans halike.callback }
  exact
    { answer := fun alone h' => h.answer alone (htrans h')
      reply := fun alone h' => h.reply alone (htrans h')
      settled := fun alone h' => h.settled alone (htrans h') }

/-- The calls of every session of a guard come out as they would on an alike one. -/
theorem Guard.Alike.asAlone_run {g g' : Guard} (h : g.Alike g') (l : Ledger)
    (ops : List Operation) : ∀ c ∈ ((Session.opened g l).run ops).calls, c.AsAlone g' := by
  intro c hc
  have hs := Session.sound_run g l ops
  exact (hs.calls c hc).asAlone.of_alike h

/-! ## The comparison -/

/-- How a guard that is declared with some parts compares with the guard of the contract that is
compiled of them. -/
structure DeclaredLikeCompiled [PatternCompiler] (params : RawSchema) (returns : Option RawSchema)
    (config : Config) (sink : Sink) (callback : Callback) : Prop where
  /-- The one is built exactly if the contract of the other is compiled. -/
  builds : ∀ l,
    (∃ g, ((Builder.declaring params returns config sink).build callback l).1 = .ok g) ↔
      ∃ c, Contract.ofRaw params returns config = .ok c
  /-- Then they are the same guard, with the schema, the result and the configuration of the
  contract. -/
  same : ∀ c, Contract.ofRaw params returns config = .ok c → ∀ l, ∃ g l₀,
    (Builder.declaring params returns config sink).build callback l = (.ok g, l₀) ∧
      (Builder.ofContract c sink).build callback l = (.ok g, l₀) ∧
      g.contract = c ∧ g.contract.config = config ∧ g.channel.config = config
  /-- Wherever they are built, whatever is done with one of them, each call comes out as it would on
  the other. -/
  outcomes : ∀ c l l' g g' l₀ l₀', Contract.ofRaw params returns config = .ok c →
    (Builder.declaring params returns config sink).build callback l = (.ok g, l₀) →
    (Builder.ofContract c sink).build callback l' = (.ok g', l₀') →
    ∀ ops, (∀ call ∈ ((Session.opened g l₀).run ops).calls, call.AsAlone g') ∧
      ∀ call ∈ ((Session.opened g' l₀').run ops).calls, call.AsAlone g
  /-- If one part is malformed, both report its error. -/
  oneMalformed : ∀ e,
    (params.normalize = .error e ∧ ∃ result, Contract.returnsOf returns = .ok result) ∨
      ((∃ schema, params.normalize = .ok schema) ∧ Contract.returnsOf returns = .error e) →
    Contract.ofRaw params returns config = .error e ∧
      ∀ l, (Builder.declaring params returns config sink).build callback l = (.error e, l)
  /-- If both parts are malformed, the compilation reports the error of the parameters and the
  builder that of the result. -/
  bothMalformed : ∀ e e', params.normalize = .error e → Contract.returnsOf returns = .error e' →
    Contract.ofRaw params returns config = .error e ∧
      ∀ l, (Builder.declaring params returns config sink).build callback l = (.error e', l)

/-- **A contract that is declared makes the guard that it makes when it is compiled first.** -/
theorem declared_like_compiled [PatternCompiler] (params : RawSchema) (returns : Option RawSchema)
    (config : Config) (sink : Sink) (callback : Callback) :
    DeclaredLikeCompiled params returns config sink callback where
  builds := by
    intro l
    constructor
    · rintro ⟨g, hg⟩
      have hcontract := Builder.contract_of_build hg
      exact ⟨g.contract, Builder.contract_declaring_iff_ofRaw.1 hcontract⟩
    · rintro ⟨c, hc⟩
      have hdeclared : (Builder.declaring params returns config sink).contract = .ok c :=
        Builder.contract_declaring_iff_ofRaw.2 hc
      exact ⟨_, congrArg Prod.fst (Builder.build_of_ok hdeclared)⟩
  same := by
    intro c hc l
    have hconfig : c.config = config := by
      obtain ⟨schema, result, -, -, rfl⟩ := Contract.ofRaw_ok_iff.1 hc
      rfl
    have hdeclared : (Builder.declaring params returns config sink).contract = .ok c :=
      Builder.contract_declaring_iff_ofRaw.2 hc
    exact ⟨_, _, Builder.build_of_ok hdeclared, Builder.build_of_ok (Builder.contract_ofContract c),
      rfl, hconfig, hconfig⟩
  outcomes := by
    intro c l l' g g' l₀ l₀' hc hg hg' ops
    have hdeclared : (Builder.declaring params returns config sink).contract = .ok c :=
      Builder.contract_declaring_iff_ofRaw.2 hc
    rw [Builder.build_of_ok hdeclared] at hg
    rw [Builder.build_of_ok (Builder.contract_ofContract c)] at hg'
    -- the two differ in the number of their counters only
    have halike : g.Alike g' := by
      cases hg
      cases hg'
      exact { contract := rfl, callback := rfl }
    have hsymm : g'.Alike g :=
      { contract := halike.contract.symm, callback := halike.callback.symm }
    exact ⟨halike.asAlone_run l₀ ops, hsymm.asAlone_run l₀' ops⟩
  oneMalformed := by
    intro e h
    constructor
    · rw [Contract.ofRaw_error_iff]
      rcases h with ⟨hparams, -⟩ | ⟨⟨schema, hparams⟩, hreturns⟩
      · exact .inl hparams
      · exact .inr ⟨schema, hparams, hreturns⟩
    · intro l
      apply Builder.build_of_error
      rw [Builder.contract_declaring_error_iff]
      rcases h with ⟨hparams, result, hreturns⟩ | ⟨-, hreturns⟩
      · exact .inr ⟨result, hreturns, hparams⟩
      · exact .inl hreturns
  bothMalformed := by
    intro e e' hparams hreturns
    constructor
    · exact Contract.ofRaw_error_iff.2 (.inl hparams)
    · intro l
      exact Builder.build_of_error (Builder.contract_declaring_error_iff.2 (.inl hreturns))

open scoped Pattern.Regex

/-- Both parts are malformed: a name that is no kind, and a marker where a result is expected. -/
example :
    let params : RawSchema := .name "integer"
    Contract.ofRaw params (some .noArgs) {} = .error (.unknownKind "integer") ∧
      (Builder.declaring params (some .noArgs) {} .log).contract = .error (.misplaced .noArgs) :=
  ⟨rfl, rfl⟩

end CallContract
