import CallContract.Guard.Basic

/-!
# Building guards

A guard is built from parameters, a schema or a contract, and from settings made step by step. All
errors in what was declared come out when the guard is built. A setting of the name or of quiet
starts from the configuration set before it, or else from that of the contract.
-/

namespace CallContract

/-- What a guard is built from. -/
inductive BuilderSource where
  /-- Parameters as they are written. -/
  | raw (params : RawSchema)
  | schema (s : Schema)
  /-- A contract, with its result and its configuration. -/
  | contract (c : Contract)

/-- A guard in the making. -/
structure Builder where
  source : BuilderSource
  /-- The result as it is written, if it has been set. -/
  returns : Option RawSchema := none
  config : Option Config := none
  sink : Sink := .log

/-- A setting of a builder. -/
inductive BuilderStep where
  | returns (raw : RawSchema)
  | config (c : Config)
  | name (text : String)
  | quiet (on : Bool)
  | sink (s : Sink)

namespace Builder

/-- The configuration that settings start from. -/
def seed (b : Builder) : Config :=
  match b.source with
  | .contract c => c.config
  | _ => {}

/-- Changes the configuration. -/
def changeConfig (b : Builder) (f : Config → Config) : Builder :=
  { b with config := some (f (b.config.getD b.seed)) }

/-- Makes a setting. Of settings of the same thing the last one counts. -/
def set (b : Builder) : BuilderStep → Builder
  | .returns raw => { b with returns := some raw }
  | .config c => { b with config := some c }
  | .name text => b.changeConfig fun c => { c with name := some text }
  | .quiet on => b.changeConfig fun c => { c with quiet := some on }
  | .sink s => { b with sink := s }

variable [PatternCompiler]

/-- The contract that a builder has come to. The result is normalized before the parameters. -/
def contract (b : Builder) : Except ConfigError Contract := do
  let returns ← Contract.returnsOf b.returns
  match b.source with
  | .raw params =>
    let schema ← params.normalize
    return { schema, returns, config := b.config.getD b.seed }
  | .schema schema => return { schema, returns, config := b.config.getD b.seed }
  | .contract c =>
    return { schema := c.schema, returns := returns.or c.returns, config := b.config.getD b.seed }

/-- Builds the guard for a callback, with counters of its own. -/
def build (b : Builder) (callback : Callback) (l : Ledger) : Except ConfigError Guard × Ledger :=
  match b.contract with
  | .error e => (.error e, l)
  | .ok contract =>
    let (counters, l) := l.openCounters
    (.ok { contract, callback, channel := { config := contract.config, sink := b.sink, counters } },
      l)

end Builder

end CallContract
