import CallContract.Schema.Raw

/-!
# Contracts

What a guard enforces: the schema of the arguments, the descriptor of the result if results are
checked, and the configuration. The configuration has the name that a guard goes by in diagnostics,
and says whether its diagnostics are suppressed; a guard that leaves this open follows the global
setting of the moment.
-/

namespace CallContract

/-! ## Configurations -/

/-- The settings of one guard. -/
structure Config where
  name : Option String := none
  /-- Suppress diagnostics; if missing, the global setting decides. -/
  quiet : Option Bool := none
  deriving DecidableEq, Inhabited

namespace Config

/-- Diagnostics are suppressed, given the global setting. -/
def isQuiet (c : Config) (globalQuiet : Bool) : Bool := c.quiet.getD globalQuiet

/-- The name shown in diagnostics. -/
def displayName (c : Config) : String := c.name.getD "anonymous"

end Config

/-! ## Contracts -/

/-- What a guard enforces. -/
structure Contract where
  schema : Schema
  /-- The expected result; if missing, results are not checked. -/
  returns : Option Descriptor
  config : Config

namespace Contract

variable [PatternCompiler]

/-- The descriptor of the result as it is written, if there is one. -/
def returnsOf (raw : Option RawSchema) : Except ConfigError (Option Descriptor) :=
  match raw with
  | none => .ok none
  | some raw => raw.toDescriptor.map some

/-- The contract with the given parameters and result as they are written, the parameters
normalized first. -/
def ofRaw (params : RawSchema) (returns : Option RawSchema) (config : Config) :
    Except ConfigError Contract := do
  let schema ← params.normalize
  let returns ← returnsOf returns
  return { schema, returns, config }

end Contract

end CallContract
