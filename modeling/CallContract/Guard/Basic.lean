import CallContract.Contract
import CallContract.Observation.Ledger
import CallContract.Validation.Match
import CallContract.Validation.Validate

/-!
# Guards

A callback behind a contract. A call makes a bag of its arguments, validates it, runs the callback
on what the bag then holds, and checks the result. Nothing of the callback runs before the
arguments are valid; a pending result is not awaited by the call, and its check waits with it.

Each step is a function on the ledger, which holds the counters that clones of a guard share. A
callback answers by its arguments alone and reaches no ledger, as all code does that a caller
supplies: a callback that calls guards itself, or answers differently each time, is not covered.
-/

namespace CallContract

/-- The code behind a guard. -/
abbrev Callback := List Value → Except Fault Output

/-- A callback behind a contract. -/
structure Guard where
  contract : Contract
  callback : Callback
  channel : Channel

/-- What a call hands back if its arguments are valid. -/
inductive Reply where
  | ready (value : Value)
  /-- A promise of the callback, which settles to the given outcome, and the guard that is to check
  it then. -/
  | pending (guard : Guard) (settled : Outcome)

/-- Reports the fields of a bag that its schema does not declare, and validates the bag. -/
def Channel.validate (c : Channel) (schema : Schema) (bag : Bag) (l : Ledger) :
    Validated Bag × Ledger :=
  let l := c.reportExtraFields l (schema.extraFields bag)
  let validated := schema.validate bag
  (validated.result, l.noteRuns validated.runs)

namespace Guard

/-- The counters of a guard. -/
def metrics (g : Guard) (l : Ledger) : Metrics := l.metrics g.channel.counters

/-- Makes a bag of some arguments and validates it; answers the bag with its coercions. -/
def validate (g : Guard) (args : List Value) (l : Ledger) : Except CallError Bag × Ledger :=
  match Bag.ofCall g.contract.schema args with
  | .error e => (.error e, l)
  | .ok bag =>
    let (validated, l) := g.channel.validate g.contract.schema bag l
    (validated.outcome.map fun _ => validated.bag, l)

/-- Checks a result, if results are checked. -/
def checkResult (g : Guard) (v : Value) (l : Ledger) : Except CallError Value × Ledger :=
  match g.contract.returns with
  | none => (.ok v, l)
  | some d =>
    let checked := d.checkResult v
    let l := l.noteRuns checked.runs
    match checked.result with
    | .ok _ => (.ok v, l)
    | .error e => (.error e, g.channel.count Metrics.countReturnRejected l)

/-- Runs the callback on valid arguments. -/
def runCallback (g : Guard) (args : List Value) (l : Ledger) : Except CallError Reply × Ledger :=
  let l := l.note [.callback args]
  match g.callback args with
  | .error fault => (.error (.callback fault), l)
  | .ok (.ready v) =>
    let (checked, l) := g.checkResult v l
    (checked.map .ready, l)
  | .ok (.pending settled) => (.ok (.pending g settled), l)

/-- Calls a guard. -/
def call (g : Guard) (args : List Value) (l : Ledger) : Except CallError Reply × Ledger :=
  match g.validate args l with
  | (.error e, l) => (.error e, g.channel.count Metrics.countRejected l)
  | (.ok bag, l) =>
    g.runCallback (bag.toCallArgs g.contract.schema) (g.channel.count Metrics.countAccepted l)

end Guard

namespace Reply

/-- The result is still to come. -/
def isPending : Reply → Bool
  | ready _ => false
  | pending .. => true

/-- The value, if it is there. -/
def value? : Reply → Option Value
  | ready v => some v
  | pending .. => none

/-- Settles a reply. A promised result is checked when it comes; a failure is passed on. -/
def resolve (r : Reply) (l : Ledger) : Except CallError Value × Ledger :=
  match r with
  | ready v => (.ok v, l)
  | pending g settled =>
    let l := l.note [.settled]
    match settled with
    | .error fault => (.error (.callback fault), l)
    | .ok v => g.checkResult v l

end Reply

/-- Calls a guard and settles the reply at once. -/
def Guard.invoke (g : Guard) (args : List Value) (l : Ledger) : Except CallError Value × Ledger :=
  match g.call args l with
  | (.error e, l) => (.error e, l)
  | (.ok reply, l) => reply.resolve l

end CallContract
