import CallContract.Contract
import CallContract.Observation.Log
import CallContract.Validation.Match

/-!
# The ledger

What guards share and leave behind: the global quiet setting, the counters, the diagnostics that
were delivered, and a journal of what supplied code did. A step of a guard is a function on the
ledger, so that steps can be put in any order.

A counter is only ever counted up, and has 64 bits: after the greatest number it starts from zero
again. Clones of a guard share their counters.

Counters and memory sinks are numbered in the order in which they are opened. A sink may also be
supplied by a caller. Such a sink is handed the diagnostic and touches nothing of what guards share:
what it has been handed is all that is recorded of it.
-/

namespace CallContract

/-! ## Counters -/

/-- A counter. -/
abbrev Counter := UInt64

instance : CoeOut Counter Nat := ⟨UInt64.toNat⟩

/-- The counters of a guard. -/
structure Metrics where
  /-- Calls whose arguments were valid. -/
  callsAccepted : Counter := 0
  /-- Calls refused before the callback ran. -/
  callsRejected : Counter := 0
  /-- Results refused. -/
  returnsRejected : Counter := 0
  /-- Diagnostics of extra fields that were delivered. -/
  extraFields : Counter := 0
  deriving DecidableEq, Inhabited

namespace Metrics

def countAccepted (m : Metrics) : Metrics := { m with callsAccepted := m.callsAccepted + 1 }
def countRejected (m : Metrics) : Metrics := { m with callsRejected := m.callsRejected + 1 }
def countReturnRejected (m : Metrics) : Metrics :=
  { m with returnsRejected := m.returnsRejected + 1 }
def countExtraField (m : Metrics) : Metrics := { m with extraFields := m.extraFields + 1 }

/-- The counters in order, each with its name. -/
def entries (m : Metrics) : List (String × Nat) :=
  [("calls_accepted", m.callsAccepted), ("calls_rejected", m.callsRejected),
    ("returns_rejected", m.returnsRejected), ("extra_fields", m.extraFields)]

end Metrics

/-! ## What guards leave behind -/

/-- What supplied code does. -/
inductive Activity where
  /-- A predicate is run. -/
  | predicate (run : PredicateRun)
  /-- The callback of a guard is run. -/
  | callback (args : List Value)
  /-- A promise settles. -/
  | settled

/-- Where diagnostics go. -/
inductive Sink where
  | log
  /-- The memory sink of the given number. -/
  | memory (number : Nat)
  /-- A sink that a caller supplied, by a number of its own. -/
  | supplied (number : Nat)
  deriving DecidableEq

/-- What guards share and leave behind. -/
structure Ledger where
  globalQuiet : Bool := false
  /-- The counters, by number. -/
  counters : List Metrics := []
  /-- The diagnostics in each memory sink, oldest first. -/
  memory : List (List Diagnostic) := []
  /-- The diagnostics that supplied sinks were handed, each with the number of its sink, oldest
  first. -/
  handed : List (Nat × Diagnostic) := []
  /-- The events in the log, oldest first. -/
  log : List LogEvent := []
  /-- What supplied code did, oldest first. -/
  journal : List Activity := []

namespace Ledger

/-- The counters of the given number. -/
def metrics (l : Ledger) (number : Nat) : Metrics := l.counters[number]?.getD {}

/-- The diagnostics in the memory sink of the given number. -/
def records (l : Ledger) (number : Nat) : List Diagnostic := l.memory[number]?.getD []

/-- Opens new counters, and answers their number. -/
def openCounters (l : Ledger) : Nat × Ledger :=
  (l.counters.length, { l with counters := l.counters ++ [{}] })

/-- Opens a new memory sink, and answers its number. -/
def openMemory (l : Ledger) : Nat × Ledger :=
  (l.memory.length, { l with memory := l.memory ++ [[]] })

/-- Counts something. -/
def count (l : Ledger) (number : Nat) (f : Metrics → Metrics) : Ledger :=
  { l with counters := l.counters.modify number f }

/-- Writes into the journal. -/
def note (l : Ledger) (activities : List Activity) : Ledger :=
  { l with journal := l.journal ++ activities }

/-- Writes predicate runs into the journal. -/
def noteRuns (l : Ledger) (runs : List PredicateRun) : Ledger := l.note (runs.map .predicate)

/-- Delivers a diagnostic. -/
def deliver (l : Ledger) (sink : Sink) (d : Diagnostic) : Ledger :=
  match sink with
  | .log => { l with log := l.log ++ [d.logEvent] }
  | .memory number => { l with memory := l.memory.modify number (· ++ [d]) }
  | .supplied number => { l with handed := l.handed ++ [(number, d)] }

/-- Forgets the diagnostics in a memory sink. -/
def clearMemory (l : Ledger) (number : Nat) : Ledger :=
  { l with memory := l.memory.modify number fun _ => [] }

/-- The lines in the log, oldest first. -/
def logLines [JsonLibrary] (l : Ledger) : List String := l.log.map LogEvent.line

/-- Writes an event into the log. -/
def writeLog (l : Ledger) (e : LogEvent) : Ledger := { l with log := l.log ++ [e] }

/-- The diagnostics that a supplied sink was handed, oldest first. -/
def handedTo (l : Ledger) (number : Nat) : List Diagnostic :=
  l.handed.filterMap fun h => if h.1 = number then some h.2 else none

end Ledger

/-! ## Channels -/

/-- The way of a guard's diagnostics: the configuration, the sink, and the counters. -/
structure Channel where
  config : Config
  sink : Sink
  /-- The number of the counters in the ledger. -/
  counters : Nat
  deriving DecidableEq

namespace Channel

/-- The diagnostics of the channel are suppressed for now. -/
def isQuiet (c : Channel) (l : Ledger) : Bool := c.config.isQuiet l.globalQuiet

/-- Counts something. -/
def count (c : Channel) (f : Metrics → Metrics) (l : Ledger) : Ledger := l.count c.counters f

/-- Reports a field that is not declared, unless the channel is quiet. -/
def reportExtraField (c : Channel) (l : Ledger) (field : String) : Ledger :=
  if c.isQuiet l then l
  else
    c.count Metrics.countExtraField
      (l.deliver c.sink { guard := c.config.displayName, field })

/-- Reports some fields, in order. -/
def reportExtraFields (c : Channel) (l : Ledger) (fields : List String) : Ledger :=
  fields.foldl c.reportExtraField l

end Channel

end CallContract
