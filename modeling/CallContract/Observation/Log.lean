import CallContract.Json.Library

/-!
# The log and diagnostics

An event of the log is written as one line: a JSON object with the event first, the severity second
and the other fields sorted by their names, fields of one name in the given order. A field of a call
that the schema does not declare is reported, to the log or elsewhere, and does no harm otherwise.
-/

namespace CallContract

/-- How serious an event is. -/
inductive Severity where
  | debug
  | info
  /-- Findings that end nothing. -/
  | warn
  | error
  deriving DecidableEq

namespace Severity

def name : Severity → String
  | debug => "DEBUG"
  | info => "INFO"
  | warn => "WARN"
  | error => "ERROR"

/-- All severities, the least serious one first. -/
def all : List Severity := [debug, info, warn, error]

/-- The severity of a name. -/
def ofName? (name : String) : Option Severity := all.find? (·.name = name)

/-- The place of a severity in the order. -/
def rank : Severity → Nat
  | debug => 0
  | info => 1
  | warn => 2
  | error => 3

instance : Ord Severity := ⟨fun a b => compare a.rank b.rank⟩

end Severity

/-! ## Lines -/

/-- An event for the log. -/
structure LogEvent where
  severity : Severity
  event : String
  fields : List (String × String)
  deriving DecidableEq

namespace Log

/-- Fields sorted by their names; the sort is stable. -/
def sorted (fields : List (String × String)) : List (String × String) :=
  fields.mergeSort fun a b => a.1 ≤ b.1

variable [JsonLibrary]

/-- A field of a line, behind a comma. -/
def entry (name value : String) : String :=
  "," ++ JsonLibrary.quote name ++ ":" ++ JsonLibrary.quote value

/-- The line for an event, without its line feed. -/
def line (severity : Severity) (event : String) (fields : List (String × String)) : String :=
  "\x7b\"event\":" ++ JsonLibrary.quote event ++
    ",\"severity\":" ++ JsonLibrary.quote severity.name ++
    String.join ((sorted fields).map fun f => entry f.1 f.2) ++ "\x7d"

/-- The line for an event as it is written. -/
def formatted (severity : Severity) (event : String) (fields : List (String × String)) : String :=
  line severity event fields ++ "\n"

end Log

/-- The line for an event, without its line feed. -/
def LogEvent.line [JsonLibrary] (e : LogEvent) : String := Log.line e.severity e.event e.fields

/-! ## Diagnostics -/

/-- A report of a field that is not declared. -/
structure Diagnostic where
  /-- The display name of the guard. -/
  guard : String
  field : String
  deriving DecidableEq

namespace Diagnostic

/-- The name of the event. -/
def event : String := "EXTRA_FIELD"

/-- The message of a diagnostic. -/
def message (d : Diagnostic) : String :=
  d.guard ++ ": unexpected field '" ++ d.field ++ "' not in schema"

/-- The diagnostic as a document. -/
def toJson (d : Diagnostic) : Json :=
  .object [("event", .string event), ("guard", .string d.guard), ("field", .string d.field)]

/-- A diagnostic in the log. -/
def logEvent (d : Diagnostic) : LogEvent :=
  { severity := .warn, event, fields := [("field", d.field), ("guard", d.guard)] }

/-- The log line of a diagnostic. -/
def logLine [JsonLibrary] (d : Diagnostic) : String := d.logEvent.line

end Diagnostic

end CallContract
