import CallContract.Schema.Basic

/-!
# Errors of calls

Why a guarded call did not complete. An error of a parameter arises before the callback runs, an
error of the result or of the callback itself after it has started. A mismatch says what was
expected, what was there, and sometimes why it will not do.
-/

namespace CallContract

/-! ## Mismatches -/

/-- A value that is not what a descriptor expects. -/
structure Mismatch where
  /-- The descriptor, as written in the schema. -/
  expected : String
  /-- The kind of the value, or its type. -/
  actual : String
  /-- Why a conversion, a predicate or a union refused the value. -/
  reason : Option String := none
  deriving DecidableEq

namespace Mismatch

/-- The mismatch of a descriptor and a value. -/
def of (d : Descriptor) (v : Value) (reason : Option String := none) : Mismatch :=
  { expected := d.text, actual := v.describe, reason }

/-- The message of a mismatch. -/
def message (m : Mismatch) : String :=
  "expected " ++ m.expected ++ ", got " ++ m.actual ++
    match m.reason with
    | some reason => " (" ++ reason ++ ")"
    | none => ""

end Mismatch

/-! ## Errors -/

/-- The place that an error is about. -/
inductive Slot where
  /-- A field of an object, or the field of a single value. -/
  | field (name : String)
  /-- A position, counted from zero. -/
  | position (index : Nat)
  /-- The result of the callback. -/
  | result
  deriving DecidableEq

/-- How messages name a place. -/
def Slot.text : Slot → String
  | field name => "field '" ++ name ++ "'"
  | position index => "argument " ++ toString index
  | result => "return value"

/-- The broad kinds of errors. -/
inductive ErrorKind where
  | arity
  | missingRequired
  | typeMismatch
  | returnTypeMismatch
  | callback
  deriving DecidableEq

/-- The name of a kind of errors. -/
def ErrorKind.name : ErrorKind → String
  | arity => "Arity"
  | missingRequired => "MissingRequired"
  | typeMismatch => "TypeMismatch"
  | returnTypeMismatch => "ReturnTypeMismatch"
  | callback => "Callback"

/-- An error of a guarded call. -/
inductive CallError where
  /-- Too few arguments, or any where there are to be none. -/
  | arity (expected actual : Nat)
  /-- A value that must be present is absent. -/
  | missingRequired (slot : Slot)
  | typeMismatch (slot : Slot) (mismatch : Mismatch)
  /-- A predicate failed instead of answering. -/
  | predicateRaised (slot : Slot) (predicate : String) (fault : Fault)
  | returnTypeMismatch (mismatch : Mismatch)
  /-- The callback failed. -/
  | callback (fault : Fault)
  deriving DecidableEq

namespace CallError

/-- The broad kind of an error. -/
def kind : CallError → ErrorKind
  | arity .. => .arity
  | missingRequired _ => .missingRequired
  | typeMismatch .. => .typeMismatch
  | predicateRaised slot _ _ => if slot = .result then .returnTypeMismatch else .typeMismatch
  | returnTypeMismatch _ => .returnTypeMismatch
  | callback _ => .callback

/-- The error arose before the callback ran. -/
def isParameterError (e : CallError) : Bool :=
  match e.kind with
  | .arity => true
  | .missingRequired => true
  | .typeMismatch => true
  | .returnTypeMismatch => false
  | .callback => false

/-- The place that the error is about, if it is about one. -/
def slot? : CallError → Option Slot
  | arity .. => none
  | missingRequired slot => some slot
  | typeMismatch slot _ => some slot
  | predicateRaised slot _ _ => some slot
  | returnTypeMismatch _ => some .result
  | callback _ => none

/-- The message of an error; that of a failed callback is the callback's own. -/
def message : CallError → String
  | arity expected actual =>
    "expected " ++ toString expected ++ " argument(s), got " ++ toString actual
  | missingRequired slot => slot.text ++ " is required"
  | typeMismatch slot mismatch => slot.text ++ ": " ++ mismatch.message
  | predicateRaised slot predicate fault =>
    slot.text ++ ": validator '" ++ predicate ++ "' failed: " ++ fault.message
  | returnTypeMismatch mismatch => "return value: " ++ mismatch.message
  | callback fault => fault.message

/-- The stable code of an error. -/
def code : CallError → String
  | arity .. => "FNGUARD_ARITY"
  | missingRequired _ => "FNGUARD_MISSING_REQUIRED"
  | typeMismatch .. => "FNGUARD_TYPE_MISMATCH"
  | predicateRaised .. => "FNGUARD_PREDICATE_RAISED"
  | returnTypeMismatch _ => "FNGUARD_RETURN_TYPE_MISMATCH"
  | callback _ => "FNGUARD_CALLBACK_FAILED"

end CallError

end CallContract
