import CallContract.Text.Quoted
import CallContract.Validation.CallError
import CallContract.Value.Convert

/-!
# Matching a value against a descriptor

A value matches as it is, matches in a canonical form, or fails to match. What an absent value
means in its place is decided before the matcher is asked; it answers for the value it is given,
with `undefined` as one value among others.

A union never coerces: the first of its members to match accepts the value as it is. Members that
permit absence say something about `undefined` only, and null matches every union.

A result is matched like a parameter, with three differences. A result that is `optional` is not
checked at all; a result that is `void` must be absent; and a union is tried member by member for
null too, and gives no reason when it fails. A result is never coerced: the caller receives what
the callback has produced.

Predicates are supplied by callers, who can tell how often each is run and on which values. The
matcher therefore answers together with the runs it made, in order.
-/

namespace CallContract

/-! ## Answers with the predicates that were run for them -/

/-- One run of a predicate. -/
structure PredicateRun where
  predicate : Predicate
  /-- The value it was run on. -/
  value : Value

/-- An answer and the predicate runs that led to it. -/
structure Traced (α : Type) where
  result : α
  runs : List PredicateRun

namespace Traced

variable {α β γ : Type}

theorem ext {s t : Traced α} (hr : s.result = t.result) (hs : s.runs = t.runs) : s = t := by
  cases s; cases t; cases hr; cases hs; rfl

/-- An answer for which no predicate was run. -/
protected def pure (a : α) : Traced α := ⟨a, []⟩

/-- Goes on from an answer; the runs are those of both parts. -/
protected def bind (t : Traced α) (f : α → Traced β) : Traced β :=
  let next := f t.result
  ⟨next.result, t.runs ++ next.runs⟩

/-- An answer from one run of a predicate. -/
def ofRun (run : PredicateRun) (a : α) : Traced α := ⟨a, [run]⟩

/-- The same runs with another answer. -/
protected def map (f : α → β) (t : Traced α) : Traced β := ⟨f t.result, t.runs⟩

@[simp] theorem result_pure (a : α) : (Traced.pure a).result = a := rfl
@[simp] theorem runs_pure (a : α) : (Traced.pure a).runs = [] := rfl

@[simp] theorem result_bind (t : Traced α) (f : α → Traced β) :
    (t.bind f).result = (f t.result).result := rfl

@[simp] theorem runs_bind (t : Traced α) (f : α → Traced β) :
    (t.bind f).runs = t.runs ++ (f t.result).runs := rfl

@[simp] theorem result_map (f : α → β) (t : Traced α) : (t.map f).result = f t.result := rfl
@[simp] theorem runs_map (f : α → β) (t : Traced α) : (t.map f).runs = t.runs := rfl

end Traced

/-! ## Answers of the matcher -/

/-- How a value matches. -/
inductive Matched where
  /-- As it is. -/
  | accepted
  /-- In this canonical form. -/
  | coerced (value : Value)

/-- The value to keep: the canonical form, or else the value as it was given. -/
def Matched.keep (given : Value) : Matched → Value
  | accepted => given
  | coerced value => value

/-- Why a value does not match. -/
inductive MatchError where
  | mismatch (m : Mismatch)
  /-- A predicate failed instead of answering. -/
  | raised (predicate : String) (fault : Fault)
  deriving DecidableEq

/-- The error of a parameter in the given place. -/
def MatchError.at (slot : Slot) : MatchError → CallError
  | mismatch m => .typeMismatch slot m
  | raised predicate fault => .predicateRaised slot predicate fault

/-- The answer of the matcher. -/
abbrev MatchResult := Except MatchError Matched

namespace MatchResult

/-- Accepts a value on a condition. -/
def acceptIf (condition : Bool) (otherwise : Mismatch) : MatchResult :=
  if condition then .ok .accepted else .error (.mismatch otherwise)

end MatchResult

/-! ## Kinds -/

namespace Kind

/-- Why a value is not a number. -/
def notNumeric : Value → String
  | .string s => "cannot parse " ++ Text.quoted s ++ " as a number"
  | v => v.kindName ++ " is not numeric"

/-- Matches the number that a value can be read as, in the form that a rounding gives it. -/
def matchNumber (k : Kind) (v : Value) (rounding : Double → Double) : MatchResult :=
  match v.asNumber? with
  | some n => .ok (.coerced (.number (rounding n)))
  | none => .error (.mismatch (.of (.kind k) v (some (notNumeric v))))

/-- Matches a value against a kind. -/
def matchValue (k : Kind) (v : Value) : MatchResult :=
  let accept (condition : Bool) : MatchResult := .acceptIf condition (.of (.kind k) v)
  match k with
  | any => accept !v.isUndefined
  | optional => accept v.isUndefined
  | undefined => accept v.isUndefined
  | void => accept v.isUndefined
  | null => accept v.isNull
  | string => accept (v matches .string _)
  | object => accept (v matches .object _ | .instance ..)
  | array => accept (v matches .array _)
  | function => accept (v matches .function ..)
  | strictBoolean => accept (v matches .bool _)
  | boolean => .ok (.coerced (.bool v.isTruthy))
  | int => matchNumber k v fun n => n.truncate.unsignedZero
  | roundInt => matchNumber k v fun n => n.roundHalfAway.unsignedZero
  | float => matchNumber k v id
  | number => matchNumber k v id
  | strictInt =>
    match v with
    | .number n =>
      .acceptIf n.isWhole (.of (.kind k) v (some "not a whole number"))
    | _ => .error (.mismatch (.of (.kind k) v))
  | strictFloat =>
    match v with
    | .number n => accept n.isFinite
    | _ => accept false

end Kind

/-! ## Other descriptors -/

/-- Matches the instances of a type. The message names the type as it was declared. -/
def NominalType.matchValue (n : NominalType) (v : Value) : MatchResult :=
  .acceptIf (v.isInstanceOf n.type) { expected := n.name, actual := v.describe }

/-- Matches values whose text matches, in the form of their text. -/
def Pattern.matchValue (p : Pattern) (v : Value) : MatchResult :=
  match v.asText? with
  | none => .error (.mismatch (.of (.pattern p) v (some "value has no string form")))
  | some text =>
    if p.isMatch text then .ok (.coerced (.string text))
    else .error (.mismatch (.of (.pattern p) v (some (Text.quoted text ++ " does not match"))))

/-- Matches values for which the predicate answers at once with something truthy. -/
def Predicate.matchValue (p : Predicate) (v : Value) : Traced MatchResult :=
  .ofRun { predicate := p, value := v } <|
    match p.check v with
    | .error fault => .error (.raised p.name fault)
    | .ok (.pending _) =>
      .error (.mismatch (.of (.predicate p) v (some "validators must be synchronous")))
    | .ok (.ready answer) =>
      .acceptIf answer.isTruthy
        (.of (.predicate p) v (some ("rejected by validator '" ++ p.name ++ "'")))

namespace Descriptor

mutual

/-- Matches a value against a descriptor. -/
def matchValue (v : Value) : Descriptor → Traced MatchResult
  | kind k => .pure (k.matchValue v)
  | nominal n => .pure (n.matchValue v)
  | pattern p => .pure (p.matchValue v)
  | predicate p => p.matchValue v
  | union members =>
    match v with
    | .undefined =>
      .pure (.acceptIf (anyPermitsAbsence members) (.of (.union members) v))
    | .null => .pure (.ok .accepted)
    | _ =>
      matchMembers v (.of (.union members) v (some "no member of the union matched")) members

/-- Accepts a value if one of the descriptors that do not permit absence matches it, and stops at
the first that does or that raises an error. -/
def matchMembers (v : Value) (otherwise : Mismatch) : List Descriptor → Traced MatchResult
  | [] => .pure (.error (.mismatch otherwise))
  | d :: ds =>
    if d.permitsAbsence then matchMembers v otherwise ds
    else
      (d.matchValue v).bind fun
        | .ok _ => .pure (.ok .accepted)
        | .error (.mismatch _) => matchMembers v otherwise ds
        | .error (.raised name fault) => .pure (.error (.raised name fault))

end

end Descriptor

/-! ## Results -/

/-- The error of a result that does not match. -/
def MatchError.atResult : MatchError → CallError
  | mismatch m => .returnTypeMismatch m
  | raised predicate fault => .predicateRaised .result predicate fault

/-- The error of an answer of the matcher, if it is one. -/
def MatchResult.checked : MatchResult → Except CallError Unit
  | .ok _ => .ok ()
  | .error e => .error e.atResult

namespace Descriptor

/-- Checks a result. -/
def checkResult (d : Descriptor) (v : Value) : Traced (Except CallError Unit) :=
  let mismatch : CallError := .returnTypeMismatch (.of d v)
  match d with
  | kind .optional => .pure (.ok ())
  | kind .undefined => .pure (.ok ())
  | kind .void => .pure (if v.isUndefined then .ok () else .error mismatch)
  | union members =>
    if v.isUndefined then
      .pure (if anyPermitsAbsence members then .ok () else .error mismatch)
    else (matchMembers v (.of d v) members).map MatchResult.checked
  | d => (d.matchValue v).map MatchResult.checked

end Descriptor

end CallContract
