import CallContract.Guard.Basic

/-!
# Sessions

A guard in use. A session starts with one guard, of which clones can be made. The guards and the
calls of a session are numbered in the order in which they come about. The reply of a call is held
until it is settled or dropped, and only one of the two happens to it, once. Calls are made at any
time and replies are settled in any order, so a session is any interleaving of the two.

An operation on something that is not there changes nothing.

Any guards can be in use in one process. Calls are made of them and replies are settled, as in a
session of one guard; a bag can be validated that no call has made, whatever its form is; and the
global quiet setting can be changed between any two of these.
-/

namespace CallContract

/-- What has become of the reply of a call. -/
inductive Fate where
  | held
  | dropped
  | settled (result : Except CallError Value)

/-- The reply has been settled. -/
def Fate.isSettled : Fate → Bool
  | settled _ => true
  | _ => false

/-- A call that has been made. -/
structure Call where
  args : List Value
  /-- What the call has handed back. -/
  answer : Except CallError Reply
  fate : Fate := .held

/-- The guards and the calls of a session. -/
structure Session where
  ledger : Ledger
  guards : List Guard
  calls : List Call := []
  /-- The arguments that have been validated without a call. -/
  validations : List (List Value) := []

/-- What can be done in a session. Guards and calls go by their numbers. -/
inductive Operation where
  | call (guard : Nat) (args : List Value)
  | validate (guard : Nat) (args : List Value)
  | resolve (call : Nat)
  | drop (call : Nat)
  | clone (guard : Nat)

namespace Session

/-- The session of a guard, before anything is done. -/
def opened (g : Guard) (l : Ledger) : Session := { ledger := l, guards := [g] }

/-- The reply that is held of a call. -/
def held? (s : Session) (call : Nat) : Option Reply :=
  match s.calls[call]? with
  | some { answer := .ok reply, fate := .held, .. } => some reply
  | _ => none

/-- Says what has become of the reply of a call. -/
def decide (s : Session) (call : Nat) (fate : Fate) : Session :=
  { s with calls := s.calls.modify call fun c => { c with fate } }

/-- Does one operation. -/
def step (s : Session) : Operation → Session
  | .call guard args =>
    match s.guards[guard]? with
    | none => s
    | some g =>
      let (answer, ledger) := g.call args s.ledger
      { s with ledger, calls := s.calls ++ [{ args, answer }] }
  | .validate guard args =>
    match s.guards[guard]? with
    | none => s
    | some g =>
      { s with ledger := (g.validate args s.ledger).2, validations := s.validations ++ [args] }
  | .resolve call =>
    match s.held? call with
    | none => s
    | some reply =>
      let (result, ledger) := reply.resolve s.ledger
      { s with ledger }.decide call (.settled result)
  | .drop call =>
    match s.held? call with
    | none => s
    | some _ => s.decide call .dropped
  | .clone guard =>
    match s.guards[guard]? with
    | none => s
    | some g => { s with guards := s.guards ++ [g] }

/-- Does some operations, in order. -/
def run (s : Session) (ops : List Operation) : Session := ops.foldl step s

end Session

/-! ## Histories -/

/-- What can happen where guards are in use. Guards and calls go by their numbers. -/
inductive Event where
  | operation (op : Operation)
  /-- A bag is validated against the schema of a guard, through the channel of that guard. -/
  | validateBag (guard : Nat) (bag : Bag)
  /-- The global quiet setting is changed. -/
  | setQuiet (on : Bool)

/-- Something is done with a guard or a call. -/
def Event.isAction : Event → Bool
  | operation _ => true
  | validateBag .. => true
  | setQuiet _ => false

/-- Changes the global quiet setting. -/
def Ledger.setQuiet (l : Ledger) (on : Bool) : Ledger := { l with globalQuiet := on }

namespace Session

/-- The session of some guards, before anything is done. -/
def started (guards : List Guard) (l : Ledger) : Session := { ledger := l, guards }

/-- What is left of a session after an event. -/
def handle (s : Session) : Event → Session
  | .operation op => s.step op
  | .validateBag guard bag =>
    match s.guards[guard]? with
    | none => s
    | some g => { s with ledger := (g.channel.validate g.contract.schema bag s.ledger).2 }
  | .setQuiet on => { s with ledger := s.ledger.setQuiet on }

/-- What is left of a session after some events, in order. -/
def play (s : Session) (events : List Event) : Session := events.foldl handle s

end Session

end CallContract
