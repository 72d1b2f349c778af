import CallContract.Dict
import CallContract.Double.Basic

/-!
# Dynamic values

The values that guarded functions take and return. Functions, instances of host types and symbols
are opaque here: a value holds what can be seen of one, its name or its type, and an identity by
which it is compared. The code behind a function belongs to whoever made the value and is found by
that identity. Types are compared by an identity of their own, for their names may be the same.

Code that a caller supplies, a predicate or a callback, is a function here: what it answers depends
on its arguments alone, and it calls no guard and touches no counter while it runs. What such code
fails with is opaque, a message and an identity.
-/

namespace CallContract

/-- A type of the host program: its full path, and the identity by which it is told from others. -/
structure HostType where
  path : String
  identity : Nat
  deriving DecidableEq

/-- A dynamic value. -/
inductive Value where
  /-- The marker of an absent value. -/
  | undefined
  | null
  | bool (b : Bool)
  | number (n : Double)
  | string (s : String)
  | array (items : List Value)
  /-- Fields in ascending order of their names. -/
  | object (fields : List (String × Value))
  | function (name : String) (identity : Nat)
  /-- A value of a host type. -/
  | instance (type : HostType) (identity : Nat)
  | symbol (description : String) (identity : Nat)

instance : Inhabited Value := ⟨.undefined⟩

/-! ## Type names -/

/-- What follows the last double colon. -/
def afterColons (found : List Char) : List Char → List Char
  | ':' :: ':' :: r => afterColons r r
  | _ :: r => afterColons found r
  | [] => found

/-- The name of a type without the path to it: what follows the last double colon that stands
before the first angle bracket. -/
def unqualified (typePath : String) : String :=
  let path := typePath.toList
  let outer := path.takeWhile (· != '<')
  String.ofList (afterColons outer outer ++ path.drop outer.length)

/-- The name of a type. -/
def HostType.name (t : HostType) : String := unqualified t.path

namespace Value

/-- The number nearest to an integer. -/
def ofInt (i : Int) : Value := .number (.ofInt i)

/-- An object with the given fields, of those with the same name the last. -/
def ofFields (fields : List (String × Value)) : Value := .object (Dict.ofList fields).entries

/-- The name of the kind of a value. -/
def kindName : Value → String
  | undefined => "undefined"
  | null => "null"
  | bool _ => "boolean"
  | number _ => "number"
  | string _ => "string"
  | array _ => "array"
  | object _ => "object"
  | function .. => "function"
  | .instance .. => "object"
  | symbol .. => "symbol"

/-- What a message says was there: the type of an instance, and else the kind. -/
def describe : Value → String
  | .instance type _ => type.name
  | v => v.kindName

/-! ## Parts of a value -/

def isUndefined : Value → Bool
  | undefined => true
  | _ => false

def isNull : Value → Bool
  | null => true
  | _ => false

def toNumber? : Value → Option Double
  | number n => some n
  | _ => none

/-- The integer that a number stands for without doubt. -/
def toInt? : Value → Option Int
  | number n => n.toInt?
  | _ => none

def toString? : Value → Option String
  | string s => some s
  | _ => none

def toBool? : Value → Option Bool
  | bool b => some b
  | _ => none

/-- The fields of an object. -/
def toFields? : Value → Option (Dict Value)
  | object fields => some (Dict.ofList fields)
  | _ => none

def toItems? : Value → Option (List Value)
  | array items => some items
  | _ => none

/-- The field of an object; a missing field and a field of anything else are undefined. -/
def get (v : Value) (key : String) : Value := (v.toFields?.bind (·.get? key)).getD undefined

/-- The value is an instance of a type. -/
def isInstanceOf (t : HostType) : Value → Bool
  | .instance type _ => type.identity == t.identity
  | _ => false

/-! ## Equality -/

mutual

/-- Equality of values: of numbers as numbers, of opaque values by identity, of the others by
their parts. -/
def equals : Value → Value → Bool
  | undefined, undefined => true
  | null, null => true
  | bool a, bool b => a == b
  | number a, number b => a.equals b
  | string a, string b => a == b
  | array as, array bs => equalItems as bs
  | object as, object bs => equalFields as bs
  | function _ a, function _ b => a == b
  | .instance _ a, .instance _ b => a == b
  | symbol _ a, symbol _ b => a == b
  | _, _ => false

/-- Equality of lists of values, item by item. -/
def equalItems : List Value → List Value → Bool
  | [], [] => true
  | a :: as, b :: bs => equals a b && equalItems as bs
  | _, _ => false

/-- Equality of fields, with equal names in the same order. -/
def equalFields : List (String × Value) → List (String × Value) → Bool
  | [], [] => true
  | (k, a) :: as, (l, b) :: bs => k == l && equals a b && equalFields as bs
  | _, _ => false

end

end Value

/-! ## Supplied code -/

/-- A failure of code that a caller supplied. Nothing is looked at but the message, and nothing else
is made of it. -/
structure Fault where
  message : String
  identity : Nat
  deriving DecidableEq

/-- How supplied code ends: with a value or with a failure. -/
abbrev Outcome := Except Fault Value

/-- What supplied code answers. -/
inductive Output where
  /-- A value, at once. -/
  | ready (value : Value)
  /-- A promise that settles later, once and always in the same way. -/
  | pending (settled : Outcome)

/-- The code behind function values, by identity. -/
abbrev FunctionBodies := Nat → List Value → Value

/-- Calls a function value; other values cannot be called. -/
def Value.call? (bodies : FunctionBodies) (args : List Value) : Value → Option Value
  | function _ identity => some (bodies identity args)
  | _ => none

end CallContract
