import CallContract.Pattern.Basic
import CallContract.Value.Basic

/-!
# Schemas

What the arguments of a call are expected to be, in one of four calling conventions, and what each
field, each position or the result of a call is expected to be.

Some of the primitive kinds that a descriptor can name are checked as they are, some coerce, and
three of them, the absence markers, stand for the absence of a value.
-/

namespace CallContract

/-! ## Kinds -/

/-- A primitive kind. -/
inductive Kind where
  | string
  /-- Coerces by truthiness. -/
  | boolean
  | strictBoolean
  | object
  | array
  | function
  | null
  /-- Any value that is present. -/
  | any
  | optional
  /-- Another name for `optional`. -/
  | undefined
  /-- A number whose fraction is dropped. -/
  | int
  /-- A number rounded to a whole one. -/
  | roundInt
  | strictInt
  | float
  /-- Another name for `float`. -/
  | number
  | strictFloat
  | void
  deriving DecidableEq

namespace Kind

/-- All kinds. -/
def all : List Kind :=
  [string, boolean, strictBoolean, object, array, function, null, any, optional, undefined, int,
    roundInt, strictInt, float, number, strictFloat, void]

/-- The name of a kind in a schema. -/
def name : Kind → String
  | string => "string"
  | boolean => "boolean"
  | strictBoolean => "strictboolean"
  | object => "object"
  | array => "array"
  | function => "function"
  | null => "null"
  | any => "any"
  | optional => "optional"
  | undefined => "undefined"
  | int => "int"
  | roundInt => "roundint"
  | strictInt => "strictint"
  | float => "float"
  | number => "number"
  | strictFloat => "strictfloat"
  | void => "void"

/-- The kind with a name. -/
def ofName? (name : String) : Option Kind := all.find? fun k => k.name == name

/-- The kinds that stand for the absence of a value. -/
def isAbsenceMarker : Kind → Bool
  | optional => true
  | undefined => true
  | void => true
  | _ => false

end Kind

/-! ## Descriptors -/

/-- A test for instances of one type. -/
structure NominalType where
  type : HostType
  /-- The name that messages show. -/
  name : String
  deriving DecidableEq

namespace NominalType

/-- The test for a type, under the type's own name. -/
def ofType (type : HostType) : NominalType := { type, name := type.name }

end NominalType

/-- A test supplied by the caller. It can fail instead of answering, and is expected to answer at
once. -/
structure Predicate where
  name : String
  check : Value → Except Fault Output

namespace Predicate

/-- The predicate that a plain test makes. -/
def ofTest (name : String) (test : Value → Bool) : Predicate :=
  { name, check := fun v => .ok (.ready (.bool (test v))) }

end Predicate

/-- The expected form of a value. -/
inductive Descriptor where
  | kind (k : Kind)
  | nominal (n : NominalType)
  | pattern (p : Pattern)
  | predicate (p : Predicate)
  /-- One of the members. Schemas are normalized into unions that are flat and not empty. -/
  | union (members : List Descriptor)

namespace Descriptor

instance : Inhabited Descriptor := ⟨.kind .any⟩

/-- The descriptor is a union. -/
def isUnion : Descriptor → Bool
  | union _ => true
  | _ => false

mutual

/-- An absent value is acceptable: an absence marker, or a union with such a member. -/
def permitsAbsence : Descriptor → Bool
  | kind k => k.isAbsenceMarker
  | union members => anyPermitsAbsence members
  | _ => false

/-- Some descriptor of the list permits absence. -/
def anyPermitsAbsence : List Descriptor → Bool
  | [] => false
  | d :: ds => permitsAbsence d || anyPermitsAbsence ds

end

theorem anyPermitsAbsence_eq_any (ds : List Descriptor) :
    anyPermitsAbsence ds = ds.any permitsAbsence := by
  induction ds with
  | nil => rfl
  | cons d ds ih => simp [anyPermitsAbsence, ih]

mutual

/-- The descriptor as it is written in a schema. -/
def text : Descriptor → String
  | kind k => k.name
  | nominal n => n.name
  | pattern p => "/" ++ p.source ++ "/"
  | predicate p => "<" ++ p.name ++ ">"
  | union members => String.intercalate " | " (texts members)

/-- The texts of the descriptors of a list. -/
def texts : List Descriptor → List String
  | [] => []
  | d :: ds => text d :: texts ds

end

end Descriptor

/-! ## Schemas -/

/-- A named field. -/
structure Field where
  name : String
  descriptor : Descriptor

/-- The expected form of the arguments. -/
inductive Schema where
  /-- One object with named fields, in the order in which they are checked. -/
  | object (fields : List Field)
  /-- At least as many arguments as there are descriptors. -/
  | positional (descriptors : List Descriptor)
  /-- One value, which the callback gets as it is; in messages it goes by the name of a field. -/
  | single (field : Field)
  /-- No arguments. -/
  | zeroArg

namespace Schema

/-- The name of the only field of a schema for one value, unless it is named otherwise. -/
def singleFieldName : String := "value"

/-- The name of the calling convention. -/
def kindName : Schema → String
  | object _ => "object"
  | positional _ => "positional"
  | single _ => "single"
  | zeroArg => "zero-arg"

/-- The first field of a name. -/
def field? (s : Schema) (name : String) : Option Field :=
  match s with
  | object fields => fields.find? fun f => f.name == name
  | single f => if f.name = name then some f else none
  | positional _ => none
  | zeroArg => none

end Schema

end CallContract
