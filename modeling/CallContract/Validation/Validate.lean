import CallContract.Validation.Match

/-!
# Validating a bag

The arguments of one call are a bag, the form in which they are validated: by name for the schemas
that name their fields, in order for the others. Coercions are written into the bag, and the
callback gets what the bag holds in the end.

Fields and positions are checked in the order in which they are declared, and the first violation
ends the validation. A value that matches in a canonical form is replaced by it at once, so a
failed validation leaves a bag in which the fields before the failing one are coerced.
-/

namespace CallContract

/-! ## Bags -/

/-- The arguments of a call. -/
inductive Bag where
  | named (fields : Dict Value)
  | ordered (values : List Value)

namespace Bag

/-- How a message names the form of a bag. -/
def shapeName : Bag → String
  | named _ => "named arguments"
  | ordered _ => "positional arguments"

/-- The number of values in a bag. -/
def size : Bag → Nat
  | named fields => fields.size
  | ordered values => values.length

/-- Equality of bags: the same form and equal values. -/
def equals : Bag → Bag → Bool
  | named a, named b => Value.equalFields a.entries b.entries
  | ordered a, ordered b => Value.equalItems a b
  | _, _ => false

/-- The bag of an object schema: the fields of the first argument. An absent first argument stands
for no fields. -/
def ofObject (args : List Value) : Except CallError Bag :=
  match args.head?.getD .undefined with
  | .undefined => .ok (named .empty)
  | .object fields => .ok (named (.ofList fields))
  | other =>
    .error (.typeMismatch (.position 0) { expected := "object", actual := other.describe })

/-- The bag of a schema for one value: the first argument under the name of the field, unless it is
absent. -/
def ofSingle (name : String) (args : List Value) : Bag :=
  match args.head?.getD .undefined with
  | .undefined => named .empty
  | v => named (Dict.empty.insert name v)

/-- The bag that a schema expects for the arguments of a call. -/
def ofCall (schema : Schema) (args : List Value) : Except CallError Bag :=
  match schema with
  | .object _ => ofObject args
  | .single field => .ok (ofSingle field.name args)
  | .positional _ => .ok (ordered args)
  | .zeroArg => .ok (ordered args)

/-- The arguments that the callback gets for a bag. -/
def toCallArgs (schema : Schema) (bag : Bag) : List Value :=
  match schema, bag with
  | .zeroArg, _ => []
  | .single field, named fields => [(fields.get? field.name).getD .undefined]
  | _, named fields => [.object fields.entries]
  | _, ordered values => values

end Bag

/-! ## One place -/

/-- What validation leaves: the bag, and the first violation if there is one. -/
structure Validated (α : Type) where
  bag : α
  outcome : Except CallError Unit

/-- Checks the value in one place. An absent value is acceptable if the descriptor permits absence,
and is never matched; the answer is the value to keep. -/
def checkSlot (slot : Slot) (d : Descriptor) (v : Value) : Traced (Except CallError Value) :=
  if v.isUndefined then
    .pure (if d.permitsAbsence then .ok v else .error (.missingRequired slot))
  else
    (d.matchValue v).map fun
      | .ok m => .ok (m.keep v)
      | .error e => .error (e.at slot)

/-! ## Named arguments -/

/-- The value of a field, `undefined` if it is missing. -/
def Dict.valueOf (d : Dict Value) (name : String) : Value := (d.get? name).getD .undefined

/-- Puts back a value that was checked. A missing field stays missing. -/
def Dict.keep (d : Dict Value) (name : String) (v : Value) : Dict Value :=
  if d.contains name then d.insert name v else d

/-- Checks the fields of a bag in order. -/
def validateFields : List Field → Dict Value → Traced (Validated (Dict Value))
  | [], bag => .pure { bag, outcome := .ok () }
  | f :: fs, bag =>
    (checkSlot (.field f.name) f.descriptor (bag.valueOf f.name)).bind fun
      | .ok v => validateFields fs (bag.keep f.name v)
      | .error e => .pure { bag, outcome := .error e }

/-! ## Ordered arguments -/

/-- Checks values position by position, from the given index on. Values without a descriptor are
left as they are. -/
def validatePositions (index : Nat) :
    List Descriptor → List Value → Traced (Validated (List Value))
  | d :: ds, v :: vs =>
    (checkSlot (.position index) d v).bind fun
      | .ok kept =>
        (validatePositions (index + 1) ds vs).map fun rest => { rest with bag := kept :: rest.bag }
      | .error e => .pure { bag := v :: vs, outcome := .error e }
  | _, values => .pure { bag := values, outcome := .ok () }

/-- Checks that there are enough values, and then the values. -/
def validateOrdered (ds : List Descriptor) (values : List Value) :
    Traced (Validated (List Value)) :=
  if values.length < ds.length then
    .pure { bag := values, outcome := .error (.arity ds.length values.length) }
  else validatePositions 0 ds values

/-! ## Any schema -/

/-- Validates a bag against a schema. -/
def Schema.validate (schema : Schema) (bag : Bag) : Traced (Validated Bag) :=
  match schema, bag with
  | .object fields, .named values =>
    (validateFields fields values).map fun r => { bag := .named r.bag, outcome := r.outcome }
  | .single field, .named values =>
    (validateFields [field] values).map fun r => { bag := .named r.bag, outcome := r.outcome }
  | .positional ds, .ordered values =>
    (validateOrdered ds values).map fun r => { bag := .ordered r.bag, outcome := r.outcome }
  | .zeroArg, .ordered values =>
    .pure { bag, outcome := if values.isEmpty then .ok () else .error (.arity 0 values.length) }
  | _, _ =>
    .pure
      { bag
        outcome := .error (.typeMismatch (.position 0)
          { expected := schema.kindName ++ " arguments", actual := bag.shapeName }) }

/-! ## Extra fields -/

/-- The names of the fields in a bag that a schema with named fields does not declare. -/
def extraNames (fields : List Field) (bag : Dict Value) : List String :=
  bag.keys.filter fun key => !fields.any fun f => f.name == key

/-- The fields of a bag that its schema does not declare, in ascending order of their names. -/
def Schema.extraFields (schema : Schema) (bag : Bag) : List String :=
  match schema, bag with
  | .object fields, .named values => extraNames fields values
  | .single field, .named values => extraNames [field] values
  | _, _ => []

end CallContract
