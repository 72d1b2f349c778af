import CallContract.Schema.Basic
import CallContract.Schema.Error

/-!
# Schemas as written

The form in which callers write schemas, and its normalization. Nothing at all stands for no
arguments; a name, a descriptor or a list of these for positions; a mapping for fields. Within a
position or a field a list is a union.
-/

namespace CallContract

variable [PatternCompiler]

/-- A schema as a caller writes it. -/
inductive RawSchema where
  | undefined
  | null
  /-- The explicit marker of no arguments. -/
  | noArgs
  /-- The name of a kind, or a pattern between slashes. -/
  | name (text : String)
  | descriptor (d : Descriptor)
  | list (items : List RawSchema)
  /-- Entries in the order in which they are declared. -/
  | map (entries : List (String × RawSchema))
  /-- Something that is no schema, described for the message. -/
  | unsupported (shape : String)

instance : Inhabited RawSchema := ⟨.undefined⟩

namespace Descriptor

/-- The union of some members, which are no unions themselves and of which there is one. -/
def union? (members : List Descriptor) : Except ConfigError Descriptor :=
  if members.isEmpty then .error .emptyUnion
  else if members.any isUnion then .error .nestedUnion
  else .ok (.union members)

/-- The source of a pattern: what stands between a slash at the start and another one at the
end. -/
def patternSource? (name : String) : Option String :=
  match name.toList with
  | '/' :: rest => if rest.getLast? = some '/' then some (String.ofList rest.dropLast) else none
  | _ => none

/-- The descriptor that a name stands for: a pattern between slashes, or a kind. -/
def ofName (name : String) : Except ConfigError Descriptor :=
  match patternSource? name with
  | some source =>
    match Pattern.ofSource? source with
    | some p => .ok (.pattern p)
    | none => .error (.invalidPattern source)
  | none =>
    match Kind.ofName? name with
    | some k => .ok (.kind k)
    | none => .error (.unknownKind name)

end Descriptor

namespace RawSchema

/-- A member of a union, which is no union. -/
def toMember (field : String) : RawSchema → Except ConfigError Descriptor
  | name text => Descriptor.ofName text
  | descriptor d => if d.isUnion then .error .nestedUnion else .ok d
  | list _ => .error .nestedUnion
  | map _ => .error (.nestedObject field)
  | unsupported shape => .error (.unsupported shape)
  | undefined => .error (.misplaced .undefined)
  | null => .error (.misplaced .null)
  | noArgs => .error (.misplaced .noArgs)

/-- The descriptor of a field, or of a position or result if the name is empty. A given descriptor
is taken as it is. -/
def toDescriptorOf (field : String) : RawSchema → Except ConfigError Descriptor
  | descriptor d => .ok d
  | list members => do Descriptor.union? (← members.mapM (toMember field))
  | raw => raw.toMember field

/-- The descriptor of a position or of the result. -/
def toDescriptor (raw : RawSchema) : Except ConfigError Descriptor := raw.toDescriptorOf ""

/-- The fields of an object. `seen` are the names of the fields before; that a name is repeated is
noticed before its descriptor is looked at. -/
def toFields (seen : List String) : List (String × RawSchema) → Except ConfigError (List Field)
  | [] => .ok []
  | (field, raw) :: entries => do
    if seen.contains field then throw (.duplicateField field)
    let d ← raw.toDescriptorOf field
    return { name := field, descriptor := d } :: (← toFields (field :: seen) entries)

/-- The schema that a caller has written. -/
def normalize : RawSchema → Except ConfigError Schema
  | undefined => .ok .zeroArg
  | null => .ok .zeroArg
  | noArgs => .ok .zeroArg
  | list [] => .ok .zeroArg
  | list items => do return .positional (← items.mapM toDescriptor)
  | name text => do return .positional [← (name text).toDescriptor]
  | descriptor d => .ok (.positional [d])
  | map entries => do return .object (← toFields [] entries)
  | unsupported shape => .error (.unsupported shape)

end RawSchema

end CallContract
