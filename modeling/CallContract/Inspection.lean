import CallContract.Double.Text
import CallContract.Guard.Basic
import CallContract.Text.Quoted

/-!
# Inspection

How the structure of a thing is shown to a programmer: a name with parts in parentheses, a record
with named fields, a list, a map. In these forms values are shown and what supplied code answers;
descriptors, schemas and contracts; guards, and answers of the matcher.
-/

namespace CallContract

/-! ## Forms -/

namespace Inspection

/-- Parts with a comma and a space between them. -/
def parts (ps : List String) : String := String.intercalate ", " ps

/-- A name with a part. -/
def tagged (name part : String) : String := name ++ "(" ++ part ++ ")"

/-- A list. -/
def list (items : List String) : String := "[" ++ parts items ++ "]"

/-- A map from quoted keys. -/
def map (entries : List (String × String)) : String :=
  "\x7b" ++ parts (entries.map fun e => Text.quoted e.1 ++ ": " ++ e.2) ++ "\x7d"

/-- A record. -/
def record (name : String) (fields : List (String × String)) : String :=
  name ++ " \x7b " ++ parts (fields.map fun f => f.1 ++ ": " ++ f.2) ++ " \x7d"

/-- A record of which not all fields are shown. -/
def openRecord (name : String) (fields : List (String × String)) : String :=
  name ++ " \x7b " ++ parts (fields.map (fun f => f.1 ++ ": " ++ f.2) ++ [".."]) ++ " \x7d"

/-- Something that may be missing. -/
def optional {α : Type} (inspect : α → String) : Option α → String
  | some a => tagged "Some" (inspect a)
  | none => "None"

/-- A truth value. -/
def bool (b : Bool) : String := if b then "true" else "false"

end Inspection

/-! ## Values -/

namespace Value

mutual

/-- A value as it is shown. -/
def inspect : Value → String
  | undefined => "undefined"
  | null => "null"
  | bool b => Inspection.bool b
  | number n => n.plainText
  | string s => Text.quoted s
  | array items => Inspection.list (inspectItems items)
  | object fields => Inspection.map (inspectFields fields)
  | function name _ => "[function " ++ name ++ "]"
  | .instance type _ => "[" ++ type.name ++ " instance]"
  | symbol description _ => "Symbol(" ++ description ++ ")"

/-- The items of an array as they are shown. -/
def inspectItems : List Value → List String
  | [] => []
  | item :: items => inspect item :: inspectItems items

/-- The fields of an object as they are shown. -/
def inspectFields : List (String × Value) → List (String × String)
  | [] => []
  | (name, value) :: fields => (name, inspect value) :: inspectFields fields

end

end Value

/-- What supplied code answers, as it is shown. -/
def Output.inspect : Output → String
  | ready v => Inspection.tagged "Ready" v.inspect
  | pending _ => "Pending(..)"

/-- A reply as it is shown. -/
def Reply.inspect : Reply → String
  | ready v => Inspection.tagged "Ready" v.inspect
  | pending .. => "Pending(..)"

/-! ## Contracts -/

open Inspection

/-- The name of a kind as it is shown. -/
def Kind.inspect : Kind → String
  | string => "String"
  | boolean => "Boolean"
  | strictBoolean => "StrictBoolean"
  | object => "Object"
  | array => "Array"
  | function => "Function"
  | null => "Null"
  | any => "Any"
  | optional => "Optional"
  | undefined => "Undefined"
  | int => "Int"
  | roundInt => "RoundInt"
  | strictInt => "StrictInt"
  | float => "Float"
  | number => "Number"
  | strictFloat => "StrictFloat"
  | void => "Void"

namespace Descriptor

mutual

/-- A descriptor as it is shown. -/
def inspect : Descriptor → String
  | kind k => tagged "Kind" k.inspect
  | nominal n => tagged "Nominal" (tagged "NominalType" (Text.quoted n.name))
  | pattern p =>
    tagged "Pattern" (record "Pattern" [("regex", tagged "Regex" (Text.quoted p.source))])
  | predicate p => tagged "Predicate" (tagged "Predicate" (Text.quoted p.name))
  | union members => tagged "Union" (list (inspectMembers members))

/-- The members of a union as they are shown. -/
def inspectMembers : List Descriptor → List String
  | [] => []
  | d :: ds => inspect d :: inspectMembers ds

end

end Descriptor

/-- A field as it is shown. -/
def Field.inspect (f : Field) : String :=
  record "FieldDef" [("name", Text.quoted f.name), ("descriptor", f.descriptor.inspect)]

/-- A schema as it is shown. -/
def Schema.inspect : Schema → String
  | object fields => tagged "Object" (list (fields.map Field.inspect))
  | positional ds => tagged "Positional" (list (ds.map Descriptor.inspect))
  | single f => tagged "Single" f.inspect
  | zeroArg => "ZeroArg"

/-- A configuration as it is shown. -/
def Config.inspect (c : Config) : String :=
  record "GuardConfig" [("name", optional Text.quoted c.name), ("quiet", optional bool c.quiet)]

/-- A contract as it is shown. -/
def Contract.inspect (c : Contract) : String :=
  record "Contract"
    [("schema", c.schema.inspect), ("returns", optional Descriptor.inspect c.returns),
      ("config", c.config.inspect)]

/-- A guard as it is shown. -/
def Guard.inspect (g : Guard) : String := openRecord "Guard" [("contract", g.contract.inspect)]

/-- Counters as they are shown. -/
def Metrics.inspect (m : Metrics) : String :=
  record "GuardMetrics" (m.entries.map fun e => (e.1, toString e.2))

/-- A channel as it is shown, with the counters it has in a ledger. -/
def Channel.inspect (c : Channel) (l : Ledger) : String :=
  openRecord "Diagnostics"
    [("config", c.config.inspect), ("metrics", (l.metrics c.counters).inspect)]

/-- A mismatch as it is shown. -/
def Mismatch.inspect (m : Mismatch) : String :=
  record "Mismatch"
    [("expected", Text.quoted m.expected), ("actual", Text.quoted m.actual),
      ("reason", optional Text.quoted m.reason)]

/-- An answer of the matcher as it is shown. -/
def MatchResult.inspect : MatchResult → String
  | .ok .accepted => "Ok(Accepted)"
  | .ok (.coerced v) => tagged "Ok" (tagged "Coerced" v.inspect)
  | .error (.mismatch m) => tagged "Err" (tagged "Mismatch" m.inspect)
  | .error (.raised predicate fault) =>
    tagged "Err" (record "Raised"
      [("predicate", Text.quoted predicate), ("source", Text.quoted fault.message)])

end CallContract
