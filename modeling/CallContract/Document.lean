import CallContract.Contract
import CallContract.Json.Library

/-!
# Contract documents

Configurations and contracts as JSON. Settings that are null or missing are unset, and unset ones
are left out in writing. Fields of other names are ignored, and a field that means something must
not come twice. In a schema strings are names, arrays are lists, and objects are mappings in the
order of the document; booleans and numbers have no meaning as schemas.
-/

namespace CallContract

/-! ## Schemas -/

namespace RawSchema

mutual

/-- The schema that a document stands for. -/
def ofJson : Json → RawSchema
  | .null => null
  | .bool b => unsupported ("boolean " ++ if b then "true" else "false")
  | .number n => unsupported ("number " ++ n.text)
  | .string s => name s
  | .array items => list (ofJsonItems items)
  | .object fields => map (ofJsonFields fields)

/-- The schemas of the items of an array. -/
def ofJsonItems : List Json → List RawSchema
  | [] => []
  | item :: items => ofJson item :: ofJsonItems items

/-- The schemas of the fields of an object. -/
def ofJsonFields : List (String × Json) → List (String × RawSchema)
  | [] => []
  | (field, value) :: fields => (field, ofJson value) :: ofJsonFields fields

end

end RawSchema

/-! ## Settings -/

namespace Json

/-- The value of a field, of which there must be no more than one. -/
def onlyField? (members : List (String × Json)) (name : String) : Option (Option Json) :=
  match members.filter fun m => m.1 == name with
  | [] => some none
  | [m] => some (some m.2)
  | _ => none

/-- A setting that holds a text. -/
def toTextSetting? : Option Json → Option (Option String)
  | none => some none
  | some null => some none
  | some (string s) => some (some s)
  | some _ => none

/-- A setting that holds a truth value. -/
def toFlagSetting? : Option Json → Option (Option Bool)
  | none => some none
  | some null => some none
  | some (bool b) => some (some b)
  | some _ => none

/-- A setting that holds any document but null. -/
def toSetting : Option Json → Option Json
  | some null => none
  | setting => setting

end Json

/-! ## Configurations -/

namespace Config

/-- The configuration in the members of an object. -/
def ofMembers? (members : List (String × Json)) : Option Config := do
  let name ← Json.toTextSetting? (← Json.onlyField? members "name")
  let quiet ← Json.toFlagSetting? (← Json.onlyField? members "quiet")
  return { name, quiet }

/-- The configuration in the items of an array: the name and the quiet setting, of which the last
ones may be missing. -/
def ofItems? (items : List Json) : Option Config := do
  if 2 < items.length then none
  else
    let name ← Json.toTextSetting? items[0]?
    let quiet ← Json.toFlagSetting? items[1]?
    return { name, quiet }

/-- Reads a configuration: an object, or an array of its settings. -/
def read? [JsonLibrary] (text : String) : Option Config :=
  match JsonLibrary.readMembers? (fun name => name == "name" || name == "quiet") text with
  | some members => ofMembers? members
  | none =>
    match JsonLibrary.read? text with
    | some (.array items) => ofItems? items
    | _ => none

/-- The fields of a configuration. -/
def toMembers (c : Config) : List (String × Json) :=
  (c.name.map fun s => ("name", Json.string s)).toList ++
    (c.quiet.map fun b => ("quiet", Json.bool b)).toList

/-- The configuration as a document. -/
def toJson (c : Config) : Json := .object c.toMembers

end Config

/-! ## Contracts -/

/-- A contract as it is written in a file. -/
structure ContractDocument where
  /-- The parameters; null stands for none. -/
  params : Json := .null
  returns : Option Json := none
  config : Config := {}

namespace ContractDocument

/-- The contract document in the members of an object. -/
def ofMembers? (members : List (String × Json)) : Option ContractDocument := do
  let params ← Json.onlyField? members "params"
  let returns ← Json.onlyField? members "returns"
  let config ← Config.ofMembers? members
  return { params := params.getD .null, returns := Json.toSetting returns, config }

/-- Reads a contract document, which is an object. All of its values are read, for those that are no
fields of its own may be fields of its configuration. -/
def read? [JsonLibrary] (text : String) : Option ContractDocument :=
  (JsonLibrary.readMembers? (fun _ => true) text).bind ofMembers?

/-- The document as JSON. -/
def toJson (d : ContractDocument) : Json :=
  .object (("params", d.params) :: (d.returns.map fun r => ("returns", r)).toList ++
    d.config.toMembers)

/-- The text of a contract document. -/
def write [JsonLibrary] (d : ContractDocument) : String := JsonLibrary.write d.toJson

/-- The contract that the document describes. -/
def compile [PatternCompiler] (d : ContractDocument) : Except ConfigError Contract :=
  Contract.ofRaw (.ofJson d.params) (d.returns.map .ofJson) d.config

end ContractDocument

end CallContract
