import CallContract.Dict
import CallContract.Document
import CallContract.FileTree

/-!
# Contract registries

Contracts by name, read from the JSON files of a directory. A document without a name goes by the
name of its file. Every document is compiled as soon as it is read. Files are loaded in ascending
order of their names and the first error ends the loading; what was loaded before it stays.

In a history documents are registered and files are loaded, one by one or all those of the
directory. Each step finds the files as they are at its moment, and a step that fails does not keep
others from being made.
-/

namespace CallContract

/-- Contracts by name, and the directory they are read from. -/
structure Registry where
  directory : Path
  contracts : Table Contract

/-- Names in ascending order. -/
def sortNames (names : List String) : List String := names.mergeSort fun a b => a ≤ b

namespace Registry

/-- The registry of a directory from which nothing has been read. -/
def ofDirectory (directory : Path) : Registry := { directory, contracts := .empty }

/-- The contract of a name. -/
def get? (r : Registry) (name : String) : Option Contract := r.contracts.get? name

/-- The registered names, ascending. -/
def names (r : Registry) : List String := sortNames r.contracts.keys

/-- The number of registered contracts. -/
def size (r : Registry) : Nat := r.contracts.size

/-- Of the names in a directory those of JSON files, ascending. -/
def documentNames (names : List String) : List String :=
  sortNames (names.filter fun name => Path.extension? name == some "json")

/-- The document with the given name, if it has none. -/
def named (d : ContractDocument) (name : Option String) : ContractDocument :=
  { d with config := { d.config with name := d.config.name.or name } }

/-- The document in the file at a path. -/
def readDocument [JsonLibrary] (files : FileTree) (path : Path) :
    Except ConfigError ContractDocument :=
  match (files.find? path).bind FileTree.text? with
  | none => .error (.unreadable (Path.text path))
  | some text =>
    match ContractDocument.read? text with
    | none => .error (.malformed (Path.text path))
    | some d => .ok (named d (Path.stem? path))

variable [PatternCompiler]

/-- Registers a document under its display name, which must be new; answers the contract. -/
def register (r : Registry) (d : ContractDocument) : Except ConfigError Contract × Registry :=
  let name := d.config.displayName
  if r.contracts.contains name then (.error (.duplicateContract name), r)
  else
    match d.compile with
    | .error e => (.error e, r)
    | .ok contract =>
      let (registered, contracts) := r.contracts.orInsert name contract
      (.ok registered, { r with contracts })

variable [JsonLibrary]

/-- Loads the file at a path; answers the contract. -/
def loadFile (r : Registry) (files : FileTree) (path : Path) :
    Except ConfigError Contract × Registry :=
  match readDocument files path with
  | .error e => (.error e, r)
  | .ok d => r.register d

/-- Loads files of the directory, in the given order, until one of them fails. -/
def loadNames (r : Registry) (files : FileTree) : List String → Except ConfigError Unit × Registry
  | [] => (.ok (), r)
  | name :: names =>
    match r.loadFile files (Path.child r.directory name) with
    | (.ok _, r) => r.loadNames files names
    | (.error e, r) => (.error e, r)

/-- Loads every JSON file of the directory. A missing directory holds none. -/
def loadAll (r : Registry) (files : FileTree) : Except ConfigError Unit × Registry :=
  match files.find? r.directory with
  | none => (.ok (), r)
  | some found =>
    match found.names? with
    | none => (.error (.unreadable (Path.text r.directory)), r)
    | some names => r.loadNames files (documentNames names)

end Registry

/-! ## Histories -/

/-- What can be done with a registry. The files are those of the moment. -/
inductive RegistryStep where
  | register (d : ContractDocument)
  | loadFile (files : FileTree) (path : Path)
  | loadAll (files : FileTree)

/-- The step is about one contract. -/
def RegistryStep.isSingle : RegistryStep → Bool
  | register _ => true
  | loadFile _ _ => true
  | loadAll _ => false

namespace Registry

variable [PatternCompiler] [JsonLibrary]

/-- Does one step; answers the contract of a step that is about one. -/
def step (r : Registry) : RegistryStep → Except ConfigError (Option Contract) × Registry
  | .register d =>
    let (result, r') := r.register d
    (result.map some, r')
  | .loadFile files path =>
    let (result, r') := r.loadFile files path
    (result.map some, r')
  | .loadAll files =>
    let (result, r') := r.loadAll files
    (result.map fun _ => none, r')

/-- The registry after some steps, in order, whether they succeed or not. -/
def run (r : Registry) (steps : List RegistryStep) : Registry :=
  steps.foldl (fun r s => (r.step s).2) r

end Registry

end CallContract
