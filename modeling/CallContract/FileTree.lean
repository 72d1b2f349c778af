/-!
# File trees

The files that contracts are read from, as data: a directory lists its entries in some order, and
a file holds bytes, which may or may not be text.
-/

namespace CallContract

/-- A path, as the names along it. An empty last name stands for a slash at the end. -/
abbrev Path := List String

namespace Path

/-- The path of an entry of the directory at a path. -/
def child (p : Path) (name : String) : Path :=
  (if p.getLast? = some "" then p.dropLast else p) ++ [name]

/-- The path has no names, and no text. -/
def isBlank (p : Path) : Bool := p = [] || p = [""]

/-- The path as messages show it. -/
def text (p : Path) : String := "/".intercalate p

/-- The name of a file split at its last point: the stem, and the extension if there is one. A
point at the very start does not count. -/
def splitName (name : String) : String × Option String :=
  let reversed := name.toList.reverse
  let extension := (reversed.takeWhile (· != '.')).reverse
  match reversed.dropWhile (· != '.') with
  | '.' :: c :: stem =>
    if name = ".." then (name, none)
    else (String.ofList (c :: stem).reverse, some (String.ofList extension))
  | _ => (name, none)

/-- The extension of the name of a file. -/
def extension? (name : String) : Option String := (splitName name).2

/-- The last name along a path without its extension. -/
def stem? (p : Path) : Option String := p.getLast?.map fun name => (splitName name).1

end Path

/-- A file or a directory. -/
inductive FileTree where
  | file (content : ByteArray)
  /-- The entries in the order in which they are listed. -/
  | directory (entries : List (String × FileTree))

instance : Inhabited FileTree := ⟨.directory []⟩

namespace FileTree

/-- What a path leads to from a directory, given the directories above, the nearest one first. One
point stays in a directory, two points lead to the one above. -/
def walk (above : List FileTree) (t : FileTree) : Path → Option FileTree
  | [] => some t
  | name :: path =>
    match t with
    | file _ => none
    | directory entries =>
      if name = "" ∨ name = "." then walk above t path
      else if name = ".." then
        match above with
        | [] => walk [] t path
        | parent :: above => walk above parent path
      else (entries.lookup name).bind fun child => walk (t :: above) child path

/-- The file or directory at a path. There is none at the empty path. -/
def find? (t : FileTree) (path : Path) : Option FileTree :=
  if path.isBlank then none else t.walk [] path

/-- The text of a file. Directories have none, and neither have files of other bytes. -/
def text? : FileTree → Option String
  | file content => String.fromUTF8? content
  | directory _ => none

/-- The names in a directory, as they are listed. -/
def names? : FileTree → Option (List String)
  | directory entries => some (entries.map (·.1))
  | file _ => none

/-- Puts a tree at a path. Directories on the way are made, and an entry that is there is
replaced. -/
def put (t new : FileTree) : Path → FileTree
  | [] => new
  | name :: path =>
    let entries := match t with
      | directory entries => entries
      | file _ => []
    let child := ((entries.lookup name).getD (directory [])).put new path
    if entries.any (·.1 == name) then
      directory (entries.map fun e => if e.1 = name then (name, child) else e)
    else directory (entries ++ [(name, child)])

/-- Makes a directory at a path, unless there is one. -/
def makeDirectory (t : FileTree) (path : Path) : FileTree :=
  if ((t.find? path).bind names?).isSome then t else t.put (directory []) path

/-- Takes away the entry at a path. -/
def remove (t : FileTree) : Path → FileTree
  | [] => t
  | [name] =>
    match t with
    | directory entries => directory (entries.filter (·.1 != name))
    | file content => file content
  | name :: path =>
    match t with
    | directory entries =>
      directory (entries.map fun e => if e.1 = name then (name, e.2.remove path) else e)
    | file content => file content

end FileTree

end CallContract
