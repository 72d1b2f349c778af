import CallContract.Unicode.AgeTable
import CallContract.Unicode.CategoryTable
import CallContract.Unicode.PropertyTable
import CallContract.Unicode.ScriptTable

/-!
# Character properties by name

The set of characters that a property name stands for: a general category or a group of them, a
binary property, a script, the scripts that share a character, or the age of a character. Names
are compared without regard to case, spaces, hyphens and underscores.
-/

namespace CallContract.Unicode

/-! ## Names -/

/-- Drops a leading `is`, in any case. -/
def dropIs : List Char → List Char
  | i :: s :: r => if (i = 'i' ∨ i = 'I') ∧ (s = 's' ∨ s = 'S') then r else i :: s :: r
  | r => r

/-- The form in which names are compared: lower case, without spaces, underscores and hyphens,
without characters outside ASCII and without a leading `is`. The name `isc` keeps its `is`, for
it is not the category `c`. -/
def looseName (name : String) : String :=
  let kept := (dropIs name.toList).filter fun c =>
    c.toNat < 0x80 && c != ' ' && c != '_' && c != '-'
  let loose := String.ofList (kept.map Char.toLower)
  if dropIs name.toList ≠ name.toList ∧ loose = "c" then "isc" else loose

/-- The row of a table that goes by a name. -/
def findSet? (rows : List NamedSet) (name : String) : Option NamedSet :=
  rows.find? fun row => row.names.contains name

/-! ## General categories -/

/-- The characters of one category, by its short or long name. -/
def singleCategory? (name : String) : Option CharSet :=
  (findSet? categoryRows name).map fun row => CharSet.ofTable row.text

/-- The union of some categories, given by short names. -/
def categories (names : List String) : CharSet := CharSet.unions (names.filterMap singleCategory?)

/-- Code points that are surrogates. -/
def surrogates : CharSet := CharSet.range 0xD800 0xDFFF

/-- The characters of some category. -/
def assigned : CharSet := CharSet.unions (categoryRows.map fun row => CharSet.ofTable row.text)

/-- The characters of no category. -/
def unassigned : CharSet := (assigned ∪ surrogates).complement

/-- The groups of categories. -/
def categoryGroup? (name : String) : Option (List String) :=
  match name with
  | "lc" | "casedletter" => some ["lu", "ll", "lt"]
  | "l" | "letter" => some ["lu", "ll", "lt", "lm", "lo"]
  | "m" | "mark" | "combiningmark" => some ["mn", "mc", "me"]
  | "n" | "number" => some ["nd", "nl", "no"]
  | "p" | "punctuation" | "punct" => some ["pc", "pd", "ps", "pe", "pi", "pf", "po"]
  | "s" | "symbol" => some ["sm", "sc", "sk", "so"]
  | "z" | "separator" => some ["zs", "zl", "zp"]
  | _ => none

/-- The characters of a category or group of categories. The surrogates are no category here,
since no text holds one. -/
def category? (name : String) : Option CharSet :=
  match name with
  | "any" => some CharSet.all
  | "ascii" => some (CharSet.range 0 0x7F)
  | "assigned" => some assigned
  | "cn" | "unassigned" => some unassigned
  | "c" | "other" => some (categories ["cc", "cf", "co"] ∪ unassigned)
  | _ =>
    match categoryGroup? name with
    | some members => some (categories members)
    | none => singleCategory? name

/-! ## Binary properties -/

/-- The characters of a row of the property table. -/
def PropertyRow.chars (row : PropertyRow) : CharSet :=
  (Unicode.categories row.categories ∪ CharSet.ofTable row.also) \ CharSet.ofTable row.except

/-- The characters with a binary property. -/
def binary? (name : String) : Option CharSet :=
  (propertyRows.find? fun row => row.names.contains name).map PropertyRow.chars

/-- The characters with a binary property, and none for a name that is not in the table. -/
def binary (name : String) : CharSet := (binary? name).getD CharSet.empty

/-! ## Scripts and ages -/

/-- The characters of a script. -/
def script? (name : String) : Option CharSet :=
  (findSet? scriptRows name).map fun row => CharSet.ofTable row.text

/-- The characters used in a script, alone or together with other scripts. -/
def scriptExtensions? (name : String) : Option CharSet :=
  (findSet? scriptRows name).map fun row =>
    let own := CharSet.ofTable row.text
    if row.names.contains "common" || row.names.contains "inherited" then
      own \ CharSet.ofTable unsharedText
    else
      own ∪ CharSet.unions ((sharedRows.filter fun shared => shared.names.any row.names.contains).map
        fun shared => CharSet.ofTable shared.text)

/-- The characters assigned in a version of Unicode or before it. -/
def age? (name : String) : Option CharSet :=
  let older := ageRows.takeWhile fun row => !row.names.contains name
  match findSet? ageRows name with
  | some row => some (CharSet.unions ((older ++ [row]).map fun r => CharSet.ofTable r.text))
  | none => none

/-! ## Queries -/

/-- The characters that a bare name stands for: a binary property, a category or a script. -/
def named? (name : String) : Option CharSet :=
  let loose := looseName name
  (binary? loose).or ((category? loose).or (script? loose))

/-- The characters for which a property has a value. -/
def valued? (property value : String) : Option CharSet :=
  let value := looseName value
  match looseName property with
  | "gc" | "generalcategory" => category? value
  | "sc" | "script" => script? value
  | "scx" | "scriptextensions" => scriptExtensions? value
  | "age" => age? value
  | _ => none

end CallContract.Unicode
