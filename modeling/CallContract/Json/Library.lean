import CallContract.Double.Text
import CallContract.Json.Reader

/-!
# The JSON library

A document is written compactly, without blanks.

What is asked of the library that writes and reads JSON. Which texts it writes, and which it reads,
is up to the library; where something is assumed of it, the assumption has a name and is stated with
the theorem that makes it. The printer and the reader of this project are one such library.
-/

namespace CallContract

/-! ## Writing -/

/-- The text of a number. -/
def JsonNumber.text : JsonNumber → String
  | integer i => toString i
  | float d => d.jsonText

namespace Json

/-- Texts with commas between them. -/
def joined (parts : List (List Char)) : List Char := [','].intercalate parts

mutual

/-- The characters of a document. -/
def chars : Json → List Char
  | null => ['n', 'u', 'l', 'l']
  | bool true => ['t', 'r', 'u', 'e']
  | bool false => ['f', 'a', 'l', 's', 'e']
  | number n => n.text.toList
  | string s => quoteChars s.toList
  | array items => '[' :: joined (itemChars items) ++ [']']
  | object fields => '\x7b' :: joined (fieldChars fields) ++ ['\x7d']

/-- The characters of each item of an array. -/
def itemChars : List Json → List (List Char)
  | [] => []
  | item :: items => chars item :: itemChars items

/-- The characters of each field of an object. -/
def fieldChars : List (String × Json) → List (List Char)
  | [] => []
  | (name, value) :: fields => (quoteChars name.toList ++ ':' :: chars value) :: fieldChars fields

end

/-- The text of a document. -/
def render (j : Json) : String := String.ofList j.chars

end Json

/-! ## The library -/

/-- A library that writes and reads JSON. -/
class JsonLibrary where
  /-- A text between quotes. -/
  quote : String → String
  /-- The text of a document. -/
  write : Json → String
  /-- The document that a text holds. -/
  read? : String → Option Json
  /-- The members of the object that a text holds, in the order of the text. The values of names
  that nobody asks for are skipped. -/
  readMembers? : (asked : String → Bool) → String → Option (List (String × Json))

namespace Json.Plain

/-- How the value of a name is read from a text of the given length. -/
def modeOf (asked : String → Bool) (textLength : Nat) (name : String) : ReadMode :=
  if asked name then inner else { lenient := true, depth := textLength }

/-- The printer and the reader of this project. -/
scoped instance library : JsonLibrary where
  quote := Json.quote
  write := Json.render
  read? := Json.read?
  readMembers? asked text := readObject? (modeOf asked text.length) text

end Json.Plain

end CallContract
