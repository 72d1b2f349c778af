import CallContract.Json.Basic
import CallContract.Json.Quoted

/-!
# Reading JSON

Strict JSON: one document, blanks around it, and nothing else. Numbers that are too large are
refused, and so is nesting beyond 127 levels. Fields whose values nobody asks for may be read
leniently: then numbers may be too large, halves of characters may stand alone, and nesting is
unlimited.

Every round takes at least one character or goes one level deeper for one, so twice the length of
the text bounds the number of rounds.
-/

namespace CallContract.Json

/-- Blanks between the parts of a document. -/
def isBlank (c : Char) : Bool := c = ' ' || c = '\n' || c = '\t' || c = '\r'

/-- The text without the blanks at its start. -/
def skipBlanks (cs : List Char) : List Char := cs.dropWhile isBlank

/-- How a value is read. -/
structure ReadMode where
  /-- Nobody asks for the value. -/
  lenient : Bool
  /-- The number of levels of nesting that are allowed. -/
  depth : Nat

/-- The mode one level deeper, if there may be one. -/
def ReadMode.deeper? (m : ReadMode) : Option ReadMode :=
  match m.depth with
  | 0 => none
  | depth + 1 => some { m with depth }

/-- Reads a number. -/
def readNumber (lenient : Bool) (cs : List Char) : Option (Json × List Char) := do
  let (parts, rest) ← splitNumber? cs
  match parts.number? with
  | some n => return (.number n, rest)
  | none => if lenient then return (.null, rest) else none

/-- The rest of a text behind a word at its start. -/
def readWord (word : List Char) (value : Json) (cs : List Char) : Option (Json × List Char) :=
  if word.isPrefixOf cs then some (value, cs.drop word.length) else none

mutual

/-- Reads a value. -/
def readValue : Nat → ReadMode → List Char → Option (Json × List Char)
  | 0, _, _ => none
  | fuel + 1, mode, cs =>
    match skipBlanks cs with
    | [] => none
    | 'n' :: r => readWord ['u', 'l', 'l'] .null r
    | 't' :: r => readWord ['r', 'u', 'e'] (.bool true) r
    | 'f' :: r => readWord ['a', 'l', 's', 'e'] (.bool false) r
    | '"' :: r => (readString mode.lenient r).map fun (s, rest) => (.string (String.ofList s), rest)
    | '[' :: r =>
      match mode.deeper?, skipBlanks r with
      | none, _ => none
      | some _, ']' :: r => some (.array [], r)
      | some mode, r => (readItems fuel mode r).map fun (items, rest) => (.array items, rest)
    | '\x7b' :: r =>
      match mode.deeper?, skipBlanks r with
      | none, _ => none
      | some _, '\x7d' :: r => some (.object [], r)
      | some mode, r =>
        (readMembers fuel mode.lenient (fun _ => mode) r).map fun (members, rest) =>
          (.object (lastFields members), rest)
    | c :: r => readNumber mode.lenient (c :: r)

/-- Reads the items of an array, of which there is at least one, up to and with the closing
bracket. -/
def readItems : Nat → ReadMode → List Char → Option (List Json × List Char)
  | 0, _, _ => none
  | fuel + 1, mode, cs =>
    match readValue fuel mode cs with
    | none => none
    | some (item, rest) =>
      match skipBlanks rest with
      | ',' :: r => (readItems fuel mode r).map fun (items, rest) => (item :: items, rest)
      | ']' :: r => some ([item], r)
      | _ => none

/-- Reads the members of an object, of which there is at least one, up to and with the closing
brace. Each value is read in the mode for its name. -/
def readMembers :
    Nat → (lenientNames : Bool) → (modeOf : String → ReadMode) → List Char →
      Option (List (String × Json) × List Char)
  | 0, _, _, _ => none
  | fuel + 1, lenientNames, modeOf, cs =>
    match skipBlanks cs with
    | '"' :: r =>
      match readString lenientNames r with
      | none => none
      | some (name, r) =>
        match skipBlanks r with
        | ':' :: r =>
          match readValue fuel (modeOf (String.ofList name)) r with
          | none => none
          | some (value, rest) =>
            match skipBlanks rest with
            | ',' :: r =>
              (readMembers fuel lenientNames modeOf r).map fun (members, rest) =>
                ((String.ofList name, value) :: members, rest)
            | '\x7d' :: r => some ([(String.ofList name, value)], r)
            | _ => none
        | _ => none
    | _ => none

end

/-- The number of levels that a document can be nested. -/
def depthLimit : Nat := 127

/-- How values that matter are read. -/
def strict : ReadMode := { lenient := false, depth := depthLimit }

/-- Enough rounds for a text. -/
def roundsFor (cs : List Char) : Nat := 2 * cs.length + 2

/-- What was read, if only blanks follow. -/
def atEnd {α : Type} : Option (α × List Char) → Option α
  | some (a, rest) => if (skipBlanks rest).isEmpty then some a else none
  | none => none

/-- The document that a text holds. -/
def read? (text : String) : Option Json :=
  let cs := text.toList
  atEnd (readValue (roundsFor cs) strict cs)

/-- The mode for values inside the outermost object or array. -/
def inner : ReadMode := { lenient := false, depth := depthLimit - 1 }

/-- The members of the object that a text holds, read in the mode for each name. -/
def readObject? (modeOf : String → ReadMode) (text : String) : Option (List (String × Json)) :=
  match skipBlanks text.toList with
  | '\x7b' :: r =>
    match skipBlanks r with
    | '\x7d' :: r => atEnd (some ([], r))
    | r => atEnd (readMembers (roundsFor r) false modeOf r)
  | _ => none

end CallContract.Json
