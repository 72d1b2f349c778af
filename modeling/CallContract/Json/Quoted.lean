import CallContract.Double.Numeral

/-!
# Strings in JSON

How a text is written between quotes, and how it is read back. Quotes, backslashes and control
characters are escaped in writing, and nothing else is.
-/

namespace CallContract.Json

/-! ## Writing -/

/-- A control character by its number. -/
def controlChar (c : Char) : List Char :=
  ['\\', 'u', '0', '0', Nat.digitChar (c.toNat / 16), Nat.digitChar (c.toNat % 16)]

/-- One character of a string. -/
def escapeChar (c : Char) : List Char :=
  if c = '"' then ['\\', '"']
  else if c = '\\' then ['\\', '\\']
  else if c = '\x08' then ['\\', 'b']
  else if c = '\x0c' then ['\\', 'f']
  else if c = '\n' then ['\\', 'n']
  else if c = '\r' then ['\\', 'r']
  else if c = '\t' then ['\\', 't']
  else if c.toNat < 0x20 then controlChar c
  else [c]

/-- A string as it is written. -/
def quoteChars (cs : List Char) : List Char := '"' :: cs.flatMap escapeChar ++ ['"']

/-- A string as it is written. -/
def quote (s : String) : String := String.ofList (quoteChars s.toList)

/-! ## Reading -/

/-- The number that four hexadecimal digits denote. -/
def hexNumber? (a b c d : Char) : Option Nat := do
  let a ← digitValue? 16 a
  let b ← digitValue? 16 b
  let c ← digitValue? 16 c
  let d ← digitValue? 16 d
  return 0x1000 * a + 0x100 * b + 0x10 * c + d

/-- The number is the first half of a character above U+FFFF. -/
def isHighHalf (n : Nat) : Bool := 0xD800 ≤ n && n < 0xDC00

/-- The number is the second half of a character above U+FFFF. -/
def isLowHalf (n : Nat) : Bool := 0xDC00 ≤ n && n < 0xE000

/-- The character that two halves make. -/
def joinHalves (high low : Nat) : Char :=
  Char.ofNat (0x10000 + 0x400 * (high - 0xD800) + (low - 0xDC00))

/-- The character that a backslash and a letter stand for. -/
def shortEscape? : Char → Option Char
  | '"' => some '"'
  | '\\' => some '\\'
  | '/' => some '/'
  | 'b' => some '\x08'
  | 'f' => some '\x0c'
  | 'n' => some '\n'
  | 'r' => some '\r'
  | 't' => some '\t'
  | _ => none

/-- A part of a string as it is written: a character, by itself or behind a backslash, or a number
in four hexadecimal digits. -/
inductive StringPart where
  | char (c : Char)
  | number (n : Nat)
  deriving DecidableEq

/-- Reads the rest of a string behind its first quote, up to and with the last one. -/
def readParts : List Char → Option (List StringPart × List Char)
  | [] => none
  | '"' :: r => some ([], r)
  | '\\' :: 'u' :: a :: b :: c :: d :: r => do
    let n ← hexNumber? a b c d
    let (parts, rest) ← readParts r
    return (.number n :: parts, rest)
  | '\\' :: c :: r => do
    let c ← shortEscape? c
    let (parts, rest) ← readParts r
    return (.char c :: parts, rest)
  | c :: r =>
    if c.toNat < 0x20 ∨ c = '\\' then none
    else (readParts r).map fun (parts, rest) => (.char c :: parts, rest)

/-- The characters of some parts, behind the first half of a character if there is one. It must come
with the other half; where the text of a string does not matter (`lenient`), either half may stand
alone. -/
def joinParts (lenient : Bool) : (high : Option Nat) → List StringPart → Option (List Char)
  | none, [] => some []
  | none, .char c :: parts => (joinParts lenient none parts).map (c :: ·)
  | none, .number n :: parts =>
    if lenient then (joinParts lenient none parts).map ('\ufffd' :: ·)
    else if isHighHalf n then joinParts lenient (some n) parts
    else if isLowHalf n then none
    else (joinParts lenient none parts).map (Char.ofNat n :: ·)
  | some high, .number n :: parts =>
    if isLowHalf n then (joinParts lenient none parts).map (joinHalves high n :: ·) else none
  | some _, _ => none

/-- Reads the rest of a string behind its first quote, up to and with the last one. A half of a
character must come with the other half, unless the text does not matter (`lenient`). -/
def readString (lenient : Bool) (cs : List Char) : Option (List Char × List Char) := do
  let (parts, rest) ← readParts cs
  let text ← joinParts lenient none parts
  return (text, rest)

end CallContract.Json
