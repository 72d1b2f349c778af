import CallContract.Unicode.Property

/-!
# Quoted text

Text between double quotes, as messages and inspections show it. Quotes and backslashes are
escaped, and so is every character that would not be seen as itself: controls, blanks other than
the space, format characters, code points without a character, and characters that extend the one
before them.
-/

namespace CallContract.Text

/-- Code points that are not shown as themselves. -/
def hidden : Unicode.CharSet :=
  (Unicode.categories ["cc", "cf", "co", "zl", "zp", "zs"] ∪ Unicode.unassigned ∪
    Unicode.binary "graphemeextend") \ Unicode.CharSet.singleton ' '

/-- The character is shown as itself. -/
def isShown (c : Char) : Bool :=
  if c.toNat < 0x80 then 0x20 ≤ c.toNat && c.toNat < 0x7F else !hidden.containsChar c

/-- A character by its number, in lower-case hexadecimal digits between braces. -/
def numberedChar (c : Char) : List Char :=
  ['\\', 'u', '\x7b'] ++ Nat.toDigits 16 c.toNat ++ ['\x7d']

/-- One character of quoted text. -/
def quotedChar (c : Char) : List Char :=
  match c with
  | '\x00' => ['\\', '0']
  | '\t' => ['\\', 't']
  | '\r' => ['\\', 'r']
  | '\n' => ['\\', 'n']
  | '\\' => ['\\', '\\']
  | '"' => ['\\', '"']
  | c => if isShown c then [c] else numberedChar c

/-- The text between quotes. -/
def quoted (s : String) : String := String.ofList ('"' :: s.toList.flatMap quotedChar ++ ['"'])

end CallContract.Text
