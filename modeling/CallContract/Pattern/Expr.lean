/-!
# Regular expressions as written

The form of a regular expression before its flags are applied and its classes are looked up. One
constructor stands for one construct of the notation, so that how deeply an expression is nested
is counted here.
-/

namespace CallContract.Pattern

/-- The flags that a group can set. -/
inductive Flag where
  | caseInsensitive
  | multiLine
  | dotMatchesNewLine
  | swapGreed
  | unicode
  | crlf
  | ignoreBlanks
  deriving DecidableEq

/-- A flag and whether it is switched on. -/
structure FlagSetting where
  flag : Flag
  on : Bool
  deriving DecidableEq

/-- Conditions on a position, as written. -/
inductive Anchor where
  /-- `^` -/
  | lineStart
  /-- `$` -/
  | lineEnd
  /-- `\A` -/
  | textStart
  /-- `\z` -/
  | textEnd
  /-- `\b` -/
  | wordBoundary
  /-- `\B` -/
  | noWordBoundary
  /-- `\<` and its longer spelling -/
  | wordStart
  /-- `\>` and its longer spelling -/
  | wordEnd
  /-- No word character before the position. -/
  | wordStartHalf
  /-- No word character after the position. -/
  | wordEndHalf
  deriving DecidableEq

/-- One character; `byte` says that it was written with two hexadecimal digits, which is the only
way to write a byte. -/
structure Literal where
  char : Char
  byte : Bool := false
  deriving DecidableEq

/-- The classes written with a backslash and a letter. -/
inductive ShortClass where
  | digit
  | space
  | word
  deriving DecidableEq

/-- The classes written with a name between colons. -/
inductive AsciiClass where
  | alnum | alpha | ascii | blank | cntrl | digit | graph | lower | print | punct | space | upper
  | word | xdigit
  deriving DecidableEq

/-- How a Unicode class is asked for. -/
inductive PropertyQuery where
  /-- A bare name, such as `Greek`. -/
  | named (name : String)
  /-- A property and its value, such as `sc=Greek`. -/
  | valued (property value : String)
  deriving DecidableEq

/-- The operations between the operands of a bracketed class. -/
inductive SetOperation where
  | intersection
  | difference
  | symmetricDifference
  deriving DecidableEq

/-- What can stand between brackets. -/
inductive ClassExpr where
  | empty
  | literal (l : Literal)
  | range (first last : Literal)
  | ascii (negated : Bool) (kind : AsciiClass)
  | short (negated : Bool) (kind : ShortClass)
  | property (negated : Bool) (query : PropertyQuery)
  | bracketed (negated : Bool) (body : ClassExpr)
  | union (left right : ClassExpr)
  | operation (op : SetOperation) (left right : ClassExpr)

/-- A regular expression as written. -/
inductive Expr where
  | empty
  | flags (settings : List FlagSetting)
  | literal (l : Literal)
  | dot
  | anchor (a : Anchor)
  | short (negated : Bool) (kind : ShortClass)
  | property (negated : Bool) (query : PropertyQuery)
  | bracketed (negated : Bool) (body : ClassExpr)
  | repetition (body : Expr) (least : Nat) (most : Option Nat)
  | group (settings : List FlagSetting) (body : Expr)
  | sequence (left right : Expr)
  | alternatives (left right : Expr)

/-! ## Nesting -/

/-- How deeply a class is nested. A union of many items counts once, so `inUnion` says that the
class is a part of a union that has been counted. -/
def ClassExpr.depth (inUnion : Bool) : ClassExpr → Nat
  | bracketed _ body => body.depth false + 1
  | union left right =>
    max (left.depth true) (right.depth true) + (if inUnion then 0 else 1)
  | operation _ left right => max (left.depth false) (right.depth false) + 1
  | _ => 0

/-- The many-part constructs, which count once however many parts they have. -/
inductive Compound where
  | none
  | sequence
  | alternatives
  deriving DecidableEq

/-- How deeply an expression is nested, as a part of the given construct. -/
def Expr.depth (within : Compound) : Expr → Nat
  | bracketed _ body => body.depth false + 1
  | repetition body _ _ => body.depth .none + 1
  | group _ body => body.depth .none + 1
  | sequence left right =>
    max (left.depth .sequence) (right.depth .sequence) + (if within = .sequence then 0 else 1)
  | alternatives left right =>
    max (left.depth .alternatives) (right.depth .alternatives) +
      (if within = .alternatives then 0 else 1)
  | _ => 0

/-- Expressions nested more deeply are refused. -/
def nestLimit : Nat := 250

end CallContract.Pattern
